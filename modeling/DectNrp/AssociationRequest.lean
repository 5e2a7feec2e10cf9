import DectNrp.AssociationFields

namespace DectNrp

/-!
# Association request message

An association request has four fixed octets, one octet for each flow, and up
to two optional parts.  The number of flows is taken from the first octet, and
flows that are read are inserted into a set.  Of the two beacon periods that
share an octet, the network beacon period is masked by bits that the octet
does not have.
-/

open FieldFormat (channel_size optionalSize_eq)
open OctetReader (eval_bind eval_octet eval_pure within_bind within_octet)
open CodedEnumeration (toUnderlying fromCodedValue)

/-- Why a device asks for an association. -/
inductive SetupCause where
  | notDefined
  | initial
  | newSetOfFlowsRequested
  | mobility
  | errorOccurred
  | ownOperatingChannelChanged
  | operatingModeChanged
  | other
  | upper
  deriving Repr, DecidableEq

instance : CodedEnumeration SetupCause where
  toUnderlying
    | .notDefined => undefinedNumeric32
    | .initial => 0
    | .newSetOfFlowsRequested => 1
    | .mobility => 2
    | .errorOccurred => 3
    | .ownOperatingChannelChanged => 4
    | .operatingModeChanged => 5
    | .other => 6
    | .upper => 7
  notDefined := .notDefined
  lower := none
  upper := .upper
  codes :=
    [.initial, .newSetOfFlowsRequested, .mobility, .errorOccurred,
      .ownOperatingChannelChanged, .operatingModeChanged, .other]

/-- What a device in FT mode announces. -/
structure FtConfiguration where
  networkBeaconPeriod : NetworkBeaconPeriod
  clusterBeaconPeriod : ClusterBeaconPeriod
  nextClusterChannel : UInt32
  timeToNext : UInt32
  deriving Repr, DecidableEq

namespace FtConfiguration

def isValid (ftConfig : FtConfiguration) : Bool :=
  if ! CodedEnumeration.isValid ftConfig.networkBeaconPeriod then false
  else if ! CodedEnumeration.isValid ftConfig.clusterBeaconPeriod then
    false
  else if ! isAbsoluteChannelNumberInRange ftConfig.nextClusterChannel then
    false
  else true

/-- The periods that an octet stands for; the mask is that of a word. -/
def periodsOfOctet
    (octet : UInt8) :
    NetworkBeaconPeriod × ClusterBeaconPeriod :=
  (fromCodedValue (octet.toUInt32 &&& 0xF0000000),
    fromCodedValue (BitFields.extract octet 0 0b1111))

/-- Both periods in one octet. -/
def periods :
    FieldFormat (NetworkBeaconPeriod × ClusterBeaconPeriod) where
  size := 1
  write field address memory :=
    (memory.assign address (toUnderlying field.1 <<< 4)).assignOr address
      (toUnderlying field.2)
  read address := do
    let octet ← OctetReader.octet address
    pure (periodsOfOctet octet)
  code field :=
    [(toUnderlying field.1 <<< 4).toUInt8 |||
      (toUnderlying field.2).toUInt8]
  code_length _ := rfl
  write_eq _ _ _ := by
    rw [Memory.assign_eq_write, Memory.assignOr_front]
  read_within _ _ _ inside := ⟨inside, trivial⟩

/-- The periods, the next channel and the time to it. -/
def format : FieldFormat FtConfiguration :=
  (periods.paired
    (FieldFormat.channel.paired (FieldFormat.word 4))).mapped
    (fun ftConfig =>
      ((ftConfig.networkBeaconPeriod, ftConfig.clusterBeaconPeriod),
        ftConfig.nextClusterChannel, ftConfig.timeToNext))
    fun field => ⟨field.1.1, field.1.2, field.2.1, field.2.2⟩

@[simp] theorem format_size :
    format.size = 7 :=
  rfl

/-- Every octet is taken for the shortest network beacon period. -/
theorem periodsOfOctet_fst (octet : UInt8) :
    (periodsOfOctet octet).1 = .ms50 := by
  revert octet
  apply BitFields.forall_octet
  decide +kernel

theorem periods_recovers
    {cluster : ClusterBeaconPeriod}
    (valid : CodedEnumeration.isValid cluster = true) :
    periods.Recovers (.ms50, cluster) := by
  intro memory address holds
  have isOctet := Memory.holds_singleton.mp holds
  change periodsOfOctet (memory address) = _
  rw [isOctet]
  revert valid
  cases cluster <;> decide

/-- A valid configuration with the shortest period is recovered. -/
theorem recovers
    {ftConfig : FtConfiguration}
    (valid : ftConfig.isValid = true)
    (shortest : ftConfig.networkBeaconPeriod = .ms50) :
    format.Recovers ftConfig := by
  simp only [isValid, Bool.if_false_left, Bool.and_true,
    Bool.and_eq_true, Bool.not_eq_true', decide_eq_false_iff_not,
    Bool.not_eq_false] at valid
  obtain ⟨-, cluster, channel⟩ := valid
  refine FieldFormat.mapped_recovers rfl (FieldFormat.paired_recovers ?_
      (FieldFormat.paired_recovers (FieldFormat.channel_recovers channel)
        (FieldFormat.word_recovers_four _)))
  rw [shortest]
  exact periods_recovers cluster

theorem valueAt_networkBeaconPeriod
    (memory : Memory)
    (address : Nat) :
    (format.valueAt memory address).networkBeaconPeriod = .ms50 :=
  periodsOfOctet_fst (memory address)

/-- What is received is checked by its second period and its channel. -/
theorem valueAt_isValid_iff
    (memory : Memory)
    (address : Nat) :
    (format.valueAt memory address).isValid = true ↔
      memory address &&& 15 ≤ 10 ∧
        isAbsoluteChannelNumberInRange
          (FieldFormat.channel.valueAt memory (address + 1)) = true := by
  have network (octet : UInt8) :
      CodedEnumeration.isValid (periodsOfOctet octet).1 = true := by
    rw [periodsOfOctet_fst]
    rfl
  have cluster (octet : UInt8) :
      CodedEnumeration.isValid (periodsOfOctet octet).2 = true ↔
        octet &&& 15 ≤ 10 := by
    revert octet
    apply BitFields.forall_octet
    decide +kernel
  have isPeriods :
      periods.valueAt memory address = periodsOfOctet (memory address) :=
    rfl
  simp only [isValid, Bool.if_false_left, Bool.and_true,
    Bool.and_eq_true, Bool.not_eq_true', decide_eq_false_iff_not,
    Bool.not_eq_false]
  simp only [format, FieldFormat.mapped_valueAt,
    FieldFormat.paired_valueAt, isPeriods, network, cluster, true_and]
  rfl

end FtConfiguration

structure AssociationRequestMessage where
  setupCause : SetupCause
  flowIds : KeyedSet FlowId.key
  hasPowerConstraints : Bool
  ftConfiguration : Option FtConfiguration
  currentClusterChannel : Option UInt32
  harqConfigurationTx : HarqConfiguration
  harqConfigurationRx : HarqConfiguration
  deriving DecidableEq

namespace AssociationRequestMessage

def isValid (message : AssociationRequestMessage) : Bool :=
  if ! CodedEnumeration.isValid message.setupCause then false
  else if message.flowIds.elements.isEmpty ||
      ! message.flowIds.elements.all fun flowId =>
        CodedEnumeration.isValid flowId then
    false
  else if message.ftConfiguration.any
      fun ftConfig => ! ftConfig.isValid then
    false
  else if message.currentClusterChannel.any
      fun channel => ! isAbsoluteChannelNumberInRange channel then
    false
  else if ! message.harqConfigurationTx.isValid then false
  else if ! message.harqConfigurationRx.isValid then false
  else true

def getPackedSize (message : AssociationRequestMessage) : Checked Nat := do
  dectnrpAssert message.isValid "association request message is not valid"
  pure (4 + message.flowIds.elements.length +
    message.ftConfiguration.isSome.toNat * 7 +
    message.currentClusterChannel.isSome.toNat * 2)

/-- Size of a message whose first two octets are known. -/
def sizeByFlags (octet0 octet1 : UInt8) : Nat :=
  4 + nFlows octet0 + (octet0 &&& 1).toNat * 7 +
    (octet1 >>> 7).toNat * 2

def getPackedSizeByPeeking
    (macPduOffset : Nat) :
    OctetReader PeekResult := do
  let octet0 ← OctetReader.octet macPduOffset
  if nFlows octet0 < 0b111 then do
    let octet1 ← OctetReader.octet (macPduOffset + 1)
    pure (.ok (sizeByFlags octet0 octet1))
  else pure (.error .nonreservedFieldSetToReserved)

def pack
    (message : AssociationRequestMessage)
    (macPduOffset : Nat)
    (memory : Memory) :
    Checked Memory := do
  dectnrpAssert message.isValid "association request message is not valid"
  -- octet 0
  let memory := memory.assign macPduOffset
    (toUnderlying message.setupCause <<< 5)
  let memory := memory.assignOr macPduOffset
    (UInt32.ofNat message.flowIds.elements.length <<< 2)
  let memory := memory.assignOr macPduOffset
    (message.hasPowerConstraints.toUInt32 <<< 1)
  let memory := memory.assignOr macPduOffset
    message.ftConfiguration.isSome.toUInt32
  -- octet 1
  let memory := memory.assign (macPduOffset + 1)
    (message.currentClusterChannel.isSome.toUInt32 <<< 7)
  -- octets 2 and 3
  let state := HarqConfiguration.format.pack macPduOffset
    message.harqConfigurationTx (2, memory)
  let state := HarqConfiguration.format.pack macPduOffset
    message.harqConfigurationRx state
  -- fields starting from octet 4
  let state := FlowId.format.packAll macPduOffset
    message.flowIds.elements state
  let state := FtConfiguration.format.packOptional macPduOffset
    message.ftConfiguration state
  let (offset, memory) := FieldFormat.channel.packOptional macPduOffset
    message.currentClusterChannel state
  assertPeeked ((getPackedSizeByPeeking macPduOffset).eval memory) offset
  pure memory

/-- Read the fields of a message; all fields are overwritten. -/
def unpack
    (macPduOffset : Nat) :
    OctetReader (AssociationRequestMessage × Nat) := do
  let octet0 ← OctetReader.octet macPduOffset
  let octet1 ← OctetReader.octet (macPduOffset + 1)
  let (tx, offset) ← HarqConfiguration.format.unpack macPduOffset 2
  let (rx, offset) ← HarqConfiguration.format.unpack macPduOffset offset
  let (flowIds, offset) ←
    FlowId.format.unpackAll macPduOffset (nFlows octet0) offset
  let (ftConfiguration, offset) ←
    FtConfiguration.format.unpackOptional macPduOffset
      (octet0 &&& 1 != 0) offset
  let (currentClusterChannel, offset) ←
    FieldFormat.channel.unpackOptional macPduOffset
      (octet1 >>> 7 != 0) offset
  pure
    ({ setupCause := fromCodedValue (octet0.toUInt32 >>> 5)
       flowIds := KeyedSet.ofList flowIds
       hasPowerConstraints := octet0 &&& 0b10 != 0
       ftConfiguration := ftConfiguration
       currentClusterChannel := currentClusterChannel
       harqConfigurationTx := tx
       harqConfigurationRx := rx }, offset)

/-- Nothing of the object that unpacks a message is kept. -/
def codec : MmieCodec AssociationRequestMessage where
  isValid message := .ok message.isValid
  getPackedSize := getPackedSize
  pack := pack
  getPackedSizeMinToPeek := 2
  getPackedSizeByPeeking _ := getPackedSizeByPeeking
  unpack _ octets macPduOffset :=
    unpackRead getPackedSize (fun message => .ok message.isValid)
      (unpack macPduOffset) octets
  SameContext _ _ := True
  sameContext_refl _ := trivial

/-- The checks of a message. -/
theorem isValid_iff (message : AssociationRequestMessage) :
    message.isValid = true ↔
      CodedEnumeration.isValid message.setupCause = true ∧
      message.flowIds.elements ≠ [] ∧
      (∀ flowId ∈ message.flowIds.elements,
        CodedEnumeration.isValid flowId = true) ∧
      (∀ ftConfig ∈ message.ftConfiguration, ftConfig.isValid = true) ∧
      (∀ channel ∈ message.currentClusterChannel,
        isAbsoluteChannelNumberInRange channel = true) ∧
      message.harqConfigurationTx.isValid = true ∧
      message.harqConfigurationRx.isValid = true := by
  simp only [isValid, Bool.if_false_left, Bool.and_true,
    Bool.and_eq_true, Bool.not_eq_true', decide_eq_false_iff_not,
    Bool.not_eq_false, Bool.or_eq_true, not_or, List.isEmpty_iff,
    List.all_eq_true, and_assoc, Option.any_eq_true, not_exists, not_and,
    Option.mem_def, ne_eq]

/-- The first octet. -/
def octet0Of
    (setupCause : SetupCause)
    (nofFlows : Nat)
    (hasPowerConstraints ft : Bool) :
    UInt8 :=
  (toUnderlying setupCause <<< 5).toUInt8 |||
    (UInt32.ofNat nofFlows <<< 2).toUInt8 |||
    (hasPowerConstraints.toUInt32 <<< 1).toUInt8 ||| ft.toUInt32.toUInt8

def code (message : AssociationRequestMessage) : List UInt8 :=
  [octet0Of message.setupCause message.flowIds.elements.length
      message.hasPowerConstraints message.ftConfiguration.isSome,
    (message.currentClusterChannel.isSome.toUInt32 <<< 7).toUInt8] ++
    HarqConfiguration.format.code message.harqConfigurationTx ++
    HarqConfiguration.format.code message.harqConfigurationRx ++
    FlowId.format.allCode message.flowIds.elements ++
    FtConfiguration.format.optionalCode message.ftConfiguration ++
    FieldFormat.channel.optionalCode message.currentClusterChannel

theorem code_length (message : AssociationRequestMessage) :
    message.code.length =
      4 + message.flowIds.elements.length +
        message.ftConfiguration.isSome.toNat * 7 +
        message.currentClusterChannel.isSome.toNat * 2 := by
  simp only [code, List.length_append, FieldFormat.optionalCode_length,
    optionalSize_eq, FieldFormat.code_length,
    FieldFormat.allCode_length, FlowId.format_size,
    HarqConfiguration.format_size, FtConfiguration.format_size,
    channel_size, List.length_cons, List.length_nil]
  omega

/-- The fields of the first octet are found where they were placed. -/
theorem octet0_recovered
    {setupCause : SetupCause}
    (valid : CodedEnumeration.isValid setupCause = true)
    {nofFlows : Nat}
    (few : nofFlows ≤ 6)
    (hasPowerConstraints ft : Bool) :
    let octet0 := octet0Of setupCause nofFlows hasPowerConstraints ft
    fromCodedValue (octet0.toUInt32 >>> 5) = setupCause ∧
      nFlows octet0 = nofFlows ∧
      (octet0 &&& 0b10 != 0) = hasPowerConstraints ∧
      (octet0 &&& 1 != 0) = ft ∧ (octet0 &&& 1).toNat = ft.toNat := by
  have everyNumber : ∀ number : Fin 7, ∀ power ft : Bool,
      let octet0 := octet0Of setupCause number.val power ft
      fromCodedValue (octet0.toUInt32 >>> 5) = setupCause ∧
        nFlows octet0 = number.val ∧
        (octet0 &&& 0b10 != 0) = power ∧
        (octet0 &&& 1 != 0) = ft ∧
        (octet0 &&& 1).toNat = ft.toNat := by
    revert valid
    cases setupCause <;> decide +kernel
  exact everyNumber ⟨nofFlows, Nat.lt_succ_of_le few⟩ _ ft

/-- The flag of the second octet is found where it was placed. -/
theorem octet1_recovered (current : Bool) :
    let octet1 := (current.toUInt32 <<< 7).toUInt8
    (octet1 >>> 7 != 0) = current ∧ (octet1 >>> 7).toNat = current.toNat := by
  cases current <;> decide

variable {message : AssociationRequestMessage}

/-- A valid message has six flows at most. -/
theorem flowIds_length_le (valid : message.isValid = true) :
    message.flowIds.elements.length ≤ 6 := by
  obtain ⟨-, -, flows, -⟩ := (isValid_iff message).mp valid
  exact flows_length_le fun flowId member =>
    (FlowId.isValid_iff flowId).mp (flows flowId member)

section Valid

variable
    {message : AssociationRequestMessage}
    (valid : message.isValid = true)
    {memory : Memory}
    {macPduOffset : Nat}

theorem octets_of_holds (holds : memory.Holds macPduOffset message.code) :
    memory macPduOffset =
        octet0Of message.setupCause message.flowIds.elements.length
          message.hasPowerConstraints message.ftConfiguration.isSome ∧
      memory (macPduOffset + 1) =
        (message.currentClusterChannel.isSome.toUInt32 <<< 7).toUInt8 := by
  have front := holds.front.front.front.front.front
  simpa only [Memory.holds_cons_cons, Memory.holds_singleton] using front

include valid

/-- The size of a message is found in its octets. -/
theorem peeked_code (holds : memory.Holds macPduOffset message.code) :
    (getPackedSizeByPeeking macPduOffset).eval memory =
      .ok message.code.length := by
  obtain ⟨octet0, octet1⟩ := octets_of_holds holds
  obtain ⟨cause, -⟩ := (isValid_iff message).mp valid
  have few := flowIds_length_le valid
  obtain ⟨-, flows, -, -, ft⟩ :=
    octet0_recovered cause few message.hasPowerConstraints
      message.ftConfiguration.isSome
  obtain ⟨-, current⟩ := octet1_recovered message.currentClusterChannel.isSome
  simp only [getPackedSizeByPeeking, eval_bind,
    eval_octet, octet0, octet1, flows,
    if_pos (Nat.lt_succ_of_le few), eval_pure, sizeByFlags,
    ft, current, code_length]

theorem getPackedSize_valid :
    message.getPackedSize = .ok message.code.length := by
  rw [getPackedSize, valid, code_length]
  rfl

/-- A valid message is packed as its octets. -/
theorem pack_valid
    (macPduOffset : Nat)
    (memory : Memory) :
    message.pack macPduOffset memory =
      .ok (memory.write macPduOffset message.code) := by
  have peeked :=
    peeked_code valid (Memory.holds_write macPduOffset message.code memory)
  simp only [pack, valid, dectnrpAssert_true, Checked.ok_bind,
    Memory.assign_eq_write macPduOffset, Memory.assignOr_front]
  rw [Memory.assign_behind macPduOffset (by rfl),
    FieldFormat.mk_write (by rfl)]
  simp only [FieldFormat.pack_written, FieldFormat.packAll_written,
    FieldFormat.packOptional_written, FieldFormat.written_fst,
    FieldFormat.written_snd]
  exact assertPeeked_bind peeked _

end Valid

/-- Number of octets of a message whose first two octets are known. -/
def bytesRead (octet0 octet1 : UInt8) : Nat :=
  4 + nFlows octet0 +
    FtConfiguration.format.optionalSize (octet0 &&& 1 != 0) +
    FieldFormat.channel.optionalSize (octet1 >>> 7 != 0)

/-- As many octets are peeked as are read. -/
theorem sizeByFlags_eq (octet0 octet1 : UInt8) :
    sizeByFlags octet0 octet1 = bytesRead octet0 octet1 := by
  have ft : (octet0 &&& 1).toNat = (octet0 &&& 1 != 0).toNat := by
    revert octet0
    apply BitFields.forall_octet
    decide +kernel
  have current : (octet1 >>> 7).toNat = (octet1 >>> 7 != 0).toNat := by
    revert octet1
    apply BitFields.forall_octet
    decide +kernel
  rw [sizeByFlags, bytesRead, optionalSize_eq,
    optionalSize_eq, ft, current,
    FtConfiguration.format_size, channel_size]

variable {memory : Memory}

/-- Unpacking loads the octets that are counted. -/
theorem within_unpack
    {limit macPduOffset : Nat}
    (inside :
      macPduOffset +
        bytesRead (memory macPduOffset) (memory (macPduOffset + 1)) ≤ limit) :
    (unpack macPduOffset).Within memory limit := by
  unfold bytesRead at inside
  simp only [unpack, within_bind, within_octet,
    eval_octet, FieldFormat.eval_unpack,
    FieldFormat.eval_unpackAll, FieldFormat.eval_unpackOptional,
    OctetReader.within_pure, and_true, FlowId.format_size,
    HarqConfiguration.format_size]
  exact ⟨by omega, by omega, FieldFormat.within_unpack _ (by simp; omega),
      FieldFormat.within_unpack _ (by simp; omega),
      FieldFormat.within_unpackAll _ (by simp; omega),
      FieldFormat.within_unpackOptional _ (by omega),
      FieldFormat.within_unpackOptional _ (by omega)⟩

/-- Where the FT configuration starts. -/
def ftOffset (octet0 : UInt8) : Nat :=
  4 + nFlows octet0

/-- Where the current cluster channel starts. -/
def currentOffset (octet0 : UInt8) : Nat :=
  ftOffset octet0 +
    FtConfiguration.format.optionalSize (octet0 &&& 1 != 0)

/-- The message that octets stand for. -/
def received
    (memory : Memory)
    (front : Nat) :
    AssociationRequestMessage :=
  let octet0 := memory front
  { setupCause := fromCodedValue (octet0.toUInt32 >>> 5)
    flowIds :=
      KeyedSet.ofList
        (FlowId.format.allAt memory (front + 4) (nFlows octet0))
    hasPowerConstraints := octet0 &&& 0b10 != 0
    ftConfiguration :=
      FtConfiguration.format.optionalAt memory (front + ftOffset octet0)
        (octet0 &&& 1 != 0)
    currentClusterChannel :=
      FieldFormat.channel.optionalAt memory
        (front + currentOffset octet0)
        (memory (front + 1) >>> 7 != 0)
    harqConfigurationTx :=
      HarqConfiguration.format.valueAt memory (front + 2)
    harqConfigurationRx :=
      HarqConfiguration.format.valueAt memory (front + 3) }

theorem eval_unpack
    (memory : Memory)
    (front : Nat) :
    (unpack front).eval memory =
      (received memory front,
        bytesRead (memory front) (memory (front + 1))) := by
  simp only [unpack, eval_bind, eval_octet,
    FieldFormat.eval_unpack, FieldFormat.eval_unpackAll,
    FieldFormat.eval_unpackOptional, eval_pure,
    FlowId.format_size, HarqConfiguration.format_size, Nat.mul_one]
  rfl

/-- A message with the shortest period is received from its octets. -/
theorem received_code
    (valid : message.isValid = true)
    (shortest :
      ∀ ftConfig ∈ message.ftConfiguration,
        ftConfig.networkBeaconPeriod = .ms50)
    {front : Nat}
    (holds : memory.Holds front message.code) :
    received memory front = message := by
  obtain ⟨cause, -, flowIds, ft, current, tx, rx⟩ :=
    (isValid_iff message).mp valid
  obtain ⟨octet0, octet1⟩ := octets_of_holds holds
  obtain ⟨isCause, isFlows, isPower, isFt, -⟩ :=
    octet0_recovered cause (flowIds_length_le valid)
      message.hasPowerConstraints message.ftConfiguration.isSome
  obtain ⟨isCurrent, -⟩ :=
    octet1_recovered message.currentClusterChannel.isSome
  rw [← octet0] at isCause isFlows isPower isFt
  rw [← octet1] at isCurrent
  simp only [code, Memory.holds_append, List.length_append,
    FieldFormat.code_length, FieldFormat.optionalCode_length,
    FieldFormat.allCode_length, FlowId.format_size, Nat.mul_one,
    HarqConfiguration.format_size, List.length_cons, List.length_nil]
    at holds
  obtain ⟨⟨⟨⟨⟨-, txHolds⟩, rxHolds⟩, flowHolds⟩, ftHolds⟩,
    currentHolds⟩ := holds
  have gotTx := FieldFormat.valueAt_eq (HarqConfiguration.recovers tx) txHolds
  have gotRx := FieldFormat.valueAt_eq (HarqConfiguration.recovers rx) rxHolds
  have gotFlows :=
    FieldFormat.allAt_eq
      (fun flowId member => FlowId.format_recovers (flowIds flowId member))
      flowHolds
  have gotFt :=
    FieldFormat.optionalAt_eq (fun ftConfig isFt =>
        FtConfiguration.recovers (ft ftConfig isFt) (shortest ftConfig isFt))
      ftHolds
  have gotCurrent :=
    FieldFormat.optionalAt_eq (fun channel isChannel =>
        FieldFormat.channel_recovers (current channel isChannel))
      currentHolds
  simp only [received, isCause, isFlows, isPower, isFt, isCurrent,
    ftOffset, currentOffset, gotTx, gotRx, gotFlows, gotFt, gotCurrent,
    KeyedSet.ofList_elements]

theorem peek_eq
    (message : AssociationRequestMessage)
    (memory : Memory)
    (front : Nat) :
    codec.peek message memory front =
      .ok ((getPackedSizeByPeeking front).eval memory) := by
  apply MmieCodec.peek_eq
  simp only [codec, getPackedSizeByPeeking, within_bind, within_octet]
  refine ⟨by omega, ?_⟩
  split
  · simp
  · trivial

/-- A valid message is restored exactly if it has the shortest period. -/
theorem restores_iff (valid : message.isValid = true) :
    codec.RoundTrips message ↔
      ∀ ftConfig ∈ message.ftConfiguration,
        ftConfig.networkBeaconPeriod = .ms50 := by
  constructor
  · intro roundTrips ftConfig isFt
    obtain ⟨octets, -, -, -, unpacked⟩ :=
      roundTrips message 0 (fun _ => 0) trivial
    obtain ⟨-, -, -, same⟩ := unpackRead_eq_ok.mp unpacked
    rw [eval_unpack] at same
    -- whatever was received, its period is the shortest one
    rw [← same, received, FieldFormat.optionalAt] at isFt
    split at isFt
    · cases isFt
      exact FtConfiguration.valueAt_networkBeaconPeriod _ _
    · cases isFt
  · intro shortest
    refine MmieCodec.roundTrips_of_code (getPackedSize_valid valid)
      (pack_valid valid) ?_ ?_
    · intro initial memory front _ holds
      rw [peek_eq, peeked_code valid holds]
    · intro initial memory front _ holds
      have isSize := peeked_code valid holds
      have same := received_code valid shortest holds
      obtain ⟨octet0, octet1⟩ := octets_of_holds holds
      have read : bytesRead (memory front) (memory (front + 1)) =
          message.code.length := by
        rw [← sizeByFlags_eq]
        obtain ⟨cause, -⟩ := (isValid_iff message).mp valid
        obtain ⟨-, flows, -⟩ :=
          octet0_recovered cause (flowIds_length_le valid)
            message.hasPowerConstraints message.ftConfiguration.isSome
        simpa [getPackedSizeByPeeking, octet0, flows,
          Nat.lt_succ_of_le (flowIds_length_le valid)] using isSize
      refine unpackRead_eq_ok.mpr ?_
      rw [eval_unpack, same, read, getPackedSize_valid valid, valid]
      exact ⟨within_unpack (by rw [read]), rfl, rfl, rfl⟩

/--
Octets that are unpacked safely: their number of flows is reserved and no size
is peeked, or they have a cause, name flows that exist once each, and no delay,
period or channel is reserved.
-/
def SafeOctets
    (memory : Memory)
    (front : Nat) :
    Prop :=
  let octet0 := memory front
  nFlows octet0 = 7 ∨
    (octet0 >>> 5 ≠ 7 ∧ nFlows octet0 ≠ 0 ∧
      FlowsAdmitted memory (front + 4) (nFlows octet0) ∧
      memory (front + 2) &&& 31 ≠ 31 ∧
      memory (front + 3) &&& 31 ≠ 31 ∧
      (octet0 &&& 1 ≠ 0 →
        memory (front + ftOffset octet0) &&& 15 ≤ 10 ∧
          isAbsoluteChannelNumberInRange
            (FieldFormat.channel.valueAt memory
              (front + ftOffset octet0 + 1)) = true) ∧
      (memory (front + 1) >>> 7 ≠ 0 →
        isAbsoluteChannelNumberInRange
          (FieldFormat.channel.valueAt memory
            (front + currentOffset octet0)) = true))

theorem setupCause_isValid_iff (octet : UInt8) :
    CodedEnumeration.isValid
        (fromCodedValue (octet.toUInt32 >>> 5) : SetupCause) = true ↔
      octet >>> 5 ≠ 7 := by
  revert octet
  apply BitFields.forall_octet
  decide +kernel

theorem received_complete_iff
    {front : Nat}
    (few : nFlows (memory front) < 7) :
    (received memory front).isValid = true ∧
        (received memory front).flowIds.elements.length =
          nFlows (memory front) ↔
      SafeOctets memory front := by
  have flows :=
    @flows_received_iff FlowId FlowId.key FlowId.format FlowId.ofOctet rfl
      (fun _ _ => rfl) (fun _ => rfl) memory (front + 4)
      (nFlows (memory front))
  have notReserved : nFlows (memory front) ≠ 7 := Nat.ne_of_lt few
  rw [SafeOctets, or_iff_right notReserved, isValid_iff, ← flows]
  simp only [received, setupCause_isValid_iff,
    HarqConfiguration.format_valueAt,
    HarqConfiguration.ofOctet_isValid_iff, FlowId.isValid_iff,
    FieldFormat.forall_mem_optionalAt, bne_iff_ne,
    FtConfiguration.valueAt_isValid_iff]
  generalize (KeyedSet.ofList _ : KeyedSet FlowId.key).elements = flowIds
  constructor
  · rintro ⟨⟨cause, notEmpty, valid, ft, current, tx, rx⟩, complete⟩
    refine ⟨cause, ?_, ⟨valid, complete⟩, tx, rx, ft, current⟩
    rw [← complete]
    exact (List.length_pos_iff.mpr notEmpty).ne'
  · rintro ⟨cause, notNone, ⟨valid, complete⟩, tx, rx, ft, current⟩
    refine ⟨⟨cause, ?_, valid, ft, current, tx, rx⟩, complete⟩
    rintro rfl
    exact notNone complete.symm

/-- What is received counts the octets that were read if it is complete. -/
theorem getPackedSize_received_iff
    (memory : Memory)
    (front : Nat) :
    (received memory front).getPackedSize =
        .ok (bytesRead (memory front) (memory (front + 1))) ↔
      (received memory front).isValid = true ∧
        (received memory front).flowIds.elements.length =
          nFlows (memory front) := by
  simp only [getPackedSize, Checked.dectnrpAssert_bind_eq_ok,
    Checked.pure_eq_ok, Except.ok.injEq]
  refine and_congr_right fun _ => ?_
  simp only [received, FieldFormat.optionalAt_isSome, bytesRead,
    optionalSize_eq, FtConfiguration.format_size,
    channel_size]
  omega

/-- Unpacking is safe for the octets of the condition and for no others. -/
theorem unpacksSafely_iff
    (initial : AssociationRequestMessage)
    (memory : Memory)
    (front : Nat) :
    codec.UnpacksSafely initial memory front ↔ SafeOctets memory front := by
  rw [@MmieCodec.unpacksSafely_iff _ codec initial memory front
    (unpack front) fun _ => rfl]
  simp only [peek_eq, Except.ok.injEq, getPackedSizeByPeeking,
    eval_bind, eval_octet, eval_unpack]
  by_cases few : nFlows (memory front) < 7
  · simp only [few, if_true, eval_bind, eval_octet, eval_pure, Except.ok.injEq,
      forall_eq', sizeByFlags_eq]
    rw [← received_complete_iff few,
      and_iff_right (within_unpack (Nat.le_refl _)),
      ← getPackedSize_received_iff]
    exact and_iff_left ⟨_, rfl⟩
  · have reserved : nFlows (memory front) = 7 :=
      Nat.le_antisymm (nFlows_le _) (Nat.not_lt.mp few)
    simp only [few, if_false, eval_pure]
    refine iff_of_true ?_ (Or.inl reserved)
    intro size peeked
    cases peeked

/--
A valid message is restored exactly if it is not in FT mode or announces the
shortest network beacon period, and octets of a peer are unpacked safely
exactly if they meet the condition.
-/
theorem associationRequest_codec_iff
    (message initial : AssociationRequestMessage)
    (memory : Memory)
    (front : Nat) :
    (message.isValid = true →
      (codec.RoundTrips message ↔
        ∀ ftConfig ∈ message.ftConfiguration,
          ftConfig.networkBeaconPeriod = .ms50)) ∧
      (codec.UnpacksSafely initial memory front ↔
        SafeOctets memory front) :=
  ⟨restores_iff, unpacksSafely_iff initial memory front⟩

/-- A request in FT mode with one flow. -/
def ftRequest (period : NetworkBeaconPeriod) : AssociationRequestMessage where
  setupCause := .initial
  flowIds := KeyedSet.ofList [.higherLayerSignallingFlow1]
  hasPowerConstraints := true
  ftConfiguration := some ⟨period, .ms100, 1700, 1000⟩
  currentClusterChannel := some 1657
  harqConfigurationTx := ⟨7, .ms1⟩
  harqConfigurationRx := ⟨2, .ms500⟩

/-- A request in FT mode that is restored. -/
theorem associationRequest_codec_iff_ft :
    codec.RoundTrips (ftRequest .ms50) ↔
      ∀ ftConfig ∈ (ftRequest .ms50).ftConfiguration,
        ftConfig.networkBeaconPeriod = .ms50 :=
  (associationRequest_codec_iff (ftRequest .ms50) (ftRequest .ms50)
    (fun _ => 0) 0).1 (by decide +kernel)

/-- Longer beacon periods are lost. -/
theorem not_associationRequest_codec :
    ¬ ((∀ message : AssociationRequestMessage,
        message.isValid = true → codec.RoundTrips message) ∧
      ∀ (initial : AssociationRequestMessage) (memory : Memory)
        (front : Nat),
        codec.UnpacksSafely initial memory front) := by
  rintro ⟨restores, -⟩
  have valid : (ftRequest .ms100).isValid = true := by decide +kernel
  have shortest :=
    (restores_iff valid).mp (restores _ valid)
      ⟨.ms100, .ms100, 1700, 1000⟩ rfl
  cases shortest

end AssociationRequestMessage

end DectNrp
