import DectNrp.AssociationResponse

namespace DectNrp

/-!
# Reconfiguration messages

A request and its response have an octet of flags and numbers, a HARQ
configuration for each direction if its flag is set, and one octet for each
flow.  Both check their HARQ configurations by their values, which throws if
there are none.  A response writes its flows in any case, but announces them
only if they are included.
-/

open OctetReader (eval_bind eval_octet eval_pure within_bind within_octet
  within_pure)

open CodedEnumeration (toUnderlying fromCodedValue)

/-- How the resources of a device change. -/
inductive RadioResourceChange where
  | notDefined
  | noChange
  | moreResourcesRequested
  | lessResourcesRequested
  | resourceAllocationIeFollows
  | upper
  deriving Repr, DecidableEq

instance : CodedEnumeration RadioResourceChange where
  toUnderlying
    | .notDefined => undefinedNumeric32
    | .noChange => 0
    | .moreResourcesRequested => 1
    | .lessResourcesRequested => 2
    | .resourceAllocationIeFollows => 3
    | .upper => 4
  notDefined := .notDefined
  lower := none
  upper := .upper
  codes :=
    [.noChange, .moreResourcesRequested, .lessResourcesRequested,
      .resourceAllocationIeFollows]

/-- A flow that is set up or released. -/
structure ReconfiguredFlow where
  id : FlowId
  isReleased : Bool
  deriving Repr, DecidableEq

namespace ReconfiguredFlow

/-- Flows are ordered by their identifiers only. -/
def key (flow : ReconfiguredFlow) : Nat :=
  flow.id.key

/-- The flow that an octet stands for. -/
def ofOctet (octet : UInt8) : ReconfiguredFlow where
  id := FlowId.ofOctet octet
  isReleased := octet >>> 7 != 0

/-- A flag in the upper bit of an octet and the flow in the lower ones. -/
def format : FieldFormat ReconfiguredFlow where
  size := 1
  write flow address memory :=
    (memory.assign address (flow.isReleased.toUInt32 <<< 7)).assignOr
      address (toUnderlying flow.id)
  read address := do
    let octet ← OctetReader.octet address
    pure (ofOctet octet)
  code flow :=
    [(flow.isReleased.toUInt32 <<< 7).toUInt8 |||
      (toUnderlying flow.id).toUInt8]
  code_length _ := rfl
  write_eq _ _ _ := by
    rw [Memory.assign_eq_write, Memory.assignOr_front]
  read_within _ _ _ inside := ⟨inside, trivial⟩

@[simp] theorem format_size :
    format.size = 1 :=
  rfl

theorem octet_recovered
    {id : FlowId}
    (valid : CodedEnumeration.isValid id = true)
    (isReleased : Bool) :
    ofOctet
        ((isReleased.toUInt32 <<< 7).toUInt8 ||| (toUnderlying id).toUInt8) =
      ⟨id, isReleased⟩ := by
  revert valid isReleased
  cases id <;> decide

/-- A valid flow is recovered from its octet. -/
theorem recovers
    {flow : ReconfiguredFlow}
    (valid : CodedEnumeration.isValid flow.id = true) :
    format.Recovers flow := by
  intro memory address holds
  have isOctet := Memory.holds_singleton.mp holds
  change ofOctet (memory address) = flow
  rw [isOctet]
  exact octet_recovered valid flow.isReleased

end ReconfiguredFlow

/-- What both messages have in common. -/
structure ReconfiguredFields where
  harqConfigurationTx : Option HarqConfiguration
  harqConfigurationRx : Option HarqConfiguration
  rdCapabilityIeFollows : Bool
  flows : KeyedSet ReconfiguredFlow.key
  radioResourceChange : RadioResourceChange
  deriving DecidableEq

namespace ReconfiguredFields

/-- Both HARQ configurations are checked by their values. -/
def checkHarq
    (fields : ReconfiguredFields)
    (rest : Bool) :
    Checked Bool := do
  let tx ← Checked.value fields.harqConfigurationTx
  if ! tx.isValid then pure false
  else do
    let rx ← Checked.value fields.harqConfigurationRx
    if ! rx.isValid then pure false
    else pure rest

/-- The checks of the flows and of the resources. -/
def flowsValid (fields : ReconfiguredFields) : Bool :=
  if ! fields.flows.elements.all
      fun flow => CodedEnumeration.isValid flow.id then
    false
  else if ! CodedEnumeration.isValid fields.radioResourceChange then false
  else true

/-- Each HARQ configuration is valid if it is included. -/
def harqAdmitted (fields : ReconfiguredFields) : Bool :=
  ! (fields.harqConfigurationTx.any fun config => ! config.isValid) &&
    ! fields.harqConfigurationRx.any fun config => ! config.isValid

/-- Both HARQ configurations are included. -/
def isComplete (fields : ReconfiguredFields) : Bool :=
  fields.harqConfigurationTx.isSome && fields.harqConfigurationRx.isSome

/-- Size of the HARQ configurations that the first octet announces. -/
def harqSize (octet0 : UInt8) : Nat :=
  (octet0 >>> 7).toNat + ((octet0 >>> 6) &&& 1).toNat

/-- Write the first octet and all fields behind it. -/
def packFields
    (fields : ReconfiguredFields)
    (number : UInt32)
    (macPduOffset : Nat)
    (memory : Memory) :
    Nat × Memory :=
  let memory := memory.assign macPduOffset
    (fields.harqConfigurationTx.isSome.toUInt32 <<< 7)
  let memory := memory.assignOr macPduOffset
    (fields.harqConfigurationRx.isSome.toUInt32 <<< 6)
  let memory := memory.assignOr macPduOffset
    (fields.rdCapabilityIeFollows.toUInt32 <<< 5)
  let memory := memory.assignOr macPduOffset (number <<< 2)
  let memory := memory.assignOr macPduOffset
    (toUnderlying fields.radioResourceChange)
  let state := HarqConfiguration.format.packOptional macPduOffset
    fields.harqConfigurationTx (1, memory)
  let state := HarqConfiguration.format.packOptional macPduOffset
    fields.harqConfigurationRx state
  ReconfiguredFlow.format.packAll macPduOffset fields.flows.elements state

/-- Read all fields if the first octet and the number of flows are known. -/
def unpackFields
    (octet0 : UInt8)
    (count macPduOffset : Nat) :
    OctetReader (ReconfiguredFields × Nat) := do
  let (tx, offset) ←
    HarqConfiguration.format.unpackOptional macPduOffset
      (octet0 >>> 7 != 0) 1
  let (rx, offset) ←
    HarqConfiguration.format.unpackOptional macPduOffset
      ((octet0 >>> 6) &&& 1 != 0) offset
  let (flows, offset) ←
    ReconfiguredFlow.format.unpackAll macPduOffset count offset
  pure
    ({ harqConfigurationTx := tx
       harqConfigurationRx := rx
       rdCapabilityIeFollows := (octet0 >>> 5) &&& 1 != 0
       flows := KeyedSet.ofList flows
       radioResourceChange :=
         fromCodedValue (BitFields.extract octet0 0 0b11) }, offset)

variable {fields : ReconfiguredFields}

/-- A check passes if both configurations are there and all is valid. -/
theorem checkHarq_eq_ok_true
    {rest : Bool} :
    fields.checkHarq rest = .ok true ↔
      fields.isComplete = true ∧ fields.harqAdmitted = true ∧ rest = true := by
  unfold checkHarq isComplete harqAdmitted
  cases fields.harqConfigurationTx with
  | none => simp
  | some tx =>
      by_cases txValid : tx.isValid = true
      · cases fields.harqConfigurationRx with
        | none => simp [txValid]
        | some rx =>
            by_cases rxValid : rx.isValid = true <;> simp [txValid, rxValid]
      · simp [txValid]

theorem flowsValid_iff (fields : ReconfiguredFields) :
    fields.flowsValid = true ↔
      (∀ flow ∈ fields.flows.elements,
        1 ≤ flow.key ∧ flow.key ≤ 6) ∧
        CodedEnumeration.isValid fields.radioResourceChange = true := by
  simp only [flowsValid, Bool.if_false_left, Bool.and_true,
    Bool.and_eq_true, Bool.not_eq_true', decide_eq_false_iff_not,
    Bool.not_eq_false, List.all_eq_true, FlowId.isValid_iff]
  rfl

/-- Valid fields have six flows at most. -/
theorem flows_length_le_of_valid (valid : fields.flowsValid = true) :
    fields.flows.elements.length ≤ 6 :=
  flows_length_le ((flowsValid_iff fields).mp valid).1

/-- The first octet. -/
def octet0Of
    (tx rx rdCapabilityIeFollows : Bool)
    (number : UInt32)
    (change : RadioResourceChange) :
    UInt8 :=
  (tx.toUInt32 <<< 7).toUInt8 ||| (rx.toUInt32 <<< 6).toUInt8 |||
    (rdCapabilityIeFollows.toUInt32 <<< 5).toUInt8 |||
    (number <<< 2).toUInt8 ||| (toUnderlying change).toUInt8

/-- The first octet of fields that are packed with a number of flows. -/
def octet0
    (fields : ReconfiguredFields)
    (number : UInt32) :
    UInt8 :=
  octet0Of fields.harqConfigurationTx.isSome
    fields.harqConfigurationRx.isSome fields.rdCapabilityIeFollows number
    fields.radioResourceChange

def code
    (fields : ReconfiguredFields)
    (number : UInt32) :
    List UInt8 :=
  [fields.octet0 number] ++
    HarqConfiguration.format.optionalCode fields.harqConfigurationTx ++
    HarqConfiguration.format.optionalCode fields.harqConfigurationRx ++
    ReconfiguredFlow.format.allCode fields.flows.elements

theorem code_length
    (fields : ReconfiguredFields)
    (number : UInt32) :
    (fields.code number).length =
      1 + fields.harqConfigurationTx.isSome.toNat +
        fields.harqConfigurationRx.isSome.toNat +
        fields.flows.elements.length := by
  simp only [code, List.length_append, FieldFormat.optionalCode_length,
    FieldFormat.optionalSize_eq, FieldFormat.allCode_length,
    HarqConfiguration.format_size, ReconfiguredFlow.format_size,
    List.length_singleton, Nat.mul_one]

/-- The fields of the first octet are found where they were placed. -/
theorem octet0_recovered
    (tx rx follows : Bool)
    {change : RadioResourceChange}
    (valid : CodedEnumeration.isValid change = true) :
    ∀ number : UInt32, number.toNat < 2 ^ 3 →
      let octet0 := octet0Of tx rx follows number change
      (octet0 >>> 7 != 0) = tx ∧ ((octet0 >>> 6) &&& 1 != 0) = rx ∧
        ((octet0 >>> 5) &&& 1 != 0) = follows ∧
        nFlows octet0 = number.toNat ∧
        fromCodedValue (BitFields.extract octet0 0 0b11) = change := by
  apply BitFields.forall_field
  revert tx rx follows valid
  cases change <;> decide +kernel

/-- The flags of an octet count the configurations behind it. -/
theorem harqSize_eq (octet0 : UInt8) :
    harqSize octet0 =
      (octet0 >>> 7 != 0).toNat + ((octet0 >>> 6) &&& 1 != 0).toNat := by
  revert octet0
  apply BitFields.forall_octet
  decide +kernel

/-- Fields are packed as their octets. -/
theorem packFields_eq
    (fields : ReconfiguredFields)
    (number : UInt32)
    (macPduOffset : Nat)
    (memory : Memory) :
    fields.packFields number macPduOffset memory =
      FieldFormat.written macPduOffset memory (fields.code number) := by
  simp only [packFields, Memory.assign_eq_write macPduOffset,
    Memory.assignOr_front]
  rw [FieldFormat.mk_write (by rfl)]
  simp only [FieldFormat.packOptional_written, FieldFormat.packAll_written]
  rfl

variable {memory : Memory}

theorem octet0_of_holds
    {number : UInt32}
    {macPduOffset : Nat}
    (holds : memory.Holds macPduOffset (fields.code number)) :
    memory macPduOffset = fields.octet0 number :=
  Memory.holds_singleton.mp holds.front.front.front

/-- Where the flows start. -/
def flowsOffset (octet0 : UInt8) : Nat :=
  1 + HarqConfiguration.format.optionalSize (octet0 >>> 7 != 0) +
    HarqConfiguration.format.optionalSize ((octet0 >>> 6) &&& 1 != 0)

theorem flowsOffset_eq (octet0 : UInt8) :
    flowsOffset octet0 = 1 + harqSize octet0 := by
  rw [flowsOffset, harqSize_eq, FieldFormat.optionalSize_eq,
    FieldFormat.optionalSize_eq, HarqConfiguration.format_size]
  omega

/-- The fields that octets stand for. -/
def received
    (memory : Memory)
    (front count : Nat) :
    ReconfiguredFields :=
  let octet0 := memory front
  { harqConfigurationTx :=
      HarqConfiguration.format.optionalAt memory (front + 1)
        (octet0 >>> 7 != 0)
    harqConfigurationRx :=
      HarqConfiguration.format.optionalAt memory
        (front + (1 +
          HarqConfiguration.format.optionalSize (octet0 >>> 7 != 0)))
        ((octet0 >>> 6) &&& 1 != 0)
    rdCapabilityIeFollows := (octet0 >>> 5) &&& 1 != 0
    flows :=
      KeyedSet.ofList
        (ReconfiguredFlow.format.allAt memory
          (front + flowsOffset octet0) count)
    radioResourceChange :=
      fromCodedValue (BitFields.extract octet0 0 0b11) }

theorem eval_unpackFields
    (memory : Memory)
    (front count : Nat) :
    (unpackFields (memory front) count front).eval memory =
      (received memory front count, flowsOffset (memory front) + count) := by
  simp only [unpackFields, eval_bind,
    FieldFormat.eval_unpackOptional, FieldFormat.eval_unpackAll,
    eval_pure, ReconfiguredFlow.format_size, Nat.mul_one]
  rfl

theorem within_unpackFields
    {octet0 : UInt8}
    {limit macPduOffset count : Nat}
    (inside : macPduOffset + (flowsOffset octet0 + count) ≤ limit) :
    (unpackFields octet0 count macPduOffset).Within memory limit := by
  unfold flowsOffset at inside
  simp only [unpackFields, within_bind,
    FieldFormat.eval_unpackOptional, FieldFormat.eval_unpackAll,
    within_pure, and_true]
  exact ⟨FieldFormat.within_unpackOptional _ (by omega),
      FieldFormat.within_unpackOptional _ (by omega),
      FieldFormat.within_unpackAll _ (by simp; omega)⟩

variable {front : Nat}

/-- Fields that are checked are received from their octets. -/
theorem received_code
    (harq : fields.harqAdmitted = true)
    (valid : fields.flowsValid = true)
    {number : UInt32}
    (fits : number.toNat < 2 ^ 3)
    {memory : Memory}
    (holds : memory.Holds front (fields.code number)) :
    received memory front fields.flows.elements.length = fields := by
  obtain ⟨flowsValid, changeValid⟩ := (flowsValid_iff fields).mp valid
  simp only [harqAdmitted, Bool.and_eq_true, Bool.not_eq_true'] at harq
  obtain ⟨isTx, isRx, isFollows, -, isChange⟩ :=
    octet0_recovered fields.harqConfigurationTx.isSome
      fields.harqConfigurationRx.isSome fields.rdCapabilityIeFollows
      changeValid number fits
  have isOctet0 := octet0_of_holds holds
  unfold octet0 at isOctet0
  rw [← isOctet0] at isTx isRx isFollows isChange
  simp only [code, Memory.holds_append, List.length_append,
    FieldFormat.optionalCode_length, List.length_singleton] at holds
  obtain ⟨⟨⟨-, txHolds⟩, rxHolds⟩, flowsHold⟩ := holds
  have gotTx :=
    FieldFormat.optionalAt_eq
      (HarqConfiguration.recovers_of_any (by simp [harq.1])) txHolds
  have gotRx :=
    FieldFormat.optionalAt_eq
      (HarqConfiguration.recovers_of_any (by simp [harq.2])) rxHolds
  have gotFlows :=
    FieldFormat.allAt_eq (fun flow member =>
        ReconfiguredFlow.recovers
          ((FlowId.isValid_iff flow.id).mpr (flowsValid flow member)))
      flowsHold
  simp only [received, isTx, isRx, isFollows, isChange, flowsOffset,
    gotTx, gotRx, gotFlows, KeyedSet.ofList_elements]

/-- Both configurations are announced, and neither delay is reserved. -/
def HarqOctets
    (memory : Memory)
    (front : Nat) :
    Prop :=
  memory front >>> 7 ≠ 0 ∧ (memory front >>> 6) &&& 1 ≠ 0 ∧
    memory (front + 1) &&& 31 ≠ 31 ∧ memory (front + 2) &&& 31 ≠ 31

theorem received_harq_iff
    (memory : Memory)
    (front count : Nat) :
    (received memory front count).isComplete = true ∧
        (received memory front count).harqAdmitted = true ↔
      HarqOctets memory front := by
  unfold isComplete harqAdmitted HarqOctets received
  by_cases tx : memory front >>> 7 = 0
  · simp [tx]
  by_cases rx : (memory front >>> 6) &&& 1 = 0
  · simp [rx]
  have isTx : (memory front >>> 7 != 0) = true := bne_iff_ne.mpr tx
  have isRx : ((memory front >>> 6) &&& 1 != 0) = true := bne_iff_ne.mpr rx
  simp [tx, rx, isTx, isRx, HarqConfiguration.ofOctet_isValid_iff]

theorem flowsOffset_of_harqOctets (harq : HarqOctets memory front) :
    flowsOffset (memory front) = 3 := by
  obtain ⟨tx, rx, -⟩ := harq
  rw [flowsOffset, bne_iff_ne.mpr tx, bne_iff_ne.mpr rx]
  rfl

theorem change_isValid (octet0 : UInt8) :
    CodedEnumeration.isValid
        (fromCodedValue (BitFields.extract octet0 0 0b11) :
          RadioResourceChange) = true := by
  revert octet0
  apply BitFields.forall_octet
  decide +kernel

/-- All flows are received if they are admitted. -/
theorem received_flows_iff
    (harq : HarqOctets memory front)
    (count : Nat) :
    (received memory front count).flowsValid = true ∧
        (received memory front count).flows.elements.length = count ↔
      FlowsAdmitted memory (front + 3) count := by
  have flows :=
    @flows_received_iff ReconfiguredFlow ReconfiguredFlow.key
      ReconfiguredFlow.format ReconfiguredFlow.ofOctet rfl
      (fun _ _ => rfl) (fun _ => rfl) memory (front + 3) count
  rw [flowsValid_iff, ← flows]
  simp only [received, change_isValid, and_true,
    flowsOffset_of_harqOctets harq]

end ReconfiguredFields

open ReconfiguredFields

/-- A request has the common fields only. -/
structure ReconfigurationRequestMessage extends ReconfiguredFields
  deriving DecidableEq

namespace ReconfigurationRequestMessage

def isValid (message : ReconfigurationRequestMessage) : Checked Bool :=
  message.checkHarq message.flowsValid

def getPackedSize
    (message : ReconfigurationRequestMessage) :
    Checked Nat := do
  let valid ← message.isValid
  dectnrpAssert valid "reconfiguration request message is not valid"
  pure (1 + message.harqConfigurationTx.isSome.toNat +
    message.harqConfigurationRx.isSome.toNat +
    message.flows.elements.length)

/-- The largest number of flows is reserved. -/
def getPackedSizeByPeeking
    (macPduOffset : Nat) :
    OctetReader PeekResult := do
  let octet0 ← OctetReader.octet macPduOffset
  if nFlows octet0 < 0b111 then
    pure (.ok (1 + harqSize octet0 + nFlows octet0))
  else pure (.error .nonreservedFieldSetToReserved)

def pack
    (message : ReconfigurationRequestMessage)
    (macPduOffset : Nat)
    (memory : Memory) :
    Checked Memory := do
  let valid ← message.isValid
  dectnrpAssert valid "reconfiguration request message is not valid"
  let (offset, memory) := message.packFields
    (UInt32.ofNat message.flows.elements.length) macPduOffset memory
  assertPeeked ((getPackedSizeByPeeking macPduOffset).eval memory) offset
  pure memory

/-- Read the fields of a message; all fields are overwritten. -/
def unpack
    (macPduOffset : Nat) :
    OctetReader (ReconfigurationRequestMessage × Nat) := do
  let octet0 ← OctetReader.octet macPduOffset
  let (fields, offset) ←
    unpackFields octet0 (nFlows octet0) macPduOffset
  pure (⟨fields⟩, offset)

/-- Nothing of the object that unpacks a message is kept. -/
def codec : MmieCodec ReconfigurationRequestMessage where
  isValid := isValid
  getPackedSize := getPackedSize
  pack := pack
  getPackedSizeMinToPeek := 1
  getPackedSizeByPeeking _ := getPackedSizeByPeeking
  unpack _ octets macPduOffset :=
    unpackRead getPackedSize isValid (unpack macPduOffset) octets
  SameContext _ _ := True
  sameContext_refl _ := trivial

/-- The checks of a message, each made only if its field is included. -/
def isAdmitted (message : ReconfigurationRequestMessage) : Bool :=
  message.harqAdmitted && message.flowsValid

theorem isValid_eq_ok_true
    {message : ReconfigurationRequestMessage} :
    message.isValid = .ok true ↔
      message.isComplete = true ∧ message.isAdmitted = true := by
  rw [isValid, checkHarq_eq_ok_true, isAdmitted, Bool.and_eq_true]

variable {message : ReconfigurationRequestMessage}

theorem getPackedSize_eq_ok
    {size : Nat} :
    message.getPackedSize = .ok size ↔
      message.isValid = .ok true ∧
        1 + message.harqConfigurationTx.isSome.toNat +
          message.harqConfigurationRx.isSome.toNat +
          message.flows.elements.length = size := by
  unfold getPackedSize
  cases message.isValid with
  | error fault => simp
  | ok valid => simp [Checked.dectnrpAssert_bind_eq_ok]

theorem peek_eq
    (message : ReconfigurationRequestMessage)
    (memory : Memory)
    (front : Nat) :
    codec.peek message memory front =
      .ok ((getPackedSizeByPeeking front).eval memory) := by
  apply MmieCodec.peek_eq
  simp only [codec, getPackedSizeByPeeking, within_bind, within_octet]
  refine ⟨Nat.lt_succ_self front, ?_⟩
  split <;> trivial

/-- The message that octets stand for. -/
def received
    (memory : Memory)
    (front : Nat) :
    ReconfigurationRequestMessage :=
  ⟨ReconfiguredFields.received memory front (nFlows (memory front))⟩

/-- Number of octets of a message whose first octet is known. -/
def bytesRead (octet0 : UInt8) : Nat :=
  flowsOffset octet0 + nFlows octet0

theorem eval_unpack
    (memory : Memory)
    (front : Nat) :
    (unpack front).eval memory =
      (received memory front, bytesRead (memory front)) := by
  simp only [unpack, eval_bind, eval_octet, eval_unpackFields, eval_pure]
  rfl

/-- Unpacking loads the octets that are counted. -/
theorem within_unpack
    {memory : Memory}
    {limit front : Nat}
    (inside : front + bytesRead (memory front) ≤ limit) :
    (unpack front).Within memory limit := by
  simp only [unpack, within_bind, within_octet,
    eval_octet, within_pure, and_true]
  refine ⟨?_, within_unpackFields inside⟩
  rw [bytesRead, flowsOffset_eq] at inside
  omega

section Admitted

variable
    {message : ReconfigurationRequestMessage}
    (valid : message.isValid = .ok true)

/-- The octets of a message. -/
def code (message : ReconfigurationRequestMessage) : List UInt8 :=
  message.toReconfiguredFields.code
    (UInt32.ofNat message.flows.elements.length)

include valid

theorem checks_of_valid :
    message.isComplete = true ∧ message.harqAdmitted = true ∧
      message.flowsValid = true := by
  obtain ⟨complete, admitted⟩ := isValid_eq_ok_true.mp valid
  exact ⟨complete, Bool.and_eq_true_iff.mp admitted⟩

/-- The number of flows fits into its field. -/
theorem nofFlows_toNat :
    (UInt32.ofNat message.flows.elements.length).toNat =
      message.flows.elements.length := by
  have few := flows_length_le_of_valid (checks_of_valid valid).2.2
  rw [UInt32.toNat_ofNat', Nat.mod_eq_of_lt (by omega)]

theorem octet0_of_valid :
    let octet0 := message.octet0 (UInt32.ofNat message.flows.elements.length)
    nFlows octet0 = message.flows.elements.length ∧
      harqSize octet0 =
        message.harqConfigurationTx.isSome.toNat +
          message.harqConfigurationRx.isSome.toNat := by
  have flows := (checks_of_valid valid).2.2
  have few := flows_length_le_of_valid flows
  obtain ⟨isTx, isRx, -, isFlows, -⟩ :=
    octet0_recovered message.harqConfigurationTx.isSome
      message.harqConfigurationRx.isSome message.rdCapabilityIeFollows
      ((flowsValid_iff _).mp flows).2 _
      (by rw [nofFlows_toNat valid]; omega)
  rw [nofFlows_toNat valid] at isFlows
  exact ⟨isFlows, by rw [harqSize_eq, octet0, isTx, isRx]⟩

/-- The size of a message is found in its octets. -/
theorem peeked_code
    {memory : Memory}
    {front : Nat}
    (holds : memory.Holds front message.code) :
    (getPackedSizeByPeeking front).eval memory = .ok message.code.length := by
  obtain ⟨isFlows, isHarq⟩ := octet0_of_valid valid
  have few := flows_length_le_of_valid (checks_of_valid valid).2.2
  simp only [getPackedSizeByPeeking, eval_bind,
    eval_octet, octet0_of_holds holds, isFlows,
    if_pos (Nat.lt_succ_of_le few), eval_pure, isHarq,
    code, code_length, Nat.add_assoc]

theorem getPackedSize_valid :
    message.getPackedSize = .ok message.code.length := by
  rw [getPackedSize_eq_ok, code, code_length]
  exact ⟨valid, rfl⟩

/-- A valid message is packed as its octets. -/
theorem pack_valid
    (macPduOffset : Nat)
    (memory : Memory) :
    message.pack macPduOffset memory =
      .ok (memory.write macPduOffset message.code) := by
  have peeked :=
    peeked_code valid (Memory.holds_write macPduOffset message.code memory)
  simp only [pack, valid, Checked.ok_bind, dectnrpAssert_true, packFields_eq]
  exact assertPeeked_bind peeked _

/-- A valid message is unpacked from its octets. -/
theorem unpack_valid
    (initial : ReconfigurationRequestMessage)
    (memory : Memory)
    (front : Nat)
    (holds : memory.Holds front message.code) :
    codec.unpack initial (memory.window 0 (front + message.code.length))
        front =
      .ok (true, message) := by
  obtain ⟨-, harq, flows⟩ := checks_of_valid valid
  have few := flows_length_le_of_valid flows
  obtain ⟨isFlows, isHarq⟩ := octet0_of_valid valid
  rw [← octet0_of_holds holds] at isFlows isHarq
  have same : received memory front = message := by
    rw [received, isFlows, ReconfiguredFields.received_code harq flows
      (by rw [nofFlows_toNat valid]; omega) holds]
  have read : bytesRead (memory front) = message.code.length := by
    rw [bytesRead, flowsOffset_eq, isFlows, isHarq, code, code_length]
    omega
  refine unpackRead_eq_ok.mpr ?_
  rw [eval_unpack, same, read]
  exact ⟨within_unpack (by rw [read]), getPackedSize_valid valid, valid, rfl⟩

end Admitted

/-- Nothing but the check itself prevents the round trip. -/
theorem restores_iff (admitted : message.isAdmitted = true) :
    codec.RoundTrips message ↔ message.isComplete = true := by
  constructor
  · intro roundTrips
    obtain ⟨octets, sized, -⟩ := roundTrips message 0 (fun _ => 0) trivial
    exact (isValid_eq_ok_true.mp (getPackedSize_eq_ok.mp sized).1).1
  · intro complete
    have valid := isValid_eq_ok_true.mpr ⟨complete, admitted⟩
    exact MmieCodec.roundTrips_of_code (getPackedSize_valid valid)
      (pack_valid valid)
      (fun initial memory front _ holds => by
        rw [peek_eq, peeked_code valid holds])
      fun initial memory front _ holds =>
        unpack_valid valid initial memory front holds

/-- Octets that are unpacked safely: a size is not peeked, or all is there. -/
def SafeOctets
    (memory : Memory)
    (front : Nat) :
    Prop :=
  nFlows (memory front) = 7 ∨
    (HarqOctets memory front ∧
      FlowsAdmitted memory (front + 3) (nFlows (memory front)))

/-- What is received counts the octets that were read if they are safe. -/
theorem getPackedSize_received_iff
    (memory : Memory)
    (front : Nat) :
    (received memory front).getPackedSize =
        .ok (bytesRead (memory front)) ↔
      HarqOctets memory front ∧
        FlowsAdmitted memory (front + 3) (nFlows (memory front)) := by
  have counted : 1 + (received memory front).harqConfigurationTx.isSome.toNat +
      (received memory front).harqConfigurationRx.isSome.toNat +
      (received memory front).flows.elements.length =
        bytesRead (memory front) ↔
      (received memory front).flows.elements.length =
        nFlows (memory front) := by
    rw [bytesRead, flowsOffset_eq, harqSize_eq]
    simp only [received, ReconfiguredFields.received,
      FieldFormat.optionalAt_isSome]
    omega
  rw [getPackedSize_eq_ok, counted, isValid_eq_ok_true, isAdmitted,
    Bool.and_eq_true, ← and_assoc, and_assoc]
  rw [received, received_harq_iff]
  exact and_congr_right fun harq => received_flows_iff harq _

/-- Unpacking is safe for the octets of the condition and for no others. -/
theorem unpacksSafely_iff
    (initial : ReconfigurationRequestMessage)
    (memory : Memory)
    (front : Nat) :
    codec.UnpacksSafely initial memory front ↔ SafeOctets memory front := by
  rw [@MmieCodec.unpacksSafely_iff _ codec initial memory front
    (unpack front) fun _ => rfl]
  simp only [peek_eq, Except.ok.injEq, getPackedSizeByPeeking,
    eval_bind, eval_octet, eval_unpack]
  by_cases few : nFlows (memory front) < 7
  · have read : 1 + harqSize (memory front) + nFlows (memory front) =
        bytesRead (memory front) := by
      rw [bytesRead, flowsOffset_eq]
    simp only [few, if_true, eval_pure, Except.ok.injEq, forall_eq', read]
    rw [SafeOctets, or_iff_right (Nat.ne_of_lt few),
      ← getPackedSize_received_iff,
      and_iff_right (within_unpack (Nat.le_refl _))]
    refine and_iff_left_of_imp fun sized => ⟨true, ?_⟩
    exact (getPackedSize_eq_ok.mp sized).1
  · have reserved : nFlows (memory front) = 7 :=
      Nat.le_antisymm (nFlows_le _) (Nat.not_lt.mp few)
    simp only [few, if_false, eval_pure]
    refine iff_of_true ?_ (Or.inl reserved)
    intro size peeked
    cases peeked

end ReconfigurationRequestMessage

/-- A response tells which flows are accepted. -/
structure ReconfigurationResponseMessage extends ReconfiguredFields where
  nofFlowsAccepted : NofFlowsAccepted
  deriving DecidableEq

namespace ReconfigurationResponseMessage

/-- The checks behind those of the HARQ configurations. -/
def restValid (message : ReconfigurationResponseMessage) : Bool :=
  if ! CodedEnumeration.isValid message.nofFlowsAccepted ||
      (message.nofFlowsAccepted == .asIncluded &&
        message.flows.elements.isEmpty) then
    false
  else message.flowsValid

def isValid (message : ReconfigurationResponseMessage) : Checked Bool :=
  message.checkHarq message.restValid

def getPackedSize
    (message : ReconfigurationResponseMessage) :
    Checked Nat := do
  let valid ← message.isValid
  dectnrpAssert valid "reconfiguration response message is not valid"
  pure (1 + message.harqConfigurationTx.isSome.toNat +
    message.harqConfigurationRx.isSome.toNat +
    if message.nofFlowsAccepted = .asIncluded then
      message.flows.elements.length
    else 0)

/-- Size of a message whose first octet is known. -/
def sizeByFlags (octet0 : UInt8) : Nat :=
  1 + harqSize octet0 +
    if nFlows octet0 < 0b111 then nFlows octet0 else 0

def getPackedSizeByPeeking
    (macPduOffset : Nat) :
    OctetReader PeekResult := do
  let octet0 ← OctetReader.octet macPduOffset
  pure (.ok (sizeByFlags octet0))

/-- The number of flows as it is written to the first octet. -/
def flowsNumber (message : ReconfigurationResponseMessage) : UInt32 :=
  if message.nofFlowsAccepted = .asIncluded then
    UInt32.ofNat message.flows.elements.length
  else toUnderlying message.nofFlowsAccepted

def pack
    (message : ReconfigurationResponseMessage)
    (macPduOffset : Nat)
    (memory : Memory) :
    Checked Memory := do
  let valid ← message.isValid
  dectnrpAssert valid "reconfiguration response message is not valid"
  let (offset, memory) := message.packFields message.flowsNumber
    macPduOffset memory
  assertPeeked ((getPackedSizeByPeeking macPduOffset).eval memory) offset
  pure memory

/-- Two numbers have a meaning of their own and no flows follow. -/
def isCoded (octet0 : UInt8) : Bool :=
  nFlows octet0 == 0 || nFlows octet0 == 7

/-- Number of flows that follow the first octet. -/
def flowsFollowing (octet0 : UInt8) : Nat :=
  if isCoded octet0 then 0 else nFlows octet0

/-- Which flows the first octet accepts. -/
def acceptedBy (octet0 : UInt8) : NofFlowsAccepted :=
  if isCoded octet0 then fromCodedValue (UInt32.ofNat (nFlows octet0))
  else .asIncluded

/-- Read the fields of a message; all fields are overwritten. -/
def unpack
    (macPduOffset : Nat) :
    OctetReader (ReconfigurationResponseMessage × Nat) := do
  let octet0 ← OctetReader.octet macPduOffset
  let (fields, offset) ←
    unpackFields octet0 (flowsFollowing octet0) macPduOffset
  pure (⟨fields, acceptedBy octet0⟩, offset)

/-- Nothing of the object that unpacks a message is kept. -/
def codec : MmieCodec ReconfigurationResponseMessage where
  isValid := isValid
  getPackedSize := getPackedSize
  pack := pack
  getPackedSizeMinToPeek := 1
  getPackedSizeByPeeking _ := getPackedSizeByPeeking
  unpack _ octets macPduOffset :=
    unpackRead getPackedSize isValid (unpack macPduOffset) octets
  SameContext _ _ := True
  sameContext_refl _ := trivial

/-- The checks of a message, each made only if its field is included. -/
def isAdmitted (message : ReconfigurationResponseMessage) : Bool :=
  message.harqAdmitted && message.restValid

theorem isValid_eq_ok_true
    {message : ReconfigurationResponseMessage} :
    message.isValid = .ok true ↔
      message.isComplete = true ∧ message.isAdmitted = true := by
  rw [isValid, checkHarq_eq_ok_true, isAdmitted, Bool.and_eq_true]

theorem restValid_iff (message : ReconfigurationResponseMessage) :
    message.restValid = true ↔
      CodedEnumeration.isValid message.nofFlowsAccepted = true ∧
      (message.nofFlowsAccepted = .asIncluded → message.flows.elements ≠ []) ∧
      message.flowsValid = true := by
  simp only [restValid, Bool.if_false_left, Bool.and_eq_true,
    Bool.not_eq_true', decide_eq_false_iff_not, Bool.or_eq_true, not_or,
    Bool.not_eq_false, beq_iff_eq, List.isEmpty_iff, not_and, and_assoc,
    ne_eq]

variable {message : ReconfigurationResponseMessage}

theorem getPackedSize_eq_ok
    {size : Nat} :
    message.getPackedSize = .ok size ↔
      message.isValid = .ok true ∧
        (1 + message.harqConfigurationTx.isSome.toNat +
          message.harqConfigurationRx.isSome.toNat +
          if message.nofFlowsAccepted = .asIncluded then
            message.flows.elements.length
          else 0) = size := by
  unfold getPackedSize
  cases message.isValid with
  | error fault => simp
  | ok valid => simp [Checked.dectnrpAssert_bind_eq_ok]

theorem peek_eq
    (message : ReconfigurationResponseMessage)
    (memory : Memory)
    (front : Nat) :
    codec.peek message memory front =
      .ok (.ok (sizeByFlags (memory front))) := by
  have within : (getPackedSizeByPeeking front).Within memory (front + 1) := by
    simp [getPackedSizeByPeeking]
  exact OctetReader.run_window within

/-- The message that octets stand for. -/
def received
    (memory : Memory)
    (front : Nat) :
    ReconfigurationResponseMessage :=
  ⟨ReconfiguredFields.received memory front
    (flowsFollowing (memory front)), acceptedBy (memory front)⟩

/-- Number of octets of a message whose first octet is known. -/
def bytesRead (octet0 : UInt8) : Nat :=
  flowsOffset octet0 + flowsFollowing octet0

/-- As many octets are peeked as are read. -/
theorem sizeByFlags_eq (octet0 : UInt8) :
    sizeByFlags octet0 = bytesRead octet0 := by
  have bound := nFlows_le octet0
  rw [sizeByFlags, bytesRead, flowsOffset_eq, flowsFollowing, isCoded]
  by_cases none : nFlows octet0 = 0
  · simp [none]
  by_cases all : nFlows octet0 = 7
  · simp [all]
  · have few : nFlows octet0 < 7 := by omega
    simp [none, all, few]

theorem eval_unpack
    (memory : Memory)
    (front : Nat) :
    (unpack front).eval memory =
      (received memory front, bytesRead (memory front)) := by
  simp only [unpack, eval_bind, eval_octet, eval_unpackFields, eval_pure]
  rfl

variable {memory : Memory}

/-- Unpacking loads the octets that are counted. -/
theorem within_unpack
    {limit front : Nat}
    (inside : front + bytesRead (memory front) ≤ limit) :
    (unpack front).Within memory limit := by
  simp only [unpack, within_bind, within_octet,
    eval_octet, within_pure, and_true]
  refine ⟨?_, within_unpackFields inside⟩
  rw [bytesRead, flowsOffset_eq] at inside
  omega

/-- Flows are accepted as included, or there are none. -/
def flowsAnnounced (message : ReconfigurationResponseMessage) : Prop :=
  message.nofFlowsAccepted = .asIncluded ∨ message.flows.elements = []

/-- Number of flows that are announced. -/
def nofFlowsAnnounced (message : ReconfigurationResponseMessage) : Nat :=
  if message.nofFlowsAccepted = .asIncluded then
    message.flows.elements.length
  else 0

theorem flowsAnnounced_iff (message : ReconfigurationResponseMessage) :
    message.flowsAnnounced ↔
      message.nofFlowsAnnounced = message.flows.elements.length := by
  unfold flowsAnnounced nofFlowsAnnounced
  by_cases included : message.nofFlowsAccepted = .asIncluded
  · simp [included]
  · simp [included, eq_comm, List.length_eq_zero_iff]

section Valid

variable
    {message : ReconfigurationResponseMessage}
    (valid : message.isValid = .ok true)

/-- The octets of a message. -/
def code (message : ReconfigurationResponseMessage) : List UInt8 :=
  message.toReconfiguredFields.code message.flowsNumber

include valid

theorem checks_of_valid :
    message.isComplete = true ∧ message.harqAdmitted = true ∧
      message.restValid = true := by
  obtain ⟨complete, admitted⟩ := isValid_eq_ok_true.mp valid
  exact ⟨complete, Bool.and_eq_true_iff.mp admitted⟩

theorem few_flows :
    message.flows.elements.length ≤ 6 :=
  flows_length_le_of_valid
    ((restValid_iff message).mp (checks_of_valid valid).2.2).2.2

/-- What a valid message accepts, and the number that stands for it. -/
theorem accepted_cases :
    (message.nofFlowsAccepted = .none ∧ message.flowsNumber = 0) ∨
      (message.nofFlowsAccepted = .asRequested ∧ message.flowsNumber = 7) ∨
      (message.nofFlowsAccepted = .asIncluded ∧
        message.flowsNumber.toNat = message.flows.elements.length ∧
        0 < message.flows.elements.length) := by
  obtain ⟨known, notEmpty, -⟩ :=
    (restValid_iff message).mp (checks_of_valid valid).2.2
  have few := few_flows valid
  unfold flowsNumber
  cases accepted : message.nofFlowsAccepted with
  | notDefined | upper =>
      rw [accepted] at known
      cases known
  | none => exact Or.inl ⟨rfl, rfl⟩
  | asRequested => exact Or.inr (Or.inl ⟨rfl, rfl⟩)
  | asIncluded =>
      refine Or.inr (Or.inr ⟨rfl, ?_, ?_⟩)
      · rw [if_pos rfl, UInt32.toNat_ofNat', Nat.mod_eq_of_lt (by omega)]
      · exact List.length_pos_iff.mpr (notEmpty accepted)

/-- The number of flows fits into its field. -/
theorem flowsNumber_lt :
    message.flowsNumber.toNat < 2 ^ 3 := by
  have few := few_flows valid
  rcases accepted_cases valid with
    ⟨-, isNumber⟩ | ⟨-, isNumber⟩ | ⟨-, isNumber, -⟩
  · rw [isNumber]
    decide
  · rw [isNumber]
    decide
  · omega

theorem flowsNumber_recovered
    {octet0 : UInt8}
    (isNumber : nFlows octet0 = message.flowsNumber.toNat) :
    flowsFollowing octet0 = message.nofFlowsAnnounced ∧
      acceptedBy octet0 = message.nofFlowsAccepted := by
  have few := few_flows valid
  unfold flowsFollowing acceptedBy isCoded nofFlowsAnnounced
  rw [isNumber]
  rcases accepted_cases valid with
    ⟨accepted, number⟩ | ⟨accepted, number⟩ | ⟨accepted, number, some⟩
  · rw [accepted, number]
    exact ⟨rfl, by decide⟩
  · rw [accepted, number]
    exact ⟨rfl, by decide⟩
  · have notCoded : (message.flows.elements.length == 0 ||
        message.flows.elements.length == 7) = false := by
      simp only [Bool.or_eq_false_iff, beq_eq_false_iff_ne]
      omega
    rw [accepted, number, notCoded]
    exact ⟨rfl, rfl⟩

theorem octet0_of_valid :
    let octet0 := message.octet0 message.flowsNumber
    harqSize octet0 =
        message.harqConfigurationTx.isSome.toNat +
          message.harqConfigurationRx.isSome.toNat ∧
      flowsFollowing octet0 = message.nofFlowsAnnounced ∧
      acceptedBy octet0 = message.nofFlowsAccepted := by
  obtain ⟨-, -, flows⟩ :=
    (restValid_iff message).mp (checks_of_valid valid).2.2
  obtain ⟨isTx, isRx, -, isNumber, -⟩ :=
    octet0_recovered message.harqConfigurationTx.isSome
      message.harqConfigurationRx.isSome message.rdCapabilityIeFollows
      ((flowsValid_iff _).mp flows).2 _ (flowsNumber_lt valid)
  exact ⟨by rw [harqSize_eq, octet0, isTx, isRx],
      flowsNumber_recovered valid isNumber⟩

/-- The size that is peeked from the octets of a message. -/
theorem sizeByFlags_octet0 :
    sizeByFlags (message.octet0 message.flowsNumber) =
      1 + message.harqConfigurationTx.isSome.toNat +
        message.harqConfigurationRx.isSome.toNat +
        message.nofFlowsAnnounced := by
  obtain ⟨isHarq, isFlows, -⟩ := octet0_of_valid valid
  rw [sizeByFlags_eq, bytesRead, flowsOffset_eq, isHarq, isFlows]
  omega

theorem getPackedSize_valid :
    message.getPackedSize =
      .ok (sizeByFlags (message.octet0 message.flowsNumber)) := by
  rw [getPackedSize_eq_ok, sizeByFlags_octet0 valid]
  exact ⟨valid, rfl⟩

/-- The size that is peeked is right if the flows are announced. -/
theorem sizeByFlags_octet0_eq_iff :
    sizeByFlags (message.octet0 message.flowsNumber) =
        message.code.length ↔
      message.flowsAnnounced := by
  rw [sizeByFlags_octet0 valid, flowsAnnounced_iff, code, code_length]
  omega

/-- A valid message is packed as its octets. -/
theorem pack_valid
    (macPduOffset : Nat)
    (memory : Memory) :
    message.pack macPduOffset memory = (do
      assertPeeked
        (.ok (sizeByFlags (message.octet0 message.flowsNumber)))
        message.code.length
      pure (memory.write macPduOffset message.code)) := by
  have octet0 :=
    octet0_of_holds (Memory.holds_write macPduOffset message.code memory)
  simp only [pack, valid, Checked.ok_bind, dectnrpAssert_true, packFields_eq]
  rw [← octet0]
  rfl

/-- A valid message whose flows are announced is unpacked again. -/
theorem unpack_valid
    (announced : message.flowsAnnounced)
    (initial : ReconfigurationResponseMessage)
    (memory : Memory)
    (front : Nat)
    (holds : memory.Holds front message.code) :
    codec.unpack initial (memory.window 0 (front + message.code.length))
        front =
      .ok (true, message) := by
  obtain ⟨-, harq, rest⟩ := checks_of_valid valid
  obtain ⟨-, -, flows⟩ := (restValid_iff message).mp rest
  obtain ⟨-, isFlows, isAccepted⟩ := octet0_of_valid valid
  have isSize := (sizeByFlags_octet0_eq_iff valid).mpr announced
  have sized := getPackedSize_valid valid
  rw [← octet0_of_holds holds] at isFlows isAccepted isSize sized
  rw [(flowsAnnounced_iff message).mp announced] at isFlows
  have same : received memory front = message := by
    rw [received, isFlows, isAccepted,
      ReconfiguredFields.received_code harq flows (flowsNumber_lt valid) holds]
  rw [isSize] at sized
  rw [sizeByFlags_eq] at isSize
  refine unpackRead_eq_ok.mpr ?_
  rw [eval_unpack, same, isSize]
  exact ⟨within_unpack (by rw [isSize]), sized, valid, rfl⟩

end Valid

/-- What a message needs to be checked and to be peeked correctly. -/
theorem restores_iff (admitted : message.isAdmitted = true) :
    codec.RoundTrips message ↔
      message.isComplete = true ∧ message.flowsAnnounced := by
  constructor
  · intro roundTrips
    obtain ⟨octets, sized, packed, -, -⟩ :=
      roundTrips message 0 (fun _ => 0) trivial
    have valid := (getPackedSize_eq_ok.mp sized).1
    refine ⟨(isValid_eq_ok_true.mp valid).1, ?_⟩
    change message.pack 0 _ = _ at packed
    rw [pack_valid valid, Checked.bind_eq_ok] at packed
    obtain ⟨_, passes, -⟩ := packed
    have isSize := assertPeeked_eq_ok.mp passes
    exact (sizeByFlags_octet0_eq_iff valid).mp (Except.ok.inj isSize)
  · rintro ⟨complete, announced⟩
    have valid := isValid_eq_ok_true.mpr ⟨complete, admitted⟩
    have isSize := (sizeByFlags_octet0_eq_iff valid).mpr announced
    refine @MmieCodec.roundTrips_of_code _ codec _ message.code
      (by rw [← isSize]; exact getPackedSize_valid valid) ?_ ?_
      fun initial memory front _ holds =>
        unpack_valid valid announced initial memory front holds
    · intro front memory
      change message.pack front memory = _
      rw [pack_valid valid]
      exact assertPeeked_bind (congrArg Except.ok isSize) _
    · intro initial memory front _ holds
      rw [peek_eq, octet0_of_holds holds, isSize]

/-- Octets that are unpacked safely: all is there and all flows exist. -/
def SafeOctets
    (memory : Memory)
    (front : Nat) :
    Prop :=
  HarqOctets memory front ∧
    (nFlows (memory front) = 0 ∨ nFlows (memory front) = 7 ∨
      FlowsAdmitted memory (front + 3) (nFlows (memory front)))

theorem received_coded
    {front : Nat}
    (harq : HarqOctets memory front)
    (coded : isCoded (memory front) = true) :
    (received memory front).restValid = true ∧
      (received memory front).nofFlowsAnnounced =
        flowsFollowing (memory front) := by
  have noFlows : flowsFollowing (memory front) = 0 := by
    rw [flowsFollowing, coded, if_pos rfl]
  have accepted : acceptedBy (memory front) = .none ∨
      acceptedBy (memory front) = .asRequested := by
    rw [acceptedBy, coded, if_pos rfl]
    simp only [isCoded, Bool.or_eq_true, beq_iff_eq] at coded
    rcases coded with none | all
    · rw [none]
      decide
    · rw [all]
      decide
  obtain ⟨flows, -⟩ :=
    (received_flows_iff harq 0).mpr (by simp [FlowsAdmitted, Memory.window])
  rw [restValid_iff, received, noFlows, nofFlowsAnnounced]
  rcases accepted with isNone | isAll
  · rw [isNone]
    refine ⟨⟨rfl, ?_, flows⟩, rfl⟩
    intro counted
    cases counted
  · rw [isAll]
    refine ⟨⟨rfl, ?_, flows⟩, rfl⟩
    intro counted
    cases counted

theorem received_rest_iff
    {front : Nat}
    (harq : HarqOctets memory front) :
    (received memory front).restValid = true ∧
        (received memory front).nofFlowsAnnounced =
          flowsFollowing (memory front) ↔
      nFlows (memory front) = 0 ∨ nFlows (memory front) = 7 ∨
        FlowsAdmitted memory (front + 3) (nFlows (memory front)) := by
  by_cases coded : isCoded (memory front) = true
  · refine iff_of_true (received_coded harq coded) ?_
    simp only [isCoded, Bool.or_eq_true, beq_iff_eq] at coded
    exact coded.imp_right Or.inl
  · have following : flowsFollowing (memory front) =
        nFlows (memory front) := by
      rw [flowsFollowing, if_neg coded]
    have accepted : acceptedBy (memory front) = .asIncluded := by
      rw [acceptedBy, if_neg coded]
    simp only [isCoded, Bool.or_eq_true, beq_iff_eq, not_or] at coded
    rw [or_iff_right coded.1, or_iff_right coded.2,
      ← received_flows_iff harq, restValid_iff, received, following,
      accepted, nofFlowsAnnounced, if_pos rfl]
    constructor
    · rintro ⟨⟨-, -, valid⟩, complete⟩
      exact ⟨valid, complete⟩
    · rintro ⟨valid, complete⟩
      refine ⟨⟨rfl, fun _ none => ?_, valid⟩, complete⟩
      exact coded.1 (complete.symm.trans (congrArg List.length none))

/-- What is received counts the octets that were read if they are safe. -/
theorem getPackedSize_received_iff
    (memory : Memory)
    (front : Nat) :
    (received memory front).getPackedSize =
        .ok (bytesRead (memory front)) ↔
      SafeOctets memory front := by
  have counted :
      (1 + (received memory front).harqConfigurationTx.isSome.toNat +
          (received memory front).harqConfigurationRx.isSome.toNat +
          if (received memory front).nofFlowsAccepted = .asIncluded then
            (received memory front).flows.elements.length
          else 0) = bytesRead (memory front) ↔
      (received memory front).nofFlowsAnnounced =
        flowsFollowing (memory front) := by
    rw [bytesRead, flowsOffset_eq, harqSize_eq]
    simp only [received, ReconfiguredFields.received,
      FieldFormat.optionalAt_isSome, nofFlowsAnnounced]
    omega
  rw [getPackedSize_eq_ok, counted, isValid_eq_ok_true, isAdmitted,
    Bool.and_eq_true, ← and_assoc, and_assoc, SafeOctets,
    ← received_harq_iff memory front (flowsFollowing (memory front))]
  refine and_congr_right fun harq => ?_
  exact received_rest_iff ((received_harq_iff memory front _).mp harq)

/-- Unpacking is safe for the octets of the condition and for no others. -/
theorem unpacksSafely_iff
    (initial : ReconfigurationResponseMessage)
    (memory : Memory)
    (front : Nat) :
    codec.UnpacksSafely initial memory front ↔ SafeOctets memory front := by
  rw [@MmieCodec.unpacksSafely_iff _ codec initial memory front
    (unpack front) fun _ => rfl]
  simp only [peek_eq, Except.ok.injEq, forall_eq', eval_unpack, sizeByFlags_eq]
  rw [← getPackedSize_received_iff,
    and_iff_right (within_unpack (Nat.le_refl _))]
  refine and_iff_left_of_imp fun sized => ⟨true, ?_⟩
  exact (getPackedSize_eq_ok.mp sized).1

end ReconfigurationResponseMessage

/--
An admitted request is restored exactly if both of its HARQ configurations are
included, and an admitted response if, beyond that, its flows are accepted as
included or there are none.
-/
theorem reconfiguration_roundTrips_iff
    (request : ReconfigurationRequestMessage)
    (response : ReconfigurationResponseMessage) :
    (request.isAdmitted = true →
      (ReconfigurationRequestMessage.codec.RoundTrips request ↔
        request.isComplete = true)) ∧
      (response.isAdmitted = true →
        (ReconfigurationResponseMessage.codec.RoundTrips response ↔
          response.isComplete = true ∧ response.flowsAnnounced)) :=
  ⟨ReconfigurationRequestMessage.restores_iff,
    ReconfigurationResponseMessage.restores_iff⟩

/-- A request with both configurations, and a response to all of its flows. -/
def reconfiguredBoth : ReconfiguredFields where
  harqConfigurationTx := some ⟨7, .us105⟩
  harqConfigurationRx := some ⟨1, .ms500⟩
  rdCapabilityIeFollows := true
  flows := KeyedSet.ofList [⟨.userPlaneDataFlow1, true⟩]
  radioResourceChange := .noChange

/-- A request and a response with both configurations. -/
theorem reconfiguration_roundTrips_iff_both :
    (ReconfigurationRequestMessage.codec.RoundTrips ⟨reconfiguredBoth⟩ ↔
        (⟨reconfiguredBoth⟩ :
          ReconfigurationRequestMessage).isComplete = true) ∧
      (ReconfigurationResponseMessage.codec.RoundTrips
          ⟨reconfiguredBoth, .asRequested⟩ ↔
        (⟨reconfiguredBoth, .asRequested⟩ :
          ReconfigurationResponseMessage).isComplete = true ∧
          (⟨reconfiguredBoth, .asRequested⟩ :
            ReconfigurationResponseMessage).flowsAnnounced) :=
  (reconfiguration_roundTrips_iff ⟨reconfiguredBoth⟩
    ⟨reconfiguredBoth, .asRequested⟩).imp
      (fun restores => restores (by decide +kernel))
      fun restores => restores (by decide +kernel)

/-- A request for more resources without HARQ cannot be packed. -/
theorem not_reconfiguration_roundTrips :
    ¬ ((∀ message : ReconfigurationRequestMessage,
        message.isAdmitted = true →
          ReconfigurationRequestMessage.codec.RoundTrips message) ∧
      ∀ message : ReconfigurationResponseMessage,
        message.isAdmitted = true →
          ReconfigurationResponseMessage.codec.RoundTrips message) := by
  rintro ⟨restores, -⟩
  let message : ReconfigurationRequestMessage :=
    { harqConfigurationTx := none
      harqConfigurationRx := none
      rdCapabilityIeFollows := false
      flows := KeyedSet.empty
      radioResourceChange := .moreResourcesRequested }
  have admitted : message.isAdmitted = true := by decide
  have complete :=
    (ReconfigurationRequestMessage.restores_iff admitted).mp
      (restores message admitted)
  cases complete

end DectNrp
