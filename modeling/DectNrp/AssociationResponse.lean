import DectNrp.AssociationFields
import Mathlib.Data.Int.Bitwise
import Mathlib.Data.Nat.SuccPred

namespace DectNrp

/-!
# Association response message

A rejection has two octets.  An acceptance has flags for a HARQ configuration
and a group, and the number of flows that follow; two of the numbers stand for
no flow and for all flows that were requested.  The bit that tells both apart
is inverted as part of a whole word, in which it is never the only one set.
-/

open CodedEnumeration (toUnderlying fromCodedValue)

/-- Why an association is rejected. -/
inductive RejectCause where
  | notDefined
  | radioCapacityNotSufficient
  | hwCapacityNotSufficient
  | conflictingShortRdId
  | associationRequestNotSecure
  | other
  | upper
  deriving Repr, DecidableEq

instance : CodedEnumeration RejectCause where
  toUnderlying
    | .notDefined => undefinedNumeric32
    | .radioCapacityNotSufficient => 0
    | .hwCapacityNotSufficient => 1
    | .conflictingShortRdId => 2
    | .associationRequestNotSecure => 3
    | .other => 4
    | .upper => 5
  notDefined := .notDefined
  lower := none
  upper := .upper
  codes :=
    [.radioCapacityNotSufficient, .hwCapacityNotSufficient,
      .conflictingShortRdId, .associationRequestNotSecure, .other]

/-- How long a rejected device has to wait. -/
inductive RejectTime where
  | notDefined
  | s0
  | s5
  | s10
  | s30
  | s60
  | s120
  | s180
  | s300
  | s600
  | upper
  deriving Repr, DecidableEq

instance : CodedEnumeration RejectTime where
  toUnderlying
    | .notDefined => undefinedNumeric32
    | .s0 => 0
    | .s5 => 1
    | .s10 => 2
    | .s30 => 3
    | .s60 => 4
    | .s120 => 5
    | .s180 => 6
    | .s300 => 7
    | .s600 => 8
    | .upper => 9
  notDefined := .notDefined
  lower := none
  upper := .upper
  codes := [.s0, .s5, .s10, .s30, .s60, .s120, .s180, .s300, .s600]

/-- Which flows are accepted. -/
inductive NofFlowsAccepted where
  | notDefined
  | none
  | asIncluded
  | asRequested
  | upper
  deriving Repr, DecidableEq

instance : CodedEnumeration NofFlowsAccepted where
  toUnderlying
    | .notDefined => undefinedNumeric32
    | .none => 0
    | .asIncluded => 1
    | .asRequested => 7
    | .upper => 8
  notDefined := .notDefined
  lower := Option.none
  upper := .upper
  codes := [.none, .asIncluded, .asRequested]

/-- Cause and time of a rejection. -/
structure RejectInfo where
  rejectCause : RejectCause
  rejectTime : RejectTime
  deriving Repr, DecidableEq

/-- HARQ configurations of both directions. -/
structure HarqConfigurationTxRx where
  tx : HarqConfiguration
  rx : HarqConfiguration
  deriving Repr, DecidableEq

/-- The group that a device is assigned to. -/
structure GroupInfo where
  groupId : UInt32
  resourceTag : UInt32
  deriving Repr, DecidableEq

namespace RejectInfo

def isValid (rejectInfo : RejectInfo) : Bool :=
  if ! CodedEnumeration.isValid rejectInfo.rejectCause ||
      ! CodedEnumeration.isValid rejectInfo.rejectTime then
    false
  else true

/-- The rejection that an octet stands for. -/
def ofOctet (octet : UInt8) : RejectInfo where
  rejectCause := fromCodedValue (octet.toUInt32 >>> 4)
  rejectTime := fromCodedValue (BitFields.extract octet 0 0b1111)

/-- The cause in the upper half of an octet and the time in the lower half. -/
def format : FieldFormat RejectInfo where
  size := 1
  write rejectInfo address memory :=
    (memory.assign address
      (toUnderlying rejectInfo.rejectCause <<< 4)).assignOr address
        (toUnderlying rejectInfo.rejectTime)
  read address := do
    let octet ← OctetReader.octet address
    pure (ofOctet octet)
  code rejectInfo :=
    [(toUnderlying rejectInfo.rejectCause <<< 4).toUInt8 |||
      (toUnderlying rejectInfo.rejectTime).toUInt8]
  code_length _ := rfl
  write_eq _ _ _ := by
    rw [Memory.assign_eq_write, Memory.assignOr_front]
  read_within _ _ _ inside := ⟨inside, trivial⟩

@[simp] theorem format_size :
    format.size = 1 :=
  rfl

@[simp] theorem format_valueAt
    (memory : Memory)
    (address : Nat) :
    format.valueAt memory address = ofOctet (memory address) :=
  rfl

/-- A valid rejection is recovered from its octet. -/
theorem recovers
    {rejectInfo : RejectInfo}
    (valid : rejectInfo.isValid = true) :
    format.Recovers rejectInfo := by
  intro memory address holds
  have isOctet := Memory.holds_singleton.mp holds
  change ofOctet (memory address) = rejectInfo
  rw [isOctet]
  obtain ⟨cause, time⟩ := rejectInfo
  revert valid
  cases cause <;> cases time <;> decide

/-- Causes from five on and times from nine on are reserved. -/
theorem ofOctet_isValid_iff (octet : UInt8) :
    (ofOctet octet).isValid = true ↔ octet >>> 4 < 5 ∧ octet &&& 15 < 9 := by
  revert octet
  apply BitFields.forall_octet
  decide +kernel

end RejectInfo

/-- The configuration of the receiver is in front. -/
def HarqConfigurationTxRx.format : FieldFormat HarqConfigurationTxRx :=
  (HarqConfiguration.format.paired HarqConfiguration.format).mapped
    (fun config => (config.rx, config.tx))
    fun field => ⟨field.2, field.1⟩

/-- A word in one octet whose upper bit is masked when it is read. -/
def sevenBits : FieldFormat UInt32 where
  size := 1
  write field address memory := memory.assign address field
  read address := do
    let octet ← OctetReader.octet address
    pure (BitFields.extract octet 0 0b1111111)
  code field := [field.toUInt8]
  code_length := FieldFormat.octet.code_length
  write_eq _ _ _ := Memory.assign_eq_write _ _ _
  read_within _ _ _ inside := ⟨inside, trivial⟩

/-- The group identifier and the resource tag. -/
def GroupInfo.format : FieldFormat GroupInfo :=
  (sevenBits.paired sevenBits).mapped
    (fun groupInfo => (groupInfo.groupId, groupInfo.resourceTag))
    fun field => ⟨field.1, field.2⟩

structure AssociationResponseMessage where
  rejectInfo : Option RejectInfo
  harqConfiguration : Option HarqConfigurationTxRx
  nofFlowsAccepted : NofFlowsAccepted
  flowIds : KeyedSet FlowId.key
  groupInfo : Option GroupInfo
  txPower : Bool
  deriving DecidableEq

namespace AssociationResponseMessage

def zero : AssociationResponseMessage where
  rejectInfo := none
  harqConfiguration := none
  nofFlowsAccepted := .notDefined
  flowIds := KeyedSet.empty
  groupInfo := none
  txPower := false

def isValid (message : AssociationResponseMessage) : Bool :=
  match message.rejectInfo with
  | some rejectInfo => rejectInfo.isValid
  | none =>
      if message.harqConfiguration.any
          fun config => ! config.rx.isValid || ! config.tx.isValid then
        false
      else if ! CodedEnumeration.isValid message.nofFlowsAccepted ||
          (message.nofFlowsAccepted == .asIncluded &&
            message.flowIds.elements.isEmpty) then
        false
      else if ! message.flowIds.elements.all
          fun flowId => CodedEnumeration.isValid flowId then
        false
      else if message.groupInfo.any fun groupInfo =>
          127 < groupInfo.groupId || 127 < groupInfo.resourceTag then
        false
      else true

def getPackedSize (message : AssociationResponseMessage) : Checked Nat := do
  dectnrpAssert message.isValid
    "association response message is not valid"
  if message.rejectInfo.isSome then pure 2
  else
    pure (1 + message.harqConfiguration.isSome.toNat * 2 +
      message.flowIds.elements.length +
      message.groupInfo.isSome.toNat * 2)

/-- `~octet >> 7`, where the octet is promoted to a signed word first. -/
def isRejection (octet0 : UInt8) : Bool :=
  (~~~ (octet0.toNat : Int)) >>> 7 ≠ 0

/-- Size of an acceptance whose first octet is known. -/
def sizeByFlags (octet0 : UInt8) : Nat :=
  1 + ((octet0 >>> 5) &&& 1).toNat * 2 +
    (if nFlows octet0 ≠ 7 then nFlows octet0 else 0) +
    (octet0 &&& 0b10).toNat * 2

def getPackedSizeByPeeking
    (macPduOffset : Nat) :
    OctetReader PeekResult := do
  let octet0 ← OctetReader.octet macPduOffset
  if isRejection octet0 then pure (.ok 2)
  else pure (.ok (sizeByFlags octet0))

/-- Write an acceptance and peek at its size. -/
def packAccepted
    (message : AssociationResponseMessage)
    (macPduOffset : Nat)
    (memory : Memory) :
    Checked Memory := do
  let memory := memory.assign macPduOffset ((1 : UInt32) <<< 7)
  let memory := memory.assignOr macPduOffset
    (message.harqConfiguration.isSome.toUInt32 <<< 5)
  let memory := memory.assignOr macPduOffset
    ((if message.nofFlowsAccepted = .asIncluded then
        UInt32.ofNat message.flowIds.elements.length
      else toUnderlying message.nofFlowsAccepted) <<< 2)
  let memory := memory.assignOr macPduOffset
    (message.groupInfo.isSome.toUInt32 <<< 1)
  let memory := memory.assignOr macPduOffset message.txPower.toUInt32
  let state := HarqConfigurationTxRx.format.packOptional macPduOffset
    message.harqConfiguration (1, memory)
  let state := FlowId.format.packAll macPduOffset
    message.flowIds.elements state
  let (offset, memory) := GroupInfo.format.packOptional macPduOffset
    message.groupInfo state
  assertPeeked ((getPackedSizeByPeeking macPduOffset).eval memory) offset
  pure memory

def pack
    (message : AssociationResponseMessage)
    (macPduOffset : Nat)
    (memory : Memory) :
    Checked Memory := do
  dectnrpAssert message.isValid
    "association request message is not valid"
  match message.rejectInfo with
  | some rejectInfo => do
      let memory := memory.assign macPduOffset 0
      let (_, memory) := RejectInfo.format.pack macPduOffset rejectInfo
        (1, memory)
      assertPeeked ((getPackedSizeByPeeking macPduOffset).eval memory) 2
      pure memory
  | none => message.packAccepted macPduOffset memory

/-- Read the fields of an acceptance. -/
def unpackAccepted
    (macPduOffset : Nat)
    (octet0 : UInt8) :
    OctetReader (AssociationResponseMessage × Nat) := do
  let (harqConfiguration, offset) ←
    HarqConfigurationTxRx.format.unpackOptional macPduOffset
      ((octet0 >>> 5) &&& 1 != 0) 1
  -- two numbers have a meaning of their own and no flows follow
  let coded := nFlows octet0 == 0 || nFlows octet0 == 7
  let (flowIds, offset) ←
    FlowId.format.unpackAll macPduOffset
      (if coded then 0 else nFlows octet0) offset
  let (groupInfo, offset) ←
    GroupInfo.format.unpackOptional macPduOffset
      (octet0 &&& 0b10 != 0) offset
  pure
    ({ rejectInfo := none
       harqConfiguration := harqConfiguration
       nofFlowsAccepted :=
         if coded then fromCodedValue (UInt32.ofNat (nFlows octet0))
         else .asIncluded
       flowIds := KeyedSet.ofList flowIds
       groupInfo := groupInfo
       txPower := octet0 &&& 1 != 0 }, offset)

/-- Read the fields of a message; all fields are overwritten. -/
def unpack
    (macPduOffset : Nat) :
    OctetReader (AssociationResponseMessage × Nat) := do
  let octet0 ← OctetReader.octet macPduOffset
  if isRejection octet0 then do
    let (rejectInfo, offset) ←
      RejectInfo.format.unpack macPduOffset 1
    pure ({ zero with rejectInfo := some rejectInfo }, offset)
  else unpackAccepted macPduOffset octet0

/-- Nothing of the object that unpacks a message is kept. -/
def codec : MmieCodec AssociationResponseMessage where
  isValid message := .ok message.isValid
  getPackedSize := getPackedSize
  pack := pack
  getPackedSizeMinToPeek := 1
  getPackedSizeByPeeking _ := getPackedSizeByPeeking
  unpack _ octets macPduOffset :=
    unpackRead getPackedSize (fun message => .ok message.isValid)
      (unpack macPduOffset) octets
  SameContext _ _ := True
  sameContext_refl _ := trivial

/-- A message that rejects an association and carries nothing else. -/
def rejection (rejectInfo : RejectInfo) : AssociationResponseMessage :=
  { zero with rejectInfo := some rejectInfo }

/-- Inverting an octet as a word sets all of the upper bits. -/
@[simp] theorem isRejection_eq_true (octet0 : UInt8) :
    isRejection octet0 = true := by
  revert octet0
  apply BitFields.forall_octet
  decide +kernel

@[simp] theorem rejection_isValid (rejectInfo : RejectInfo) :
    (rejection rejectInfo).isValid = rejectInfo.isValid :=
  rfl

theorem rejection_getPackedSize_iff (rejectInfo : RejectInfo) :
    (rejection rejectInfo).getPackedSize = .ok 2 ↔
      rejectInfo.isValid = true := by
  rw [getPackedSize, Checked.dectnrpAssert_bind_eq_ok, rejection_isValid]
  exact and_iff_left rfl

theorem eval_unpack
    (memory : Memory)
    (front : Nat) :
    (unpack front).eval memory =
      (rejection (RejectInfo.ofOctet (memory (front + 1))), 2) := by
  simp only [unpack, OctetReader.eval_bind, isRejection_eq_true, if_true,
    FieldFormat.eval_unpack, OctetReader.eval_pure]
  rfl

theorem within_unpack
    {memory : Memory}
    {limit front : Nat}
    (inside : front + 2 ≤ limit) :
    (unpack front).Within memory limit := by
  simp only [unpack, OctetReader.within_bind, OctetReader.within_octet,
    isRejection_eq_true, if_true, OctetReader.within_pure, and_true]
  exact ⟨by omega, FieldFormat.within_unpack _ inside⟩

theorem peek_eq
    (message : AssociationResponseMessage)
    (memory : Memory)
    (front : Nat) :
    codec.peek message memory front = .ok (.ok 2) := by
  have within : (getPackedSizeByPeeking front).Within memory (front + 1) := by
    simp [getPackedSizeByPeeking]
  have peeked : (getPackedSizeByPeeking front).eval memory = .ok 2 := by
    simp [getPackedSizeByPeeking]
  rw [← peeked]
  exact OctetReader.run_window within

theorem pack_rejection
    {rejectInfo : RejectInfo}
    (valid : rejectInfo.isValid = true)
    (macPduOffset : Nat)
    (memory : Memory) :
    (rejection rejectInfo).pack macPduOffset memory =
      .ok (memory.write macPduOffset
        (0 :: RejectInfo.format.code rejectInfo)) := by
  rw [pack, rejection_isValid, valid, dectnrpAssert_true, Checked.ok_bind]
  simp only [rejection, Memory.assign_eq_write macPduOffset]
  rw [FieldFormat.mk_write (by rfl)]
  simp [getPackedSizeByPeeking, assertPeeked_eq_ok.mpr]

/-- A valid message is restored exactly if it is a mere rejection. -/
theorem restores_iff
    {message : AssociationResponseMessage}
    (valid : message.isValid = true) :
    codec.RoundTrips message ↔
      ∃ rejectInfo, message = rejection rejectInfo := by
  constructor
  · intro roundTrips
    obtain ⟨octets, -, -, -, unpacked⟩ :=
      roundTrips message 0 (fun _ => 0) trivial
    obtain ⟨-, -, -, same⟩ := unpackRead_eq_ok.mp unpacked
    rw [eval_unpack] at same
    exact ⟨_, same.symm⟩
  · rintro ⟨rejectInfo, rfl⟩
    rw [rejection_isValid] at valid
    have sized := (rejection_getPackedSize_iff rejectInfo).mpr valid
    refine @MmieCodec.roundTrips_of_code _ codec _
      (0 :: RejectInfo.format.code rejectInfo) sized
      (pack_rejection valid) (fun _ _ _ _ _ => peek_eq _ _ _) ?_
    intro initial memory front _ holds
    have received : RejectInfo.ofOctet (memory (front + 1)) = rejectInfo :=
      FieldFormat.valueAt_eq (RejectInfo.recovers valid)
        (Memory.holds_cons_cons.mp holds).2
    refine unpackRead_eq_ok.mpr ?_
    rw [eval_unpack, received]
    exact ⟨within_unpack (Nat.le_refl _), sized, congrArg Except.ok valid, rfl⟩

/--
A valid message is restored exactly if it rejects the association and carries
nothing else.
-/
theorem associationResponse_roundTrips_iff
    {message : AssociationResponseMessage}
    (valid : message.isValid = true) :
    codec.RoundTrips message ↔
      ∃ rejectInfo, message = rejection rejectInfo :=
  restores_iff valid

/-- A rejection for ten minutes. -/
theorem associationResponse_roundTrips_iff_rejection :
    codec.RoundTrips (rejection ⟨.other, .s600⟩) ↔
      ∃ rejectInfo, rejection ⟨.other, .s600⟩ = rejection rejectInfo :=
  associationResponse_roundTrips_iff (by decide)

/-- An acceptance of all requested flows cannot be packed. -/
theorem not_associationResponse_roundTrips :
    ¬ ∀ message : AssociationResponseMessage,
      message.isValid = true → codec.RoundTrips message := by
  intro restores
  let message : AssociationResponseMessage :=
    { zero with nofFlowsAccepted := .asRequested }
  have valid : message.isValid = true := by decide
  obtain ⟨rejectInfo, same⟩ := (restores_iff valid).mp (restores message valid)
  cases congrArg AssociationResponseMessage.rejectInfo same

/-- Unpacking is safe exactly if cause and time are not reserved. -/
theorem unpacksSafely_iff
    (initial : AssociationResponseMessage)
    (memory : Memory)
    (front : Nat) :
    codec.UnpacksSafely initial memory front ↔
      memory (front + 1) >>> 4 < 5 ∧ memory (front + 1) &&& 15 < 9 := by
  rw [@MmieCodec.unpacksSafely_iff _ codec initial memory front
    (unpack front) fun _ => rfl, ← RejectInfo.ofOctet_isValid_iff,
    ← rejection_getPackedSize_iff]
  simp only [peek_eq, Except.ok.injEq, forall_eq', eval_unpack]
  rw [and_iff_right (within_unpack (Nat.le_refl _))]
  exact and_iff_left ⟨_, rfl⟩

end AssociationResponseMessage

end DectNrp
