import DectNrp.MmieFields

namespace DectNrp

/-!
# Resource allocation

A resource allocation without downlink and without uplink resources releases
everything that was scheduled before and has no further field.  Any other one
has a downlink, an uplink or both, and optional fields behind them.  The start
of an allocation takes one or two octets, which depends on the subcarrier
scaling factor.
-/

open FieldFormat (channelMasked word)
open BitFields (extract forall_octet)
open OctetReader (eval_bind eval_octet eval_pure within_bind within_octet)
open FieldFormat (channelMasked_size eval_unpackOptional octet_size
  optionalAt_isSome optionalAt_not_any optionalSize_eq unpackOptional_holds
  within_unpackOptional word_size)

/-- Time after which scheduled resources count as failed. -/
inductive DectScheduledResourceFailure where
  | notDefined
  | lower
  | ms20
  | ms50
  | ms100
  | ms200
  | ms500
  | ms1000
  | ms1500
  | ms3000
  | ms4000
  | ms5000
  | upper
  deriving Repr, DecidableEq

instance : CodedEnumeration DectScheduledResourceFailure where
  toUnderlying
    | .notDefined => undefinedNumeric32
    | .lower => 1
    | .ms20 => 2
    | .ms50 => 3
    | .ms100 => 4
    | .ms200 => 5
    | .ms500 => 6
    | .ms1000 => 7
    | .ms1500 => 8
    | .ms3000 => 9
    | .ms4000 => 10
    | .ms5000 => 11
    | .upper => 12
  notDefined := .notDefined
  lower := some .lower
  upper := .upper
  codes :=
    [.ms20, .ms50, .ms100, .ms200, .ms500, .ms1000, .ms1500, .ms3000,
      .ms4000, .ms5000]

/-- Unit of a length. -/
inductive LengthType where
  | lengthInSubslots
  | lengthInSlots
  deriving Repr, DecidableEq

/-- Unit in which an allocation is repeated. -/
inductive RepeatType where
  | repeatedInFollowingFrames
  | repeatedInFollowingSubslots
  deriving Repr, DecidableEq

namespace LengthType

/-- `std::to_underlying`. -/
def toUnderlying : LengthType → UInt32
  | .lengthInSubslots => 0
  | .lengthInSlots => 1

/-- The unit that a bit stands for. -/
def ofBit (bit : UInt8) : LengthType :=
  if bit = 0 then .lengthInSubslots else .lengthInSlots

end LengthType

/-- Resources from a subslot on. -/
structure SubslotAllocation where
  startSubslot : UInt32
  lengthType : LengthType
  length : UInt32
  deriving Repr, DecidableEq

namespace SubslotAllocation

/-- Number of octets of a start. -/
def startSize (mu : Nat) : Nat :=
  if mu ≤ 4 then 1 else 2

/-- A start and a length fit into their fields. -/
def isValid
    (mu : Nat)
    (allocation : SubslotAllocation) :
    Bool :=
  allocation.startSubslot ≤ (if mu ≤ 4 then 255 else 65535) &&
    allocation.length ≤ 127

/-- A length and its unit in one octet. -/
def lengthFormat : FieldFormat (LengthType × UInt32) where
  size := 1
  write field address memory :=
    (memory.assign address (field.1.toUnderlying <<< 7)).assignOr address
      field.2
  read address := do
    let octet ← OctetReader.octet address
    pure (.ofBit (octet >>> 7), (octet &&& 0b1111111).toUInt32)
  code field :=
    [(field.1.toUnderlying <<< 7).toUInt8 ||| field.2.toUInt8]
  code_length _ := rfl
  write_eq _ _ _ := by
    rw [Memory.assign_eq_write, Memory.assignOr_front]
  read_within _ _ _ inside := ⟨inside, trivial⟩

def format (mu : Nat) : FieldFormat SubslotAllocation :=
  ((word (startSize mu)).paired lengthFormat).mapped
    (fun allocation =>
      (allocation.startSubslot, allocation.lengthType,
        allocation.length))
    fun parts => ⟨parts.1, parts.2.1, parts.2.2⟩

@[simp] theorem format_size (mu : Nat) :
    (format mu).size = startSize mu + 1 :=
  rfl

theorem length_recovered (lengthType : LengthType) :
    ∀ length : UInt32,
      length.toNat < 2 ^ 7 →
        (LengthType.ofBit
            (((lengthType.toUnderlying <<< 7).toUInt8 |||
              length.toUInt8) >>> 7),
          (((lengthType.toUnderlying <<< 7).toUInt8 |||
            length.toUInt8) &&& 0b1111111).toUInt32) =
          (lengthType, length) := by
  apply BitFields.forall_field
  cases lengthType <;> decide +kernel

theorem lengthFormat_recovers
    {field : LengthType × UInt32}
    (fits : field.2.toNat < 2 ^ 7) :
    lengthFormat.Recovers field := by
  intro memory address holds
  have isOctet := Memory.holds_singleton.mp holds
  change (LengthType.ofBit (memory address >>> 7),
      (memory address &&& 0b1111111).toUInt32) = field
  rw [isOctet]
  exact length_recovered field.1 field.2 fits

/-- A valid allocation is recovered. -/
theorem recovers_of_isValid
    {mu : Nat}
    {allocation : SubslotAllocation}
    (valid : isValid mu allocation = true) :
    (format mu).Recovers allocation := by
  simp only [isValid, Bool.and_eq_true, decide_eq_true_eq,
    UInt32.le_iff_toNat_le] at valid
  obtain ⟨startFits, lengthFits⟩ := valid
  refine FieldFormat.mapped_recovers rfl
    (FieldFormat.paired_recovers (FieldFormat.word_recovers ?_)
      (lengthFormat_recovers (Nat.lt_succ_of_le lengthFits)))
  unfold startSize
  split at startFits <;> rename_i small <;>
    simp only [small, if_true, if_false] <;>
    exact Nat.lt_succ_of_le startFits

/-- Whatever is read is valid. -/
theorem valueAt_isValid
    (mu : Nat)
    (memory : Memory)
    (address : Nat) :
    isValid mu ((format mu).valueAt memory address) = true := by
  have bound := @FieldFormat.word_valueAt_lt (startSize mu) memory address
  have length (octet : UInt8) :
      (octet &&& 0b1111111).toUInt32 ≤ 127 := by
    revert octet
    apply forall_octet
    decide +kernel
  simp only [format, FieldFormat.mapped_valueAt,
    FieldFormat.paired_valueAt, isValid, Bool.and_eq_true,
    decide_eq_true_eq]
  refine ⟨?_, length _⟩
  rw [UInt32.le_iff_toNat_le]
  unfold startSize at bound ⊢
  split at bound <;> rename_i small <;>
    simp only [small, if_true, if_false] <;>
    exact Nat.le_of_lt_succ bound

end SubslotAllocation

/-- A repetition and its validity, as two octets. -/
def repetitionValidity : FieldFormat (UInt32 × UInt32) :=
  FieldFormat.octet.paired FieldFormat.octet

@[simp] theorem repetitionValidity_size :
    repetitionValidity.size = 2 :=
  rfl

/-- A repetition that is received is invalid only if it is zero. -/
theorem repetition_checked
    (memory : Memory)
    (address : Nat) :
    (255 < FieldFormat.octet.valueAt memory address ||
      FieldFormat.octet.valueAt memory address = 0 ||
      255 < FieldFormat.octet.valueAt memory (address + 1)) = false ↔
      memory address ≠ 0 := by
  have repetition := FieldFormat.octet_valueAt_not_lt memory address
  have validity := FieldFormat.octet_valueAt_not_lt memory (address + 1)
  have zero (octet : UInt8) : octet.toUInt32 = 0 ↔ octet = 0 := by
    revert octet
    apply forall_octet
    decide +kernel
  have isZero :
      FieldFormat.octet.valueAt memory address = 0 ↔ memory address = 0 :=
    zero (memory address)
  simp only [Bool.or_eq_false_iff, decide_eq_false_iff_not, isZero]
  exact ⟨fun checks => checks.1.2, fun notZero =>
    ⟨⟨repetition, notZero⟩, validity⟩⟩

/-- How an allocation is repeated. -/
structure RepeatInfo where
  repeatType : RepeatType
  allowSpecificRepeatedResources : Bool
  repetition : UInt32
  validity : UInt32
  deriving Repr, DecidableEq

/-- The code of a repeated allocation. -/
def RepeatType.toUnderlying
    (repeatType : RepeatType)
    (allowSpecificRepeatedResources : Bool) :
    UInt32 :=
  match repeatType with
  | .repeatedInFollowingFrames =>
      if allowSpecificRepeatedResources then 3 else 1
  | .repeatedInFollowingSubslots =>
      if allowSpecificRepeatedResources then 4 else 2

structure ResourceAllocationIe where
  allocationDl : Option SubslotAllocation
  allocationUl : Option SubslotAllocation
  isAdditionalAllocation : Bool
  shortRdId : Option UInt32
  repeatInfo : Option RepeatInfo
  sfnOffset : Option UInt32
  channel : Option UInt32
  dectScheduledResourceFailure : Option DectScheduledResourceFailure
  mu : Nat
  deriving Repr, DecidableEq

namespace ResourceAllocationIe

open CodedEnumeration (toUnderlying fromCodedValue)

/-- An element with nothing but a scaling factor. -/
def zero (mu : Nat) : ResourceAllocationIe where
  allocationDl := none
  allocationUl := none
  isAdditionalAllocation := false
  shortRdId := none
  repeatInfo := none
  sfnOffset := none
  channel := none
  dectScheduledResourceFailure := none
  mu := mu

/-- No resources are allocated, so that all earlier ones are released. -/
def releasesAll (ie : ResourceAllocationIe) : Bool :=
  ie.allocationDl.isNone && ie.allocationUl.isNone

/-- A repetition that is out of its range. -/
def repeatInvalid (info : RepeatInfo) : Bool :=
  255 < info.repetition || info.repetition = 0 || 255 < info.validity

/-- The checks behind the repetition. -/
def restValid (ie : ResourceAllocationIe) : Bool :=
  if ie.sfnOffset.any fun offset => 255 < offset then false
  else if ie.channel.any
      fun channel => ! isAbsoluteChannelNumberInRange channel then
    false
  else if ie.dectScheduledResourceFailure.any
      fun failure => ! CodedEnumeration.isValid failure then
    false
  else true

/-- The value of an optional field is asked for before its presence. -/
def isValid (ie : ResourceAllocationIe) : Checked Bool :=
  if ie.releasesAll then pure true
  else do
    let allocationDl ← Checked.value ie.allocationDl
    if ! SubslotAllocation.isValid ie.mu allocationDl then pure false
    else do
      let allocationUl ← Checked.value ie.allocationUl
      if ! SubslotAllocation.isValid ie.mu allocationUl then pure false
      else if ie.shortRdId.any fun id => 65535 < id then pure false
      else do
        let repeatInfo ← Checked.value ie.repeatInfo
        if repeatInvalid repeatInfo then pure false
        else pure ie.restValid

def getPackedSize (ie : ResourceAllocationIe) : Checked Nat := do
  let valid ← ie.isValid
  dectnrpAssert valid "resource allocation IE is not valid"
  if ie.releasesAll then pure 1
  else
    pure ((if ie.mu ≤ 4 then 4 else 5) +
      (if ie.allocationDl.isSome && ie.allocationUl.isSome then
        (if ie.mu ≤ 4 then 2 else 3) else 0) +
      ie.shortRdId.isSome.toNat * 2 +
      ie.repeatInfo.isSome.toNat * 2 + ie.sfnOffset.isSome.toNat +
      ie.channel.isSome.toNat * 2 +
      ie.dectScheduledResourceFailure.isSome.toNat)

/-- Allocated resources by the two upper bits of the first octet. -/
def allocatesDl (octet0 : UInt8) : Bool :=
  octet0 >>> 6 = 1 || octet0 >>> 6 = 3

/-- As `allocatesDl`, for uplink resources. -/
def allocatesUl (octet0 : UInt8) : Bool :=
  octet0 >>> 6 = 2 || octet0 >>> 6 = 3

/-- The three bits that tell how an allocation is repeated. -/
def repeatBits (octet0 : UInt8) : UInt8 :=
  (octet0 >>> 1) &&& 0b111

/-- Size up to the repetition, which the first octet tells. -/
def sizeByOctet0
    (mu : Nat)
    (octet0 : UInt8) :
    Nat :=
  (if octet0 >>> 6 = 3 then (if mu ≤ 4 then 6 else 8)
    else (if mu ≤ 4 then 4 else 5)) +
    (if (octet0 >>> 4) &&& 1 != 0 then 2 else 0) +
    (if repeatBits octet0 != 0 then 2 else 0)

def getPackedSizeByPeeking
    (mu : Nat)
    (macPduOffset : Nat) :
    OctetReader PeekResult := do
  let octet0 ← OctetReader.octet macPduOffset
  if octet0 >>> 6 = 0 then pure (.ok 1)
  else if 4 < repeatBits octet0 then
    pure (.error .nonreservedFieldSetToReserved)
  else do
    let octet1 ← OctetReader.octet (macPduOffset + 1)
    pure (.ok (sizeByOctet0 mu octet0 + (octet0 &&& 1).toNat +
      (octet1 >>> 7).toNat * 2 + ((octet1 >>> 6) &&& 1).toNat))

/-- A failure time as one octet, whose lower half is its code. -/
def failureFormat : FieldFormat DectScheduledResourceFailure where
  size := 1
  write failure address memory :=
    memory.assign address (toUnderlying failure)
  read address := do
    let octet ← OctetReader.octet address
    pure (fromCodedValue (BitFields.extract octet 0 0b1111))
  code failure := [(toUnderlying failure).toUInt8]
  code_length _ := rfl
  write_eq _ _ _ := Memory.assign_eq_write _ _ _
  read_within _ _ _ inside := ⟨inside, trivial⟩

@[simp] theorem failureFormat_size :
    failureFormat.size = 1 :=
  rfl

/-- Write the optional fields behind the first two octets. -/
def packFields
    (ie : ResourceAllocationIe)
    (macPduOffset : Nat)
    (state : Nat × Memory) :
    Nat × Memory :=
  let state := (SubslotAllocation.format ie.mu).packOptional macPduOffset
    ie.allocationDl state
  let state := (SubslotAllocation.format ie.mu).packOptional macPduOffset
    ie.allocationUl state
  let state := (word 2).packOptional macPduOffset
    ie.shortRdId state
  let state := repetitionValidity.packOptional macPduOffset
    (ie.repeatInfo.map fun info => (info.repetition, info.validity))
    state
  let state := FieldFormat.octet.packOptional macPduOffset ie.sfnOffset
    state
  let state := channelMasked.packOptional macPduOffset
    ie.channel state
  failureFormat.packOptional macPduOffset
    ie.dectScheduledResourceFailure state

def pack
    (ie : ResourceAllocationIe)
    (macPduOffset : Nat)
    (memory : Memory) :
    Checked Memory := do
  let valid ← ie.isValid
  dectnrpAssert valid "resource allocation IE is not valid"
  -- allocation type in octet 0
  let memory := memory.assign macPduOffset
    (ie.allocationUl.isSome.toUInt32 <<< 7)
  let memory := memory.assignOr macPduOffset
    (ie.allocationDl.isSome.toUInt32 <<< 6)
  if memory macPduOffset = 0 then do
    assertPeeked
      ((getPackedSizeByPeeking ie.mu macPduOffset).eval memory) 1
    pure memory
  else do
    let memory := memory.assignOr macPduOffset
      (ie.isAdditionalAllocation.toUInt32 <<< 5)
    let memory := memory.assignOr macPduOffset
      (ie.shortRdId.isSome.toUInt32 <<< 4)
    -- the repetition has to be there
    let repeatInfo ← Checked.value ie.repeatInfo
    let memory := memory.assignOr macPduOffset
      (repeatInfo.repeatType.toUnderlying
        repeatInfo.allowSpecificRepeatedResources <<< 1)
    let memory := memory.assignOr macPduOffset
      ie.sfnOffset.isSome.toUInt32
    -- octet 1
    let memory := memory.assign (macPduOffset + 1)
      (ie.channel.isSome.toUInt32 <<< 7)
    let memory := memory.assignOr (macPduOffset + 1)
      (ie.dectScheduledResourceFailure.isSome.toUInt32 <<< 6)
    let (nBytes, memory) := ie.packFields macPduOffset (2, memory)
    assertPeeked
      ((getPackedSizeByPeeking ie.mu macPduOffset).eval memory) nBytes
    pure memory

/-- Type and permission of a repetition that is not reserved. -/
def repeatTypeOf (bits : UInt8) : RepeatType × Bool :=
  if bits = 1 then (.repeatedInFollowingFrames, false)
  else if bits = 2 then (.repeatedInFollowingSubslots, false)
  else if bits = 3 then (.repeatedInFollowingFrames, true)
  else (.repeatedInFollowingSubslots, true)

/-- Unpack an element; all but the scaling factor is overwritten. -/
def unpack
    (mu : Nat)
    (macPduOffset : Nat) :
    OctetReader (Checked (Bool × ResourceAllocationIe)) := do
  let octet0 ← OctetReader.octet macPduOffset
  if octet0 >>> 6 = 0 then pure (.ok (true, zero mu))
  else do
    let (allocationDl, nBytes) ←
      (SubslotAllocation.format mu).unpackOptional macPduOffset
        (allocatesDl octet0) 2
    let (allocationUl, nBytes) ←
      (SubslotAllocation.format mu).unpackOptional macPduOffset
        (allocatesUl octet0) nBytes
    let (shortRdId, nBytes) ←
      (word 2).unpackOptional macPduOffset
        ((octet0 >>> 4) &&& 1 != 0) nBytes
    let ie := { zero mu with
      allocationDl := allocationDl
      allocationUl := allocationUl
      isAdditionalAllocation := (octet0 >>> 5) &&& 1 != 0
      shortRdId := shortRdId }
    if 4 < repeatBits octet0 then pure (.ok (false, ie))
    else do
      let (repetition, nBytes) ←
        repetitionValidity.unpackOptional macPduOffset
          (repeatBits octet0 != 0) nBytes
      let repeatType := repeatTypeOf (repeatBits octet0)
      let (sfnOffset, nBytes) ←
        FieldFormat.octet.unpackOptional macPduOffset
          (octet0 &&& 1 != 0) nBytes
      let octet1 ← OctetReader.octet (macPduOffset + 1)
      let (channel, nBytes) ←
        channelMasked.unpackOptional macPduOffset
          (octet1 >>> 7 != 0) nBytes
      let (failure, nBytes) ←
        failureFormat.unpackOptional macPduOffset
          ((octet1 >>> 6) &&& 1 != 0) nBytes
      pure (finishUnpacking getPackedSize isValid
        ({ ie with
          repeatInfo := repetition.map fun fields =>
            ⟨repeatType.1, repeatType.2, fields.1, fields.2⟩
          sfnOffset := sfnOffset
          channel := channel
          dectScheduledResourceFailure := failure }, nBytes))

/-- An element is unpacked by an object with the same scaling factor. -/
def codec : MmieCodec ResourceAllocationIe where
  isValid := isValid
  getPackedSize := getPackedSize
  pack := pack
  getPackedSizeMinToPeek := 2
  getPackedSizeByPeeking ie := getPackedSizeByPeeking ie.mu
  unpack ie octets macPduOffset :=
    (unpack ie.mu macPduOffset).check octets
  SameContext initial ie := initial.mu = ie.mu
  sameContext_refl _ := rfl

/-- The checks of `isValid`, each made only if its field is included. -/
def isAdmitted (ie : ResourceAllocationIe) : Bool :=
  if ie.releasesAll then true
  else if ie.allocationDl.any
      fun allocation => ! SubslotAllocation.isValid ie.mu allocation then
    false
  else if ie.allocationUl.any
      fun allocation => ! SubslotAllocation.isValid ie.mu allocation then
    false
  else if ie.shortRdId.any fun id => 65535 < id then false
  else if ie.repeatInfo.any repeatInvalid then false
  else ie.restValid

/-- Every optional field that is asked for is there. -/
def isComplete (ie : ResourceAllocationIe) : Bool :=
  ie.allocationDl.isSome && ie.allocationUl.isSome &&
    ie.repeatInfo.isSome

variable {ie : ResourceAllocationIe}

/-- Whatever is admitted is valid, or its check throws. -/
theorem isValid_of_isAdmitted (admitted : ie.isAdmitted = true) :
    ie.isValid =
      if ie.releasesAll || ie.isComplete then .ok true
      else .error .badOptionalAccess := by
  obtain ⟨allocationDl, allocationUl, _, _, repeatInfo, _, _, _, _⟩ := ie
  rcases allocationDl with _ | allocationDl <;>
    rcases allocationUl with _ | allocationUl <;>
    rcases repeatInfo with _ | repeatInfo <;>
    simp [isAdmitted, isValid, isComplete, releasesAll] at admitted ⊢ <;>
    simp [admitted]

/-- A complete element releases nothing. -/
theorem not_releasesAll_of_isComplete (complete : ie.isComplete = true) :
    ie.releasesAll = false := by
  simp only [isComplete, Bool.and_eq_true] at complete
  simp [releasesAll, Option.isSome_iff_ne_none.mp complete.1.1]

/-- The first octet of an element that allocates in both directions. -/
def octet0Of
    (additional id : Bool)
    (repeatType : RepeatType)
    (allow sfn : Bool) :
    UInt8 :=
  (true.toUInt32 <<< 7).toUInt8 ||| (true.toUInt32 <<< 6).toUInt8 |||
    (additional.toUInt32 <<< 5).toUInt8 ||| (id.toUInt32 <<< 4).toUInt8 |||
    (repeatType.toUnderlying allow <<< 1).toUInt8 |||
    sfn.toUInt32.toUInt8

/-- The second octet. -/
def octet1Of (channel failure : Bool) : UInt8 :=
  (channel.toUInt32 <<< 7).toUInt8 ||| (failure.toUInt32 <<< 6).toUInt8

/-- The octets of a complete element. -/
def code
    (ie : ResourceAllocationIe)
    (info : RepeatInfo) :
    List UInt8 :=
  [octet0Of ie.isAdditionalAllocation ie.shortRdId.isSome
      info.repeatType info.allowSpecificRepeatedResources
      ie.sfnOffset.isSome,
    octet1Of ie.channel.isSome ie.dectScheduledResourceFailure.isSome] ++
    (SubslotAllocation.format ie.mu).optionalCode ie.allocationDl ++
    (SubslotAllocation.format ie.mu).optionalCode ie.allocationUl ++
    (word 2).optionalCode ie.shortRdId ++
    repetitionValidity.optionalCode
      (ie.repeatInfo.map fun info => (info.repetition, info.validity)) ++
    FieldFormat.octet.optionalCode ie.sfnOffset ++
    channelMasked.optionalCode ie.channel ++
    failureFormat.optionalCode ie.dectScheduledResourceFailure

/-- The fields of the first octet are found where they were placed. -/
theorem octet0_recovered
    (additional id : Bool)
    (repeatType : RepeatType)
    (allow sfn : Bool) :
    let octet0 := octet0Of additional id repeatType allow sfn
    octet0 >>> 6 = 3 ∧ ((octet0 >>> 5) &&& 1 != 0) = additional ∧
      ((octet0 >>> 4) &&& 1 != 0) = id ∧
      ¬ 4 < repeatBits octet0 ∧ (repeatBits octet0 != 0) = true ∧
      repeatTypeOf (repeatBits octet0) = (repeatType, allow) ∧
      (octet0 &&& 1 != 0) = sfn ∧ (octet0 &&& 1).toNat = sfn.toNat := by
  revert additional id allow sfn
  cases repeatType <;> decide

/-- The fields of the second octet are found where they were placed. -/
theorem octet1_recovered (channel failure : Bool) :
    let octet1 := octet1Of channel failure
    (octet1 >>> 7 != 0) = channel ∧
      ((octet1 >>> 6) &&& 1 != 0) = failure ∧
      (octet1 >>> 7).toNat = channel.toNat ∧
      ((octet1 >>> 6) &&& 1).toNat = failure.toNat := by
  revert channel failure
  decide

/-- The checks of an element that is admitted and allocates something. -/
structure Fields (ie : ResourceAllocationIe) : Prop where
  allocationDl :
    ∀ allocation ∈ ie.allocationDl,
      (SubslotAllocation.format ie.mu).Recovers allocation
  allocationUl :
    ∀ allocation ∈ ie.allocationUl,
      (SubslotAllocation.format ie.mu).Recovers allocation
  shortRdId : ∀ id ∈ ie.shortRdId, (word 2).Recovers id
  repeatInfo :
    ∀ fields ∈
      ie.repeatInfo.map fun info => (info.repetition, info.validity),
      repetitionValidity.Recovers fields
  sfnOffset : ∀ offset ∈ ie.sfnOffset, FieldFormat.octet.Recovers offset
  channel :
    ∀ channel ∈ ie.channel, channelMasked.Recovers channel
  dectScheduledResourceFailure :
    ∀ failure ∈ ie.dectScheduledResourceFailure,
      failureFormat.Recovers failure

variable {mu : Nat}

theorem allocation_recovers
    {allocation : Option SubslotAllocation}
    (checked :
      ¬ (allocation.any fun allocation =>
        ! SubslotAllocation.isValid mu allocation) = true) :
    ∀ value ∈ allocation, (SubslotAllocation.format mu).Recovers value := by
  intro value isValue
  apply SubslotAllocation.recovers_of_isValid
  simpa [Option.mem_def.mp isValue] using checked

theorem repetition_recovers
    {repeatInfo : Option RepeatInfo}
    (checked : ¬ (repeatInfo.any repeatInvalid) = true) :
    ∀ fields ∈
      repeatInfo.map fun info => (info.repetition, info.validity),
      repetitionValidity.Recovers fields := by
  intro fields isFields
  obtain ⟨info, isInfo, rfl⟩ := Option.mem_map.mp isFields
  simp only [Option.mem_def.mp isInfo, Option.any_some, repeatInvalid,
    Bool.or_eq_true, decide_eq_true_eq, not_or] at checked
  exact FieldFormat.paired_recovers
      (FieldFormat.octet_recovers_of_not_lt checked.1.1)
      (FieldFormat.octet_recovers_of_not_lt checked.2)

theorem failure_recovers
    {failure : DectScheduledResourceFailure}
    (valid : CodedEnumeration.isValid failure = true) :
    failureFormat.Recovers failure := by
  intro memory address holds
  have isOctet := Memory.holds_singleton.mp holds
  change fromCodedValue (extract (memory address) 0 0b1111) = failure
  rw [isOctet]
  revert valid
  cases failure <;> decide

theorem fields_of_isAdmitted
    (admitted : ie.isAdmitted = true)
    (allocates : ie.releasesAll = false) :
    Fields ie := by
  simp only [isAdmitted, allocates, restValid, Bool.false_eq_true,
    if_false, Bool.if_false_left, Bool.and_eq_true, Bool.not_eq_true',
    decide_eq_false_iff_not, Bool.and_true] at admitted
  obtain ⟨dl, ul, id, repetition, sfn, channel, failure⟩ := admitted
  exact
    { allocationDl := allocation_recovers dl
      allocationUl := allocation_recovers ul
      shortRdId := FieldFormat.word_recovers_of_any id
      repeatInfo := repetition_recovers repetition
      sfnOffset := FieldFormat.octet_recovers_of_any sfn
      channel := fun number isNumber =>
        FieldFormat.channelMasked_recovers
          (FieldFormat.channel_in_range_of_any channel number isNumber)
      dectScheduledResourceFailure := by
        intro value isValue
        apply failure_recovers
        simpa [Option.mem_def.mp isValue] using failure }

theorem code_length
    (complete : ie.isComplete = true)
    (info : RepeatInfo) :
    (ie.code info).length =
      (if ie.mu ≤ 4 then 6 else 8) + ie.shortRdId.isSome.toNat * 2 + 2 +
        ie.sfnOffset.isSome.toNat + ie.channel.isSome.toNat * 2 +
        ie.dectScheduledResourceFailure.isSome.toNat := by
  simp only [isComplete, Bool.and_eq_true] at complete
  obtain ⟨⟨dl, ul⟩, repetition⟩ := complete
  simp only [code, List.length_append, FieldFormat.optionalCode_length,
    optionalSize_eq, SubslotAllocation.format_size,
    word_size, octet_size,
    channelMasked_size, failureFormat_size,
    repetitionValidity_size, Option.isSome_map, dl, ul, repetition,
    Bool.toNat_true, List.length_cons, List.length_nil,
    SubslotAllocation.startSize]
  split <;> omega

variable {memory : Memory}

variable
  {info : RepeatInfo}
  {macPduOffset : Nat}

/-- The first two octets of a complete element. -/
theorem octets_of_holds (holds : memory.Holds macPduOffset (ie.code info)) :
    memory macPduOffset =
        octet0Of ie.isAdditionalAllocation ie.shortRdId.isSome
          info.repeatType info.allowSpecificRepeatedResources
          ie.sfnOffset.isSome ∧
      memory (macPduOffset + 1) =
        octet1Of ie.channel.isSome ie.dectScheduledResourceFailure.isSome := by
  have first := holds.front.front.front.front.front.front.front
  rw [Memory.holds_cons_cons, Memory.holds_singleton] at first
  exact first

/-- Peeking at the octets of a complete element finds their number. -/
theorem peeked_code
    (complete : ie.isComplete = true)
    {memory : Memory}
    (holds : memory.Holds macPduOffset (ie.code info)) :
    (getPackedSizeByPeeking ie.mu macPduOffset).eval memory =
        .ok (ie.code info).length := by
  obtain ⟨isOctet0, isOctet1⟩ := octets_of_holds holds
  obtain ⟨isType, -, id, notReserved, repeated, -, -, sfn⟩ :=
    octet0_recovered ie.isAdditionalAllocation ie.shortRdId.isSome
      info.repeatType info.allowSpecificRepeatedResources
      ie.sfnOffset.isSome
  obtain ⟨-, -, channel, failure⟩ :=
    octet1_recovered ie.channel.isSome ie.dectScheduledResourceFailure.isSome
  rw [← isOctet0] at isType id notReserved repeated sfn
  rw [← isOctet1] at channel failure
  have notRelease : ¬ memory macPduOffset >>> 6 = 0 := by
    rw [isType]
    decide
  have fixedSize : sizeByOctet0 ie.mu (memory macPduOffset) =
      (if ie.mu ≤ 4 then 6 else 8) + ie.shortRdId.isSome.toNat * 2 + 2 := by
    simp only [sizeByOctet0, isType, id, repeated, if_true]
    cases ie.shortRdId.isSome <;> rfl
  simp only [getPackedSizeByPeeking, eval_bind,
    eval_octet, if_neg notRelease, if_neg notReserved,
    eval_pure, fixedSize, sfn, channel, failure,
    code_length complete]

theorem within_peek
    (mu : Nat)
    (memory : Memory)
    (macPduOffset : Nat) :
    (getPackedSizeByPeeking mu macPduOffset).Within memory
      (macPduOffset + 2) := by
  simp only [getPackedSizeByPeeking, within_bind, within_octet, eval_octet]
  refine ⟨by omega, ?_⟩
  split
  · trivial
  · split
    · trivial
    · rw [within_bind, within_octet]
      exact ⟨by omega, trivial⟩

theorem peek_eq
    (ie : ResourceAllocationIe)
    (memory : Memory)
    (front : Nat) :
    codec.peek ie memory front =
      .ok ((getPackedSizeByPeeking ie.mu front).eval memory) :=
  MmieCodec.peek_eq (within_peek ie.mu memory front)

theorem pack_complete
    (admitted : ie.isAdmitted = true)
    (complete : ie.isComplete = true)
    (repeats : ie.repeatInfo = some info)
    (macPduOffset : Nat)
    (memory : Memory) :
    ie.pack macPduOffset memory =
      .ok (memory.write macPduOffset (ie.code info)) := by
  have peeked :=
    peeked_code complete
      (Memory.holds_write macPduOffset (ie.code info) memory)
  have valid := isValid_of_isAdmitted admitted
  rw [complete, Bool.or_true, if_pos rfl] at valid
  simp only [isComplete, Bool.and_eq_true] at complete
  obtain ⟨⟨dl, ul⟩, -⟩ := complete
  have allocates : ¬ ((true.toUInt32 <<< 7).toUInt8 |||
      (true.toUInt32 <<< 6).toUInt8) = 0 := by
    decide
  simp only [pack, valid, Checked.ok_bind, dectnrpAssert_true,
    Memory.assign_eq_write macPduOffset, Memory.assignOr_front, dl, ul,
    Memory.write_front, if_neg allocates, repeats, Checked.value_some]
  rw [Memory.assign_behind macPduOffset (by rfl),
    Memory.assignOr_inside macPduOffset (by simp),
    FieldFormat.mk_write (by rfl)]
  simp only [packFields, FieldFormat.packOptional_written,
    FieldFormat.written_fst, FieldFormat.written_snd]
  exact assertPeeked_bind peeked _

/-- Number of octets of an element that allocates something. -/
def bytesRead
    (mu : Nat)
    (octet0 octet1 : UInt8) :
    Nat :=
  2 + (SubslotAllocation.format mu).optionalSize (allocatesDl octet0) +
    (SubslotAllocation.format mu).optionalSize (allocatesUl octet0) +
    (word 2).optionalSize ((octet0 >>> 4) &&& 1 != 0) +
    repetitionValidity.optionalSize (repeatBits octet0 != 0) +
    FieldFormat.octet.optionalSize (octet0 &&& 1 != 0) +
    channelMasked.optionalSize (octet1 >>> 7 != 0) +
    failureFormat.optionalSize ((octet1 >>> 6) &&& 1 != 0)

/-- The size that is peeked is the number of octets that are read. -/
theorem peeked_eq_bytesRead
    {macPduOffset size : Nat}
    (peeked :
      (getPackedSizeByPeeking mu macPduOffset).eval memory = .ok size) :
    (memory macPduOffset >>> 6 = 0 ∧ size = 1) ∨
      (memory macPduOffset >>> 6 ≠ 0 ∧
        ¬ 4 < repeatBits (memory macPduOffset) ∧
        size = bytesRead mu (memory macPduOffset)
          (memory (macPduOffset + 1))) := by
  have octet0Size (octet0 : UInt8) : octet0 >>> 6 ≠ 0 →
      sizeByOctet0 mu octet0 + (octet0 &&& 1).toNat =
        2 + (allocatesDl octet0).toNat * (SubslotAllocation.startSize mu + 1) +
          (allocatesUl octet0).toNat * (SubslotAllocation.startSize mu + 1) +
          ((octet0 >>> 4) &&& 1 != 0).toNat * 2 +
          (repeatBits octet0 != 0).toNat * 2 +
          (octet0 &&& 1 != 0).toNat := by
    unfold sizeByOctet0 SubslotAllocation.startSize
    by_cases small : mu ≤ 4
    · simp only [small, if_true]
      revert octet0
      apply forall_octet
      decide +kernel
    · simp only [small, if_false]
      revert octet0
      apply forall_octet
      decide +kernel
  have octet1Size (octet1 : UInt8) :
      (octet1 >>> 7).toNat * 2 + ((octet1 >>> 6) &&& 1).toNat =
        (octet1 >>> 7 != 0).toNat * 2 + ((octet1 >>> 6) &&& 1 != 0).toNat := by
    revert octet1
    apply forall_octet
    decide +kernel
  simp only [getPackedSizeByPeeking, eval_bind, eval_octet] at peeked
  by_cases release : memory macPduOffset >>> 6 = 0
  · rw [if_pos release] at peeked
    cases peeked
    exact .inl ⟨release, rfl⟩
  · rw [if_neg release] at peeked
    by_cases reserved : 4 < repeatBits (memory macPduOffset)
    · rw [if_pos reserved] at peeked
      cases peeked
    · rw [if_neg reserved, eval_bind, eval_pure, eval_octet] at peeked
      have first := octet0Size _ release
      have second := octet1Size (memory (macPduOffset + 1))
      refine .inr ⟨release, reserved, ?_⟩
      rw [← Except.ok.inj peeked]
      simp only [bytesRead, optionalSize_eq,
        SubslotAllocation.format_size, word_size,
        repetitionValidity_size, octet_size,
        channelMasked_size, failureFormat_size]
      omega

/-- Unpacking loads the octets that are counted. -/
theorem within_unpack
    {limit macPduOffset : Nat}
    (first : macPduOffset < limit)
    (inside :
      memory macPduOffset >>> 6 ≠ 0 →
        macPduOffset + bytesRead mu (memory macPduOffset)
          (memory (macPduOffset + 1)) ≤ limit) :
    (unpack mu macPduOffset).Within memory limit := by
  simp only [unpack, within_bind, within_octet, eval_octet]
  refine ⟨first, ?_⟩
  split
  · trivial
  rename_i allocates
  have inside := inside allocates
  unfold bytesRead at inside
  simp only [within_bind, eval_unpackOptional]
  refine ⟨within_unpackOptional _ (by omega),
      within_unpackOptional _ (by omega),
      within_unpackOptional _ (by omega), ?_⟩
  split
  · trivial
  simp only [within_bind, within_octet, eval_octet, eval_unpackOptional,
    OctetReader.within_pure, and_true]
  exact ⟨within_unpackOptional _ (by omega),
      within_unpackOptional _ (by omega), by omega,
      within_unpackOptional _ (by omega),
      within_unpackOptional _ (by omega)⟩

/-- A complete element is unpacked from its octets. -/
theorem unpack_code
    (admitted : ie.isAdmitted = true)
    (complete : ie.isComplete = true)
    (repeats : ie.repeatInfo = some info)
    {memory : Memory}
    (holds : memory.Holds macPduOffset (ie.code info)) :
    (unpack ie.mu macPduOffset).eval memory =
      finishUnpacking getPackedSize isValid (ie, (ie.code info).length) := by
  have fields :=
    fields_of_isAdmitted admitted (not_releasesAll_of_isComplete complete)
  obtain ⟨isOctet0, isOctet1⟩ := octets_of_holds holds
  obtain ⟨isType, additional, id, notReserved, repeated, repeatType, sfn,
      -⟩ :=
    octet0_recovered ie.isAdditionalAllocation ie.shortRdId.isSome
      info.repeatType info.allowSpecificRepeatedResources
      ie.sfnOffset.isSome
  obtain ⟨channel, failure, -, -⟩ :=
    octet1_recovered ie.channel.isSome ie.dectScheduledResourceFailure.isSome
  rw [← isOctet0] at isType additional id notReserved
  rw [← isOctet0] at repeated repeatType sfn
  rw [← isOctet1] at channel failure
  have notRelease : ¬ memory macPduOffset >>> 6 = 0 := by
    rw [isType]
    decide
  simp only [isComplete, Bool.and_eq_true] at complete
  obtain ⟨⟨dl, ul⟩, -⟩ := complete
  have allocatesDl : allocatesDl (memory macPduOffset) =
      ie.allocationDl.isSome := by
    rw [ResourceAllocationIe.allocatesDl, isType, dl]
    rfl
  have allocatesUl : allocatesUl (memory macPduOffset) =
      ie.allocationUl.isSome := by
    rw [ResourceAllocationIe.allocatesUl, isType, ul]
    rfl
  have repeatedIsSome : (repeatBits (memory macPduOffset) != 0) =
      (ie.repeatInfo.map fun info =>
        (info.repetition, info.validity)).isSome := by
    rw [repeated, repeats]
    rfl
  have readFailure :=
    unpackOptional_holds _ rfl fields.dectScheduledResourceFailure holds
  have readChannel := unpackOptional_holds _ rfl fields.channel holds.front
  have readSfn := unpackOptional_holds _ rfl fields.sfnOffset holds.front.front
  have readRepetition :=
    unpackOptional_holds _ rfl fields.repeatInfo holds.front.front.front
  have readId :=
    unpackOptional_holds _ rfl fields.shortRdId holds.front.front.front.front
  have readUl :=
    unpackOptional_holds _ rfl fields.allocationUl
      holds.front.front.front.front.front
  have readDl :=
    unpackOptional_holds 2 rfl fields.allocationDl
      holds.front.front.front.front.front.front
  simp only [unpack, eval_bind, eval_octet,
    if_neg notRelease, if_neg notReserved, eval_pure,
    allocatesDl, allocatesUl, additional, id, sfn, channel, failure,
    repeatedIsSome, repeatType, readDl, readUl, readId, readRepetition,
    readSfn, readChannel, readFailure]
  have made : (ie.repeatInfo.map fun info =>
      (info.repetition, info.validity)).map (fun fields =>
          (⟨info.repeatType, info.allowSpecificRepeatedResources,
            fields.1, fields.2⟩ : RepeatInfo)) =
      ie.repeatInfo := by
    rw [repeats]
    rfl
  rw [made]
  rfl

/-- An element that releases everything is packed as one octet. -/
theorem pack_release
    (release : ie.releasesAll = true)
    (macPduOffset : Nat)
    (memory : Memory) :
    ie.pack macPduOffset memory = .ok (memory.write macPduOffset [0]) := by
  have valid : ie.isValid = .ok true := by
    rw [isValid, if_pos release]
    rfl
  have peeked : (getPackedSizeByPeeking ie.mu macPduOffset).eval
      (memory.write macPduOffset [0]) = .ok 1 := by
    simp only [getPackedSizeByPeeking, eval_bind,
      eval_octet, Memory.write_front]
    rfl
  simp only [releasesAll, Bool.and_eq_true, Option.isNone_iff_eq_none]
    at release
  simp only [pack, valid, Checked.ok_bind, dectnrpAssert_true,
    Memory.assign_eq_write macPduOffset, Memory.assignOr_front,
    release.1, release.2]
  change (do
    if memory.write macPduOffset [0] macPduOffset = 0 then do
      assertPeeked ((getPackedSizeByPeeking ie.mu macPduOffset).eval
          (memory.write macPduOffset [0])) 1
      pure (memory.write macPduOffset [0])
    else _) = _
  rw [if_pos (Memory.write_front _ _ _ _)]
  exact assertPeeked_bind peeked _

/-- A single octet without allocation restores an empty element. -/
theorem unpack_release
    {mu : Nat}
    {memory : Memory}
    {macPduOffset : Nat}
    (holds : memory.Holds macPduOffset [0]) :
    (unpack mu macPduOffset).check
        (memory.window 0 (macPduOffset + 1)) =
      .ok (true, zero mu) := by
  have isZero := Memory.holds_singleton.mp holds
  have release : memory macPduOffset >>> 6 = 0 := by
    rw [isZero]
    rfl
  rw [OctetReader.check_window_eq_ok]
  constructor
  · exact within_unpack (Nat.lt_succ_self _) fun allocates =>
        absurd release allocates
  · simp only [unpack, eval_bind, eval_octet, if_pos release, eval_pure]

theorem roundTrips_release_iff (release : ie.releasesAll = true) :
    codec.RoundTrips ie ↔ ie = zero ie.mu := by
  have valid : ie.isValid = .ok true := by
    rw [isValid, if_pos release]
    rfl
  constructor
  · intro roundTrips
    obtain ⟨octets, sized, packed, -, restored⟩ :=
      roundTrips ie 0 (fun _ => 0) rfl
    have sameMemory :
        Memory.write 0 octets (fun _ => 0) = Memory.write 0 [0] fun _ => 0 :=
      Except.ok.inj (packed.symm.trans (pack_release release 0 _))
    have one : octets.length = 1 := by
      have isOne : codec.getPackedSize ie = .ok 1 := by
        simp only [codec, getPackedSize, valid, release]
        rfl
      exact Except.ok.inj (sized.symm.trans isOne)
    rw [sameMemory, one] at restored
    have unpacked :=
      @unpack_release ie.mu _ 0 (Memory.holds_write 0 [0] fun _ => 0)
    exact (Prod.mk.inj (Except.ok.inj (restored.symm.trans unpacked))).2
  · intro isZero
    refine MmieCodec.roundTrips_of_code ?_ (pack_release release) ?_ ?_
    · simp only [codec, getPackedSize, valid, release]
      rfl
    · intro initial memory front sameMu holds
      rw [peek_eq]
      simp only [getPackedSizeByPeeking, eval_bind,
        eval_octet, Memory.holds_singleton.mp holds]
      rfl
    · intro initial memory front sameMu holds
      rw [isZero]
      exact (unpack_release holds).trans (by
          rw [show initial.mu = ie.mu from sameMu])

theorem roundTrips_of_isComplete
    (admitted : ie.isAdmitted = true)
    (complete : ie.isComplete = true) :
    codec.RoundTrips ie := by
  obtain ⟨info, repeats⟩ : ∃ info, ie.repeatInfo = some info := by
    simp only [isComplete, Bool.and_eq_true] at complete
    exact Option.isSome_iff_exists.mp complete.2
  have valid := isValid_of_isAdmitted admitted
  rw [complete, Bool.or_true, if_pos rfl] at valid
  have sized : ie.getPackedSize = .ok (ie.code info).length := by
    have directions := complete
    simp only [isComplete, Bool.and_eq_true] at directions
    rw [code_length complete, getPackedSize, valid]
    simp only [Checked.ok_bind, dectnrpAssert_true,
      not_releasesAll_of_isComplete complete, directions.1.1,
      directions.1.2, directions.2, Bool.and_self, if_true,
      Bool.false_eq_true, if_false, Bool.toNat_true, Checked.pure_eq_ok]
    congr 1
    split <;> omega
  refine MmieCodec.roundTrips_of_code sized
    (pack_complete admitted complete repeats) ?_ ?_
  · intro initial memory front sameMu holds
    rw [peek_eq, show initial.mu = ie.mu from sameMu,
      peeked_code complete holds]
  · intro initial memory front sameMu holds
    change (unpack initial.mu front).check _ = _
    rw [show initial.mu = ie.mu from sameMu, OctetReader.check_window_eq_ok]
    constructor
    · obtain ⟨release, -⟩ | ⟨-, -, isSize⟩ :=
        peeked_eq_bytesRead (peeked_code complete holds)
      · exact within_unpack (Nat.lt_add_of_pos_right (by
            rw [code_length complete]
            split <;> omega))
            fun allocates => absurd release allocates
      · exact within_unpack (Nat.lt_add_of_pos_right (by
            rw [code_length complete]
            split <;> omega))
            fun _ => by rw [isSize]
    · rw [unpack_code admitted complete repeats holds, finishUnpacking_eq_ok]
      exact ⟨sized, valid, rfl⟩

/--
An element that is admitted is restored exactly if it is empty, or if it has
downlink resources, uplink resources and a repetition.
-/
theorem resourceAllocation_roundTrips_iff
    {ie : ResourceAllocationIe}
    (admitted : ie.isAdmitted = true) :
    codec.RoundTrips ie ↔ ie = zero ie.mu ∨ ie.isComplete = true := by
  by_cases release : ie.releasesAll = true
  · rw [roundTrips_release_iff release]
    constructor
    · exact .inl
    · rintro (isZero | complete)
      · exact isZero
      · rw [not_releasesAll_of_isComplete complete] at release
        cases release
  · constructor
    · intro roundTrips
      right
      by_contra incomplete
      have throws := isValid_of_isAdmitted admitted
      rw [if_neg (by simp [release, incomplete])] at throws
      obtain ⟨packed, packs⟩ := roundTrips.packs 0 fun _ => 0
      simp only [codec, pack, throws] at packs
      cases packs
    · rintro (isZero | complete)
      · rw [isZero] at release
        exact absurd rfl release
      · exact roundTrips_of_isComplete admitted complete

/-- Downlink and uplink resources with a repetition and a channel. -/
theorem resourceAllocation_roundTrips_iff_both :
    let ie :=
      { zero 8 with
        allocationDl := some ⟨65535, .lengthInSlots, 127⟩
        allocationUl := some ⟨0, .lengthInSubslots, 1⟩
        repeatInfo := some ⟨.repeatedInFollowingSubslots, true, 1, 255⟩
        channel := some 1700
        dectScheduledResourceFailure := some .ms20 }
    codec.RoundTrips ie ↔ ie = zero ie.mu ∨ ie.isComplete = true :=
  resourceAllocation_roundTrips_iff (by decide)

/-- An allocation of downlink resources only cannot even be checked. -/
theorem not_resourceAllocation_roundTrips :
    ¬ ∀ ie : ResourceAllocationIe,
      ie.isAdmitted = true → codec.RoundTrips ie := by
  intro restores
  let ie :=
    { zero 1 with
      allocationDl := some ⟨10, .lengthInSubslots, 5⟩ }
  obtain ⟨packed, packs⟩ := (restores ie (by decide)).packs 0 fun _ => 0
  cases packs

/-- Where the repetition starts if both directions are allocated. -/
def repetitionOffset
    (mu : Nat)
    (octet0 : UInt8) :
    Nat :=
  2 + 2 * (SubslotAllocation.startSize mu + 1) +
    (word 2).optionalSize ((octet0 >>> 4) &&& 1 != 0)

/-- Where the channel starts behind a repetition. -/
def channelOffset
    (mu : Nat)
    (octet0 : UInt8) :
    Nat :=
  repetitionOffset mu octet0 + 2 +
    FieldFormat.octet.optionalSize (octet0 &&& 1 != 0)

/-- Where the failure time starts. -/
def failureOffset
    (mu : Nat)
    (octet0 octet1 : UInt8) :
    Nat :=
  channelOffset mu octet0 +
    channelMasked.optionalSize (octet1 >>> 7 != 0)

/--
Octets that are unpacked safely: they release everything, their repetition is
reserved and no size is peeked, or they allocate in both directions, are
repeated at least once, and have no channel out of range and no failure time
that is reserved.
-/
def SafeOctets
    (mu : Nat)
    (memory : Memory)
    (front : Nat) :
    Prop :=
  let octet0 := memory front
  let octet1 := memory (front + 1)
  octet0 >>> 6 = 0 ∨ 4 < repeatBits octet0 ∨
    (octet0 >>> 6 = 3 ∧ repeatBits octet0 ≠ 0 ∧
      memory (front + repetitionOffset mu octet0) ≠ 0 ∧
      (octet1 >>> 7 ≠ 0 →
        isAbsoluteChannelNumberInRange
          (FieldFormat.channel.valueAt memory
            (front + channelOffset mu octet0)) = true) ∧
      ((octet1 >>> 6) &&& 1 ≠ 0 →
        let code := memory (front + failureOffset mu octet0 octet1) &&& 0b1111
        2 ≤ code ∧ code ≤ 11))

/-- An element passes its own check if it is admitted and complete. -/
theorem isValid_eq_ok_true
    {ie : ResourceAllocationIe} :
    ie.isValid = .ok true ↔
      ie.isAdmitted = true ∧ (ie.releasesAll || ie.isComplete) = true := by
  constructor
  · intro valid
    have admitted : ie.isAdmitted = true := by
      obtain ⟨allocationDl, allocationUl, _, _, repeatInfo, _, _, _, _⟩ := ie
      rcases allocationDl with _ | allocationDl <;>
        rcases allocationUl with _ | allocationUl <;>
        rcases repeatInfo with _ | repeatInfo <;>
        simp [isAdmitted, isValid, releasesAll] at valid ⊢ <;>
        split_ifs at valid <;> simp_all
    refine ⟨admitted, ?_⟩
    rw [isValid_of_isAdmitted admitted] at valid
    by_contra incomplete
    rw [if_neg incomplete] at valid
    cases valid
  · rintro ⟨admitted, complete⟩
    rw [isValid_of_isAdmitted admitted, if_pos complete]

/-- The element that octets stand for which allocate something. -/
def received
    (mu : Nat)
    (memory : Memory)
    (front : Nat) :
    ResourceAllocationIe :=
  let octet0 := memory front
  let octet1 := memory (front + 1)
  let offset1 :=
    2 + (SubslotAllocation.format mu).optionalSize (allocatesDl octet0)
  let offset2 :=
    offset1 +
      (SubslotAllocation.format mu).optionalSize (allocatesUl octet0)
  let offset3 :=
    offset2 +
      (word 2).optionalSize ((octet0 >>> 4) &&& 1 != 0)
  let offset4 :=
    offset3 + repetitionValidity.optionalSize (repeatBits octet0 != 0)
  let offset5 := offset4 + FieldFormat.octet.optionalSize (octet0 &&& 1 != 0)
  let offset6 := offset5 + channelMasked.optionalSize (octet1 >>> 7 != 0)
  let repeatType := repeatTypeOf (repeatBits octet0)
  { allocationDl :=
      (SubslotAllocation.format mu).optionalAt memory (front + 2)
        (allocatesDl octet0)
    allocationUl :=
      (SubslotAllocation.format mu).optionalAt memory (front + offset1)
        (allocatesUl octet0)
    isAdditionalAllocation := (octet0 >>> 5) &&& 1 != 0
    shortRdId :=
      (word 2).optionalAt memory (front + offset2)
        ((octet0 >>> 4) &&& 1 != 0)
    repeatInfo :=
      (repetitionValidity.optionalAt memory (front + offset3)
        (repeatBits octet0 != 0)).map fun fields =>
          ⟨repeatType.1, repeatType.2, fields.1, fields.2⟩
    sfnOffset :=
      FieldFormat.octet.optionalAt memory (front + offset4)
        (octet0 &&& 1 != 0)
    channel :=
      channelMasked.optionalAt memory (front + offset5)
        (octet1 >>> 7 != 0)
    dectScheduledResourceFailure :=
      failureFormat.optionalAt memory (front + offset6)
        ((octet1 >>> 6) &&& 1 != 0)
    mu := mu }

variable {front : Nat}

/-- What is unpacked if something is allocated and nothing is reserved. -/
theorem unpack_received
    (allocates : memory front >>> 6 ≠ 0)
    (notReserved : ¬ 4 < repeatBits (memory front)) :
    (unpack mu front).eval memory =
      finishUnpacking getPackedSize isValid
        (received mu memory front,
          bytesRead mu (memory front) (memory (front + 1))) := by
  simp only [unpack, eval_bind, eval_octet,
    if_neg allocates, if_neg notReserved, eval_pure,
    eval_unpackOptional]
  rfl

/-- Only downlink or uplink resources make an element incomplete. -/
theorem received_isComplete
    {mu : Nat}
    {memory : Memory}
    {front : Nat} :
    (received mu memory front).isComplete = true ↔
      memory front >>> 6 = 3 ∧ repeatBits (memory front) ≠ 0 := by
  have directions (octet0 : UInt8) :
      (allocatesDl octet0 && allocatesUl octet0) = true ↔
        octet0 >>> 6 = 3 := by
    revert octet0
    apply forall_octet
    decide +kernel
  rw [← directions]
  simp only [received, isComplete, optionalAt_isSome,
    Option.isSome_map, Bool.and_eq_true, bne_iff_ne]

theorem received_releasesAll (allocates : memory front >>> 6 ≠ 0) :
    (received mu memory front).releasesAll = false := by
  have directions (octet0 : UInt8) : octet0 >>> 6 ≠ 0 →
      (! allocatesDl octet0 && ! allocatesUl octet0) = false := by
    revert octet0
    apply forall_octet
    decide +kernel
  have some := directions _ allocates
  rw [releasesAll, ← Option.not_isSome, ← Option.not_isSome]
  simpa only [received, optionalAt_isSome] using some

/-- The octets that are read are those that a complete element counts. -/
theorem getPackedSize_received
    (valid : (received mu memory front).isValid = .ok true)
    (complete : (received mu memory front).isComplete = true) :
    (received mu memory front).getPackedSize =
      .ok (bytesRead mu (memory front) (memory (front + 1))) := by
  rw [getPackedSize, valid, not_releasesAll_of_isComplete complete]
  have both := (received_isComplete.mp complete).1
  have dl : allocatesDl (memory front) = true := by simp [allocatesDl, both]
  have ul : allocatesUl (memory front) = true := by simp [allocatesUl, both]
  simp only [received, bytesRead, dl, ul, Checked.ok_bind,
    dectnrpAssert_true, optionalAt_isSome, Option.isSome_map,
    optionalSize_eq, SubslotAllocation.format_size,
    word_size, repetitionValidity_size,
    octet_size, channelMasked_size,
    failureFormat_size, SubslotAllocation.startSize, Bool.false_eq_true,
    if_false, Bool.and_self, if_true, Checked.pure_eq_ok,
    Bool.toNat_true]
  congr 1
  split <;> omega

/-- An element whose size is known is valid. -/
theorem isValid_of_sized
    {size : Nat}
    (sized : ie.getPackedSize = .ok size) :
    ie.isValid = .ok true := by
  obtain ⟨valid, checked, rest⟩ := Checked.bind_eq_ok.mp sized
  obtain ⟨passes, -⟩ := Checked.dectnrpAssert_bind_eq_ok.mp rest
  rw [checked, passes]

theorem finishes_iff (allocates : memory front >>> 6 ≠ 0) :
    (∃ valid element,
      finishUnpacking getPackedSize isValid
          (received mu memory front,
            bytesRead mu (memory front) (memory (front + 1))) =
        .ok (valid, element) ∧ element.isValid = .ok valid) ↔
      (received mu memory front).isAdmitted = true ∧
        (received mu memory front).isComplete = true := by
  refine (finishes_iff_of_asserts fun _ => isValid_of_sized).trans ?_
  rw [isValid_eq_ok_true, received_releasesAll allocates, Bool.false_or]
  refine and_iff_left_of_imp ?_
  rintro ⟨admitted, complete⟩
  exact getPackedSize_received
    (isValid_eq_ok_true.mpr ⟨admitted, by rw [complete, Bool.or_true]⟩)
    complete

/-- What can be wrong with a complete element that was received. -/
theorem received_isAdmitted
    (complete : (received mu memory front).isComplete = true) :
    (received mu memory front).isAdmitted = true ↔
      memory (front + repetitionOffset mu (memory front)) ≠ 0 ∧
      (memory (front + 1) >>> 7 ≠ 0 →
        isAbsoluteChannelNumberInRange
          (FieldFormat.channel.valueAt memory
            (front + channelOffset mu (memory front))) = true) ∧
      ((memory (front + 1) >>> 6) &&& 1 ≠ 0 →
        let code :=
          memory (front + failureOffset mu (memory front)
            (memory (front + 1))) &&& 0b1111
        2 ≤ code ∧ code ≤ 11) := by
  obtain ⟨both, repeated⟩ := received_isComplete.mp complete
  have dl : allocatesDl (memory front) = true := by simp [allocatesDl, both]
  have ul : allocatesUl (memory front) = true := by simp [allocatesUl, both]
  have repeats : (repeatBits (memory front) != 0) = true := by
    simpa using repeated
  have failureCode (octet : UInt8) : (! CodedEnumeration.isValid
      (fromCodedValue (extract octet 0 0b1111) :
        DectScheduledResourceFailure)) = false ↔
      2 ≤ octet &&& 0b1111 ∧ octet &&& 0b1111 ≤ 11 := by
    revert octet
    apply forall_octet
    decide +kernel
  have offsets : 2 + (SubslotAllocation.startSize mu + 1) +
      (SubslotAllocation.startSize mu + 1) +
          (word 2).optionalSize ((memory front >>> 4) &&& 1 != 0) =
        repetitionOffset mu (memory front) := by
    unfold repetitionOffset
    omega
  simp only [isAdmitted, not_releasesAll_of_isComplete complete,
    Bool.false_eq_true, if_false, Bool.if_false_left, Bool.and_eq_true,
    Bool.not_eq_true', decide_eq_false_iff_not, restValid]
  simp only [received, dl, ul, repeats, FieldFormat.optionalSize_true,
    SubslotAllocation.format_size, repetitionValidity_size, offsets]
  have allocation (address : Nat) :
      ¬ (((SubslotAllocation.format mu).optionalAt memory address
        true).any fun allocation =>
          ! SubslotAllocation.isValid mu allocation) = true := by
    rw [optionalAt_not_any]
    intro _
    rw [SubslotAllocation.valueAt_isValid, Bool.not_true]
  rw [and_iff_right (allocation _), and_iff_right (allocation _),
    and_iff_right (FieldFormat.word_optionalAt_not_any _ _ _)]
  refine and_congr ?_ ?_
  · rw [Bool.not_eq_true, ← repetition_checked]
    rfl
  rw [and_iff_right (FieldFormat.octet_optionalAt_not_any _ _ _),
    and_true, optionalAt_not_any,
    optionalAt_not_any, bne_iff_ne, bne_iff_ne,
    FieldFormat.channelMasked_valueAt, Bool.not_eq_false']
  refine and_congr Iff.rfl (imp_congr_right fun _ => ?_)
  rw [← failureCode]
  rfl

/-- Unpacking is safe for the octets of the condition and for no others. -/
theorem unpacksSafely_iff
    (ie : ResourceAllocationIe)
    (memory : Memory)
    (front : Nat) :
    codec.UnpacksSafely ie memory front ↔ SafeOctets ie.mu memory front := by
  rw [@MmieCodec.unpacksSafely_iff_of_check _ codec ie memory front
    (unpack ie.mu front) fun _ => rfl, SafeOctets]
  simp only [peek_eq, Except.ok.injEq]
  by_cases release : memory front >>> 6 = 0
  · refine iff_of_true ?_ (.inl release)
    intro size peeked
    obtain ⟨-, rfl⟩ | ⟨allocates, -⟩ := peeked_eq_bytesRead peeked
    · refine ⟨within_unpack (Nat.lt_succ_self _) fun allocates =>
          absurd release allocates, true, zero ie.mu, ?_, rfl⟩
      simp only [unpack, eval_bind, eval_octet, if_pos release, eval_pure]
    · exact absurd release allocates
  by_cases reserved : 4 < repeatBits (memory front)
  · refine iff_of_true ?_ (.inr (.inl reserved))
    intro size peeked
    obtain ⟨isZero, -⟩ | ⟨-, notReserved, -⟩ := peeked_eq_bytesRead peeked
    · exact absurd isZero release
    · exact absurd reserved notReserved
  rw [or_iff_right release, or_iff_right reserved]
  obtain ⟨size, peeked⟩ :
      ∃ size, (getPackedSizeByPeeking ie.mu front).eval memory = .ok size := by
    simp only [getPackedSizeByPeeking, eval_bind,
      eval_octet, if_neg release, if_neg reserved]
    exact ⟨_, rfl⟩
  obtain ⟨isZero, -⟩ | ⟨-, -, isSize⟩ := peeked_eq_bytesRead peeked
  · exact absurd isZero release
  have within : (unpack ie.mu front).Within memory (front + size) :=
    within_unpack (by
      rw [isSize, bytesRead]
      omega) fun _ => by rw [isSize]
  simp only [peeked, Except.ok.injEq, forall_eq',
    unpack_received release reserved]
  rw [and_iff_right within]
  refine (finishes_iff release).trans ?_
  rw [← and_assoc, ← @received_isComplete ie.mu memory front, and_comm]
  exact and_congr_right received_isAdmitted

end ResourceAllocationIe

end DectNrp
