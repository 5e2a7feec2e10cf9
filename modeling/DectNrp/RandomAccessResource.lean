import DectNrp.ResourceAllocation

namespace DectNrp

/-!
# Random access resource

Resources for random access are described by octets of a fixed meaning.  A
repetition, a frame offset and up to two channels follow if the first octet
says so.  Two of its flags are added to the size without being moved to the
lowest bit first.
-/

open SubslotAllocation (startSize)
open BitFields (extract forall_octet)
open FieldFormat (channel_size eval_unpack mk_write octet_size optionalAt_eq
  optionalCode_length optionalSize_eq optionalSize_true pack_written
  paired_recovers valueAt_eq within_unpackOptional written_fst written_snd)

open OctetReader (eval_bind eval_octet eval_pure within_bind within_octet)

/-- Smallest contention window. -/
inductive CwMin where
  | notDefined
  | cw0
  | cw8
  | cw16
  | cw24
  | cw32
  | cw40
  | cw48
  | cw56
  | upper
  deriving Repr, DecidableEq

instance : CodedEnumeration CwMin where
  toUnderlying
    | .notDefined => undefinedNumeric32
    | .cw0 => 0
    | .cw8 => 1
    | .cw16 => 2
    | .cw24 => 3
    | .cw32 => 4
    | .cw40 => 5
    | .cw48 => 6
    | .cw56 => 7
    | .upper => 8
  notDefined := .notDefined
  lower := none
  upper := .upper
  codes := [.cw0, .cw8, .cw16, .cw24, .cw32, .cw40, .cw48, .cw56]

/-- Largest contention window. -/
inductive CwMax where
  | notDefined
  | cw0
  | cw256
  | cw512
  | cw768
  | cw1024
  | cw1280
  | cw1536
  | cw1792
  | upper
  deriving Repr, DecidableEq

instance : CodedEnumeration CwMax where
  toUnderlying
    | .notDefined => undefinedNumeric32
    | .cw0 => 0
    | .cw256 => 1
    | .cw512 => 2
    | .cw768 => 3
    | .cw1024 => 4
    | .cw1280 => 5
    | .cw1536 => 6
    | .cw1792 => 7
    | .upper => 8
  notDefined := .notDefined
  lower := none
  upper := .upper
  codes :=
    [.cw0, .cw256, .cw512, .cw768, .cw1024, .cw1280, .cw1536, .cw1792]

theorem CwMin.recovers
    {value : CwMin}
    (valid : CodedEnumeration.isValid value = true) :
    CodedEnumeration.Recovers 3 value := by
  revert valid
  cases value <;> decide

theorem CwMax.recovers
    {value : CwMax}
    (valid : CodedEnumeration.isValid value = true) :
    CodedEnumeration.Recovers 3 value := by
  revert valid
  cases value <;> decide

/-- When the response window starts. -/
inductive DectDelay where
  | responseWindowStartsAfter3Subslots
  | responseWindowStartsAfterHalfFrame
  deriving Repr, DecidableEq

/-- The delay that a bit stands for. -/
def DectDelay.ofBool (bit : Bool) : DectDelay :=
  if bit then .responseWindowStartsAfterHalfFrame
  else .responseWindowStartsAfter3Subslots

/-- `std::to_underlying`. -/
def DectDelay.toUnderlying : DectDelay → Bool
  | .responseWindowStartsAfter3Subslots => false
  | .responseWindowStartsAfterHalfFrame => true

/-- As `DectDelay.ofBool`, for the unit of a length. -/
def LengthType.ofBool (bit : Bool) : LengthType :=
  if bit then .lengthInSlots else .lengthInSubslots

/-- A unit is in slots. -/
def LengthType.inSlots : LengthType → Bool
  | .lengthInSubslots => false
  | .lengthInSlots => true

@[simp] theorem DectDelay.ofBool_toUnderlying (delay : DectDelay) :
    ofBool delay.toUnderlying = delay := by
  cases delay <;> rfl

@[simp] theorem LengthType.ofBool_inSlots (lengthType : LengthType) :
    ofBool lengthType.inSlots = lengthType := by
  cases lengthType <;> rfl

section WindowFormat

open CodedEnumeration (toUnderlying fromCodedValue)

variable
    {Window : Type}
    [CodedEnumeration Window]

/-- A flag, a length of four bits and a contention window in one octet. -/
def windowFormat : FieldFormat (Bool × UInt32 × Window) where
  size := 1
  write field address memory :=
    ((memory.assign address (field.1.toUInt32 <<< 7)).assignOr address
      (field.2.1 <<< 3)).assignOr address (toUnderlying field.2.2)
  read address := do
    let octet ← OctetReader.octet address
    pure (octet >>> 7 != 0, BitFields.extract octet 3 0b1111,
      fromCodedValue (BitFields.extract octet 0 0b111))
  code field :=
    [(field.1.toUInt32 <<< 7).toUInt8 ||| (field.2.1 <<< 3).toUInt8 |||
      (toUnderlying field.2.2).toUInt8]
  code_length _ := rfl
  write_eq _ _ _ := by
    rw [Memory.assign_eq_write, Memory.assignOr_front,
      Memory.assignOr_front]
  read_within _ _ _ inside := ⟨inside, trivial⟩

@[simp] theorem windowFormat_size :
    (@windowFormat Window _).size = 1 :=
  rfl

theorem window_recovered (flag : Bool) :
    ∀ length : UInt32, length.toNat < 2 ^ 4 →
      ∀ code : UInt32, code.toNat < 2 ^ 3 →
        let octet :=
          (flag.toUInt32 <<< 7).toUInt8 ||| (length <<< 3).toUInt8 |||
            code.toUInt8
        (octet >>> 7 != 0) = flag ∧ extract octet 3 0b1111 = length ∧
          extract octet 0 0b111 = code := by
  apply BitFields.forall_field
  intro length
  apply BitFields.forall_field
  revert flag length
  decide +kernel

theorem windowFormat_recovers
    [DecidableEq Window]
    {field : Bool × UInt32 × Window}
    (lengthFits : field.2.1.toNat < 2 ^ 4)
    (window : CodedEnumeration.Recovers 3 field.2.2) :
    windowFormat.Recovers field := by
  intro memory address holds
  have isOctet := Memory.holds_singleton.mp holds
  obtain ⟨isFlag, isLength, isCode⟩ :=
    window_recovered field.1 field.2.1 lengthFits _ window.1
  simp only [windowFormat, eval_bind, eval_octet,
    eval_pure, isOctet, isFlag, isLength, isCode, window.2]

end WindowFormat

/-- A repetition of random access resources. -/
structure RachRepeatInfo where
  repeatType : RepeatType
  repetition : UInt32
  validity : UInt32
  deriving Repr, DecidableEq

structure RandomAccessResourceIe where
  repeatInfo : Option RachRepeatInfo
  sfnOffset : Option UInt32
  channel : Option UInt32
  channel2 : Option UInt32
  allocation : SubslotAllocation
  maxRachLengthType : LengthType
  maxRachLength : UInt32
  cwMin : CwMin
  dectDelay : DectDelay
  responseWindowLength : UInt32
  cwMax : CwMax
  mu : Nat
  deriving Repr, DecidableEq

namespace RandomAccessResourceIe

/-- A repetition that is out of its range. -/
def repeatInvalid (info : RachRepeatInfo) : Bool :=
  255 < info.repetition || info.repetition = 0 || 255 < info.validity

/-- The checks behind the repetition. -/
def restValid (ie : RandomAccessResourceIe) : Bool :=
  if ie.sfnOffset.any fun offset => 255 < offset then false
  else if ie.channel.any
      fun channel => ! isAbsoluteChannelNumberInRange channel then
    false
  else if ie.channel2.any
      fun channel => ! isAbsoluteChannelNumberInRange channel then
    false
  else if ! SubslotAllocation.isValid ie.mu ie.allocation then false
  else if 15 < ie.maxRachLength || ! CodedEnumeration.isValid ie.cwMin ||
      15 < ie.responseWindowLength ||
      ! CodedEnumeration.isValid ie.cwMax then
    false
  else true

/-- The value of the repetition is asked for before its presence. -/
def isValid (ie : RandomAccessResourceIe) : Checked Bool := do
  let repeatInfo ← Checked.value ie.repeatInfo
  if repeatInvalid repeatInfo then pure false
  else pure ie.restValid

def getPackedSize (ie : RandomAccessResourceIe) : Checked Nat := do
  let valid ← ie.isValid
  dectnrpAssert valid "RACH resource IE is not valid"
  pure ((if ie.mu ≤ 4 then 5 else 6) + ie.repeatInfo.isSome.toNat * 2 +
    ie.sfnOffset.isSome.toNat + ie.channel.isSome.toNat * 2 +
    ie.channel2.isSome.toNat * 2)

/-- The two bits that tell how resources are repeated. -/
def repeatBits (octet0 : UInt8) : UInt8 :=
  (octet0 >>> 3) &&& 0b11

/-- Size of an element whose first octet is known and not reserved. -/
def sizeByFlags
    (mu : Nat)
    (octet0 : UInt8) :
    Nat :=
  (if mu ≤ 4 then 5 else 6) +
    (if repeatBits octet0 != 0 then 2 else 0) +
    (octet0 &&& 0b100).toNat + (octet0 &&& 0b10).toNat * 2 +
    (octet0 &&& 1).toNat * 2

def getPackedSizeByPeeking
    (mu : Nat)
    (macPduOffset : Nat) :
    OctetReader PeekResult := do
  let octet0 ← OctetReader.octet macPduOffset
  if 2 < repeatBits octet0 then
    pure (.error .nonreservedFieldSetToReserved)
  else pure (.ok (sizeByFlags mu octet0))

/-- The code of a repetition. -/
def repeatCode : RepeatType → UInt32
  | .repeatedInFollowingFrames => 1
  | .repeatedInFollowingSubslots => 2

/-- The octets of a fixed meaning behind the first one. -/
def fixedFormat
    (mu : Nat) :
    FieldFormat
      (SubslotAllocation × (Bool × UInt32 × CwMin) ×
        Bool × UInt32 × CwMax) :=
  (SubslotAllocation.format mu).paired (windowFormat.paired windowFormat)

@[simp] theorem fixedFormat_size (mu : Nat) :
    (fixedFormat mu).size = startSize mu + 3 :=
  rfl

/-- The fields of a fixed meaning. -/
def fixedFields
    (ie : RandomAccessResourceIe) :
    SubslotAllocation × (Bool × UInt32 × CwMin) ×
      Bool × UInt32 × CwMax :=
  (ie.allocation,
    (ie.maxRachLengthType.inSlots, ie.maxRachLength, ie.cwMin),
    ie.dectDelay.toUnderlying, ie.responseWindowLength, ie.cwMax)

def pack
    (ie : RandomAccessResourceIe)
    (macPduOffset : Nat)
    (memory : Memory) :
    Checked Memory := do
  let valid ← ie.isValid
  dectnrpAssert valid "RACH resource IE is not valid"
  -- flags in octet 0
  let memory := memory.assign macPduOffset
    (ie.sfnOffset.isSome.toUInt32 <<< 2)
  let memory := memory.assignOr macPduOffset
    (ie.channel.isSome.toUInt32 <<< 1)
  let memory := memory.assignOr macPduOffset ie.channel2.isSome.toUInt32
  let (nBytes, memory) :=
    (fixedFormat ie.mu).pack macPduOffset ie.fixedFields (1, memory)
  -- the repetition has to be there and completes octet 0
  let repeatInfo ← Checked.value ie.repeatInfo
  let memory := memory.assignOr macPduOffset
    (repeatCode repeatInfo.repeatType <<< 3)
  let state := repetitionValidity.pack macPduOffset
    (repeatInfo.repetition, repeatInfo.validity) (nBytes, memory)
  -- optional fields
  let state := FieldFormat.octet.packOptional macPduOffset ie.sfnOffset
    state
  let state := FieldFormat.channel.packOptional macPduOffset ie.channel
    state
  let (nBytes, memory) := FieldFormat.channel.packOptional macPduOffset
    ie.channel2 state
  assertPeeked
    ((getPackedSizeByPeeking ie.mu macPduOffset).eval memory) nBytes
  pure memory

/-- Unpack an element; all but the scaling factor is overwritten. -/
def unpack
    (mu : Nat)
    (macPduOffset : Nat) :
    OctetReader (Checked (Bool × RandomAccessResourceIe)) := do
  let ((allocation, (inSlots, maxRachLength, cwMin), delay,
      responseWindowLength, cwMax), nBytes) ←
    (fixedFormat mu).unpack macPduOffset 1
  let ie : RandomAccessResourceIe :=
    { repeatInfo := none
      sfnOffset := none
      channel := none
      channel2 := none
      allocation := allocation
      maxRachLengthType := .ofBool inSlots
      maxRachLength := maxRachLength
      cwMin := cwMin
      dectDelay := .ofBool delay
      responseWindowLength := responseWindowLength
      cwMax := cwMax
      mu := mu }
  let octet0 ← OctetReader.octet macPduOffset
  if 2 < repeatBits octet0 then pure (.ok (false, ie))
  else do
    let (repetition, nBytes) ←
      repetitionValidity.unpackOptional macPduOffset
        (repeatBits octet0 != 0) nBytes
    let repeatType : RepeatType :=
      if repeatBits octet0 = 1 then .repeatedInFollowingFrames
      else .repeatedInFollowingSubslots
    let (sfnOffset, nBytes) ←
      FieldFormat.octet.unpackOptional macPduOffset
        (octet0 &&& 0b100 != 0) nBytes
    let (channel, nBytes) ←
      FieldFormat.channel.unpackOptional macPduOffset
        (octet0 &&& 0b10 != 0) nBytes
    let (channel2, nBytes) ←
      FieldFormat.channel.unpackOptional macPduOffset
        (octet0 &&& 1 != 0) nBytes
    pure (finishUnpacking getPackedSize isValid
      ({ ie with
        repeatInfo := repetition.map fun fields =>
          ⟨repeatType, fields.1, fields.2⟩
        sfnOffset := sfnOffset
        channel := channel
        channel2 := channel2 }, nBytes))

/-- An element is unpacked by an object with the same scaling factor. -/
def codec : MmieCodec RandomAccessResourceIe where
  isValid := isValid
  getPackedSize := getPackedSize
  pack := pack
  getPackedSizeMinToPeek := 1
  getPackedSizeByPeeking ie := getPackedSizeByPeeking ie.mu
  unpack ie octets macPduOffset :=
    (unpack ie.mu macPduOffset).check octets
  SameContext initial ie := initial.mu = ie.mu
  sameContext_refl _ := rfl

/-- The checks of `isValid`, each made only if its field is included. -/
def isAdmitted (ie : RandomAccessResourceIe) : Bool :=
  if ie.repeatInfo.any repeatInvalid then false else ie.restValid

variable {ie : RandomAccessResourceIe}

/-- Whatever is admitted is valid, or its check throws. -/
theorem isValid_of_isAdmitted (admitted : ie.isAdmitted = true) :
    ie.isValid =
      if ie.repeatInfo.isSome then .ok true
      else .error .badOptionalAccess := by
  unfold isAdmitted at admitted
  unfold isValid
  cases repeats : ie.repeatInfo with
  | none => rfl
  | some info =>
      simp only [repeats, Option.any_some] at admitted
      split at admitted
      · cases admitted
      · rename_i valid
        simp only [Checked.value_some, Checked.ok_bind, if_neg valid,
          admitted, Option.isSome_some, if_true, Checked.pure_eq_ok]

/-- The checks of an element that is admitted. -/
structure Fields (ie : RandomAccessResourceIe) : Prop where
  repeatInfo :
    ∀ info ∈ ie.repeatInfo,
      repetitionValidity.Recovers (info.repetition, info.validity)
  sfnOffset : ∀ offset ∈ ie.sfnOffset, FieldFormat.octet.Recovers offset
  channel : ∀ channel ∈ ie.channel, FieldFormat.channel.Recovers channel
  channel2 : ∀ channel ∈ ie.channel2, FieldFormat.channel.Recovers channel
  fixed : (fixedFormat ie.mu).Recovers ie.fixedFields

theorem fits_four_of_not_lt
    {field : UInt32}
    (checked : ¬ 15 < field) :
    field.toNat < 2 ^ 4 := by
  rw [UInt32.lt_iff_toNat_lt] at checked
  exact Nat.lt_succ_of_le (Nat.not_lt.mp checked)

theorem fields_of_isAdmitted (admitted : ie.isAdmitted = true) :
    Fields ie := by
  simp only [isAdmitted, restValid, Bool.if_false_left,
    Bool.and_eq_true, Bool.not_eq_true', decide_eq_false_iff_not,
    Bool.and_true, Bool.or_eq_true, decide_eq_true_eq, not_or,
    Bool.not_eq_false] at admitted
  obtain ⟨repetition, sfn, channel, channel2, allocation,
    ⟨⟨length, cwMin⟩, response⟩, cwMax⟩ := admitted
  exact
    { repeatInfo := by
        intro info isInfo
        simp only [Option.mem_def.mp isInfo, Option.any_some,
          repeatInvalid, Bool.or_eq_true, decide_eq_true_eq, not_or]
          at repetition
        exact paired_recovers
            (FieldFormat.octet_recovers_of_not_lt repetition.1.1)
            (FieldFormat.octet_recovers_of_not_lt repetition.2)
      sfnOffset := FieldFormat.octet_recovers_of_any sfn
      channel := fun number isNumber =>
        FieldFormat.channel_recovers
          (FieldFormat.channel_in_range_of_any channel number isNumber)
      channel2 := fun number isNumber =>
        FieldFormat.channel_recovers
          (FieldFormat.channel_in_range_of_any channel2 number isNumber)
      fixed :=
        paired_recovers (SubslotAllocation.recovers_of_isValid allocation)
          (paired_recovers (windowFormat_recovers (fits_four_of_not_lt length)
              (CwMin.recovers cwMin))
            (windowFormat_recovers (fits_four_of_not_lt response)
              (CwMax.recovers cwMax))) }

/-- The first octet. -/
def octet0Of
    (sfn channel channel2 : Bool)
    (repeatType : RepeatType) :
    UInt8 :=
  (sfn.toUInt32 <<< 2).toUInt8 ||| (channel.toUInt32 <<< 1).toUInt8 |||
    channel2.toUInt32.toUInt8 ||| (repeatCode repeatType <<< 3).toUInt8

def code
    (ie : RandomAccessResourceIe)
    (info : RachRepeatInfo) :
    List UInt8 :=
  [octet0Of ie.sfnOffset.isSome ie.channel.isSome ie.channel2.isSome
      info.repeatType] ++
    (fixedFormat ie.mu).code ie.fixedFields ++
    repetitionValidity.code (info.repetition, info.validity) ++
    FieldFormat.octet.optionalCode ie.sfnOffset ++
    FieldFormat.channel.optionalCode ie.channel ++
    FieldFormat.channel.optionalCode ie.channel2

theorem code_length
    (ie : RandomAccessResourceIe)
    (info : RachRepeatInfo) :
    (ie.code info).length =
      (if ie.mu ≤ 4 then 5 else 6) + 2 + ie.sfnOffset.isSome.toNat +
        ie.channel.isSome.toNat * 2 + ie.channel2.isSome.toNat * 2 := by
  simp only [code, List.length_append, optionalCode_length,
    optionalSize_eq, FieldFormat.code_length,
    octet_size, channel_size,
    repetitionValidity_size, fixedFormat_size, List.length_singleton,
    startSize]
  split <;> omega

/-- The fields of the first octet are found where they were placed. -/
theorem octet0_recovered
    (sfn channel channel2 : Bool)
    (repeatType : RepeatType) :
    let octet0 := octet0Of sfn channel channel2 repeatType
    ¬ 2 < repeatBits octet0 ∧ (repeatBits octet0 != 0) = true ∧
      (if repeatBits octet0 = 1 then .repeatedInFollowingFrames
        else .repeatedInFollowingSubslots) = repeatType ∧
      (octet0 &&& 0b100 != 0) = sfn ∧ (octet0 &&& 0b10 != 0) = channel ∧
      (octet0 &&& 1 != 0) = channel2 ∧
      (octet0 &&& 0b100).toNat = sfn.toNat * 4 ∧
      (octet0 &&& 0b10).toNat = channel.toNat * 2 ∧
      (octet0 &&& 1).toNat = channel2.toNat := by
  revert sfn channel channel2
  cases repeatType <;> decide

theorem sizeByFlags_octet0Of
    (mu : Nat)
    (sfn channel channel2 : Bool)
    (repeatType : RepeatType) :
    sizeByFlags mu (octet0Of sfn channel channel2 repeatType) =
      (if mu ≤ 4 then 5 else 6) + 2 + sfn.toNat * 4 +
        channel.toNat * 4 + channel2.toNat * 2 := by
  obtain ⟨-, repeated, -, -, -, -, isSfn, isChannel, isChannel2⟩ :=
    octet0_recovered sfn channel channel2 repeatType
  rw [sizeByFlags, repeated, isSfn, isChannel, isChannel2, if_pos rfl]
  omega

section Repeated

variable
    {ie : RandomAccessResourceIe}
    {info : RachRepeatInfo}
    {memory : Memory}
    {macPduOffset : Nat}

theorem octet0_of_holds (holds : memory.Holds macPduOffset (ie.code info)) :
    memory macPduOffset =
      octet0Of ie.sfnOffset.isSome ie.channel.isSome ie.channel2.isSome
        info.repeatType :=
  Memory.holds_singleton.mp holds.front.front.front.front.front

theorem peeked_code (holds : memory.Holds macPduOffset (ie.code info)) :
    (getPackedSizeByPeeking ie.mu macPduOffset).eval memory =
      .ok (sizeByFlags ie.mu
        (octet0Of ie.sfnOffset.isSome ie.channel.isSome
          ie.channel2.isSome info.repeatType)) := by
  obtain ⟨notReserved, -⟩ :=
    octet0_recovered ie.sfnOffset.isSome ie.channel.isSome
      ie.channel2.isSome info.repeatType
  simp only [getPackedSizeByPeeking, eval_bind,
    eval_octet, octet0_of_holds holds, if_neg notReserved,
    eval_pure]

theorem peek_eq
    (ie : RandomAccessResourceIe)
    (memory : Memory)
    (front : Nat) :
    codec.peek ie memory front =
      .ok ((getPackedSizeByPeeking ie.mu front).eval memory) := by
  apply MmieCodec.peek_eq
  simp only [codec, getPackedSizeByPeeking, within_bind, within_octet]
  refine ⟨Nat.lt_succ_self front, ?_⟩
  split <;> trivial

theorem pack_repeated
    (admitted : ie.isAdmitted = true)
    (repeats : ie.repeatInfo = some info)
    (macPduOffset : Nat)
    (memory : Memory) :
    ie.pack macPduOffset memory = (do
      assertPeeked
        (.ok (sizeByFlags ie.mu
          (octet0Of ie.sfnOffset.isSome ie.channel.isSome
            ie.channel2.isSome info.repeatType)))
        (ie.code info).length
      pure (memory.write macPduOffset (ie.code info))) := by
  have peeked :=
    peeked_code (Memory.holds_write macPduOffset (ie.code info) memory)
  have valid := isValid_of_isAdmitted admitted
  rw [repeats, Option.isSome_some, if_pos rfl] at valid
  simp only [pack, valid, Checked.ok_bind, dectnrpAssert_true,
    Memory.assign_eq_write macPduOffset, Memory.assignOr_front, repeats,
    Checked.value_some]
  rw [mk_write (by rfl)]
  simp only [pack_written, written_fst, written_snd, List.singleton_append,
    Memory.assignOr_front]
  rw [mk_write (by simp)]
  simp only [pack_written, FieldFormat.packOptional_written,
    written_fst, written_snd]
  rw [← peeked]
  rfl

end Repeated

/-- Number of octets of an element whose first octet is known. -/
def bytesRead
    (mu : Nat)
    (octet0 : UInt8) :
    Nat :=
  1 + (fixedFormat mu).size +
    repetitionValidity.optionalSize (repeatBits octet0 != 0) +
    FieldFormat.octet.optionalSize (octet0 &&& 0b100 != 0) +
    FieldFormat.channel.optionalSize (octet0 &&& 0b10 != 0) +
    FieldFormat.channel.optionalSize (octet0 &&& 1 != 0)

/-- At least as many octets are peeked as are read. -/
theorem bytesRead_le_sizeByFlags
    (mu : Nat)
    (octet0 : UInt8) :
    bytesRead mu octet0 ≤ sizeByFlags mu octet0 := by
  simp only [bytesRead, sizeByFlags, fixedFormat_size,
    startSize, optionalSize_eq,
    repetitionValidity_size, octet_size,
    channel_size]
  by_cases small : mu ≤ 4
  · simp only [small, if_true]
    revert octet0
    apply forall_octet
    decide +kernel
  · simp only [small, if_false]
    revert octet0
    apply forall_octet
    decide +kernel

variable
  {mu : Nat}
  {memory : Memory}

/-- Unpacking loads the octets that are counted. -/
theorem within_unpack
    {limit macPduOffset : Nat}
    (inside : macPduOffset + bytesRead mu (memory macPduOffset) ≤ limit) :
    (unpack mu macPduOffset).Within memory limit := by
  unfold bytesRead at inside
  simp only [unpack, within_bind, within_octet, eval_octet, eval_unpack]
  refine ⟨FieldFormat.within_unpack _ (by omega), by omega, ?_⟩
  split
  · trivial
  simp only [within_bind, FieldFormat.eval_unpackOptional,
    OctetReader.within_pure, and_true]
  exact ⟨within_unpackOptional _ (by omega),
      within_unpackOptional _ (by omega),
      within_unpackOptional _ (by omega),
      within_unpackOptional _ (by omega)⟩

/-- The element that octets stand for. -/
def received
    (mu : Nat)
    (memory : Memory)
    (front : Nat) :
    RandomAccessResourceIe :=
  let octet0 := memory front
  let fixed := (fixedFormat mu).valueAt memory (front + 1)
  let offset1 := 1 + (fixedFormat mu).size
  let offset2 :=
    offset1 + repetitionValidity.optionalSize (repeatBits octet0 != 0)
  let offset3 :=
    offset2 + FieldFormat.octet.optionalSize (octet0 &&& 0b100 != 0)
  let offset4 :=
    offset3 + FieldFormat.channel.optionalSize (octet0 &&& 0b10 != 0)
  { repeatInfo :=
      (repetitionValidity.optionalAt memory (front + offset1)
        (repeatBits octet0 != 0)).map fun fields =>
          ⟨if repeatBits octet0 = 1 then .repeatedInFollowingFrames
            else .repeatedInFollowingSubslots, fields.1, fields.2⟩
    sfnOffset :=
      FieldFormat.octet.optionalAt memory (front + offset2)
        (octet0 &&& 0b100 != 0)
    channel :=
      FieldFormat.channel.optionalAt memory (front + offset3)
        (octet0 &&& 0b10 != 0)
    channel2 :=
      FieldFormat.channel.optionalAt memory (front + offset4)
        (octet0 &&& 1 != 0)
    allocation := fixed.1
    maxRachLengthType := .ofBool fixed.2.1.1
    maxRachLength := fixed.2.1.2.1
    cwMin := fixed.2.1.2.2
    dectDelay := .ofBool fixed.2.2.1
    responseWindowLength := fixed.2.2.2.1
    cwMax := fixed.2.2.2.2
    mu := mu }

variable {front : Nat}

/-- What is unpacked if nothing is reserved. -/
theorem unpack_received (notReserved : ¬ 2 < repeatBits (memory front)) :
    (unpack mu front).eval memory =
      finishUnpacking getPackedSize isValid
        (received mu memory front, bytesRead mu (memory front)) := by
  simp only [unpack, eval_bind, eval_unpack,
    eval_octet, if_neg notReserved, eval_pure,
    FieldFormat.eval_unpackOptional]
  rfl

variable {info : RachRepeatInfo}

/-- An element with a repetition is received from its octets. -/
theorem received_code
    (admitted : ie.isAdmitted = true)
    (repeats : ie.repeatInfo = some info)
    {memory : Memory}
    (holds : memory.Holds front (ie.code info)) :
    received ie.mu memory front = ie := by
  have fields := fields_of_isAdmitted admitted
  have octet0 := octet0_of_holds holds
  obtain ⟨-, repeated, repeatType, sfn, channel, channel2, -⟩ :=
    octet0_recovered ie.sfnOffset.isSome ie.channel.isSome
      ie.channel2.isSome info.repeatType
  rw [← octet0] at repeated repeatType sfn channel channel2
  simp only [code, Memory.holds_append, List.length_append,
    List.length_singleton, FieldFormat.code_length,
    optionalCode_length] at holds
  obtain ⟨⟨⟨⟨⟨-, fixedHolds⟩, repetitionHolds⟩, sfnHolds⟩,
    channelHolds⟩, channel2Holds⟩ := holds
  have isFixed := valueAt_eq fields.fixed fixedHolds
  have isRepetition :=
    valueAt_eq (fields.repeatInfo info repeats) repetitionHolds
  have isSfn := optionalAt_eq fields.sfnOffset sfnHolds
  have isChannel := optionalAt_eq fields.channel channelHolds
  have isChannel2 := optionalAt_eq fields.channel2 channel2Holds
  simp only [received, isFixed, repeated, repeatType, sfn, channel,
    channel2, optionalSize_true, isSfn, isChannel,
    isChannel2, FieldFormat.optionalAt_true, isRepetition,
    Option.map_some, fixedFields, LengthType.ofBool_inSlots,
    DectDelay.ofBool_toUnderlying, ← repeats]

theorem getPackedSize_repeated
    (valid : ie.isValid = .ok true)
    (repeats : ie.repeatInfo = some info) :
    ie.getPackedSize = .ok (ie.code info).length := by
  rw [getPackedSize, valid, repeats, code_length]
  rfl

/-- What an element needs to be checked and to be peeked correctly. -/
theorem restores_iff (admitted : ie.isAdmitted = true) :
    codec.RoundTrips ie ↔
      ie.repeatInfo.isSome = true ∧ ie.sfnOffset = none ∧
        ie.channel = none := by
  cases repeats : ie.repeatInfo with
  | none =>
      have throws := isValid_of_isAdmitted admitted
      rw [repeats] at throws
      refine iff_of_false (fun roundTrips => ?_) (fun repeated => ?_)
      · obtain ⟨packed, packs⟩ := roundTrips.packs 0 fun _ => 0
        simp only [codec, pack, throws] at packs
        cases packs
      · cases repeated.1
  | some info =>
      have valid := isValid_of_isAdmitted admitted
      rw [repeats, Option.isSome_some, if_pos rfl] at valid
      rw [MmieCodec.roundTrips_iff_peeked
        (getPackedSize_repeated valid repeats)
        (pack_repeated admitted repeats)
        (fun initial memory front sameMu holds => by
          rw [peek_eq, show initial.mu = ie.mu from sameMu, peeked_code holds])
        (fun initial memory front sameMu holds => by
          change (unpack initial.mu front).check _ = _
          obtain ⟨notReserved, repeated, -, sfn, channel, channel2, -⟩ :=
            octet0_recovered ie.sfnOffset.isSome ie.channel.isSome
              ie.channel2.isSome info.repeatType
          rw [← octet0_of_holds holds] at notReserved repeated
          rw [← octet0_of_holds holds] at sfn channel channel2
          have isSize : bytesRead ie.mu (memory front) =
              (ie.code info).length := by
            simp only [bytesRead, code, repeated, sfn, channel, channel2,
              List.length_append, FieldFormat.code_length,
              optionalCode_length, List.length_singleton,
              optionalSize_true]
          rw [show initial.mu = ie.mu from sameMu,
            OctetReader.check_window_eq_ok, unpack_received notReserved,
            received_code admitted repeats holds, isSize,
            finishUnpacking_eq_ok]
          exact ⟨within_unpack (by rw [isSize]),
              getPackedSize_repeated valid repeats, valid, rfl⟩),
        Except.ok.injEq, sizeByFlags_octet0Of, code_length]
      cases ie.sfnOffset <;> cases ie.channel <;> simp

/--
An element that is admitted is restored exactly if it has a repetition, and
neither a frame offset nor a channel of its own.
-/
theorem randomAccessResource_roundTrips_iff
    {ie : RandomAccessResourceIe}
    (admitted : ie.isAdmitted = true) :
    codec.RoundTrips ie ↔
      ie.repeatInfo.isSome = true ∧ ie.sfnOffset = none ∧
        ie.channel = none :=
  restores_iff admitted

/-- A repetition and a channel for the response. -/
theorem randomAccessResource_roundTrips_iff_response :
    let ie : RandomAccessResourceIe :=
      { repeatInfo := some ⟨.repeatedInFollowingFrames, 1, 255⟩
        sfnOffset := none
        channel := none
        channel2 := some 1700
        allocation := ⟨65535, .lengthInSlots, 127⟩
        maxRachLengthType := .lengthInSubslots
        maxRachLength := 15
        cwMin := .cw56
        dectDelay := .responseWindowStartsAfterHalfFrame
        responseWindowLength := 15
        cwMax := .cw1792
        mu := 8 }
    codec.RoundTrips ie ↔
      ie.repeatInfo.isSome = true ∧ ie.sfnOffset = none ∧
        ie.channel = none :=
  randomAccessResource_roundTrips_iff (by decide)

/-- Resources with a channel cannot be packed. -/
theorem not_randomAccessResource_roundTrips :
    ¬ ∀ ie : RandomAccessResourceIe,
      ie.isAdmitted = true → codec.RoundTrips ie := by
  intro restores
  let ie : RandomAccessResourceIe :=
    { repeatInfo := some ⟨.repeatedInFollowingFrames, 1, 10⟩
      sfnOffset := none
      channel := some 1700
      channel2 := none
      allocation := ⟨0, .lengthInSubslots, 4⟩
      maxRachLengthType := .lengthInSubslots
      maxRachLength := 4
      cwMin := .cw8
      dectDelay := .responseWindowStartsAfter3Subslots
      responseWindowLength := 4
      cwMax := .cw256
      mu := 1 }
  have admitted : ie.isAdmitted = true := by decide
  have missing := (restores_iff admitted).mp (restores ie admitted)
  cases missing.2.2

/-- Where the repetition starts. -/
def repetitionOffset (mu : Nat) : Nat :=
  startSize mu + 4

/-- Where the channel starts behind a repetition. -/
def channelOffset
    (mu : Nat)
    (octet0 : UInt8) :
    Nat :=
  repetitionOffset mu + 2 +
    FieldFormat.octet.optionalSize (octet0 &&& 0b100 != 0)

/-- Where the channel for responses starts. -/
def channel2Offset
    (mu : Nat)
    (octet0 : UInt8) :
    Nat :=
  channelOffset mu octet0 +
    FieldFormat.channel.optionalSize (octet0 &&& 0b10 != 0)

/--
Octets that are unpacked safely: their repetition is reserved and no size is
peeked, or they are repeated at least once and no channel is out of range.
-/
def SafeOctets
    (mu : Nat)
    (memory : Memory)
    (front : Nat) :
    Prop :=
  let octet0 := memory front
  2 < repeatBits octet0 ∨
    (repeatBits octet0 ≠ 0 ∧
      memory (front + repetitionOffset mu) ≠ 0 ∧
      (octet0 &&& 0b10 ≠ 0 →
        isAbsoluteChannelNumberInRange
          (FieldFormat.channel.valueAt memory
            (front + channelOffset mu octet0)) = true) ∧
      (octet0 &&& 1 ≠ 0 →
        isAbsoluteChannelNumberInRange
          (FieldFormat.channel.valueAt memory
            (front + channel2Offset mu octet0)) = true))

theorem fixedFields_valid
    (mu : Nat)
    (memory : Memory)
    (address : Nat) :
    let fixed := (fixedFormat mu).valueAt memory address
    SubslotAllocation.isValid mu fixed.1 = true ∧
      ¬ 15 < fixed.2.1.2.1 ∧
      CodedEnumeration.isValid fixed.2.1.2.2 = true ∧
      ¬ 15 < fixed.2.2.2.1 ∧
      CodedEnumeration.isValid fixed.2.2.2.2 = true := by
  have length (octet : UInt8) :
      ¬ 15 < extract octet 3 0b1111 := by
    revert octet
    apply forall_octet
    decide +kernel
  have cwMin (octet : UInt8) :
      CodedEnumeration.isValid (CodedEnumeration.fromCodedValue
        (extract octet 0 0b111) : CwMin) = true := by
    revert octet
    apply forall_octet
    decide +kernel
  have cwMax (octet : UInt8) :
      CodedEnumeration.isValid (CodedEnumeration.fromCodedValue
        (extract octet 0 0b111) : CwMax) = true := by
    revert octet
    apply forall_octet
    decide +kernel
  simp only [fixedFormat, FieldFormat.paired_valueAt]
  exact ⟨SubslotAllocation.valueAt_isValid mu memory address, length _,
      cwMin _, length _, cwMax _⟩

/-- What can be wrong with an element that was received. -/
theorem received_isAdmitted (repeated : repeatBits (memory front) ≠ 0) :
    (received mu memory front).isAdmitted = true ↔
      memory (front + repetitionOffset mu) ≠ 0 ∧
      (memory front &&& 0b10 ≠ 0 →
        isAbsoluteChannelNumberInRange
          (FieldFormat.channel.valueAt memory
            (front + channelOffset mu (memory front))) = true) ∧
      (memory front &&& 1 ≠ 0 →
        isAbsoluteChannelNumberInRange
          (FieldFormat.channel.valueAt memory
            (front + channel2Offset mu (memory front))) = true) := by
  have repeats : (repeatBits (memory front) != 0) = true := by
    simpa using repeated
  have offset : 1 + (fixedFormat mu).size = repetitionOffset mu := by
    rw [fixedFormat_size, repetitionOffset]
    omega
  obtain ⟨allocation, length, cwMin, response, cwMax⟩ :=
    fixedFields_valid mu memory (front + 1)
  simp only [isAdmitted, restValid, Bool.if_false_left,
    Bool.and_eq_true, Bool.not_eq_true', decide_eq_false_iff_not,
    Bool.and_true, Bool.or_eq_true, decide_eq_true_eq, not_or,
    Bool.not_eq_false]
  simp only [received, repeats, offset, optionalSize_true,
    repetitionValidity_size, allocation, length, cwMin, response, cwMax,
    not_false_eq_true, and_true]
  refine and_congr ?_ ?_
  · rw [Bool.not_eq_true, ← repetition_checked]
    rfl
  rw [and_iff_right (FieldFormat.octet_optionalAt_not_any _ _ _),
    FieldFormat.optionalAt_not_any, FieldFormat.optionalAt_not_any,
    bne_iff_ne, bne_iff_ne, Bool.not_eq_false', Bool.not_eq_false']
  rfl

theorem received_repeated
    {front : Nat} :
    (received mu memory front).repeatInfo.isSome = true ↔
      repeatBits (memory front) ≠ 0 := by
  simp only [received, Option.isSome_map, FieldFormat.optionalAt_isSome,
    bne_iff_ne]

/-- An element passes its own check if it is admitted and repeated. -/
theorem isValid_eq_ok_true
    {ie : RandomAccessResourceIe} :
    ie.isValid = .ok true ↔
      ie.isAdmitted = true ∧ ie.repeatInfo.isSome = true := by
  unfold isValid isAdmitted
  cases ie.repeatInfo with
  | none => simp
  | some info =>
      by_cases invalid : repeatInvalid info = true <;> simp [invalid]

/-- An element whose size is known is valid. -/
theorem isValid_of_sized
    {size : Nat}
    (sized : ie.getPackedSize = .ok size) :
    ie.isValid = .ok true := by
  obtain ⟨valid, checked, rest⟩ := Checked.bind_eq_ok.mp sized
  obtain ⟨passes, -⟩ := Checked.dectnrpAssert_bind_eq_ok.mp rest
  rw [checked, passes]

/-- The octets that are read are those that a repeated element counts. -/
theorem getPackedSize_received
    (valid : (received mu memory front).isValid = .ok true) :
    (received mu memory front).getPackedSize =
      .ok (bytesRead mu (memory front)) := by
  rw [getPackedSize, valid]
  simp only [received, bytesRead, Checked.ok_bind, dectnrpAssert_true,
    FieldFormat.optionalAt_isSome, Option.isSome_map,
    optionalSize_eq, fixedFormat_size,
    startSize, repetitionValidity_size,
    octet_size, channel_size,
    Checked.pure_eq_ok]
  congr 1
  split <;> omega

/-- Unpacking is safe for the octets of the condition and for no others. -/
theorem unpacksSafely_iff
    (ie : RandomAccessResourceIe)
    (memory : Memory)
    (front : Nat) :
    codec.UnpacksSafely ie memory front ↔ SafeOctets ie.mu memory front := by
  rw [@MmieCodec.unpacksSafely_iff_of_check _ codec ie memory front
    (unpack ie.mu front) fun _ => rfl, SafeOctets]
  simp only [peek_eq, Except.ok.injEq, getPackedSizeByPeeking,
    eval_bind, eval_octet]
  by_cases reserved : 2 < repeatBits (memory front)
  · simp only [reserved, if_true, true_or, iff_true]
    intro size peeked
    cases peeked
  simp only [reserved, if_false, false_or, eval_pure,
    Except.ok.injEq, forall_eq', unpack_received reserved]
  have within : (unpack ie.mu front).Within memory
      (front + sizeByFlags ie.mu (memory front)) :=
    within_unpack (Nat.add_le_add_left (bytesRead_le_sizeByFlags _ _) front)
  rw [and_iff_right within]
  refine (finishes_iff_of_asserts fun _ => isValid_of_sized).trans ?_
  rw [and_iff_left_of_imp getPackedSize_received, isValid_eq_ok_true,
    received_repeated, and_comm]
  exact and_congr_right received_isAdmitted

end RandomAccessResourceIe

end DectNrp
