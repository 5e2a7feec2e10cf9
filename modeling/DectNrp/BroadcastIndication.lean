import DectNrp.MmieFields

namespace DectNrp

/-!
# Broadcast indication

The first octet tells whether a device is paged or answered, which kind of
identifier follows, and which feedback comes behind it.  The code of the
feedback is written next to the lowest bit, but it is read and compared without
being moved back.
-/

open FieldFormat (written)
open BitFields (extract forall_octet)
open FieldFormat (code_length mk_write word word_size written_fst written_snd)
open OctetReader (eval_bind eval_octet eval_pure within_bind within_octet
  within_pure)

open CodedEnumeration (toUnderlying fromCodedValue)

namespace BroadcastIndicationIe

/-- Whether a device is paged or answered. -/
inductive IndicationType where
  | notDefined
  | paging
  | randomAccessResponse
  | upper
  deriving Repr, DecidableEq

instance : CodedEnumeration IndicationType where
  toUnderlying
    | .notDefined => undefinedNumeric32
    | .paging => 0
    | .randomAccessResponse => 1
    | .upper => 2
  notDefined := .notDefined
  lower := none
  upper := .upper
  codes := [.paging, .randomAccessResponse]

/-- Which identifier of a device is used. -/
inductive RdIdType where
  | notDefined
  | shortRdId
  | longRdId
  | upper
  deriving Repr, DecidableEq

instance : CodedEnumeration RdIdType where
  toUnderlying
    | .notDefined => undefinedNumeric32
    | .shortRdId => 0
    | .longRdId => 1
    | .upper => 2
  notDefined := .notDefined
  lower := none
  upper := .upper
  codes := [.shortRdId, .longRdId]

/-- Whether a transmission was received. -/
inductive AckNack where
  | notDefined
  | nack
  | ack
  | upper
  deriving Repr, DecidableEq

instance : CodedEnumeration AckNack where
  toUnderlying
    | .notDefined => undefinedNumeric32
    | .nack => 0
    | .ack => 1
    | .upper => 2
  notDefined := .notDefined
  lower := none
  upper := .upper
  codes := [.nack, .ack]

/-- Which feedback follows. -/
inductive FeedbackType where
  | notDefined
  | noFeedback
  | mcs
  | mimo2Antennas
  | mimo4Antennas
  | upper
  deriving Repr, DecidableEq

instance : CodedEnumeration FeedbackType where
  toUnderlying
    | .notDefined => undefinedNumeric32
    | .noFeedback => 0
    | .mcs => 1
    | .mimo2Antennas => 2
    | .mimo4Antennas => 3
    | .upper => 4
  notDefined := .notDefined
  lower := none
  upper := .upper
  codes := [.noFeedback, .mcs, .mimo2Antennas, .mimo4Antennas]

/-- The modulation and coding scheme that a channel admits. -/
inductive ChannelQuality where
  | notDefined
  | lower
  | mcs0
  | mcs1
  | mcs2
  | mcs3
  | mcs4
  | mcs5
  | mcs6
  | mcs7
  | mcs8
  | mcs9
  | mcs10
  | mcs11
  | upper
  deriving Repr, DecidableEq

instance : CodedEnumeration ChannelQuality where
  toUnderlying
    | .notDefined => undefinedNumeric32
    | .lower => 0
    | .mcs0 => 1
    | .mcs1 => 2
    | .mcs2 => 3
    | .mcs3 => 4
    | .mcs4 => 5
    | .mcs5 => 6
    | .mcs6 => 7
    | .mcs7 => 8
    | .mcs8 => 9
    | .mcs9 => 10
    | .mcs10 => 11
    | .mcs11 => 12
    | .upper => 13
  notDefined := .notDefined
  lower := some .lower
  upper := .upper
  codes :=
    [.mcs0, .mcs1, .mcs2, .mcs3, .mcs4, .mcs5, .mcs6, .mcs7, .mcs8, .mcs9,
      .mcs10, .mcs11]

/-- Number of spatial layers. -/
inductive NofLayers where
  | notDefined
  | singleLayer
  | dualLayer
  | fourLayers
  | upper
  deriving Repr, DecidableEq

instance : CodedEnumeration NofLayers where
  toUnderlying
    | .notDefined => undefinedNumeric32
    | .singleLayer => 0
    | .dualLayer => 1
    | .fourLayers => 2
    | .upper => 3
  notDefined := .notDefined
  lower := none
  upper := .upper
  codes := [.singleLayer, .dualLayer, .fourLayers]

/-- `std::variant` of no feedback and its two kinds. -/
inductive McsMimoFeedback where
  | monostate
  | channelQuality (quality : ChannelQuality)
  | mimoFeedback (nofLayers : NofLayers) (codebookIndex : UInt32)
  deriving Repr, DecidableEq

end BroadcastIndicationIe

structure BroadcastIndicationIe where
  indicationType : BroadcastIndicationIe.IndicationType
  idType : BroadcastIndicationIe.RdIdType
  ackNack : BroadcastIndicationIe.AckNack
  feedback : BroadcastIndicationIe.FeedbackType
  resourceAllocationIeFollows : Bool
  rdId : UInt32
  mcsMimoFeedback : BroadcastIndicationIe.McsMimoFeedback
  deriving Repr, DecidableEq

namespace BroadcastIndicationIe

/-- The feedback is the one that is announced, and its index is admitted. -/
def feedbackValid : FeedbackType → McsMimoFeedback → Bool
  | .noFeedback, _ => true
  | .mcs, .channelQuality quality => CodedEnumeration.isValid quality
  | .mimo2Antennas, .mimoFeedback .singleLayer index => index ≤ 5
  | .mimo2Antennas, .mimoFeedback .dualLayer index => index ≤ 2
  | .mimo4Antennas, .mimoFeedback .singleLayer index => index ≤ 27
  | .mimo4Antennas, .mimoFeedback .dualLayer index => index ≤ 21
  | .mimo4Antennas, .mimoFeedback .fourLayers index => index ≤ 4
  | _, _ => false

def isValid (ie : BroadcastIndicationIe) : Bool :=
  if ! CodedEnumeration.isValid ie.indicationType ||
      ! CodedEnumeration.isValid ie.idType then
    false
  else if ie.idType == .shortRdId && 65535 < ie.rdId then false
  else if ie.indicationType == .randomAccessResponse then
    if ie.idType != .shortRdId ||
        ! CodedEnumeration.isValid ie.ackNack then
      false
    else feedbackValid ie.feedback ie.mcsMimoFeedback
  else true

/-- Number of octets of an identifier. -/
def idSize (idType : RdIdType) : Nat :=
  if idType = .shortRdId then 2 else 4

def getPackedSize (ie : BroadcastIndicationIe) : Checked Nat := do
  dectnrpAssert ie.isValid "Broadcast Indication IE is not valid"
  pure ((if ie.idType = .shortRdId then 3 else 5) +
    if ie.indicationType = .randomAccessResponse ∧
        ie.feedback ≠ .noFeedback then
      1
    else 0)

/-- Size of an element whose first octet is known. -/
def sizeByFlags (octet0 : UInt8) : Nat :=
  let packedSize := if (octet0 >>> 4) &&& 1 = 0 then 3 else 5
  if octet0 >>> 5 ≥ 2 then undefinedNumeric32.toNat
  else if octet0 >>> 5 = 1 ∧ octet0 &&& 0b110 ≠ 0 then packedSize + 1
  else packedSize

/-- Reserved indications are reported as a size. -/
def getPackedSizeByPeeking
    (macPduOffset : Nat) :
    OctetReader PeekResult := do
  let octet0 ← OctetReader.octet macPduOffset
  pure (.ok (sizeByFlags octet0))

/-- Write the feedback that is announced; `std::get` may throw. -/
def packFeedback
    (feedback : FeedbackType)
    (mcsMimoFeedback : McsMimoFeedback)
    (macPduOffset : Nat)
    (state : Nat × Memory) :
    Checked (Nat × Memory) :=
  let address := macPduOffset + state.1
  match feedback, mcsMimoFeedback with
  | .mcs, .channelQuality quality =>
      .ok (state.1 + 1, state.2.assign address (toUnderlying quality))
  | .mimo2Antennas, .mimoFeedback nofLayers index =>
      .ok (state.1 + 1,
        (state.2.assign address (toUnderlying nofLayers <<< 3)).assignOr
          address index)
  | .mimo4Antennas, .mimoFeedback nofLayers index =>
      .ok (state.1 + 1,
        (state.2.assign address (toUnderlying nofLayers <<< 6)).assignOr
          address index)
  | .mcs, _ | .mimo2Antennas, _ | .mimo4Antennas, _ =>
      .error .badVariantAccess
  | _, _ => .ok state

/-- Complete the first octet of a response and write its feedback. -/
def packResponse
    (ie : BroadcastIndicationIe)
    (macPduOffset : Nat)
    (state : Nat × Memory) :
    Checked (Nat × Memory) :=
  if ie.indicationType = .randomAccessResponse then
    let memory := state.2.assignOr macPduOffset
      (toUnderlying ie.ackNack <<< 3)
    let memory := memory.assignOr macPduOffset
      (toUnderlying ie.feedback <<< 1)
    packFeedback ie.feedback ie.mcsMimoFeedback macPduOffset
      (state.1, memory)
  else pure state

def pack
    (ie : BroadcastIndicationIe)
    (macPduOffset : Nat)
    (memory : Memory) :
    Checked Memory := do
  dectnrpAssert ie.isValid "Broadcast Indication IE is not valid"
  let memory := memory.assign macPduOffset
    (toUnderlying ie.indicationType <<< 5)
  let memory := memory.assignOr macPduOffset
    (toUnderlying ie.idType <<< 4)
  let memory := memory.assignOr macPduOffset
    ie.resourceAllocationIeFollows.toUInt32
  let state :=
    (FieldFormat.word (idSize ie.idType)).pack macPduOffset ie.rdId
      (1, memory)
  let (nBytes, memory) ← ie.packResponse macPduOffset state
  assertPeeked ((getPackedSizeByPeeking macPduOffset).eval memory) nBytes
  pure memory

/-- The indication in the upper three bits. -/
def indicationOf (octet0 : UInt8) : IndicationType :=
  fromCodedValue (octet0.toUInt32 >>> 5)

/-- The kind of the identifier. -/
def idTypeOf (octet0 : UInt8) : RdIdType :=
  fromCodedValue (extract octet0 4 1)

def ackNackOf (octet0 : UInt8) : AckNack :=
  fromCodedValue (extract octet0 3 1)

/-- Both bits of the feedback are masked, but not moved. -/
def feedbackOf (octet0 : UInt8) : FeedbackType :=
  fromCodedValue (extract octet0 0 0b110)

/-- The feedback that an octet stands for. -/
def mcsMimoOf : FeedbackType → UInt8 → McsMimoFeedback
  | .mcs, octet =>
      .channelQuality (fromCodedValue (extract octet 0 0b1111))
  | .mimo2Antennas, octet =>
      .mimoFeedback (fromCodedValue (extract octet 3 1))
        (extract octet 0 0b111)
  | .mimo4Antennas, octet =>
      .mimoFeedback (fromCodedValue (octet.toUInt32 >>> 6))
        (extract octet 0 0b111111)
  | _, _ => .monostate

/-- Some kinds of feedback take an octet. -/
def hasOctet : FeedbackType → Bool
  | .mcs | .mimo2Antennas | .mimo4Antennas => true
  | _ => false

/-- Read the feedback that is announced. -/
def unpackFeedback
    (feedback : FeedbackType)
    (macPduOffset nBytes : Nat) :
    OctetReader (McsMimoFeedback × Nat) :=
  if hasOctet feedback then do
    let octet ← OctetReader.octet (macPduOffset + nBytes)
    pure (mcsMimoOf feedback octet, nBytes + 1)
  else pure (.monostate, nBytes)

/-- Read the fields of an element; all fields are overwritten. -/
def unpack
    (macPduOffset : Nat) :
    OctetReader (BroadcastIndicationIe × Nat) := do
  let octet0 ← OctetReader.octet macPduOffset
  let (rdId, nBytes) ←
    (FieldFormat.word (idSize (idTypeOf octet0))).unpack macPduOffset 1
  let ie : BroadcastIndicationIe :=
    { indicationType := indicationOf octet0
      idType := idTypeOf octet0
      ackNack := .notDefined
      feedback := .notDefined
      resourceAllocationIeFollows := octet0 &&& 1 != 0
      rdId := rdId
      mcsMimoFeedback := .monostate }
  if indicationOf octet0 = .randomAccessResponse then do
    let (mcsMimoFeedback, nBytes) ←
      unpackFeedback (feedbackOf octet0) macPduOffset nBytes
    pure
      ({ ie with
         ackNack := ackNackOf octet0
         feedback := feedbackOf octet0
         mcsMimoFeedback := mcsMimoFeedback }, nBytes)
  else pure (ie, nBytes)

/-- Nothing of the object that unpacks an element is kept. -/
def codec : MmieCodec BroadcastIndicationIe where
  isValid ie := .ok ie.isValid
  getPackedSize := getPackedSize
  pack := pack
  getPackedSizeMinToPeek := 1
  getPackedSizeByPeeking _ := getPackedSizeByPeeking
  unpack _ octets macPduOffset :=
    unpackRead getPackedSize (fun ie => .ok ie.isValid)
      (unpack macPduOffset) octets
  SameContext _ _ := True
  sameContext_refl _ := trivial

/-- Number of octets that are read if the first one is known. -/
def bytesRead (octet0 : UInt8) : Nat :=
  1 + idSize (idTypeOf octet0) +
    if indicationOf octet0 = .randomAccessResponse then
      (hasOctet (feedbackOf octet0)).toNat
    else 0

/-- The element that octets stand for. -/
def received
    (memory : Memory)
    (front : Nat) :
    BroadcastIndicationIe :=
  let octet0 := memory front
  let ie : BroadcastIndicationIe :=
    { indicationType := indicationOf octet0
      idType := idTypeOf octet0
      ackNack := .notDefined
      feedback := .notDefined
      resourceAllocationIeFollows := octet0 &&& 1 != 0
      rdId :=
        (FieldFormat.word (idSize (idTypeOf octet0))).valueAt memory
          (front + 1)
      mcsMimoFeedback := .monostate }
  if indicationOf octet0 = .randomAccessResponse then
    { ie with
      ackNack := ackNackOf octet0
      feedback := feedbackOf octet0
      mcsMimoFeedback :=
        mcsMimoOf (feedbackOf octet0)
          (memory (front + (1 + idSize (idTypeOf octet0)))) }
  else ie

variable {feedback : FeedbackType}

theorem mcsMimoOf_of_not_hasOctet
    (none : hasOctet feedback = false)
    (octet : UInt8) :
    mcsMimoOf feedback octet = .monostate := by
  cases feedback with
  | mcs | mimo2Antennas | mimo4Antennas => cases none
  | notDefined | noFeedback | upper => rfl

theorem eval_unpackFeedback
    (memory : Memory)
    (feedback : FeedbackType)
    (macPduOffset nBytes : Nat) :
    (unpackFeedback feedback macPduOffset nBytes).eval memory =
      (mcsMimoOf feedback (memory (macPduOffset + nBytes)),
        nBytes + (hasOctet feedback).toNat) := by
  unfold unpackFeedback
  cases has : hasOctet feedback with
  | false =>
      rw [if_neg Bool.false_ne_true, eval_pure, mcsMimoOf_of_not_hasOctet has]
      rfl
  | true =>
      rw [if_pos rfl, eval_bind, eval_octet, eval_pure]
      rfl

variable {memory : Memory}

theorem within_unpackFeedback_iff
    {macPduOffset nBytes limit : Nat}
    (inside : macPduOffset + nBytes ≤ limit) :
    (unpackFeedback feedback macPduOffset nBytes).Within memory limit ↔
      macPduOffset + (nBytes + (hasOctet feedback).toNat) ≤ limit := by
  unfold unpackFeedback
  cases hasOctet feedback with
  | false => exact iff_of_true trivial inside
  | true =>
      rw [if_pos rfl, within_bind, within_octet, Bool.toNat_true]
      exact and_iff_left trivial

theorem eval_unpack
    (memory : Memory)
    (front : Nat) :
    (unpack front).eval memory =
      (received memory front, bytesRead (memory front)) := by
  simp only [unpack, eval_bind, eval_octet,
    FieldFormat.eval_unpack, word_size, received, bytesRead]
  by_cases response : indicationOf (memory front) = .randomAccessResponse
  · simp only [response, if_true, eval_bind, eval_unpackFeedback, eval_pure]
  · simp only [response, if_false, eval_pure, Nat.add_zero]

theorem idSize_eq_succ (idType : RdIdType) :
    ∃ rest, idSize idType = rest + 1 := by
  unfold idSize
  split
  · exact ⟨1, rfl⟩
  · exact ⟨3, rfl⟩

/-- Unpacking reads the octets that are counted. -/
theorem unpack_readsUpTo
    (memory : Memory)
    (front : Nat) :
    (unpack front).ReadsUpTo memory (front + bytesRead (memory front)) := by
  intro limit
  obtain ⟨rest, isSize⟩ := idSize_eq_succ (idTypeOf (memory front))
  simp only [unpack, within_bind, within_octet,
    eval_octet, isSize, FieldFormat.within_unpack_word_iff,
    FieldFormat.eval_unpack, word_size, bytesRead]
  by_cases response : indicationOf (memory front) = .randomAccessResponse
  · simp only [response, if_true, within_bind, within_pure, and_true]
    constructor
    · rintro ⟨-, inside, feedback⟩
      rw [within_unpackFeedback_iff (by omega)] at feedback
      omega
    · intro inside
      refine ⟨by omega, by omega, ?_⟩
      rw [within_unpackFeedback_iff (by omega)]
      omega
  · simp only [response, if_false, within_pure, and_true]
    omega

/-- A size is peeked that is right, or none. -/
def PeeksRight
    (initial : BroadcastIndicationIe)
    (memory : Memory)
    (front : Nat) :
    Prop :=
  ∀ size,
    codec.peek initial memory front = .ok (.ok size) →
      size ≠ undefinedNumeric32.toNat ∧
        (unpack front).ReadsUpTo memory (front + size)

/--
A device is paged, or it is answered and no or the lower one of both feedback
codes that are peeked correctly is announced.
-/
def SizedOctet (octet0 : UInt8) : Prop :=
  octet0 >>> 5 = 0 ∨
    (octet0 >>> 5 = 1 ∧ (octet0 &&& 0b110 = 0 ∨ octet0 &&& 0b110 = 2))

instance (octet0 : UInt8) : Decidable (SizedOctet octet0) :=
  inferInstanceAs (Decidable (_ ∨ _))

theorem sizeByFlags_eq_iff (octet0 : UInt8) :
    sizeByFlags octet0 = bytesRead octet0 ↔ SizedOctet octet0 := by
  revert octet0
  apply forall_octet
  decide +kernel

theorem bytesRead_le (octet0 : UInt8) :
    bytesRead octet0 ≤ 6 := by
  revert octet0
  apply forall_octet
  decide +kernel

theorem peek_eq
    (ie : BroadcastIndicationIe)
    (memory : Memory)
    (front : Nat) :
    codec.peek ie memory front = .ok (.ok (sizeByFlags (memory front))) := by
  have within : (getPackedSizeByPeeking front).Within memory (front + 1) := by
    simp [getPackedSizeByPeeking]
  exact OctetReader.run_window within

theorem peeksRight_iff
    (initial : BroadcastIndicationIe)
    (memory : Memory)
    (front : Nat) :
    PeeksRight initial memory front ↔ SizedOctet (memory front) := by
  unfold PeeksRight
  simp only [peek_eq, Except.ok.injEq, forall_eq']
  rw [← sizeByFlags_eq_iff]
  constructor
  · rintro ⟨-, reads⟩
    exact Nat.add_left_cancel (reads.unique (unpack_readsUpTo memory front))
  · intro same
    rw [same]
    refine ⟨?_, unpack_readsUpTo memory front⟩
    exact Nat.ne_of_lt (Nat.lt_of_le_of_lt (bytesRead_le _) (by decide))

/-- The fields of the first octet that every element has. -/
def flagsOf
    (indicationType : IndicationType)
    (idType : RdIdType)
    (resourceAllocationIeFollows : Bool) :
    UInt8 :=
  (toUnderlying indicationType <<< 5).toUInt8 |||
    (toUnderlying idType <<< 4).toUInt8 |||
    resourceAllocationIeFollows.toUInt32.toUInt8

/-- The first octet of a response. -/
def responseFlagsOf
    (resourceAllocationIeFollows : Bool)
    (ackNack : AckNack)
    (feedback : FeedbackType) :
    UInt8 :=
  flagsOf .randomAccessResponse .shortRdId resourceAllocationIeFollows |||
    (toUnderlying ackNack <<< 3).toUInt8 |||
    (toUnderlying feedback <<< 1).toUInt8

/-- The octet of the feedback, if there is one. -/
def feedbackCode : FeedbackType → McsMimoFeedback → List UInt8
  | .mcs, .channelQuality quality => [(toUnderlying quality).toUInt8]
  | .mimo2Antennas, .mimoFeedback nofLayers index =>
      [(toUnderlying nofLayers <<< 3).toUInt8 ||| index.toUInt8]
  | .mimo4Antennas, .mimoFeedback nofLayers index =>
      [(toUnderlying nofLayers <<< 6).toUInt8 ||| index.toUInt8]
  | _, _ => []

/-- The flags of a page are found where they were placed. -/
theorem flags_recovered
    {idType : RdIdType}
    (valid : CodedEnumeration.isValid idType = true)
    (follows : Bool) :
    let octet0 := flagsOf .paging idType follows
    indicationOf octet0 = .paging ∧ idTypeOf octet0 = idType ∧
      (octet0 &&& 1 != 0) = follows ∧
      sizeByFlags octet0 = 1 + idSize idType := by
  revert valid follows
  cases idType <;> decide

/-- The flags of a response are found, but for most kinds of feedback. -/
theorem responseFlags_recovered
    {ackNack : AckNack}
    (ackValid : CodedEnumeration.isValid ackNack = true)
    {feedback : FeedbackType}
    (feedbackKnown : CodedEnumeration.isValid feedback = true)
    (follows : Bool) :
    let octet0 := responseFlagsOf follows ackNack feedback
    indicationOf octet0 = .randomAccessResponse ∧
      idTypeOf octet0 = .shortRdId ∧ (octet0 &&& 1 != 0) = follows ∧
      ackNackOf octet0 = ackNack ∧
      (feedbackOf octet0 = feedback ↔ feedback = .noFeedback) ∧
      sizeByFlags octet0 = 3 + (hasOctet feedback).toNat := by
  revert ackValid feedbackKnown follows
  cases ackNack <;> cases feedback <;> decide

theorem assign_assignOr_behind
    (value completed : UInt32)
    (macPduOffset : Nat)
    (memory : Memory)
    (octets : List UInt8) :
    ((memory.write macPduOffset octets).assign
        (macPduOffset + octets.length) value).assignOr
          (macPduOffset + octets.length) completed =
      memory.write macPduOffset
        (octets ++ [value.toUInt8 ||| completed.toUInt8]) := by
  rw [Memory.assign_eq_write, Memory.assignOr_front, Memory.write_write]

/-- Feedback that is checked is of a known kind and packed as its octet. -/
theorem feedbackValid_known
    {mcsMimoFeedback : McsMimoFeedback}
    (valid : feedbackValid feedback mcsMimoFeedback = true) :
    CodedEnumeration.isValid feedback = true ∧
      (feedbackCode feedback mcsMimoFeedback).length =
        (hasOctet feedback).toNat ∧
      ∀ macPduOffset memory octets,
        packFeedback feedback mcsMimoFeedback macPduOffset
            (written macPduOffset memory octets) =
          .ok (written macPduOffset memory
            (octets ++ feedbackCode feedback mcsMimoFeedback)) := by
  unfold feedbackValid at valid
  split at valid
  · refine ⟨rfl, rfl, fun macPduOffset memory octets => ?_⟩
    simp [packFeedback, feedbackCode]
  · refine ⟨rfl, rfl, fun macPduOffset memory octets => ?_⟩
    simp [packFeedback, feedbackCode, written,
      Memory.assign_behind macPduOffset rfl]
  all_goals first
    | cases valid
    | refine ⟨rfl, rfl, fun macPduOffset memory octets => ?_⟩
      simp [packFeedback, feedbackCode, written,
        assign_assignOr_behind]

/-- A page for a device. -/
structure IsPage (ie : BroadcastIndicationIe) : Prop where
  paging : ie.indicationType = .paging
  idType : CodedEnumeration.isValid ie.idType = true
  rdId : (FieldFormat.word (idSize ie.idType)).Recovers ie.rdId

/-- A response to a device with a short identifier. -/
structure IsResponse (ie : BroadcastIndicationIe) : Prop where
  response : ie.indicationType = .randomAccessResponse
  idType : ie.idType = .shortRdId
  rdId : (FieldFormat.word (idSize ie.idType)).Recovers ie.rdId
  ackNack : CodedEnumeration.isValid ie.ackNack = true
  feedback : feedbackValid ie.feedback ie.mcsMimoFeedback = true

variable {ie : BroadcastIndicationIe}

/-- A valid element is a page or a response. -/
theorem valid_cases (valid : ie.isValid = true) :
    IsPage ie ∨ IsResponse ie := by
  simp only [isValid, Bool.if_false_left, Bool.and_eq_true,
    Bool.not_eq_true', decide_eq_false_iff_not, Bool.or_eq_true, not_or,
    Bool.not_eq_false, decide_eq_true_eq, beq_iff_eq, not_and] at valid
  obtain ⟨⟨indicationKnown, idKnown⟩, rdIdBound, rest⟩ := valid
  have rdId : (word (idSize ie.idType)).Recovers ie.rdId := by
    unfold idSize
    split
    · rename_i isShort
      exact FieldFormat.word_recovers_of_not_lt (rdIdBound isShort)
    · exact FieldFormat.word_recovers_four _
  by_cases response : ie.indicationType = .randomAccessResponse
  · rw [if_pos response] at rest
    simp only [Bool.and_eq_true, Bool.not_eq_true',
      decide_eq_false_iff_not, not_or, Bool.not_eq_false, bne_iff_ne,
      not_not] at rest
    obtain ⟨⟨isShort, ackKnown⟩, feedback⟩ := rest
    exact Or.inr ⟨response, isShort, rdId, ackKnown, feedback⟩
  · have paging : ie.indicationType = .paging := by
      revert indicationKnown response
      cases ie.indicationType <;> decide
    exact Or.inl ⟨paging, idKnown, rdId⟩

/-- The first octet. -/
def octet0 (ie : BroadcastIndicationIe) : UInt8 :=
  if ie.indicationType = .randomAccessResponse then
    responseFlagsOf ie.resourceAllocationIeFollows ie.ackNack ie.feedback
  else flagsOf ie.indicationType ie.idType ie.resourceAllocationIeFollows

def code (ie : BroadcastIndicationIe) : List UInt8 :=
  [ie.octet0] ++ (FieldFormat.word (idSize ie.idType)).code ie.rdId ++
    if ie.indicationType = .randomAccessResponse then
      feedbackCode ie.feedback ie.mcsMimoFeedback
    else []

/-- The size of a valid element is found in its first octet. -/
theorem sizeByFlags_octet0 (valid : ie.isValid = true) :
    sizeByFlags ie.octet0 = ie.code.length := by
  rcases valid_cases valid with page | response
  · obtain ⟨-, -, -, isSize⟩ :=
      flags_recovered page.idType ie.resourceAllocationIeFollows
    simp [octet0, code, page.paging, isSize, code_length, Nat.add_comm]
  · obtain ⟨known, oneOctet, -⟩ := feedbackValid_known response.feedback
    obtain ⟨-, -, -, -, -, isSize⟩ :=
      responseFlags_recovered response.ackNack known
        ie.resourceAllocationIeFollows
    simp [octet0, code, response.response, response.idType, isSize,
      code_length, idSize, oneOctet]
    omega

theorem packResponse_valid
    (valid : ie.isValid = true)
    (macPduOffset : Nat)
    (memory : Memory) :
    ie.packResponse macPduOffset
        (written macPduOffset memory
          ([flagsOf ie.indicationType ie.idType
              ie.resourceAllocationIeFollows] ++
            (word (idSize ie.idType)).code ie.rdId)) =
      .ok (written macPduOffset memory ie.code) := by
  rcases valid_cases valid with page | response
  · simp [packResponse, page.paging, code, octet0]
  · obtain ⟨-, -, packed⟩ := feedbackValid_known response.feedback
    rw [packResponse, if_pos response.response]
    simp only [written_fst, written_snd,
      List.singleton_append, Memory.assignOr_front]
    rw [mk_write (by rfl), packed, code,
      if_pos response.response, octet0, if_pos response.response,
      responseFlagsOf, response.response, response.idType]
    rfl

/-- A valid element is packed as its octets. -/
theorem pack_valid
    (valid : ie.isValid = true)
    (macPduOffset : Nat)
    (memory : Memory) :
    ie.pack macPduOffset memory = .ok (memory.write macPduOffset ie.code) := by
  have peeked : (getPackedSizeByPeeking macPduOffset).eval
      (memory.write macPduOffset ie.code) = .ok ie.code.length := by
    rw [← sizeByFlags_octet0 valid]
    simp [getPackedSizeByPeeking, code]
  simp only [pack, valid, dectnrpAssert_true, Checked.ok_bind,
    Memory.assign_eq_write macPduOffset, Memory.assignOr_front]
  rw [mk_write (by rfl), FieldFormat.pack_written]
  have packed := packResponse_valid valid macPduOffset memory
  unfold flagsOf at packed
  simp only [packed, Checked.ok_bind, written_fst, written_snd]
  exact assertPeeked_bind peeked _

/-- A page without feedback, or a response that announces none. -/
def IsPlain (ie : BroadcastIndicationIe) : Prop :=
  ie.mcsMimoFeedback = .monostate ∧
    ((ie.indicationType = .paging ∧ ie.ackNack = .notDefined ∧
        ie.feedback = .notDefined) ∨
      (ie.indicationType = .randomAccessResponse ∧
        ie.feedback = .noFeedback))

section Received

variable
    {ie : BroadcastIndicationIe}
    {memory : Memory}
    {front : Nat}
    (isOctet0 : memory front = ie.octet0)

include isOctet0

/-- A page is received without a feedback. -/
theorem received_page (page : IsPage ie) :
    received memory front =
      { ie with
        ackNack := .notDefined
        feedback := .notDefined
        rdId := (word (idSize ie.idType)).valueAt memory (front + 1)
        mcsMimoFeedback := .monostate } := by
  obtain ⟨isPaging, isId, isFollows, -⟩ :=
    flags_recovered page.idType ie.resourceAllocationIeFollows
  have notResponse : ie.indicationType ≠ .randomAccessResponse := by
    rw [page.paging]
    decide
  rw [octet0, if_neg notResponse, page.paging] at isOctet0
  rw [← isOctet0] at isPaging isId isFollows
  simp [received, isPaging, isId, isFollows, page.paging]

/-- Most kinds of feedback are not received as they were announced. -/
theorem received_response (response : IsResponse ie) :
    received memory front =
        { ie with
          feedback := feedbackOf (memory front)
          rdId := (word (idSize ie.idType)).valueAt memory (front + 1)
          mcsMimoFeedback :=
            mcsMimoOf (feedbackOf (memory front)) (memory (front + 3)) } ∧
      (feedbackOf (memory front) = ie.feedback ↔
        ie.feedback = .noFeedback) := by
  obtain ⟨known, -⟩ := feedbackValid_known response.feedback
  obtain ⟨isResponse, isId, isFollows, isAck, feedback, -⟩ :=
    responseFlags_recovered response.ackNack known
      ie.resourceAllocationIeFollows
  rw [octet0, if_pos response.response] at isOctet0
  rw [← isOctet0] at isResponse isId isFollows isAck feedback
  refine ⟨?_, feedback⟩
  simp [received, isResponse, isId, isFollows, isAck, response.response,
    response.idType, idSize]

end Received

variable
  {memory : Memory}
  {front : Nat}

theorem rdId_of_holds
    (valid : ie.isValid = true)
    (holds : memory.Holds front ie.code) :
    (word (idSize ie.idType)).valueAt memory (front + 1) = ie.rdId := by
  have recovers : (word (idSize ie.idType)).Recovers ie.rdId := by
    rcases valid_cases valid with page | response
    · exact page.rdId
    · exact response.rdId
  exact FieldFormat.valueAt_eq recovers (Memory.holds_append.mp holds.front).2

theorem octet0_of_holds (holds : memory.Holds front ie.code) :
    memory front = ie.octet0 :=
  Memory.holds_singleton.mp holds.front.front

/-- A plain element is received from its octets. -/
theorem received_code
    (valid : ie.isValid = true)
    (plain : IsPlain ie)
    (holds : memory.Holds front ie.code) :
    received memory front = ie := by
  have isOctet0 := octet0_of_holds holds
  have isId := rdId_of_holds valid holds
  obtain ⟨noFeedback, kinds⟩ := plain
  rcases valid_cases valid with page | response
  · have paged : ie.ackNack = .notDefined ∧ ie.feedback = .notDefined := by
      rcases kinds with ⟨-, fields⟩ | ⟨isResponse, -⟩
      · exact fields
      · cases page.paging.symm.trans isResponse
    rw [received_page isOctet0 page, isId, ← paged.1, ← paged.2, ← noFeedback]
  · have announced : ie.feedback = .noFeedback := by
      rcases kinds with ⟨isPaging, -⟩ | ⟨-, announced⟩
      · cases response.response.symm.trans isPaging
      · exact announced
    obtain ⟨isReceived, feedback⟩ := received_response isOctet0 response
    have isFeedback :
        mcsMimoOf ie.feedback (memory (front + 3)) = ie.mcsMimoFeedback := by
      rw [announced, noFeedback]
      rfl
    rw [isReceived, isId, feedback.mpr announced, isFeedback]

theorem plain_of_received
    (valid : ie.isValid = true)
    (isOctet0 : memory front = ie.octet0)
    (same : received memory front = ie) :
    IsPlain ie := by
  rcases valid_cases valid with page | response
  · rw [received_page isOctet0 page] at same
    refine ⟨?_, Or.inl ⟨page.paging, ?_, ?_⟩⟩
    · exact (congrArg mcsMimoFeedback same).symm
    · exact (congrArg ackNack same).symm
    · exact (congrArg feedback same).symm
  · obtain ⟨isReceived, feedback⟩ := received_response isOctet0 response
    rw [isReceived] at same
    have sameFeedback : feedbackOf (memory front) = ie.feedback :=
      congrArg BroadcastIndicationIe.feedback same
    have announced := feedback.mp sameFeedback
    refine ⟨?_, Or.inr ⟨response.response, announced⟩⟩
    have sameOctet := congrArg mcsMimoFeedback same
    rw [← sameOctet]
    change mcsMimoOf (feedbackOf (memory front)) _ = _
    rw [sameFeedback, announced]
    rfl

theorem succ_idSize (idType : RdIdType) :
    1 + idSize idType = if idType = .shortRdId then 3 else 5 := by
  unfold idSize
  split <;> rfl

theorem getPackedSize_valid (valid : ie.isValid = true) :
    ie.getPackedSize = .ok ie.code.length := by
  rw [getPackedSize, valid, dectnrpAssert_true, Checked.ok_bind]
  congr 1
  rcases valid_cases valid with page | response
  · simp [code, page.paging, code_length, ← succ_idSize, Nat.add_comm]
  · obtain ⟨-, oneOctet, -⟩ := feedbackValid_known response.feedback
    have counted : (hasOctet ie.feedback).toNat =
        if ie.feedback ≠ .noFeedback then 1 else 0 := by
      obtain ⟨known, -⟩ := feedbackValid_known response.feedback
      revert known
      cases ie.feedback <;> decide
    simp [code, response.response, response.idType, idSize,
      code_length, oneOctet, counted]
    omega

theorem flags_sized
    {idType : RdIdType}
    (valid : CodedEnumeration.isValid idType = true)
    (follows : Bool) :
    SizedOctet (flagsOf .paging idType follows) := by
  revert valid follows
  cases idType <;> decide

theorem responseFlags_sized
    {ackNack : AckNack}
    (valid : CodedEnumeration.isValid ackNack = true)
    (follows : Bool) :
    SizedOctet (responseFlagsOf follows ackNack .noFeedback) := by
  revert valid follows
  cases ackNack <;> decide

theorem octet0_sized
    (valid : ie.isValid = true)
    (plain : IsPlain ie) :
    SizedOctet ie.octet0 := by
  rcases valid_cases valid with page | response
  · have notResponse : ie.indicationType ≠ .randomAccessResponse := by
      rw [page.paging]
      decide
    rw [octet0, if_neg notResponse, page.paging]
    exact flags_sized page.idType _
  · obtain ⟨-, ⟨isPaging, -⟩ | ⟨-, announced⟩⟩ := plain
    · cases response.response.symm.trans isPaging
    · rw [octet0, if_pos response.response, announced]
      exact responseFlags_sized response.ackNack _

/-- A valid element is restored exactly if it is plain. -/
theorem restores_iff (valid : ie.isValid = true) :
    codec.RoundTrips ie ↔ IsPlain ie := by
  constructor
  · intro roundTrips
    obtain ⟨octets, -, packed, -, unpacked⟩ :=
      roundTrips ie 0 (fun _ => 0) trivial
    obtain ⟨-, -, -, same⟩ := unpackRead_eq_ok.mp unpacked
    rw [eval_unpack] at same
    refine plain_of_received valid ?_ same
    -- what was written is the octets of the element
    change ie.pack 0 _ = _ at packed
    rw [pack_valid valid, Except.ok.injEq] at packed
    rw [← packed]
    exact octet0_of_holds (Memory.holds_write 0 ie.code _)
  · intro plain
    refine MmieCodec.roundTrips_of_code (getPackedSize_valid valid)
      (pack_valid valid) ?_ ?_
    · intro initial memory front _ holds
      rw [peek_eq, octet0_of_holds holds, sizeByFlags_octet0 valid]
    · intro initial memory front _ holds
      have same := received_code valid plain holds
      have read : bytesRead (memory front) = ie.code.length := by
        rw [octet0_of_holds holds, ← sizeByFlags_octet0 valid]
        exact ((sizeByFlags_eq_iff _).mpr (octet0_sized valid plain)).symm
      refine unpackRead_eq_ok.mpr ?_
      rw [eval_unpack, same, read]
      exact ⟨(unpack_readsUpTo memory front _).mpr (by rw [read]),
          getPackedSize_valid valid, congrArg Except.ok valid, rfl⟩

/--
A valid element is restored exactly if it is plain, and the size that is
peeked is right exactly if the first octet pages a device, or answers with no
feedback or with the feedback of two antennas as it is read.
-/
theorem broadcastIndication_codec_iff
    (ie initial : BroadcastIndicationIe)
    (memory : Memory)
    (front : Nat) :
    (ie.isValid = true → (codec.RoundTrips ie ↔ IsPlain ie)) ∧
      (PeeksRight initial memory front ↔ SizedOctet (memory front)) :=
  ⟨restores_iff, peeksRight_iff initial memory front⟩

/-- A page for a device with a long identifier. -/
def longPage : BroadcastIndicationIe where
  indicationType := .paging
  idType := .longRdId
  ackNack := .notDefined
  feedback := .notDefined
  resourceAllocationIeFollows := true
  rdId := 0xFFFFFFFF
  mcsMimoFeedback := .monostate

/-- The page is restored. -/
theorem broadcastIndication_codec_iff_page :
    codec.RoundTrips longPage ↔ IsPlain longPage :=
  (broadcastIndication_codec_iff longPage longPage (fun _ => 0) 0).1
    (by decide)

/-- A response with the quality of a channel. -/
def qualityResponse : BroadcastIndicationIe where
  indicationType := .randomAccessResponse
  idType := .shortRdId
  ackNack := .ack
  feedback := .mcs
  resourceAllocationIeFollows := false
  rdId := 100
  mcsMimoFeedback := .channelQuality .mcs4

/-- A response with the quality of a channel is not restored. -/
theorem not_broadcastIndication_codec :
    ¬ ((∀ ie : BroadcastIndicationIe,
        ie.isValid = true → codec.RoundTrips ie) ∧
      ∀ (initial : BroadcastIndicationIe) (memory : Memory) (front : Nat),
        PeeksRight initial memory front) := by
  rintro ⟨restores, -⟩
  have valid : qualityResponse.isValid = true := by decide
  have plain := (restores_iff valid).mp (restores _ valid)
  cases plain.1

/--
Octets that are unpacked safely: a page, or a response to a short identifier
with no feedback or a codebook index of two antennas that is not reserved.
-/
def SafeOctets
    (memory : Memory)
    (front : Nat) :
    Prop :=
  let octet0 := memory front
  let octet3 := memory (front + 3)
  octet0 >>> 5 = 0 ∨
    (octet0 >>> 5 = 1 ∧ (octet0 >>> 4) &&& 1 = 0 ∧
      (octet0 &&& 0b110 = 0 ∨
        (octet0 &&& 0b110 = 2 ∧
          ((octet3 &&& 8 = 0 ∧ octet3 &&& 7 ≤ 5) ∨
            (octet3 &&& 8 ≠ 0 ∧ octet3 &&& 7 ≤ 2)))))

theorem mimo2_valid_iff (octet3 : UInt8) :
    feedbackValid .mimo2Antennas (mcsMimoOf .mimo2Antennas octet3) = true ↔
      (octet3 &&& 8 = 0 ∧ octet3 &&& 7 ≤ 5) ∨
        (octet3 &&& 8 ≠ 0 ∧ octet3 &&& 7 ≤ 2) := by
  revert octet3
  apply forall_octet
  decide +kernel

theorem octet0_cases (octet0 : UInt8) :
    (octet0 >>> 5 = 0 ∧ indicationOf octet0 = .paging) ∨
      (octet0 >>> 5 = 1 ∧ indicationOf octet0 = .randomAccessResponse) ∨
      (¬ octet0 >>> 5 = 0 ∧ ¬ octet0 >>> 5 = 1 ∧
        indicationOf octet0 = .notDefined) := by
  revert octet0
  apply forall_octet
  decide +kernel

/-- The identifier that the first octet announces is always a known one. -/
theorem idTypeOf_cases (octet0 : UInt8) :
    ((octet0 >>> 4) &&& 1 = 0 ∧ idTypeOf octet0 = .shortRdId) ∨
      (¬ (octet0 >>> 4) &&& 1 = 0 ∧ idTypeOf octet0 = .longRdId) := by
  revert octet0
  apply forall_octet
  decide +kernel

theorem feedbackOf_cases (octet0 : UInt8) :
    (octet0 &&& 0b110 = 0 ∧ feedbackOf octet0 = .noFeedback) ∨
      (octet0 &&& 0b110 = 2 ∧ feedbackOf octet0 = .mimo2Antennas) ∨
      (¬ octet0 &&& 0b110 = 0 ∧ ¬ octet0 &&& 0b110 = 2 ∧
        feedbackOf octet0 = .notDefined) := by
  revert octet0
  apply forall_octet
  decide +kernel

theorem ackNackOf_isValid (octet0 : UInt8) :
    CodedEnumeration.isValid (ackNackOf octet0) = true := by
  revert octet0
  apply forall_octet
  decide +kernel

theorem shortRdId_le
    (memory : Memory)
    (address : Nat) :
    (word 2).valueAt memory address ≤ 65535 := by
  have bound := @FieldFormat.word_valueAt_lt 2 memory address
  exact UInt32.le_iff_toNat_le.mpr (Nat.le_of_lt_succ bound)

/-- What is received is valid exactly if the octets are safe. -/
theorem received_isValid_iff
    (memory : Memory)
    (front : Nat) :
    (received memory front).isValid = true ↔ SafeOctets memory front := by
  have bound := shortRdId_le memory (front + 1)
  have ackValid := ackNackOf_isValid (memory front)
  have mimo2 := mimo2_valid_iff (memory (front + 3))
  unfold SafeOctets received isValid
  generalize memory front = octet0 at ackValid
  rcases octet0_cases octet0 with
    ⟨code, isPaging⟩ | ⟨code, isResponse⟩ | ⟨notPaging, notResponse, isNone⟩
  · have known : CodedEnumeration.isValid IndicationType.paging = true := rfl
    rcases idTypeOf_cases octet0 with ⟨-, isId⟩ | ⟨-, isId⟩
    · have idKnown : CodedEnumeration.isValid RdIdType.shortRdId = true := rfl
      simp [code, isPaging, isId, idKnown, known, idSize, bound]
    · have idKnown : CodedEnumeration.isValid RdIdType.longRdId = true := rfl
      simp [code, isPaging, isId, idKnown, known]
  · have known : CodedEnumeration.isValid
        IndicationType.randomAccessResponse = true := rfl
    rcases idTypeOf_cases octet0 with ⟨short, isId⟩ | ⟨long, isId⟩
    · have idKnown : CodedEnumeration.isValid RdIdType.shortRdId = true := rfl
      rcases feedbackOf_cases octet0 with
        ⟨bits, isFeedback⟩ | ⟨bits, isFeedback⟩ | ⟨notNo, notTwo, isFeedback⟩
      · simp [code, isResponse, known, short, isId, idKnown, idSize, bound,
          bits, isFeedback, ackValid, feedbackValid]
      · simp [code, isResponse, known, short, isId, idKnown, idSize, bound,
          bits, isFeedback, ackValid, ← mimo2]
      · simp [code, isResponse, known, short, isId, idKnown, idSize,
          notNo, notTwo, isFeedback, ackValid, feedbackValid]
    · simp [code, isResponse, isId, long]
  · have unknown :
        CodedEnumeration.isValid IndicationType.notDefined = false := rfl
    simp [notPaging, notResponse, isNone, unknown]

theorem SafeOctets.sized (safe : SafeOctets memory front) :
    SizedOctet (memory front) := by
  rcases safe with paging | ⟨response, -, none | ⟨two, -⟩⟩
  · exact Or.inl paging
  · exact Or.inr ⟨response, Or.inl none⟩
  · exact Or.inr ⟨response, Or.inr two⟩

theorem feedback_counted
    {octet0 : UInt8}
    (sized : SizedOctet octet0) :
    (if indicationOf octet0 = .randomAccessResponse then
        (hasOctet (feedbackOf octet0)).toNat
      else 0) =
      if indicationOf octet0 = .randomAccessResponse ∧
          feedbackOf octet0 ≠ .noFeedback then
        1
      else 0 := by
  revert sized
  revert octet0
  apply forall_octet
  decide +kernel

/-- What is received counts the octets that were read if they are safe. -/
theorem getPackedSize_received_iff
    (memory : Memory)
    (front : Nat) :
    (received memory front).getPackedSize =
        .ok (bytesRead (memory front)) ↔
      SafeOctets memory front := by
  rw [getPackedSize, Checked.dectnrpAssert_bind_eq_ok, received_isValid_iff]
  refine and_iff_left_of_imp fun safe => ?_
  rw [Checked.pure_eq_ok, bytesRead, feedback_counted safe.sized,
    succ_idSize, received]
  by_cases response : indicationOf (memory front) = .randomAccessResponse
  · simp only [response, if_true]
  · simp only [response, if_false, false_and]

/-- Unpacking is safe for the octets of the condition and for no others. -/
theorem unpacksSafely_iff
    (initial : BroadcastIndicationIe)
    (memory : Memory)
    (front : Nat) :
    codec.UnpacksSafely initial memory front ↔ SafeOctets memory front := by
  rw [@MmieCodec.unpacksSafely_iff _ codec initial memory front
    (unpack front) fun _ => rfl]
  simp only [peek_eq, Except.ok.injEq, forall_eq', eval_unpack]
  rw [← getPackedSize_received_iff]
  constructor
  · rintro ⟨-, sized, -⟩
    exact sized
  · intro sized
    have safe := (getPackedSize_received_iff memory front).mp sized
    have same := (sizeByFlags_eq_iff _).mpr safe.sized
    refine ⟨(unpack_readsUpTo memory front _).mpr ?_, sized, _, rfl⟩
    rw [same]

end BroadcastIndicationIe

end DectNrp
