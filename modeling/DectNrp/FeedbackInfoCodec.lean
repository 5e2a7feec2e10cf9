import DectNrp.FeedbackInfo

namespace DectNrp

/-!
# Twelve-bit codes of the feedback formats

Every valid feedback object has a twelve-bit code.  `pack` writes this code
behind the upper half of the octet it completes, and `unpack` of a code gives
the object back up to its buffer size, which is replaced by the lower bound of
its class.
-/

open Memory (assignAnd_write assignOr_write assignOr_write_next assign_write_next)
open Checked (bind_eq_ok ok_bind pure_eq_ok)

namespace FeedbackInfo

open BitFields

variable {first second : UInt32}

private theorem ite_toNat_le
    {condition : Prop}
    [Decidable condition]
    {bound : Nat}
    (firstBound : first.toNat ≤ bound)
    (secondBound : second.toNat ≤ bound) :
    (if condition then first else second).toNat ≤ bound := by
  split
  · exact firstBound
  · exact secondBound

private theorem ite_ne_zero
    {condition : Prop}
    [Decidable condition]
    (firstNe : first ≠ 0)
    (secondNe : second ≠ 0) :
    (if condition then first else second) ≠ 0 := by
  split
  · exact firstNe
  · exact secondNe

/-- A buffer status has four bits. -/
theorem bufferSize2BufferStatus_le (bufferSize : UInt32) :
    (bufferSize2BufferStatus bufferSize).toNat ≤ 15 := by
  unfold bufferSize2BufferStatus
  iterate 15 refine ite_toNat_le (by decide) ?_
  decide

/-- Only the empty buffer belongs to the first class. -/
theorem bufferSize2BufferStatus_eq_zero
    {bufferSize : UInt32} :
    bufferSize2BufferStatus bufferSize = 0 ↔ bufferSize = 0 := by
  constructor
  · intro firstClass
    by_contra nonempty
    revert firstClass
    unfold bufferSize2BufferStatus
    rw [if_neg nonempty]
    iterate 14 refine ite_ne_zero (by decide) ?_
    decide
  · rintro rfl
    rfl

/--
The lower bound of a class lies in the class below: the bounds of the size
table are exclusive, while the comparison of the classes includes the upper
bound.
-/
theorem bufferSize2BufferStatus_lower
    {bufferStatus : UInt32}
    (fourBits : bufferStatus.toNat ≤ 15) :
    (bufferSize2BufferStatus
        (bufferSizeLower bufferStatus)).toNat =
      bufferStatus.toNat - 1 := by
  have everyClass : ∀ status : Fin 16, (bufferSize2BufferStatus
      (bufferSizeLower (UInt32.ofNat status.val))).toNat = status.val - 1 := by
    decide
  simpa using everyClass ⟨bufferStatus.toNat, by omega⟩

variable {mcs : UInt32}

/-- The indicator of a defined MCS is its successor. -/
theorem mcs2Cqi_of_le (defined : mcs.toNat ≤ 11) :
    mcs2Cqi mcs.toInt32 = .ok (mcs + 1) := by
  have everyMcs : ∀ index : Fin 12, mcs2Cqi (UInt32.ofNat index.val).toInt32 =
      .ok (UInt32.ofNat index.val + 1) := by
    decide
  simpa using everyMcs ⟨mcs.toNat, by omega⟩

theorem cqi2Mcs_of_toNat
    {mcs cqi : UInt32}
    (defined : mcs.toNat ≤ 11)
    (indicator : cqi.toNat = mcs.toNat + 1) :
    cqi2Mcs cqi = mcs := by
  have cqiValue : cqi = mcs + 1 := by
    apply UInt32.toNat_inj.mp
    rw [indicator, UInt32.toNat_add]
    simp
    omega
  have everyMcs : ∀ index : Fin 12,
      cqi2Mcs (UInt32.ofNat index.val + 1) = UInt32.ofNat index.val := by
    decide
  rw [cqiValue]
  simpa using everyMcs ⟨mcs.toNat, by omega⟩

theorem cqi2Mcs_accepted
    {cqi : UInt32}
    (accepted : (cqi2Mcs cqi).toNat ≤ 11) :
    cqi.toNat = (cqi2Mcs cqi).toNat + 1 := by
  unfold cqi2Mcs at accepted ⊢
  split
  · rename_i outOfRange
    rw [if_pos outOfRange] at accepted
    exact absurd accepted (by decide)
  · rename_i inRange
    have nonzero : cqi.toNat ≠ 0 := by
      intro isZero
      exact inRange (Or.inl (UInt32.toNat_inj.mp isZero))
    have oneLe : (1 : UInt32) ≤ cqi := by
      rw [UInt32.le_iff_toNat_le]
      simp
      omega
    rw [UInt32.toNat_sub_of_le _ _ oneLe]
    simp
    omega

/--
`pack` writes a code: the upper half of the completed octet is kept, its lower
half and the following octet hold the twelve bits of the code.
-/
def Writes
    (pack : Nat → Memory → Checked Memory)
    (code : Nat) :
    Prop :=
  ∀ (start : Nat) (octets : List UInt8) (last : UInt8)
      (memory : Memory),
    ∃ octet0 octet1,
      pack (start + octets.length)
          (memory.write start (octets ++ [last])) =
        .ok (memory.write start (octets ++ [octet0, octet1])) ∧
      octet0.toNat = last.toNat / 16 * 16 + code / 256 ∧
      octet1.toNat = code % 256

/-- The octets at a pointer hold a twelve-bit code. -/
def Holds
    (octets : List UInt8)
    (pointer : Nat)
    (code : Nat) :
    Prop :=
  ∃ octet0 octet1,
    loadOctet octets pointer = .ok octet0 ∧
    loadOctet octets (pointer + 1) = .ok octet1 ∧
    octet0.toNat % 16 * 256 + octet1.toNat = code

/-- A received code has twelve bits. -/
theorem Holds.code_lt
    {octets : List UInt8}
    {pointer : Nat}
    {code : Nat}
    (holds : Holds octets pointer code) :
    code < 4096 := by
  obtain ⟨octet0, octet1, _, _, value⟩ := holds
  have octet1Bound := octet1.toNat_lt
  omega

/-- Three bits and one bit behind the kept upper half of an octet. -/
private theorem toNat_upperHalf_or
    (last : UInt8)
    {field flag : UInt32}
    (fieldBound : field.toNat ≤ 7)
    (flagBound : flag.toNat ≤ 1) :
    (((last &&& (0xF0 : UInt8)) ||| (field <<< 1).toUInt8) |||
        flag.toUInt8).toNat =
      last.toNat / 16 * 16 + field.toNat * 2 + flag.toNat := by
  have upperHalf := toNat_and_upperHalf last
  have withField :
      ((last &&& (0xF0 : UInt8)) ||| (field <<< 1).toUInt8).toNat =
        last.toNat / 16 * 16 + field.toNat * 2 := by
    rw [toNat_or_shifted 3 (by decide) _ (by omega), upperHalf]
    · rfl
    · rw [upperHalf]
      exact Nat.mul_mod_left _ _
  rw [toNat_or_lowest 1 (by omega) _ (by omega), withField]
  rw [withField]
  omega

private theorem toNat_upperHalf_or_four
    (last : UInt8)
    {field : UInt32}
    (fieldBound : field.toNat ≤ 15) :
    ((last &&& (0xF0 : UInt8)) ||| field.toUInt8).toNat =
      last.toNat / 16 * 16 + field.toNat := by
  have upperHalf := toNat_and_upperHalf last
  rw [toNat_or_lowest 4 (by omega) _ (by omega), upperHalf]
  rw [upperHalf]
  omega

/-- Four bits in each half of an octet. -/
private theorem toNat_halves
    {upper lower : UInt32}
    (upperBound : upper.toNat ≤ 15)
    (lowerBound : lower.toNat ≤ 15) :
    ((upper <<< 4).toUInt8 ||| lower.toUInt8).toNat =
      upper.toNat * 16 + lower.toNat := by
  have two :=
    toNat_two (by decide) (show upper.toNat * 2 ^ (4 : UInt32).toNat < 256 by
        simp
        omega)
      (show lower.toNat < 2 ^ (4 : UInt32).toNat by
        simp
        omega)
  simpa using two

/-- A defined MCS has an indicator of four bits. -/
private theorem toNat_cqi (defined : mcs.toNat ≤ 11) :
    (mcs + 1).toNat = mcs.toNat + 1 := by
  rw [UInt32.toNat_add]
  simp
  omega

variable {octet : UInt8}

/-- The lower half of an octet that holds an indicator gives its MCS. -/
private theorem mcs_of_lowerHalf
    (defined : mcs.toNat ≤ 11)
    (lowerHalf : octet.toNat % 16 = mcs.toNat + 1) :
    cqi2Mcs (extract octet 0 0b1111) = mcs := by
  apply cqi2Mcs_of_toNat defined
  simpa using lowerHalf

/-- An accepted indicator is the lower half of its octet. -/
private theorem lowerHalf_of_mcs
    (accepted : (cqi2Mcs (extract octet 0 0b1111)).toNat ≤ 11) :
    octet.toNat % 16 = (cqi2Mcs (extract octet 0 0b1111)).toNat + 1 := by
  simpa using cqi2Mcs_accepted accepted

/-- The upper half of an octet that holds a buffer status gives it back. -/
private theorem status_of_upperHalf
    {status : UInt32}
    (upperHalf : octet.toNat / 16 = status.toNat) :
    extract octet 4 0b1111 = status := by
  have octetBound := octet.toNat_lt
  apply UInt32.toNat_inj.mp
  simp
  omega

/-- The class of a received buffer size is the one below the received class. -/
private theorem status_of_received (octet : UInt8) :
    (bufferSize2BufferStatus
        (bufferSizeLower (extract octet 4 0b1111))).toNat =
      octet.toNat / 16 - 1 := by
  have octetBound := octet.toNat_lt
  have received : (extract octet 4 0b1111).toNat =
      octet.toNat / 16 := by
    simp
    omega
  rw [bufferSize2BufferStatus_lower (by omega), received]

/-- The result of an `unpack` whose object is valid. -/
private theorem accepted_of_valid
    (info : Info)
    {valid : Bool}
    (isValid : valid = true) :
    (Except.ok (valid, info) : Checked (Bool × Info)) = .ok (true, info) := by
  rw [isValid]

/-- What re-encoding takes from a code whose second octet starts with a status. -/
def drift (code : Nat) : Nat :=
  if code % 256 / 16 = 0 then 0 else 16

namespace TransmissionFeedback

variable {feedback : TransmissionFeedback}

theorem toUnderlying_le (defined : feedback ≠ .notDefined) :
    feedback.toUnderlying.toNat ≤ 1 := by
  cases feedback with
  | nack => decide
  | ack => decide
  | notDefined => exact (defined rfl).elim

/-- A defined feedback is recovered from its coded value. -/
theorem ofUnderlying_of_toNat
    {value : UInt32}
    (defined : feedback ≠ .notDefined)
    (coded : value.toNat = feedback.toUnderlying.toNat) :
    ofUnderlying value = feedback := by
  rw [UInt32.toNat_inj.mp coded]
  cases feedback with
  | nack => rfl
  | ack => rfl
  | notDefined => exact (defined rfl).elim

/-- One received bit is a defined feedback with this coded value. -/
theorem toUnderlying_ofUnderlying
    {value : UInt32}
    (oneBit : value.toNat ≤ 1) :
    (ofUnderlying value).toUnderlying.toNat = value.toNat := by
  have everyValue : ∀ bit : Fin 2, (ofUnderlying
      (UInt32.ofNat bit.val)).toUnderlying.toNat = bit.val := by
    decide
  simpa using everyValue ⟨value.toNat, by omega⟩

end TransmissionFeedback

namespace MimoFeedback

variable {feedback : MimoFeedback}

theorem toUnderlying_le (defined : feedback ≠ .notDefined) :
    feedback.toUnderlying.toNat ≤ 3 := by
  cases feedback with
  | notDefined => exact (defined rfl).elim
  | _ => decide

/-- One or two layers are coded with one bit. -/
theorem toUnderlying_le_one
    (layers : feedback = .singleLayer ∨ feedback = .dualLayer) :
    feedback.toUnderlying.toNat ≤ 1 := by
  rcases layers with rfl | rfl <;> decide

/-- A defined feedback is recovered from its coded value. -/
theorem ofUnderlying_of_toNat
    {value : UInt32}
    (defined : feedback ≠ .notDefined)
    (coded : value.toNat = feedback.toUnderlying.toNat) :
    ofUnderlying value = feedback := by
  rw [UInt32.toNat_inj.mp coded]
  cases feedback with
  | notDefined => exact (defined rfl).elim
  | _ => rfl

/-- Two received bits are a defined feedback with this coded value. -/
theorem toUnderlying_ofUnderlying
    {value : UInt32}
    (twoBits : value.toNat ≤ 3) :
    (ofUnderlying value).toUnderlying.toNat = value.toNat := by
  have everyValue : ∀ bits : Fin 4, (ofUnderlying
      (UInt32.ofNat bits.val)).toUnderlying.toNat = bits.val := by
    decide
  simpa using everyValue ⟨value.toNat, by omega⟩

end MimoFeedback

namespace F1

/-- The twelve-bit code of a format 1 object. -/
def code (info : F1) : Nat :=
  info.harqProcessNumber.toNat * 512 +
    info.transmissionFeedback.toUnderlying.toNat * 256 +
    (bufferSize2BufferStatus info.bufferSize).toNat * 16 +
    (info.mcs.toNat + 1)

/-- Format 1 with the buffer size a receiver restores. -/
def restored (info : F1) : F1 :=
  { info with
    bufferSize :=
      bufferSizeLower (bufferSize2BufferStatus info.bufferSize) }

theorem isValid_iff
    {info : F1} :
    info.isValid = true ↔
      info.harqProcessNumber.toNat ≤ 7 ∧
        info.transmissionFeedback ≠ .notDefined ∧
        info.mcs.toNat ≤ 11 := by
  have statusBound := bufferSize2BufferStatus_le info.bufferSize
  simp [isValid, UInt32.lt_iff_toNat_lt, statusBound]

variable {info : F1}

theorem pack_writes (valid : info.isValid = true) :
    Writes info.pack info.code := by
  intro start octets last memory
  obtain ⟨harqBound, defined, mcsBound⟩ := isValid_iff.mp valid
  have flagBound := TransmissionFeedback.toUnderlying_le defined
  have statusBound := bufferSize2BufferStatus_le info.bufferSize
  have cqiValue := toNat_cqi mcsBound
  have octet0 := toNat_upperHalf_or last harqBound flagBound
  have octet1 :=
    toNat_halves statusBound (show (info.mcs + 1).toNat ≤ 15 by omega)
  refine ⟨_, _, ?_, octet0.trans ?_, octet1.trans ?_⟩
  · simp [pack, valid, assignAnd_write, assignOr_write,
      assign_write_next, assignOr_write_next,
      mcs2Cqi_of_le mcsBound]
  · unfold code
    omega
  · unfold code
    omega

theorem unpack_of_holds
    {octets : List UInt8}
    {pointer : Nat}
    (valid : info.isValid = true)
    (holds : Holds octets pointer info.code) :
    F1.unpack octets pointer = .ok (true, info.restored) := by
  obtain ⟨octet0, octet1, load0, load1, codeValue⟩ := holds
  obtain ⟨harqBound, defined, mcsBound⟩ := isValid_iff.mp valid
  have flagBound := TransmissionFeedback.toUnderlying_le defined
  have statusBound := bufferSize2BufferStatus_le info.bufferSize
  have octet1Bound := octet1.toNat_lt
  unfold code at codeValue
  have harq : extract octet0 1 0b111 = info.harqProcessNumber := by
    apply UInt32.toNat_inj.mp
    simp
    omega
  have flag : TransmissionFeedback.ofUnderlying (extract octet0 0 0b1) =
      info.transmissionFeedback := by
    apply TransmissionFeedback.ofUnderlying_of_toNat defined
    simp
    omega
  have status :
      extract octet1 4 0b1111 = bufferSize2BufferStatus info.bufferSize :=
    status_of_upperHalf (by omega)
  have mcs : cqi2Mcs (extract octet1 0 0b1111) = info.mcs :=
    mcs_of_lowerHalf mcsBound (by omega)
  have restoredValid : info.restored.isValid = true :=
    isValid_iff.mpr ⟨harqBound, defined, mcsBound⟩
  simp only [F1.unpack, load0, load1, ok_bind, harq, flag,
    status, mcs, pure_eq_ok]
  exact accepted_of_valid info.restored restoredValid

/-- An accepted object re-encodes its code up to the drift of the status. -/
theorem code_of_unpack
    {octets : List UInt8}
    {pointer : Nat}
    (accepted : F1.unpack octets pointer = .ok (true, info)) :
    info.isValid = true ∧
      ∃ received,
        Holds octets pointer received ∧
        info.code = received - drift received := by
  simp only [F1.unpack, bind_eq_ok] at accepted
  obtain ⟨octet0, load0, octet1, load1, result⟩ := accepted
  simp only [pure_eq_ok, Except.ok.injEq, Prod.mk.injEq] at result
  obtain ⟨valid, rfl⟩ := result
  refine ⟨valid, _, ⟨octet0, octet1, load0, load1, rfl⟩, ?_⟩
  obtain ⟨harqBound, defined, mcsBound⟩ := isValid_iff.mp valid
  have octet1Bound := octet1.toNat_lt
  have status := status_of_received octet1
  have lowerHalf := lowerHalf_of_mcs mcsBound
  have flag :=
    TransmissionFeedback.toUnderlying_ofUnderlying
      (show (extract octet0 0 0b1).toNat ≤ 1 by
        simp
        omega)
  simp only [code, flag, status, drift]
  simp
  split <;> omega

end F1

namespace F2

/-- The twelve-bit code of a format 2 object. -/
def code (info : F2) : Nat :=
  info.codebookIndex.toNat * 512 +
    info.mimoFeedback.toUnderlying.toNat * 256 +
    (bufferSize2BufferStatus info.bufferSize).toNat * 16 +
    (info.mcs.toNat + 1)

/-- Format 2 with the buffer size a receiver restores. -/
def restored (info : F2) : F2 :=
  { info with
    bufferSize :=
      bufferSizeLower (bufferSize2BufferStatus info.bufferSize) }

theorem isValid_iff
    {info : F2} :
    info.isValid = true ↔
      info.codebookIndex.toNat ≤ 7 ∧
        (info.mimoFeedback = .singleLayer ∨ info.mimoFeedback = .dualLayer) ∧
        info.mcs.toNat ≤ 11 := by
  have statusBound := bufferSize2BufferStatus_le info.bufferSize
  simp [isValid, UInt32.lt_iff_toNat_lt, statusBound, or_iff_not_imp_left]

variable {info : F2}

theorem pack_writes (valid : info.isValid = true) :
    Writes info.pack info.code := by
  intro start octets last memory
  obtain ⟨codebookBound, layers, mcsBound⟩ := isValid_iff.mp valid
  have flagBound := MimoFeedback.toUnderlying_le_one layers
  have statusBound := bufferSize2BufferStatus_le info.bufferSize
  have cqiValue := toNat_cqi mcsBound
  have octet0 := toNat_upperHalf_or last codebookBound flagBound
  have octet1 :=
    toNat_halves statusBound (show (info.mcs + 1).toNat ≤ 15 by omega)
  refine ⟨_, _, ?_, octet0.trans ?_, octet1.trans ?_⟩
  · simp [pack, valid, assignAnd_write, assignOr_write,
      assign_write_next, assignOr_write_next,
      mcs2Cqi_of_le mcsBound]
  · unfold code
    omega
  · unfold code
    omega

theorem unpack_of_holds
    {octets : List UInt8}
    {pointer : Nat}
    (valid : info.isValid = true)
    (holds : Holds octets pointer info.code) :
    F2.unpack octets pointer = .ok (true, info.restored) := by
  obtain ⟨octet0, octet1, load0, load1, codeValue⟩ := holds
  obtain ⟨codebookBound, layers, mcsBound⟩ := isValid_iff.mp valid
  have flagBound := MimoFeedback.toUnderlying_le_one layers
  have statusBound := bufferSize2BufferStatus_le info.bufferSize
  have octet1Bound := octet1.toNat_lt
  have defined : info.mimoFeedback ≠ .notDefined := by
    rcases layers with single | dual <;> simp_all
  unfold code at codeValue
  have codebook : extract octet0 1 0b111 = info.codebookIndex := by
    apply UInt32.toNat_inj.mp
    simp
    omega
  have flag : MimoFeedback.ofUnderlying (extract octet0 0 0b1) =
      info.mimoFeedback := by
    apply MimoFeedback.ofUnderlying_of_toNat defined
    simp
    omega
  have status :
      extract octet1 4 0b1111 = bufferSize2BufferStatus info.bufferSize :=
    status_of_upperHalf (by omega)
  have mcs : cqi2Mcs (extract octet1 0 0b1111) = info.mcs :=
    mcs_of_lowerHalf mcsBound (by omega)
  have restoredValid : info.restored.isValid = true :=
    isValid_iff.mpr ⟨codebookBound, layers, mcsBound⟩
  simp only [F2.unpack, load0, load1, ok_bind, codebook, flag,
    status, mcs, pure_eq_ok]
  exact accepted_of_valid info.restored restoredValid

/-- An accepted object re-encodes its code up to the drift of the status. -/
theorem code_of_unpack
    {octets : List UInt8}
    {pointer : Nat}
    (accepted : F2.unpack octets pointer = .ok (true, info)) :
    info.isValid = true ∧
      ∃ received,
        Holds octets pointer received ∧
        info.code = received - drift received := by
  simp only [F2.unpack, bind_eq_ok] at accepted
  obtain ⟨octet0, load0, octet1, load1, result⟩ := accepted
  simp only [pure_eq_ok, Except.ok.injEq, Prod.mk.injEq] at result
  obtain ⟨valid, rfl⟩ := result
  refine ⟨valid, _, ⟨octet0, octet1, load0, load1, rfl⟩, ?_⟩
  obtain ⟨codebookBound, layers, mcsBound⟩ := isValid_iff.mp valid
  have octet1Bound := octet1.toNat_lt
  have status := status_of_received octet1
  have lowerHalf := lowerHalf_of_mcs mcsBound
  have flag :=
    MimoFeedback.toUnderlying_ofUnderlying
      (show (extract octet0 0 0b1).toNat ≤ 3 by
        simp
        omega)
  simp only [code, flag, status, drift]
  simp
  split <;> omega

end F2

namespace F3

/-- The twelve-bit code of a format 3 object. -/
def code (info : F3) : Nat :=
  info.harqProcessNumber0.toNat * 512 +
    info.transmissionFeedback0.toUnderlying.toNat * 256 +
    info.harqProcessNumber1.toNat * 32 +
    info.transmissionFeedback1.toUnderlying.toNat * 16 +
    (info.mcs.toNat + 1)

theorem isValid_iff
    {info : F3} :
    info.isValid = true ↔
      info.harqProcessNumber0.toNat ≤ 7 ∧
        info.transmissionFeedback0 ≠ .notDefined ∧
        info.harqProcessNumber1.toNat ≤ 7 ∧
        info.transmissionFeedback1 ≠ .notDefined ∧
        info.mcs.toNat ≤ 11 := by
  simp [isValid, UInt32.lt_iff_toNat_lt]

variable {info : F3}

theorem pack_writes (valid : info.isValid = true) :
    Writes info.pack info.code := by
  intro start octets last memory
  obtain ⟨harqBound0, defined0, harqBound1, defined1, mcsBound⟩ :=
    isValid_iff.mp valid
  have flagBound0 := TransmissionFeedback.toUnderlying_le defined0
  have flagBound1 := TransmissionFeedback.toUnderlying_le defined1
  have cqiValue := toNat_cqi mcsBound
  have octet0 := toNat_upperHalf_or last harqBound0 flagBound0
  have withHarq : (info.harqProcessNumber1 <<< 5).toUInt8.toNat =
      info.harqProcessNumber1.toNat * 32 :=
    toNat_shifted (by decide)
      (show info.harqProcessNumber1.toNat * 32 < 256 by omega)
  have withFlag : ((info.harqProcessNumber1 <<< 5).toUInt8 |||
      (info.transmissionFeedback1.toUnderlying <<< 4).toUInt8).toNat =
        info.harqProcessNumber1.toNat * 32 +
          info.transmissionFeedback1.toUnderlying.toNat * 16 := by
    rw [toNat_or_shifted 1 (by decide) _ (by omega), withHarq]
    · rfl
    · rw [withHarq]
      exact Nat.mul_mod_left _ _
  have octet1 : (((info.harqProcessNumber1 <<< 5).toUInt8 |||
      (info.transmissionFeedback1.toUnderlying <<<
        4).toUInt8) ||| (info.mcs + 1).toUInt8).toNat =
        info.harqProcessNumber1.toNat * 32 +
          info.transmissionFeedback1.toUnderlying.toNat * 16 +
          (info.mcs + 1).toNat := by
    rw [toNat_or_lowest 4 (by omega) _ (by omega), withFlag]
    rw [withFlag]
    omega
  refine ⟨_, _, ?_, octet0.trans ?_, octet1.trans ?_⟩
  · simp [pack, valid, assignAnd_write, assignOr_write,
      assign_write_next, assignOr_write_next,
      mcs2Cqi_of_le mcsBound]
  · unfold code
    omega
  · unfold code
    omega

theorem unpack_of_holds
    {octets : List UInt8}
    {pointer : Nat}
    (valid : info.isValid = true)
    (holds : Holds octets pointer info.code) :
    F3.unpack octets pointer = .ok (true, info) := by
  obtain ⟨octet0, octet1, load0, load1, codeValue⟩ := holds
  obtain ⟨harqBound0, defined0, harqBound1, defined1, mcsBound⟩ :=
    isValid_iff.mp valid
  have flagBound0 := TransmissionFeedback.toUnderlying_le defined0
  have flagBound1 := TransmissionFeedback.toUnderlying_le defined1
  have octet1Bound := octet1.toNat_lt
  unfold code at codeValue
  have harq0 : extract octet0 1 0b111 = info.harqProcessNumber0 := by
    apply UInt32.toNat_inj.mp
    simp
    omega
  have flag0 : TransmissionFeedback.ofUnderlying (extract octet0 0 0b1) =
      info.transmissionFeedback0 := by
    apply TransmissionFeedback.ofUnderlying_of_toNat defined0
    simp
    omega
  have harq1 : extract octet1 5 0b111 = info.harqProcessNumber1 := by
    apply UInt32.toNat_inj.mp
    simp
    omega
  have flag1 : TransmissionFeedback.ofUnderlying (extract octet1 4 0b1) =
      info.transmissionFeedback1 := by
    apply TransmissionFeedback.ofUnderlying_of_toNat defined1
    simp
    omega
  have mcs : cqi2Mcs (extract octet1 0 0b1111) = info.mcs :=
    mcs_of_lowerHalf mcsBound (by omega)
  simp only [F3.unpack, load0, load1, ok_bind, harq0, flag0,
    harq1, flag1, mcs, pure_eq_ok]
  exact accepted_of_valid info valid

/-- An accepted object re-encodes its code. -/
theorem code_of_unpack
    {octets : List UInt8}
    {pointer : Nat}
    (accepted : F3.unpack octets pointer = .ok (true, info)) :
    info.isValid = true ∧ Holds octets pointer info.code := by
  simp only [F3.unpack, bind_eq_ok] at accepted
  obtain ⟨octet0, load0, octet1, load1, result⟩ := accepted
  simp only [pure_eq_ok, Except.ok.injEq, Prod.mk.injEq] at result
  obtain ⟨valid, rfl⟩ := result
  refine ⟨valid, octet0, octet1, load0, load1, ?_⟩
  obtain ⟨_, _, _, _, mcsBound⟩ := isValid_iff.mp valid
  have octet1Bound := octet1.toNat_lt
  have lowerHalf := lowerHalf_of_mcs mcsBound
  have flag0 :=
    TransmissionFeedback.toUnderlying_ofUnderlying
      (show (extract octet0 0 0b1).toNat ≤ 1 by
        simp
        omega)
  have flag1 :=
    TransmissionFeedback.toUnderlying_ofUnderlying
      (show (extract octet1 4 0b1).toNat ≤ 1 by
        simp
        omega)
  simp only [code, flag0, flag1]
  simp
  omega

end F3

namespace F4

/-- The twelve-bit code of a format 4 object. -/
def code (info : F4) : Nat :=
  info.harqFeedbackBitmap.toNat * 16 + (info.mcs.toNat + 1)

theorem isValid_iff
    {info : F4} :
    info.isValid = true ↔
      info.harqFeedbackBitmap.toNat ≤ 255 ∧ info.mcs.toNat ≤ 11 := by
  simp [isValid, UInt32.lt_iff_toNat_lt]

variable {info : F4}

theorem pack_writes (valid : info.isValid = true) :
    Writes info.pack info.code := by
  intro start octets last memory
  obtain ⟨bitmapBound, mcsBound⟩ := isValid_iff.mp valid
  have cqiValue := toNat_cqi mcsBound
  have upperBitmap : (info.harqFeedbackBitmap >>> 4).toNat =
      info.harqFeedbackBitmap.toNat / 16 := by
    simp [Nat.shiftRight_eq_div_pow]
  have lowerBitmap : (info.harqFeedbackBitmap &&& 0b1111).toNat =
      info.harqFeedbackBitmap.toNat % 16 :=
    (UInt32.toNat_and _ _).trans (and_eq_mod 4 (by decide) _)
  have octet0 :=
    toNat_upperHalf_or_four last
      (show (info.harqFeedbackBitmap >>> 4).toNat ≤ 15 by omega)
  have octet1 :=
    toNat_halves
      (show (info.harqFeedbackBitmap &&& 0b1111).toNat ≤ 15 by omega)
      (show (info.mcs + 1).toNat ≤ 15 by omega)
  refine ⟨_, _, ?_, octet0.trans ?_, octet1.trans ?_⟩
  · simp [pack, valid, assignAnd_write, assignOr_write,
      assign_write_next, assignOr_write_next,
      mcs2Cqi_of_le mcsBound]
  · unfold code
    omega
  · unfold code
    omega

/-- The bitmap is split into the halves of two octets. -/
private theorem toNat_bitmap (octet0 octet1 : UInt8) :
    ((extract octet0 0 0b1111 <<< 4) |||
        extract octet1 4 0b1111).toNat =
      octet0.toNat % 16 * 16 + octet1.toNat / 16 := by
  have octet1Bound := octet1.toNat_lt
  have upper :
      (extract octet0 0 0b1111 <<< 4).toNat = octet0.toNat % 16 * 16 := by
    rw [UInt32.toNat_shiftLeft]
    simp [Nat.shiftLeft_eq]
    omega
  have lower : (extract octet1 4 0b1111).toNat = octet1.toNat / 16 := by
    simp
    omega
  rw [UInt32.toNat_or, upper, lower]
  exact @or_eq_add (octet0.toNat % 16 * 16) (octet1.toNat / 16) 4
      (Nat.mul_mod_left _ _) (by omega)

theorem unpack_of_holds
    {octets : List UInt8}
    {pointer : Nat}
    (valid : info.isValid = true)
    (holds : Holds octets pointer info.code) :
    F4.unpack octets pointer = .ok (true, info) := by
  obtain ⟨octet0, octet1, load0, load1, codeValue⟩ := holds
  obtain ⟨bitmapBound, mcsBound⟩ := isValid_iff.mp valid
  have octet1Bound := octet1.toNat_lt
  unfold code at codeValue
  have bitmap : (extract octet0 0 0b1111 <<< 4) ||| extract octet1 4 0b1111 =
      info.harqFeedbackBitmap := by
    apply UInt32.toNat_inj.mp
    rw [toNat_bitmap]
    omega
  have mcs : cqi2Mcs (extract octet1 0 0b1111) = info.mcs :=
    mcs_of_lowerHalf mcsBound (by omega)
  simp only [F4.unpack, load0, load1, ok_bind, bitmap, mcs, pure_eq_ok]
  exact accepted_of_valid info valid

/-- An accepted object re-encodes its code. -/
theorem code_of_unpack
    {octets : List UInt8}
    {pointer : Nat}
    (accepted : F4.unpack octets pointer = .ok (true, info)) :
    info.isValid = true ∧ Holds octets pointer info.code := by
  simp only [F4.unpack, bind_eq_ok] at accepted
  obtain ⟨octet0, load0, octet1, load1, result⟩ := accepted
  simp only [pure_eq_ok, Except.ok.injEq, Prod.mk.injEq] at result
  obtain ⟨valid, rfl⟩ := result
  refine ⟨valid, octet0, octet1, load0, load1, ?_⟩
  obtain ⟨_, mcsBound⟩ := isValid_iff.mp valid
  have octet1Bound := octet1.toNat_lt
  have lowerHalf := lowerHalf_of_mcs mcsBound
  simp only [code, toNat_bitmap]
  omega

end F4

namespace F5

/-- The twelve-bit code of a format 5 object. -/
def code (info : F5) : Nat :=
  info.harqProcessNumber.toNat * 512 +
    info.transmissionFeedback.toUnderlying.toNat * 256 +
    info.mimoFeedback.toUnderlying.toNat * 64 +
    info.codebookIndex.toNat

theorem isValid_iff
    {info : F5} :
    info.isValid = true ↔
      info.harqProcessNumber.toNat ≤ 7 ∧
        info.transmissionFeedback ≠ .notDefined ∧
        info.mimoFeedback ≠ .notDefined ∧
        info.codebookIndex.toNat ≤ 63 := by
  simp [isValid, UInt32.lt_iff_toNat_lt]

variable {info : F5}

theorem pack_writes (valid : info.isValid = true) :
    Writes info.pack info.code := by
  intro start octets last memory
  obtain ⟨harqBound, defined, mimoDefined, codebookBound⟩ :=
    isValid_iff.mp valid
  have flagBound := TransmissionFeedback.toUnderlying_le defined
  have mimoBound := MimoFeedback.toUnderlying_le mimoDefined
  have octet0 := toNat_upperHalf_or last harqBound flagBound
  have octet1 : ((info.mimoFeedback.toUnderlying <<< 6).toUInt8 |||
      info.codebookIndex.toUInt8).toNat =
        info.mimoFeedback.toUnderlying.toNat * 64 + info.codebookIndex.toNat :=
    toNat_two (by decide)
      (show info.mimoFeedback.toUnderlying.toNat * 64 < 256 by omega)
      (show info.codebookIndex.toNat < 64 by omega)
  refine ⟨_, _, ?_, octet0.trans ?_, octet1.trans ?_⟩
  · simp [pack, valid, assignAnd_write, assignOr_write,
      assign_write_next, assignOr_write_next]
  · unfold code
    omega
  · unfold code
    omega

theorem unpack_of_holds
    {octets : List UInt8}
    {pointer : Nat}
    (valid : info.isValid = true)
    (holds : Holds octets pointer info.code) :
    F5.unpack octets pointer = .ok (true, info) := by
  obtain ⟨octet0, octet1, load0, load1, codeValue⟩ := holds
  obtain ⟨harqBound, defined, mimoDefined, codebookBound⟩ :=
    isValid_iff.mp valid
  have flagBound := TransmissionFeedback.toUnderlying_le defined
  have mimoBound := MimoFeedback.toUnderlying_le mimoDefined
  have octet1Bound := octet1.toNat_lt
  unfold code at codeValue
  have harq : extract octet0 1 0b111 = info.harqProcessNumber := by
    apply UInt32.toNat_inj.mp
    simp
    omega
  have flag : TransmissionFeedback.ofUnderlying (extract octet0 0 0b1) =
      info.transmissionFeedback := by
    apply TransmissionFeedback.ofUnderlying_of_toNat defined
    simp
    omega
  have mimo : MimoFeedback.ofUnderlying (extract octet1 6 0b11) =
      info.mimoFeedback := by
    apply MimoFeedback.ofUnderlying_of_toNat mimoDefined
    simp
    omega
  have codebook : extract octet1 0 0b111111 = info.codebookIndex := by
    apply UInt32.toNat_inj.mp
    simp
    omega
  simp only [F5.unpack, load0, load1, ok_bind, harq, flag, mimo,
    codebook, pure_eq_ok]
  exact accepted_of_valid info valid

/-- An accepted object re-encodes its code. -/
theorem code_of_unpack
    {octets : List UInt8}
    {pointer : Nat}
    (accepted : F5.unpack octets pointer = .ok (true, info)) :
    info.isValid = true ∧ Holds octets pointer info.code := by
  simp only [F5.unpack, bind_eq_ok] at accepted
  obtain ⟨octet0, load0, octet1, load1, result⟩ := accepted
  simp only [pure_eq_ok, Except.ok.injEq, Prod.mk.injEq] at result
  obtain ⟨valid, rfl⟩ := result
  refine ⟨valid, octet0, octet1, load0, load1, ?_⟩
  have octet1Bound := octet1.toNat_lt
  have flag :=
    TransmissionFeedback.toUnderlying_ofUnderlying
      (show (extract octet0 0 0b1).toNat ≤ 1 by
        simp
        omega)
  have mimo :=
    MimoFeedback.toUnderlying_ofUnderlying
      (show (extract octet1 6 0b11).toNat ≤ 3 by
        simp
        omega)
  simp only [code, flag, mimo]
  simp
  omega

end F5

namespace F6

/-- The twelve-bit code of a format 6 object. -/
def code (info : F6) : Nat :=
  info.harqProcessNumber.toNat * 512 +
    (bufferSize2BufferStatus info.bufferSize).toNat * 16 +
    (info.mcs.toNat + 1)

/-- Format 6 with the buffer size a receiver restores. -/
def restored (info : F6) : F6 :=
  { info with
    bufferSize :=
      bufferSizeLower (bufferSize2BufferStatus info.bufferSize) }

theorem isValid_iff
    {info : F6} :
    info.isValid = true ↔
      info.harqProcessNumber.toNat ≤ 7 ∧
        info.reserved = 0 ∧
        info.mcs.toNat ≤ 11 := by
  have statusBound := bufferSize2BufferStatus_le info.bufferSize
  simp [isValid, UInt32.lt_iff_toNat_lt, statusBound]

variable {info : F6}

theorem pack_writes (valid : info.isValid = true) :
    Writes info.pack info.code := by
  intro start octets last memory
  obtain ⟨harqBound, unreserved, mcsBound⟩ := isValid_iff.mp valid
  have flagValue : info.reserved.toNat = 0 := by
    rw [unreserved]
    rfl
  have statusBound := bufferSize2BufferStatus_le info.bufferSize
  have cqiValue := toNat_cqi mcsBound
  have octet0 :=
    toNat_upperHalf_or last harqBound (show info.reserved.toNat ≤ 1 by omega)
  have octet1 :=
    toNat_halves statusBound (show (info.mcs + 1).toNat ≤ 15 by omega)
  refine ⟨_, _, ?_, octet0.trans ?_, octet1.trans ?_⟩
  · simp [pack, valid, assignAnd_write, assignOr_write,
      assign_write_next, assignOr_write_next,
      mcs2Cqi_of_le mcsBound]
  · unfold code
    omega
  · unfold code
    omega

theorem unpack_of_holds
    {octets : List UInt8}
    {pointer : Nat}
    (valid : info.isValid = true)
    (holds : Holds octets pointer info.code) :
    F6.unpack octets pointer = .ok (true, info.restored) := by
  obtain ⟨octet0, octet1, load0, load1, codeValue⟩ := holds
  obtain ⟨harqBound, unreserved, mcsBound⟩ := isValid_iff.mp valid
  have statusBound := bufferSize2BufferStatus_le info.bufferSize
  have octet1Bound := octet1.toNat_lt
  unfold code at codeValue
  have harq : extract octet0 1 0b111 = info.harqProcessNumber := by
    apply UInt32.toNat_inj.mp
    simp
    omega
  have reserved : extract octet0 0 0b1 = info.reserved := by
    apply UInt32.toNat_inj.mp
    rw [unreserved]
    simp
    omega
  have status :
      extract octet1 4 0b1111 = bufferSize2BufferStatus info.bufferSize :=
    status_of_upperHalf (by omega)
  have mcs : cqi2Mcs (extract octet1 0 0b1111) = info.mcs :=
    mcs_of_lowerHalf mcsBound (by omega)
  have restoredValid : info.restored.isValid = true :=
    isValid_iff.mpr ⟨harqBound, unreserved, mcsBound⟩
  simp only [F6.unpack, load0, load1, ok_bind, harq, reserved,
    status, mcs, pure_eq_ok]
  exact accepted_of_valid info.restored restoredValid

/-- An accepted object re-encodes its code up to the drift of the status. -/
theorem code_of_unpack
    {octets : List UInt8}
    {pointer : Nat}
    (accepted : F6.unpack octets pointer = .ok (true, info)) :
    info.isValid = true ∧
      ∃ received,
        Holds octets pointer received ∧
        info.code = received - drift received := by
  simp only [F6.unpack, bind_eq_ok] at accepted
  obtain ⟨octet0, load0, octet1, load1, result⟩ := accepted
  simp only [pure_eq_ok, Except.ok.injEq, Prod.mk.injEq] at result
  obtain ⟨valid, rfl⟩ := result
  refine ⟨valid, _, ⟨octet0, octet1, load0, load1, rfl⟩, ?_⟩
  obtain ⟨harqBound, unreserved, mcsBound⟩ := isValid_iff.mp valid
  have octet1Bound := octet1.toNat_lt
  have status := status_of_received octet1
  have lowerHalf := lowerHalf_of_mcs mcsBound
  have reservedValue : octet0.toNat % 2 = 0 := by
    simpa using congrArg UInt32.toNat unreserved
  simp only [code, status, drift]
  simp
  split <;> omega

end F6

namespace Pool

/-- Range check of the object that belongs to a feedback format. -/
def memberIsValid
    (pool : Pool)
    (feedbackFormat : UInt32) :
    Bool :=
  match feedbackFormat with
  | 0 => true
  | 1 => pool.f1.isValid
  | 2 => pool.f2.isValid
  | 3 => pool.f3.isValid
  | 4 => pool.f4.isValid
  | 5 => pool.f5.isValid
  | 6 => pool.f6.isValid
  | _ => false

/-- The twelve-bit code of the object that belongs to a feedback format. -/
def code
    (pool : Pool)
    (feedbackFormat : UInt32) :
    Nat :=
  match feedbackFormat with
  | 1 => pool.f1.code
  | 2 => pool.f2.code
  | 3 => pool.f3.code
  | 4 => pool.f4.code
  | 5 => pool.f5.code
  | 6 => pool.f6.code
  | _ => 0

/-- Replace the object of one format by what a receiver restores of it. -/
def restoredInto
    (sent target : Pool)
    (feedbackFormat : UInt32) :
    Pool :=
  match feedbackFormat with
  | 1 => { target with f1 := sent.f1.restored }
  | 2 => { target with f2 := sent.f2.restored }
  | 3 => { target with f3 := sent.f3 }
  | 4 => { target with f4 := sent.f4 }
  | 5 => { target with f5 := sent.f5 }
  | 6 => { target with f6 := sent.f6.restored }
  | _ => target

/-- Buffer size of the object that belongs to a feedback format, if it has one. -/
def bufferSize?
    (pool : Pool)
    (feedbackFormat : UInt32) :
    Option UInt32 :=
  match feedbackFormat with
  | 1 => some pool.f1.bufferSize
  | 2 => some pool.f2.bufferSize
  | 6 => some pool.f6.bufferSize
  | _ => none

/-- The feedback formats with a buffer status. -/
def carriesBufferStatus (feedbackFormat : UInt32) : Bool :=
  feedbackFormat = 1 || feedbackFormat = 2 || feedbackFormat = 6

variable {feedbackFormat : UInt32}

/-- A valid member belongs to one of the seven defined formats. -/
theorem format_of_memberIsValid
    {pool : Pool}
    (valid : pool.memberIsValid feedbackFormat = true) :
    feedbackFormat = 0 ∨ feedbackFormat = 1 ∨ feedbackFormat = 2 ∨
      feedbackFormat = 3 ∨ feedbackFormat = 4 ∨ feedbackFormat = 5 ∨
      feedbackFormat = 6 := by
  unfold memberIsValid at valid
  split at valid <;> simp_all

private theorem pack_none_writes (pool : Pool) :
    Writes (pool.pack 0) 0 := by
  intro start octets last memory
  refine ⟨last &&& 0xF0, 0, ?_, ?_, rfl⟩
  · simp [pack, assignAnd_write, assign_write_next]
  · rw [toNat_and_upperHalf]
    rfl

theorem pack_writes
    {pool : Pool}
    (valid : pool.memberIsValid feedbackFormat = true) :
    Writes (pool.pack feedbackFormat) (pool.code feedbackFormat) := by
  rcases format_of_memberIsValid valid with
      rfl | rfl | rfl | rfl | rfl | rfl | rfl
  · exact pack_none_writes pool
  · exact F1.pack_writes valid
  · exact F2.pack_writes valid
  · exact F3.pack_writes valid
  · exact F4.pack_writes valid
  · exact F5.pack_writes valid
  · exact F6.pack_writes valid

variable
  {octets : List UInt8}
  {pointer : Nat}

/-- Twelve zero bits are accepted as empty feedback. -/
theorem unpack_none_of_holds
    (target : Pool)
    (holds : Holds octets pointer 0) :
    target.unpack 0 octets pointer = .ok (true, target) := by
  obtain ⟨octet0, octet1, load0, load1, codeValue⟩ := holds
  have lowerHalf : extract octet0 0 0b1111 = 0 := by
    apply UInt32.toNat_inj.mp
    simp
    omega
  have zero : octet1 = 0 := by
    apply UInt8.toNat_inj.mp
    simp
    omega
  simp [unpack, load0, load1, lowerHalf, zero]

theorem unpack_of_holds
    {sent : Pool}
    (target : Pool)
    {feedbackFormat : UInt32}
    (valid : sent.memberIsValid feedbackFormat = true)
    (holds : Holds octets pointer (sent.code feedbackFormat)) :
    target.unpack feedbackFormat octets pointer =
      .ok (true, sent.restoredInto target feedbackFormat) := by
  rcases format_of_memberIsValid valid with
      rfl | rfl | rfl | rfl | rfl | rfl | rfl
  · exact unpack_none_of_holds target holds
  · simp [unpack, restoredInto, F1.unpack_of_holds valid holds]
  · simp [unpack, restoredInto, F2.unpack_of_holds valid holds]
  · simp [unpack, restoredInto, F3.unpack_of_holds valid holds]
  · simp [unpack, restoredInto, F4.unpack_of_holds valid holds]
  · simp [unpack, restoredInto, F5.unpack_of_holds valid holds]
  · simp [unpack, restoredInto, F6.unpack_of_holds valid holds]

/-- Accepted empty feedback consists of twelve zero bits. -/
theorem holds_of_unpack_none
    {target pool : Pool}
    (accepted : target.unpack 0 octets pointer = .ok (true, pool)) :
    Holds octets pointer 0 := by
  simp only [unpack, bind_eq_ok] at accepted
  obtain ⟨octet0, load0, accepted⟩ := accepted
  split at accepted
  · simp at accepted
  · rename_i lowerHalf
    obtain ⟨octet1, load1, accepted⟩ := bind_eq_ok.mp accepted
    split at accepted
    · simp at accepted
    · rename_i zero
      have lowerValue : octet0.toNat % 16 = 0 := by
        simpa using congrArg UInt32.toNat (not_not.mp lowerHalf)
      refine ⟨octet0, octet1, load0, load1, ?_⟩
      rw [not_not.mp zero, lowerValue]
      rfl

/--
An accepted feedback is valid, and it re-encodes its code up to the drift of a
buffer status.
-/
theorem code_of_unpack
    {target pool : Pool}
    (accepted :
      target.unpack feedbackFormat octets pointer = .ok (true, pool)) :
    pool.memberIsValid feedbackFormat = true ∧
      ∃ received,
        Holds octets pointer received ∧
        pool.code feedbackFormat =
          received -
            (if carriesBufferStatus feedbackFormat then drift received
            else 0) := by
  unfold unpack at accepted
  split at accepted
  · exact ⟨rfl, 0, holds_of_unpack_none accepted, rfl⟩
  · obtain ⟨⟨valid, info⟩, unpacked, result⟩ := bind_eq_ok.mp accepted
    cases result
    exact F1.code_of_unpack unpacked
  · obtain ⟨⟨valid, info⟩, unpacked, result⟩ := bind_eq_ok.mp accepted
    cases result
    exact F2.code_of_unpack unpacked
  · obtain ⟨⟨valid, info⟩, unpacked, result⟩ := bind_eq_ok.mp accepted
    cases result
    obtain ⟨infoValid, holds⟩ := F3.code_of_unpack unpacked
    exact ⟨infoValid, _, holds, rfl⟩
  · obtain ⟨⟨valid, info⟩, unpacked, result⟩ := bind_eq_ok.mp accepted
    cases result
    obtain ⟨infoValid, holds⟩ := F4.code_of_unpack unpacked
    exact ⟨infoValid, _, holds, rfl⟩
  · obtain ⟨⟨valid, info⟩, unpacked, result⟩ := bind_eq_ok.mp accepted
    cases result
    obtain ⟨infoValid, holds⟩ := F5.code_of_unpack unpacked
    exact ⟨infoValid, _, holds, rfl⟩
  · obtain ⟨⟨valid, info⟩, unpacked, result⟩ := bind_eq_ok.mp accepted
    cases result
    exact F6.code_of_unpack unpacked
  · simp at accepted

end Pool

end FeedbackInfo

end DectNrp
