import DectNrp.PdcEnc
import Mathlib.Logic.Relation
import Mathlib.Tactic.Ring

namespace DectNrp

/-!
# Partition of the coded bits

Transmitter and receiver assign the coded bits of a packet to its code blocks.
The transmitter accumulates a write pointer, the receiver evaluates a closed
form.  Both are compared with the same closed form here: they agree on every
block except for the first long one, whose last bits the receiver does not
read.
-/

open Checked (bind_eq_ok ok_bind)

/-- First coded bit of a block, in units of the modulation order. -/
def shareStart (C Gp cbIdx : Nat) : Nat :=
  cbIdx * (Gp / C) + (cbIdx - (C - Gp % C))

/-- Coded bits that the transmitter writes for a block. -/
def encodedBits
    (cbSegm : CbSegm)
    (Qm nofEBits cbIdx : Nat) :
    CodedBits :=
  ⟨Qm * shareStart cbSegm.C (nofEBits / Qm) cbIdx,
    encodedSize cbSegm Qm nofEBits cbIdx⟩

/-- Consecutive coded bits from `start` to `stop`. -/
def Tiles (start stop : Nat) : List CodedBits → Prop
  | [] => start = stop
  | bits :: rest =>
      bits.start = start ∧ Tiles (start + bits.size) stop rest

/-- Consecutive bits extend a tiling at its end. -/
theorem Tiles.append
    {start middle stop : Nat}
    {first second : List CodedBits}
    (firstTiles : Tiles start middle first)
    (secondTiles : Tiles middle stop second) :
    Tiles start stop (first ++ second) := by
  induction first generalizing start with
  | nil =>
      rw [List.nil_append, firstTiles]
      exact secondTiles
  | cons bits rest hypothesis => exact ⟨firstTiles.1, hypothesis firstTiles.2⟩

section

variable {cbSegm : CbSegm}
variable {Qm nofEBits : Nat}

variable {cbIdx : Nat}

/-- The first long block comes after all short ones. -/
theorem encodedSize_eq (inside : cbIdx < cbSegm.C) :
    encodedSize cbSegm Qm nofEBits cbIdx =
      if cbIdx < cbSegm.C - nofEBits / Qm % cbSegm.C then
        Qm * (nofEBits / Qm / cbSegm.C)
      else Qm * (nofEBits / Qm / cbSegm.C + 1) := by
  have positive : 0 < cbSegm.C := by omega
  have remainderBound := Nat.mod_lt (nofEBits / Qm) positive
  unfold encodedSize
  simp only [positive, ↓reduceIte]
  by_cases short : cbIdx < cbSegm.C - nofEBits / Qm % cbSegm.C
  · rw [if_pos (by omega), if_pos short]
  · rw [if_neg (by omega), if_neg short]
    congr 1
    -- the remainder is not zero, so that rounding up adds one
    have divided := Nat.div_add_mod (nofEBits / Qm) cbSegm.C
    generalize nofEBits / Qm / cbSegm.C = quotient at divided ⊢
    generalize nofEBits / Qm % cbSegm.C = remainder at *
    rw [← divided, Nat.div_eq_iff (by omega)]
    constructor
    · rw [Nat.add_mul, Nat.mul_comm quotient]
      omega
    · rw [Nat.add_mul, Nat.mul_comm quotient]
      omega

/-- The write pointer moves from the start of a block to that of the next. -/
theorem encodedBits_next (inside : cbIdx < cbSegm.C) :
    (encodedBits cbSegm Qm nofEBits cbIdx).start +
        encodedSize cbSegm Qm nofEBits cbIdx =
      (encodedBits cbSegm Qm nofEBits (cbIdx + 1)).start := by
  rw [encodedSize_eq inside]
  simp only [encodedBits, shareStart]
  by_cases short : cbIdx < cbSegm.C - nofEBits / Qm % cbSegm.C
  · rw [if_pos short, Nat.sub_eq_zero_of_le (by omega),
      Nat.sub_eq_zero_of_le (by omega)]
    ring
  · rw [if_neg short, show cbIdx + 1 - (cbSegm.C - nofEBits / Qm % cbSegm.C) =
        cbIdx - (cbSegm.C - nofEBits / Qm % cbSegm.C) + 1 by omega]
    ring

/-- The start behind the last block is the number of coded bits. -/
theorem encodedBits_stop
    (positive : 0 < cbSegm.C)
    (divides : Qm ∣ nofEBits) :
    (encodedBits cbSegm Qm nofEBits cbSegm.C).start = nofEBits := by
  have remainderBound := Nat.mod_lt (nofEBits / Qm) positive
  simp only [encodedBits, shareStart]
  rw [show cbSegm.C - (cbSegm.C - nofEBits / Qm % cbSegm.C) =
    nofEBits / Qm % cbSegm.C by omega, Nat.div_add_mod,
    Nat.mul_div_cancel' divides]

theorem tiles_encodedBits (inside : cbIdx ≤ cbSegm.C) :
    Tiles 0 (encodedBits cbSegm Qm nofEBits cbIdx).start
      ((List.range cbIdx).map (encodedBits cbSegm Qm nofEBits)) := by
  induction cbIdx with
  | zero => simp [Tiles, encodedBits, shareStart]
  | succ cbIdx hypothesis =>
      rw [List.range_succ, List.map_append]
      refine (hypothesis (by omega)).append ⟨rfl, ?_⟩
      exact encodedBits_next (by omega)

/-- The receiver agrees on every block but the first long one. -/
theorem decodedBits_eq_iff
    (inside : cbIdx < cbSegm.C)
    (positiveOrder : 0 < Qm) :
    decodedBits cbSegm Qm nofEBits cbIdx =
        encodedBits cbSegm Qm nofEBits cbIdx ↔
      cbIdx ≠ cbSegm.C - nofEBits / Qm % cbSegm.C := by
  have positive : 0 < cbSegm.C := by omega
  have remainderBound := Nat.mod_lt (nofEBits / Qm) positive
  unfold decodedBits encodedBits shareStart
  rw [encodedSize_eq inside]
  simp only [positive, ↓reduceIte]
  rcases Nat.lt_trichotomy cbIdx (cbSegm.C - nofEBits / Qm % cbSegm.C) with
      short | firstLong | long
  · rw [if_neg (by omega), if_pos short, Nat.sub_eq_zero_of_le short.le]
    refine iff_of_true ?_ short.ne
    simp only [CodedBits.mk.injEq, and_true]
    ring
  · rw [if_neg (by omega), if_neg (by omega)]
    refine iff_of_false ?_ (not_not.mpr firstLong)
    simp only [CodedBits.mk.injEq, not_and]
    intro _ sameSize
    have shares := Nat.eq_of_mul_eq_mul_left positiveOrder sameSize
    omega
  · rw [if_pos long, if_neg (by omega)]
    refine iff_of_true ?_ long.ne'
    obtain ⟨behind, rfl⟩ := Nat.exists_eq_add_of_lt long
    simp only [CodedBits.mk.injEq]
    constructor
    · rw [show cbSegm.C - nofEBits / Qm % cbSegm.C + behind + 1 -
        (cbSegm.C - nofEBits / Qm % cbSegm.C) = behind + 1 by omega]
      ring
    · ring

theorem decodedBits_stop_le
    (inside : cbIdx < cbSegm.C)
    (positiveOrder : 0 < Qm) :
    (decodedBits cbSegm Qm nofEBits cbIdx).start +
        (decodedBits cbSegm Qm nofEBits cbIdx).size ≤
      (encodedBits cbSegm Qm nofEBits (cbIdx + 1)).start := by
  by_cases firstLong : cbIdx = cbSegm.C - nofEBits / Qm % cbSegm.C
  · have positive : 0 < cbSegm.C := by omega
    rw [← encodedBits_next inside, encodedSize_eq inside, if_neg (by omega)]
    unfold decodedBits encodedBits shareStart
    simp only [positive, ↓reduceIte, ← firstLong, lt_irrefl, Nat.sub_self]
    have product : Qm * (cbIdx * (nofEBits / Qm / cbSegm.C) + 0) =
        cbIdx * (Qm * (nofEBits / Qm / cbSegm.C)) := by
      ring
    rw [product, Nat.mul_add]
    omega
  · rw [(decodedBits_eq_iff inside positiveOrder).mpr firstLong]
    exact (encodedBits_next inside).le

/-- Blocks start in the order of their indices. -/
theorem encodedBits_start_mono
    {first second : Nat}
    (ordered : first ≤ second) :
    (encodedBits cbSegm Qm nofEBits first).start ≤
      (encodedBits cbSegm Qm nofEBits second).start := by
  unfold encodedBits shareStart
  refine Nat.mul_le_mul_left _ (Nat.add_le_add ?_ (by omega))
  exact Nat.mul_le_mul_right _ ordered

theorem decodedBits_stop_le_all
    (inside : cbIdx < cbSegm.C)
    (positiveOrder : 0 < Qm)
    (divides : Qm ∣ nofEBits) :
    (decodedBits cbSegm Qm nofEBits cbIdx).start +
        (decodedBits cbSegm Qm nofEBits cbIdx).size ≤
      nofEBits :=
  calc
    _ ≤ (encodedBits cbSegm Qm nofEBits (cbIdx + 1)).start :=
      decodedBits_stop_le inside positiveOrder
    _ ≤ (encodedBits cbSegm Qm nofEBits cbSegm.C).start :=
      encodedBits_start_mono inside
    _ = nofEBits := encodedBits_stop (by omega) divides

end

/-- The transmitter has written the coded bits of all blocks before `cbIdx`. -/
structure EncoderFollows
    {TxBuffer Parity : Type}
    (cbSegm : CbSegm)
    (Qm G : Nat)
    (state : PdcEncoderState TxBuffer Parity) :
    Prop where
  inside : state.cbIdx ≤ cbSegm.C
  pointer : state.wp = (encodedBits cbSegm Qm G state.cbIdx).start
  written :
    state.written =
      (List.range state.cbIdx).map (encodedBits cbSegm Qm G)

section

variable {TxBuffer Parity : Type}
variable {library : TurboEncoder TxBuffer Parity}
variable {maxCb : Nat}
variable {cbSegm : CbSegm}
variable {Qm rv G : Nat}
variable {data : Memory}

/-- One call for a part of the transport block returns with new counters. -/
def EncodeCall
    (library : TurboEncoder TxBuffer Parity)
    (maxCb : Nat)
    (cbSegm : CbSegm)
    (Qm rv G : Nat)
    (data : Memory)
    (before after : PdcEncoderState TxBuffer Parity) :
    Prop :=
  ∃ nofBitsMinimum fuel,
    encodeTb library maxCb cbSegm Qm rv G data nofBitsMinimum fuel
        before =
      .ok (some after)

theorem encoderFollows_fresh (state : PdcEncoderState TxBuffer Parity) :
    EncoderFollows cbSegm Qm G state.fresh where
  inside := Nat.zero_le _
  pointer := by simp [PdcEncoderState.fresh, encodedBits, shareStart]
  written := rfl

variable {before after : PdcEncoderState TxBuffer Parity}

/-- Encoding a block writes its coded bits behind those of the last one. -/
theorem EncoderFollows.codeblock
    (follows : EncoderFollows cbSegm Qm G before)
    (notLast : before.cbIdx < cbSegm.C)
    (encoded :
      encodeCodeblock library cbSegm Qm rv G data before = .ok after) :
    EncoderFollows cbSegm Qm G after ∧ after.cbIdx = before.cbIdx + 1 := by
  simp only [encodeCodeblock] at encoded
  split at encoded
  · cases encoded
  · cases encoded
    refine ⟨⟨notLast, ?_, ?_⟩, rfl⟩
    · rw [follows.pointer]
      exact encodedBits_next notLast
    · simp [List.range_succ, follows.written, follows.pointer, encodedBits]

variable {state : PdcEncoderState TxBuffer Parity}

/-- A write pointer in front of the last coded bit belongs to a block. -/
theorem EncoderFollows.notLast
    (follows : EncoderFollows cbSegm Qm G state)
    (positive : 0 < cbSegm.C)
    (divides : Qm ∣ G)
    (unfinished : state.wp < G) :
    state.cbIdx < cbSegm.C := by
  refine lt_of_le_of_ne follows.inside fun last => ?_
  rw [follows.pointer, last, encodedBits_stop positive divides] at unfinished
  exact lt_irrefl _ unfinished

variable {nofDBitsMinimum fuel : Nat}

/-- The loop preserves the assignment of coded bits to blocks. -/
theorem EncoderFollows.loop
    (follows : EncoderFollows cbSegm Qm G before)
    (positive : 0 < cbSegm.C)
    (divides : Qm ∣ G)
    (minimumBound : nofDBitsMinimum ≤ G)
    (returned :
      encodeLoop library cbSegm Qm rv G data nofDBitsMinimum fuel
          before =
        .ok (some after)) :
    EncoderFollows cbSegm Qm G after ∧ nofDBitsMinimum ≤ after.wp := by
  induction fuel generalizing before with
  | zero => simp [encodeLoop] at returned
  | succ fuel hypothesis =>
      rw [encodeLoop] at returned
      split at returned
      · rename_i unfinished
        obtain ⟨state, encoded, returned⟩ := bind_eq_ok.mp returned
        have notLast :=
          follows.notLast positive divides
            (lt_of_lt_of_le unfinished minimumBound)
        exact hypothesis (follows.codeblock notLast encoded).1 returned
      · rename_i finished
        cases returned
        exact ⟨follows, Nat.not_lt.mp finished⟩

/-- If rate matching succeeds, the loop returns after at most all blocks. -/
theorem EncoderFollows.loop_returns
    {before : PdcEncoderState TxBuffer Parity}
    (succeeds :
      ∀ state,
        ∃ after, encodeCodeblock library cbSegm Qm rv G data state = .ok after)
    (follows : EncoderFollows cbSegm Qm G before)
    (positive : 0 < cbSegm.C)
    (divides : Qm ∣ G)
    (minimumBound : nofDBitsMinimum ≤ G)
    (enough : cbSegm.C - before.cbIdx < fuel) :
    ∃ after,
      encodeLoop library cbSegm Qm rv G data nofDBitsMinimum fuel
          before =
        .ok (some after) := by
  induction fuel generalizing before with
  | zero => exact absurd enough (Nat.not_lt_zero _)
  | succ fuel hypothesis =>
      rw [encodeLoop]
      split
      · rename_i unfinished
        obtain ⟨state, encoded⟩ := succeeds before
        have notLast :=
          follows.notLast positive divides
            (lt_of_lt_of_le unfinished minimumBound)
        obtain ⟨nextFollows, nextIdx⟩ := follows.codeblock notLast encoded
        rw [encoded, ok_bind]
        exact hypothesis nextFollows (by omega)
      · exact ⟨before, rfl⟩

theorem encodedSize_last_pos
    (positive : 0 < cbSegm.C)
    (positiveOrder : 0 < Qm)
    (divides : Qm ∣ G)
    (nonempty : 0 < G) :
    0 < encodedSize cbSegm Qm G (cbSegm.C - 1) := by
  rw [encodedSize_eq (Nat.sub_lt positive Nat.one_pos)]
  by_cases remainder : G / Qm % cbSegm.C = 0
  · have share : 0 < G / Qm / cbSegm.C := by
      apply Nat.div_pos _ positive
      exact Nat.le_of_dvd
        (Nat.div_pos (Nat.le_of_dvd nonempty divides) positiveOrder)
        (Nat.dvd_of_mod_eq_zero remainder)
    rw [if_pos (by omega)]
    exact Nat.mul_pos positiveOrder share
  · rw [if_neg (by omega)]
    exact Nat.mul_pos positiveOrder (Nat.succ_pos _)

/-- All coded bits are written by all blocks only. -/
theorem EncoderFollows.all_of_complete
    (follows : EncoderFollows cbSegm Qm G state)
    (positive : 0 < cbSegm.C)
    (positiveOrder : 0 < Qm)
    (divides : Qm ∣ G)
    (nonempty : 0 < G)
    (complete : G ≤ state.wp) :
    state.cbIdx = cbSegm.C := by
  refine Nat.le_antisymm follows.inside (Nat.le_of_not_lt fun earlier => ?_)
  have lastInside : cbSegm.C - 1 < cbSegm.C := by omega
  have lastSize := encodedSize_last_pos positive positiveOrder divides nonempty
  have stop : (encodedBits cbSegm Qm G (cbSegm.C - 1)).start +
      encodedSize cbSegm Qm G (cbSegm.C - 1) = G := by
    rw [encodedBits_next lastInside, show cbSegm.C - 1 + 1 = cbSegm.C by omega,
      encodedBits_stop positive divides]
  have ordered : (encodedBits cbSegm Qm G state.cbIdx).start ≤
      (encodedBits cbSegm Qm G (cbSegm.C - 1)).start :=
    encodedBits_start_mono (by omega)
  rw [follows.pointer] at complete
  omega

/-- Any number of calls leaves a prefix of the partition. -/
theorem EncoderFollows.calls
    (follows : EncoderFollows cbSegm Qm G before)
    (positive : 0 < cbSegm.C)
    (divides : Qm ∣ G)
    (run :
      Relation.ReflTransGen
        (EncodeCall library maxCb cbSegm Qm rv G data) before after) :
    EncoderFollows cbSegm Qm G after := by
  induction run with
  | refl => exact follows
  | tail _ call hypothesis =>
      obtain ⟨nofBitsMinimum, fuel, returned⟩ := call
      simp only [encodeTb, pdcEncodeCodeblocks, bind_eq_ok] at returned
      obtain ⟨_, _, _, _, _, _, returned⟩ := returned
      exact (hypothesis.loop positive divides
        (Nat.min_le_right _ _) returned).1

end

/-- The receiver has read the coded bits of all blocks before `cbIdx`. -/
structure DecoderFollows
    {EBits SoftBits Tdec : Type}
    (cbSegm : CbSegm)
    (Qm G : Nat)
    (state : PdcDecoderState EBits SoftBits Tdec) :
    Prop where
  inside : state.cbIdx ≤ cbSegm.C
  read :
    state.read =
      (List.range state.cbIdx).map (decodedBits cbSegm Qm G)

section

variable {EBits SoftBits Tdec : Type}
variable {library : TurboDecoder EBits SoftBits Tdec}
variable {cbSegm : CbSegm}
variable {Qm rv G : Nat}

/-- One call for the soft bits received so far. -/
def DecodeCall
    (library : TurboDecoder EBits SoftBits Tdec)
    (cbSegm : CbSegm)
    (Qm rv G : Nat)
    (before after : PdcDecoderState EBits SoftBits Tdec) :
    Prop :=
  ∃ nofBitsMaximum crcStatus,
    decodeTb library cbSegm Qm rv G nofBitsMaximum before =
      .ok (crcStatus, after)

theorem decoderFollows_fresh (state : PdcDecoderState EBits SoftBits Tdec) :
    DecoderFollows cbSegm Qm G state.fresh :=
  ⟨Nat.zero_le _, rfl⟩

theorem tdecLoop_counters
    (remaining cbNoi : Nat)
    (state : PdcDecoderState EBits SoftBits Tdec) :
    (tdecLoop library cbSegm remaining cbNoi state).cbIdx =
        state.cbIdx ∧
      (tdecLoop library cbSegm remaining cbNoi state).wp = state.wp ∧
      (tdecLoop library cbSegm remaining cbNoi state).read = state.read := by
  induction remaining generalizing cbNoi state with
  | zero =>
      unfold tdecLoop
      dsimp only
      split <;> exact ⟨rfl, rfl, rfl⟩
  | succ remaining hypothesis =>
      unfold tdecLoop
      dsimp only
      split
      · exact ⟨rfl, rfl, rfl⟩
      · exact hypothesis _ _

variable {before after : PdcDecoderState EBits SoftBits Tdec}

theorem decodeOrCopy_counters
    {bits : CodedBits}
    (decoded : decodeOrCopy library cbSegm rv bits before = .ok after) :
    after.cbIdx = before.cbIdx ∧
      after.wp = before.wp ∧
      after.read = before.read := by
  unfold decodeOrCopy at decoded
  split at decoded
  · unfold decodeUnchecked at decoded
    split at decoded
    · cases decoded
    · cases decoded
      exact tdecLoop_counters _ _ _
  · cases decoded
    exact ⟨rfl, rfl, rfl⟩

/-- Decoding a block reads its coded bits. -/
theorem decodeCodeblock_counters
    (decoded : decodeCodeblock library cbSegm Qm rv G before = .ok after) :
    after.cbIdx = before.cbIdx + 1 ∧
      after.wp = before.wp + cbSegm.rlen before.cbIdx ∧
      after.read = before.read ++ [decodedBits cbSegm Qm G before.cbIdx] := by
  obtain ⟨state, blockDecoded, result⟩ := bind_eq_ok.mp decoded
  cases result
  obtain ⟨sameIdx, sameWp, sameRead⟩ := decodeOrCopy_counters blockDecoded
  exact ⟨by rw [sameIdx], by rw [sameIdx, sameWp], sameRead⟩

/-- Decoding a block reads its coded bits. -/
theorem DecoderFollows.codeblock
    (follows : DecoderFollows cbSegm Qm G before)
    (notLast : before.cbIdx < cbSegm.C)
    (decoded : decodeCodeblock library cbSegm Qm rv G before = .ok after) :
    DecoderFollows cbSegm Qm G after := by
  obtain ⟨nextIdx, _, read⟩ := decodeCodeblock_counters decoded
  refine ⟨by omega, ?_⟩
  rw [read, nextIdx, follows.read, List.range_succ, List.map_append]
  rfl

variable {nofDBitsMaximum remaining : Nat}

/-- The loop preserves the assignment of coded bits to blocks. -/
theorem DecoderFollows.loop
    (follows : DecoderFollows cbSegm Qm G before)
    (blocksLeft : before.cbIdx + remaining ≤ cbSegm.C)
    (returned :
      decodeLoop library cbSegm Qm rv G nofDBitsMaximum remaining
          before =
        .ok after) :
    DecoderFollows cbSegm Qm G after := by
  induction remaining generalizing before with
  | zero =>
      cases returned
      exact follows
  | succ remaining hypothesis =>
      rw [decodeLoop] at returned
      split at returned
      · cases returned
        exact follows
      · obtain ⟨state, decoded, returned⟩ := bind_eq_ok.mp returned
        have nextIdx := (decodeCodeblock_counters decoded).1
        exact hypothesis
          (follows.codeblock (by omega) decoded) (by omega) returned

/-- The overall result leaves the counters alone. -/
theorem decodeResult_counters
    {crcStatus : Bool}
    (result : decodeResult library cbSegm before = (crcStatus, after)) :
    after.cbIdx = before.cbIdx ∧
      after.wp = before.wp ∧
      after.read = before.read ∧
      after.data = before.data := by
  unfold decodeResult at result
  dsimp only at result
  split_ifs at result <;>
    · cases result
      exact ⟨rfl, rfl, rfl, rfl⟩

/-- A call consists of the loop and, behind the last block, of the result. -/
theorem decodeTb_eq_ok
    {nofBitsMaximum : Nat}
    {crcStatus : Bool}
    (returned :
      decodeTb library cbSegm Qm rv G nofBitsMaximum before =
        .ok (crcStatus, after)) :
    ∃ state,
      decodeLoop library cbSegm Qm rv G nofBitsMaximum
          (cbSegm.C - before.cbIdx) before =
        .ok state ∧
      ((state.cbIdx = cbSegm.C ∧
          decodeResult library cbSegm state = (crcStatus, after)) ∨
        (state.cbIdx ≠ cbSegm.C ∧ crcStatus = false ∧ after = state)) := by
  simp only [decodeTb, pdcDecodeCodeblocks, bind_eq_ok] at returned
  obtain ⟨_, _, _, _, _, _, _, _, _, _, state, looped, returned⟩ := returned
  refine ⟨state, looped, ?_⟩
  split at returned
  · rename_i last
    exact Or.inl ⟨last, Except.ok.inj returned⟩
  · rename_i notLast
    cases returned
    exact Or.inr ⟨notLast, rfl, rfl⟩

/-- Any number of calls reads a prefix of the receiver's partition. -/
theorem DecoderFollows.calls
    (follows : DecoderFollows cbSegm Qm G before)
    (run :
      Relation.ReflTransGen (DecodeCall library cbSegm Qm rv G) before after) :
    DecoderFollows cbSegm Qm G after := by
  induction run with
  | refl => exact follows
  | tail _ call hypothesis =>
      obtain ⟨nofBitsMaximum, crcStatus, returned⟩ := call
      obtain ⟨state, looped, result⟩ := decodeTb_eq_ok returned
      have inside := hypothesis.inside
      have looping := hypothesis.loop (by omega) looped
      rcases result with ⟨_, result⟩ | ⟨_, _, rfl⟩
      · obtain ⟨sameIdx, _, sameRead, _⟩ := decodeResult_counters result
        exact ⟨sameIdx ▸ looping.inside, by
          rw [sameRead, sameIdx, looping.read]⟩
      · exact looping

theorem decodeLoop_returns
    (succeeds :
      ∀ eBits rp softBits nE2 cbLenIdx,
        ∃ received,
          library.rmTurboRx eBits rp softBits nE2 cbLenIdx rv = some received)
    (nofDBitsMaximum remaining : Nat)
    (before : PdcDecoderState EBits SoftBits Tdec) :
    ∃ after,
      decodeLoop library cbSegm Qm rv G nofDBitsMaximum remaining
          before =
        .ok after := by
  induction remaining generalizing before with
  | zero => exact ⟨before, rfl⟩
  | succ remaining hypothesis =>
      rw [decodeLoop]
      split
      · exact ⟨before, rfl⟩
      · obtain ⟨state, decoded⟩ : ∃ state,
            decodeCodeblock library cbSegm Qm rv G before = .ok state := by
          simp only [decodeCodeblock, decodeOrCopy]
          split
          · unfold decodeUnchecked
            dsimp only
            split
            · rename_i failed
              obtain ⟨received, success⟩ := succeeds _ _ _ _ _
              exact absurd (failed.symm.trans success) (by simp)
            · exact ⟨_, rfl⟩
          · exact ⟨_, rfl⟩
        rw [decoded, ok_bind]
        exact hypothesis state

theorem decodeLoop_complete
    (fits :
      ∀ cbIdx,
        cbIdx < before.cbIdx + remaining →
          (decodedBits cbSegm Qm G cbIdx).start +
              (decodedBits cbSegm Qm G cbIdx).size ≤
            nofDBitsMaximum)
    (returned :
      decodeLoop library cbSegm Qm rv G nofDBitsMaximum remaining
          before =
        .ok after) :
    after.cbIdx = before.cbIdx + remaining := by
  induction remaining generalizing before with
  | zero =>
      cases returned
      rfl
  | succ remaining hypothesis =>
      rw [decodeLoop, if_neg (Nat.not_lt.mpr (fits _ (by omega)))] at returned
      obtain ⟨state, decoded, returned⟩ := bind_eq_ok.mp returned
      have nextIdx := (decodeCodeblock_counters decoded).1
      have complete :=
        hypothesis (fun cbIdx inside => fits cbIdx (by omega)) returned
      omega

end

/--
There is one partition of the coded bits, of as many consecutive parts as
there are code blocks, such that every run of the transmitter writes a prefix
of it and every run of the receiver reads a prefix of it.
-/
def SharesPartition
    (cbSegm : CbSegm)
    (Qm G : Nat) :
    Prop :=
  ∃ partition : List CodedBits,
    partition.length = cbSegm.C ∧
    Tiles 0 G partition ∧
    (∀ (TxBuffer Parity : Type)
        (library : TurboEncoder TxBuffer Parity)
        (maxCb rv : Nat)
        (data : Memory)
        (before after : PdcEncoderState TxBuffer Parity),
      Relation.ReflTransGen
          (EncodeCall library maxCb cbSegm Qm rv G data)
          before.fresh after →
        after.written = partition.take after.cbIdx) ∧
    (∀ (EBits SoftBits Tdec : Type)
        (library : TurboDecoder EBits SoftBits Tdec)
        (rv : Nat)
        (before after : PdcDecoderState EBits SoftBits Tdec),
      Relation.ReflTransGen (DecodeCall library cbSegm Qm rv G)
          before.fresh after →
        after.read = partition.take after.cbIdx)

/-- A prefix of the blocks is a prefix of the list of their bits. -/
private theorem map_range_take
    (bits : Nat → CodedBits)
    {cbIdx C : Nat}
    (inside : cbIdx ≤ C) :
    (List.range cbIdx).map bits = ((List.range C).map bits).take cbIdx := by
  rw [← List.map_take, List.take_range, Nat.min_eq_left inside]

theorem map_decodedBits_eq
    {cbSegm : CbSegm}
    {Qm G : Nat}
    (positiveOrder : 0 < Qm)
    (noRemainder : G / Qm % cbSegm.C = 0) :
    (List.range cbSegm.C).map (decodedBits cbSegm Qm G) =
      (List.range cbSegm.C).map (encodedBits cbSegm Qm G) := by
  refine List.map_congr_left fun cbIdx member => ?_
  have inside := List.mem_range.mp member
  exact (decodedBits_eq_iff inside positiveOrder).mpr (by omega)

/-- Library routines that succeed without computing anything. -/
def idleEncoder : TurboEncoder Unit Unit where
  tcodEncode systematic _ _ _ _ := (systematic, ())
  rmTurboTx _ _ _ eBits _ _ _ _ _ := some ((), eBits)
  scrambling eBits _ _ := eBits

/-- Library routines that succeed without ever finding a correct checksum. -/
def idleDecoder (maxCodeblocks : Nat) : TurboDecoder Unit Unit Unit where
  maxCodeblocks := maxCodeblocks
  maxIterations := 1
  descramble eBits _ _ := eBits
  rmTurboRx _ _ softBits _ _ _ := some softBits
  tdecNewCb tdec _ := tdec
  tdecIteration tdec _ := (tdec, fun _ => 0)
  crcChecksumByte _ _ _ := 1
  crcMatchByte _ _ _ := false
  resetCbCrc softbuffer nofCb := { softbuffer with
    cbCrc := fun cbIdx =>
      if cbIdx < nofCb then false else softbuffer.cbCrc cbIdx }
  resetCbCrc_cbCrc _ _ _ reset := if_pos reset
  resetCbCrc_other _ _ _ kept := if_neg (Nat.not_lt.mpr kept)
  resetCbCrc_blocks _ _ := ⟨rfl, rfl, rfl⟩

/-- A transmitter that has written nothing yet. -/
def idleTransmitter : PdcEncoderState Unit Unit where
  bufferB _ := ()
  cSystematic _ := 0
  cParity := ()
  eBits _ := 0
  cbIdx := 0
  rp := 0
  wp := 0
  written := []

/-- A receiver that has read nothing yet. -/
def idleReceiver (maxCb : Nat) : PdcDecoderState Unit Unit Unit where
  softbuffer := {
    maxCb := maxCb
    bufferF := fun _ => ()
    data := fun _ _ => 0
    cbCrc := fun _ => false
    tbCrc := false
  }
  eBits := ()
  data _ := 0
  tdec := ()
  cbIdx := 0
  wp := 0
  read := []

section

variable {cbSegm : CbSegm}
variable {Qm G : Nat}

theorem exists_complete_encode
    (noFiller : cbSegm.F = 0)
    (positive : 0 < cbSegm.C)
    (positiveOrder : 0 < Qm)
    (divides : Qm ∣ G) :
    ∃ after,
      EncodeCall idleEncoder cbSegm.C cbSegm Qm 0 G (fun _ => 0)
          idleTransmitter.fresh after ∧
        G ≤ after.wp := by
  have follows : EncoderFollows cbSegm Qm G idleTransmitter.fresh :=
    encoderFollows_fresh _
  obtain ⟨after, returned⟩ :=
    follows.loop_returns (show ∀ state, ∃ after,
        encodeCodeblock idleEncoder cbSegm Qm 0 G (fun _ => 0) state =
          .ok after from fun state => ⟨_, rfl⟩)
      positive divides le_rfl (Nat.lt_succ_self _)
  refine ⟨after, ⟨G, (cbSegm.C - idleTransmitter.fresh.cbIdx).succ, ?_⟩,
    (follows.loop positive divides le_rfl returned).2⟩
  simp only [encodeTb, pdcEncodeCodeblocks, noFiller, decide_true,
    dectnrpAssert_true, ok_bind, le_refl, positiveOrder.ne',
    ne_eq, not_false_eq_true, Nat.min_self]
  exact returned

theorem exists_complete_decode
    (noFiller : cbSegm.F = 0)
    (positiveOrder : 0 < Qm)
    (divides : Qm ∣ G) :
    ∃ after,
      DecodeCall (idleDecoder cbSegm.C) cbSegm Qm 0 G
          (idleReceiver cbSegm.C).fresh after ∧
        after.cbIdx = cbSegm.C := by
  obtain ⟨state, looped⟩ :=
    decodeLoop_returns (show ∀ eBits rp softBits nE2 cbLenIdx, ∃ received,
        (idleDecoder cbSegm.C).rmTurboRx eBits rp softBits nE2 cbLenIdx
          0 = some received from fun _ _ softBits _ _ => ⟨softBits, rfl⟩)
      G cbSegm.C (idleReceiver cbSegm.C).fresh
  have complete : state.cbIdx = cbSegm.C := by
    have counted :=
      decodeLoop_complete (fun cbIdx inside =>
        decodedBits_stop_le_all (lt_of_lt_of_eq inside (Nat.zero_add _))
          positiveOrder divides) looped
    rw [counted]
    exact Nat.zero_add _
  refine ⟨(decodeResult (idleDecoder cbSegm.C) cbSegm state).2,
    ⟨G, (decodeResult (idleDecoder cbSegm.C) cbSegm state).1, ?_⟩,
    (decodeResult_counters rfl).1.trans complete⟩
  have start : cbSegm.C - (idleReceiver cbSegm.C).fresh.cbIdx = cbSegm.C := rfl
  have capacity :
      (idleReceiver cbSegm.C).fresh.softbuffer.maxCb = cbSegm.C := rfl
  have blockLimit : (idleDecoder cbSegm.C).maxCodeblocks = cbSegm.C := rfl
  simp only [decodeTb, pdcDecodeCodeblocks, noFiller, decide_true,
    dectnrpAssert_true, ok_bind, le_refl, positiveOrder.ne',
    ne_eq, not_false_eq_true, start, capacity, blockLimit, looped,
    complete, ↓reduceIte, Checked.pure_eq_ok]

/-- A shared partition has no long blocks. -/
theorem noRemainder_of_sharesPartition
    (noFiller : cbSegm.F = 0)
    (positive : 0 < cbSegm.C)
    (positiveOrder : 0 < Qm)
    (divides : Qm ∣ G)
    (shares : SharesPartition cbSegm Qm G) :
    G / Qm % cbSegm.C = 0 := by
  obtain ⟨partition, size, _, encoded, decoded⟩ := shares
  obtain ⟨sent, encodeCall, complete⟩ :=
    exists_complete_encode noFiller positive positiveOrder divides
  obtain ⟨received, decodeCall, lastIdx⟩ :=
    exists_complete_decode noFiller positiveOrder divides
  have sentRun := Relation.ReflTransGen.single encodeCall
  have receivedRun := Relation.ReflTransGen.single decodeCall
  have sentFollows :=
    (encoderFollows_fresh idleTransmitter).calls positive divides sentRun
  have receivedFollows :=
    (decoderFollows_fresh (idleReceiver cbSegm.C)).calls receivedRun
  by_contra remainder
  have remainderBound := Nat.mod_lt (G / Qm) positive
  have firstLong : cbSegm.C - G / Qm % cbSegm.C < cbSegm.C := by omega
  have nonempty : 0 < G := by
    apply Nat.pos_of_ne_zero
    rintro rfl
    rw [Nat.zero_div, Nat.zero_mod] at remainder
    exact remainder rfl
  have sentAll : sent.cbIdx = cbSegm.C :=
    sentFollows.all_of_complete positive positiveOrder divides
      nonempty complete
  have written := encoded _ _ _ _ _ _ _ _ sentRun
  have read := decoded _ _ _ _ _ _ _ receivedRun
  rw [sentFollows.written, sentAll] at written
  rw [receivedFollows.read, lastIdx] at read
  have agree :=
    List.map_inj_left.mp (read.trans written.symm) _
      (List.mem_range.mpr firstLong)
  exact (decodedBits_eq_iff firstLong positiveOrder).mp agree rfl

theorem sharesPartition_of_noRemainder
    (positive : 0 < cbSegm.C)
    (positiveOrder : 0 < Qm)
    (divides : Qm ∣ G)
    (noRemainder : G / Qm % cbSegm.C = 0) :
    SharesPartition cbSegm Qm G := by
  refine ⟨(List.range cbSegm.C).map (encodedBits cbSegm Qm G),
    by simp, ?_, ?_, ?_⟩
  · have tiles : Tiles 0 (encodedBits cbSegm Qm G cbSegm.C).start
        ((List.range cbSegm.C).map (encodedBits cbSegm Qm G)) :=
      tiles_encodedBits le_rfl
    rwa [encodedBits_stop positive divides] at tiles
  · intro _ _ library maxCb rv data before after run
    have follows := (encoderFollows_fresh before).calls positive divides run
    rw [follows.written, map_range_take _ follows.inside]
  · intro _ _ _ library rv before after run
    have follows := (decoderFollows_fresh before).calls run
    rw [follows.read, ← map_decodedBits_eq positiveOrder noRemainder,
      map_range_take _ follows.inside]

/--
Transmitter and receiver share one partition of the coded bits exactly if all
blocks have the same number of them.
-/
theorem sharesPartition_iff
    (noFiller : cbSegm.F = 0)
    (positive : 0 < cbSegm.C)
    (positiveOrder : 0 < Qm)
    (divides : Qm ∣ G) :
    SharesPartition cbSegm Qm G ↔ G / Qm % cbSegm.C = 0 :=
  ⟨noRemainder_of_sharesPartition noFiller positive positiveOrder
      divides,
    sharesPartition_of_noRemainder positive positiveOrder divides⟩

/--
Segmentation of the 4128 bits that a packet of twenty symbols with MCS 7 and
the smallest bandwidth carries in 854 subcarriers of six bits.
-/
def threeBlocks : CbSegm where
  F := 0
  C := 3
  K1 := 1408
  K2 := 1376
  K1Idx := 103
  K2Idx := 102
  C1 := 3
  C2 := 0
  tbs := 4128

/-- With 855 subcarriers three blocks would be of one size. -/
theorem sharesPartition_equalBlocks :
    SharesPartition threeBlocks 6 5130 :=
  (sharesPartition_iff rfl (by decide) (by decide) (by decide)).mpr
    (by decide)

/-- With 854 subcarriers the receiver skips a subcarrier of the second block. -/
theorem not_sharesPartition_unequalBlocks :
    ¬ SharesPartition threeBlocks 6 5124 := fun shares =>
  absurd
    (noRemainder_of_sharesPartition rfl (by decide) (by decide)
      (by decide) shares)
    (by decide)

end

end DectNrp
