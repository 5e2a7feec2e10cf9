import Mathlib.Algebra.BigOperators.Intervals
import Mathlib.Algebra.BigOperators.Ring.Finset
import Mathlib.Data.List.Basic
import Mathlib.Data.Nat.ModEq

namespace Polyphase

/-!
# Rational resampling

A signal is interpolated by inserting zeros between its samples and filtering,
and decimated by keeping one sample of many.  A filtered sample is a sum over
every few coefficients of the filter only, as all others meet a zero.
-/

variable {Value : Type} [CommSemiring Value]

/-- Insert zeros between the samples, so that they are `factor` apart. -/
def upsample (factor : Nat) : List Value → List Value
  | [] => []
  | [sample] => [sample]
  | sample :: next :: rest =>
      sample :: (List.replicate (factor - 1) 0 ++
        upsample factor (next :: rest))

/-- One sample of a filtered signal. -/
def convolveAt (filter signal : List Value) (index : Nat) : Value :=
  ∑ tap ∈ Finset.range filter.length,
    if tap ≤ index then
      filter[tap]?.getD 0 * signal[index - tap]?.getD 0
    else
      0

/-- Filter a signal, with all of its transients. -/
def convolve (filter signal : List Value) : List Value :=
  if signal = [] then
    []
  else
    (List.range (signal.length + filter.length - 1)).map
      (convolveAt filter signal)

/-- Keep the first of every `factor` samples. -/
def decimate (factor : Nat) (signal : List Value) : List Value :=
  (List.range ((signal.length + factor - 1) / factor)).map fun index =>
    signal[factor * index]?.getD 0

section Upsample

variable {factor : Nat} {signal : List Value}

theorem length_upsample
    (positive : 0 < factor)
    (notEmpty : signal ≠ []) :
    (upsample factor signal).length = (signal.length - 1) * factor + 1 := by
  induction signal with
  | nil => exact absurd rfl notEmpty
  | cons sample rest hypothesis =>
      cases rest with
      | nil =>
          change 1 = 0 * factor + 1
          rw [Nat.zero_mul]
      | cons next rest =>
          rw [upsample, List.length_cons, List.length_append,
            List.length_replicate,
            hypothesis (List.cons_ne_nil next rest)]
          simp only [List.length_cons, Nat.add_sub_cancel]
          rw [Nat.add_mul, Nat.one_mul]
          omega

/-- A sample of the signal, or an inserted zero. -/
theorem upsample_getD
    (positive : 0 < factor)
    (index : Nat) :
    (upsample factor signal)[index]?.getD 0 =
      if index % factor = 0 then signal[index / factor]?.getD 0
      else 0 := by
  induction signal generalizing index with
  | nil => simp [upsample]
  | cons sample rest hypothesis =>
      by_cases isFirst : index = 0
      · subst isFirst
        rw [Nat.zero_mod, Nat.zero_div, if_pos rfl]
        cases rest <;> rfl
      · obtain ⟨later, rfl⟩ := Nat.exists_eq_succ_of_ne_zero isFirst
        have isLater :
            later.succ < factor ∨ ∃ past, later.succ = past + factor := by
          rcases Nat.lt_or_ge later.succ factor with isZero | isPast
          · exact Or.inl isZero
          · exact Or.inr ⟨_, (Nat.sub_add_cancel isPast).symm⟩
        cases rest with
        | nil =>
            have isNone : (upsample factor [sample])[later.succ]? = none := rfl
            rw [isNone]
            rcases isLater with isZero | ⟨past, isPast⟩
            · rw [Nat.mod_eq_of_lt isZero, if_neg (Nat.succ_ne_zero later)]
              rfl
            · rw [isPast, Nat.add_div_right _ positive]
              exact (ite_self _).symm
        | cons next rest =>
            rw [upsample, Nat.succ_eq_add_one, List.getElem?_cons_succ]
            rcases isLater with isZero | ⟨past, isPast⟩
            · rw [List.getElem?_append_left
                  (by rw [List.length_replicate]; omega),
                List.getElem?_replicate, if_pos (by omega),
                Nat.mod_eq_of_lt isZero, if_neg (Nat.succ_ne_zero later)]
              rfl
            · have isRest : later - (factor - 1) = past := by omega
              rw [List.getElem?_append_right
                  (by rw [List.length_replicate]; omega),
                List.length_replicate, isRest, hypothesis,
                ← Nat.succ_eq_add_one, isPast, Nat.add_mod_right,
                Nat.add_div_right _ positive, List.getElem?_cons_succ]

end Upsample

section Convolve

variable {factor : Nat} {signal : List Value}

theorem sum_range_mul
    (length : Nat)
    (summand : Nat → Value) :
    ∑ tap ∈ Finset.range (length * factor), summand tap =
      ∑ turn ∈ Finset.range length,
        ∑ offset ∈ Finset.range factor, summand (turn * factor + offset) := by
  induction length with
  | zero => rw [Nat.zero_mul, Finset.sum_range_zero, Finset.sum_range_zero]
  | succ length hypothesis =>
      rw [Nat.succ_mul, Finset.sum_range_add, hypothesis,
        Finset.sum_range_succ]

/--
Of the coefficients only those whose index agrees with the sample up to whole
turns meet a sample of the signal.
-/
theorem convolveAt_upsample
    (filter : List Value)
    {length : Nat}
    (isLength : filter.length = length * factor)
    (window : Nat)
    {branch : Nat}
    (isBranch : branch < factor) :
    convolveAt filter (upsample factor signal)
        (window * factor + branch) =
      ∑ turn ∈ Finset.range length,
        if turn ≤ window then
          filter[turn * factor + branch]?.getD 0 *
            signal[window - turn]?.getD 0
        else 0 := by
  have positive : 0 < factor := Nat.zero_lt_of_lt isBranch
  unfold convolveAt
  rw [isLength, sum_range_mul]
  refine Finset.sum_congr rfl ?_
  intro turn _
  rw [Finset.sum_eq_single branch]
  · by_cases inside : turn ≤ window
    · have within : turn * factor ≤ window * factor :=
        Nat.mul_le_mul_right factor inside
      have isIndex : window * factor + branch - (turn * factor + branch) =
          (window - turn) * factor := by
        rw [Nat.add_sub_add_right, Nat.sub_mul]
      rw [if_pos (by omega), if_pos inside, isIndex,
        upsample_getD positive, Nat.mul_mod_left, if_pos rfl,
        Nat.mul_div_cancel _ positive]
    · have beyond : (window + 1) * factor ≤ turn * factor :=
        Nat.mul_le_mul_right factor (Nat.not_le.mp inside)
      rw [Nat.succ_mul] at beyond
      rw [if_neg (by omega), if_neg inside]
  · intro offset isOffset different
    rw [Finset.mem_range] at isOffset
    by_cases inside : turn * factor + offset ≤ window * factor + branch
    · have notZero : (window * factor + branch - (turn * factor + offset)) %
          factor ≠ 0 := by
        intro isZero
        have same :
            turn * factor + offset ≡ window * factor + branch [MOD factor] :=
          (Nat.modEq_iff_dvd' inside).mpr (Nat.dvd_of_mod_eq_zero isZero)
        unfold Nat.ModEq at same
        rw [Nat.mul_add_mod_of_lt isOffset,
          Nat.mul_add_mod_of_lt isBranch] at same
        exact different same
      rw [if_pos inside, upsample_getD positive, if_neg notZero, mul_zero]
    · exact if_neg inside
  · intro outside
    exact absurd (Finset.mem_range.mpr isBranch) outside

end Convolve

end Polyphase
