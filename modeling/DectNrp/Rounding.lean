import DectNrp.Allocation

namespace DectNrp

/-!
# Rounded division

A quotient is rounded to the closest integer, and away from zero if two are
equally close.
-/

/-- A number that fits into 64 signed bits. -/
def InInt64 (value : Int) : Prop :=
  -2 ^ 63 ≤ value ∧ value < 2 ^ 63

instance (value : Int) : Decidable (InInt64 value) :=
  inferInstanceAs (Decidable (_ ∧ _))

/-- The division of two signed numbers truncates. -/
def roundInteger (x y : Int) : Checked Int := do
  let doubled ← if decide (x < 0) == decide (y < 0) then pure y else int64 (-y)
  let offset := doubled.tdiv 2
  let shifted ← int64 (x + offset)
  dectnrpAssert (y ≠ 0) "division by zero"
  int64 (shifted.tdiv y)

/-- The offset moves a number away from zero. -/
def roundingOffset (x y : Int) : Int :=
  if 0 ≤ x then y / 2 else -(y / 2)

/-- The rounded quotient of a number and a positive one. -/
def rounded (x y : Int) : Int :=
  if 0 ≤ x then (x + y / 2) / y else -((-x + y / 2) / y)

variable {x y : Int}

theorem inInt64_tdiv
    (positive : 0 < y)
    (fits : InInt64 x) :
    InInt64 (x.tdiv y) := by
  have smaller := Int.natAbs_tdiv_le_natAbs x y
  obtain ⟨lower, upper⟩ := fits
  rcases Int.le_total 0 x with notNegative | negative
  · have quotient := Int.tdiv_nonneg notNegative (Int.le_of_lt positive)
    exact ⟨by omega, by omega⟩
  · have quotient :=
      Int.tdiv_nonneg (Int.neg_nonneg_of_nonpos negative)
        (Int.le_of_lt positive)
    rw [Int.neg_tdiv] at quotient
    exact ⟨by omega, by omega⟩

/-- A division after a shift returns unless the shift overflows. -/
private theorem shifted_eq_ok_iff
    {x y offset result : Int}
    (positive : 0 < y) :
    (do
      let shifted ← int64 (x + offset)
      dectnrpAssert (y ≠ 0) "division by zero"
      int64 (shifted.tdiv y)) = Except.ok result ↔
      InInt64 (x + offset) ∧ result = (x + offset).tdiv y := by
  have notZero : y ≠ 0 := by omega
  constructor
  · intro returned
    obtain ⟨shifted, shiftedEq, returned⟩ := Checked.bind_eq_ok.mp returned
    obtain ⟨-, -, divided⟩ := Checked.bind_eq_ok.mp returned
    obtain ⟨fits, rfl⟩ := int64_eq_ok_iff.mp shiftedEq
    exact ⟨fits, (int64_eq_ok_iff.mp divided).2⟩
  · rintro ⟨fits, rfl⟩
    rw [int64_eq_ok_iff.mpr ⟨fits, rfl⟩, Checked.ok_bind]
    simp only [notZero, ne_eq, not_false_eq_true, decide_true,
      dectnrpAssert_true, Checked.ok_bind]
    exact int64_eq_ok_iff.mpr ⟨inInt64_tdiv positive fits, rfl⟩

/-- Rounding returns the rounded quotient unless a number gets too large. -/
theorem roundInteger_eq_ok_iff
    (positive : 0 < y)
    (isInt64 : InInt64 y)
    {result : Int} :
    roundInteger x y = .ok result ↔
      InInt64 (x + roundingOffset x y) ∧ result = rounded x y := by
  have notNegative : ¬ y < 0 := by omega
  unfold roundInteger
  by_cases sign : x < 0
  · have negated : int64 (-y) = .ok (-y) :=
      int64_eq_ok_iff.mpr ⟨⟨by have := isInt64.2; omega, by omega⟩, rfl⟩
    have offset : roundingOffset x y = (-y).tdiv 2 := by
      rw [roundingOffset, if_neg (by omega), Int.neg_tdiv,
        Int.tdiv_eq_ediv_of_nonneg (Int.le_of_lt positive)]
    have quotient : rounded x y = (x + roundingOffset x y).tdiv y := by
      rw [roundingOffset, rounded, if_neg (by omega), if_neg (by omega),
        show x + -(y / 2) = -(-x + y / 2) by omega, Int.neg_tdiv,
        Int.tdiv_eq_ediv_of_nonneg (by omega)]
    rw [quotient, offset]
    simp only [sign, notNegative, decide_true, decide_false,
      Bool.true_beq, Bool.false_eq_true, if_false, negated,
      Checked.ok_bind]
    exact shifted_eq_ok_iff positive
  · have offset : roundingOffset x y = y.tdiv 2 := by
      rw [roundingOffset, if_pos (by omega),
        Int.tdiv_eq_ediv_of_nonneg (Int.le_of_lt positive)]
    have quotient : rounded x y = (x + roundingOffset x y).tdiv y := by
      rw [roundingOffset, rounded, if_pos (by omega),
        if_pos (by omega), Int.tdiv_eq_ediv_of_nonneg (by omega)]
    rw [quotient, offset]
    simp only [sign, notNegative, decide_false, BEq.rfl, if_true,
      Checked.pure_eq_ok, Checked.ok_bind]
    exact shifted_eq_ok_iff positive

/-- A rounded multiple of a number that is not negative. -/
theorem rounded_mul_bounds
    (notNegative : 0 ≤ x)
    (positive : 0 < y) :
    x + y / 2 - y < rounded x y * y ∧ rounded x y * y ≤ x + y / 2 := by
  have whole := Int.emod_add_ediv_mul (x + y / 2) y
  have lower := Int.emod_nonneg (x + y / 2) (Int.ne_of_gt positive)
  have upper := Int.emod_lt_of_pos (x + y / 2) positive
  unfold rounded
  rw [if_pos notNegative]
  exact ⟨by omega, by omega⟩

/-- A quotient is rounded to the number whose multiple is close enough. -/
theorem rounded_eq
    {x y quotient : Int}
    (notNegative : 0 ≤ x)
    (positive : 0 < y)
    (above : 2 * (x - quotient * y) < y)
    (below : 2 * (quotient * y - x) < y) :
    rounded x y = quotient := by
  unfold rounded
  rw [if_pos notNegative]
  apply Int.le_antisymm
  · apply Int.lt_add_one_iff.mp
    rw [Int.ediv_lt_iff_lt_mul positive, Int.add_mul, Int.one_mul]
    omega
  · rw [Int.le_ediv_iff_mul_le positive]
    omega

/-- What is left of a number after its rounded multiple was taken away. -/
def remainder (x y : Int) : Int :=
  x - rounded x y * y

/-- The rest is at most half of the divisor. -/
theorem remainder_bounds
    {x y : Int}
    (positive : 0 < y)
    (even : y % 2 = 0) :
    -(y / 2) ≤ remainder x y ∧ remainder x y ≤ y / 2 := by
  unfold remainder rounded
  split
  · have whole := Int.emod_add_ediv_mul (x + y / 2) y
    have lower := Int.emod_nonneg (x + y / 2) (Int.ne_of_gt positive)
    have upper := Int.emod_lt_of_pos (x + y / 2) positive
    omega
  · have whole := Int.emod_add_ediv_mul (-x + y / 2) y
    have lower := Int.emod_nonneg (-x + y / 2) (Int.ne_of_gt positive)
    have upper := Int.emod_lt_of_pos (-x + y / 2) positive
    rw [Int.neg_mul]
    omega

/-- The rest is a number of the same residue class. -/
theorem remainder_emod (x y : Int) :
    remainder x y % y = x % y := by
  unfold remainder
  exact Int.sub_mul_emod_self_right x (rounded x y) y

/-- The rest is half of the divisor exactly if two quotients are equally close. -/
theorem natAbs_remainder_eq_half_iff
    {x y : Int}
    (positive : 0 < y)
    (even : y % 2 = 0) :
    (remainder x y).natAbs = (y / 2).natAbs ↔ x % y = y / 2 := by
  obtain ⟨lower, upper⟩ := @remainder_bounds x y positive even
  rw [← remainder_emod]
  rcases Int.le_total 0 (remainder x y) with notNegative | negative
  · rw [Int.emod_eq_of_lt notNegative (by omega)]
    omega
  · by_cases isZero : remainder x y = 0
    · rw [isZero, Int.zero_emod]
      omega
    · rw [← Int.add_emod_right, Int.emod_eq_of_lt (by omega) (by omega)]
      omega

end DectNrp
