import Mathlib.Data.Nat.Init
import Mathlib.Algebra.Order.Group.Nat
import Mathlib.Tactic.Ring

namespace FetchAhead

/-!
# Fetching in units

A consumer takes any numbers of elements from a source of a known size, and
the elements are fetched in whole units, except for the last ones of the
source.  What is fetched but not taken yet is less than a unit, and nothing is
left once everything was taken.
-/

/-- Elements rounded up to whole units. -/
def wholeUnits (unit count : Nat) : Nat :=
  (count + unit - 1) / unit * unit

/-- Elements that were fetched in order to take some of them. -/
def fetched (unit size taken : Nat) : Nat :=
  min (wholeUnits unit taken) size

variable {unit size taken more : Nat}

theorem le_wholeUnits
    (positive : 0 < unit)
    (count : Nat) :
    count ≤ wholeUnits unit count := by
  have remainder := Nat.mod_lt (count + unit - 1) positive
  have division := Nat.div_add_mod' (count + unit - 1) unit
  unfold wholeUnits
  omega

theorem wholeUnits_lt
    (positive : 0 < unit)
    (count : Nat) :
    wholeUnits unit count < count + unit := by
  have division := Nat.div_mul_le_self (count + unit - 1) unit
  unfold wholeUnits
  omega

theorem unit_dvd_wholeUnits (unit count : Nat) :
    unit ∣ wholeUnits unit count :=
  Nat.dvd_mul_left _ _

theorem wholeUnits_add
    (positive : 0 < unit)
    {whole : Nat}
    (isWhole : unit ∣ whole)
    (count : Nat) :
    wholeUnits unit (whole + count) = whole + wholeUnits unit count := by
  obtain ⟨units, rfl⟩ := isWhole
  have regroup :
      unit * units + count + unit - 1 = count + unit - 1 + unit * units := by
    omega
  unfold wholeUnits
  rw [regroup, Nat.add_mul_div_left _ _ positive, Nat.add_mul,
    Nat.mul_comm unit units, Nat.add_comm]

/-- What is taken was fetched. -/
theorem le_fetched
    (positive : 0 < unit)
    (inside : taken ≤ size) :
    taken ≤ fetched unit size taken :=
  Nat.le_min.mpr ⟨le_wholeUnits positive taken, inside⟩

theorem fetched_le (unit size taken : Nat) :
    fetched unit size taken ≤ size :=
  Nat.min_le_right _ _

/-- Less than a unit is left. -/
theorem fetched_lt
    (positive : 0 < unit)
    (size taken : Nat) :
    fetched unit size taken < taken + unit :=
  Nat.lt_of_le_of_lt (Nat.min_le_left _ _) (wholeUnits_lt positive taken)

/-- Nothing is fetched in advance. -/
theorem fetched_zero
    (positive : 0 < unit)
    (size : Nat) :
    fetched unit size 0 = 0 := by
  have noUnits : wholeUnits unit 0 = 0 := by
    unfold wholeUnits
    rw [Nat.div_eq_of_lt (by omega), Nat.zero_mul]
  rw [fetched, noUnits, Nat.zero_min]

/-- Everything is fetched in the end. -/
theorem fetched_all
    (positive : 0 < unit)
    (size : Nat) :
    fetched unit size size = size :=
  Nat.min_eq_right (le_wholeUnits positive size)

/-- Whole units were fetched unless everything was. -/
theorem fetched_cases (unit size taken : Nat) :
    unit ∣ fetched unit size taken ∨ fetched unit size taken = size := by
  unfold fetched
  rcases Nat.le_total (wholeUnits unit taken) size with few | all
  · rw [Nat.min_eq_left few]
    exact .inl (unit_dvd_wholeUnits unit taken)
  · rw [Nat.min_eq_right all]
    exact .inr rfl

/-- Common divisors of units and size divide what was fetched. -/
theorem dvd_fetched
    {divisor : Nat}
    (ofUnit : divisor ∣ unit)
    (ofSize : divisor ∣ size)
    (taken : Nat) :
    divisor ∣ fetched unit size taken := by
  rcases fetched_cases unit size taken with isWhole | isAll
  · exact ofUnit.trans isWhole
  · rw [isAll]
    exact ofSize

/--
To take more, whole units are fetched for what is missing, but no more than
what is left.
-/
theorem fetched_add (positive : 0 < unit) :
    fetched unit size taken +
        min (wholeUnits unit (taken + more - fetched unit size taken))
          (size - fetched unit size taken) =
      fetched unit size (taken + more) := by
  rcases fetched_cases unit size taken with isWhole | isAll
  · rcases Nat.le_total (fetched unit size taken) (taken + more) with
      missing | enough
    · obtain ⟨rest, isRest⟩ := Nat.exists_eq_add_of_le missing
      have bounded := fetched_le unit size taken
      have units := wholeUnits_add positive isWhole rest
      rw [isRest, Nat.add_sub_cancel_left]
      conv_rhs => rw [fetched, units]
      omega
    · -- nothing is missing, so that the same units are fetched
      have noUnits : wholeUnits unit 0 = 0 := by
        unfold wholeUnits
        rw [Nat.div_eq_of_lt (by omega), Nat.zero_mul]
      have units : wholeUnits unit taken = wholeUnits unit (taken + more) := by
        unfold wholeUnits
        congr 1
        have first := Nat.div_mul_le_self (taken + unit - 1) unit
        have covered : taken + more ≤ (taken + unit - 1) / unit * unit :=
          Nat.le_trans enough (Nat.min_le_left _ _)
        refine Nat.le_antisymm (Nat.div_le_div_right (by omega)) ?_
        refine Nat.le_of_lt_succ (Nat.div_lt_of_lt_mul ?_)
        rw [Nat.mul_comm, Nat.succ_mul]
        omega
      rw [Nat.sub_eq_zero_of_le enough, noUnits, Nat.zero_min,
        Nat.add_zero, fetched, fetched, units]
  · have all : fetched unit size (taken + more) = size := by
      have least : fetched unit size taken ≤ fetched unit size (taken + more) := by
        unfold fetched wholeUnits
        refine Nat.le_min.mpr ⟨?_, Nat.min_le_right _ _⟩
        exact Nat.le_trans (Nat.min_le_left _ _)
            (Nat.mul_le_mul_right _ (Nat.div_le_div_right (by omega)))
      rw [isAll] at least
      exact Nat.le_antisymm (fetched_le unit size _) least
    rw [isAll, Nat.sub_self, Nat.min_zero, Nat.add_zero, all]

end FetchAhead
