import Mathlib.Algebra.Order.Ring.Int
import Mathlib.Tactic.Ring

namespace PeriodicOccurrence

/-!
# Periodic occurrences

An event that occurs at an offset in every period occurs next either in the
period of a given time, if the offset is not yet behind, or in the period after
it.
-/

/-- Time of an offset in one of the periods. -/
def Occurs
    (start period offset time : Int) :
    Prop :=
  ∃ k : Nat, time = start + k * period + offset

/-- Begin of the period of a time, or of the first period. -/
def periodStart (start period earliest : Int) : Int :=
  if start < earliest then
    start + (earliest - start) / period * period
  else
    start

/-- The next time of an offset. -/
def nextAt (start period earliest offset : Int) : Int :=
  if earliest ≤ periodStart start period earliest + offset then
    periodStart start period earliest + offset
  else
    periodStart start period earliest + period + offset

section

variable {start period earliest offset time : Int}

/-- The period of a time starts before it and ends behind it. -/
theorem periodStart_spec
    (start : Int)
    (positive : 0 < period)
    (earliest : Int) :
    ∃ k : Nat,
      periodStart start period earliest = start + k * period ∧
        (start < earliest →
          start + k * period ≤ earliest ∧
            earliest < start + k * period + period) ∧
        (¬start < earliest → k = 0) := by
  unfold periodStart
  by_cases later : start < earliest
  · have notNegative : 0 ≤ (earliest - start) / period :=
      Int.ediv_nonneg (by omega) (Int.le_of_lt positive)
    refine ⟨((earliest - start) / period).toNat, ?_, ?_, ?_⟩
    · rw [if_pos later, Int.toNat_of_nonneg notNegative]
    · intro _
      rw [Int.toNat_of_nonneg notNegative]
      have whole := Int.ediv_mul_add_emod (earliest - start) period
      have rest := Int.emod_nonneg (earliest - start) (ne_of_gt positive)
      have below := Int.emod_lt_of_pos (earliest - start) positive
      constructor
      · omega
      · omega
    · intro notLater
      exact absurd later notLater
  · refine ⟨0, ?_, ?_, ?_⟩
    · rw [if_neg later]
      simp
    · intro isLater
      exact absurd isLater later
    · intro _
      rfl

/-- The next time is a time of the offset. -/
theorem nextAt_occurs (positive : 0 < period) :
    Occurs start period offset (nextAt start period earliest offset) := by
  obtain ⟨k, isStart, -, -⟩ := periodStart_spec start positive earliest
  unfold nextAt
  rw [isStart]
  split
  · exact ⟨k, rfl⟩
  · refine ⟨k + 1, ?_⟩
    push_cast
    ring

/-- The next time is not too early. -/
theorem le_nextAt
    (positive : 0 < period)
    (notNegative : 0 ≤ offset) :
    earliest ≤ nextAt start period earliest offset := by
  obtain ⟨k, isStart, inside, isFirst⟩ :=
    periodStart_spec start positive earliest
  unfold nextAt
  split
  · assumption
  · rw [isStart]
    by_cases later : start < earliest
    · obtain ⟨-, below⟩ := inside later
      omega
    · rw [isFirst later]
      omega

/-- The starts of two periods are a period apart at least. -/
theorem periods_apart
    (positive : 0 < period)
    {fewer more : Nat}
    (isMore : fewer < more) :
    (fewer : Int) * period + period ≤ more * period := by
  have isSucc : (fewer : Int) + 1 ≤ more := by omega
  calc
    (fewer : Int) * period + period = (fewer + 1) * period := by ring
    _ ≤ more * period :=
      Int.mul_le_mul_of_nonneg_right isSucc (Int.le_of_lt positive)

/-- No time of the offset lies in front of the next one. -/
theorem nextAt_le
    (positive : 0 < period)
    (inPeriod : offset < period)
    (occurs : Occurs start period offset time)
    (notEarlier : earliest ≤ time) :
    nextAt start period earliest offset ≤ time := by
  obtain ⟨j, rfl⟩ := occurs
  obtain ⟨k, isStart, inside, isFirst⟩ :=
    periodStart_spec start positive earliest
  -- as many periods fit in front of one time as of the other
  have notBefore
      {fewer more : Nat}
      (isMore : fewer ≤ more) :
      (fewer : Int) * period ≤ more * period :=
    Int.mul_le_mul_of_nonneg_right (by omega) (Int.le_of_lt positive)
  unfold nextAt
  rw [isStart]
  split
  · by_cases isLater : k ≤ j
    · have least := notBefore isLater
      omega
    · have later : start < earliest := by
        by_contra notLater
        have isZero := isFirst notLater
        omega
      have gap := periods_apart positive (Nat.not_le.mp isLater)
      obtain ⟨above, -⟩ := inside later
      omega
  · by_cases isLater : k + 1 ≤ j
    · have gap := periods_apart positive isLater
      omega
    · have least := notBefore (Nat.le_of_lt_succ (Nat.not_le.mp isLater))
      omega

/-- A time in a period ends with the period. -/
theorem Occurs.within
    (occurs : Occurs start period offset time)
    {length : Int}
    (fits : offset + length ≤ period) :
    ∃ k : Nat,
      start + k * period ≤ time - offset ∧
        time + length ≤ start + k * period + period := by
  obtain ⟨k, rfl⟩ := occurs
  exact ⟨k, by omega, by omega⟩

/-- Intervals that are apart in a period are apart in all periods. -/
theorem Occurs.apart
    {otherOffset otherTime length otherLength : Int}
    (positive : 0 < period)
    (occurs : Occurs start period offset time)
    (otherOccurs : Occurs start period otherOffset otherTime)
    (notNegative : 0 ≤ offset)
    (otherNotNegative : 0 ≤ otherOffset)
    (fits : offset + length ≤ period)
    (otherFits : otherOffset + otherLength ≤ period)
    (apart :
      offset + length ≤ otherOffset ∨ otherOffset + otherLength ≤ offset) :
    time + length ≤ otherTime ∨ otherTime + otherLength ≤ time := by
  obtain ⟨j, rfl⟩ := occurs
  obtain ⟨k, rfl⟩ := otherOccurs
  rcases Nat.lt_trichotomy j k with before | same | behind
  · have gap := periods_apart positive before
    exact .inl (by omega)
  · rw [same]
    rcases apart with inFront | after
    · exact .inl (by omega)
    · exact .inr (by omega)
  · have gap := periods_apart positive behind
    exact .inr (by omega)

end

end PeriodicOccurrence
