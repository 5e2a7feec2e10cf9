import Mathlib.Data.List.Basic
import Mathlib.Tactic.Ring

namespace DectNrp

/-!
# Schedule of the subfilters

For every input sample the resampler calls some of the subfilters, each for one
output sample.  After a subfilter the next one is further on by the decimation
factor, and it belongs to a later input sample when it is beyond the last one.
The schedule is a table for as many input samples as that factor, and it is
accepted when it has as many entries as there are subfilters.
-/

namespace Resampler

/-- Subfilters called for one input sample, and the index left over. -/
def subfilterIndicesOfInput
    (l m : Nat) :
    Nat → Nat → List Nat × Nat
  | 0, subfilterIndex => ([], subfilterIndex)
  | fuel + 1, subfilterIndex =>
      if subfilterIndex < l then
        let (indices, left) :=
          subfilterIndicesOfInput l m fuel (subfilterIndex + m)
        (subfilterIndex :: indices, left)
      else
        ([], subfilterIndex)

/-- The table for some more input samples, and the index left over. -/
def subfilterIndicesFrom
    (l m : Nat) :
    Nat → Nat → List (List Nat) × Nat
  | 0, subfilterIndex => ([], subfilterIndex)
  | 1, subfilterIndex =>
      let (indices, next) := subfilterIndicesOfInput l m l subfilterIndex
      if 2 * l ≤ next then
        ([indices, []], next % l)
      else
        ([indices], next % l)
  | periods + 2, subfilterIndex =>
      let (indices, next) := subfilterIndicesOfInput l m l subfilterIndex
      -- an input sample without an output sample takes a period of its own
      if 2 * l ≤ next then
        let (table, left) := subfilterIndicesFrom l m periods (next % l)
        (indices :: [] :: table, left)
      else
        let (table, left) := subfilterIndicesFrom l m (periods + 1) (next % l)
        (indices :: table, left)

/-- Number of steps from an index until a limit is reached. -/
def stepsBelow (limit step index : Nat) : Nat :=
  (limit - index + step - 1) / step

section Steps

variable {limit step index count : Nat}

theorem le_stepsBelow (positive : 0 < step) :
    limit ≤ index + step * stepsBelow limit step index := by
  have whole := Nat.div_add_mod (limit - index + step - 1) step
  have below := Nat.mod_lt (limit - index + step - 1) positive
  unfold stepsBelow
  omega

/-- Every earlier step is below the limit. -/
theorem step_lt
    (positive : 0 < step)
    (isEarlier : count < stepsBelow limit step index) :
    index + step * count < limit := by
  unfold stepsBelow at isEarlier
  have earlier :=
    (Nat.le_div_iff_mul_le positive).mp (Nat.succ_le_of_lt isEarlier)
  rw [Nat.succ_mul, Nat.mul_comm] at earlier
  omega

/-- The number of steps is the only one with these two properties. -/
theorem eq_stepsBelow
    (positive : 0 < step)
    (isEnough : limit ≤ index + step * count)
    (isLeast : ∀ earlier, earlier < count → index + step * earlier < limit) :
    count = stepsBelow limit step index := by
  rcases Nat.lt_trichotomy count (stepsBelow limit step index) with
    isLess | isEqual | isMore
  · exact absurd (step_lt positive isLess) (Nat.not_lt.mpr isEnough)
  · exact isEqual
  · exact absurd (isLeast _ isMore) (Nat.not_lt.mpr (le_stepsBelow positive))

theorem stepsBelow_eq_zero
    (positive : 0 < step)
    (isBeyond : limit ≤ index) :
    stepsBelow limit step index = 0 := by
  refine (eq_stepsBelow positive (Nat.le_add_right_of_le isBeyond) ?_).symm
  intro earlier isEarlier
  exact absurd isEarlier (Nat.not_lt_zero earlier)

end Steps

/-- The subfilters of an input sample from an index on. -/
def branches (l m index : Nat) : List Nat :=
  (List.range (stepsBelow l m index)).map fun step => index + m * step

/-- The index left over, relative to the next input sample. -/
def nextIndex (l m index : Nat) : Nat :=
  index + m * stepsBelow l m index - l

/-- The index left over after some input samples. -/
def indexAt (l m index : Nat) : Nat → Nat
  | 0 => index
  | periods + 1 => indexAt l m (nextIndex l m index) periods

section Schedule

variable {l m index : Nat}

theorem indexAt_add (first second : Nat) :
    indexAt l m index (first + second) =
      indexAt l m (indexAt l m index first) second := by
  induction first generalizing index with
  | zero =>
      rw [Nat.zero_add]
      rfl
  | succ first hypothesis =>
      rw [Nat.succ_add]
      exact hypothesis

theorem indexAt_succ (periods : Nat) :
    indexAt l m index (periods + 1) =
      nextIndex l m (indexAt l m index periods) := by
  rw [indexAt_add]
  rfl

theorem nextIndex_add (positive : 0 < m) :
    nextIndex l m index + l = index + m * stepsBelow l m index :=
  Nat.sub_add_cancel (le_stepsBelow positive)

theorem subfilterIndicesOfInput_eq
    (positive : 0 < m)
    {fuel : Nat}
    (isEnough : l ≤ index + fuel) :
    subfilterIndicesOfInput l m fuel index =
      (branches l m index, nextIndex l m index + l) := by
  rw [nextIndex_add positive]
  induction fuel generalizing index with
  | zero =>
      have isBeyond : l ≤ index := isEnough
      rw [branches, stepsBelow_eq_zero positive isBeyond]
      rfl
  | succ fuel hypothesis =>
      unfold subfilterIndicesOfInput
      by_cases isBelow : index < l
      · have steps :
            stepsBelow l m (index + m) + 1 = stepsBelow l m index := by
          apply eq_stepsBelow positive
          · have isEnough := @le_stepsBelow l m (index + m) positive
            rw [Nat.mul_succ]
            omega
          · intro earlier isEarlier
            cases earlier with
            | zero => exact isBelow
            | succ earlier =>
                have below :=
                  @step_lt l m (index + m) earlier positive
                    (Nat.lt_of_succ_lt_succ isEarlier)
                rw [Nat.mul_succ]
                omega
        rw [if_pos isBelow, hypothesis (by omega)]
        dsimp only
        rw [branches, branches, ← steps, List.range_succ_eq_map,
          List.map_cons, List.map_map]
        refine Prod.ext ?_ ?_
        · dsimp only
          rw [Nat.mul_zero, Nat.add_zero]
          refine congrArg _ (List.map_congr_left ?_)
          intro step _
          change index + m + m * step = index + m * (step + 1)
          ring
        · change index + m + m * stepsBelow l m (index + m) = _
          ring
      · rw [if_neg isBelow, branches,
          stepsBelow_eq_zero positive (Nat.not_lt.mp isBelow)]
        rfl

/--
What the table has in common with the schedule: the number of entries and the
index left over add up to the periods, but for periods that were missed, and
without those the table is the schedule.
-/
def Agrees
    (l m index : Nat)
    (table : List (List Nat))
    (left : Nat) :
    Prop :=
  left < l ∧
    ∃ missed,
      index + m * table.flatten.length =
          (table.length + missed) * l + left ∧
        (missed = 0 →
          table =
              (List.range table.length).map (fun period =>
                branches l m (indexAt l m index period)) ∧
            left = indexAt l m index table.length)

/-- One period in front of a table. -/
theorem Agrees.cons
    {table : List (List Nat)}
    {left : Nat}
    (positive : 0 < m)
    (agrees : Agrees l m (nextIndex l m index) table left) :
    Agrees l m index (branches l m index :: table) left := by
  obtain ⟨isLeft, missed, total, same⟩ := agrees
  have isNext := @nextIndex_add l m index positive
  refine ⟨isLeft, missed, ?_, ?_⟩
  · rw [List.flatten_cons, List.length_append, List.length_cons]
    have steps : (branches l m index).length = stepsBelow l m index := by
      rw [branches, List.length_map, List.length_range]
    rw [steps, Nat.mul_add]
    calc
      index + (m * stepsBelow l m index + m * table.flatten.length)
        = l + (nextIndex l m index + m * table.flatten.length) := by omega
      _ = l + ((table.length + missed) * l + left) := by rw [total]
      _ = (table.length + 1 + missed) * l + left := by ring
  · intro noneMissed
    obtain ⟨isTable, isIndex⟩ := same noneMissed
    rw [List.length_cons]
    refine ⟨?_, isIndex⟩
    rw [List.range_succ_eq_map, List.map_cons, List.map_map]
    exact congrArg _ isTable

/--
A period without an output sample in front of a table.  More than one of them
are missed.
-/
theorem Agrees.skip
    {table : List (List Nat)}
    {left : Nat}
    (positive : 0 < m)
    (isBeyond : l ≤ index)
    (agrees : Agrees l m (index % l) table left) :
    Agrees l m index ([] :: table) left := by
  obtain ⟨isLeft, missed, total, same⟩ := agrees
  have isPositive : 0 < l := Nat.zero_lt_of_lt isLeft
  have turns := Nat.div_add_mod index l
  obtain ⟨more, isMore⟩ : ∃ more, index / l = more + 1 :=
    Nat.exists_eq_succ_of_ne_zero (Nat.div_pos isBeyond isPositive).ne'
  rw [isMore] at turns
  refine ⟨isLeft, missed + more, ?_, ?_⟩
  · rw [List.flatten_cons, List.nil_append, List.length_cons]
    calc
      index + m * table.flatten.length
        = l * (more + 1) + (index % l + m * table.flatten.length) := by omega
      _ = l * (more + 1) + ((table.length + missed) * l + left) := by
          rw [total]
      _ = (table.length + 1 + (missed + more)) * l + left := by ring
  · intro noneMissed
    obtain ⟨isTable, isIndex⟩ := same (Nat.eq_zero_of_add_eq_zero_right noneMissed)
    have noMore : more = 0 := Nat.eq_zero_of_add_eq_zero_left noneMissed
    have isNext : nextIndex l m index = index % l := by
      unfold nextIndex
      rw [stepsBelow_eq_zero positive isBeyond]
      rw [noMore] at turns
      omega
    rw [List.length_cons]
    refine ⟨?_, ?_⟩
    · rw [List.range_succ_eq_map, List.map_cons, List.map_map]
      refine congrArg₂ _ ?_ ?_
      · change [] = branches l m index
        rw [branches, stepsBelow_eq_zero positive isBeyond]
        rfl
      · rw [isTable, List.length_map, List.length_range]
        refine List.map_congr_left ?_
        intro period _
        change _ = branches l m (indexAt l m (nextIndex l m index) period)
        rw [isNext]
    · rw [isIndex]
      change _ = indexAt l m (nextIndex l m index) table.length
      rw [isNext]

theorem subfilterIndicesFrom_agrees
    (positive : 0 < m)
    (periods : Nat)
    (isIndex : index < l) :
    Agrees l m index
        (subfilterIndicesFrom l m periods index).1
        (subfilterIndicesFrom l m periods index).2 ∧
      periods ≤ (subfilterIndicesFrom l m periods index).1.length := by
  have isPositive : 0 < l := Nat.zero_lt_of_lt isIndex
  induction periods using Nat.strong_induction_on generalizing index with
  | _ periods hypothesis =>
      have isInput :=
        @subfilterIndicesOfInput_eq l m index positive l
          (Nat.le_add_left l index)
      have isEmpty : ∀ left, left < l → Agrees l m left [] left := by
        intro left isLeft
        refine ⟨isLeft, 0, ?_, fun _ => ⟨rfl, rfl⟩⟩
        change left + m * 0 = (0 + 0) * l + left
        ring
      match periods with
      | 0 => exact ⟨isEmpty index isIndex, le_rfl⟩
      | 1 =>
          rw [subfilterIndicesFrom, isInput]
          dsimp only
          rw [Nat.add_mod_right]
          by_cases isSkipped : l ≤ nextIndex l m index
          · rw [if_pos (by omega)]
            refine ⟨?_, Nat.le_add_left 1 1⟩
            exact ((isEmpty _ (Nat.mod_lt _ isPositive)).skip positive
              isSkipped).cons positive
          · have isNext := Nat.not_le.mp isSkipped
            rw [if_neg (by omega), Nat.mod_eq_of_lt isNext]
            exact ⟨(isEmpty _ isNext).cons positive, le_rfl⟩
      | periods + 2 =>
          rw [subfilterIndicesFrom, isInput]
          dsimp only
          rw [Nat.add_mod_right]
          by_cases isSkipped : l ≤ nextIndex l m index
          · rw [if_pos (by omega)]
            obtain ⟨agrees, isLong⟩ :=
              hypothesis periods (by omega)
                (Nat.mod_lt (nextIndex l m index) isPositive)
            exact ⟨(agrees.skip positive isSkipped).cons positive,
              Nat.add_le_add_right isLong 2⟩
          · have isNext := Nat.not_le.mp isSkipped
            rw [if_neg (by omega), Nat.mod_eq_of_lt isNext]
            obtain ⟨agrees, isLong⟩ :=
              hypothesis (periods + 1) (by omega) isNext
            exact ⟨agrees.cons positive, Nat.succ_le_succ isLong⟩

/--
A table with as many entries as subfilters has one row for each period, and
after them the schedule starts over.
-/
theorem subfilterIndicesFrom_accepted
    (positive : 0 < m)
    (isIndex : index < l)
    (accepted : (subfilterIndicesFrom l m m index).1.flatten.length = l) :
    (subfilterIndicesFrom l m m index).1 =
        (List.range m).map (fun period =>
          branches l m (indexAt l m index period)) ∧
      indexAt l m index m = index := by
  obtain ⟨⟨isLeft, missed, total, same⟩, isLong⟩ :=
    subfilterIndicesFrom_agrees positive m isIndex
  generalize subfilterIndicesFrom l m m index = schedule at *
  obtain ⟨table, left⟩ := schedule
  dsimp only at *
  rw [accepted] at total
  have isPositive : 0 < l := Nat.zero_lt_of_lt isIndex
  have turns : m = table.length + missed := by
    have byTurns := congrArg (· / l) total
    rw [Nat.add_mul_div_right _ _ isPositive, Nat.div_eq_of_lt isIndex,
      Nat.add_comm _ left, Nat.add_mul_div_right _ _ isPositive,
      Nat.div_eq_of_lt isLeft, Nat.zero_add, Nat.zero_add] at byTurns
    exact byTurns
  obtain rfl : missed = 0 := by omega
  rw [Nat.add_zero] at turns total
  obtain ⟨isTable, isIndexAt⟩ := same rfl
  rw [← turns] at isTable isIndexAt total
  refine ⟨isTable, ?_⟩
  rw [← isIndexAt]
  exact (Nat.add_left_cancel (by rw [Nat.add_comm, total])).symm

/-- The schedule repeats itself after as many periods. -/
theorem indexAt_mod
    (repeats : indexAt l m index m = index)
    (period : Nat) :
    indexAt l m index period = indexAt l m index (period % m) := by
  have turns : ∀ count, indexAt l m index (m * count) = index := by
    intro count
    induction count with
    | zero => rfl
    | succ count hypothesis =>
        rw [Nat.mul_succ, indexAt_add, hypothesis, repeats]
  calc
    indexAt l m index period
      = indexAt l m index (m * (period / m) + period % m) := by
        rw [Nat.div_add_mod]
    _ = indexAt l m index (period % m) := by rw [indexAt_add, turns]

/--
The index left over, counted from the first input sample on, and the steps of
one more period.
-/
theorem indexAt_total
    (positive : 0 < m)
    (periods : Nat) :
    indexAt l m index periods + periods * l =
        index + m * stepsBelow (periods * l) m index ∧
      stepsBelow ((periods + 1) * l) m index =
        stepsBelow (periods * l) m index +
          stepsBelow l m (indexAt l m index periods) := by
  induction periods with
  | zero =>
      rw [Nat.zero_mul, stepsBelow_eq_zero positive (Nat.zero_le index),
        Nat.zero_add, Nat.one_mul, Nat.zero_add]
      exact ⟨rfl, rfl⟩
  | succ periods hypothesis =>
      obtain ⟨total, steps⟩ := hypothesis
      have isNext := @nextIndex_add l m (indexAt l m index periods) positive
      have nextTotal : indexAt l m index (periods + 1) + (periods + 1) * l =
          index + m * stepsBelow ((periods + 1) * l) m index := by
        rw [indexAt_succ, steps, Nat.mul_add, Nat.succ_mul periods]
        omega
      refine ⟨nextTotal, (eq_stepsBelow positive ?_ ?_).symm⟩
      · have isEnough :=
          @le_stepsBelow l m (indexAt l m index (periods + 1)) positive
        rw [Nat.mul_add, Nat.succ_mul (periods + 1)]
        omega
      · intro earlier isEarlier
        rcases Nat.lt_or_ge earlier
            (stepsBelow ((periods + 1) * l) m index) with isOld | isNew
        · have below := step_lt positive isOld
          rw [Nat.succ_mul]
          omega
        · obtain ⟨step, rfl⟩ := Nat.exists_eq_add_of_le isNew
          have below :=
            @step_lt l m (indexAt l m index (periods + 1)) step positive
              (Nat.lt_of_add_lt_add_left isEarlier)
          rw [Nat.mul_add, Nat.succ_mul (periods + 1)]
          omega

/--
The subfilters of all input samples at their positions after interpolation:
one position for every step, from the first one on.
-/
theorem flatMap_branches
    (positive : 0 < m)
    (periods : Nat) :
    ((List.range periods).flatMap fun period =>
        (branches l m (indexAt l m index period)).map fun branch =>
          period * l + branch) =
      (List.range (stepsBelow (periods * l) m index)).map fun step =>
        index + m * step := by
  induction periods with
  | zero =>
      rw [Nat.zero_mul, stepsBelow_eq_zero positive (Nat.zero_le index)]
      rfl
  | succ periods hypothesis =>
      obtain ⟨total, steps⟩ := @indexAt_total l m index positive periods
      rw [List.range_succ, List.flatMap_append, hypothesis,
        List.flatMap_singleton, steps, List.range_add, List.map_append,
        branches, List.map_map, List.map_map]
      refine congrArg _ (List.map_congr_left ?_)
      intro step _
      dsimp only [Function.comp]
      rw [Nat.mul_add]
      omega

end Schedule

end Resampler

end DectNrp
