import Mathlib.Data.List.Basic
import Mathlib.Logic.Function.Basic
import Mathlib.Tactic.IntervalCases

namespace RingBuffer

/-!
# Ring buffers

A ring buffer stores its elements in a cyclic array between a reading and a
writing position.  One slot always stays free, so that equal positions mean
that the buffer is empty.
-/

variable {Element : Type}

/-- Number of elements between the two positions. -/
def used (capacity reading writing : Nat) : Nat :=
  if reading ≤ writing then
    writing - reading
  else
    writing + capacity - reading

/-- Elements from the reading position on. -/
def contents
    (capacity reading count : Nat)
    (slots : Nat → Element) :
    List Element :=
  (List.range count).map fun index =>
    slots ((reading + index) % capacity)

section

variable {capacity reading writing : Nat}

/-- The elements end where the next one is written. -/
theorem reading_add_used
    (readingInside : reading < capacity)
    (writingInside : writing < capacity) :
    (reading + used capacity reading writing) % capacity = writing := by
  rw [used]
  split
  · rw [Nat.add_sub_cancel' (by assumption)]
    exact Nat.mod_eq_of_lt writingInside
  · rw [show reading + (writing + capacity - reading) =
        writing + capacity by omega, Nat.add_mod_right]
    exact Nat.mod_eq_of_lt writingInside

/-- A step of the writing position adds an element. -/
theorem used_next_writing
    (readingInside : reading < capacity)
    (writingInside : writing < capacity)
    (free : used capacity reading writing + 1 < capacity) :
    used capacity reading ((writing + 1) % capacity) =
      used capacity reading writing + 1 := by
  by_cases wraps : writing + 1 = capacity
  · rw [wraps, Nat.mod_self]
    rw [used] at free ⊢
    rw [used]
    split at free <;> split <;> omega
  · rw [Nat.mod_eq_of_lt (by omega)]
    rw [used] at free ⊢
    rw [used]
    split at free <;> split <;> omega

/-- A step of the reading position removes an element. -/
theorem used_next_reading
    (readingInside : reading < capacity)
    (writingInside : writing < capacity)
    (filled : 0 < used capacity reading writing) :
    used capacity ((reading + 1) % capacity) writing + 1 =
      used capacity reading writing := by
  by_cases wraps : reading + 1 = capacity
  · rw [wraps, Nat.mod_self]
    rw [used] at filled ⊢
    rw [used]
    split at filled <;> split <;> omega
  · rw [Nat.mod_eq_of_lt (by omega)]
    rw [used] at filled ⊢
    rw [used]
    split at filled <;> split <;> omega

/-- Different elements are stored in different slots. -/
theorem slot_ne
    (readingInside : reading < capacity)
    {first second : Nat}
    (ordered : first < second)
    (inside : second < capacity) :
    (reading + first) % capacity ≠ (reading + second) % capacity := by
  intro same
  have firstSlot := Nat.div_add_mod (reading + first) capacity
  have secondSlot := Nat.div_add_mod (reading + second) capacity
  have firstTurns : (reading + first) / capacity < 2 :=
    Nat.div_lt_of_lt_mul (by omega)
  have secondTurns : (reading + second) / capacity < 2 :=
    Nat.div_lt_of_lt_mul (by omega)
  rw [same] at firstSlot
  generalize (reading + first) / capacity = firstTurn at *
  generalize (reading + second) / capacity = secondTurn at *
  generalize (reading + second) % capacity = slot at *
  interval_cases firstTurn <;> interval_cases secondTurn <;> omega

/-- Writing behind the elements appends one. -/
theorem contents_write
    (readingInside : reading < capacity)
    {count : Nat}
    (free : count < capacity)
    (slots : Nat → Element)
    (element : Element) :
    contents capacity reading (count + 1)
        (Function.update slots ((reading + count) % capacity) element) =
      contents capacity reading count slots ++ [element] := by
  rw [contents, List.range_succ, List.map_append]
  congr 1
  · refine List.map_congr_left fun index member => ?_
    have earlier := List.mem_range.mp member
    have other := slot_ne readingInside earlier free
    exact Function.update_of_ne other _ _
  · simp

/-- Stepping the reading position drops the first element. -/
theorem contents_read
    (capacity reading count : Nat)
    (slots : Nat → Element) :
    contents capacity reading (count + 1) slots =
      slots (reading % capacity) ::
        contents capacity ((reading + 1) % capacity) count slots := by
  rw [contents, List.range_succ_eq_map, List.map_cons, List.map_map]
  congr 1
  refine List.map_congr_left fun index _ => ?_
  simp only [Function.comp_apply, Nat.mod_add_mod]
  rw [show reading + index.succ = reading + 1 + index by omega]

end

end RingBuffer
