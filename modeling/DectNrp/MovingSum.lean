import DectNrp.RingBuffer
import Mathlib.Algebra.BigOperators.Group.List.Basic
import Mathlib.Data.List.Induction
import Mathlib.Data.List.Rotate
import Mathlib.Tactic.Abel

namespace DectNrp

/-!
# Moving sums

The packet detection keeps the sum of the last values in a shift register.  It
also compares the sum of some values at the front of the register, the newest
ones, with the sum of some values at its back.  Additions are exact here.
-/

/-- A sum over the last `length` values. -/
structure Movsum (Value : Type) (length : Nat) where
  shiftreg : Nat → Value
  ptr : Nat
  sum : Value
  inside : ptr < length

namespace Movsum

variable {Value : Type} {length : Nat}

/-- Index of a value behind the pointer. -/
def getFrontIdx
    (movsum : Movsum Value length)
    (nBackward : Nat) :
    Nat :=
  let nbw := nBackward % length
  if movsum.ptr < nbw then
    length - (nbw - movsum.ptr)
  else
    movsum.ptr - nbw

/-- Index of a value ahead of the pointer. -/
def getBackIdx
    (movsum : Movsum Value length)
    (nForward : Nat) :
    Nat :=
  (movsum.ptr + 1 + nForward) % length

section Sums

variable [AddCommGroup Value]

/-- A moving sum over zeros. -/
def reset (positive : 0 < length) : Movsum Value length where
  shiftreg := fun _ => 0
  ptr := 0
  sum := 0
  inside := positive

def popPush
    (movsum : Movsum Value length)
    (val : Value) :
    Movsum Value length where
  shiftreg := Function.update movsum.shiftreg movsum.ptr val
  ptr := (movsum.ptr + 1) % length
  sum := movsum.sum - movsum.shiftreg movsum.ptr + val
  inside := Nat.mod_lt _ (Nat.zero_lt_of_lt movsum.inside)

def getSum (movsum : Movsum Value length) : Value :=
  movsum.sum

def getSumFront
    (movsum : Movsum Value length)
    (n : Nat) :
    Value :=
  ((List.range n).map fun i =>
    movsum.shiftreg (movsum.getFrontIdx i)).sum

def getSumBack
    (movsum : Movsum Value length)
    (n : Nat) :
    Value :=
  ((List.range n).map fun i =>
    movsum.shiftreg (movsum.getBackIdx i)).sum

/-- Add the values of the register anew. -/
def resum (movsum : Movsum Value length) : Movsum Value length :=
  { movsum with
    sum := ((List.range length).map movsum.shiftreg).sum }

/-- Push value after value. -/
def pushAll
    (movsum : Movsum Value length)
    (values : List Value) :
    Movsum Value length :=
  values.foldl popPush movsum

end Sums

/-- All values in the register, the oldest first. -/
def window (movsum : Movsum Value length) : List Value :=
  RingBuffer.contents length movsum.ptr length movsum.shiftreg

/-- A value of the window, counted cyclically from the oldest. -/
def entry (movsum : Movsum Value length) (index : Nat) : Value :=
  movsum.shiftreg ((movsum.ptr + index) % length)

theorem window_eq (movsum : Movsum Value length) :
    movsum.window = (List.range length).map movsum.entry :=
  rfl

theorem length_window (movsum : Movsum Value length) :
    movsum.window.length = length := by
  rw [window_eq, List.length_map, List.length_range]

theorem getElem?_window
    (movsum : Movsum Value length)
    {index : Nat}
    (inside : index < length) :
    movsum.window[index]? = some (movsum.entry index) := by
  rw [window_eq, List.getElem?_map, List.getElem?_range inside]
  rfl

/-- The window is cyclic. -/
theorem entry_mod
    (movsum : Movsum Value length)
    (index : Nat) :
    movsum.entry (index % length) = movsum.entry index := by
  unfold entry
  rw [Nat.add_mod_mod]

/-- The index behind the pointer stays inside of the register. -/
theorem getFrontIdx_eq
    (movsum : Movsum Value length)
    {nBackward : Nat}
    (inside : nBackward < length) :
    movsum.getFrontIdx nBackward =
      (movsum.ptr + (length - nBackward)) % length := by
  have pointer := movsum.inside
  unfold getFrontIdx
  rw [Nat.mod_eq_of_lt inside]
  dsimp only
  by_cases wraps : movsum.ptr < nBackward
  · rw [if_pos wraps, Nat.mod_eq_of_lt (by omega)]
    omega
  · rw [if_neg wraps]
    have once : movsum.ptr + (length - nBackward) =
        movsum.ptr - nBackward + length := by
      omega
    rw [once, Nat.add_mod_right, Nat.mod_eq_of_lt (by omega)]

/-- A distance from the end of the window leads to a value of the window. -/
theorem getFrontIdx_back
    (movsum : Movsum Value length)
    {back : Nat}
    (inside : back < length) :
    movsum.getFrontIdx (length - back) = (movsum.ptr + back) % length := by
  by_cases isOldest : back = 0
  · subst isOldest
    unfold getFrontIdx
    rw [Nat.sub_zero, Nat.mod_self, Nat.add_zero,
      Nat.mod_eq_of_lt movsum.inside]
    rfl
  · rw [movsum.getFrontIdx_eq (by omega)]
    congr 2
    omega

section Sums

variable [AddCommGroup Value]

/-- The oldest value makes room for the new one. -/
theorem window_popPush
    (movsum : Movsum Value length)
    (val : Value) :
    movsum.window = movsum.entry 0 :: movsum.window.tail ∧
      (movsum.popPush val).window = movsum.window.tail ++ [val] := by
  have pointer := movsum.inside
  obtain ⟨others, rfl⟩ : ∃ others, length = others + 1 :=
    ⟨length - 1, by omega⟩
  have oldest :=
    RingBuffer.contents_read (others + 1) movsum.ptr others movsum.shiftreg
  have newest :=
    RingBuffer.contents_write
      (Nat.mod_lt (movsum.ptr + 1) (Nat.succ_pos others))
      (Nat.lt_succ_self others) movsum.shiftreg val
  have slot : ((movsum.ptr + 1) % (others + 1) + others) % (others + 1) =
      movsum.ptr := by
    rw [Nat.mod_add_mod, Nat.add_right_comm, Nat.add_assoc, Nat.add_mod_right]
    exact Nat.mod_eq_of_lt pointer
  rw [slot] at newest
  constructor
  · unfold window
    rw [oldest]
    rfl
  · unfold window popPush
    rw [oldest, List.tail_cons]
    exact newest

variable {movsum : Movsum Value length}

/-- The sum is the sum of the window. -/
theorem sum_popPush
    (isSum : movsum.sum = movsum.window.sum)
    (val : Value) :
    (movsum.popPush val).sum = (movsum.popPush val).window.sum := by
  obtain ⟨oldest, newest⟩ := movsum.window_popPush val
  have isOldest : movsum.shiftreg movsum.ptr = movsum.entry 0 := by
    unfold entry
    rw [Nat.add_zero, Nat.mod_eq_of_lt movsum.inside]
  rw [newest, List.sum_append, List.sum_singleton]
  show movsum.sum - movsum.shiftreg movsum.ptr + val = _
  rw [isSum, isOldest, oldest, List.sum_cons, List.tail_cons]
  abel

/-- A consistent object is not changed when its values are added anew. -/
theorem resum_eq (isSum : movsum.sum = movsum.window.sum) :
    movsum.resum = movsum := by
  have rotated : movsum.window =
      ((List.range length).map movsum.shiftreg).rotate movsum.ptr := by
    apply List.ext_getElem
    · rw [List.length_rotate, List.length_map, List.length_range,
        movsum.length_window]
    · intro index first second
      rw [List.getElem_rotate, List.getElem_map, List.getElem_range,
        List.length_map, List.length_range]
      have bound : index < length := by
        rw [movsum.length_window] at first
        exact first
      have isEntry := movsum.getElem?_window bound
      rw [List.getElem?_eq_getElem first] at isEntry
      rw [Option.some.inj isEntry, Nat.add_comm]
      rfl
  have same : ((List.range length).map movsum.shiftreg).sum = movsum.sum := by
    rw [isSum, rotated]
    exact (List.rotate_perm _ _).sum_eq.symm
  unfold resum
  rw [same]

/-- A register of zeros has a window of zeros. -/
theorem window_reset (positive : 0 < length) :
    (reset positive : Movsum Value length).window =
      List.replicate length 0 := by
  rw [window_eq]
  exact List.eq_replicate_iff.mpr
    ⟨by rw [List.length_map, List.length_range], by
      intro value member
      obtain ⟨index, -, rfl⟩ := List.mem_map.mp member
      rfl⟩

/-- The window shows the last values of all that were pushed. -/
theorem pushAll_spec
    (positive : 0 < length)
    (values : List Value) :
    ((reset positive).pushAll values).window =
        (List.replicate length 0 ++ values).drop values.length ∧
      ((reset positive).pushAll values).sum =
        ((reset positive).pushAll values).window.sum := by
  induction values using List.reverseRecOn with
  | nil =>
      refine ⟨?_, ?_⟩
      · rw [List.append_nil, List.length_nil, List.drop_zero]
        exact window_reset positive
      · show (0 : Value) = (reset positive).window.sum
        rw [window_reset positive, List.sum_replicate, nsmul_zero]
  | append_singleton values val hypothesis =>
      obtain ⟨shows, isSum⟩ := hypothesis
      have pushed : (reset positive).pushAll (values ++ [val]) =
          ((reset positive).pushAll values).popPush val := by
        unfold pushAll
        rw [List.foldl_append]
        rfl
      rw [pushed]
      refine ⟨?_, sum_popPush isSum val⟩
      have room : values.length + 1 ≤
          (List.replicate length (0 : Value) ++ values).length := by
        rw [List.length_append, List.length_replicate]
        omega
      rw [(window_popPush _ val).2, shows, List.tail_drop,
        List.length_append, List.length_singleton, ← List.append_assoc]
      exact (List.drop_append_of_le_length room).symm

theorem window_pushAll
    (positive : 0 < length)
    {values : List Value}
    (enough : length ≤ values.length) :
    ((reset positive).pushAll values).window =
      values.drop (values.length - length) := by
  rw [(pushAll_spec positive values).1, List.drop_append,
    List.length_replicate, List.drop_eq_nil_of_le, List.nil_append]
  rw [List.length_replicate]
  exact enough

theorem getSumFront_add
    (movsum : Movsum Value length)
    {n : Nat}
    (inside : n ≤ length) :
    movsum.getSumFront n + movsum.entry (length - n) =
      (movsum.window.drop (length - n)).sum + movsum.entry 0 := by
  induction n with
  | zero =>
      have nothing : movsum.window.drop (length - 0) = [] :=
        List.drop_eq_nil_of_le (movsum.length_window).le
      have cyclic : movsum.entry length = movsum.entry 0 := by
        rw [← movsum.entry_mod length, Nat.mod_self]
      rw [nothing, Nat.sub_zero, cyclic]
      rfl
  | succ n hypothesis =>
      have shorter := hypothesis (Nat.le_of_succ_le inside)
      have index : movsum.shiftreg (movsum.getFrontIdx n) =
          movsum.entry (length - n) := by
        rw [movsum.getFrontIdx_eq inside]
        rfl
      have oneMore : movsum.window.drop (length - (n + 1)) =
          movsum.entry (length - (n + 1)) ::
            movsum.window.drop (length - n) := by
        have position : length - (n + 1) < movsum.window.length := by
          rw [movsum.length_window]
          omega
        have next : length - (n + 1) + 1 = length - n := by omega
        have isEntry :=
          movsum.getElem?_window (show length - (n + 1) < length by omega)
        rw [List.getElem?_eq_getElem position] at isEntry
        rw [List.drop_eq_getElem_cons position, next, Option.some.inj isEntry]
      have further : movsum.getSumFront (n + 1) =
          movsum.getSumFront n + movsum.entry (length - n) := by
        unfold getSumFront
        rw [List.sum_range_succ, index]
      rw [further, shorter, oneMore, List.sum_cons]
      abel

theorem getSumBack_add
    (movsum : Movsum Value length)
    {n : Nat}
    (inside : n ≤ length) :
    movsum.getSumBack n + movsum.entry 0 =
      (movsum.window.take n).sum + movsum.entry n := by
  have taken : movsum.window.take n = (List.range n).map movsum.entry := by
    rw [window_eq, ← List.map_take, List.take_range, Nat.min_eq_left inside]
  rw [taken]
  clear taken inside
  unfold getSumBack
  induction n with
  | zero => rfl
  | succ n hypothesis =>
      have index :
          movsum.shiftreg (movsum.getBackIdx n) = movsum.entry (n + 1) := by
        unfold entry getBackIdx
        rw [Nat.add_assoc, Nat.add_comm 1 n]
      rw [List.sum_range_succ, List.sum_range_succ, index]
      calc
        _ = ((List.range n).map fun i =>
            movsum.shiftreg (movsum.getBackIdx i)).sum +
              movsum.entry 0 + movsum.entry (n + 1) := by
          abel
        _ = _ := by rw [hypothesis]

/--
The sum is that of the last values.  The partial sums are those of the newest
and of the oldest values exactly if the oldest value is the same as the one at
the end of the front, and as the one behind the end of the back.
-/
theorem partialSums_iff
    (positive : 0 < length)
    {values : List Value}
    (enough : length ≤ values.length)
    {n : Nat}
    (inside : n ≤ length) :
    let movsum : Movsum Value length := (reset positive).pushAll values
    let last := values.drop (values.length - length)
    (movsum.getSum = last.sum ∧
        movsum.getSumFront n = (last.drop (length - n)).sum ∧
        movsum.getSumBack n = (last.take n).sum) ↔
      n = 0 ∨
        (last[length - n]? = last[0]? ∧ last[n % length]? = last[0]?) := by
  intro movsum last
  have isLast : movsum.window = last := window_pushAll positive enough
  have isSum : movsum.getSum = last.sum := by
    rw [← isLast]
    exact (pushAll_spec positive values).2
  have front := movsum.getSumFront_add inside
  have back := movsum.getSumBack_add inside
  rw [isLast] at front back
  by_cases nothing : n = 0
  · subst nothing
    refine iff_of_true ⟨isSum, ?_, ?_⟩ (Or.inl rfl)
    · have isEmpty : last.drop (length - 0) = [] := by
        rw [← isLast]
        exact List.drop_eq_nil_of_le (movsum.length_window).le
      rw [isEmpty]
      rfl
    · rfl
  · have atEnd : last[length - n]? = some (movsum.entry (length - n)) := by
      rw [← isLast]
      exact movsum.getElem?_window (by omega)
    have atStart : last[0]? = some (movsum.entry 0) := by
      rw [← isLast]
      exact movsum.getElem?_window positive
    have behind : last[n % length]? = some (movsum.entry n) := by
      rw [← isLast, movsum.getElem?_window (Nat.mod_lt n positive),
        movsum.entry_mod]
    rw [atEnd, atStart, behind, Option.some.injEq, Option.some.injEq,
      or_iff_right nothing]
    constructor
    · rintro ⟨-, isFront, isBack⟩
      rw [isFront] at front
      rw [isBack] at back
      exact ⟨add_left_cancel front, (add_left_cancel back).symm⟩
    · rintro ⟨sameFront, sameBack⟩
      rw [sameFront] at front
      rw [sameBack] at back
      exact ⟨isSum, add_right_cancel front, add_right_cancel back⟩

/-- The front sum of a single value is the oldest value. -/
theorem not_partialSums_ascending :
    ¬ ∀ (length : Nat) (positive : 0 < length) (values : List Int),
        length ≤ values.length → ∀ n ≤ length,
          let movsum := (reset positive).pushAll values
          let last := values.drop (values.length - length)
          movsum.getSum = last.sum ∧
            movsum.getSumFront n = (last.drop (length - n)).sum ∧
            movsum.getSumBack n = (last.take n).sum := by
  intro always
  have front := (always 3 (by decide) [1, 2, 3] (by decide) 1
    (by decide)).2.1
  exact absurd front (by decide)

/-- The partial sums over the whole window are the sum of the window. -/
theorem partialSums_wholeWindow :
    let movsum : Movsum Int 3 := (reset (by decide)).pushAll [1, 2, 3, 4]
    movsum.getSum = 9 ∧ movsum.getSumFront 3 = 9 ∧
      movsum.getSumBack 3 = 9 :=
  (@partialSums_iff Int 3 _ (by decide) [1, 2, 3, 4] (by decide) 3
    (by decide)).mpr (Or.inr ⟨rfl, rfl⟩)

end Sums

end Movsum

end DectNrp
