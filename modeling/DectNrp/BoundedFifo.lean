import Mathlib.Data.List.Range

namespace BoundedFifo

/-!
# Bounded queues

A bounded queue is the list of its items, the oldest first.  A queue without
room refuses an item and stays as it is.

Items may be numbered when they are accepted.  The numbers in the queue are
then consecutive and end in front of the next one.
-/

variable {Item : Type}

/-- Append an item if there is room. -/
def push
    (capacity : Nat)
    (contents : List Item)
    (item : Item) :
    List Item :=
  if contents.length < capacity then contents ++ [item] else contents

section

variable {capacity : Nat}
variable {contents : List Item}

theorem push_of_room
    (room : contents.length < capacity)
    (item : Item) :
    push capacity contents item = contents ++ [item] :=
  if_pos room

theorem push_of_full
    (full : contents.length = capacity)
    (item : Item) :
    push capacity contents item = contents :=
  if_neg (Nat.not_lt.mpr (Nat.le_of_eq full.symm))

/-- An accepted item changes the queue. -/
theorem push_ne
    (room : contents.length < capacity)
    (item : Item) :
    push capacity contents item ≠ contents := by
  rw [push_of_room room]
  intro same
  have lengths := congrArg List.length same
  rw [List.length_append, List.length_singleton] at lengths
  omega

end

/-- The tickets follow each other, and the next one is behind them. -/
structure Consecutive
    (tickets : List Nat)
    (next : Nat) :
    Prop where
  few : tickets.length ≤ next
  follow :
    tickets = List.range' (next - tickets.length) tickets.length

section

variable {tickets : List Nat}
variable {ticket next : Nat}

theorem consecutive_nil (next : Nat) :
    Consecutive [] next :=
  ⟨Nat.zero_le next, rfl⟩

/-- The next ticket is issued. -/
theorem Consecutive.issue (consecutive : Consecutive tickets next) :
    Consecutive (tickets ++ [next]) (next + 1) := by
  have few := consecutive.few
  have isLength : (tickets ++ [next]).length = tickets.length + 1 := by
    rw [List.length_append, List.length_singleton]
  refine ⟨by omega, ?_⟩
  have isFirst : next + 1 - (tickets.length + 1) = next - tickets.length := by
    omega
  have isLast : next - tickets.length + 1 * tickets.length = next := by omega
  rw [isLength, isFirst, List.range'_concat, isLast, ← consecutive.follow]

/-- The oldest ticket is taken. -/
theorem Consecutive.take (consecutive : Consecutive (ticket :: tickets) next) :
    Consecutive tickets next := by
  have few := consecutive.few
  have follow := consecutive.follow
  rw [List.length_cons] at few follow
  refine ⟨by omega, ?_⟩
  rw [List.range'_succ, List.cons.injEq] at follow
  have isFirst : next - (tickets.length + 1) + 1 = next - tickets.length := by
    omega
  rw [isFirst] at follow
  exact follow.2

end

end BoundedFifo
