import Mathlib.Logic.Function.Basic

namespace Mutex

/-!
# Mutual exclusion

A mutex remembers the party that locked it.  Parties know from their own
program counter whether they hold the mutex.  Both agree if a party locks only
a free mutex and unlocks only a mutex that it holds.
-/

variable {Party : Type}

/-- A party holds the mutex according to its program counter if it owns it. -/
def Agrees (holds : Party → Bool) (owner : Option Party) : Prop :=
  ∀ party, holds party = true ↔ owner = some party

/-- What a step of a party does to a mutex. -/
inductive Change
    (party : Party) :
    (heldBefore : Bool) → Option Party →
      (heldAfter : Bool) → Option Party → Prop where
  | keep
      (held : Bool)
      (owner : Option Party) :
      Change party held owner held owner
  | lock : Change party false none true (some party)
  | unlock
      (owner : Option Party) :
      Change party true owner false none

/-- At most one party holds the mutex. -/
theorem Agrees.exclusive
    {holds : Party → Bool}
    {owner : Option Party}
    (agrees : Agrees holds owner)
    {first second : Party}
    (firstHolds : holds first = true)
    (secondHolds : holds second = true) :
    first = second :=
  Option.some.inj (((agrees first).mp firstHolds).symm.trans
      ((agrees second).mp secondHolds))

variable {holds : Party → Bool}

/-- Nobody holds a free mutex. -/
theorem Agrees.free
    (agrees : Agrees holds none)
    (party : Party) :
    holds party = false := by
  by_contra held
  rw [Bool.not_eq_false] at held
  cases (agrees party).mp held

/-- A step of a party keeps owner and program counters in agreement. -/
theorem Agrees.change
    [DecidableEq Party]
    {ownerBefore ownerAfter : Option Party}
    (agrees : Agrees holds ownerBefore)
    {party : Party}
    {held : Bool}
    (change : Change party (holds party) ownerBefore held ownerAfter) :
    Agrees (Function.update holds party held) ownerAfter := by
  intro other
  generalize before : holds party = heldBefore at change
  by_cases same : other = party
  · subst same
    rw [Function.update_self]
    cases change with
    | keep =>
        rw [← before]
        exact agrees other
    | lock => simp
    | unlock => simp
  · rw [Function.update_of_ne same]
    cases change with
    | keep => exact agrees other
    | lock =>
        rw [agrees.free other]
        simp [Ne.symm same]
    | unlock =>
        have notHeld : holds other ≠ true := fun held =>
          same (agrees.exclusive held before)
        simp [notHeld]

end Mutex
