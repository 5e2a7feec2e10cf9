import Mathlib.Data.List.Basic
import Mathlib.Logic.Function.Basic

namespace LockstepBarrier

/-!
# Two phases in lockstep

A fixed number of participants go through rounds of two phases.  Each of them
acts once in the first phase, and once in the second phase when all have acted
in the first one.  Whoever is the last one in a phase opens the other phase for
everyone.

The flags are what the participants see.  The counters say how often they have
acted in each phase since the beginning.
-/

/-- Flags and counters of the participants. -/
structure Board where
  firstDone : Nat → Bool
  secondDone : Nat → Bool
  firstCnt : Nat → Nat
  secondCnt : Nat → Nat

namespace Board

variable (participants : Nat)

/-- All participants have set their flag. -/
def allDone (done : Nat → Bool) : Bool :=
  (List.range participants).all done

/-- The last one in the first phase opens the second phase. -/
def actFirst
    (board : Board)
    (id : Nat) :
    Board :=
  let firstDone := Function.update board.firstDone id true
  { board with
    firstDone := firstDone
    firstCnt := Function.update board.firstCnt id (board.firstCnt id + 1)
    secondDone :=
      if allDone participants firstDone then
        fun _ => false
      else
        board.secondDone }

/-- The last one in the second phase opens the next round. -/
def actSecond
    (board : Board)
    (id : Nat) :
    Board :=
  let secondDone := Function.update board.secondDone id true
  { board with
    secondDone := secondDone
    secondCnt := Function.update board.secondCnt id (board.secondCnt id + 1)
    firstDone :=
      if allDone participants secondDone then
        fun _ => false
      else
        board.firstDone }

/-- The beginning of the first round. -/
def start : Board where
  firstDone _ := false
  secondDone _ := true
  firstCnt _ := 0
  secondCnt _ := 0

/-- Somebody has to act in the first phase, and nobody can in the second. -/
structure InFirst (board : Board) (round : Nat) : Prop where
  missing : ∃ id < participants, board.firstDone id = false
  secondDone : ∀ id < participants, board.secondDone id = true
  secondCnt : ∀ id < participants, board.secondCnt id = round

/-- Everyone has acted in the first phase, but not in the second. -/
structure InSecond (board : Board) (round : Nat) : Prop where
  firstDone : ∀ id < participants, board.firstDone id = true
  missing : ∃ id < participants, board.secondDone id = false
  secondCnt :
    ∀ id < participants,
      board.secondCnt id = round + (board.secondDone id).toNat

/-- The number of complete rounds explains all flags and counters. -/
structure Invariant (board : Board) (round : Nat) : Prop where
  firstCnt :
    ∀ id < participants,
      board.firstCnt id = round + (board.firstDone id).toNat
  phase :
    board.InFirst participants round ∨ board.InSecond participants round

end Board

variable {participants : Nat}
variable {board : Board}
variable {round id : Nat}

/-- What it means that all flags are set. -/
theorem allDone_eq_true
    {done : Nat → Bool} :
    Board.allDone participants done = true ↔
      ∀ id < participants, done id = true := by
  simp [Board.allDone]

/-- Some flag is missing otherwise. -/
theorem allDone_eq_false
    {done : Nat → Bool} :
    Board.allDone participants done = false ↔
      ∃ id < participants, done id = false := by
  simp [Board.allDone]

/-- The first round begins with its first phase. -/
theorem Board.start_invariant (positive : 0 < participants) :
    Board.start.Invariant participants 0 where
  firstCnt _ _ := rfl
  phase := Or.inl ⟨⟨0, positive, rfl⟩, fun _ _ => rfl, fun _ _ => rfl⟩

namespace Board.Invariant

/-- Nobody acts in the second phase before all have acted in the first. -/
theorem inFirst
    (invariant : board.Invariant participants round)
    (bound : id < participants)
    (pending : board.firstDone id = false) :
    board.InFirst participants round := by
  rcases invariant.phase with inFirst | inSecond
  · exact inFirst
  · have done := inSecond.firstDone id bound
    rw [pending] at done
    cases done

/-- Nobody acts in the first phase before all have acted in the second. -/
theorem inSecond
    (invariant : board.Invariant participants round)
    (bound : id < participants)
    (pending : board.secondDone id = false) :
    board.InSecond participants round := by
  rcases invariant.phase with inFirst | inSecond
  · have done := inFirst.secondDone id bound
    rw [pending] at done
    cases done
  · exact inSecond

/-- Before somebody acts first, everyone has completed the last round. -/
theorem secondCnt_eq
    (invariant : board.Invariant participants round)
    (bound : id < participants)
    (pending : board.firstDone id = false)
    {other : Nat}
    (otherBound : other < participants) :
    board.secondCnt other = board.firstCnt id := by
  rw [(invariant.inFirst bound pending).secondCnt other otherBound,
    invariant.firstCnt id bound, pending]
  rfl

/-- Before somebody acts second, everyone has acted first in this round. -/
theorem firstCnt_eq
    (invariant : board.Invariant participants round)
    (bound : id < participants)
    (pending : board.secondDone id = false)
    {other : Nat}
    (otherBound : other < participants) :
    board.firstCnt other = board.secondCnt id + 1 := by
  have inSecond := invariant.inSecond bound pending
  rw [invariant.firstCnt other otherBound,
    inSecond.firstDone other otherBound, inSecond.secondCnt id bound, pending]
  rfl

/-- The round of somebody who can act is the current one. -/
theorem round_of_first
    (invariant : board.Invariant participants round)
    (bound : id < participants)
    (pending : board.firstDone id = false) :
    board.firstCnt id = round := by
  rw [invariant.firstCnt id bound, pending]
  rfl

/-- The round of somebody who can act is the current one. -/
theorem round_of_second
    (invariant : board.Invariant participants round)
    (bound : id < participants)
    (pending : board.secondDone id = false) :
    board.secondCnt id = round := by
  rw [(invariant.inSecond bound pending).secondCnt id bound, pending]
  rfl

/-- Somebody can always act. -/
theorem canAct (invariant : board.Invariant participants round) :
    ∃ id < participants,
      board.firstDone id = false ∨ board.secondDone id = false := by
  rcases invariant.phase with inFirst | inSecond
  · obtain ⟨id, bound, missing⟩ := inFirst.missing
    exact ⟨id, bound, Or.inl missing⟩
  · obtain ⟨id, bound, missing⟩ := inSecond.missing
    exact ⟨id, bound, Or.inr missing⟩

/-- Everyone has completed the rounds, and somebody no more than these. -/
theorem round_least
    (positive : 0 < participants)
    (invariant : board.Invariant participants round) :
    (∀ id < participants, round ≤ board.secondCnt id) ∧
      ∃ id < participants, board.secondCnt id = round := by
  rcases invariant.phase with inFirst | inSecond
  · constructor
    · intro id bound
      exact Nat.le_of_eq (inFirst.secondCnt id bound).symm
    · exact ⟨0, positive, inFirst.secondCnt 0 positive⟩
  · constructor
    · intro id bound
      rw [inSecond.secondCnt id bound]
      exact Nat.le_add_right round _
    · obtain ⟨id, bound, missing⟩ := inSecond.missing
      exact ⟨id, bound, invariant.round_of_second bound missing⟩

/-- Nobody acts more often in the second phase than in the first. -/
theorem secondCnt_le
    (invariant : board.Invariant participants round)
    (bound : id < participants) :
    board.secondCnt id ≤ board.firstCnt id := by
  rw [invariant.firstCnt id bound]
  rcases invariant.phase with inFirst | inSecond
  · rw [inFirst.secondCnt id bound]
    exact Nat.le_add_right round _
  · rw [inSecond.secondCnt id bound, inSecond.firstDone id bound]
    exact Nat.add_le_add_left (Bool.toNat_le _) round

/-- Acting first stays within the round. -/
theorem actFirst
    (invariant : board.Invariant participants round)
    (bound : id < participants)
    (pending : board.firstDone id = false) :
    (board.actFirst participants id).Invariant participants round := by
  have inFirst := invariant.inFirst bound pending
  constructor
  · intro other otherBound
    by_cases same : other = id
    · rw [same]
      simp [Board.actFirst, invariant.firstCnt id bound, pending]
    · simp [Board.actFirst, same, invariant.firstCnt other otherBound]
  · cases all :
      Board.allDone participants (Function.update board.firstDone id true) with
    | true =>
        right
        constructor
        · exact allDone_eq_true.mp all
        · exact ⟨id, bound, by simp [Board.actFirst, all]⟩
        · intro other otherBound
          simp [Board.actFirst, all, inFirst.secondCnt other otherBound]
    | false =>
        left
        constructor
        · exact allDone_eq_false.mp all
        · intro other otherBound
          simp [Board.actFirst, all, inFirst.secondDone other otherBound]
        · exact inFirst.secondCnt

/-- Acting second completes the round if nobody else is missing. -/
theorem actSecond
    (invariant : board.Invariant participants round)
    (bound : id < participants)
    (pending : board.secondDone id = false) :
    (board.actSecond participants id).Invariant participants
      (round +
        (Board.allDone participants
          (Function.update board.secondDone id true)).toNat) := by
  have inSecond := invariant.inSecond bound pending
  have counted : ∀ other < participants,
      (board.actSecond participants id).secondCnt other =
        round + (Function.update board.secondDone id true other).toNat := by
    intro other otherBound
    by_cases same : other = id
    · rw [same]
      simp [Board.actSecond, invariant.round_of_second bound pending]
    · simp [Board.actSecond, same, inSecond.secondCnt other otherBound]
  cases all : Board.allDone participants
      (Function.update board.secondDone id true) with
  | true =>
      constructor
      · intro other otherBound
        simp [Board.actSecond, all, invariant.firstCnt other otherBound,
          inSecond.firstDone other otherBound]
      · left
        constructor
        · exact ⟨id, bound, by simp [Board.actSecond, all]⟩
        · exact allDone_eq_true.mp all
        · intro other otherBound
          rw [counted other otherBound,
            allDone_eq_true.mp all other otherBound]
  | false =>
      constructor
      · intro other otherBound
        simp [Board.actSecond, all, invariant.firstCnt other otherBound]
      · right
        constructor
        · intro other otherBound
          simp [Board.actSecond, all, inSecond.firstDone other otherBound]
        · exact allDone_eq_false.mp all
        · exact counted

end Board.Invariant

end LockstepBarrier
