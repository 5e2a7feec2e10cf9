import Mathlib.Data.List.Basic
import Mathlib.Logic.Function.Basic
import Mathlib.Logic.Relation

namespace TicketOrder

/-!
# Tickets that are served in order

Tickets are issued with consecutive numbers, taken by agents in this order, and
served in this order.  An agent has at most one ticket at a time.

Whoever has a ticket is told by the history of the takers alone.  From this
follows that every ticket is taken by one agent, that the tickets that are
still out form an interval, and that an agent who waits for its turn waits for
another agent.
-/

variable {Agent : Type}

/-- Tickets issued so far, who took them, and how many of them were served. -/
structure Tickets (Agent : Type) where
  issued : Nat
  /-- Agents in the order of the tickets that they took. -/
  takers : List Agent
  served : Nat
  /-- Ticket that an agent took and that was not served yet. -/
  holding : Agent → Option Nat

/-- One ticket is issued, taken or served. -/
inductive Step
    [DecidableEq Agent] :
    Tickets Agent → Tickets Agent → Prop where
  | issue
      (tickets : Tickets Agent) :
      Step tickets { tickets with issued := tickets.issued + 1 }
  | take
      (tickets : Tickets Agent)
      (agent : Agent)
      (empty : tickets.holding agent = none)
      (available : tickets.takers.length < tickets.issued) :
      Step tickets { tickets with
        takers := tickets.takers ++ [agent]
        holding :=
          Function.update tickets.holding agent
            (some tickets.takers.length) }
  | serve
      (tickets : Tickets Agent)
      (agent : Agent)
      (turn : tickets.holding agent = some tickets.served) :
      Step tickets { tickets with
        served := tickets.served + 1
        holding := Function.update tickets.holding agent none }

/-- The history of the takers tells who has which ticket. -/
structure Invariant (tickets : Tickets Agent) : Prop where
  served_le : tickets.served ≤ tickets.takers.length
  taken_le : tickets.takers.length ≤ tickets.issued
  holding_iff :
    ∀ agent number,
      tickets.holding agent = some number ↔
        tickets.served ≤ number ∧
          tickets.takers[number]? = some agent

variable {tickets : Tickets Agent}

variable {number : Nat}

/-- A ticket that an agent has was taken. -/
theorem Invariant.lt_of_holding
    (invariant : Invariant tickets)
    {agent : Agent}
    (holds : tickets.holding agent = some number) :
    number < tickets.takers.length := by
  obtain ⟨_, taken⟩ := (invariant.holding_iff agent number).mp holds
  exact (List.getElem?_eq_some_iff.mp taken).1

/-- A ticket belongs to one agent only. -/
theorem Invariant.holder_unique
    (invariant : Invariant tickets)
    {first second : Agent}
    (firstHolds : tickets.holding first = some number)
    (secondHolds : tickets.holding second = some number) :
    first = second := by
  have firstTook := ((invariant.holding_iff _ _).mp firstHolds).2
  have secondTook := ((invariant.holding_iff _ _).mp secondHolds).2
  exact Option.some.inj (firstTook.symm.trans secondTook)

/-- A ticket that was taken and not served belongs to an agent. -/
theorem Invariant.exists_holder
    (invariant : Invariant tickets)
    (notServed : tickets.served ≤ number)
    (taken : number < tickets.takers.length) :
    ∃ agent, tickets.holding agent = some number := by
  refine ⟨tickets.takers[number], ?_⟩
  exact (invariant.holding_iff _ _).mpr
    ⟨notServed, List.getElem?_eq_getElem taken⟩

/-- Tickets that are out are those that were issued and not served. -/
theorem Invariant.outstanding_iff
    (invariant : Invariant tickets)
    (number : Nat) :
    ((∃ agent, tickets.holding agent = some number) ∨
        (tickets.takers.length ≤ number ∧ number < tickets.issued)) ↔
      tickets.served ≤ number ∧ number < tickets.issued := by
  constructor
  · rintro (⟨agent, holds⟩ | ⟨notTaken, issued⟩)
    · have notServed := ((invariant.holding_iff _ _).mp holds).1
      have taken := invariant.lt_of_holding holds
      exact ⟨notServed, Nat.lt_of_lt_of_le taken invariant.taken_le⟩
    · exact ⟨Nat.le_trans invariant.served_le notTaken, issued⟩
  · rintro ⟨notServed, issued⟩
    by_cases taken : number < tickets.takers.length
    · exact Or.inl (invariant.exists_holder notServed taken)
    · exact Or.inr ⟨Nat.le_of_not_lt taken, issued⟩

/-- An agent who waits for its turn waits for another agent. -/
theorem Invariant.predecessor
    (invariant : Invariant tickets)
    {agent : Agent}
    (holds : tickets.holding agent = some number)
    (waits : number ≠ tickets.served) :
    ∃ other, other ≠ agent ∧ tickets.holding other = some (number - 1) := by
  have notServed := ((invariant.holding_iff _ _).mp holds).1
  have taken := invariant.lt_of_holding holds
  obtain ⟨other, otherHolds⟩ :=
    invariant.exists_holder (show tickets.served ≤ number - 1 by omega)
      (show number - 1 < tickets.takers.length by omega)
  refine ⟨other, ?_, otherHolds⟩
  rintro rfl
  have same := Option.some.inj (holds.symm.trans otherHolds)
  omega

/-- No ticket was issued yet. -/
theorem Invariant.initial
    (noTakers : tickets.takers = [])
    (noneServed : tickets.served = 0)
    (noneHeld : ∀ agent, tickets.holding agent = none) :
    Invariant tickets := by
  refine ⟨?_, ?_, fun agent number => ?_⟩
  · rw [noneServed]
    exact Nat.zero_le _
  · rw [noTakers]
    exact Nat.zero_le _
  · rw [noneHeld, noTakers]
    simp

section

variable [DecidableEq Agent]

/-- Every step keeps the invariant. -/
theorem Invariant.step
    {before after : Tickets Agent}
    (invariant : Invariant before)
    (step : Step before after) :
    Invariant after := by
  cases step with
  | issue =>
      exact {
        served_le := invariant.served_le
        taken_le := Nat.le_succ_of_le invariant.taken_le
        holding_iff := invariant.holding_iff
      }
  | take agent empty available =>
      refine ⟨?_, ?_, fun other number => ?_⟩
      · simpa using Nat.le_succ_of_le invariant.served_le
      · rw [List.length_append]
        exact available
      · by_cases same : other = agent
        · -- the agent had no ticket, so its last ticket is the new one
          subst same
          have noEarlier := invariant.holding_iff other number
          rw [empty] at noEarlier
          simp only [Function.update_self]
          by_cases earlier : number < before.takers.length
          · rw [List.getElem?_append_left earlier, ← noEarlier]
            simp only [reduceCtorEq, iff_false, Option.some.injEq]
            omega
          · by_cases newest : number = before.takers.length
            · subst newest
              simp [invariant.served_le]
            · have beyond :
                  (before.takers ++ [other]).length ≤ number := by
                rw [List.length_append, List.length_singleton]
                omega
              rw [List.getElem?_eq_none beyond]
              simp only [Option.some.injEq, reduceCtorEq, and_false, iff_false]
              omega
        · simp only [Function.update_of_ne same]
          rw [invariant.holding_iff other number]
          by_cases earlier : number < before.takers.length
          · rw [List.getElem?_append_left earlier]
          · have notTaken := List.getElem?_eq_none (Nat.le_of_not_lt earlier)
            rw [notTaken,
              List.getElem?_append_right (Nat.le_of_not_lt earlier)]
            cases number - before.takers.length with
            | zero => simp [Ne.symm same]
            | succ later => simp
  | serve agent turn =>
      have taken := invariant.lt_of_holding turn
      refine ⟨taken, invariant.taken_le, fun other number => ?_⟩
      by_cases same : other = agent
      · subst same
        simp only [Function.update_self, reduceCtorEq, false_iff]
        rintro ⟨later, took⟩
        -- an agent has one ticket only, and it was just served
        have holds := (invariant.holding_iff other number).mpr ⟨by omega, took⟩
        have number_eq := Option.some.inj (turn.symm.trans holds)
        omega
      · simp only [Function.update_of_ne same]
        rw [invariant.holding_iff other number]
        refine and_congr_left fun took => ?_
        constructor
        · intro notServed
          by_contra served
          have isServed : number = before.served := by omega
          have turnTook := ((invariant.holding_iff _ _).mp turn).2
          rw [isServed] at took
          exact same (Option.some.inj (took.symm.trans turnTook))
        · intro notServed
          omega

end

end TicketOrder
