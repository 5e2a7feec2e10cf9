import Mathlib.Logic.Basic

namespace DectNrp

/-!
# Machines that are resumed while their input grows

A resumable machine works on an input of which a growing part is known.  Every
step demands a part of the input.  A call works up to the first step whose
demand is not yet met, pauses there, and the next call goes on.

Where a call pauses depends on how much input is known, but the steps do not:
the calls together make the steps that one call on the whole input makes.
-/

universe u v

/-- A machine, and calls that run it on a known part of its input. -/
structure ResumableMachine (State : Type u) (Outcome : Type v) where
  /-- A step that needs no more input than the state demands. -/
  Step : State → State → Prop
  /-- How much input has to be known to leave a state. -/
  demand : State → Nat
  /-- How much input a state has consumed. -/
  position : State → Nat
  /-- The size of the whole input. -/
  total : Nat
  /-- A call on the first `limit` parts of the input. -/
  call : (limit fuel : Nat) → State → Outcome
  /-- What a call returns if it waits in a state. -/
  paused : State → Outcome
  position_le_demand :
    ∀ {before after : State},
      Step before after → position after ≤ demand before
  demand_le_total :
    ∀ {before after : State},
      Step before after → demand before ≤ total
  call_step :
    ∀ {before after : State} {limit : Nat} (fuel : Nat),
      Step before after → demand before ≤ limit → limit ≤ total →
      call limit (fuel + 1) before = call limit fuel after
  call_wait :
    ∀ {before after : State} {limit : Nat} (fuel : Nat),
      Step before after → position before ≤ limit →
      limit < demand before →
      call limit (fuel + 1) before = paused before

namespace ResumableMachine

variable
    {State : Type u}
    {Outcome : Type v}
    (machine : ResumableMachine State Outcome)

/-- A number of consecutive steps. -/
inductive Trace : Nat → State → State → Prop where
  | refl (state : State) : Trace 0 state state
  | cons
      {before between after : State}
      {steps : Nat}
      (first : machine.Step before between)
      (rest : Trace steps between after) :
      Trace (steps + 1) before after

variable {machine}

variable {before after : State}

/-- One step is a trace. -/
theorem Trace.single (step : machine.Step before after) :
    machine.Trace 1 before after :=
  .cons step (.refl after)

/-- Traces are composed. -/
theorem Trace.trans
    {before between after : State}
    {first second : Nat}
    (leading : machine.Trace first before between)
    (trailing : machine.Trace second between after) :
    machine.Trace (first + second) before after := by
  induction leading with
  | refl state => simpa using trailing
  | cons step rest hypothesis =>
      have joined := hypothesis trailing
      rw [Nat.add_right_comm]
      exact .cons step joined

/-- A property that every step keeps is kept by a trace. -/
theorem Trace.preserves
    {property : State → Prop}
    (kept :
      ∀ {before after : State},
        machine.Step before after → property before → property after)
    {before after : State}
    {steps : Nat}
    (trace : machine.Trace steps before after)
    (holds : property before) :
    property after := by
  induction trace with
  | refl state => exact holds
  | cons step rest hypothesis => exact hypothesis (kept step holds)

/-- A call on the whole input makes every step of a trace. -/
theorem Trace.call_total
    {steps : Nat}
    (trace : machine.Trace steps before after)
    (fuel : Nat) :
    machine.call machine.total (fuel + steps) before =
      machine.call machine.total fuel after := by
  induction trace with
  | refl state => rfl
  | cons step rest hypothesis =>
      rw [← Nat.add_assoc,
        machine.call_step _ step (machine.demand_le_total step)
          (Nat.le_refl _),
        hypothesis]

/--
A call on a part of the input makes every step of a trace, or it pauses in a
state from which the trace goes on.
-/
theorem Trace.call_part
    {steps limit : Nat}
    (trace : machine.Trace steps before after)
    (reached : machine.position before ≤ limit)
    (known : limit ≤ machine.total)
    (fuel : Nat) :
    (machine.position after ≤ limit ∧
        machine.call limit (fuel + steps) before =
          machine.call limit fuel after) ∨
      ∃ between made remaining,
        machine.Trace made before between ∧
        machine.Trace remaining between after ∧
        made + remaining = steps ∧
        machine.position between ≤ limit ∧
        machine.call limit (fuel + steps) before = machine.paused between := by
  induction trace with
  | refl state => exact .inl ⟨reached, rfl⟩
  | @cons before between after steps step rest hypothesis =>
      rw [← Nat.add_assoc]
      by_cases met : machine.demand before ≤ limit
      · -- the step is made and the rest of the trace goes on
        have positionBetween : machine.position between ≤ limit :=
          Nat.le_trans (machine.position_le_demand step) met
        rw [machine.call_step _ step met known]
        rcases hypothesis positionBetween with
            passed | ⟨waiting, made, remaining, leading, trailing, split,
              position, call⟩
        · exact .inl passed
        · exact .inr
            ⟨waiting, made + 1, remaining, .cons step leading, trailing,
              by omega, position, call⟩
      · -- the call waits in front of the step
        exact .inr ⟨before, 0, steps + 1, .refl before, .cons step rest,
            Nat.zero_add _, reached,
            machine.call_wait _ step reached (Nat.lt_of_not_le met)⟩

end ResumableMachine

end DectNrp
