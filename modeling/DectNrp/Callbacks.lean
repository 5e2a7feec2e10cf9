import DectNrp.Allocation
import DectNrp.SlotArray

namespace DectNrp

/-!
# Periodic callbacks

Callbacks are registered in slots, each with the time of its next call and a
period.  The slot of the earliest next time is remembered.  A run calls what is
due and looks for the earliest slot after each call, so that it calls as many
callbacks as are due.
-/

open Checked (bind_eq_ok)

/-- What a callback returns, and what it leaves in its references. -/
structure CallbackResult (Environment Result : Type) where
  environment : Environment
  next64 : Int
  period64 : Int
  ret : Result

/-- Time, index, next time and period are passed to a callback. -/
abbrev Callback (Environment Result : Type) : Type :=
  Environment → (now64 : Int) → (idx : Nat) → (next64 period64 : Int) →
    CallbackResult Environment Result

structure CallbackEntry (Environment Result : Type) where
  cb : Option (Callback Environment Result)
  next64 : Int
  period64 : Int

/-- A slot without a callback. -/
def CallbackEntry.default
    {Environment Result : Type} :
    CallbackEntry Environment Result where
  cb := none
  next64 := int64Max
  period64 := 0

/-- The value of a number of 64 bits that is read as a signed one. -/
def toInt64 (value : Int) : Int :=
  value.bmod (2 ^ 64)

namespace CallbackEntry

variable {Environment Result : Type}

/-- The callback is taken away, its next time and its period stay. -/
def clear
    (entry : CallbackEntry Environment Result) :
    CallbackEntry Environment Result :=
  { entry with cb := none }

def setNext
    (next64 : UInt64)
    (entry : CallbackEntry Environment Result) :
    CallbackEntry Environment Result :=
  { entry with next64 := toInt64 next64.toNat }

def addNext
    (nextAdjustment64 : UInt64)
    (entry : CallbackEntry Environment Result) :
    CallbackEntry Environment Result :=
  { entry with
    next64 := toInt64 (entry.next64 + nextAdjustment64.toNat) }

def setPeriod
    (period64 : UInt64)
    (entry : CallbackEntry Environment Result) :
    CallbackEntry Environment Result :=
  { entry with period64 := toInt64 period64.toNat }

def addPeriod
    (periodAdjustment64 : UInt64)
    (entry : CallbackEntry Environment Result) :
    CallbackEntry Environment Result :=
  { entry with
    period64 := toInt64 (entry.period64 + periodAdjustment64.toNat) }

/-- A new period changes neither the callback nor its next time. -/
theorem setPeriod_same
    (period64 : UInt64)
    (entry : CallbackEntry Environment Result) :
    (entry.setPeriod period64).cb = entry.cb ∧
      (entry.setPeriod period64).next64 = entry.next64 := by
  unfold setPeriod
  exact ⟨rfl, rfl⟩

/-- Another period changes neither the callback nor its next time. -/
theorem addPeriod_same
    (periodAdjustment64 : UInt64)
    (entry : CallbackEntry Environment Result) :
    (entry.addPeriod periodAdjustment64).cb = entry.cb ∧
      (entry.addPeriod periodAdjustment64).next64 = entry.next64 := by
  unfold addPeriod
  exact ⟨rfl, rfl⟩

end CallbackEntry

structure Callbacks (Environment Result : Type) (maxCallbacks : Nat) where
  entries : Fin maxCallbacks → CallbackEntry Environment Result
  itNext : Option (Fin maxCallbacks)
  isInCallback : Bool

variable {Environment Result : Type}
variable {n : Nat}

namespace Callbacks

def new (n : Nat) : Callbacks Environment Result n where
  entries _ := .default
  itNext := none
  isInCallback := false

/-- Look for the earliest slot. -/
def setItNext
    (callbacks : Callbacks Environment Result n) :
    Callbacks Environment Result n :=
  { callbacks with
    itNext := SlotArray.smallest CallbackEntry.next64 callbacks.entries }

/-- Overwrite a slot. -/
def setEntry
    (callbacks : Callbacks Environment Result n)
    (idx : Fin n)
    (entry : CallbackEntry Environment Result) :
    Callbacks Environment Result n :=
  { callbacks with
    entries := Function.update callbacks.entries idx entry }

/-- Only the earliest slot is looked for. -/
theorem setItNext_entries (callbacks : Callbacks Environment Result n) :
    callbacks.setItNext.entries = callbacks.entries :=
  rfl

theorem setEntry_self
    (callbacks : Callbacks Environment Result n)
    (idx : Fin n)
    (entry : CallbackEntry Environment Result) :
    (callbacks.setEntry idx entry).entries idx = entry :=
  Function.update_self _ _ _

/-- The other slots are left alone. -/
theorem setEntry_other
    (callbacks : Callbacks Environment Result n)
    {idx other : Fin n}
    (entry : CallbackEntry Environment Result)
    (different : other ≠ idx) :
    (callbacks.setEntry idx entry).entries other = callbacks.entries other :=
  Function.update_of_ne different _ _

def addCallback
    (callbacks : Callbacks Environment Result n)
    (callback : Callback Environment Result)
    (next64 period64 : Int) :
    Checked (Option Nat × Callbacks Environment Result n) := do
  dectnrpAssert (!callbacks.isInCallback) "changing callback from callback"
  match SlotArray.firstFree (fun entry => entry.cb.isSome)
      callbacks.entries with
  | none => .ok (none, callbacks)
  | some idx =>
      .ok (some idx.val,
        (callbacks.setEntry idx
          ⟨some callback, next64, period64⟩).setItNext)

/-- Change the slot of an index. -/
def changeEntry
    (callbacks : Callbacks Environment Result n)
    (idx : Nat)
    (change :
      CallbackEntry Environment Result →
        CallbackEntry Environment Result) :
    Checked (Callbacks Environment Result n) := do
  dectnrpAssert (!callbacks.isInCallback) "changing callback from callback"
  if inside : idx < n then
    .ok (callbacks.setEntry ⟨idx, inside⟩
      (change (callbacks.entries ⟨idx, inside⟩)))
  else
    .error (.readBeyond idx)

def rmCallback
    (callbacks : Callbacks Environment Result n)
    (idx : Nat) :
    Checked (Callbacks Environment Result n) := do
  let callbacks ← callbacks.changeEntry idx .clear
  pure callbacks.setItNext

def updateNext
    (callbacks : Callbacks Environment Result n)
    (idx : Nat)
    (next64 : UInt64) :
    Checked (Callbacks Environment Result n) := do
  let callbacks ← callbacks.changeEntry idx (.setNext next64)
  pure callbacks.setItNext

def adjustNext
    (callbacks : Callbacks Environment Result n)
    (idx : Nat)
    (nextAdjustment64 : UInt64) :
    Checked (Callbacks Environment Result n) := do
  let callbacks ← callbacks.changeEntry idx (.addNext nextAdjustment64)
  pure callbacks.setItNext

def updatePeriod
    (callbacks : Callbacks Environment Result n)
    (idx : Nat)
    (period64 : UInt64) :
    Checked (Callbacks Environment Result n) :=
  callbacks.changeEntry idx (.setPeriod period64)

def adjustPeriod
    (callbacks : Callbacks Environment Result n)
    (idx : Nat)
    (periodAdjustment64 : UInt64) :
    Checked (Callbacks Environment Result n) :=
  callbacks.changeEntry idx (.addPeriod periodAdjustment64)

end Callbacks

/-- The state of a run, and the callbacks that it called so far. -/
structure CallbackRun (Environment Result : Type) (maxCallbacks : Nat) where
  callbacks : Callbacks Environment Result maxCallbacks
  environment : Environment
  ret : Option Result
  /-- Slots and the times at which they were due, in the order of the calls. -/
  called : List (Fin maxCallbacks × Int)

namespace CallbackRun

/-- The call of the callback of a slot that is due. -/
def callDue
    (now64 : Int)
    (run : CallbackRun Environment Result n)
    (itNext : Fin n) :
    Checked (CallbackRun Environment Result n) := do
  let entry := run.callbacks.entries itNext
  let afterPeriod64 ← int64 (entry.next64 + entry.period64)
  dectnrpAssert (now64 < afterPeriod64) "callback skipped"
  match entry.cb with
  | none => .error .badOptionalAccess
  | some cb => do
      let result :=
        cb run.environment now64 itNext.val entry.next64 entry.period64
      dectnrpAssert (0 < result.next64) "next must be positive"
      dectnrpAssert (0 < result.period64) "period must be positive"
      let next64 ← int64 (result.next64 + result.period64)
      dectnrpAssert (now64 < next64) "adjusted period before now_64"
      pure {
        callbacks :=
          (run.callbacks.setEntry itNext
            ⟨some cb, next64, result.period64⟩).setItNext
        environment := result.environment
        ret := some result.ret
        called := run.called ++ [(itNext, entry.next64)]
      }

/-- One pass of the loop; `none` if no callback is due. -/
def pass
    (now64 : Int)
    (run : CallbackRun Environment Result n) :
    Checked (Option (CallbackRun Environment Result n)) :=
  match run.callbacks.itNext with
  | none => .error .badOptionalAccess
  | some itNext =>
      if (run.callbacks.entries itNext).next64 ≤ now64 then do
        let after ← run.callDue now64 itNext
        pure (some after)
      else
        .ok none

/-- Number of slots that are due. -/
def nofDue
    (now64 : Int)
    (callbacks : Callbacks Environment Result n) :
    Nat :=
  (Finset.univ.filter fun idx =>
    (callbacks.entries idx).next64 ≤ now64).card

variable {run after : CallbackRun Environment Result n}

variable {now64 : Int}

/-- A call that returns leaves its slot with a later time. -/
theorem callDue_eq_ok
    {itNext : Fin n}
    (returned : run.callDue now64 itNext = .ok after) :
    ∃ cb,
      (run.callbacks.entries itNext).cb = some cb ∧
        let entry := run.callbacks.entries itNext
        let result :=
          cb run.environment now64 itNext.val entry.next64 entry.period64
        now64 < result.next64 + result.period64 ∧ after =
            { callbacks :=
                (run.callbacks.setEntry itNext
                  ⟨some cb, result.next64 + result.period64,
                    result.period64⟩).setItNext
              environment := result.environment
              ret := some result.ret
              called := run.called ++ [(itNext, entry.next64)] } := by
  unfold callDue at returned
  obtain ⟨_, -, returned⟩ := bind_eq_ok.mp returned
  obtain ⟨_, -, returned⟩ := bind_eq_ok.mp returned
  split at returned
  · cases returned
  · rename_i cb isCallback
    obtain ⟨_, -, returned⟩ := bind_eq_ok.mp returned
    obtain ⟨_, -, returned⟩ := bind_eq_ok.mp returned
    obtain ⟨next64, isNext, returned⟩ := bind_eq_ok.mp returned
    obtain ⟨_, later, returned⟩ := bind_eq_ok.mp returned
    cases returned
    obtain ⟨-, rfl⟩ := int64_eq_ok_iff.mp isNext
    exact
      ⟨cb, isCallback, of_decide_eq_true (dectnrpAssert_eq_ok.mp later), rfl⟩

theorem nofDue_callDue
    {itNext : Fin n}
    (isDue : (run.callbacks.entries itNext).next64 ≤ now64)
    (returned : run.callDue now64 itNext = .ok after) :
    nofDue now64 after.callbacks < nofDue now64 run.callbacks := by
  obtain ⟨cb, -, later, rfl⟩ := callDue_eq_ok returned
  refine Finset.card_lt_card ?_
  refine Finset.ssubset_iff_of_subset ?_ |>.mpr ⟨itNext, ?_, ?_⟩
  · intro idx isDueAfter
    rw [Finset.mem_filter] at isDueAfter ⊢
    refine ⟨Finset.mem_univ _, ?_⟩
    by_cases isCalled : idx = itNext
    · rw [isCalled]
      exact isDue
    · have unchanged := isDueAfter.2
      rw [Callbacks.setItNext_entries,
        Callbacks.setEntry_other _ _ isCalled] at unchanged
      exact unchanged
  · rw [Finset.mem_filter]
    exact ⟨Finset.mem_univ _, isDue⟩
  · rw [Finset.mem_filter]
    rintro ⟨-, isDueAfter⟩
    rw [Callbacks.setItNext_entries, Callbacks.setEntry_self] at isDueAfter
    dsimp only at isDueAfter
    omega

/-- Every pass but the last one leaves fewer slots that are due. -/
theorem nofDue_pass (returned : run.pass now64 = .ok (some after)) :
    nofDue now64 after.callbacks < nofDue now64 run.callbacks := by
  unfold pass at returned
  split at returned
  · cases returned
  · split at returned
    · rename_i isDue
      obtain ⟨next, isNext, isAfter⟩ := bind_eq_ok.mp returned
      cases isAfter
      exact nofDue_callDue isDue isNext
    · cases returned

/-- Call until no callback is due. -/
def loop
    (now64 : Int)
    (run : CallbackRun Environment Result n) :
    Checked (CallbackRun Environment Result n) :=
  match _isPass : run.pass now64 with
  | .error fault => .error fault
  | .ok none => .ok run
  | .ok (some after) => loop now64 after
termination_by nofDue now64 run.callbacks
decreasing_by exact nofDue_pass _isPass

end CallbackRun

namespace Callbacks

def run
    (callbacks : Callbacks Environment Result n)
    (environment : Environment)
    (now64 : Int) :
    Checked (CallbackRun Environment Result n) := do
  let run ←
    CallbackRun.loop now64 {
      callbacks := { callbacks with isInCallback := true }
      environment := environment
      ret := none
      called := []
    }
  pure { run with
    callbacks := { run.callbacks with isInCallback := false } }

/-- The slot that is remembered is one with the earliest next time. -/
def KnowsNext (callbacks : Callbacks Environment Result n) : Prop :=
  ∃ itNext,
    callbacks.itNext = some itNext ∧
      ∀ idx,
        (callbacks.entries itNext).next64 ≤ (callbacks.entries idx).next64

/-- The slot of an index has a callback. -/
def Registered
    (callbacks : Callbacks Environment Result n)
    (idx : Fin n) :
    Prop :=
  (callbacks.entries idx).cb.isSome = true

/-- The earliest slot is remembered if there is a slot. -/
theorem setItNext_knowsNext
    (callbacks : Callbacks Environment Result n)
    (idx : Fin n) :
    callbacks.setItNext.KnowsNext := by
  obtain ⟨itNext, isSmallest, -⟩ :=
    SlotArray.exists_smallest CallbackEntry.next64 callbacks.entries idx
  exact ⟨itNext, isSmallest, SlotArray.smallest_le isSmallest⟩

end Callbacks

end DectNrp
