import DectNrp.Callbacks
import DectNrp.CheckedRuns
import Mathlib.Tactic.FinCases

namespace DectNrp

/-!
# Runs of periodic callbacks

A run calls each callback that is due exactly once and in the order of the due
times, as long as the slot of the earliest next time is remembered and has a
callback.  It is not remembered before a first callback was added, and a slot
whose callback was taken away keeps its next time.
-/

open CallbackRun (loop)
open Checked (bind_eq_ok ok_bind)

namespace Callbacks

variable {Environment Result : Type}
variable {n : Nat}

/-- What is asked of the callbacks. -/
inductive Call (Environment Result : Type) where
  | addCallback
      (callback : Callback Environment Result)
      (next64 period64 : Int)
  | rmCallback (idx : Nat)
  | updateNext (idx : Nat) (next64 : UInt64)
  | adjustNext (idx : Nat) (nextAdjustment64 : UInt64)
  | updatePeriod (idx : Nat) (period64 : UInt64)
  | adjustPeriod (idx : Nat) (periodAdjustment64 : UInt64)
  | run (now64 : Int)

/-- Callbacks, and whatever they read and change. -/
structure System (Environment Result : Type) (maxCallbacks : Nat) where
  callbacks : Callbacks Environment Result maxCallbacks
  environment : Environment

/-- The callbacks after a call that runs none of them. -/
def System.change
    (system : System Environment Result n)
    (changed : Checked (Callbacks Environment Result n)) :
    Checked (System Environment Result n) := do
  let callbacks ← changed
  pure { system with callbacks := callbacks }

def System.step
    (system : System Environment Result n) :
    Call Environment Result → Checked (System Environment Result n)
  | .addCallback callback next64 period64 => do
      let (_, callbacks) ←
        system.callbacks.addCallback callback next64 period64
      pure { system with callbacks := callbacks }
  | .rmCallback idx => system.change (system.callbacks.rmCallback idx)
  | .updateNext idx next64 =>
      system.change (system.callbacks.updateNext idx next64)
  | .adjustNext idx nextAdjustment64 =>
      system.change (system.callbacks.adjustNext idx nextAdjustment64)
  | .updatePeriod idx period64 =>
      system.change (system.callbacks.updatePeriod idx period64)
  | .adjustPeriod idx periodAdjustment64 =>
      system.change (system.callbacks.adjustPeriod idx periodAdjustment64)
  | .run now64 => do
      let run ← system.callbacks.run system.environment now64
      pure ⟨run.callbacks, run.environment⟩

/-- One due time has passed, but not the next one. -/
def OneDueTime (now64 next64 period64 : Int) : Prop :=
  next64 ≤ now64 ∧ now64 < next64 + period64 ∧
    next64 + period64 ≤ int64Max

/-- A callback leaves a positive next time and period, for a later time. -/
def Lawful (callback : Callback Environment Result) : Prop :=
  ∀ environment now64 idx next64 period64,
    0 < next64 → 0 < period64 → OneDueTime now64 next64 period64 →
      let result := callback environment now64 idx next64 period64
      0 < result.next64 ∧ 0 < result.period64 ∧
        now64 < result.next64 + result.period64 ∧
        result.next64 + result.period64 ≤ int64Max

/-- An entry with a callback has positive times. -/
def EntryLawful (entry : CallbackEntry Environment Result) : Prop :=
  ∀ callback, entry.cb = some callback →
    Lawful callback ∧ 0 < entry.next64 ∧ 0 < entry.period64

/-- The times of a registered callback are positive after a change. -/
def ChangesLawfully
    (callbacks : Callbacks Environment Result n)
    (idx : Nat)
    (change :
      CallbackEntry Environment Result →
        CallbackEntry Environment Result) :
    Prop :=
  ∀ inside : idx < n,
    EntryLawful (change (callbacks.entries ⟨idx, inside⟩))

/--
Times and periods of registered callbacks are positive.  At most one due time
of each of them has passed when they are run.
-/
def Admissible
    (system : System Environment Result n) :
    Call Environment Result → Prop
  | .addCallback callback next64 period64 =>
      Lawful callback ∧ 0 < next64 ∧ 0 < period64
  | .rmCallback _ => True
  | .updateNext idx next64 =>
      ChangesLawfully system.callbacks idx (.setNext next64)
  | .adjustNext idx nextAdjustment64 =>
      ChangesLawfully system.callbacks idx (.addNext nextAdjustment64)
  | .updatePeriod idx period64 =>
      ChangesLawfully system.callbacks idx (.setPeriod period64)
  | .adjustPeriod idx periodAdjustment64 =>
      ChangesLawfully system.callbacks idx (.addPeriod periodAdjustment64)
  | .run now64 =>
      ∀ idx, system.callbacks.Registered idx →
        (system.callbacks.entries idx).next64 ≤ now64 →
          OneDueTime now64 (system.callbacks.entries idx).next64
            (system.callbacks.entries idx).period64

/-- Each registered callback that is due is called exactly once, in order. -/
structure CallsDue
    (now64 : Int)
    (before after : Callbacks Environment Result n)
    (called : List (Fin n × Int)) :
    Prop where
  once : (called.map Prod.fst).Nodup
  due :
    ∀ idx,
      idx ∈ called.map Prod.fst ↔
        before.Registered idx ∧ (before.entries idx).next64 ≤ now64
  dueTime :
    ∀ call ∈ called, call.2 = (before.entries call.1).next64
  inOrder : called.Pairwise fun first second => first.2 ≤ second.2
  later : ∀ idx, after.Registered idx → now64 < (after.entries idx).next64
  sameCallbacks :
    ∀ idx, (after.entries idx).cb = (before.entries idx).cb
  others :
    ∀ idx, idx ∉ called.map Prod.fst →
      after.entries idx = before.entries idx

/-- What is asked of every call. -/
def Fires
    (system : System Environment Result n) :
    Call Environment Result → Prop
  | .run now64 =>
      ∃ run,
        system.callbacks.run system.environment now64 = .ok run ∧
          CallsDue now64 system.callbacks run.callbacks run.called ∧
          run.callbacks.KnowsNext
  | call =>
      ∀ after, system.step call = .ok after → after.callbacks.KnowsNext

/--
The earliest slot was looked for by an earlier call, and no slot without a
callback is due when the callbacks are run.
-/
def NoneRemovedDue
    (system : System Environment Result n) :
    Call Environment Result → Prop
  | .run now64 =>
      system.callbacks.itNext ≠ none ∧
        ∀ idx, (system.callbacks.entries idx).next64 ≤ now64 →
          system.callbacks.Registered idx
  | .updatePeriod idx _ => idx < n → system.callbacks.itNext ≠ none
  | .adjustPeriod idx _ => idx < n → system.callbacks.itNext ≠ none
  | _ => True

/-- What all calls keep. -/
structure Invariant (callbacks : Callbacks Environment Result n) : Prop where
  idle : callbacks.isInCallback = false
  next : callbacks.itNext ≠ none → callbacks.KnowsNext
  empty : callbacks.itNext = none → ∀ idx, ¬callbacks.Registered idx
  lawful : ∀ idx, EntryLawful (callbacks.entries idx)

variable {callbacks : Callbacks Environment Result n}
variable {system : System Environment Result n}

/-- All registered callbacks that are due have one due time behind them. -/
def AllOneDueTime
    (now64 : Int)
    (callbacks : Callbacks Environment Result n) :
    Prop :=
  ∀ idx, callbacks.Registered idx →
    (callbacks.entries idx).next64 ≤ now64 →
      OneDueTime now64 (callbacks.entries idx).next64
        (callbacks.entries idx).period64

instance (now64 next64 period64 : Int) :
    Decidable (OneDueTime now64 next64 period64) :=
  inferInstanceAs (Decidable (_ ∧ _ ∧ _))

instance (idx : Fin n) : Decidable (callbacks.Registered idx) :=
  inferInstanceAs (Decidable (_ = true))

instance (now64 : Int) : Decidable (AllOneDueTime now64 callbacks) :=
  inferInstanceAs (Decidable (∀ _, _ → _ → OneDueTime now64 _ _))

/-- No slot without a callback is due. -/
def DueRegistered
    (now64 : Int)
    (callbacks : Callbacks Environment Result n) :
    Prop :=
  ∀ idx, (callbacks.entries idx).next64 ≤ now64 →
    callbacks.Registered idx

variable {now64 : Int}

theorem callDue_spec
    {run : CallbackRun Environment Result n}
    {itNext : Fin n}
    (isDue : (run.callbacks.entries itNext).next64 ≤ now64)
    (lawful : EntryLawful (run.callbacks.entries itNext))
    (oneDueTime : AllOneDueTime now64 run.callbacks)
    (isRegistered : run.callbacks.Registered itNext) :
    ∃ after entry,
      run.callDue now64 itNext = .ok after ∧
        after.callbacks = (run.callbacks.setEntry itNext entry).setItNext ∧
        entry.cb = (run.callbacks.entries itNext).cb ∧
        now64 < entry.next64 ∧
        EntryLawful entry ∧
        after.called =
          run.called ++ [(itNext, (run.callbacks.entries itNext).next64)] := by
  obtain ⟨cb, isCallback⟩ := Option.isSome_iff_exists.mp isRegistered
  obtain ⟨isLawful, positiveNext, positivePeriod⟩ := lawful cb isCallback
  have oneDue := oneDueTime itNext isRegistered isDue
  obtain ⟨-, notSkipped, fits⟩ := oneDue
  obtain ⟨nextAfter, periodAfter, later, fitsAfter⟩ :=
    isLawful run.environment now64 itNext.val _ _ positiveNext
      positivePeriod (oneDueTime itNext isRegistered isDue)
  unfold CallbackRun.callDue
  dsimp only
  rw [int64_eq_ok (by omega) fits, ok_bind,
    decide_eq_true notSkipped, dectnrpAssert_true, ok_bind,
    isCallback]
  dsimp only
  rw [decide_eq_true nextAfter, dectnrpAssert_true, ok_bind,
    decide_eq_true periodAfter, dectnrpAssert_true, ok_bind,
    int64_eq_ok (by omega) fitsAfter, ok_bind,
    decide_eq_true later, dectnrpAssert_true, ok_bind]
  refine ⟨_, _, rfl, rfl, rfl, later, ?_, rfl⟩
  intro callback isCallbackAfter
  cases isCallbackAfter
  exact ⟨isLawful, by dsimp only; omega, periodAfter⟩

/-- A first call and those that follow it. -/
theorem CallsDue.cons
    {now64 : Int}
    {itNext : Fin n}
    {entry : CallbackEntry Environment Result}
    {after : Callbacks Environment Result n}
    {called : List (Fin n × Int)}
    (isDue : (callbacks.entries itNext).next64 ≤ now64)
    (isRegistered : callbacks.Registered itNext)
    (least :
      ∀ idx,
        (callbacks.entries itNext).next64 ≤ (callbacks.entries idx).next64)
    (sameCallback : entry.cb = (callbacks.entries itNext).cb)
    (later : now64 < entry.next64)
    (rest :
      CallsDue now64 (callbacks.setEntry itNext entry).setItNext after
        called) :
    CallsDue now64 callbacks after
      ((itNext, (callbacks.entries itNext).next64) :: called) := by
  have notAgain : itNext ∉ called.map Prod.fst := by
    intro isCalled
    have isDueAgain := ((rest.due itNext).mp isCalled).2
    rw [setItNext_entries, setEntry_self] at isDueAgain
    omega
  have otherOf
      {idx : Fin n}
      (isCalled : idx ∈ called.map Prod.fst) :
      idx ≠ itNext := by
    rintro rfl
    exact notAgain isCalled
  refine ⟨?_, ?_, ?_, ?_, rest.later, ?_, ?_⟩
  · exact List.nodup_cons.mpr ⟨notAgain, rest.once⟩
  · intro idx
    rw [List.map_cons, List.mem_cons]
    by_cases isFirst : idx = itNext
    · rw [isFirst]
      exact iff_of_true (.inl rfl) ⟨isRegistered, isDue⟩
    · have isRest := rest.due idx
      rw [Registered, setItNext_entries, setEntry_other _ _ isFirst] at isRest
      rw [or_iff_right isFirst, isRest]
      rfl
  · intro call isCall
    rcases List.mem_cons.mp isCall with rfl | isLater
    · rfl
    · have isTime := rest.dueTime call isLater
      rw [setItNext_entries,
        setEntry_other _ _ (otherOf (List.mem_map_of_mem isLater))]
        at isTime
      exact isTime
  · refine List.pairwise_cons.mpr ⟨?_, rest.inOrder⟩
    intro call isLater
    rw [rest.dueTime call isLater, setItNext_entries,
      setEntry_other _ _ (otherOf (List.mem_map_of_mem isLater))]
    exact least call.1
  · intro idx
    rw [rest.sameCallbacks idx, setItNext_entries]
    by_cases isFirst : idx = itNext
    · rw [isFirst, setEntry_self, sameCallback]
    · rw [setEntry_other _ _ isFirst]
  · intro idx notCalled
    rw [List.map_cons, List.mem_cons, not_or] at notCalled
    rw [rest.others idx notCalled.2, setItNext_entries,
      setEntry_other _ _ notCalled.1]

/-- Nothing is called if nothing is due. -/
theorem CallsDue.nil
    (noneDue : ∀ idx, now64 < (callbacks.entries idx).next64) :
    CallsDue now64 callbacks callbacks [] := by
  refine ⟨List.nodup_nil, ?_, ?_, List.Pairwise.nil, fun idx _ => noneDue idx,
      fun _ => rfl, fun _ _ => rfl⟩
  · intro idx
    have notDue := noneDue idx
    refine iff_of_false List.not_mem_nil ?_
    rintro ⟨-, isDue⟩
    omega
  · intro call isCall
    cases isCall

theorem loop_spec
    {now64 : Int}
    {run : CallbackRun Environment Result n}
    (knowsNext : run.callbacks.KnowsNext)
    (lawful : ∀ idx, EntryLawful (run.callbacks.entries idx))
    (oneDueTime : AllOneDueTime now64 run.callbacks)
    (dueRegistered : DueRegistered now64 run.callbacks) :
    ∃ after called,
      run.loop now64 = .ok after ∧
        after.called = run.called ++ called ∧
        CallsDue now64 run.callbacks after.callbacks called ∧
        after.callbacks.KnowsNext ∧
        ∀ idx, EntryLawful (after.callbacks.entries idx) := by
  induction isCount : CallbackRun.nofDue now64 run.callbacks using
      Nat.strong_induction_on generalizing run with
  | _ count hypothesis =>
      obtain ⟨itNext, isNext, least⟩ := knowsNext
      rw [loop]
      by_cases isDue : (run.callbacks.entries itNext).next64 ≤ now64
      · have isRegistered := dueRegistered itNext isDue
        obtain ⟨between, entry, returned, isBetween, sameCallback, later,
          entryLawful, isCalled⟩ :=
          callDue_spec isDue (lawful itNext) oneDueTime isRegistered
        have isPass : run.pass now64 = .ok (some between) := by
          unfold CallbackRun.pass
          rw [isNext]
          dsimp only
          rw [if_pos isDue, returned]
          rfl
        have fewer := CallbackRun.nofDue_pass isPass
        -- what is due after the call was due before it
        have wasDue
            {idx : Fin n}
            (isDueAfter : (between.callbacks.entries idx).next64 ≤ now64) :
            idx ≠ itNext ∧
              between.callbacks.entries idx = run.callbacks.entries idx := by
          have different : idx ≠ itNext := by
            rintro rfl
            rw [isBetween, setItNext_entries, setEntry_self] at isDueAfter
            omega
          refine ⟨different, ?_⟩
          rw [isBetween, setItNext_entries, setEntry_other _ _ different]
        obtain ⟨after, called, isAfter, allCalled, callsDue, knows, kept⟩ :=
          hypothesis _ (isCount ▸ fewer) (by
              rw [isBetween]
              exact setItNext_knowsNext _ itNext)
            (by
              intro idx
              rw [isBetween, setItNext_entries]
              by_cases isFirst : idx = itNext
              · rw [isFirst, setEntry_self]
                exact entryLawful
              · rw [setEntry_other _ _ isFirst]
                exact lawful idx)
            (by
              intro idx isRegisteredAfter isDueAfter
              have same := (wasDue isDueAfter).2
              rw [Registered, same] at isRegisteredAfter
              rw [same] at isDueAfter ⊢
              exact oneDueTime idx isRegisteredAfter isDueAfter)
            (by
              intro idx isDueAfter
              have same := (wasDue isDueAfter).2
              rw [same] at isDueAfter
              rw [Registered, same]
              exact dueRegistered idx isDueAfter)
            rfl
        rw [isBetween] at callsDue
        split
        · rename_i isError
          rw [isPass] at isError
          cases isError
        · rename_i isNone
          rw [isPass] at isNone
          cases isNone
        · rename_i next isSome
          rw [isPass] at isSome
          cases isSome
          refine ⟨after, _, isAfter, ?_,
              callsDue.cons isDue isRegistered least sameCallback later,
              knows, kept⟩
          rw [allCalled, isCalled, List.append_assoc]
          rfl
      · have isPass : run.pass now64 = .ok none := by
          unfold CallbackRun.pass
          rw [isNext]
          dsimp only
          rw [if_neg isDue]
        have noneDue (idx : Fin n) :
            now64 < (run.callbacks.entries idx).next64 := by
          have notLess := least idx
          omega
        split
        · rename_i isError
          rw [isPass] at isError
          cases isError
        · exact ⟨run, [], rfl, (List.append_nil _).symm, .nil noneDue,
              ⟨itNext, isNext, least⟩, lawful⟩
        · rename_i next isSome
          rw [isPass] at isSome
          cases isSome

theorem dueRegistered_of_loop
    {run after : CallbackRun Environment Result n}
    (knowsNext : run.callbacks.KnowsNext)
    (returned : run.loop now64 = .ok after) :
    DueRegistered now64 run.callbacks := by
  induction isCount : CallbackRun.nofDue now64 run.callbacks using
      Nat.strong_induction_on generalizing run with
  | _ count hypothesis =>
      obtain ⟨itNext, isNext, least⟩ := knowsNext
      rw [loop] at returned
      split at returned
      · cases returned
      · rename_i isPass
        unfold CallbackRun.pass at isPass
        rw [isNext] at isPass
        dsimp only at isPass
        split at isPass
        · obtain ⟨_, -, isNone⟩ := bind_eq_ok.mp isPass
          cases isNone
        · rename_i notDue
          intro idx isDue
          have notLess := least idx
          omega
      · rename_i between isPass
        have fewer := CallbackRun.nofDue_pass isPass
        unfold CallbackRun.pass at isPass
        rw [isNext] at isPass
        dsimp only at isPass
        split at isPass
        · obtain ⟨next, isCalled, isSome⟩ := bind_eq_ok.mp isPass
          cases isSome
          obtain ⟨cb, isCallback, -, isBetween⟩ :=
            CallbackRun.callDue_eq_ok isCalled
          have knowsNextAfter : between.callbacks.KnowsNext := by
            rw [isBetween]
            exact setItNext_knowsNext _ itNext
          have registered :=
            hypothesis _ (isCount ▸ fewer) knowsNextAfter returned rfl
          intro idx isDue
          by_cases isFirst : idx = itNext
          · rw [isFirst, Registered, isCallback]
            rfl
          · have same :
                between.callbacks.entries idx = run.callbacks.entries idx := by
              rw [isBetween, setItNext_entries, setEntry_other _ _ isFirst]
            have isRegistered := registered idx (by rw [same]; exact isDue)
            rw [Registered, same] at isRegistered
            exact isRegistered
        · cases isPass

theorem new_invariant (n : Nat) :
    (new n : Callbacks Environment Result n).Invariant := by
  refine ⟨rfl, ?_, ?_, ?_⟩
  · intro isSet
    exact absurd rfl isSet
  · intro _ idx isRegistered
    cases isRegistered
  · intro idx callback isCallback
    cases isCallback

/-- The invariant holds after the earliest slot was looked for. -/
theorem invariant_setItNext
    (isIdle : callbacks.isInCallback = false)
    (lawful : ∀ idx, EntryLawful (callbacks.entries idx))
    (idx : Fin n) :
    callbacks.setItNext.Invariant := by
  have knows := setItNext_knowsNext callbacks idx
  refine ⟨isIdle, fun _ => knows, ?_, lawful⟩
  intro isNone
  obtain ⟨itNext, isNext, -⟩ := knows
  rw [isNone] at isNext
  cases isNext

/-- A changed entry is lawful, and so are the others. -/
theorem Invariant.setEntry_lawful
    (invariant : callbacks.Invariant)
    {idx : Fin n}
    {entry : CallbackEntry Environment Result}
    (lawful : EntryLawful entry)
    (other : Fin n) :
    EntryLawful ((callbacks.setEntry idx entry).entries other) := by
  by_cases isChanged : other = idx
  · rw [isChanged, setEntry_self]
    exact lawful
  · rw [setEntry_other _ _ isChanged]
    exact invariant.lawful other

/-- A slot is changed if there is one with the index. -/
theorem Invariant.changeEntry_eq_ok_iff
    (invariant : callbacks.Invariant)
    {idx : Nat}
    {change :
      CallbackEntry Environment Result → CallbackEntry Environment Result}
    {after : Callbacks Environment Result n} :
    callbacks.changeEntry idx change = .ok after ↔
      ∃ inside : idx < n,
        after =
          callbacks.setEntry ⟨idx, inside⟩
            (change (callbacks.entries ⟨idx, inside⟩)) := by
  unfold changeEntry
  rw [invariant.idle, Bool.not_false, dectnrpAssert_true, ok_bind]
  split
  · rename_i inside
    constructor
    · intro returned
      cases returned
      exact ⟨inside, rfl⟩
    · rintro ⟨-, rfl⟩
      rfl
  · rename_i outside
    refine iff_of_false ?_ ?_
    · intro returned
      cases returned
    · rintro ⟨inside, -⟩
      exact outside inside

variable {after : Callbacks Environment Result n}

variable {idx : Nat}

/-- A change of a slot after which the earliest slot is looked for. -/
theorem Invariant.changed
    (invariant : callbacks.Invariant)
    {change :
      CallbackEntry Environment Result → CallbackEntry Environment Result}
    (lawful : ChangesLawfully callbacks idx change)
    (returned :
      (do
        let changed ← callbacks.changeEntry idx change
        pure changed.setItNext) =
      .ok after) :
    after.KnowsNext ∧ after.Invariant := by
  obtain ⟨changed, isChanged, isAfter⟩ := bind_eq_ok.mp returned
  obtain ⟨inside, rfl⟩ := invariant.changeEntry_eq_ok_iff.mp isChanged
  cases isAfter
  exact ⟨setItNext_knowsNext _ ⟨idx, inside⟩,
      invariant_setItNext invariant.idle
        (invariant.setEntry_lawful (lawful inside)) ⟨idx, inside⟩⟩

theorem setEntry_period
    {idx : Fin n}
    {entry : CallbackEntry Environment Result}
    (sameCallback : entry.cb = (callbacks.entries idx).cb)
    (sameNext : entry.next64 = (callbacks.entries idx).next64)
    (other : Fin n) :
    ((callbacks.setEntry idx entry).entries other).cb =
        (callbacks.entries other).cb ∧
      ((callbacks.setEntry idx entry).entries other).next64 =
        (callbacks.entries other).next64 := by
  by_cases isChanged : other = idx
  · rw [isChanged, setEntry_self]
    exact ⟨sameCallback, sameNext⟩
  · rw [setEntry_other _ _ isChanged]
    exact ⟨rfl, rfl⟩

theorem Invariant.changedPeriod
    (invariant : callbacks.Invariant)
    {change :
      CallbackEntry Environment Result → CallbackEntry Environment Result}
    (sameEntry :
      ∀ entry,
        (change entry).cb = entry.cb ∧ (change entry).next64 = entry.next64)
    (lawful : ChangesLawfully callbacks idx change)
    (returned : callbacks.changeEntry idx change = .ok after) :
    (callbacks.KnowsNext → after.KnowsNext) ∧
      after.itNext = callbacks.itNext ∧
      after.Invariant := by
  obtain ⟨inside, rfl⟩ := invariant.changeEntry_eq_ok_iff.mp returned
  have same :=
    @setEntry_period Environment Result n callbacks ⟨idx, inside⟩
      (change (callbacks.entries ⟨idx, inside⟩)) (sameEntry _).1
      (sameEntry _).2
  have knows (known : callbacks.KnowsNext) : (callbacks.setEntry ⟨idx, inside⟩
      (change (callbacks.entries ⟨idx, inside⟩))).KnowsNext := by
    obtain ⟨itNext, isNext, least⟩ := known
    refine ⟨itNext, isNext, ?_⟩
    intro other
    rw [(same itNext).2, (same other).2]
    exact least other
  refine ⟨knows, rfl, invariant.idle,
      fun isSet => knows (invariant.next isSet), ?_,
      invariant.setEntry_lawful (lawful inside)⟩
  intro isNone other isRegistered
  rw [Registered, (same other).1] at isRegistered
  exact invariant.empty isNone other isRegistered

variable
  {callback : Callback Environment Result}
  {next64 period64 : Int}
  {ret : Option Nat}

/-- A callback is added to a free slot, or all slots are occupied. -/
theorem Invariant.added
    (invariant : callbacks.Invariant)
    (positive : 0 < n)
    (lawful : Lawful callback ∧ 0 < next64 ∧ 0 < period64)
    (returned :
      callbacks.addCallback callback next64 period64 = .ok (ret, after)) :
    after.KnowsNext ∧ after.Invariant := by
  unfold addCallback at returned
  rw [invariant.idle, Bool.not_false, dectnrpAssert_true, ok_bind] at returned
  split at returned
  · rename_i noneFree
    cases returned
    refine ⟨invariant.next ?_, invariant⟩
    intro isNone
    rw [SlotArray.firstFree, List.find?_eq_none] at noneFree
    have isFull := noneFree ⟨0, positive⟩ (List.mem_finRange _)
    refine invariant.empty isNone ⟨0, positive⟩ ?_
    simpa [Registered, Option.isSome_iff_ne_none] using isFull
  · rename_i idx isFree
    cases returned
    refine ⟨setItNext_knowsNext _ idx,
        invariant_setItNext invariant.idle (invariant.setEntry_lawful ?_) idx⟩
    intro other isOther
    cases isOther
    exact lawful

/-- A run returns exactly if the earliest slot is known and none is removed. -/
theorem Invariant.run
    (invariant : callbacks.Invariant)
    {environment : Environment}
    {now64 : Int}
    (oneDueTime : AllOneDueTime now64 callbacks)
    (isSet : callbacks.itNext ≠ none)
    (dueRegistered : DueRegistered now64 callbacks) :
    ∃ run,
      callbacks.run environment now64 = .ok run ∧
        CallsDue now64 callbacks run.callbacks run.called ∧
        run.callbacks.KnowsNext ∧
        run.callbacks.Invariant := by
  obtain ⟨itNext, isNext, least⟩ := invariant.next isSet
  obtain ⟨after, called, returned, isCalled, callsDue, ⟨next, isNextAfter,
    leastAfter⟩, lawful⟩ :=
    @loop_spec Environment Result n now64
      { callbacks := { callbacks with isInCallback := true }
        environment := environment
        ret := none
        called := [] }
      ⟨itNext, isNext, least⟩ invariant.lawful oneDueTime dueRegistered
  rw [List.nil_append] at isCalled
  unfold Callbacks.run
  rw [returned, ok_bind]
  refine ⟨_, rfl, ?_, ⟨next, isNextAfter, leastAfter⟩, rfl,
      fun _ => ⟨next, isNextAfter, leastAfter⟩, ?_, lawful⟩
  · dsimp only
    rw [isCalled]
    exact ⟨callsDue.once, callsDue.due, callsDue.dueTime, callsDue.inOrder,
        callsDue.later, callsDue.sameCallbacks, callsDue.others⟩
  · intro isNone
    have isNoneAfter : after.callbacks.itNext = none := isNone
    rw [isNextAfter] at isNoneAfter
    cases isNoneAfter

/-- What a call of a callback keeps of its entry holds after a loop of calls. -/
theorem loop_entries
    {Holds : CallbackEntry Environment Result → Prop}
    (kept :
      ∀ entry callback environment now64 idx,
        Holds entry → entry.cb = some callback →
          let result :=
            callback environment now64 idx entry.next64 entry.period64
          Holds
            ⟨some callback, result.next64 + result.period64, result.period64⟩)
    {now64 : Int}
    {run after : CallbackRun Environment Result n}
    (holds : ∀ idx, Holds (run.callbacks.entries idx))
    (returned : run.loop now64 = .ok after) :
    ∀ idx, Holds (after.callbacks.entries idx) := by
  fun_induction loop now64 run with
  | case1 run fault isPass => cases returned
  | case2 run isPass =>
      cases returned
      exact holds
  | case3 run between isPass hypothesis =>
      refine hypothesis ?_ returned
      unfold CallbackRun.pass at isPass
      split at isPass
      · cases isPass
      · rename_i itNext isNext
        split at isPass
        · obtain ⟨next, isCalled, isBetween⟩ := bind_eq_ok.mp isPass
          cases isBetween
          obtain ⟨callback, isCallback, -, rfl⟩ :=
            CallbackRun.callDue_eq_ok isCalled
          intro idx
          rw [setItNext_entries]
          by_cases isFirst : idx = itNext
          · rw [isFirst, setEntry_self]
            exact kept _ _ _ _ _ (holds itNext) isCallback
          · rw [setEntry_other _ _ isFirst]
            exact holds idx
        · cases isPass

/-- What a call of a callback keeps of its entry holds after a run. -/
theorem run_entries
    {Holds : CallbackEntry Environment Result → Prop}
    (kept :
      ∀ entry callback environment now64 idx,
        Holds entry → entry.cb = some callback →
          let result :=
            callback environment now64 idx entry.next64 entry.period64
          Holds
            ⟨some callback, result.next64 + result.period64, result.period64⟩)
    {environment : Environment}
    {run : CallbackRun Environment Result n}
    (holds : ∀ idx, Holds (callbacks.entries idx))
    (returned : callbacks.run environment now64 = .ok run)
    (idx : Fin n) :
    Holds (run.callbacks.entries idx) := by
  obtain ⟨after, isAfter, isRun⟩ := bind_eq_ok.mp returned
  cases isRun
  exact loop_entries kept holds isAfter idx

/-- Callbacks can be run: one was added, and free slots are never due. -/
structure Ready (callbacks : Callbacks Environment Result n) : Prop where
  invariant : callbacks.Invariant
  isSet : callbacks.itNext ≠ none
  free :
    ∀ idx, (callbacks.entries idx).cb = none →
      (callbacks.entries idx).next64 = int64Max

/-- Callbacks that are not late can be run, and then again. -/
theorem Ready.run
    (ready : callbacks.Ready)
    {environment : Environment}
    (early : now64 < int64Max)
    (oneDueTime : AllOneDueTime now64 callbacks) :
    ∃ run,
      callbacks.run environment now64 = .ok run ∧
        CallsDue now64 callbacks run.callbacks run.called ∧
        run.callbacks.Ready := by
  have dueRegistered : DueRegistered now64 callbacks := by
    intro idx isDue
    rw [Registered, Option.isSome_iff_ne_none]
    intro isFree
    have isLast := ready.free idx isFree
    omega
  obtain ⟨run, returned, callsDue, ⟨itNext, isNext, -⟩, invariant⟩ :=
    @Invariant.run _ _ _ _ ready.invariant environment _ oneDueTime
      ready.isSet dueRegistered
  refine ⟨run, returned, callsDue, invariant,
      by rw [isNext]; exact Option.some_ne_none itNext, ?_⟩
  intro idx
  exact @run_entries _ _ _ _ _
    (fun entry => entry.cb = none → entry.next64 = int64Max)
    (fun _ _ _ _ _ _ _ => nofun) _ _ ready.free returned idx

variable {after : Callbacks Environment Result (n + 1)}

/-- The slots of new callbacks once a first callback was added. -/
theorem entries_of_added
    (returned :
      (new (n + 1)).addCallback callback next64 period64 = .ok (ret, after))
    (idx : Fin (n + 1)) :
    after.entries idx = .default ∨
      after.entries idx = ⟨some callback, next64, period64⟩ := by
  unfold addCallback at returned
  obtain ⟨_, -, returned⟩ := bind_eq_ok.mp returned
  split at returned
  · cases returned
    exact Or.inl rfl
  · rename_i first isFirst
    cases returned
    rw [setItNext_entries]
    by_cases isAdded : idx = first
    · rw [isAdded, setEntry_self]
      exact Or.inr rfl
    · rw [setEntry_other _ _ isAdded]
      exact Or.inl rfl

theorem Ready.of_added
    (lawful : Lawful callback ∧ 0 < next64 ∧ 0 < period64)
    (returned :
      (new (n + 1)).addCallback callback next64 period64 = .ok (ret, after)) :
    after.Ready := by
  obtain ⟨⟨itNext, isNext, -⟩, invariant⟩ :=
    (new_invariant (n + 1)).added (Nat.succ_pos n) lawful returned
  refine ⟨invariant, by rw [isNext]; exact Option.some_ne_none itNext, ?_⟩
  intro idx isFree
  rcases entries_of_added returned idx with isDefault | isAdded
  · rw [isDefault]
    rfl
  · rw [isAdded] at isFree
    cases isFree

theorem Invariant.run_eq_ok
    (invariant : callbacks.Invariant)
    {environment : Environment}
    {run : CallbackRun Environment Result n}
    (returned : callbacks.run environment now64 = .ok run) :
    callbacks.itNext ≠ none ∧ DueRegistered now64 callbacks := by
  obtain ⟨after, isAfter, -⟩ := bind_eq_ok.mp returned
  have isSet : callbacks.itNext ≠ none := by
    intro isNone
    rw [loop] at isAfter
    have isError : CallbackRun.pass now64
        { callbacks := { callbacks with isInCallback := true }
          environment := environment
          ret := (none : Option Result)
          called := [] } =
          .error .badOptionalAccess := by
      unfold CallbackRun.pass
      dsimp only
      rw [isNone]
    split at isAfter
    · cases isAfter
    · rename_i isPass
      rw [isError] at isPass
      cases isPass
    · rename_i isPass
      rw [isError] at isPass
      cases isPass
  obtain ⟨itNext, isNext, least⟩ := invariant.next isSet
  exact ⟨isSet, dueRegistered_of_loop ⟨itNext, isNext, least⟩ isAfter⟩

variable {after : System Environment Result n}

/-- A change that returns is the change of the callbacks. -/
theorem System.change_eq_ok
    {changed : Checked (Callbacks Environment Result n)}
    (returned : system.change changed = .ok after) :
    changed = .ok after.callbacks := by
  obtain ⟨callbacks, isChanged, isAfter⟩ := bind_eq_ok.mp returned
  cases isAfter
  exact isChanged

variable {call : Call Environment Result}

/-- Every call but a run remembers the earliest slot, if it looks for it. -/
theorem Invariant.step
    (invariant : system.callbacks.Invariant)
    (positive : 0 < n)
    (admissible : Admissible system call)
    (noneRemovedDue : NoneRemovedDue system call)
    (returned : system.step call = .ok after) :
    after.callbacks.KnowsNext ∧ after.callbacks.Invariant := by
  have ofPeriod
      {idx : Nat}
      {change :
        CallbackEntry Environment Result → CallbackEntry Environment Result}
      (lawful : ChangesLawfully system.callbacks idx change)
      (same : ∀ entry,
          (change entry).cb = entry.cb ∧ (change entry).next64 = entry.next64)
      (isSet : idx < n → system.callbacks.itNext ≠ none)
      (isChanged :
        system.callbacks.changeEntry idx change = .ok after.callbacks) :
      after.callbacks.KnowsNext ∧ after.callbacks.Invariant := by
    obtain ⟨inside, -⟩ := invariant.changeEntry_eq_ok_iff.mp isChanged
    obtain ⟨knows, -, kept⟩ := invariant.changedPeriod same lawful isChanged
    exact ⟨knows (invariant.next (isSet inside)), kept⟩
  cases call with
  | addCallback callback next64 period64 =>
      obtain ⟨⟨ret, callbacks⟩, isAdded, isAfter⟩ := bind_eq_ok.mp returned
      cases isAfter
      exact invariant.added positive admissible isAdded
  | rmCallback idx =>
      refine invariant.changed ?_ (System.change_eq_ok returned)
      intro inside callback isCallback
      cases isCallback
  | updateNext idx next64 =>
      have lawful : ChangesLawfully system.callbacks idx (.setNext next64) :=
        admissible
      exact invariant.changed lawful (System.change_eq_ok returned)
  | adjustNext idx nextAdjustment64 =>
      have lawful :
          ChangesLawfully system.callbacks idx (.addNext nextAdjustment64) :=
        admissible
      exact invariant.changed lawful (System.change_eq_ok returned)
  | updatePeriod idx period64 =>
      have lawful :
          ChangesLawfully system.callbacks idx (.setPeriod period64) :=
        admissible
      exact ofPeriod lawful (CallbackEntry.setPeriod_same period64)
          noneRemovedDue (System.change_eq_ok returned)
  | adjustPeriod idx periodAdjustment64 =>
      have lawful : ChangesLawfully system.callbacks idx
          (.addPeriod periodAdjustment64) :=
        admissible
      exact ofPeriod lawful (CallbackEntry.addPeriod_same periodAdjustment64)
          noneRemovedDue (System.change_eq_ok returned)
  | run now64 =>
      obtain ⟨run, isRun, -, knows, kept⟩ :=
        @Invariant.run Environment Result n system.callbacks invariant
          system.environment now64 admissible noneRemovedDue.1
          noneRemovedDue.2
      obtain ⟨other, isOther, isAfter⟩ := bind_eq_ok.mp returned
      rw [isRun] at isOther
      cases isOther
      cases isAfter
      exact ⟨knows, kept⟩

/-- A slot that is not remembered stays so when a period is changed. -/
theorem Invariant.isSet_of_period
    {change :
      CallbackEntry Environment Result → CallbackEntry Environment Result}
    (invariant : system.callbacks.Invariant)
    (knows :
      ∀ after,
        system.change (system.callbacks.changeEntry idx change) =
            .ok after →
          after.callbacks.KnowsNext)
    (inside : idx < n) :
    system.callbacks.itNext ≠ none := by
  intro isNone
  have isChanged :=
    (@Invariant.changeEntry_eq_ok_iff Environment Result n
      system.callbacks invariant idx change _).mpr ⟨inside, rfl⟩
  have isAfter : system.change (system.callbacks.changeEntry idx change) =
      .ok { system with
        callbacks :=
          system.callbacks.setEntry ⟨idx, inside⟩
            (change (system.callbacks.entries ⟨idx, inside⟩)) } := by
    rw [System.change, isChanged]
    rfl
  obtain ⟨itNext, isNext, -⟩ := knows _ isAfter
  have isNoneAfter : (system.callbacks.setEntry ⟨idx, inside⟩
      (change (system.callbacks.entries ⟨idx, inside⟩))).itNext =
      none :=
    isNone
  rw [isNoneAfter] at isNext
  cases isNext

/-- A call does what it should exactly if no slot without a callback is due. -/
theorem Invariant.fires_iff
    (invariant : system.callbacks.Invariant)
    (positive : 0 < n)
    (admissible : Admissible system call) :
    Fires system call ↔ NoneRemovedDue system call := by
  constructor
  · intro fires
    cases call with
    | addCallback callback next64 period64 => trivial
    | rmCallback idx => trivial
    | updateNext idx next64 => trivial
    | adjustNext idx nextAdjustment64 => trivial
    | updatePeriod idx period64 =>
        exact fun inside => invariant.isSet_of_period fires inside
    | adjustPeriod idx periodAdjustment64 =>
        exact fun inside => invariant.isSet_of_period fires inside
    | run now64 =>
        obtain ⟨run, returned, -⟩ := fires
        exact invariant.run_eq_ok returned
  · intro noneRemovedDue
    cases call with
    | run now64 =>
        obtain ⟨run, returned, callsDue, knows, -⟩ :=
          @Invariant.run Environment Result n system.callbacks invariant
            system.environment now64 admissible noneRemovedDue.1
            noneRemovedDue.2
        exact ⟨run, returned, callsDue, knows⟩
    | _ =>
        exact fun after returned =>
          (invariant.step positive admissible noneRemovedDue returned).1

/--
Along a run every call of the callbacks does what it should exactly if at every
run the earliest slot was looked for before, and no slot without a callback is
due.
-/
theorem callbacks_fireOnce_iff
    (positive : 0 < n)
    (environment : Environment)
    {calls : List (Call Environment Result)}
    (admissible :
      AlongRun System.step Admissible ⟨new n, environment⟩ calls) :
    AlongRun System.step Fires ⟨new n, environment⟩ calls ↔
      AlongRun System.step NoneRemovedDue ⟨new n, environment⟩ calls :=
  @alongRun_iff_while _ _ System.step
    (fun system => system.callbacks.Invariant) Admissible Fires
    NoneRemovedDue
    (fun invariant isAdmissible fires returned =>
      (Invariant.step invariant positive isAdmissible
        ((Invariant.fires_iff invariant positive isAdmissible).mp fires)
        returned).2)
    (fun invariant isAdmissible =>
      Invariant.fires_iff invariant positive isAdmissible)
    _ _ (new_invariant n) admissible

/-- A callback that leaves its next time and its period as they are. -/
def unchanged : Callback Unit Unit :=
  fun _ _ _ next64 period64 => ⟨(), next64, period64, ()⟩

theorem unchanged_lawful : Lawful unchanged := by
  rintro environment now64 idx next64 period64 positiveNext positivePeriod
    ⟨-, later, fits⟩
  exact ⟨positiveNext, positivePeriod, later, fits⟩

/-- A callback is due once after it was added. -/
theorem callbacks_fireOnce_iff_added :
    AlongRun System.step Fires ⟨(new 4 : Callbacks Unit Unit 4), ()⟩
        [.addCallback unchanged 10 5, .run 12] ↔
      AlongRun System.step NoneRemovedDue
        ⟨(new 4 : Callbacks Unit Unit 4), ()⟩
        [.addCallback unchanged 10 5, .run 12] := by
  refine callbacks_fireOnce_iff (by decide) () ?_
  refine ⟨⟨unchanged_lawful, by decide, by decide⟩, ?_⟩
  intro added isAdded
  cases isAdded
  refine ⟨?_, fun _ _ => trivial⟩
  intro idx isRegistered
  fin_cases idx
  · intro _
    exact ⟨by decide, by decide, by decide⟩
  · exact absurd isRegistered Bool.false_ne_true
  · exact absurd isRegistered Bool.false_ne_true
  · exact absurd isRegistered Bool.false_ne_true

/-- The callbacks are run before the first one is added. -/
theorem not_callbacks_fireOnce :
    ¬∀ calls : List (Call Unit Unit),
        AlongRun System.step Admissible
            ⟨(new 4 : Callbacks Unit Unit 4), ()⟩ calls →
          AlongRun System.step Fires
            ⟨(new 4 : Callbacks Unit Unit 4), ()⟩ calls := by
  intro fires
  have admissible : AlongRun System.step Admissible
      ⟨(new 4 : Callbacks Unit Unit 4), ()⟩ [.run 12] :=
    ⟨fun _ isRegistered => absurd isRegistered Bool.false_ne_true,
      fun _ _ => trivial⟩
  obtain ⟨⟨run, returned, -⟩, -⟩ := fires _ admissible
  exact ((new_invariant 4).run_eq_ok returned).1 rfl

end Callbacks

end DectNrp
