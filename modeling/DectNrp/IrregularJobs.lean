import DectNrp.IrregularQueue

namespace DectNrp

/-!
# Irregular jobs

The queue of irregular reports is a priority queue, and every report that is
pushed becomes exactly one job.  A worker asks for the next time without taking
the lock, so that reports may be pushed before it pops one.
-/

open Checked (bind_eq_ok ok_bind)

namespace IrregularQueue

variable {n : Nat}

/-- What is asked of the queue. -/
inductive Call where
  | push (irregularReport : IrregularReport)
  | pop
  deriving Repr, DecidableEq

/-- The queue after a call. -/
def after
    (queue : IrregularQueue n) :
    Call → Checked (IrregularQueue n)
  | .push irregularReport => queue.push irregularReport
  | .pop => do
      let (_, after) ← queue.pop
      pure after

/--
A report with a time is added as it is while there is room.  The earliest
report is taken away if there is one, and is returned as it is.
-/
def Refines (queue : IrregularQueue n) : Call → Prop
  | .push irregularReport =>
      (irregularReport.hasFiniteTime = true ∧ queue.pending.card < n →
          ∃ after,
            queue.push irregularReport = .ok after ∧
              after.pending = irregularReport ::ₘ queue.pending ∧
              after.KnowsNextTime) ∧
        (¬(irregularReport.hasFiniteTime = true ∧
            queue.pending.card < n) →
          ∃ message,
            queue.push irregularReport = .error (.assertion message))
  | .pop =>
      (queue.pending ≠ 0 →
          ∃ irregularReport after,
            queue.pop = .ok (irregularReport, after) ∧
              IsEarliest queue.pending irregularReport ∧
              queue.pending = irregularReport ::ₘ after.pending ∧
              after.KnowsNextTime) ∧
        (queue.pending = 0 →
          ∃ message, queue.pop = .error (.assertion message))

variable {queue : IrregularQueue n}

variable {irregularReport : IrregularReport}

/-- A push that returns adds its report. -/
theorem Invariant.push
    (invariant : queue.Invariant)
    {after : IrregularQueue n}
    (returned : queue.push irregularReport = .ok after) :
    after.pending = irregularReport ::ₘ queue.pending ∧ after.Invariant := by
  obtain ⟨pushes, fails⟩ := @push_spec n queue irregularReport invariant
  by_cases isPushed :
      irregularReport.hasFiniteTime = true ∧ queue.pending.card < n
  · obtain ⟨pushed, isAfter, added, kept⟩ := pushes isPushed
    rw [isAfter] at returned
    cases returned
    exact ⟨added, kept⟩
  · obtain ⟨message, isError⟩ := fails isPushed
    rw [isError] at returned
    cases returned

/-- A pop that returns takes the earliest report away. -/
theorem Invariant.pop
    (invariant : queue.Invariant)
    {after : IrregularQueue n}
    (returned : queue.pop = .ok (irregularReport, after)) :
    IsEarliest queue.pending irregularReport ∧
      queue.pending = irregularReport ::ₘ after.pending ∧
      after.Invariant := by
  obtain ⟨pops, fails⟩ := pop_spec invariant
  by_cases isEmpty : queue.pending = 0
  · obtain ⟨message, isError⟩ := fails isEmpty
    rw [isError] at returned
    cases returned
  · obtain ⟨popped, rest, isAfter, isEarliest, taken, kept⟩ := pops isEmpty
    rw [isAfter] at returned
    cases returned
    exact ⟨isEarliest, taken, kept⟩

theorem Invariant.after
    {call : Call}
    {next : IrregularQueue n}
    (invariant : queue.Invariant)
    (returned : queue.after call = .ok next) :
    next.Invariant := by
  cases call with
  | push irregularReport => exact (invariant.push returned).2
  | pop =>
      obtain ⟨⟨popped, rest⟩, isPopped, isNext⟩ := bind_eq_ok.mp returned
      cases isNext
      exact (invariant.pop isPopped).2.2

/-- Every call is one of a priority queue. -/
theorem Invariant.refines
    (invariant : queue.Invariant)
    (call : Call) :
    queue.Refines call := by
  cases call with
  | push irregularReport =>
      obtain ⟨pushes, fails⟩ := @push_spec n queue irregularReport invariant
      refine ⟨?_, fails⟩
      intro isPushed
      obtain ⟨after, returned, added, kept⟩ := pushes isPushed
      exact ⟨after, returned, added, kept.knowsNextTime⟩
  | pop =>
      obtain ⟨pops, fails⟩ := pop_spec invariant
      refine ⟨?_, fails⟩
      intro notEmpty
      obtain ⟨irregularReport, after, returned, isEarliest, taken, kept⟩ :=
        pops notEmpty
      exact ⟨irregularReport, after, returned, isEarliest, taken,
          kept.knowsNextTime⟩

/-- A worker with the baton looks whether a report is due. -/
def findsDue
    (queue : IrregularQueue n)
    (holdsBaton : Bool)
    (noMoreSyncsEarlier64 : Int) :
    Bool :=
  if !holdsBaton then
    false
  else
    let nextTime64 := queue.getNextTime
    if nextTime64 = IrregularReport.undefinedLate then
      false
    else if noMoreSyncsEarlier64 < nextTime64 then
      false
    else
      true

/-- The report of the next job, after a report was found due. -/
def recognize
    (queue : IrregularQueue n)
    (noMoreSyncsEarlier64 : Int) :
    Checked (IrregularReport × IrregularQueue n) := do
  let (irregularReport, queue) ← queue.pop
  let irregularReport : IrregularReport :=
    { irregularReport with timeOfRecognition := noMoreSyncsEarlier64 }
  let recognitionDelay ← irregularReport.getRecognitionDelay
  dectnrpAssert (0 ≤ recognitionDelay)
    "irregular job recognized before due time"
  pure (irregularReport, queue)

/-- The report that is handed to the queue of jobs, if one is due. -/
def enqueueIrregularJobIfDue
    (queue : IrregularQueue n)
    (holdsBaton : Bool)
    (noMoreSyncsEarlier64 : Int) :
    Checked (Option IrregularReport × IrregularQueue n) :=
  if queue.findsDue holdsBaton noMoreSyncsEarlier64 then do
    let (irregularReport, queue) ← queue.recognize noMoreSyncsEarlier64
    pure (some irregularReport, queue)
  else
    .ok (none, queue)

/-- A report is found due exactly if one is pending that is not later. -/
theorem Invariant.findsDue_iff
    (invariant : queue.Invariant)
    {holdsBaton : Bool}
    {noMoreSyncsEarlier64 : Int} :
    queue.findsDue holdsBaton noMoreSyncsEarlier64 = true ↔
      holdsBaton = true ∧
        ∃ irregularReport ∈ queue.pending,
          irregularReport.callAsapAfterThisTimeHasPassed64 ≤
            noMoreSyncsEarlier64 := by
  have knows := invariant.knowsNextTime
  unfold findsDue
  cases holdsBaton with
  | false => simp
  | true =>
      rw [Bool.not_true, if_neg Bool.false_ne_true]
      dsimp only
      by_cases isEmpty : queue.pending = 0
      · rw [if_pos (knows.empty isEmpty), isEmpty]
        simp
      · obtain ⟨earliest, ⟨isPending, least⟩, isTime⟩ := knows.earliest isEmpty
        obtain ⟨idx, -, isFinite⟩ := mem_pending.mp isPending
        have isLess := hasFiniteTime_iff.mp isFinite
        rw [isTime, if_neg (ne_of_lt isLess)]
        by_cases notDue :
            noMoreSyncsEarlier64 < earliest.callAsapAfterThisTimeHasPassed64
        · rw [if_pos notDue]
          refine iff_of_false Bool.false_ne_true ?_
          rintro ⟨-, other, isOther, isDue⟩
          have notLess := least other isOther
          omega
        · rw [if_neg notDue]
          exact
            iff_of_true rfl ⟨rfl, earliest, isPending, Int.not_lt.mp notDue⟩

end IrregularQueue

/-- Reports that were pushed, those that wait and those that became jobs. -/
structure IrregularJobs (n : Nat) where
  queue : IrregularQueue n
  /-- The time of a call that has found a report due and did not pop it yet. -/
  due : Option Int
  pushed : Multiset IrregularReport
  jobs : List IrregularReport

namespace IrregularJobs

variable {n : Nat}

/-- Steps of workers, in any order. -/
inductive Step where
  | push (irregularReport : IrregularReport)
  | look (holdsBaton : Bool) (noMoreSyncsEarlier64 : Int)
  | enqueue
  deriving Repr, DecidableEq

def new (n : Nat) : IrregularJobs n where
  queue := .new n
  due := none
  pushed := 0
  jobs := []

/--
The reports and the jobs made of them.  What a job queue that is impermeable or
full does with a job is not modelled here: it drops it, or an assertion fails.
-/
def step
    (irregularJobs : IrregularJobs n) :
    Step → Checked (IrregularJobs n)
  | .push irregularReport => do
      let queue ← irregularJobs.queue.push irregularReport
      pure { irregularJobs with
        queue := queue
        pushed := irregularReport ::ₘ irregularJobs.pushed }
  | .look holdsBaton noMoreSyncsEarlier64 =>
      if irregularJobs.queue.findsDue holdsBaton noMoreSyncsEarlier64 then
        .ok { irregularJobs with due := some noMoreSyncsEarlier64 }
      else
        .ok irregularJobs
  | .enqueue =>
      match irregularJobs.due with
      | none => .ok irregularJobs
      | some noMoreSyncsEarlier64 => do
          let (irregularReport, queue) ←
            irregularJobs.queue.recognize noMoreSyncsEarlier64
          pure { irregularJobs with
            queue := queue
            due := none
            jobs := irregularJobs.jobs ++ [irregularReport] }

/-- The worker with the baton ends a call before it makes the next one. -/
def OneCall (irregularJobs : IrregularJobs n) : Step → Prop
  | .look true _ => irregularJobs.due = none
  | _ => True

/-- Every report that was pushed either waits or became one job. -/
def Conserved (irregularJobs : IrregularJobs n) : Prop :=
  irregularJobs.pushed.map IrregularReport.request =
    irregularJobs.queue.pending.map IrregularReport.request +
      ((irregularJobs.jobs.map IrregularReport.request : List _) :
        Multiset _)

/-- No job was recognized before its time. -/
def NotEarly (irregularJobs : IrregularJobs n) : Prop :=
  ∀ job ∈ irregularJobs.jobs,
    job.callAsapAfterThisTimeHasPassed64 ≤ job.timeOfRecognition

/--
A push and a look make no job.  A worker with the baton finds exactly the
reports that are due, and of those that it finds the earliest one becomes a job.
-/
def MakesJob (irregularJobs : IrregularJobs n) : Step → Prop
  | .push irregularReport =>
      ∀ after, irregularJobs.step (.push irregularReport) = .ok after →
        after.jobs = irregularJobs.jobs ∧
          after.queue.pending =
            irregularReport ::ₘ irregularJobs.queue.pending
  | .look holdsBaton noMoreSyncsEarlier64 =>
      ∃ after,
        irregularJobs.step (.look holdsBaton noMoreSyncsEarlier64) =
            .ok after ∧
          after.jobs = irregularJobs.jobs ∧
          after.queue = irregularJobs.queue ∧
          (holdsBaton = true →
            (after.due = some noMoreSyncsEarlier64 ↔
              ∃ irregularReport ∈ irregularJobs.queue.pending,
                irregularReport.callAsapAfterThisTimeHasPassed64 ≤
                  noMoreSyncsEarlier64))
  | .enqueue =>
      ∀ noMoreSyncsEarlier64,
        irregularJobs.due = some noMoreSyncsEarlier64 →
          ∃ irregularReport,
            IrregularQueue.IsEarliest irregularJobs.queue.pending
                irregularReport ∧
              irregularReport.callAsapAfterThisTimeHasPassed64 ≤
                noMoreSyncsEarlier64 ∧
              (noMoreSyncsEarlier64 -
                  irregularReport.callAsapAfterThisTimeHasPassed64 ≤
                  int64Max →
                ∃ after,
                  irregularJobs.step .enqueue = .ok after ∧
                    after.jobs =
                      irregularJobs.jobs ++
                        [{ irregularReport with
                          timeOfRecognition := noMoreSyncsEarlier64 }] ∧
                    irregularJobs.queue.pending =
                      irregularReport ::ₘ after.queue.pending ∧
                    after.due = none) ∧
              (¬noMoreSyncsEarlier64 -
                  irregularReport.callAsapAfterThisTimeHasPassed64 ≤
                  int64Max →
                irregularJobs.step .enqueue =
                  .error (.assertion "signed overflow"))

/-- Pushed reports wait or are jobs that are not early. -/
structure KeepsReports (irregularJobs : IrregularJobs n) : Prop where
  conserved : irregularJobs.Conserved
  notEarly : irregularJobs.NotEarly
  nextTime : irregularJobs.queue.KnowsNextTime

/-- What all steps keep. -/
structure Invariant (irregularJobs : IrregularJobs n) : Prop where
  queue : irregularJobs.queue.Invariant
  conserved : irregularJobs.Conserved
  notEarly : irregularJobs.NotEarly
  due :
    ∀ noMoreSyncsEarlier64,
      irregularJobs.due = some noMoreSyncsEarlier64 →
        ∃ irregularReport ∈ irregularJobs.queue.pending,
          irregularReport.callAsapAfterThisTimeHasPassed64 ≤
            noMoreSyncsEarlier64

variable {irregularJobs after : IrregularJobs n}

theorem new_invariant (n : Nat) : (new n).Invariant := by
  refine ⟨IrregularQueue.new_invariant n, ?_, ?_, ?_⟩
  · have isEmpty : (new n).queue.pending = 0 := IrregularQueue.new_pending n
    rw [Conserved, isEmpty]
    rfl
  · intro job isJob
    cases isJob
  · intro time isDue
    cases isDue

theorem Invariant.keepsReports (invariant : irregularJobs.Invariant) :
    irregularJobs.KeepsReports :=
  ⟨invariant.conserved, invariant.notEarly, invariant.queue.knowsNextTime⟩

/-- What is recognized is the report that was popped, with a delay. -/
theorem recognize_spec
    {queue : IrregularQueue n}
    {noMoreSyncsEarlier64 : Int}
    (invariant : queue.Invariant)
    (isDue :
      ∃ irregularReport ∈ queue.pending,
        irregularReport.callAsapAfterThisTimeHasPassed64 ≤
          noMoreSyncsEarlier64) :
    ∃ irregularReport rest,
      IrregularQueue.IsEarliest queue.pending irregularReport ∧
        irregularReport.callAsapAfterThisTimeHasPassed64 ≤
          noMoreSyncsEarlier64 ∧
        queue.pending = irregularReport ::ₘ rest.pending ∧
        rest.Invariant ∧
        (noMoreSyncsEarlier64 -
            irregularReport.callAsapAfterThisTimeHasPassed64 ≤
            int64Max →
          queue.recognize noMoreSyncsEarlier64 =
            .ok ({ irregularReport with
              timeOfRecognition := noMoreSyncsEarlier64 }, rest)) ∧
        (¬noMoreSyncsEarlier64 -
            irregularReport.callAsapAfterThisTimeHasPassed64 ≤
            int64Max →
          queue.recognize noMoreSyncsEarlier64 =
            .error (.assertion "signed overflow")) := by
  obtain ⟨other, isOther, otherDue⟩ := isDue
  have notEmpty : queue.pending ≠ 0 := by
    intro isEmpty
    rw [isEmpty] at isOther
    cases Multiset.notMem_zero _ isOther
  obtain ⟨irregularReport, rest, isPopped, isEarliest, taken, kept⟩ :=
    (IrregularQueue.pop_spec invariant).1 notEmpty
  have isInTime : irregularReport.callAsapAfterThisTimeHasPassed64 ≤
      noMoreSyncsEarlier64 :=
    Int.le_trans (isEarliest.2 other isOther) otherDue
  refine ⟨irregularReport, rest, isEarliest, isInTime, taken, kept, ?_, ?_⟩
  · intro fits
    unfold IrregularQueue.recognize
    rw [isPopped, ok_bind]
    dsimp only [IrregularReport.getRecognitionDelay]
    rw [int64_eq_ok (by omega) fits, ok_bind,
      decide_eq_true (by omega), dectnrpAssert_true]
    rfl
  · intro overflows
    unfold IrregularQueue.recognize
    rw [isPopped, ok_bind]
    dsimp only [IrregularReport.getRecognitionDelay]
    unfold int64Max at overflows
    rw [int64, if_neg (by omega)]
    rfl

/-- A job is made at most once of what waits. -/
theorem Conserved.enqueued
    {irregularReport job : IrregularReport}
    (conserved : irregularJobs.Conserved)
    (taken :
      irregularJobs.queue.pending = irregularReport ::ₘ after.queue.pending)
    (isJob : after.jobs = irregularJobs.jobs ++ [job])
    (same : job.request = irregularReport.request)
    (samePushed : after.pushed = irregularJobs.pushed) :
    after.Conserved := by
  rw [Conserved, taken, Multiset.map_cons] at conserved
  rw [Conserved, samePushed, conserved, isJob, List.map_append,
    ← Multiset.coe_add, List.map_singleton, same,
    Multiset.coe_singleton, Multiset.cons_add, ← Multiset.singleton_add,
    Multiset.add_comm, Multiset.add_assoc]

variable {call : Step}

/-- All steps keep the invariant. -/
theorem Invariant.step
    (invariant : irregularJobs.Invariant)
    (returned : irregularJobs.step call = .ok after) :
    after.Invariant := by
  cases call with
  | push irregularReport =>
      obtain ⟨queue, isPushed, isAfter⟩ := bind_eq_ok.mp returned
      cases isAfter
      obtain ⟨added, kept⟩ := invariant.queue.push isPushed
      refine ⟨kept, ?_, invariant.notEarly, ?_⟩
      · have conserved := invariant.conserved
        rw [Conserved] at conserved ⊢
        rw [added, Multiset.map_cons, Multiset.map_cons, conserved,
          Multiset.cons_add]
      · intro time isDue
        obtain ⟨other, isOther, otherDue⟩ := invariant.due time isDue
        rw [added]
        exact ⟨other, Multiset.mem_cons_of_mem isOther, otherDue⟩
  | look holdsBaton time =>
      rw [IrregularJobs.step] at returned
      split at returned
      · rename_i isFound
        cases returned
        refine ⟨invariant.queue, invariant.conserved, invariant.notEarly, ?_⟩
        intro other isDue
        obtain rfl := Option.some.inj isDue
        exact (invariant.queue.findsDue_iff.mp isFound).2
      · cases returned
        exact invariant
  | enqueue =>
      rw [IrregularJobs.step] at returned
      split at returned
      · cases returned
        exact invariant
      · rename_i time isDue
        obtain ⟨irregularReport, rest, -, isInTime, taken, kept, fits,
          overflows⟩ :=
          recognize_spec invariant.queue (invariant.due time isDue)
        by_cases inRange :
            time - irregularReport.callAsapAfterThisTimeHasPassed64 ≤ int64Max
        · rw [fits inRange] at returned
          cases returned
          refine ⟨kept, ?_, ?_, ?_⟩
          · exact invariant.conserved.enqueued taken rfl rfl rfl
          · intro job isJob
            rcases List.mem_append.mp isJob with isOld | isNew
            · exact invariant.notEarly job isOld
            · rw [List.mem_singleton.mp isNew]
              exact isInTime
          · intro other isOther
            cases isOther
        · rw [overflows inRange] at returned
          cases returned

theorem Invariant.makesJob
    (invariant : irregularJobs.Invariant)
    (oneCall : irregularJobs.OneCall call) :
    irregularJobs.MakesJob call := by
  cases call with
  | push irregularReport =>
      intro after returned
      obtain ⟨queue, isPushed, isAfter⟩ := bind_eq_ok.mp returned
      cases isAfter
      exact ⟨rfl, (invariant.queue.push isPushed).1⟩
  | look holdsBaton time =>
      have isDue :=
        @IrregularQueue.Invariant.findsDue_iff _ _ invariant.queue
          holdsBaton time
      cases isFound : irregularJobs.queue.findsDue holdsBaton time with
      | true =>
          refine ⟨_, if_pos isFound, rfl, rfl, ?_⟩
          intro _
          exact iff_of_true rfl (isDue.mp isFound).2
      | false =>
          have notFound :
              ¬irregularJobs.queue.findsDue holdsBaton time = true := by
            rw [isFound]
            exact Bool.false_ne_true
          refine ⟨_, if_neg notFound, rfl, rfl, ?_⟩
          rintro rfl
          have noCall : irregularJobs.due = none := oneCall
          rw [noCall]
          refine iff_of_false (by simp) ?_
          intro found
          exact notFound (isDue.mpr ⟨rfl, found⟩)
  | enqueue =>
      intro time isDue
      obtain ⟨irregularReport, rest, isEarliest, isInTime, taken, -, fits,
        overflows⟩ :=
        recognize_spec invariant.queue (invariant.due time isDue)
      refine ⟨irregularReport, isEarliest, isInTime, ?_, ?_⟩
      · intro inRange
        unfold IrregularJobs.step
        rw [isDue]
        dsimp only
        rw [fits inRange]
        exact ⟨_, rfl, rfl, taken, rfl⟩
      · intro outOfRange
        unfold IrregularJobs.step
        rw [isDue]
        dsimp only
        rw [overflows outOfRange]
        rfl

theorem enqueueIrregularJobIfDue_eq_steps
    (noCall : irregularJobs.due = none)
    (holdsBaton : Bool)
    (noMoreSyncsEarlier64 : Int) :
    (do
        let found ← irregularJobs.step (.look holdsBaton noMoreSyncsEarlier64)
        found.step .enqueue) =
      (do
        let (irregularReport, queue) ←
          irregularJobs.queue.enqueueIrregularJobIfDue holdsBaton
            noMoreSyncsEarlier64
        pure { irregularJobs with
          queue := queue
          jobs := irregularJobs.jobs ++ irregularReport.toList }) := by
  unfold IrregularQueue.enqueueIrregularJobIfDue
  by_cases isFound :
      irregularJobs.queue.findsDue holdsBaton noMoreSyncsEarlier64 = true
  · rw [if_pos isFound]
    have isLook : irregularJobs.step (.look holdsBaton noMoreSyncsEarlier64) =
        .ok { irregularJobs with due := some noMoreSyncsEarlier64 } :=
      if_pos isFound
    rw [isLook, ok_bind, step]
    dsimp only
    cases irregularJobs.queue.recognize noMoreSyncsEarlier64 with
    | error fault => rfl
    | ok recognized =>
        obtain ⟨irregularReport, queue⟩ := recognized
        rw [ok_bind, ok_bind, ← noCall]
        rfl
  · rw [if_neg isFound]
    have isLook : irregularJobs.step (.look holdsBaton noMoreSyncsEarlier64) =
        .ok irregularJobs :=
      if_neg isFound
    rw [isLook, ok_bind, step, noCall, ok_bind]
    dsimp only [Option.toList]
    rw [List.append_nil, Checked.pure_eq_ok, ← noCall]

/-- Reports that wait although their time is not behind a given one. -/
def overdue
    (irregularJobs : IrregularJobs n)
    (time : Int) :
    Nat :=
  irregularJobs.queue.pending.countP fun irregularReport =>
    irregularReport.callAsapAfterThisTimeHasPassed64 ≤ time

/-- Those of them for which no worker is on its way. -/
def unclaimed
    (irregularJobs : IrregularJobs n)
    (time : Int) :
    Nat :=
  irregularJobs.overdue time - if irregularJobs.due.isSome then 1 else 0

/-- A worker with the baton looks. -/
def Step.isLook : Step → Bool
  | .look holdsBaton _ => holdsBaton
  | _ => false

/-- Reports are pushed for later times only, and workers look later. -/
def Step.Later (time : Int) : Step → Prop
  | .push irregularReport =>
      time < irregularReport.callAsapAfterThisTimeHasPassed64
  | .look holdsBaton noMoreSyncsEarlier64 =>
      holdsBaton = true → time ≤ noMoreSyncsEarlier64
  | .enqueue => True

variable {time : Int}

theorem Invariant.unclaimed_step
    (invariant : irregularJobs.Invariant)
    (oneCall : irregularJobs.OneCall call)
    (later : call.Later time)
    (returned : irregularJobs.step call = .ok after) :
    after.unclaimed time =
      irregularJobs.unclaimed time - if call.isLook then 1 else 0 := by
  cases call with
  | push irregularReport =>
      obtain ⟨queue, isPushed, isAfter⟩ := bind_eq_ok.mp returned
      cases isAfter
      have notOverdue :
          ¬irregularReport.callAsapAfterThisTimeHasPassed64 ≤ time :=
        Int.not_le.mpr later
      unfold unclaimed overdue
      rw [(invariant.queue.push isPushed).1, Multiset.countP_cons,
        if_neg notOverdue]
      rfl
  | look holdsBaton now =>
      have isDue :=
        @IrregularQueue.Invariant.findsDue_iff _ _ invariant.queue
          holdsBaton now
      rw [IrregularJobs.step] at returned
      split at returned
      · rename_i isFound
        cases returned
        obtain ⟨rfl, -⟩ := isDue.mp isFound
        have noCall : irregularJobs.due = none := oneCall
        unfold unclaimed overdue
        rw [noCall]
        rfl
      · rename_i notFound
        cases returned
        cases holdsBaton with
        | false => rfl
        | true =>
            have noneOverdue : irregularJobs.overdue time = 0 := by
              refine Multiset.countP_eq_zero.mpr ?_
              intro irregularReport isPending isOverdue
              exact notFound (isDue.mpr ⟨rfl, irregularReport, isPending,
                  Int.le_trans isOverdue (later rfl)⟩)
            unfold unclaimed
            rw [noneOverdue, Nat.zero_sub, Nat.zero_sub]
  | enqueue =>
      rw [IrregularJobs.step] at returned
      split at returned
      · cases returned
        rfl
      · rename_i now isDue
        obtain ⟨irregularReport, rest, isEarliest, -, taken, -, fits,
          overflows⟩ :=
          recognize_spec invariant.queue (invariant.due now isDue)
        by_cases inRange :
            now - irregularReport.callAsapAfterThisTimeHasPassed64 ≤ int64Max
        · rw [fits inRange] at returned
          cases returned
          unfold unclaimed overdue
          rw [isDue, taken, Multiset.countP_cons]
          by_cases isOverdue :
              irregularReport.callAsapAfterThisTimeHasPassed64 ≤ time
          · rw [if_pos isOverdue]
            rfl
          · rw [if_neg isOverdue]
            have noneOverdue : rest.pending.countP (fun other =>
                other.callAsapAfterThisTimeHasPassed64 ≤ time) = 0 := by
              refine Multiset.countP_eq_zero.mpr ?_
              intro other isPending otherOverdue
              have notLess :=
                isEarliest.2 other (by
                    rw [taken]
                    exact Multiset.mem_cons_of_mem isPending)
              omega
            dsimp only
            rw [noneOverdue]
            rfl
        · rw [overflows inRange] at returned
          cases returned

theorem Invariant.unclaimed_run
    {steps : List Step}
    (invariant : irregularJobs.Invariant)
    (oneCall : AlongRun IrregularJobs.step OneCall irregularJobs steps)
    (later : ∀ call ∈ steps, call.Later time)
    (returned : steps.foldlM IrregularJobs.step irregularJobs = .ok after) :
    after.unclaimed time =
      irregularJobs.unclaimed time - steps.countP Step.isLook := by
  induction steps generalizing irregularJobs with
  | nil =>
      cases returned
      rfl
  | cons call steps hypothesis =>
      rw [List.foldlM_cons] at returned
      obtain ⟨between, isBetween, returned⟩ := bind_eq_ok.mp returned
      have now :=
        invariant.unclaimed_step oneCall.1 (later call List.mem_cons_self)
          isBetween
      have rest :=
        hypothesis (invariant.step isBetween) (oneCall.2 between isBetween)
          (fun other isOther => later other (List.mem_cons_of_mem _ isOther))
          returned
      rw [rest, now, List.countP_cons]
      omega

/-- No report is overdue after as many looks as reports were overdue. -/
theorem Invariant.noneOverdue
    {steps : List Step}
    (invariant : irregularJobs.Invariant)
    (oneCall : AlongRun IrregularJobs.step OneCall irregularJobs steps)
    (later : ∀ call ∈ steps, call.Later time)
    (returned : steps.foldlM IrregularJobs.step irregularJobs = .ok after)
    (noCall : after.due = none)
    (enough : irregularJobs.overdue time ≤ steps.countP Step.isLook) :
    after.overdue time = 0 := by
  have isUnclaimed := invariant.unclaimed_run oneCall later returned
  unfold unclaimed at isUnclaimed
  rw [noCall] at isUnclaimed
  have isNone : after.overdue time - 0 = (irregularJobs.overdue time -
      if irregularJobs.due.isSome then 1 else 0) - steps.countP Step.isLook :=
    isUnclaimed
  omega

/--
The queue is a priority queue for any sequence of calls.  In any interleaving of
workers each report that was pushed waits or became one job that is not early.
Every look finds what is due and makes a job of the earliest report, so that
none is overdue after enough looks.
-/
theorem irregularQueue_isPriorityQueue
    (n : Nat) :
    (∀ calls : List IrregularQueue.Call,
        AlongRun IrregularQueue.after IrregularQueue.Refines
          (IrregularQueue.new n) calls) ∧
      (∀ steps : List Step,
        AlongRun step OneCall (new n) steps →
          AlongRun step
              (fun irregularJobs call =>
                irregularJobs.KeepsReports ∧ irregularJobs.MakesJob call)
              (new n) steps ∧
            ∀ reached, steps.foldlM step (new n) = .ok reached →
              reached.KeepsReports) ∧
      ∀ (steps further : List Step)
        (reached after : IrregularJobs n)
        (time : Int),
        AlongRun step OneCall (new n) steps →
        steps.foldlM step (new n) = .ok reached →
        AlongRun step OneCall reached further →
        further.foldlM step reached = .ok after →
        (∀ call ∈ further, call.Later time) →
        after.due = none →
        reached.overdue time ≤ further.countP Step.isLook →
          after.overdue time = 0 := by
  have kept
      {steps : List Step}
      {reached : IrregularJobs n}
      (oneCall : AlongRun step OneCall (new n) steps)
      (returned : steps.foldlM step (new n) = .ok reached) :
      reached.Invariant :=
    invariant_of_run (fun invariant _ isAfter => invariant.step isAfter)
      (new_invariant n) oneCall returned
  refine ⟨?_, ?_, ?_⟩
  · intro calls
    have anyCall :
        AlongRun IrregularQueue.after (fun _ _ => True)
          (IrregularQueue.new n) calls :=
      alongRun_true calls
    exact
      alongRun_of_invariant
        (fun invariant _ isAfter =>
          IrregularQueue.Invariant.after invariant isAfter)
        (fun invariant _ => IrregularQueue.Invariant.refines invariant _)
        (IrregularQueue.new_invariant n) anyCall
  · intro steps oneCall
    refine ⟨?_, fun _ returned => (kept oneCall returned).keepsReports⟩
    exact
      alongRun_of_invariant
        (fun invariant _ isAfter => Invariant.step invariant isAfter)
        (fun invariant isOne =>
          ⟨Invariant.keepsReports invariant,
            Invariant.makesJob invariant isOne⟩)
        (new_invariant n) oneCall
  · intro steps further reached after time oneCall returned oneCallFurther
      returnedAfter later noCall enough
    exact
      (kept oneCall returned).noneOverdue oneCallFurther later
        returnedAfter noCall enough

instance (irregularJobs : IrregularJobs n) :
    (call : Step) → Decidable (irregularJobs.OneCall call)
  | .look true _ => inferInstanceAs (Decidable (_ = none))
  | .look false _ => .isTrue trivial
  | .push _ => .isTrue trivial
  | .enqueue => .isTrue trivial

/-- Two reports, the later one first. -/
def twoPushes : List Step :=
  [.push ⟨0, 9, 1⟩, .push ⟨0, 5, 2⟩]

/-- A worker with the baton makes two calls. -/
def twoCalls : List Step :=
  [.look true 9, .enqueue, .look true 9, .enqueue]

/-- Two looks leave none of two reports overdue. -/
theorem irregularQueue_isPriorityQueue_twoReports :
    ∃ reached after : IrregularJobs 2,
      twoPushes.foldlM step (new 2) = .ok reached ∧
        twoCalls.foldlM step reached = .ok after ∧
        after.jobs = [⟨9, 5, 2⟩, ⟨9, 9, 1⟩] ∧
        after.overdue 9 = 0 := by
  obtain ⟨-, -, drains⟩ := irregularQueue_isPriorityQueue 2
  refine ⟨_, _, rfl, rfl, rfl, ?_⟩
  exact
    drains twoPushes twoCalls _ _ 9 (by decide) rfl (by decide) rfl
      (by simp [twoCalls, Step.Later]) rfl (by decide)

end IrregularJobs

end DectNrp
