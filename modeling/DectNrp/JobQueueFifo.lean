import DectNrp.BoundedFifo
import DectNrp.CheckedRuns
import DectNrp.JobQueueNaive

namespace DectNrp

/-!
# Jobs in and out of the queue

The queue of jobs is a bounded queue that has room for one job less than it has
slots.  It numbers the jobs that it accepts.  As long as it is impermeable it
accepts none and pretends that it did.
-/

/-- What is asked of the queue. -/
inductive JobQueueCall (Report : Type) where
  | enqueueNto (content : JobContent Report)
  | dequeue
  | setPermeable
  | setImpermeable
  deriving Repr, DecidableEq

/-- What the queue answers. -/
inductive JobQueueAnswer (Report : Type) where
  | enqueued (ret : Bool)
  | dequeued (job : Option (Job Report))
  | done
  deriving Repr, DecidableEq

/-- A queue of jobs that may be closed. -/
structure JobQueue (Report : Type) where
  queue : JobQueueNaive Report
  permeable : Bool

/-- A bounded queue of numbered jobs that may be closed. -/
structure JobFifo (Report : Type) where
  capacity : Nat
  jobs : List (Job Report)
  nextTicket : Nat
  permeable : Bool

variable {Report : Type}

/-- Jobs get the tickets in the order in which they are accepted. -/
def JobFifo.call
    (fifo : JobFifo Report) :
    JobQueueCall Report → JobQueueAnswer Report × JobFifo Report
  | .enqueueNto content =>
      if fifo.permeable then
        if fifo.jobs.length < fifo.capacity then
          (.enqueued true,
            { fifo with
              jobs :=
                BoundedFifo.push fifo.capacity fifo.jobs
                  ⟨content, fifo.nextTicket⟩
              nextTicket := fifo.nextTicket + 1 })
        else
          (.enqueued false, fifo)
      else
        (.enqueued true, fifo)
  | .dequeue =>
      (.dequeued fifo.jobs.head?, { fifo with jobs := fifo.jobs.tail })
  | .setPermeable => (.done, { fifo with permeable := true })
  | .setImpermeable => (.done, { fifo with permeable := false })

namespace JobQueue

/-- An empty queue that is closed. -/
def new (capacity : Nat) (positive : 0 < capacity) : JobQueue Report where
  queue := .new capacity positive
  permeable := false

/-- Jobs for a closed queue are dropped silently. -/
def enqueueNto
    (enableAssert : Bool)
    (jobQueue : JobQueue Report)
    (content : JobContent Report) :
    Checked (Bool × JobQueue Report) :=
  if jobQueue.permeable then do
    let (ret, queue) ←
      jobQueue.queue.enqueueUnderLock enableAssert content
    pure (ret, { jobQueue with queue := queue })
  else
    .ok (true, jobQueue)

/-- A job, if there is one. -/
def dequeue
    (jobQueue : JobQueue Report) :
    Option (Job Report) × JobQueue Report :=
  match jobQueue.queue.dequeueUnderLock with
  | none => (none, jobQueue)
  | some (job, queue) => (some job, { jobQueue with queue := queue })

def call
    (enableAssert : Bool)
    (jobQueue : JobQueue Report) :
    JobQueueCall Report →
      Checked (JobQueueAnswer Report × JobQueue Report)
  | .enqueueNto content => do
      let (ret, after) ← jobQueue.enqueueNto enableAssert content
      pure (.enqueued ret, after)
  | .dequeue =>
      let (job, after) := jobQueue.dequeue
      .ok (.dequeued job, after)
  | .setPermeable => .ok (.done, { jobQueue with permeable := true })
  | .setImpermeable => .ok (.done, { jobQueue with permeable := false })

/-- The queue after a call. -/
def after
    (enableAssert : Bool)
    (jobQueue : JobQueue Report)
    (call : JobQueueCall Report) :
    Checked (JobQueue Report) := do
  let (_, after) ← jobQueue.call enableAssert call
  pure after

/-- The bounded queue that the slots stand for. -/
def fifo (jobQueue : JobQueue Report) : JobFifo Report where
  capacity := jobQueue.queue.capacity - 1
  jobs := jobQueue.queue.jobs
  nextTicket := jobQueue.queue.fifoCnt
  permeable := jobQueue.permeable

/-- The counts of the positions, the counter of slots and the tickets. -/
structure Agrees (jobQueue : JobQueue Report) : Prop where
  used : jobQueue.queue.getUsed = jobQueue.fifo.jobs.length
  free :
    jobQueue.queue.getFree =
      jobQueue.fifo.capacity - jobQueue.fifo.jobs.length
  bounded : jobQueue.fifo.jobs.length ≤ jobQueue.fifo.capacity
  slots : jobQueue.queue.jobSlotVecCnt = jobQueue.fifo.jobs.length
  tickets :
    BoundedFifo.Consecutive (jobQueue.fifo.jobs.map Job.fifoCnt)
      jobQueue.fifo.nextTicket

/--
A call does what it does to the bounded queue.  It is fatal only if assertions
are enabled and a job finds no free slot.
-/
def Refines
    (enableAssert : Bool)
    (jobQueue : JobQueue Report)
    (call : JobQueueCall Report) :
    Prop :=
  jobQueue.Agrees ∧
    match jobQueue.call enableAssert call with
    | .ok (answer, after) =>
        jobQueue.fifo.call call = (answer, after.fifo) ∧ after.Agrees
    | .error _ =>
        enableAssert = true ∧ jobQueue.permeable = true ∧
          jobQueue.fifo.jobs.length = jobQueue.fifo.capacity ∧
          ∃ content, call = .enqueueNto content

section

variable {jobQueue : JobQueue Report}

/-- The counts of the positions are those of the jobs. -/
theorem agrees_of_slots
    (slots : jobQueue.queue.jobSlotVecCnt = jobQueue.queue.jobs.length)
    (tickets :
      BoundedFifo.Consecutive (jobQueue.queue.jobs.map Job.fifoCnt)
        jobQueue.queue.fifoCnt) :
    jobQueue.Agrees := by
  have split := jobQueue.queue.getFree_add_getUsed
  have isLength := jobQueue.queue.jobs_length
  refine ⟨isLength.symm, ?_, ?_, slots, tickets⟩
  · change jobQueue.queue.getFree =
      jobQueue.queue.capacity - 1 - jobQueue.queue.jobs.length
    omega
  · change jobQueue.queue.jobs.length ≤ jobQueue.queue.capacity - 1
    omega

theorem agrees_new
    {capacity : Nat}
    (positive : 0 < capacity) :
    (new capacity positive : JobQueue Report).Agrees :=
  agrees_of_slots rfl (BoundedFifo.consecutive_nil 0)

/-- A job is appended with the next ticket, or there is no room. -/
theorem Agrees.enqueue
    (agrees : jobQueue.Agrees)
    (permeable : jobQueue.permeable = true)
    (enableAssert : Bool)
    (content : JobContent Report) :
    jobQueue.Refines enableAssert (.enqueueNto content) := by
  have free := agrees.free
  have bounded := agrees.bounded
  refine ⟨agrees, ?_⟩
  unfold call enqueueNto
  dsimp only
  rw [if_pos permeable]
  by_cases full : jobQueue.queue.getFree = 0
  · have isFull :
        jobQueue.fifo.jobs.length = jobQueue.fifo.capacity := by
      omega
    unfold JobQueueNaive.enqueueUnderLock
    rw [if_pos full]
    cases enableAssert with
    | true => exact ⟨rfl, permeable, isFull, content, rfl⟩
    | false =>
        refine ⟨?_, agrees⟩
        unfold JobFifo.call
        dsimp only
        rw [if_pos (show jobQueue.fifo.permeable = true from permeable),
          if_neg (Nat.not_lt.mpr (Nat.le_of_eq isFull.symm))]
  · have room :
        jobQueue.fifo.jobs.length < jobQueue.fifo.capacity := by
      omega
    obtain ⟨queue, returned, sameCapacity⟩ : ∃ queue,
        jobQueue.queue.enqueueUnderLock enableAssert content =
            .ok (true, queue) ∧
          queue.capacity = jobQueue.queue.capacity := by
      unfold JobQueueNaive.enqueueUnderLock
      rw [if_neg full]
      exact ⟨_, rfl, rfl⟩
    obtain ⟨notEnqueued, -⟩ | ⟨-, appended, nextTicket, slots⟩ :=
      JobQueueNaive.enqueueUnderLock_eq_ok returned
    · cases notEnqueued
    · rw [returned]
      refine ⟨?_, agrees_of_slots ?_ ?_⟩
      · unfold JobFifo.call
        dsimp only
        rw [if_pos (show jobQueue.fifo.permeable = true from permeable),
          if_pos room, BoundedFifo.push_of_room room]
        unfold fifo
        dsimp only
        rw [appended, nextTicket, sameCapacity]
      · dsimp only
        rw [slots, appended, List.length_append, List.length_singleton]
        exact congrArg (· + 1) agrees.slots
      · dsimp only
        rw [appended, nextTicket, List.map_append, List.map_singleton]
        exact agrees.tickets.issue

/-- The oldest job is taken, if there is one. -/
theorem Agrees.take
    (agrees : jobQueue.Agrees)
    (enableAssert : Bool) :
    jobQueue.Refines enableAssert .dequeue := by
  refine ⟨agrees, ?_⟩
  unfold call dequeue
  cases returned : jobQueue.queue.dequeueUnderLock with
  | none =>
      have empty : jobQueue.fifo.jobs = [] :=
        JobQueueNaive.dequeueUnderLock_eq_none.mp returned
      refine ⟨?_, agrees⟩
      unfold JobFifo.call
      dsimp only
      rw [empty, List.head?_nil, List.tail_nil, ← empty]
  | some taken =>
      obtain ⟨job, queue⟩ := taken
      obtain ⟨first, nextTicket, slots⟩ :=
        JobQueueNaive.dequeueUnderLock_eq_some returned
      have first : jobQueue.fifo.jobs = job :: queue.jobs := first
      have isSlots := agrees.slots
      have tickets := agrees.tickets
      have sameCapacity : queue.capacity = jobQueue.queue.capacity := by
        unfold JobQueueNaive.dequeueUnderLock at returned
        split at returned
        · cases returned
        · cases returned
          rfl
      rw [first, List.length_cons] at isSlots
      rw [first, List.map_cons] at tickets
      refine ⟨?_, agrees_of_slots ?_ ?_⟩
      · unfold JobFifo.call
        dsimp only
        rw [first, List.head?_cons, List.tail_cons]
        unfold fifo
        dsimp only
        rw [nextTicket, sameCapacity]
      · dsimp only
        omega
      · dsimp only
        rw [nextTicket]
        exact tickets.take

/-- Every call does what it does to the bounded queue. -/
theorem Agrees.refines
    (agrees : jobQueue.Agrees)
    (enableAssert : Bool)
    (call : JobQueueCall Report) :
    jobQueue.Refines enableAssert call := by
  cases call with
  | enqueueNto content =>
      cases permeable : jobQueue.permeable with
      | true => exact agrees.enqueue permeable enableAssert content
      | false =>
          refine ⟨agrees, ?_⟩
          unfold JobQueue.call enqueueNto
          dsimp only
          rw [if_neg (by rw [permeable]; exact Bool.false_ne_true)]
          refine ⟨?_, agrees⟩
          unfold JobFifo.call
          dsimp only
          rw [if_neg]
          change ¬jobQueue.permeable = true
          rw [permeable]
          exact Bool.false_ne_true
  | dequeue => exact agrees.take enableAssert
  | setPermeable =>
      exact ⟨agrees, rfl, agrees_of_slots agrees.slots agrees.tickets⟩
  | setImpermeable =>
      exact ⟨agrees, rfl, agrees_of_slots agrees.slots agrees.tickets⟩

/-- What the queue agrees on is kept. -/
theorem Agrees.kept
    (agrees : jobQueue.Agrees)
    {enableAssert : Bool}
    {call : JobQueueCall Report}
    {after : JobQueue Report}
    (returned : jobQueue.after enableAssert call = .ok after) :
    after.Agrees := by
  obtain ⟨⟨answer, other⟩, called, isAfter⟩ := Checked.bind_eq_ok.mp returned
  cases isAfter
  have refines := (agrees.refines enableAssert call).2
  rw [called] at refines
  exact refines.2

end

/--
The queue starts as the empty bounded queue, and in every run each call does
what it does to the bounded queue.
-/
theorem jobQueue_refinesFifo
    {capacity : Nat}
    (positive : 0 < capacity)
    (enableAssert : Bool)
    (calls : List (JobQueueCall Report)) :
    (new capacity positive : JobQueue Report).fifo =
        ⟨capacity - 1, [], 0, false⟩ ∧
      AlongRun (after enableAssert) (Refines enableAssert)
        (new capacity positive) calls := by
  refine ⟨rfl, ?_⟩
  refine
    @alongRun_of_invariant (JobQueue Report) (JobQueueCall Report)
      (after enableAssert) Agrees (fun _ _ => True) (Refines enableAssert)
      (fun agrees _ returned => agrees.kept returned)
      (fun agrees _ => agrees.refines enableAssert _) _ calls
      (agrees_new positive) ?_
  generalize (new capacity positive : JobQueue Report) = jobQueue
  induction calls generalizing jobQueue with
  | nil =>
      exact trivial
  | cons call calls hypothesis =>
      exact ⟨trivial, fun after _ => hypothesis after⟩

theorem jobQueue_refinesFifo_twoSlots :
    (new 2 (by decide) : JobQueue Unit).fifo = ⟨2 - 1, [], 0, false⟩ ∧
      AlongRun (after false) (Refines false)
        (new 2 (by decide) : JobQueue Unit)
        [.setPermeable, .enqueueNto (.regularReport ()),
          .enqueueNto (.regularReport ()), .dequeue,
          .enqueueNto (.regularReport ())] :=
  jobQueue_refinesFifo (by decide) false _

end JobQueue

end DectNrp
