import DectNrp.Octets
import DectNrp.RingBuffer

namespace DectNrp

/-!
# Job queue

Producers enqueue jobs into a ring of slots, and every job is numbered when it
is enqueued.  Workers dequeue them.
-/

/-- What a job is about. -/
inductive JobContent (Report : Type) where
  | monostate
  | regularReport (report : Report)
  | irregularReport (report : Report)
  | syncReport (report : Report)
  | applicationReport (report : Report)
  deriving Repr, DecidableEq

/-- A job with the number that it got from the queue. -/
structure Job (Report : Type) where
  content : JobContent Report
  fifoCnt : Nat
  deriving Repr, DecidableEq

/-- The slots of the queue, its positions and the number of the next job. -/
structure JobQueueNaive (Report : Type) where
  capacity : Nat
  enqueuePtr : Nat
  dequeuePtr : Nat
  jobSlotVec : Nat → Job Report
  jobSlotVecCnt : Nat
  fifoCnt : Nat
  enqueuePtr_lt : enqueuePtr < capacity
  dequeuePtr_lt : dequeuePtr < capacity

namespace JobQueueNaive

variable {Report : Type}

/-- An empty queue. -/
def new (capacity : Nat) (positive : 0 < capacity) :
    JobQueueNaive Report where
  capacity := capacity
  enqueuePtr := 0
  dequeuePtr := 0
  jobSlotVec _ := ⟨.monostate, 0⟩
  jobSlotVecCnt := 0
  fifoCnt := 0
  enqueuePtr_lt := positive
  dequeuePtr_lt := positive

/-- Number of free slots, one slot is never filled. -/
def getFree (queue : JobQueueNaive Report) : Nat :=
  if queue.enqueuePtr < queue.dequeuePtr then
    queue.dequeuePtr - queue.enqueuePtr - 1
  else
    queue.dequeuePtr + queue.capacity - queue.enqueuePtr - 1

/-- Number of filled slots. -/
def getUsed (queue : JobQueueNaive Report) : Nat :=
  if queue.dequeuePtr ≤ queue.enqueuePtr then
    queue.enqueuePtr - queue.dequeuePtr
  else
    queue.enqueuePtr + queue.capacity - queue.dequeuePtr

theorem capacity_pos (queue : JobQueueNaive Report) :
    0 < queue.capacity :=
  Nat.lt_of_le_of_lt (Nat.zero_le _) queue.enqueuePtr_lt

/--
Number the job and put it into the next free slot.  A full queue is fatal if
assertions are enabled and discards the job otherwise.
-/
def enqueueUnderLock
    (enableAssert : Bool)
    (queue : JobQueueNaive Report)
    (content : JobContent Report) :
    Checked (Bool × JobQueueNaive Report) :=
  if queue.getFree = 0 then
    if enableAssert then
      .error (.assertion "no free job slot")
    else
      .ok (false, queue)
  else
    .ok (true, { queue with
      jobSlotVec :=
        Function.update queue.jobSlotVec queue.enqueuePtr
          ⟨content, queue.fifoCnt⟩
      jobSlotVecCnt := queue.jobSlotVecCnt + 1
      enqueuePtr := (queue.enqueuePtr + 1) % queue.capacity
      fifoCnt := queue.fifoCnt + 1
      enqueuePtr_lt := Nat.mod_lt _ queue.capacity_pos })

/-- Take the job from the next filled slot, if any. -/
def dequeueUnderLock
    (queue : JobQueueNaive Report) :
    Option (Job Report × JobQueueNaive Report) :=
  if queue.getUsed = 0 then
    none
  else
    some (queue.jobSlotVec queue.dequeuePtr, { queue with
      jobSlotVecCnt := queue.jobSlotVecCnt - 1
      dequeuePtr := (queue.dequeuePtr + 1) % queue.capacity
      dequeuePtr_lt := Nat.mod_lt _ queue.capacity_pos })

/-- Jobs in the queue in the order of dequeuing. -/
def jobs (queue : JobQueueNaive Report) : List (Job Report) :=
  RingBuffer.contents queue.capacity queue.dequeuePtr queue.getUsed
    queue.jobSlotVec

theorem getUsed_eq_used (queue : JobQueueNaive Report) :
    queue.getUsed =
      RingBuffer.used queue.capacity queue.dequeuePtr queue.enqueuePtr :=
  rfl

/-- Slots are free, filled, or the one that is never filled. -/
theorem getFree_add_getUsed (queue : JobQueueNaive Report) :
    queue.getFree + queue.getUsed + 1 = queue.capacity := by
  have enqueueInside := queue.enqueuePtr_lt
  have dequeueInside := queue.dequeuePtr_lt
  rw [getFree, getUsed]
  split <;> split <;> omega

@[simp] theorem jobs_length (queue : JobQueueNaive Report) :
    queue.jobs.length = queue.getUsed := by
  simp [jobs, RingBuffer.contents]

variable {queue after : JobQueueNaive Report}

/-- An enqueued job is the last one of the queue and has the next number. -/
theorem enqueueUnderLock_eq_ok
    {enableAssert enqueued : Bool}
    {content : JobContent Report}
    (returned :
      queue.enqueueUnderLock enableAssert content = .ok (enqueued, after)) :
    (enqueued = false ∧ after = queue) ∨
      (enqueued = true ∧
        after.jobs = queue.jobs ++ [⟨content, queue.fifoCnt⟩] ∧
        after.fifoCnt = queue.fifoCnt + 1 ∧
        after.jobSlotVecCnt = queue.jobSlotVecCnt + 1) := by
  have split := queue.getFree_add_getUsed
  rw [enqueueUnderLock] at returned
  by_cases full : queue.getFree = 0
  · rw [if_pos full] at returned
    cases enableAssert with
    | true => cases returned
    | false =>
        cases returned
        exact Or.inl ⟨rfl, rfl⟩
  · rw [if_neg full] at returned
    cases returned
    refine Or.inr ⟨rfl, ?_, rfl, rfl⟩
    have free : queue.getUsed + 1 < queue.capacity := by omega
    have next :=
      RingBuffer.used_next_writing queue.dequeuePtr_lt queue.enqueuePtr_lt free
    have slot :=
      RingBuffer.reading_add_used queue.dequeuePtr_lt queue.enqueuePtr_lt
    have written :=
      RingBuffer.contents_write queue.dequeuePtr_lt
        (show queue.getUsed < queue.capacity by omega)
        queue.jobSlotVec ⟨content, queue.fifoCnt⟩
    rw [getUsed_eq_used, slot] at written
    rw [jobs, getUsed_eq_used, next]
    exact written

/-- A dequeued job is the first one of the queue. -/
theorem dequeueUnderLock_eq_some
    {job : Job Report}
    (returned : queue.dequeueUnderLock = some (job, after)) :
    queue.jobs = job :: after.jobs ∧
      after.fifoCnt = queue.fifoCnt ∧
      after.jobSlotVecCnt = queue.jobSlotVecCnt - 1 := by
  rw [dequeueUnderLock] at returned
  by_cases empty : queue.getUsed = 0
  · rw [if_pos empty] at returned
    cases returned
  · rw [if_neg empty] at returned
    cases returned
    refine ⟨?_, rfl, rfl⟩
    have next :=
      RingBuffer.used_next_reading queue.dequeuePtr_lt
        queue.enqueuePtr_lt (Nat.pos_of_ne_zero empty)
    rw [jobs, jobs, getUsed_eq_used, getUsed_eq_used, ← next,
      RingBuffer.contents_read, Nat.mod_eq_of_lt queue.dequeuePtr_lt]

/-- Nothing is dequeued only if the queue is empty. -/
theorem dequeueUnderLock_eq_none
    {queue : JobQueueNaive Report} :
    queue.dequeueUnderLock = none ↔ queue.jobs = [] := by
  rw [dequeueUnderLock, ← List.length_eq_zero_iff, jobs_length]
  by_cases empty : queue.getUsed = 0
  · simp [empty]
  · simp [empty]

end JobQueueNaive

end DectNrp
