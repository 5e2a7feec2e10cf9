import DectNrp.TicketOrder
import DectNrp.WorkerMutexes

namespace DectNrp

/-!
# The order of jobs

The number of a job is a ticket.  Enqueuing issues it, a worker takes it by
dequeuing the job, and the end of its turn serves it.
-/

open Function (update update_of_ne update_self)

section

variable {Report : Type}
variable {config : WorkerPoolConfig}

namespace WorkerPool

/-- The numbers of the jobs as tickets of the workers. -/
def tickets
    (config : WorkerPoolConfig)
    (pool : WorkerPool Report) :
    TicketOrder.Tickets Nat where
  issued := pool.shared.queue.fifoCnt
  takers := pool.shared.dequeued.map Prod.fst
  served := pool.shared.token.fifoCnt config.tokenCallId
  holding id := (pool.workers id).job?.map Job.fifoCnt

/-- Jobs of the queue, of the workers and of the history fit together. -/
structure JobInvariant
    (config : WorkerPoolConfig)
    (pool : WorkerPool Report) :
    Prop where
  fifoCnt_eq :
    pool.shared.queue.fifoCnt = pool.shared.enqueued.length
  jobSlotVecCnt_eq :
    pool.shared.queue.jobSlotVecCnt = pool.shared.queue.jobs.length
  /-- Every job is numbered by its position and has a report. -/
  numbered :
    ∀ (number : Nat) (job : Job Report),
      pool.shared.enqueued[number]? = some job →
        job.fifoCnt = number ∧ job.content ≠ .monostate
  /-- Every job was dequeued once or is in the queue. -/
  split :
    pool.shared.enqueued =
      pool.shared.dequeued.map Prod.snd ++ pool.shared.queue.jobs
  tickets : TicketOrder.Invariant (pool.tickets config)
  /-- A worker has the job that it dequeued. -/
  jobs :
    ∀ id job, (pool.workers id).job? = some job →
      pool.shared.dequeued[job.fifoCnt]? = some (id, job)
  turn :
    ∀ id job, (pool.workers id).turn? = some job →
      job.fifoCnt = pool.shared.token.fifoCnt config.tokenCallId
  /-- Turns are taken in the order of dequeuing. -/
  turns :
    pool.shared.turns.map Prod.fst =
      pool.shared.dequeued.take pool.shared.turns.length
  between :
    (∀ id, (pool.workers id).current? = none) →
      pool.shared.turns.length =
        pool.shared.token.fifoCnt config.tokenCallId
  during :
    ∀ id job, (pool.workers id).current? = some job →
      pool.shared.turns.length =
        pool.shared.token.fifoCnt config.tokenCallId + 1
  producers :
    ∀ id content,
      pool.producers id = .permitted content ∨
          pool.producers id = .locked content →
        content ≠ .monostate

end WorkerPool

/-- The queue, its history and the number of the turn are the same. -/
structure SameJobs
    (config : WorkerPoolConfig)
    (before after : Shared Report) :
    Prop where
  queue : after.queue = before.queue
  enqueued : after.enqueued = before.enqueued
  dequeued : after.dequeued = before.dequeued
  turns : after.turns = before.turns
  served :
    after.token.fifoCnt config.tokenCallId =
      before.token.fifoCnt config.tokenCallId

/-- What a step of a worker does to the jobs. -/
inductive JobEffect
    (config : WorkerPoolConfig)
    (id : Nat)
    (shared : Shared Report) :
    WorkerPc Report → Shared Report → WorkerPc Report → Prop where
  | quiet
      (pc pcAfter : WorkerPc Report)
      (sharedAfter : Shared Report)
      (same : SameJobs config shared sharedAfter)
      (job : pcAfter.job? = pc.job?)
      (current : pcAfter.current? = pc.current?)
      (turn :
        ∀ job, pcAfter.turn? = some job →
          pc.turn? = some job ∨
            job.fifoCnt = shared.token.fifoCnt config.tokenCallId) :
      JobEffect config id shared pc sharedAfter pcAfter
  | dequeue
      (job : Job Report)
      (queue : JobQueueNaive Report)
      (returned : shared.queue.dequeueUnderLock = some (job, queue)) :
      JobEffect config id shared .queueLocked
        { shared with
          queue := queue
          dequeued := shared.dequeued ++ [(id, job)] }
        (.dequeued job)
  | start
      (job : Job Report)
      (call : Option FirmwareCall)
      (token : Token)
      (tokenOwner : Option Party)
      (free : shared.tokenOwner = none)
      (counts : token.fifoCnt = shared.token.fifoCnt) :
      JobEffect config id shared (.fifoReached job)
        { shared with
          token := token
          tokenOwner := tokenOwner
          turns := shared.turns ++ [((id, job), call)] }
        (.inFifo job call)
  | finish
      (job : Job Report)
      (call : Option FirmwareCall)
      (calls : List FirmwareCall)
      (token : Token)
      (tokenOwner : Option Party)
      (counts :
        token.fifoCnt =
          Function.update shared.token.fifoCnt config.tokenCallId
            (shared.token.fifoCnt config.tokenCallId + 1)) :
      JobEffect config id shared (.inFifo job call)
        { shared with
          token := token
          tokenOwner := tokenOwner }
        (.following calls)

theorem WorkerStep.jobEffect
    {id : Nat}
    {shared sharedAfter : Shared Report}
    {pc pcAfter : WorkerPc Report}
    (step : WorkerStep config id shared pc sharedAfter pcAfter)
    (holder :
      pc.holdsToken = true →
        shared.token.idHolder =
          if pc.isHolder then some config.tokenCallId else none) :
    JobEffect config id shared pc sharedAfter pcAfter := by
  cases step with
  | dequeue job queue someJob returned => exact .dequeue job queue returned
  | reachTurn job turn =>
      refine .quiet _ _ _ ⟨rfl, rfl, rfl, rfl, rfl⟩ rfl rfl ?_
      intro other isTurn
      cases isTurn
      exact Or.inr turn.symm
  | lockFifo job call token chosen free returned =>
      obtain ⟨_, rfl⟩ := Token.lock_eq_ok returned
      exact .start job call _ _ free rfl
  | unlockFifo job call calls token chosen returned =>
      obtain ⟨_, counts⟩ := Token.unlockFifo_eq_ok (holder rfl) returned
      exact .finish job call calls token _ counts
  | lock call calls token free returned =>
      obtain ⟨_, rfl⟩ := Token.lock_eq_ok returned
      exact .quiet _ _ _ ⟨rfl, rfl, rfl, rfl, rfl⟩ rfl rfl nofun
  | _ => exact .quiet _ _ _ ⟨rfl, rfl, rfl, rfl, rfl⟩ rfl rfl nofun

namespace WorkerPool

theorem JobInvariant.new
    {capacity nPools : Nat}
    (positive : 0 < capacity)
    (uses : config.tokenCallId < nPools) :
    (WorkerPool.new capacity positive nPools :
      WorkerPool Report).JobInvariant config where
  fifoCnt_eq := rfl
  jobSlotVecCnt_eq := rfl
  numbered _ _ := nofun
  split := rfl
  tickets := .initial rfl (if_pos uses) fun _ => rfl
  jobs _ _ := nofun
  turn _ _ := nofun
  turns := rfl
  between _ := (if_pos uses).symm
  during _ _ := nofun
  producers id content producing := by
    rcases producing with permitted | locked
    · cases permitted
    · cases locked

variable {before after : WorkerPool Report}

/-- Steps that leave the jobs alone keep everything together. -/
theorem JobInvariant.quiet
    (invariant : before.JobInvariant config)
    (same : SameJobs config before.shared after.shared)
    (job : ∀ id, (after.workers id).job? = (before.workers id).job?)
    (current :
      ∀ id, (after.workers id).current? = (before.workers id).current?)
    (turn :
      ∀ id job, (after.workers id).turn? = some job →
        (before.workers id).turn? = some job ∨
          job.fifoCnt = before.shared.token.fifoCnt config.tokenCallId)
    (producers :
      ∀ id content,
        after.producers id = .permitted content ∨
            after.producers id = .locked content →
          content ≠ .monostate) :
    after.JobInvariant config := by
  have sameTickets : after.tickets config = before.tickets config := by
    simp only [WorkerPool.tickets, same.queue, same.dequeued, same.served, job]
  refine {
    fifoCnt_eq := ?_
    jobSlotVecCnt_eq := ?_
    numbered := ?_
    split := ?_
    tickets := sameTickets ▸ invariant.tickets
    jobs := ?_
    turn := ?_
    turns := ?_
    between := ?_
    during := ?_
    producers := producers
  }
  · rw [same.queue, same.enqueued]
    exact invariant.fifoCnt_eq
  · rw [same.queue]
    exact invariant.jobSlotVecCnt_eq
  · rw [same.enqueued]
    exact invariant.numbered
  · rw [same.enqueued, same.dequeued, same.queue]
    exact invariant.split
  · intro id held
    rw [job, same.dequeued]
    exact invariant.jobs id held
  · intro id held isTurn
    rw [same.served]
    rcases turn id held isTurn with wasTurn | reached
    · exact invariant.turn id held wasTurn
    · exact reached
  · rw [same.turns, same.dequeued]
    exact invariant.turns
  · intro noCurrent
    rw [same.turns, same.served]
    exact invariant.between fun id => (current id).symm.trans (noCurrent id)
  · intro id held isCurrent
    rw [same.turns, same.served]
    exact invariant.during id held ((current id).symm.trans isCurrent)

variable {pool : WorkerPool Report}

variable {job : Job Report}

theorem JobInvariant.next_number
    (invariant : pool.JobInvariant config)
    {rest : List (Job Report)}
    (jobs : pool.shared.queue.jobs = job :: rest) :
    pool.shared.enqueued[pool.shared.dequeued.length]? = some job ∧
      job.fifoCnt = pool.shared.dequeued.length := by
  have next :
      pool.shared.enqueued[pool.shared.dequeued.length]? = some job := by
    rw [invariant.split, jobs, List.getElem?_append_right (by simp)]
    simp
  exact ⟨next, (invariant.numbered _ _ next).1⟩

/-- Changing the program counter of a worker changes its ticket. -/
theorem holding_update
    (pool : WorkerPool Report)
    (id : Nat)
    (pc : WorkerPc Report) :
    (fun other =>
        (update pool.workers id pc other).job?.map Job.fifoCnt) =
      update
        (fun other => (pool.workers other).job?.map Job.fifoCnt) id
        (pc.job?.map Job.fifoCnt) := by
  funext other
  by_cases same : other = id
  · subst same
    simp only [update_self]
  · simp only [update_of_ne same]

variable {id : Nat}

variable {queue : JobQueueNaive Report}

/-- Enqueuing a job issues a ticket. -/
theorem JobInvariant.enqueue
    (invariant : pool.JobInvariant config)
    {content : JobContent Report}
    (producing : pool.producers id = .locked content)
    (returned :
      pool.shared.queue.enqueueUnderLock config.enableAssert content =
        .ok (true, queue)) :
    ({ pool with
      shared := { pool.shared with
        queue := queue
        enqueued :=
          pool.shared.enqueued ++ [⟨content, pool.shared.queue.fifoCnt⟩] }
      producers := update pool.producers id (.enqueued true) }
      : WorkerPool Report).JobInvariant config := by
  rcases JobQueueNaive.enqueueUnderLock_eq_ok returned with
      ⟨refused, _⟩ | ⟨_, jobs, fifoCnt, jobSlotVecCnt⟩
  · cases refused
  refine { invariant with
    fifoCnt_eq := ?_
    jobSlotVecCnt_eq := ?_
    numbered := ?_
    split := ?_
    tickets := ?_
    producers := ?_ }
  · change queue.fifoCnt = _
    rw [fifoCnt, invariant.fifoCnt_eq, List.length_append]
    rfl
  · change queue.jobSlotVecCnt = _
    rw [jobSlotVecCnt, jobs, invariant.jobSlotVecCnt_eq, List.length_append]
    rfl
  · intro number job isJob
    by_cases earlier : number < pool.shared.enqueued.length
    · rw [List.getElem?_append_left earlier] at isJob
      exact invariant.numbered number job isJob
    · rw [List.getElem?_append_right (Nat.le_of_not_lt earlier)] at isJob
      rw [List.getElem?_singleton] at isJob
      split at isJob
      · cases isJob
        have counted := invariant.fifoCnt_eq
        refine ⟨?_, invariant.producers id content (Or.inr producing)⟩
        dsimp only
        omega
      · cases isJob
  · change _ = _ ++ queue.jobs
    rw [jobs, invariant.split, List.append_assoc]
  · have step := TicketOrder.Step.issue (pool.tickets config)
    have issued := invariant.tickets.step step
    rw [WorkerPool.tickets] at issued ⊢
    dsimp only at issued ⊢
    rw [fifoCnt]
    exact issued
  · intro other otherContent producing
    by_cases same : other = id
    · subst same
      simp only [update_self] at producing
      rcases producing with permitted | locked
      · cases permitted
      · cases locked
    · simp only [update_of_ne same] at producing
      exact invariant.producers other otherContent producing

/-- Dequeuing a job takes its ticket. -/
theorem JobInvariant.dequeue
    (invariant : pool.JobInvariant config)
    (waiting : pool.workers id = .queueLocked)
    (returned : pool.shared.queue.dequeueUnderLock = some (job, queue)) :
    ({ pool with
      shared := { pool.shared with
        queue := queue
        dequeued := pool.shared.dequeued ++ [(id, job)] }
      workers := update pool.workers id (.dequeued job) }
      : WorkerPool Report).JobInvariant config := by
  obtain ⟨jobs, fifoCnt, jobSlotVecCnt⟩ :=
    JobQueueNaive.dequeueUnderLock_eq_some returned
  obtain ⟨next, number⟩ := invariant.next_number jobs
  have served := invariant.tickets.served_le
  refine { invariant with
    fifoCnt_eq := ?_
    jobSlotVecCnt_eq := ?_
    split := ?_
    tickets := ?_
    jobs := ?_
    turn := ?_
    turns := ?_
    between := ?_
    during := ?_ }
  · change queue.fifoCnt = _
    rw [fifoCnt, invariant.fifoCnt_eq]
  · change queue.jobSlotVecCnt = queue.jobs.length
    rw [jobSlotVecCnt, invariant.jobSlotVecCnt_eq, jobs]
    rfl
  · change pool.shared.enqueued = _ ++ queue.jobs
    rw [invariant.split, jobs, List.map_append, List.append_assoc]
    rfl
  · have empty : (pool.tickets config).holding id = none := by
      change (pool.workers id).job?.map Job.fifoCnt = none
      rw [waiting]
      rfl
    have available : (pool.tickets config).takers.length <
        (pool.tickets config).issued := by
      have inside := (List.getElem?_eq_some_iff.mp next).1
      rw [WorkerPool.tickets, List.length_map, invariant.fifoCnt_eq]
      exact inside
    have taken := invariant.tickets.step (.take _ id empty available)
    rw [WorkerPool.tickets] at taken ⊢
    dsimp only at taken ⊢
    rw [holding_update, fifoCnt, List.map_append]
    rw [List.length_map, ← number] at taken
    exact taken
  · intro other held isJob
    by_cases same : other = id
    · subst same
      simp only [update_self] at isJob
      cases isJob
      rw [number]
      simp
    · simp only [update_of_ne same] at isJob
      have earlier := invariant.jobs other held isJob
      have inside := (List.getElem?_eq_some_iff.mp earlier).1
      rw [List.getElem?_append_left inside]
      exact earlier
  · intro other held isTurn
    by_cases same : other = id
    · subst same
      simp only [update_self] at isTurn
      cases isTurn
    · simp only [update_of_ne same] at isTurn
      exact invariant.turn other held isTurn
  · have bounded : pool.shared.turns.length ≤ pool.shared.dequeued.length := by
      have lengths := congrArg List.length invariant.turns
      rw [List.length_map, List.length_take] at lengths
      omega
    change pool.shared.turns.map Prod.fst =
      (pool.shared.dequeued ++ [(id, job)]).take pool.shared.turns.length
    rw [List.take_append_of_le_length bounded]
    exact invariant.turns
  · intro noCurrent
    refine invariant.between fun other => ?_
    by_cases same : other = id
    · subst same
      rw [waiting]
      rfl
    · have noOther := noCurrent other
      simp only [update_of_ne same] at noOther
      exact noOther
  · intro other held isCurrent
    by_cases same : other = id
    · subst same
      simp only [update_self] at isCurrent
      cases isCurrent
    · simp only [update_of_ne same] at isCurrent
      exact invariant.during other held isCurrent

/-- A worker whose turn has come has the job after those of all turns. -/
theorem JobInvariant.start
    {pool : WorkerPool Report}
    (invariant : pool.JobInvariant config)
    {id : Nat}
    {job : Job Report}
    {call : Option FirmwareCall}
    {token : Token}
    {tokenOwner : Option Party}
    (reached : pool.workers id = .fifoReached job)
    (nobody : ∀ other, (pool.workers other).current? = none)
    (counts : token.fifoCnt = pool.shared.token.fifoCnt) :
    ({ pool with
      shared := { pool.shared with
        token := token
        tokenOwner := tokenOwner
        turns := pool.shared.turns ++ [((id, job), call)] }
      workers := update pool.workers id (.inFifo job call) }
      : WorkerPool Report).JobInvariant config := by
  have isJob : (pool.workers id).job? = some job := by
    rw [reached]
    rfl
  have isTurn : (pool.workers id).turn? = some job := by
    rw [reached]
    rfl
  have dequeued := invariant.jobs id job isJob
  have served := invariant.turn id job isTurn
  have turnsLength := invariant.between nobody
  have sameHolding : (fun other =>
      (update pool.workers id (.inFifo job call) other).job?.map Job.fifoCnt) =
        fun other => (pool.workers other).job?.map Job.fifoCnt := by
    rw [holding_update]
    refine Function.update_eq_self_iff.mpr ?_
    rw [isJob]
    rfl
  refine { invariant with
    tickets := ?_
    jobs := ?_
    turn := ?_
    turns := ?_
    between := ?_
    during := ?_ }
  · have same := invariant.tickets
    rw [WorkerPool.tickets] at same ⊢
    dsimp only at same ⊢
    rw [sameHolding, counts]
    exact same
  · intro other held isOther
    by_cases same : other = id
    · subst same
      simp only [update_self] at isOther
      cases isOther
      exact dequeued
    · simp only [update_of_ne same] at isOther
      exact invariant.jobs other held isOther
  · intro other held isOther
    change held.fifoCnt = token.fifoCnt config.tokenCallId
    rw [counts]
    by_cases same : other = id
    · subst same
      simp only [update_self] at isOther
      cases isOther
      exact served
    · simp only [update_of_ne same] at isOther
      exact invariant.turn other held isOther
  · change (pool.shared.turns ++ [((id, job), call)]).map Prod.fst =
      pool.shared.dequeued.take
        (pool.shared.turns ++ [((id, job), call)]).length
    rw [served, ← turnsLength] at dequeued
    rw [List.map_append, List.length_append, invariant.turns,
      List.length_singleton, List.take_add_one, dequeued]
    rfl
  · intro noCurrent
    have noOwn := noCurrent id
    simp only [update_self] at noOwn
    cases noOwn
  · intro other held isCurrent
    change (pool.shared.turns ++ [((id, job), call)]).length =
      token.fifoCnt config.tokenCallId + 1
    rw [counts, ← turnsLength, List.length_append, List.length_singleton]

/-- The end of a turn serves the ticket of its job. -/
theorem JobInvariant.finish
    (invariant : pool.JobInvariant config)
    {call : Option FirmwareCall}
    {calls : List FirmwareCall}
    {token : Token}
    {tokenOwner : Option Party}
    (taking : pool.workers id = .inFifo job call)
    (counts :
      token.fifoCnt =
        update pool.shared.token.fifoCnt config.tokenCallId
          (pool.shared.token.fifoCnt config.tokenCallId + 1)) :
    ({ pool with
      shared := { pool.shared with
        token := token
        tokenOwner := tokenOwner }
      workers := update pool.workers id (.following calls) }
      : WorkerPool Report).JobInvariant config := by
  have isJob : (pool.workers id).job? = some job := by
    rw [taking]
    rfl
  have isTurn : (pool.workers id).turn? = some job := by
    rw [taking]
    rfl
  have isCurrent : (pool.workers id).current? = some job := by
    rw [taking]
    rfl
  have served := invariant.turn id job isTurn
  have holds : (pool.tickets config).holding id =
      some (pool.tickets config).served := by
    change (pool.workers id).job?.map Job.fifoCnt = some _
    rw [isJob, Option.map_some, served]
    rfl
  have servedAfter : token.fifoCnt config.tokenCallId =
      pool.shared.token.fifoCnt config.tokenCallId + 1 := by
    rw [counts, update_self]
  -- the job whose turn it is belongs to one worker only
  have onlyTurn : ∀ other, other ≠ id → (pool.workers other).turn? = none := by
    intro other different
    cases turn : (pool.workers other).turn? with
    | none => rfl
    | some held =>
        have heldServed := invariant.turn other held turn
        have heldJob : (pool.workers other).job? = some held := by
          revert turn
          cases pool.workers other <;> simp [WorkerPc.turn?, WorkerPc.job?]
        have otherHolds : (pool.tickets config).holding other =
            some (pool.tickets config).served := by
          change (pool.workers other).job?.map Job.fifoCnt = some _
          rw [heldJob, Option.map_some, heldServed]
          rfl
        exact absurd
          (invariant.tickets.holder_unique otherHolds holds) different
  refine { invariant with
    tickets := ?_
    jobs := ?_
    turn := ?_
    turns := ?_
    between := ?_
    during := ?_ }
  · have step := invariant.tickets.step (.serve _ id holds)
    rw [WorkerPool.tickets] at step ⊢
    dsimp only at step ⊢
    rw [holding_update, servedAfter]
    exact step
  · intro other held isOther
    by_cases same : other = id
    · subst same
      simp only [update_self] at isOther
      cases isOther
    · simp only [update_of_ne same] at isOther
      exact invariant.jobs other held isOther
  · intro other held isOther
    by_cases same : other = id
    · subst same
      simp only [update_self] at isOther
      cases isOther
    · simp only [update_of_ne same] at isOther
      rw [onlyTurn other same] at isOther
      cases isOther
  · exact invariant.turns
  · intro _
    exact (invariant.during id job isCurrent).trans servedAfter.symm
  · intro other held isOther
    by_cases same : other = id
    · subst same
      simp only [update_self] at isOther
      cases isOther
    · simp only [update_of_ne same] at isOther
      have alsoTurn : (pool.workers other).turn? = some held := by
        revert isOther
        cases pool.workers other <;> simp [WorkerPc.turn?, WorkerPc.current?]
      rw [onlyTurn other same] at alsoTurn
      cases alsoTurn

/-- While the token is free, no turn is being taken. -/
theorem MutexInvariant.nobody
    (mutexes : pool.MutexInvariant config)
    (free : pool.shared.tokenOwner = none)
    (id : Nat) :
    (pool.workers id).current? = none := by
  have agrees := mutexes.token
  rw [free] at agrees
  have notHeld := agrees.free (.worker id)
  change (pool.workers id).holdsToken = false at notHeld
  revert notHeld
  cases pool.workers id <;> simp [WorkerPc.holdsToken, WorkerPc.current?]

variable {shared : Shared Report}

/-- A step of a worker keeps the jobs together. -/
theorem JobInvariant.worker
    (invariant : pool.JobInvariant config)
    (mutexes : pool.MutexInvariant config)
    {pc : WorkerPc Report}
    (step : WorkerStep config id pool.shared (pool.workers id) shared pc) :
    ({ pool with
      shared := shared
      workers := update pool.workers id pc }
      : WorkerPool Report).JobInvariant config := by
  have effect := step.jobEffect (mutexes.holder id)
  generalize before : pool.workers id = pcBefore at effect
  cases effect with
  | quiet _ _ _ same job current turn =>
      subst before
      refine invariant.quiet same (fun other => ?_) (fun other => ?_)
        (fun other held isTurn => ?_) invariant.producers
      · by_cases own : other = id
        · subst own
          simpa using job
        · simp [own]
      · by_cases own : other = id
        · subst own
          simpa using current
        · simp [own]
      · by_cases own : other = id
        · subst own
          simp only [update_self] at isTurn
          exact turn held isTurn
        · simp only [update_of_ne own] at isTurn
          exact Or.inl isTurn
  | dequeue job queue returned => exact invariant.dequeue before returned
  | start job call token tokenOwner free counts =>
      exact invariant.start before (mutexes.nobody free) counts
  | finish job call calls token tokenOwner counts =>
      exact invariant.finish before counts

/-- A step of a producer keeps the jobs together. -/
theorem JobInvariant.producer
    (invariant : pool.JobInvariant config)
    {pc : ProducerPc Report}
    (step : ProducerStep config id pool.shared (pool.producers id) shared pc) :
    ({ pool with
      shared := shared
      producers := update pool.producers id pc }
      : WorkerPool Report).JobInvariant config := by
  have quiet (same : SameJobs config pool.shared shared) (reports :
      ∀ content, pc = .permitted content ∨ pc = .locked content →
        content ≠ .monostate) :
      ({ pool with
        shared := shared
        producers := update pool.producers id pc }
        : WorkerPool Report).JobInvariant config := by
    refine invariant.quiet same (fun _ => rfl) (fun _ => rfl)
      (fun _ _ => Or.inl) fun other content producing => ?_
    by_cases own : other = id
    · subst own
      simp only [update_self] at producing
      exact reports content producing
    · simp only [update_of_ne own] at producing
      exact invariant.producers other content producing
  generalize before : pool.producers id = pcBefore at step
  cases step with
  | refuse impermeable =>
      refine quiet ⟨rfl, rfl, rfl, rfl, rfl⟩ fun _ producing => ?_
      rcases producing with permitted | locked
      · cases permitted
      · cases locked
  | permit content hasReport permeable =>
      refine quiet ⟨rfl, rfl, rfl, rfl, rfl⟩ fun _ producing => ?_
      rcases producing with permitted | locked
      · cases permitted
        exact hasReport
      · cases locked
  | lockQueue content free =>
      refine quiet ⟨rfl, rfl, rfl, rfl, rfl⟩ fun _ producing => ?_
      rcases producing with permitted | locked
      · cases permitted
      · cases locked
        exact invariant.producers id content (Or.inl before)
  | enqueue content queue returned => exact invariant.enqueue before returned
  | discard content queue returned =>
      rcases JobQueueNaive.enqueueUnderLock_eq_ok returned with
          ⟨_, rfl⟩ | ⟨accepted, _⟩
      · refine quiet ⟨rfl, rfl, rfl, rfl, rfl⟩ fun _ producing => ?_
        rcases producing with permitted | locked
        · cases permitted
        · cases locked
      · cases accepted
  | unlockQueue ret =>
      refine quiet ⟨rfl, rfl, rfl, rfl, rfl⟩ fun _ producing => ?_
      rcases producing with permitted | locked
      · cases permitted
      · cases locked

/-- Every step keeps the jobs together. -/
theorem JobInvariant.step
    (invariant : before.JobInvariant config)
    (mutexes : before.MutexInvariant config)
    (step : PoolStep config before after) :
    after.JobInvariant config := by
  cases step with
  | worker id shared pc step => exact invariant.worker mutexes step
  | producer id shared pc step => exact invariant.producer step
  | other shared pc step =>
      obtain ⟨token, tokenOwner, rfl, served⟩ := step.shared_eq
      exact invariant.quiet ⟨rfl, rfl, rfl, rfl, served⟩
        (fun _ => rfl) (fun _ => rfl) (fun _ _ => Or.inl)
        invariant.producers
  | setPermeable permeable =>
      exact invariant.quiet ⟨rfl, rfl, rfl, rfl, rfl⟩
        (fun _ => rfl) (fun _ => rfl) (fun _ _ => Or.inl)
        invariant.producers

/-- What holds in every run. -/
structure Invariant
    (config : WorkerPoolConfig)
    (pool : WorkerPool Report) :
    Prop where
  mutexes : pool.MutexInvariant config
  jobs : pool.JobInvariant config

/-- Every run keeps the invariant. -/
theorem Invariant.run
    {first last : WorkerPool Report}
    (invariant : first.Invariant config)
    (run : Relation.ReflTransGen (PoolStep config) first last) :
    last.Invariant config := by
  induction run with
  | refl => exact invariant
  | tail _ step hypothesis =>
      exact ⟨hypothesis.mutexes.step step,
        hypothesis.jobs.step hypothesis.mutexes step⟩

end WorkerPool

end

end DectNrp
