import DectNrp.JobOrder

namespace DectNrp

/-!
# The firmware sees jobs in order

Turns are taken in the order of enqueuing, one at a time.  Whoever waits for
its turn waits for another worker, and the workers can always bring this turn
about.
-/

open Function (update_self)

section

variable {Report : Type}
variable {config : WorkerPoolConfig}

namespace WorkerPool

/-- Number of the job whose turn it is. -/
def served
    (config : WorkerPoolConfig)
    (pool : WorkerPool Report) :
    Nat :=
  pool.shared.token.fifoCnt config.tokenCallId

/-- Steps of the threads may lead to the turn of the given job. -/
def CanServe
    (config : WorkerPoolConfig)
    (pool : WorkerPool Report)
    (number : Nat) :
    Prop :=
  ∃ last,
    Relation.ReflTransGen (PoolStep config) pool last ∧
      last.served config = number

/-- A step towards the turn of a job. -/
theorem CanServe.step
    {pool next : WorkerPool Report}
    {number : Nat}
    (step : PoolStep config pool next)
    (canServe : next.CanServe config number) :
    pool.CanServe config number := by
  obtain ⟨last, run, served⟩ := canServe
  exact ⟨last, .head step run, served⟩

variable {id : Nat}

variable
  {shared : Shared Report}
  {pc pcAfter : WorkerPc Report}

/-- A step of a worker with a given program counter. -/
theorem workerStep
    (config : WorkerPoolConfig)
    {pool : WorkerPool Report}
    (current : pool.workers id = pc)
    (step : WorkerStep config id pool.shared pc shared pcAfter) :
    PoolStep config pool { pool with
      shared := shared
      workers := Function.update pool.workers id pcAfter } :=
  .worker pool id shared pcAfter (current.symm ▸ step)

variable {pool : WorkerPool Report}

variable {job : Job Report}

/-- The entry check of a worker never fails. -/
theorem Invariant.checkFifo
    (invariant : pool.Invariant config)
    (has : (pool.workers id).job? = some job) :
    pool.shared.token.checkFifo config.tokenCallId job.fifoCnt = .ok () := by
  have holds : (pool.tickets config).holding id = some job.fifoCnt := by
    change (pool.workers id).job?.map Job.fifoCnt = some _
    rw [has]
    rfl
  have notServed := ((invariant.jobs.tickets.holding_iff _ _).mp holds).1
  rw [Token.checkFifo, dectnrpAssert_eq_ok]
  exact decide_eq_true notServed

/-- A worker becomes the holder of a free token. -/
theorem Invariant.lock
    (invariant : pool.Invariant config)
    (free : pool.shared.tokenOwner = none) :
    pool.shared.token.lock config.tokenCallId =
      .ok { pool.shared.token with idHolder := some config.tokenCallId } := by
  rw [Token.lock, invariant.mutexes.free free]
  rfl

variable {call : Option FirmwareCall}

/-- A worker in its turn can end it. -/
theorem Invariant.unlockFifo
    (invariant : pool.Invariant config)
    (taking : pool.workers id = .inFifo job call) :
    ∃ token,
      pool.shared.token.unlockFifo = .ok token ∧
        token.fifoCnt config.tokenCallId = pool.served config + 1 := by
  have holder := invariant.mutexes.holder id
  rw [taking] at holder
  have isHolder := holder rfl
  have unlocked : pool.shared.token.unlockFifo = .ok ({ pool.shared.token with
      fifoCnt :=
        Function.update pool.shared.token.fifoCnt config.tokenCallId
          (pool.shared.token.fifoCnt config.tokenCallId + 1) }
      : Token).unlock := by
    rw [Token.unlockFifo, isHolder]
    rfl
  exact ⟨_, unlocked, update_self _ _ _⟩

theorem nil_mem_followingCalls (call : Option FirmwareCall) :
    [] ∈ followingCalls call := by
  rcases call with _ | call
  · decide
  · cases call <;> decide

theorem exists_fifoCalls
    (config : WorkerPoolConfig)
    {content : JobContent Report}
    (reports : content ≠ .monostate) :
    ∃ call, call ∈ fifoCalls config content := by
  cases content with
  | monostate => exact absurd rfl reports
  | _ => exact ⟨_, List.mem_cons_self⟩

/-- A job of a worker has a report. -/
theorem Invariant.reports
    (invariant : pool.Invariant config)
    (has : (pool.workers id).job? = some job) :
    job.content ≠ .monostate := by
  have dequeued := invariant.jobs.jobs id job has
  have enqueued : pool.shared.enqueued[job.fifoCnt]? = some job := by
    have inside := (List.getElem?_eq_some_iff.mp dequeued).1
    rw [invariant.jobs.split,
      List.getElem?_append_left (by simpa using inside),
      List.getElem?_map, dequeued]
    rfl
  exact (invariant.jobs.numbered _ _ enqueued).2

/-- A worker in its turn ends it. -/
theorem Invariant.canServe_inFifo
    (invariant : pool.Invariant config)
    (taking : pool.workers id = .inFifo job call) :
    pool.CanServe config (pool.served config + 1) := by
  obtain ⟨token, returned, served⟩ := invariant.unlockFifo taking
  have step :=
    workerStep config taking (.unlockFifo _ job call [] token
      (nil_mem_followingCalls call) returned)
  exact ⟨_, .single step, served⟩

/-- A worker whose turn has come takes it as soon as the token is free. -/
theorem Invariant.canServe_fifoReached
    (invariant : pool.Invariant config)
    (reached : pool.workers id = .fifoReached job)
    (free : pool.shared.tokenOwner = none) :
    pool.CanServe config (pool.served config + 1) := by
  have has : (pool.workers id).job? = some job := by
    rw [reached]
    rfl
  obtain ⟨call, chosen⟩ := exists_fifoCalls config (invariant.reports has)
  have poolStep :=
    workerStep config reached
      (.lockFifo _ job call _ chosen free (invariant.lock free))
  refine .step poolStep ?_
  exact (invariant.run (.single poolStep)).canServe_inFifo
    (update_self _ _ _)

/-- A worker that has the mutex notices that its turn has come. -/
theorem Invariant.canServe_fifoLocked
    (invariant : pool.Invariant config)
    (locked : pool.workers id = .fifoLocked job)
    (turn : job.fifoCnt = pool.served config) :
    pool.CanServe config (pool.served config + 1) := by
  have poolStep := workerStep config locked (.reachTurn _ job turn.symm)
  refine .step poolStep ?_
  exact (invariant.run (.single poolStep)).canServe_fifoReached
    (update_self _ _ _) rfl

/-- A worker before its turn tries to lock the token. -/
theorem Invariant.canServe_preparing
    (invariant : pool.Invariant config)
    (preparing : pool.workers id = .preparing job)
    (turn : job.fifoCnt = pool.served config)
    (free : pool.shared.tokenOwner = none) :
    pool.CanServe config (pool.served config + 1) := by
  have has : (pool.workers id).job? = some job := by
    rw [preparing]
    rfl
  have poolStep :=
    workerStep config preparing
      (.enterFifo _ job free (invariant.checkFifo has))
  refine .step poolStep ?_
  exact (invariant.run (.single poolStep)).canServe_fifoLocked
    (update_self _ _ _) turn

/-- The worker whose turn it is takes it as soon as the token is free. -/
theorem Invariant.canServe_free
    {pool : WorkerPool Report}
    (invariant : pool.Invariant config)
    {id : Nat}
    {job : Job Report}
    (has : (pool.workers id).job? = some job)
    (turn : job.fifoCnt = pool.served config)
    (free : pool.shared.tokenOwner = none) :
    pool.CanServe config (pool.served config + 1) := by
  have notHeld : (pool.workers id).holdsToken = false := by
    have agrees := invariant.mutexes.token
    rw [free] at agrees
    exact agrees.free (.worker id)
  cases pc : pool.workers id with
  | dequeued own =>
      rw [pc] at has
      cases has
      have poolStep := workerStep config pc (.unlockQueue _ job)
      refine .step poolStep ?_
      exact (invariant.run (.single poolStep)).canServe_preparing
        (update_self _ _ _) turn free
  | preparing own =>
      rw [pc] at has
      cases has
      exact invariant.canServe_preparing pc turn free
  | fifoWaiting own =>
      rw [pc] at has
      cases has
      have poolStep := workerStep config pc (.wakeForTurn _ job free)
      refine .step poolStep ?_
      exact (invariant.run (.single poolStep)).canServe_fifoLocked
        (update_self _ _ _) turn
  | fifoReached own =>
      rw [pc] at has
      cases has
      exact invariant.canServe_fifoReached pc free
  | fifoLocked own =>
      rw [pc] at notHeld
      cases notHeld
  | fifoTimedOut own =>
      rw [pc] at notHeld
      cases notHeld
  | inFifo own call =>
      rw [pc] at notHeld
      cases notHeld
  | _ =>
      rw [pc] at has
      cases has

/-- A worker that gives up the mutex of the token lets the next one in. -/
theorem Invariant.canServe_release
    (invariant : pool.Invariant config)
    (has : (pool.workers id).job? = some job)
    (turn : job.fifoCnt = pool.served config)
    {owner : Nat}
    (current : pool.workers owner = pc)
    (step : WorkerStep config owner pool.shared pc shared pcAfter)
    (free : shared.tokenOwner = none)
    (sameJob : pcAfter.job? = pc.job?)
    (sameCount :
      shared.token.fifoCnt config.tokenCallId = pool.served config) :
    pool.CanServe config (pool.served config + 1) := by
  have poolStep := workerStep config current step
  refine .step poolStep ?_
  have hasAfter :
      (Function.update pool.workers owner pcAfter id).job? = some job := by
    by_cases same : id = owner
    · subst same
      rw [update_self, sameJob, ← current, has]
    · rw [Function.update_of_ne same, has]
  have canServe :=
    @canServe_free _ _ _ (invariant.run (.single poolStep)) id job
      hasAfter (turn.trans sameCount.symm) free
  change CanServe config _ (shared.token.fifoCnt config.tokenCallId + 1)
    at canServe
  rw [sameCount] at canServe
  exact canServe

theorem Invariant.canServe_next
    (invariant : pool.Invariant config)
    (has : (pool.workers id).job? = some job)
    (turn : job.fifoCnt = pool.served config) :
    pool.CanServe config (pool.served config + 1) := by
  cases owner : pool.shared.tokenOwner with
  | none => exact invariant.canServe_free has turn owner
  | some party =>
      have held := (invariant.mutexes.token party).mpr owner
      cases party with
      | producer producer => cases held
      | other =>
          have inside : pool.other = .inside := of_decide_eq_true held
          have step : OtherStep config pool.shared pool.other
              { pool.shared with
                token := pool.shared.token.unlock
                tokenOwner := none } .away := by
            rw [inside]
            exact .unlock _
          have poolStep := PoolStep.other pool _ _ step
          refine .step poolStep ?_
          exact (invariant.run (.single poolStep)).canServe_free has turn rfl
      | worker worker =>
          change (pool.workers worker).holdsToken = true at held
          cases pc : pool.workers worker with
          | fifoLocked own =>
              by_cases reached :
                  pool.shared.token.fifoCnt config.tokenCallId = own.fifoCnt
              · exact invariant.canServe_release has turn pc
                  (.reachTurn _ own reached) rfl rfl rfl
              · exact invariant.canServe_release has turn pc
                  (.waitForTurn _ own reached) rfl rfl rfl
          | fifoTimedOut own =>
              exact invariant.canServe_release has turn pc
                (.retryFifo _ own) rfl rfl rfl
          | inFifo own call => exact invariant.canServe_inFifo pc
          | inCall call calls =>
              exact invariant.canServe_release has turn pc
                (.unlock _ call calls) rfl rfl rfl
          | _ =>
              rw [pc] at held
              cases held

theorem dequeued_leads_step
    {before after : WorkerPool Report}
    (step : PoolStep config before after) :
    before.shared.dequeued <+: after.shared.dequeued := by
  cases step with
  | worker id shared pc step =>
      generalize before.workers id = pcBefore at step
      cases step with
      | dequeue job queue someJob returned => exact List.prefix_append _ _
      | _ => exact List.prefix_rfl
  | producer id shared pc step =>
      generalize before.producers id = pcBefore at step
      cases step <;> exact List.prefix_rfl
  | other shared pc step =>
      generalize before.other = pcBefore at step
      cases step <;> exact List.prefix_rfl
  | setPermeable permeable => exact List.prefix_rfl

theorem dequeued_leads
    {first last : WorkerPool Report}
    (run : Relation.ReflTransGen (PoolStep config) first last) :
    first.shared.dequeued <+: last.shared.dequeued := by
  induction run with
  | refl => exact List.prefix_rfl
  | tail _ step hypothesis => exact hypothesis.trans (dequeued_leads_step step)

/-- The turns of all jobs that workers have can be brought about. -/
theorem Invariant.canServe
    (invariant : pool.Invariant config)
    {number : Nat}
    (notServed : pool.served config ≤ number)
    (dequeued : number ≤ pool.shared.dequeued.length) :
    pool.CanServe config number := by
  obtain ⟨turns, rfl⟩ := Nat.exists_eq_add_of_le notServed
  clear notServed
  induction turns with
  | zero => exact ⟨pool, .refl, rfl⟩
  | succ turns hypothesis =>
      obtain ⟨middle, run, served⟩ := hypothesis (by omega)
      have middleInvariant := invariant.run run
      have taken :
          middle.served config < (middle.tickets config).takers.length := by
        have grown := (dequeued_leads run).length_le
        rw [served]
        change _ < (middle.shared.dequeued.map Prod.fst).length
        rw [List.length_map]
        omega
      obtain ⟨id, holds⟩ :=
        middleInvariant.jobs.tickets.exists_holder le_rfl taken
      obtain ⟨job, has, turn⟩ := Option.map_eq_some_iff.mp holds
      obtain ⟨last, rest, next⟩ := middleInvariant.canServe_next has turn
      exact ⟨last, run.trans rest, by rw [next, served]; rfl⟩

/-- The order in which workers process the jobs. -/
structure FirmwareOrder
    (config : WorkerPoolConfig)
    (pool : WorkerPool Report) :
    Prop where
  /-- Numbers are neither skipped nor issued twice. -/
  numbered :
    pool.shared.queue.fifoCnt = pool.shared.enqueued.length ∧
      ∀ (number : Nat) (job : Job Report),
        pool.shared.enqueued[number]? = some job →
          job.fifoCnt = number
  /-- Every job was dequeued by one worker or is still in the queue. -/
  dequeuedOnce :
    pool.shared.enqueued =
      pool.shared.dequeued.map Prod.snd ++ pool.shared.queue.jobs
  /-- The worker that dequeued a job takes its turn, in this order. -/
  inOrder :
    pool.shared.turns.map Prod.fst =
      pool.shared.dequeued.take pool.shared.turns.length
  withoutGaps :
    ∀ (number : Nat) turn,
      pool.shared.turns[number]? = some turn →
        turn.1.2.fifoCnt = number
  /-- At most one worker is in a call of the firmware. -/
  oneAtATime :
    ∀ first second,
      (pool.workers first).isHolder = true →
        (pool.workers second).isHolder = true →
          first = second
  /-- The numbers that are out form an interval. -/
  outstanding :
    ∀ number,
      ((∃ id job, (pool.workers id).job? = some job ∧
          job.fifoCnt = number) ∨
          ∃ job ∈ pool.shared.queue.jobs, job.fifoCnt = number) ↔
        pool.served config ≤ number ∧
          number < pool.shared.queue.fifoCnt
  /-- A number that is out belongs to one worker or to the queue. -/
  oneHolder :
    ∀ id job, (pool.workers id).job? = some job →
      (∀ other otherJob, (pool.workers other).job? = some otherJob →
        otherJob.fifoCnt = job.fifoCnt → other = id) ∧
      ∀ queued ∈ pool.shared.queue.jobs,
        queued.fifoCnt ≠ job.fifoCnt
  /-- Whoever waits for its turn waits for another worker to end its turn. -/
  waits :
    ∀ id job, (pool.workers id).job? = some job →
      job.fifoCnt ≠ pool.served config →
        (∃ other otherJob, other ≠ id ∧
          (pool.workers other).job? = some otherJob ∧
          otherJob.fifoCnt + 1 = job.fifoCnt) ∧
        pool.CanServe config job.fifoCnt

/-- Jobs in the queue are numbered from the number of dequeued jobs on. -/
theorem Invariant.exists_queued_iff
    (invariant : pool.Invariant config)
    (number : Nat) :
    (∃ job ∈ pool.shared.queue.jobs, job.fifoCnt = number) ↔
      pool.shared.dequeued.length ≤ number ∧
        number < pool.shared.queue.fifoCnt := by
  have lengths := congrArg List.length invariant.jobs.split
  rw [List.length_append, List.length_map] at lengths
  have queued (position : Nat) : pool.shared.queue.jobs[position]? =
      pool.shared.enqueued[pool.shared.dequeued.length + position]? := by
    rw [invariant.jobs.split, List.getElem?_append_right (by simp)]
    simp
  rw [invariant.jobs.fifoCnt_eq]
  constructor
  · rintro ⟨job, member, rfl⟩
    obtain ⟨position, isJob⟩ := List.getElem?_of_mem member
    have inside := (List.getElem?_eq_some_iff.mp isJob).1
    rw [queued] at isJob
    have number := (invariant.jobs.numbered _ _ isJob).1
    omega
  · rintro ⟨notDequeued, issued⟩
    obtain ⟨position, rfl⟩ := Nat.exists_eq_add_of_le notDequeued
    have inside : position < pool.shared.queue.jobs.length := by omega
    have isJob := List.getElem?_eq_getElem inside
    refine ⟨_, List.getElem_mem inside, ?_⟩
    rw [queued] at isJob
    exact (invariant.jobs.numbered _ _ isJob).1

theorem Invariant.firmwareOrder (invariant : pool.Invariant config) :
    pool.FirmwareOrder config where
  numbered :=
    ⟨invariant.jobs.fifoCnt_eq, fun number job isJob =>
      (invariant.jobs.numbered number job isJob).1⟩
  dequeuedOnce := invariant.jobs.split
  inOrder := invariant.jobs.turns
  withoutGaps number turn isTurn := by
    have inside := (List.getElem?_eq_some_iff.mp isTurn).1
    have dequeued : pool.shared.dequeued[number]? = some turn.1 := by
      have mapped := congrArg (·[number]?) invariant.jobs.turns
      simp only [List.getElem?_map, isTurn, Option.map_some,
        List.getElem?_take, inside, ↓reduceIte] at mapped
      exact mapped.symm
    have dequeuedInside := (List.getElem?_eq_some_iff.mp dequeued).1
    have enqueued : pool.shared.enqueued[number]? = some turn.1.2 := by
      rw [invariant.jobs.split,
        List.getElem?_append_left (by simpa using dequeuedInside),
        List.getElem?_map, dequeued]
      rfl
    exact (invariant.jobs.numbered _ _ enqueued).1
  oneAtATime first second firstHolds secondHolds := by
    have holdsToken (id : Nat) (holds : (pool.workers id).isHolder = true) :
        pool.holdsToken (.worker id) = true := by
      change (pool.workers id).holdsToken = true
      revert holds
      cases pool.workers id <;> simp [WorkerPc.isHolder, WorkerPc.holdsToken]
    have same :=
      invariant.mutexes.token.exclusive (holdsToken first firstHolds)
        (holdsToken second secondHolds)
    exact Party.worker.inj same
  outstanding number := by
    rw [invariant.exists_queued_iff]
    have interval := invariant.jobs.tickets.outstanding_iff number
    simp only [WorkerPool.tickets, Option.map_eq_some_iff,
      List.length_map] at interval
    exact interval
  oneHolder id job has := by
    have holds : (pool.tickets config).holding id = some job.fifoCnt := by
      change (pool.workers id).job?.map Job.fifoCnt = some _
      rw [has]
      rfl
    refine ⟨fun other otherJob otherHas same => ?_,
      fun queued member same => ?_⟩
    · have otherHolds :
          (pool.tickets config).holding other = some job.fifoCnt := by
        change (pool.workers other).job?.map Job.fifoCnt = some _
        rw [otherHas, Option.map_some, same]
      exact invariant.jobs.tickets.holder_unique otherHolds holds
    · have taken := invariant.jobs.tickets.lt_of_holding holds
      have notTaken :=
        ((invariant.exists_queued_iff job.fifoCnt).mp ⟨queued, member, same⟩).1
      simp only [WorkerPool.tickets, List.length_map] at taken
      omega
  waits id job has waiting := by
    have holds : (pool.tickets config).holding id = some job.fifoCnt := by
      change (pool.workers id).job?.map Job.fifoCnt = some _
      rw [has]
      rfl
    have taken := invariant.jobs.tickets.lt_of_holding holds
    have notServed := ((invariant.jobs.tickets.holding_iff _ _).mp holds).1
    obtain ⟨other, different, otherHolds⟩ :=
      invariant.jobs.tickets.predecessor holds waiting
    obtain ⟨otherJob, otherHas, otherNumber⟩ :=
      Option.map_eq_some_iff.mp otherHolds
    simp only [WorkerPool.tickets, List.length_map] at taken notServed
    refine ⟨⟨other, otherJob, different, otherHas, ?_⟩,
      invariant.canServe notServed taken.le⟩
    change job.fifoCnt ≠ pool.shared.token.fifoCnt config.tokenCallId
      at waiting
    omega

end WorkerPool

/-- In every run, the firmware sees the jobs in the order of enqueuing. -/
theorem WorkerPool.run_firmwareOrder
    {capacity nPools : Nat}
    (positive : 0 < capacity)
    (uses : config.tokenCallId < nPools)
    {last : WorkerPool Report}
    (run :
      Relation.ReflTransGen (PoolStep config)
        (WorkerPool.new capacity positive nPools) last) :
    last.FirmwareOrder config :=
  (Invariant.run ⟨.new capacity positive nPools, .new positive uses⟩
    run).firmwareOrder

end

/-- A pool with the only call id of its token. -/
def singlePool : WorkerPoolConfig where
  tokenCallId := 0
  enableAssert := true
  enableWorkPccError := false

/-- Two jobs are taken by two workers, and the second one comes first. -/
theorem singlePool_twoJobs :
    ∃ last : WorkerPool Bool,
      Relation.ReflTransGen (PoolStep singlePool)
          (.new 32 (by decide) 1) last ∧
        last.shared.turns =
          [((3, ⟨.regularReport true, 0⟩), some .workRegular),
            ((4, ⟨.regularReport false, 1⟩), some .workRegular)] := by
  refine ⟨_, .head (.setPermeable _ true)
      (.head (.producer _ 0 _ _ (.permit _ (.regularReport true) nofun rfl))
      (.head (.producer _ 1 _ _ (.permit _ (.regularReport false) nofun rfl))
      (.head (.producer _ 0 _ _ (.lockQueue _ _ rfl))
      (.head (.producer _ 0 _ _ (.enqueue _ _ _ rfl))
      (.head (.producer _ 0 _ _ (.unlockQueue _ _))
      (.head (.producer _ 1 _ _ (.lockQueue _ _ rfl))
      (.head (.producer _ 1 _ _ (.enqueue _ _ _ rfl))
      (.head (.producer _ 1 _ _ (.unlockQueue _ _))
      (.head (.worker _ 3 _ _ (.lockQueue _ rfl))
      (.head (.worker _ 3 _ _ (.dequeue _ _ _ nofun rfl))
      (.head (.worker _ 3 _ _ (.unlockQueue _ _))
      (.head (.worker _ 4 _ _ (.lockQueue _ rfl))
      (.head (.worker _ 4 _ _ (.dequeue _ _ _ nofun rfl))
      (.head (.worker _ 4 _ _ (.unlockQueue _ _))
      -- the second job is at the token first and has to wait
      (.head (.worker _ 4 _ _ (.enterFifo _ _ rfl rfl))
      (.head (.worker _ 4 _ _ (.waitForTurn _ _ nofun))
      (.head (.worker _ 3 _ _ (.enterFifo _ _ rfl rfl))
      (.head (.worker _ 3 _ _ (.reachTurn _ _ rfl))
      (.head (.worker _ 3 _ _
        (.lockFifo _ _ (some .workRegular) _ (by decide) rfl rfl))
      (.head (.worker _ 3 _ _ (.unlockFifo _ _ _ [] _ (by decide) rfl))
      (.head (.worker _ 4 _ _ (.wakeForTurn _ _ rfl))
      (.head (.worker _ 4 _ _ (.reachTurn _ _ rfl))
      (.head (.worker _ 4 _ _
        (.lockFifo _ _ (some .workRegular) _ (by decide) rfl rfl))
      .refl))))))))))))))))))))))), ?_⟩
  rfl

/-- The worker with the second job has waited for its turn. -/
theorem WorkerPool.run_firmwareOrder_twoJobs :
    ∃ last : WorkerPool Bool,
      last.shared.turns =
          [((3, ⟨.regularReport true, 0⟩), some .workRegular),
            ((4, ⟨.regularReport false, 1⟩), some .workRegular)] ∧
        last.FirmwareOrder singlePool := by
  obtain ⟨last, run, turns⟩ := singlePool_twoJobs
  exact ⟨last, turns,
    WorkerPool.run_firmwareOrder (by decide) (by decide) run⟩

end DectNrp
