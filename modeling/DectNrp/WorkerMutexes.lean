import DectNrp.WorkerTxRx

namespace DectNrp

/-!
# The mutexes of queue and token

Program counters agree with the owners of both mutexes, and the token has a
holder exactly while somebody is in a call.
-/

open Function (update)

section

variable {Report : Type}
variable {config : WorkerPoolConfig}

namespace WorkerPool

/-- Whether a thread has the mutex of the queue. -/
def holdsQueue (pool : WorkerPool Report) : Party → Bool
  | .worker id => (pool.workers id).holdsQueue
  | .producer id => (pool.producers id).holdsQueue
  | .other => false

/-- Whether a thread has the mutex of the token. -/
def holdsToken (pool : WorkerPool Report) : Party → Bool
  | .worker id => (pool.workers id).holdsToken
  | .producer _ => false
  | .other => decide (pool.other = .inside)

/-- Program counters, owners and the holder of the token agree. -/
structure MutexInvariant
    (config : WorkerPoolConfig)
    (pool : WorkerPool Report) :
    Prop where
  queue : Mutex.Agrees pool.holdsQueue pool.shared.queueOwner
  token : Mutex.Agrees pool.holdsToken pool.shared.tokenOwner
  free : pool.shared.tokenOwner = none → pool.shared.token.idHolder = none
  holder :
    ∀ id, (pool.workers id).holdsToken = true →
      pool.shared.token.idHolder =
        if (pool.workers id).isHolder then
          some config.tokenCallId
        else
          none

theorem holdsQueue_worker
    (pool : WorkerPool Report)
    (shared : Shared Report)
    (id : Nat)
    (pc : WorkerPc Report) :
    ({ pool with
      shared := shared
      workers := update pool.workers id pc }
      : WorkerPool Report).holdsQueue =
      update pool.holdsQueue (.worker id) pc.holdsQueue := by
  funext party
  cases party with
  | worker other =>
      by_cases same : other = id
      · subst same
        simp [holdsQueue]
      · simp [holdsQueue, same]
  | producer other => rfl
  | other => rfl

theorem holdsToken_worker
    (pool : WorkerPool Report)
    (shared : Shared Report)
    (id : Nat)
    (pc : WorkerPc Report) :
    ({ pool with
      shared := shared
      workers := update pool.workers id pc }
      : WorkerPool Report).holdsToken =
      update pool.holdsToken (.worker id) pc.holdsToken := by
  funext party
  cases party with
  | worker other =>
      by_cases same : other = id
      · subst same
        simp [holdsToken]
      · simp [holdsToken, same]
  | producer other => rfl
  | other => rfl

theorem holdsQueue_producer
    (pool : WorkerPool Report)
    (shared : Shared Report)
    (id : Nat)
    (pc : ProducerPc Report) :
    ({ pool with
      shared := shared
      producers := update pool.producers id pc }
      : WorkerPool Report).holdsQueue =
      update pool.holdsQueue (.producer id) pc.holdsQueue := by
  funext party
  cases party with
  | worker other => rfl
  | producer other =>
      by_cases same : other = id
      · subst same
        simp [holdsQueue]
      · simp [holdsQueue, same]
  | other => rfl

theorem holdsToken_other
    (pool : WorkerPool Report)
    (shared : Shared Report)
    (pc : OtherPc) :
    ({ pool with shared := shared, other := pc }
      : WorkerPool Report).holdsToken =
      update pool.holdsToken .other (decide (pc = .inside)) := by
  funext party
  cases party with
  | worker other => rfl
  | producer other => rfl
  | other => simp [holdsToken]

end WorkerPool

variable {token after : Token}

theorem Token.lock_eq_ok
    {idCaller : Nat}
    (returned : token.lock idCaller = .ok after) :
    token.idHolder = none ∧
      after = { token with idHolder := some idCaller } := by
  rw [lock] at returned
  obtain ⟨_, asserted, result⟩ := Checked.bind_eq_ok.mp returned
  rw [dectnrpAssert_eq_ok, Option.isNone_iff_eq_none] at asserted
  cases result
  exact ⟨asserted, rfl⟩

variable {id : Nat}

theorem Token.unlockFifo_eq_ok
    (holder : token.idHolder = some id)
    (returned : token.unlockFifo = .ok after) :
    after.idHolder = none ∧
      after.fifoCnt =
        update token.fifoCnt id (token.fifoCnt id + 1) := by
  rw [unlockFifo, holder] at returned
  cases returned
  exact ⟨rfl, rfl⟩

theorem Token.unlockFifo_idHolder
    (returned : token.unlockFifo = .ok after) :
    after.idHolder = none := by
  rw [unlockFifo] at returned
  split at returned
  · cases returned
  · cases returned
    rfl

variable {shared sharedAfter : Shared Report}

/-- A worker locks and unlocks the queue as its program counter tells. -/
theorem WorkerStep.queueChange
    {pc pcAfter : WorkerPc Report}
    (step : WorkerStep config id shared pc sharedAfter pcAfter) :
    Mutex.Change (.worker id) pc.holdsQueue shared.queueOwner
      pcAfter.holdsQueue sharedAfter.queueOwner := by
  cases step with
  | lockQueue free =>
      rw [free]
      exact .lock
  | wakeForJob free =>
      rw [free]
      exact .lock
  | timeOutForJob free =>
      rw [free]
      exact .lock
  | waitForJob => exact .unlock _
  | leaveQueue => exact .unlock _
  | unlockQueue => exact .unlock _
  | _ => exact .keep _ _

/-- A worker locks and unlocks the token as its program counter tells. -/
theorem WorkerStep.tokenChange
    {pc pcAfter : WorkerPc Report}
    (step : WorkerStep config id shared pc sharedAfter pcAfter) :
    Mutex.Change (.worker id) pc.holdsToken shared.tokenOwner
      pcAfter.holdsToken sharedAfter.tokenOwner := by
  cases step with
  | enterFifo job free =>
      rw [free]
      exact .lock
  | wakeForTurn job free =>
      rw [free]
      exact .lock
  | timeOutForTurn job free =>
      rw [free]
      exact .lock
  | lockFifo job call token chosen free =>
      rw [free]
      exact .lock
  | lock call calls token free =>
      rw [free]
      exact .lock
  | waitForTurn => exact .unlock _
  | retryFifo => exact .unlock _
  | reachTurn => exact .unlock _
  | unlockFifo => exact .unlock _
  | unlock => exact .unlock _
  | _ => exact .keep _ _

/-- A producer locks and unlocks the queue as its program counter tells. -/
theorem ProducerStep.queueChange
    {pc pcAfter : ProducerPc Report}
    (step : ProducerStep config id shared pc sharedAfter pcAfter) :
    Mutex.Change (.producer id) pc.holdsQueue shared.queueOwner
      pcAfter.holdsQueue sharedAfter.queueOwner := by
  cases step with
  | lockQueue content free =>
      rw [free]
      exact .lock
  | unlockQueue => exact .unlock _
  | _ => exact .keep _ _

/-- A producer does not touch the token. -/
theorem ProducerStep.token_eq
    {pc pcAfter : ProducerPc Report}
    (step : ProducerStep config id shared pc sharedAfter pcAfter) :
    sharedAfter.token = shared.token ∧
      sharedAfter.tokenOwner = shared.tokenOwner := by
  cases step <;> exact ⟨rfl, rfl⟩

theorem OtherStep.tokenChange
    {pc pcAfter : OtherPc}
    (step : OtherStep config shared pc sharedAfter pcAfter) :
    Mutex.Change .other (decide (pc = .inside)) shared.tokenOwner
      (decide (pcAfter = .inside)) sharedAfter.tokenOwner := by
  cases step with
  | check free =>
      rw [free]
      exact .lock
  | lock idCaller token free =>
      rw [free]
      exact .lock
  | unlock => exact .unlock _
  | unlockFifo => exact .unlock _

/-- Nobody else touches the queue or the turns of this pool. -/
theorem OtherStep.shared_eq
    {pc pcAfter : OtherPc}
    (step : OtherStep config shared pc sharedAfter pcAfter) :
    ∃ token tokenOwner,
      sharedAfter = { shared with
        token := token
        tokenOwner := tokenOwner } ∧
      token.fifoCnt config.tokenCallId =
        shared.token.fifoCnt config.tokenCallId := by
  cases step with
  | check free => exact ⟨_, _, rfl, rfl⟩
  | lock idCaller token free returned =>
      obtain ⟨_, rfl⟩ := Token.lock_eq_ok returned
      exact ⟨_, _, rfl, rfl⟩
  | unlock => exact ⟨_, _, rfl, rfl⟩
  | unlockFifo idCaller token otherPool holder returned =>
      obtain ⟨_, counts⟩ := Token.unlockFifo_eq_ok holder returned
      refine ⟨_, _, rfl, ?_⟩
      rw [counts]
      exact Function.update_of_ne (Ne.symm otherPool) _ _

/-- The holder of the token after a step of a worker. -/
theorem WorkerStep.holderAfter
    {pc pcAfter : WorkerPc Report}
    (step : WorkerStep config id shared pc sharedAfter pcAfter)
    (free : shared.tokenOwner = none → shared.token.idHolder = none)
    (holder :
      pc.holdsToken = true →
        shared.token.idHolder =
          if pc.isHolder then some config.tokenCallId else none) :
    (sharedAfter.tokenOwner = none → sharedAfter.token.idHolder = none) ∧
    (pcAfter.holdsToken = true →
      sharedAfter.token.idHolder =
        if pcAfter.isHolder then some config.tokenCallId else none) := by
  cases step with
  | enterFifo job isFree => exact ⟨nofun, fun _ => free isFree⟩
  | waitForTurn => exact ⟨fun _ => holder rfl, nofun⟩
  | wakeForTurn job isFree => exact ⟨nofun, fun _ => free isFree⟩
  | timeOutForTurn job isFree => exact ⟨nofun, fun _ => free isFree⟩
  | retryFifo => exact ⟨fun _ => holder rfl, nofun⟩
  | reachTurn => exact ⟨fun _ => holder rfl, nofun⟩
  | lockFifo job call token chosen isFree returned =>
      obtain ⟨_, rfl⟩ := Token.lock_eq_ok returned
      exact ⟨nofun, fun _ => rfl⟩
  | unlockFifo job call calls token chosen returned =>
      exact ⟨fun _ => Token.unlockFifo_idHolder returned, nofun⟩
  | lock call calls token isFree returned =>
      obtain ⟨_, rfl⟩ := Token.lock_eq_ok returned
      exact ⟨nofun, fun _ => rfl⟩
  | unlock => exact ⟨fun _ => rfl, nofun⟩
  | _ => exact ⟨free, nofun⟩

/-- The holder of the token after a step of somebody else. -/
theorem OtherStep.freeAfter
    {pc pcAfter : OtherPc}
    (step : OtherStep config shared pc sharedAfter pcAfter) :
    sharedAfter.tokenOwner = none → sharedAfter.token.idHolder = none := by
  cases step with
  | check free => exact nofun
  | lock idCaller token free returned => exact nofun
  | unlock => exact fun _ => rfl
  | unlockFifo idCaller token otherPool holder returned =>
      exact fun _ => Token.unlockFifo_idHolder returned

/-- Nobody but the owner of the mutex changes the token. -/
theorem WorkerStep.token_eq
    {pc pcAfter : WorkerPc Report}
    (step : WorkerStep config id shared pc sharedAfter pcAfter)
    (owned : shared.tokenOwner ≠ none)
    (notHeld : pc.holdsToken = false) :
    sharedAfter.token = shared.token := by
  cases step with
  | lockFifo job call token chosen free => exact absurd free owned
  | lock call calls token free => exact absurd free owned
  | unlockFifo => cases notHeld
  | unlock => cases notHeld
  | _ => rfl

/-- Nobody but the owner of the mutex changes the token. -/
theorem OtherStep.token_eq
    {pc pcAfter : OtherPc}
    (step : OtherStep config shared pc sharedAfter pcAfter)
    (owned : shared.tokenOwner ≠ none)
    (away : pc ≠ .inside) :
    sharedAfter.token = shared.token := by
  cases step with
  | check free => rfl
  | lock idCaller token free => exact absurd free owned
  | unlock => exact absurd rfl away
  | unlockFifo => exact absurd rfl away

namespace WorkerPool

theorem MutexInvariant.new
    (capacity : Nat)
    (positive : 0 < capacity)
    (nPools : Nat) :
    (WorkerPool.new capacity positive nPools :
      WorkerPool Report).MutexInvariant config where
  queue party := by
    cases party <;> simp [holdsQueue, WorkerPool.new,
      WorkerPc.holdsQueue, ProducerPc.holdsQueue]
  token party := by
    cases party <;> simp [holdsToken, WorkerPool.new, WorkerPc.holdsToken]
  free _ := rfl
  holder _ := nofun

/-- Every step keeps program counters, owners and holder in agreement. -/
theorem MutexInvariant.step
    {before after : WorkerPool Report}
    (invariant : before.MutexInvariant config)
    (step : PoolStep config before after) :
    after.MutexInvariant config := by
  cases step with
  | worker id shared pc step =>
      obtain ⟨freeAfter, holderAfter⟩ :=
        step.holderAfter invariant.free (invariant.holder id)
      have tokenAgrees : Mutex.Agrees
          (update before.holdsToken (.worker id)
            pc.holdsToken) shared.tokenOwner :=
        invariant.token.change step.tokenChange
      refine ⟨?_, ?_, freeAfter, fun other held => ?_⟩
      · rw [holdsQueue_worker]
        exact invariant.queue.change step.queueChange
      · rw [holdsToken_worker]
        exact tokenAgrees
      · by_cases same : other = id
        · subst same
          simp only [Function.update_self] at held ⊢
          exact holderAfter held
        · -- the other worker owns the token, so this one leaves it alone
          simp only [Function.update_of_ne same] at held ⊢
          have owner := (invariant.token (.worker other)).mp held
          have notHeld : (before.workers id).holdsToken = false := by
            by_contra alsoHeld
            rw [Bool.not_eq_false] at alsoHeld
            have both :=
              @invariant.token.exclusive _ _ _ (.worker other)
                (.worker id) held alsoHeld
            exact same (Party.worker.inj both)
          have owned : before.shared.tokenOwner ≠ none := by
            rw [owner]
            simp
          rw [step.token_eq owned notHeld]
          exact invariant.holder other held
  | producer id shared pc step =>
      obtain ⟨sameToken, sameOwner⟩ := step.token_eq
      refine ⟨?_, ?_, ?_, ?_⟩
      · rw [holdsQueue_producer]
        exact invariant.queue.change step.queueChange
      · rw [sameOwner]
        exact invariant.token
      · rw [sameToken, sameOwner]
        exact invariant.free
      · rw [sameToken]
        exact invariant.holder
  | other shared pc step =>
      obtain ⟨token, tokenOwner, sharedEq, _⟩ := step.shared_eq
      refine ⟨?_, ?_, step.freeAfter, fun id held => ?_⟩
      · rw [sharedEq]
        exact invariant.queue
      · rw [holdsToken_other]
        exact invariant.token.change step.tokenChange
      · have owner := (invariant.token (.worker id)).mp held
        have away : before.other ≠ .inside := by
          intro inside
          have both := (invariant.token .other).mp (decide_eq_true inside)
          cases owner.symm.trans both
        have owned : before.shared.tokenOwner ≠ none := by
          rw [owner]
          simp
        rw [step.token_eq owned away]
        exact invariant.holder id held
  | setPermeable permeable =>
      exact {
        queue := invariant.queue
        token := invariant.token
        free := invariant.free
        holder := invariant.holder
      }

end WorkerPool

end

end DectNrp
