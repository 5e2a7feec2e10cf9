import DectNrp.JobQueueNaive
import DectNrp.Mutex
import Mathlib.Logic.Relation

namespace DectNrp

/-!
# Workers, producers and the token

Any number of producers enqueue jobs, and any number of workers dequeue and
process them.  Calls into the firmware are made with the token locked.  The
first call for a job waits for the number of the job, later calls lock the token
as soon as possible.

Every acquisition and every release of one of the two mutexes is a step of its
own, so steps of different threads interleave arbitrarily.
-/

/-- The token that grants access to the firmware. -/
structure Token where
  /-- Number of the job whose turn it is, for every pool of workers. -/
  fifoCnt : Nat → Nat
  idHolder : Option Nat

namespace Token

/-- A token for a number of pools. -/
def new (nPools : Nat) : Token where
  fifoCnt id := if id < nPools then 0 else 2 ^ 63 - 1
  idHolder := none

/-- Entry check of a caller that waits for its turn. -/
def checkFifo
    (token : Token)
    (idCaller fifoCnt : Nat) :
    Checked Unit :=
  dectnrpAssert (token.fifoCnt idCaller ≤ fifoCnt)
    "waiting for earlier job"

/-- Become the holder of a token whose mutex was just acquired. -/
def lock (token : Token) (idCaller : Nat) : Checked Token := do
  dectnrpAssert token.idHolder.isNone "holder ID already valid"
  pure { token with idHolder := some idCaller }

/-- Stop being the holder before the mutex is released. -/
def unlock (token : Token) : Token :=
  { token with idHolder := none }

/-- Give the turn to the next job before the mutex is released. -/
def unlockFifo (token : Token) : Checked Token :=
  match token.idHolder with
  | none => .error (.assertion "holder ID invalid")
  | some id =>
      .ok ({ token with
        fifoCnt :=
          Function.update token.fifoCnt id (token.fifoCnt id + 1) }
        : Token).unlock

end Token

/-- Threads that lock the mutexes. -/
inductive Party where
  | worker (id : Nat)
  | producer (id : Nat)
  /-- Workers of other pools and everybody else who locks the token. -/
  | other
  deriving Repr, DecidableEq

/-- Calls into the firmware. -/
inductive FirmwareCall where
  | workRegular
  | workIrregular
  | workPccError
  | workPcc
  | workApplication
  | workPdc
  | workPdcError
  | workChannel
  deriving Repr, DecidableEq

/-- Configuration of a pool of workers. -/
structure WorkerPoolConfig where
  tokenCallId : Nat
  enableAssert : Bool
  /-- Whether the firmware is called for a PCC that was not decoded. -/
  enableWorkPccError : Bool
  deriving Repr, DecidableEq

/--
Calls for a job in its turn.  A packet whose PCC was not decoded may use its
turn without a call.
-/
def fifoCalls
    {Report : Type}
    (config : WorkerPoolConfig) :
    JobContent Report → List (Option FirmwareCall)
  | .monostate => []
  | .regularReport _ => [some .workRegular]
  | .irregularReport _ => [some .workIrregular]
  | .syncReport _ =>
      [some .workPcc,
        if config.enableWorkPccError then
          some .workPccError
        else
          none]
  | .applicationReport _ => [some .workApplication]

/--
Calls that may follow in any order with those of other jobs: for the PDC if the
firmware is interested in it, and for a channel measurement if the firmware
asked for one.
-/
def followingCalls : Option FirmwareCall → List (List FirmwareCall)
  | none => [[]]
  | some .workPcc =>
      [[], [.workPdc], [.workPdc, .workChannel], [.workPdcError],
        [.workPdcError, .workChannel]]
  | some _ => [[], [.workChannel]]

/-- Program counter of a worker. -/
inductive WorkerPc (Report : Type) where
  | polling
  /-- Waiting for a job with the mutex of the queue. -/
  | queueLocked
  /-- Waiting for a job on the condition variable. -/
  | queueWaiting
  | queueTimedOut
  /-- Still with the mutex of the queue. -/
  | dequeued (job : Job Report)
  /-- Everything before the token is locked, also after a timeout. -/
  | preparing (job : Job Report)
  /-- Waiting for its turn with the mutex of the token. -/
  | fifoLocked (job : Job Report)
  /-- Waiting for its turn on the condition variable. -/
  | fifoWaiting (job : Job Report)
  | fifoTimedOut (job : Job Report)
  /-- Its turn has come, but the token is not locked yet. -/
  | fifoReached (job : Job Report)
  /-- In the call for the job, or in its turn without a call. -/
  | inFifo (job : Job Report) (call : Option FirmwareCall)
  /-- Its turn is over and some calls may follow. -/
  | following (calls : List FirmwareCall)
  | inCall (call : FirmwareCall) (calls : List FirmwareCall)
  deriving Repr, DecidableEq

/-- Program counter of a producer. -/
inductive ProducerPc (Report : Type) where
  | idle
  /-- The queue was permeable. -/
  | permitted (content : JobContent Report)
  | locked (content : JobContent Report)
  /-- Still with the mutex of the queue. -/
  | enqueued (ret : Bool)
  deriving Repr, DecidableEq

/-- Everybody else is away from the token or has its mutex. -/
inductive OtherPc where
  | away
  | inside
  deriving Repr, DecidableEq

namespace WorkerPc

variable {Report : Type}

/-- Whether the worker has the mutex of the queue. -/
def holdsQueue : WorkerPc Report → Bool
  | .queueLocked | .queueTimedOut | .dequeued _ => true
  | _ => false

/-- Whether the worker has the mutex of the token. -/
def holdsToken : WorkerPc Report → Bool
  | .fifoLocked _ | .fifoTimedOut _ | .inFifo _ _ | .inCall _ _ => true
  | _ => false

/-- Whether the worker is the holder of the token. -/
def isHolder : WorkerPc Report → Bool
  | .inFifo _ _ | .inCall _ _ => true
  | _ => false

/-- The job whose turn the worker has to take or is taking. -/
def job? : WorkerPc Report → Option (Job Report)
  | .dequeued job | .preparing job | .fifoLocked job | .fifoWaiting job
  | .fifoTimedOut job | .fifoReached job | .inFifo job _ => some job
  | _ => none

/-- The job whose turn has come. -/
def turn? : WorkerPc Report → Option (Job Report)
  | .fifoReached job | .inFifo job _ => some job
  | _ => none

/-- The job whose turn the worker is taking. -/
def current? : WorkerPc Report → Option (Job Report)
  | .inFifo job _ => some job
  | _ => none

end WorkerPc

/-- Whether the producer has the mutex of the queue. -/
def ProducerPc.holdsQueue {Report : Type} : ProducerPc Report → Bool
  | .locked _ | .enqueued _ => true
  | _ => false

/-- What the threads share, with the history of the jobs. -/
structure Shared (Report : Type) where
  queue : JobQueueNaive Report
  queueOwner : Option Party
  permeable : Bool
  token : Token
  tokenOwner : Option Party
  /-- Jobs in the order of enqueuing. -/
  enqueued : List (Job Report)
  /-- Jobs in the order of dequeuing, with their workers. -/
  dequeued : List (Nat × Job Report)
  /-- Jobs in the order of their turns, with their workers and calls. -/
  turns : List ((Nat × Job Report) × Option FirmwareCall)

section

variable {Report : Type}

/-- Steps of a worker while `keep_running` is set. -/
inductive WorkerStep
    (config : WorkerPoolConfig)
    (id : Nat) :
    Shared Report → WorkerPc Report →
      Shared Report → WorkerPc Report → Prop where
  | lockQueue
      (shared : Shared Report)
      (free : shared.queueOwner = none) :
      WorkerStep config id shared .polling
        { shared with queueOwner := some (.worker id) } .queueLocked
  | waitForJob
      (shared : Shared Report)
      (noJob : shared.queue.jobSlotVecCnt = 0) :
      WorkerStep config id shared .queueLocked
        { shared with queueOwner := none } .queueWaiting
  | wakeForJob
      (shared : Shared Report)
      (free : shared.queueOwner = none) :
      WorkerStep config id shared .queueWaiting
        { shared with queueOwner := some (.worker id) } .queueLocked
  | timeOutForJob
      (shared : Shared Report)
      (free : shared.queueOwner = none) :
      WorkerStep config id shared .queueWaiting
        { shared with queueOwner := some (.worker id) } .queueTimedOut
  | leaveQueue
      (shared : Shared Report) :
      WorkerStep config id shared .queueTimedOut
        { shared with queueOwner := none } .polling
  | dequeue
      (shared : Shared Report)
      (job : Job Report)
      (queue : JobQueueNaive Report)
      (someJob : shared.queue.jobSlotVecCnt ≠ 0)
      (returned : shared.queue.dequeueUnderLock = some (job, queue)) :
      WorkerStep config id shared .queueLocked
        { shared with
          queue := queue
          dequeued := shared.dequeued ++ [(id, job)] }
        (.dequeued job)
  | dequeueNothing
      (shared : Shared Report)
      (someJob : shared.queue.jobSlotVecCnt ≠ 0)
      (returned : shared.queue.dequeueUnderLock = none) :
      WorkerStep config id shared .queueLocked shared .queueLocked
  | unlockQueue
      (shared : Shared Report)
      (job : Job Report) :
      WorkerStep config id shared (.dequeued job)
        { shared with queueOwner := none } (.preparing job)
  | enterFifo
      (shared : Shared Report)
      (job : Job Report)
      (free : shared.tokenOwner = none)
      (checked :
        shared.token.checkFifo config.tokenCallId job.fifoCnt =
          .ok ()) :
      WorkerStep config id shared (.preparing job)
        { shared with tokenOwner := some (.worker id) }
        (.fifoLocked job)
  | waitForTurn
      (shared : Shared Report)
      (job : Job Report)
      (notTurn :
        shared.token.fifoCnt config.tokenCallId ≠ job.fifoCnt) :
      WorkerStep config id shared (.fifoLocked job)
        { shared with tokenOwner := none } (.fifoWaiting job)
  | wakeForTurn
      (shared : Shared Report)
      (job : Job Report)
      (free : shared.tokenOwner = none) :
      WorkerStep config id shared (.fifoWaiting job)
        { shared with tokenOwner := some (.worker id) }
        (.fifoLocked job)
  | timeOutForTurn
      (shared : Shared Report)
      (job : Job Report)
      (free : shared.tokenOwner = none) :
      WorkerStep config id shared (.fifoWaiting job)
        { shared with tokenOwner := some (.worker id) }
        (.fifoTimedOut job)
  | retryFifo
      (shared : Shared Report)
      (job : Job Report) :
      WorkerStep config id shared (.fifoTimedOut job)
        { shared with tokenOwner := none } (.preparing job)
  | reachTurn
      (shared : Shared Report)
      (job : Job Report)
      (turn :
        shared.token.fifoCnt config.tokenCallId = job.fifoCnt) :
      WorkerStep config id shared (.fifoLocked job)
        { shared with tokenOwner := none } (.fifoReached job)
  | lockFifo
      (shared : Shared Report)
      (job : Job Report)
      (call : Option FirmwareCall)
      (token : Token)
      (chosen : call ∈ fifoCalls config job.content)
      (free : shared.tokenOwner = none)
      (returned : shared.token.lock config.tokenCallId = .ok token) :
      WorkerStep config id shared (.fifoReached job)
        { shared with
          token := token
          tokenOwner := some (.worker id)
          turns := shared.turns ++ [((id, job), call)] }
        (.inFifo job call)
  | unlockFifo
      (shared : Shared Report)
      (job : Job Report)
      (call : Option FirmwareCall)
      (calls : List FirmwareCall)
      (token : Token)
      (chosen : calls ∈ followingCalls call)
      (returned : shared.token.unlockFifo = .ok token) :
      WorkerStep config id shared (.inFifo job call)
        { shared with
          token := token
          tokenOwner := none }
        (.following calls)
  | lock
      (shared : Shared Report)
      (call : FirmwareCall)
      (calls : List FirmwareCall)
      (token : Token)
      (free : shared.tokenOwner = none)
      (returned : shared.token.lock config.tokenCallId = .ok token) :
      WorkerStep config id shared (.following (call :: calls))
        { shared with
          token := token
          tokenOwner := some (.worker id) }
        (.inCall call calls)
  | unlock
      (shared : Shared Report)
      (call : FirmwareCall)
      (calls : List FirmwareCall) :
      WorkerStep config id shared (.inCall call calls)
        { shared with
          token := shared.token.unlock
          tokenOwner := none }
        (.following calls)
  | finish
      (shared : Shared Report) :
      WorkerStep config id shared (.following []) shared .polling

/-- Steps of a producer. -/
inductive ProducerStep
    (config : WorkerPoolConfig)
    (id : Nat) :
    Shared Report → ProducerPc Report →
      Shared Report → ProducerPc Report → Prop where
  | refuse
      (shared : Shared Report)
      (impermeable : shared.permeable = false) :
      ProducerStep config id shared .idle shared .idle
  | permit
      (shared : Shared Report)
      (content : JobContent Report)
      (reports : content ≠ .monostate)
      (permeable : shared.permeable = true) :
      ProducerStep config id shared .idle shared (.permitted content)
  | lockQueue
      (shared : Shared Report)
      (content : JobContent Report)
      (free : shared.queueOwner = none) :
      ProducerStep config id shared (.permitted content)
        { shared with queueOwner := some (.producer id) }
        (.locked content)
  | enqueue
      (shared : Shared Report)
      (content : JobContent Report)
      (queue : JobQueueNaive Report)
      (returned :
        shared.queue.enqueueUnderLock config.enableAssert content =
          .ok (true, queue)) :
      ProducerStep config id shared (.locked content)
        { shared with
          queue := queue
          enqueued :=
            shared.enqueued ++ [⟨content, shared.queue.fifoCnt⟩] }
        (.enqueued true)
  | discard
      (shared : Shared Report)
      (content : JobContent Report)
      (queue : JobQueueNaive Report)
      (returned :
        shared.queue.enqueueUnderLock config.enableAssert content =
          .ok (false, queue)) :
      ProducerStep config id shared (.locked content)
        { shared with queue := queue } (.enqueued false)
  | unlockQueue
      (shared : Shared Report)
      (ret : Bool) :
      ProducerStep config id shared (.enqueued ret)
        { shared with queueOwner := none } .idle

/-- Steps of everybody else who uses the token, with any other call id. -/
inductive OtherStep
    (config : WorkerPoolConfig) :
    Shared Report → OtherPc → Shared Report → OtherPc → Prop where
  | check
      (shared : Shared Report)
      (free : shared.tokenOwner = none) :
      OtherStep config shared .away
        { shared with tokenOwner := some .other } .inside
  | lock
      (shared : Shared Report)
      (idCaller : Nat)
      (token : Token)
      (free : shared.tokenOwner = none)
      (returned : shared.token.lock idCaller = .ok token) :
      OtherStep config shared .away
        { shared with
          token := token
          tokenOwner := some .other } .inside
  | unlock
      (shared : Shared Report) :
      OtherStep config shared .inside
        { shared with
          token := shared.token.unlock
          tokenOwner := none } .away
  | unlockFifo
      (shared : Shared Report)
      (idCaller : Nat)
      (token : Token)
      (otherPool : idCaller ≠ config.tokenCallId)
      (holder : shared.token.idHolder = some idCaller)
      (returned : shared.token.unlockFifo = .ok token) :
      OtherStep config shared .inside
        { shared with
          token := token
          tokenOwner := none } .away

/-- A pool of workers with its producers. -/
structure WorkerPool (Report : Type) where
  shared : Shared Report
  workers : Nat → WorkerPc Report
  producers : Nat → ProducerPc Report
  other : OtherPc

/-- A step of one thread. -/
inductive PoolStep
    (config : WorkerPoolConfig) :
    WorkerPool Report → WorkerPool Report → Prop where
  | worker
      (pool : WorkerPool Report)
      (id : Nat)
      (shared : Shared Report)
      (pc : WorkerPc Report)
      (step :
        WorkerStep config id pool.shared (pool.workers id) shared pc) :
      PoolStep config pool { pool with
        shared := shared
        workers := Function.update pool.workers id pc }
  | producer
      (pool : WorkerPool Report)
      (id : Nat)
      (shared : Shared Report)
      (pc : ProducerPc Report)
      (step :
        ProducerStep config id pool.shared (pool.producers id) shared
          pc) :
      PoolStep config pool { pool with
        shared := shared
        producers := Function.update pool.producers id pc }
  | other
      (pool : WorkerPool Report)
      (shared : Shared Report)
      (pc : OtherPc)
      (step : OtherStep config pool.shared pool.other shared pc) :
      PoolStep config pool { pool with
        shared := shared
        other := pc }
  | setPermeable
      (pool : WorkerPool Report)
      (permeable : Bool) :
      PoolStep config pool { pool with
        shared := { pool.shared with permeable := permeable } }

/-- All threads are about to start with an empty queue and a free token. -/
def WorkerPool.new
    (capacity : Nat)
    (positive : 0 < capacity)
    (nPools : Nat) :
    WorkerPool Report where
  shared := {
    queue := .new capacity positive
    queueOwner := none
    permeable := false
    token := .new nPools
    tokenOwner := none
    enqueued := []
    dequeued := []
    turns := []
  }
  workers _ := .polling
  producers _ := .idle
  other := .away

end

end DectNrp
