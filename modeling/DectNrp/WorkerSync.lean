import DectNrp.IrregularJobs
import DectNrp.SpacedEvents
import DectNrp.SyncChunk

namespace DectNrp

/-!
# Workers of the synchronization

Every worker searches its own chunks at its own pace.  A baton goes round, and
only the worker that holds it puts jobs into the queue.  A worker that finds
packets before it holds the baton keeps them in a buffer, and empties the buffer
once it has the baton.  The time of the last accepted packet stays with the
baton.
-/

variable {n m : Nat} {Report : Type}

structure Baton where
  nofWorkerSync : Nat
  syncTimeUniqueLimit64 : Int
  rxJobRegularPeriod : Nat
  chunkTimeEnd64 : Int
  idHolder : Nat
  syncTimeLast64 : Int
  rxJobRegularPeriodCnt : Nat
  deriving Repr, DecidableEq

namespace Baton

def new
    (nofWorkerSync : Nat)
    (syncTimeUniqueLimit64 : Int)
    (rxJobRegularPeriod : Nat) :
    Baton where
  nofWorkerSync := nofWorkerSync
  syncTimeUniqueLimit64 := syncTimeUniqueLimit64
  rxJobRegularPeriod := rxJobRegularPeriod
  chunkTimeEnd64 := int64Max
  idHolder := 0
  syncTimeLast64 := undefinedEarly64
  rxJobRegularPeriodCnt := 0

def isIdHolderTheSame (baton : Baton) (idCaller : Nat) : Bool :=
  idCaller = baton.idHolder

def passOn (baton : Baton) (idCaller : Nat) : Checked Baton := do
  dectnrpAssert (baton.isIdHolderTheSame idCaller)
    "caller does not hold baton, yet checking sync time"
  pure { baton with
    idHolder := (baton.idHolder + 1) % baton.nofWorkerSync }

def isSyncTimeUnique
    (baton : Baton)
    (syncTimeCandidate64 : Int) :
    Checked (Bool × Baton) := do
  let syncTimeDiff64 ← int64 (syncTimeCandidate64 - baton.syncTimeLast64)
  if syncTimeDiff64 > baton.syncTimeUniqueLimit64 then
    .ok (true, { baton with syncTimeLast64 := syncTimeCandidate64 })
  else
    .ok (false, baton)

def isJobRegularDue (baton : Baton) : Bool × Baton :=
  if baton.rxJobRegularPeriod = 0 then
    (false, baton)
  else
    let rxJobRegularPeriodCnt := baton.rxJobRegularPeriodCnt + 1
    if rxJobRegularPeriodCnt = baton.rxJobRegularPeriod then
      (true, { baton with rxJobRegularPeriodCnt := 0 })
    else
      (false,
        { baton with rxJobRegularPeriodCnt := rxJobRegularPeriodCnt })

end Baton

structure RegularReport where
  chunkTimeEnd64 : Int
  syncTimeLast64 : Int
  barrierTime64 : Int
  deriving Repr, DecidableEq

def RegularReport.new
    (chunkTimeEnd64 syncTimeLast64 : Int) :
    RegularReport where
  chunkTimeEnd64 := chunkTimeEnd64
  syncTimeLast64 := syncTimeLast64
  barrierTime64 := max chunkTimeEnd64 syncTimeLast64

/-- What a worker puts into the queue of jobs. -/
inductive SyncJob (Report : Type) where
  | regular (regularReport : RegularReport)
  | irregular (irregularReport : IrregularReport)
  | packet (syncReport : Report)
  deriving Repr, DecidableEq

def SyncJob.syncReport? : SyncJob Report → Option Report
  | .regular _ => none
  | .irregular _ => none
  | .packet syncReport => some syncReport

/-- Where a worker is in its loop. -/
inductive SyncPhase (Report : Type) where
  /-- It waits for the common start. -/
  | start
  /-- It is about to begin with a chunk. -/
  | loop
  /-- It calls the search, before or after it has acquired the baton. -/
  | search (hasBaton : Bool)
  | searching (hasBaton : Bool)
  /-- It has found a packet and looks whether the baton was passed on. -/
  | found (syncReport : Report)
  /-- It waits for the baton, with what the last search has returned. -/
  | wait (syncReportOpt : Option Report)
  /-- It has the baton and enqueues what it has buffered. -/
  | flush (i : Nat) (syncReportOpt : Option Report)
  | process (syncReportOpt : Option Report)
  | check
  /-- It is done with the chunk. -/
  | done
  | stopped

structure WorkerSync (Report : Type) where
  phase : SyncPhase Report
  syncReportArr : List Report
  syncChunk : SyncChunk Report

/-- RX_SYNC_PARAM_MAX_NOF_BUFFERABLE_SYNC_BEFORE_ACQUIRING_BATON -/
def rxSyncParamMaxNofBufferable : Nat := 10

/-- All workers, what they share, and what they have done so far. -/
structure SyncWorkers (n m : Nat) (Report : Type) where
  keepRunning : Bool
  baton : Baton
  irregularQueue : IrregularQueue m
  jobQueue : List (SyncJob Report)
  workers : Fin n → WorkerSync Report
  /-- Packets in the order in which they were checked for uniqueness. -/
  checked : List Report
  /-- Workers that have passed on the baton, and the start of their chunk. -/
  chunksDone : List (Nat × Int)

namespace SyncWorkers

variable (setup : SyncSetup n Report)

/-- A worker takes a step, or something else happens. -/
inductive Action (n : Nat) where
  | work (id : Fin n)
  | push (irregularReport : IrregularReport)
  | stop
  deriving Repr, DecidableEq

def new (m : Nat) : SyncWorkers n m Report where
  keepRunning := true
  baton := .new n setup.syncTimeUniqueLimit64 setup.rxJobRegularPeriod
  irregularQueue := .new m
  jobQueue := []
  workers _ := ⟨.start, [], ⟨0, 0, []⟩⟩
  checked := []
  chunksDone := []

/-- Only the worker that takes a step changes. -/
def setWorker
    (pool : SyncWorkers n m Report)
    (id : Fin n)
    (worker : WorkerSync Report) :
    SyncWorkers n m Report :=
  { pool with workers := Function.update pool.workers id worker }

@[simp] theorem setWorker_self
    (pool : SyncWorkers n m Report)
    (id : Fin n)
    (worker : WorkerSync Report) :
    (pool.setWorker id worker).workers id = worker := by
  simp only [setWorker, Function.update_self]

@[simp] theorem setWorker_of_ne
    (pool : SyncWorkers n m Report)
    {id other : Fin n}
    (notSame : other ≠ id)
    (worker : WorkerSync Report) :
    (pool.setWorker id worker).workers other = pool.workers other := by
  simp only [setWorker, Function.update_of_ne notSame]

/-- Only the phase of the worker that takes a step changes. -/
def setPhase
    (pool : SyncWorkers n m Report)
    (id : Fin n)
    (phase : SyncPhase Report) :
    SyncWorkers n m Report :=
  pool.setWorker id { pool.workers id with phase := phase }

def enqueueIrregularJobIfDue
    (pool : SyncWorkers n m Report)
    (id : Fin n)
    (noMoreSyncsEarlier64 : Int) :
    Checked (SyncWorkers n m Report) := do
  let (irregularReport, irregularQueue) ←
    pool.irregularQueue.enqueueIrregularJobIfDue
      (pool.baton.isIdHolderTheSame id) noMoreSyncsEarlier64
  pure { pool with
    irregularQueue := irregularQueue
    jobQueue :=
      pool.jobQueue ++ (irregularReport.map SyncJob.irregular).toList }

def enqueueJobNto
    (pool : SyncWorkers n m Report)
    (id : Fin n)
    (syncReport : Report) :
    Checked (SyncWorkers n m Report) := do
  let finePeakTime64 := setup.finePeakTime64 syncReport
  let (isUnique, baton) ← pool.baton.isSyncTimeUnique finePeakTime64
  let pool : SyncWorkers n m Report := { pool with
    baton := baton
    jobQueue :=
      if isUnique then
        pool.jobQueue ++ [.packet syncReport]
      else
        pool.jobQueue
    checked := pool.checked ++ [syncReport] }
  pool.enqueueIrregularJobIfDue id finePeakTime64

/--
One round of a search.  It returns the packet that was found, or nothing once
the search range is covered.
-/
def searchRound
    (pool : SyncWorkers n m Report)
    (id : Fin n)
    (returned : Option Report → SyncPhase Report) :
    Checked (SyncWorkers n m Report) :=
  let worker := pool.workers id
  let syncChunk := worker.syncChunk
  if syncChunk.isChunkCompletelyProcessed setup then
    .ok (pool.setPhase id (returned none))
  else
    match syncChunk.rounds with
    | [] => .ok pool
    | round :: rounds =>
        let worker : WorkerSync Report := { worker with
          syncChunk := { syncChunk with
            localbufferCntR := round.localbufferCntR
            rounds := rounds } }
        match round.syncReport with
        | some syncReport =>
            .ok
              (pool.setWorker id
                { worker with phase := returned (some syncReport) })
        | none => do
            let noMoreSyncsEarlier64 ←
              int64 (syncChunk.chunkTimeStart64 + round.localbufferCntR)
            (pool.setWorker id worker).enqueueIrregularJobIfDue id
              noMoreSyncsEarlier64

/-- What a search returns to, before the baton is acquired. -/
def beforeBaton : Option Report → SyncPhase Report
  | some syncReport => .found syncReport
  | none => .wait none

/-- The end of a chunk: a regular job if one is due, and the baton. -/
def finishChunk
    (pool : SyncWorkers n m Report)
    (id : Fin n) :
    Checked (SyncWorkers n m Report) := do
  let syncChunk := (pool.workers id).syncChunk
  let (isDue, baton) := pool.baton.isJobRegularDue
  let chunkTimeEnd64 ← syncChunk.getChunkTimeEnd setup
  -- There is no chunk before the first one.
  dectnrpAssert
    (int64Max ≤ baton.chunkTimeEnd64 ||
      syncChunk.chunkTimeStart64 - baton.chunkTimeEnd64 = 1)
    "time not continuous"
  let after ←
    { baton with chunkTimeEnd64 := chunkTimeEnd64 }.passOn id
  let pool : SyncWorkers n m Report := { pool with
    baton := after
    jobQueue :=
      if isDue then
        pool.jobQueue ++
          [.regular (.new chunkTimeEnd64 baton.syncTimeLast64)]
      else
        pool.jobQueue
    chunksDone :=
      pool.chunksDone ++ [((id : Nat), syncChunk.chunkTimeStart64)] }
  pure (pool.setPhase id .loop)

/-- A worker takes a step. -/
def work
    (pool : SyncWorkers n m Report)
    (id : Fin n) :
    Checked (SyncWorkers n m Report) :=
  let worker := pool.workers id
  match worker.phase with
  | .start => do
      dectnrpAssert
        (setup.startTime64.tmod setup.antStreamsLengthSamples = 0)
        "invalid synchronization start time"
      let syncChunk ←
        SyncChunk.waitForFirstChunkNto setup id setup.startTime64
      pure (pool.setWorker id ⟨.loop, [], syncChunk⟩)
  | .loop =>
      if pool.keepRunning then
        .ok
          (pool.setWorker id
            { worker with phase := .search false, syncReportArr := [] })
      else
        .ok (pool.setPhase id .stopped)
  | .search hasBaton => do
      let syncChunk ← worker.syncChunk.enterSearch setup
      pure
        (pool.setWorker id
          { worker with
            phase := .searching hasBaton
            syncChunk := syncChunk })
  | .searching false => pool.searchRound setup id beforeBaton
  | .searching true => pool.searchRound setup id .process
  | .found syncReport =>
      if pool.baton.isIdHolderTheSame id then
        .ok (pool.setPhase id (.wait (some syncReport)))
      else if worker.syncReportArr.length < rxSyncParamMaxNofBufferable then
        -- The search goes on, whether or not the chunk is completely processed.
        .ok
          (pool.setWorker id
            { worker with
              phase := .search false
              syncReportArr := worker.syncReportArr ++ [syncReport] })
      else
        .ok (pool.setPhase id (.wait (some syncReport)))
  | .wait syncReportOpt =>
      if pool.baton.isIdHolderTheSame id then
        .ok (pool.setPhase id (.flush 0 syncReportOpt))
      else if pool.keepRunning then
        .ok pool
      else
        .ok (pool.setPhase id .stopped)
  | .flush i syncReportOpt =>
      match worker.syncReportArr[i]? with
      | some syncReport => do
          let pool ← pool.enqueueJobNto setup id syncReport
          pure (pool.setPhase id (.flush (i + 1) syncReportOpt))
      | none => .ok (pool.setPhase id (.process syncReportOpt))
  | .process (some syncReport) => do
      let pool ← pool.enqueueJobNto setup id syncReport
      pure (pool.setPhase id .check)
  | .process none => .ok (pool.setPhase id .check)
  | .check =>
      if worker.syncChunk.isChunkCompletelyProcessed setup then
        .ok (pool.setPhase id .done)
      else
        .ok (pool.setPhase id (.search true))
  | .done => pool.finishChunk setup id
  | .stopped => .ok pool

/-- One action, in any order. -/
def step
    (pool : SyncWorkers n m Report) :
    Action n → Checked (SyncWorkers n m Report)
  | .work id => pool.work setup id
  | .push irregularReport => do
      let irregularQueue ← pool.irregularQueue.push irregularReport
      pure { pool with irregularQueue := irregularQueue }
  | .stop => .ok { pool with keepRunning := false }

end SyncWorkers

end DectNrp
