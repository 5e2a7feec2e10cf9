import DectNrp.CheckedRuns
import DectNrp.WorkerTurns

namespace DectNrp

/-!
# Order of the synchronized packets

The workers refine agents that publish blocks in turns: a block is what the
search finds in a chunk, and the baton is the turn.

This takes that a worker that waits for the baton does not go on with its search
after a packet that was found in the last round of its chunk.  The search would
move to the next chunk of this worker, and its packets would be handed over
before those of the chunks in between.
-/

open Checked (bind_eq_ok)

variable {n m : Nat} {Report : Type}

theorem Baton.isSyncTimeUnique_spec
    {baton after : Baton}
    {syncTimeCandidate64 : Int}
    {isUnique : Bool}
    (returned :
      baton.isSyncTimeUnique syncTimeCandidate64 = .ok (isUnique, after)) :
    isUnique =
        decide
          (SpacedEvents.Apart baton.syncTimeUniqueLimit64
            baton.syncTimeLast64 syncTimeCandidate64) ∧
      after =
        { baton with
          syncTimeLast64 :=
            if SpacedEvents.Apart baton.syncTimeUniqueLimit64
                baton.syncTimeLast64 syncTimeCandidate64 then
              syncTimeCandidate64
            else baton.syncTimeLast64 } := by
  unfold isSyncTimeUnique at returned
  obtain ⟨diff, isDiff, returned⟩ := bind_eq_ok.mp returned
  obtain ⟨-, rfl⟩ := int64_eq_ok_iff.mp isDiff
  split at returned
  · rename_i isApart
    cases returned
    exact ⟨(decide_eq_true isApart).symm, by
        rw [if_pos (show SpacedEvents.Apart _ _ _ from isApart)]⟩
  · rename_i notApart
    cases returned
    exact ⟨(decide_eq_false notApart).symm, by
        rw [if_neg (show ¬SpacedEvents.Apart _ _ _ from notApart)]⟩

namespace SyncWorkers

open TurnTaking (Turns)

/-- What the workers share follows the turns. -/
structure Follows
    (setup : SyncSetup n Report)
    (pool : SyncWorkers n m Report)
    (turn : Nat)
    (published : List Report) :
    Prop where
  chunksDone_eq :
    pool.chunksDone =
      (List.range turn).map fun chunk => (chunk % n, setup.chunkTime chunk)
  checked_eq : pool.checked = published
  nofWorkerSync_eq : pool.baton.nofWorkerSync = n
  limit_eq :
    pool.baton.syncTimeUniqueLimit64 = setup.syncTimeUniqueLimit64
  idHolder_eq : pool.baton.idHolder = turn % n
  chunkTimeEnd_eq :
    pool.baton.chunkTimeEnd64 =
      if turn = 0 then int64Max else setup.chunkTime turn - 1
  syncTimeLast_eq :
    pool.baton.syncTimeLast64 =
      SpacedEvents.lastKept setup.finePeakTime64
        setup.syncTimeUniqueLimit64 undefinedEarly64 published
  jobQueue_eq :
    pool.jobQueue.filterMap SyncJob.syncReport? =
      SpacedEvents.keep setup.finePeakTime64
        setup.syncTimeUniqueLimit64 undefinedEarly64 published
  irregularQueue : pool.irregularQueue.Invariant

/-- The workers refine agents that publish their chunks in turns. -/
structure Refines
    (setup : SyncSetup n Report)
    (pool : SyncWorkers n m Report)
    (turns : Turns n Report) :
    Prop where
  shared : pool.Follows setup turns.turn turns.published
  workers :
    ∀ id,
      (pool.workers id).phase = .stopped ∨
        (pool.workers id).Holds setup turns.turn id (turns.pending id)

variable
  {setup : SyncSetup n Report}
  {pool after : SyncWorkers n m Report}
  {turns : Turns n Report}
  {turn : Nat}
  {published : List Report}
  {id : Fin n}

/-- An irregular job changes nothing but the queues. -/
theorem enqueueIrregularJobIfDue_spec
    {noMoreSyncsEarlier64 : Int}
    (follows : pool.Follows setup turn published)
    (enqueued :
      pool.enqueueIrregularJobIfDue id noMoreSyncsEarlier64 = .ok after) :
    after.Follows setup turn published ∧ after.workers = pool.workers := by
  unfold enqueueIrregularJobIfDue at enqueued
  obtain ⟨⟨irregularReport, irregularQueue⟩, isEnqueued, isAfter⟩ :=
    bind_eq_ok.mp enqueued
  cases isAfter
  have kept : irregularQueue.Invariant := by
    unfold IrregularQueue.enqueueIrregularJobIfDue at isEnqueued
    split at isEnqueued
    · obtain ⟨⟨popped, rest⟩, isRecognized, isRest⟩ := bind_eq_ok.mp isEnqueued
      cases isRest
      unfold IrregularQueue.recognize at isRecognized
      obtain ⟨⟨first, others⟩, isPopped, isRest⟩ := bind_eq_ok.mp isRecognized
      obtain ⟨delay, -, isRest⟩ := bind_eq_ok.mp isRest
      obtain ⟨-, -, isRest⟩ := bind_eq_ok.mp isRest
      cases isRest
      exact (follows.irregularQueue.pop isPopped).2.2
    · cases isEnqueued
      exact follows.irregularQueue
  have noPacket : ((irregularReport.map SyncJob.irregular).toList :
      List (SyncJob Report)).filterMap SyncJob.syncReport? = [] := by
    cases irregularReport <;> rfl
  refine ⟨{ follows with jobQueue_eq := ?_, irregularQueue := kept }, rfl⟩
  rw [List.filterMap_append, noPacket, List.append_nil]
  exact follows.jobQueue_eq

variable {syncReport : Report}

/-- A packet that is checked is kept if it lies apart. -/
theorem Follows.checked
    {isUnique : Bool}
    {baton : Baton}
    (follows : pool.Follows setup turn published)
    (isChecked :
      pool.baton.isSyncTimeUnique (setup.finePeakTime64 syncReport) =
        .ok (isUnique, baton)) :
    Follows setup
      { pool with
        baton := baton
        jobQueue :=
          if isUnique then pool.jobQueue ++ [.packet syncReport]
          else pool.jobQueue
        checked := pool.checked ++ [syncReport] }
      turn (published ++ [syncReport]) := by
  obtain ⟨rfl, rfl⟩ := Baton.isSyncTimeUnique_spec isChecked
  rw [follows.limit_eq, follows.syncTimeLast_eq]
  exact
    { follows with
      checked_eq := by rw [follows.checked_eq]
      limit_eq := rfl
      syncTimeLast_eq := by
        rw [SpacedEvents.lastKept_append]
        rfl
      jobQueue_eq := by
        rw [SpacedEvents.keep_append]
        simp only [SpacedEvents.keep, decide_eq_true_eq]
        split
        · rw [List.filterMap_append, follows.jobQueue_eq]
          rfl
        · rw [follows.jobQueue_eq, List.append_nil] }

/-- A packet is checked, and becomes a job if it lies apart. -/
theorem enqueueJobNto_spec
    (follows : pool.Follows setup turn published)
    (enqueued : pool.enqueueJobNto setup id syncReport = .ok after) :
    after.Follows setup turn (published ++ [syncReport]) ∧
      after.workers = pool.workers := by
  unfold enqueueJobNto at enqueued
  obtain ⟨⟨isUnique, baton⟩, isChecked, enqueued⟩ := bind_eq_ok.mp enqueued
  have spec :=
    enqueueIrregularJobIfDue_spec (follows.checked isChecked) enqueued
  exact spec

theorem Follows.setWorker
    (follows : pool.Follows setup turn published)
    (worker : WorkerSync Report) :
    (pool.setWorker id worker).Follows setup turn published :=
  { follows with }

variable {worker : WorkerSync Report}

/-- A worker that holds the same as before changes nothing for the others. -/
theorem Refines.setWorker
    (refines : pool.Refines setup turns)
    (holds :
      worker.phase = .stopped ∨
        worker.Holds setup turns.turn id (turns.pending id)) :
    (pool.setWorker id worker).Refines setup turns := by
  refine ⟨refines.shared.setWorker worker, ?_⟩
  intro other
  by_cases isSame : other = id
  · subst isSame
    rw [setWorker_self]
    exact holds
  · rw [setWorker_of_ne _ isSame]
    exact refines.workers other

/-- The worker that has the baton hands over its next packet. -/
theorem Refines.publish
    {rest : List Report}
    (refines : pool.Refines setup turns)
    (isTurn : turns.turn % n = id)
    (isNext : turns.pending id = syncReport :: rest)
    (enqueued : pool.enqueueJobNto setup id syncReport = .ok after)
    (holds : worker.Holds setup turns.turn id rest) :
    ∃ next,
      TurnTaking.Step setup.syncReports turns next ∧
        (after.setWorker id worker).Refines setup next := by
  obtain ⟨follows, sameWorkers⟩ := enqueueJobNto_spec refines.shared enqueued
  refine ⟨_, .publish turns id syncReport rest isTurn isNext, ?_⟩
  refine ⟨follows.setWorker worker, ?_⟩
  intro other
  dsimp only
  by_cases isSame : other = id
  · subst isSame
    rw [setWorker_self, Function.update_self]
    exact Or.inr holds
  · rw [setWorker_of_ne _ isSame, Function.update_of_ne isSame, sameWorkers]
    exact refines.workers other

/-- A regular job changes nothing but its counter. -/
theorem isJobRegularDue_spec (baton : Baton) :
    ∃ rxJobRegularPeriodCnt,
      baton.isJobRegularDue.2 =
        { baton with rxJobRegularPeriodCnt := rxJobRegularPeriodCnt } := by
  unfold Baton.isJobRegularDue
  split
  · exact ⟨_, rfl⟩
  · dsimp only
    split
    · exact ⟨_, rfl⟩
    · exact ⟨_, rfl⟩

/-- The end of a chunk ends a turn. -/
theorem Follows.finished
    (follows : pool.Follows setup turn published)
    (isTime :
      (pool.workers id).syncChunk.chunkTimeStart64 = setup.chunkTime turn)
    (isTurn : turn % n = id)
    (finished : pool.finishChunk setup id = .ok after) :
    after.Follows setup (turn + 1) published ∧
      after.workers =
        Function.update pool.workers id
          { pool.workers id with phase := .loop } := by
  obtain ⟨rxJobRegularPeriodCnt, isCounted⟩ := isJobRegularDue_spec pool.baton
  unfold finishChunk at finished
  dsimp only at finished
  rw [isCounted] at finished
  obtain ⟨chunkTimeEnd64, isEnd, finished⟩ := bind_eq_ok.mp finished
  obtain ⟨-, rfl⟩ := int64_eq_ok_iff.mp isEnd
  obtain ⟨-, -, finished⟩ := bind_eq_ok.mp finished
  obtain ⟨baton, isPassed, finished⟩ := bind_eq_ok.mp finished
  obtain ⟨-, -, isPassed⟩ := bind_eq_ok.mp isPassed
  cases isPassed
  cases finished
  have isNext : setup.chunkTime turn + (setup.chunkLengthSamples - 1 : Nat) =
      setup.chunkTime (turn + 1) - 1 := by
    have := setup.chunkLength_pos
    unfold SyncSetup.chunkTime
    push_cast [this]
    ring
  refine ⟨{ follows with
    chunksDone_eq := ?_
    idHolder_eq := ?_
    chunkTimeEnd_eq := ?_
    jobQueue_eq := ?_ }, rfl⟩
  · rw [List.range_succ, List.map_append, ← follows.chunksDone_eq]
    change _ ++ [_] = _ ++ [(turn % n, setup.chunkTime turn)]
    rw [isTime, isTurn]
  · change (pool.baton.idHolder + 1) % pool.baton.nofWorkerSync = _
    rw [follows.idHolder_eq, follows.nofWorkerSync_eq, Nat.mod_add_mod]
  · rw [if_neg (Nat.succ_ne_zero turn), ← isNext, ← isTime]
    rfl
  · rw [← follows.jobQueue_eq]
    dsimp only [SyncWorkers.setPhase, SyncWorkers.setWorker]
    split
    · rw [List.filterMap_append]
      exact List.append_nil _
    · rfl

variable
  {syncReportArr : List Report}
  {syncChunk : SyncChunk Report}

/-- The worker that is done with its chunk ends its turn. -/
theorem Refines.pass
    (refines : pool.Refines setup turns)
    (isWorker : pool.workers id = ⟨.done, syncReportArr, syncChunk⟩)
    (holds :
      WorkerSync.Holds setup turns.turn id (turns.pending id)
        ⟨.done, syncReportArr, syncChunk⟩)
    (finished : pool.finishChunk setup id = .ok after) :
    ∃ next,
      TurnTaking.Step setup.syncReports turns next ∧
        after.Refines setup next := by
  have isTurn : turns.turn % n = id := holds.isTurn rfl
  have isTime : syncChunk.chunkTimeStart64 = setup.chunkTime turns.turn := by
    rw [← TurnTaking.nextTurn_self id.pos isTurn]
    exact holds.chunkTime_eq
  obtain ⟨covers, isComplete⟩ := holds.staysInChunk
  obtain ⟨follows, isAfter⟩ :=
    refines.shared.finished (by rw [isWorker]; exact isTime) isTurn finished
  refine ⟨_, .pass turns id isTurn holds.toCome_eq.symm, follows, ?_⟩
  intro other
  dsimp only
  rw [isAfter]
  by_cases isSame : other = id
  · subst isSame
    have isLater :
        syncChunk.aheadTime setup = setup.chunkTime (turns.turn + n) := by
      rw [SyncChunk.aheadTime, if_pos isComplete, isTime,
        SyncSetup.chunkTime, SyncSetup.chunkTime,
        SyncSetup.chunkStrideSamples]
      push_cast
      ring
    rw [Function.update_self, Function.update_self, isWorker]
    refine
      Or.inr ⟨covers, ?_, ?_, fun isBaton => absurd isBaton Bool.false_ne_true⟩
    · change syncChunk.ahead setup = _
      rw [SyncChunk.ahead, if_pos isComplete, SyncSetup.syncReports,
        ← isLater, SyncChunk.aheadTime, if_pos isComplete]
    · rw [TurnTaking.nextTurn_succ_of_eq isTurn]
      exact isLater
  · have notTurn : turns.turn % n ≠ other := by
      intro isOther
      exact isSame (Fin.ext (isOther.symm.trans isTurn))
    rw [Function.update_of_ne isSame, Function.update_of_ne isSame]
    rcases refines.workers other with isStopped | otherHolds
    · exact Or.inl isStopped
    · refine Or.inr { otherHolds with chunkTime_eq := ?_, isTurn := ?_ }
      · rw [TurnTaking.nextTurn_succ_of_ne notTurn]
        exact otherHolds.chunkTime_eq
      · intro isBaton
        exact absurd (otherHolds.isTurn isBaton) notTurn

/--
A packet that is buffered leaves something of the search range of its chunk.
-/
def buffersWithinChunk
    (setup : SyncSetup n Report)
    (pool : SyncWorkers n m Report) :
    Action n → Bool
  | .work id =>
      let worker := pool.workers id
      match worker.phase with
      | .found _ =>
          pool.baton.isIdHolderTheSame id ||
            rxSyncParamMaxNofBufferable ≤ worker.syncReportArr.length ||
            !worker.syncChunk.isChunkCompletelyProcessed setup
      | _ => true
  | _ => true

/-- Either nothing is handed over, or the agents take a step. -/
def Simulates
    (setup : SyncSetup n Report)
    (turns : Turns n Report)
    (after : SyncWorkers n m Report) :
    Prop :=
  ∃ next,
    Relation.ReflGen (TurnTaking.Step setup.syncReports) turns next ∧
      after.Refines setup next

theorem Refines.same (refines : pool.Refines setup turns) :
    pool.Simulates setup turns :=
  ⟨turns, .refl, refines⟩

/-- One round of a search keeps what a worker still hands over. -/
theorem Refines.searchRound
    {hasBaton : Bool}
    {returned : Option Report → SyncPhase Report}
    (refines : pool.Refines setup turns)
    (isWorker :
      pool.workers id = ⟨.searching hasBaton, syncReportArr, syncChunk⟩)
    (holds :
      WorkerSync.Holds setup turns.turn id (turns.pending id)
        ⟨.searching hasBaton, syncReportArr, syncChunk⟩)
    (searched : pool.searchRound setup id returned = .ok after)
    (ended :
      WorkerSync.Holds setup turns.turn id (turns.pending id)
        ⟨returned none, syncReportArr, syncChunk⟩)
    (found :
      ∀ {round : SearchRound Report} {rounds syncReport},
        syncChunk.rounds = round :: rounds →
          round.syncReport = some syncReport →
          WorkerSync.Holds setup turns.turn id (turns.pending id)
            ⟨returned (some syncReport), syncReportArr,
              { syncChunk with
                localbufferCntR := round.localbufferCntR
                rounds := rounds }⟩) :
    after.Refines setup turns := by
  unfold SyncWorkers.searchRound SyncWorkers.setPhase at searched
  rw [isWorker] at searched
  dsimp only at searched
  split at searched
  · cases searched
    exact refines.setWorker (Or.inr ended)
  · split at searched
    · cases searched
      exact refines
    · rename_i round rounds isRounds
      split at searched
      · rename_i syncReport isPacket
        cases searched
        exact refines.setWorker (Or.inr (found isRounds isPacket))
      · rename_i noPacket
        obtain ⟨time, -, searched⟩ := bind_eq_ok.mp searched
        have kept :=
          refines.setWorker (Or.inr (holds.searched isRounds noPacket))
        have spec := enqueueIrregularJobIfDue_spec kept.shared searched
        obtain ⟨follows, sameWorkers⟩ := spec
        refine ⟨follows, ?_⟩
        rw [sameWorkers]
        exact kept.workers

/-- A step of a worker is one of the agents, or hands over nothing. -/
theorem Refines.work
    (refines : pool.Refines setup turns)
    (within : pool.buffersWithinChunk setup (.work id) = true)
    (returned : pool.work setup id = .ok after) :
    after.Simulates setup turns := by
  cases isWorker : pool.workers id with
  | mk phase syncReportArr syncChunk =>
  have holdsOrStopped := refines.workers id
  dsimp only [SyncWorkers.buffersWithinChunk] at within
  unfold SyncWorkers.work SyncWorkers.setPhase at returned
  rw [isWorker] at holdsOrStopped within returned
  have isTurn (holdsBaton : pool.baton.isIdHolderTheSame id = true) :
      turns.turn % n = id := by
    rw [← refines.shared.idHolder_eq]
    exact (of_decide_eq_true holdsBaton).symm
  rcases holdsOrStopped with rfl | holds
  · cases returned
    exact refines.same
  have simulated
      {worker : WorkerSync Report}
      (kept : worker.Holds setup turns.turn id (turns.pending id)) :
      (pool.setWorker id worker).Simulates setup turns :=
    (refines.setWorker (Or.inr kept)).same
  have stopped :
      (pool.setWorker id ⟨.stopped, syncReportArr, syncChunk⟩).Simulates
        setup turns :=
    (refines.setWorker (Or.inl rfl)).same
  cases phase with
  | start =>
      obtain ⟨-, -, returned⟩ := bind_eq_ok.mp returned
      obtain ⟨chunk, isStarted, returned⟩ := bind_eq_ok.mp returned
      cases returned
      exact simulated (holds.started isStarted)
  | loop =>
      dsimp only at returned
      split at returned
      · cases returned
        exact simulated holds.looped
      · cases returned
        exact stopped
  | search hasBaton =>
      obtain ⟨chunk, isEntered, returned⟩ := bind_eq_ok.mp returned
      cases returned
      exact simulated (holds.entered isEntered)
  | searching hasBaton =>
      cases hasBaton with
      | false =>
          have searched : pool.searchRound setup id beforeBaton = .ok after :=
            returned
          exact (refines.searchRound isWorker holds searched
              holds.endedBefore holds.foundBefore).same
      | true =>
          have searched : pool.searchRound setup id .process = .ok after :=
            returned
          exact (refines.searchRound isWorker holds searched
              holds.endedAfter holds.foundAfter).same
  | found syncReport =>
      dsimp only at returned
      split at returned
      · cases returned
        exact simulated holds.waits
      · rename_i notHolder
        split at returned
        · rename_i hasRoom
          cases returned
          have notComplete :
              syncChunk.isChunkCompletelyProcessed setup = false := by
            simpa [notHolder, Nat.not_le.mpr hasRoom] using within
          exact simulated (holds.buffered notComplete)
        · cases returned
          exact simulated holds.waits
  | wait syncReportOpt =>
      dsimp only at returned
      split at returned
      · rename_i holdsBaton
        cases returned
        exact simulated (holds.acquired (isTurn holdsBaton))
      · split at returned
        · cases returned
          exact refines.same
        · cases returned
          exact stopped
  | flush i syncReportOpt =>
      dsimp only at returned
      split at returned
      · rename_i syncReport isNext
        obtain ⟨enqueued, isEnqueued, returned⟩ := bind_eq_ok.mp returned
        cases returned
        obtain ⟨rest, isPending, kept⟩ := holds.flushes isNext
        obtain ⟨next, isStep, follows⟩ :=
          refines.publish (holds.isTurn rfl) isPending isEnqueued kept
        rw [(enqueueJobNto_spec refines.shared isEnqueued).2, isWorker]
        exact ⟨next, .single isStep, follows⟩
      · rename_i isEnd
        cases returned
        exact simulated (holds.flushed isEnd)
  | process syncReportOpt =>
      cases syncReportOpt with
      | none =>
          cases returned
          exact simulated holds.processedNone
      | some syncReport =>
          obtain ⟨enqueued, isEnqueued, returned⟩ := bind_eq_ok.mp returned
          cases returned
          obtain ⟨rest, isPending, kept⟩ := holds.processes
          obtain ⟨next, isStep, follows⟩ :=
            refines.publish (holds.isTurn rfl) isPending isEnqueued kept
          rw [(enqueueJobNto_spec refines.shared isEnqueued).2, isWorker]
          exact ⟨next, .single isStep, follows⟩
  | check =>
      dsimp only at returned
      split at returned
      · rename_i isComplete
        cases returned
        exact simulated (holds.checkedDone isComplete)
      · rename_i notComplete
        cases returned
        exact
          simulated (holds.checkedAgain (Bool.not_eq_true _ |>.mp notComplete))
  | done =>
      obtain ⟨next, isStep, follows⟩ := refines.pass isWorker holds returned
      exact ⟨next, .single isStep, follows⟩
  | stopped =>
      cases returned
      exact refines.same

end SyncWorkers

end DectNrp
