import DectNrp.TurnTaking
import DectNrp.WorkerSync

namespace DectNrp

/-!
# Turns of a synchronization worker

What a worker still hands over in its turn is what it has buffered, what its
last search has returned and what the rounds to come find.  A step of a worker
that hands over no packet keeps this list, and handing over a packet takes its
first entry away.
-/

variable {n : Nat} {Report : Type}

/-- Packets that a search from here on finds, and that were found before. -/
def WorkerSync.toCome
    (setup : SyncSetup n Report)
    (id : Fin n)
    (worker : WorkerSync Report) :
    List Report :=
  match worker.phase with
  | .start => setup.syncReports id
  | .loop => worker.syncChunk.ahead setup
  | .search false =>
      worker.syncReportArr ++ worker.syncChunk.ahead setup
  | .search true => worker.syncChunk.ahead setup
  | .searching false =>
      worker.syncReportArr ++ syncReportsOf worker.syncChunk.rounds
  | .searching true => syncReportsOf worker.syncChunk.rounds
  | .found syncReport =>
      worker.syncReportArr ++
        syncReport :: syncReportsOf worker.syncChunk.rounds
  | .wait syncReportOpt =>
      worker.syncReportArr ++
        (syncReportOpt.toList ++ syncReportsOf worker.syncChunk.rounds)
  | .flush i syncReportOpt =>
      worker.syncReportArr.drop i ++
        (syncReportOpt.toList ++ syncReportsOf worker.syncChunk.rounds)
  | .process syncReportOpt =>
      syncReportOpt.toList ++ syncReportsOf worker.syncChunk.rounds
  | .check => syncReportsOf worker.syncChunk.rounds
  | .done => []
  | .stopped => []

/-- Start of the chunk that a worker publishes in its next turn. -/
def WorkerSync.chunkTime
    (setup : SyncSetup n Report)
    (id : Fin n)
    (worker : WorkerSync Report) :
    Int :=
  match worker.phase with
  | .start => setup.chunkTime id
  | .loop => worker.syncChunk.aheadTime setup
  | .search _ => worker.syncChunk.aheadTime setup
  | _ => worker.syncChunk.chunkTimeStart64

/-- A worker in this phase has acquired the baton. -/
def SyncPhase.hasBaton : SyncPhase Report → Bool
  | .search hasBaton => hasBaton
  | .searching hasBaton => hasBaton
  | .flush _ _ => true
  | .process _ => true
  | .check => true
  | .done => true
  | _ => false

/-- A search goes on only in a chunk that is not completely processed. -/
def WorkerSync.StaysInChunk
    (setup : SyncSetup n Report)
    (worker : WorkerSync Report) :
    Prop :=
  match worker.phase with
  | .start => True
  | .search hasBaton =>
      worker.syncChunk.Covers setup ∧
        (hasBaton = true ∨ worker.syncReportArr ≠ [] →
          worker.syncChunk.isChunkCompletelyProcessed setup = false)
  | .done =>
      worker.syncChunk.Covers setup ∧
        worker.syncChunk.isChunkCompletelyProcessed setup = true
  | _ => worker.syncChunk.Covers setup

/-- A worker holds what it publishes in its next turn. -/
structure WorkerSync.Holds
    (setup : SyncSetup n Report)
    (turn : Nat)
    (id : Fin n)
    (pending : List Report)
    (worker : WorkerSync Report) :
    Prop where
  staysInChunk : worker.StaysInChunk setup
  toCome_eq : worker.toCome setup id = pending
  chunkTime_eq :
    worker.chunkTime setup id =
      setup.chunkTime (TurnTaking.nextTurn n turn id)
  isTurn : worker.phase.hasBaton = true → turn % n = id

namespace WorkerSync.Holds

variable
  {setup : SyncSetup n Report}
  {turn : Nat}
  {id : Fin n}
  {pending : List Report}
  {syncReportArr : List Report}
  {syncChunk after : SyncChunk Report}

theorem started
    (holds : Holds setup turn id pending ⟨.start, syncReportArr, syncChunk⟩)
    (isStarted :
      SyncChunk.waitForFirstChunkNto setup id setup.startTime64 = .ok after) :
    Holds setup turn id pending ⟨.loop, [], after⟩ := by
  obtain ⟨covers, notComplete, isTime, isRounds⟩ :=
    SyncChunk.waitForFirstChunkNto_eq isStarted
  refine ⟨covers, ?_, ?_, fun isBaton => absurd isBaton Bool.false_ne_true⟩
  · rw [← holds.toCome_eq]
    change after.ahead setup = setup.syncReports id
    rw [SyncChunk.ahead, notComplete, isRounds]
    rfl
  · rw [← holds.chunkTime_eq]
    change after.aheadTime setup = setup.chunkTime id
    rw [SyncChunk.aheadTime, notComplete]
    exact isTime

theorem looped
    (holds : Holds setup turn id pending ⟨.loop, syncReportArr, syncChunk⟩) :
    Holds setup turn id pending ⟨.search false, [], syncChunk⟩ where
  staysInChunk :=
    ⟨holds.staysInChunk, fun continues =>
      continues.elim (fun hasBaton => (by cases hasBaton))
        fun notEmpty => absurd rfl notEmpty⟩
  toCome_eq := holds.toCome_eq
  chunkTime_eq := holds.chunkTime_eq
  isTurn isBaton := absurd isBaton Bool.false_ne_true

theorem entered
    {hasBaton : Bool}
    (holds :
      Holds setup turn id pending ⟨.search hasBaton, syncReportArr, syncChunk⟩)
    (isEntered : syncChunk.enterSearch setup = .ok after) :
    Holds setup turn id pending
      ⟨.searching hasBaton, syncReportArr, after⟩ := by
  obtain ⟨covers, -, isTime, isAhead⟩ :=
    SyncChunk.enterSearch_spec holds.staysInChunk.1 isEntered
  refine ⟨covers, ?_, isTime.trans holds.chunkTime_eq, fun isBaton =>
      holds.isTurn isBaton⟩
  rw [← holds.toCome_eq]
  cases hasBaton with
  | false => exact congrArg (syncReportArr ++ ·) isAhead
  | true => exact isAhead

variable
  {round : SearchRound Report}
  {rounds : List (SearchRound Report)}

/-- What a search has not returned yet is found by the rounds to come. -/
theorem searched
    {hasBaton : Bool}
    (holds :
      Holds setup turn id pending
        ⟨.searching hasBaton, syncReportArr, syncChunk⟩)
    (isRounds : syncChunk.rounds = round :: rounds)
    (noPacket : round.syncReport = none) :
    Holds setup turn id pending
      ⟨.searching hasBaton, syncReportArr,
        { syncChunk with
          localbufferCntR := round.localbufferCntR
          rounds := rounds }⟩ := by
  have covers : syncChunk.Covers setup := holds.staysInChunk
  rw [SyncChunk.Covers, isRounds] at covers
  have same : syncReportsOf syncChunk.rounds = syncReportsOf rounds := by
    rw [isRounds]
    exact List.filterMap_cons_none noPacket
  refine ⟨covers.2, ?_, holds.chunkTime_eq, holds.isTurn⟩
  rw [← holds.toCome_eq]
  cases hasBaton with
  | false => exact congrArg (syncReportArr ++ ·) same.symm
  | true => exact same.symm

variable {syncReport : Report}

theorem foundBefore
    (holds :
      Holds setup turn id pending ⟨.searching false, syncReportArr, syncChunk⟩)
    (isRounds : syncChunk.rounds = round :: rounds)
    (isPacket : round.syncReport = some syncReport) :
    Holds setup turn id pending
      ⟨.found syncReport, syncReportArr,
        { syncChunk with
          localbufferCntR := round.localbufferCntR
          rounds := rounds }⟩ := by
  have covers : syncChunk.Covers setup := holds.staysInChunk
  rw [SyncChunk.Covers, isRounds] at covers
  refine ⟨covers.2, ?_, holds.chunkTime_eq, fun isBaton =>
      absurd isBaton Bool.false_ne_true⟩
  rw [← holds.toCome_eq]
  change _ = syncReportArr ++ syncReportsOf syncChunk.rounds
  rw [isRounds, syncReportsOf, List.filterMap_cons_some isPacket]
  rfl

theorem foundAfter
    (holds :
      Holds setup turn id pending ⟨.searching true, syncReportArr, syncChunk⟩)
    (isRounds : syncChunk.rounds = round :: rounds)
    (isPacket : round.syncReport = some syncReport) :
    Holds setup turn id pending
      ⟨.process (some syncReport), syncReportArr,
        { syncChunk with
          localbufferCntR := round.localbufferCntR
          rounds := rounds }⟩ := by
  have covers : syncChunk.Covers setup := holds.staysInChunk
  rw [SyncChunk.Covers, isRounds] at covers
  refine ⟨covers.2, ?_, holds.chunkTime_eq, holds.isTurn⟩
  rw [← holds.toCome_eq]
  change _ = syncReportsOf syncChunk.rounds
  rw [isRounds, syncReportsOf, List.filterMap_cons_some isPacket]
  rfl

/-- The search ends without a packet. -/
theorem endedBefore
    (holds :
      Holds setup turn id pending
        ⟨.searching false, syncReportArr, syncChunk⟩) :
    Holds setup turn id pending ⟨.wait none, syncReportArr, syncChunk⟩ :=
  ⟨holds.staysInChunk, holds.toCome_eq, holds.chunkTime_eq, fun isBaton =>
      absurd isBaton Bool.false_ne_true⟩

theorem endedAfter
    (holds :
      Holds setup turn id pending
        ⟨.searching true, syncReportArr, syncChunk⟩) :
    Holds setup turn id pending ⟨.process none, syncReportArr, syncChunk⟩ :=
  ⟨holds.staysInChunk, holds.toCome_eq, holds.chunkTime_eq, holds.isTurn⟩

/-- The search ended with a packet, and the worker waits. -/
theorem waits
    (holds :
      Holds setup turn id pending
        ⟨.found syncReport, syncReportArr, syncChunk⟩) :
    Holds setup turn id pending
      ⟨.wait (some syncReport), syncReportArr, syncChunk⟩ :=
  ⟨holds.staysInChunk, holds.toCome_eq, holds.chunkTime_eq, fun isBaton =>
      absurd isBaton Bool.false_ne_true⟩

/-- A packet is buffered, and the search goes on in the same chunk. -/
theorem buffered
    (holds :
      Holds setup turn id pending
        ⟨.found syncReport, syncReportArr, syncChunk⟩)
    (notComplete : syncChunk.isChunkCompletelyProcessed setup = false) :
    Holds setup turn id pending
      ⟨.search false, syncReportArr ++ [syncReport], syncChunk⟩ := by
  refine ⟨⟨holds.staysInChunk, fun _ => notComplete⟩, ?_, ?_, fun isBaton =>
      absurd isBaton Bool.false_ne_true⟩
  · rw [← holds.toCome_eq]
    change syncReportArr ++ [syncReport] ++ syncChunk.ahead setup = _
    rw [SyncChunk.ahead, notComplete, List.append_assoc]
    rfl
  · rw [← holds.chunkTime_eq]
    change syncChunk.aheadTime setup = _
    rw [SyncChunk.aheadTime, notComplete]
    rfl

variable {syncReportOpt : Option Report}

/-- The worker has the baton at its turn. -/
theorem acquired
    (holds :
      Holds setup turn id pending
        ⟨.wait syncReportOpt, syncReportArr, syncChunk⟩)
    (isTurn : turn % n = id) :
    Holds setup turn id pending
      ⟨.flush 0 syncReportOpt, syncReportArr, syncChunk⟩ :=
  ⟨holds.staysInChunk, holds.toCome_eq, holds.chunkTime_eq, fun _ => isTurn⟩

/-- All buffered packets were published. -/
theorem flushed
    {i : Nat}
    (holds :
      Holds setup turn id pending
        ⟨.flush i syncReportOpt, syncReportArr, syncChunk⟩)
    (isEnd : syncReportArr[i]? = none) :
    Holds setup turn id pending
      ⟨.process syncReportOpt, syncReportArr, syncChunk⟩ := by
  refine ⟨holds.staysInChunk, ?_, holds.chunkTime_eq, holds.isTurn⟩
  rw [← holds.toCome_eq]
  change _ = syncReportArr.drop i ++ _
  rw [List.drop_eq_nil_of_le (List.getElem?_eq_none_iff.mp isEnd)]
  rfl

theorem processedNone
    (holds :
      Holds setup turn id pending ⟨.process none, syncReportArr, syncChunk⟩) :
    Holds setup turn id pending ⟨.check, syncReportArr, syncChunk⟩ :=
  ⟨holds.staysInChunk, holds.toCome_eq, holds.chunkTime_eq, holds.isTurn⟩

theorem checkedDone
    (holds : Holds setup turn id pending ⟨.check, syncReportArr, syncChunk⟩)
    (isComplete : syncChunk.isChunkCompletelyProcessed setup = true) :
    Holds setup turn id pending ⟨.done, syncReportArr, syncChunk⟩ := by
  have covers : syncChunk.Covers setup := holds.staysInChunk
  refine ⟨⟨covers, isComplete⟩, ?_, holds.chunkTime_eq, holds.isTurn⟩
  rw [← holds.toCome_eq]
  change _ = syncReportsOf syncChunk.rounds
  rw [covers.isComplete_iff.mp isComplete]
  rfl

/-- The search goes on in the same chunk. -/
theorem checkedAgain
    (holds : Holds setup turn id pending ⟨.check, syncReportArr, syncChunk⟩)
    (notComplete : syncChunk.isChunkCompletelyProcessed setup = false) :
    Holds setup turn id pending ⟨.search true, syncReportArr, syncChunk⟩ := by
  refine ⟨⟨holds.staysInChunk, fun _ => notComplete⟩, ?_, ?_, holds.isTurn⟩
  · rw [← holds.toCome_eq]
    change syncChunk.ahead setup = _
    rw [SyncChunk.ahead, notComplete]
    rfl
  · rw [← holds.chunkTime_eq]
    change syncChunk.aheadTime setup = _
    rw [SyncChunk.aheadTime, notComplete]
    rfl

theorem flushes
    {i : Nat}
    (holds :
      Holds setup turn id pending
        ⟨.flush i syncReportOpt, syncReportArr, syncChunk⟩)
    (isNext : syncReportArr[i]? = some syncReport) :
    ∃ rest,
      pending = syncReport :: rest ∧
        Holds setup turn id rest
          ⟨.flush (i + 1) syncReportOpt, syncReportArr, syncChunk⟩ := by
  refine ⟨_, ?_, holds.staysInChunk, rfl, holds.chunkTime_eq, holds.isTurn⟩
  obtain ⟨isLess, isReport⟩ := List.getElem?_eq_some_iff.mp isNext
  rw [← holds.toCome_eq]
  change syncReportArr.drop i ++ _ = _
  rw [List.drop_eq_getElem_cons isLess, isReport]
  rfl

theorem processes
    (holds :
      Holds setup turn id pending
        ⟨.process (some syncReport), syncReportArr, syncChunk⟩) :
    ∃ rest,
      pending = syncReport :: rest ∧
        Holds setup turn id rest ⟨.check, syncReportArr, syncChunk⟩ :=
  ⟨_, holds.toCome_eq.symm, holds.staysInChunk, rfl, holds.chunkTime_eq,
    holds.isTurn⟩

end WorkerSync.Holds

end DectNrp
