import DectNrp.BatonOrder

namespace DectNrp

/-!
# Runs of the synchronization workers

In every run in which buffered packets leave something of their chunk to search,
the packets are checked in the order of the chunks and each one once, and those
that lie apart become jobs.  If a worker buffers a packet that was found in the
last round of its chunk, then packets of a later chunk overtake those of chunks
that are still searched.
-/

variable {n m : Nat} {Report : Type}

namespace SyncWorkers

open TurnTaking (Turns)

variable
  {setup : SyncSetup n Report}
  {pool after : SyncWorkers n m Report}
  {turns : Turns n Report}
  {turn : Nat}
  {published : List Report}
  {id : Fin n}

/-- A report that is found due can be popped. -/
theorem enqueueIrregularJobIfDue_onlyOverflows
    {noMoreSyncsEarlier64 : Int}
    (invariant : pool.irregularQueue.Invariant) :
    OnlyOverflows (pool.enqueueIrregularJobIfDue id noMoreSyncsEarlier64) := by
  refine OnlyOverflows.bind ?_ fun _ _ => .ok _
  unfold IrregularQueue.enqueueIrregularJobIfDue
  split
  · rename_i isFound
    refine OnlyOverflows.bind ?_ fun _ _ => .ok _
    obtain ⟨-, isDue⟩ := invariant.findsDue_iff.mp isFound
    obtain ⟨report, rest, -, -, -, -, fits, overflows⟩ :=
      IrregularJobs.recognize_spec invariant isDue
    by_cases isDelay :
        noMoreSyncsEarlier64 - report.callAsapAfterThisTimeHasPassed64 ≤
          int64Max
    · rw [fits isDelay]
      exact .ok _
    · rw [overflows isDelay]
      intro fault failed
      cases failed
      rfl
  · exact .ok _

theorem enqueueJobNto_onlyOverflows
    {syncReport : Report}
    (invariant : pool.irregularQueue.Invariant) :
    OnlyOverflows (pool.enqueueJobNto setup id syncReport) := by
  refine OnlyOverflows.bind ?_ fun checked _ => ?_
  · refine (int64_onlyOverflows _).bind fun _ _ => ?_
    split
    · exact .ok _
    · exact .ok _
  · exact enqueueIrregularJobIfDue_onlyOverflows invariant

theorem searchRound_onlyOverflows
    {returned : Option Report → SyncPhase Report}
    (invariant : pool.irregularQueue.Invariant) :
    OnlyOverflows (pool.searchRound setup id returned) := by
  unfold searchRound
  dsimp only
  split
  · exact .ok _
  · split
    · exact .ok _
    · split
      · exact .ok _
      · refine (int64_onlyOverflows _).bind fun _ _ => ?_
        exact enqueueIrregularJobIfDue_onlyOverflows invariant

theorem Follows.finishChunk_onlyOverflows
    (follows : pool.Follows setup turn published)
    (isTime :
      (pool.workers id).syncChunk.chunkTimeStart64 = setup.chunkTime turn)
    (isTurn : turn % n = id) :
    OnlyOverflows (pool.finishChunk setup id) := by
  obtain ⟨rxJobRegularPeriodCnt, isCounted⟩ := isJobRegularDue_spec pool.baton
  have isContinuous : (decide (int64Max ≤ pool.baton.chunkTimeEnd64) || decide
      ((pool.workers id).syncChunk.chunkTimeStart64 -
          pool.baton.chunkTimeEnd64 =
        1)) = true := by
    rw [follows.chunkTimeEnd_eq, isTime]
    split
    · simp
    · simp
  have holdsBaton : (id : Nat) = pool.baton.idHolder := by
    rw [follows.idHolder_eq, isTurn]
  unfold finishChunk
  dsimp only
  rw [isCounted]
  refine (int64_onlyOverflows _).bind fun _ _ => ?_
  dsimp only
  rw [isContinuous, dectnrpAssert_true, Checked.ok_bind]
  unfold Baton.passOn Baton.isIdHolderTheSame
  dsimp only
  rw [decide_eq_true holdsBaton, dectnrpAssert_true, Checked.ok_bind]
  exact .ok _

theorem Refines.work_onlyOverflows (refines : pool.Refines setup turns) :
    OnlyOverflows (pool.work setup id) := by
  have invariant := refines.shared.irregularQueue
  have holdsOrStopped := refines.workers id
  unfold SyncWorkers.work
  dsimp only
  split
  · have isMultiple :
        setup.startTime64.tmod setup.antStreamsLengthSamples = 0 :=
      Int.tmod_eq_zero_of_dvd setup.startTime_dvd
    rw [decide_eq_true isMultiple, dectnrpAssert_true, Checked.ok_bind]
    refine OnlyOverflows.bind ?_ fun _ _ => .ok _
    exact SyncChunk.waitForFirstChunkNto_onlyOverflows id _
  · split
    · exact .ok _
    · exact .ok _
  · refine OnlyOverflows.bind ?_ fun _ _ => .ok _
    exact SyncChunk.enterSearch_onlyOverflows _
  · exact searchRound_onlyOverflows invariant
  · exact searchRound_onlyOverflows invariant
  · split
    · exact .ok _
    · split
      · exact .ok _
      · exact .ok _
  · split
    · exact .ok _
    · split
      · exact .ok _
      · exact .ok _
  · split
    · refine OnlyOverflows.bind ?_ fun _ _ => .ok _
      exact enqueueJobNto_onlyOverflows invariant
    · exact .ok _
  · refine OnlyOverflows.bind ?_ fun _ _ => .ok _
    exact enqueueJobNto_onlyOverflows invariant
  · exact .ok _
  · split
    · exact .ok _
    · exact .ok _
  · rename_i isDone
    rcases holdsOrStopped with isStopped | holds
    · rw [isDone] at isStopped
      cases isStopped
    · have isTurn : turns.turn % n = id := holds.isTurn (by rw [isDone]; rfl)
      have isTime := holds.chunkTime_eq
      rw [WorkerSync.chunkTime, isDone,
        TurnTaking.nextTurn_self id.pos isTurn] at isTime
      exact refines.shared.finishChunk_onlyOverflows isTime isTurn
  · exact .ok _

theorem new_refines
    (setup : SyncSetup n Report)
    (m : Nat) :
    (SyncWorkers.new setup m).Refines setup
      (TurnTaking.start setup.syncReports) where
  shared :=
    { chunksDone_eq := rfl
      checked_eq := rfl
      nofWorkerSync_eq := rfl
      limit_eq := rfl
      idHolder_eq := (Nat.zero_mod n).symm
      chunkTimeEnd_eq := rfl
      syncTimeLast_eq := rfl
      jobQueue_eq := rfl
      irregularQueue := IrregularQueue.new_invariant m }
  workers id :=
    Or.inr
      { staysInChunk := trivial
        toCome_eq := rfl
        chunkTime_eq := by
          have isFirst : TurnTaking.nextTurn n 0 id = id :=
            TurnTaking.nextTurn_eq (Nat.mod_eq_of_lt id.isLt)
              (Nat.zero_le _) (by omega)
          change setup.chunkTime id = setup.chunkTime _
          rw [show (TurnTaking.start setup.syncReports :
            Turns n Report).turn = 0 from rfl, isFirst]
        isTurn isBaton := absurd isBaton Bool.false_ne_true }

/-- Other actions than those of workers hand over nothing. -/
theorem Refines.step
    {action : Action n}
    (refines : pool.Refines setup turns)
    (within : pool.buffersWithinChunk setup action = true)
    (returned : pool.step setup action = .ok after) :
    after.Simulates setup turns := by
  cases action with
  | work id => exact refines.work within returned
  | push irregularReport =>
      obtain ⟨irregularQueue, isPushed, returned⟩ :=
        Checked.bind_eq_ok.mp returned
      cases returned
      have kept := (refines.shared.irregularQueue.push isPushed).2
      exact
        ⟨turns, .refl, { refines.shared with irregularQueue := kept },
          refines.workers⟩
  | stop =>
      cases returned
      exact ⟨turns, .refl, { refines.shared with }, refines.workers⟩

/-- What the workers have done follows agents that take turns. -/
def TakesTurns
    (setup : SyncSetup n Report)
    (pool : SyncWorkers n m Report) :
    Prop :=
  ∃ turns,
    TurnTaking.Invariant setup.syncReports turns ∧
      pool.Refines setup turns

theorem TakesTurns.step
    {action : Action n}
    (takesTurns : pool.TakesTurns setup)
    (within : pool.buffersWithinChunk setup action = true)
    (returned : pool.step setup action = .ok after) :
    after.TakesTurns setup := by
  obtain ⟨turns, invariant, refines⟩ := takesTurns
  obtain ⟨next, isStep, isRefined⟩ := refines.step within returned
  cases isStep with
  | refl => exact ⟨turns, invariant, isRefined⟩
  | single isStep => exact ⟨next, invariant.step isStep, isRefined⟩

/-- Packets of the chunks before a chunk, in the order of the chunks. -/
def syncReportsBefore
    (setup : SyncSetup n Report)
    (chunk : Nat) :
    List Report :=
  (List.range chunk).flatMap setup.syncReports

/-- Packets among the jobs. -/
def jobPackets (pool : SyncWorkers n m Report) : List Report :=
  pool.jobQueue.filterMap SyncJob.syncReport?

/--
The chunks are done in the order of the stream, each one by the worker whose
turn it is.  Their packets are checked in this order and each one once, and the
accepted ones become one job each and lie apart.
-/
structure PublishesInOrder
    (setup : SyncSetup n Report)
    (pool : SyncWorkers n m Report) :
    Prop where
  streamOrder :
    pool.chunksDone =
      (List.range pool.chunksDone.length).map fun chunk =>
        (chunk % n, setup.chunkTime chunk)
  turn : pool.baton.idHolder = pool.chunksDone.length % n
  noneLost :
    syncReportsBefore setup pool.chunksDone.length <+: pool.checked
  chunkOrder :
    pool.checked <+: syncReportsBefore setup (pool.chunksDone.length + 1)
  exactlyOnce :
    pool.jobPackets =
      SpacedEvents.keep setup.finePeakTime64
        (setup.syncTimeUniqueLimit64 : Int) undefinedEarly64 pool.checked
  apart :
    (pool.jobPackets.map setup.finePeakTime64).Pairwise
      fun earlier later : Int =>
        earlier < later ∧
          setup.syncTimeUniqueLimit64 < later - earlier

theorem TakesTurns.publishesInOrder
    (takesTurns : pool.TakesTurns setup)
    (notEmpty : 0 < n) :
    pool.PublishesInOrder setup := by
  obtain ⟨turns, invariant, refines⟩ := takesTurns
  have shared := refines.shared
  have isTurn : pool.chunksDone.length = turns.turn := by
    rw [shared.chunksDone_eq, List.length_map, List.length_range]
  obtain ⟨before, within⟩ := invariant.between notEmpty
  have exactlyOnce : pool.jobPackets = SpacedEvents.keep setup.finePeakTime64
      (setup.syncTimeUniqueLimit64 : Int) undefinedEarly64
      pool.checked := by
    rw [shared.checked_eq]
    exact shared.jobQueue_eq
  have notNegative : (0 : Int) ≤ setup.syncTimeUniqueLimit64 :=
    Int.natCast_nonneg _
  refine ⟨?_, ?_, ?_, ?_, exactlyOnce, ?_⟩
  · rw [isTurn]
    exact shared.chunksDone_eq
  · rw [isTurn]
    exact shared.idHolder_eq
  · rw [isTurn, shared.checked_eq]
    exact before
  · rw [isTurn, shared.checked_eq]
    exact within
  · rw [exactlyOnce]
    have pairwise : (undefinedEarly64 ::
        (SpacedEvents.keep setup.finePeakTime64
          (setup.syncTimeUniqueLimit64 : Int) undefinedEarly64
          pool.checked).map setup.finePeakTime64).Pairwise
          (SpacedEvents.Apart (setup.syncTimeUniqueLimit64 : Int)) :=
      SpacedEvents.keep_pairwise notNegative _ _
    exact (List.pairwise_cons.mp pairwise).2.imp fun isApart =>
        ⟨isApart.lt notNegative, isApart⟩

/-- Two workers whose second and fourth chunk have the given searches. -/
def twoWorkers
    (second fourth : List (SearchRound Int))
    (secondCovers : CoversSearchRange 110 10 second)
    (fourthCovers : CoversSearchRange 110 10 fourth) :
    SyncSetup 2 Int where
  chunkLengthSamples := 100
  chunkLength_pos := by decide
  antStreamsLengthSamples := 400
  isSyncTimingValid := by decide
  startTime64 := 0
  startTime_dvd := by decide
  stfBosPatternLengthSamples := 10
  searchLengthSamples := 110
  searchLength_gt := by decide
  rounds chunkTimeStart64 :=
    if chunkTimeStart64 = 100 then
      second
    else if chunkTimeStart64 = 300 then
      fourth
    else
      [⟨110, none⟩]
  rounds_cover chunkTimeStart64 := by
    split
    · exact secondCovers
    · split
      · exact fourthCovers
      · exact ⟨by decide, Nat.le_refl 110⟩
  finePeakTime64 syncReport := syncReport
  syncTimeUniqueLimit64 := 10
  rxJobRegularPeriod := 1

/-- A packet in the last round of the second and of the fourth chunk. -/
def packetsAtTheEnd : SyncSetup 2 Int :=
  twoWorkers [⟨110, some 150⟩] [⟨110, some 350⟩]
    ⟨by decide, Nat.le_refl 110⟩ ⟨by decide, Nat.le_refl 110⟩

/-- A packet in the first of two rounds of the second chunk. -/
def packetEarly : SyncSetup 2 Int :=
  twoWorkers [⟨60, some 130⟩, ⟨110, none⟩] [⟨110, none⟩]
    ⟨by decide, by decide, Nat.le_refl 110⟩ ⟨by decide, Nat.le_refl 110⟩

/-- The second worker buffers its packet before the first one is done. -/
def bufferingRun : List (Action 2) :=
  List.replicate 8 (.work 1) ++ List.replicate 10 (.work 0) ++
    List.replicate 6 (.work 1)

/-- The second worker searches twice before the first one passes the baton. -/
def overtakingRun : List (Action 2) :=
  List.replicate 11 (.work 1) ++ List.replicate 10 (.work 0) ++
    List.replicate 3 (.work 1)

/--
As long as buffered packets leave something of their chunk to search, the
workers publish in order and none of their assertions fails.
-/
theorem publishInOrder_whileBufferingWithinChunk
    (notEmpty : 0 < n)
    (setup : SyncSetup n Report)
    (actions : List (Action n))
    (within :
      AlongRun (SyncWorkers.step setup)
        (fun pool action => pool.buffersWithinChunk setup action = true)
        (SyncWorkers.new setup m) actions)
    (returned :
      actions.foldlM (SyncWorkers.step setup) (SyncWorkers.new setup m) =
        .ok after) :
    after.PublishesInOrder setup ∧
      ∀ id, OnlyOverflows (after.work setup id) := by
  have takesTurns : after.TakesTurns setup :=
    invariant_of_run TakesTurns.step
      ⟨_, TurnTaking.Invariant.start _, new_refines setup m⟩ within returned
  refine ⟨takesTurns.publishesInOrder notEmpty, fun id => ?_⟩
  obtain ⟨turns, -, refines⟩ := takesTurns
  exact refines.work_onlyOverflows

/-- A packet that is found early in its chunk is buffered and enqueued. -/
theorem publishInOrder_whileBufferingWithinChunk_early :
    ∃ after,
      bufferingRun.foldlM (SyncWorkers.step packetEarly)
          (SyncWorkers.new packetEarly 1) =
          .ok after ∧
        after.jobPackets = [130] ∧ after.PublishesInOrder packetEarly := by
  have isRun :
      (bufferingRun.foldlM (SyncWorkers.step packetEarly)
          (SyncWorkers.new packetEarly 1)).toOption.map jobPackets =
        some [130] := by
    decide +kernel
  obtain ⟨after, isAfter, isPacket⟩ := Option.map_eq_some_iff.mp isRun
  have returned := Checked.eq_ok_of_toOption isAfter
  exact
    ⟨after, returned, isPacket,
      (publishInOrder_whileBufferingWithinChunk (by decide) packetEarly
        bufferingRun (by decide +kernel) returned).1⟩

/--
The second worker has moved to the fourth chunk, whose packet is checked before
the third chunk is done, and the end of its turn fails.
-/
theorem publishInOrder_overtaken :
    (∃ after,
        overtakingRun.foldlM (SyncWorkers.step packetsAtTheEnd)
            (SyncWorkers.new packetsAtTheEnd 1) =
            .ok after ∧
          ¬after.PublishesInOrder packetsAtTheEnd) ∧
      (overtakingRun ++ List.replicate 4 (Action.work 1)).foldlM
          (SyncWorkers.step packetsAtTheEnd)
          (SyncWorkers.new packetsAtTheEnd 1 : SyncWorkers 2 1 Int) =
        .error (.assertion "time not continuous") := by
  constructor
  · have isRun :
        (overtakingRun.foldlM (SyncWorkers.step packetsAtTheEnd)
            (SyncWorkers.new packetsAtTheEnd 1)).toOption.map
              (fun after => (after.checked, after.chunksDone.length)) =
          some ([150, 350], 1) := by
      decide +kernel
    obtain ⟨after, isAfter, isChecked⟩ := Option.map_eq_some_iff.mp isRun
    refine ⟨after, Checked.eq_ok_of_toOption isAfter, fun inOrder => ?_⟩
    obtain ⟨checked_eq, length_eq⟩ := Prod.mk.inj isChecked
    have chunkOrder := inOrder.chunkOrder
    rw [checked_eq, length_eq] at chunkOrder
    have isOvertaken :
        ¬[150, 350] <+: syncReportsBefore packetsAtTheEnd 2 := by
      decide +kernel
    exact isOvertaken chunkOrder
  · apply Checked.eq_error_of_fault?
    decide +kernel

end SyncWorkers

end DectNrp
