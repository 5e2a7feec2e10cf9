import DectNrp.Allocation

namespace DectNrp

/-!
# Chunks of the synchronization

The received samples are searched in chunks.  Each worker takes every n-th
chunk, and a search goes on until the correlators have covered the search range
of the chunk, which overlaps with the chunk after it.  A search returns each
time a packet was found, and the last packet may be found in the very round
that covers the search range.
-/

variable {Report : Type} {n : Nat}

/-- The only fault of a computation is that a signed number overflows. -/
def OnlyOverflows (checked : Checked Value) : Prop :=
  ∀ fault,
    checked = .error fault → fault = .assertion "signed overflow"

theorem OnlyOverflows.ok (value : Value) :
    OnlyOverflows (.ok value : Checked Value) := by
  intro fault failed
  cases failed

theorem int64_onlyOverflows (value : Int) :
    OnlyOverflows (int64 value) := by
  intro fault failed
  unfold int64 at failed
  split at failed
  · cases failed
  · cases failed
    rfl

theorem OnlyOverflows.bind
    {first : Checked First}
    {next : First → Checked Second}
    (onlyFirst : OnlyOverflows first)
    (onlyNext : ∀ value, first = .ok value → OnlyOverflows (next value)) :
    OnlyOverflows (first >>= next) := by
  intro fault failed
  cases isFirst : first with
  | error other =>
      rw [isFirst] at failed
      cases failed
      exact onlyFirst fault isFirst
  | ok value =>
      rw [isFirst, Checked.ok_bind] at failed
      exact onlyNext value isFirst fault failed

/--
One round of a search: how far the detection has read after it, and the packet
that was found.  A detection without a valid peak finds no packet.
-/
structure SearchRound (Report : Type) where
  localbufferCntR : Nat
  syncReport : Option Report
  deriving Repr, DecidableEq

/-- Rounds go on exactly as long as the search range is not covered. -/
def CoversSearchRange
    (searchLengthSamples : Nat) :
    Nat → List (SearchRound Report) → Prop
  | localbufferCntR, [] => searchLengthSamples ≤ localbufferCntR
  | localbufferCntR, round :: rounds =>
      localbufferCntR < searchLengthSamples ∧
        CoversSearchRange searchLengthSamples round.localbufferCntR rounds

/-- Packets found in rounds. -/
def syncReportsOf (rounds : List (SearchRound Report)) : List Report :=
  rounds.filterMap SearchRound.syncReport

/--
How the workers of a pool synchronize, and what the correlators find in the
chunk that starts at a time.
-/
structure SyncSetup (n : Nat) (Report : Type) where
  chunkLengthSamples : Nat
  chunkLength_pos : 0 < chunkLengthSamples
  antStreamsLengthSamples : Nat
  /-- The buffer is evenly split between the chunks of all workers. -/
  isSyncTimingValid : n * chunkLengthSamples ∣ antStreamsLengthSamples
  /-- The time all workers have agreed on. -/
  startTime64 : Int
  startTime_dvd : (antStreamsLengthSamples : Int) ∣ startTime64
  stfBosPatternLengthSamples : Nat
  searchLengthSamples : Nat
  searchLength_gt : stfBosPatternLengthSamples < searchLengthSamples
  rounds : Int → List (SearchRound Report)
  rounds_cover :
    ∀ chunkTimeStart64,
      CoversSearchRange searchLengthSamples stfBosPatternLengthSamples
        (rounds chunkTimeStart64)
  finePeakTime64 : Report → Int
  syncTimeUniqueLimit64 : Nat
  rxJobRegularPeriod : Nat

namespace SyncSetup

def chunkStrideSamples (setup : SyncSetup n Report) : Nat :=
  setup.chunkLengthSamples * n

def chunkOffsetSamples
    (setup : SyncSetup n Report)
    (id : Fin n) :
    Nat :=
  setup.chunkLengthSamples * id

/-- Start of a chunk, counted from the start of the synchronization. -/
def chunkTime
    (setup : SyncSetup n Report)
    (chunk : Nat) :
    Int :=
  setup.startTime64 + chunk * setup.chunkLengthSamples

/-- Packets that are found in a chunk. -/
def syncReports
    (setup : SyncSetup n Report)
    (chunk : Nat) :
    List Report :=
  syncReportsOf (setup.rounds (setup.chunkTime chunk))

end SyncSetup

/-- A chunk in work, and the rounds of its search that are still to come. -/
structure SyncChunk (Report : Type) where
  chunkTimeStart64 : Int
  localbufferCntR : Nat
  rounds : List (SearchRound Report)

namespace SyncChunk

variable (setup : SyncSetup n Report)

def isChunkCompletelyProcessed (syncChunk : SyncChunk Report) : Bool :=
  setup.searchLengthSamples ≤ syncChunk.localbufferCntR

def getChunkTimeEnd (syncChunk : SyncChunk Report) : Checked Int :=
  int64 (syncChunk.chunkTimeStart64 + (setup.chunkLengthSamples - 1 : Nat))

def setNextChunk
    (syncChunk : SyncChunk Report) :
    Checked (SyncChunk Report) := do
  let chunkTimeStart64 ←
    int64 (syncChunk.chunkTimeStart64 + setup.chunkStrideSamples)
  pure { syncChunk with chunkTimeStart64 := chunkTimeStart64 }

/-- The detection starts anew, after the first pattern of the chunk. -/
def waitForChunkNto (syncChunk : SyncChunk Report) : SyncChunk Report :=
  { syncChunk with
    localbufferCntR := setup.stfBosPatternLengthSamples
    rounds := setup.rounds syncChunk.chunkTimeStart64 }

def waitForFirstChunkNto
    (id : Fin n)
    (searchTimeStart64 : Int) :
    Checked (SyncChunk Report) := do
  let chunkTimeStart64 :=
    searchTimeStart64 -
      searchTimeStart64.tmod setup.chunkStrideSamples
  let chunkTimeStart64 ←
    int64 (chunkTimeStart64 + setup.chunkOffsetSamples id)
  let syncChunk : SyncChunk Report :=
    ⟨chunkTimeStart64, setup.stfBosPatternLengthSamples, []⟩
  let chunkTimeEnd64 ←
    int64 (chunkTimeStart64 + setup.chunkLengthSamples)
  -- The start may be later than the chunk's end.
  let syncChunk ←
    (if chunkTimeEnd64 ≤ searchTimeStart64 then
      syncChunk.setNextChunk setup
    else
      .ok syncChunk)
  pure (syncChunk.waitForChunkNto setup)

/-- A search in a chunk that is completely processed moves to the next one. -/
def enterSearch
    (syncChunk : SyncChunk Report) :
    Checked (SyncChunk Report) :=
  if syncChunk.isChunkCompletelyProcessed setup then do
    let syncChunk ← syncChunk.setNextChunk setup
    pure (syncChunk.waitForChunkNto setup)
  else
    .ok syncChunk

/-- The packets that the search from here on finds. -/
def ahead (syncChunk : SyncChunk Report) : List Report :=
  if syncChunk.isChunkCompletelyProcessed setup then
    syncReportsOf
      (setup.rounds
        (syncChunk.chunkTimeStart64 + setup.chunkStrideSamples))
  else
    syncReportsOf syncChunk.rounds

/-- The chunk that the search from here on is in. -/
def aheadTime (syncChunk : SyncChunk Report) : Int :=
  if syncChunk.isChunkCompletelyProcessed setup then
    syncChunk.chunkTimeStart64 + setup.chunkStrideSamples
  else
    syncChunk.chunkTimeStart64

/-- The rounds to come cover the rest of the search range. -/
def Covers (syncChunk : SyncChunk Report) : Prop :=
  CoversSearchRange setup.searchLengthSamples syncChunk.localbufferCntR
    syncChunk.rounds

variable {setup} {syncChunk after : SyncChunk Report}

/-- A chunk is completely processed exactly if no round is to come. -/
theorem Covers.isComplete_iff (covers : syncChunk.Covers setup) :
    syncChunk.isChunkCompletelyProcessed setup = true ↔
      syncChunk.rounds = [] := by
  rw [isChunkCompletelyProcessed, decide_eq_true_iff]
  unfold Covers at covers
  cases isRounds : syncChunk.rounds with
  | nil =>
      rw [isRounds] at covers
      exact iff_of_true covers rfl
  | cons round rounds =>
      rw [isRounds] at covers
      exact iff_of_false (Nat.not_le.mpr covers.1) (List.cons_ne_nil _ _)

/-- A chunk that was waited for has its whole search to come. -/
theorem waitForChunkNto_covers (syncChunk : SyncChunk Report) :
    (syncChunk.waitForChunkNto setup).Covers setup :=
  setup.rounds_cover _

theorem waitForChunkNto_notComplete (syncChunk : SyncChunk Report) :
    (syncChunk.waitForChunkNto setup).isChunkCompletelyProcessed setup =
      false :=
  decide_eq_false (Nat.not_le.mpr setup.searchLength_gt)

/-- A search finds what was ahead, in the chunk that was ahead. -/
theorem enterSearch_spec
    (covers : syncChunk.Covers setup)
    (entered : syncChunk.enterSearch setup = .ok after) :
    after.Covers setup ∧
      after.isChunkCompletelyProcessed setup = false ∧
      after.chunkTimeStart64 = syncChunk.aheadTime setup ∧
      syncReportsOf after.rounds = syncChunk.ahead setup := by
  unfold enterSearch at entered
  by_cases isComplete : syncChunk.isChunkCompletelyProcessed setup = true
  · rw [if_pos isComplete] at entered
    obtain ⟨next, isNext, isAfter⟩ := Checked.bind_eq_ok.mp entered
    obtain ⟨time, isTime, isSet⟩ := Checked.bind_eq_ok.mp isNext
    obtain ⟨-, rfl⟩ := int64_eq_ok_iff.mp isTime
    cases isSet
    cases isAfter
    refine ⟨waitForChunkNto_covers _, waitForChunkNto_notComplete _, ?_, ?_⟩
    · rw [aheadTime, if_pos isComplete]
      rfl
    · rw [ahead, if_pos isComplete]
      rfl
  · rw [if_neg isComplete] at entered
    cases entered
    refine ⟨covers, Bool.not_eq_true _ |>.mp isComplete, ?_, ?_⟩
    · rw [aheadTime, if_neg isComplete]
    · rw [ahead, if_neg isComplete]

theorem setNextChunk_onlyOverflows (syncChunk : SyncChunk Report) :
    OnlyOverflows (syncChunk.setNextChunk setup) :=
  (int64_onlyOverflows _).bind fun _ _ => .ok _

theorem enterSearch_onlyOverflows (syncChunk : SyncChunk Report) :
    OnlyOverflows (syncChunk.enterSearch setup) := by
  unfold enterSearch
  split
  · exact (setNextChunk_onlyOverflows syncChunk).bind fun _ _ => .ok _
  · exact .ok _

/-- The workers start with consecutive chunks. -/
theorem waitForFirstChunkNto_eq
    {id : Fin n}
    (started : waitForFirstChunkNto setup id setup.startTime64 = .ok after) :
    after.Covers setup ∧
      after.isChunkCompletelyProcessed setup = false ∧
      after.chunkTimeStart64 = setup.chunkTime id ∧
      after.rounds = setup.rounds (setup.chunkTime id) := by
  have isMultiple : (setup.chunkStrideSamples : Int) ∣ setup.startTime64 := by
    rw [SyncSetup.chunkStrideSamples, Nat.mul_comm]
    exact (Int.natCast_dvd_natCast.mpr setup.isSyncTimingValid).trans
        setup.startTime_dvd
  unfold waitForFirstChunkNto at started
  dsimp only at started
  rw [Int.tmod_eq_zero_of_dvd isMultiple, Int.sub_zero] at started
  obtain ⟨time, isTime, started⟩ := Checked.bind_eq_ok.mp started
  obtain ⟨-, rfl⟩ := int64_eq_ok_iff.mp isTime
  obtain ⟨chunkEnd, isEnd, started⟩ := Checked.bind_eq_ok.mp started
  obtain ⟨-, rfl⟩ := int64_eq_ok_iff.mp isEnd
  have notLater : ¬setup.startTime64 + setup.chunkOffsetSamples id +
      setup.chunkLengthSamples ≤ setup.startTime64 := by
    have := setup.chunkLength_pos
    omega
  rw [if_neg notLater] at started
  cases started
  have isTime : setup.startTime64 + setup.chunkOffsetSamples id =
      setup.chunkTime id := by
    rw [SyncSetup.chunkTime, SyncSetup.chunkOffsetSamples, Nat.mul_comm,
      Nat.cast_mul]
  refine ⟨waitForChunkNto_covers _, waitForChunkNto_notComplete _, isTime, ?_⟩
  rw [← isTime]
  rfl

theorem waitForFirstChunkNto_onlyOverflows
    (id : Fin n)
    (searchTimeStart64 : Int) :
    OnlyOverflows (waitForFirstChunkNto setup id searchTimeStart64) := by
  refine (int64_onlyOverflows _).bind fun _ _ => ?_
  refine (int64_onlyOverflows _).bind fun _ _ => ?_
  refine OnlyOverflows.bind ?_ fun _ _ => .ok _
  split
  · exact setNextChunk_onlyOverflows _
  · exact .ok _

end SyncChunk

end DectNrp
