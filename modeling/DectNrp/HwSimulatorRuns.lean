import DectNrp.HwSimulatorSignal
import Mathlib.Logic.Relation

namespace DectNrp

/-!
# Runs of the simulated hardware

In every run in which what must not happen does not happen, the signal is that
of the packets, and each packet is given back once and in order.  In every run
whatsoever the thread reads a buffer that it has given back as soon as it has
given back one.
-/

open Checked (bind_eq_ok)

namespace Radio

namespace HwSimulator

variable {nofBufferTx : Nat} {Sample : Type}

/-- The thread is about to read a buffer that it has given back. -/
def WorkTx.reads : WorkTx nofBufferTx → Bool
  | .readingOrder _ => true
  | .overwritingOrder _ => true
  | _ => false

/-- No packet is given back, and no buffer that was given back is read. -/
structure Quiet (system after : HwSimulator nofBufferTx Sample) : Prop where
  transmitted : after.transmitted = system.transmitted
  lateReads : after.lateReads = system.lateReads
  reads : after.workTx.reads = false

section Reads

variable
    {sppSize : Nat}
    {system after : HwSimulator nofBufferTx Sample}
    {transmission : Transmission nofBufferTx}

theorem write_same (returned : system.write sppSize = .ok after) :
    after.transmitted = system.transmitted ∧
      after.lateReads = system.lateReads := by
  obtain ⟨_, -, returned⟩ := bind_eq_ok.mp returned
  cases returned
  exact ⟨rfl, rfl⟩

theorem sendZeros_quiet (returned : system.sendZeros sppSize = .ok after) :
    Quiet system after := by
  unfold sendZeros at returned
  split at returned
  · cases returned
    exact ⟨rfl, rfl, rfl⟩
  · obtain ⟨between, isWritten, returned⟩ := bind_eq_ok.mp returned
    cases returned
    exact ⟨(write_same isWritten).1, (write_same isWritten).2, rfl⟩

theorem copySamples_quiet
    (isHere : system.workTx.reads = false)
    (returned : system.copySamples sppSize transmission = .ok after) :
    Quiet system after ∨
      (∃ packet, after.transmitted = system.transmitted ++ [packet]) ∧
        ∃ transmission, after.workTx = .readingOrder transmission := by
  obtain ⟨available, -, returned⟩ := bind_eq_ok.mp returned
  cases available with
  | false =>
      cases returned
      exact Or.inl ⟨rfl, rfl, isHere⟩
  | true =>
      obtain ⟨_, -, returned⟩ := bind_eq_ok.mp returned
      obtain ⟨_, -, returned⟩ := bind_eq_ok.mp returned
      obtain ⟨_, -, returned⟩ := bind_eq_ok.mp returned
      split at returned
      · obtain ⟨_, -, returned⟩ := bind_eq_ok.mp returned
        cases returned
        exact Or.inr ⟨⟨_, rfl⟩, _, rfl⟩
      · cases returned
        exact Or.inl ⟨rfl, rfl, rfl⟩

theorem lookAhead_quiet
    (returned : system.lookAhead sppSize transmission = .ok after) :
    Quiet system after := by
  unfold lookAhead at returned
  dsimp only at returned
  split at returned
  · split at returned
    · obtain ⟨_, -, returned⟩ := bind_eq_ok.mp returned
      obtain ⟨_, -, returned⟩ := bind_eq_ok.mp returned
      split at returned
      · obtain ⟨_, -, returned⟩ := bind_eq_ok.mp returned
        cases returned
        exact ⟨rfl, rfl, rfl⟩
      · cases returned
        exact ⟨rfl, rfl, rfl⟩
    · cases returned
      exact ⟨rfl, rfl, rfl⟩
  · cases returned
    exact ⟨rfl, rfl, rfl⟩

theorem copyNext_quiet
    (isHere : system.workTx.reads = false)
    (returned : system.copyNext sppSize transmission = .ok after) :
    Quiet system after := by
  obtain ⟨available, -, returned⟩ := bind_eq_ok.mp returned
  cases available with
  | false =>
      cases returned
      exact ⟨rfl, rfl, isHere⟩
  | true =>
      obtain ⟨_, -, returned⟩ := bind_eq_ok.mp returned
      obtain ⟨_, -, returned⟩ := bind_eq_ok.mp returned
      cases returned
      exact ⟨rfl, rfl, rfl⟩

/-- A buffer that was given back has been read, or is read next. -/
def ReadsLate (system : HwSimulator nofBufferTx Sample) : Prop :=
  match system.workTx with
  | .readingOrder _ => system.transmitted ≠ []
  | .overwritingOrder _ =>
      system.transmitted ≠ [] ∧ system.lateReads ≠ 0
  | _ => system.lateReads = 0 ↔ system.transmitted = []

theorem readsLate_of_not_reads (readsNothing : system.workTx.reads = false) :
    system.ReadsLate ↔ (system.lateReads = 0 ↔ system.transmitted = []) := by
  unfold ReadsLate
  cases isHere : system.workTx with
  | readingOrder =>
      rw [isHere] at readsNothing
      cases readsNothing
  | overwritingOrder =>
      rw [isHere] at readsNothing
      cases readsNothing
  | _ => rfl

theorem Quiet.readsLate
    (quiet : Quiet system after)
    (readsNothing : system.workTx.reads = false)
    (readsLate : system.ReadsLate) :
    after.ReadsLate := by
  rw [readsLate_of_not_reads readsNothing] at readsLate
  rw [readsLate_of_not_reads quiet.reads, quiet.transmitted, quiet.lateReads]
  exact readsLate

variable [Zero Sample]

theorem search_quiet (returned : system.search sppSize = .ok after) :
    Quiet system after := by
  unfold search at returned
  split at returned
  · obtain ⟨_, -, returned⟩ := bind_eq_ok.mp returned
    obtain ⟨_, -, returned⟩ := bind_eq_ok.mp returned
    cases returned
    exact ⟨rfl, rfl, rfl⟩
  · cases returned
    exact ⟨rfl, rfl, rfl⟩

theorem lead_quiet
    {nofSppZero : Nat}
    (isHere : system.workTx.reads = false)
    (returned : system.lead sppSize transmission nofSppZero = .ok after) :
    Quiet system after := by
  cases nofSppZero with
  | zero =>
      obtain ⟨_, -, returned⟩ := bind_eq_ok.mp returned
      cases returned
      exact ⟨rfl, rfl, rfl⟩
  | succ nofSppZero =>
      unfold lead at returned
      dsimp only at returned
      split at returned
      · cases returned
        exact ⟨rfl, rfl, isHere⟩
      · obtain ⟨between, isWritten, returned⟩ := bind_eq_ok.mp returned
        cases returned
        exact ⟨(write_same isWritten).1, (write_same isWritten).2, rfl⟩

theorem writeSpp_quiet
    (isHere : system.workTx.reads = false)
    (returned : system.writeSpp sppSize transmission = .ok after) :
    Quiet system after := by
  unfold writeSpp at returned
  split at returned
  · cases returned
    exact ⟨rfl, rfl, isHere⟩
  · obtain ⟨between, isWritten, returned⟩ := bind_eq_ok.mp returned
    cases returned
    refine ⟨(write_same isWritten).1, (write_same isWritten).2, ?_⟩
    dsimp only
    split <;> rfl

theorem step_readsLate
    (returned : system.step sppSize = .ok after)
    (readsLate : system.ReadsLate) :
    after.ReadsLate := by
  unfold HwSimulator.step at returned
  cases isHere : system.workTx with
  | searching =>
      rw [isHere] at returned
      exact (search_quiet returned).readsLate (by rw [isHere]; rfl) readsLate
  | sendingZeros =>
      rw [isHere] at returned
      exact (sendZeros_quiet returned).readsLate (by rw [isHere]; rfl)
        readsLate
  | leading transmission nofSppZero =>
      rw [isHere] at returned
      have readsNothing : system.workTx.reads = false := by
        rw [isHere]
        rfl
      exact (lead_quiet readsNothing returned).readsLate readsNothing readsLate
  | copying transmission =>
      rw [isHere] at returned
      have readsNothing : system.workTx.reads = false := by
        rw [isHere]
        rfl
      rcases copySamples_quiet readsNothing returned with
        quiet | ⟨⟨packet, isMore⟩, _, isNext⟩
      · exact quiet.readsLate readsNothing readsLate
      · unfold ReadsLate
        rw [isNext, isMore]
        exact List.append_ne_nil_of_right_ne_nil _ (List.cons_ne_nil packet [])
  | readingOrder transmission =>
      rw [isHere] at returned
      cases returned
      unfold ReadsLate at readsLate
      rw [isHere] at readsLate
      unfold readOrder
      dsimp only
      split
      · exact iff_of_false (Nat.succ_ne_zero _) readsLate
      · exact ⟨readsLate, Nat.succ_ne_zero _⟩
  | overwritingOrder transmission =>
      rw [isHere] at returned
      cases returned
      unfold ReadsLate at readsLate
      rw [isHere] at readsLate
      exact iff_of_false (Nat.succ_ne_zero _) readsLate.1
  | lookingAhead transmission =>
      rw [isHere] at returned
      exact (lookAhead_quiet returned).readsLate (by rw [isHere]; rfl)
        readsLate
  | copyingNext transmission =>
      rw [isHere] at returned
      have readsNothing : system.workTx.reads = false := by
        rw [isHere]
        rfl
      exact (copyNext_quiet readsNothing returned).readsLate readsNothing
        readsLate
  | writing transmission =>
      rw [isHere] at returned
      have readsNothing : system.workTx.reads = false := by
        rw [isHere]
        rfl
      exact (writeSpp_quiet readsNothing returned).readsLate readsNothing
        readsLate

variable {queue : TxQueue Sample sppSize}

theorem Step.readsLate
    (step : Step queue system after)
    (readsLate : system.ReadsLate) :
    after.ReadsLate := by
  cases step with
  | workTx returned => exact step_readsLate returned readsLate
  | phy => exact readsLate
  | lastRead => exact readsLate

theorem reachable_readsLate
    {antStreamsLengthSamples : Nat}
    {antStreams : Fin nofBufferTx → Nat → Sample}
    {nowStart64 : Int}
    (reachable :
      Relation.ReflTransGen (Step queue)
        (initial nofBufferTx antStreamsLengthSamples antStreams nowStart64)
        system) :
    system.ReadsLate := by
  induction reachable with
  | refl => exact iff_of_true rfl rfl
  | tail _ step hypothesis => exact step.readsLate hypothesis

end Reads

section Invariant

variable
    [Zero Sample]
    {sppSize : Nat}
    {queue : TxQueue Sample sppSize}
    {nowStart64 : Int}
    {system : HwSimulator nofBufferTx Sample}

/-- Where the thread is depends on few things that other threads change. -/
theorem Located.transfer
    (located : Located queue system)
    (handed : Handed nofBufferTx Sample)
    (vspace : Vspace Sample)
    (carried :
      ∀ index k, system.handed.carried index = some k →
        handed.carried index = some k)
    (hidden :
      ∀ index, (handed.buffers index).lock.inner = false →
        (system.handed.buffers index).lock.inner = false ∧
          (handed.buffers index).bufferTxMeta =
            (system.handed.buffers index).bufferTxMeta) :
    Located queue
      { system with
        handed := handed
        vspace := vspace } := by
  have worksOn : ∀ {transmission : Transmission nofBufferTx},
      WorksOn queue system transmission →
      WorksOn queue
        { system with
          handed := handed
          vspace := vspace }
        transmission :=
    fun works =>
      ⟨carried _ _ works.carried, works.txLengthSamples, works.txTime64⟩
  have rereads : ∀ {transmission : Transmission nofBufferTx},
      Rereads queue system transmission →
      Rereads queue
        { system with
          handed := handed
          vspace := vspace }
        transmission := by
    rintro transmission ⟨last, isLast, expects, kept⟩
    refine ⟨last, isLast, expects, ?_⟩
    intro isHidden
    obtain ⟨wasHidden, sameMeta⟩ := hidden _ isHidden
    rw [← kept wasHidden, ← sameMeta]
  have ended : ∀ {transmission : Transmission nofBufferTx},
      Ended queue system transmission →
      Ended queue
        { system with
          handed := handed
          vspace := vspace }
        transmission :=
    fun isEnded =>
      ⟨isEnded.inside, isEnded.isEnd, isEnded.complete, isEnded.ready⟩
  rcases system with ⟨_, _, _, _, _, workTx, _, _⟩
  cases workTx with
  | searching => exact located
  | sendingZeros => exact located
  | leading transmission nofSppZero =>
      obtain ⟨expects, endsBy, isZero, works, times⟩ := located
      exact ⟨expects, endsBy, isZero, worksOn works, times⟩
  | copying transmission =>
      obtain ⟨expects, endsBy, isZero, works, counters⟩ := located
      exact ⟨expects, endsBy, isZero, worksOn works, counters⟩
  | readingOrder transmission => exact ⟨rereads located.1, ended located.2⟩
  | overwritingOrder transmission =>
      exact ⟨rereads located.1, ended located.2.1, located.2.2⟩
  | lookingAhead transmission => exact ⟨located.1, ended located.2⟩
  | copyingNext transmission =>
      obtain ⟨expects, works, counters⟩ := located
      exact ⟨expects, worksOn works, counters⟩
  | writing transmission =>
      obtain ⟨expects, ready, unfinished, finished⟩ := located
      exact ⟨expects, ready, fun further =>
          ⟨worksOn (unfinished further).1, (unfinished further).2⟩,
          finished⟩

/-- The other threads only hand packets over. -/
theorem Invariant.phy
    (invariant : Invariant queue nowStart64 system)
    {handed : Handed nofBufferTx Sample}
    (step :
      Handed.PhyStep queue system.transmitted.length system.handed handed) :
    Invariant queue nowStart64 { system with handed := handed } := by
  have carries := step.carries invariant.carries
  refine ⟨carries, invariant.clock, invariant.vspaceClock, invariant.times,
      invariant.signal, invariant.order,
      invariant.located.transfer handed system.vspace
        (fun _ _ => step.carried invariant.carries) ?_⟩
  intro index hidden
  refine ⟨?_, step.sameMeta hidden⟩
  by_contra locked
  obtain ⟨k, isCarried⟩ :=
    invariant.carries.carried_ne_none (Bool.eq_true_of_not_eq_false locked)
  have stays := step.carried invariant.carries isCarried
  rw [(carries.packet _ _ stays).lock] at hidden
  cases hidden

/-- The virtual space becomes writable again at the next time. -/
theorem Invariant.lastRead
    (invariant : Invariant queue nowStart64 system)
    (isWritten : system.vspace.statusTxWritten = true) :
    Invariant queue nowStart64
      { system with vspace := system.vspace.lastRead sppSize } := by
  refine ⟨invariant.carries, invariant.clock, ?_, invariant.times,
      invariant.signal, invariant.order,
      invariant.located.transfer system.handed
        (system.vspace.lastRead sppSize) (fun _ _ isCarried => isCarried)
        fun _ hidden => ⟨hidden, rfl⟩⟩
  have sameClock := invariant.vspaceClock
  rw [isWritten, if_pos rfl] at sameClock
  show system.vspace.now64 + sppSize +
      (if false = true then (sppSize : Int) else 0) =
      system.now64
  rw [sameClock, if_neg Bool.false_ne_true]
  exact Int.add_zero _

/-- A step of a run in which what must not happen does not happen. -/
structure FavourableStep
    (queue : TxQueue Sample sppSize)
    (system after : HwSimulator nofBufferTx Sample) :
    Prop where
  step : Step queue system after
  favourable :
    system.step sppSize = .ok after → system.Favourable sppSize

/-- Every favourable step keeps the invariant. -/
theorem FavourableStep.invariant
    {after : HwSimulator nofBufferTx Sample}
    (positive : 0 < sppSize)
    (favourableStep : FavourableStep queue system after)
    (invariant : Invariant queue nowStart64 system) :
    Invariant queue nowStart64 after := by
  obtain ⟨step, favourable⟩ := favourableStep
  cases step with
  | workTx returned =>
      obtain ⟨same, isSame, preserved⟩ :=
        invariant.step positive (favourable returned) (inTime_of_step returned)
      rw [returned] at isSame
      cases isSame
      exact preserved
  | phy step => exact invariant.phy step
  | lastRead isWritten => exact invariant.lastRead isWritten

theorem reachable_invariant
    {antStreamsLengthSamples : Nat}
    {antStreams : Fin nofBufferTx → Nat → Sample}
    (positive : 0 < sppSize)
    (reachable :
      Relation.ReflTransGen (FavourableStep queue)
        (initial nofBufferTx antStreamsLengthSamples antStreams nowStart64)
        system) :
    Invariant queue nowStart64 system := by
  induction reachable with
  | refl =>
      exact invariant_initial queue antStreamsLengthSamples antStreams
        nowStart64
  | tail _ step hypothesis => exact step.invariant positive hypothesis

/-- The pieces are the signal of the packets, each given back in order. -/
structure Transmits
    (queue : TxQueue Sample sppSize)
    (nowStart64 : Int)
    (system : HwSimulator nofBufferTx Sample) :
    Prop where
  /-- One piece is written after the other. -/
  clock :
    system.now64 = nowStart64 + sppSize * system.vspace.pieces.length
  times :
    ∀ (index : Nat) piece, system.vspace.pieces[index]? = some piece →
      piece.now64 = nowStart64 + sppSize * index
  signal :
    ∀ piece ∈ system.vspace.pieces, ∀ index < sppSize,
      queue.OnAir system.pickedUp (piece.now64 + index) (piece.spp index)
  order :
    system.transmitted =
      (List.range system.transmitted.length).map queue.packet
  /-- What is given back ends within the pieces up to the current one. -/
  whole :
    queue.EndsBy system.transmitted.length (system.now64 + sppSize)
  /-- What has ended within the pieces is given back. -/
  complete :
    ∀ k < system.pickedUp, (queue.packet k).endTime ≤ system.now64 →
      k < system.transmitted.length

/-- The packet in flight ends behind the pieces that were written. -/
theorem Invariant.inFlight
    (invariant : Invariant queue nowStart64 system)
    (one : system.workTx.inFlight ≠ 0) :
    system.now64 < (queue.packet system.transmitted.length).endTime := by
  have located := invariant.located
  have long := queue.long system.transmitted.length
  unfold Packet.endTime
  unfold Located at located
  cases isHere : system.workTx with
  | leading transmission nofSppZero =>
      rw [isHere] at located
      obtain ⟨-, -, -, worksOn, notBefore, -⟩ := located
      rw [worksOn.txTime64] at notBefore
      have product : (0 : Int) ≤ nofSppZero * sppSize :=
        Int.mul_nonneg (Int.natCast_nonneg _) (Int.natCast_nonneg _)
      omega
  | copying transmission =>
      rw [isHere] at located
      obtain ⟨-, -, -, worksOn, -, incomplete, isTime, -⟩ := located
      rw [worksOn.txLengthSamples] at incomplete
      rw [worksOn.txTime64] at isTime
      omega
  | copyingNext transmission =>
      rw [isHere] at located
      obtain ⟨-, worksOn, -, -, -, isTime, -⟩ := located
      rw [worksOn.txTime64] at isTime
      omega
  | writing transmission =>
      rw [isHere] at located one
      obtain ⟨-, -, unfinished, -⟩ := located
      have further :
          transmission.txLengthSamplesCnt < transmission.txLengthSamples := by
        by_contra finished
        exact one (if_neg finished)
      obtain ⟨worksOn, isTime⟩ := unfinished further
      rw [worksOn.txLengthSamples] at further
      rw [worksOn.txTime64] at isTime
      omega
  | _ =>
      rw [isHere] at one
      exact absurd rfl one

/-- What was given back ends within the current piece at the latest. -/
theorem Invariant.whole (invariant : Invariant queue nowStart64 system) :
    queue.EndsBy system.transmitted.length (system.now64 + sppSize) := by
  have located := invariant.located
  have later : system.now64 ≤ system.now64 + sppSize :=
    Int.le_add_of_nonneg_right (Int.natCast_nonneg sppSize)
  have ended : ∀ {transmission : Transmission nofBufferTx},
      Ended queue system transmission →
      queue.EndsBy system.transmitted.length (system.now64 + sppSize) := by
    intro transmission isEnded
    obtain ⟨last, isLast, isEnd⟩ := isEnded.isEnd
    rw [isLast]
    refine (queue.endsBy_endTime last).mono ?_
    rw [isEnd]
    exact Int.add_le_add_left (Int.ofNat_le.mpr isEnded.inside) _
  have starts : ∀ {transmission : Transmission nofBufferTx},
      WorksOn queue system transmission →
      transmission.txTime64 ≤ system.now64 + sppSize →
      queue.EndsBy system.transmitted.length (system.now64 + sppSize) := by
    intro transmission worksOn early
    rw [worksOn.txTime64] at early
    exact (queue.endsBy_txTime _).mono early
  unfold Located at located
  cases isHere : system.workTx with
  | searching =>
      rw [isHere] at located
      exact located.2.mono later
  | sendingZeros =>
      rw [isHere] at located
      exact located.2.1.mono later
  | leading =>
      rw [isHere] at located
      exact located.2.1.mono later
  | copying =>
      rw [isHere] at located
      exact located.2.1.mono later
  | readingOrder =>
      rw [isHere] at located
      exact ended located.2
  | overwritingOrder =>
      rw [isHere] at located
      exact ended located.2.1
  | lookingAhead =>
      rw [isHere] at located
      exact ended located.2
  | copyingNext transmission =>
      rw [isHere] at located
      obtain ⟨-, worksOn, inside, -, -, isTime, -⟩ := located
      exact starts worksOn (by omega)
  | writing transmission =>
      rw [isHere] at located
      obtain ⟨-, -, unfinished, finished⟩ := located
      rcases Nat.lt_or_ge transmission.txLengthSamplesCnt
          transmission.txLengthSamples with further | exhausted
      · obtain ⟨worksOn, isTime⟩ := unfinished further
        exact starts worksOn (by omega)
      · exact finished exhausted

theorem Invariant.transmits (invariant : Invariant queue nowStart64 system) :
    Transmits queue nowStart64 system := by
  refine ⟨invariant.clock, invariant.times, invariant.signal, invariant.order,
      invariant.whole, ?_⟩
  intro k picked hasEnded
  by_contra pending
  by_cases nothing : system.workTx.inFlight = 0
  · unfold pickedUp at picked
    rw [nothing] at picked
    exact pending picked
  · have single : system.workTx.inFlight ≤ 1 := by
      unfold WorkTx.inFlight
      split <;> try split
      all_goals decide
    have isNext : k = system.transmitted.length := by
      unfold pickedUp at picked
      omega
    rw [isNext] at hasEnded
    exact absurd (invariant.inFlight nothing) (Int.not_lt.mpr hasEnded)

/-- The next packet is picked up when it is handed over in time. -/
theorem Invariant.picksUp
    (invariant : Invariant queue nowStart64 system)
    (positive : 0 < sppSize)
    (isHere : system.workTx = .searching)
    {index : Fin nofBufferTx}
    (isCarried : system.handed.carried index = some system.transmitted.length)
    (inTime : system.now64 ≤ (queue.packet system.transmitted.length).txTime) :
    ∃ after,
      system.step sppSize = .ok after ∧
        after.pickedUp = system.pickedUp + 1 := by
  have found := invariant.carries.finds isCarried
  have isPacket := invariant.carries.packet _ _ isCarried
  have expects : Expects queue system := by
    have located := invariant.located
    unfold Located at located
    rw [isHere] at located
    exact located.1
  have isInTime : system.InTime := by
    intro _ other isFound
    rw [expects, found] at isFound
    cases isFound
    rw [isPacket.bufferTxMeta]
    exact inTime
  obtain ⟨after, returned, -⟩ := invariant.search positive isHere isInTime
  refine ⟨after, ?_, ?_⟩
  · unfold HwSimulator.step
    rw [isHere]
    exact returned
  · unfold HwSimulator.search at returned
    rw [expects, found] at returned
    obtain ⟨_, -, returned⟩ := bind_eq_ok.mp returned
    obtain ⟨_, -, returned⟩ := bind_eq_ok.mp returned
    cases returned
    unfold pickedUp
    rw [isHere]
    rfl

/--
In every run in which a buffer is not handed over again before its order is
read and what is found at the end of a packet is not longer than the packet
unless it starts in the same piece, the signal is that of the packets, the
thread only fails if a packet is late, and it picks up what is handed over in
time.  It reads a buffer that it has given back once it has given back one.
-/
theorem reachable_transmits
    {antStreamsLengthSamples : Nat}
    {antStreams : Fin nofBufferTx → Nat → Sample}
    (positive : 0 < sppSize)
    (reachable :
      Relation.ReflTransGen (FavourableStep queue)
        (initial nofBufferTx antStreamsLengthSamples antStreams
          nowStart64)
        system) :
    Transmits queue nowStart64 system ∧
      (system.Favourable sppSize → system.InTime →
        ∃ after, system.step sppSize = .ok after) ∧
      (system.workTx = .searching →
        ∀ index,
          system.handed.carried index = some system.transmitted.length →
          system.now64 ≤
            (queue.packet system.transmitted.length).txTime →
          ∃ after,
            system.step sppSize = .ok after ∧
              after.pickedUp = system.pickedUp + 1) ∧
      (system.workTx.reads = false →
        (system.lateReads = 0 ↔ system.transmitted = [])) := by
  have invariant := reachable_invariant positive reachable
  have weaker :
      ∀ before after : HwSimulator nofBufferTx Sample,
        FavourableStep queue before after → Step queue before after :=
    fun _ _ favourableStep => favourableStep.step
  have readsLate : system.ReadsLate :=
    reachable_readsLate
      (Relation.ReflTransGen.mono weaker _ _ reachable)
  refine ⟨invariant.transmits, ?_, ?_, ?_⟩
  · intro favourable inTime
    obtain ⟨after, returned, -⟩ := invariant.step positive favourable inTime
    exact ⟨after, returned⟩
  · intro isHere index isCarried inTime
    exact invariant.picksUp positive isHere isCarried inTime
  · intro readsNothing
    exact (readsLate_of_not_reads readsNothing).mp readsLate

end Invariant

section Later

/-- A packet of three samples, and one of four samples two pieces later. -/
def laterPacket : Nat → Packet Nat
  | 0 => ⟨{ txOrderId := 0, txTime64 := 0 }, [1, 1, 1]⟩
  | 1 => ⟨{ txOrderId := 1, txTime64 := 6 }, [2, 2, 2, 2]⟩
  | k + 2 =>
      ⟨{ txOrderId := k + 2, txTime64 := 10 + 3 * k }, [3, 3, 3]⟩

theorem orderId_laterPacket (k : Nat) :
    orderId laterPacket k = k := by
  induction k with
  | zero => rfl
  | succ k hypothesis =>
      have increases :
          (laterPacket k).bufferTxMeta.txOrderIdExpectNext < 0 := by
        match k with
        | 0 => decide
        | 1 => decide
        | k + 2 => exact Int.negSucc_lt_zero 0
      show nextOrderId _ _ = _
      unfold nextOrderId
      rw [if_pos increases, hypothesis]
      push_cast
      rfl

/-- The packets in their order, with pieces of two samples. -/
def laterQueue : TxQueue Nat 2 where
  packet := laterPacket
  numbered := by
    intro k
    rw [orderId_laterPacket]
    match k with
    | 0 => rfl
    | 1 => rfl
    | k + 2 =>
        show (k : Int) + 2 = ((k + 2 : Nat) : Int)
        push_cast
        rfl
  long := by
    intro k
    match k with
    | 0 => decide
    | 1 => decide
    | k + 2 => exact Nat.lt_succ_self 2
  apart := by
    intro k
    match k with
    | 0 => decide
    | 1 => decide
    | k + 2 =>
        show 10 + 3 * (k : Int) + (3 : Nat) ≤ 10 + 3 * ((k + 1 : Nat) : Int)
        push_cast
        omega

/-- A buffer with a complete packet that is not transmittable yet. -/
def filledBuffer (packet : Packet Nat) : BufferTx Nat where
  lock := ⟨true, false⟩
  antStreamsLengthSamples := 8
  antStreams := fun index => packet.samples.getD index 0
  txLengthSamples := packet.samples.length
  txLengthSamplesCnt := packet.samples.length
  bufferTxMeta := {}

/-- The buffer once its packet is transmittable. -/
def handedBuffer (packet : Packet Nat) : BufferTx Nat :=
  { filledBuffer packet with
    lock := ⟨true, true⟩
    bufferTxMeta := packet.bufferTxMeta }

/-- A packet is filled into a free buffer and handed over. -/
theorem handOver
    {system : HwSimulator nofBufferTx Nat}
    {index : Fin nofBufferTx}
    (k : Nat)
    (isFree : (system.handed.buffers index).lock.inner = false)
    (isNew : (system.handed.buffers index).bufferTxMeta = {})
    (pending : system.transmitted.length ≤ k)
    (once : ∀ other, system.handed.carried other ≠ some k)
    (quiet : system.workTx = .searching) :
    Relation.ReflTransGen (FavourableStep laterQueue) system
      { system with
        handed :=
          { buffers :=
              Function.update (Function.update system.handed.buffers index
                  (filledBuffer (laterPacket k)))
                index (handedBuffer (laterPacket k))
            carried :=
              Function.update system.handed.carried index (some k) } } := by
  have favourable : ∀ handed : Handed nofBufferTx Nat,
      ({ system with handed := handed } :
        HwSimulator nofBufferTx Nat).Favourable 2 := by
    intro handed
    unfold Favourable
    dsimp only
    rw [quiet]
    trivial
  have written : TxSystem.Holds (filledBuffer (laterPacket k)) (laterPacket k)
      (filledBuffer (laterPacket k)).txLengthSamplesCnt := by
    intro position inside
    rw [List.getElem?_eq_getElem inside]
    exact congrArg some (List.getD_eq_getElem _ 0 inside).symm
  have due : ∀ earlier, system.transmitted.length ≤ earlier → earlier < k →
      orderId laterQueue.packet earlier ≠ orderId laterQueue.packet k := by
    intro earlier _ before same
    have sameOrder : orderId laterPacket earlier = orderId laterPacket k :=
      same
    rw [orderId_laterPacket, orderId_laterPacket] at sameOrder
    exact absurd (Int.ofNat.inj sameOrder) before.ne
  have steps :=
    Handed.phySteps_handOver k isFree isNew.symm rfl rfl written pending
      once due
  exact .tail (.single ⟨.phy steps.1, fun _ => favourable system.handed⟩)
      ⟨.phy steps.2, fun _ => favourable _⟩

/-- The receivers read what was written, or the thread goes on. -/
def proceed
    (system : HwSimulator nofBufferTx Nat) :
    Checked (HwSimulator nofBufferTx Nat) :=
  if system.vspace.statusTxWritten then
    .ok { system with vspace := system.vspace.lastRead 2 }
  else
    system.step 2

@[inherit_doc proceed]
def proceedTimes :
    Nat → HwSimulator nofBufferTx Nat →
      Checked (HwSimulator nofBufferTx Nat)
  | 0, system => .ok system
  | times + 1, system => do
      let system ← system.proceed
      proceedTimes times system

theorem reaches_proceedTimes
    {times : Nat}
    {system after : HwSimulator nofBufferTx Nat}
    (returned : proceedTimes times system = .ok after) :
    Relation.ReflTransGen (Step laterQueue) system after := by
  induction times generalizing system with
  | zero =>
      cases returned
      exact .refl
  | succ times hypothesis =>
      obtain ⟨between, first, rest⟩ := bind_eq_ok.mp returned
      refine .head ?_ (hypothesis rest)
      unfold proceed at first
      by_cases isWritten : system.vspace.statusTxWritten = true
      · rw [if_pos isWritten] at first
        cases first
        exact .lastRead isWritten
      · rw [if_neg isWritten] at first
        exact .workTx first

/-- Two packets are transmitted, and their buffers are given back. -/
theorem reachable_transmits_twoPackets :
    ∃ system : HwSimulator 2 Nat,
      Transmits laterQueue 0 system ∧
        system.transmitted = [laterPacket 0, laterPacket 1] ∧
        system.vspace.pieces.length = 4 := by
  have quiet
      {system after : HwSimulator 2 Nat}
      (returned : system.step 2 = .ok after)
      (favourable : system.Favourable 2) :
      FavourableStep laterQueue system after :=
    ⟨.workTx returned, fun _ => favourable⟩
  have handed :=
    @handOver 2 (initial 2 8 (fun _ _ => 0) 0) 0 0 rfl rfl (Nat.le_refl 0)
      (fun _ => Option.some_ne_none 0 |>.symm) rfl
  have copied :=
    (((handed.tail (quiet rfl trivial)).tail (quiet rfl trivial)).tail
      (quiet rfl trivial)).tail (quiet rfl trivial)
  have givenBack :=
    ((copied.tail ⟨.lastRead rfl, fun _ => trivial⟩).tail
      (quiet rfl trivial)).tail (quiet rfl rfl)
  have ended :=
    ((givenBack.tail (quiet rfl fun _ _ found => nomatch found)).tail
      (quiet rfl trivial)).tail ⟨.lastRead rfl, fun _ => trivial⟩
  have handedSecond :=
    ended.trans (@handOver 2 _ 1 1 rfl rfl (Nat.le_refl 1) (by decide) rfl)
  have due :=
    ((handedSecond.tail (quiet rfl trivial)).tail
      (quiet rfl trivial)).tail ⟨.lastRead rfl, fun _ => trivial⟩
  have copiedSecond :=
    ((due.tail (quiet rfl trivial)).tail (quiet rfl trivial)).tail
      (quiet rfl trivial)
  have sent :=
    (copiedSecond.tail ⟨.lastRead rfl, fun _ => trivial⟩).tail
      (quiet rfl trivial)
  exact ⟨_, (reachable_transmits Nat.two_pos sent).1, rfl, rfl⟩

/-- The last sample of a longer packet is transmitted two samples early. -/
theorem not_transmits_laterPacket :
    ¬ ∀ (queue : TxQueue Nat 2) (system : HwSimulator 2 Nat),
        Relation.ReflTransGen (Step queue)
            (initial 2 8 (fun _ _ => 0) 0) system →
          Transmits queue 0 system := by
  intro always
  have first :=
    @handOver 2 (initial 2 8 (fun _ _ => 0) 0) 0 0 rfl rfl (Nat.le_refl 0)
      (fun _ => Option.some_ne_none 0 |>.symm) rfl
  have both :=
    first.trans
      (@handOver 2 _ 1 1 rfl rfl (Nat.zero_le 1) (by decide) rfl)
  have weaker :
      ∀ before after : HwSimulator 2 Nat,
        FavourableStep laterQueue before after →
        Step laterQueue before after :=
    fun _ _ favourableStep => favourableStep.step
  have handed := Relation.ReflTransGen.mono weaker _ _ both
  have ran := handed.trans (@reaches_proceedTimes 2 14 _ _ rfl)
  have transmits := always laterQueue _ ran
  have onAir :=
    transmits.signal _ (List.mem_of_getElem? (i := 2) rfl) 0 Nat.two_pos
  -- the second packet starts at the sixth sample
  have uncovered : ∀ k < 2, ¬ (laterPacket k).Covers 4 := by
    intro k inside
    match k, inside with
    | 0, _ => exact fun covers => absurd covers.2 (by decide)
    | 1, _ => exact fun covers => absurd covers.1 (by decide)
  have isZero : (2 : Nat) = 0 := onAir.zero uncovered
  cases isZero

end Later

end HwSimulator

end Radio

end DectNrp
