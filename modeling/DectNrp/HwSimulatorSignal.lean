import DectNrp.HwSimulatorTx
import Mathlib.Tactic.Linarith
import Mathlib.Tactic.Ring

namespace DectNrp

/-!
# Signal of the simulated hardware

The pieces that the thread writes are the signal of the packets that it has
picked up so far, one piece after the other.  Two things must not happen: a
buffer that was given back must not be handed over again before the thread has
read from it which order comes next, and a packet that is found at the end of
another one must not be longer than that one if it starts in a later piece.
-/

open Checked (ok_bind pure_eq_ok)

namespace Radio

namespace HwSimulator

variable {nofBufferTx : Nat} {Sample : Type}

/-- Whether the thread has picked up a packet that it has not given back. -/
def WorkTx.inFlight : WorkTx nofBufferTx → Nat
  | .leading _ _ => 1
  | .copying _ => 1
  | .copyingNext _ => 1
  | .writing transmission =>
      if transmission.txLengthSamplesCnt < transmission.txLengthSamples then
        1
      else
        0
  | _ => 0

/-- Number of packets that the thread has picked up. -/
def pickedUp (system : HwSimulator nofBufferTx Sample) : Nat :=
  system.transmitted.length + system.workTx.inFlight

/-- A packet that is found is not in the past. -/
def InTime (system : HwSimulator nofBufferTx Sample) : Prop :=
  system.workTx = .searching →
    ∀ bufferTxIdx,
      system.handed.buffers.getSpecificTxOrderIdIfAvailable
          system.txOrderIdExpected =
        some bufferTxIdx →
      system.now64 ≤
        (system.handed.buffers bufferTxIdx).bufferTxMeta.txTime64

/--
What was given back is not handed over before it is read, and what is found at
the end of a packet is not longer than it unless it starts in the same piece.
-/
def Favourable
    (sppSize : Nat)
    (system : HwSimulator nofBufferTx Sample) :
    Prop :=
  match system.workTx with
  | .readingOrder transmission =>
      (system.handed.buffers transmission.bufferTxIdx).lock.inner = false
  | .overwritingOrder transmission =>
      (system.handed.buffers transmission.bufferTxIdx).lock.inner = false
  | .lookingAhead transmission =>
      transmission.sppOffset + transmission.txLengthSamplesThisSpp <
          sppSize →
        ∀ bufferTxIdx,
          system.handed.buffers.getSpecificTxOrderIdIfAvailable
              system.txOrderIdExpected =
            some bufferTxIdx →
          system.now64 + sppSize ≤
            (system.handed.buffers bufferTxIdx).bufferTxMeta.txTime64 →
          (system.handed.buffers bufferTxIdx).txLengthSamples ≤
            transmission.txLengthSamplesCnt
  | _ => True

section Invariant

variable [Zero Sample] {sppSize : Nat}

/-- The thread transmits the next packet. -/
structure WorksOn
    (queue : TxQueue Sample sppSize)
    (system : HwSimulator nofBufferTx Sample)
    (transmission : Transmission nofBufferTx) :
    Prop where
  carried :
    system.handed.carried transmission.bufferTxIdx =
      some system.transmitted.length
  txLengthSamples :
    transmission.txLengthSamples =
      (queue.packet system.transmitted.length).samples.length
  txTime64 :
    transmission.txTime64 =
      (queue.packet system.transmitted.length).txTime

/-- The piece is the signal of the first packets. -/
def Ready
    (queue : TxQueue Sample sppSize)
    (system : HwSimulator nofBufferTx Sample)
    (count : Nat) :
    Prop :=
  ∀ index < sppSize,
    queue.OnAir count (system.now64 + index) (system.vspptx.spp index)

/-- The next order is expected. -/
def Expects
    (queue : TxQueue Sample sppSize)
    (system : HwSimulator nofBufferTx Sample) :
    Prop :=
  system.txOrderIdExpected =
    orderId queue.packet system.transmitted.length

/-- The last packet has ended, and its order is still expected. -/
def Rereads
    (queue : TxQueue Sample sppSize)
    (system : HwSimulator nofBufferTx Sample)
    (transmission : Transmission nofBufferTx) :
    Prop :=
  ∃ last,
    system.transmitted.length = last + 1 ∧
    system.txOrderIdExpected = orderId queue.packet last ∧
    ((system.handed.buffers transmission.bufferTxIdx).lock.inner = false →
      (system.handed.buffers
          transmission.bufferTxIdx).bufferTxMeta.txOrderIdExpectNext =
        (queue.packet last).bufferTxMeta.txOrderIdExpectNext)

/-- A packet has ended within the current piece. -/
structure Ended
    (queue : TxQueue Sample sppSize)
    (system : HwSimulator nofBufferTx Sample)
    (transmission : Transmission nofBufferTx) :
    Prop where
  inside :
    transmission.sppOffset + transmission.txLengthSamplesThisSpp ≤ sppSize
  isEnd :
    ∃ last,
      system.transmitted.length = last + 1 ∧
      (queue.packet last).endTime =
        system.now64 +
          (transmission.sppOffset + transmission.txLengthSamplesThisSpp :
            Nat)
  complete :
    transmission.txLengthSamplesCnt = transmission.txLengthSamples
  ready : Ready queue system system.transmitted.length

/-- What holds where the thread is. -/
def Located
    (queue : TxQueue Sample sppSize)
    (system : HwSimulator nofBufferTx Sample) :
    Prop :=
  match system.workTx with
  | .searching =>
      Expects queue system ∧
        queue.EndsBy system.transmitted.length system.now64
  | .sendingZeros =>
      Expects queue system ∧
        queue.EndsBy system.transmitted.length system.now64 ∧
        system.vspptx.spp = fun _ => 0
  | .leading transmission nofSppZero =>
      Expects queue system ∧
        queue.EndsBy system.transmitted.length system.now64 ∧
        (system.vspptx.spp = fun _ => 0) ∧
        WorksOn queue system transmission ∧
        system.now64 + nofSppZero * sppSize ≤ transmission.txTime64 ∧
        transmission.txTime64 <
          system.now64 + (nofSppZero + 1) * sppSize
  | .copying transmission =>
      Expects queue system ∧
        queue.EndsBy system.transmitted.length system.now64 ∧
        (system.vspptx.spp = fun _ => 0) ∧
        WorksOn queue system transmission ∧
        transmission.sppOffset < sppSize ∧
        transmission.txLengthSamplesCnt < transmission.txLengthSamples ∧
        transmission.txTime64 + transmission.txLengthSamplesCnt =
          system.now64 + transmission.sppOffset ∧
        (transmission.sppOffset = 0 ∨
          transmission.txLengthSamplesCnt = 0)
  | .readingOrder transmission =>
      Rereads queue system transmission ∧ Ended queue system transmission
  | .overwritingOrder transmission =>
      Rereads queue system transmission ∧
        Ended queue system transmission ∧
        ∀ last, system.transmitted.length = last + 1 →
          0 ≤ (queue.packet last).bufferTxMeta.txOrderIdExpectNext
  | .lookingAhead transmission =>
      Expects queue system ∧ Ended queue system transmission
  | .copyingNext transmission =>
      Expects queue system ∧
        WorksOn queue system transmission ∧
        transmission.sppOffset < sppSize ∧
        transmission.sppOffset + transmission.txLengthSamplesThisSpp =
          sppSize ∧
        transmission.txLengthSamplesCnt = 0 ∧
        transmission.txTime64 = system.now64 + transmission.sppOffset ∧
        Ready queue system system.transmitted.length
  | .writing transmission =>
      Expects queue system ∧
        Ready queue system system.pickedUp ∧
        (transmission.txLengthSamplesCnt < transmission.txLengthSamples →
          WorksOn queue system transmission ∧
            transmission.txTime64 + transmission.txLengthSamplesCnt =
              system.now64 + sppSize) ∧
        (transmission.txLengthSamples ≤ transmission.txLengthSamplesCnt →
          queue.EndsBy system.transmitted.length
            (system.now64 + sppSize))

/-- What holds in every state of a run. -/
structure Invariant
    (queue : TxQueue Sample sppSize)
    (nowStart64 : Int)
    (system : HwSimulator nofBufferTx Sample) :
    Prop where
  carries : system.handed.Carries queue system.transmitted.length
  clock :
    system.now64 = nowStart64 + sppSize * system.vspace.pieces.length
  vspaceClock :
    system.vspace.now64 + (if system.vspace.statusTxWritten then
        (sppSize : Int) else 0) =
      system.now64
  times :
    ∀ (index : Nat) piece, system.vspace.pieces[index]? = some piece →
      piece.now64 = nowStart64 + sppSize * index
  signal :
    ∀ piece ∈ system.vspace.pieces, ∀ index < sppSize,
      queue.OnAir system.pickedUp (piece.now64 + index) (piece.spp index)
  order :
    system.transmitted =
      (List.range system.transmitted.length).map queue.packet
  located : Located queue system

variable
    {queue : TxQueue Sample sppSize}
    {nowStart64 : Int}
    {system : HwSimulator nofBufferTx Sample}

theorem invariant_initial
    (queue : TxQueue Sample sppSize)
    (antStreamsLengthSamples : Nat)
    (antStreams : Fin nofBufferTx → Nat → Sample)
    (nowStart64 : Int) :
    Invariant queue nowStart64
      (initial nofBufferTx antStreamsLengthSamples antStreams nowStart64) := by
  refine ⟨Handed.carries_initial queue antStreamsLengthSamples antStreams, ?_,
      ?_, ?_, ?_, rfl, rfl, ?_⟩
  · simp [initial]
  · simp [initial]
  · intro index piece found
    simp [initial] at found
  · intro piece member
    simp [initial] at member
  · intro k inside
    exact absurd inside (Nat.not_lt_zero k)

/-- A piece that was written is in the past. -/
theorem Invariant.past
    (invariant : Invariant queue nowStart64 system)
    {piece : Vspptx Sample}
    (member : piece ∈ system.vspace.pieces)
    {index : Nat}
    (inside : index < sppSize) :
    piece.now64 + index < system.now64 := by
  obtain ⟨position, isThere⟩ := List.mem_iff_getElem?.mp member
  have early := (List.getElem?_eq_some_iff.mp isThere).1
  have further :
      sppSize * (position + 1) ≤ sppSize * system.vspace.pieces.length :=
    Nat.mul_le_mul_left _ early
  rw [invariant.times position piece isThere, invariant.clock]
  rw [Nat.mul_succ] at further
  omega

/-- Only the position of the thread changes, and what it knows. -/
theorem Invariant.move
    (invariant : Invariant queue nowStart64 system)
    (txOrderIdExpected : Int)
    (vspptx : Vspptx Sample)
    (workTx : WorkTx nofBufferTx)
    (lateReads : Nat)
    (signal :
      ∀ piece ∈ system.vspace.pieces, ∀ index < sppSize,
        queue.OnAir (system.transmitted.length + workTx.inFlight)
          (piece.now64 + index) (piece.spp index))
    (located :
      Located queue
        { system with
          txOrderIdExpected := txOrderIdExpected
          vspptx := vspptx
          workTx := workTx
          lateReads := lateReads }) :
    Invariant queue nowStart64
      { system with
        txOrderIdExpected := txOrderIdExpected
        vspptx := vspptx
        workTx := workTx
        lateReads := lateReads } :=
  ⟨invariant.carries, invariant.clock, invariant.vspaceClock,
    invariant.times, signal, invariant.order, located⟩

/-- The packets that are picked up stay the same. -/
theorem Invariant.stay
    (invariant : Invariant queue nowStart64 system)
    (txOrderIdExpected : Int)
    (vspptx : Vspptx Sample)
    (workTx : WorkTx nofBufferTx)
    (lateReads : Nat)
    (same : workTx.inFlight = system.workTx.inFlight)
    (located :
      Located queue
        { system with
          txOrderIdExpected := txOrderIdExpected
          vspptx := vspptx
          workTx := workTx
          lateReads := lateReads }) :
    Invariant queue nowStart64
      { system with
        txOrderIdExpected := txOrderIdExpected
        vspptx := vspptx
        workTx := workTx
        lateReads := lateReads } := by
  refine invariant.move _ _ _ _ ?_ located
  rw [same]
  exact invariant.signal

/-- The buffer that is found carries the next packet of the queue. -/
theorem Invariant.found
    (invariant : Invariant queue nowStart64 system)
    (expects : Expects queue system)
    {bufferTxIdx : Fin nofBufferTx}
    (found :
      system.handed.buffers.getSpecificTxOrderIdIfAvailable
        system.txOrderIdExpected = some bufferTxIdx) :
    system.handed.carried bufferTxIdx = some system.transmitted.length ∧
      CarriesPacket (system.handed.buffers bufferTxIdx)
        (queue.packet system.transmitted.length) ∧
      sppSize < (system.handed.buffers bufferTxIdx).txLengthSamples ∧
      (system.handed.buffers bufferTxIdx).bufferTxMeta.txTime64 =
        (queue.packet system.transmitted.length).txTime := by
  rw [expects] at found
  have isCarried := invariant.carries.found found
  have isPacket := invariant.carries.packet _ _ isCarried
  have long := queue.long system.transmitted.length
  rw [← isPacket.announced] at long
  refine ⟨isCarried, isPacket, long, ?_⟩
  rw [isPacket.bufferTxMeta]
  rfl

/-- What was written before a packet starts does not change with it. -/
theorem Invariant.signal_pickUp
    (invariant : Invariant queue nowStart64 system)
    (nothing : system.workTx.inFlight = 0)
    (later : system.now64 ≤ (queue.packet system.transmitted.length).txTime) :
    ∀ piece ∈ system.vspace.pieces, ∀ index < sppSize,
      queue.OnAir (system.transmitted.length + 1)
        (piece.now64 + index) (piece.spp index) := by
  intro piece member index inside
  have onAir := invariant.signal piece member index inside
  unfold pickedUp at onAir
  rw [nothing] at onAir
  refine onAir.pickUp ?_
  intro covers
  have before := invariant.past member inside
  exact absurd (before.trans_le (later.trans covers.1)) (Int.lt_irrefl _)

/-- A search that is in time finds the next packet, or sends zeros. -/
theorem Invariant.search
    (invariant : Invariant queue nowStart64 system)
    (positive : 0 < sppSize)
    (isHere : system.workTx = .searching)
    (inTime : system.InTime) :
    ∃ after,
      system.search sppSize = .ok after ∧
        Invariant queue nowStart64 after := by
  have located := invariant.located
  unfold Located at located
  rw [isHere] at located
  obtain ⟨expects, endsBy⟩ := located
  have nothing : system.workTx.inFlight = 0 := by
    rw [isHere]
    rfl
  unfold HwSimulator.search
  cases found : system.handed.buffers.getSpecificTxOrderIdIfAvailable
      system.txOrderIdExpected with
  | none =>
      refine ⟨_, rfl, ?_⟩
      exact invariant.stay _ _ _ _ nothing.symm ⟨expects, endsBy, rfl⟩
  | some bufferTxIdx =>
      have notPast := inTime isHere bufferTxIdx found
      obtain ⟨isCarried, isPacket, long, isTime⟩ :=
        invariant.found expects found
      simp only [decide_eq_true long, decide_eq_true notPast,
        dectnrpAssert_true, ok_bind, pure_eq_ok]
      refine ⟨_, rfl, ?_⟩
      refine invariant.move _ _ _ _ ?_
        ⟨expects, endsBy, rfl, ⟨isCarried, isPacket.announced, isTime⟩, ?_⟩
      · rw [isTime] at notPast
        exact invariant.signal_pickUp nothing notPast
      · have size : (0 : Int) < sppSize := Int.ofNat_lt.mpr positive
        show system.now64 +
            ((((system.handed.buffers bufferTxIdx).bufferTxMeta.txTime64 -
              system.now64) / (sppSize : Int)).toNat : Int) *
              sppSize ≤
              (system.handed.buffers bufferTxIdx).bufferTxMeta.txTime64 ∧
            (system.handed.buffers bufferTxIdx).bufferTxMeta.txTime64 <
              system.now64 +
                ((((system.handed.buffers bufferTxIdx).bufferTxMeta.txTime64 -
                  system.now64) / (sppSize : Int)).toNat + 1 : Int) *
                  sppSize
        generalize (system.handed.buffers bufferTxIdx).bufferTxMeta.txTime64 =
            txTime64 at notPast
        have waits : 0 ≤ (txTime64 - system.now64) / (sppSize : Int) :=
          Int.ediv_nonneg (Int.sub_nonneg_of_le notPast) size.le
        have below := Int.ediv_mul_le (txTime64 - system.now64) size.ne'
        have above :=
          Int.lt_ediv_add_one_mul_self (txTime64 - system.now64) size
        rw [Int.toNat_of_nonneg waits]
        constructor
        · omega
        · omega

/-- The state behind a write into the virtual space. -/
def written
    (sppSize : Nat)
    (system : HwSimulator nofBufferTx Sample) :
    HwSimulator nofBufferTx Sample :=
  let vspptx := { system.vspptx with now64 := system.now64 }
  { system with
    vspace :=
      { system.vspace with
        statusTxWritten := true
        pieces := system.vspace.pieces ++ [vspptx] }
    vspptx := vspptx
    now64 := system.now64 + sppSize }

/-- The virtual space is at the time of the piece when it is writable. -/
theorem Invariant.write_eq
    (invariant : Invariant queue nowStart64 system)
    (writable : system.vspace.statusTxWritten = false) :
    system.write sppSize = .ok (system.written sppSize) := by
  have sameClock := invariant.vspaceClock
  rw [writable] at sameClock
  have isNow : (system.now64 == system.vspace.now64) = true := by
    rw [beq_iff_eq, ← sameClock]
    simp
  unfold HwSimulator.write Vspace.write
  rw [writable]
  simp only [isNow, Bool.not_false, dectnrpAssert_true, ok_bind, pure_eq_ok]
  rfl

/-- A piece that is the signal can be written. -/
theorem Invariant.written
    (invariant : Invariant queue nowStart64 system)
    (writable : system.vspace.statusTxWritten = false)
    (ready : Ready queue system system.pickedUp)
    (vspptx : Vspptx Sample)
    (workTx : WorkTx nofBufferTx)
    (same : workTx.inFlight = system.workTx.inFlight)
    (located :
      Located queue
        { system.written sppSize with
          vspptx := vspptx
          workTx := workTx }) :
    Invariant queue nowStart64
      { system.written sppSize with
        vspptx := vspptx
        workTx := workTx } := by
  have sameClock := invariant.vspaceClock
  rw [writable] at sameClock
  refine ⟨invariant.carries, ?_, ?_, ?_, ?_, invariant.order, located⟩
  · show system.now64 + sppSize =
        nowStart64 + sppSize * ((system.vspace.pieces ++ [_]).length : Int)
    rw [List.length_append, List.length_singleton, invariant.clock]
    push_cast
    ring
  · show system.vspace.now64 + (if true = true then (sppSize : Int) else 0) =
        system.now64 + sppSize
    rw [if_pos rfl, ← sameClock]
    simp
  · intro index piece found
    rcases Nat.lt_or_ge index system.vspace.pieces.length with early | late
    · refine invariant.times index piece ?_
      rw [← found]
      exact (List.getElem?_append_left early).symm
    · have last := List.getElem?_eq_some_iff.mp found
      have isLast : index = system.vspace.pieces.length := by
        have bound := last.1
        have added : (system.vspace.pieces ++
            [{ system.vspptx with now64 := system.now64 }]).length =
              system.vspace.pieces.length + 1 :=
          List.length_append
        exact Nat.le_antisymm (Nat.le_of_lt_succ (bound.trans_eq added)) late
      subst isLast
      have isPiece : (system.vspace.pieces ++
          [{ system.vspptx with now64 := system.now64 }])[
            system.vspace.pieces.length]? =
            some { system.vspptx with now64 := system.now64 } :=
        List.getElem?_concat_length
      have sameFound := found.symm.trans isPiece
      cases sameFound
      exact invariant.clock
  · intro piece member
    have samePackets : pickedUp
        { system.written sppSize with
          vspptx := vspptx
          workTx := workTx } =
          system.pickedUp := by
      unfold pickedUp
      rw [← same]
      rfl
    rw [samePackets]
    rcases List.mem_append.mp member with earlier | new
    · exact invariant.signal piece earlier
    · rw [List.mem_singleton.mp new]
      exact ready

/-- Nothing is on the air between two packets. -/
theorem ready_of_zero
    {count : Nat}
    (isZero : system.vspptx.spp = fun _ => 0)
    (uncovered :
      ∀ k < count, ∀ index < sppSize,
        ¬ (queue.packet k).Covers (system.now64 + (index : Nat))) :
    Ready queue system count := by
  intro index inside
  rw [isZero]
  exact TxQueue.onAir_zero fun k isOne => uncovered k isOne index inside

/-- Zeros are written as long as there is no packet. -/
theorem Invariant.sendZeros
    (invariant : Invariant queue nowStart64 system)
    (isHere : system.workTx = .sendingZeros) :
    ∃ after,
      system.sendZeros sppSize = .ok after ∧
        Invariant queue nowStart64 after := by
  have located := invariant.located
  unfold Located at located
  rw [isHere] at located
  obtain ⟨expects, endsBy, isZero⟩ := located
  have nothing : system.workTx.inFlight = 0 := by
    rw [isHere]
    rfl
  have isCount : system.pickedUp = system.transmitted.length := by
    unfold pickedUp
    rw [nothing]
    rfl
  unfold HwSimulator.sendZeros
  by_cases occupied : system.vspace.statusTxWritten = true
  · rw [if_pos occupied]
    refine ⟨_, rfl, ?_⟩
    exact invariant.stay _ _ _ _ nothing.symm ⟨expects, endsBy⟩
  · have writable := Bool.eq_false_of_not_eq_true occupied
    have later : system.now64 ≤ system.now64 + sppSize :=
      Int.le_add_of_nonneg_right (Int.natCast_nonneg sppSize)
    rw [if_neg occupied, invariant.write_eq writable]
    refine ⟨_, rfl, ?_⟩
    refine invariant.written writable ?_ _ .searching nothing.symm
        ⟨expects, endsBy.mono later⟩
    rw [isCount]
    refine ready_of_zero isZero ?_
    intro k inside index _
    exact endsBy.uncovered
      (Int.le_add_of_nonneg_right (Int.natCast_nonneg index)) inside

variable {transmission : Transmission nofBufferTx}

/-- Zeros are written up to the piece in which the packet starts. -/
theorem Invariant.lead
    (invariant : Invariant queue nowStart64 system)
    {nofSppZero : Nat}
    (isHere : system.workTx = .leading transmission nofSppZero) :
    ∃ after,
      system.lead sppSize transmission nofSppZero = .ok after ∧
        Invariant queue nowStart64 after := by
  have located := invariant.located
  unfold Located at located
  rw [isHere] at located
  obtain ⟨expects, endsBy, isZero, worksOn, notBefore, notBehind⟩ := located
  have one : system.workTx.inFlight = 1 := by
    rw [isHere]
    rfl
  have isCount : system.pickedUp = system.transmitted.length + 1 := by
    unfold pickedUp
    rw [one]
  cases nofSppZero with
  | zero =>
      have inside :
          (transmission.txTime64 - system.now64).toNat < sppSize := by
        push_cast at notBefore notBehind
        omega
      have offset : ((transmission.txTime64 - system.now64).toNat : Int) =
          transmission.txTime64 - system.now64 := by
        refine Int.toNat_of_nonneg ?_
        push_cast at notBefore
        omega
      have nonempty : 0 < transmission.txLengthSamples := by
        rw [worksOn.txLengthSamples]
        exact Nat.zero_lt_of_lt (queue.long _)
      unfold HwSimulator.lead
      simp only [decide_eq_true inside, dectnrpAssert_true,
        ok_bind, pure_eq_ok]
      refine ⟨_, rfl, ?_⟩
      refine invariant.stay _ _ _ _ one.symm ⟨expects, endsBy, rfl,
          ⟨worksOn.carried, worksOn.txLengthSamples, worksOn.txTime64⟩,
          inside, nonempty, ?_, Or.inr rfl⟩
      show transmission.txTime64 + ((0 : Nat) : Int) =
          system.now64 + ((transmission.txTime64 - system.now64).toNat : Int)
      rw [offset]
      push_cast
      ring
  | succ nofSppZero =>
      unfold HwSimulator.lead
      dsimp only
      by_cases occupied : system.vspace.statusTxWritten = true
      · rw [if_pos occupied]
        exact ⟨system, rfl, invariant⟩
      · have writable := Bool.eq_false_of_not_eq_true occupied
        have later : system.now64 ≤ system.now64 + sppSize :=
          Int.le_add_of_nonneg_right (Int.natCast_nonneg sppSize)
        have further : system.now64 + sppSize + nofSppZero * sppSize ≤
            transmission.txTime64 ∧ transmission.txTime64 <
                system.now64 + sppSize + (nofSppZero + 1) * sppSize := by
          push_cast at notBefore notBehind
          constructor
          · linarith
          · linarith
        rw [if_neg occupied, invariant.write_eq writable]
        refine ⟨_, rfl, ?_⟩
        refine invariant.written writable ?_ _
            (.leading transmission nofSppZero) one.symm
            ⟨expects, endsBy.mono later, isZero,
              ⟨worksOn.carried, worksOn.txLengthSamples, worksOn.txTime64⟩,
              further.1, further.2⟩
        rw [isCount]
        refine ready_of_zero isZero ?_
        intro k inside index isIndex
        rcases Nat.lt_succ_iff_lt_or_eq.mp inside with before | rfl
        · exact endsBy.uncovered
            (Int.le_add_of_nonneg_right (Int.natCast_nonneg index)) before
        · intro covers
          have start := covers.1
          rw [← worksOn.txTime64] at start
          have product : (0 : Int) ≤ nofSppZero * sppSize :=
            Int.mul_nonneg (Int.natCast_nonneg _) (Int.natCast_nonneg _)
          have early : (index : Int) < sppSize := Int.ofNat_lt.mpr isIndex
          have reached := further.1
          linarith

/-- The samples that were copied are on the air at their time. -/
theorem onAir_copied
    {inp : Nat → Sample}
    {nofSamples index : Nat}
    (worksOn : WorksOn queue system transmission)
    (isTime :
      transmission.txTime64 + transmission.txLengthSamplesCnt =
        system.now64 + transmission.sppOffset)
    (reads :
      ∀ position, position < nofSamples →
        (queue.packet system.transmitted.length).samples[
            transmission.txLengthSamplesCnt + position]? =
          some (inp position))
    (notBefore : transmission.sppOffset ≤ index)
    (notBehind : index < transmission.sppOffset + nofSamples) :
    queue.OnAir (system.transmitted.length + 1) (system.now64 + index)
      (inp (index - transmission.sppOffset)) := by
  have isSample := reads (index - transmission.sppOffset) (by omega)
  have bound := (List.getElem?_eq_some_iff.mp isSample).1
  have isTxTime := worksOn.txTime64
  have position : (system.now64 + index -
      (queue.packet system.transmitted.length).txTime).toNat =
        transmission.txLengthSamplesCnt +
          (index - transmission.sppOffset) := by
    omega
  refine TxQueue.onAir_of_sample (Nat.lt_succ_self _) ⟨?_, ?_⟩ ?_
  · omega
  · unfold Packet.endTime
    omega
  · rw [position]
    exact isSample

theorem onAir_piece
    {transmission : Transmission nofBufferTx}
    {inp : Nat → Sample}
    {nofSamples : Nat}
    (worksOn : WorksOn queue system transmission)
    (endsBy : queue.EndsBy system.transmitted.length system.now64)
    (isTime :
      transmission.txTime64 + transmission.txLengthSamplesCnt =
        system.now64 + transmission.sppOffset)
    (first : transmission.sppOffset = 0 ∨ transmission.txLengthSamplesCnt = 0)
    (isNumber :
      nofSamples =
        min (transmission.txLengthSamples -
            transmission.txLengthSamplesCnt)
          (sppSize - transmission.sppOffset))
    (reads :
      ∀ position, position < nofSamples →
        (queue.packet system.transmitted.length).samples[
            transmission.txLengthSamplesCnt + position]? =
          some (inp position))
    {index : Nat}
    (inside : index < sppSize) :
    queue.OnAir (system.transmitted.length + 1) (system.now64 + index)
      (if transmission.sppOffset ≤ index ∧
          index < transmission.sppOffset + nofSamples then
        inp (index - transmission.sppOffset)
      else 0) := by
  by_cases copied : transmission.sppOffset ≤ index ∧
      index < transmission.sppOffset + nofSamples
  · rw [if_pos copied]
    exact onAir_copied worksOn isTime reads copied.1 copied.2
  · rw [if_neg copied]
    refine TxQueue.onAir_zero ?_
    intro k isPicked
    rcases Nat.lt_succ_iff_lt_or_eq.mp isPicked with before | rfl
    · exact endsBy.uncovered
        (Int.le_add_of_nonneg_right (Int.natCast_nonneg index)) before
    · rintro ⟨notBefore, notBehind⟩
      have length := worksOn.txLengthSamples
      unfold Packet.endTime at notBehind
      rw [← worksOn.txTime64] at notBefore notBehind
      -- either the packet has not begun, or it has ended
      rcases first with atStart | none_ <;> omega

/-- The buffer of a packet that was copied completely is given back. -/
theorem Invariant.setTransmitted
    (invariant : Invariant queue nowStart64 system)
    (vspptx : Vspptx Sample)
    (one : system.workTx.inFlight = 1)
    (expects : Expects queue system)
    (isCarried :
      system.handed.carried transmission.bufferTxIdx =
        some system.transmitted.length)
    (complete :
      (queue.packet system.transmitted.length).samples.length ≤
        (system.handed.buffers transmission.bufferTxIdx).txLengthSamplesCnt)
    (counted : transmission.txLengthSamplesCnt = transmission.txLengthSamples)
    (inside :
      transmission.sppOffset + transmission.txLengthSamplesThisSpp ≤ sppSize)
    (isEnd :
      (queue.packet system.transmitted.length).endTime =
        system.now64 +
          (transmission.sppOffset + transmission.txLengthSamplesThisSpp : Nat))
    (ready :
      ∀ index < sppSize,
        queue.OnAir (system.transmitted.length + 1)
          (system.now64 + index) (vspptx.spp index)) :
    ∃ after,
      ({ system with vspptx := vspptx } :
          HwSimulator nofBufferTx Sample).setTransmitted transmission =
        .ok after ∧
        Invariant queue nowStart64 after := by
  obtain ⟨handed, released, carries, hidden, expectNext⟩ :=
    invariant.carries.release isCarried
  have isContent := invariant.carries.content isCarried complete
  have isLength : (system.transmitted ++
      [queue.packet system.transmitted.length]).length =
        system.transmitted.length + 1 :=
    List.length_append
  unfold HwSimulator.setTransmitted
  simp only [released, isContent, ok_bind, pure_eq_ok]
  refine ⟨_, rfl, ?_⟩
  refine ⟨?_, invariant.clock, invariant.vspaceClock, invariant.times, ?_, ?_,
      ⟨system.transmitted.length, isLength, expects, fun _ => expectNext⟩,
      ⟨inside, ⟨system.transmitted.length, isLength, isEnd⟩, counted, ?_⟩⟩
  · rw [isLength]
    exact carries
  · have signal := invariant.signal
    unfold pickedUp at signal ⊢
    rw [one] at signal
    rw [isLength]
    exact signal
  · show system.transmitted ++ [queue.packet system.transmitted.length] =
        (List.range (system.transmitted ++
            [queue.packet system.transmitted.length]).length).map
          queue.packet
    rw [isLength, List.range_succ, List.map_append, List.map_singleton,
      ← invariant.order]
  · show Ready queue _ (system.transmitted ++ [_]).length
    rw [isLength]
    exact ready

/-- Samples of the packet are copied at their time. -/
theorem Invariant.copySamples
    (invariant : Invariant queue nowStart64 system)
    (isHere : system.workTx = .copying transmission) :
    ∃ after,
      system.copySamples sppSize transmission = .ok after ∧
        Invariant queue nowStart64 after := by
  have located := invariant.located
  unfold Located at located
  rw [isHere] at located
  obtain ⟨expects, endsBy, isZero, worksOn, offset, incomplete, isTime,
      first⟩ := located
  have one : system.workTx.inFlight = 1 := by
    rw [isHere]
    rfl
  obtain ⟨nofSamples, isNumber⟩ : ∃ nofSamples, nofSamples =
      min (transmission.txLengthSamples - transmission.txLengthSamplesCnt)
        (sppSize - transmission.sppOffset) :=
    ⟨_, rfl⟩
  have nonempty : 0 < nofSamples := by omega
  have fits : transmission.sppOffset + nofSamples ≤ sppSize := by omega
  have few : transmission.txLengthSamplesCnt + nofSamples ≤
      transmission.txLengthSamples := by
    omega
  have length := worksOn.txLengthSamples
  obtain ⟨available, waits⟩ :=
    invariant.carries.waits worksOn.carried (few.trans_eq length)
  unfold HwSimulator.copySamples
  simp only [← isNumber, waits, ok_bind]
  cases available with
  | false => exact ⟨system, rfl, invariant⟩
  | true =>
      obtain ⟨antStreams, isAntStreams, reads⟩ :=
        invariant.carries.reads worksOn.carried waits
          transmission.txLengthSamplesCnt
      have samples : ∀ position, position < nofSamples →
          (queue.packet system.transmitted.length).samples[
              transmission.txLengthSamplesCnt + position]? =
            some (antStreams position) :=
        fun position isInside => reads position (by omega)
      have ready :=
        @onAir_piece nofBufferTx Sample _ sppSize queue system
          transmission antStreams nofSamples worksOn endsBy isTime first
          isNumber samples
      simp only [if_true, isAntStreams, ok_bind,
        system.vspptx.sppWriteV_eq_ok nonempty fits,
        decide_eq_true few, dectnrpAssert_true]
      by_cases complete : transmission.txLengthSamplesCnt + nofSamples =
          transmission.txLengthSamples
      · rw [if_pos complete]
        obtain ⟨-, published⟩ := BufferTx.waitForSamplesBusyNto_eq_ok waits
        refine invariant.setTransmitted _ one expects worksOn.carried ?_
            complete fits ?_ ?_
        · rw [← length, ← complete]
          exact published
        · unfold Packet.endTime
          rw [← length, ← worksOn.txTime64]
          show transmission.txTime64 + (transmission.txLengthSamples : Int) =
              system.now64 + ((transmission.sppOffset + nofSamples : Nat) :
                Int)
          omega
        · intro index inside
          rw [isZero]
          exact ready inside
      · rw [if_neg complete]
        have further : transmission.txLengthSamplesCnt + nofSamples <
            transmission.txLengthSamples :=
          Nat.lt_of_le_of_ne few complete
        refine ⟨_, rfl, ?_⟩
        refine invariant.stay _ _ _ _ ?_ ⟨expects, ?_, ?_, ?_⟩
        · rw [one]
          exact if_pos further
        · intro index inside
          have isCount : pickedUp
              { system with
                workTx :=
                  .writing
                    { transmission with
                      txLengthSamplesCnt :=
                        transmission.txLengthSamplesCnt + nofSamples
                      txLengthSamplesThisSpp := nofSamples } } =
                system.transmitted.length + 1 :=
            congrArg (system.transmitted.length + ·) (if_pos further)
          have onAir := ready inside
          rw [← isCount] at onAir
          show queue.OnAir _ (system.now64 + index)
              (if transmission.sppOffset ≤ index ∧
                  index < transmission.sppOffset + nofSamples then
                antStreams (index - transmission.sppOffset)
              else system.vspptx.spp index)
          rw [isZero]
          exact onAir
        · intro _
          refine
            ⟨⟨worksOn.carried, worksOn.txLengthSamples, worksOn.txTime64⟩, ?_⟩
          show transmission.txTime64 +
              ((transmission.txLengthSamplesCnt + nofSamples : Nat) : Int) =
              system.now64 + sppSize
          omega
        · intro ended
          exact absurd further (Nat.not_lt_of_le ended)

/-- Which order comes next is still known in the buffer. -/
theorem Invariant.readOrder
    (invariant : Invariant queue nowStart64 system)
    (isHere : system.workTx = .readingOrder transmission)
    (favourable : system.Favourable sppSize) :
    Invariant queue nowStart64 (system.readOrder transmission) := by
  have located := invariant.located
  unfold Located at located
  unfold Favourable at favourable
  rw [isHere] at located favourable
  obtain ⟨⟨last, isLast, expects, kept⟩, ended⟩ := located
  have nothing : system.workTx.inFlight = 0 := by
    rw [isHere]
    rfl
  have isNext := kept favourable
  unfold HwSimulator.readOrder
  by_cases increases : (system.handed.buffers
      transmission.bufferTxIdx).bufferTxMeta.txOrderIdExpectNext < 0
  · dsimp only
    rw [if_pos increases]
    refine invariant.stay _ _ _ _ nothing.symm ⟨?_, ?_⟩
    · unfold Expects
      rw [isLast]
      show system.txOrderIdExpected + 1 = nextOrderId _ _
      unfold nextOrderId
      rw [← isNext, if_pos increases, expects]
    · exact ⟨ended.inside, ended.isEnd, ended.complete, ended.ready⟩
  · dsimp only
    rw [if_neg increases]
    refine invariant.stay _ _ _ _ nothing.symm ⟨⟨last, isLast, expects, kept⟩,
        ⟨ended.inside, ended.isEnd, ended.complete, ended.ready⟩, ?_⟩
    intro other isOther
    have same : other = last := Nat.succ.inj (isOther.symm.trans isLast)
    rw [same, ← isNext]
    exact Int.not_lt.mp increases

@[inherit_doc Invariant.readOrder]
theorem Invariant.overwriteOrder
    (invariant : Invariant queue nowStart64 system)
    (isHere : system.workTx = .overwritingOrder transmission)
    (favourable : system.Favourable sppSize) :
    Invariant queue nowStart64 (system.overwriteOrder transmission) := by
  have located := invariant.located
  unfold Located at located
  unfold Favourable at favourable
  rw [isHere] at located favourable
  obtain ⟨⟨last, isLast, -, kept⟩, ended, notNegative⟩ := located
  have nothing : system.workTx.inFlight = 0 := by
    rw [isHere]
    rfl
  refine invariant.stay _ _ _ _ nothing.symm
    ⟨?_, ended.inside, ended.isEnd, ended.complete, ended.ready⟩
  unfold Expects
  rw [isLast]
  show (system.handed.buffers
      transmission.bufferTxIdx).bufferTxMeta.txOrderIdExpectNext =
      nextOrderId _ _
  unfold nextOrderId
  rw [if_neg (Int.not_lt.mpr (notNegative last isLast)), kept favourable]

/-- A piece without another packet is written as it is. -/
theorem Invariant.finish
    (invariant : Invariant queue nowStart64 system)
    (nothing : system.workTx.inFlight = 0)
    (expects : Expects queue system)
    (ended : Ended queue system transmission)
    {next : Transmission nofBufferTx}
    (exhausted : next.txLengthSamples ≤ next.txLengthSamplesCnt) :
    Invariant queue nowStart64 { system with workTx := .writing next } := by
  have none_ : (WorkTx.writing next).inFlight = 0 :=
    if_neg (Nat.not_lt_of_le exhausted)
  refine invariant.stay _ _ _ _ (none_.trans nothing.symm)
    ⟨expects, ?_, ?_, ?_⟩
  · unfold pickedUp
    rw [none_]
    exact ended.ready
  · intro unfinished
    exact absurd unfinished (Nat.not_lt_of_le exhausted)
  · intro _
    obtain ⟨last, isLast, isEnd⟩ := ended.isEnd
    have all := queue.endsBy_endTime last
    rw [← isLast] at all
    refine all.mono ?_
    rw [isEnd]
    exact Int.add_le_add_left (Int.ofNat_le.mpr ended.inside) _

/-- The next packet is picked up if it starts in the same piece. -/
theorem Invariant.lookAhead
    (invariant : Invariant queue nowStart64 system)
    {transmission : Transmission nofBufferTx}
    (isHere : system.workTx = .lookingAhead transmission)
    (favourable : system.Favourable sppSize) :
    ∃ after,
      system.lookAhead sppSize transmission = .ok after ∧
        Invariant queue nowStart64 after := by
  have located := invariant.located
  unfold Located at located
  unfold Favourable at favourable
  rw [isHere] at located favourable
  obtain ⟨expects, ended⟩ := located
  dsimp only at favourable
  have nothing : system.workTx.inFlight = 0 := by
    rw [isHere]
    rfl
  unfold HwSimulator.lookAhead
  dsimp only
  by_cases room :
      transmission.sppOffset + transmission.txLengthSamplesThisSpp < sppSize
  · rw [if_pos room]
    cases found : system.handed.buffers.getSpecificTxOrderIdIfAvailable
        system.txOrderIdExpected with
    | none =>
        exact
          ⟨_, rfl, invariant.finish nothing expects ended ended.complete.ge⟩
    | some bufferTxIdx =>
        have short := favourable room bufferTxIdx found
        obtain ⟨isCarried, isPacket, long, isTime⟩ :=
          invariant.found expects found
        obtain ⟨last, isLast, isEnd⟩ := ended.isEnd
        have notPast : system.now64 + (transmission.sppOffset +
            transmission.txLengthSamplesThisSpp : Nat) ≤
              (system.handed.buffers bufferTxIdx).bufferTxMeta.txTime64 := by
          rw [isTime, ← isEnd, isLast]
          exact queue.apart last
        simp only [decide_eq_true long, decide_eq_true notPast,
          dectnrpAssert_true, ok_bind]
        by_cases same :
            (system.handed.buffers bufferTxIdx).bufferTxMeta.txTime64 <
              system.now64 + sppSize
        · rw [if_pos same]
          have waits : 0 ≤ (system.handed.buffers
              bufferTxIdx).bufferTxMeta.txTime64 -
              system.now64 := by
            omega
          have offset := Int.toNat_of_nonneg waits
          have inside : ((system.handed.buffers
              bufferTxIdx).bufferTxMeta.txTime64 -
                system.now64).toNat < sppSize := by
            omega
          simp only [decide_eq_true inside, dectnrpAssert_true,
            ok_bind, pure_eq_ok]
          refine ⟨_, rfl, ?_⟩
          refine invariant.move _ _ _ _ ?_
            ⟨expects, ⟨isCarried, isPacket.announced, isTime⟩, inside,
              Nat.add_sub_of_le (Nat.le_of_lt inside), rfl, ?_,
              ended.ready⟩
          · refine invariant.signal_pickUp nothing ?_
            rw [← isTime]
            omega
          · show (system.handed.buffers bufferTxIdx).bufferTxMeta.txTime64 =
                system.now64 + (((system.handed.buffers
                    bufferTxIdx).bufferTxMeta.txTime64 -
                    system.now64).toNat : Int)
            omega
        · rw [if_neg same]
          exact ⟨_, rfl, invariant.finish nothing expects ended
              (short (Int.not_lt.mp same))⟩
  · rw [if_neg room]
    exact ⟨_, rfl, invariant.finish nothing expects ended ended.complete.ge⟩

/-- The next packet begins behind the end of the last one. -/
theorem Invariant.copyNext
    (invariant : Invariant queue nowStart64 system)
    (isHere : system.workTx = .copyingNext transmission) :
    ∃ after,
      system.copyNext sppSize transmission = .ok after ∧
        Invariant queue nowStart64 after := by
  have located := invariant.located
  unfold Located at located
  rw [isHere] at located
  obtain ⟨expects, worksOn, inside, fills, noneYet, isTime, ready⟩ := located
  have one : system.workTx.inFlight = 1 := by
    rw [isHere]
    rfl
  have long := queue.long system.transmitted.length
  have length := worksOn.txLengthSamples
  have fewer : transmission.txLengthSamplesThisSpp <
      (queue.packet system.transmitted.length).samples.length := by
    omega
  obtain ⟨available, waits⟩ := invariant.carries.waits worksOn.carried fewer.le
  unfold HwSimulator.copyNext
  simp only [waits, ok_bind]
  cases available with
  | false => exact ⟨system, rfl, invariant⟩
  | true =>
      obtain ⟨antStreams, isAntStreams, reads⟩ :=
        invariant.carries.reads worksOn.carried waits 0
      have nonempty : 0 < transmission.txLengthSamplesThisSpp := by omega
      have further : transmission.txLengthSamplesCnt +
          transmission.txLengthSamplesThisSpp <
            transmission.txLengthSamples := by
        omega
      simp only [if_true, isAntStreams, ok_bind,
        system.vspptx.sppWriteV_eq_ok nonempty fills.le,
        pure_eq_ok]
      refine ⟨_, rfl, ?_⟩
      refine invariant.stay _ _ _ _ ?_ ⟨expects, ?_, ?_, ?_⟩
      · rw [one]
        exact if_pos further
      · intro index isIndex
        have isCount : pickedUp
            { system with
              workTx :=
                .writing
                  { transmission with
                    txLengthSamplesCnt :=
                      transmission.txLengthSamplesCnt +
                        transmission.txLengthSamplesThisSpp } } =
              system.transmitted.length + 1 :=
          congrArg (system.transmitted.length + ·) (if_pos further)
        have onAir : queue.OnAir (system.transmitted.length + 1)
            (system.now64 + index)
            (if transmission.sppOffset ≤ index ∧ index <
                transmission.sppOffset +
                  transmission.txLengthSamplesThisSpp then
              antStreams (index - transmission.sppOffset)
            else system.vspptx.spp index) := by
          by_cases copied : transmission.sppOffset ≤ index
          · rw [if_pos ⟨copied, isIndex.trans_eq fills.symm⟩]
            refine onAir_copied worksOn ?_ ?_ copied
              (isIndex.trans_eq fills.symm)
            · rw [noneYet, isTime]
              exact Int.add_zero _
            · intro position isPosition
              have isSample := reads position (by omega)
              rw [noneYet]
              exact isSample
          · rw [if_neg fun both => copied both.1]
            refine (ready index isIndex).pickUp ?_
            intro covers
            have notBefore := covers.1
            rw [← worksOn.txTime64, isTime] at notBefore
            omega
        rw [← isCount] at onAir
        exact onAir
      · intro _
        refine
          ⟨⟨worksOn.carried, worksOn.txLengthSamples, worksOn.txTime64⟩, ?_⟩
        show transmission.txTime64 + ((transmission.txLengthSamplesCnt +
            transmission.txLengthSamplesThisSpp : Nat) : Int) =
            system.now64 + sppSize
        omega
      · intro exhausted
        exact absurd further (Nat.not_lt_of_le exhausted)

/-- The piece is written, and the packet goes on unless it has ended. -/
theorem Invariant.writeSpp
    (invariant : Invariant queue nowStart64 system)
    (positive : 0 < sppSize)
    (isHere : system.workTx = .writing transmission) :
    ∃ after,
      system.writeSpp sppSize transmission = .ok after ∧
        Invariant queue nowStart64 after := by
  have located := invariant.located
  unfold Located at located
  rw [isHere] at located
  obtain ⟨expects, ready, unfinished, finished⟩ := located
  have same : system.workTx.inFlight = if transmission.txLengthSamplesCnt <
      transmission.txLengthSamples then
          1
        else 0 := by
    rw [isHere]
    rfl
  unfold HwSimulator.writeSpp
  by_cases occupied : system.vspace.statusTxWritten = true
  · rw [if_pos occupied]
    exact ⟨system, rfl, invariant⟩
  · have writable := Bool.eq_false_of_not_eq_true occupied
    rw [if_neg occupied, invariant.write_eq writable]
    refine ⟨_, rfl, ?_⟩
    by_cases further :
        transmission.txLengthSamplesCnt < transmission.txLengthSamples
    · obtain ⟨worksOn, isTime⟩ := unfinished further
      rw [if_pos further] at same ⊢
      refine invariant.written writable ready _ _ same.symm ⟨expects, ?_, rfl,
          ⟨worksOn.carried, worksOn.txLengthSamples, worksOn.txTime64⟩,
          positive, further, ?_, Or.inl rfl⟩
      · refine (queue.endsBy_txTime system.transmitted.length).mono ?_
        show (queue.packet system.transmitted.length).txTime ≤
            system.now64 + sppSize
        rw [← worksOn.txTime64, ← isTime]
        exact Int.le_add_of_nonneg_right (Int.natCast_nonneg _)
      · show transmission.txTime64 + (transmission.txLengthSamplesCnt : Int) =
            system.now64 + sppSize + ((0 : Nat) : Int)
        rw [isTime]
        simp
    · rw [if_neg further] at same ⊢
      exact invariant.written writable ready _ _ same.symm
        ⟨expects, finished (Nat.not_lt.mp further)⟩

/-- No assertion of the thread fails in a step that is in time. -/
theorem Invariant.step
    (invariant : Invariant queue nowStart64 system)
    (positive : 0 < sppSize)
    (favourable : system.Favourable sppSize)
    (inTime : system.InTime) :
    ∃ after,
      system.step sppSize = .ok after ∧ Invariant queue nowStart64 after := by
  unfold HwSimulator.step
  cases isHere : system.workTx with
  | searching => exact invariant.search positive isHere inTime
  | sendingZeros => exact invariant.sendZeros isHere
  | leading transmission nofSppZero => exact invariant.lead isHere
  | copying transmission => exact invariant.copySamples isHere
  | readingOrder transmission =>
      exact ⟨_, rfl, invariant.readOrder isHere favourable⟩
  | overwritingOrder transmission =>
      exact ⟨_, rfl, invariant.overwriteOrder isHere favourable⟩
  | lookingAhead transmission => exact invariant.lookAhead isHere favourable
  | copyingNext transmission => exact invariant.copyNext isHere
  | writing transmission => exact invariant.writeSpp positive isHere

/-- The assertion on the time of a packet has passed. -/
theorem inTime_of_step
    {after : HwSimulator nofBufferTx Sample}
    (returned : system.step sppSize = .ok after) :
    system.InTime := by
  intro isHere bufferTxIdx found
  unfold HwSimulator.step at returned
  rw [isHere] at returned
  unfold HwSimulator.search at returned
  rw [found] at returned
  obtain ⟨_, -, returned⟩ := Checked.bind_eq_ok.mp returned
  obtain ⟨_, notPast, -⟩ := Checked.bind_eq_ok.mp returned
  exact of_decide_eq_true (dectnrpAssert_eq_ok.mp notPast)

end Invariant

end HwSimulator

end Radio

end DectNrp
