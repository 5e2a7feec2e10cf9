import DectNrp.RadioTxSystem

namespace DectNrp

/-!
# Packets that are handed to the transmit thread

The order of transmission is given by the orders of the packets themselves: a
packet either is followed by the one with the next order, or says which order
comes next.  The threads of the physical layer hand the packets over at any
time, and the transmit thread picks them up and gives the buffers back.
-/

open Function (update update_of_ne update_self)

namespace Radio

variable {Sample : Type}

/-- The order that is expected after a packet. -/
def nextOrderId
    (txOrderIdExpected : Int)
    (bufferTxMeta : BufferTxMeta) :
    Int :=
  if bufferTxMeta.txOrderIdExpectNext < 0 then
    txOrderIdExpected + 1
  else
    bufferTxMeta.txOrderIdExpectNext

/-- The orders that are expected one after the other. -/
def orderId (packet : Nat → Packet Sample) : Nat → Int
  | 0 => 0
  | k + 1 => nextOrderId (orderId packet k) (packet k).bufferTxMeta

namespace Packet

/-- Transmission time of the first sample. -/
def txTime (packet : Packet Sample) : Int :=
  packet.bufferTxMeta.txTime64

/-- Transmission time behind the last sample. -/
def endTime (packet : Packet Sample) : Int :=
  packet.txTime + packet.samples.length

/-- A sample of the packet is transmitted at the time. -/
def Covers (packet : Packet Sample) (time : Int) : Prop :=
  packet.txTime ≤ time ∧ time < packet.endTime

end Packet

/--
Packets in the order of their transmission, each longer than some minimum, and
none before the end of the one before.
-/
structure TxQueue (Sample : Type) (minimum : Nat) where
  packet : Nat → Packet Sample
  numbered : ∀ k, (packet k).bufferTxMeta.txOrderId = orderId packet k
  long : ∀ k, minimum < (packet k).samples.length
  apart : ∀ k, (packet k).endTime ≤ (packet (k + 1)).txTime

namespace TxQueue

variable {minimum : Nat}

/-- A later packet starts behind the end of an earlier one. -/
theorem apart_of_lt
    (queue : TxQueue Sample minimum)
    {earlier later : Nat}
    (before : earlier < later) :
    (queue.packet earlier).endTime ≤ (queue.packet later).txTime := by
  induction later with
  | zero => cases before
  | succ later hypothesis =>
      rcases Nat.lt_succ_iff_lt_or_eq.mp before with further | rfl
      · have start := hypothesis further
        have next := queue.apart later
        unfold Packet.endTime at next
        omega
      · exact queue.apart earlier

/-- Packets start in their order. -/
theorem txTime_mono
    (queue : TxQueue Sample minimum)
    {earlier later : Nat}
    (notBehind : earlier ≤ later) :
    (queue.packet earlier).txTime ≤ (queue.packet later).txTime := by
  rcases Nat.eq_or_lt_of_le notBehind with rfl | before
  · exact Int.le_refl _
  · have apart := queue.apart_of_lt before
    unfold Packet.endTime at apart
    omega

/-- Only one packet is transmitted at a time. -/
theorem covers_unique
    (queue : TxQueue Sample minimum)
    {k other : Nat}
    {time : Int}
    (covers : (queue.packet k).Covers time)
    (alsoCovers : (queue.packet other).Covers time) :
    k = other := by
  rcases Nat.lt_trichotomy k other with before | same | behind
  · have start := queue.apart_of_lt before
    exact absurd (covers.2.trans_le (start.trans alsoCovers.1))
      (Int.lt_irrefl time)
  · exact same
  · have start := queue.apart_of_lt behind
    exact absurd (alsoCovers.2.trans_le (start.trans covers.1))
      (Int.lt_irrefl time)

/-- The first packets end by a time. -/
def EndsBy
    (queue : TxQueue Sample minimum)
    (count : Nat)
    (time : Int) :
    Prop :=
  ∀ k < count, (queue.packet k).endTime ≤ time

section EndsBy

variable
    {queue : TxQueue Sample minimum}
    {count : Nat}
    {time later : Int}

/-- Packets that have ended cover no later time. -/
theorem EndsBy.uncovered
    (endsBy : queue.EndsBy count time)
    (notBefore : time ≤ later)
    {k : Nat}
    (inside : k < count) :
    ¬ (queue.packet k).Covers later := by
  intro covers
  exact absurd (covers.2.trans_le ((endsBy k inside).trans notBefore))
    (Int.lt_irrefl _)

theorem EndsBy.mono
    (endsBy : queue.EndsBy count time)
    (notBefore : time ≤ later) :
    queue.EndsBy count later :=
  fun k inside => (endsBy k inside).trans notBefore

/-- All packets end before a later packet starts. -/
theorem endsBy_txTime
    (queue : TxQueue Sample minimum)
    (count : Nat) :
    queue.EndsBy count (queue.packet count).txTime :=
  fun _ inside => queue.apart_of_lt inside

/-- One more packet ends with itself. -/
theorem endsBy_endTime
    (queue : TxQueue Sample minimum)
    (count : Nat) :
    queue.EndsBy (count + 1) (queue.packet count).endTime := by
  intro k inside
  rcases Nat.lt_succ_iff_lt_or_eq.mp inside with before | rfl
  · refine (queue.apart_of_lt before).trans ?_
    exact Int.le_add_of_nonneg_right (Int.natCast_nonneg _)
  · exact Int.le_refl _

end EndsBy

/--
Value of the transmitted signal at a time, if the first packets are
transmitted: the sample of the packet that covers the time, or zero.
-/
structure OnAir
    [Zero Sample]
    (queue : TxQueue Sample minimum)
    (count : Nat)
    (time : Int)
    (value : Sample) :
    Prop where
  sample :
    ∀ k < count, (queue.packet k).Covers time →
      (queue.packet k).samples[(time - (queue.packet k).txTime).toNat]? =
        some value
  zero : (∀ k < count, ¬ (queue.packet k).Covers time) → value = 0

section OnAir

variable [Zero Sample] {queue : TxQueue Sample minimum}

variable {time : Int}

/-- A packet does not change the signal where it is not transmitted. -/
theorem OnAir.pickUp
    {count : Nat}
    {value : Sample}
    (onAir : queue.OnAir count time value)
    (outside : ¬ (queue.packet count).Covers time) :
    queue.OnAir (count + 1) time value := by
  constructor
  · intro k inside covers
    rcases Nat.lt_succ_iff_lt_or_eq.mp inside with further | rfl
    · exact onAir.sample k further covers
    · exact absurd covers outside
  · intro uncovered
    exact onAir.zero fun k inside => uncovered k (Nat.lt_succ_of_lt inside)

/-- The sample of a packet is the value of the signal. -/
theorem onAir_of_sample
    {count k : Nat}
    {value : Sample}
    (inside : k < count)
    (covers : (queue.packet k).Covers time)
    (isSample :
      (queue.packet k).samples[(time - (queue.packet k).txTime).toNat]? =
        some value) :
    queue.OnAir count time value := by
  constructor
  · intro other _ alsoCovers
    rw [← queue.covers_unique covers alsoCovers]
    exact isSample
  · intro uncovered
    exact absurd covers (uncovered k inside)

/-- The signal is zero where no packet is transmitted. -/
theorem onAir_zero
    {count : Nat}
    (uncovered : ∀ k < count, ¬ (queue.packet k).Covers time) :
    queue.OnAir count time 0 :=
  ⟨fun k inside covers => absurd covers (uncovered k inside), fun _ => rfl⟩

end OnAir

end TxQueue

/-- The buffer after its packet was transmitted. -/
def BufferTx.givenBack (buffer : BufferTx Sample) : BufferTx Sample :=
  { buffer with
    lock := ⟨false, false⟩
    txLengthSamples := 0
    txLengthSamplesCnt := 0
    bufferTxMeta :=
      { buffer.bufferTxMeta with
        txOrderId := -1
        txTime64 := -1 } }

theorem BufferTx.setTransmittedOrAbort_eq_ok
    {buffer : BufferTx Sample}
    (locked : buffer.lock = ⟨true, true⟩) :
    buffer.setTransmittedOrAbort = .ok buffer.givenBack := by
  rw [setTransmittedOrAbort_eq locked]
  unfold reset unlockInner unlockOuter
  rw [locked]
  rfl

/-- A transmittable buffer holds a packet and its published samples. -/
structure CarriesPacket
    (buffer : BufferTx Sample)
    (packet : Packet Sample) :
    Prop where
  lock : buffer.lock = ⟨true, true⟩
  bufferTxMeta : buffer.bufferTxMeta = packet.bufferTxMeta
  announced : buffer.txLengthSamples = packet.samples.length
  written : TxSystem.Holds buffer packet buffer.txLengthSamplesCnt

/-- The buffers, and which packet of the queue each of them carries. -/
structure Handed (nofBufferTx : Nat) (Sample : Type) where
  buffers : BufferTxPool nofBufferTx Sample
  carried : Fin nofBufferTx → Option Nat

namespace Handed

variable {nofBufferTx minimum : Nat}

/-- No packet has been handed over. -/
def initial
    (nofBufferTx : Nat)
    (antStreamsLengthSamples : Nat)
    (antStreams : Fin nofBufferTx → Nat → Sample) :
    Handed nofBufferTx Sample where
  buffers := fun index =>
    BufferTx.new antStreamsLengthSamples (antStreams index)
  carried := fun _ => none

/--
What the threads of the physical layer do as far as the transmit thread can
see, when it has transmitted some packets.  Each packet is handed over once,
and not while another one with its order comes before it.
-/
inductive PhyStep
    (queue : TxQueue Sample minimum)
    (transmitted : Nat)
    (handed : Handed nofBufferTx Sample) :
    Handed nofBufferTx Sample → Prop where
  /-- A buffer is taken, and samples are written and announced. -/
  | prepare
      {index : Fin nofBufferTx}
      (buffer : BufferTx Sample)
      (hidden : (handed.buffers index).lock.inner = false)
      (stays : buffer.lock.inner = false)
      (sameMeta :
        buffer.bufferTxMeta = (handed.buffers index).bufferTxMeta) :
      PhyStep queue transmitted handed
        { handed with
          buffers := Function.update handed.buffers index buffer }
  | handOver
      {index : Fin nofBufferTx}
      {buffer : BufferTx Sample}
      (k : Nat)
      (announced :
        (handed.buffers index).txLengthSamples =
          (queue.packet k).samples.length)
      (written :
        TxSystem.Holds (handed.buffers index) (queue.packet k)
          (handed.buffers index).txLengthSamplesCnt)
      (returned :
        (handed.buffers index).setTransmittable
          (queue.packet k).bufferTxMeta = .ok buffer)
      (pending : transmitted ≤ k)
      (once : ∀ other, handed.carried other ≠ some k)
      (due :
        ∀ earlier, transmitted ≤ earlier → earlier < k →
          orderId queue.packet earlier ≠ orderId queue.packet k) :
      PhyStep queue transmitted handed
        { buffers := Function.update handed.buffers index buffer
          carried := Function.update handed.carried index (some k) }
  /-- More samples of a transmittable packet are published. -/
  | stream
      {index : Fin nofBufferTx}
      {k : Nat}
      (antStreams : Nat → Sample)
      (txLengthSamplesCnt : Nat)
      (carries : handed.carried index = some k)
      (grows :
        (handed.buffers index).txLengthSamplesCnt ≤ txLengthSamplesCnt)
      (written :
        TxSystem.Holds
          { handed.buffers index with antStreams := antStreams }
          (queue.packet k) txLengthSamplesCnt) :
      PhyStep queue transmitted handed
        { handed with
          buffers :=
            Function.update handed.buffers index
              { handed.buffers index with
                antStreams := antStreams
                txLengthSamplesCnt := txLengthSamplesCnt } }

/-- The transmit thread gives a buffer back. -/
def release
    (handed : Handed nofBufferTx Sample)
    (index : Fin nofBufferTx) :
    Checked (Handed nofBufferTx Sample) := do
  let buffer ← (handed.buffers index).setTransmittedOrAbort
  pure
    { buffers := Function.update handed.buffers index buffer
      carried := Function.update handed.carried index none }

/-- The transmittable buffers carry packets that are still to come. -/
structure Carries
    (queue : TxQueue Sample minimum)
    (transmitted : Nat)
    (handed : Handed nofBufferTx Sample) :
    Prop where
  hidden :
    ∀ index, handed.carried index = none →
      (handed.buffers index).lock.inner = false
  packet :
    ∀ index k, handed.carried index = some k →
      CarriesPacket (handed.buffers index) (queue.packet k)
  once :
    ∀ index other k, handed.carried index = some k →
      handed.carried other = some k → index = other
  pending : ∀ index k, handed.carried index = some k → transmitted ≤ k
  due :
    ∀ index k, handed.carried index = some k →
      ∀ earlier, transmitted ≤ earlier → earlier < k →
        orderId queue.packet earlier ≠ orderId queue.packet k

theorem carries_initial
    (queue : TxQueue Sample minimum)
    (antStreamsLengthSamples : Nat)
    (antStreams : Fin nofBufferTx → Nat → Sample) :
    (initial nofBufferTx antStreamsLengthSamples antStreams).Carries queue
      0 := by
  refine ⟨fun _ _ => rfl, ?_, ?_, ?_, ?_⟩
  · intro index k isCarried
    cases isCarried
  · intro index other k isCarried
    cases isCarried
  · intro index k isCarried
    cases isCarried
  · intro index k isCarried
    cases isCarried

section Carries

variable
    {queue : TxQueue Sample minimum}
    {transmitted : Nat}
    {handed after : Handed nofBufferTx Sample}

variable {index : Fin nofBufferTx}

/-- A buffer carries a packet exactly if it is transmittable. -/
theorem Carries.carried_ne_none
    (carries : handed.Carries queue transmitted)
    (isLocked : (handed.buffers index).lock.inner = true) :
    ∃ k, handed.carried index = some k := by
  cases isCarried : handed.carried index with
  | none =>
      rw [carries.hidden index isCarried] at isLocked
      cases isLocked
  | some k => exact ⟨k, rfl⟩

theorem Carries.carried_eq_none
    (carries : handed.Carries queue transmitted)
    (hidden : (handed.buffers index).lock.inner = false) :
    handed.carried index = none := by
  cases isCarried : handed.carried index with
  | none => rfl
  | some k =>
      rw [(carries.packet index k isCarried).lock] at hidden
      cases hidden

/-- No packet behind the expected one is found under its order. -/
theorem Carries.foundUpTo
    (carries : handed.Carries queue transmitted)
    {expected : Nat}
    (notBefore : transmitted ≤ expected)
    (isFound :
      handed.buffers.getSpecificTxOrderIdIfAvailable
        (orderId queue.packet expected) = some index) :
    ∃ k, handed.carried index = some k ∧ transmitted ≤ k ∧ k ≤ expected := by
  obtain ⟨isLocked, isOrder⟩ :=
    BufferTxPool.getSpecificTxOrderIdIfAvailable_eq_some isFound
  obtain ⟨k, isCarried⟩ := carries.carried_ne_none isLocked
  have sameOrder : orderId queue.packet expected = orderId queue.packet k := by
    rw [← isOrder, (carries.packet index k isCarried).bufferTxMeta]
    exact queue.numbered k
  refine ⟨k, isCarried, carries.pending index k isCarried, ?_⟩
  by_contra behind
  exact absurd sameOrder (carries.due index k isCarried expected notBefore
      (Nat.lt_of_not_le behind))

/-- Only the next packet is found under its order. -/
theorem Carries.found
    (carries : handed.Carries queue transmitted)
    (isFound :
      handed.buffers.getSpecificTxOrderIdIfAvailable
        (orderId queue.packet transmitted) = some index) :
    handed.carried index = some transmitted := by
  obtain ⟨k, isCarried, notBefore, notBehind⟩ :=
    carries.foundUpTo (Nat.le_refl _) isFound
  rw [Nat.le_antisymm notBefore notBehind]
  exact isCarried

/-- The packet behind the next one is found, or the next one itself. -/
theorem Carries.foundBehind
    (carries : handed.Carries queue transmitted)
    (isFound :
      handed.buffers.getSpecificTxOrderIdIfAvailable
        (orderId queue.packet (transmitted + 1)) = some index)
    (differs : handed.carried index ≠ some transmitted) :
    handed.carried index = some (transmitted + 1) := by
  obtain ⟨k, isCarried, notBefore, notBehind⟩ :=
    carries.foundUpTo (Nat.le_succ _) isFound
  rcases Nat.eq_or_lt_of_le notBefore with rfl | behind
  · exact absurd isCarried differs
  · have isBehind : k = transmitted + 1 := Nat.le_antisymm notBehind behind
    rw [← isBehind]
    exact isCarried

/-- The next packet is found as soon as it is handed over. -/
theorem Carries.finds
    (carries : handed.Carries queue transmitted)
    (isCarried : handed.carried index = some transmitted) :
    handed.buffers.getSpecificTxOrderIdIfAvailable
      (orderId queue.packet transmitted) = some index := by
  have isPacket := carries.packet index transmitted isCarried
  cases search : handed.buffers.getSpecificTxOrderIdIfAvailable
      (orderId queue.packet transmitted) with
  | none =>
      refine absurd ⟨?_, ?_⟩
        (BufferTxPool.getSpecificTxOrderIdIfAvailable_eq_none search index)
      · rw [isPacket.lock]
      · rw [isPacket.bufferTxMeta]
        exact queue.numbered transmitted
  | some other =>
      rw [carries.once index other transmitted isCarried
        (carries.found search)]

variable {k : Nat}

/-- A packet stays in its buffer until it is transmitted. -/
theorem PhyStep.carried
    (step : PhyStep queue transmitted handed after)
    (carries : handed.Carries queue transmitted)
    (isCarried : handed.carried index = some k) :
    after.carried index = some k := by
  cases step with
  | prepare => exact isCarried
  | @handOver given _ _ _ _ returned =>
      have differs : index ≠ given := by
        rintro rfl
        obtain ⟨isLocked, -⟩ := BufferTx.setTransmittable_eq_ok returned
        rw [(carries.packet index k isCarried).lock] at isLocked
        cases isLocked
      show update handed.carried given _ index = some k
      rw [update_of_ne differs]
      exact isCarried
  | stream => exact isCarried

/-- Published samples of a packet stay published. -/
theorem PhyStep.published
    (step : PhyStep queue transmitted handed after)
    (carries : handed.Carries queue transmitted)
    (isCarried : handed.carried index = some k) :
    (handed.buffers index).txLengthSamplesCnt ≤
      (after.buffers index).txLengthSamplesCnt := by
  have isLocked := (carries.packet index k isCarried).lock
  cases step with
  | @prepare given buffer hidden =>
      have differs : index ≠ given := by
        rintro rfl
        rw [isLocked] at hidden
        cases hidden
      simp only [update_of_ne differs, Nat.le_refl]
  | @handOver given _ _ _ _ returned =>
      have differs : index ≠ given := by
        rintro rfl
        obtain ⟨isOpen, -⟩ := BufferTx.setTransmittable_eq_ok returned
        rw [isLocked] at isOpen
        cases isOpen
      simp only [update_of_ne differs, Nat.le_refl]
  | @stream given _ _ _ _ grows =>
      by_cases same : index = given
      · subst same
        simp only [update_self]
        exact grows
      · simp only [update_of_ne same, Nat.le_refl]

/-- Only a packet that is handed over replaces what is known of one. -/
theorem PhyStep.sameMeta
    (step : PhyStep queue transmitted handed after)
    (stays : (after.buffers index).lock.inner = false) :
    (after.buffers index).bufferTxMeta =
      (handed.buffers index).bufferTxMeta := by
  cases step with
  | @prepare given buffer _ _ sameMeta =>
      by_cases same : index = given
      · subst same
        show (update handed.buffers index buffer index).bufferTxMeta = _
        rw [update_self]
        exact sameMeta
      · show (update handed.buffers given buffer index).bufferTxMeta = _
        rw [update_of_ne same]
  | @handOver given buffer _ _ _ returned =>
      by_cases same : index = given
      · subst same
        obtain ⟨-, isBuffer⟩ := BufferTx.setTransmittable_eq_ok returned
        simp only [update_self, isBuffer] at stays
        cases stays
      · show (update handed.buffers given buffer index).bufferTxMeta = _
        rw [update_of_ne same]
  | @stream given =>
      by_cases same : index = given
      · subst same
        show (update handed.buffers index _ index).bufferTxMeta = _
        rw [update_self]
      · show (update handed.buffers given _ index).bufferTxMeta = _
        rw [update_of_ne same]

/-- Whatever the other threads do, the buffers carry packets to come. -/
theorem PhyStep.carries
    (step : PhyStep queue transmitted handed after)
    (carries : handed.Carries queue transmitted) :
    after.Carries queue transmitted := by
  cases step with
  | @prepare given buffer hidden stays sameMeta =>
      have isNone := carries.carried_eq_none hidden
      refine ⟨?_, ?_, carries.once, carries.pending, carries.due⟩
      · intro index isHidden
        by_cases same : index = given
        · subst same
          show (update handed.buffers index buffer index).lock.inner = false
          rw [update_self]
          exact stays
        · show (update handed.buffers given buffer index).lock.inner = false
          rw [update_of_ne same]
          exact carries.hidden index isHidden
      · intro index k isCarried
        have differs : index ≠ given := by
          rintro rfl
          rw [isNone] at isCarried
          cases isCarried
        show CarriesPacket (update handed.buffers given buffer index) _
        rw [update_of_ne differs]
        exact carries.packet index k isCarried
  | @handOver given buffer k announced written returned pending once
      due =>
      obtain ⟨isLocked, rfl⟩ := BufferTx.setTransmittable_eq_ok returned
      constructor
      · intro index isHidden
        by_cases same : index = given
        · subst same
          simp only [update_self] at isHidden
          cases isHidden
        · simp only [update_of_ne same] at isHidden ⊢
          exact carries.hidden index isHidden
      · intro index other isCarried
        by_cases same : index = given
        · subst same
          simp only [update_self] at isCarried ⊢
          cases isCarried
          exact ⟨rfl, rfl, announced, written⟩
        · simp only [update_of_ne same] at isCarried ⊢
          exact carries.packet index other isCarried
      · intro index other l isCarried alsoCarried
        by_cases same : index = given
        · subst same
          by_cases again : other = index
          · exact again.symm
          · simp only [update_self,
              update_of_ne again] at isCarried alsoCarried
            cases isCarried
            exact absurd alsoCarried (once other)
        · by_cases again : other = given
          · subst again
            simp only [update_self, update_of_ne same] at isCarried alsoCarried
            cases alsoCarried
            exact absurd isCarried (once index)
          · simp only [update_of_ne same,
              update_of_ne again] at isCarried alsoCarried
            exact carries.once index other l isCarried alsoCarried
      · intro index l isCarried
        by_cases same : index = given
        · subst same
          simp only [update_self] at isCarried
          cases isCarried
          exact pending
        · simp only [update_of_ne same] at isCarried
          exact carries.pending index l isCarried
      · intro index l isCarried
        by_cases same : index = given
        · subst same
          simp only [update_self] at isCarried
          cases isCarried
          exact due
        · simp only [update_of_ne same] at isCarried
          exact carries.due index l isCarried
  | @stream given k antStreams txLengthSamplesCnt isGiven grows
      written =>
      refine ⟨?_, ?_, carries.once, carries.pending, carries.due⟩
      · intro index isHidden
        have differs : index ≠ given := by
          rintro rfl
          rw [isGiven] at isHidden
          cases isHidden
        show (update handed.buffers given _ index).lock.inner = false
        rw [update_of_ne differs]
        exact carries.hidden index isHidden
      · intro index other isCarried
        by_cases same : index = given
        · subst same
          rw [isGiven] at isCarried
          cases isCarried
          have before := carries.packet index k isGiven
          show CarriesPacket (update handed.buffers index _ index) _
          rw [update_self]
          exact ⟨before.lock, before.bufferTxMeta, before.announced, written⟩
        · show CarriesPacket (update handed.buffers given _ index) _
          rw [update_of_ne same]
          exact carries.packet index other isCarried

/-- A buffer is taken, and its complete packet is handed over. -/
theorem phySteps_handOver
    {buffer : BufferTx Sample}
    (k : Nat)
    (isFree : (handed.buffers index).lock.inner = false)
    (sameMeta : buffer.bufferTxMeta = (handed.buffers index).bufferTxMeta)
    (taken : buffer.lock = ⟨true, false⟩)
    (announced : buffer.txLengthSamples = (queue.packet k).samples.length)
    (written :
      TxSystem.Holds buffer (queue.packet k) buffer.txLengthSamplesCnt)
    (pending : transmitted ≤ k)
    (once : ∀ other, handed.carried other ≠ some k)
    (due :
      ∀ earlier, transmitted ≤ earlier → earlier < k →
        orderId queue.packet earlier ≠ orderId queue.packet k) :
    PhyStep queue transmitted handed
        { handed with buffers := update handed.buffers index buffer } ∧
      PhyStep queue transmitted
        { handed with buffers := update handed.buffers index buffer }
        { buffers :=
            update (update handed.buffers index buffer) index
              { buffer with
                lock := ⟨true, true⟩
                bufferTxMeta := (queue.packet k).bufferTxMeta }
          carried := update handed.carried index (some k) } := by
  have stays : buffer.lock.inner = false := by rw [taken]
  refine ⟨.prepare buffer isFree stays sameMeta,
      .handOver k ?_ ?_ ?_ pending once due⟩
  · dsimp only
    rw [update_self]
    exact announced
  · dsimp only
    rw [update_self]
    exact written
  · dsimp only
    rw [update_self]
    unfold BufferTx.setTransmittable
    rw [taken]
    rfl

/-- The transmit thread can wait for samples of the packet. -/
theorem Carries.waits
    (carries : handed.Carries queue transmitted)
    {k count : Nat}
    (isCarried : handed.carried index = some k)
    (inside : count ≤ (queue.packet k).samples.length) :
    ∃ available,
      (handed.buffers index).waitForSamplesBusyNto count = .ok available := by
  unfold BufferTx.waitForSamplesBusyNto
  rw [(carries.packet index k isCarried).announced, decide_eq_true inside]
  exact ⟨_, rfl⟩

/-- The samples that it has waited for are those of the packet. -/
theorem Carries.reads
    (carries : handed.Carries queue transmitted)
    {k count : Nat}
    (isCarried : handed.carried index = some k)
    (waited : (handed.buffers index).waitForSamplesBusyNto count = .ok true)
    (offset : Nat) :
    ∃ antStreamsOffset,
      (handed.buffers index).getAntStreamsOffset offset =
        .ok antStreamsOffset ∧
      ∀ position, offset + position < count →
        (queue.packet k).samples[offset + position]? =
          some (antStreamsOffset position) := by
  have isPacket := carries.packet index k isCarried
  obtain ⟨-, published⟩ := BufferTx.waitForSamplesBusyNto_eq_ok waited
  refine
    ⟨fun position => (handed.buffers index).antStreams (offset + position),
      ?_, ?_⟩
  · unfold BufferTx.getAntStreamsOffset
    rw [isPacket.lock]
    rfl
  · intro position inside
    exact isPacket.written _ (Nat.lt_of_lt_of_le inside published)

/-- The packet is what the buffer contains once it is complete. -/
theorem Carries.content
    (carries : handed.Carries queue transmitted)
    (isCarried : handed.carried index = some k)
    (complete :
      (queue.packet k).samples.length ≤
        (handed.buffers index).txLengthSamplesCnt) :
    (⟨(handed.buffers index).bufferTxMeta,
        (List.range (handed.buffers index).txLengthSamples).map
          (handed.buffers index).antStreams⟩ : Packet Sample) =
      queue.packet k := by
  have isPacket := carries.packet index k isCarried
  rw [isPacket.bufferTxMeta, isPacket.announced]
  have samples : (List.range (queue.packet k).samples.length).map
      (handed.buffers index).antStreams = (queue.packet k).samples := by
    apply List.ext_getElem?
    intro position
    by_cases inside : position < (queue.packet k).samples.length
    · rw [isPacket.written position
        (Nat.lt_of_lt_of_le inside complete), List.getElem?_map,
        List.getElem?_range inside]
      rfl
    · rw [List.getElem?_eq_none (Nat.le_of_not_lt inside),
        List.getElem?_eq_none]
      rw [List.length_map, List.length_range]
      exact Nat.le_of_not_lt inside
  rw [samples]

/-- The other buffers are not given back. -/
theorem carried_release
    {index other : Fin nofBufferTx}
    (returned : handed.release index = .ok after)
    (differs : other ≠ index) :
    after.carried other = handed.carried other := by
  obtain ⟨_, -, returned⟩ := Checked.bind_eq_ok.mp returned
  cases returned
  exact update_of_ne differs _ _

/-- The next packet is given back, and the one behind it is due. -/
theorem Carries.release
    (carries : handed.Carries queue transmitted)
    (isCarried : handed.carried index = some transmitted) :
    ∃ after,
      handed.release index = .ok after ∧
      after.Carries queue (transmitted + 1) ∧
      (after.buffers index).lock.inner = false ∧
      (after.buffers index).bufferTxMeta.txOrderIdExpectNext =
        (queue.packet transmitted).bufferTxMeta.txOrderIdExpectNext := by
  have isPacket := carries.packet index transmitted isCarried
  have others : ∀ other k, other ≠ index → handed.carried other = some k →
      transmitted + 1 ≤ k := by
    intro other k differs alsoCarried
    refine Nat.lt_of_le_of_ne (carries.pending other k alsoCarried) ?_
    rintro rfl
    exact differs (carries.once other index transmitted alsoCarried isCarried)
  refine
    ⟨{ buffers :=
        update handed.buffers index (handed.buffers index).givenBack
       carried := update handed.carried index none },
      ?_, ?_, ?_, ?_⟩
  · unfold Handed.release
    rw [BufferTx.setTransmittedOrAbort_eq_ok isPacket.lock]
    rfl
  · constructor
    · intro other isHidden
      by_cases same : other = index
      · subst same
        simp only [update_self]
        rfl
      · simp only [update_of_ne same] at isHidden ⊢
        exact carries.hidden other isHidden
    · intro other k stillCarried
      by_cases same : other = index
      · subst same
        simp only [update_self] at stillCarried
        cases stillCarried
      · simp only [update_of_ne same] at stillCarried ⊢
        exact carries.packet other k stillCarried
    · intro first second k isFirst isSecond
      by_cases same : first = index
      · subst same
        simp only [update_self] at isFirst
        cases isFirst
      · by_cases again : second = index
        · subst again
          simp only [update_self] at isSecond
          cases isSecond
        · simp only [update_of_ne same, update_of_ne again] at isFirst isSecond
          exact carries.once first second k isFirst isSecond
    · intro other k stillCarried
      by_cases same : other = index
      · subst same
        simp only [update_self] at stillCarried
        cases stillCarried
      · simp only [update_of_ne same] at stillCarried
        exact others other k same stillCarried
    · intro other k stillCarried earlier notBefore
      by_cases same : other = index
      · subst same
        simp only [update_self] at stillCarried
        cases stillCarried
      · simp only [update_of_ne same] at stillCarried
        exact carries.due other k stillCarried earlier
          (Nat.le_of_succ_le notBefore)
  · simp only [update_self]
    rfl
  · simp only [update_self]
    rw [← isPacket.bufferTxMeta]
    rfl

end Carries

end Handed

end Radio

end DectNrp
