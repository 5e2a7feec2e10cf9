import DectNrp.Octets
import DectNrp.RingBuffer

namespace DectNrp

/-!
# Queue of datagrams

Applications and the firmware exchange datagrams by queues.  Each slot of a queue
holds the octets of one datagram, and one slot always stays free.
-/

/-- Slots of datagrams and their sizes, and the two positions. -/
structure DatagramQueue where
  nDatagram : Nat
  nDatagramMaxByte : Nat
  wIdx : Nat
  rIdx : Nat
  datagramVec : Nat → List UInt8
  wIdx_lt : wIdx < nDatagram
  rIdx_lt : rIdx < nDatagram

namespace DatagramQueue

/-- An empty queue. -/
def new
    (nDatagram nDatagramMaxByte : Nat)
    (positive : 0 < nDatagram) :
    DatagramQueue where
  nDatagram := nDatagram
  nDatagramMaxByte := nDatagramMaxByte
  wIdx := 0
  rIdx := 0
  datagramVec _ := []
  wIdx_lt := positive
  rIdx_lt := positive

/-- Number of free slots, one slot is never filled. -/
def getFree (queue : DatagramQueue) : Nat :=
  if queue.wIdx < queue.rIdx then
    queue.rIdx - queue.wIdx - 1
  else
    queue.rIdx + queue.nDatagram - queue.wIdx - 1

/-- Number of filled slots. -/
def getUsed (queue : DatagramQueue) : Nat :=
  if queue.rIdx ≤ queue.wIdx then
    queue.wIdx - queue.rIdx
  else
    queue.wIdx + queue.nDatagram - queue.rIdx

theorem nDatagram_pos (queue : DatagramQueue) :
    0 < queue.nDatagram :=
  Nat.zero_lt_of_lt queue.wIdx_lt

/-- Write a datagram and return its size, or zero if no slot is free. -/
def writeNto
    (queue : DatagramQueue)
    (datagram : List UInt8) :
    Checked (Nat × DatagramQueue) :=
  if queue.getFree = 0 then
    .ok (0, queue)
  else do
    dectnrpAssert (datagram.length ≤ queue.nDatagramMaxByte) "too large"
    pure (datagram.length, { queue with
      datagramVec :=
        Function.update queue.datagramVec queue.wIdx datagram
      wIdx := (queue.wIdx + 1) % queue.nDatagram
      wIdx_lt := Nat.mod_lt _ queue.nDatagram_pos })

/-- Read the oldest datagram; nothing is read from an empty queue. -/
def readNto (queue : DatagramQueue) : List UInt8 × DatagramQueue :=
  if queue.getUsed = 0 then
    ([], queue)
  else
    (queue.datagramVec queue.rIdx, { queue with
      rIdx := (queue.rIdx + 1) % queue.nDatagram
      rIdx_lt := Nat.mod_lt _ queue.nDatagram_pos })

/-- Most datagrams whose sizes are reported. -/
def applicationMaxQueueLevelReported : Nat := 8

/-- Sizes of a number of datagrams from a slot on. -/
def levelsFrom (queue : DatagramQueue) : Nat → Nat → List Nat
  | 0, _ => []
  | n + 1, rIdxCpy =>
      (queue.datagramVec rIdxCpy).length ::
        levelsFrom queue n ((rIdxCpy + 1) % queue.nDatagram)

/-- Sizes of the oldest datagrams. -/
def getQueueLevelNto
    (queue : DatagramQueue)
    (n : Nat) :
    Checked (List Nat) := do
  dectnrpAssert (n ≤ applicationMaxQueueLevelReported)
    "number of levels for reporting is limited"
  pure (queue.levelsFrom (min n queue.getUsed) queue.rIdx)

/-- Datagrams in the queue, the oldest first. -/
def datagrams (queue : DatagramQueue) : List (List UInt8) :=
  RingBuffer.contents queue.nDatagram queue.rIdx queue.getUsed
    queue.datagramVec

theorem getUsed_eq_used (queue : DatagramQueue) :
    queue.getUsed = RingBuffer.used queue.nDatagram queue.rIdx queue.wIdx :=
  rfl

/-- Slots are free, filled, or the one that is never filled. -/
theorem getFree_add_getUsed (queue : DatagramQueue) :
    queue.getFree + queue.getUsed + 1 = queue.nDatagram := by
  have wInside := queue.wIdx_lt
  have rInside := queue.rIdx_lt
  rw [getFree, getUsed]
  split <;> split <;> omega

@[simp] theorem length_datagrams (queue : DatagramQueue) :
    queue.datagrams.length = queue.getUsed := by
  simp [datagrams, RingBuffer.contents]

/-- A datagram is dropped if the queue is full, and is the last one else. -/
theorem writeNto_eq_ok
    {queue after : DatagramQueue}
    {datagram : List UInt8}
    {written : Nat}
    (returned : queue.writeNto datagram = .ok (written, after)) :
    (queue.getFree = 0 ∧ written = 0 ∧ after = queue) ∨
      (queue.getFree ≠ 0 ∧ written = datagram.length ∧
        after.datagrams = queue.datagrams ++ [datagram] ∧
        after.nDatagram = queue.nDatagram) := by
  rw [writeNto] at returned
  by_cases full : queue.getFree = 0
  · rw [if_pos full] at returned
    cases returned
    exact .inl ⟨full, rfl, rfl⟩
  · rw [if_neg full] at returned
    obtain ⟨_, -, returned⟩ := Checked.bind_eq_ok.mp returned
    cases returned
    refine .inr ⟨full, rfl, ?_, rfl⟩
    have slots := queue.getFree_add_getUsed
    have used : RingBuffer.used queue.nDatagram queue.rIdx queue.wIdx + 1 <
        queue.nDatagram := by
      rw [← getUsed_eq_used]
      omega
    have usedAfter :=
      RingBuffer.used_next_writing queue.rIdx_lt queue.wIdx_lt used
    have position := RingBuffer.reading_add_used queue.rIdx_lt queue.wIdx_lt
    unfold datagrams
    rw [getUsed_eq_used, getUsed_eq_used]
    have appended :=
      RingBuffer.contents_write queue.rIdx_lt
        (Nat.lt_of_succ_lt used) queue.datagramVec datagram
    rw [position] at appended
    dsimp only
    rw [usedAfter]
    exact appended

/-- Reading removes the oldest datagram. -/
theorem readNto_eq (queue : DatagramQueue) :
    queue.readNto.1 = queue.datagrams.headD [] ∧
      queue.readNto.2.datagrams = queue.datagrams.tail ∧
      queue.readNto.2.nDatagram = queue.nDatagram := by
  rw [readNto]
  by_cases empty : queue.getUsed = 0
  · have noDatagrams : queue.datagrams = [] := by
      apply List.eq_nil_of_length_eq_zero
      rw [length_datagrams, empty]
    rw [if_pos empty, noDatagrams]
    exact ⟨rfl, rfl, rfl⟩
  · have filled :
        0 < RingBuffer.used queue.nDatagram queue.rIdx queue.wIdx :=
      Nat.pos_of_ne_zero empty
    have usedAfter :=
      RingBuffer.used_next_reading queue.rIdx_lt queue.wIdx_lt filled
    have whole : queue.datagrams = queue.datagramVec queue.rIdx ::
        RingBuffer.contents queue.nDatagram
          ((queue.rIdx + 1) % queue.nDatagram)
          (RingBuffer.used queue.nDatagram
            ((queue.rIdx + 1) % queue.nDatagram) queue.wIdx)
          queue.datagramVec := by
      rw [datagrams, getUsed_eq_used, ← usedAfter,
        RingBuffer.contents_read, Nat.mod_eq_of_lt queue.rIdx_lt]
    rw [if_neg empty, whole]
    exact ⟨rfl, rfl, rfl⟩

theorem levelsFrom_eq
    (queue : DatagramQueue)
    (n : Nat)
    {rIdxCpy : Nat}
    (inside : rIdxCpy < queue.nDatagram) :
    queue.levelsFrom n rIdxCpy =
      (RingBuffer.contents queue.nDatagram rIdxCpy n
        queue.datagramVec).map List.length := by
  induction n generalizing rIdxCpy with
  | zero => rfl
  | succ n hypothesis =>
      rw [levelsFrom, RingBuffer.contents_read, List.map_cons,
        Nat.mod_eq_of_lt inside,
        hypothesis (Nat.mod_lt _ queue.nDatagram_pos)]

/-- The reported sizes are those of the oldest datagrams. -/
theorem getQueueLevelNto_eq_ok
    {queue : DatagramQueue}
    {n : Nat}
    {levels : List Nat}
    (reported : queue.getQueueLevelNto n = .ok levels) :
    levels = (queue.datagrams.take n).map List.length ∧
      n ≤ applicationMaxQueueLevelReported := by
  obtain ⟨_, limited, returned⟩ := Checked.bind_eq_ok.mp reported
  have few := of_decide_eq_true (dectnrpAssert_eq_ok.mp limited)
  cases returned
  refine ⟨?_, few⟩
  rw [levelsFrom_eq queue _ queue.rIdx_lt, datagrams,
    RingBuffer.contents, RingBuffer.contents, ← List.map_take,
    List.take_range]

end DatagramQueue

end DectNrp
