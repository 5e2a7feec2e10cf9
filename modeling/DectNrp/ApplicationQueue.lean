import DectNrp.BoundedFifo
import DectNrp.CheckedRuns
import DectNrp.DatagramQueue

namespace DectNrp

/-!
# Queue of an application

The slots of a queue are buffers of a fixed size, and the sizes of the
datagrams in them are kept apart.  Every call locks the queue.  Some calls wait
for the lock, others do nothing if they do not get it at once.

The calls of a run come one after the other, so that the lock is free whenever
one of them starts.
-/

/-- Buffers, sizes of the datagrams in them, the two positions and the lock. -/
structure ApplicationQueue where
  nDatagram : Nat
  nDatagramMaxByte : Nat
  wIdx : Nat
  rIdx : Nat
  lockv : Bool
  datagramVec : Nat → Memory
  datagramLevelVec : Nat → Nat
  wIdx_lt : wIdx < nDatagram
  rIdx_lt : rIdx < nDatagram

/-- Number of reported sizes, and the sizes with zeros behind them. -/
structure QueueLevel where
  nFilled : Nat
  levels : List Nat
  deriving Repr, DecidableEq

namespace ApplicationQueue

/-- A report about no datagram. -/
def noLevel : QueueLevel where
  nFilled := 0
  levels :=
    List.replicate DatagramQueue.applicationMaxQueueLevelReported 0

/-- An empty queue over buffers that may hold anything. -/
def new
    (nDatagram nDatagramMaxByte : Nat)
    (positive : 0 < nDatagram)
    (memory : Nat → Memory) :
    ApplicationQueue where
  nDatagram := nDatagram
  nDatagramMaxByte := nDatagramMaxByte
  wIdx := 0
  rIdx := 0
  lockv := false
  datagramVec := memory
  datagramLevelVec _ := 0
  wIdx_lt := positive
  rIdx_lt := positive

def getFree (queue : ApplicationQueue) : Nat :=
  if queue.wIdx < queue.rIdx then
    queue.rIdx - queue.wIdx - 1
  else
    queue.rIdx + queue.nDatagram - queue.wIdx - 1

def getUsed (queue : ApplicationQueue) : Nat :=
  if queue.rIdx ≤ queue.wIdx then
    queue.wIdx - queue.rIdx
  else
    queue.wIdx + queue.nDatagram - queue.rIdx

theorem nDatagram_pos (queue : ApplicationQueue) :
    0 < queue.nDatagram :=
  Nat.zero_lt_of_lt queue.wIdx_lt

def writeUnderLock
    (queue : ApplicationQueue)
    (inp : List UInt8) :
    Checked (Nat × ApplicationQueue) :=
  if queue.getFree = 0 then
    .ok (0, queue)
  else do
    dectnrpAssert (inp.length ≤ queue.nDatagramMaxByte) "too large"
    pure (inp.length, { queue with
      datagramVec :=
        Function.update queue.datagramVec queue.wIdx
          ((queue.datagramVec queue.wIdx).write 0 inp)
      datagramLevelVec :=
        Function.update queue.datagramLevelVec queue.wIdx inp.length
      wIdx := (queue.wIdx + 1) % queue.nDatagram
      wIdx_lt := Nat.mod_lt _ queue.nDatagram_pos })

/-- The datagram is only dropped if there is no memory for it. -/
def readUnderLock
    (queue : ApplicationQueue)
    (dst : Option Memory) :
    (Nat × Option Memory) × ApplicationQueue :=
  if queue.getUsed = 0 then
    ((0, dst), queue)
  else
    let n := queue.datagramLevelVec queue.rIdx
    let dst :=
      dst.map fun memory =>
        memory.write 0 ((queue.datagramVec queue.rIdx).window 0 n)
    ((n, dst), { queue with
      rIdx := (queue.rIdx + 1) % queue.nDatagram
      rIdx_lt := Nat.mod_lt _ queue.nDatagram_pos })

/-- Sizes of a number of datagrams from a slot on. -/
def fillLevels (queue : ApplicationQueue) : Nat → Nat → List Nat
  | 0, _ => []
  | n + 1, rIdxCpy =>
      queue.datagramLevelVec rIdxCpy ::
        fillLevels queue n ((rIdxCpy + 1) % queue.nDatagram)

def getQueueLevelUnderLock
    (queue : ApplicationQueue)
    (n : Nat) :
    Checked QueueLevel := do
  dectnrpAssert (n ≤ DatagramQueue.applicationMaxQueueLevelReported)
    "number of levels for reporting is limited"
  let nFilled := min n queue.getUsed
  pure
    { nFilled := nFilled
      levels :=
        queue.fillLevels nFilled queue.rIdx ++
          List.replicate
            (DatagramQueue.applicationMaxQueueLevelReported - nFilled)
            0 }

/-- Wait for the lock without a timeout, or try to get it once. -/
inductive Locking where
  | nto
  | try_
  deriving Repr, DecidableEq

inductive Call where
  | write (locking : Locking) (inp : List UInt8)
  /-- The datagram may be read without copying it. -/
  | read (locking : Locking) (dst : Option Memory)
  | getQueueLevel (locking : Locking) (n : Nat)
  | clear

inductive Answer where
  | written (n : Nat)
  | read (n : Nat) (dst : Option Memory)
  | queueLevel (queueLevel : QueueLevel)
  | cleared

/-- Lock, do something and unlock.  Waiting for one's own lock never ends. -/
def locked
    (queue : ApplicationQueue)
    (locking : Locking)
    (refused : Answer)
    (underLock :
      ApplicationQueue → Checked (Answer × ApplicationQueue)) :
    Checked (Answer × ApplicationQueue) :=
  if queue.lockv then
    match locking with
    | .nto => .error (.assertion "lock is held by the caller")
    | .try_ => .ok (refused, queue)
  else do
    let (answer, after) ← underLock { queue with lockv := true }
    pure (answer, { after with lockv := false })

def call (queue : ApplicationQueue) : Call → Checked (Answer × ApplicationQueue)
  | .write locking inp =>
      queue.locked locking (.written 0) fun queue => do
        let (wRet, queue) ← queue.writeUnderLock inp
        pure (.written wRet, queue)
  | .read locking dst =>
      queue.locked locking (.read 0 dst) fun queue =>
        let ((rRet, dst), queue) := queue.readUnderLock dst
        .ok (.read rRet dst, queue)
  | .getQueueLevel locking n =>
      queue.locked locking (.queueLevel noLevel) fun queue => do
        let ret ← queue.getQueueLevelUnderLock n
        pure (.queueLevel ret, queue)
  | .clear =>
      queue.locked .nto .cleared fun queue =>
        .ok (.cleared, { queue with
          wIdx := 0
          rIdx := 0
          wIdx_lt := queue.nDatagram_pos
          rIdx_lt := queue.nDatagram_pos })

/-- The queue after a call. -/
def after
    (queue : ApplicationQueue)
    (called : Call) :
    Checked ApplicationQueue := do
  let (_, after) ← queue.call called
  pure after

/-- The queue of the octets that count. -/
def datagramQueue (queue : ApplicationQueue) : DatagramQueue where
  nDatagram := queue.nDatagram
  nDatagramMaxByte := queue.nDatagramMaxByte
  wIdx := queue.wIdx
  rIdx := queue.rIdx
  datagramVec index :=
    (queue.datagramVec index).window 0 (queue.datagramLevelVec index)
  wIdx_lt := queue.wIdx_lt
  rIdx_lt := queue.rIdx_lt

/-- Datagrams in the queue, the oldest first. -/
def contents (queue : ApplicationQueue) : List (List UInt8) :=
  queue.datagramQueue.datagrams

/-- The queue has room for one datagram less than it has slots. -/
def capacity (queue : ApplicationQueue) : Nat :=
  queue.nDatagram - 1

/--
What a bounded queue answers and keeps.  A datagram is written completely with
a positive answer, or it is refused with zero.  Zero is only read from an empty
queue, and all of the oldest datagram is copied to where there is memory for
it.
-/
def Answers
    (capacity : Nat)
    (contents : List (List UInt8)) :
    Call → Answer → List (List UInt8) → Prop
  | .write _ inp, .written n, contentsAfter =>
      contentsAfter = BoundedFifo.push capacity contents inp ∧
        (contentsAfter = contents ++ [inp] ∧ 0 < n ∨
          contentsAfter = contents ∧ n = 0)
  | .read _ dst, .read n dstAfter, contentsAfter =>
      contentsAfter = contents.tail ∧
        n = (contents.headD []).length ∧
        dstAfter = dst.map (·.write 0 (contents.headD [])) ∧
        (n = 0 → contents = [])
  | .getQueueLevel _ n, .queueLevel queueLevel, contentsAfter =>
      contentsAfter = contents ∧
        queueLevel.nFilled = min n contents.length ∧
        queueLevel.levels.take queueLevel.nFilled =
          (contents.take n).map List.length
  | .clear, .cleared, contentsAfter =>
      contentsAfter = []
  | _, _, _ => False

/-- A call does what it does to the bounded queue. -/
def RefinesCall
    (queue : ApplicationQueue)
    (called : Call) :
    Prop :=
  match queue.call called with
  | .ok (answer, after) =>
      after.capacity = queue.capacity ∧
        Answers queue.capacity queue.contents called answer after.contents
  | .error _ => False

/-- Datagrams and reports are as large as they may be. -/
def Admitted
    (queue : ApplicationQueue) :
    Call → Prop
  | .write _ inp => inp.length ≤ queue.nDatagramMaxByte
  | .getQueueLevel _ n =>
      n ≤ DatagramQueue.applicationMaxQueueLevelReported
  | _ => True

/-- No empty datagram is written where there is room for it. -/
def StoresOctets
    (queue : ApplicationQueue) :
    Call → Prop
  | .write _ inp => inp = [] → queue.contents.length = queue.capacity
  | _ => True

section

variable {queue : ApplicationQueue}

theorem capacity_eq (queue : ApplicationQueue) :
    queue.getFree + queue.contents.length = queue.capacity := by
  have split := queue.datagramQueue.getFree_add_getUsed
  have isLength := queue.datagramQueue.length_datagrams
  have sameFree : queue.datagramQueue.getFree = queue.getFree := rfl
  have sameSlots : queue.datagramQueue.nDatagram = queue.nDatagram := rfl
  unfold contents capacity
  omega

theorem writeUnderLock_of_room
    {inp : List UInt8}
    (room : queue.getFree ≠ 0)
    (few : inp.length ≤ queue.nDatagramMaxByte) :
    ∃ after,
      queue.writeUnderLock inp = .ok (inp.length, after) ∧
        after.contents = queue.contents ++ [inp] ∧
        after.nDatagram = queue.nDatagram := by
  unfold writeUnderLock
  rw [if_neg room, decide_eq_true few, dectnrpAssert_true, Checked.ok_bind]
  refine ⟨_, rfl, ?_, rfl⟩
  generalize isAfter : ApplicationQueue.mk _ _ _ _ _ _ _ _ _ = after
  have written : queue.datagramQueue.writeNto inp =
      .ok (inp.length, after.datagramQueue) := by
    unfold DatagramQueue.writeNto
    rw [if_neg (show ¬queue.datagramQueue.getFree = 0 from room),
      show decide (inp.length ≤ queue.datagramQueue.nDatagramMaxByte) =
          true from decide_eq_true few,
      dectnrpAssert_true, Checked.ok_bind, ← isAfter]
    unfold datagramQueue
    dsimp only
    congr 3
    funext index
    by_cases isSlot : index = queue.wIdx
    · rw [isSlot, Function.update_self, Function.update_self,
        Function.update_self, Memory.window_write]
    · rw [Function.update_of_ne isSlot, Function.update_of_ne isSlot,
        Function.update_of_ne isSlot]
  obtain ⟨full, -⟩ | ⟨-, -, appended, -⟩ :=
    DatagramQueue.writeNto_eq_ok written
  · exact absurd full room
  · exact appended

theorem readUnderLock_eq
    (queue : ApplicationQueue)
    (dst : Option Memory) :
    (queue.readUnderLock dst).1 =
        ((queue.contents.headD []).length,
          dst.map (·.write 0 (queue.contents.headD []))) ∧
      (queue.readUnderLock dst).2.contents = queue.contents.tail ∧
      (queue.readUnderLock dst).2.nDatagram = queue.nDatagram := by
  obtain ⟨oldest, others, -⟩ := queue.datagramQueue.readNto_eq
  rw [DatagramQueue.readNto] at oldest others
  by_cases empty : queue.getUsed = 0
  · have isEmpty : queue.datagramQueue.getUsed = 0 := empty
    have noDatagram : queue.contents = [] := by
      apply List.eq_nil_of_length_eq_zero
      exact queue.datagramQueue.length_datagrams.trans isEmpty
    rw [readUnderLock, if_pos empty, noDatagram]
    refine ⟨?_, rfl, rfl⟩
    cases dst with
    | none => rfl
    | some memory =>
        have unchanged : memory.write 0 [] = memory := by
          funext address
          simp [Memory.write]
        rw [List.headD_nil, Option.map_some, unchanged]
        rfl
  · have notEmpty : ¬queue.datagramQueue.getUsed = 0 := empty
    rw [if_neg notEmpty] at oldest others
    have isOldest : (queue.datagramVec queue.rIdx).window 0
        (queue.datagramLevelVec queue.rIdx) = queue.contents.headD [] :=
      oldest
    rw [readUnderLock, if_neg empty, ← isOldest, Memory.window_length]
    exact ⟨rfl, others, rfl⟩

theorem fillLevels_eq
    (queue : ApplicationQueue)
    (n rIdxCpy : Nat) :
    queue.fillLevels n rIdxCpy = queue.datagramQueue.levelsFrom n rIdxCpy := by
  induction n generalizing rIdxCpy with
  | zero => rfl
  | succ n hypothesis =>
      rw [fillLevels, DatagramQueue.levelsFrom, hypothesis]
      congr 1
      exact (Memory.window_length _ _ _).symm

theorem getQueueLevelUnderLock_eq
    {n : Nat}
    (few : n ≤ DatagramQueue.applicationMaxQueueLevelReported) :
    ∃ queueLevel,
      queue.getQueueLevelUnderLock n = .ok queueLevel ∧
        queueLevel.nFilled = min n queue.contents.length ∧
        queueLevel.levels.take queueLevel.nFilled =
          (queue.contents.take n).map List.length := by
  have isLength : queue.getUsed = queue.contents.length :=
    queue.datagramQueue.length_datagrams.symm
  have reported : queue.datagramQueue.getQueueLevelNto n =
      .ok (queue.fillLevels (min n queue.contents.length) queue.rIdx) := by
    unfold DatagramQueue.getQueueLevelNto
    rw [decide_eq_true few, dectnrpAssert_true, Checked.ok_bind,
      ← isLength, fillLevels_eq]
    rfl
  have levels := (DatagramQueue.getQueueLevelNto_eq_ok reported).1
  have isFilled : (queue.fillLevels (min n queue.contents.length)
      queue.rIdx).length = min n queue.contents.length := by
    rw [levels, List.length_map, List.length_take]
    rfl
  unfold getQueueLevelUnderLock
  rw [decide_eq_true few, dectnrpAssert_true, Checked.ok_bind, isLength]
  refine ⟨_, rfl, rfl, ?_⟩
  dsimp only
  rw [List.take_append_of_le_length (Nat.le_of_eq isFilled.symm),
    List.take_of_length_le (Nat.le_of_eq isFilled)]
  exact levels

/-- The lock is free and no empty datagram is stored. -/
structure Invariant (queue : ApplicationQueue) : Prop where
  unlocked : queue.lockv = false
  someOctets : ∀ datagram ∈ queue.contents, datagram ≠ []

/-- The lock is taken and released around what is done. -/
theorem locked_of_unlocked
    (unlocked : queue.lockv = false)
    (locking : Locking)
    (refused : Answer)
    (underLock : ApplicationQueue → Checked (Answer × ApplicationQueue)) :
    queue.locked locking refused underLock =
      (do
        let (answer, after) ← underLock { queue with lockv := true }
        pure (answer, { after with lockv := false })) := by
  unfold locked
  rw [unlocked, if_neg Bool.false_ne_true]

variable {after : ApplicationQueue}

theorem unlocked_of_locked
    (unlocked : queue.lockv = false)
    {locking : Locking}
    {refused answer : Answer}
    {underLock : ApplicationQueue → Checked (Answer × ApplicationQueue)}
    (returned : queue.locked locking refused underLock = .ok (answer, after)) :
    after.lockv = false := by
  rw [locked_of_unlocked unlocked] at returned
  obtain ⟨inner, -, isInner⟩ := Checked.bind_eq_ok.mp returned
  cases isInner
  rfl

theorem Invariant.write_iff
    (invariant : queue.Invariant)
    {locking : Locking}
    {inp : List UInt8}
    (admitted : queue.Admitted (.write locking inp)) :
    queue.RefinesCall (.write locking inp) ↔
      queue.StoresOctets (.write locking inp) := by
  have split := queue.capacity_eq
  unfold RefinesCall StoresOctets
  dsimp only [call]
  rw [locked_of_unlocked invariant.unlocked]
  by_cases full : queue.getFree = 0
  · have isFull : queue.contents.length = queue.capacity := by omega
    have refused :
        ({ queue with lockv := true } : ApplicationQueue).writeUnderLock inp =
          .ok (0, { queue with lockv := true }) :=
      if_pos full
    rw [refused]
    refine iff_of_true ⟨rfl, ?_⟩ fun _ => isFull
    exact ⟨(BoundedFifo.push_of_full isFull inp).symm, .inr ⟨rfl, rfl⟩⟩
  · have room : queue.contents.length < queue.capacity := by omega
    obtain ⟨after, written, appended, sameSlots⟩ :=
      @writeUnderLock_of_room { queue with lockv := true } inp full admitted
    have appended : after.contents = queue.contents ++ [inp] := appended
    rw [written]
    constructor
    · rintro ⟨-, -, ⟨-, positive⟩ | ⟨same, -⟩⟩ isEmpty
      · rw [isEmpty] at positive
        cases positive
      · refine absurd ?_ (BoundedFifo.push_ne room inp)
        rw [BoundedFifo.push_of_room room, ← appended]
        exact same
    · intro stores
      have someOctet : 0 < inp.length := by
        refine List.length_pos_iff.mpr fun isEmpty => ?_
        have isFull := stores isEmpty
        omega
      refine ⟨congrArg (· - 1) sameSlots, ?_, .inl ⟨appended, someOctet⟩⟩
      rw [BoundedFifo.push_of_room room]
      exact appended

/-- All other calls do what they should. -/
theorem Invariant.refinesCall_iff
    (invariant : queue.Invariant)
    {called : Call}
    (admitted : queue.Admitted called) :
    queue.RefinesCall called ↔ queue.StoresOctets called := by
  cases called with
  | write locking inp => exact invariant.write_iff admitted
  | read locking dst =>
      refine iff_of_true ?_ trivial
      obtain ⟨answered, others, sameSlots⟩ :=
        readUnderLock_eq { queue with lockv := true } dst
      unfold RefinesCall
      dsimp only [call]
      rw [locked_of_unlocked invariant.unlocked]
      generalize
        ({ queue with lockv := true } : ApplicationQueue).readUnderLock
          dst = read at *
      obtain ⟨⟨n, dstAfter⟩, after⟩ := read
      obtain ⟨isLength, isDst⟩ := Prod.mk.inj answered
      have isLength : n = (queue.contents.headD []).length := isLength
      refine ⟨congrArg (· - 1) sameSlots, others, isLength, isDst, ?_⟩
      intro isZero
      rw [show n = 0 from isZero] at isLength
      cases isContents : queue.contents with
      | nil => rfl
      | cons datagram datagrams =>
          have isEmpty : queue.contents.headD [] = [] :=
            List.eq_nil_of_length_eq_zero isLength.symm
          rw [isContents] at isEmpty
          refine absurd isEmpty (invariant.someOctets datagram ?_)
          rw [isContents]
          exact List.mem_cons_self
  | getQueueLevel locking n =>
      refine iff_of_true ?_ trivial
      obtain ⟨queueLevel, reported, isFilled, levels⟩ :=
        @getQueueLevelUnderLock_eq { queue with lockv := true } n admitted
      unfold RefinesCall
      dsimp only [call]
      rw [locked_of_unlocked invariant.unlocked, reported]
      exact ⟨rfl, rfl, isFilled, levels⟩
  | clear =>
      refine iff_of_true ?_ trivial
      unfold RefinesCall
      dsimp only [call]
      rw [locked_of_unlocked invariant.unlocked]
      exact ⟨rfl, rfl⟩

/-- A call that does what it should keeps the datagrams non-empty. -/
theorem Invariant.kept
    (invariant : queue.Invariant)
    {called : Call}
    (admitted : queue.Admitted called)
    (refines : queue.RefinesCall called)
    (returned : queue.after called = .ok after) :
    after.Invariant := by
  have stores := (invariant.refinesCall_iff admitted).mp refines
  obtain ⟨⟨answer, other⟩, isCall, isAfter⟩ := Checked.bind_eq_ok.mp returned
  cases isAfter
  have unlocked : after.lockv = false := by
    cases called with
    | _ =>
        dsimp only [call] at isCall
        exact unlocked_of_locked invariant.unlocked isCall
  unfold RefinesCall at refines
  rw [isCall] at refines
  obtain ⟨-, answers⟩ := refines
  refine ⟨unlocked, ?_⟩
  cases called with
  | write locking inp =>
      cases answer with
      | written n =>
          obtain ⟨isPushed, -⟩ := answers
          intro datagram member
          rw [isPushed] at member
          unfold BoundedFifo.push at member
          split at member
          · rename_i room
            rcases List.mem_append.mp member with stored | isNew
            · exact invariant.someOctets datagram stored
            · rw [List.mem_singleton.mp isNew]
              intro isEmpty
              exact absurd (stores isEmpty) (Nat.ne_of_lt room)
          · exact invariant.someOctets datagram member
      | _ => exact answers.elim
  | read locking dst =>
      cases answer with
      | read n dstAfter =>
          intro datagram member
          rw [answers.1] at member
          exact invariant.someOctets datagram (List.mem_of_mem_tail member)
      | _ => exact answers.elim
  | getQueueLevel locking n =>
      cases answer with
      | queueLevel queueLevel =>
          intro datagram member
          rw [answers.1] at member
          exact invariant.someOctets datagram member
      | _ => exact answers.elim
  | clear =>
      cases answer with
      | cleared =>
          intro datagram member
          rw [show after.contents = [] from answers] at member
          cases member
      | _ => exact answers.elim

end

/--
A queue with any number of slots behaves as a bounded queue in a run exactly if
no empty datagram is stored in it.
-/
theorem applicationQueue_refinesFifo_iff
    {nDatagram nDatagramMaxByte : Nat}
    (positive : 0 < nDatagram)
    (memory : Nat → Memory)
    (calls : List Call)
    (admitted :
      AlongRun after Admitted
        (new nDatagram nDatagramMaxByte positive memory) calls) :
    AlongRun after RefinesCall
        (new nDatagram nDatagramMaxByte positive memory) calls ↔
      AlongRun after StoresOctets
        (new nDatagram nDatagramMaxByte positive memory) calls :=
  alongRun_iff_while
    (fun invariant isAdmitted refines returned =>
      Invariant.kept invariant isAdmitted refines returned)
    (fun invariant isAdmitted => invariant.refinesCall_iff isAdmitted)
    ⟨rfl, fun _ => nofun⟩ admitted

instance (queue : ApplicationQueue) (call : Call) :
    Decidable (queue.Admitted call) :=
  match call with
  | .write _ inp => inferInstanceAs (Decidable (inp.length ≤ _))
  | .getQueueLevel _ n => inferInstanceAs (Decidable (n ≤ _))
  | .read .. | .clear => inferInstanceAs (Decidable True)

/-- The queue is full once, and the third datagram is stored behind its end. -/
theorem applicationQueue_refinesFifo_iff_twoSlots :
    let calls : List Call :=
      [.write .nto [7], .write .nto [8], .write .try_ [9], .read .nto none,
        .write .nto [9], .getQueueLevel .try_ 2, .read .nto none,
        .read .nto none]
    AlongRun after RefinesCall (new 2 4 (by decide) fun _ _ => 0) calls ↔
      AlongRun after StoresOctets (new 2 4 (by decide) fun _ _ => 0)
        calls := by
  refine applicationQueue_refinesFifo_iff (by decide) (fun _ _ => 0) _ ?_
  decide

/-- An empty datagram is stored, but the answer says that it is not. -/
theorem not_applicationQueue_refinesFifo :
    ¬AlongRun after RefinesCall
        (new 2 4 (by decide) fun _ _ => 0) [.write .nto []] := by
  rintro ⟨⟨-, -, ⟨-, positive⟩ | ⟨same, -⟩⟩, -⟩
  · cases positive
  · exact absurd same (by decide)

end ApplicationQueue

end DectNrp
