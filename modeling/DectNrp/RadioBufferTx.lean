import DectNrp.LockableOuterInner
import Mathlib.Data.List.FinRange
import Mathlib.Logic.Function.Basic

namespace DectNrp

/-!
# Transmit buffers of the radio

A buffer carries one packet from a thread of the physical layer to the transmit
thread of the radio.  The outer lock is held from the time at which the buffer
is handed out until its packet has been transmitted, the inner lock since the
packet may be transmitted.

One sample stands for the samples of all antennas at the same time.  The
notification counter is shared by all buffers of a pool, so that it belongs to
the threads and not to a buffer.
-/

open Checked (bind_eq_ok)

namespace Radio

/-- What the firmware tells the radio about a packet. -/
structure BufferTxMeta where
  /-- The first packet has order zero. -/
  txOrderId : Int := -1
  /-- Overwrites the next expected order if it is not negative. -/
  txOrderIdExpectNext : Int := -1
  /-- Transmission time of the first sample. -/
  txTime64 : Int := -1
  /-- Whether an adjustment is applied after the transmission. -/
  txPowerAdjDB : Bool := false
  rxPowerAdjDB : Bool := false
  /-- How long to wait for the next packet after this one. -/
  busyWaitUs : Nat := 0
  deriving Repr, DecidableEq

/-- A packet as it is meant to be transmitted. -/
structure Packet (Sample : Type) where
  bufferTxMeta : BufferTxMeta
  samples : List Sample

/-- A transmit buffer. -/
structure BufferTx (Sample : Type) where
  lock : LockableOuterInner
  antStreamsLengthSamples : Nat
  antStreams : Nat → Sample
  /-- Announced length of the packet. -/
  txLengthSamples : Nat
  /-- Number of samples that were published. -/
  txLengthSamplesCnt : Nat
  bufferTxMeta : BufferTxMeta

namespace BufferTx

variable {Sample : Type}

/-- A buffer that is not in use. -/
def new
    (antStreamsLengthSamples : Nat)
    (antStreams : Nat → Sample) :
    BufferTx Sample where
  lock := LockableOuterInner.unlocked
  antStreamsLengthSamples := antStreamsLengthSamples
  antStreams := antStreams
  txLengthSamples := 0
  txLengthSamplesCnt := 0
  bufferTxMeta := {}

/-- Take the outer lock unless it is held already. -/
def tryLockOuter
    (buffer : BufferTx Sample) :
    Checked (Bool × BufferTx Sample) := do
  let (locked, lock) ← buffer.lock.tryLockOuter
  pure (locked, { buffer with lock := lock })

/-- Announce the length of the packet and hand out the memory. -/
def getAntStreams
    (buffer : BufferTx Sample)
    (txLengthSamples : Nat) :
    Checked (BufferTx Sample) := do
  dectnrpAssert (buffer.lock.outer && !buffer.lock.inner)
    "incorrect lock state"
  dectnrpAssert (txLengthSamples ≤ buffer.antStreamsLengthSamples)
    "TX length longer than TX buffer"
  pure { buffer with txLengthSamples := txLengthSamples }

/-- First part of `set_transmittable`, before the counter is raised. -/
def setTransmittable
    (buffer : BufferTx Sample)
    (bufferTxMeta : BufferTxMeta) :
    Checked (BufferTx Sample) := do
  dectnrpAssert (buffer.lock.outer && !buffer.lock.inner)
    "incorrect lock state"
  let lock ← buffer.lock.lockInner
  pure { buffer with bufferTxMeta := bufferTxMeta, lock := lock }

/-- Publish samples. -/
def setTxLengthSamplesCnt
    (buffer : BufferTx Sample)
    (txLengthSamplesCnt : Nat) :
    Checked (BufferTx Sample) := do
  dectnrpAssert (txLengthSamplesCnt ≤ buffer.antStreamsLengthSamples)
    "TX length counter longer than TX buffer"
  pure { buffer with txLengthSamplesCnt := txLengthSamplesCnt }

/-- Whether the wait for a number of samples is over. -/
def waitForSamplesBusyNto
    (buffer : BufferTx Sample)
    (txLengthSamplesTarget : Nat) :
    Checked Bool := do
  dectnrpAssert (txLengthSamplesTarget ≤ buffer.txLengthSamples)
    "Announced less samples than waiting for"
  pure (txLengthSamplesTarget ≤ buffer.txLengthSamplesCnt)

/-- The samples from an offset on. -/
def getAntStreamsOffset
    (buffer : BufferTx Sample)
    (offset : Nat) :
    Checked (Nat → Sample) := do
  dectnrpAssert buffer.lock.isOuterLockedInnerLocked
    "incorrect lock state"
  pure fun index => buffer.antStreams (offset + index)

/-- Put the buffer into a state in which it can be locked anew. -/
def reset
    (buffer : BufferTx Sample) :
    Checked (BufferTx Sample) := do
  dectnrpAssert buffer.lock.isOuterLockedInnerLocked
    "incorrect lock state"
  pure
    { buffer with
      txLengthSamples := 0
      txLengthSamplesCnt := 0
      bufferTxMeta :=
        { buffer.bufferTxMeta with
          txOrderId := -1
          txTime64 := -1 } }

/-- Release the inner lock. -/
def unlockInner
    (buffer : BufferTx Sample) :
    Checked (BufferTx Sample) := do
  let lock ← buffer.lock.unlockInner
  pure { buffer with lock := lock }

/-- Release the outer lock. -/
def unlockOuter
    (buffer : BufferTx Sample) :
    Checked (BufferTx Sample) := do
  let lock ← buffer.lock.unlockOuter
  pure { buffer with lock := lock }

/-- First part of `set_transmitted_or_abort`, before the counter is lowered. -/
def setTransmittedOrAbort
    (buffer : BufferTx Sample) :
    Checked (BufferTx Sample) := do
  dectnrpAssert buffer.lock.isOuterLockedInnerLocked
    "incorrect lock state"
  let buffer ← buffer.reset
  let buffer ← buffer.unlockInner
  buffer.unlockOuter

variable {buffer after : BufferTx Sample}

theorem tryLockOuter_eq_ok
    {locked : Bool}
    (returned : buffer.tryLockOuter = .ok (locked, after)) :
    (locked = true ∧ buffer.lock = ⟨false, false⟩ ∧
        after = { buffer with lock := ⟨true, false⟩ }) ∨
      (locked = false ∧ buffer.lock.outer = true ∧ after = buffer) := by
  obtain ⟨⟨taken, lock⟩, inner, rest⟩ := bind_eq_ok.mp returned
  cases rest
  rcases LockableOuterInner.tryLockOuter_eq_ok inner with
    ⟨isTaken, isFree, isLocked⟩ | ⟨notTaken, inUse, same⟩
  · subst isTaken isLocked
    exact Or.inl ⟨rfl, isFree, rfl⟩
  · subst notTaken same
    exact Or.inr ⟨rfl, inUse, rfl⟩

theorem outerLocked_of_assert
    {lock : LockableOuterInner}
    {message : String}
    (passed : dectnrpAssert (lock.outer && !lock.inner) message = .ok ()) :
    lock = ⟨true, false⟩ := by
  have holds := dectnrpAssert_eq_ok.mp passed
  rw [Bool.and_eq_true, Bool.not_eq_true'] at holds
  rcases lock with ⟨outer, inner⟩
  rw [LockableOuterInner.mk.injEq]
  exact holds

theorem getAntStreams_eq_ok
    {txLengthSamples : Nat}
    (returned : buffer.getAntStreams txLengthSamples = .ok after) :
    buffer.lock = ⟨true, false⟩ ∧
      txLengthSamples ≤ buffer.antStreamsLengthSamples ∧
      after = { buffer with txLengthSamples := txLengthSamples } := by
  obtain ⟨_, isLocked, rest⟩ := bind_eq_ok.mp returned
  obtain ⟨_, fits, rest⟩ := bind_eq_ok.mp rest
  cases rest
  exact ⟨outerLocked_of_assert isLocked,
      of_decide_eq_true (dectnrpAssert_eq_ok.mp fits), rfl⟩

/-- A buffer that is filled gets its second lock. -/
theorem setTransmittable_eq_ok
    {bufferTxMeta : BufferTxMeta}
    (returned : buffer.setTransmittable bufferTxMeta = .ok after) :
    buffer.lock = ⟨true, false⟩ ∧
      after =
        { buffer with
          bufferTxMeta := bufferTxMeta
          lock := ⟨true, true⟩ } := by
  obtain ⟨_, _, rest⟩ := bind_eq_ok.mp returned
  obtain ⟨lock, locked, rest⟩ := bind_eq_ok.mp rest
  obtain ⟨isLocked, isBoth⟩ := LockableOuterInner.lockInner_eq_ok.mp locked
  cases rest
  subst isBoth
  exact ⟨isLocked, rfl⟩

theorem setTxLengthSamplesCnt_eq_ok
    {txLengthSamplesCnt : Nat}
    (returned : buffer.setTxLengthSamplesCnt txLengthSamplesCnt = .ok after) :
    after = { buffer with txLengthSamplesCnt := txLengthSamplesCnt } := by
  obtain ⟨_, _, rest⟩ := bind_eq_ok.mp returned
  cases rest
  rfl

variable {buffer : BufferTx Sample}

theorem waitForSamplesBusyNto_eq_ok
    {txLengthSamplesTarget : Nat}
    (returned :
      buffer.waitForSamplesBusyNto txLengthSamplesTarget = .ok true) :
    txLengthSamplesTarget ≤ buffer.txLengthSamples ∧
      txLengthSamplesTarget ≤ buffer.txLengthSamplesCnt := by
  obtain ⟨_, announced, rest⟩ := bind_eq_ok.mp returned
  exact ⟨of_decide_eq_true (dectnrpAssert_eq_ok.mp announced),
      of_decide_eq_true (Except.ok.inj rest)⟩

theorem getAntStreamsOffset_eq_ok
    {offset : Nat}
    {antStreamsOffset : Nat → Sample}
    (returned : buffer.getAntStreamsOffset offset = .ok antStreamsOffset) :
    antStreamsOffset = fun index => buffer.antStreams (offset + index) := by
  obtain ⟨_, _, rest⟩ := bind_eq_ok.mp returned
  cases rest
  rfl

theorem reset_eq_ok (returned : buffer.reset = .ok after) :
    after.lock = buffer.lock ∧
      after.txLengthSamples = 0 ∧
      after.txLengthSamplesCnt = 0 := by
  obtain ⟨_, _, rest⟩ := bind_eq_ok.mp returned
  cases rest
  exact ⟨rfl, rfl, rfl⟩

theorem unlockInner_eq_ok (returned : buffer.unlockInner = .ok after) :
    buffer.lock = ⟨true, true⟩ ∧
      after = { buffer with lock := ⟨true, false⟩ } := by
  obtain ⟨lock, unlocked, rest⟩ := bind_eq_ok.mp returned
  obtain ⟨isBoth, isOuter⟩ := LockableOuterInner.unlockInner_eq_ok.mp unlocked
  cases rest
  subst isOuter
  exact ⟨isBoth, rfl⟩

theorem unlockOuter_eq_ok (returned : buffer.unlockOuter = .ok after) :
    buffer.lock = ⟨true, false⟩ ∧
      after = { buffer with lock := ⟨false, false⟩ } := by
  obtain ⟨lock, unlocked, rest⟩ := bind_eq_ok.mp returned
  obtain ⟨isOuter, isFree⟩ := LockableOuterInner.unlockOuter_eq_ok.mp unlocked
  cases rest
  subst isFree
  exact ⟨isOuter, rfl⟩

/-- A buffer with both locks is released in three steps. -/
theorem setTransmittedOrAbort_eq (locked : buffer.lock = ⟨true, true⟩) :
    buffer.setTransmittedOrAbort =
      (buffer.reset >>= unlockInner >>= unlockOuter) := by
  unfold setTransmittedOrAbort
  rw [locked, bind_assoc]
  rfl

end BufferTx

/-- The buffers of a pool. -/
abbrev BufferTxPool (nofBufferTx : Nat) (Sample : Type) :=
  Fin nofBufferTx → BufferTx Sample

namespace BufferTxPool

variable {nofBufferTx : Nat} {Sample : Type}

/-- Take the first of the listed buffers that can be locked. -/
def lockFirst
    (pool : BufferTxPool nofBufferTx Sample) :
    List (Fin nofBufferTx) →
      Checked (Option (Fin nofBufferTx × BufferTx Sample))
  | [] => pure none
  | index :: rest => do
      let (locked, buffer) ← (pool index).tryLockOuter
      if locked then
        pure (some (index, buffer))
      else
        pool.lockFirst rest

/-- A buffer that can be filled, if there is one, with its outer lock taken. -/
def getBufferTxToFill
    (pool : BufferTxPool nofBufferTx Sample) :
    Checked (Option (Fin nofBufferTx × BufferTx Sample)) :=
  pool.lockFirst (List.finRange nofBufferTx)

/-- The first buffer that may be transmitted and has the given order. -/
def getSpecificTxOrderIdIfAvailable
    (pool : BufferTxPool nofBufferTx Sample)
    (txOrderIdTarget : Int) :
    Option (Fin nofBufferTx) :=
  (List.finRange nofBufferTx).find? fun index =>
    (pool index).lock.inner &&
      (pool index).bufferTxMeta.txOrderId == txOrderIdTarget

/-- A buffer may be transmitted and has the given order. -/
def Available
    (pool : BufferTxPool nofBufferTx Sample)
    (txOrderId : Int)
    (index : Fin nofBufferTx) :
    Prop :=
  (pool index).lock.inner = true ∧
    (pool index).bufferTxMeta.txOrderId = txOrderId

variable
  {pool : BufferTxPool nofBufferTx Sample}
  {index : Fin nofBufferTx}

variable {buffer : BufferTx Sample}

theorem lockFirst_eq_ok
    {indices : List (Fin nofBufferTx)}
    (returned : pool.lockFirst indices = .ok (some (index, buffer))) :
    (pool index).lock = ⟨false, false⟩ ∧
      buffer = { pool index with lock := ⟨true, false⟩ } := by
  induction indices with
  | nil => cases returned
  | cons first rest hypothesis =>
      obtain ⟨⟨locked, after⟩, tried, returned⟩ := bind_eq_ok.mp returned
      rcases BufferTx.tryLockOuter_eq_ok tried with
        ⟨isLocked, isFree, isAfter⟩ | ⟨notLocked, _, _⟩
      · subst isLocked
        cases returned
        exact ⟨isFree, isAfter⟩
      · subst notLocked
        exact hypothesis returned

/-- Only a buffer without locks is handed out. -/
theorem getBufferTxToFill_eq_ok
    (returned : pool.getBufferTxToFill = .ok (some (index, buffer))) :
    (pool index).lock = ⟨false, false⟩ ∧
      buffer = { pool index with lock := ⟨true, false⟩ } :=
  lockFirst_eq_ok returned

/-- No assertion fails if inner locks are only held inside of outer locks. -/
theorem getBufferTxToFill_ok
    (nested :
      ∀ index, (pool index).lock.inner = true →
        (pool index).lock.outer = true) :
    ∃ result, pool.getBufferTxToFill = .ok result := by
  unfold getBufferTxToFill
  induction List.finRange nofBufferTx with
  | nil => exact ⟨none, rfl⟩
  | cons first rest hypothesis =>
      obtain ⟨result, isResult⟩ := hypothesis
      have isNested := nested first
      rw [lockFirst, BufferTx.tryLockOuter, LockableOuterInner.tryLockOuter]
      generalize (pool first).lock = lock at isNested
      rcases lock with ⟨outer, inner⟩
      cases outer with
      | true => exact ⟨result, isResult⟩
      | false =>
          cases inner with
          | true => cases isNested rfl
          | false => exact ⟨_, rfl⟩

variable {txOrderIdTarget : Int}

/-- What is found is transmittable and has the wanted order. -/
theorem getSpecificTxOrderIdIfAvailable_eq_some
    (found :
      pool.getSpecificTxOrderIdIfAvailable txOrderIdTarget = some index) :
    pool.Available txOrderIdTarget index := by
  have holds := List.find?_some found
  rw [Bool.and_eq_true, beq_iff_eq] at holds
  exact holds

/-- Nothing is missed. -/
theorem getSpecificTxOrderIdIfAvailable_eq_none
    (missing : pool.getSpecificTxOrderIdIfAvailable txOrderIdTarget = none)
    (index : Fin nofBufferTx) :
    ¬ pool.Available txOrderIdTarget index := by
  intro available
  have notFound :=
    List.find?_eq_none.mp missing index (List.mem_finRange index)
  rw [Bool.and_eq_true, beq_iff_eq] at notFound
  exact notFound available

end BufferTxPool

end Radio

end DectNrp
