import DectNrp.LockableOuterInner
import DectNrp.PdcEnc
import Mathlib.Tactic.IntervalCases

namespace DectNrp

/-!
# HARQ processes

A process holds the buffers of one transport block over its transmissions.  A
user obtains it, works with the buffers and finalizes it, which either
terminates the process and resets its buffers, or keeps it running for a
retransmission.
-/

open Checked (bind_eq_ok pure_eq_ok)

/-- Sizes of a packet that a process depends on. -/
structure PacketSizes where
  nTbByte : Nat
  C : Nat
  deriving Repr, DecidableEq

/-- Sizes of no packet. -/
def PacketSizes.none : PacketSizes where
  nTbByte := 0
  C := 0

/-- What happens to a transmitting process when it is finalized. -/
inductive FinalizeTx where
  | resetAndTerminate
  | increaseRvAndKeepRunning
  | keepRvAndKeepRunning
  deriving Repr, DecidableEq

/-- What happens to a receiving process when it is finalized. -/
inductive FinalizeRx where
  | resetAndTerminate
  | keepRunning
  | keepRunningOrResetAndTerminateIfCrcCorrect
  deriving Repr, DecidableEq

/--
Library routines that reset soft buffers.  Resetting a number of code blocks
sets these to their reset value and leaves all others alone.
-/
structure SoftbufferLibrary (Block SoftBits : Type) where
  resetBlock : Block
  resetSoftBits : SoftBits
  txResetCb :
    (maxCb : Nat) → (nofCb : Nat) → (Nat → Block) → Nat → Block
  txReset : (maxCb : Nat) → (Nat → Block) → Nat → Block
  rxResetCb :
    SoftbufferRx SoftBits → (nofCb : Nat) → SoftbufferRx SoftBits
  rxReset : SoftbufferRx SoftBits → SoftbufferRx SoftBits
  txResetCb_reset :
    ∀ maxCb nofCb blocks cbIdx, cbIdx < maxCb → cbIdx < nofCb →
      txResetCb maxCb nofCb blocks cbIdx = resetBlock
  txResetCb_other :
    ∀ maxCb nofCb blocks cbIdx, nofCb ≤ cbIdx →
      txResetCb maxCb nofCb blocks cbIdx = blocks cbIdx
  txReset_reset :
    ∀ maxCb blocks cbIdx, cbIdx < maxCb →
      txReset maxCb blocks cbIdx = resetBlock
  rxResetCb_maxCb :
    ∀ softbuffer nofCb,
      (rxResetCb softbuffer nofCb).maxCb = softbuffer.maxCb
  rxResetCb_reset :
    ∀ softbuffer nofCb cbIdx, cbIdx < softbuffer.maxCb →
      cbIdx < nofCb →
        (rxResetCb softbuffer nofCb).bufferF cbIdx = resetSoftBits ∧
        (rxResetCb softbuffer nofCb).data cbIdx = (fun _ => 0) ∧
        (rxResetCb softbuffer nofCb).cbCrc cbIdx = false
  rxResetCb_other :
    ∀ softbuffer nofCb cbIdx, nofCb ≤ cbIdx →
      (rxResetCb softbuffer nofCb).bufferF cbIdx =
        softbuffer.bufferF cbIdx ∧
      (rxResetCb softbuffer nofCb).data cbIdx =
        softbuffer.data cbIdx ∧
      (rxResetCb softbuffer nofCb).cbCrc cbIdx =
        softbuffer.cbCrc cbIdx
  rxReset_maxCb :
    ∀ softbuffer, (rxReset softbuffer).maxCb = softbuffer.maxCb
  rxReset_reset :
    ∀ softbuffer cbIdx, cbIdx < softbuffer.maxCb →
      (rxReset softbuffer).bufferF cbIdx = resetSoftBits ∧
      (rxReset softbuffer).data cbIdx = (fun _ => 0) ∧
      (rxReset softbuffer).cbCrc cbIdx = false

/-- Buffer for transmission: limits, byte counter and code blocks. -/
structure BufferTx (Block : Type) where
  aLen : Nat
  maxCb : Nat
  aCnt : Nat
  softbufferD : Nat → Block

/-- Buffer for reception: limit, byte counter and soft buffer. -/
structure BufferRx (SoftBits : Type) where
  aLen : Nat
  aCnt : Nat
  softbufferD : SoftbufferRx SoftBits

/-- Reset the counter and all code blocks. -/
def BufferTx.resetACntAndSoftbuffer
    {Block SoftBits : Type}
    (library : SoftbufferLibrary Block SoftBits)
    (buffer : BufferTx Block) :
    BufferTx Block :=
  { buffer with
    aCnt := 0
    softbufferD := library.txReset buffer.maxCb buffer.softbufferD }

/-- Reset the counter and a number of code blocks. -/
def BufferTx.resetACntAndSoftbufferCb
    {Block SoftBits : Type}
    (library : SoftbufferLibrary Block SoftBits)
    (buffer : BufferTx Block)
    (nofCb : Nat) :
    BufferTx Block :=
  { buffer with
    aCnt := 0
    softbufferD :=
      library.txResetCb buffer.maxCb nofCb buffer.softbufferD }

/-- Reset the counter and a number of code blocks. -/
def BufferRx.resetACntAndSoftbufferCb
    {Block SoftBits : Type}
    (library : SoftbufferLibrary Block SoftBits)
    (buffer : BufferRx SoftBits)
    (nofCb : Nat) :
    BufferRx SoftBits :=
  { buffer with
    aCnt := 0
    softbufferD := library.rxResetCb buffer.softbufferD nofCb }

/-- Reset the counter and all code blocks. -/
def BufferRx.resetACntAndSoftbuffer
    {Block SoftBits : Type}
    (library : SoftbufferLibrary Block SoftBits)
    (buffer : BufferRx SoftBits) :
    BufferRx SoftBits :=
  { buffer with
    aCnt := 0
    softbufferD := library.rxReset buffer.softbufferD }

/-- A buffer for transmission in memory that may hold anything. -/
def BufferTx.new
    {Block SoftBits : Type}
    (library : SoftbufferLibrary Block SoftBits)
    (aLen maxCb : Nat)
    (memory : Nat → Block) :
    BufferTx Block :=
  ({ aLen := aLen
     maxCb := maxCb
     aCnt := 0
     softbufferD := memory } : BufferTx Block).resetACntAndSoftbuffer
    library

/-- A buffer for reception in memory that may hold anything. -/
def BufferRx.new
    {Block SoftBits : Type}
    (library : SoftbufferLibrary Block SoftBits)
    (aLen maxCb : Nat)
    (memory : SoftbufferRx SoftBits) :
    BufferRx SoftBits :=
  ({ aLen := aLen
     aCnt := 0
     softbufferD := { memory with maxCb := maxCb }
     } : BufferRx SoftBits).resetACntAndSoftbuffer library

/-- Octets of PLCF type 2. -/
def plcfType2Byte : Nat := 10

/-- Variables of all processes. -/
structure Process where
  lock : LockableOuterInner
  id : Nat
  plcfType : Nat
  networkId : Nat
  packetSizes : PacketSizes
  rv : Nat
  deriving Repr, DecidableEq

namespace Process

/-- A process that was never started. -/
def new (id : Nat) : Process where
  lock := .unlocked
  id := id
  plcfType := 0
  networkId := 0
  packetSizes := .none
  rv := 0

/-- Reset the variables of all processes. -/
def reset (process : Process) : Checked Process := do
  dectnrpAssert process.lock.isOuterLockedInnerLocked
    "incorrect lock state"
  pure { process with
    plcfType := 0
    networkId := 0
    packetSizes := .none
    rv := 0 }

/-- Release the inner lock. -/
def unlockInner (process : Process) : Checked Process := do
  let lock ← process.lock.unlockInner
  pure { process with lock := lock }

/-- Release the outer lock. -/
def unlockOuter (process : Process) : Checked Process := do
  let lock ← process.lock.unlockOuter
  pure { process with lock := lock }

/-- Take the inner lock. -/
def lockInner (process : Process) : Checked Process := do
  let lock ← process.lock.lockInner
  pure { process with lock := lock }

/-- Reset the variables and release both locks. -/
def resetAndUnlock (process : Process) : Checked Process := do
  let process ← process.reset
  let process ← process.unlockInner
  process.unlockOuter

theorem lockInner_eq_ok
    {process after : Process} :
    process.lockInner = .ok after ↔
      process.lock = ⟨true, false⟩ ∧
        after = { process with lock := ⟨true, true⟩ } := by
  simp only [lockInner, bind_eq_ok,
    LockableOuterInner.lockInner_eq_ok, pure_eq_ok,
    Except.ok.injEq]
  constructor
  · rintro ⟨lock, ⟨before, rfl⟩, rfl⟩
    exact ⟨before, rfl⟩
  · rintro ⟨before, rfl⟩
    exact ⟨_, ⟨before, rfl⟩, rfl⟩

theorem unlockInner_eq_ok
    {process after : Process} :
    process.unlockInner = .ok after ↔
      process.lock = ⟨true, true⟩ ∧
        after = { process with lock := ⟨true, false⟩ } := by
  simp only [unlockInner, bind_eq_ok,
    LockableOuterInner.unlockInner_eq_ok, pure_eq_ok,
    Except.ok.injEq]
  constructor
  · rintro ⟨lock, ⟨before, rfl⟩, rfl⟩
    exact ⟨before, rfl⟩
  · rintro ⟨before, rfl⟩
    exact ⟨_, ⟨before, rfl⟩, rfl⟩

theorem unlockOuter_eq_ok
    {process after : Process} :
    process.unlockOuter = .ok after ↔
      process.lock = ⟨true, false⟩ ∧
        after = { process with lock := ⟨false, false⟩ } := by
  simp only [unlockOuter, bind_eq_ok,
    LockableOuterInner.unlockOuter_eq_ok, pure_eq_ok,
    Except.ok.injEq]
  constructor
  · rintro ⟨lock, ⟨before, rfl⟩, rfl⟩
    exact ⟨before, rfl⟩
  · rintro ⟨before, rfl⟩
    exact ⟨_, ⟨before, rfl⟩, rfl⟩

/-- A process that is terminated is reset and released completely. -/
theorem resetAndUnlock_eq_ok
    {process after : Process}
    (returned : process.resetAndUnlock = .ok after) :
    process.lock = ⟨true, true⟩ ∧
      after = {
        lock := ⟨false, false⟩
        id := process.id
        plcfType := 0
        networkId := 0
        packetSizes := .none
        rv := 0 } := by
  rw [resetAndUnlock] at returned
  obtain ⟨cleared, isReset, returned⟩ := bind_eq_ok.mp returned
  obtain ⟨_, _, isReset⟩ := bind_eq_ok.mp isReset
  cases isReset
  obtain ⟨waiting, released, returned⟩ := bind_eq_ok.mp returned
  obtain ⟨locked, rfl⟩ := unlockInner_eq_ok.mp released
  obtain ⟨_, rfl⟩ := unlockOuter_eq_ok.mp returned
  exact ⟨locked, rfl⟩

end Process

/-- Process for transmission. -/
structure ProcessTx (Block : Type) extends Process where
  hbPlcf : BufferTx Block
  hbTb : BufferTx Block
  rvUnwrapped : Nat
  finalizeTx : FinalizeTx

/-- Process for reception. -/
structure ProcessRx (SoftBits : Type) extends Process where
  hbTb : BufferRx SoftBits
  finalizeRx : FinalizeRx

/-- Redundancy version of the next retransmission. -/
def nextRv : Nat → Checked Nat
  | 0 => .ok 2
  | 1 => .ok 0
  | 2 => .ok 3
  | 3 => .ok 1
  | _ => .error (.assertion "rv undefined")

/-- Redundancy version after a number of steps from a new transmission. -/
def rvCycle (steps : Nat) : Nat :=
  match steps % 4 with
  | 0 => 0
  | 1 => 2
  | 2 => 3
  | _ => 1

theorem nextRv_rvCycle (steps : Nat) :
    nextRv (rvCycle steps) = .ok (rvCycle (steps + 1)) := by
  have bounded : steps % 4 < 4 := Nat.mod_lt _ (by decide)
  have later : (steps + 1) % 4 = (steps % 4 + 1) % 4 :=
    (Nat.mod_add_mod steps 4 1).symm
  rw [rvCycle, rvCycle, later]
  generalize steps % 4 = position at bounded ⊢
  interval_cases position <;> rfl

/-- Largest number of retransmissions. -/
def rvUnwrappedMax : Nat := 7

section

variable {Block SoftBits : Type}

namespace ProcessTx

/-- A process for packets up to the given sizes. -/
def new
    (library : SoftbufferLibrary Block SoftBits)
    (maximumPacketSizes : PacketSizes)
    (plcfMemory tbMemory : Nat → Block)
    (id : Nat) :
    ProcessTx Block where
  toProcess := .new id
  hbPlcf :=
    (BufferTx.new library plcfType2Byte 1
      plcfMemory).resetACntAndSoftbuffer library
  hbTb :=
    (BufferTx.new library maximumPacketSizes.nTbByte
      maximumPacketSizes.C tbMemory).resetACntAndSoftbufferCb
        library maximumPacketSizes.C
  rvUnwrapped := 0
  finalizeTx := .resetAndTerminate

/-- Step to the next redundancy version. -/
def setNextRv (process : ProcessTx Block) : Checked (ProcessTx Block) := do
  dectnrpAssert process.lock.isOuterLockedInnerLocked
    "incorrect lock state"
  let rv ← nextRv process.rv
  let process := { process with
    rv := rv
    rvUnwrapped := process.rvUnwrapped + 1 }
  dectnrpAssert (process.rvUnwrapped ≤ rvUnwrappedMax)
    "too many retransmission"
  pure process

/-- Reset the buffers and everything else. -/
def resetAndTerminateFunc
    (library : SoftbufferLibrary Block SoftBits)
    (process : ProcessTx Block) :
    Checked (ProcessTx Block) := do
  -- the number of code blocks is read before the packet sizes are reset
  let hbPlcf := process.hbPlcf.resetACntAndSoftbuffer library
  let hbTb :=
    process.hbTb.resetACntAndSoftbufferCb library process.packetSizes.C
  let base ← process.toProcess.resetAndUnlock
  pure {
    toProcess := base
    hbPlcf := hbPlcf
    hbTb := hbTb
    rvUnwrapped := 0
    finalizeTx := .resetAndTerminate
  }

/-- Release the inner lock. -/
def unlockInner (process : ProcessTx Block) : Checked (ProcessTx Block) := do
  let base ← process.toProcess.unlockInner
  pure { process with toProcess := base }

/-- Give the process back. -/
def finalize
    (library : SoftbufferLibrary Block SoftBits)
    (process : ProcessTx Block) :
    Checked (ProcessTx Block) :=
  match process.finalizeTx with
  | .resetAndTerminate => process.resetAndTerminateFunc library
  | .increaseRvAndKeepRunning => do
      let process ← process.setNextRv
      process.unlockInner
  | .keepRvAndKeepRunning => process.unlockInner

end ProcessTx

namespace ProcessRx

/-- A process for packets up to the given sizes. -/
def new
    (library : SoftbufferLibrary Block SoftBits)
    (maximumPacketSizes : PacketSizes)
    (tbMemory : SoftbufferRx SoftBits)
    (id : Nat) :
    ProcessRx SoftBits where
  toProcess := .new id
  hbTb :=
    (BufferRx.new library maximumPacketSizes.nTbByte
      maximumPacketSizes.C tbMemory).resetACntAndSoftbufferCb
        library maximumPacketSizes.C
  finalizeRx := .resetAndTerminate

/-- Reset the buffer and everything else. -/
def resetAndTerminateFunc
    (library : SoftbufferLibrary Block SoftBits)
    (process : ProcessRx SoftBits) :
    Checked (ProcessRx SoftBits) := do
  -- the number of code blocks is read before the packet sizes are reset
  let hbTb :=
    process.hbTb.resetACntAndSoftbufferCb library process.packetSizes.C
  let base ← process.toProcess.resetAndUnlock
  pure {
    toProcess := base
    hbTb := hbTb
    finalizeRx := .resetAndTerminate
  }

/-- Release the inner lock. -/
def unlockInner
    (process : ProcessRx SoftBits) :
    Checked (ProcessRx SoftBits) := do
  let base ← process.toProcess.unlockInner
  pure { process with toProcess := base }

/-- Give the process back. -/
def finalize
    (library : SoftbufferLibrary Block SoftBits)
    (process : ProcessRx SoftBits)
    (crcStatus : Bool) :
    Checked (ProcessRx SoftBits) :=
  match process.finalizeRx with
  | .resetAndTerminate => process.resetAndTerminateFunc library
  | .keepRunning => process.unlockInner
  | .keepRunningOrResetAndTerminateIfCrcCorrect =>
      if crcStatus then
        process.resetAndTerminateFunc library
      else
        process.unlockInner

end ProcessRx

namespace ProcessTx

variable {process after : ProcessTx Block}

/-- A process can only be terminated by its user. -/
theorem resetAndTerminateFunc_eq_ok
    {library : SoftbufferLibrary Block SoftBits}
    (returned : process.resetAndTerminateFunc library = .ok after) :
    process.lock = ⟨true, true⟩ ∧
      after = {
        lock := ⟨false, false⟩
        id := process.id
        plcfType := 0
        networkId := 0
        packetSizes := .none
        rv := 0
        hbPlcf := process.hbPlcf.resetACntAndSoftbuffer library
        hbTb :=
          process.hbTb.resetACntAndSoftbufferCb library process.packetSizes.C
        rvUnwrapped := 0
        finalizeTx := .resetAndTerminate } := by
  rw [resetAndTerminateFunc] at returned
  obtain ⟨base, released, result⟩ := bind_eq_ok.mp returned
  obtain ⟨locked, rfl⟩ := Process.resetAndUnlock_eq_ok released
  cases result
  exact ⟨locked, rfl⟩

theorem unlockInner_eq_ok (returned : process.unlockInner = .ok after) :
    process.lock = ⟨true, true⟩ ∧
      after = { process with lock := ⟨true, false⟩ } := by
  rw [unlockInner] at returned
  obtain ⟨base, released, result⟩ := bind_eq_ok.mp returned
  obtain ⟨locked, rfl⟩ := Process.unlockInner_eq_ok.mp released
  cases result
  exact ⟨locked, rfl⟩

/-- A process whose redundancy version is on the cycle stays on it. -/
theorem setNextRv_eq_ok
    {steps : Nat}
    (onCycle : process.rv = rvCycle steps)
    (returned : process.setNextRv = .ok after) :
    after = { process with
      rv := rvCycle (steps + 1)
      rvUnwrapped := process.rvUnwrapped + 1 } := by
  rw [setNextRv] at returned
  obtain ⟨_, _, returned⟩ := bind_eq_ok.mp returned
  obtain ⟨rv, stepped, returned⟩ := bind_eq_ok.mp returned
  obtain ⟨_, _, result⟩ := bind_eq_ok.mp returned
  rw [onCycle, nextRv_rvCycle] at stepped
  cases stepped
  cases result
  rfl

end ProcessTx

namespace ProcessRx

variable {process after : ProcessRx SoftBits}

/-- A process can only be terminated by its user. -/
theorem resetAndTerminateFunc_eq_ok
    {library : SoftbufferLibrary Block SoftBits}
    (returned : process.resetAndTerminateFunc library = .ok after) :
    process.lock = ⟨true, true⟩ ∧
      after = {
        lock := ⟨false, false⟩
        id := process.id
        plcfType := 0
        networkId := 0
        packetSizes := .none
        rv := 0
        hbTb :=
          process.hbTb.resetACntAndSoftbufferCb library process.packetSizes.C
        finalizeRx := .resetAndTerminate } := by
  rw [resetAndTerminateFunc] at returned
  obtain ⟨base, released, result⟩ := bind_eq_ok.mp returned
  obtain ⟨locked, rfl⟩ := Process.resetAndUnlock_eq_ok released
  cases result
  exact ⟨locked, rfl⟩

theorem unlockInner_eq_ok (returned : process.unlockInner = .ok after) :
    process.lock = ⟨true, true⟩ ∧
      after = { process with lock := ⟨true, false⟩ } := by
  rw [unlockInner] at returned
  obtain ⟨base, released, result⟩ := bind_eq_ok.mp returned
  obtain ⟨locked, rfl⟩ := Process.unlockInner_eq_ok.mp released
  cases result
  exact ⟨locked, rfl⟩

end ProcessRx

end

end DectNrp
