import DectNrp.HarqProcess

namespace DectNrp

/-!
# Pool of HARQ processes

A new transmission takes the first process whose outer lock is free.  A
retransmission names the process by its index.
-/

open Function (update)
open Checked (bind_eq_ok)

/-- All processes of a radio. -/
structure ProcessPool (Block SoftBits : Type) where
  nofProcessTx : Nat
  nofProcessRx : Nat
  hpTxVec : Nat → ProcessTx Block
  hpRxVec : Nat → ProcessRx SoftBits

/-- Go over the processes and start the first one whose outer lock is free. -/
def startFirstUnlocked
    {Process : Type}
    (tryLockOuter : Process → Checked (Bool × Process))
    (start : Process → Checked Process) :
    (remaining i : Nat) → (Nat → Process) →
      Checked (Option Nat × (Nat → Process))
  | 0, _, processes => .ok (none, processes)
  | remaining + 1, i, processes => do
      let (locked, process) ← tryLockOuter (processes i)
      if locked then do
        let process ← start process
        pure (some i, update processes i process)
      else
        startFirstUnlocked tryLockOuter start remaining (i + 1) processes

/-- The result of the loop: one process was free and is started, or none was. -/
theorem startFirstUnlocked_eq_ok
    {Process : Type}
    {tryLockOuter : Process → Checked (Bool × Process)}
    {start : Process → Checked Process}
    {remaining i : Nat}
    {processes after : Nat → Process}
    {found : Option Nat}
    (returned :
      startFirstUnlocked tryLockOuter start remaining i processes =
        .ok (found, after)) :
    (found = none ∧ after = processes) ∨
      ∃ index locked started,
        found = some index ∧
        i ≤ index ∧ index < i + remaining ∧
        tryLockOuter (processes index) = .ok (true, locked) ∧
        start locked = .ok started ∧
        after = update processes index started := by
  induction remaining generalizing i with
  | zero =>
      cases returned
      exact Or.inl ⟨rfl, rfl⟩
  | succ remaining hypothesis =>
      rw [startFirstUnlocked] at returned
      obtain ⟨⟨locked, process⟩, tried, returned⟩ := bind_eq_ok.mp returned
      cases locked with
      | true =>
          simp only [↓reduceIte] at returned
          obtain ⟨started, startedOk, result⟩ := bind_eq_ok.mp returned
          cases result
          exact Or.inr ⟨i, process, started, rfl, le_rfl, by omega,
            tried, startedOk, rfl⟩
      | false =>
          simp only [Bool.false_eq_true, ↓reduceIte] at returned
          rcases hypothesis returned with
              nothing |
              ⟨index, lockedProcess, started, isFound, lower, upper, others⟩
          · exact Or.inl nothing
          · exact Or.inr ⟨index, lockedProcess, started, isFound,
              by omega, by omega, others⟩

section

variable {Block SoftBits Psdef : Type}

namespace ProcessTx

/-- Try to take the outer lock. -/
def tryLockOuter
    (process : ProcessTx Block) :
    Checked (Bool × ProcessTx Block) := do
  let (locked, lock) ← process.lock.tryLockOuter
  pure (locked, { process with lock := lock })

/-- Set the variables of a new transmission. -/
def start
    (plcfType networkId : Nat)
    (packetSizes : PacketSizes)
    (ftx : FinalizeTx)
    (process : ProcessTx Block) :
    Checked (ProcessTx Block) := do
  dectnrpAssert (packetSizes.nTbByte ≤ process.hbTb.aLen)
    "packet TB larger than buffer"
  let base ←
    ({ process.toProcess with
      plcfType := plcfType
      networkId := networkId
      packetSizes := packetSizes } : Process).lockInner
  pure { process with
    toProcess := base
    finalizeTx := ftx }

/-- Only a process that nobody uses is started. -/
theorem start_eq_ok
    {plcfType networkId : Nat}
    {packetSizes : PacketSizes}
    {ftx : FinalizeTx}
    {process locked after : ProcessTx Block}
    (tried : process.tryLockOuter = .ok (true, locked))
    (started : locked.start plcfType networkId packetSizes ftx = .ok after) :
    process.lock = ⟨false, false⟩ ∧
      after = { process with
        lock := ⟨true, true⟩
        plcfType := plcfType
        networkId := networkId
        packetSizes := packetSizes
        finalizeTx := ftx } := by
  rw [tryLockOuter] at tried
  obtain ⟨⟨_, lock⟩, taken, result⟩ := bind_eq_ok.mp tried
  cases result
  rw [start] at started
  obtain ⟨_, _, started⟩ := bind_eq_ok.mp started
  obtain ⟨base, inner, result⟩ := bind_eq_ok.mp started
  obtain ⟨_, rfl⟩ := Process.lockInner_eq_ok.mp inner
  cases result
  rcases LockableOuterInner.tryLockOuter_eq_ok taken with
      ⟨_, free, rfl⟩ | ⟨refused, _⟩
  · exact ⟨free, rfl⟩
  · cases refused

end ProcessTx

namespace ProcessRx

/-- Try to take the outer lock. -/
def tryLockOuter
    (process : ProcessRx SoftBits) :
    Checked (Bool × ProcessRx SoftBits) := do
  let (locked, lock) ← process.lock.tryLockOuter
  pure (locked, { process with lock := lock })

/-- Set the variables of a new transmission. -/
def start
    (plcfType networkId : Nat)
    (packetSizes : PacketSizes)
    (rv : Nat)
    (frx : FinalizeRx)
    (process : ProcessRx SoftBits) :
    Checked (ProcessRx SoftBits) := do
  dectnrpAssert (packetSizes.nTbByte ≤ process.hbTb.aLen)
    "packet TB larger than buffer"
  let base ←
    ({ process.toProcess with
      plcfType := plcfType
      networkId := networkId
      packetSizes := packetSizes
      rv := rv } : Process).lockInner
  pure { process with
    toProcess := base
    finalizeRx := frx }

/-- Only a process that nobody uses is started. -/
theorem start_eq_ok
    {plcfType networkId rv : Nat}
    {packetSizes : PacketSizes}
    {frx : FinalizeRx}
    {process locked after : ProcessRx SoftBits}
    (tried : process.tryLockOuter = .ok (true, locked))
    (started :
      locked.start plcfType networkId packetSizes rv frx = .ok after) :
    process.lock = ⟨false, false⟩ ∧
      after = { process with
        lock := ⟨true, true⟩
        plcfType := plcfType
        networkId := networkId
        packetSizes := packetSizes
        rv := rv
        finalizeRx := frx } := by
  rw [tryLockOuter] at tried
  obtain ⟨⟨_, lock⟩, taken, result⟩ := bind_eq_ok.mp tried
  cases result
  rw [start] at started
  obtain ⟨_, _, started⟩ := bind_eq_ok.mp started
  obtain ⟨base, inner, result⟩ := bind_eq_ok.mp started
  obtain ⟨_, rfl⟩ := Process.lockInner_eq_ok.mp inner
  cases result
  rcases LockableOuterInner.tryLockOuter_eq_ok taken with
      ⟨_, free, rfl⟩ | ⟨refused, _⟩
  · exact ⟨free, rfl⟩
  · cases refused

end ProcessRx

namespace ProcessPool

/-- A pool of processes for packets up to the given sizes. -/
def new
    (library : SoftbufferLibrary Block SoftBits)
    (maximumPacketSizes : PacketSizes)
    (nofProcessTx nofProcessRx : Nat)
    (plcfMemory tbMemory : Nat → Nat → Block)
    (rxMemory : Nat → SoftbufferRx SoftBits) :
    ProcessPool Block SoftBits where
  nofProcessTx := nofProcessTx
  nofProcessRx := nofProcessRx
  hpTxVec id :=
    .new library maximumPacketSizes (plcfMemory id) (tbMemory id) id
  hpRxVec id := .new library maximumPacketSizes (rxMemory id) id

/-- Sizes of a well-defined packet. -/
def packetSizesOpt
    (getPacketSizes : Psdef → Option PacketSizes)
    (psdef : Psdef) :
    Checked PacketSizes :=
  match getPacketSizes psdef with
  | some packetSizes => .ok packetSizes
  | none => .error (.assertion "packets must be well-defined")

/-- Obtain a process for a new transmission. -/
def getProcessTx
    (getPacketSizes : Psdef → Option PacketSizes)
    (pool : ProcessPool Block SoftBits)
    (plcfType networkId : Nat)
    (psdef : Psdef)
    (ftx : FinalizeTx) :
    Checked (Option Nat × ProcessPool Block SoftBits) := do
  dectnrpAssert (plcfType = 1 ∨ plcfType = 2) "unknown PLCF type"
  let packetSizes ← packetSizesOpt getPacketSizes psdef
  let (found, hpTxVec) ←
    startFirstUnlocked ProcessTx.tryLockOuter
      (ProcessTx.start plcfType networkId packetSizes ftx)
      pool.nofProcessTx 0 pool.hpTxVec
  pure (found, { pool with hpTxVec := hpTxVec })

/-- Obtain a process for the first transmission that is received. -/
def getProcessRx
    (getPacketSizes : Psdef → Option PacketSizes)
    (pool : ProcessPool Block SoftBits)
    (plcfType networkId : Nat)
    (psdef : Psdef)
    (rv : Nat)
    (frx : FinalizeRx) :
    Checked (Option Nat × ProcessPool Block SoftBits) := do
  dectnrpAssert (plcfType = 1 ∨ plcfType = 2) "unknown PLCF type"
  let packetSizes ← packetSizesOpt getPacketSizes psdef
  let (found, hpRxVec) ←
    startFirstUnlocked ProcessRx.tryLockOuter
      (ProcessRx.start plcfType networkId packetSizes rv frx)
      pool.nofProcessRx 0 pool.hpRxVec
  pure (found, { pool with hpRxVec := hpRxVec })

/-- Access to an element of a vector with a range check. -/
def checkIndex (size id : Nat) : Checked Unit :=
  if id < size then .ok () else .error (.readBeyond id)

/-- Obtain a process for a retransmission. -/
def getProcessTxRunning
    (pool : ProcessPool Block SoftBits)
    (id : Nat)
    (ftx : FinalizeTx) :
    Checked (Option Nat × ProcessPool Block SoftBits) := do
  checkIndex pool.nofProcessTx id
  let process := pool.hpTxVec id
  dectnrpAssert process.lock.outer "incorrect lock state"
  if process.lock.inner then
    pure (none, pool)
  else do
    let base ← process.toProcess.lockInner
    let process := { process with
      toProcess := base
      finalizeTx := ftx }
    pure (some id, { pool with
      hpTxVec := update pool.hpTxVec id process })

/-- Obtain a process for a retransmission that is received. -/
def getProcessRxRunning
    (pool : ProcessPool Block SoftBits)
    (id rv : Nat)
    (frx : FinalizeRx) :
    Checked (Option Nat × ProcessPool Block SoftBits) := do
  checkIndex pool.nofProcessRx id
  let process := pool.hpRxVec id
  dectnrpAssert process.lock.outer "incorrect lock state"
  if process.lock.inner then
    pure (none, pool)
  else do
    let base ← ({ process.toProcess with rv := rv } : Process).lockInner
    let process := { process with
      toProcess := base
      finalizeRx := frx }
    pure (some id, { pool with
      hpRxVec := update pool.hpRxVec id process })

variable
  {pool after : ProcessPool Block SoftBits}
  {found : Option Nat}

variable {getPacketSizes : Psdef → Option PacketSizes}

/-- A new transmission takes a process that nobody uses, or nothing happens. -/
theorem getProcessTx_eq_ok
    {plcfType networkId : Nat}
    {psdef : Psdef}
    {ftx : FinalizeTx}
    (returned :
      pool.getProcessTx getPacketSizes plcfType networkId psdef ftx =
        .ok (found, after)) :
    (found = none ∧ after = pool) ∨
      ∃ id packetSizes,
        found = some id ∧
        getPacketSizes psdef = some packetSizes ∧
        (pool.hpTxVec id).lock = ⟨false, false⟩ ∧
        after = { pool with
          hpTxVec := update pool.hpTxVec id
            { pool.hpTxVec id with
              lock := ⟨true, true⟩
              plcfType := plcfType
              networkId := networkId
              packetSizes := packetSizes
              finalizeTx := ftx } } := by
  rw [getProcessTx] at returned
  obtain ⟨_, _, returned⟩ := bind_eq_ok.mp returned
  obtain ⟨packetSizes, sizes, returned⟩ := bind_eq_ok.mp returned
  obtain ⟨⟨_, hpTxVec⟩, searched, result⟩ := bind_eq_ok.mp returned
  cases result
  rcases startFirstUnlocked_eq_ok searched with
      ⟨nothing, rfl⟩ |
      ⟨id, locked, started, isFound, _, _, tried, startedOk, rfl⟩
  · exact Or.inl ⟨nothing, rfl⟩
  · obtain ⟨free, rfl⟩ := ProcessTx.start_eq_ok tried startedOk
    refine Or.inr ⟨id, packetSizes, isFound, ?_, free, rfl⟩
    rw [packetSizesOpt] at sizes
    split at sizes
    · rename_i defined
      cases sizes
      exact defined
    · cases sizes

/-- A first reception takes a process that nobody uses, or nothing happens. -/
theorem getProcessRx_eq_ok
    {plcfType networkId rv : Nat}
    {psdef : Psdef}
    {frx : FinalizeRx}
    (returned :
      pool.getProcessRx getPacketSizes plcfType networkId psdef rv frx =
        .ok (found, after)) :
    (found = none ∧ after = pool) ∨
      ∃ id packetSizes,
        found = some id ∧
        getPacketSizes psdef = some packetSizes ∧
        (pool.hpRxVec id).lock = ⟨false, false⟩ ∧
        after = { pool with
          hpRxVec := update pool.hpRxVec id
            { pool.hpRxVec id with
              lock := ⟨true, true⟩
              plcfType := plcfType
              networkId := networkId
              packetSizes := packetSizes
              rv := rv
              finalizeRx := frx } } := by
  rw [getProcessRx] at returned
  obtain ⟨_, _, returned⟩ := bind_eq_ok.mp returned
  obtain ⟨packetSizes, sizes, returned⟩ := bind_eq_ok.mp returned
  obtain ⟨⟨_, hpRxVec⟩, searched, result⟩ := bind_eq_ok.mp returned
  cases result
  rcases startFirstUnlocked_eq_ok searched with
      ⟨nothing, rfl⟩ |
      ⟨id, locked, started, isFound, _, _, tried, startedOk, rfl⟩
  · exact Or.inl ⟨nothing, rfl⟩
  · obtain ⟨free, rfl⟩ := ProcessRx.start_eq_ok tried startedOk
    refine Or.inr ⟨id, packetSizes, isFound, ?_, free, rfl⟩
    rw [packetSizesOpt] at sizes
    split at sizes
    · rename_i defined
      cases sizes
      exact defined
    · cases sizes

/-- Only a process that waits for its retransmission is handed out. -/
theorem getProcessTxRunning_eq_ok
    {id : Nat}
    {ftx : FinalizeTx}
    (returned : pool.getProcessTxRunning id ftx = .ok (found, after)) :
    (found = none ∧ after = pool) ∨
      (found = some id ∧
        (pool.hpTxVec id).lock = ⟨true, false⟩ ∧
        after = { pool with
          hpTxVec := update pool.hpTxVec id
            { pool.hpTxVec id with
              lock := ⟨true, true⟩
              finalizeTx := ftx } }) := by
  rw [getProcessTxRunning] at returned
  obtain ⟨_, _, returned⟩ := bind_eq_ok.mp returned
  obtain ⟨_, _, returned⟩ := bind_eq_ok.mp returned
  split at returned
  · cases returned
    exact Or.inl ⟨rfl, rfl⟩
  · obtain ⟨base, inner, result⟩ := bind_eq_ok.mp returned
    obtain ⟨waiting, rfl⟩ := Process.lockInner_eq_ok.mp inner
    cases result
    exact Or.inr ⟨rfl, waiting, rfl⟩

/-- Only a process that waits for its retransmission is handed out. -/
theorem getProcessRxRunning_eq_ok
    {id rv : Nat}
    {frx : FinalizeRx}
    (returned : pool.getProcessRxRunning id rv frx = .ok (found, after)) :
    (found = none ∧ after = pool) ∨
      (found = some id ∧
        (pool.hpRxVec id).lock = ⟨true, false⟩ ∧
        after = { pool with
          hpRxVec := update pool.hpRxVec id
            { pool.hpRxVec id with
              lock := ⟨true, true⟩
              rv := rv
              finalizeRx := frx } }) := by
  rw [getProcessRxRunning] at returned
  obtain ⟨_, _, returned⟩ := bind_eq_ok.mp returned
  obtain ⟨_, _, returned⟩ := bind_eq_ok.mp returned
  split at returned
  · cases returned
    exact Or.inl ⟨rfl, rfl⟩
  · obtain ⟨base, inner, result⟩ := bind_eq_ok.mp returned
    obtain ⟨waiting, rfl⟩ := Process.lockInner_eq_ok.mp inner
    cases result
    exact Or.inr ⟨rfl, waiting, rfl⟩

end ProcessPool

end

end DectNrp
