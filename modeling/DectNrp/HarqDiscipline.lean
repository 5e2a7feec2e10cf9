import DectNrp.HarqProcess
import DectNrp.SlotPool

namespace DectNrp

/-!
# The discipline of HARQ processes

Processes are slots of a pool.  A process that is terminated has a reset buffer
and no trace of its packet.  A process that was started has reset code blocks
behind the ones of its packet, so that terminating it only has to reset the
code blocks of the packet.
-/

/-- What is known about a process since it was started. -/
structure Life where
  plcfType : Nat
  networkId : Nat
  packetSizes : PacketSizes
  /-- Number of times the redundancy version was stepped. -/
  rvSteps : Nat
  deriving Repr, DecidableEq

/-- Keeping a process running may step its redundancy version. -/
def FinalizeTx.nextLife (finalizeTx : FinalizeTx) (life : Life) : Life :=
  match finalizeTx with
  | .increaseRvAndKeepRunning =>
      { life with rvSteps := life.rvSteps + 1 }
  | _ => life

/-- Whether a receiving process is terminated when it is finalized. -/
def FinalizeRx.terminates
    (finalizeRx : FinalizeRx)
    (crcStatus : Bool) :
    Bool :=
  match finalizeRx with
  | .resetAndTerminate => true
  | .keepRunning => false
  | .keepRunningOrResetAndTerminateIfCrcCorrect => crcStatus

section

variable {Block SoftBits : Type}

/-- The code blocks from the given one on are reset. -/
def BufferTx.ResetFrom
    (library : SoftbufferLibrary Block SoftBits)
    (buffer : BufferTx Block)
    (first : Nat) :
    Prop :=
  ∀ cbIdx, first ≤ cbIdx → cbIdx < buffer.maxCb →
    buffer.softbufferD cbIdx = library.resetBlock

/-- The code blocks from the given one on are reset. -/
def BufferRx.ResetFrom
    (library : SoftbufferLibrary Block SoftBits)
    (buffer : BufferRx SoftBits)
    (first : Nat) :
    Prop :=
  ∀ cbIdx, first ≤ cbIdx → cbIdx < buffer.softbufferD.maxCb →
    buffer.softbufferD.bufferF cbIdx = library.resetSoftBits ∧
    buffer.softbufferD.data cbIdx = (fun _ => 0) ∧
    buffer.softbufferD.cbCrc cbIdx = false

/-- No octets were written and no code block holds anything. -/
structure BufferTx.Clean
    (library : SoftbufferLibrary Block SoftBits)
    (buffer : BufferTx Block) :
    Prop where
  aCnt : buffer.aCnt = 0
  blocks : buffer.ResetFrom library 0

/-- No octets were read and no code block holds anything. -/
structure BufferRx.Clean
    (library : SoftbufferLibrary Block SoftBits)
    (buffer : BufferRx SoftBits) :
    Prop where
  aCnt : buffer.aCnt = 0
  blocks : buffer.ResetFrom library 0

theorem BufferTx.resetACntAndSoftbuffer_clean
    (library : SoftbufferLibrary Block SoftBits)
    (buffer : BufferTx Block) :
    (buffer.resetACntAndSoftbuffer library).Clean library :=
  ⟨rfl, fun cbIdx _ inside => library.txReset_reset _ _ cbIdx inside⟩

variable {library : SoftbufferLibrary Block SoftBits}

/-- Blocks that are not reset now have been reset before. -/
theorem BufferTx.ResetFrom.clean
    {buffer : BufferTx Block}
    {nofCb : Nat}
    (others : buffer.ResetFrom library nofCb) :
    (buffer.resetACntAndSoftbufferCb library nofCb).Clean library := by
  refine ⟨rfl, fun cbIdx _ inside => ?_⟩
  by_cases used : cbIdx < nofCb
  · exact library.txResetCb_reset _ _ _ cbIdx inside used
  · have unused : nofCb ≤ cbIdx := Nat.le_of_not_lt used
    exact (library.txResetCb_other _ _ _ cbIdx unused).trans
      (others cbIdx unused inside)

/-- Blocks that are not reset now have been reset before. -/
theorem BufferRx.ResetFrom.clean
    {buffer : BufferRx SoftBits}
    {nofCb : Nat}
    (others : buffer.ResetFrom library nofCb) :
    (buffer.resetACntAndSoftbufferCb library nofCb).Clean library := by
  refine ⟨rfl, fun cbIdx _ inside => ?_⟩
  have insideBefore : cbIdx < buffer.softbufferD.maxCb := by
    simpa [BufferRx.resetACntAndSoftbufferCb,
      library.rxResetCb_maxCb] using inside
  by_cases used : cbIdx < nofCb
  · exact library.rxResetCb_reset _ _ cbIdx insideBefore used
  · have unused : nofCb ≤ cbIdx := Nat.le_of_not_lt used
    obtain ⟨sameSoftBits, sameData, sameFlag⟩ :=
      library.rxResetCb_other buffer.softbufferD nofCb cbIdx unused
    obtain ⟨softBits, data, flag⟩ := others cbIdx unused insideBefore
    exact ⟨sameSoftBits.trans softBits, sameData.trans data,
      sameFlag.trans flag⟩

/-- A buffer that is constructed holds nothing. -/
theorem BufferTx.new_clean
    (library : SoftbufferLibrary Block SoftBits)
    (aLen maxCb nofCb : Nat)
    (memory : Nat → Block) :
    ((BufferTx.new library aLen maxCb memory).resetACntAndSoftbufferCb
      library nofCb).Clean library := by
  refine BufferTx.ResetFrom.clean fun cbIdx _ inside => ?_
  exact library.txReset_reset _ _ cbIdx inside

/-- A buffer that is constructed holds nothing. -/
theorem BufferRx.new_clean
    (library : SoftbufferLibrary Block SoftBits)
    (aLen maxCb nofCb : Nat)
    (memory : SoftbufferRx SoftBits) :
    ((BufferRx.new library aLen maxCb memory).resetACntAndSoftbufferCb
      library nofCb).Clean library := by
  refine BufferRx.ResetFrom.clean fun cbIdx _ inside => ?_
  refine library.rxReset_reset _ cbIdx ?_
  simpa [BufferRx.new, BufferRx.resetACntAndSoftbuffer,
    library.rxReset_maxCb] using inside

namespace ProcessTx

/-- A process that was never started or is terminated. -/
structure Clean
    (library : SoftbufferLibrary Block SoftBits)
    (id : Nat)
    (process : ProcessTx Block) :
    Prop where
  id_eq : process.id = id
  rv_eq : process.rv = 0
  rvUnwrapped_eq : process.rvUnwrapped = 0
  hbPlcf : process.hbPlcf.Clean library
  hbTb : process.hbTb.Clean library

/-- A process that was started. -/
structure Alive
    (library : SoftbufferLibrary Block SoftBits)
    (id : Nat)
    (process : ProcessTx Block)
    (life : Life) :
    Prop where
  id_eq : process.id = id
  plcfType_eq : process.plcfType = life.plcfType
  networkId_eq : process.networkId = life.networkId
  packetSizes_eq : process.packetSizes = life.packetSizes
  rv_eq : process.rv = rvCycle life.rvSteps
  rvUnwrapped_eq : process.rvUnwrapped = life.rvSteps
  others : process.hbTb.ResetFrom library process.packetSizes.C

/-- Users write octets and the code blocks of their packet. -/
structure Work (before after : ProcessTx Block) : Prop where
  toProcess_eq : after.toProcess = before.toProcess
  rvUnwrapped_eq : after.rvUnwrapped = before.rvUnwrapped
  finalizeTx_eq : after.finalizeTx = before.finalizeTx
  maxCb_eq : after.hbTb.maxCb = before.hbTb.maxCb
  others :
    ∀ cbIdx, before.packetSizes.C ≤ cbIdx →
      after.hbTb.softbufferD cbIdx = before.hbTb.softbufferD cbIdx

/-- A process with the variables of a new transmission. -/
def started
    (process : ProcessTx Block)
    (life : Life)
    (ftx : FinalizeTx) :
    ProcessTx Block :=
  { process with
    lock := ⟨true, true⟩
    plcfType := life.plcfType
    networkId := life.networkId
    packetSizes := life.packetSizes
    finalizeTx := ftx }

theorem new_clean
    (library : SoftbufferLibrary Block SoftBits)
    (maximumPacketSizes : PacketSizes)
    (plcfMemory tbMemory : Nat → Block)
    (id : Nat) :
    (new library maximumPacketSizes plcfMemory tbMemory id).Clean
      library id where
  id_eq := rfl
  rv_eq := rfl
  rvUnwrapped_eq := rfl
  hbPlcf := BufferTx.resetACntAndSoftbuffer_clean library _
  hbTb := BufferTx.new_clean library _ _ _ _

variable
  {library : SoftbufferLibrary Block SoftBits}
  {id : Nat}

/-- A process that is started without a trace of its previous life is alive. -/
theorem Clean.started_alive
    {process : ProcessTx Block}
    (clean : process.Clean library id)
    (plcfType networkId : Nat)
    (packetSizes : PacketSizes)
    (ftx : FinalizeTx) :
    (process.started ⟨plcfType, networkId, packetSizes, 0⟩ ftx).Alive
      library id ⟨plcfType, networkId, packetSizes, 0⟩ where
  id_eq := clean.id_eq
  plcfType_eq := rfl
  networkId_eq := rfl
  packetSizes_eq := rfl
  rv_eq := clean.rv_eq
  rvUnwrapped_eq := clean.rvUnwrapped_eq
  others := fun cbIdx _ inside =>
    clean.hbTb.blocks cbIdx (Nat.zero_le _) inside

variable {life : Life}

theorem Alive.work
    {before after : ProcessTx Block}
    (alive : before.Alive library id life)
    (worked : before.Work after) :
    after.Alive library id life := by
  refine ⟨?_, ?_, ?_, ?_, ?_, ?_, ?_⟩
  · rw [worked.toProcess_eq, alive.id_eq]
  · rw [worked.toProcess_eq, alive.plcfType_eq]
  · rw [worked.toProcess_eq, alive.networkId_eq]
  · rw [worked.toProcess_eq, alive.packetSizes_eq]
  · rw [worked.toProcess_eq, alive.rv_eq]
  · rw [worked.rvUnwrapped_eq, alive.rvUnwrapped_eq]
  · intro cbIdx unused inside
    rw [worked.toProcess_eq] at unused
    rw [worked.maxCb_eq] at inside
    rw [worked.others cbIdx unused]
    exact alive.others cbIdx unused inside

variable {process after : ProcessTx Block}

/-- A process that is finalized gives up its inner lock. -/
theorem finalize_locked (finalized : process.finalize library = .ok after) :
    after.lock =
      ⟨decide (process.finalizeTx ≠ .resetAndTerminate), false⟩ := by
  rw [finalize] at finalized
  cases mode : process.finalizeTx with
  | resetAndTerminate =>
      rw [mode] at finalized
      obtain ⟨_, rfl⟩ := resetAndTerminateFunc_eq_ok finalized
      rfl
  | increaseRvAndKeepRunning =>
      rw [mode] at finalized
      obtain ⟨_, _, finalized⟩ := Checked.bind_eq_ok.mp finalized
      obtain ⟨_, rfl⟩ := unlockInner_eq_ok finalized
      rfl
  | keepRvAndKeepRunning =>
      rw [mode] at finalized
      obtain ⟨_, rfl⟩ := unlockInner_eq_ok finalized
      rfl

/-- Terminating a process removes every trace of its packet. -/
theorem Alive.terminate
    (alive : process.Alive library id life)
    (mode : process.finalizeTx = .resetAndTerminate)
    (finalized : process.finalize library = .ok after) :
    after.Clean library id := by
  rw [finalize, mode] at finalized
  obtain ⟨_, rfl⟩ := resetAndTerminateFunc_eq_ok finalized
  exact {
    id_eq := alive.id_eq
    rv_eq := rfl
    rvUnwrapped_eq := rfl
    hbPlcf := BufferTx.resetACntAndSoftbuffer_clean library _
    hbTb := alive.others.clean
  }

/-- Keeping a process running keeps it alive. -/
theorem Alive.keep
    (alive : process.Alive library id life)
    (mode : process.finalizeTx ≠ .resetAndTerminate)
    (finalized : process.finalize library = .ok after) :
    after.Alive library id (process.finalizeTx.nextLife life) := by
  rw [finalize] at finalized
  cases kept : process.finalizeTx with
  | resetAndTerminate => exact absurd kept mode
  | increaseRvAndKeepRunning =>
      rw [kept] at finalized
      obtain ⟨stepped, next, finalized⟩ := Checked.bind_eq_ok.mp finalized
      have steppedEq := setNextRv_eq_ok alive.rv_eq next
      subst steppedEq
      obtain ⟨_, rfl⟩ := unlockInner_eq_ok finalized
      exact { alive with
        rv_eq := rfl
        rvUnwrapped_eq := congrArg Nat.succ alive.rvUnwrapped_eq }
  | keepRvAndKeepRunning =>
      rw [kept] at finalized
      obtain ⟨_, rfl⟩ := unlockInner_eq_ok finalized
      exact { alive with }

/-- Operations of the pool on one process. -/
def discipline
    (library : SoftbufferLibrary Block SoftBits) :
    SlotPool.Discipline (ProcessTx Block × Life) where
  outer slot := slot.1.lock.outer
  inner slot := slot.1.lock.inner
  Clean id slot := slot.1.Clean library id
  Alive id slot := slot.1.Alive library id slot.2
  Acquire before after :=
    ∃ plcfType networkId packetSizes ftx,
      before.1.lock = ⟨false, false⟩ ∧
      after = (before.1.started ⟨plcfType, networkId, packetSizes, 0⟩ ftx,
        ⟨plcfType, networkId, packetSizes, 0⟩)
  Resume before after :=
    ∃ ftx,
      before.1.lock = ⟨true, false⟩ ∧
      after = ({ before.1 with
        lock := ⟨true, true⟩
        finalizeTx := ftx }, before.2)
  Work before after :=
    before.1.Work after.1 ∧ after.2 = before.2
  Keep before after :=
    before.1.finalizeTx ≠ .resetAndTerminate ∧
      before.1.finalize library = .ok after.1 ∧
      after.2 = before.1.finalizeTx.nextLife before.2
  Terminate before after :=
    before.1.finalizeTx = .resetAndTerminate ∧
      before.1.finalize library = .ok after.1
  acquire_locks := by
    rintro ⟨before, _⟩ _ ⟨_, _, _, _, free, rfl⟩
    exact ⟨congrArg LockableOuterInner.outer free, rfl, rfl⟩
  resume_locks := by
    rintro ⟨before, _⟩ _ ⟨_, waiting, rfl⟩
    exact ⟨congrArg LockableOuterInner.outer waiting,
      congrArg LockableOuterInner.inner waiting, rfl, rfl⟩
  work_locks := by
    rintro ⟨before, _⟩ ⟨after, _⟩ ⟨worked, rfl⟩
    have same := congrArg Process.lock worked.toProcess_eq
    exact ⟨congrArg LockableOuterInner.outer same,
      congrArg LockableOuterInner.inner same⟩
  keep_locks := by
    rintro ⟨before, _⟩ ⟨after, _⟩ ⟨mode, finalized, rfl⟩
    have locks := finalize_locked finalized
    rw [decide_eq_true mode] at locks
    exact ⟨congrArg LockableOuterInner.outer locks,
      congrArg LockableOuterInner.inner locks⟩
  terminate_locks := by
    rintro ⟨before, _⟩ ⟨after, _⟩ ⟨mode, finalized⟩
    have locks := finalize_locked finalized
    rw [decide_eq_false (not_not.mpr mode)] at locks
    exact ⟨congrArg LockableOuterInner.outer locks,
      congrArg LockableOuterInner.inner locks⟩
  acquire_alive := by
    rintro id ⟨before, _⟩ _ clean
      ⟨plcfType, networkId, packetSizes, ftx, _, rfl⟩
    exact clean.started_alive plcfType networkId packetSizes ftx
  resume_alive := by
    rintro id ⟨before, _⟩ _ alive ⟨_, _, rfl⟩
    exact { alive with }
  work_alive := by
    rintro id ⟨before, _⟩ ⟨after, _⟩ alive ⟨worked, rfl⟩
    exact alive.work worked
  keep_alive := by
    rintro id ⟨before, _⟩ ⟨after, _⟩ alive ⟨mode, finalized, rfl⟩
    exact alive.keep mode finalized
  terminate_clean := by
    rintro id ⟨before, _⟩ ⟨after, _⟩ alive ⟨mode, finalized⟩
    exact alive.terminate mode finalized

end ProcessTx

namespace ProcessRx

/-- A process that was never started or is terminated. -/
structure Clean
    (library : SoftbufferLibrary Block SoftBits)
    (id : Nat)
    (process : ProcessRx SoftBits) :
    Prop where
  id_eq : process.id = id
  hbTb : process.hbTb.Clean library

/-- A process that was started. -/
structure Alive
    (library : SoftbufferLibrary Block SoftBits)
    (id : Nat)
    (process : ProcessRx SoftBits)
    (life : Life) :
    Prop where
  id_eq : process.id = id
  plcfType_eq : process.plcfType = life.plcfType
  networkId_eq : process.networkId = life.networkId
  packetSizes_eq : process.packetSizes = life.packetSizes
  others : process.hbTb.ResetFrom library process.packetSizes.C

/-- Users read octets and write the code blocks of their packet. -/
structure Work (before after : ProcessRx SoftBits) : Prop where
  toProcess_eq : after.toProcess = before.toProcess
  finalizeRx_eq : after.finalizeRx = before.finalizeRx
  maxCb_eq :
    after.hbTb.softbufferD.maxCb = before.hbTb.softbufferD.maxCb
  others :
    ∀ cbIdx, before.packetSizes.C ≤ cbIdx →
      after.hbTb.softbufferD.bufferF cbIdx =
        before.hbTb.softbufferD.bufferF cbIdx ∧
      after.hbTb.softbufferD.data cbIdx =
        before.hbTb.softbufferD.data cbIdx ∧
      after.hbTb.softbufferD.cbCrc cbIdx =
        before.hbTb.softbufferD.cbCrc cbIdx

/-- A process with the variables of a first transmission. -/
def started
    (process : ProcessRx SoftBits)
    (life : Life)
    (rv : Nat)
    (frx : FinalizeRx) :
    ProcessRx SoftBits :=
  { process with
    lock := ⟨true, true⟩
    plcfType := life.plcfType
    networkId := life.networkId
    packetSizes := life.packetSizes
    rv := rv
    finalizeRx := frx }

theorem new_clean
    (library : SoftbufferLibrary Block SoftBits)
    (maximumPacketSizes : PacketSizes)
    (tbMemory : SoftbufferRx SoftBits)
    (id : Nat) :
    (new library maximumPacketSizes tbMemory id).Clean library id where
  id_eq := rfl
  hbTb := BufferRx.new_clean library _ _ _ _

variable {library : SoftbufferLibrary Block SoftBits}

/-- A process that is started without a trace of its previous life is alive. -/
theorem Clean.started_alive
    {id : Nat}
    {process : ProcessRx SoftBits}
    (clean : process.Clean library id)
    (life : Life)
    (rv : Nat)
    (frx : FinalizeRx) :
    (process.started life rv frx).Alive library id life where
  id_eq := clean.id_eq
  plcfType_eq := rfl
  networkId_eq := rfl
  packetSizes_eq := rfl
  others := fun cbIdx _ inside =>
    clean.hbTb.blocks cbIdx (Nat.zero_le _) inside

theorem Alive.work
    {id : Nat}
    {before after : ProcessRx SoftBits}
    {life : Life}
    (alive : before.Alive library id life)
    (worked : before.Work after) :
    after.Alive library id life := by
  refine ⟨?_, ?_, ?_, ?_, ?_⟩
  · rw [worked.toProcess_eq, alive.id_eq]
  · rw [worked.toProcess_eq, alive.plcfType_eq]
  · rw [worked.toProcess_eq, alive.networkId_eq]
  · rw [worked.toProcess_eq, alive.packetSizes_eq]
  · intro cbIdx unused inside
    rw [worked.toProcess_eq] at unused
    rw [worked.maxCb_eq] at inside
    obtain ⟨sameSoftBits, sameData, sameFlag⟩ := worked.others cbIdx unused
    rw [sameSoftBits, sameData, sameFlag]
    exact alive.others cbIdx unused inside

/-- Finalizing a process terminates it or releases its inner lock only. -/
theorem finalize_eq_ok
    {process after : ProcessRx SoftBits}
    {crcStatus : Bool}
    (finalized : process.finalize library crcStatus = .ok after) :
    if process.finalizeRx.terminates crcStatus then
      process.resetAndTerminateFunc library = .ok after
    else process.unlockInner = .ok after := by
  rw [finalize] at finalized
  cases mode : process.finalizeRx with
  | resetAndTerminate =>
      rw [mode] at finalized
      exact finalized
  | keepRunning =>
      rw [mode] at finalized
      exact finalized
  | keepRunningOrResetAndTerminateIfCrcCorrect =>
      rw [mode] at finalized
      cases crcStatus with
      | true => exact finalized
      | false => exact finalized

/-- Operations of the pool on one process. -/
def discipline
    (library : SoftbufferLibrary Block SoftBits) :
    SlotPool.Discipline (ProcessRx SoftBits × Life) where
  outer slot := slot.1.lock.outer
  inner slot := slot.1.lock.inner
  Clean id slot := slot.1.Clean library id
  Alive id slot := slot.1.Alive library id slot.2
  Acquire before after :=
    ∃ life rv frx,
      before.1.lock = ⟨false, false⟩ ∧
      after = (before.1.started life rv frx, life)
  Resume before after :=
    ∃ rv frx,
      before.1.lock = ⟨true, false⟩ ∧
      after = ({ before.1 with
        lock := ⟨true, true⟩
        rv := rv
        finalizeRx := frx }, before.2)
  Work before after :=
    before.1.Work after.1 ∧ after.2 = before.2
  Keep before after :=
    ∃ process,
      before.1.unlockInner = .ok process ∧
      after = (process, before.2)
  Terminate before after :=
    before.1.resetAndTerminateFunc library = .ok after.1
  acquire_locks := by
    rintro ⟨before, _⟩ _ ⟨_, _, _, free, rfl⟩
    exact ⟨congrArg LockableOuterInner.outer free, rfl, rfl⟩
  resume_locks := by
    rintro ⟨before, _⟩ _ ⟨_, _, waiting, rfl⟩
    exact ⟨congrArg LockableOuterInner.outer waiting,
      congrArg LockableOuterInner.inner waiting, rfl, rfl⟩
  work_locks := by
    rintro ⟨before, _⟩ ⟨after, _⟩ ⟨worked, rfl⟩
    have same := congrArg Process.lock worked.toProcess_eq
    exact ⟨congrArg LockableOuterInner.outer same,
      congrArg LockableOuterInner.inner same⟩
  keep_locks := by
    rintro ⟨before, _⟩ _ ⟨_, kept, rfl⟩
    obtain ⟨_, rfl⟩ := unlockInner_eq_ok kept
    exact ⟨rfl, rfl⟩
  terminate_locks := by
    rintro ⟨before, _⟩ ⟨after, _⟩ terminated
    obtain ⟨_, rfl⟩ := resetAndTerminateFunc_eq_ok terminated
    exact ⟨rfl, rfl⟩
  acquire_alive := by
    rintro id ⟨before, _⟩ _ clean ⟨life, rv, frx, _, rfl⟩
    exact clean.started_alive life rv frx
  resume_alive := by
    rintro id ⟨before, _⟩ _ alive ⟨_, _, _, rfl⟩
    exact { alive with }
  work_alive := by
    rintro id ⟨before, _⟩ ⟨after, _⟩ alive ⟨worked, rfl⟩
    exact alive.work worked
  keep_alive := by
    rintro id ⟨before, _⟩ _ alive ⟨_, kept, rfl⟩
    obtain ⟨_, rfl⟩ := unlockInner_eq_ok kept
    exact { alive with }
  terminate_clean := by
    rintro id ⟨before, _⟩ ⟨after, _⟩ alive terminated
    obtain ⟨_, rfl⟩ := resetAndTerminateFunc_eq_ok terminated
    exact ⟨alive.id_eq, alive.others.clean⟩

end ProcessRx

end

end DectNrp
