import DectNrp.HarqDiscipline
import DectNrp.HarqProcessPool

namespace DectNrp

/-!
# Life cycle of HARQ processes

Any number of users obtain processes from the pool, work with them and finalize
them in any order.  Every call on the pool is a step of the discipline of one
process, so the locks of a process tell who uses it in every run.
-/

open ProcessPool (getProcessRxRunning_eq_ok getProcessRx_eq_ok getProcessTxRunning_eq_ok getProcessTx_eq_ok)
open Function (update update_self)
open SlotPool (Lease)

/-- The pool and what is known about its processes. -/
structure HarqState (Block SoftBits User : Type) where
  pool : ProcessPool Block SoftBits
  txLease : Nat → Lease User
  rxLease : Nat → Lease User
  txLife : Nat → Life
  rxLife : Nat → Life

section

variable {Block SoftBits User Psdef : Type}

namespace HarqState

/-- A transmitting process was handed out to a user. -/
def takeTx
    (state : HarqState Block SoftBits User)
    (pool : ProcessPool Block SoftBits)
    (user : User)
    (id : Nat)
    (life : Life) :
    HarqState Block SoftBits User :=
  { state with
    pool := pool
    txLease := Function.update state.txLease id (.held user)
    txLife := Function.update state.txLife id life }

/-- A receiving process was handed out to a user. -/
def takeRx
    (state : HarqState Block SoftBits User)
    (pool : ProcessPool Block SoftBits)
    (user : User)
    (id : Nat)
    (life : Life) :
    HarqState Block SoftBits User :=
  { state with
    pool := pool
    rxLease := Function.update state.rxLease id (.held user)
    rxLife := Function.update state.rxLife id life }

/-- The content of a transmitting process changed. -/
def changeTx
    (state : HarqState Block SoftBits User)
    (id : Nat)
    (process : ProcessTx Block)
    (lease : Lease User)
    (life : Life) :
    HarqState Block SoftBits User :=
  { state with
    pool := { state.pool with
      hpTxVec := Function.update state.pool.hpTxVec id process }
    txLease := Function.update state.txLease id lease
    txLife := Function.update state.txLife id life }

/-- The content of a receiving process changed. -/
def changeRx
    (state : HarqState Block SoftBits User)
    (id : Nat)
    (process : ProcessRx SoftBits)
    (lease : Lease User)
    (life : Life) :
    HarqState Block SoftBits User :=
  { state with
    pool := { state.pool with
      hpRxVec := Function.update state.pool.hpRxVec id process }
    rxLease := Function.update state.rxLease id lease
    rxLife := Function.update state.rxLife id life }

/-- The transmitting processes as slots. -/
def txSlots
    (state : HarqState Block SoftBits User) :
    SlotPool.Pool (ProcessTx Block × Life) User where
  content id := (state.pool.hpTxVec id, state.txLife id)
  lease := state.txLease

/-- The receiving processes as slots. -/
def rxSlots
    (state : HarqState Block SoftBits User) :
    SlotPool.Pool (ProcessRx SoftBits × Life) User where
  content id := (state.pool.hpRxVec id, state.rxLife id)
  lease := state.rxLease

/-- Nobody has used the processes of a pool that was just constructed. -/
structure Initial
    (library : SoftbufferLibrary Block SoftBits)
    (state : HarqState Block SoftBits User) :
    Prop where
  pool :
    ∃ maximumPacketSizes nofProcessTx nofProcessRx
        plcfMemory tbMemory rxMemory,
      state.pool =
        .new library maximumPacketSizes nofProcessTx nofProcessRx
          plcfMemory tbMemory rxMemory
  txLease : ∀ id, state.txLease id = .terminated
  rxLease : ∀ id, state.rxLease id = .terminated

end HarqState

/-- Lease of a process after its user finalized it. -/
def leaseAfter (User : Type) (terminated : Bool) : Lease User :=
  if terminated then .terminated else .waiting

/-- Calls on the pool and work of the users. -/
inductive HarqStep
    (library : SoftbufferLibrary Block SoftBits)
    (getPacketSizes : Psdef → Option PacketSizes) :
    HarqState Block SoftBits User →
      HarqState Block SoftBits User → Prop where
  | getProcessTx
      (state : HarqState Block SoftBits User)
      (user : User)
      (plcfType networkId id : Nat)
      (psdef : Psdef)
      (packetSizes : PacketSizes)
      (ftx : FinalizeTx)
      (pool : ProcessPool Block SoftBits)
      (sizes : getPacketSizes psdef = some packetSizes)
      (returned :
        state.pool.getProcessTx getPacketSizes plcfType networkId psdef
          ftx = .ok (some id, pool)) :
      HarqStep library getPacketSizes state
        (state.takeTx pool user id
          ⟨plcfType, networkId, packetSizes, 0⟩)
  | noProcessTx
      (state : HarqState Block SoftBits User)
      (plcfType networkId : Nat)
      (psdef : Psdef)
      (ftx : FinalizeTx)
      (pool : ProcessPool Block SoftBits)
      (returned :
        state.pool.getProcessTx getPacketSizes plcfType networkId psdef
          ftx = .ok (none, pool)) :
      HarqStep library getPacketSizes state { state with pool := pool }
  | getProcessRx
      (state : HarqState Block SoftBits User)
      (user : User)
      (plcfType networkId rv id : Nat)
      (psdef : Psdef)
      (packetSizes : PacketSizes)
      (frx : FinalizeRx)
      (pool : ProcessPool Block SoftBits)
      (sizes : getPacketSizes psdef = some packetSizes)
      (returned :
        state.pool.getProcessRx getPacketSizes plcfType networkId psdef
          rv frx = .ok (some id, pool)) :
      HarqStep library getPacketSizes state
        (state.takeRx pool user id
          ⟨plcfType, networkId, packetSizes, 0⟩)
  | noProcessRx
      (state : HarqState Block SoftBits User)
      (plcfType networkId rv : Nat)
      (psdef : Psdef)
      (frx : FinalizeRx)
      (pool : ProcessPool Block SoftBits)
      (returned :
        state.pool.getProcessRx getPacketSizes plcfType networkId psdef
          rv frx = .ok (none, pool)) :
      HarqStep library getPacketSizes state { state with pool := pool }
  | getProcessTxRunning
      (state : HarqState Block SoftBits User)
      (user : User)
      (named id : Nat)
      (ftx : FinalizeTx)
      (pool : ProcessPool Block SoftBits)
      (returned :
        state.pool.getProcessTxRunning named ftx = .ok (some id, pool)) :
      HarqStep library getPacketSizes state
        (state.takeTx pool user id (state.txLife id))
  | noProcessTxRunning
      (state : HarqState Block SoftBits User)
      (named : Nat)
      (ftx : FinalizeTx)
      (pool : ProcessPool Block SoftBits)
      (returned :
        state.pool.getProcessTxRunning named ftx = .ok (none, pool)) :
      HarqStep library getPacketSizes state { state with pool := pool }
  | getProcessRxRunning
      (state : HarqState Block SoftBits User)
      (user : User)
      (named rv id : Nat)
      (frx : FinalizeRx)
      (pool : ProcessPool Block SoftBits)
      (returned :
        state.pool.getProcessRxRunning named rv frx =
          .ok (some id, pool)) :
      HarqStep library getPacketSizes state
        (state.takeRx pool user id (state.rxLife id))
  | noProcessRxRunning
      (state : HarqState Block SoftBits User)
      (named rv : Nat)
      (frx : FinalizeRx)
      (pool : ProcessPool Block SoftBits)
      (returned :
        state.pool.getProcessRxRunning named rv frx = .ok (none, pool)) :
      HarqStep library getPacketSizes state { state with pool := pool }
  | workTx
      (state : HarqState Block SoftBits User)
      (user : User)
      (id : Nat)
      (process : ProcessTx Block)
      (holds : state.txLease id = .held user)
      (worked : (state.pool.hpTxVec id).Work process) :
      HarqStep library getPacketSizes state
        (state.changeTx id process (.held user) (state.txLife id))
  | workRx
      (state : HarqState Block SoftBits User)
      (user : User)
      (id : Nat)
      (process : ProcessRx SoftBits)
      (holds : state.rxLease id = .held user)
      (worked : (state.pool.hpRxVec id).Work process) :
      HarqStep library getPacketSizes state
        (state.changeRx id process (.held user) (state.rxLife id))
  | finalizeTx
      (state : HarqState Block SoftBits User)
      (user : User)
      (id : Nat)
      (process : ProcessTx Block)
      (holds : state.txLease id = .held user)
      (finalized :
        (state.pool.hpTxVec id).finalize library = .ok process) :
      HarqStep library getPacketSizes state
        (state.changeTx id process
          (leaseAfter User
            ((state.pool.hpTxVec id).finalizeTx = .resetAndTerminate))
          ((state.pool.hpTxVec id).finalizeTx.nextLife
            (state.txLife id)))
  | finalizeRx
      (state : HarqState Block SoftBits User)
      (user : User)
      (id : Nat)
      (crcStatus : Bool)
      (process : ProcessRx SoftBits)
      (holds : state.rxLease id = .held user)
      (finalized :
        (state.pool.hpRxVec id).finalize library crcStatus =
          .ok process) :
      HarqStep library getPacketSizes state
        (state.changeRx id process
          (leaseAfter User
            ((state.pool.hpRxVec id).finalizeRx.terminates crcStatus))
          (state.rxLife id))

theorem update_pair
    {First Second : Type}
    (firsts : Nat → First)
    (seconds : Nat → Second)
    (index : Nat)
    (first : First)
    (second : Second) :
    (fun other =>
        (update firsts index first other, update seconds index second other)) =
      update (fun other => (firsts other, seconds other)) index
        (first, second) := by
  funext other
  by_cases same : other = index
  · subst same
    simp only [update_self]
  · simp only [Function.update_of_ne same]

namespace HarqState

variable
  {library : SoftbufferLibrary Block SoftBits}
  {before after : HarqState Block SoftBits User}

/-- A step of one process is a step of the slots. -/
theorem txSlots_step
    {id : Nat}
    {process : ProcessTx Block}
    {lease : Lease User}
    {life : Life}
    (processes : after.pool.hpTxVec = update before.pool.hpTxVec id process)
    (leases : after.txLease = update before.txLease id lease)
    (lives : after.txLife = update before.txLife id life)
    (step :
      SlotPool.Step (ProcessTx.discipline library) before.txSlots
        (before.txSlots.set id (process, life) lease)) :
    Relation.ReflTransGen
      (SlotPool.Step (ProcessTx.discipline library))
      before.txSlots after.txSlots := by
  have changed :
      after.txSlots = before.txSlots.set id (process, life) lease := by
    rw [txSlots, processes, leases, lives, update_pair]
    rfl
  rw [changed]
  exact .single step

/-- A step of one process is a step of the slots. -/
theorem rxSlots_step
    {id : Nat}
    {process : ProcessRx SoftBits}
    {lease : Lease User}
    {life : Life}
    (processes : after.pool.hpRxVec = update before.pool.hpRxVec id process)
    (leases : after.rxLease = update before.rxLease id lease)
    (lives : after.rxLife = update before.rxLife id life)
    (step :
      SlotPool.Step (ProcessRx.discipline library) before.rxSlots
        (before.rxSlots.set id (process, life) lease)) :
    Relation.ReflTransGen
      (SlotPool.Step (ProcessRx.discipline library))
      before.rxSlots after.rxSlots := by
  have changed :
      after.rxSlots = before.rxSlots.set id (process, life) lease := by
    rw [rxSlots, processes, leases, lives, update_pair]
    rfl
  rw [changed]
  exact .single step

end HarqState

variable
  {library : SoftbufferLibrary Block SoftBits}
  {getPacketSizes : Psdef → Option PacketSizes}
  {before after : HarqState Block SoftBits User}

/-- Every step is at most one step of the transmitting processes. -/
theorem HarqStep.txSlots
    (step : HarqStep library getPacketSizes before after) :
    Relation.ReflTransGen
      (SlotPool.Step (ProcessTx.discipline library))
      before.txSlots after.txSlots := by
  cases step with
  | getProcessTx user plcfType networkId id psdef packetSizes ftx pool
      sizes returned =>
      rcases getProcessTx_eq_ok returned with
          ⟨nothing, _⟩ | ⟨found, foundSizes, isFound, defined, free, rfl⟩
      · cases nothing
      · cases isFound
        cases sizes.symm.trans defined
        exact HarqState.txSlots_step rfl rfl rfl (.acquire _ id user _
          ⟨plcfType, networkId, packetSizes, ftx, free, rfl⟩)
  | noProcessTx plcfType networkId psdef ftx pool returned =>
      rcases getProcessTx_eq_ok returned with
          ⟨_, rfl⟩ | ⟨_, _, isFound, _⟩
      · exact .refl
      · cases isFound
  | getProcessRx user plcfType networkId rv id psdef packetSizes frx pool
      sizes returned =>
      rcases getProcessRx_eq_ok returned with
          ⟨_, rfl⟩ | ⟨_, _, _, _, _, rfl⟩
      · exact .refl
      · exact .refl
  | noProcessRx plcfType networkId rv psdef frx pool returned =>
      rcases getProcessRx_eq_ok returned with
          ⟨_, rfl⟩ | ⟨_, _, isFound, _⟩
      · exact .refl
      · cases isFound
  | getProcessTxRunning user named id ftx pool returned =>
      rcases getProcessTxRunning_eq_ok returned with
          ⟨nothing, _⟩ | ⟨isFound, waiting, rfl⟩
      · cases nothing
      · cases isFound
        exact HarqState.txSlots_step rfl rfl rfl
          (.resume _ named user _ ⟨ftx, waiting, rfl⟩)
  | noProcessTxRunning named ftx pool returned =>
      rcases getProcessTxRunning_eq_ok returned with
          ⟨_, rfl⟩ | ⟨isFound, _⟩
      · exact .refl
      · cases isFound
  | getProcessRxRunning user named rv id frx pool returned =>
      rcases getProcessRxRunning_eq_ok returned with
          ⟨_, rfl⟩ | ⟨_, _, rfl⟩
      · exact .refl
      · exact .refl
  | noProcessRxRunning named rv frx pool returned =>
      rcases getProcessRxRunning_eq_ok returned with
          ⟨_, rfl⟩ | ⟨isFound, _⟩
      · exact .refl
      · cases isFound
  | workTx user id process holds worked =>
      exact HarqState.txSlots_step rfl rfl rfl
        (.work _ id user _ holds ⟨worked, rfl⟩)
  | workRx user id process holds worked => exact .refl
  | finalizeTx user id process holds finalized =>
      by_cases mode : (before.pool.hpTxVec id).finalizeTx = .resetAndTerminate
      · rw [decide_eq_true mode]
        exact HarqState.txSlots_step rfl rfl rfl
          (.terminate _ id user _ holds ⟨mode, finalized⟩)
      · rw [decide_eq_false mode]
        exact HarqState.txSlots_step rfl rfl rfl
          (.keep _ id user _ holds ⟨mode, finalized, rfl⟩)
  | finalizeRx user id crcStatus process holds finalized => exact .refl

/-- Every step is at most one step of the receiving processes. -/
theorem HarqStep.rxSlots
    (step : HarqStep library getPacketSizes before after) :
    Relation.ReflTransGen
      (SlotPool.Step (ProcessRx.discipline library))
      before.rxSlots after.rxSlots := by
  cases step with
  | getProcessTx user plcfType networkId id psdef packetSizes ftx pool
      sizes returned =>
      rcases getProcessTx_eq_ok returned with
          ⟨_, rfl⟩ | ⟨_, _, _, _, _, rfl⟩
      · exact .refl
      · exact .refl
  | noProcessTx plcfType networkId psdef ftx pool returned =>
      rcases getProcessTx_eq_ok returned with
          ⟨_, rfl⟩ | ⟨_, _, isFound, _⟩
      · exact .refl
      · cases isFound
  | getProcessRx user plcfType networkId rv id psdef packetSizes frx pool
      sizes returned =>
      rcases getProcessRx_eq_ok returned with
          ⟨nothing, _⟩ | ⟨found, foundSizes, isFound, defined, free, rfl⟩
      · cases nothing
      · cases isFound
        cases sizes.symm.trans defined
        exact HarqState.rxSlots_step rfl rfl rfl (.acquire _ id user _
            ⟨⟨plcfType, networkId, packetSizes, 0⟩, rv, frx, free, rfl⟩)
  | noProcessRx plcfType networkId rv psdef frx pool returned =>
      rcases getProcessRx_eq_ok returned with
          ⟨_, rfl⟩ | ⟨_, _, isFound, _⟩
      · exact .refl
      · cases isFound
  | getProcessTxRunning user named id ftx pool returned =>
      rcases getProcessTxRunning_eq_ok returned with
          ⟨_, rfl⟩ | ⟨_, _, rfl⟩
      · exact .refl
      · exact .refl
  | noProcessTxRunning named ftx pool returned =>
      rcases getProcessTxRunning_eq_ok returned with
          ⟨_, rfl⟩ | ⟨isFound, _⟩
      · exact .refl
      · cases isFound
  | getProcessRxRunning user named rv id frx pool returned =>
      rcases getProcessRxRunning_eq_ok returned with
          ⟨nothing, _⟩ | ⟨isFound, waiting, rfl⟩
      · cases nothing
      · cases isFound
        exact HarqState.rxSlots_step rfl rfl rfl
          (.resume _ named user _ ⟨rv, frx, waiting, rfl⟩)
  | noProcessRxRunning named rv frx pool returned =>
      rcases getProcessRxRunning_eq_ok returned with
          ⟨_, rfl⟩ | ⟨isFound, _⟩
      · exact .refl
      · cases isFound
  | workTx user id process holds worked => exact .refl
  | workRx user id process holds worked =>
      exact HarqState.rxSlots_step rfl rfl rfl
        (.work _ id user _ holds ⟨worked, rfl⟩)
  | finalizeTx user id process holds finalized => exact .refl
  | finalizeRx user id crcStatus process holds finalized =>
      have effect := ProcessRx.finalize_eq_ok finalized
      by_cases terminates :
          (before.pool.hpRxVec id).finalizeRx.terminates crcStatus = true
      · rw [if_pos terminates] at effect
        rw [terminates]
        exact HarqState.rxSlots_step rfl rfl rfl
          (.terminate _ id user _ holds effect)
      · rw [if_neg terminates] at effect
        rw [Bool.not_eq_true] at terminates
        rw [terminates]
        exact HarqState.rxSlots_step rfl rfl rfl
          (.keep _ id user _ holds ⟨_, effect, rfl⟩)

/-- The locks of a process tell who uses it. -/
structure LocksTell
    (lock : LockableOuterInner)
    (lease : Lease User) :
    Prop where
  outer : lock.outer = true ↔ lease ≠ .terminated
  inner : lock.inner = true ↔ ∃ user, lease = .held user
  nested : lock.inner = true → lock.outer = true

theorem LocksTell.of_agrees
    {lock : LockableOuterInner}
    {lease : Lease User}
    (agrees : lease.Agrees lock.outer lock.inner) :
    LocksTell lock lease := by
  cases lease with
  | terminated =>
      obtain ⟨outer, inner⟩ := agrees
      constructor <;> simp [outer, inner]
  | waiting =>
      obtain ⟨outer, inner⟩ := agrees
      constructor <;> simp [outer, inner]
  | held user =>
      obtain ⟨outer, inner⟩ := agrees
      constructor <;> simp [outer, inner]

namespace HarqState

/-- What holds of the pool and of every process that a call may hand out. -/
structure LifeCycle
    (library : SoftbufferLibrary Block SoftBits)
    (getPacketSizes : Psdef → Option PacketSizes)
    (state : HarqState Block SoftBits User) :
    Prop where
  txLocks :
    ∀ id, LocksTell (state.pool.hpTxVec id).lock (state.txLease id)
  rxLocks :
    ∀ id, LocksTell (state.pool.hpRxVec id).lock (state.rxLease id)
  /-- New transmissions use processes without a trace of a previous packet. -/
  newTx :
    ∀ plcfType networkId psdef ftx id pool,
      state.pool.getProcessTx getPacketSizes plcfType networkId psdef
          ftx = .ok (some id, pool) →
        state.txLease id = .terminated ∧
        (pool.hpTxVec id).id = id ∧
        (pool.hpTxVec id).networkId = networkId ∧
        (pool.hpTxVec id).rv = 0 ∧
        (pool.hpTxVec id).hbPlcf.Clean library ∧
        (pool.hpTxVec id).hbTb.Clean library
  newRx :
    ∀ plcfType networkId psdef rv frx id pool,
      state.pool.getProcessRx getPacketSizes plcfType networkId psdef rv
          frx = .ok (some id, pool) →
        state.rxLease id = .terminated ∧
        (pool.hpRxVec id).id = id ∧
        (pool.hpRxVec id).networkId = networkId ∧
        (pool.hpRxVec id).rv = rv ∧
        (pool.hpRxVec id).hbTb.Clean library
  /-- Retransmissions use the process that is named, as it was started. -/
  runningTx :
    ∀ named ftx id pool,
      state.pool.getProcessTxRunning named ftx = .ok (some id, pool) →
        id = named ∧
        (pool.hpTxVec id).id = named ∧
        state.txLease id = .waiting ∧
        (pool.hpTxVec id).plcfType = (state.txLife id).plcfType ∧
        (pool.hpTxVec id).networkId = (state.txLife id).networkId ∧
        (pool.hpTxVec id).packetSizes = (state.txLife id).packetSizes
  runningRx :
    ∀ named rv frx id pool,
      state.pool.getProcessRxRunning named rv frx =
          .ok (some id, pool) →
        id = named ∧
        (pool.hpRxVec id).id = named ∧
        state.rxLease id = .waiting ∧
        (pool.hpRxVec id).rv = rv ∧
        (pool.hpRxVec id).plcfType = (state.rxLife id).plcfType ∧
        (pool.hpRxVec id).networkId = (state.rxLife id).networkId ∧
        (pool.hpRxVec id).packetSizes = (state.rxLife id).packetSizes
  /-- Redundancy versions of a process that was started. -/
  txRv :
    ∀ id, state.txLease id ≠ .terminated →
      (state.pool.hpTxVec id).rv = rvCycle (state.txLife id).rvSteps

/-- Locks, leases and contents of all processes fit together. -/
structure Invariant
    (library : SoftbufferLibrary Block SoftBits)
    (state : HarqState Block SoftBits User) :
    Prop where
  tx : SlotPool.Invariant (ProcessTx.discipline library) state.txSlots
  rx : SlotPool.Invariant (ProcessRx.discipline library) state.rxSlots

variable
  {library : SoftbufferLibrary Block SoftBits}
  {state : HarqState Block SoftBits User}

theorem Initial.invariant (initial : state.Initial library) :
    state.Invariant library := by
  obtain ⟨⟨_, _, _, _, _, _, pool⟩, txLease, rxLease⟩ := initial
  refine ⟨fun id => ?_, fun id => ?_⟩
  · refine ⟨?_, fun _ => ?_, fun isUsed => ?_⟩
    · have lease : state.txSlots.lease id = .terminated := txLease id
      rw [lease, txSlots, pool]
      exact ⟨rfl, rfl⟩
    · rw [txSlots, pool]
      exact ProcessTx.new_clean library _ _ _ id
    · rw [txSlots, pool] at isUsed
      cases isUsed
  · refine ⟨?_, fun _ => ?_, fun isUsed => ?_⟩
    · have lease : state.rxSlots.lease id = .terminated := rxLease id
      rw [lease, rxSlots, pool]
      exact ⟨rfl, rfl⟩
    · rw [rxSlots, pool]
      exact ProcessRx.new_clean library _ _ id
    · rw [rxSlots, pool] at isUsed
      cases isUsed

/-- Every run keeps locks, leases and contents together. -/
theorem Invariant.run
    {library : SoftbufferLibrary Block SoftBits}
    {getPacketSizes : Psdef → Option PacketSizes}
    {first last : HarqState Block SoftBits User}
    (invariant : first.Invariant library)
    (run :
      Relation.ReflTransGen (HarqStep library getPacketSizes) first last) :
    last.Invariant library := by
  induction run with
  | refl => exact invariant
  | tail _ step hypothesis =>
      exact ⟨hypothesis.tx.run step.txSlots, hypothesis.rx.run step.rxSlots⟩

variable {pool : ProcessPool Block SoftBits}

variable {getPacketSizes : Psdef → Option PacketSizes}

theorem Invariant.newTx
    (invariant : state.Invariant library)
    {plcfType networkId id : Nat}
    {psdef : Psdef}
    {ftx : FinalizeTx}
    (returned :
      state.pool.getProcessTx getPacketSizes plcfType networkId psdef
        ftx = .ok (some id, pool)) :
    state.txLease id = .terminated ∧
      (pool.hpTxVec id).id = id ∧
      (pool.hpTxVec id).networkId = networkId ∧
      (pool.hpTxVec id).rv = 0 ∧
      (pool.hpTxVec id).hbPlcf.Clean library ∧
      (pool.hpTxVec id).hbTb.Clean library := by
  rcases getProcessTx_eq_ok returned with
      ⟨nothing, _⟩ | ⟨found, packetSizes, isFound, _, free, rfl⟩
  · cases nothing
  · cases isFound
    have acquired : (ProcessTx.discipline library).Acquire
        (state.txSlots.content id) (_, _) :=
      ⟨plcfType, networkId, packetSizes, ftx, free, rfl⟩
    obtain ⟨terminated, clean⟩ := invariant.tx.acquired acquired
    simp only [update_self]
    exact ⟨terminated, clean.id_eq, trivial, clean.rv_eq,
      clean.hbPlcf, clean.hbTb⟩

theorem Invariant.newRx
    (invariant : state.Invariant library)
    {plcfType networkId rv id : Nat}
    {psdef : Psdef}
    {frx : FinalizeRx}
    (returned :
      state.pool.getProcessRx getPacketSizes plcfType networkId psdef rv
        frx = .ok (some id, pool)) :
    state.rxLease id = .terminated ∧
      (pool.hpRxVec id).id = id ∧
      (pool.hpRxVec id).networkId = networkId ∧
      (pool.hpRxVec id).rv = rv ∧
      (pool.hpRxVec id).hbTb.Clean library := by
  rcases getProcessRx_eq_ok returned with
      ⟨nothing, _⟩ | ⟨found, packetSizes, isFound, _, free, rfl⟩
  · cases nothing
  · cases isFound
    have acquired : (ProcessRx.discipline library).Acquire
        (state.rxSlots.content id) (_, _) :=
      ⟨⟨plcfType, networkId, packetSizes, 0⟩, rv, frx, free, rfl⟩
    obtain ⟨terminated, clean⟩ := invariant.rx.acquired acquired
    simp only [update_self]
    exact ⟨terminated, clean.id_eq, trivial, trivial, clean.hbTb⟩

theorem Invariant.runningTx
    (invariant : state.Invariant library)
    {named id : Nat}
    {ftx : FinalizeTx}
    (returned :
      state.pool.getProcessTxRunning named ftx = .ok (some id, pool)) :
    id = named ∧
      (pool.hpTxVec id).id = named ∧
      state.txLease id = .waiting ∧
      (pool.hpTxVec id).plcfType = (state.txLife id).plcfType ∧
      (pool.hpTxVec id).networkId = (state.txLife id).networkId ∧
      (pool.hpTxVec id).packetSizes = (state.txLife id).packetSizes := by
  rcases getProcessTxRunning_eq_ok returned with
      ⟨nothing, _⟩ | ⟨isFound, idle, rfl⟩
  · cases nothing
  · cases isFound
    have resumed : (ProcessTx.discipline library).Resume
        (state.txSlots.content named) (_, _) :=
      ⟨ftx, idle, rfl⟩
    obtain ⟨waiting, alive⟩ := invariant.tx.resumed resumed
    simp only [update_self]
    exact ⟨trivial, alive.id_eq, waiting, alive.plcfType_eq,
      alive.networkId_eq, alive.packetSizes_eq⟩

theorem Invariant.runningRx
    (invariant : state.Invariant library)
    {named rv id : Nat}
    {frx : FinalizeRx}
    (returned :
      state.pool.getProcessRxRunning named rv frx = .ok (some id, pool)) :
    id = named ∧
      (pool.hpRxVec id).id = named ∧
      state.rxLease id = .waiting ∧
      (pool.hpRxVec id).rv = rv ∧
      (pool.hpRxVec id).plcfType = (state.rxLife id).plcfType ∧
      (pool.hpRxVec id).networkId = (state.rxLife id).networkId ∧
      (pool.hpRxVec id).packetSizes = (state.rxLife id).packetSizes := by
  rcases getProcessRxRunning_eq_ok returned with
      ⟨nothing, _⟩ | ⟨isFound, idle, rfl⟩
  · cases nothing
  · cases isFound
    have resumed : (ProcessRx.discipline library).Resume
        (state.rxSlots.content named) (_, _) :=
      ⟨rv, frx, idle, rfl⟩
    obtain ⟨waiting, alive⟩ := invariant.rx.resumed resumed
    simp only [update_self]
    exact ⟨trivial, alive.id_eq, waiting, trivial, alive.plcfType_eq,
      alive.networkId_eq, alive.packetSizes_eq⟩

theorem Invariant.lifeCycle
    (invariant : state.Invariant library)
    (getPacketSizes : Psdef → Option PacketSizes) :
    state.LifeCycle library getPacketSizes where
  txLocks id := .of_agrees (invariant.tx id).agrees
  rxLocks id := .of_agrees (invariant.rx id).agrees
  newTx _ _ _ _ _ _ returned := invariant.newTx returned
  newRx _ _ _ _ _ _ _ returned := invariant.newRx returned
  runningTx _ _ _ _ returned := invariant.runningTx returned
  runningRx _ _ _ _ _ returned := invariant.runningRx returned
  txRv id isUsed :=
    ((invariant.tx id).alive
      ((LocksTell.of_agrees (invariant.tx id).agrees).outer.mpr isUsed)).rv_eq

end HarqState

/-- In every run, the pool and its processes follow the life cycle. -/
theorem HarqState.run_lifeCycle
    {library : SoftbufferLibrary Block SoftBits}
    {getPacketSizes : Psdef → Option PacketSizes}
    {first last : HarqState Block SoftBits User}
    (initial : first.Initial library)
    (run :
      Relation.ReflTransGen (HarqStep library getPacketSizes)
        first last) :
    last.LifeCycle library getPacketSizes :=
  (initial.invariant.run run).lifeCycle getPacketSizes

end

/-- Soft buffers whose code blocks are single octets. -/
def octetSoftbuffers : SoftbufferLibrary UInt8 UInt8 where
  resetBlock := 0
  resetSoftBits := 0
  txResetCb _ nofCb blocks cbIdx :=
    if cbIdx < nofCb then 0 else blocks cbIdx
  txReset _ _ _ := 0
  rxResetCb softbuffer nofCb := { softbuffer with
    bufferF := fun cbIdx =>
      if cbIdx < nofCb then 0 else softbuffer.bufferF cbIdx
    data := fun cbIdx =>
      if cbIdx < nofCb then fun _ => 0 else softbuffer.data cbIdx
    cbCrc := fun cbIdx =>
      if cbIdx < nofCb then false else softbuffer.cbCrc cbIdx }
  rxReset softbuffer := { softbuffer with
    bufferF := fun _ => 0
    data := fun _ _ => 0
    cbCrc := fun _ => false }
  txResetCb_reset _ _ _ _ _ reset := if_pos reset
  txResetCb_other _ _ _ _ kept := if_neg (Nat.not_lt.mpr kept)
  txReset_reset _ _ _ _ := rfl
  rxResetCb_maxCb _ _ := rfl
  rxResetCb_reset _ _ _ _ reset :=
    ⟨if_pos reset, if_pos reset, if_pos reset⟩
  rxResetCb_other _ _ _ kept :=
    have notReset := Nat.not_lt.mpr kept
    ⟨if_neg notReset, if_neg notReset, if_neg notReset⟩
  rxReset_maxCb _ := rfl
  rxReset_reset _ _ _ := ⟨rfl, rfl, rfl⟩

/-- All packets have ten octets in one code block. -/
def tenOctets (_ : Unit) : Option PacketSizes :=
  some ⟨10, 1⟩

/-- A pool with one process of each kind. -/
def smallPool : ProcessPool UInt8 UInt8 :=
  .new octetSoftbuffers ⟨10, 2⟩ 1 1 (fun _ _ => 0) (fun _ _ => 0)
    fun _ => {
      maxCb := 0
      bufferF := fun _ => 0
      data := fun _ _ => 0
      cbCrc := fun _ => false
      tbCrc := false
    }

/-- Nobody has used the small pool. -/
def unusedPool : HarqState UInt8 UInt8 Unit where
  pool := smallPool
  txLease _ := .terminated
  rxLease _ := .terminated
  txLife _ := ⟨0, 0, .none, 0⟩
  rxLife _ := ⟨0, 0, .none, 0⟩

theorem unusedPool_initial : unusedPool.Initial octetSoftbuffers :=
  ⟨⟨_, _, _, _, _, _, rfl⟩, fun _ => rfl, fun _ => rfl⟩

/-- A user received the first transmission of a packet of network 100. -/
def receivingPool : HarqState UInt8 UInt8 Unit :=
  unusedPool.takeRx
    (returnedState unusedPool.pool
      (unusedPool.pool.getProcessRx tenOctets 1 100 () 0 .keepRunning))
    () 0 ⟨1, 100, ⟨10, 1⟩, 0⟩

/-- The user has kept the process running. -/
def waitingPool : HarqState UInt8 UInt8 Unit :=
  receivingPool.changeRx 0
    { receivingPool.pool.hpRxVec 0 with lock := ⟨true, false⟩ }
    .waiting (receivingPool.rxLife 0)

theorem waitingPool_reachable :
    Relation.ReflTransGen (HarqStep octetSoftbuffers tenOctets)
      unusedPool waitingPool := by
  have received :
      HarqStep octetSoftbuffers tenOctets unusedPool receivingPool :=
    .getProcessRx unusedPool () 1 100 0 0 () ⟨10, 1⟩ .keepRunning _ rfl
      (eq_ok_of_returnedStatus (by decide +kernel) unusedPool.pool)
  have kept : HarqStep octetSoftbuffers tenOctets receivingPool waitingPool :=
    .finalizeRx receivingPool () 0 false _ rfl rfl
  exact (Relation.ReflTransGen.single received).tail kept

/-- The process of network 100 waits for its retransmission. -/
theorem HarqState.run_lifeCycle_waitingPool :
    waitingPool.LifeCycle octetSoftbuffers tenOctets :=
  HarqState.run_lifeCycle unusedPool_initial waitingPool_reachable

/--
The pool hands the process of network 100 out to a caller that received a
packet of any other network, as callers only name the process, and starts a
process with the redundancy version that its caller names.
-/
theorem HarqState.not_run_matchesCaller :
    ∃ last : HarqState UInt8 UInt8 Unit,
      Relation.ReflTransGen (HarqStep octetSoftbuffers tenOctets)
          unusedPool last ∧
        ¬ (∀ callerNetworkId named rv frx id pool,
          last.pool.getProcessRxRunning named rv frx =
              .ok (some id, pool) →
            (pool.hpRxVec id).networkId = callerNetworkId) ∧
        ¬ (∀ plcfType networkId psdef rv frx id pool,
          unusedPool.pool.getProcessRx tenOctets plcfType networkId psdef
              rv frx = .ok (some id, pool) →
            (pool.hpRxVec id).rv = 0) := by
  refine ⟨waitingPool, waitingPool_reachable, ?_, ?_⟩
  · intro matchesCaller
    have running :=
      matchesCaller 200 0 2 .keepRunning 0 _
        (eq_ok_of_returnedStatus (by decide +kernel) waitingPool.pool)
    revert running
    decide +kernel
  · intro startsWithZero
    have started :=
      startsWithZero 1 100 () 2 .keepRunning 0 _
        (eq_ok_of_returnedStatus (by decide +kernel) unusedPool.pool)
    revert started
    decide +kernel

end DectNrp
