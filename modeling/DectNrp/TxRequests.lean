import DectNrp.HarqLifeCycle
import DectNrp.IrregularQueue

namespace DectNrp

/-!
# Transmit requests of a firmware

A worker generates a packet for each descriptor that the firmware returned, and
gives the HARQ process of the descriptor back after it.  A channel scan may
return further descriptors.  Assertions are disabled: a packet for which no
buffer is free is skipped.
-/

/-- The next redundancy version with assertions disabled. -/
def nextRvUnasserted : Nat → Nat
  | 0 => 2
  | 1 => 0
  | 2 => 3
  | 3 => 1
  | rv => rv

/-- The process is given back with assertions disabled. -/
def ProcessTx.finalizeUnasserted
    {Block SoftBits : Type}
    (library : SoftbufferLibrary Block SoftBits)
    (process : ProcessTx Block) :
    ProcessTx Block :=
  match process.finalizeTx with
  | .resetAndTerminate =>
      { lock := ⟨false, false⟩
        id := process.id
        plcfType := 0
        networkId := 0
        packetSizes := .none
        rv := 0
        hbPlcf := process.hbPlcf.resetACntAndSoftbuffer library
        hbTb :=
          process.hbTb.resetACntAndSoftbufferCb library
            process.packetSizes.C
        rvUnwrapped := 0
        finalizeTx := .resetAndTerminate }
  | .increaseRvAndKeepRunning =>
      { process with
        rv := nextRvUnasserted process.rv
        rvUnwrapped := process.rvUnwrapped + 1
        lock := { process.lock with inner := false } }
  | .keepRvAndKeepRunning =>
      { process with lock := { process.lock with inner := false } }

namespace WorkerTxRx

/-- A packet to generate, by the index of its HARQ process. -/
structure TxDescriptor (Content : Type) where
  hpTx : Nat
  /-- Codebook index and meta data of the packet. -/
  content : Content
  hwId : Int32
  deriving Repr, DecidableEq

def hwIdAssociated : Int32 := -1

/-- A hardware with a pool of buffers. -/
inductive Hw where
  | associated
  | radioCtrl (idx : Nat)
  deriving Repr, DecidableEq

/-- The hardware that a descriptor asks for. -/
def TxDescriptor.hw
    {Content : Type}
    (txDescriptor : TxDescriptor Content) :
    Hw :=
  if txDescriptor.hwId < 0 then
    .associated
  else
    .radioCtrl txDescriptor.hwId.toInt.toNat

structure MachighPhy (Content : Type) where
  txDescriptorVec : List (TxDescriptor Content)
  irregularReport : IrregularReport

/-- What the worker calls. -/
structure Surroundings (Block SoftBits Content Chscan : Type) where
  library : SoftbufferLibrary Block SoftBits
  /-- The buffer that a pool returns for a request, if one is free. -/
  getBufferTxToFill : Hw → (request : Nat) → Option Nat
  nofRadioCtrl : UInt64
  /-- Coded bits that are left in the buffer of the process. -/
  generateTxPacket : TxDescriptor Content → (Nat → Block) → Nat → Block
  scan : Chscan → Chscan
  /-- The firmware returns descriptors ... -/
  workChannel : Chscan → MachighPhy Content
  /-- ... and obtains and changes processes. -/
  obtains : Chscan → (Nat → ProcessTx Block) → Nat → ProcessTx Block

/-- State of the worker, and what it did so far. -/
structure State (Block Content : Type) where
  processes : Nat → ProcessTx Block
  /-- Number of buffers that were asked for. -/
  requests : Hw → Nat
  /-- Packets with the hardware and the buffer that they were written to. -/
  packets : List (TxDescriptor Content × Hw × Nat)
  /-- Processes as they were given back. -/
  finalized : List (Nat × ProcessTx Block)
  irregularReports : List IrregularReport

variable {Block SoftBits Content Chscan : Type}

/-- A request for a buffer. -/
def State.request
    (state : State Block Content)
    (hw : Hw) :
    State Block Content :=
  { state with
    requests := Function.update state.requests hw (state.requests hw + 1) }

/-- Generate a packet and give its process back. -/
def State.transmit
    (surroundings : Surroundings Block SoftBits Content Chscan)
    (state : State Block Content)
    (txDescriptor : TxDescriptor Content)
    (hw : Hw)
    (bufferTx : Nat) :
    State Block Content :=
  let hpTx := state.processes txDescriptor.hpTx
  let generated : ProcessTx Block :=
    { hpTx with
      hbTb :=
        { hpTx.hbTb with
          softbufferD :=
            surroundings.generateTxPacket txDescriptor
              hpTx.hbTb.softbufferD } }
  let finalized := generated.finalizeUnasserted surroundings.library
  { state with
    processes :=
      Function.update state.processes txDescriptor.hpTx finalized
    packets := state.packets ++ [(txDescriptor, hw, bufferTx)]
    finalized := state.finalized ++ [(txDescriptor.hpTx, finalized)] }

/-- An index of a vector; a negative one is converted to a large one. -/
def vectorIndex (value : Int32) : Nat :=
  (value.toInt % 2 ^ 64).toNat

/-- Go over all descriptors. -/
def runTx
    (surroundings : Surroundings Block SoftBits Content Chscan) :
    List (TxDescriptor Content) →
      State Block Content → Checked (State Block Content)
  | [], state => .ok state
  | txDescriptor :: txDescriptorVec, state =>
      if txDescriptor.hwId ≤ hwIdAssociated then
        let asked := state.request .associated
        match surroundings.getBufferTxToFill .associated
            (state.requests .associated) with
        | none => runTx surroundings txDescriptorVec asked
        | some bufferTx =>
            runTx surroundings txDescriptorVec
              (asked.transmit surroundings txDescriptor .associated
                bufferTx)
      else
        let idx := vectorIndex hwIdAssociated
        if idx < surroundings.nofRadioCtrl.toNat then
          let asked := state.request (.radioCtrl idx)
          match surroundings.getBufferTxToFill (.radioCtrl idx)
              (state.requests (.radioCtrl idx)) with
          | none => runTx surroundings txDescriptorVec asked
          | some bufferTx =>
              runTx surroundings txDescriptorVec
                (asked.transmit surroundings txDescriptor
                  (.radioCtrl idx) bufferTx)
        else
          .error (.readBeyond idx)

/-- A report with a time is pushed. -/
def State.pushReport
    (state : State Block Content)
    (irregularReport : IrregularReport) :
    State Block Content :=
  if irregularReport.hasFiniteTime then
    { state with
      irregularReports := state.irregularReports ++ [irregularReport] }
  else
    state

/-- Go over all descriptors, and once more after a channel scan. -/
def runTxChscan
    (surroundings : Surroundings Block SoftBits Content Chscan)
    (txDescriptorVec : List (TxDescriptor Content))
    (irregularReport : IrregularReport)
    (chscanOpt : Option Chscan)
    (state : State Block Content) :
    Checked (State Block Content) := do
  let state ← runTx surroundings txDescriptorVec state
  let state := state.pushReport irregularReport
  match chscanOpt with
  | none => pure state
  | some chscan =>
      let measured := surroundings.scan chscan
      let machighPhy := surroundings.workChannel measured
      let state :=
        { state with
          processes := surroundings.obtains measured state.processes }
      runTxChscan surroundings machighPhy.txDescriptorVec
        machighPhy.irregularReport none state
termination_by chscanOpt.isSome.toNat
decreasing_by exact Nat.zero_lt_one

/-- Nobody works with the process; it was terminated if it was to be. -/
def Released (process : ProcessTx Block) : Prop :=
  process.lock.inner = false ∧
    (process.finalizeTx = .resetAndTerminate → process.lock.outer = false)

/-- All descriptors, also those that are returned after a channel scan. -/
def requested
    (surroundings : Surroundings Block SoftBits Content Chscan)
    (txDescriptorVec : List (TxDescriptor Content))
    (chscanOpt : Option Chscan) :
    List (TxDescriptor Content) :=
  txDescriptorVec ++
    match chscanOpt with
    | none => []
    | some chscan =>
        (surroundings.workChannel
          (surroundings.scan chscan)).txDescriptorVec

/-- The firmware obtains no other process than those that it returns. -/
def ObtainsReturned
    (surroundings : Surroundings Block SoftBits Content Chscan) :
    Prop :=
  ∀ chscan processes hpTx,
    hpTx ∉
        (surroundings.workChannel chscan).txDescriptorVec.map
          TxDescriptor.hpTx →
      surroundings.obtains chscan processes hpTx = processes hpTx

/--
Each process is given back exactly once, and each packet is written to a buffer
of the hardware that it is for.
-/
structure FinalizesOnce
    (surroundings : Surroundings Block SoftBits Content Chscan)
    (requested : List (TxDescriptor Content))
    (before after : State Block Content) :
    Prop where
  finalized :
    after.finalized.map Prod.fst =
      before.finalized.map Prod.fst ++ requested.map TxDescriptor.hpTx
  released :
    ∀ given ∈ after.finalized,
      given ∈ before.finalized ∨ Released given.2
  packets :
    after.packets.map (fun packet => (packet.1, packet.2.1)) =
      before.packets.map (fun packet => (packet.1, packet.2.1)) ++
        requested.map fun txDescriptor => (txDescriptor, txDescriptor.hw)
  unlocked :
    ObtainsReturned surroundings →
      ∀ txDescriptor ∈ requested,
        Released (after.processes txDescriptor.hpTx)

/--
Every descriptor is for the associated hardware, and a buffer is free for each
of them.
-/
def Served
    (surroundings : Surroundings Block SoftBits Content Chscan) :
    (request : Nat) → List (TxDescriptor Content) → Prop
  | _, [] => True
  | request, txDescriptor :: txDescriptorVec =>
      txDescriptor.hwId < 0 ∧
        (surroundings.getBufferTxToFill .associated request).isSome =
          true ∧
        Served surroundings (request + 1) txDescriptorVec

variable {surroundings : Surroundings Block SoftBits Content Chscan}
variable {state after : State Block Content}
variable {txDescriptor : TxDescriptor Content}
variable {txDescriptorVec : List (TxDescriptor Content)}

/-- A process that is given back is released. -/
theorem finalizeUnasserted_released
    (library : SoftbufferLibrary Block SoftBits)
    (process : ProcessTx Block) :
    Released (process.finalizeUnasserted library) := by
  unfold ProcessTx.finalizeUnasserted
  cases isFinalize : process.finalizeTx with
  | resetAndTerminate => exact ⟨rfl, fun _ => rfl⟩
  | increaseRvAndKeepRunning =>
      refine ⟨rfl, ?_⟩
      intro isReset
      cases isReset
  | keepRvAndKeepRunning =>
      refine ⟨rfl, ?_⟩
      intro isReset
      cases isReset

/-- Requests after others. -/
theorem served_append
    {request : Nat}
    {first second : List (TxDescriptor Content)} :
    Served surroundings request (first ++ second) ↔
      Served surroundings request first ∧
        Served surroundings (request + first.length) second := by
  induction first generalizing request with
  | nil => simp [Served]
  | cons txDescriptor first hypothesis =>
      rw [List.cons_append, Served, Served, hypothesis,
        List.length_cons, and_assoc, and_assoc,
        Nat.add_right_comm request 1, Nat.add_assoc]

/-- Hardware identities up to the associated one are negative. -/
theorem hwId_le_associated_iff
    (hwId : Int32) :
    hwId ≤ hwIdAssociated ↔ hwId < 0 := by
  have isMinusOne : hwIdAssociated.toInt = -1 := by decide
  have isZero : (0 : Int32).toInt = 0 := by decide
  rw [Int32.le_iff_toInt_le, Int32.lt_iff_toInt_lt, isMinusOne, isZero]
  omega

theorem not_lt_nofRadioCtrl
    (nofRadioCtrl : UInt64) :
    ¬vectorIndex hwIdAssociated < nofRadioCtrl.toNat := by
  have isLast : vectorIndex hwIdAssociated = 2 ^ 64 - 1 := by decide
  have bound := nofRadioCtrl.toNat_lt
  rw [isLast]
  omega

/-- A request is counted. -/
theorem request_requests
    (state : State Block Content)
    (hw : Hw) :
    (state.request hw).requests hw = state.requests hw + 1 :=
  Function.update_self _ _ _

/-- What one pass over descriptors does if all of them are served. -/
structure Transmits
    (txDescriptorVec : List (TxDescriptor Content))
    (before after : State Block Content) :
    Prop where
  requests :
    after.requests .associated =
      before.requests .associated + txDescriptorVec.length
  finalized :
    after.finalized.map Prod.fst =
      before.finalized.map Prod.fst ++
        txDescriptorVec.map TxDescriptor.hpTx
  released :
    ∀ given ∈ after.finalized,
      given ∈ before.finalized ∨ Released given.2
  packets :
    after.packets.map (fun packet => (packet.1, packet.2.1)) =
      before.packets.map (fun packet => (packet.1, packet.2.1)) ++
        txDescriptorVec.map fun txDescriptor =>
          (txDescriptor, txDescriptor.hw)
  unlocked :
    ∀ txDescriptor ∈ txDescriptorVec,
      Released (after.processes txDescriptor.hpTx)
  others :
    ∀ hpTx ∉ txDescriptorVec.map TxDescriptor.hpTx,
      after.processes hpTx = before.processes hpTx

/-- All descriptors are transmitted if they are served. -/
theorem runTx_of_served
    (served :
      Served surroundings (state.requests .associated) txDescriptorVec) :
    ∃ after,
      runTx surroundings txDescriptorVec state = .ok after ∧
        Transmits txDescriptorVec state after := by
  induction txDescriptorVec generalizing state with
  | nil =>
      refine ⟨state, rfl, rfl, ?_, ?_, ?_, ?_, fun _ _ => rfl⟩
      · exact (List.append_nil _).symm
      · exact fun _ isGiven => .inl isGiven
      · exact (List.append_nil _).symm
      · intro txDescriptor isMember
        cases isMember
  | cons txDescriptor txDescriptorVec hypothesis =>
      obtain ⟨isNegative, isFree, rest⟩ := served
      obtain ⟨bufferTx, isBuffer⟩ := Option.isSome_iff_exists.mp isFree
      let next : State Block Content :=
        (state.request .associated).transmit surroundings txDescriptor
          .associated bufferTx
      have requests :
          next.requests .associated = state.requests .associated + 1 :=
        request_requests state .associated
      obtain ⟨after, returned, transmits⟩ :=
        @hypothesis next (by
          rw [requests]
          exact rest)
      have isHw : txDescriptor.hw = .associated := if_pos isNegative
      refine ⟨after, ?_, ?_, ?_, ?_, ?_, ?_, ?_⟩
      · rw [runTx, if_pos ((hwId_le_associated_iff _).mpr isNegative)]
        dsimp only
        rw [isBuffer]
        exact returned
      · rw [transmits.requests, requests, List.length_cons]
        omega
      · rw [transmits.finalized]
        simp [next, State.transmit, State.request]
      · intro given isGiven
        rcases transmits.released given isGiven with isOld | isReleased
        · rcases List.mem_append.mp isOld with isOlder | isNew
          · exact .inl isOlder
          · rw [List.mem_singleton.mp isNew]
            exact .inr (finalizeUnasserted_released _ _)
        · exact .inr isReleased
      · rw [transmits.packets]
        simp [next, State.transmit, State.request, isHw]
      · intro other isOther
        by_cases isLater : other.hpTx ∈ txDescriptorVec.map TxDescriptor.hpTx
        · obtain ⟨later, isMember, same⟩ := List.mem_map.mp isLater
          rw [← same]
          exact transmits.unlocked later isMember
        · rcases List.mem_cons.mp isOther with rfl | isMember
          · rw [transmits.others _ isLater]
            have isFinalized : next.processes other.hpTx =
                  ProcessTx.finalizeUnasserted surroundings.library _ :=
              Function.update_self _ _ _
            rw [isFinalized]
            exact finalizeUnasserted_released _ _
          · exact absurd (List.mem_map_of_mem isMember) isLater
      · intro hpTx notMember
        rw [List.map_cons, List.mem_cons, not_or] at notMember
        rw [transmits.others hpTx notMember.2]
        exact Function.update_of_ne notMember.1 _ _

/-- At most as many processes are given back as there are descriptors. -/
theorem finalized_runTx
    (returned : runTx surroundings txDescriptorVec state = .ok after) :
    after.finalized.length ≤
        state.finalized.length + txDescriptorVec.length ∧
      (after.finalized.length =
          state.finalized.length + txDescriptorVec.length →
        Served surroundings (state.requests .associated) txDescriptorVec) := by
  induction txDescriptorVec generalizing state with
  | nil =>
      cases returned
      exact ⟨Nat.le_refl _, fun _ => trivial⟩
  | cons txDescriptor txDescriptorVec hypothesis =>
      rw [runTx] at returned
      split at returned
      · rename_i isAssociated
        dsimp only at returned
        split at returned
        · have atMost := (hypothesis returned).1
          have same : (state.request .associated).finalized.length =
                state.finalized.length :=
            rfl
          rw [same] at atMost
          rw [List.length_cons]
          exact ⟨by omega, by omega⟩
        · rename_i bufferTx isBuffer
          obtain ⟨atMost, servedRest⟩ := hypothesis returned
          have oneMore : ((state.request .associated).transmit surroundings
                  txDescriptor .associated bufferTx).finalized.length =
                state.finalized.length + 1 :=
            List.length_append
          have requests : ((state.request .associated).transmit surroundings
                  txDescriptor .associated bufferTx).requests
                  .associated =
                state.requests .associated + 1 :=
            request_requests state .associated
          rw [oneMore] at atMost servedRest
          rw [requests] at servedRest
          rw [List.length_cons]
          refine ⟨by omega, ?_⟩
          intro allFinalized
          refine ⟨(hwId_le_associated_iff _).mp isAssociated, ?_,
              servedRest (by omega)⟩
          rw [isBuffer]
          rfl
      · dsimp only at returned
        rw [if_neg (not_lt_nofRadioCtrl _)] at returned
        cases returned

/-- A call without a channel scan goes over the descriptors once. -/
theorem runTxChscan_none
    (txDescriptorVec : List (TxDescriptor Content))
    (irregularReport : IrregularReport)
    (state : State Block Content) :
    runTxChscan surroundings txDescriptorVec irregularReport none state =
      (do
        let transmitted ← runTx surroundings txDescriptorVec state
        pure (transmitted.pushReport irregularReport)) := by
  rw [runTxChscan]

/-- A call with a channel scan goes over further descriptors after it. -/
theorem runTxChscan_some
    (txDescriptorVec : List (TxDescriptor Content))
    (irregularReport : IrregularReport)
    (chscan : Chscan)
    (state : State Block Content) :
    runTxChscan surroundings txDescriptorVec irregularReport (some chscan)
        state =
      (do
        let transmitted ← runTx surroundings txDescriptorVec state
        let pushed := transmitted.pushReport irregularReport
        let measured := surroundings.scan chscan
        let machighPhy := surroundings.workChannel measured
        runTxChscan surroundings machighPhy.txDescriptorVec
          machighPhy.irregularReport none
          { pushed with
            processes :=
              surroundings.obtains measured pushed.processes }) := by
  rw [runTxChscan]

/-- Pushing a report changes nothing else. -/
theorem pushReport_same
    (state : State Block Content)
    (irregularReport : IrregularReport) :
    (state.pushReport irregularReport).processes = state.processes ∧
      (state.pushReport irregularReport).requests = state.requests ∧
      (state.pushReport irregularReport).packets = state.packets ∧
      (state.pushReport irregularReport).finalized = state.finalized := by
  unfold State.pushReport
  split
  · exact ⟨rfl, rfl, rfl, rfl⟩
  · exact ⟨rfl, rfl, rfl, rfl⟩

/-- A pass may push a report after it. -/
theorem Transmits.pushReport
    (transmits : Transmits txDescriptorVec state after)
    (irregularReport : IrregularReport) :
    Transmits txDescriptorVec state (after.pushReport irregularReport) := by
  obtain ⟨sameProcesses, sameRequests, samePackets, sameFinalized⟩ :=
    pushReport_same after irregularReport
  obtain ⟨requests, finalized, released, packets, unlocked, others⟩ :=
    transmits
  constructor
  · rw [sameRequests]
    exact requests
  · rw [sameFinalized]
    exact finalized
  · rw [sameFinalized]
    exact released
  · rw [samePackets]
    exact packets
  · rw [sameProcesses]
    exact unlocked
  · rw [sameProcesses]
    exact others

/-- A call without a channel scan transmits all descriptors that are served. -/
theorem runTxChscan_none_of_served
    (irregularReport : IrregularReport)
    (served :
      Served surroundings (state.requests .associated) txDescriptorVec) :
    ∃ after,
      runTxChscan surroundings txDescriptorVec irregularReport none state =
          .ok after ∧
        Transmits txDescriptorVec state after := by
  obtain ⟨transmitted, returned, transmits⟩ := runTx_of_served served
  refine ⟨transmitted.pushReport irregularReport, ?_,
      transmits.pushReport irregularReport⟩
  rw [runTxChscan_none, returned]
  rfl

variable {chscanOpt : Option Chscan}

theorem finalizesOnce_of_served
    (irregularReport : IrregularReport)
    (served :
      Served surroundings (state.requests .associated)
        (requested surroundings txDescriptorVec chscanOpt)) :
    ∃ after,
      runTxChscan surroundings txDescriptorVec irregularReport chscanOpt
            state =
          .ok after ∧
        FinalizesOnce surroundings
          (requested surroundings txDescriptorVec chscanOpt) state
          after := by
  obtain ⟨servedFirst, servedFurther⟩ := served_append.mp served
  cases chscanOpt with
  | none =>
      obtain ⟨after, returned, transmits⟩ :=
        runTxChscan_none_of_served irregularReport servedFirst
      refine ⟨after, returned, ?_⟩
      rw [requested, List.append_nil]
      exact ⟨transmits.finalized, transmits.released, transmits.packets,
          fun _ => transmits.unlocked⟩
  | some chscan =>
      obtain ⟨transmitted, returned, transmits⟩ := runTx_of_served servedFirst
      have pushed := transmits.pushReport irregularReport
      obtain ⟨after, returnedAfter, further⟩ :=
        @runTxChscan_none_of_served _ _ _ _ surroundings
          { transmitted.pushReport irregularReport with
            processes :=
              surroundings.obtains (surroundings.scan chscan)
                (transmitted.pushReport irregularReport).processes }
          (surroundings.workChannel (surroundings.scan chscan)).txDescriptorVec
          (surroundings.workChannel (surroundings.scan chscan)).irregularReport
          (by
            dsimp only
            rw [pushed.requests]
            exact servedFurther)
      refine ⟨after, ?_, ?_, ?_, ?_, ?_⟩
      · rw [runTxChscan_some, returned]
        exact returnedAfter
      · rw [further.finalized, pushed.finalized, requested,
          List.map_append, List.append_assoc]
      · intro given isGiven
        rcases further.released given isGiven with isEarlier | isReleased
        · exact pushed.released given isEarlier
        · exact .inr isReleased
      · rw [further.packets, pushed.packets, requested, List.map_append,
          List.append_assoc]
      · intro obtainsReturned txDescriptor isRequested
        by_cases isFurther : txDescriptor.hpTx ∈ (surroundings.workChannel
                (surroundings.scan chscan)).txDescriptorVec.map
                TxDescriptor.hpTx
        · obtain ⟨other, isOther, same⟩ := List.mem_map.mp isFurther
          rw [← same]
          exact further.unlocked other isOther
        · rw [further.others _ isFurther]
          dsimp only
          rw [obtainsReturned _ _ _ isFurther]
          rcases List.mem_append.mp isRequested with isFirst | isOther
          · exact pushed.unlocked txDescriptor isFirst
          · exact absurd (List.mem_map_of_mem isOther) isFurther

theorem served_of_finalized
    {irregularReport : IrregularReport}
    (returned :
      runTxChscan surroundings txDescriptorVec irregularReport chscanOpt
          state =
        .ok after)
    (allFinalized :
      after.finalized.length =
        state.finalized.length +
          (requested surroundings txDescriptorVec chscanOpt).length) :
    Served surroundings (state.requests .associated)
      (requested surroundings txDescriptorVec chscanOpt) := by
  cases chscanOpt with
  | none =>
      rw [runTxChscan_none] at returned
      obtain ⟨transmitted, isTransmitted, isAfter⟩ :=
        Checked.bind_eq_ok.mp returned
      cases isAfter
      rw [(pushReport_same _ _).2.2.2] at allFinalized
      rw [requested, List.append_nil] at allFinalized ⊢
      exact (finalized_runTx isTransmitted).2 allFinalized
  | some chscan =>
      rw [runTxChscan_some] at returned
      obtain ⟨transmitted, isTransmitted, isAfter⟩ :=
        Checked.bind_eq_ok.mp returned
      dsimp only at isAfter
      rw [runTxChscan_none] at isAfter
      obtain ⟨further, isFurther, isAfter⟩ := Checked.bind_eq_ok.mp isAfter
      cases isAfter
      rw [(pushReport_same _ _).2.2.2, requested,
        List.length_append] at allFinalized
      obtain ⟨atMost, servedFirst⟩ := finalized_runTx isTransmitted
      obtain ⟨atMostFurther, servedFurther⟩ := finalized_runTx isFurther
      dsimp only at atMostFurther servedFurther
      rw [(pushReport_same _ _).2.2.2] at atMostFurther servedFurther
      rw [(pushReport_same _ _).2.1] at servedFurther
      have isFirst := servedFirst (by omega)
      obtain ⟨same, isSame, transmits⟩ := runTx_of_served isFirst
      rw [isTransmitted] at isSame
      cases isSame
      rw [transmits.requests] at servedFurther
      exact served_append.mpr ⟨isFirst, servedFurther (by omega)⟩

/-- What is given back exactly once was served. -/
theorem served_of_finalizesOnce
    {surroundings : Surroundings Block SoftBits Content Chscan}
    {txDescriptorVec : List (TxDescriptor Content)}
    {irregularReport : IrregularReport}
    {chscanOpt : Option Chscan}
    {state after : State Block Content}
    (returned :
      runTxChscan surroundings txDescriptorVec irregularReport chscanOpt
        state =
        .ok after)
    (finalizesOnce :
      FinalizesOnce surroundings
        (requested surroundings txDescriptorVec chscanOpt) state after) :
    Served surroundings (state.requests .associated)
      (requested surroundings txDescriptorVec chscanOpt) := by
  refine served_of_finalized returned ?_
  have isLength := congrArg List.length finalizesOnce.finalized
  rw [List.length_append, List.length_map, List.length_map,
    List.length_map] at isLength
  exact isLength

/--
Each process is given back exactly once, and each packet is written to a buffer
of its hardware, exactly if all descriptors are for the associated hardware and
a buffer is free for each of them.
-/
theorem runTxChscan_finalizesOnce_iff
    (surroundings : Surroundings Block SoftBits Content Chscan)
    (txDescriptorVec : List (TxDescriptor Content))
    (irregularReport : IrregularReport)
    (chscanOpt : Option Chscan)
    (state : State Block Content) :
    (∃ after,
      runTxChscan surroundings txDescriptorVec irregularReport chscanOpt
            state =
          .ok after ∧
        FinalizesOnce surroundings
          (requested surroundings txDescriptorVec chscanOpt) state
          after) ↔
      Served surroundings (state.requests .associated)
        (requested surroundings txDescriptorVec chscanOpt) := by
  constructor
  · rintro ⟨after, returned, finalizesOnce⟩
    exact served_of_finalizesOnce returned finalizesOnce
  · intro served
    exact finalizesOnce_of_served irregularReport served

/-- Surroundings in which the first requests for a buffer are served. -/
def someBuffers (free : Nat) : Surroundings UInt8 UInt8 Unit Unit where
  library := octetSoftbuffers
  getBufferTxToFill _ request := if request < free then some 0 else none
  nofRadioCtrl := 2
  generateTxPacket _ blocks := blocks
  scan chscan := chscan
  workChannel _ := ⟨[], .default⟩
  obtains _ processes := processes

/-- The firmware works with all processes. -/
def allObtained : State UInt8 Unit where
  processes id :=
    { ProcessTx.new octetSoftbuffers ⟨10, 1⟩ (fun _ => 0) (fun _ => 0)
        id with
      lock := ⟨true, true⟩ }
  requests _ := 0
  packets := []
  finalized := []
  irregularReports := []

/-- A packet for another hardware ends the call. -/
example :
    runTx (someBuffers 1) [⟨0, (), 0⟩] allObtained =
      .error (.readBeyond (2 ^ 64 - 1)) :=
  rfl

/-- The process of a packet without a buffer is not given back. -/
theorem not_runTxChscan_finalizesOnce :
    ¬∀ (surroundings : Surroundings UInt8 UInt8 Unit Unit)
        (txDescriptorVec : List (TxDescriptor Unit))
        (irregularReport : IrregularReport)
        (chscanOpt : Option Unit)
        (state : State UInt8 Unit),
        ∃ after,
          runTxChscan surroundings txDescriptorVec irregularReport
                chscanOpt state =
              .ok after ∧
            FinalizesOnce surroundings
              (requested surroundings txDescriptorVec chscanOpt) state
              after := by
  intro finalizes
  obtain ⟨after, returned, finalizesOnce⟩ :=
    finalizes (someBuffers 0) [⟨0, (), -1⟩] .default none allObtained
  have noBuffer := served_of_finalizesOnce returned finalizesOnce
  cases noBuffer.2.1

end WorkerTxRx

end DectNrp
