import DectNrp.CheckedRuns
import DectNrp.ColumnTables
import DectNrp.LockstepBarrier
import DectNrp.Octets

namespace DectNrp

/-!
# Virtual space of simulators

Simulators with a thread for each direction share a virtual space.  They first
register, then all of them write one piece of signal, then all of them read the
superposition of what the others have written.  Whoever is the last one to write
or to read resets the status of the other direction.  Threads wait for their
status and act later, and may give up waiting at any time.

The history of writes and reads is a record that the program does not keep.
-/

open Function (update)
open Checked (bind_eq_ok ok_bind)

namespace Simulation

def completeGraphNofEdges (nofVertices : UInt32) : UInt32 :=
  nofVertices * (nofVertices - 1) / 2

/-- Index of the edge between two vertices. -/
def completeGraphSortedEdgeIndex
    (nofVertices vidx0 vidx1 : UInt32) :
    Checked UInt32 := do
  dectnrpAssert (vidx0 != vidx1) "Equal vertex indices."
  let A := if vidx0 < vidx1 then vidx0 else vidx1
  let B := if vidx0 < vidx1 then vidx1 else vidx0
  pure ((2 * nofVertices * A - A - A * A) / 2 + B - A - 1)

/-- What all simulators have in common, and what each of them is set up with. -/
structure Setup where
  nofHwSimulator : UInt32
  positive : 0 < nofHwSimulator.toNat
  sampRate : Nat → Nat
  sppSize : Nat → Nat

/-- Number of simulators. -/
def Setup.n (setup : Setup) : Nat := setup.nofHwSimulator.toNat

/-- The copy of a simulator in the virtual space, with its latest signal. -/
structure Vspptx (Signal : Type) where
  sampRate : Nat
  sppSize : Nat
  vspprxCounterpartRegistered : Bool
  signal : Option Signal

/-- A channel, by the two vertices it was created for. -/
structure Channel where
  vertex0 : Nat
  vertex1 : Nat
  deriving Repr, DecidableEq

/-- What a simulator receives: signals of the others and its own one. -/
structure Superposition (Signal : Type) where
  inter : List (Channel × Signal)
  intra : Channel × Signal

structure Vspace (Signal : Type) where
  allTxRegisteredAndInitsDone : Bool
  allRxRegisteredAndInitsDone : Bool
  statusTxWritten : Nat → Bool
  statusRxRead : Nat → Bool
  vspptxVec : Nat → Option (Vspptx Signal)
  sppSizeCommon : Nat
  nowStart64 : Int
  now64 : Int
  wchannelInterVec : List Channel
  wchannelIntraVec : List Channel

namespace Vspace

variable {Signal : Type}

def create : Vspace Signal where
  allTxRegisteredAndInitsDone := false
  allRxRegisteredAndInitsDone := false
  statusTxWritten := fun _ => false
  statusRxRead := fun _ => false
  vspptxVec := fun _ => none
  sppSizeCommon := 0
  nowStart64 := 0
  now64 := 0
  wchannelInterVec := []
  wchannelIntraVec := []

/-- Pointers that are not set must not be followed. -/
def deref
    (vspace : Vspace Signal)
    (id : Nat) :
    Checked (Vspptx Signal) :=
  match vspace.vspptxVec id with
  | some vspptx => .ok vspptx
  | none => .error (.readBeyond id)

/-- The channel of the next edge, which is created at the index of the edge. -/
def createEdge
    (nofHwSimulator : UInt32)
    (wchannelInterVec : List Channel)
    (vertices : Nat × Nat) :
    Checked (List Channel) := do
  let (i, j) := vertices
  let edgeCnt := wchannelInterVec.length
  let index ←
    completeGraphSortedEdgeIndex nofHwSimulator (UInt32.ofNat i)
      (UInt32.ofNat j)
  let indexBack ←
    completeGraphSortedEdgeIndex nofHwSimulator (UInt32.ofNat j)
      (UInt32.ofNat i)
  dectnrpAssert (index.toNat == edgeCnt && indexBack.toNat == edgeCnt)
    "Incorrect edge index."
  -- the vector was allocated for the number of edges
  if (completeGraphNofEdges nofHwSimulator).toNat ≤ edgeCnt then
    .error (.readBeyond edgeCnt)
  else
    pure (wchannelInterVec ++ [⟨i, j⟩])

/-- Pairs of vertices, the smaller one first. -/
def sortedPairs (n : Nat) : List (Nat × Nat) :=
  (List.range (n - 1)).flatMap fun i =>
    (List.range' (i + 1) (n - 1 - i)).map fun j => (i, j)

/-- One channel for every pair of vertices. -/
def wchannelGenerateGraph
    (nofHwSimulator : UInt32) :
    Checked (List Channel) := do
  let wchannelInterVec ←
    (sortedPairs nofHwSimulator.toNat).foldlM (createEdge nofHwSimulator) []
  dectnrpAssert
    (wchannelInterVec.length ==
      (completeGraphNofEdges nofHwSimulator).toNat)
    "Incorrect number of edges."
  pure wchannelInterVec

def isLastToRegisterTx
    (setup : Setup)
    (vspace : Vspace Signal) :
    Bool :=
  (List.range setup.n).all fun i => (vspace.vspptxVec i).isSome

/-- The receiver of a simulator is registered. -/
def rxRegistered
    (vspace : Vspace Signal)
    (id : Nat) :
    Bool :=
  ((vspace.vspptxVec id).map Vspptx.vspprxCounterpartRegistered).getD false

def isFirstToRegisterRx
    (setup : Setup)
    (vspace : Vspace Signal) :
    Checked Bool := do
  dectnrpAssert vspace.allTxRegisteredAndInitsDone
    "TX not registered yet"
  pure (!(List.range setup.n).any vspace.rxRegistered)

def isLastToRegisterRx
    (setup : Setup)
    (vspace : Vspace Signal) :
    Checked Bool := do
  dectnrpAssert vspace.allTxRegisteredAndInitsDone
    "TX not registered yet"
  pure ((List.range setup.n).all vspace.rxRegistered)

/-- The last simulator to register completes the inits. -/
def hwRegisterTx
    (setup : Setup)
    (vspace : Vspace Signal)
    (id : Nat) :
    Checked (Vspace Signal) := do
  dectnrpAssert (id < setup.n) "hw out of range"
  dectnrpAssert (vspace.vspptxVec id).isNone "hw already registered"
  let vspace :=
    { vspace with
      vspptxVec :=
        update vspace.vspptxVec id
          (some ⟨setup.sampRate id, setup.sppSize id, false, none⟩) }
  if vspace.isLastToRegisterTx setup then do
    let reference ← vspace.deref 0
    (List.range' 1 (setup.n - 1)).forM fun i => do
      let vspptx ← vspace.deref i
      dectnrpAssert (reference.sampRate == vspptx.sampRate)
        "hw_samp_rate incorrect"
      dectnrpAssert (reference.sppSize == vspptx.sppSize)
        "hw spp_size incorrect"
    let wchannelInterVec ← wchannelGenerateGraph setup.nofHwSimulator
    pure
      { vspace with
        sppSizeCommon := reference.sppSize
        wchannelInterVec := wchannelInterVec
        wchannelIntraVec := (List.range setup.n).map fun i => ⟨i, i⟩
        nowStart64 := 0
        now64 := 0
        allTxRegisteredAndInitsDone := true }
  else
    pure vspace

/-- The first simulator sets the time. -/
def overwriteTimeIfFirst
    (setup : Setup)
    (vspace : Vspace Signal)
    (metaNow64 : Int) :
    Checked (Vspace Signal) := do
  if ← vspace.isFirstToRegisterRx setup then
    dectnrpAssert (vspace.now64 == 0) "now_64 not zero"
    pure { vspace with nowStart64 := metaNow64, now64 := metaNow64 }
  else
    pure vspace

/-- The last simulator lets all of them write. -/
def allowTxIfLast
    (setup : Setup)
    (vspace : Vspace Signal) :
    Checked (Vspace Signal) := do
  if ← vspace.isLastToRegisterRx setup then
    pure
      { vspace with
        statusTxWritten := fun _ => false
        statusRxRead := fun _ => true
        allRxRegisteredAndInitsDone := true }
  else
    pure vspace

/-- Simulators have to agree on the time. -/
def hwRegisterRx
    (setup : Setup)
    (vspace : Vspace Signal)
    (id : Nat)
    (metaNow64 : Int) :
    Checked (Vspace Signal) := do
  let vspptx ← vspace.deref id
  dectnrpAssert (!vspptx.vspprxCounterpartRegistered)
    "hw counterpart already registered"
  let vspace ← vspace.overwriteTimeIfFirst setup metaNow64
  let vspace :=
    { vspace with
      vspptxVec :=
        update vspace.vspptxVec id
          (some { vspptx with vspprxCounterpartRegistered := true }) }
  dectnrpAssert (setup.sampRate id == vspptx.sampRate)
    "hw_samp_rate incorrect"
  dectnrpAssert (setup.sppSize id == vspptx.sppSize) "spp_size incorrect"
  dectnrpAssert (metaNow64 == vspace.now64) "now the same time"
  vspace.allowTxIfLast setup

def isLastToWrite
    (setup : Setup)
    (vspace : Vspace Signal) :
    Bool :=
  (List.range setup.n).all vspace.statusTxWritten

def isLastToRead
    (setup : Setup)
    (vspace : Vspace Signal) :
    Bool :=
  (List.range setup.n).all vspace.statusRxRead

/-- The last simulator to write lets all of them read. -/
def write
    (setup : Setup)
    (vspace : Vspace Signal)
    (id : Nat)
    (metaNow64 : Int)
    (signal : Signal) :
    Checked (Vspace Signal) := do
  dectnrpAssert (!vspace.statusTxWritten id)
    "HW TX interface already written"
  dectnrpAssert (metaNow64 == vspace.now64)
    "HW time not the same as vspace time"
  let vspptx ← vspace.deref id
  let vspace :=
    { vspace with
      -- the copied meta data never has its counterpart registered
      vspptxVec :=
        update vspace.vspptxVec id
          (some
            { vspptx with
              vspprxCounterpartRegistered := false
              signal := some signal })
      statusTxWritten := update vspace.statusTxWritten id true }
  if vspace.isLastToWrite setup then
    pure { vspace with statusRxRead := fun _ => false }
  else
    pure vspace

/-- The signal of a simulator, which must have been written. -/
def signalOf
    (vspace : Vspace Signal)
    (id : Nat) :
    Checked Signal := do
  let vspptx ← vspace.deref id
  match vspptx.signal with
  | some signal => .ok signal
  | none => .error (.readBeyond id)

/-- A channel that was created. -/
def channelAt
    (channels : List Channel)
    (index : Nat) :
    Checked Channel :=
  match channels[index]? with
  | some channel => .ok channel
  | none => .error (.readBeyond index)

/-- Signals of all others over the channels to them, and its own one. -/
def wchannelExecute
    (setup : Setup)
    (vspace : Vspace Signal)
    (id : Nat) :
    Checked (Superposition Signal) := do
  let inter ←
    ((List.range setup.n).filter fun i => i != id).mapM fun i => do
      let index ←
        completeGraphSortedEdgeIndex setup.nofHwSimulator
          (UInt32.ofNat id) (UInt32.ofNat i)
      let channel ← channelAt vspace.wchannelInterVec index.toNat
      let signal ← vspace.signalOf i
      pure (channel, signal)
  let channel ← channelAt vspace.wchannelIntraVec id
  let signal ← vspace.signalOf id
  pure ⟨inter, (channel, signal)⟩

/-- The last simulator to read advances the time and lets all of them write. -/
def read
    (setup : Setup)
    (vspace : Vspace Signal)
    (id : Nat)
    (metaNow64 : Int) :
    Checked (Superposition Signal × Vspace Signal) := do
  dectnrpAssert (!vspace.statusRxRead id) "HW RX interface already read"
  dectnrpAssert (metaNow64 == vspace.now64)
    "HW time not the same as vspace time"
  let superposition ← vspace.wchannelExecute setup id
  let vspace :=
    { vspace with
      statusRxRead := update vspace.statusRxRead id true }
  if vspace.isLastToRead setup then
    pure
      (superposition,
        { vspace with
          now64 := vspace.now64 + (vspace.sppSizeCommon : Int)
          statusTxWritten := fun _ => false })
  else
    pure (superposition, vspace)

/-- Both orders of two vertices lead to a channel. -/
def HasEdge
    (nofHwSimulator : UInt32)
    (wchannelInterVec : List Channel)
    (vertices : Nat × Nat) :
    Prop :=
  ∃ index indexBack,
    completeGraphSortedEdgeIndex nofHwSimulator
        (UInt32.ofNat vertices.1) (UInt32.ofNat vertices.2) =
      .ok index ∧
    completeGraphSortedEdgeIndex nofHwSimulator
        (UInt32.ofNat vertices.2) (UInt32.ofNat vertices.1) =
      .ok indexBack ∧
    wchannelInterVec[index.toNat]? = some ⟨vertices.1, vertices.2⟩ ∧
    wchannelInterVec[indexBack.toNat]? = some ⟨vertices.1, vertices.2⟩

variable {nofHwSimulator : UInt32}

variable
  {wchannelInterVec created : List Channel}
  {vertices : Nat × Nat}

theorem createEdge_eq_ok
    (returned :
      createEdge nofHwSimulator wchannelInterVec vertices = .ok created) :
    created = wchannelInterVec ++ [⟨vertices.1, vertices.2⟩] ∧
      HasEdge nofHwSimulator created vertices := by
  unfold createEdge at returned
  obtain ⟨index, isIndex, returned⟩ := bind_eq_ok.mp returned
  obtain ⟨indexBack, isIndexBack, returned⟩ := bind_eq_ok.mp returned
  obtain ⟨_, asserted, returned⟩ := bind_eq_ok.mp returned
  have equal := dectnrpAssert_eq_ok.mp asserted
  rw [Bool.and_eq_true, beq_iff_eq, beq_iff_eq] at equal
  split at returned
  · cases returned
  · cases returned
    refine ⟨rfl, index, indexBack, isIndex, isIndexBack, ?_, ?_⟩
    · rw [equal.1]
      exact List.getElem?_concat_length
    · rw [equal.2]
      exact List.getElem?_concat_length

/-- Edges stay when further channels are created. -/
theorem HasEdge.append
    {wchannelInterVec : List Channel}
    (hasEdge : HasEdge nofHwSimulator wchannelInterVec vertices)
    (further : List Channel) :
    HasEdge nofHwSimulator (wchannelInterVec ++ further) vertices := by
  obtain ⟨index, indexBack, isIndex, isIndexBack, found, foundBack⟩ := hasEdge
  have stays : ∀ {position : Nat} {channel : Channel},
      wchannelInterVec[position]? = some channel →
        (wchannelInterVec ++ further)[position]? = some channel := by
    intro position channel isAt
    have inside := (List.getElem?_eq_some_iff.mp isAt).1
    rw [List.getElem?_append_left inside, isAt]
  exact ⟨index, indexBack, isIndex, isIndexBack, stays found, stays foundBack⟩

theorem foldlM_createEdge
    {pairs : List (Nat × Nat)}
    (returned :
      pairs.foldlM (createEdge nofHwSimulator) wchannelInterVec =
        .ok created) :
    (∃ further, created = wchannelInterVec ++ further) ∧
      ∀ vertices ∈ pairs, HasEdge nofHwSimulator created vertices := by
  induction pairs generalizing wchannelInterVec with
  | nil =>
      cases returned
      exact ⟨⟨[], (List.append_nil _).symm⟩,
          fun vertices member => absurd member List.not_mem_nil⟩
  | cons first rest hypothesis =>
      rw [List.foldlM_cons] at returned
      obtain ⟨next, isNext, returned⟩ := bind_eq_ok.mp returned
      obtain ⟨isConcat, hasEdge⟩ := createEdge_eq_ok isNext
      obtain ⟨⟨further, isCreated⟩, edges⟩ := hypothesis returned
      constructor
      · refine ⟨[⟨first.1, first.2⟩] ++ further, ?_⟩
        rw [isCreated, isConcat, List.append_assoc]
      · intro vertices member
        cases member with
        | head =>
            rw [isCreated]
            exact hasEdge.append further
        | tail _ member => exact edges vertices member

/-- All pairs are listed. -/
theorem mem_sortedPairs
    {n i j : Nat}
    (sorted : i < j)
    (bound : j < n) :
    (i, j) ∈ sortedPairs n := by
  refine List.mem_flatMap.mpr ⟨i, ?_, ?_⟩
  · exact List.mem_range.mpr (by omega)
  · refine List.mem_map.mpr ⟨j, ?_, rfl⟩
    exact List.mem_range'_1.mpr (by omega)

/-- The channel between two different vertices is found in both orders. -/
def GraphValid
    (setup : Setup)
    (vspace : Vspace Signal) :
    Prop :=
  (∀ i < setup.n, ∀ j < setup.n, i ≠ j →
    ∃ index,
      completeGraphSortedEdgeIndex setup.nofHwSimulator
          (UInt32.ofNat i) (UInt32.ofNat j) =
        .ok index ∧
      channelAt vspace.wchannelInterVec index.toNat =
        .ok ⟨min i j, max i j⟩) ∧
    ∀ i < setup.n, channelAt vspace.wchannelIntraVec i = .ok ⟨i, i⟩

variable
  {setup : Setup}
  {vspace : Vspace Signal}

theorem wchannelGenerateGraph_valid
    (returned :
      wchannelGenerateGraph setup.nofHwSimulator = .ok vspace.wchannelInterVec)
    (intra :
      vspace.wchannelIntraVec = (List.range setup.n).map fun i => ⟨i, i⟩) :
    vspace.GraphValid setup := by
  unfold wchannelGenerateGraph at returned
  obtain ⟨created, isCreated, returned⟩ := bind_eq_ok.mp returned
  obtain ⟨_, -, returned⟩ := bind_eq_ok.mp returned
  cases returned
  obtain ⟨-, edges⟩ := foldlM_createEdge isCreated
  constructor
  · intro i iBound j jBound different
    rcases Nat.lt_or_gt_of_ne different with sorted | sorted
    · obtain ⟨index, -, isIndex, -, found, -⟩ :=
        edges (i, j) (mem_sortedPairs sorted jBound)
      refine ⟨index, isIndex, ?_⟩
      rw [min_eq_left sorted.le, max_eq_right sorted.le]
      unfold channelAt
      rw [found]
    · obtain ⟨-, index, -, isIndex, -, found⟩ :=
        edges (j, i) (mem_sortedPairs sorted iBound)
      refine ⟨index, isIndex, ?_⟩
      rw [min_eq_right sorted.le, max_eq_left sorted.le]
      unfold channelAt
      rw [found]
  · intro i bound
    unfold channelAt
    rw [intra, List.getElem?_map, List.getElem?_range bound]
    rfl

variable {id : Nat}

/-- A registered simulator is found. -/
theorem deref_eq_ok
    {vspptx : Vspptx Signal} :
    vspace.deref id = .ok vspptx ↔ vspace.vspptxVec id = some vspptx := by
  unfold deref
  cases vspace.vspptxVec id with
  | none => simp
  | some other => simp

/-- The inits are done when all transmitters are registered. -/
structure TxInitsDone
    (setup : Setup)
    (vspace : Vspace Signal) :
    Prop where
  registered :
    ∀ id < setup.n,
      ∃ vspptx, vspace.vspptxVec id = some vspptx ∧
        vspptx.sppSize = vspace.sppSizeCommon
  graph : vspace.GraphValid setup
  now64 : vspace.now64 = vspace.nowStart64

variable {vspace after : Vspace Signal}

/-- A transmitter is registered once.  The last one does the inits. -/
theorem hwRegisterTx_eq_ok
    (returned : vspace.hwRegisterTx setup id = .ok after) :
    vspace.vspptxVec id = none ∧
      after.vspptxVec =
        update vspace.vspptxVec id
          (some ⟨setup.sampRate id, setup.sppSize id, false, none⟩) ∧
      after.allRxRegisteredAndInitsDone = vspace.allRxRegisteredAndInitsDone ∧
      (after.allTxRegisteredAndInitsDone =
          vspace.allTxRegisteredAndInitsDone ∨
        after.TxInitsDone setup) := by
  unfold hwRegisterTx at returned
  obtain ⟨_, -, returned⟩ := bind_eq_ok.mp returned
  obtain ⟨_, free, returned⟩ := bind_eq_ok.mp returned
  have isFree := Option.isNone_iff_eq_none.mp (dectnrpAssert_eq_ok.mp free)
  by_cases isLast : isLastToRegisterTx setup
      { vspace with
        vspptxVec :=
          update vspace.vspptxVec id
            (some ⟨setup.sampRate id, setup.sppSize id, false, none⟩) } =
      true
  · rw [if_pos isLast] at returned
    obtain ⟨reference, isReference, returned⟩ := bind_eq_ok.mp returned
    obtain ⟨_, compared, returned⟩ := bind_eq_ok.mp returned
    obtain ⟨channels, isGraph, returned⟩ := bind_eq_ok.mp returned
    cases returned
    refine ⟨isFree, rfl, rfl, Or.inr ⟨?_, ?_, rfl⟩⟩
    · intro other bound
      by_cases isReferenceId : other = 0
      · rw [isReferenceId]
        exact ⟨reference, deref_eq_ok.mp isReference, rfl⟩
      · have member : other ∈ List.range' 1 (setup.n - 1) :=
          List.mem_range'_1.mpr (by omega)
        obtain ⟨vspptx, isVspptx, equal⟩ :=
          bind_eq_ok.mp (Checked.forM_eq_ok.mp compared other member)
        obtain ⟨_, -, equal⟩ := bind_eq_ok.mp equal
        have equal := beq_iff_eq.mp (dectnrpAssert_eq_ok.mp equal)
        exact ⟨vspptx, deref_eq_ok.mp isVspptx, equal.symm⟩
    · exact wchannelGenerateGraph_valid isGraph rfl
  · rw [if_neg isLast] at returned
    cases returned
    exact ⟨isFree, rfl, rfl, Or.inl rfl⟩

variable {metaNow64 : Int}

theorem overwriteTimeIfFirst_eq_ok
    (returned : vspace.overwriteTimeIfFirst setup metaNow64 = .ok after) :
    vspace.allTxRegisteredAndInitsDone = true ∧
      ((∀ other < setup.n, vspace.rxRegistered other = false) ∧
          after = { vspace with nowStart64 := metaNow64, now64 := metaNow64 } ∨
        after = vspace) := by
  unfold overwriteTimeIfFirst isFirstToRegisterRx at returned
  obtain ⟨isFirst, isIsFirst, returned⟩ := bind_eq_ok.mp returned
  obtain ⟨_, done, isIsFirst⟩ := bind_eq_ok.mp isIsFirst
  refine ⟨dectnrpAssert_eq_ok.mp done, ?_⟩
  cases isIsFirst
  split at returned
  · rename_i isFirst
    obtain ⟨_, -, returned⟩ := bind_eq_ok.mp returned
    cases returned
    refine Or.inl ⟨?_, rfl⟩
    intro other bound
    have nobody := Bool.not_eq_true' _ ▸ isFirst
    exact Bool.eq_false_iff.mpr
      (List.any_eq_false.mp nobody other (List.mem_range.mpr bound))
  · cases returned
    exact Or.inr rfl

theorem allowTxIfLast_eq_ok
    (returned : vspace.allowTxIfLast setup = .ok after) :
    (∀ other < setup.n, vspace.rxRegistered other = true) ∧
        after =
          { vspace with
            statusTxWritten := fun _ => false
            statusRxRead := fun _ => true
            allRxRegisteredAndInitsDone := true } ∨
      after = vspace := by
  unfold allowTxIfLast isLastToRegisterRx at returned
  obtain ⟨isLast, isIsLast, returned⟩ := bind_eq_ok.mp returned
  obtain ⟨_, -, isIsLast⟩ := bind_eq_ok.mp isIsLast
  cases isIsLast
  split at returned
  · rename_i isLast
    cases returned
    refine Or.inl ⟨?_, rfl⟩
    intro other bound
    exact List.all_eq_true.mp isLast other (List.mem_range.mpr bound)
  · cases returned
    exact Or.inr rfl

/-- A receiver is registered once, with the time of the virtual space. -/
theorem hwRegisterRx_eq_ok
    (returned : vspace.hwRegisterRx setup id metaNow64 = .ok after) :
    ∃ vspptx timed registered,
      vspace.vspptxVec id = some vspptx ∧
      vspptx.vspprxCounterpartRegistered = false ∧
      vspace.allTxRegisteredAndInitsDone = true ∧
      ((∀ other < setup.n, vspace.rxRegistered other = false) ∧
          timed = { vspace with nowStart64 := metaNow64, now64 := metaNow64 } ∨
        timed = vspace) ∧
      timed.now64 = metaNow64 ∧
      registered =
        { timed with
          vspptxVec :=
            update vspace.vspptxVec id
              (some { vspptx with vspprxCounterpartRegistered := true }) } ∧
      ((∀ other < setup.n, registered.rxRegistered other = true) ∧ after =
          { registered with
            statusTxWritten := fun _ => false
            statusRxRead := fun _ => true
            allRxRegisteredAndInitsDone := true } ∨
        after = registered) := by
  unfold hwRegisterRx at returned
  obtain ⟨vspptx, isVspptx, returned⟩ := bind_eq_ok.mp returned
  obtain ⟨_, notYet, returned⟩ := bind_eq_ok.mp returned
  obtain ⟨timed, isTimed, returned⟩ := bind_eq_ok.mp returned
  obtain ⟨_, -, returned⟩ := bind_eq_ok.mp returned
  obtain ⟨_, -, returned⟩ := bind_eq_ok.mp returned
  obtain ⟨_, sameTime, returned⟩ := bind_eq_ok.mp returned
  obtain ⟨done, timedCases⟩ := overwriteTimeIfFirst_eq_ok isTimed
  have isUpdate : timed.vspptxVec = vspace.vspptxVec := by
    rcases timedCases with ⟨-, isTimed⟩ | isTimed
    · rw [isTimed]
    · rw [isTimed]
  rw [isUpdate] at returned
  refine ⟨vspptx, timed, _, deref_eq_ok.mp isVspptx, ?_, done, timedCases,
      (beq_iff_eq.mp (dectnrpAssert_eq_ok.mp sameTime)).symm, rfl,
      allowTxIfLast_eq_ok returned⟩
  exact Bool.not_eq_true' _ ▸ dectnrpAssert_eq_ok.mp notYet

/-- Writing needs the flag to be reset, the right time and a registration. -/
theorem write_eq_ok
    {vspptx : Vspptx Signal}
    (signal : Signal)
    (notWritten : vspace.statusTxWritten id = false)
    (isNow : metaNow64 = vspace.now64)
    (registered : vspace.vspptxVec id = some vspptx) :
    vspace.write setup id metaNow64 signal =
      .ok
        { vspace with
          vspptxVec :=
            update vspace.vspptxVec id (some
                { vspptx with
                  vspprxCounterpartRegistered := false
                  signal := some signal })
          statusTxWritten := update vspace.statusTxWritten id true
          statusRxRead :=
            if LockstepBarrier.Board.allDone setup.n
                (update vspace.statusTxWritten id true) then
              fun _ => false
            else vspace.statusRxRead } := by
  unfold write deref
  rw [notWritten, isNow, registered, beq_self_eq_true]
  simp only [Bool.not_false, dectnrpAssert_true, ok_bind]
  unfold isLastToWrite LockstepBarrier.Board.allDone
  split_ifs <;> rfl

/-- Signals over their channels, if there are channels and signals. -/
theorem wchannelExecute_eq_ok
    {signal : Nat → Signal}
    (graph : vspace.GraphValid setup)
    (bound : id < setup.n)
    (present : ∀ i < setup.n, vspace.signalOf i = .ok (signal i)) :
    vspace.wchannelExecute setup id =
      .ok
        ⟨((List.range setup.n).filter fun i => i != id).map fun i =>
            (⟨min id i, max id i⟩, signal i),
          (⟨id, id⟩, signal id)⟩ := by
  have inter : (((List.range setup.n).filter fun i => i != id).mapM fun i => do
      let index ←
        completeGraphSortedEdgeIndex setup.nofHwSimulator
          (UInt32.ofNat id) (UInt32.ofNat i)
      let channel ← channelAt vspace.wchannelInterVec index.toNat
      let signal ← vspace.signalOf i
      pure (channel, signal)) =
      Except.ok (((List.range setup.n).filter fun i => i != id).map fun i =>
          (⟨min id i, max id i⟩, signal i)) := by
    refine Checked.mapM_eq_ok ?_
    intro i member
    obtain ⟨inRange, different⟩ := List.mem_filter.mp member
    have iBound := List.mem_range.mp inRange
    obtain ⟨index, isIndex, isChannel⟩ :=
      graph.1 id bound i iBound (bne_iff_ne.mp different).symm
    rw [isIndex, ok_bind, isChannel, ok_bind, present i iBound]
    rfl
  unfold wchannelExecute
  rw [inter, ok_bind, graph.2 id bound, ok_bind, present id bound]
  rfl

/-- Reading needs the flag to be reset, the right time and the signals. -/
theorem read_eq_ok
    {superposition : Superposition Signal}
    (notRead : vspace.statusRxRead id = false)
    (isNow : metaNow64 = vspace.now64)
    (executed : vspace.wchannelExecute setup id = .ok superposition) :
    vspace.read setup id metaNow64 =
      .ok
        (superposition,
          { vspace with
            statusRxRead := update vspace.statusRxRead id true
            statusTxWritten :=
              if LockstepBarrier.Board.allDone setup.n
                  (update vspace.statusRxRead id true) then
                fun _ => false
              else vspace.statusTxWritten
            now64 :=
              vspace.now64 + (vspace.sppSizeCommon : Int) *
                  ((LockstepBarrier.Board.allDone setup.n
                    (update vspace.statusRxRead id true)).toNat :
                    Int) }) := by
  unfold read
  rw [notRead, isNow, executed, beq_self_eq_true]
  simp only [Bool.not_false, dectnrpAssert_true, ok_bind]
  unfold isLastToRead LockstepBarrier.Board.allDone
  split_ifs with isLast
  · simp [isLast]
  · simp [isLast]

end Vspace

end Simulation

end DectNrp
