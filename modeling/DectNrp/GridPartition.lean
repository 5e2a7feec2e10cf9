import DectNrp.Pdc

namespace DectNrp

open ColumnTables
open Phyres
open VirtualFrame

/-!
# Partition of the resource grid

Transmitter and receiver walk over the symbols of a packet and ask the control
channel, the reference signals and the data channel for their subcarriers.  The
answers divide the occupied subcarriers of each symbol, however long the packet
is, and are the columns of the defining constructions.
-/

/-- The three channels that share the resource grid. -/
structure ResourceGrid where
  pcc : Pcc
  drs : Drs
  pdc : Pdc
  deriving Repr, DecidableEq

/-- Subcarriers delivered in one symbol; those of the streams are listed by stream. -/
structure SymbolCells where
  pcc : List Nat
  drs : List (Nat × List Nat)
  pdc : List Nat
  deriving Repr, DecidableEq

namespace ResourceGrid

def create
    (bMax nTsMax : Nat) :
    Checked ResourceGrid := do
  let pcc ← Pcc.create bMax nTsMax
  let pdc ← Pdc.create bMax nTsMax
  .ok ⟨pcc, Drs.create bMax nTsMax, pdc⟩

def setConfiguration
    (grid : ResourceGrid)
    (b nTs : Nat) :
    ResourceGrid :=
  ⟨grid.pcc.setConfiguration b nTs, grid.drs.setConfiguration b nTs,
    grid.pdc.setConfiguration b nTs⟩

/-- One iteration of the loop over the symbols of a packet. -/
def runSymbol
    (grid : ResourceGrid)
    (l : Nat) :
    Checked (SymbolCells × ResourceGrid) := do
  let (pccCells, pcc) ← grid.pcc.runSymbol l
  let (drsCells, drs) := grid.drs.runSymbol l
  let (pdcCells, pdc) ← grid.pdc.runSymbol l
  .ok (⟨pccCells, drsCells, pdcCells⟩, ⟨pcc, drs, pdc⟩)

/-- A number of symbols from `l` on. -/
def runSymbols
    (grid : ResourceGrid) :
    (l count : Nat) → Checked (List SymbolCells)
  | _, 0 => .ok []
  | l, count + 1 => do
      let (cells, grid) ← grid.runSymbol l
      let later ← grid.runSymbols (l + 1) count
      .ok (cells :: later)

/-- All channels are prepared for the symbols from `l` on. -/
structure WaitsFrom
    (grid : ResourceGrid)
    (b nTs : Nat)
    (pccLinear : List Nat)
    (l : Nat) :
    Prop where
  pcc : Pcc.WaitsFrom grid.pcc b pccLinear l
  drs : Drs.WaitsFrom grid.drs b nTs l
  pdc : Pdc.HoldsTable grid.pdc b nTs pccLinear

/-- What the pattern says about one symbol. -/
def patternAt
    (b nTs : Nat)
    (pccLinear : List Nat)
    (l : Nat) :
    SymbolCells :=
  ⟨columnOf b l pccLinear, Drs.rowsAt b nTs l, Pdc.rowAt b nTs pccLinear l⟩

section Configured

variable {b nTs : Nat} {pccLinear : List Nat}

/-- One symbol delivers the pattern and prepares the next symbol. -/
theorem runSymbol_spec
    {grid : ResourceGrid}
    {l : Nat}
    (bValid : b ∈ bIdx2bLut)
    (nTsValid : nTs ∈ nTsIdx2NTsVec)
    (allocation : Pcc.Allocation b nTs pccLinear)
    (waits : WaitsFrom grid b nTs pccLinear l)
    (positive : 1 ≤ l) :
    ∃ after, grid.runSymbol l = .ok (patternAt b nTs pccLinear l, after) ∧
      WaitsFrom after b nTs pccLinear (l + 1) := by
  obtain ⟨pccAfter, pccRun, pccWaits⟩ := Pcc.runSymbol_spec waits.pcc
  obtain ⟨drsRows, drsWaits⟩ := Drs.runSymbol_spec nTsValid waits.drs
  obtain ⟨pdcAfter, pdcRun, pdcHolds⟩ :=
    Pdc.runSymbol_spec bValid nTsValid allocation waits.pdc positive
  refine ⟨⟨pccAfter, (grid.drs.runSymbol l).2, pdcAfter⟩, ?_, pccWaits, drsWaits, pdcHolds⟩
  simp only [runSymbol, pccRun, pdcRun, Checked.ok_bind, drsRows, patternAt]

/-- Any number of symbols delivers the pattern of each of them. -/
theorem runSymbols_spec
    {grid : ResourceGrid}
    {l : Nat}
    (bValid : b ∈ bIdx2bLut)
    (nTsValid : nTs ∈ nTsIdx2NTsVec)
    (allocation : Pcc.Allocation b nTs pccLinear)
    (waits : WaitsFrom grid b nTs pccLinear l)
    (positive : 1 ≤ l)
    (count : Nat) :
    grid.runSymbols l count =
      .ok ((List.range' l count).map (patternAt b nTs pccLinear)) := by
  induction count generalizing grid l with
  | zero => rfl
  | succ count hypothesis =>
      obtain ⟨after, run, next⟩ := runSymbol_spec bValid nTsValid allocation waits positive
      have later := hypothesis next (by omega)
      simp only [runSymbols, run, later, Checked.ok_bind, List.range'_succ, List.map_cons]

end Configured

end ResourceGrid

/-- The channels divide the occupied subcarriers of a symbol without overlap. -/
structure ExactPartition
    (b : Nat)
    (cells : SymbolCells) :
    Prop where
  pdc_eq : cells.pdc = (occupiedSubcarriers b).filter (fun k =>
    decide (k ∉ cells.drs.flatMap Prod.snd ∧ k ∉ cells.pcc))
  drs_occupied : ∀ stream ∈ cells.drs, ∀ k ∈ stream.2, k ∈ occupiedSubcarriers b
  pcc_occupied : ∀ k ∈ cells.pcc, k ∈ occupiedSubcarriers b
  streams_disjoint : cells.drs.Pairwise (fun first second =>
    first.1 ≠ second.1 ∧ ∀ k ∈ first.2, k ∉ second.2)
  drs_pcc_disjoint : ∀ stream ∈ cells.drs, ∀ k ∈ stream.2, k ∉ cells.pcc

/-- The streams deliver the columns of the defining formula. -/
structure AgreesWithDrs
    (b nTs l : Nat)
    (drsLinear : List (List Nat))
    (cells : SymbolCells) :
    Prop where
  delivered : ∀ t row, (t, row) ∈ cells.drs →
    t < nTs ∧ row = columnOf b l (drsLinear.getD t [])
  complete : ∀ t < nTs, columnOf b l (drsLinear.getD t []) ≠ [] →
    ∃ row, (t, row) ∈ cells.drs

namespace ResourceGrid

variable {pccLinear : List Nat}

theorem patternAt_exactPartition
    {b nTs l : Nat}
    (bValid : b ∈ bIdx2bLut)
    (nTsValid : nTs ∈ nTsIdx2NTsVec)
    (allocation : Pcc.Allocation b nTs pccLinear) :
    ExactPartition b (patternAt b nTs pccLinear l) where
  pdc_eq := by
    refine (Pdc.ascending_rowAt bValid pccLinear).eq_of_mem_iff
      ((ascending_occupiedSubcarriers bValid).filter _) ?_
    intro k
    simp only [Pdc.mem_rowAt, List.mem_filter, decide_eq_true_eq]
    rfl
  drs_occupied := by
    rintro ⟨t, row⟩ streamMember k member
    exact Drs.takenAt_occupied bValid nTsValid
      (Drs.mem_takenAt.mpr ⟨(t, row), streamMember, member⟩)
  pcc_occupied := by
    intro k member
    exact List.mem_of_mem_filter
      (Pdc.mem_freeRow_of_mem_columnOf bValid allocation member).1
  streams_disjoint := by
    simp only [patternAt, Drs.rowsAt]
    cases Drs.groupAt nTs l with
    | none => exact List.Pairwise.nil
    | some occurrence =>
        obtain ⟨group, n⟩ := occurrence
        refine List.pairwise_map.mpr ?_
        refine List.Pairwise.imp_of_mem ?_ (ascending_range' (4 * group) (min nTs 4))
        intro first second firstMember secondMember smaller
        rw [List.mem_range'_1] at firstMember secondMember
        exact ⟨Nat.ne_of_lt smaller, fun k member =>
          Drs.carriers_disjoint (by omega) member⟩
  drs_pcc_disjoint := by
    rintro ⟨t, row⟩ streamMember k member inPcc
    have free := (Pdc.mem_freeRow_of_mem_columnOf bValid allocation inPcc).1
    simp only [Drs.freeRow, List.mem_filter, decide_eq_true_eq] at free
    exact free.2 (Drs.mem_takenAt.mpr ⟨(t, row), streamMember, member⟩)

theorem columnOf_streamCells
    {nTs count n : Nat}
    (inside : n < count)
    (b t : Nat) :
    columnOf b (1 + t / 4 + n * Drs.getNStep nTs) (Drs.streamCells b nTs count t) =
      Drs.carriers b t n := by
  unfold columnOf
  rw [Drs.streamCells_filter inside, List.map_map]
  calc
    (Drs.carriers b t n).map
        ((fun cell => cell - (1 + t / 4 + n * Drs.getNStep nTs) * (64 * b) - 4 * b) ∘
          fun k => (1 + t / 4 + n * Drs.getNStep nTs) * (64 * b) + 4 * b + k) =
        (Drs.carriers b t n).map id := by
          refine List.map_congr_left ?_
          intro k _
          simp only [Function.comp, id]
          omega
    _ = Drs.carriers b t n := List.map_id _

theorem patternAt_agreesWithDrs
    {u b nPacketSymb nTs l : Nat}
    (valid : PacketValid u nPacketSymb nTs)
    (inside : l ≤ Pdc.getNDfSymb u nPacketSymb) :
    AgreesWithDrs b nTs l
      ((List.range nTs).map (Drs.streamCells b nTs (Drs.nofSymbols nPacketSymb nTs)))
      (patternAt b nTs pccLinear l) where
  delivered := by
    intro t row member
    obtain ⟨tInside, n, rfl, rfl⟩ := (Drs.mem_rowsAt valid.nTs_mem).mp member
    have nInside := (Drs.symbol_le_getNDfSymb valid tInside).mp inside
    refine ⟨tInside, ?_⟩
    have column := @columnOf_streamCells nTs _ n nInside b t
    rw [← column]
    simp [tInside]
  complete := by
    intro t tInside nonempty
    have stream : ((List.range nTs).map
        (Drs.streamCells b nTs (Drs.nofSymbols nPacketSymb nTs))).getD t [] =
          Drs.streamCells b nTs (Drs.nofSymbols nPacketSymb nTs) t := by
      simp [tInside]
    rw [stream] at nonempty
    by_contra absent
    refine nonempty ?_
    unfold columnOf
    rw [Drs.streamCells_filter_eq_nil]
    · rfl
    · rintro n - symbol
      exact absent ⟨_, (Drs.mem_rowsAt valid.nTs_mem).mpr ⟨tInside, n, symbol, rfl⟩⟩

/-- Subcarriers delivered in symbol `l` of a run over a number of symbols. -/
def Delivers
    (grid : ResourceGrid)
    (count l : Nat)
    (cells : SymbolCells) :
    Prop :=
  ∃ symbols,
    grid.runSymbols 1 count = .ok symbols ∧ 1 ≤ l ∧ symbols[l - 1]? = some cells

/--
A configured grid delivers an exact partition in each symbol of every run, which
is the one of the defining constructions.
-/
structure Partitions
    (grid : ResourceGrid)
    (b nTs : Nat) :
    Prop where
  delivers : ∀ count l, 1 ≤ l → l ≤ count → ∃ cells, grid.Delivers count l cells
  exact_ : ∀ count l cells, grid.Delivers count l cells → ExactPartition b cells
  pcc : ∃ pccLinear, Pcc.getKILinear b nTs = .ok pccLinear ∧
    ∀ count l cells, grid.Delivers count l cells → cells.pcc = columnOf b l pccLinear
  drs : ∀ u nPacketSymb, PacketValid u nPacketSymb nTs →
    ∃ drsLinear, Drs.getKILinear u b nPacketSymb nTs = .ok drsLinear ∧
      ∀ l cells, grid.Delivers (Pdc.getNDfSymb u nPacketSymb) l cells →
        AgreesWithDrs b nTs l drsLinear cells
  pdc : ∀ u nPacketSymb nPdcSubc, PacketValid u nPacketSymb nTs →
    Pdc.getNPdcSubc nPacketSymb u nTs (nBOccLut (b2bIdx b)) = .ok nPdcSubc → 0 < nPdcSubc →
      ∃ pdcLinear, Pdc.getKILinearOf u nPacketSymb b nTs = .ok pdcLinear ∧
        ∀ l cells, grid.Delivers (Pdc.getNDfSymb u nPacketSymb) l cells →
          cells.pdc = columnOf b l pdcLinear
  pdcTable : ∃ pdcLinear, Pdc.getKILinear b nTs = .ok pdcLinear ∧
    ∀ count l cells, l ≤ Pdc.getNDfSymb 8 30 → grid.Delivers count l cells →
      cells.pdc = columnOf b l pdcLinear

/-- Every run of a prepared grid delivers the pattern. -/
theorem delivers_iff
    {grid : ResourceGrid}
    {b nTs count l : Nat}
    {cells : SymbolCells}
    (bValid : b ∈ bIdx2bLut)
    (nTsValid : nTs ∈ nTsIdx2NTsVec)
    (allocation : Pcc.Allocation b nTs pccLinear)
    (waits : WaitsFrom grid b nTs pccLinear 1) :
    grid.Delivers count l cells ↔
      1 ≤ l ∧ l ≤ count ∧ cells = patternAt b nTs pccLinear l := by
  have run := runSymbols_spec bValid nTsValid allocation waits (Nat.le_refl 1) count
  unfold Delivers
  rw [run]
  constructor
  · rintro ⟨_, ⟨⟩, positive, found⟩
    rw [List.getElem?_map] at found
    obtain ⟨symbol, symbolAt, rfl⟩ := Option.map_eq_some_iff.mp found
    obtain ⟨inside, rfl⟩ := List.getElem?_eq_some_iff.mp symbolAt
    rw [List.length_range'] at inside
    refine ⟨positive, by omega, ?_⟩
    rw [List.getElem_range']
    congr 1
    omega
  · rintro ⟨positive, inside, rfl⟩
    refine ⟨_, rfl, positive, ?_⟩
    have symbol : 1 + (l - 1) = l := by omega
    rw [List.getElem?_map, List.getElem?_range' (by omega), Nat.one_mul, symbol]
    rfl

theorem carriesData_of_getNPdcSubc
    {u b nPacketSymb nTs nPdcSubc : Nat}
    (bValid : b ∈ bIdx2bLut)
    (valid : PacketValid u nPacketSymb nTs)
    (computed : Pdc.getNPdcSubc nPacketSymb u nTs (nBOccLut (b2bIdx b)) = .ok nPdcSubc)
    (positive : 0 < nPdcSubc) :
    Pdc.CarriesData u b nPacketSymb nTs := by
  have quarter : nTs * (56 * b) / 4 = nTs * (14 * b) := by
    have regroup : nTs * (56 * b) = 4 * (nTs * (14 * b)) := by ring
    omega
  unfold Pdc.CarriesData
  by_contra none
  have exhausted := Nat.not_lt.mp none
  simp only [Pdc.getNPdcSubc, Pdc.getNDrsSubc, nBOccLut_b2bIdx bValid, quarter,
    Pdc.getNofOfdmSymbolsCarryingDrsPerTs_eq valid, Checked.ok_bind, if_pos exhausted] at computed
  cases computed
  omega

/-- The tables can be built, and a configuration of them waits for a packet. -/
theorem create_waitsFrom
    {bMax nTsMax b nTs : Nat}
    (bMaxValid : bMax ∈ bIdx2bLut)
    (nTsMaxValid : nTsMax ∈ nTsIdx2NTsVec)
    (bValid : b ∈ bIdx2bLut)
    (bInside : b ≤ bMax)
    (nTsValid : nTs ∈ nTsIdx2NTsVec)
    (nTsInside : nTs ≤ nTsMax) :
    ∃ grid pccLinear,
      create bMax nTsMax = .ok grid ∧
      Pcc.getKILinear b nTs = .ok pccLinear ∧
      Pcc.Allocation b nTs pccLinear ∧
      WaitsFrom (grid.setConfiguration b nTs) b nTs pccLinear 1 := by
  obtain ⟨pccLinear, pccCreated, allocation⟩ := Pcc.getKILinear_spec bValid nTsValid
  obtain ⟨pcc, pccTable, pccWaits⟩ := Pcc.create_spec bMaxValid nTsMaxValid
  obtain ⟨pdc, pdcTable, pdcHolds⟩ := Pdc.create_spec bMaxValid nTsMaxValid
  refine ⟨⟨pcc, Drs.create bMax nTsMax, pdc⟩, pccLinear, ?_, pccCreated, allocation, ?_⟩
  · simp only [create, pccTable, pdcTable, Checked.ok_bind]
  · exact ⟨pccWaits b bValid bInside nTs nTsValid nTsInside pccLinear pccCreated,
      Drs.setConfiguration_waitsFrom bMaxValid bValid bInside nTsValid nTsInside,
      pdcHolds b bValid bInside nTs nTsValid nTsInside pccLinear pccCreated⟩

/-- The tables can be built, and every configuration of them is an exact partition. -/
theorem create_partitions
    {bMax nTsMax b nTs : Nat}
    (bMaxValid : bMax ∈ bIdx2bLut)
    (nTsMaxValid : nTsMax ∈ nTsIdx2NTsVec)
    (bValid : b ∈ bIdx2bLut)
    (bInside : b ≤ bMax)
    (nTsValid : nTs ∈ nTsIdx2NTsVec)
    (nTsInside : nTs ≤ nTsMax) :
    ∃ grid, create bMax nTsMax = .ok grid ∧ Partitions (grid.setConfiguration b nTs) b nTs := by
  obtain ⟨grid, pccLinear, created, pccCreated, allocation, waits⟩ :=
    create_waitsFrom bMaxValid nTsMaxValid bValid bInside nTsValid nTsInside
  refine ⟨grid, created, ?_, ?_, ?_, ?_, ?_, ?_⟩
  · intro count l positive inside
    exact ⟨_, (delivers_iff bValid nTsValid allocation waits).mpr ⟨positive, inside, rfl⟩⟩
  · intro count l cells delivered
    obtain ⟨-, -, rfl⟩ := (delivers_iff bValid nTsValid allocation waits).mp delivered
    exact patternAt_exactPartition bValid nTsValid allocation
  · refine ⟨pccLinear, pccCreated, ?_⟩
    intro count l cells delivered
    obtain ⟨-, -, rfl⟩ := (delivers_iff bValid nTsValid allocation waits).mp delivered
    rfl
  · intro u nPacketSymb valid
    refine ⟨_, Drs.getKILinear_eq bValid valid, ?_⟩
    intro l cells delivered
    obtain ⟨-, inside, rfl⟩ := (delivers_iff bValid nTsValid allocation waits).mp delivered
    exact patternAt_agreesWithDrs valid inside
  · intro u nPacketSymb nPdcSubc valid computed positive
    have carries := carriesData_of_getNPdcSubc bValid valid computed positive
    refine ⟨_, Pdc.getKILinearOf_eq bValid valid carries pccCreated allocation, ?_⟩
    intro l cells delivered
    obtain ⟨lPositive, inside, rfl⟩ := (delivers_iff bValid nTsValid allocation waits).mp delivered
    exact (Pdc.columnOf_flatMap bValid lPositive inside).symm
  · have valid := Pdc.packetValid_eight_thirty nTsValid
    have carries := Pdc.carriesData_eight_thirty bValid nTsValid
    refine ⟨_, Pdc.getKILinearOf_eq bValid valid carries pccCreated allocation, ?_⟩
    intro count l cells inside delivered
    obtain ⟨lPositive, -, rfl⟩ := (delivers_iff bValid nTsValid allocation waits).mp delivered
    exact (Pdc.columnOf_flatMap bValid lPositive inside).symm

theorem create_partitions_fourStreams :
    ∃ grid, create 8 8 = .ok grid ∧ Partitions (grid.setConfiguration 4 4) 4 4 :=
  create_partitions (by decide) (by decide) (by decide) (by decide) (by decide) (by decide)

end ResourceGrid

end DectNrp
