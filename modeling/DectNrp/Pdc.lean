import DectNrp.Pcc

namespace DectNrp

open ColumnTables
open Phyres
open VirtualFrame

/-!
# Physical data channel

The data channel takes every cell that is left.  Its cells are computed once,
for a packet that is long enough to show the repetition of the reference
signals, and the table of its first symbols is used for packets of any length.
-/

open Drs (freeRow nofSymbols)

namespace Pdc

/-- Number of cells that remain for the data channel. -/
def getNPdcSubc
    (nPacketSymb u nEffTx nBOcc : Nat) :
    Checked Nat := do
  let nDfSymb := getNDfSymb u nPacketSymb
  let nDrsSubc ← getNDrsSubc u nPacketSymb nEffTx nBOcc
  if nDfSymb * nBOcc ≤ nDrsSubc + Pcc.pccCells then
    .ok 0
  else
    .ok (nDfSymb * nBOcc - nDrsSubc - Pcc.pccCells)

/-- Linear indices of the cells of the data channel in a packet of a given length. -/
def getKILinearOf
    (u nPacketSymb b nTs : Nat) :
    Checked (List Nat) := do
  let nBDft := nBDftLut (b2bIdx b)
  let frame ← withDrs u b nPacketSymb nTs
  let kILinearPcc ← Pcc.getKILinear b nTs
  let frame := markCells frame kILinearPcc (-4)
  let nDfSymb := getNDfSymb u nPacketSymb
  let nPdcSubc ← getNPdcSubc nPacketSymb u nTs (nBOccLut (b2bIdx b))
  dectnrpAssert (decide (0 < nPdcSubc)) "N_PDC_subc is zero"
  let kILinear ← unmarkedCells frame ((List.range' 1 nDfSymb).flatMap (columnCells nBDft))
  -- the vector has been allocated for the expected number of cells
  if nPdcSubc < kILinear.length then
    .error (.readBeyond nPdcSubc)
  else do
    dectnrpAssert (nPdcSubc == kILinear.length) "N_PDC counter has incorrect final value"
    .ok kILinear

/-- Linear indices for the packet of thirty symbols from which the tables are taken. -/
def getKILinear
    (b nTs : Nat) :
    Checked (List Nat) :=
  getKILinearOf 8 30 b nTs

/-- All columns up to the one of the last linear index. -/
def idx2subColZeroVec
    (dimColumn : Nat)
    (linearIdx : List Nat) :
    List Nat :=
  List.range (linearIdx.getLastD 0 / dimColumn + 1)

/-- Rows of the linear indices in all of these columns, counted from an offset. -/
def idx2subRowZeroVec
    (dimColumn offset : Nat)
    (linearIdx : List Nat) :
    List (List Nat) :=
  distribute (fun index => index / dimColumn)
    (fun index => index - index / dimColumn * dimColumn - offset)
    (List.replicate (linearIdx.getLastD 0 / dimColumn + 1) []) linearIdx

/-- Index of the symbol that is kept as the fully occupied one. -/
def symbolIndexFullyOccupied : Nat := 10

/-- Number of symbols that cover the repetition range. -/
def symbolIndexRepetitionEnd : Nat := 21

/-- All fully occupied symbols but one keep a single subcarrier as a mark. -/
def collapse
    (nBOcc index : Nat)
    (row : List Nat) :
    List Nat :=
  if index = symbolIndexFullyOccupied then
    row
  else if row.length = nBOcc then
    row.take 1
  else
    row

/-- Symbols of the repetition range and their subcarriers for one configuration. -/
def tableEntry
    (bIdx nTs : Nat) :
    Checked (List Nat × List (List Nat)) := do
  let kILinearSingle ← getKILinear (bIdx2b bIdx) nTs
  let lPerSymbolSingle := idx2subColZeroVec (nBDftLut bIdx) kILinearSingle
  let kIPerSymbolSingle :=
    idx2subRowZeroVec (nBDftLut bIdx) (guardsBottomLut bIdx) kILinearSingle
  dectnrpAssert (decide (symbolIndexRepetitionEnd ≤ lPerSymbolSingle.length))
    "More OFDM symbols are required to fully cover the repetition range."
  dectnrpAssert (lPerSymbolSingle.length == kIPerSymbolSingle.length)
    "Incorrect number of PDC OFDM sybmols."
  .ok (lPerSymbolSingle.take symbolIndexRepetitionEnd,
    (kIPerSymbolSingle.take symbolIndexRepetitionEnd).mapIdx (collapse (nBOccLut bIdx)))

end Pdc

/-- Access to the symbols of the data channel. -/
structure Pdc where
  lAllSymbols : List (List (List Nat))
  kIAllSymbols : List (List (List (List Nat)))
  configBIdx : Nat
  configNTs : Nat
  configNTsIdx : Nat
  kIAllSymbolsEffective : List (List Nat)
  lLimit : Nat
  lRepeat : Nat
  lEquivalent : Nat
  deriving Repr, DecidableEq

namespace Pdc

/-- Tables for all bandwidths and numbers of streams up to a maximum. -/
def create
    (bMax nTsMax : Nat) :
    Checked Pdc := do
  let table ← (List.range (b2bIdx bMax + 1)).mapM (fun bIdx =>
    (streamCounts nTsMax).mapM (fun nTs => tableEntry bIdx nTs))
  .ok
    { lAllSymbols := table.map (List.map Prod.fst)
      kIAllSymbols := table.map (List.map Prod.snd)
      configBIdx := 0
      configNTs := 0
      configNTsIdx := 0
      kIAllSymbolsEffective := []
      lLimit := 0
      lRepeat := 0
      lEquivalent := 0 }

/-- The repetition range begins later for more than two streams. -/
def setConfiguration
    (pdc : Pdc)
    (b nTs : Nat) :
    Pdc :=
  let configured :=
    { pdc with
      configBIdx := b2bIdx b
      configNTs := nTs
      configNTsIdx := nTs2NTsIdxVec nTs
      kIAllSymbolsEffective :=
        (pdc.kIAllSymbols.getD (b2bIdx b) []).getD (nTs2NTsIdxVec nTs) [] }
  if nTs ≤ 2 then
    { configured with lLimit := 6, lRepeat := 10 }
  else if nTs = 4 then
    { configured with lLimit := 11, lRepeat := 10 }
  else if nTs = 8 then
    { configured with lLimit := 11, lRepeat := 10 }
  else
    configured

def isSymbolIndex
    (pdc : Pdc)
    (l : Nat) :
    Checked (Bool × Pdc) := do
  let lEquivalent := equivalentIndex pdc.lLimit pdc.lRepeat l
  let row ← elementAt pdc.kIAllSymbolsEffective lEquivalent
  let lEquivalent := if row.length = 1 then symbolIndexFullyOccupied else lEquivalent
  let row ← elementAt pdc.kIAllSymbolsEffective lEquivalent
  .ok (!row.isEmpty, { pdc with lEquivalent := lEquivalent })

def getKIOneSymbol (pdc : Pdc) : Checked (List Nat) :=
  elementAt pdc.kIAllSymbolsEffective pdc.lEquivalent

/-- Subcarriers that a caller gets in one symbol. -/
def runSymbol
    (pdc : Pdc)
    (l : Nat) :
    Checked (List Nat × Pdc) := do
  let (found, pdc) ← pdc.isSymbolIndex l
  if found then do
    let kI ← pdc.getKIOneSymbol
    .ok (kI, pdc)
  else
    .ok ([], pdc)

/-- Free subcarriers of a symbol that the control channel left. -/
def rowAt
    (b nTs : Nat)
    (pccLinear : List Nat)
    (l : Nat) :
    List Nat :=
  (freeRow b nTs l).filter (fun k => decide (k ∉ columnOf b l pccLinear))

theorem mem_rowAt
    {b nTs l k : Nat}
    {pccLinear : List Nat} :
    k ∈ rowAt b nTs pccLinear l ↔
      k ∈ occupiedSubcarriers b ∧ k ∉ Drs.takenAt b nTs l ∧ k ∉ columnOf b l pccLinear := by
  simp only [rowAt, freeRow, List.mem_filter, decide_eq_true_eq, and_assoc]

variable {b nTs l : Nat}

theorem ascending_rowAt
    (bValid : b ∈ bIdx2bLut)
    (pccLinear : List Nat) :
    Ascending (rowAt b nTs pccLinear l) :=
  ((ascending_occupiedSubcarriers bValid).filter _).filter _

section Allocated

variable {b nTs : Nat} {pccLinear : List Nat}

/-- Cells of the control channel lie above the lower guards of their symbol. -/
theorem between_of_allocation
    (bValid : b ∈ bIdx2bLut)
    (allocation : Pcc.Allocation b nTs pccLinear)
    (l cell : Nat)
    (member : cell ∈ pccLinear)
    (column : cell / (64 * b) = l) :
    l * (64 * b) + 4 * b ≤ cell := by
  obtain ⟨symbol, -, -, inRow⟩ := allocation.allocated.free cell member
  rw [Pcc.div_of_mem_rowCells bValid inRow] at column
  subst column
  obtain ⟨k, -, rfl⟩ := List.mem_map.mp inRow
  exact Nat.le_add_right _ _

/-- The control channel has a free subcarrier of a symbol iff it has the cell. -/
theorem mem_columnOf_iff
    {l k : Nat}
    (bValid : b ∈ bIdx2bLut)
    (allocation : Pcc.Allocation b nTs pccLinear)
    (occupied : k ∈ occupiedSubcarriers b) :
    k ∈ columnOf b l pccLinear ↔ l * (64 * b) + 4 * b + k ∈ pccLinear :=
  mem_columnOf (between_of_allocation bValid allocation l) (occupied_lt bValid occupied)

/-- The control channel only uses free subcarriers of the first four symbols. -/
theorem mem_freeRow_of_mem_columnOf
    {l k : Nat}
    (bValid : b ∈ bIdx2bLut)
    (allocation : Pcc.Allocation b nTs pccLinear)
    (member : k ∈ columnOf b l pccLinear) :
    k ∈ freeRow b nTs l ∧ 1 ≤ l ∧ l < 5 := by
  simp only [columnOf, List.mem_map, List.mem_filter, decide_eq_true_eq] at member
  obtain ⟨cell, ⟨cellMember, column⟩, rfl⟩ := member
  obtain ⟨symbol, positive, early, inRow⟩ := allocation.allocated.free cell cellMember
  rw [Pcc.div_of_mem_rowCells bValid inRow] at column
  subst column
  obtain ⟨k, kMember, rfl⟩ := List.mem_map.mp inRow
  have restored : symbol * (64 * b) + 4 * b + k - symbol * (64 * b) - 4 * b = k := by
    omega
  rw [restored]
  exact ⟨kMember, positive, early⟩

theorem columnOf_nodup
    (bValid : b ∈ bIdx2bLut)
    (allocation : Pcc.Allocation b nTs pccLinear)
    (l : Nat) :
    (columnOf b l pccLinear).Nodup := by
  refine List.Nodup.map_on ?_ (allocation.allocated.nodup.filter _)
  intro first firstMember second secondMember same
  simp only [List.mem_filter, decide_eq_true_eq] at firstMember secondMember
  have firstAbove := between_of_allocation bValid allocation l first firstMember.1 firstMember.2
  have secondAbove :=
    between_of_allocation bValid allocation l second secondMember.1 secondMember.2
  omega

/-- The data channel gets multiples of fourteen subcarriers. -/
theorem length_rowAt
    (bValid : b ∈ bIdx2bLut)
    (nTsValid : nTs ∈ nTsIdx2NTsVec)
    (allocation : Pcc.Allocation b nTs pccLinear)
    (l : Nat) :
    14 ∣ (rowAt b nTs pccLinear l).length := by
  have counted := length_filter_not_mem
    ((ascending_occupiedSubcarriers bValid).filter _).nodup (columnOf_nodup bValid allocation l)
    (fun k member => (mem_freeRow_of_mem_columnOf bValid allocation member).1)
  have freeFourteen := Drs.length_freeRow bValid nTsValid l
  have pccFourteen : 14 ∣ (columnOf b l pccLinear).length := by
    rw [columnOf, List.length_map]
    exact allocation.allocated.columns l
  unfold freeRow at freeFourteen counted
  unfold rowAt freeRow
  omega

theorem rowAt_eq_of_length
    {l : Nat}
    (bValid : b ∈ bIdx2bLut)
    (full : (rowAt b nTs pccLinear l).length = 56 * b) :
    rowAt b nTs pccLinear l = occupiedSubcarriers b := by
  have sublist : (rowAt b nTs pccLinear l).Sublist (occupiedSubcarriers b) :=
    List.filter_sublist.trans List.filter_sublist
  refine sublist.eq_of_length ?_
  rw [full, occupiedSubcarriers_eq bValid, List.length_map, List.length_range]

/-- Without reference signals, symbols beyond the control channel are full. -/
theorem rowAt_of_idle
    {l : Nat}
    (bValid : b ∈ bIdx2bLut)
    (allocation : Pcc.Allocation b nTs pccLinear)
    (late : 5 ≤ l)
    (idle : Drs.groupAt nTs l = none) :
    rowAt b nTs pccLinear l = occupiedSubcarriers b := by
  unfold rowAt
  rw [Drs.freeRow_of_groupAt_eq_none idle]
  refine List.filter_eq_self.mpr ?_
  intro k _
  have absent : k ∉ columnOf b l pccLinear := by
    intro member
    have := (mem_freeRow_of_mem_columnOf bValid allocation member).2.2
    omega
  simpa using absent

end Allocated

/-- With four or eight streams a group takes all occupied subcarriers. -/
theorem mem_takenAt_of_many
    {b nTs l group n k : Nat}
    (bValid : b ∈ bIdx2bLut)
    (many : 4 ≤ nTs)
    (found : Drs.groupAt nTs l = some (group, n)) :
    k ∈ Drs.takenAt b nTs l ↔ k ∈ occupiedSubcarriers b := by
  rw [occupiedSubcarriers_eq bValid]
  simp only [Drs.takenAt, Drs.rowsAt, found, List.flatMap_map, List.mem_flatMap,
    List.mem_range'_1, Drs.mem_carriers, List.mem_map, List.mem_range]
  constructor
  · rintro ⟨t, -, index, inside, -, same⟩
    exact ⟨index, inside, same⟩
  · rintro ⟨index, inside, same⟩
    refine ⟨4 * group + (index + n % 2 * 2) % 4, by omega, index, inside, by omega, same⟩

theorem mem_takenAt_add_ten
    {b nTs l k : Nat}
    (bValid : b ∈ bIdx2bLut)
    (nTsValid : nTs ∈ nTsIdx2NTsVec)
    (positive : 1 ≤ l) :
    k ∈ Drs.takenAt b nTs (l + 10) ↔ k ∈ Drs.takenAt b nTs l := by
  have streams := nTs_cases nTsValid
  cases found : Drs.groupAt nTs l with
  | none =>
      have idle : Drs.groupAt nTs (l + 10) = none := by
        cases later : Drs.groupAt nTs (l + 10) with
        | none => rfl
        | some occurrence =>
            obtain ⟨group, n⟩ := occurrence
            obtain ⟨groupValid, symbol⟩ := (Drs.groupAt_eq_some nTsValid).mp later
            have earlier : Drs.groupAt nTs l = some (group, n - 10 / Drs.getNStep nTs) := by
              refine (Drs.groupAt_eq_some nTsValid).mpr ⟨groupValid, ?_⟩
              rcases Drs.getNStep_cases nTs with ⟨few, step⟩ | ⟨many, step⟩ <;>
                rw [step] at symbol ⊢ <;> omega
            rw [found] at earlier
            cases earlier
      simp [Drs.takenAt, Drs.rowsAt, found, idle]
  | some occurrence =>
      obtain ⟨group, n⟩ := occurrence
      obtain ⟨groupValid, symbol⟩ := (Drs.groupAt_eq_some nTsValid).mp found
      have later :
          Drs.groupAt nTs (l + 10) = some (group, n + 10 / Drs.getNStep nTs) := by
        refine (Drs.groupAt_eq_some nTsValid).mpr ⟨groupValid, ?_⟩
        rcases Drs.getNStep_cases nTs with ⟨few, step⟩ | ⟨many, step⟩ <;>
          rw [step] at symbol ⊢ <;> omega
      rcases Drs.getNStep_cases nTs with ⟨few, step⟩ | ⟨many, step⟩
      · -- two more occurrences use the same table again
        rw [step] at later
        have parity : (n + 10 / 5) % 2 = n % 2 := by omega
        simp only [Drs.takenAt, Drs.rowsAt, found, later]
        simp only [Drs.carriers, parity]
      · rw [mem_takenAt_of_many bValid (by omega) later,
          mem_takenAt_of_many bValid (by omega) found]

variable {pccLinear : List Nat}

theorem rowAt_add_ten
    (bValid : b ∈ bIdx2bLut)
    (nTsValid : nTs ∈ nTsIdx2NTsVec)
    (allocation : Pcc.Allocation b nTs pccLinear)
    (late : 5 ≤ l) :
    rowAt b nTs pccLinear (l + 10) = rowAt b nTs pccLinear l := by
  refine (ascending_rowAt bValid pccLinear).eq_of_mem_iff (ascending_rowAt bValid pccLinear) ?_
  intro k
  have beyond : ∀ symbol, 5 ≤ symbol → k ∉ columnOf b symbol pccLinear := by
    intro symbol symbolLate member
    have := (mem_freeRow_of_mem_columnOf bValid allocation member).2.2
    omega
  rw [mem_rowAt, mem_rowAt, mem_takenAt_add_ten bValid nTsValid (by omega)]
  simp [beyond l late, beyond (l + 10) (by omega)]

/-- The packet is long enough to leave cells for the data channel. -/
def CarriesData
    (u b nPacketSymb nTs : Nat) :
    Prop :=
  nTs * (14 * b) * nofSymbols nPacketSymb nTs + Pcc.pccCells <
    getNDfSymb u nPacketSymb * (56 * b)

instance (u b nPacketSymb nTs : Nat) : Decidable (CarriesData u b nPacketSymb nTs) :=
  inferInstanceAs (Decidable (_ < _))

variable {u b nPacketSymb nTs : Nat}

theorem getNPdcSubc_eq
    (valid : PacketValid u nPacketSymb nTs)
    (carries : CarriesData u b nPacketSymb nTs) :
    getNPdcSubc nPacketSymb u nTs (56 * b) =
      .ok (getNDfSymb u nPacketSymb * (56 * b) -
        nTs * (14 * b) * nofSymbols nPacketSymb nTs - Pcc.pccCells) := by
  have quarter : nTs * (56 * b) / 4 = nTs * (14 * b) := by
    have regroup : nTs * (56 * b) = 4 * (nTs * (14 * b)) := by ring
    omega
  have enough : ¬ getNDfSymb u nPacketSymb * (56 * b) ≤
      nTs * (14 * b) * nofSymbols nPacketSymb nTs + Pcc.pccCells :=
    Nat.not_le.mpr carries
  simp only [getNPdcSubc, getNDrsSubc, getNofOfdmSymbolsCarryingDrsPerTs_eq valid,
    Checked.ok_bind, quarter, if_neg enough]

/-- Occupied cells of all symbols of the data field. -/
def fieldCells
    (b nDfSymb : Nat) :
    List Nat :=
  (List.range' 1 nDfSymb).flatMap (occupiedCells b)

theorem mem_fieldCells
    {b nDfSymb cell : Nat} :
    cell ∈ fieldCells b nDfSymb ↔
      ∃ l, 1 ≤ l ∧ l ≤ nDfSymb ∧
        ∃ k ∈ occupiedSubcarriers b, l * (64 * b) + 4 * b + k = cell := by
  simp only [fieldCells, occupiedCells, List.mem_flatMap, List.mem_range'_1, List.mem_map]
  constructor
  · rintro ⟨l, ⟨positive, inside⟩, found⟩
    exact ⟨l, positive, by omega, found⟩
  · rintro ⟨l, positive, inside, found⟩
    exact ⟨l, ⟨positive, by omega⟩, found⟩

theorem fieldCells_nodup
    {b : Nat}
    (bValid : b ∈ bIdx2bLut)
    (nDfSymb : Nat) :
    (fieldCells b nDfSymb).Nodup := by
  refine List.nodup_flatMap.mpr ⟨fun l _ => (ascending_occupiedCells bValid l).nodup, ?_⟩
  refine (ascending_range' 1 nDfSymb).nodup.imp ?_
  intro first second different cell inFirst inSecond
  obtain ⟨k, kMember, rfl⟩ := List.mem_map.mp inFirst
  obtain ⟨j, jMember, same⟩ := List.mem_map.mp inSecond
  exact different (linear_injective (occupied_lt bValid kMember) (occupied_lt bValid jMember)
    (by omega : first * (64 * b) + (4 * b + k) = second * (64 * b) + (4 * b + j))).1

theorem length_fieldCells
    {b : Nat}
    (bValid : b ∈ bIdx2bLut)
    (nDfSymb : Nat) :
    (fieldCells b nDfSymb).length = nDfSymb * (56 * b) := by
  simp [fieldCells, occupiedCells, occupiedSubcarriers_eq bValid, List.length_flatMap]

theorem packetCells_subset
    (bValid : b ∈ bIdx2bLut)
    (valid : PacketValid u nPacketSymb nTs) :
    ∀ cell ∈ Drs.packetCells b nTs (nofSymbols nPacketSymb nTs),
      cell ∈ fieldCells b (getNDfSymb u nPacketSymb) := by
  intro cell member
  simp only [Drs.packetCells, List.mem_flatMap, List.mem_range] at member
  obtain ⟨t, tInside, inStream⟩ := member
  obtain ⟨n, nInside, k, kMember, rfl⟩ := Drs.mem_streamCells.mp inStream
  exact mem_fieldCells.mpr ⟨_, by omega, (Drs.symbol_le_getNDfSymb valid tInside).mpr nInside,
    k, Drs.carriers_occupied bValid kMember, rfl⟩

theorem freeBefore_add_packetCells
    (bValid : b ∈ bIdx2bLut)
    (valid : PacketValid u nPacketSymb nTs) :
    Pcc.freeBefore b nTs (getNDfSymb u nPacketSymb + 1) +
        nTs * (14 * b) * nofSymbols nPacketSymb nTs =
      getNDfSymb u nPacketSymb * (56 * b) := by
  have counted := length_filter_not_mem
    (fieldCells_nodup bValid (getNDfSymb u nPacketSymb))
    (Drs.packetCells_nodup valid.nTs_mem (nofSymbols nPacketSymb nTs))
    (packetCells_subset bValid valid)
  have rows : ((fieldCells b (getNDfSymb u nPacketSymb)).filter (fun cell =>
      decide (cell ∉ Drs.packetCells b nTs (nofSymbols nPacketSymb nTs)))).length =
      Pcc.freeBefore b nTs (getNDfSymb u nPacketSymb + 1) := by
    unfold fieldCells Pcc.freeBefore
    rw [List.filter_flatMap, List.length_flatMap, Nat.add_sub_cancel]
    congr 1
    refine List.map_congr_left ?_
    intro l member
    rw [List.mem_range'_1] at member
    simp only [occupiedCells, List.filter_map, List.length_map, freeRow]
    congr 1
    refine List.filter_congr ?_
    intro k kMember
    simp only [Function.comp, decide_eq_decide]
    exact not_congr (Drs.mem_packetCells valid (by omega) (occupied_lt bValid kMember))
  rw [rows, Drs.length_packetCells, length_fieldCells bValid] at counted
  rw [← counted]
  ring

theorem pcc_subset
    (bValid : b ∈ bIdx2bLut)
    (valid : PacketValid u nPacketSymb nTs)
    (carries : CarriesData u b nPacketSymb nTs)
    (allocation : Pcc.Allocation b nTs pccLinear) :
    ∀ cell ∈ pccLinear, cell ∈ fieldCells b (getNDfSymb u nPacketSymb) := by
  intro cell member
  obtain ⟨l, positive, -, inRow⟩ := allocation.allocated.free cell member
  have needed := allocation.allocated.needed cell member
  rw [Pcc.div_of_mem_rowCells bValid inRow] at needed
  obtain ⟨k, kMember, rfl⟩ := List.mem_map.mp inRow
  refine mem_fieldCells.mpr ⟨l, positive, ?_, k, List.mem_of_mem_filter kMember, rfl⟩
  by_contra beyond
  have grown := @Pcc.freeBefore_mono b nTs (getNDfSymb u nPacketSymb + 1) l (by omega)
  have filled := freeBefore_add_packetCells bValid valid
  unfold CarriesData at carries
  omega

theorem occupiedCells_filter
    {u b nPacketSymb nTs l : Nat}
    (bValid : b ∈ bIdx2bLut)
    (valid : PacketValid u nPacketSymb nTs)
    (allocation : Pcc.Allocation b nTs pccLinear)
    (inside : l ≤ getNDfSymb u nPacketSymb) :
    (occupiedCells b l).filter (fun cell =>
        decide (cell ∉ Drs.packetCells b nTs (nofSymbols nPacketSymb nTs) ++ pccLinear)) =
      rowCells b l (rowAt b nTs pccLinear l) := by
  unfold occupiedCells rowCells rowAt freeRow
  rw [List.filter_map, List.filter_filter]
  congr 1
  refine List.filter_congr ?_
  intro k occupied
  have inDrs := Drs.mem_packetCells valid inside (occupied_lt bValid occupied)
  have inPcc := mem_columnOf_iff bValid allocation occupied (l := l)
  simp only [Function.comp, List.mem_append, not_or, inDrs, ← inPcc, Bool.decide_and,
    Bool.and_comm]

/-- The cells that remain are as many as the code expects. -/
theorem length_remaining
    (bValid : b ∈ bIdx2bLut)
    (valid : PacketValid u nPacketSymb nTs)
    (carries : CarriesData u b nPacketSymb nTs)
    (allocation : Pcc.Allocation b nTs pccLinear) :
    ((List.range' 1 (getNDfSymb u nPacketSymb)).flatMap (fun l =>
      rowCells b l (rowAt b nTs pccLinear l))).length =
        getNDfSymb u nPacketSymb * (56 * b) -
          nTs * (14 * b) * nofSymbols nPacketSymb nTs - Pcc.pccCells := by
  have pccInside := pcc_subset bValid valid carries allocation
  have disjoint :
      (Drs.packetCells b nTs (nofSymbols nPacketSymb nTs) ++ pccLinear).Nodup := by
    refine List.nodup_append.mpr ⟨Drs.packetCells_nodup valid.nTs_mem _,
      allocation.ascending.nodup, ?_⟩
    rintro cell inDrs _ inPcc rfl
    obtain ⟨l, -, lInside, k, occupied, rfl⟩ := mem_fieldCells.mp (pccInside cell inPcc)
    rw [Drs.mem_packetCells valid lInside (occupied_lt bValid occupied)] at inDrs
    have free := (mem_freeRow_of_mem_columnOf bValid allocation
      ((mem_columnOf_iff bValid allocation occupied).mpr inPcc)).1
    simp only [freeRow, List.mem_filter, decide_eq_true_eq] at free
    exact free.2 inDrs
  have counted := length_filter_not_mem
    (fieldCells_nodup bValid (getNDfSymb u nPacketSymb)) disjoint (by
      intro cell member
      rcases List.mem_append.mp member with inDrs | inPcc
      · exact packetCells_subset bValid valid cell inDrs
      · exact pccInside cell inPcc)
  have rows : (fieldCells b (getNDfSymb u nPacketSymb)).filter (fun cell =>
      decide (cell ∉ Drs.packetCells b nTs (nofSymbols nPacketSymb nTs) ++ pccLinear)) =
        (List.range' 1 (getNDfSymb u nPacketSymb)).flatMap (fun l =>
          rowCells b l (rowAt b nTs pccLinear l)) := by
    unfold fieldCells
    rw [List.filter_flatMap, List.flatMap_def, List.flatMap_def]
    congr 1
    refine List.map_congr_left ?_
    intro l member
    rw [List.mem_range'_1] at member
    exact occupiedCells_filter bValid valid allocation (by omega)
  rw [rows, List.length_append, Drs.length_packetCells, allocation.length_eq,
    length_fieldCells bValid] at counted
  have product : nTs * (nofSymbols nPacketSymb nTs * (14 * b)) =
      nTs * (14 * b) * nofSymbols nPacketSymb nTs := by
    ring
  omega

/-- The reference construction succeeds and lists the remaining subcarriers symbol by symbol. -/
theorem getKILinearOf_eq
    (bValid : b ∈ bIdx2bLut)
    (valid : PacketValid u nPacketSymb nTs)
    (carries : CarriesData u b nPacketSymb nTs)
    (created : Pcc.getKILinear b nTs = .ok pccLinear)
    (allocation : Pcc.Allocation b nTs pccLinear) :
    getKILinearOf u nPacketSymb b nTs =
      .ok ((List.range' 1 (getNDfSymb u nPacketSymb)).flatMap (fun l =>
        rowCells b l (rowAt b nTs pccLinear l))) := by
  obtain ⟨frame, frameCreated, shown⟩ := withDrs_shows bValid valid
  have marked := markCells_shows shown (show (-4 : Int) < 0 by decide) pccLinear
  have fieldInside : ∀ l, l ≤ getNDfSymb u nPacketSymb → l < nPacketSymb := by
    have long := valid.long
    intro l inside
    unfold getNDfSymb at inside
    split_ifs at inside <;> omega
  have rowFilter :
      ∀ l, (rowCells b l (freeRow b nTs l)).filter (fun cell => decide (cell ∉ pccLinear)) =
        rowCells b l (rowAt b nTs pccLinear l) := by
    intro l
    unfold rowCells rowAt
    rw [List.filter_map]
    congr 1
    refine List.filter_congr ?_
    intro k kMember
    simp only [Function.comp, decide_eq_decide]
    exact not_congr (mem_columnOf_iff bValid allocation (List.mem_of_mem_filter kMember)).symm
  have cells : unmarkedCells (markCells frame pccLinear (-4))
      ((List.range' 1 (getNDfSymb u nPacketSymb)).flatMap
        (columnCells (nBDftLut (b2bIdx b)))) =
        .ok ((List.range' 1 (getNDfSymb u nPacketSymb)).flatMap (fun l =>
          rowCells b l (rowAt b nTs pccLinear l))) := by
    rw [marked.unmarkedCells_eq]
    · rw [List.filter_flatMap, List.flatMap_def, List.flatMap_def]
      congr 2
      refine List.map_congr_left ?_
      intro l member
      rw [List.mem_range'_1] at member
      rw [← rowFilter, ← columnCells_filter_taken bValid valid (by omega) pccLinear]
    · intro cell member
      obtain ⟨l, lMember, inColumn⟩ := List.mem_flatMap.mp member
      rw [List.mem_range'_1] at lMember
      exact columnCells_lt (fieldInside l (by omega)) cell inColumn
  have count : ((List.range' 1 (getNDfSymb u nPacketSymb)).flatMap (fun l =>
      rowCells b l (rowAt b nTs pccLinear l))).length =
        getNDfSymb u nPacketSymb * (56 * b) -
          nTs * (14 * b) * nofSymbols nPacketSymb nTs - Pcc.pccCells :=
    length_remaining bValid valid carries allocation
  have some_ : decide (0 < getNDfSymb u nPacketSymb * (56 * b) -
      nTs * (14 * b) * nofSymbols nPacketSymb nTs - Pcc.pccCells) = true := by
    unfold CarriesData at carries
    simp only [decide_eq_true_eq]
    omega
  simp only [getKILinearOf, frameCreated, created, Checked.ok_bind, nBOccLut_b2bIdx bValid,
    getNPdcSubc_eq valid carries, some_, dectnrpAssert_true, cells, count, Nat.lt_irrefl,
    if_false, beq_self_eq_true]

/-- Each column of the reference construction is what remains in that symbol. -/
theorem columnOf_flatMap
    {b nTs l count : Nat}
    (bValid : b ∈ bIdx2bLut)
    (positive : 1 ≤ l)
    (inside : l ≤ count) :
    columnOf b l ((List.range' 1 count).flatMap (fun symbol =>
      rowCells b symbol (rowAt b nTs pccLinear symbol))) =
        rowAt b nTs pccLinear l := by
  have occupied : ∀ k ∈ rowAt b nTs pccLinear l, k ∈ occupiedSubcarriers b :=
    fun k member => (mem_rowAt.mp member).1
  unfold columnOf
  rw [filter_flatMap_of_key (fun symbol => symbol),
    (ascending_range' 1 count).filter_eq_singleton (List.mem_range'_1.mpr ⟨positive, by omega⟩)]
  · simp only [List.flatMap_cons, List.flatMap_nil, List.append_nil, rowCells, List.map_map]
    calc
      (rowAt b nTs pccLinear l).map
          ((fun cell => cell - l * (64 * b) - 4 * b) ∘ fun k => l * (64 * b) + 4 * b + k) =
          (rowAt b nTs pccLinear l).map id := by
            refine List.map_congr_left ?_
            intro k _
            simp only [Function.comp, id]
            omega
      _ = rowAt b nTs pccLinear l := List.map_id _
  · intro symbol
    simp
  · intro symbol _ cell member
    obtain ⟨k, kMember, rfl⟩ := List.mem_map.mp member
    rw [Nat.add_assoc]
    exact linear_div (occupied_lt bValid (mem_rowAt.mp kMember).1) symbol

/-- The packet from which the tables are taken. -/
theorem packetValid_eight_thirty
    {nTs : Nat}
    (nTsValid : nTs ∈ nTsIdx2NTsVec) :
    PacketValid 8 30 nTs :=
  ⟨by decide, nTsValid, by decide, by decide, fun _ => by decide, fun _ => by decide⟩

variable {b nTs : Nat}

theorem carriesData_eight_thirty
    (bValid : b ∈ bIdx2bLut)
    (nTsValid : nTs ∈ nTsIdx2NTsVec) :
    CarriesData 8 b 30 nTs := by
  have allPairs : ∀ b ∈ bIdx2bLut, ∀ nTs ∈ nTsIdx2NTsVec, CarriesData 8 b 30 nTs := by
    decide
  exact allPairs b bValid nTs nTsValid

theorem ascending_remaining
    {b nTs : Nat}
    (bValid : b ∈ bIdx2bLut)
    (pccLinear : List Nat)
    (count : Nat) :
    Ascending ((List.range' 1 count).flatMap (fun l =>
      rowCells b l (rowAt b nTs pccLinear l))) := by
  refine List.pairwise_flatMap.mpr
    ⟨fun l _ => rowCells_ascending (ascending_rowAt bValid pccLinear) b l, ?_⟩
  refine (ascending_range' 1 count).imp ?_
  intro first second smaller cell inFirst other inSecond
  obtain ⟨k, kMember, rfl⟩ := List.mem_map.mp inFirst
  obtain ⟨j, -, rfl⟩ := List.mem_map.mp inSecond
  have bounded := occupied_lt bValid (mem_rowAt.mp kMember).1
  have next : (first + 1) * (64 * b) ≤ second * (64 * b) := Nat.mul_le_mul_right _ smaller
  rw [Nat.succ_mul] at next
  omega

theorem idx2subRowZeroVec_getElem?
    {b l : Nat}
    {linearIdx : List Nat}
    (inside : l ≤ linearIdx.getLastD 0 / (64 * b)) :
    (idx2subRowZeroVec (64 * b) (4 * b) linearIdx)[l]? = some (columnOf b l linearIdx) := by
  unfold idx2subRowZeroVec columnOf
  rw [getElem?_distribute, List.getElem?_replicate, if_pos (by omega)]
  simp only [Option.map_some, List.nil_append, Option.some.injEq]
  refine List.map_congr_left ?_
  intro cell member
  have here : cell / (64 * b) = l := by
    simpa using (List.mem_filter.mp member).2
  rw [here]

theorem twentyFive_le_getLastD
    (bValid : b ∈ bIdx2bLut)
    (nTsValid : nTs ∈ nTsIdx2NTsVec)
    (allocation : Pcc.Allocation b nTs pccLinear) :
    25 ≤ ((List.range' 1 (getNDfSymb 8 30)).flatMap (fun l =>
      rowCells b l (rowAt b nTs pccLinear l))).getLastD 0 / (64 * b) := by
  have positive := pos_of_mem_bIdx2bLut bValid
  have idle := @Drs.groupAt_eq_none nTs 25 nTsValid (by decide)
  have full := rowAt_of_idle bValid allocation (by decide) idle
  have member :
      25 * (64 * b) + 4 * b + 0 ∈ (List.range' 1 (getNDfSymb 8 30)).flatMap (fun l =>
        rowCells b l (rowAt b nTs pccLinear l)) := by
    refine List.mem_flatMap.mpr ⟨25, by decide, List.mem_map.mpr ⟨0, ?_, rfl⟩⟩
    rw [full, mem_occupiedSubcarriers bValid]
    omega
  have ascending := @ascending_remaining b nTs bValid pccLinear (getNDfSymb 8 30)
  generalize (List.range' 1 (getNDfSymb 8 30)).flatMap (fun l =>
    rowCells b l (rowAt b nTs pccLinear l)) = linear at member ascending
  have nonempty := List.ne_nil_of_mem member
  have notAbove := ascending.le_getLast nonempty member
  rw [List.getLastD_eq_getLast?, List.getLast?_eq_some_getLast nonempty, Option.getD_some]
  refine (Nat.le_div_iff_mul_le (by omega)).mpr ?_
  omega

/-- The table holds the collapsed rows of the repetition range. -/
theorem tableEntry_spec
    (bValid : b ∈ bIdx2bLut)
    (nTsValid : nTs ∈ nTsIdx2NTsVec)
    (created : Pcc.getKILinear b nTs = .ok pccLinear)
    (allocation : Pcc.Allocation b nTs pccLinear) :
    ∃ symbols rows,
      tableEntry (b2bIdx b) nTs = .ok (symbols, rows) ∧
        ∀ l, 1 ≤ l → l < symbolIndexRepetitionEnd →
          rows[l]? = some (collapse (56 * b) l (rowAt b nTs pccLinear l)) := by
  have reference := getKILinearOf_eq bValid (packetValid_eight_thirty nTsValid)
    (carriesData_eight_thirty bValid nTsValid) created allocation
  have last := twentyFive_le_getLastD bValid nTsValid allocation
  have columns : ∀ l, 1 ≤ l → l ≤ getNDfSymb 8 30 →
      columnOf b l ((List.range' 1 (getNDfSymb 8 30)).flatMap (fun symbol =>
        rowCells b symbol (rowAt b nTs pccLinear symbol))) = rowAt b nTs pccLinear l :=
    fun l positive inside => columnOf_flatMap bValid positive inside
  generalize (List.range' 1 (getNDfSymb 8 30)).flatMap (fun l =>
    rowCells b l (rowAt b nTs pccLinear l)) = linear at reference last columns
  have enough :
      decide (symbolIndexRepetitionEnd ≤ (idx2subColZeroVec (64 * b) linear).length) = true := by
    simp only [idx2subColZeroVec, List.length_range, symbolIndexRepetitionEnd, decide_eq_true_eq]
    omega
  have sameLength : ((idx2subColZeroVec (64 * b) linear).length ==
      (idx2subRowZeroVec (64 * b) (4 * b) linear).length) = true := by
    simp [idx2subColZeroVec, idx2subRowZeroVec, length_distribute]
  refine ⟨(idx2subColZeroVec (64 * b) linear).take symbolIndexRepetitionEnd,
    ((idx2subRowZeroVec (64 * b) (4 * b) linear).take symbolIndexRepetitionEnd).mapIdx
      (collapse (nBOccLut (b2bIdx b))), ?_, ?_⟩
  · simp only [tableEntry, getKILinear, bIdx2b_b2bIdx bValid, reference, Checked.ok_bind,
      nBDftLut_b2bIdx bValid, guardsBottomLut_b2bIdx bValid, enough, sameLength,
      dectnrpAssert_true]
  · intro l positive inside
    have early : l ≤ getNDfSymb 8 30 := Nat.le_trans (Nat.le_of_lt inside) (by decide)
    have covered : l ≤ linear.getLastD 0 / (64 * b) := by
      unfold symbolIndexRepetitionEnd at inside
      omega
    have read := idx2subRowZeroVec_getElem? covered
    rw [List.getElem?_mapIdx, List.getElem?_take, if_pos inside, read, columns l positive early,
      nBOccLut_b2bIdx bValid]
    rfl

/-- The configuration points to the table of the bandwidth and the streams. -/
structure HoldsTable
    (pdc : Pdc)
    (b nTs : Nat)
    (pccLinear : List Nat) :
    Prop where
  rows : ∀ l, 1 ≤ l → l < symbolIndexRepetitionEnd →
    pdc.kIAllSymbolsEffective[l]? = some (collapse (56 * b) l (rowAt b nTs pccLinear l))
  lRepeat_eq : pdc.lRepeat = 10
  lLimit_le : pdc.lLimit ≤ 11
  lLimit_ge : 6 ≤ pdc.lLimit

/-- The table entry of the equivalent symbol is what remains in the symbol itself. -/
theorem runSymbol_spec
    {pdc : Pdc}
    (bValid : b ∈ bIdx2bLut)
    (nTsValid : nTs ∈ nTsIdx2NTsVec)
    (allocation : Pcc.Allocation b nTs pccLinear)
    (holds : HoldsTable pdc b nTs pccLinear)
    (lPositive : 1 ≤ l) :
    ∃ after, pdc.runSymbol l = .ok (rowAt b nTs pccLinear l, after) ∧
      HoldsTable after b nTs pccLinear := by
  have positive := pos_of_mem_bIdx2bLut bValid
  have limitAtLeast := holds.lLimit_ge
  have limitAtMost := holds.lLimit_le
  have same : rowAt b nTs pccLinear (equivalentIndex pdc.lLimit pdc.lRepeat l) =
      rowAt b nTs pccLinear l := by
    refine apply_equivalentIndex ?_ l
    intro symbol beyond
    rw [holds.lRepeat_eq]
    exact rowAt_add_ten bValid nTsValid allocation (by omega)
  have below : equivalentIndex pdc.lLimit pdc.lRepeat l < symbolIndexRepetitionEnd := by
    have periodPositive : 0 < pdc.lRepeat := by
      rw [holds.lRepeat_eq]
      decide
    have inside := @equivalentIndex_lt pdc.lLimit pdc.lRepeat periodPositive l
    rw [holds.lRepeat_eq] at inside ⊢
    unfold symbolIndexRepetitionEnd
    omega
  have above : 1 ≤ equivalentIndex pdc.lLimit pdc.lRepeat l := by
    unfold equivalentIndex
    split
    · exact lPositive
    · have division := Nat.div_mul_le_self (l - pdc.lLimit) pdc.lRepeat
      omega
  have read := holds.rows _ above below
  have idle := @Drs.groupAt_eq_none nTs symbolIndexFullyOccupied nTsValid (by decide)
  have fullRow := rowAt_of_idle bValid allocation (show 5 ≤ symbolIndexFullyOccupied by decide) idle
  have readFull := holds.rows symbolIndexFullyOccupied (by decide) (by decide)
  have keeps : ∀ value, HoldsTable { pdc with lEquivalent := value } b nTs pccLinear :=
    fun _ => ⟨holds.rows, holds.lRepeat_eq, holds.lLimit_le, holds.lLimit_ge⟩
  have deliver : ∀ index row, pdc.kIAllSymbolsEffective[index]? = some row →
      (if (!row.isEmpty) = true then do
        let kI ← elementAt pdc.kIAllSymbolsEffective index
        (Except.ok (kI, { pdc with lEquivalent := index }) : Checked (List Nat × Pdc))
      else
        .ok ([], { pdc with lEquivalent := index })) =
        .ok (row, { pdc with lEquivalent := index }) := by
    intro index row present
    rw [elementAt_eq_ok present]
    cases row with
    | nil => rfl
    | cons first rest => rfl
  have fourteen := length_rowAt bValid nTsValid allocation l
  rw [same] at read
  simp only [runSymbol, isSymbolIndex, getKIOneSymbol, elementAt_eq_ok read, Checked.ok_bind]
  by_cases atTen : equivalentIndex pdc.lLimit pdc.lRepeat l = symbolIndexFullyOccupied
  · have notMark : ¬ (rowAt b nTs pccLinear l).length = 1 := by omega
    have uncollapsed :
        collapse (56 * b) (equivalentIndex pdc.lLimit pdc.lRepeat l)
          (rowAt b nTs pccLinear l) = rowAt b nTs pccLinear l := if_pos atTen
    rw [uncollapsed] at read ⊢
    rw [if_neg notMark, elementAt_eq_ok read]
    exact ⟨_, deliver _ _ read, keeps _⟩
  · by_cases full : (rowAt b nTs pccLinear l).length = 56 * b
    · have whole := rowAt_eq_of_length bValid full
      have marked :
          (collapse (56 * b) (equivalentIndex pdc.lLimit pdc.lRepeat l)
            (rowAt b nTs pccLinear l)).length = 1 := by
        rw [collapse, if_neg atTen, if_pos full, List.length_take]
        omega
      have kept : collapse (56 * b) symbolIndexFullyOccupied
          (rowAt b nTs pccLinear symbolIndexFullyOccupied) = rowAt b nTs pccLinear l := by
        rw [whole, ← fullRow]
        rfl
      rw [kept] at readFull
      rw [if_pos marked, elementAt_eq_ok readFull]
      exact ⟨_, deliver _ _ readFull, keeps _⟩
    · have uncollapsed :
          collapse (56 * b) (equivalentIndex pdc.lLimit pdc.lRepeat l)
            (rowAt b nTs pccLinear l) = rowAt b nTs pccLinear l := by
        rw [collapse, if_neg atTen, if_neg full]
      have notMark : ¬ (rowAt b nTs pccLinear l).length = 1 := by omega
      rw [uncollapsed] at read ⊢
      rw [if_neg notMark, elementAt_eq_ok read]
      exact ⟨_, deliver _ _ read, keeps _⟩

/-- The tables can be created, and configuring selects the right one. -/
theorem create_spec
    {bMax nTsMax : Nat}
    (bMaxValid : bMax ∈ bIdx2bLut)
    (nTsMaxValid : nTsMax ∈ nTsIdx2NTsVec) :
    ∃ pdc, create bMax nTsMax = .ok pdc ∧
      ∀ b ∈ bIdx2bLut, b ≤ bMax → ∀ nTs ∈ nTsIdx2NTsVec, nTs ≤ nTsMax →
        ∀ pccLinear, Pcc.getKILinear b nTs = .ok pccLinear →
          HoldsTable (pdc.setConfiguration b nTs) b nTs pccLinear := by
  have entries : ∀ bIdx ∈ List.range (b2bIdx bMax + 1),
      ∃ row, (streamCounts nTsMax).mapM (fun nTs => tableEntry bIdx nTs) = .ok row := by
    intro bIdx member
    have inside : bIdx < 6 := by
      have := List.mem_range.mp member
      have := b2bIdx_lt bMaxValid
      omega
    obtain ⟨bValid, index⟩ := bIdx2b_mem inside
    refine exists_mapM ?_
    intro nTs nTsMember
    have nTsValid := streamCounts_mem nTsMaxValid nTsMember
    obtain ⟨cells, created, allocation⟩ := Pcc.getKILinear_spec bValid nTsValid
    obtain ⟨symbols, rows, entry, -⟩ := tableEntry_spec bValid nTsValid created allocation
    rw [index] at entry
    exact ⟨_, entry⟩
  obtain ⟨table, filled⟩ := exists_mapM entries
  refine ⟨_, by rw [create, filled]; rfl, ?_⟩
  intro b bValid bInside nTs nTsValid nTsInside pccLinear created
  have bIdxInside := b2bIdx_le bValid bMaxValid bInside
  obtain ⟨row, rowFilled, rowAt⟩ := mapM_getElem? filled
    (List.getElem?_range (show b2bIdx b < b2bIdx bMax + 1 by omega))
  obtain ⟨entry, entryCreated, entryAt⟩ := mapM_getElem? rowFilled
    (streamCounts_getElem? nTsValid nTsMaxValid nTsInside)
  obtain ⟨allocated, allocatedCreated, allocation⟩ := Pcc.getKILinear_spec bValid nTsValid
  rw [created] at allocatedCreated
  cases allocatedCreated
  obtain ⟨symbols, rows, entrySpec, entryRows⟩ :=
    tableEntry_spec bValid nTsValid created allocation
  rw [entryCreated] at entrySpec
  cases entrySpec
  rcases nTs_cases nTsValid with rfl | rfl | rfl | rfl
  all_goals
    refine ⟨?_, rfl, Nat.le_of_ble_eq_true rfl, Nat.le_of_ble_eq_true rfl⟩
    intro l positive inside
    simp [setConfiguration, rowAt, entryAt, entryRows l positive inside]

end Pdc

end DectNrp
