import DectNrp.Drs

namespace DectNrp

open ColumnTables
open Phyres
open VirtualFrame

/-!
# Physical control channel

The control channel takes 98 cells of the first symbols, around the reference
signals.  The last symbol it needs is written as a matrix and read by columns.
A table of the symbols concerned is walked by an iterator.
-/

open Drs (freeRow)

namespace VirtualFrame

/-- The frame of a packet after the reference signals took their cells. -/
def withDrs
    (u b nPacketSymb nTs : Nat) :
    Checked (List Int) := do
  let kILinear ← Drs.getKILinear u b nPacketSymb nTs
  .ok (kILinear.foldl (fun frame cells => markCells frame cells (-3)) (blank nPacketSymb b))

theorem foldl_markCells_shows
    {frame : List Int}
    {size : Nat}
    {taken : List Nat}
    {mark : Int}
    (shows_ : Shows frame size taken)
    (negative : mark < 0)
    (rows : List (List Nat)) :
    Shows (rows.foldl (fun marked cells => markCells marked cells mark) frame) size
      (taken ++ rows.flatten) := by
  induction rows generalizing frame taken with
  | nil => simpa using shows_
  | cons cells rest hypothesis =>
      have later := hypothesis (markCells_shows shows_ negative cells)
      simpa [List.append_assoc] using later

theorem withDrs_shows
    {u b nPacketSymb nTs : Nat}
    (bValid : b ∈ bIdx2bLut)
    (valid : PacketValid u nPacketSymb nTs) :
    ∃ frame,
      withDrs u b nPacketSymb nTs = .ok frame ∧
        Shows frame (nPacketSymb * nBDftLut (b2bIdx b))
          (blankCells nPacketSymb b ++
            Drs.packetCells b nTs (Drs.nofSymbols nPacketSymb nTs)) := by
  refine ⟨_, by rw [withDrs, Drs.getKILinear_eq bValid valid]; rfl, ?_⟩
  have shown := foldl_markCells_shows (blank_shows nPacketSymb b)
    (show (-3 : Int) < 0 by decide)
    ((List.range nTs).map (Drs.streamCells b nTs (Drs.nofSymbols nPacketSymb nTs)))
  rw [← List.flatMap_def] at shown
  exact shown

/-- Cells of a row of subcarriers in one symbol. -/
def rowCells
    (b l : Nat)
    (row : List Nat) :
    List Nat :=
  row.map (fun k => l * (64 * b) + 4 * b + k)

theorem rowCells_ascending
    {row : List Nat}
    (ascending : Ascending row)
    (b l : Nat) :
    Ascending (rowCells b l row) :=
  ascending.map (fun _ _ smaller => Nat.add_lt_add_left smaller _)

/-- Subcarriers between the guards stay in their symbol. -/
theorem occupied_lt
    {b k : Nat}
    (bValid : b ∈ bIdx2bLut)
    (member : k ∈ occupiedSubcarriers b) :
    4 * b + k < 64 * b := by
  have positive := pos_of_mem_bIdx2bLut bValid
  have bounds := (mem_occupiedSubcarriers bValid).mp member
  omega

/-- The unmarked cells of a symbol avoid the reference signals and what else is taken. -/
theorem columnCells_filter_taken
    {u b nPacketSymb nTs l : Nat}
    (bValid : b ∈ bIdx2bLut)
    (valid : PacketValid u nPacketSymb nTs)
    (inside : l ≤ Pdc.getNDfSymb u nPacketSymb)
    (others : List Nat) :
    (columnCells (nBDftLut (b2bIdx b)) l).filter
        (fun cell => decide (cell ∉ blankCells nPacketSymb b ++
          Drs.packetCells b nTs (Drs.nofSymbols nPacketSymb nTs) ++ others)) =
      (rowCells b l (freeRow b nTs l)).filter (fun cell => decide (cell ∉ others)) := by
  have lInside : l < nPacketSymb := by
    have long := valid.long
    unfold Pdc.getNDfSymb at inside
    split_ifs at inside <;> omega
  refine ((ascending_columnCells _ _).filter _).eq_of_mem_iff
    ((rowCells_ascending ((ascending_occupiedSubcarriers bValid).filter _) _ _).filter _) ?_
  intro cell
  have occupied :
      cell ∈ columnCells (nBDftLut (b2bIdx b)) l ∧ cell ∉ blankCells nPacketSymb b ↔
        cell ∈ occupiedCells b l := by
    rw [← columnCells_filter_blankCells bValid lInside]
    simp
  simp only [List.mem_filter, decide_eq_true_eq, List.mem_append, not_or, rowCells,
    List.mem_map, freeRow]
  constructor
  · rintro ⟨inColumn, ⟨notBlank, notDrs⟩, notOther⟩
    obtain ⟨k, kMember, rfl⟩ := List.mem_map.mp (occupied.mp ⟨inColumn, notBlank⟩)
    rw [Drs.mem_packetCells valid inside (occupied_lt bValid kMember)] at notDrs
    exact ⟨⟨k, ⟨kMember, notDrs⟩, rfl⟩, notOther⟩
  · rintro ⟨⟨k, ⟨kMember, notDrs⟩, rfl⟩, notOther⟩
    obtain ⟨inColumn, notBlank⟩ := occupied.mpr (List.mem_map.mpr ⟨k, kMember, rfl⟩)
    rw [← Drs.mem_packetCells valid inside (occupied_lt bValid kMember)] at notDrs
    exact ⟨inColumn, ⟨notBlank, notDrs⟩, notOther⟩

end VirtualFrame

namespace Pcc

/-- Number of cells of the control channel. -/
def pccCells : Nat := 98

/-- Number of rows of the matrix of the last symbol. -/
def rPcc : Nat := 7

/-- Cells in the order in which the columns of the matrix are read. -/
def columnOrder
    (mat : List Nat)
    (cPcc : Nat) :
    List Nat :=
  (List.range cPcc).flatMap (fun c =>
    (List.range rPcc).map (fun r => mat.getD (r * cPcc + c) 0))

/-- Take cells one by one until none is left to be allocated. -/
def pushUntilAllocated :
    List Nat → Nat → List Nat
  | [], _ => []
  | cell :: rest, nUnalloc =>
      if nUnalloc - 1 = 0 then
        [cell]
      else
        cell :: pushUntilAllocated rest (nUnalloc - 1)

/--
The loop over the symbols from `l` on.  The frame has a number of further
columns; reading beyond them is refused.
-/
def allocateFrom
    (frame : List Int)
    (nBDft : Nat) :
    (columns l nUnalloc : Nat) → List Nat → Checked (List Nat)
  | 0, l, _, _ => .error (.readBeyond (l * nBDft))
  | columns + 1, l, nUnalloc, kPcc => do
      let k0U ← unmarkedCells frame (columnCells nBDft l)
      let U := k0U.length
      if U < nUnalloc then
        allocateFrom frame nBDft columns (l + 1) (nUnalloc - U) (kPcc ++ k0U)
      else do
        let cPcc := U / rPcc
        dectnrpAssert (U % rPcc == 0) "Incorrect number of subcarriers U"
        let kPcc := kPcc ++ pushUntilAllocated (columnOrder k0U cPcc) nUnalloc
        dectnrpAssert (kPcc.length == pccCells) "Incorrect number of PCC subcarriers"
        .ok (kPcc.mergeSort (fun first second => decide (first ≤ second)))

/-- Linear indices of the cells of the control channel. -/
def getKILinear
    (b nTs : Nat) :
    Checked (List Nat) := do
  let nPacketSymbMinimum := 20
  let frame ← withDrs 8 b nPacketSymbMinimum nTs
  allocateFrom frame (nBDftLut (b2bIdx b)) (nPacketSymbMinimum - 1) 1 pccCells []

theorem pushUntilAllocated_eq_take
    {nUnalloc : Nat}
    (positive : 0 < nUnalloc)
    (cells : List Nat) :
    pushUntilAllocated cells nUnalloc = cells.take nUnalloc := by
  induction cells generalizing nUnalloc with
  | nil => simp [pushUntilAllocated]
  | cons cell rest hypothesis =>
      obtain ⟨further, rfl⟩ := Nat.exists_eq_succ_of_ne_zero (Nat.ne_of_gt positive)
      unfold pushUntilAllocated
      by_cases last : further = 0
      · subst last
        simp
      · have notLast : ¬ further.succ - 1 = 0 := by omega
        rw [if_neg notLast, Nat.succ_sub_one, hypothesis (by omega)]
        simp

/-- Reading by columns permutes the cells of a full matrix. -/
theorem columnOrder_perm
    {mat : List Nat}
    {cPcc : Nat}
    (full : mat.length = rPcc * cPcc) :
    (columnOrder mat cPcc).Perm mat := by
  have positions : ((List.range cPcc).flatMap (fun c =>
      (List.range rPcc).map (fun r => r * cPcc + c))).Perm (List.range (rPcc * cPcc)) := by
    refine (List.perm_ext_iff_of_nodup ?_ List.nodup_range).mpr ?_
    · refine List.nodup_flatMap.mpr ⟨?_, ?_⟩
      · intro c cMember
        have cInside := List.mem_range.mp cMember
        refine List.Nodup.map ?_ List.nodup_range
        intro first second same
        exact (linear_injective cInside cInside same).1
      · refine List.Pairwise.imp_of_mem ?_ List.nodup_range
        intro first second firstMember secondMember different position inFirst inSecond
        obtain ⟨r, -, rfl⟩ := List.mem_map.mp inFirst
        obtain ⟨s, -, same⟩ := List.mem_map.mp inSecond
        exact different (linear_injective (List.mem_range.mp secondMember)
          (List.mem_range.mp firstMember) same).2.symm
    · intro position
      simp only [List.mem_flatMap, List.mem_map, List.mem_range]
      constructor
      · rintro ⟨c, cInside, r, rInside, rfl⟩
        have bounded : (r + 1) * cPcc ≤ rPcc * cPcc := Nat.mul_le_mul_right cPcc rInside
        rw [Nat.succ_mul] at bounded
        omega
      · intro inside
        have cPositive : 0 < cPcc := by
          by_contra none
          have zero : cPcc = 0 := by omega
          rw [zero] at inside
          omega
        exact ⟨position % cPcc, Nat.mod_lt _ cPositive, position / cPcc,
          Nat.div_lt_of_lt_mul (by rw [Nat.mul_comm]; exact inside),
          Nat.div_add_mod' position cPcc⟩
  have whole : (List.range (rPcc * cPcc)).map (fun position => mat.getD position 0) = mat := by
    refine List.ext_getElem (by simp [full]) ?_
    intro position _ inside
    simp [inside]
  have moved := positions.map (fun position => mat.getD position 0)
  rw [whole, List.map_flatMap] at moved
  simpa [columnOrder, List.map_map, Function.comp_def] using moved

/-- Number of free subcarriers in the symbols before `l`. -/
def freeBefore
    (b nTs l : Nat) :
    Nat :=
  ((List.range' 1 (l - 1)).map (fun symbol => (freeRow b nTs symbol).length)).sum

theorem freeBefore_succ
    {l : Nat}
    (positive : 1 ≤ l)
    (b nTs : Nat) :
    freeBefore b nTs (l + 1) = freeBefore b nTs l + (freeRow b nTs l).length := by
  obtain ⟨further, rfl⟩ : ∃ further, l = further + 1 := ⟨l - 1, by omega⟩
  unfold freeBefore
  simp only [Nat.add_sub_cancel]
  rw [List.range'_concat, List.map_append, List.sum_append]
  simp [Nat.add_comm]

theorem freeBefore_mono
    {b nTs first second : Nat}
    (ordered : first ≤ second) :
    freeBefore b nTs first ≤ freeBefore b nTs second := by
  induction second, ordered using Nat.le_induction with
  | base => exact Nat.le_refl _
  | succ second _ hypothesis =>
      refine Nat.le_trans hypothesis ?_
      rcases Nat.eq_zero_or_pos second with rfl | positive
      · exact Nat.le_refl _
      · rw [freeBefore_succ positive]
        exact Nat.le_add_right _ _

/-- Cells that were allocated in the symbols before `l`. -/
structure AllocatedBefore
    (b nTs l : Nat)
    (kPcc : List Nat) :
    Prop where
  nodup : kPcc.Nodup
  free : ∀ cell ∈ kPcc, ∃ symbol, 1 ≤ symbol ∧ symbol < l ∧
    cell ∈ rowCells b symbol (freeRow b nTs symbol)
  columns : ∀ symbol, 14 ∣ (kPcc.filter (fun cell => decide (cell / (64 * b) = symbol))).length
  needed : ∀ cell ∈ kPcc, freeBefore b nTs (cell / (64 * b)) < pccCells

theorem div_of_mem_rowCells
    {b nTs l cell : Nat}
    (bValid : b ∈ bIdx2bLut)
    (member : cell ∈ rowCells b l (freeRow b nTs l)) :
    cell / (64 * b) = l := by
  obtain ⟨k, kMember, rfl⟩ := List.mem_map.mp member
  rw [Nat.add_assoc]
  exact linear_div (occupied_lt bValid (List.mem_of_mem_filter kMember)) l

/-- Cells of the next symbol can be allocated in addition. -/
theorem AllocatedBefore.append
    {b nTs l : Nat}
    {kPcc cells : List Nat}
    (bValid : b ∈ bIdx2bLut)
    (lPositive : 1 ≤ l)
    (room : freeBefore b nTs l < pccCells)
    (before : AllocatedBefore b nTs l kPcc)
    (cellsNodup : cells.Nodup)
    (cellsFree : ∀ cell ∈ cells, cell ∈ rowCells b l (freeRow b nTs l))
    (count : 14 ∣ cells.length) :
    AllocatedBefore b nTs (l + 1) (kPcc ++ cells) := by
  refine ⟨List.nodup_append.mpr ⟨before.nodup, cellsNodup, ?_⟩, ?_, ?_, ?_⟩
  · rintro cell inside _ member rfl
    obtain ⟨symbol, -, earlier, cellMember⟩ := before.free cell inside
    have first := div_of_mem_rowCells bValid cellMember
    have second := div_of_mem_rowCells bValid (cellsFree cell member)
    omega
  · intro cell member
    rcases List.mem_append.mp member with inside | added
    · obtain ⟨symbol, positive, earlier, cellMember⟩ := before.free cell inside
      exact ⟨symbol, positive, by omega, cellMember⟩
    · exact ⟨l, lPositive, by omega, cellsFree cell added⟩
  · intro symbol
    rw [List.filter_append, List.length_append]
    refine Nat.dvd_add (before.columns symbol) ?_
    by_cases here : symbol = l
    · subst here
      have whole :
          cells.filter (fun cell => decide (cell / (64 * b) = symbol)) = cells := by
        refine List.filter_eq_self.mpr ?_
        intro cell member
        simpa using div_of_mem_rowCells bValid (cellsFree cell member)
      rw [whole]
      exact count
    · have none : cells.filter (fun cell => decide (cell / (64 * b) = symbol)) = [] := by
        refine List.filter_eq_nil_iff.mpr ?_
        intro cell member
        have column := div_of_mem_rowCells bValid (cellsFree cell member)
        simpa [column] using Ne.symm here
      rw [none]
      exact Nat.dvd_zero _
  · intro cell member
    rcases List.mem_append.mp member with inside | added
    · exact before.needed cell inside
    · rw [div_of_mem_rowCells bValid (cellsFree cell added)]
      exact room

/-- The 98 cells of the control channel, in ascending order. -/
structure Allocation
    (b nTs : Nat)
    (cells : List Nat) :
    Prop where
  ascending : Ascending cells
  length_eq : cells.length = pccCells
  allocated : AllocatedBefore b nTs 5 cells

theorem allocateFrom_step
    {b nTs columns l nUnalloc : Nat}
    {frame : List Int}
    {kPcc : List Nat}
    (bValid : b ∈ bIdx2bLut)
    (nTsValid : nTs ∈ nTsIdx2NTsVec)
    (lPositive : 1 ≤ l)
    (lInside : l < 5)
    (row : unmarkedCells frame (columnCells (nBDftLut (b2bIdx b)) l) =
      .ok (rowCells b l (freeRow b nTs l)))
    (before : AllocatedBefore b nTs l kPcc)
    (positive : 0 < nUnalloc)
    (fourteen : 14 ∣ nUnalloc)
    (whole : kPcc.length = freeBefore b nTs l)
    (total : kPcc.length + nUnalloc = pccCells) :
    (∃ cells,
      allocateFrom frame (nBDftLut (b2bIdx b)) (columns + 1) l nUnalloc kPcc = .ok cells ∧
        Allocation b nTs cells) ∨
      (freeRow b nTs l).length < nUnalloc ∧
        allocateFrom frame (nBDftLut (b2bIdx b)) (columns + 1) l nUnalloc kPcc =
          allocateFrom frame (nBDftLut (b2bIdx b)) columns (l + 1)
            (nUnalloc - (freeRow b nTs l).length)
            (kPcc ++ rowCells b l (freeRow b nTs l)) ∧
        AllocatedBefore b nTs (l + 1) (kPcc ++ rowCells b l (freeRow b nTs l)) := by
  have freeNodup : (rowCells b l (freeRow b nTs l)).Nodup :=
    (rowCells_ascending ((ascending_occupiedSubcarriers bValid).filter _) b l).nodup
  have room : freeBefore b nTs l < pccCells := by omega
  have freeFourteen := Drs.length_freeRow bValid nTsValid l
  have freeLength :
      (rowCells b l (freeRow b nTs l)).length = (freeRow b nTs l).length := by
    simp [rowCells]
  rw [allocateFrom, row]
  simp only [Checked.ok_bind, freeLength]
  by_cases short : (freeRow b nTs l).length < nUnalloc
  · rw [if_pos short]
    exact .inr ⟨short, rfl,
      before.append bValid lPositive room freeNodup (fun _ member => member)
        (by rw [freeLength]; exact freeFourteen)⟩
  · have full : (rowCells b l (freeRow b nTs l)).length =
        rPcc * ((freeRow b nTs l).length / rPcc) := by
      unfold rPcc
      omega
    have divisible : ((freeRow b nTs l).length % rPcc == 0) = true := by
      have remainder : (freeRow b nTs l).length % rPcc = 0 := by
        unfold rPcc
        omega
      simpa using remainder
    have order := columnOrder_perm full
    have takenLength : ((columnOrder (rowCells b l (freeRow b nTs l))
        ((freeRow b nTs l).length / rPcc)).take nUnalloc).length = nUnalloc := by
      rw [List.length_take, order.length_eq, freeLength]
      omega
    have after := before.append bValid lPositive room
      ((List.take_sublist nUnalloc _).nodup (order.nodup_iff.mpr freeNodup))
      (fun cell member => order.mem_iff.mp (List.mem_of_mem_take member))
      (by rw [takenLength]; exact fourteen)
    rw [if_neg short, divisible, pushUntilAllocated_eq_take positive]
    generalize (columnOrder (rowCells b l (freeRow b nTs l))
      ((freeRow b nTs l).length / rPcc)).take nUnalloc = taken at takenLength after
    have complete : ((kPcc ++ taken).length == pccCells) = true := by
      rw [List.length_append, takenLength, total]
      exact beq_self_eq_true _
    rw [complete]
    have sorted := List.mergeSort_perm (kPcc ++ taken) (fun first second => decide (first ≤ second))
    refine .inl ⟨_, rfl, ?_, ?_, ?_, ?_, ?_, ?_⟩
    · have weakly := @List.pairwise_mergeSort Nat (fun first second => decide (first ≤ second))
        (fun first second third => by simpa using Nat.le_trans)
        (fun first second => by simpa using Nat.le_total first second)
        (kPcc ++ taken)
      have distinct := sorted.nodup_iff.mpr after.nodup
      refine (weakly.and distinct).imp ?_
      rintro first second ⟨weak, different⟩
      have notAbove : first ≤ second := by simpa using weak
      omega
    · rw [sorted.length_eq, List.length_append, takenLength, total]
    · exact sorted.nodup_iff.mpr after.nodup
    · intro cell member
      obtain ⟨symbol, symbolPositive, earlier, cellMember⟩ :=
        after.free cell (sorted.mem_iff.mp member)
      exact ⟨symbol, symbolPositive, by omega, cellMember⟩
    · intro symbol
      rw [(sorted.filter _).length_eq]
      exact after.columns symbol
    · intro cell member
      exact after.needed cell (sorted.mem_iff.mp member)

theorem allocateFrom_completes
    {b nTs : Nat}
    {frame : List Int}
    (bValid : b ∈ bIdx2bLut)
    (nTsValid : nTs ∈ nTsIdx2NTsVec)
    (rows : ∀ l < 5, unmarkedCells frame (columnCells (nBDftLut (b2bIdx b)) l) =
      .ok (rowCells b l (freeRow b nTs l)))
    {remaining columns l nUnalloc : Nat}
    {kPcc : List Nat}
    (lPositive : 1 ≤ l)
    (untilFive : l + remaining = 5)
    (enough : remaining ≤ columns)
    (room : nUnalloc ≤
      ((List.range' l remaining).map (fun symbol => (freeRow b nTs symbol).length)).sum)
    (before : AllocatedBefore b nTs l kPcc)
    (positive : 0 < nUnalloc)
    (fourteen : 14 ∣ nUnalloc)
    (whole : kPcc.length = freeBefore b nTs l)
    (total : kPcc.length + nUnalloc = pccCells) :
    ∃ cells,
      allocateFrom frame (nBDftLut (b2bIdx b)) columns l nUnalloc kPcc = .ok cells ∧
        Allocation b nTs cells := by
  induction remaining generalizing columns l nUnalloc kPcc with
  | zero =>
      simp at room
      omega
  | succ remaining hypothesis =>
      obtain ⟨further, rfl⟩ : ∃ further, columns = further + 1 :=
        ⟨columns - 1, by omega⟩
      rcases @allocateFrom_step b nTs further l nUnalloc frame kPcc bValid nTsValid lPositive
          (by omega) (rows l (by omega)) before positive fourteen whole total with
        ended | ⟨short, continued, after⟩
      · exact ended
      · rw [continued]
        have freeFourteen := Drs.length_freeRow bValid nTsValid l
        refine hypothesis (by omega) (by omega) (by omega) ?_ after (by omega)
          (by omega) ?_ ?_
        · rw [List.range'_succ, List.map_cons, List.sum_cons] at room
          omega
        · rw [List.length_append, rowCells, List.length_map, freeBefore_succ lPositive, whole]
        · rw [List.length_append, rowCells, List.length_map]
          omega

/-- The control channel always finds its cells within the first four symbols. -/
theorem getKILinear_spec
    {b nTs : Nat}
    (bValid : b ∈ bIdx2bLut)
    (nTsValid : nTs ∈ nTsIdx2NTsVec) :
    ∃ cells, getKILinear b nTs = .ok cells ∧ Allocation b nTs cells := by
  have positive := pos_of_mem_bIdx2bLut bValid
  have valid : PacketValid 8 20 nTs := by
    refine ⟨by decide, nTsValid, by decide, by decide, fun _ => by decide, fun _ => by decide⟩
  obtain ⟨frame, created, shown⟩ := withDrs_shows bValid valid
  have rows :
      ∀ l < 5, unmarkedCells frame (columnCells (nBDftLut (b2bIdx b)) l) =
        .ok (rowCells b l (freeRow b nTs l)) := by
    intro l inside
    rw [shown.unmarkedCells_eq (columnCells_lt (by omega))]
    have selected := columnCells_filter_taken bValid valid
      (show l ≤ Pdc.getNDfSymb 8 20 from Nat.le_trans (Nat.le_of_lt inside) (by decide)) []
    simp only [List.append_nil] at selected
    rw [selected]
    simp
  -- the third and the fourth symbol never carry reference signals
  have free : ∀ l, l = 3 ∨ l = 4 → (freeRow b nTs l).length = 56 * b := by
    intro l symbol
    have idle := @Drs.groupAt_eq_none nTs l nTsValid (by omega)
    rw [Drs.freeRow_of_groupAt_eq_none idle, occupiedSubcarriers_eq bValid, List.length_map,
      List.length_range]
  have third := free 3 (.inl rfl)
  have fourth := free 4 (.inr rfl)
  obtain ⟨cells, allocated, allocation⟩ := @allocateFrom_completes b nTs frame
    bValid nTsValid rows 4 19 1 pccCells [] (Nat.le_refl 1) rfl (by decide) (by simp [List.range'_succ, pccCells]; omega)
    ⟨List.nodup_nil, by simp, by simp, by simp⟩ (show 0 < pccCells by decide) (by decide)
    rfl rfl
  refine ⟨cells, ?_, allocation⟩
  simp only [getKILinear, created, Checked.ok_bind]
  exact allocated

/-- Columns that contain at least one of the linear indices. -/
def idx2subCol
    (dimColumn : Nat) :
    List Nat → List Nat
  | [] => []
  | first :: rest =>
      first / dimColumn ::
        newKeys (fun index => index / dimColumn) (first / dimColumn) (first :: rest)

/-- Rows of the linear indices in each of these columns, counted from an offset. -/
def idx2subRow
    (dimColumn cntOffset : Nat) :
    List Nat → Checked (List (List Nat))
  | [] => .ok []
  | first :: rest => do
      let linearIdxPerColumn :=
        groups (fun index => index / dimColumn)
          (fun index => index - index / dimColumn * dimColumn - cntOffset)
          (first / dimColumn) [] (first :: rest)
      dectnrpAssert (linearIdxPerColumn.all (fun row => !row.isEmpty))
        "No indices for one of the columns written."
      .ok linearIdxPerColumn

/-- Symbols of the control channel and their subcarriers for one configuration. -/
def tableEntry
    (bIdx nTs : Nat) :
    Checked (List Nat × List (List Nat)) := do
  let kILinearSingle ← getKILinear (bIdx2b bIdx) nTs
  dectnrpAssert (kILinearSingle.length == pccCells) "Incorrect number of PCC linear indices k_i"
  let lPerSymbolSingle := idx2subCol (nBDftLut bIdx) kILinearSingle
  let kIPerSymbolSingle ← idx2subRow (nBDftLut bIdx) (guardsBottomLut bIdx) kILinearSingle
  dectnrpAssert (lPerSymbolSingle.length == kIPerSymbolSingle.length)
    "Incorrect number of PCC OFDM sybmols."
  dectnrpAssert ((kIPerSymbolSingle.map List.length).sum == pccCells)
    "Incorrect number of PCC OFDM symbols"
  .ok (lPerSymbolSingle, kIPerSymbolSingle)

end Pcc

/-- Rows of the cells of one symbol, counted from the lower guards. -/
def columnOf
    (b l : Nat)
    (linear : List Nat) :
    List Nat :=
  (linear.filter (fun cell => decide (cell / (64 * b) = l))).map
    (fun cell => cell - l * (64 * b) - 4 * b)

theorem mem_columnOf
    {b l k : Nat}
    {linear : List Nat}
    (between : ∀ cell ∈ linear, cell / (64 * b) = l → l * (64 * b) + 4 * b ≤ cell)
    (inside : 4 * b + k < 64 * b) :
    k ∈ columnOf b l linear ↔ l * (64 * b) + 4 * b + k ∈ linear := by
  simp only [columnOf, List.mem_map, List.mem_filter, decide_eq_true_eq]
  constructor
  · rintro ⟨cell, ⟨member, column⟩, rfl⟩
    have above := between cell member column
    have restored : l * (64 * b) + 4 * b + (cell - l * (64 * b) - 4 * b) = cell := by
      omega
    rw [restored]
    exact member
  · intro member
    refine ⟨_, ⟨member, ?_⟩, by omega⟩
    rw [Nat.add_assoc]
    exact linear_div inside l

/-- Iterator over the symbols of the control channel. -/
structure Pcc where
  lAllSymbols : List (List (List Nat))
  kIAllSymbols : List (List (List (List Nat)))
  configLocalCnt : Nat
  ptrLAllSymbols : List Nat
  ptrKIAllSymbols : List (List Nat)
  deriving Repr, DecidableEq

namespace Pcc

/-- Tables for all bandwidths and numbers of streams up to a maximum. -/
def create
    (bMax nTsMax : Nat) :
    Checked Pcc := do
  let table ← (List.range (b2bIdx bMax + 1)).mapM (fun bIdx =>
    (streamCounts nTsMax).mapM (fun nTs => tableEntry bIdx nTs))
  .ok
    { lAllSymbols := table.map (List.map Prod.fst)
      kIAllSymbols := table.map (List.map Prod.snd)
      configLocalCnt := 0
      ptrLAllSymbols := []
      ptrKIAllSymbols := [] }

def setConfiguration
    (pcc : Pcc)
    (b nTs : Nat) :
    Pcc :=
  { pcc with
    configLocalCnt := 0
    ptrLAllSymbols := (pcc.lAllSymbols.getD (b2bIdx b) []).getD (nTs2NTsIdxVec nTs) []
    ptrKIAllSymbols := (pcc.kIAllSymbols.getD (b2bIdx b) []).getD (nTs2NTsIdxVec nTs) [] }

def isSymbolIndex
    (pcc : Pcc)
    (l : Nat) :
    Checked (Bool × Pcc) :=
  if pcc.ptrLAllSymbols.length ≤ pcc.configLocalCnt then
    .ok (false, pcc)
  else do
    let symbol ← elementAt pcc.ptrLAllSymbols pcc.configLocalCnt
    if symbol = l then
      .ok (true, { pcc with configLocalCnt := pcc.configLocalCnt + 1 })
    else
      .ok (false, pcc)

/-- Subcarriers of the symbol that was found last. -/
def getKIOneSymbol (pcc : Pcc) : Checked (List Nat) :=
  elementAt pcc.ptrKIAllSymbols (pcc.configLocalCnt - 1)

/-- Subcarriers that a caller gets in one symbol. -/
def runSymbol
    (pcc : Pcc)
    (l : Nat) :
    Checked (List Nat × Pcc) := do
  let (found, pcc) ← pcc.isSymbolIndex l
  if found then do
    let kI ← pcc.getKIOneSymbol
    .ok (kI, pcc)
  else
    .ok ([], pcc)

variable {cells : List Nat}

/-- The table lists the columns of the allocated cells. -/
theorem tableEntry_spec
    {b nTs : Nat}
    (bValid : b ∈ bIdx2bLut)
    (created : getKILinear b nTs = .ok cells)
    (allocation : Allocation b nTs cells) :
    ∃ symbols,
      tableEntry (b2bIdx b) nTs =
          .ok (symbols, symbols.map (fun l => columnOf b l cells)) ∧
        Ascending symbols ∧
          ∀ l, l ∈ symbols ↔ ∃ cell ∈ cells, cell / (64 * b) = l := by
  have lengthEq := allocation.length_eq
  obtain ⟨first, rest, rfl⟩ : ∃ first rest, cells = first :: rest := by
    cases cells with
    | nil => simp [pccCells] at lengthEq
    | cons first rest => exact ⟨first, rest, rfl⟩
  obtain ⟨firstBelow, -⟩ := List.pairwise_cons.mp allocation.ascending
  have keysAscend :
      KeysAscend (fun index => index / (64 * b)) (first / (64 * b)) (first :: rest) := by
    refine ⟨?_, ?_⟩
    · intro cell member
      rcases List.mem_cons.mp member with rfl | later
      · exact Nat.le_refl _
      · exact Nat.div_le_div_right (Nat.le_of_lt (firstBelow cell later))
    · exact allocation.ascending.imp
        (fun smaller => Nat.div_le_div_right (Nat.le_of_lt smaller))
  have symbolsMember : ∀ l, l ∈ idx2subCol (64 * b) (first :: rest) ↔
      ∃ cell ∈ first :: rest, cell / (64 * b) = l := by
    intro l
    rw [idx2subCol, List.mem_cons, mem_newKeys keysAscend]
    constructor
    · rintro (rfl | ⟨-, found⟩)
      · exact ⟨first, List.mem_cons_self, rfl⟩
      · exact found
    · rintro ⟨cell, member, rfl⟩
      rcases Nat.lt_or_eq_of_le (keysAscend.1 cell member) with above | same
      · exact .inr ⟨above, cell, member, rfl⟩
      · exact .inl same.symm
  have rows : groups (fun index => index / (64 * b))
      (fun index => index - index / (64 * b) * (64 * b) - 4 * b)
      (first / (64 * b)) [] (first :: rest) =
        (idx2subCol (64 * b) (first :: rest)).map (fun l => columnOf b l (first :: rest)) := by
    rw [groups_eq _ keysAscend, idx2subCol, List.map_cons, List.nil_append]
    have column :
        ∀ l, ((first :: rest).filter (fun cell => decide (cell / (64 * b) = l))).map
            (fun cell => cell - cell / (64 * b) * (64 * b) - 4 * b) =
          columnOf b l (first :: rest) := by
      intro l
      refine List.map_congr_left ?_
      intro cell member
      have here : cell / (64 * b) = l := by
        simpa using (List.mem_filter.mp member).2
      rw [here]
    simp only [column]
  have nonempty : ((idx2subCol (64 * b) (first :: rest)).map
      (fun l => columnOf b l (first :: rest))).all (fun row => !row.isEmpty) = true := by
    rw [List.all_eq_true]
    intro row member
    obtain ⟨l, lMember, rfl⟩ := List.mem_map.mp member
    obtain ⟨cell, cellMember, column⟩ := (symbolsMember l).mp lMember
    have found : cell ∈ (first :: rest).filter (fun cell => decide (cell / (64 * b) = l)) :=
      List.mem_filter.mpr ⟨cellMember, by simpa using column⟩
    have notNil := List.ne_nil_of_mem (List.mem_map_of_mem
      (f := fun cell => cell - l * (64 * b) - 4 * b) found)
    simpa [columnOf] using notNil
  have total : (((idx2subCol (64 * b) (first :: rest)).map
      (fun l => columnOf b l (first :: rest))).map List.length).sum = pccCells := by
    rw [← rows, sum_length_groups, List.length_nil, Nat.zero_add]
    exact lengthEq
  refine ⟨idx2subCol (64 * b) (first :: rest), ?_, ascending_newKeys keysAscend, symbolsMember⟩
  have rowsOk : idx2subRow (64 * b) (4 * b) (first :: rest) =
      .ok ((idx2subCol (64 * b) (first :: rest)).map
        (fun l => columnOf b l (first :: rest))) := by
    rw [idx2subRow, rows, nonempty]
    rfl
  simp only [tableEntry, bIdx2b_b2bIdx bValid, created, Checked.ok_bind,
    nBDftLut_b2bIdx bValid, guardsBottomLut_b2bIdx bValid, rowsOk, total, lengthEq,
    List.length_map, beq_self_eq_true, dectnrpAssert_true]

/-- The iterator is prepared for the symbols from `l` on. -/
structure WaitsFrom
    (pcc : Pcc)
    (b : Nat)
    (cells : List Nat)
    (l : Nat) :
    Prop where
  ascending : Ascending pcc.ptrLAllSymbols
  symbols : ∀ l, l ∈ pcc.ptrLAllSymbols ↔ ∃ cell ∈ cells, cell / (64 * b) = l
  rows : pcc.ptrKIAllSymbols = pcc.ptrLAllSymbols.map (fun l => columnOf b l cells)
  passed : ∀ index < pcc.configLocalCnt, ∀ symbol,
    pcc.ptrLAllSymbols[index]? = some symbol → symbol < l
  ahead : ∀ index, pcc.configLocalCnt ≤ index → ∀ symbol,
    pcc.ptrLAllSymbols[index]? = some symbol → l ≤ symbol

/-- A symbol that is not listed has no cells. -/
theorem WaitsFrom.columnOf_eq_nil
    {pcc : Pcc}
    {b l symbol : Nat}
    (waits : WaitsFrom pcc b cells l)
    (absent : symbol ∉ pcc.ptrLAllSymbols) :
    columnOf b symbol cells = [] := by
  unfold columnOf
  rw [List.map_eq_nil_iff, List.filter_eq_nil_iff]
  intro cell member
  have elsewhere := mt (waits.symbols symbol).mpr absent
  simpa using fun column => elsewhere ⟨cell, member, column⟩

/-- One symbol delivers its cells and prepares the next symbol. -/
theorem runSymbol_spec
    {pcc : Pcc}
    {b l : Nat}
    (waits : WaitsFrom pcc b cells l) :
    ∃ after, pcc.runSymbol l = .ok (columnOf b l cells, after) ∧
      WaitsFrom after b cells (l + 1) := by
  unfold runSymbol isSymbolIndex
  by_cases finished : pcc.ptrLAllSymbols.length ≤ pcc.configLocalCnt
  · have absent : l ∉ pcc.ptrLAllSymbols := by
      intro member
      obtain ⟨index, inside, found⟩ := List.mem_iff_getElem.mp member
      have early := waits.passed index (by omega) l (by rw [List.getElem?_eq_getElem inside, found])
      omega
    rw [if_pos finished]
    refine ⟨pcc, by rw [waits.columnOf_eq_nil absent]; rfl, waits.ascending, waits.symbols,
      waits.rows, ?_, ?_⟩
    · intro index inside symbol found
      exact Nat.lt_succ_of_lt (waits.passed index inside symbol found)
    · intro index beyond symbol found
      rw [List.getElem?_eq_none (by omega)] at found
      cases found
  · have inside : pcc.configLocalCnt < pcc.ptrLAllSymbols.length := Nat.lt_of_not_le finished
    have present := List.getElem?_eq_getElem inside
    generalize pcc.ptrLAllSymbols[pcc.configLocalCnt] = next at present
    have notBefore := waits.ahead _ (Nat.le_refl _) next present
    rw [if_neg finished, elementAt_eq_ok present]
    simp only [Checked.ok_bind]
    have laterAbove : ∀ index, pcc.configLocalCnt < index → ∀ symbol,
        pcc.ptrLAllSymbols[index]? = some symbol → next < symbol := by
      intro index beyond symbol found
      obtain ⟨indexInside, rfl⟩ := List.getElem?_eq_some_iff.mp found
      obtain ⟨-, rfl⟩ := List.getElem?_eq_some_iff.mp present
      exact List.pairwise_iff_getElem.mp waits.ascending _ _ inside indexInside beyond
    by_cases here : next = l
    · subst here
      have row :
          pcc.ptrKIAllSymbols[pcc.configLocalCnt]? = some (columnOf b next cells) := by
        rw [waits.rows, List.getElem?_map, present]
        rfl
      refine ⟨{ pcc with configLocalCnt := pcc.configLocalCnt + 1 }, ?_, waits.ascending,
        waits.symbols, waits.rows, ?_, ?_⟩
      · rw [if_pos rfl]
        simp [getKIOneSymbol, elementAt_eq_ok row]
      · intro index below symbol found
        rcases Nat.lt_succ_iff_lt_or_eq.mp below with earlier | rfl
        · exact Nat.lt_succ_of_lt (waits.passed index earlier symbol found)
        · rw [present] at found
          cases found
          exact Nat.lt_succ_self _
      · intro index beyond symbol found
        exact laterAbove index beyond symbol found
    · have absent : l ∉ pcc.ptrLAllSymbols := by
        intro member
        obtain ⟨index, indexInside, found⟩ := List.mem_iff_getElem.mp member
        have read : pcc.ptrLAllSymbols[index]? = some l := by
          rw [List.getElem?_eq_getElem indexInside, found]
        rcases Nat.lt_trichotomy index pcc.configLocalCnt with earlier | rfl | later
        · have := waits.passed index earlier l read
          omega
        · rw [present] at read
          cases read
          exact here rfl
        · have := laterAbove index later l read
          omega
      rw [if_neg here]
      refine ⟨pcc, by rw [waits.columnOf_eq_nil absent]; rfl, waits.ascending, waits.symbols,
        waits.rows, ?_, ?_⟩
      · intro index below symbol found
        exact Nat.lt_succ_of_lt (waits.passed index below symbol found)
      · intro index beyond symbol found
        rcases Nat.lt_or_eq_of_le beyond with later | rfl
        · have := laterAbove index later symbol found
          omega
        · rw [present] at found
          cases found
          omega

/-- The tables can be created, and hold an entry for each valid configuration. -/
theorem create_spec
    {bMax nTsMax : Nat}
    (bMaxValid : bMax ∈ bIdx2bLut)
    (nTsMaxValid : nTsMax ∈ nTsIdx2NTsVec) :
    ∃ pcc, create bMax nTsMax = .ok pcc ∧
      ∀ b ∈ bIdx2bLut, b ≤ bMax → ∀ nTs ∈ nTsIdx2NTsVec, nTs ≤ nTsMax →
        ∀ cells, getKILinear b nTs = .ok cells →
          WaitsFrom (pcc.setConfiguration b nTs) b cells 1 := by
  have entries : ∀ bIdx ∈ List.range (b2bIdx bMax + 1),
      ∃ row, (streamCounts nTsMax).mapM (fun nTs => tableEntry bIdx nTs) = .ok row := by
    intro bIdx member
    have inside : bIdx < 6 := by
      have := List.mem_range.mp member
      have := b2bIdx_lt bMaxValid
      omega
    obtain ⟨bValid, index⟩ := bIdx2b_mem inside
    refine exists_mapM ?_
    intro nTs nTsMember
    obtain ⟨cells, created, allocation⟩ :=
      getKILinear_spec bValid (streamCounts_mem nTsMaxValid nTsMember)
    obtain ⟨symbols, entry, -⟩ := tableEntry_spec bValid created allocation
    rw [index] at entry
    exact ⟨_, entry⟩
  obtain ⟨table, filled⟩ := exists_mapM entries
  refine ⟨_, by rw [create, filled]; rfl, ?_⟩
  intro b bValid bInside nTs nTsValid nTsInside cells created
  have bIdxInside := b2bIdx_le bValid bMaxValid bInside
  obtain ⟨row, rowFilled, rowAt⟩ := mapM_getElem? filled
    (List.getElem?_range (show b2bIdx b < b2bIdx bMax + 1 by omega))
  obtain ⟨entry, entryCreated, entryAt⟩ := mapM_getElem? rowFilled
    (streamCounts_getElem? nTsValid nTsMaxValid nTsInside)
  obtain ⟨allocated, allocatedCreated, allocation⟩ := getKILinear_spec bValid nTsValid
  rw [created] at allocatedCreated
  cases allocatedCreated
  obtain ⟨symbols, entrySpec, ascending, members⟩ := tableEntry_spec bValid created allocation
  rw [entryCreated] at entrySpec
  cases entrySpec
  have positive := pos_of_mem_bIdx2bLut bValid
  refine ⟨?_, ?_, ?_, ?_, ?_⟩
  all_goals simp only [setConfiguration, List.getD_eq_getElem?_getD, List.getElem?_map, rowAt,
    entryAt, Option.map_some, Option.getD_some]
  · exact ascending
  · exact members
  · intro index below
    exact absurd below (Nat.not_lt_zero index)
  · intro index _ symbol found
    obtain ⟨cell, member, rfl⟩ := (members symbol).mp (List.mem_of_getElem? found)
    obtain ⟨first, firstPositive, -, inRow⟩ := allocation.allocated.free cell member
    rw [div_of_mem_rowCells bValid inRow]
    exact firstPositive

end Pcc

end DectNrp
