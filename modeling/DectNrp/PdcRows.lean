import DectNrp.PacketAdmission

namespace DectNrp

open ColumnTables
open Phyres
open VirtualFrame

/-!
# Data cells symbol by symbol

The control channel takes a symbol only after all free cells of the symbols
before it.  Data cells therefore begin behind the control channel, and from the
second symbol with data on, a symbol has at least twenty-eight of them or none.
-/

open Checked (bind_eq_ok)

namespace Pcc

theorem allocateFrom_greedy
    {frame : List Int}
    {nBDft columns l nUnalloc : Nat}
    {kPcc cells : List Nat}
    (positive : 0 < nUnalloc)
    (returned : allocateFrom frame nBDft columns l nUnalloc kPcc = .ok cells) :
    (∀ cell ∈ kPcc, cell ∈ cells) ∧
    ∃ last,
      (∀ symbol, l ≤ symbol → symbol < last →
        ∃ row,
          unmarkedCells frame (columnCells nBDft symbol) = .ok row ∧
          ∀ cell ∈ row, cell ∈ cells) ∧
      ∀ cell ∈ cells,
        cell ∈ kPcc ∨
          ∃ symbol row,
            symbol ≤ last ∧
            unmarkedCells frame (columnCells nBDft symbol) = .ok row ∧
            cell ∈ row := by
  induction columns generalizing l nUnalloc kPcc with
  | zero => cases returned
  | succ columns hypothesis =>
      rw [allocateFrom] at returned
      obtain ⟨k0U, isRow, returned⟩ := bind_eq_ok.mp returned
      dsimp only at returned
      split at returned
      · rename_i short
        obtain ⟨kept, last, whole, bounded⟩ := hypothesis (by omega) returned
        refine ⟨fun cell member => kept cell (List.mem_append_left _ member),
            max last l, ?_, ?_⟩
        · intro symbol notEarlier earlier
          by_cases here : symbol = l
          · subst here
            exact ⟨k0U, isRow, fun cell member =>
                kept cell (List.mem_append_right _ member)⟩
          · exact whole symbol (by omega) (by omega)
        · intro cell member
          rcases bounded cell member with before | ⟨symbol, row, within, rest⟩
          · rcases List.mem_append.mp before with inPcc | inRow
            · exact .inl inPcc
            · exact .inr ⟨l, k0U, Nat.le_max_right _ _, isRow, inRow⟩
          · exact .inr ⟨symbol, row, by omega, rest⟩
      · obtain ⟨_, divisible, returned⟩ := bind_eq_ok.mp returned
        obtain ⟨_, -, isSorted⟩ := bind_eq_ok.mp returned
        cases isSorted
        have remainder := dectnrpAssert_eq_ok.mp divisible
        rw [beq_iff_eq] at remainder
        have full : k0U.length = rPcc * (k0U.length / rPcc) := by
          have division := Nat.div_add_mod k0U.length rPcc
          omega
        have sorted :=
          List.mergeSort_perm (kPcc ++
              pushUntilAllocated (columnOrder k0U (k0U.length / rPcc))
                nUnalloc)
            (fun first second => decide (first ≤ second))
        refine ⟨?_, l, ?_, ?_⟩
        · intro cell member
          exact sorted.mem_iff.mpr (List.mem_append_left _ member)
        · intro symbol notEarlier earlier
          omega
        · intro cell member
          rcases List.mem_append.mp (sorted.mem_iff.mp member) with
            inPcc | isPushed
          · exact .inl inPcc
          · rw [pushUntilAllocated_eq_take positive] at isPushed
            exact .inr ⟨l, k0U, Nat.le_refl l, isRow,
                (columnOrder_perm full).mem_iff.mp
                  (List.mem_of_mem_take isPushed)⟩

theorem getKILinear_greedy
    {b nTs l earlier k : Nat}
    {pccLinear : List Nat}
    (bValid : b ∈ bIdx2bLut)
    (nTsValid : nTs ∈ nTsIdx2NTsVec)
    (created : getKILinear b nTs = .ok pccLinear)
    (allocation : Allocation b nTs pccLinear)
    (member : k ∈ columnOf b l pccLinear)
    (positive : 1 ≤ earlier)
    (before : earlier < l) :
    ∀ cell ∈ rowCells b earlier (Drs.freeRow b nTs earlier),
      cell ∈ pccLinear := by
  have valid : PacketValid 8 20 nTs :=
    ⟨by decide, nTsValid, by decide, by decide, fun _ => by decide,
      fun _ => by decide⟩
  have early := (Pdc.mem_freeRow_of_mem_columnOf bValid allocation member).2.2
  obtain ⟨frame, isFrame, shown⟩ := withDrs_shows bValid valid
  have rows : ∀ symbol < 17,
      unmarkedCells frame (columnCells (nBDftLut (b2bIdx b)) symbol) =
        .ok (rowCells b symbol (Drs.freeRow b nTs symbol)) := by
    intro symbol inside
    have selected :=
      columnCells_filter_taken bValid valid
        (show symbol ≤ Pdc.getNDfSymb 8 20 from Nat.le_of_lt_succ inside)
        []
    simp only [List.append_nil] at selected
    rw [shown.unmarkedCells_eq (columnCells_lt (by omega)), selected]
    simp
  simp only [getKILinear, isFrame, Checked.ok_bind] at created
  obtain ⟨-, last, whole, bounded⟩ := allocateFrom_greedy (by decide) created
  simp only [columnOf, List.mem_map, List.mem_filter,
    decide_eq_true_eq] at member
  obtain ⟨found, ⟨foundMember, column⟩, -⟩ := member
  have reaches : l ≤ last := by
    rcases bounded found foundMember with none | ⟨symbol, row, within, isRow, inRow⟩
    · cases none
    · by_contra beyond
      rw [rows symbol (by omega)] at isRow
      cases isRow
      have isSymbol := div_of_mem_rowCells bValid inRow
      omega
  obtain ⟨row, isRow, taken⟩ := whole earlier positive (by omega)
  rw [rows earlier (by omega)] at isRow
  cases isRow
  exact taken

end Pcc

namespace Drs

theorem freeRow_eq_nil_or_long
    {b nTs : Nat}
    (bValid : b ∈ bIdx2bLut)
    (nTsValid : nTs ∈ nTsIdx2NTsVec)
    (l : Nat) :
    freeRow b nTs l = [] ∨ 28 ≤ (freeRow b nTs l).length := by
  have positive := pos_of_mem_bIdx2bLut bValid
  have counted :=
    length_filter_not_mem (ascending_occupiedSubcarriers bValid).nodup
      (takenAt_nodup b nTs l)
      (fun k (member : k ∈ takenAt b nTs l) =>
        takenAt_occupied bValid nTsValid member)
  have whole : (occupiedSubcarriers b).length = 56 * b := by
    rw [occupiedSubcarriers_eq bValid, List.length_map, List.length_range]
  have taken : (takenAt b nTs l).length = 0 ∨
      (takenAt b nTs l).length = min nTs 4 * (14 * b) := by
    unfold takenAt rowsAt
    cases groupAt nTs l with
    | none => exact .inl rfl
    | some occurrence =>
        right
        simp [List.length_flatMap, Function.comp_def, carriers]
  unfold freeRow
  rcases taken with isIdle | isTaken
  · right
    omega
  · rcases nTs_cases nTsValid with rfl | rfl | rfl | rfl
    · have single : (takenAt b 1 l).length = 1 * (14 * b) := isTaken
      right
      omega
    · have double : (takenAt b 2 l).length = 2 * (14 * b) := isTaken
      right
      omega
    · have all : (takenAt b 4 l).length = 4 * (14 * b) := isTaken
      left
      exact List.eq_nil_of_length_eq_zero (by omega)
    · have all : (takenAt b 8 l).length = 4 * (14 * b) := isTaken
      left
      exact List.eq_nil_of_length_eq_zero (by omega)

end Drs

namespace Pdc

variable {b nTs : Nat} {pccLinear : List Nat}

/-- Behind a symbol with data there are no control cells. -/
theorem columnOf_eq_nil_of_later
    {l earlier : Nat}
    (bValid : b ∈ bIdx2bLut)
    (nTsValid : nTs ∈ nTsIdx2NTsVec)
    (created : Pcc.getKILinear b nTs = .ok pccLinear)
    (allocation : Pcc.Allocation b nTs pccLinear)
    (positive : 1 ≤ earlier)
    (before : earlier < l)
    (hasData : rowAt b nTs pccLinear earlier ≠ []) :
    columnOf b l pccLinear = [] := by
  refine List.eq_nil_iff_forall_not_mem.mpr ?_
  intro k member
  have taken :=
    Pcc.getKILinear_greedy bValid nTsValid created allocation member
      positive before
  refine hasData (List.filter_eq_nil_iff.mpr ?_)
  intro free isFree
  have occupied := List.mem_of_mem_filter isFree
  have inPcc :=
    (mem_columnOf_iff bValid allocation occupied).mpr
      (taken _ (List.mem_map.mpr ⟨free, isFree, rfl⟩))
  simpa using inPcc

/-- Behind a symbol with data, a symbol has many data cells or none. -/
theorem rowAt_eq_nil_or_long
    {l earlier : Nat}
    (bValid : b ∈ bIdx2bLut)
    (nTsValid : nTs ∈ nTsIdx2NTsVec)
    (created : Pcc.getKILinear b nTs = .ok pccLinear)
    (allocation : Pcc.Allocation b nTs pccLinear)
    (positive : 1 ≤ earlier)
    (before : earlier < l)
    (hasData : rowAt b nTs pccLinear earlier ≠ []) :
    rowAt b nTs pccLinear l = [] ∨ 28 ≤ (rowAt b nTs pccLinear l).length := by
  have free : rowAt b nTs pccLinear l = Drs.freeRow b nTs l := by
    unfold rowAt
    rw [columnOf_eq_nil_of_later bValid nTsValid created allocation
      positive before hasData]
    simp
  rw [free]
  exact Drs.freeRow_eq_nil_or_long bValid nTsValid l

/-- All symbols together have the data cells of the packet. -/
theorem sum_length_rowAt
    {u nPacketSymb : Nat}
    (bValid : b ∈ bIdx2bLut)
    (valid : PacketValid u nPacketSymb nTs)
    (allocation : Pcc.Allocation b nTs pccLinear)
    (hasData : 0 < Sp3.dataCells u nPacketSymb b nTs) :
    ((List.range' 1 (getNDfSymb u nPacketSymb)).map fun l =>
        (rowAt b nTs pccLinear l).length).sum =
      Sp3.dataCells u nPacketSymb b nTs := by
  have carries : CarriesData u b nPacketSymb nTs := by
    unfold Sp3.dataCells at hasData
    unfold CarriesData
    omega
  have remaining := length_remaining bValid valid carries allocation
  rw [List.length_flatMap] at remaining
  unfold Sp3.dataCells
  rw [← remaining]
  simp [rowCells]

/-- The symbol is found exactly if there are subcarriers, which are delivered. -/
theorem isSymbolIndex_of_runSymbol
    {pdc after : Pdc}
    {l : Nat}
    {row : List Nat}
    (returned : pdc.runSymbol l = .ok (row, after)) :
    pdc.isSymbolIndex l = .ok (!row.isEmpty, after) ∧
      (row ≠ [] → after.getKIOneSymbol = .ok row) := by
  unfold runSymbol at returned
  obtain ⟨⟨found, configured⟩, isFound, returned⟩ := bind_eq_ok.mp returned
  have same := isFound
  unfold isSymbolIndex at same
  obtain ⟨_, -, same⟩ := bind_eq_ok.mp same
  obtain ⟨kI, isKI, same⟩ := bind_eq_ok.mp same
  cases same
  dsimp only at returned
  split at returned
  · rename_i nonempty
    obtain ⟨other, isOther, returned⟩ := bind_eq_ok.mp returned
    unfold getKIOneSymbol at isOther
    rw [isKI] at isOther
    cases isOther
    cases returned
    exact ⟨isFound, fun _ => isKI⟩
  · rename_i empty
    cases returned
    have noCells : kI = [] := by simpa using empty
    rw [noCells] at isFound
    exact ⟨isFound, fun nonempty => absurd rfl nonempty⟩

end Pdc

end DectNrp
