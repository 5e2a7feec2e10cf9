import DectNrp.Pcc

namespace DectNrp

open ColumnTables
open Phyres
open VirtualFrame

/-!
# Symbols of the control channel

The receiver has to collect symbols until it has all cells of the control
channel.  How many symbols these are follows from the number of subcarriers
that the reference signals leave.
-/

namespace Drs

/-- Subcarriers that the reference signals leave in a symbol. -/
theorem length_freeRow_eq
    {b nTs : Nat}
    (bValid : b ∈ bIdx2bLut)
    (nTsValid : nTs ∈ nTsIdx2NTsVec)
    (l : Nat) :
    (freeRow b nTs l).length =
      56 * b -
        (if (groupAt nTs l).isSome then min nTs 4 * (14 * b) else 0) := by
  have counted := length_filter_not_mem
    (ascending_occupiedSubcarriers bValid).nodup (takenAt_nodup b nTs l)
    (fun k (member : k ∈ takenAt b nTs l) =>
      takenAt_occupied bValid nTsValid member)
  have whole : (occupiedSubcarriers b).length = 56 * b := by
    rw [occupiedSubcarriers_eq bValid, List.length_map, List.length_range]
  have taken : (takenAt b nTs l).length =
      if (groupAt nTs l).isSome then min nTs 4 * (14 * b) else 0 := by
    unfold takenAt rowsAt
    cases groupAt nTs l with
    | none => rfl
    | some occurrence =>
        simp [List.flatMap_map, List.length_flatMap, length_carriers]
  unfold freeRow
  omega

end Drs

namespace Pcc

/-- The last symbol that the receiver has to collect. -/
def getPccSymbolIdxMax (pcc : Pcc) : Nat :=
  pcc.ptrLAllSymbols.getLastD 0

/-- Number of symbols that the control channel occupies. -/
def nofSymbols (b nTs : Nat) : Nat :=
  match nTs with
  | 8 => if b = 1 then 4 else 3
  | 4 => if b = 1 then 3 else 2
  | 2 => if b = 1 then 3 else if b = 2 then 2 else 1
  | _ => if b ≤ 2 then 2 else 1

/-- The control channel needs all of its symbols, and no more. -/
theorem freeBefore_nofSymbols
    {b nTs : Nat}
    (bValid : b ∈ bIdx2bLut)
    (nTsValid : nTs ∈ nTsIdx2NTsVec) :
    1 ≤ nofSymbols b nTs ∧
      freeBefore b nTs (nofSymbols b nTs) < pccCells ∧
      pccCells ≤ freeBefore b nTs (nofSymbols b nTs + 1) := by
  have counted : ∀ l, freeBefore b nTs l =
      ((List.range' 1 (l - 1)).map fun symbol =>
        56 * b - (if (Drs.groupAt nTs symbol).isSome then min nTs 4 * (14 * b)
          else 0)).sum := by
    intro l
    unfold freeBefore
    refine congrArg List.sum (List.map_congr_left ?_)
    intro symbol _
    exact Drs.length_freeRow_eq bValid nTsValid symbol
  have evaluated : ∀ b ∈ bIdx2bLut, ∀ nTs ∈ nTsIdx2NTsVec,
      1 ≤ nofSymbols b nTs ∧
      ((List.range' 1 (nofSymbols b nTs - 1)).map fun symbol =>
          56 * b -
            (if (Drs.groupAt nTs symbol).isSome then min nTs 4 * (14 * b)
            else 0)).sum < pccCells ∧
        pccCells ≤
          ((List.range' 1 (nofSymbols b nTs + 1 - 1)).map fun symbol =>
            56 * b -
              (if (Drs.groupAt nTs symbol).isSome then min nTs 4 * (14 * b)
              else 0)).sum := by
    decide +kernel
  rw [counted, counted]
  exact evaluated b bValid nTs nTsValid

/-- Cells in the first symbols are at most the free ones. -/
theorem length_le_freeBefore
    {b nTs l : Nat}
    {cells : List Nat}
    (bValid : b ∈ bIdx2bLut)
    (allocation : Allocation b nTs cells)
    (early : ∀ cell ∈ cells, cell / (64 * b) < l) :
    cells.length ≤ freeBefore b nTs l := by
  have included : cells ⊆ (List.range' 1 (l - 1)).flatMap fun symbol =>
      rowCells b symbol (Drs.freeRow b nTs symbol) := by
    intro cell member
    obtain ⟨symbol, positive, _, isFree⟩ :=
      allocation.allocated.free cell member
    have column := div_of_mem_rowCells bValid isFree
    have before := early cell member
    rw [List.mem_flatMap]
    refine ⟨symbol, ?_, isFree⟩
    rw [List.mem_range'_1]
    omega
  have shorter :=
    (List.subperm_of_subset allocation.allocated.nodup included).length_le
  rw [List.length_flatMap] at shorter
  refine shorter.trans (Nat.le_of_eq ?_)
  unfold freeBefore rowCells
  simp only [List.length_map]

/-- The last symbol is where the last cell is. -/
theorem getPccSymbolIdxMax_eq
    {pcc : Pcc}
    {b nTs : Nat}
    {cells : List Nat}
    (bValid : b ∈ bIdx2bLut)
    (nTsValid : nTs ∈ nTsIdx2NTsVec)
    (allocation : Allocation b nTs cells)
    (waits : WaitsFrom pcc b cells 1) :
    pcc.getPccSymbolIdxMax = nofSymbols b nTs := by
  obtain ⟨positive, room, full⟩ := freeBefore_nofSymbols bValid nTsValid
  have upper : ∀ l ∈ pcc.ptrLAllSymbols, l ≤ nofSymbols b nTs := by
    intro l member
    obtain ⟨cell, isCell, column⟩ := (waits.symbols l).mp member
    have needed := allocation.allocated.needed cell isCell
    rw [column] at needed
    by_contra beyond
    have later : nofSymbols b nTs + 1 ≤ l := Nat.lt_of_not_le beyond
    exact absurd (full.trans (freeBefore_mono later)) (Nat.not_le_of_lt needed)
  have reached : nofSymbols b nTs ∈ pcc.ptrLAllSymbols := by
    by_contra absent
    have early : ∀ cell ∈ cells, cell / (64 * b) < nofSymbols b nTs := by
      intro cell isCell
      have member := (waits.symbols (cell / (64 * b))).mpr ⟨cell, isCell, rfl⟩
      refine Nat.lt_of_le_of_ne (upper _ member) ?_
      intro same
      rw [same] at member
      exact absent member
    have few := length_le_freeBefore bValid allocation early
    rw [allocation.length_eq] at few
    exact absurd few (Nat.not_le_of_lt room)
  obtain ⟨earlier, later, split⟩ := List.mem_iff_append.mp reached
  have ascending := waits.ascending
  rw [split] at upper ascending
  have noLater : later = [] := by
    rw [List.eq_nil_iff_forall_not_mem]
    intro l member
    have above :=
      (List.pairwise_cons.mp (List.pairwise_append.mp ascending).2.1).1 l
        member
    have below :=
      upper l (List.mem_append_right _ (List.mem_cons_of_mem _ member))
    exact absurd below (Nat.not_le_of_lt above)
  unfold getPccSymbolIdxMax
  rw [split, noLater, List.getLastD_concat]

end Pcc

end DectNrp
