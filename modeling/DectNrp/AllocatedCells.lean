import DectNrp.GridPartition
import DectNrp.PdcMappingRuns

namespace DectNrp

open ColumnTables
open Phyres
open VirtualFrame

/-!
# Allocated cells of a packet

The sizes of a packet are computed by closed formulas, while its cells are
delivered symbol by symbol.  Both count the same cells: those of the data
channel, those of each stream of the reference signals, and the ninety-eight
of the control channel, which end before the first symbol that has data only.
-/

theorem sum_length_filter_key
    {Cell : Type}
    {keys : List Nat}
    (nodup : keys.Nodup)
    (key : Cell → Nat)
    (cells : List Cell)
    (covered : ∀ cell ∈ cells, key cell ∈ keys) :
    (keys.map fun symbol =>
        (cells.filter fun cell => decide (key cell = symbol)).length).sum =
      cells.length := by
  induction cells with
  | nil => simp
  | cons cell cells hypothesis =>
      have rest :=
        hypothesis fun other member =>
          covered other (List.mem_cons_of_mem _ member)
      have once :
          (keys.map fun symbol => if key cell = symbol then 1 else 0).sum =
            1 := by
        rw [List.sum_map_eq_nsmul_single (key cell) _
            fun other different _ => if_neg (Ne.symm different),
          List.count_eq_one_of_mem nodup (covered cell List.mem_cons_self),
          if_pos rfl, one_nsmul]
      calc
        _ = (keys.map fun symbol =>
            (if key cell = symbol then 1 else 0) + (cells.filter fun other =>
                decide (key other = symbol)).length).sum := by
          refine congrArg List.sum (List.map_congr_left ?_)
          intro symbol _
          rw [List.filter_cons]
          split <;> rename_i same
          · rw [if_pos (of_decide_eq_true same), List.length_cons,
              Nat.add_comm]
          · rw [if_neg fun isKey => same (decide_eq_true isKey), Nat.zero_add]
        _ = _ := by
          rw [List.sum_map_add, once, rest, List.length_cons, Nat.add_comm]

namespace Pcc

variable {b nTs : Nat} {pccLinear : List Nat}

theorem length_columnOf
    (b l : Nat)
    (linear : List Nat) :
    (columnOf b l linear).length =
      (linear.filter fun cell => decide (cell / (64 * b) = l)).length := by
  unfold columnOf
  rw [List.length_map]

/-- Behind a symbol with data there are no cells of the control channel. -/
theorem symbol_le_of_hasData
    {l cell : Nat}
    (bValid : b ∈ bIdx2bLut)
    (nTsValid : nTs ∈ nTsIdx2NTsVec)
    (created : getKILinear b nTs = .ok pccLinear)
    (allocation : Allocation b nTs pccLinear)
    (positive : 1 ≤ l)
    (hasData : Pdc.rowAt b nTs pccLinear l ≠ [])
    (member : cell ∈ pccLinear) :
    cell / (64 * b) ≤ l := by
  by_contra beyond
  have none :=
    Pdc.columnOf_eq_nil_of_later bValid nTsValid created allocation
      positive (Nat.lt_of_not_le beyond) hasData
  have noCells := List.length_eq_zero_iff.mpr none
  rw [length_columnOf, List.length_eq_zero_iff,
    List.filter_eq_nil_iff] at noCells
  exact noCells cell member (decide_eq_true rfl)

/-- All cells lie in the symbols up to `last` if none is behind it. -/
theorem sum_length_columnOf
    {last : Nat}
    (bValid : b ∈ bIdx2bLut)
    (allocation : Allocation b nTs pccLinear)
    (within : ∀ cell ∈ pccLinear, cell / (64 * b) ≤ last) :
    ((List.range' 1 last).map fun l =>
        (columnOf b l pccLinear).length).sum = pccCells := by
  rw [← allocation.length_eq,
    ← sum_length_filter_key List.nodup_range' (fun cell => cell / (64 * b))
      pccLinear ?_]
  · refine congrArg List.sum (List.map_congr_left ?_)
    intro l _
    exact length_columnOf b l pccLinear
  · intro cell member
    obtain ⟨symbol, positive, -, isFree⟩ :=
      allocation.allocated.free cell member
    have column := div_of_mem_rowCells bValid isFree
    have inside := within cell member
    rw [List.mem_range'_1]
    omega

end Pcc

namespace Drs

/-- Number of cells of a stream among those delivered in a symbol. -/
def streamLength
    (rows : List (Nat × List Nat))
    (t : Nat) :
    Nat :=
  ((rows.filter fun stream => stream.1 == t).map fun stream =>
    stream.2.length).sum

/-- A symbol has all carriers of a stream or none of them. -/
theorem streamLength_rowsAt
    {nTs t : Nat}
    (nTsValid : nTs ∈ nTsIdx2NTsVec)
    (inside : t < nTs)
    (b l : Nat) :
    streamLength (rowsAt b nTs l) t =
      if (groupAt nTs l).map Prod.fst = some (t / 4) then 14 * b else 0 := by
  have streams := nTs_cases nTsValid
  unfold streamLength rowsAt
  cases found : groupAt nTs l with
  | none => simp
  | some occurrence =>
      obtain ⟨group, n⟩ := occurrence
      obtain ⟨groupValid, -⟩ := (groupAt_eq_some nTsValid).mp found
      dsimp only
      rw [List.filter_map, List.map_map]
      have lengths : ((fun stream : Nat × List Nat => stream.2.length) ∘
          fun t => (t, carriers b t n)) = fun _ => 14 * b := by
        funext stream
        exact length_carriers b stream n
      have selected : ((List.range' (4 * group) (min nTs 4)).filter
          ((fun stream : Nat × List Nat => stream.1 == t) ∘
            fun t => (t, carriers b t n))).length =
          if t / 4 = group then 1 else 0 := by
        have asCount : ((List.range' (4 * group) (min nTs 4)).filter
            ((fun stream : Nat × List Nat => stream.1 == t) ∘
              fun t => (t, carriers b t n))).length =
            (List.range' (4 * group) (min nTs 4)).count t := by
          rw [List.count, List.countP_eq_length_filter]
          rfl
        rw [asCount, (List.nodup_range' 1).count]
        refine if_congr ?_ rfl rfl
        rw [List.mem_range'_1]
        omega
      rw [lengths, List.map_const', List.sum_replicate, selected]
      simp only [Option.map_some, Option.some.injEq, smul_eq_mul]
      by_cases same : t / 4 = group
      · rw [if_pos same, if_pos same.symm, Nat.one_mul]
      · rw [if_neg same, if_neg (Ne.symm same), Nat.zero_mul]

variable {u nPacketSymb nTs t : Nat}

theorem symbolsOf_perm
    (valid : PacketValid u nPacketSymb nTs)
    (inside : t < nTs) :
    ((List.range' 1 (Pdc.getNDfSymb u nPacketSymb)).filter fun l =>
        decide ((groupAt nTs l).map Prod.fst = some (t / 4))).Perm
      ((List.range (nofSymbols nPacketSymb nTs)).map fun n =>
        1 + t / 4 + n * getNStep nTs) := by
  have streams := nTs_cases valid.nTs_mem
  have step : 0 < getNStep nTs := by
    rcases getNStep_cases nTs with ⟨-, isStep⟩ | ⟨-, isStep⟩ <;> omega
  have distinct :
      Function.Injective fun n => 1 + t / 4 + n * getNStep nTs := by
    intro first second same
    exact Nat.eq_of_mul_eq_mul_right step (Nat.add_left_cancel same)
  refine (List.perm_ext_iff_of_nodup ((List.nodup_range' 1).filter _)
      (List.nodup_range.map distinct)).mpr ?_
  intro l
  rw [List.mem_filter, List.mem_range'_1, decide_eq_true_iff,
    Option.map_eq_some_iff, List.mem_map]
  constructor
  · rintro ⟨⟨-, early⟩, ⟨group, n⟩, found, rfl⟩
    obtain ⟨-, rfl⟩ := (groupAt_eq_some valid.nTs_mem).mp found
    refine ⟨n, ?_, rfl⟩
    rw [List.mem_range]
    exact (symbol_le_getNDfSymb valid inside).mp (by omega)
  · rintro ⟨n, isOccurrence, rfl⟩
    have early :=
      (symbol_le_getNDfSymb valid inside).mpr (List.mem_range.mp isOccurrence)
    exact ⟨⟨by omega, by omega⟩, (t / 4, n),
        (groupAt_eq_some valid.nTs_mem).mpr ⟨by omega, rfl⟩, rfl⟩

/-- All symbols together have the cells of each stream. -/
theorem sum_streamLength_rowsAt
    (valid : PacketValid u nPacketSymb nTs)
    (inside : t < nTs)
    (b : Nat) :
    ((List.range' 1 (Pdc.getNDfSymb u nPacketSymb)).map fun l =>
        streamLength (rowsAt b nTs l) t).sum =
      14 * b * nofSymbols nPacketSymb nTs := by
  have asFilter :=
    List.sum_map_ite (fun l => (groupAt nTs l).map Prod.fst = some (t / 4))
      (fun _ => 14 * b) (fun _ => 0)
      (List.range' 1 (Pdc.getNDfSymb u nPacketSymb))
  have many := (symbolsOf_perm valid inside).length_eq
  rw [List.length_map, List.length_range] at many
  calc
    _ = _ := by
      refine congrArg List.sum (List.map_congr_left ?_)
      intro l _
      exact streamLength_rowsAt valid.nTs_mem inside b l
    _ = _ := asFilter
    _ = 14 * b * nofSymbols nPacketSymb nTs := by
      rw [List.map_const', List.map_const', List.sum_replicate, many,
        List.sum_replicate]
      simp [Nat.mul_comm]

end Drs

namespace ResourceGrid

/-- The cells of all symbols are as many as the sizes of the packet say. -/
structure MatchesSizes
    (q : Sp3.PacketSizes)
    (symbols : List SymbolCells) :
    Prop where
  pdc : (symbols.map fun symbol => symbol.pdc.length).sum = q.nPdcSubc
  drs : ∀ t < q.tmMode.nEffTx,
    (symbols.map fun symbol => Drs.streamLength symbol.drs t).sum =
      q.nDrsSubc / q.tmMode.nEffTx
  pcc : (symbols.map fun symbol => symbol.pcc.length).sum = Pcc.pccCells
  /-- A symbol with data only comes behind all cells of the control channel. -/
  pccBefore : ∀ index symbol,
    symbols[index]? = some symbol →
    symbol.pdc = occupiedSubcarriers q.psdef.b →
      ((symbols.take index).map fun earlier => earlier.pcc.length).sum =
        Pcc.pccCells
  /-- With the streams and the bits of a symbol, the cells have room for `G`. -/
  allBits :
    q.tmMode.nSs * (symbols.map fun symbol => symbol.pdc.length).sum *
        q.mcs.nBps =
      q.G

section

variable {b nTs : Nat} {pccLinear : List Nat}

theorem columnOf_eq_nil_of_full
    {l : Nat}
    (bValid : b ∈ bIdx2bLut)
    (allocation : Pcc.Allocation b nTs pccLinear)
    (full : Pdc.rowAt b nTs pccLinear l = occupiedSubcarriers b) :
    columnOf b l pccLinear = [] := by
  refine List.eq_nil_iff_forall_not_mem.mpr ?_
  intro k member
  have free := (Pdc.mem_freeRow_of_mem_columnOf bValid allocation member).1
  have isData : k ∈ Pdc.rowAt b nTs pccLinear l := by
    rw [full]
    exact List.mem_of_mem_filter free
  exact (Pdc.mem_rowAt.mp isData).2.2 member

theorem sum_pcc_before
    {l : Nat}
    (bValid : b ∈ bIdx2bLut)
    (nTsValid : nTs ∈ nTsIdx2NTsVec)
    (created : Pcc.getKILinear b nTs = .ok pccLinear)
    (allocation : Pcc.Allocation b nTs pccLinear)
    (full : Pdc.rowAt b nTs pccLinear (l + 1) = occupiedSubcarriers b) :
    ((List.range' 1 l).map fun symbol =>
        (columnOf b symbol pccLinear).length).sum = Pcc.pccCells := by
  have nonempty : Pdc.rowAt b nTs pccLinear (l + 1) ≠ [] := by
    have positive := pos_of_mem_bIdx2bLut bValid
    intro none
    have length := congrArg List.length (full.symm.trans none)
    rw [occupiedSubcarriers_eq bValid, List.length_map, List.length_range,
      List.length_nil] at length
    omega
  refine Pcc.sum_length_columnOf bValid allocation ?_
  intro cell member
  have early :=
    Pcc.symbol_le_of_hasData bValid nTsValid created allocation
      (Nat.le_add_left 1 l) nonempty member
  have noCells :=
    List.length_eq_zero_iff.mpr
      (columnOf_eq_nil_of_full bValid allocation full)
  rw [Pcc.length_columnOf, List.length_eq_zero_iff,
    List.filter_eq_nil_iff] at noCells
  have different : cell / (64 * b) ≠ l + 1 := fun same =>
    noCells cell member (decide_eq_true same)
  omega

end

/-- The patterns of all symbols of a packet match the sizes. -/
theorem patternAt_matchesSizes
    {qq : Sp3.PacketSizesDef}
    {q : Sp3.PacketSizes}
    (returned : Sp3.getPacketSizes qq = .ok (some q))
    {pccLinear : List Nat}
    (created : Pcc.getKILinear q.psdef.b q.tmMode.nEffTx = .ok pccLinear)
    (allocation : Pcc.Allocation q.psdef.b q.tmMode.nEffTx pccLinear) :
    MatchesSizes q
      ((List.range' 1 q.nDfSymb).map
        (patternAt q.psdef.b q.tmMode.nEffTx pccLinear)) := by
  have bValid := (Sp3.valid_of_getPacketSizes returned).b_mem
  have hasCells := (Sp3.getPacketSizes_segmentation returned).2.1
  obtain ⟨tmMode, modeMember, mcs, -, -, -, packetValid, sizes⟩ :=
    Sp3.getPacketSizes_sizes returned
  have nTsValid := packetValid.nTs_mem
  have streams := nTs_cases nTsValid
  rw [sizes.psdef, sizes.isTmMode] at created allocation ⊢
  rw [sizes.nPdcSubc] at hasCells
  have dataSum := Pdc.sum_length_rowAt bValid packetValid allocation hasCells
  rw [← sizes.nDfSymb] at dataSum
  have pdc : (((List.range' 1 q.nDfSymb).map
      (patternAt qq.b tmMode.nEffTx pccLinear)).map fun symbol =>
        symbol.pdc.length).sum = q.nPdcSubc := by
    rw [List.map_map, sizes.nPdcSubc]
    exact dataSum
  -- some symbol has data, and the control channel is not behind it
  have within : ∀ cell ∈ pccLinear, cell / (64 * qq.b) ≤ q.nDfSymb := by
    have someData : ∃ l ∈ List.range' 1 q.nDfSymb,
        Pdc.rowAt qq.b tmMode.nEffTx pccLinear l ≠ [] := by
      by_contra none
      rw [← dataSum] at hasCells
      refine Nat.lt_irrefl 0 (hasCells.trans_eq (List.sum_eq_zero ?_))
      intro length member
      obtain ⟨l, inside, rfl⟩ := List.mem_map.mp member
      rw [List.length_eq_zero_iff]
      by_contra hasData
      exact none ⟨l, inside, hasData⟩
    obtain ⟨l, inside, hasData⟩ := someData
    rw [List.mem_range'_1] at inside
    intro cell member
    have early :=
      Pcc.symbol_le_of_hasData bValid nTsValid created allocation inside.1
        hasData member
    omega
  refine ⟨pdc, ?_, ?_, ?_, ?_⟩
  · intro t tInside
    rw [sizes.isTmMode] at tInside ⊢
    have reference := Drs.sum_streamLength_rowsAt packetValid tInside qq.b
    rw [← sizes.nDfSymb] at reference
    rw [List.map_map, sizes.nDrsSubc, Nat.mul_assoc tmMode.nEffTx,
      Nat.mul_div_cancel_left _ (by omega)]
    exact reference
  · rw [List.map_map]
    exact Pcc.sum_length_columnOf bValid allocation within
  · intro index symbol found full
    rw [List.getElem?_map] at found
    obtain ⟨l, isSymbol, rfl⟩ := Option.map_eq_some_iff.mp found
    obtain ⟨inside, rfl⟩ := List.getElem?_eq_some_iff.mp isSymbol
    rw [List.length_range'] at inside
    rw [List.getElem_range', Nat.one_mul, Nat.add_comm, sizes.psdef] at full
    rw [← List.map_take, List.take_range'_of_length_ge (by omega),
      List.map_map]
    exact sum_pcc_before bValid nTsValid created allocation full
  · rw [pdc, sizes.isTmMode, sizes.isMcs, sizes.nPdcSubc, sizes.G]
    rfl

end ResourceGrid

end DectNrp
