import DectNrp.ProcessingStages

namespace DectNrp

open ColumnTables
open Phyres
open VirtualFrame

/-!
# Slots, tables and channel estimates

What one access to a stage, one channel estimate and one interpolation do, as
long as their indices are within the slots.
-/

open Checked (ok_bind)

theorem Phyres.nBOccPlusDcLut_b2bIdx
    {b : Nat}
    (bValid : b ∈ bIdx2bLut) :
    RxSynced.nBOccPlusDcLut (b2bIdx b) = 56 * b + 1 := by
  have evaluated :
      ∀ b ∈ bIdx2bLut, RxSynced.nBOccPlusDcLut (b2bIdx b) = 56 * b + 1 := by
    decide
  exact evaluated b bValid

/-- The symbols up to `l` are those before it, and `l`. -/
theorem RxSynced.symbolsUpTo_eq
    {l : Nat}
    (positive : 1 ≤ l) :
    List.range' 1 l = List.range' 1 (l - 1) ++ [l] := by
  obtain ⟨before, rfl⟩ := Nat.exists_eq_add_of_le' positive
  rw [Nat.add_sub_cancel, List.range'_1_concat, Nat.add_comm 1]

namespace Drs

variable {drs : Drs}

/-- The iterator finds the symbols of the pattern. -/
theorem WaitsFrom.isSymbolIndex_eq
    {b nTs l : Nat}
    (waits : WaitsFrom drs b nTs l) :
    drs.isSymbolIndex l = (groupAt nTs l).isSome := by
  by_cases due : l = drs.lNext
  · obtain ⟨group, n, occurrence, -, -⟩ := waits.pending
    rw [← due] at occurrence
    rw [occurrence, isSymbolIndex, due]
    exact beq_self_eq_true _
  · have later := waits.notBefore
    rw [waits.idle l (Nat.le_refl l) (by omega)]
    exact beq_eq_false_iff_ne.mpr due

/-- Nothing changes at a symbol without reference signals. -/
theorem WaitsFrom.skip
    {b nTs l : Nat}
    (nTsValid : nTs ∈ nTsIdx2NTsVec)
    (waits : WaitsFrom drs b nTs l)
    (idle : groupAt nTs l = none) :
    WaitsFrom drs b nTs (l + 1) := by
  have notDue : drs.isSymbolIndex l = false := by
    rw [waits.isSymbolIndex_eq, idle]
    rfl
  have next := (runSymbol_spec nTsValid waits).2
  rw [runSymbol, if_neg (by rw [notDue]; exact Bool.false_ne_true)] at next
  exact next

/-- At a symbol with reference signals, the iterator knows their streams. -/
theorem WaitsFrom.advance
    {b nTs l group n : Nat}
    (nTsValid : nTs ∈ nTsIdx2NTsVec)
    (waits : WaitsFrom drs b nTs l)
    (occurrence : groupAt nTs l = some (group, n)) :
    drs.getTsIdxFirst = 4 * group ∧
      drs.getTsIdxLastAndAdvance.1 + 1 = 4 * group + min nTs 4 ∧
      WaitsFrom drs.getTsIdxLastAndAdvance.2 b nTs (l + 1) ∧
      (drs.getKI.getD 0 []).length = 14 * b := by
  have streams := nTs_cases nTsValid
  have due : drs.isSymbolIndex l = true := by
    rw [waits.isSymbolIndex_eq, occurrence]
    rfl
  have isNext : l = drs.lNext := eq_of_beq due
  obtain ⟨found, m, isFound, first, pointer⟩ := waits.pending
  have next := (runSymbol_spec nTsValid waits).2
  rw [runSymbol, if_pos due] at next
  have advanced :=
    getTsIdxLastAndAdvance_eq nTsValid waits.tables.configNTs_eq isFound first
      pointer
  rw [← isNext, occurrence] at isFound
  obtain ⟨rfl, rfl⟩ := Prod.mk.inj (Option.some.inj isFound)
  refine ⟨first, ?_, next, ?_⟩
  · rw [advanced]
    dsimp only
    omega
  · have row :=
      getKI_getD waits.tables pointer (show 0 % 4 < min 4 nTs by omega)
    rw [Nat.zero_mod] at row
    rw [row, length_carriers]

end Drs

namespace RxSynced

open HeaderAdmission

namespace ProcessingStage

variable {processingStage : ProcessingStage}

theorem setConfiguration_eq
    {nFDomain nTDomain : Nat}
    (fFits : nFDomain ≤ processingStage.nFDomainMax)
    (tFits : nTDomain ≤ processingStage.nTDomainMax) :
    processingStage.setConfiguration nFDomain nTDomain =
      .ok
        { processingStage with
          nFDomain := nFDomain
          nTDomain := nTDomain } := by
  simp only [setConfiguration, fFits, tFits, decide_true, dectnrpAssert_true,
    ok_bind, Checked.pure_eq_ok]

/-- Pointers to one slot in each stage. -/
def slots (nStage tIdx : Nat) : List (Nat × Nat) :=
  (List.range nStage).map fun stageIdx => (stageIdx, tIdx)

theorem mem_slots
    {nStage tIdx : Nat}
    {slot : Nat × Nat} :
    slot ∈ slots nStage tIdx ↔ slot.1 < nStage ∧ slot.2 = tIdx := by
  obtain ⟨stageIdx, other⟩ := slot
  simp only [slots, List.mem_map, List.mem_range, Prod.mk.injEq]
  constructor
  · rintro ⟨found, inside, rfl, rfl⟩
    exact ⟨inside, rfl⟩
  · rintro ⟨inside, rfl⟩
    exact ⟨stageIdx, inside, rfl, rfl⟩

@[simp] theorem length_slots (nStage tIdx : Nat) :
    (slots nStage tIdx).length = nStage := by
  rw [slots, List.length_map, List.length_range]

/-- A slot within the stage is found in all stages. -/
theorem getStagePrealloc_eq
    {tIdx vecSize : Nat}
    (sameSize : vecSize = processingStage.nStage)
    (inside : tIdx < processingStage.nTDomain) :
    processingStage.getStagePrealloc tIdx vecSize =
      .ok (slots processingStage.nStage tIdx) := by
  rw [getStagePrealloc, sameSize, beq_self_eq_true, dectnrpAssert_true,
    ok_bind]
  refine Checked.mapM_eq_ok ?_
  intro stageIdx member
  have isStage := List.mem_range.mp member
  simp only [getStageSpecific, inside, isStage, decide_true,
    dectnrpAssert_true, ok_bind, Checked.pure_eq_ok]

theorem getStagePrealloc_eq_error
    {tIdx vecSize : Nat}
    (sameSize : vecSize = processingStage.nStage)
    (positive : 0 < processingStage.nStage)
    (beyond : processingStage.nTDomain ≤ tIdx) :
    processingStage.getStagePrealloc tIdx vecSize =
      .error (.assertion "t_idx too large") := by
  obtain ⟨others, isSucc⟩ := Nat.exists_eq_succ_of_ne_zero positive.ne'
  have outside : decide (tIdx < processingStage.nTDomain) = false :=
    decide_eq_false (Nat.not_lt_of_le beyond)
  rw [getStagePrealloc, sameSize, beq_self_eq_true, dectnrpAssert_true,
    ok_bind, isSucc, Nat.succ_eq_add_one, List.range_succ_eq_map,
    List.mapM_cons]
  unfold getStageSpecific
  rw [outside]
  rfl

end ProcessingStage

/-- Both tables of an entry have the same slots. -/
structure Lut.Covers
    (lut : Lut)
    (nofSlots : Nat) :
    Prop where
  pilot : lut.idxPilot.nTDomain = nofSlots
  pilotStreams : lut.idxPilot.nStage = nEffTxMaxPrecalc
  weights : lut.idxWeights.nTDomain = nofSlots
  weightsStreams : lut.idxWeights.nStage = nEffTxMaxPrecalc

namespace ChannelLut

theorem initLut_covers (bIdx psTLength : Nat) :
    ∃ lut, initLut bIdx psTLength = .ok lut ∧ lut.Covers psTLength := by
  obtain ⟨stage, isStage, isLength, streams⟩ : ∃ stage,
      (ProcessingStage.create (nBOccPlusDcLut bIdx) psTLength
          nEffTxMaxPrecalc).setConfiguration
          (nBOccPlusDcLut bIdx) psTLength =
        .ok stage ∧
      stage.nTDomain = psTLength ∧ stage.nStage = nEffTxMaxPrecalc :=
    ⟨_, ProcessingStage.setConfiguration_eq (Nat.le_refl _) (Nat.le_refl _),
      rfl, rfl⟩
  refine ⟨⟨stage, stage⟩, ?_, isLength, streams, isLength, streams⟩
  rw [initLut, isStage]
  rfl

theorem initLutXVec_covers
    {bMax b : Nat}
    (bInside : b2bIdx b ≤ b2bIdx bMax)
    (nStepVirtual : Nat) :
    ∃ vec lut,
      initLutXVec nStepVirtual bMax = .ok vec ∧
      vec[b2bIdx b]? = some lut ∧ lut.Covers (nStepVirtual + 1) := by
  obtain ⟨vec, filled⟩ :=
    exists_mapM fun bIdx (_ : bIdx ∈ List.range (b2bIdx bMax + 1)) =>
        (initLut_covers bIdx (nStepVirtual + 1)).imp fun _ => And.left
  obtain ⟨lut, created, isAt⟩ :=
    mapM_getElem? filled
      (List.getElem?_range (show b2bIdx b < b2bIdx bMax + 1 by omega))
  obtain ⟨other, isOther, covers⟩ :=
    initLut_covers (b2bIdx b) (nStepVirtual + 1)
  rw [created] at isOther
  cases isOther
  exact ⟨vec, lut, filled, isAt, covers⟩

/-- There are tables for a bandwidth and a number of streams. -/
structure HasTables
    (channelLut : ChannelLut)
    (b nEffTxMax : Nat) :
    Prop where
  lut0 : ∃ lut, channelLut.lut0Vec[b2bIdx b]? = some lut ∧ lut.Covers 1
  lut5 : ∃ lut, channelLut.lut5Vec[b2bIdx b]? = some lut ∧ lut.Covers 6
  lut10 :
    4 ≤ nEffTxMax →
      ∃ lut, channelLut.lut10Vec[b2bIdx b]? = some lut ∧ lut.Covers 11

theorem create_hasTables
    {bMax b : Nat}
    (bInside : b2bIdx b ≤ b2bIdx bMax)
    (nEffTxMax : Nat) :
    ∃ channelLut,
      create bMax nEffTxMax = .ok channelLut ∧
      channelLut.HasTables b nEffTxMax := by
  obtain ⟨vec0, lut0, is0, at0, covers0⟩ := initLutXVec_covers bInside 0
  obtain ⟨vec5, lut5, is5, at5, covers5⟩ := initLutXVec_covers bInside 5
  obtain ⟨vec10, lut10, is10, at10, covers10⟩ := initLutXVec_covers bInside 10
  by_cases many : 4 ≤ nEffTxMax
  · refine ⟨_, by
        rw [create, is0, is5, if_pos many, is10]
        rfl, ⟨lut0, at0, covers0⟩, ⟨lut5, at5, covers5⟩, fun _ =>
        ⟨lut10, at10, covers10⟩⟩
  · refine ⟨_, by
        rw [create, is0, is5, if_neg many]
        rfl, ⟨lut0, at0, covers0⟩, ⟨lut5, at5, covers5⟩, fun enough =>
        absurd enough many⟩

/-- Slots for which there are channel estimates in a mode. -/
def nofSlots (chestimModeLr : Bool) (nTs : Nat) : Nat :=
  if chestimModeLr then if nTs ≤ 2 then 6 else 11 else 1

/-- The tables are picked for a packet. -/
structure Picked
    (channelLut : ChannelLut)
    (b nTs nEffTxMax : Nat) :
    Prop where
  tables : channelLut.HasTables b nEffTxMax
  bIdx_eq : channelLut.bIdx = b2bIdx b
  nEffTx_eq : channelLut.nEffTx = nTs

theorem setConfigurationPs_spec
    {channelLut : ChannelLut}
    {b nTs nEffTxMax : Nat}
    (nTsValid : nTs ∈ nTsIdx2NTsVec)
    (nTsInside : nTs ≤ nEffTxMax)
    (picked : channelLut.Picked b nTs nEffTxMax)
    (chestimModeLr : Bool)
    (psIdx : Nat) :
    ∃ after,
      channelLut.setConfigurationPs chestimModeLr psIdx = .ok after ∧
      after.Picked b nTs nEffTxMax ∧
      after.effective.Covers (nofSlots chestimModeLr nTs) := by
  have streams := nTs_cases nTsValid
  obtain ⟨⟨⟨lut0, at0, covers0⟩, ⟨lut5, at5, covers5⟩, has10⟩, isB, isTx⟩ :=
    picked
  have entry : ∃ effective, (if chestimModeLr then
      if channelLut.nEffTx ≤ 2 then
        elementAt channelLut.lut5Vec channelLut.bIdx
      else elementAt channelLut.lut10Vec channelLut.bIdx
          else elementAt channelLut.lut0Vec channelLut.bIdx) =
          .ok effective ∧
        effective.Covers (nofSlots chestimModeLr nTs) := by
    unfold nofSlots
    rw [isB, isTx]
    cases chestimModeLr with
    | false => exact ⟨lut0, elementAt_eq_ok at0, covers0⟩
    | true =>
        rw [if_pos rfl, if_pos rfl]
        by_cases few : nTs ≤ 2
        · rw [if_pos few, if_pos few]
          exact ⟨lut5, elementAt_eq_ok at5, covers5⟩
        · obtain ⟨lut10, at10, covers10⟩ := has10 (by omega)
          rw [if_neg few, if_neg few]
          exact ⟨lut10, elementAt_eq_ok at10, covers10⟩
  obtain ⟨effective, isEffective, covers⟩ := entry
  refine
    ⟨{ channelLut with psIdx := psIdx, effective := effective }, ?_,
      ⟨⟨⟨lut0, at0, covers0⟩, ⟨lut5, at5, covers5⟩, has10⟩, isB, isTx⟩,
      covers⟩
  rw [setConfigurationPs, isEffective]
  rfl

/-- A slot of the tables has an entry for each of four streams. -/
theorem getIdxSymb_spec
    {channelLut : ChannelLut}
    {idx : ProcessingStage}
    {ofdmSymbPsIdx : Nat}
    (streams : idx.nStage = nEffTxMaxPrecalc)
    (inside : ofdmSymbPsIdx < idx.nTDomain) :
    ∃ symb,
      channelLut.getIdxSymb idx ofdmSymbPsIdx = .ok symb ∧
      symb.length = 4 := by
  unfold getIdxSymb
  rw [ProcessingStage.getStagePrealloc_eq streams.symm inside,
    ok_bind, streams]
  split
  · exact ⟨_, rfl, rfl⟩
  · exact ⟨_, rfl, rfl⟩

theorem getIdxSymb_eq_error
    {channelLut : ChannelLut}
    {idx : ProcessingStage}
    {ofdmSymbPsIdx : Nat}
    (streams : idx.nStage = nEffTxMaxPrecalc)
    (beyond : idx.nTDomain ≤ ofdmSymbPsIdx) :
    channelLut.getIdxSymb idx ofdmSymbPsIdx =
      .error (.assertion "t_idx too large") := by
  have positive : 0 < idx.nStage := by
    rw [streams]
    decide
  rw [getIdxSymb,
    ProcessingStage.getStagePrealloc_eq_error streams.symm positive beyond]
  rfl

end ChannelLut

namespace SymbolStage

/-- All symbols before `l` have been transformed, each one once. -/
structure Ready
    (symbols : SymbolStage)
    (nStage length l : Nat) :
    Prop where
  nStage_eq : symbols.processingStage.nStage = nStage
  nTDomain_eq : symbols.processingStage.nTDomain = length
  pointers : symbols.ofdmSymbolNow.length = nStage
  nextSymbol_eq : symbols.nextSymbol = l
  collected_eq :
    symbols.collected = (List.range l).map fun symbol => (symbol, symbol)

/-- All antennas have a symbol in a slot. -/
def Holds
    (symbols : SymbolStage)
    (nStage tIdx symbol : Nat) :
    Prop :=
  ∀ slot ∈ ProcessingStage.slots nStage tIdx,
    symbols.symbolAt slot = some symbol

/-- The pointers of all antennas are at a slot. -/
def PointsAt
    (symbols : SymbolStage)
    (nStage tIdx : Nat) :
    Prop :=
  symbols.ofdmSymbolNow = ProcessingStage.slots nStage tIdx

theorem Holds.aligned
    {symbols : SymbolStage}
    {nStage tIdx symbol : Nat}
    (holds : symbols.Holds nStage tIdx symbol)
    (points : symbols.PointsAt nStage tIdx) :
    Access.Aligned (symbol, symbols.now) nStage := by
  unfold Access.Aligned now
  rw [points]
  refine List.eq_replicate_iff.mpr ⟨?_, ?_⟩
  · rw [List.length_map, ProcessingStage.length_slots]
  · intro held member
    obtain ⟨slot, isSlot, rfl⟩ := List.mem_map.mp member
    exact holds slot isSlot

section

variable
  {symbols : SymbolStage}
  {nStage length l ofdmSymbPsIdx : Nat}

/-- The pointers move to a slot, and the slots keep their symbols. -/
theorem getStagePrealloc_spec
    (ready : symbols.Ready nStage length l)
    (inside : ofdmSymbPsIdx < length) :
    ∃ after,
      symbols.getStagePrealloc ofdmSymbPsIdx = .ok after ∧
      after.Ready nStage length l ∧
      after.PointsAt nStage ofdmSymbPsIdx ∧
      ∀ tIdx symbol, symbols.Holds nStage tIdx symbol →
        after.Holds nStage tIdx symbol := by
  obtain ⟨isStage, isLength, pointers, isNext, isCollected⟩ := ready
  have isSlots :=
    ProcessingStage.getStagePrealloc_eq (pointers.trans isStage.symm)
      (inside.trans_eq isLength.symm)
  rw [isStage] at isSlots
  refine ⟨{ symbols with
      ofdmSymbolNow := ProcessingStage.slots nStage ofdmSymbPsIdx },
      ?_, ⟨isStage, isLength, ?_, isNext, isCollected⟩, rfl,
      fun _ _ holds => holds⟩
  · rw [getStagePrealloc, isSlots]
    rfl
  · exact ProcessingStage.length_slots nStage ofdmSymbPsIdx

/-- The next symbol comes into a slot, and the other slots stay the same. -/
theorem runMixResample_spec
    (ready : symbols.Ready nStage length l)
    (inside : ofdmSymbPsIdx < length) :
    ∃ after,
      symbols.runMixResample ofdmSymbPsIdx = .ok after ∧
      (after.runCpFftScale l).Ready nStage length (l + 1) ∧
      (after.runCpFftScale l).PointsAt nStage ofdmSymbPsIdx ∧
      (after.runCpFftScale l).Holds nStage ofdmSymbPsIdx l ∧
      ∀ tIdx, tIdx ≠ ofdmSymbPsIdx → ∀ symbol,
        symbols.Holds nStage tIdx symbol →
          (after.runCpFftScale l).Holds nStage tIdx symbol := by
  obtain ⟨isStage, isLength, pointers, isNext, isCollected⟩ := ready
  have isSlots :=
    ProcessingStage.getStagePrealloc_eq (pointers.trans isStage.symm)
      (inside.trans_eq isLength.symm)
  rw [isStage] at isSlots
  refine ⟨{ symbols with
      mixerStage := symbols.nextSymbol
      nextSymbol := symbols.nextSymbol + 1
      ofdmSymbolNow := ProcessingStage.slots nStage ofdmSymbPsIdx },
      ?_, ⟨isStage, isLength, ?_, ?_, ?_⟩, rfl, ?_, ?_⟩
  · rw [runMixResample, getStagePrealloc]
    dsimp only
    rw [isSlots]
    rfl
  · exact ProcessingStage.length_slots nStage ofdmSymbPsIdx
  · simp only [runCpFftScale, isNext]
  · simp only [runCpFftScale, isNext, isCollected, List.range_succ,
      List.map_append, List.map_cons, List.map_nil]
  · intro slot member
    simp only [runCpFftScale, if_pos member, isNext]
  · intro tIdx other symbol holds slot member
    have elsewhere : slot ∉ ProcessingStage.slots nStage ofdmSymbPsIdx := by
      intro here
      exact other ((ProcessingStage.mem_slots.mp member).2.symm.trans
          (ProcessingStage.mem_slots.mp here).2)
    simp only [runCpFftScale, if_neg elsewhere]
    exact holds slot member

end

end SymbolStage

namespace ChannelEstimator

/-- A symbol has reference signals. -/
def hasDrs (nTs l : Nat) : Bool :=
  (Drs.groupAt nTs l).isSome

/-- Reference cells of all streams in a symbol. -/
def drsCells (b nTs l : Nat) : Nat :=
  if hasDrs nTs l then 14 * b * min nTs 4 else 0

/-- All reference signals before `l` have been used, each symbol once. -/
structure Waits
    (estimator : ChannelEstimator)
    (b nTs nStage nEffTxMax l : Nat) :
    Prop where
  drs : Drs.WaitsFrom estimator.drs b nTs l
  tables : estimator.channelLut.HasTables b nEffTxMax
  nEffTxMax_eq : estimator.nEffTxMax = nEffTxMax
  drsIdx_eq :
    estimator.drsIdx = ((List.range' 1 (l - 1)).map (drsCells b nTs)).sum
  estimated_eq :
    estimator.estimated.map Prod.fst =
      (List.range' 1 (l - 1)).filter (hasDrs nTs)
  estimatedAligned : ∀ access ∈ estimator.estimated, access.Aligned nStage
  interpolatedAligned : ∀ access ∈ estimator.interpolated, access.Aligned nStage
  /-- After the first symbol, tables and streams are known. -/
  picked :
    1 < l →
      estimator.tsIdxLast < nTs ∧
      (nTs ≠ 8 →
        estimator.tsIdxFirst = 0 ∧ estimator.tsIdxLast = nTs - 1) ∧
      ∃ channelLut,
        estimator.channelLutEffective = some channelLut ∧
        channelLut.Picked b nTs nEffTxMax

theorem hasDrs_one (nTs : Nat) : hasDrs nTs 1 = true := by
  simp [hasDrs, Drs.groupAt]

section

variable
  {estimator : ChannelEstimator}
  {syncReport : SyncReport}
  {nStage nEffTxMax l : Nat}

/-- Nothing changes at a symbol without reference signals. -/
theorem Waits.skip
    (nTsValid : syncReport.nEffTx ∈ nTsIdx2NTsVec)
    (waits : estimator.Waits syncReport.b syncReport.nEffTx nStage nEffTxMax l)
    (positive : 1 ≤ l)
    (idle : hasDrs syncReport.nEffTx l = false) :
    estimator.Waits syncReport.b syncReport.nEffTx nStage nEffTxMax (l + 1) := by
  have later : 1 < l := by
    refine Nat.lt_of_le_of_ne positive ?_
    rintro rfl
    rw [hasDrs_one] at idle
    cases idle
  have symbols := symbolsUpTo_eq positive
  have noCells : drsCells syncReport.b syncReport.nEffTx l = 0 := by
    rw [drsCells, idle]
    rfl
  refine
    { waits with
      drs :=
        waits.drs.skip nTsValid
          (Option.not_isSome_iff_eq_none.mp (Bool.eq_false_iff.mp idle))
      drsIdx_eq := ?_
      estimated_eq := ?_
      picked := fun _ => waits.picked later }
  · rw [waits.drsIdx_eq, Nat.add_sub_cancel, symbols, List.map_append,
      List.sum_append, List.map_singleton, List.sum_singleton, noCells,
      Nat.add_zero]
  · rw [waits.estimated_eq, Nat.add_sub_cancel, symbols,
      List.filter_append, List.filter_singleton, idle]
    exact (List.append_nil _).symm

/-- A symbol with reference signals is used where the assertions expect it. -/
theorem runDrsChestimZf_spec
    (nTsValid : syncReport.nEffTx ∈ nTsIdx2NTsVec)
    (nTsInside : syncReport.nEffTx ≤ nEffTxMax)
    (waits : estimator.Waits syncReport.b syncReport.nEffTx nStage nEffTxMax l)
    (positive : 1 ≤ l)
    (isDrs : hasDrs syncReport.nEffTx l = true)
    {chestimModeLr : Bool}
    {ofdmSymbPsIdx : Nat}
    (expected :
      chestimModeLr = true ∨ ofdmSymbPsIdx = 0 ∨
        4 < syncReport.nEffTx ∧ ofdmSymbPsIdx ≤ 1)
    {now : List (Option Nat)}
    (aligned : Access.Aligned (l, now) nStage) :
    ∃ after,
      estimator.runDrsChestimZf syncReport chestimModeLr ofdmSymbPsIdx l now =
        .ok after ∧
      after.Waits syncReport.b syncReport.nEffTx nStage nEffTxMax (l + 1) := by
  have streams := nTs_cases nTsValid
  obtain ⟨⟨group, n⟩, occurrence⟩ := Option.isSome_iff_exists.mp isDrs
  have groupValid := ((Drs.groupAt_eq_some nTsValid).mp occurrence).1
  obtain ⟨first, last, next, cells⟩ := waits.drs.advance nTsValid occurrence
  have symbols := symbolsUpTo_eq positive
  have firstAssertion : (!(!chestimModeLr && decide (syncReport.nEffTx ≤ 4) &&
      ofdmSymbPsIdx != 0)) = true := by
    rcases expected with isLr | isZero | ⟨many, -⟩
    · rw [isLr]
      rfl
    · rw [isZero]
      simp
    · rw [decide_eq_false (Nat.not_le_of_lt many)]
      simp
  have secondAssertion : (!(!chestimModeLr && decide (4 < syncReport.nEffTx) &&
      decide (1 < ofdmSymbPsIdx))) = true := by
    rcases expected with isLr | isZero | ⟨-, early⟩
    · rw [isLr]
      rfl
    · rw [isZero]
      simp
    · rw [decide_eq_false (Nat.not_lt_of_le early)]
      simp
  have loaded : (List.range' estimator.drs.getTsIdxFirst
      (estimator.drs.getTsIdxLastAndAdvance.1 + 1 -
        estimator.drs.getTsIdxFirst)).forM estimator.chestimOf =
        .ok () := by
    refine Checked.forM_eq_ok.mpr ?_
    intro tsIdx member
    rw [List.mem_range'_1] at member
    rw [chestimOf, waits.nEffTxMax_eq, if_pos (by omega)]
    rfl
  have count : estimator.drs.getTsIdxLastAndAdvance.1 + 1 -
      estimator.drs.getTsIdxFirst = min syncReport.nEffTx 4 := by
    omega
  refine ⟨{ estimator with
      drs := estimator.drs.getTsIdxLastAndAdvance.2
      drsIdx :=
        estimator.drsIdx + (estimator.drs.getKI.getD 0 []).length *
            (estimator.drs.getTsIdxLastAndAdvance.1 + 1 -
              estimator.drs.getTsIdxFirst)
      tsIdxFirst := estimator.drs.getTsIdxFirst
      tsIdxLast := estimator.drs.getTsIdxLastAndAdvance.1
      estimated :=
        estimator.estimated ++ [(l, now)] }.runDrsChannelLutPick syncReport,
      ?_, next, waits.tables, waits.nEffTxMax_eq, ?_, ?_, ?_,
      waits.interpolatedAligned, ?_⟩
  · rw [runDrsChestimZf, firstAssertion, secondAssertion,
      dectnrpAssert_true, ok_bind, ok_bind]
    dsimp only
    rw [loaded]
    rfl
  · dsimp only [runDrsChannelLutPick]
    rw [count, cells, waits.drsIdx_eq, Nat.add_sub_cancel, symbols,
      List.map_append, List.sum_append, List.map_singleton,
      List.sum_singleton, drsCells, if_pos isDrs]
  · dsimp only [runDrsChannelLutPick]
    rw [List.map_append, waits.estimated_eq, Nat.add_sub_cancel, symbols,
      List.filter_append, List.filter_singleton, isDrs]
    rfl
  · intro access member
    rcases List.mem_append.mp member with earlier | new
    · exact waits.estimatedAligned access earlier
    · rw [List.mem_singleton.mp new]
      exact aligned
  · intro _
    dsimp only [runDrsChannelLutPick]
    refine ⟨by omega, fun _ => by omega, _, rfl, ?_, rfl, rfl⟩
    exact ⟨waits.tables.lut0, waits.tables.lut5, waits.tables.lut10⟩

/-- Channel estimates are interpolated for the slots that the tables have. -/
theorem runDrsChInterpolation_spec
    (nTsValid : syncReport.nEffTx ∈ nTsIdx2NTsVec)
    (nTsInside : syncReport.nEffTx ≤ nEffTxMax)
    (waits : estimator.Waits syncReport.b syncReport.nEffTx nStage nEffTxMax l)
    (later : 1 < l)
    {chestimModeLr : Bool}
    {ofdmSymbPsIdx symbol : Nat}
    (inside :
      ofdmSymbPsIdx < ChannelLut.nofSlots chestimModeLr syncReport.nEffTx)
    {now : List (Option Nat)}
    (aligned : Access.Aligned (symbol, now) nStage)
    (psIdx : Nat) :
    ∃ after,
      estimator.runDrsChInterpolation chestimModeLr psIdx ofdmSymbPsIdx
          symbol now =
        .ok after ∧
      after.Waits syncReport.b syncReport.nEffTx nStage nEffTxMax l := by
  obtain ⟨lastInside, isLast, channelLut, isLut, picked⟩ := waits.picked later
  obtain ⟨configured, isConfigured, stillPicked, covers⟩ :=
    ChannelLut.setConfigurationPs_spec nTsValid nTsInside picked
      chestimModeLr psIdx
  obtain ⟨idxPilot, isPilot, fourPilots⟩ :=
    @ChannelLut.getIdxSymb_spec configured _ _
      covers.pilotStreams (inside.trans_eq covers.pilot.symm)
  obtain ⟨idxWeights, isWeights, fourWeights⟩ :=
    @ChannelLut.getIdxSymb_spec configured _ _
      covers.weightsStreams (inside.trans_eq covers.weights.symm)
  have present : ∀ idx : List (Nat × Nat), idx.length = 4 → ∀ tsIdx,
      ∃ element, elementAt idx (tsIdx % 4) = .ok element := by
    intro idx four tsIdx
    exact ⟨_, elementAt_eq_ok
        (List.getElem?_eq_getElem (show tsIdx % 4 < idx.length by omega))⟩
  have loaded :
      (List.range' (if chestimModeLr then 0 else estimator.tsIdxFirst)
          (estimator.tsIdxLast + 1 -
            if chestimModeLr then 0 else estimator.tsIdxFirst)).forM
          (fun tsIdx => do
            let _ ← elementAt idxPilot (tsIdx % 4)
            let _ ← elementAt idxWeights (tsIdx % 4)
            estimator.chestimOf tsIdx) =
        .ok () := by
    refine Checked.forM_eq_ok.mpr ?_
    intro tsIdx member
    rw [List.mem_range'_1] at member
    obtain ⟨pilot, isElement⟩ := present idxPilot fourPilots tsIdx
    obtain ⟨weights, isOther⟩ := present idxWeights fourWeights tsIdx
    rw [isElement, ok_bind, isOther, ok_bind, chestimOf,
      waits.nEffTxMax_eq, if_pos (by omega)]
    rfl
  refine ⟨{ estimator with
      channelLutEffective := some configured
      interpolated := estimator.interpolated ++ [(symbol, now)] },
      ?_,
      { waits with
        interpolatedAligned := ?_
        picked := fun _ =>
          ⟨lastInside, isLast, configured, rfl, stillPicked⟩ }⟩
  · unfold runDrsChInterpolation
    rw [isLut]
    dsimp only
    rw [isConfigured, ok_bind, ChannelLut.getIdxPilotSymb, isPilot,
      ok_bind, ChannelLut.getIdxWeightsSymb, isWeights,
      ok_bind, loaded]
    rfl
  · intro access member
    rcases List.mem_append.mp member with earlier | new
    · exact waits.interpolatedAligned access earlier
    · rw [List.mem_singleton.mp new]
      exact aligned

/-- Without estimates to the right, the tables have a single slot. -/
theorem runDrsChInterpolation_eq_error
    (nTsValid : syncReport.nEffTx ∈ nTsIdx2NTsVec)
    (nTsInside : syncReport.nEffTx ≤ nEffTxMax)
    (waits : estimator.Waits syncReport.b syncReport.nEffTx nStage nEffTxMax l)
    (later : 1 < l)
    {ofdmSymbPsIdx : Nat}
    (beyond : 1 ≤ ofdmSymbPsIdx)
    (psIdx symbol : Nat)
    (now : List (Option Nat)) :
    estimator.runDrsChInterpolation false psIdx ofdmSymbPsIdx symbol now =
      .error (.assertion "t_idx too large") := by
  obtain ⟨-, -, channelLut, isLut, picked⟩ := waits.picked later
  obtain ⟨configured, isConfigured, -, covers⟩ :=
    ChannelLut.setConfigurationPs_spec nTsValid nTsInside picked false psIdx
  have isPilot :=
    @ChannelLut.getIdxSymb_eq_error configured _ _
      covers.pilotStreams (covers.pilot.trans_le beyond)
  unfold runDrsChInterpolation
  rw [isLut]
  dsimp only
  rw [isConfigured, ok_bind, ChannelLut.getIdxPilotSymb, isPilot]
  rfl

end

end ChannelEstimator

end RxSynced

end DectNrp
