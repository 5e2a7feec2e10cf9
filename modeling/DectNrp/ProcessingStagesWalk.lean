import DectNrp.ProcessingStagesSpec

namespace DectNrp

open ColumnTables
open Phyres
open VirtualFrame

/-!
# The walk over the symbols of a packet

Each of the loops of the receiver goes on with the symbol behind the ones that
have been transformed.  Slots of the stage hold the symbols counted from its
first one, and data cells are demapped in the order of the symbols.
-/

open Drs (getNStep)
open Checked (bind_eq_ok ok_bind)

namespace Pcc

/-- The search for a symbol, when its cells are known. -/
theorem isSymbolIndex_of_runSymbol
    {pcc after : Pcc}
    {l : Nat}
    {cells : List Nat}
    (returned : pcc.runSymbol l = .ok (cells, after)) :
    ∃ found,
      pcc.isSymbolIndex l = .ok (found, after) ∧
      if found then after.getKIOneSymbol = .ok cells else cells = [] := by
  obtain ⟨⟨found, next⟩, isFound, returned⟩ := bind_eq_ok.mp returned
  dsimp only at returned
  cases found with
  | false =>
      cases returned
      exact ⟨false, isFound, rfl⟩
  | true =>
      obtain ⟨kI, isKI, returned⟩ := bind_eq_ok.mp returned
      cases returned
      exact ⟨true, isFound, isKI⟩

variable {pccLinear : List Nat}

theorem length_columnOf_dvd
    {b nTs : Nat}
    (allocation : Allocation b nTs pccLinear)
    (l : Nat) :
    14 ∣ (columnOf b l pccLinear).length := by
  rw [length_columnOf]
  exact allocation.allocated.columns l

/-- No cell of the control channel is behind its last symbol. -/
theorem symbol_le_nofSymbols
    {b nTs cell : Nat}
    (bValid : b ∈ bIdx2bLut)
    (nTsValid : nTs ∈ nTsIdx2NTsVec)
    (allocation : Allocation b nTs pccLinear)
    (member : cell ∈ pccLinear) :
    cell / (64 * b) ≤ nofSymbols b nTs := by
  by_contra beyond
  have needed := allocation.allocated.needed cell member
  have full := (freeBefore_nofSymbols bValid nTsValid).2.2
  exact absurd (full.trans (freeBefore_mono (Nat.lt_of_not_le beyond)))
      (Nat.not_le_of_lt needed)

end Pcc

namespace RxSynced

open HeaderAdmission

namespace StageReceiver

section

variable
  {syncReport : SyncReport}
  {q : Sp3.PacketSizes}
  {pccLinear : List Nat}
  {nStage length nEffTxMax l : Nat}
  {rx : StageReceiver}

/-- All symbols before `l` have been transformed, estimated and counted. -/
structure Walked
    (rx : StageReceiver)
    (syncReport : SyncReport)
    (nStage length nEffTxMax l : Nat) :
    Prop where
  symbols : rx.symbols.Ready nStage length l
  estimator :
    rx.estimator.Waits syncReport.b syncReport.nEffTx nStage nEffTxMax l
  ofdmSymbIdx_eq : rx.ofdmSymbIdx = l
  nStep_eq : rx.nStep = getNStep syncReport.nEffTx

/-- The next symbol comes into its slot, and is used for channel estimates. -/
theorem collectSymbol_spec
    (nTsValid : syncReport.nEffTx ∈ nTsIdx2NTsVec)
    (nTsInside : syncReport.nEffTx ≤ nEffTxMax)
    (walked : rx.Walked syncReport nStage length nEffTxMax l)
    (positive : 1 ≤ l)
    (inside : rx.ofdmSymbPsIdx < length)
    (expected :
      rx.chestimModeLr = true ∨
        (ChannelEstimator.hasDrs syncReport.nEffTx l = true →
          rx.ofdmSymbPsIdx = 0)) :
    ∃ symbols estimator,
      rx.collectSymbol syncReport =
        .ok { rx with symbols := symbols, estimator := estimator } ∧
      symbols.Ready nStage length (l + 1) ∧
      estimator.Waits syncReport.b syncReport.nEffTx nStage nEffTxMax (l + 1) ∧
      symbols.PointsAt nStage rx.ofdmSymbPsIdx ∧
      symbols.Holds nStage rx.ofdmSymbPsIdx l ∧
      ∀ tIdx, tIdx ≠ rx.ofdmSymbPsIdx → ∀ symbol,
        rx.symbols.Holds nStage tIdx symbol →
          symbols.Holds nStage tIdx symbol := by
  obtain ⟨resampled, isResampled, ready, points, holds, others⟩ :=
    SymbolStage.runMixResample_spec walked.symbols inside
  have received :
      rx.runMixResample = .ok { rx with symbols := resampled } := by
    rw [runMixResample, isResampled]
    rfl
  have search := walked.estimator.drs.isSymbolIndex_eq
  have isIdx := walked.ofdmSymbIdx_eq
  rw [collectSymbol, received, ok_bind]
  dsimp only [runCpFftScale]
  rw [isIdx, search]
  cases isDrs : ChannelEstimator.hasDrs syncReport.nEffTx l with
  | false =>
      rw [ChannelEstimator.hasDrs] at isDrs
      rw [isDrs, if_neg Bool.false_ne_true]
      refine ⟨_, rx.estimator, rfl, ready, ?_, points, holds, others⟩
      exact walked.estimator.skip nTsValid positive isDrs
  | true =>
      obtain ⟨estimated, isEstimated, next⟩ :=
        ChannelEstimator.runDrsChestimZf_spec nTsValid nTsInside
          walked.estimator positive isDrs
          (show rx.chestimModeLr = true ∨ rx.ofdmSymbPsIdx = 0 ∨
              4 < syncReport.nEffTx ∧ rx.ofdmSymbPsIdx ≤ 1 from
            expected.imp_right fun early => .inl (early isDrs))
          (holds.aligned points)
      have isDrs' := isDrs
      rw [ChannelEstimator.hasDrs] at isDrs'
      rw [isDrs', if_pos rfl, runDrsChestimZf]
      dsimp only
      rw [isIdx, isEstimated, ok_bind, Checked.pure_eq_ok, ok_bind]
      cases mode : rx.chestimModeLr with
      | true => exact ⟨_, estimated, rfl, ready, next, points, holds, others⟩
      | false =>
          have early : rx.ofdmSymbPsIdx = 0 := by
            rcases expected with isLr | early
            · rw [mode] at isLr
              cases isLr
            · exact early isDrs
          obtain ⟨interpolated, isInterpolated, after⟩ :=
            ChannelEstimator.runDrsChInterpolation_spec nTsValid nTsInside
              next (by omega)
              (show rx.ofdmSymbPsIdx <
                  ChannelLut.nofSlots false syncReport.nEffTx by
                rw [early]
                exact Nat.one_pos)
              (holds.aligned points) rx.psIdx
          dsimp only
          rw [if_neg Bool.false_ne_true, runDrsChInterpolation]
          dsimp only
          rw [isIdx, isInterpolated]
          exact ⟨_, interpolated, rfl, ready, after, points, holds, others⟩

/-- A symbol has data cells. -/
def hasPdc
    (b nTs : Nat)
    (pccLinear : List Nat)
    (l : Nat) :
    Bool :=
  !(Pdc.rowAt b nTs pccLinear l).isEmpty

/-- All data cells before `l` are demapped, in the order of their symbols. -/
structure Demapped
    (syncReport : SyncReport)
    (q : Sp3.PacketSizes)
    (pccLinear : List Nat)
    (nStage : Nat)
    (base : PdcReceiver)
    (demapped : List Access)
    (l : Nat) :
    Prop where
  collected :
    PdcReceiver.Collected syncReport q pccLinear base
      (Tx.nofCells syncReport.b syncReport.nEffTx pccLinear 1 (l - 1))
  demapped_eq :
    demapped.map Prod.fst =
      (List.range' 1 (l - 1)).filter
        (hasPdc syncReport.b syncReport.nEffTx pccLinear)
  aligned : ∀ access ∈ demapped, access.Aligned nStage

/-- Data cells of the next symbol are demapped if the pointers are at it. -/
theorem collectPdc_spec
    (packet : PdcReceiver.SingleStream syncReport q pccLinear)
    (demapped :
      Demapped syncReport q pccLinear nStage rx.toPdcReceiver rx.demapped l)
    (positive : 1 ≤ l)
    (aligned :
      hasPdc syncReport.b syncReport.nEffTx pccLinear l = true →
        Access.Aligned (l, rx.symbols.now) nStage) :
    ∃ base accesses,
      rx.collectPdc syncReport q l =
        .ok { rx with toPdcReceiver := base, demapped := accesses } ∧
      Demapped syncReport q pccLinear nStage base accesses (l + 1) ∧
      base.psIdx = rx.psIdx ∧ base.ofdmSymbIdx = rx.ofdmSymbIdx := by
  obtain ⟨pdc, isRun, -⟩ :=
    Pdc.runSymbol_spec packet.b_mem packet.nEffTx_mem packet.allocation
      demapped.collected.table positive
  obtain ⟨isFound, isKI⟩ := Pdc.isSymbolIndex_of_runSymbol isRun
  obtain ⟨base, isBase, collected, samePs, sameSymb⟩ :=
    PdcReceiver.collectSymbol_spec packet demapped.collected positive
  have symbols := symbolsUpTo_eq positive
  have cells :
      Tx.nofCells syncReport.b syncReport.nEffTx pccLinear 1 (l + 1 - 1) =
        Tx.nofCells syncReport.b syncReport.nEffTx pccLinear 1 (l - 1) +
          (Pdc.rowAt syncReport.b syncReport.nEffTx pccLinear l).length := by
    rw [Nat.add_sub_cancel]
    unfold Tx.nofCells
    rw [symbols, List.map_append, List.sum_append, List.map_singleton,
      List.sum_singleton]
  rw [← cells] at collected
  rw [PdcReceiver.collectSymbol, isFound, ok_bind] at isBase
  rw [collectPdc, isFound, ok_bind]
  dsimp only at isBase ⊢
  cases has : hasPdc syncReport.b syncReport.nEffTx pccLinear l with
  | false =>
      rw [hasPdc] at has
      rw [has, if_neg Bool.false_ne_true, Checked.pure_eq_ok] at isBase
      rw [has, if_neg Bool.false_ne_true]
      cases isBase
      refine ⟨_, rx.demapped, rfl, ⟨collected, ?_, demapped.aligned⟩, samePs,
          sameSymb⟩
      rw [demapped.demapped_eq, Nat.add_sub_cancel, symbols,
        List.filter_append, List.filter_singleton, hasPdc, has]
      exact (List.append_nil _).symm
  | true =>
      have isAligned := aligned has
      rw [hasPdc] at has
      rw [has, if_pos rfl] at isBase
      obtain ⟨kIOneSymbol, isRead, isBase⟩ := bind_eq_ok.mp isBase
      rw [has, if_pos rfl, runPdc]
      dsimp only
      rw [isRead, ok_bind, isBase]
      refine ⟨base, _, rfl, ⟨collected, ?_, ?_⟩, samePs, sameSymb⟩
      · rw [List.map_append, demapped.demapped_eq, Nat.add_sub_cancel,
          symbols, List.filter_append, List.filter_singleton, hasPdc, has]
        rfl
      · intro access member
        rcases List.mem_append.mp member with earlier | new
        · exact demapped.aligned access earlier
        · rw [List.mem_singleton.mp new]
          exact isAligned

theorem collectPcc_spec
    (allocation : Pcc.Allocation syncReport.b syncReport.nEffTx pccLinear)
    (isIdx : rx.ofdmSymbIdx = l)
    (waits : Pcc.WaitsFrom rx.pcc syncReport.b pccLinear l) :
    ∃ pcc,
      rx.collectPcc syncReport =
        .ok
          { rx with
            pcc := pcc
            pccIdx :=
              rx.pccIdx + (columnOf syncReport.b l pccLinear).length } ∧
      Pcc.WaitsFrom pcc syncReport.b pccLinear (l + 1) := by
  obtain ⟨pcc, isRun, next⟩ := Pcc.runSymbol_spec waits
  obtain ⟨found, isFound, isKI⟩ := Pcc.isSymbolIndex_of_runSymbol isRun
  refine ⟨pcc, ?_, next⟩
  rw [collectPcc, isIdx, isFound, ok_bind]
  dsimp only
  cases found with
  | false =>
      rw [if_neg Bool.false_ne_true] at isKI ⊢
      rw [isKI]
      rfl
  | true =>
      rw [if_pos rfl] at isKI ⊢
      have fourteen := Pcc.length_columnOf_dvd allocation l
      have even : (columnOf syncReport.b l pccLinear).length % 2 = 0 := by
        omega
      rw [runPccCollectionAndDemapping]
      dsimp only
      rw [isKI, ok_bind, even]
      split <;> rfl

/-- Other counters of the receiver do not matter for the data channel. -/
theorem Demapped.congr
    {base other : PdcReceiver}
    {accesses : List Access}
    (demapped : Demapped syncReport q pccLinear nStage base accesses l)
    (samePdc : other.pdc = base.pdc)
    (sameSubc : other.pdcSubcIdx = base.pdcSubcIdx)
    (sameBits : other.pdcBitsIdx = base.pdcBitsIdx) :
    Demapped syncReport q pccLinear nStage other accesses l := by
  obtain ⟨⟨table, subc, bits⟩, isDemapped, aligned⟩ := demapped
  refine ⟨⟨?_, ?_, ?_⟩, isDemapped, aligned⟩
  · rw [samePdc]
    exact table
  · rw [sameSubc]
    exact subc
  · rw [sameBits]
    exact bits

/-- The symbols before `l` are in the first slots, and no data is demapped. -/
structure InPcc
    (rx : StageReceiver)
    (syncReport : SyncReport)
    (q : Sp3.PacketSizes)
    (pccLinear : List Nat)
    (nStage length nEffTxMax l : Nat) :
    Prop where
  walked : rx.Walked syncReport nStage length nEffTxMax l
  mode : rx.chestimModeLr = false
  psIdx_eq : rx.psIdx = 0
  ofdmSymbPsIdx_eq : rx.ofdmSymbPsIdx + 1 = l
  slots : ∀ tIdx < rx.ofdmSymbPsIdx, rx.symbols.Holds nStage tIdx (tIdx + 1)
  points :
    ∀ tIdx, rx.ofdmSymbPsIdx = tIdx + 1 → rx.symbols.PointsAt nStage tIdx
  pcc : Pcc.WaitsFrom rx.pcc syncReport.b pccLinear l
  pccIdx_eq :
    rx.pccIdx =
      ((List.range' 1 (l - 1)).map fun symbol =>
        (columnOf syncReport.b symbol pccLinear).length).sum
  demapped : Demapped syncReport q pccLinear nStage rx.toPdcReceiver rx.demapped 1

/-- One more symbol of the control channel. -/
theorem collectPccSymbol_spec
    (nTsValid : syncReport.nEffTx ∈ nTsIdx2NTsVec)
    (nTsInside : syncReport.nEffTx ≤ nEffTxMax)
    (allocation : Pcc.Allocation syncReport.b syncReport.nEffTx pccLinear)
    (inPcc : rx.InPcc syncReport q pccLinear nStage length nEffTxMax l)
    (idle : 1 < l → ChannelEstimator.hasDrs syncReport.nEffTx l = false)
    (fits : l ≤ length) :
    ∃ collected after,
      rx.collectSymbol syncReport = .ok collected ∧
      collected.collectPcc syncReport = .ok after ∧
      { after with
        ofdmSymbPsIdx := after.ofdmSymbPsIdx + 1
        ofdmSymbIdx := after.ofdmSymbIdx + 1 }.InPcc syncReport q pccLinear
          nStage length nEffTxMax (l + 1) := by
  obtain ⟨walked, mode, isFirst, isSlot, slots, -, pcc, pccIdx, demapped⟩ :=
    inPcc
  have positive : 1 ≤ l := by omega
  obtain ⟨symbols, estimator, isCollected, ready, waits, points, holds,
    others⟩ :=
    collectSymbol_spec nTsValid nTsInside walked positive (by omega)
      (.inr fun isDrs => by
        by_contra late
        rw [idle (by omega)] at isDrs
        cases isDrs)
  obtain ⟨next, isNext, pccWaits⟩ :=
    @collectPcc_spec _ _ _
      { rx with symbols := symbols, estimator := estimator } allocation
      walked.ofdmSymbIdx_eq pcc
  refine ⟨_, _, isCollected, isNext,
      ⟨ready, waits, congrArg (· + 1) walked.ofdmSymbIdx_eq, walked.nStep_eq⟩,
      mode, isFirst, congrArg (· + 1) isSlot, ?_, ?_, pccWaits, ?_,
      demapped.congr rfl rfl rfl⟩
  · intro tIdx before
    rcases Nat.lt_succ_iff_lt_or_eq.mp before with earlier | isLast
    · exact others tIdx (Nat.ne_of_lt earlier) _ (slots tIdx earlier)
    · rw [isLast, isSlot]
      exact holds
  · intro tIdx isLast
    have same : rx.ofdmSymbPsIdx = tIdx := Nat.succ.inj isLast
    rw [← same]
    exact points
  · dsimp only
    rw [pccIdx, Nat.add_sub_cancel, symbolsUpTo_eq positive, List.map_append,
      List.sum_append, List.map_singleton, List.sum_singleton]

/-- All symbols of the control channel. -/
theorem collectPccSymbols_spec
    (nTsValid : syncReport.nEffTx ∈ nTsIdx2NTsVec)
    (nTsInside : syncReport.nEffTx ≤ nEffTxMax)
    (allocation : Pcc.Allocation syncReport.b syncReport.nEffTx pccLinear)
    (inPcc : rx.InPcc syncReport q pccLinear nStage length nEffTxMax l)
    (count : Nat)
    (idle :
      ∀ symbol, 1 < symbol → symbol < l + count →
        ChannelEstimator.hasDrs syncReport.nEffTx symbol = false)
    (fits : l + count ≤ length + 1) :
    ∃ after,
      rx.collectPccSymbols syncReport count = .ok after ∧
      after.InPcc syncReport q pccLinear nStage length nEffTxMax
        (l + count) := by
  induction count generalizing rx l with
  | zero => exact ⟨rx, rfl, inPcc⟩
  | succ count hypothesis =>
      obtain ⟨collected, next, isCollected, isNext, nextInPcc⟩ :=
        collectPccSymbol_spec nTsValid nTsInside allocation inPcc
          (fun late => idle l late (by omega)) (by omega)
      obtain ⟨after, isAfter, all⟩ :=
        hypothesis nextInPcc
          (fun symbol late before => idle symbol late (by omega)) (by omega)
      rw [Nat.add_assoc, Nat.add_comm 1 count] at all
      refine ⟨after, ?_, all⟩
      rw [collectPccSymbols, isCollected, ok_bind, isNext, ok_bind]
      exact isAfter

/-- What the loops over the symbols of a stage leave as it is. -/
structure Kept (rx after : StageReceiver) : Prop where
  psIdx_eq : after.psIdx = rx.psIdx
  pccIdx_eq : after.pccIdx = rx.pccIdx

/-- From a slot on, the stage that begins at a symbol holds those before `l`. -/
structure InStage
    (rx : StageReceiver)
    (syncReport : SyncReport)
    (nStage length nEffTxMax firstIdx relativeStart l : Nat) :
    Prop where
  walked : rx.Walked syncReport nStage length nEffTxMax l
  mode : rx.chestimModeLr = true
  slots :
    ∀ tIdx, relativeStart ≤ tIdx → firstIdx + tIdx < l →
      rx.symbols.Holds nStage tIdx (firstIdx + tIdx)

theorem collectStageSymbols_spec
    {firstIdx relativeStart untilIdx : Nat}
    (nTsValid : syncReport.nEffTx ∈ nTsIdx2NTsVec)
    (nTsInside : syncReport.nEffTx ≤ nEffTxMax)
    (inStage :
      rx.InStage syncReport nStage length nEffTxMax firstIdx relativeStart l)
    (positive : 1 ≤ firstIdx)
    (isSlot : firstIdx + rx.ofdmSymbPsIdx = l)
    (demapped :
      Demapped syncReport q pccLinear nStage rx.toPdcReceiver rx.demapped untilIdx)
    (count : Nat)
    (fits : rx.ofdmSymbPsIdx + count ≤ length) :
    ∃ after,
      rx.collectStageSymbols syncReport count = .ok after ∧
      after.InStage syncReport nStage length nEffTxMax firstIdx relativeStart
        (l + count) ∧
      Demapped syncReport q pccLinear nStage after.toPdcReceiver after.demapped
        untilIdx ∧
      Kept rx after := by
  induction count generalizing rx l with
  | zero => exact ⟨rx, rfl, inStage, demapped, rfl, rfl⟩
  | succ count hypothesis =>
      obtain ⟨walked, mode, slots⟩ := inStage
      obtain ⟨symbols, estimator, isCollected, ready, waits, points, holds,
        others⟩ :=
        collectSymbol_spec nTsValid nTsInside walked (by omega) (by omega)
          (.inl mode)
      have nextSlots : ∀ tIdx, relativeStart ≤ tIdx → firstIdx + tIdx < l + 1 →
          symbols.Holds nStage tIdx (firstIdx + tIdx) := by
        intro tIdx begun before
        by_cases isLast : tIdx = rx.ofdmSymbPsIdx
        · rw [isLast, isSlot]
          exact holds
        · exact others tIdx isLast _ (slots tIdx begun (by omega))
      obtain ⟨after, isAfter, isStage, allDemapped, kept⟩ :=
        @hypothesis (l + 1)
          { rx with
            symbols := symbols
            estimator := estimator
            ofdmSymbPsIdx := rx.ofdmSymbPsIdx + 1
            ofdmSymbIdx := rx.ofdmSymbIdx + 1 }
          ⟨⟨ready, waits, congrArg (· + 1) walked.ofdmSymbIdx_eq,
            walked.nStep_eq⟩, mode, nextSlots⟩
          (congrArg (· + 1) isSlot) (demapped.congr rfl rfl rfl)
          (by
            dsimp only
            omega)
      rw [Nat.add_assoc, Nat.add_comm 1 count] at isStage
      refine ⟨after, ?_, isStage, allDemapped, kept.psIdx_eq, kept.pccIdx_eq⟩
      rw [collectStageSymbols, isCollected, ok_bind]
      exact isAfter

theorem collectStagePdc_spec
    {firstIdx relativeStart : Nat}
    (packet : PdcReceiver.SingleStream syncReport q pccLinear)
    (nTsInside : syncReport.nEffTx ≤ nEffTxMax)
    (inStage :
      rx.InStage syncReport nStage length nEffTxMax firstIdx relativeStart l)
    (positive : 1 ≤ firstIdx)
    (begun : relativeStart ≤ rx.ofdmSymbPsIdx)
    (demapped :
      Demapped syncReport q pccLinear nStage rx.toPdcReceiver rx.demapped
        (firstIdx + rx.ofdmSymbPsIdx))
    (chestimModeLrTStride count : Nat)
    (complete : firstIdx + rx.ofdmSymbPsIdx + count ≤ l)
    (fits : rx.ofdmSymbPsIdx + count ≤ length)
    (hasTables :
      rx.ofdmSymbPsIdx + count ≤ ChannelLut.nofSlots true syncReport.nEffTx) :
    ∃ after,
      rx.collectStagePdc syncReport q chestimModeLrTStride firstIdx
          relativeStart count =
        .ok after ∧
      after.InStage syncReport nStage length nEffTxMax firstIdx relativeStart
        l ∧
      Demapped syncReport q pccLinear nStage after.toPdcReceiver after.demapped
        (firstIdx + rx.ofdmSymbPsIdx + count) ∧
      Kept rx after := by
  induction count generalizing rx with
  | zero => exact ⟨rx, rfl, inStage, demapped, rfl, rfl⟩
  | succ count hypothesis =>
      obtain ⟨⟨ready, waits, isIdx, isStep⟩, mode, slots⟩ := inStage
      obtain ⟨symbols, isMoved, nextReady, points, still⟩ :=
        SymbolStage.getStagePrealloc_spec ready
          (show rx.ofdmSymbPsIdx < length by omega)
      have holds :=
        still rx.ofdmSymbPsIdx _ (slots rx.ofdmSymbPsIdx begun (by omega))
      have aligned := holds.aligned points
      have interpolation : ∃ estimator,
          (if (rx.ofdmSymbPsIdx - relativeStart) % chestimModeLrTStride =
              0 then
              { rx with symbols := symbols }.runDrsChInterpolation
                (firstIdx + rx.ofdmSymbPsIdx)
            else pure { rx with symbols := symbols }) =
            .ok { rx with symbols := symbols, estimator := estimator } ∧
          estimator.Waits syncReport.b syncReport.nEffTx nStage nEffTxMax l := by
        by_cases due :
            (rx.ofdmSymbPsIdx - relativeStart) % chestimModeLrTStride = 0
        · obtain ⟨estimator, isInterpolated, after⟩ :=
            ChannelEstimator.runDrsChInterpolation_spec packet.nEffTx_mem
              nTsInside waits (by omega)
              (show rx.ofdmSymbPsIdx <
                  ChannelLut.nofSlots true syncReport.nEffTx by
                omega)
              aligned rx.psIdx
          refine ⟨estimator, ?_, after⟩
          rw [if_pos due, runDrsChInterpolation]
          dsimp only
          rw [mode, isInterpolated]
          rfl
        · exact ⟨rx.estimator, if_neg due, waits⟩
      obtain ⟨estimator, isInterpolated, nextWaits⟩ := interpolation
      obtain ⟨base, accesses, isDemapped, nextDemapped, samePs, sameSymb⟩ :=
        @collectPdc_spec _ _ _ _ _
          { rx with symbols := symbols, estimator := estimator } packet
          demapped (by omega) fun _ => aligned
      obtain ⟨after, isAfter, isStage, all, kept⟩ :=
        @hypothesis
          { rx with
            toPdcReceiver := base
            demapped := accesses
            symbols := symbols
            estimator := estimator
            ofdmSymbPsIdx := rx.ofdmSymbPsIdx + 1 }
          ⟨⟨nextReady, nextWaits, sameSymb.trans isIdx, isStep⟩, mode,
            fun tIdx later before => still tIdx _ (slots tIdx later before)⟩
          (Nat.le_succ_of_le begun) nextDemapped
          (by
            dsimp only
            omega)
          (by
            dsimp only
            omega)
          (by
            dsimp only
            omega)
      refine
        ⟨after, ?_, isStage, ?_, kept.psIdx_eq.trans samePs, kept.pccIdx_eq⟩
      · rw [collectStagePdc, isMoved, ok_bind]
        dsimp only
        rw [isInterpolated, ok_bind]
        dsimp only
        rw [isDemapped, ok_bind]
        exact isAfter
      · have next : firstIdx + rx.ofdmSymbPsIdx + (count + 1) =
            firstIdx + (rx.ofdmSymbPsIdx + 1) + count := by
          omega
        rw [next]
        exact all

/-- First slot of a stage that does not belong to the stage before. -/
def relativeStart (stages : Nat) : Nat :=
  if stages = 0 then 0 else 1

/-- A number of stages is complete, and the next one may have begun. -/
structure BehindStages
    (rx : StageReceiver)
    (syncReport : SyncReport)
    (q : Sp3.PacketSizes)
    (pccLinear : List Nat)
    (nStage length nEffTxMax stages l : Nat) :
    Prop where
  inStage :
    rx.InStage syncReport nStage length nEffTxMax
      (1 + stages * getNStep syncReport.nEffTx) (relativeStart stages) l
  psIdx_eq : rx.psIdx = stages
  /-- A later stage begins with its second slot. -/
  slot_eq :
    1 + stages * getNStep syncReport.nEffTx +
        (if 0 < stages then 1 else rx.ofdmSymbPsIdx) =
      l
  demapped :
    Demapped syncReport q pccLinear nStage rx.toPdcReceiver rx.demapped
      (1 + stages * getNStep syncReport.nEffTx + relativeStart stages)
  later : 0 < stages → rx.ofdmSymbPsIdx = 0

theorem runProcessingStage_spec
    {stages : Nat}
    (packet : PdcReceiver.SingleStream syncReport q pccLinear)
    (nTsInside : syncReport.nEffTx ≤ nEffTxMax)
    (isLength : length = getNStep syncReport.nEffTx + 1)
    (hasTables : length = ChannelLut.nofSlots true syncReport.nEffTx)
    (behind :
      rx.BehindStages syncReport q pccLinear nStage length nEffTxMax stages l)
    (early : l ≤ stages * getNStep syncReport.nEffTx + length)
    (chestimModeLrTStride : Nat) :
    ∃ after,
      rx.runProcessingStage syncReport q chestimModeLrTStride length =
        .ok after ∧
      after.BehindStages syncReport q pccLinear nStage length nEffTxMax
        (stages + 1)
        (2 + (stages + 1) * getNStep syncReport.nEffTx) ∧
      after.pccIdx = rx.pccIdx := by
  obtain ⟨⟨walked, mode, slots⟩, isStage, isSlot, demapped, -⟩ := behind
  have isStep := walked.nStep_eq
  generalize isN : getNStep syncReport.nEffTx = nStep at *
  generalize isProduct : stages * nStep = passed at *
  have next : (stages + 1) * nStep = passed + nStep := by
    rw [Nat.add_mul, isProduct, Nat.one_mul]
  have startWithin : relativeStart stages ≤ 1 := by
    unfold relativeStart
    split <;> decide
  -- a later stage begins with its second slot
  obtain ⟨opened, isOpened, openedStage, openedSlot, openedDemapped,
    openedKept, openedStep, openedIdx⟩ :
      ∃ opened,
        (if 0 < rx.psIdx then { rx with ofdmSymbPsIdx := 1 } else rx) =
          opened ∧
        opened.InStage syncReport nStage length nEffTxMax (1 + passed)
          (relativeStart stages) l ∧
        1 + passed + opened.ofdmSymbPsIdx = l ∧
        Demapped syncReport q pccLinear nStage opened.toPdcReceiver opened.demapped
          (1 + passed + relativeStart stages) ∧
        Kept rx opened ∧ opened.nStep = nStep ∧ opened.ofdmSymbIdx = l := by
    rw [isStage]
    by_cases isLater : 0 < stages
    · rw [if_pos isLater] at isSlot
      refine
        ⟨{ rx with ofdmSymbPsIdx := 1 }, if_pos isLater, ⟨?_, mode, slots⟩,
          isSlot, demapped, ⟨rfl, rfl⟩, isStep, walked.ofdmSymbIdx_eq⟩
      exact ⟨walked.symbols, walked.estimator, walked.ofdmSymbIdx_eq,
          walked.nStep_eq⟩
    · rw [if_neg isLater] at isSlot
      exact ⟨rx, if_neg isLater, ⟨walked, mode, slots⟩, isSlot, demapped,
          ⟨rfl, rfl⟩, isStep, walked.ofdmSymbIdx_eq⟩
  obtain ⟨full, isFull, fullStage, fullDemapped, fullKept⟩ :=
    collectStageSymbols_spec packet.nEffTx_mem nTsInside openedStage
      (Nat.le_add_right 1 passed) openedSlot openedDemapped
      (length + passed + 1 - opened.ofdmSymbIdx) (by omega)
  obtain ⟨collected, isCollected, collectedStage, collectedDemapped,
    collectedKept⟩ :=
    @collectStagePdc_spec _ _ _ _ _ _ _
      { full with ofdmSymbPsIdx := relativeStart stages } _ _ packet nTsInside
      ⟨⟨fullStage.walked.symbols, fullStage.walked.estimator,
        fullStage.walked.ofdmSymbIdx_eq, fullStage.walked.nStep_eq⟩,
        fullStage.mode, fullStage.slots⟩
      (Nat.le_add_right 1 passed) (Nat.le_refl _) fullDemapped
      chestimModeLrTStride (nStep + 1 - relativeStart stages)
      (by
        dsimp only
        omega)
      (by
        dsimp only
        omega)
      (by
        dsimp only
        omega)
  have behindNow : 1 + passed + relativeStart stages +
      (nStep + 1 - relativeStart stages) =
        1 + (stages + 1) * nStep + relativeStart (stages + 1) := by
    have isOne : relativeStart (stages + 1) = 1 := if_neg (Nat.succ_ne_zero _)
    omega
  have isSymb : l + (length + passed + 1 - opened.ofdmSymbIdx) =
      2 + (stages + 1) * nStep := by
    omega
  rw [isSymb] at collectedStage
  rw [behindNow] at collectedDemapped
  refine
    ⟨{ collected with psIdx := collected.psIdx + 1, ofdmSymbPsIdx := 0 }, ?_,
      ⟨⟨⟨collectedStage.walked.symbols, collectedStage.walked.estimator,
        collectedStage.walked.ofdmSymbIdx_eq,
        collectedStage.walked.nStep_eq⟩, collectedStage.mode, ?_⟩, ?_, ?_,
        ?_, fun _ => rfl⟩,
      collectedKept.pccIdx_eq.trans
        (fullKept.pccIdx_eq.trans openedKept.pccIdx_eq)⟩
  · have isStart :
        (if full.psIdx = 0 then 0 else 1) = relativeStart stages := by
      rw [fullKept.psIdx_eq, openedKept.psIdx_eq, isStage]
      rfl
    rw [runProcessingStage, isOpened, isStage, isStep, isProduct]
    dsimp only
    have fullStep : nStep = full.nStep :=
      isN.symm.trans fullStage.walked.nStep_eq.symm
    rw [fullStep] at isCollected
    rw [isFull, ok_bind, isStart, isCollected]
    rfl
  · intro tIdx begun before
    have isOne : relativeStart (stages + 1) = 1 := if_neg (Nat.succ_ne_zero _)
    rw [isN] at before
    omega
  · rw [← isStage, ← openedKept.psIdx_eq, ← fullKept.psIdx_eq]
    exact congrArg (· + 1) collectedKept.psIdx_eq
  · rw [isN, if_pos (Nat.succ_pos stages)]
    omega
  · rw [isN]
    exact collectedDemapped.congr rfl rfl rfl

/-- A number of stages, each of which continues the one before. -/
theorem runProcessingStages_spec
    {stages : Nat}
    (packet : PdcReceiver.SingleStream syncReport q pccLinear)
    (nTsInside : syncReport.nEffTx ≤ nEffTxMax)
    (isLength : length = getNStep syncReport.nEffTx + 1)
    (hasTables : length = ChannelLut.nofSlots true syncReport.nEffTx)
    (behind :
      rx.BehindStages syncReport q pccLinear nStage length nEffTxMax stages l)
    (early : l ≤ stages * getNStep syncReport.nEffTx + length)
    (chestimModeLrTStride count : Nat) :
    ∃ after,
      rx.runProcessingStages syncReport q chestimModeLrTStride length count =
        .ok after ∧
      after.BehindStages syncReport q pccLinear nStage length nEffTxMax
        (stages + count)
        (if count = 0 then l
        else 2 + (stages + count) * getNStep syncReport.nEffTx) ∧
      after.pccIdx = rx.pccIdx := by
  induction count generalizing rx stages l with
  | zero => exact ⟨rx, rfl, behind, rfl⟩
  | succ count hypothesis =>
      obtain ⟨next, isNext, nextBehind, samePcc⟩ :=
        runProcessingStage_spec packet nTsInside isLength hasTables behind
          early chestimModeLrTStride
      obtain ⟨after, isAfter, all, stillPcc⟩ :=
        hypothesis nextBehind (by
          have long := Drs.five_le_getNStep syncReport.nEffTx
          omega)
      have isLast : (if count = 0 then
          2 + (stages + 1) * getNStep syncReport.nEffTx
            else 2 + (stages + 1 + count) * getNStep syncReport.nEffTx) =
            2 + (stages + (count + 1)) * getNStep syncReport.nEffTx := by
        rw [Nat.add_comm count 1, ← Nat.add_assoc]
        split_ifs with none
        · rw [none]
        · rfl
      rw [isLast, Nat.add_assoc, Nat.add_comm 1 count] at all
      refine ⟨after, ?_, ?_, stillPcc.trans samePcc⟩
      · rw [runProcessingStages, isNext, ok_bind]
        exact isAfter
      · rw [if_neg (Nat.succ_ne_zero count)]
        exact all

/--
Of the symbols collected with the control channel, only the last one can have
data, and the pointers are still at it.
-/
theorem collectEarlierPdc_spec
    {symbol : Nat}
    (packet : PdcReceiver.SingleStream syncReport q pccLinear)
    (demapped :
      Demapped syncReport q pccLinear nStage rx.toPdcReceiver rx.demapped symbol)
    (positive : 1 ≤ symbol)
    (count : Nat)
    (aligned :
      ∀ other, symbol ≤ other → other < symbol + count →
        hasPdc syncReport.b syncReport.nEffTx pccLinear other = true →
          Access.Aligned (other, rx.symbols.now) nStage) :
    ∃ base accesses,
      rx.collectEarlierPdc syncReport q symbol count =
        .ok
          { rx with
            toPdcReceiver := base
            demapped := accesses
            ofdmSymbPsIdx := rx.ofdmSymbPsIdx + count } ∧
      Demapped syncReport q pccLinear nStage base accesses (symbol + count) ∧
      base.psIdx = rx.psIdx ∧ base.ofdmSymbIdx = rx.ofdmSymbIdx := by
  induction count generalizing rx symbol with
  | zero => exact ⟨_, _, rfl, demapped, rfl, rfl⟩
  | succ count hypothesis =>
      obtain ⟨next, accesses, isNext, nextDemapped, samePs, sameSymb⟩ :=
        collectPdc_spec packet demapped positive
          (aligned symbol (Nat.le_refl symbol) (by omega))
      obtain ⟨base, all, isAfter, allDemapped, stillPs, stillSymb⟩ :=
        @hypothesis
          { rx with
            toPdcReceiver := next
            demapped := accesses
            ofdmSymbPsIdx := rx.ofdmSymbPsIdx + 1 }
          (symbol + 1) nextDemapped (Nat.le_succ_of_le positive)
          (fun other late before => aligned other (by omega) (by omega))
      rw [Nat.add_assoc, Nat.add_comm 1 count] at allDemapped
      refine ⟨base, all, ?_, allDemapped, stillPs.trans samePs,
          stillSymb.trans sameSymb⟩
      rw [collectEarlierPdc, isNext, ok_bind]
      dsimp only
      rw [isAfter]
      dsimp only
      rw [Nat.add_assoc, Nat.add_comm 1 count]

/-- Slots are counted such that reference signals come into the first one. -/
structure InTail
    (rx : StageReceiver)
    (syncReport : SyncReport)
    (q : Sp3.PacketSizes)
    (pccLinear : List Nat)
    (nStage length nEffTxMax l : Nat) :
    Prop where
  walked : rx.Walked syncReport nStage length nEffTxMax l
  mode : rx.chestimModeLr = false
  demapped : Demapped syncReport q pccLinear nStage rx.toPdcReceiver rx.demapped l
  slot_lt : rx.ofdmSymbPsIdx < getNStep syncReport.nEffTx
  phase :
    ∀ symbol, l ≤ symbol → symbol ≤ q.nDfSymb →
      ChannelEstimator.hasDrs syncReport.nEffTx symbol = true →
        (rx.ofdmSymbPsIdx + (symbol - l)) % getNStep syncReport.nEffTx = 0

theorem slot_succ
    {nStep slot : Nat}
    (inside : slot < nStep) :
    ∃ next,
      (if slot + 1 = nStep then 0 else slot + 1) = next ∧ next < nStep ∧
      ∀ further, (next + further) % nStep = (slot + (further + 1)) % nStep := by
  by_cases isEnd : slot + 1 = nStep
  · refine ⟨0, if_pos isEnd, by omega, ?_⟩
    intro further
    have sum : slot + (further + 1) = further + nStep := by omega
    rw [sum, Nat.zero_add, Nat.add_mod_right]
  · refine ⟨slot + 1, if_neg isEnd, by omega, ?_⟩
    intro further
    rw [Nat.add_assoc, Nat.add_comm 1 further]

/-- All symbols that are left. -/
theorem collectTailSymbols_spec
    (packet : PdcReceiver.SingleStream syncReport q pccLinear)
    (nTsInside : syncReport.nEffTx ≤ nEffTxMax)
    (fits : getNStep syncReport.nEffTx ≤ length)
    (inTail : rx.InTail syncReport q pccLinear nStage length nEffTxMax l)
    (positive : 1 ≤ l)
    (count : Nat)
    (isLast : l + count = q.nDfSymb + 1) :
    ∃ after,
      rx.collectTailSymbols syncReport q count = .ok after ∧
      after.InTail syncReport q pccLinear nStage length nEffTxMax
        (q.nDfSymb + 1) ∧
      after.pccIdx = rx.pccIdx := by
  induction count generalizing rx l with
  | zero =>
      rw [← isLast]
      exact ⟨rx, rfl, inTail, rfl⟩
  | succ count hypothesis =>
      obtain ⟨walked, mode, demapped, inside, phase⟩ := inTail
      have isIdx := walked.ofdmSymbIdx_eq
      obtain ⟨symbols, estimator, isCollected, ready, waits, points, holds,
        -⟩ :=
        collectSymbol_spec packet.nEffTx_mem nTsInside walked positive
          (by omega)
          (.inr fun isDrs => by
            have first := phase l (Nat.le_refl l) (by omega) isDrs
            rw [Nat.sub_self, Nat.add_zero, Nat.mod_eq_of_lt inside] at first
            exact first)
      obtain ⟨base, accesses, isDemapped, nextDemapped, samePs, sameSymb⟩ :=
        @collectPdc_spec _ _ _ _ _
          { rx with symbols := symbols, estimator := estimator } packet
          demapped positive fun _ => holds.aligned points
      obtain ⟨slot, isSlot, slotInside, slotPhase⟩ := slot_succ inside
      have isNext : ∃ psIdx, (if rx.ofdmSymbPsIdx + 1 = rx.nStep then
          { rx with
            toPdcReceiver := { base with psIdx := base.psIdx + 1 }
            demapped := accesses
            symbols := symbols
            estimator := estimator
            ofdmSymbPsIdx := 0 }
              else
                { rx with
                  toPdcReceiver := base
                  demapped := accesses
                  symbols := symbols
                  estimator := estimator
                  ofdmSymbPsIdx := rx.ofdmSymbPsIdx + 1 }) =
              { rx with
                toPdcReceiver := { base with psIdx := psIdx }
                demapped := accesses
                symbols := symbols
                estimator := estimator
                ofdmSymbPsIdx := slot } := by
        rw [walked.nStep_eq, ← isSlot]
        by_cases isEnd : rx.ofdmSymbPsIdx + 1 = getNStep syncReport.nEffTx
        · exact ⟨base.psIdx + 1, by rw [if_pos isEnd, if_pos isEnd]⟩
        · exact ⟨base.psIdx, by rw [if_neg isEnd, if_neg isEnd]⟩
      obtain ⟨psIdx, isNext⟩ := isNext
      obtain ⟨after, isAfter, all, samePcc⟩ :=
        @hypothesis (l + 1)
          { rx with
            toPdcReceiver :=
              { base with
                psIdx := psIdx
                ofdmSymbIdx := base.ofdmSymbIdx + 1 }
            demapped := accesses
            symbols := symbols
            estimator := estimator
            ofdmSymbPsIdx := slot }
          ⟨⟨ready, waits, congrArg (· + 1) (sameSymb.trans isIdx),
            walked.nStep_eq⟩, mode, nextDemapped.congr rfl rfl rfl,
            slotInside, fun symbol late within isDrs => by
              have further : symbol - l = symbol - (l + 1) + 1 := by omega
              have due := phase symbol (by omega) within isDrs
              rw [further, ← slotPhase] at due
              exact due⟩
          (Nat.le_succ_of_le positive) (by omega)
      refine ⟨after, ?_, all, samePcc⟩
      rw [collectTailSymbols, isCollected, ok_bind]
      dsimp only
      rw [isIdx, isDemapped, ok_bind]
      dsimp only
      rw [isNext]
      exact isAfter

end

end StageReceiver

end RxSynced

end DectNrp
