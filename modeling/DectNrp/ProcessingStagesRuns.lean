import DectNrp.ProcessingStagesWalk

namespace DectNrp

open ColumnTables
open Phyres
open VirtualFrame

/-!
# Alignment of the processing stages

Behind the control channel, complete stages with channel estimates to the left
and right come first, and the symbols that are left follow one by one.  With
eight streams, the second symbol with reference signals comes before there are
estimates to the right, and the tables for that mode have a single slot only.
-/

open Drs (getNStep)
open Checked (ok_bind pure_eq_ok)

namespace Pcc

variable {pccLinear : List Nat}

theorem columnOf_nofSymbols_ne_nil
    {b nTs : Nat}
    (bValid : b ∈ bIdx2bLut)
    (nTsValid : nTs ∈ nTsIdx2NTsVec)
    (allocation : Allocation b nTs pccLinear) :
    columnOf b (nofSymbols b nTs) pccLinear ≠ [] := by
  intro none
  have room := (freeBefore_nofSymbols bValid nTsValid).2.1
  have early : ∀ cell ∈ pccLinear, cell / (64 * b) < nofSymbols b nTs := by
    intro cell member
    refine Nat.lt_of_le_of_ne
        (symbol_le_nofSymbols bValid nTsValid allocation member) ?_
    intro here
    unfold columnOf at none
    rw [List.map_eq_nil_iff, List.filter_eq_nil_iff] at none
    exact none cell member (decide_eq_true here)
  have few := length_le_freeBefore bValid allocation early
  rw [allocation.length_eq] at few
  exact absurd few (Nat.not_le_of_lt room)

/-- All cells of the control channel are in its symbols. -/
theorem sum_length_columnOf_nofSymbols
    {b nTs : Nat}
    (bValid : b ∈ bIdx2bLut)
    (nTsValid : nTs ∈ nTsIdx2NTsVec)
    (allocation : Allocation b nTs pccLinear) :
    ((List.range' 1 (nofSymbols b nTs)).map fun l =>
        (columnOf b l pccLinear).length).sum = pccCells :=
  sum_length_columnOf bValid allocation fun _ member =>
    symbol_le_nofSymbols bValid nTsValid allocation member

theorem eq_nofSymbols_of_hasData
    {b nTs l : Nat}
    (bValid : b ∈ bIdx2bLut)
    (nTsValid : nTs ∈ nTsIdx2NTsVec)
    (created : getKILinear b nTs = .ok pccLinear)
    (allocation : Allocation b nTs pccLinear)
    (positive : 1 ≤ l)
    (inside : l ≤ nofSymbols b nTs)
    (hasData : Pdc.rowAt b nTs pccLinear l ≠ []) :
    l = nofSymbols b nTs := by
  by_contra before
  exact columnOf_nofSymbols_ne_nil bValid nTsValid allocation
      (Pdc.columnOf_eq_nil_of_later bValid nTsValid created allocation
        positive (Nat.lt_of_le_of_ne inside before) hasData)

theorem nofSymbols_le (b nTs : Nat) :
    nofSymbols b nTs ≤ 4 := by
  unfold nofSymbols
  split <;> split_ifs <;> decide

end Pcc

namespace RxSynced

open HeaderAdmission

namespace ChannelEstimator

/-- With up to four streams, reference signals come once in a stage. -/
theorem hasDrs_iff
    {nTs l : Nat}
    (nTsValid : nTs ∈ nTsIdx2NTsVec)
    (fewer : nTs ≠ 8) :
    hasDrs nTs l = true ↔ ∃ n, l = 1 + n * getNStep nTs := by
  unfold hasDrs
  rw [Option.isSome_iff_exists]
  constructor
  · rintro ⟨⟨group, n⟩, occurrence⟩
    obtain ⟨groupValid, symbol⟩ := (Drs.groupAt_eq_some nTsValid).mp occurrence
    have isFirst : group = 0 := by omega
    rw [isFirst] at symbol
    exact ⟨n, symbol⟩
  · rintro ⟨n, symbol⟩
    exact ⟨(0, n), (Drs.groupAt_eq_some nTsValid).mpr ⟨.inl rfl, symbol⟩⟩

theorem sum_drsCells
    {u nPacketSymb nTs : Nat}
    (valid : PacketValid u nPacketSymb nTs)
    (fewer : nTs ≠ 8)
    (b : Nat) :
    ((List.range' 1 (Pdc.getNDfSymb u nPacketSymb)).map
        (drsCells b nTs)).sum =
      nTs * (14 * b) * Drs.nofSymbols nPacketSymb nTs := by
  have streams := nTs_cases valid.nTs_mem
  have positive : 0 < nTs := by omega
  have sums := Drs.sum_streamLength_rowsAt valid positive b
  have each : ∀ l,
      drsCells b nTs l = Drs.streamLength (Drs.rowsAt b nTs l) 0 * nTs := by
    intro l
    rw [Drs.streamLength_rowsAt valid.nTs_mem positive, drsCells, hasDrs]
    have four : min nTs 4 = nTs := by omega
    cases found : Drs.groupAt nTs l with
    | none => exact (Nat.zero_mul nTs).symm
    | some occurrence =>
        obtain ⟨group, n⟩ := occurrence
        have groupValid := ((Drs.groupAt_eq_some valid.nTs_mem).mp found).1
        have isFirst : group = 0 := by omega
        rw [isFirst, four]
        rfl
  calc
    _ = ((List.range' 1 (Pdc.getNDfSymb u nPacketSymb)).map fun l =>
        Drs.streamLength (Drs.rowsAt b nTs l) 0 * nTs).sum :=
      congrArg List.sum (List.map_congr_left fun l _ => each l)
    _ = ((List.range' 1 (Pdc.getNDfSymb u nPacketSymb)).map fun l =>
        Drs.streamLength (Drs.rowsAt b nTs l) 0).sum * nTs :=
      List.sum_map_mul_right _ _ _
    _ = nTs * (14 * b) * Drs.nofSymbols nPacketSymb nTs := by
      rw [sums]
      ring

end ChannelEstimator

/-- A stage is as long as the tables for it, and overlaps by one symbol. -/
theorem nEffTx2ProcessingStageLen_eq
    {nTs : Nat}
    (nTsValid : nTs ∈ nTsIdx2NTsVec)
    (fewer : nTs ≠ 8) :
    nEffTx2ProcessingStageLen.getD nTs 0 = getNStep nTs + 1 ∧
      getNStep nTs + 1 = ChannelLut.nofSlots true nTs := by
  rcases nTs_cases nTsValid with rfl | rfl | rfl | rfl
  · decide
  · decide
  · decide
  · exact absurd rfl fewer

theorem nEffTx2ProcessingStageLen_le
    {nTs nTsMax : Nat}
    (nTsValid : nTs ∈ nTsIdx2NTsVec)
    (nTsMaxValid : nTsMax ∈ nTsIdx2NTsVec)
    (inside : nTs ≤ nTsMax) :
    nEffTx2ProcessingStageLen.getD nTs 0 ≤
      nEffTx2ProcessingStageLen.getD nTsMax 0 := by
  have evaluated :
      ∀ nTs ∈ nTsIdx2NTsVec, ∀ nTsMax ∈ nTsIdx2NTsVec, nTs ≤ nTsMax →
        nEffTx2ProcessingStageLen.getD nTs 0 ≤
          nEffTx2ProcessingStageLen.getD nTsMax 0 := by
    decide
  exact evaluated nTs nTsValid nTsMax nTsMaxValid inside

namespace StageReceiver

section

variable
  {syncReport : SyncReport}
  {q : Sp3.PacketSizes}
  {pccLinear : List Nat}
  {nStage length nEffTxMax l : Nat}
  {rx : StageReceiver}

/-- Behind the control channel, or behind a number of complete stages. -/
def Entered
    (rx : StageReceiver)
    (syncReport : SyncReport)
    (q : Sp3.PacketSizes)
    (pccLinear : List Nat)
    (nStage length nEffTxMax : Nat) :
    Prop :=
  rx.InPcc syncReport q pccLinear nStage length nEffTxMax
      (Pcc.nofSymbols syncReport.b syncReport.nEffTx + 1) ∨
    ∃ stages,
      0 < stages ∧
      rx.BehindStages syncReport q pccLinear nStage length nEffTxMax stages
        (2 + stages * getNStep syncReport.nEffTx) ∧
      stages * getNStep syncReport.nEffTx + 1 ≤ q.nDfSymb ∧
      q.nDfSymb ≤ (stages + 1) * getNStep syncReport.nEffTx

theorem InPcc.behindStages
    (inPcc : rx.InPcc syncReport q pccLinear nStage length nEffTxMax l) :
    { rx with chestimModeLr := true }.BehindStages syncReport q pccLinear
      nStage length nEffTxMax 0 l := by
  obtain ⟨⟨ready, waits, isIdx, isStep⟩, -, isFirst, isSlot, slots, -, -, -,
    demapped⟩ := inPcc
  refine
    ⟨⟨⟨ready, waits, isIdx, isStep⟩, rfl, ?_⟩, isFirst, ?_, ?_, fun some =>
      absurd some (Nat.lt_irrefl 0)⟩
  · intro tIdx _ before
    rw [Nat.zero_mul, Nat.add_zero, Nat.add_comm 1] at before ⊢
    exact slots tIdx (by omega)
  · rw [Nat.zero_mul, Nat.add_zero, if_neg (Nat.lt_irrefl 0), Nat.add_comm]
    exact isSlot
  · rw [Nat.zero_mul, Nat.add_zero]
    exact demapped

/-- All stages that are complete are gone over. -/
theorem runPdcPsInChestimModeLrT_spec
    (packet : PdcReceiver.SingleStream syncReport q pccLinear)
    (fewer : syncReport.nEffTx ≠ 8)
    (nTsInside : syncReport.nEffTx ≤ nEffTxMax)
    (inPcc :
      rx.InPcc syncReport q pccLinear nStage
        (getNStep syncReport.nEffTx + 1) nEffTxMax
        (Pcc.nofSymbols syncReport.b syncReport.nEffTx + 1))
    (positive : 1 ≤ q.nDfSymb)
    (small : q.nDfSymb < 2 ^ 32)
    (chestimModeLrTStride : Nat) :
    ∃ after,
      rx.runPdcPsInChestimModeLrT syncReport q chestimModeLrTStride =
        .ok after ∧
      after.Entered syncReport q pccLinear nStage
        (getNStep syncReport.nEffTx + 1) nEffTxMax ∧
      after.pccIdx = rx.pccIdx := by
  have nTsValid := packet.nEffTx_mem
  obtain ⟨isLength, hasTables⟩ := nEffTx2ProcessingStageLen_eq nTsValid fewer
  have early := Pcc.nofSymbols_le syncReport.b syncReport.nEffTx
  have long := Drs.five_le_getNStep syncReport.nEffTx
  have isStep := inPcc.walked.nStep_eq
  obtain ⟨stages, isStages⟩ :
      ∃ stages, (q.nDfSymb - 1) / getNStep syncReport.nEffTx = stages :=
    ⟨_, rfl⟩
  have isCount : Tx.wordSub q.nDfSymb
      (getNStep syncReport.nEffTx + 1 - rx.nStep) / rx.nStep =
        stages := by
    rw [isStep, Nat.add_sub_cancel_left, Tx.wordSub_eq positive small]
    exact isStages
  rw [runPdcPsInChestimModeLrT, isLength, isCount, inPcc.psIdx_eq,
    Nat.sub_zero]
  by_cases none : stages = 0
  · exact ⟨rx, if_pos none, .inl inPcc, rfl⟩
  · obtain ⟨after, isAfter, behind, samePcc⟩ :=
      runProcessingStages_spec packet nTsInside rfl hasTables
        inPcc.behindStages (by omega) chestimModeLrTStride stages
    rw [Nat.zero_add, if_neg none] at behind
    refine ⟨after, by rw [if_neg none, isAfter],
        .inr ⟨stages, Nat.pos_of_ne_zero none, behind, ?_, ?_⟩, samePcc⟩
    · have complete :=
        Nat.div_mul_le_self (q.nDfSymb - 1) (getNStep syncReport.nEffTx)
      rw [isStages] at complete
      omega
    · have further :=
        Nat.lt_mul_of_div_lt (show
            (q.nDfSymb - 1) / getNStep syncReport.nEffTx < stages + 1 by
            omega)
          (show 0 < getNStep syncReport.nEffTx by omega)
      omega

/-- Symbols behind the control channel or the stages come one by one. -/
theorem runPdcPsInChestimModeLrF_spec
    (packet : PdcReceiver.SingleStream syncReport q pccLinear)
    (created : Pcc.getKILinear syncReport.b syncReport.nEffTx = .ok pccLinear)
    (fewer : syncReport.nEffTx ≠ 8)
    (nTsInside : syncReport.nEffTx ≤ nEffTxMax)
    (entered :
      rx.Entered syncReport q pccLinear nStage
        (getNStep syncReport.nEffTx + 1) nEffTxMax)
    (inside : Pcc.nofSymbols syncReport.b syncReport.nEffTx < q.nDfSymb) :
    ∃ after,
      rx.runPdcPsInChestimModeLrF syncReport q = .ok after ∧
      after.InTail syncReport q pccLinear nStage
        (getNStep syncReport.nEffTx + 1) nEffTxMax (q.nDfSymb + 1) ∧
      after.pccIdx = rx.pccIdx := by
  have nTsValid := packet.nEffTx_mem
  have early := Pcc.nofSymbols_le syncReport.b syncReport.nEffTx
  have long := Drs.five_le_getNStep syncReport.nEffTx
  rw [runPdcPsInChestimModeLrF]
  dsimp only
  have tail : ∃ next l, (if rx.psIdx = 0 then
      { rx with
        chestimModeLr := false
        ofdmSymbPsIdx := 0 }.collectEarlierPdc syncReport q 1
          (rx.ofdmSymbIdx - 1)
          else pure { rx with chestimModeLr := false }) =
          .ok next ∧
        next.InTail syncReport q pccLinear nStage
          (getNStep syncReport.nEffTx + 1) nEffTxMax l ∧
        1 ≤ l ∧ l ≤ q.nDfSymb + 1 ∧ next.pccIdx = rx.pccIdx := by
    rcases entered with inPcc | ⟨stages, some, behind, complete, last⟩
    · obtain ⟨⟨ready, waits, isIdx, isStep⟩, mode, isFirst, isSlot, slots,
        points, -, -, demapped⟩ := inPcc
      have some := (Pcc.freeBefore_nofSymbols packet.b_mem nTsValid).1
      have isLast : rx.ofdmSymbPsIdx =
          Pcc.nofSymbols syncReport.b syncReport.nEffTx - 1 + 1 := by
        omega
      have holds := slots _ (show
        Pcc.nofSymbols syncReport.b syncReport.nEffTx - 1 <
          rx.ofdmSymbPsIdx by omega)
      have aligned := holds.aligned (points _ isLast)
      rw [Nat.sub_add_cancel some] at aligned
      obtain ⟨base, accesses, isDemapped, nextDemapped, samePs, sameSymb⟩ :=
        @collectEarlierPdc_spec _ _ _ _
          { rx with chestimModeLr := false, ofdmSymbPsIdx := 0 } _ packet
          demapped (Nat.le_refl 1) (rx.ofdmSymbIdx - 1)
          (fun other positive before hasData => by
            have isOnly :=
              Pcc.eq_nofSymbols_of_hasData packet.b_mem nTsValid created
                packet.allocation positive (by omega)
                (by simpa [hasPdc] using hasData)
            rw [isOnly]
            exact aligned)
      have isSymb : 1 + (rx.ofdmSymbIdx - 1) =
          Pcc.nofSymbols syncReport.b syncReport.nEffTx + 1 := by
        omega
      rw [isSymb] at nextDemapped
      refine ⟨_, _, (if_pos isFirst).trans isDemapped,
          ⟨⟨ready, waits, sameSymb.trans isIdx, isStep⟩, rfl, nextDemapped,
            ?_, ?_⟩, by omega, by omega, rfl⟩
      · dsimp only
        omega
      · intro symbol late within isDrs
        obtain ⟨n, isSymbol⟩ :=
          (ChannelEstimator.hasDrs_iff nTsValid fewer).mp isDrs
        have slot : 0 + (rx.ofdmSymbIdx - 1) + (symbol -
            (Pcc.nofSymbols syncReport.b syncReport.nEffTx + 1)) =
              n * getNStep syncReport.nEffTx := by
          omega
        dsimp only
        rw [slot]
        exact Nat.mul_mod_left n _
    · obtain ⟨⟨⟨ready, waits, isIdx, isStep⟩, -, -⟩, isStage, -, demapped,
        later⟩ := behind
      have isZero := later some
      have isStart : relativeStart stages = 1 := if_neg (by omega)
      have isSymb : 1 + stages * getNStep syncReport.nEffTx +
          relativeStart stages =
            2 + stages * getNStep syncReport.nEffTx := by
        omega
      rw [isSymb] at demapped
      refine ⟨_, _, if_neg (by omega),
          ⟨⟨ready, waits, isIdx, isStep⟩, rfl, demapped, ?_, ?_⟩, by omega,
          by omega, rfl⟩
      · dsimp only
        omega
      · intro symbol late within isDrs
        obtain ⟨n, isSymbol⟩ :=
          (ChannelEstimator.hasDrs_iff nTsValid fewer).mp isDrs
        -- the next symbol with reference signals is behind the packet
        have beyond : stages < n := by
          by_contra notBeyond
          have product :=
            Nat.mul_le_mul_right (getNStep syncReport.nEffTx)
              (Nat.le_of_not_lt notBeyond)
          omega
        have product :=
          Nat.mul_le_mul_right (getNStep syncReport.nEffTx)
            (Nat.succ_le_of_lt beyond)
        have last' : q.nDfSymb ≤ n * getNStep syncReport.nEffTx :=
          last.trans product
        omega
  obtain ⟨next, l, isNext, inTail, positive, within, samePcc⟩ := tail
  obtain ⟨after, isAfter, all, stillPcc⟩ :=
    collectTailSymbols_spec packet nTsInside (Nat.le_succ _) inTail positive
      (q.nDfSymb + 1 - l) (by omega)
  refine ⟨after, ?_, all, stillPcc.trans samePcc⟩
  rw [isNext, ok_bind, inTail.walked.ofdmSymbIdx_eq]
  exact isAfter

/--
The data channel ends with all symbols.  All assertions hold but those of the
estimation with several antennas, which is run for a correct checksum.
-/
theorem demoddecodRxPdc_spec
    (packet : PdcReceiver.SingleStream syncReport q pccLinear)
    (created : Pcc.getKILinear syncReport.b syncReport.nEffTx = .ok pccLinear)
    (fewer : syncReport.nEffTx ≠ 8)
    (nTsInside : syncReport.nEffTx ≤ nEffTxMax)
    (inPcc :
      rx.InPcc syncReport q pccLinear nStage
        (getNStep syncReport.nEffTx + 1) nEffTxMax
        (Pcc.nofSymbols syncReport.b syncReport.nEffTx + 1))
    (mcsInside : q.psdef.mcsIndex ≤ 9)
    (inside : Pcc.nofSymbols syncReport.b syncReport.nEffTx < q.nDfSymb)
    (small : q.nDfSymb < 2 ^ 32)
    (single : q.tmMode.nSs = 1)
    (isCells :
      Tx.nofCells syncReport.b syncReport.nEffTx pccLinear 1 q.nDfSymb =
        q.nPdcSubc)
    (isDrs :
      ((List.range' 1 q.nDfSymb).map
          (ChannelEstimator.drsCells syncReport.b syncReport.nEffTx)).sum =
        q.nDrsSubc)
    (isG : q.G = q.nPdcSubc * q.mcs.nBps)
    (estimatorMimo : EstimatorMimo)
    (chestimModeLrDefault : Bool)
    (chestimModeLrTStride : Nat)
    (decodeTbStatusLatest : Bool) :
    ∃ after,
      rx.demoddecodRxPdc estimatorMimo syncReport q chestimModeLrDefault
          chestimModeLrTStride decodeTbStatusLatest =
        (if decodeTbStatusLatest then
          estimatorMimo.processDrs nStage nEffTxMax syncReport.b
            syncReport.nEffTx 0 (syncReport.nEffTx - 1)
        else pure ()).map (fun _ => after) ∧
      after.InTail syncReport q pccLinear nStage
        (getNStep syncReport.nEffTx + 1) nEffTxMax (q.nDfSymb + 1) := by
  have accepted :
      HeaderAdmission.demoddecodRxPdc rx.ofdmSymbIdx q = .ok () := by
    rw [HeaderAdmission.demoddecodRxPdc, inPcc.walked.ofdmSymbIdx_eq,
      decide_eq_true mcsInside, decide_eq_true (Nat.succ_le_of_lt inside)]
    rfl
  have stages : ∃ next, (if chestimModeLrDefault then
      rx.runPdcPsInChestimModeLrT syncReport q chestimModeLrTStride
          else pure rx) =
          .ok next ∧
        next.Entered syncReport q pccLinear nStage
          (getNStep syncReport.nEffTx + 1) nEffTxMax ∧
        next.pccIdx = rx.pccIdx := by
    cases chestimModeLrDefault with
    | true =>
        rw [if_pos rfl]
        exact runPdcPsInChestimModeLrT_spec packet fewer nTsInside inPcc
            (by omega) small chestimModeLrTStride
    | false => exact ⟨rx, rfl, .inl inPcc, rfl⟩
  obtain ⟨next, isNext, entered, samePcc⟩ := stages
  obtain ⟨after, isAfter, inTail, stillPcc⟩ :=
    runPdcPsInChestimModeLrF_spec packet created fewer nTsInside entered inside
  have positive : 1 < q.nDfSymb + 1 :=
    Nat.succ_lt_succ (Nat.zero_lt_of_lt inside)
  have isPcc : after.pccIdx = Pcc.pccCells := by
    rw [stillPcc, samePcc, inPcc.pccIdx_eq, Nat.add_sub_cancel]
    exact Pcc.sum_length_columnOf_nofSymbols packet.b_mem packet.nEffTx_mem
        packet.allocation
  have isDrsIdx : after.estimator.drsIdx = q.nDrsSubc := by
    rw [inTail.walked.estimator.drsIdx_eq, Nat.add_sub_cancel]
    exact isDrs
  have isSubc := inTail.demapped.collected.subc
  have isBits := inTail.demapped.collected.bits
  rw [Nat.add_sub_cancel, isCells] at isSubc isBits
  rw [← isG] at isBits
  obtain ⟨isFirst, isLast⟩ :=
    (inTail.walked.estimator.picked positive).2.1 fewer
  refine ⟨after, ?_, inTail⟩
  rw [demoddecodRxPdc, accepted, ok_bind, isNext, ok_bind,
    isAfter, ok_bind, isPcc, isDrsIdx, isBits, isSubc, isFirst, isLast,
    single, Nat.mul_one, inTail.walked.symbols.nStage_eq,
    inTail.walked.estimator.nEffTxMax_eq]
  simp only [beq_self_eq_true, dectnrpAssert_true, ok_bind]
  rfl

theorem collectSymbol_eq_error
    (nTsValid : syncReport.nEffTx ∈ nTsIdx2NTsVec)
    (nTsInside : syncReport.nEffTx ≤ nEffTxMax)
    (walked : rx.Walked syncReport nStage length nEffTxMax l)
    (positive : 1 ≤ l)
    (many : 4 < syncReport.nEffTx)
    (inside : 1 < length)
    (mode : rx.chestimModeLr = false)
    (isDrs : ChannelEstimator.hasDrs syncReport.nEffTx l = true)
    (isSecond : rx.ofdmSymbPsIdx = 1) :
    rx.collectSymbol syncReport = .error (.assertion "t_idx too large") := by
  obtain ⟨resampled, isResampled, -, points, holds, -⟩ :=
    SymbolStage.runMixResample_spec walked.symbols
      (show rx.ofdmSymbPsIdx < length by omega)
  have search := walked.estimator.drs.isSymbolIndex_eq
  have isIdx := walked.ofdmSymbIdx_eq
  obtain ⟨estimated, isEstimated, next⟩ :=
    @ChannelEstimator.runDrsChestimZf_spec _ _ _ _ _ nTsValid nTsInside
      walked.estimator positive isDrs false _
      (.inr (.inr ⟨many, Nat.le_of_eq isSecond⟩)) _
      (holds.aligned points)
  have refused :=
    ChannelEstimator.runDrsChInterpolation_eq_error nTsValid nTsInside next
      (by omega) (Nat.le_of_eq isSecond.symm) rx.psIdx l
      (resampled.runCpFftScale l).now
  rw [ChannelEstimator.hasDrs] at isDrs
  rw [collectSymbol, runMixResample, isResampled, ok_bind, pure_eq_ok, ok_bind]
  dsimp only [runCpFftScale]
  rw [isIdx, search, isDrs, if_pos rfl, runDrsChestimZf]
  dsimp only
  rw [isIdx, mode, isEstimated, ok_bind, pure_eq_ok, ok_bind]
  dsimp only
  rw [if_neg Bool.false_ne_true, runDrsChInterpolation]
  dsimp only
  rw [isIdx, refused]
  rfl

theorem collectPccSymbols_eq_error
    (isEight : syncReport.nEffTx = 8)
    (nTsInside : syncReport.nEffTx ≤ nEffTxMax)
    (allocation : Pcc.Allocation syncReport.b syncReport.nEffTx pccLinear)
    (inPcc : rx.InPcc syncReport q pccLinear nStage length nEffTxMax 1)
    (inside : 1 < length)
    (count : Nat) :
    rx.collectPccSymbols syncReport (count + 2) =
      .error (.assertion "t_idx too large") := by
  have nTsValid : syncReport.nEffTx ∈ nTsIdx2NTsVec := by
    rw [isEight]
    decide
  obtain ⟨collected, next, isCollected, isNext, nextInPcc⟩ :=
    collectPccSymbol_spec nTsValid nTsInside allocation inPcc
      (fun late => absurd late (Nat.lt_irrefl 1)) (by omega)
  have isDrs : ChannelEstimator.hasDrs syncReport.nEffTx 2 = true := by
    rw [isEight]
    decide
  have refused :=
    collectSymbol_eq_error nTsValid nTsInside nextInPcc.walked (by decide)
      (by omega) inside nextInPcc.mode isDrs
      (Nat.succ.inj nextInPcc.ofdmSymbPsIdx_eq)
  rw [collectPccSymbols, isCollected, ok_bind, isNext,
    ok_bind, collectPccSymbols, refused]
  rfl

end

end StageReceiver

/-- The components are large enough for a bandwidth and a number of streams. -/
structure Components.Serves
    (components : Components)
    (b nTs nTxMax : Nat)
    (pccLinear : List Nat) :
    Prop where
  grid :
    ResourceGrid.WaitsFrom (components.grid.setConfiguration b nTs) b nTs
      pccLinear 1
  tables : components.channelLut.HasTables b nTxMax
  nStage_eq : components.processingStage.nStage = nTxMax
  nEffTxMax_eq : components.nEffTxMax = nTxMax
  fFits :
    nBOccPlusDcLut (b2bIdx b) ≤ components.processingStage.nFDomainMax
  tFits :
    nEffTx2ProcessingStageLen.getD nTs 0 ≤
      components.processingStage.nTDomainMax

/-- The constructor provides what all its packets need. -/
theorem Components.create_serves
    {bMax nTxMax nTsMax b nTs : Nat}
    (bMaxValid : bMax ∈ bIdx2bLut)
    (nTxMaxValid : nTxMax ∈ nTsIdx2NTsVec)
    (nTsMaxValid : nTsMax ∈ nTsIdx2NTsVec)
    (bValid : b ∈ bIdx2bLut)
    (bInside : b ≤ bMax)
    (nTsValid : nTs ∈ nTsIdx2NTsVec)
    (txInside : nTs ≤ nTxMax)
    (tsInside : nTs ≤ nTsMax) :
    ∃ components pccLinear,
      Components.create bMax nTxMax nTsMax = .ok components ∧
      Pcc.getKILinear b nTs = .ok pccLinear ∧
      Pcc.Allocation b nTs pccLinear ∧
      components.Serves b nTs nTxMax pccLinear ∧
      components.estimatorMimo = ⟨nTxMax, nTsMax, 14 * bMax⟩ := by
  obtain ⟨grid, pccLinear, isGrid, created, allocation, waits⟩ :=
    ResourceGrid.create_waitsFrom bMaxValid nTsMaxValid bValid bInside
      nTsValid tsInside
  obtain ⟨channelLut, isLut, tables⟩ :=
    ChannelLut.create_hasTables (b2bIdx_le bValid bMaxValid bInside) nTxMax
  refine ⟨_, pccLinear, by
      rw [Components.create, isGrid, ok_bind, isLut]
      rfl, created, allocation, ⟨waits, tables, rfl, rfl, ?_,
      nEffTx2ProcessingStageLen_le nTsValid nTxMaxValid txInside⟩, rfl⟩
  dsimp only [ProcessingStage.create]
  rw [nBOccPlusDcLut_b2bIdx bValid, nBOccPlusDcLut_b2bIdx bMaxValid]
  omega

namespace StageReceiver

section

variable
  {components : Components}
  {syncReport : SyncReport}
  {pccLinear : List Nat}
  {nTxMax : Nat}

/-- The training field comes into the first slot, before the first symbol. -/
theorem reconfigure_spec
    (bValid : syncReport.b ∈ bIdx2bLut)
    (nTsValid : syncReport.nEffTx ∈ nTsIdx2NTsVec)
    (allocation : Pcc.Allocation syncReport.b syncReport.nEffTx pccLinear)
    (serves :
      components.Serves syncReport.b syncReport.nEffTx nTxMax pccLinear)
    (q : Sp3.PacketSizes)
    (left : Nat × Nat → Option Nat) :
    ∃ first stf,
      reconfigure components left syncReport = .ok first ∧
      first.runMixResample = .ok stf ∧
      stf.runCpFftScale.pcc.getPccSymbolIdxMax =
        Pcc.nofSymbols syncReport.b syncReport.nEffTx ∧
      { stf.runCpFftScale with ofdmSymbIdx := 1 }.InPcc syncReport q
        pccLinear nTxMax
        (nEffTx2ProcessingStageLen.getD syncReport.nEffTx 0) nTxMax 1 := by
  obtain ⟨waits, tables, isStage, isMax, fFits, tFits⟩ := serves
  obtain ⟨processingStage, isConfigured, sameStage, isLength⟩ :
      ∃ processingStage, components.processingStage.setConfiguration
          (nBOccPlusDcLut (b2bIdx syncReport.b))
          (nEffTx2ProcessingStageLen.getD syncReport.nEffTx 0) =
          .ok processingStage ∧
        processingStage.nStage = nTxMax ∧
        processingStage.nTDomain =
          nEffTx2ProcessingStageLen.getD syncReport.nEffTx 0 :=
    ⟨_, ProcessingStage.setConfiguration_eq fFits tFits, isStage, rfl⟩
  have ready :
      (reset components left syncReport processingStage).symbols.Ready nTxMax
        (nEffTx2ProcessingStageLen.getD syncReport.nEffTx 0) 0 :=
    ⟨sameStage, isLength, List.length_replicate.trans sameStage, rfl, rfl⟩
  have some : 0 < nEffTx2ProcessingStageLen.getD syncReport.nEffTx 0 := by
    rcases nTs_cases nTsValid with is | is | is | is
    all_goals
      rw [is]
      decide
  obtain ⟨resampled, isResampled, received, -, -, -⟩ :=
    SymbolStage.runMixResample_spec ready some
  refine ⟨reset components left syncReport processingStage,
      { reset components left syncReport processingStage with
        symbols := resampled },
      ?_, ?_, Pcc.getPccSymbolIdxMax_eq bValid nTsValid allocation waits.pcc,
      ⟨received, ?_, rfl, rfl⟩, rfl, rfl, rfl, ?_, ?_, waits.pcc, rfl, ?_⟩
  · rw [reconfigure, isConfigured]
    rfl
  · have isSlot :
        (reset components left syncReport processingStage).ofdmSymbPsIdx = 0 :=
      rfl
    rw [runMixResample, isSlot, isResampled]
    rfl
  · refine ⟨waits.drs, tables, isMax, rfl, rfl, ?_, ?_, fun late =>
        absurd late (Nat.lt_irrefl 1)⟩
    · exact fun access member => absurd member List.not_mem_nil
    · exact fun access member => absurd member List.not_mem_nil
  · exact fun tIdx before => absurd before (Nat.not_lt_zero tIdx)
  · exact fun tIdx isLast => absurd isLast (Nat.succ_ne_zero tIdx).symm
  · exact ⟨⟨waits.pdc, rfl, (Nat.zero_mul _).symm⟩, rfl, fun access member =>
        absurd member List.not_mem_nil⟩

theorem demoddecodRxPcc_spec
    (bValid : syncReport.b ∈ bIdx2bLut)
    (nTsValid : syncReport.nEffTx ∈ nTsIdx2NTsVec)
    (fewer : syncReport.nEffTx ≠ 8)
    (nTsInside : syncReport.nEffTx ≤ nTxMax)
    (allocation : Pcc.Allocation syncReport.b syncReport.nEffTx pccLinear)
    (serves :
      components.Serves syncReport.b syncReport.nEffTx nTxMax pccLinear)
    (q : Sp3.PacketSizes)
    (left : Nat × Nat → Option Nat) :
    ∃ rx,
      demoddecodRxPcc components left syncReport = .ok rx ∧
      rx.InPcc syncReport q pccLinear nTxMax
        (getNStep syncReport.nEffTx + 1) nTxMax
        (Pcc.nofSymbols syncReport.b syncReport.nEffTx + 1) := by
  obtain ⟨first, stf, isFirst, isStf, isMax, begun⟩ :=
    reconfigure_spec bValid nTsValid allocation serves q left
  rw [(nEffTx2ProcessingStageLen_eq nTsValid fewer).1] at begun
  have early := Pcc.nofSymbols_le syncReport.b syncReport.nEffTx
  have long := Drs.five_le_getNStep syncReport.nEffTx
  have idle : ∀ symbol, 1 < symbol →
      symbol < 1 + Pcc.nofSymbols syncReport.b syncReport.nEffTx →
        ChannelEstimator.hasDrs syncReport.nEffTx symbol = false := by
    intro symbol late before
    rw [Bool.eq_false_iff]
    intro isDrs
    obtain ⟨n, isSymbol⟩ :=
      (ChannelEstimator.hasDrs_iff nTsValid fewer).mp isDrs
    have some : 1 ≤ n := by
      by_contra none
      have isZero : n = 0 := by omega
      rw [isZero, Nat.zero_mul] at isSymbol
      omega
    have product := Nat.mul_le_mul_right (getNStep syncReport.nEffTx) some
    omega
  obtain ⟨rx, isRx, inPcc⟩ :=
    collectPccSymbols_spec nTsValid nTsInside allocation begun
      (Pcc.nofSymbols syncReport.b syncReport.nEffTx) idle (by omega)
  rw [Nat.add_comm 1] at inPcc
  have isPcc : rx.pccIdx = Pcc.pccCells := by
    rw [inPcc.pccIdx_eq, Nat.add_sub_cancel]
    exact Pcc.sum_length_columnOf_nofSymbols bValid nTsValid allocation
  refine ⟨rx, ?_, inPcc⟩
  rw [demoddecodRxPcc, isFirst, ok_bind, isStf, ok_bind]
  dsimp only
  rw [isMax, isRx, ok_bind, isPcc, beq_self_eq_true]
  rfl

/-- Eight streams have reference signals in the second control symbol. -/
theorem demoddecodRxPcc_eq_error
    (bValid : syncReport.b ∈ bIdx2bLut)
    (isEight : syncReport.nEffTx = 8)
    (nTsInside : syncReport.nEffTx ≤ nTxMax)
    (allocation : Pcc.Allocation syncReport.b syncReport.nEffTx pccLinear)
    (serves :
      components.Serves syncReport.b syncReport.nEffTx nTxMax pccLinear)
    (q : Sp3.PacketSizes)
    (left : Nat × Nat → Option Nat) :
    demoddecodRxPcc components left syncReport =
      .error (.assertion "t_idx too large") := by
  have nTsValid : syncReport.nEffTx ∈ nTsIdx2NTsVec := by
    rw [isEight]
    decide
  obtain ⟨first, stf, isFirst, isStf, isMax, begun⟩ :=
    reconfigure_spec bValid nTsValid allocation serves q left
  obtain ⟨further, isFurther⟩ : ∃ further,
      Pcc.nofSymbols syncReport.b syncReport.nEffTx = further + 2 := by
    have isNof :
        Pcc.nofSymbols syncReport.b 8 = if syncReport.b = 1 then 4 else 3 :=
      rfl
    rw [isEight, isNof]
    split
    · exact ⟨2, rfl⟩
    · exact ⟨1, rfl⟩
  have inside : 1 < nEffTx2ProcessingStageLen.getD syncReport.nEffTx 0 := by
    rw [isEight]
    decide
  have refused :=
    collectPccSymbols_eq_error isEight nTsInside allocation begun inside
      further
  rw [demoddecodRxPcc, isFirst, ok_bind, isStf, ok_bind]
  dsimp only
  rw [isMax, isFurther, refused]
  rfl

/-- Symbols of a packet whose cells have a property. -/
def symbolsWith
    (cells : List SymbolCells)
    (has : SymbolCells → Bool) :
    List Nat :=
  (List.range' 1 cells.length).filter fun l => (cells[l - 1]?).any has

/--
Each symbol is transformed once, each one with reference signals is used once,
data is demapped once for each symbol that has any, in their order, and every
call reads the symbol on behalf of which it runs.
-/
structure Aligned
    (rx : StageReceiver)
    (nRx : Nat)
    (cells : List SymbolCells) :
    Prop where
  collected :
    rx.symbols.collected =
      (List.range (cells.length + 1)).map fun symbol => (symbol, symbol)
  estimated :
    rx.estimator.estimated.map Prod.fst =
      symbolsWith cells fun symbol => !symbol.drs.isEmpty
  estimatedAligned :
    ∀ access ∈ rx.estimator.estimated, access.Aligned nRx
  interpolatedAligned :
    ∀ access ∈ rx.estimator.interpolated, access.Aligned nRx
  demapped :
    rx.demapped.map Prod.fst =
      symbolsWith cells fun symbol => !symbol.pdc.isEmpty
  demappedAligned : ∀ access ∈ rx.demapped, access.Aligned nRx

theorem symbolsWith_patternAt
    (b nTs : Nat)
    (pccLinear : List Nat)
    (count : Nat)
    (has : SymbolCells → Bool) :
    symbolsWith
        ((List.range' 1 count).map
          (ResourceGrid.patternAt b nTs pccLinear)) has =
      (List.range' 1 count).filter fun l =>
        has (ResourceGrid.patternAt b nTs pccLinear l) := by
  unfold symbolsWith
  rw [List.length_map, List.length_range']
  refine List.filter_congr ?_
  intro l member
  rw [List.mem_range'_1] at member
  have isAt : (List.range' 1 count)[l - 1]? = some l := by
    rw [List.getElem?_range' (by omega)]
    congr 1
    omega
  rw [List.getElem?_map, isAt]
  rfl

/-- A packet whose symbols are all collected is aligned. -/
theorem InTail.aligned
    {rx : StageReceiver}
    {q : Sp3.PacketSizes}
    {length : Nat}
    (nTsValid : syncReport.nEffTx ∈ nTsIdx2NTsVec)
    (inTail :
      rx.InTail syncReport q pccLinear nTxMax length nTxMax (q.nDfSymb + 1)) :
    rx.Aligned nTxMax
      ((List.range' 1 q.nDfSymb).map
        (ResourceGrid.patternAt syncReport.b syncReport.nEffTx
          pccLinear)) := by
  obtain ⟨⟨ready, waits, -, -⟩, -, demapped, -, -⟩ := inTail
  have streams := nTs_cases nTsValid
  refine ⟨?_, ?_, waits.estimatedAligned, waits.interpolatedAligned, ?_,
      demapped.aligned⟩
  · rw [List.length_map, List.length_range']
    exact ready.collected_eq
  · rw [symbolsWith_patternAt, waits.estimated_eq, Nat.add_sub_cancel]
    refine List.filter_congr ?_
    intro l _
    rw [ResourceGrid.patternAt, ChannelEstimator.hasDrs, Drs.rowsAt]
    cases Drs.groupAt syncReport.nEffTx l with
    | none => rfl
    | some occurrence =>
        have some : min syncReport.nEffTx 4 ≠ 0 := by omega
        obtain ⟨others, isSucc⟩ := Nat.exists_eq_succ_of_ne_zero some
        dsimp only
        rw [isSucc]
        rfl
  · rw [symbolsWith_patternAt, demapped.demapped_eq, Nat.add_sub_cancel]
    rfl

end

/-- What the synchronization reports for a packet. -/
def syncReportOf (q : Sp3.PacketSizes) : SyncReport where
  u := q.psdef.u
  b := q.psdef.b
  nEffTx := q.tmMode.nEffTx

/-- A packet is received without a fault, and the stages stay aligned. -/
def StaysAligned
    (components : Components)
    (left : Nat × Nat → Option Nat)
    (q : Sp3.PacketSizes)
    (type1NSs type2NSs : Option Nat)
    (chestimModeLrDefault : Bool)
    (chestimModeLrTStride : Nat)
    (decodeTbStatusLatest : Bool) :
    Prop :=
  ∃ cells outcome,
    (components.grid.setConfiguration q.psdef.b
        q.tmMode.nEffTx).runSymbols 1 q.nDfSymb =
      .ok cells ∧
    demoddecodRx components left (syncReportOf q) q type1NSs type2NSs
        chestimModeLrDefault chestimModeLrTStride decodeTbStatusLatest =
      .ok outcome ∧
    ∀ rx, outcome = some rx →
      rx.Aligned components.processingStage.nStage cells

/--
A packet stays aligned unless it has eight streams.  If it goes on behind its
control channel, its modulation needs a demapper, and it must not end with the
control channel.  If its checksum is correct, there must not be eight antennas.
-/
theorem staysAligned_iff
    {bMax nTxMax nTsMax : Nat}
    (bMaxValid : bMax ∈ bIdx2bLut)
    (nTxMaxValid : nTxMax ∈ nTsIdx2NTsVec)
    (nTsMaxValid : nTsMax ∈ nTsIdx2NTsVec)
    {qq : Sp3.PacketSizesDef}
    {q : Sp3.PacketSizes}
    (returned : Sp3.getPacketSizes qq = .ok (some q))
    (bInside : q.psdef.b ≤ bMax)
    (txInside : q.tmMode.nEffTx ≤ nTxMax)
    (tsInside : q.tmMode.nEffTx ≤ nTsMax) :
    ∃ components,
      Components.create bMax nTxMax nTsMax = .ok components ∧
      components.processingStage.nStage = nTxMax ∧
      ∀ (left : Nat × Nat → Option Nat) (type1NSs type2NSs : Option Nat),
        (type1NSs = some q.tmMode.nSs ∨ type2NSs = some q.tmMode.nSs) →
        ∀ (chestimModeLrDefault : Bool) (chestimModeLrTStride : Nat)
          (decodeTbStatusLatest : Bool),
          StaysAligned components left q type1NSs type2NSs
              chestimModeLrDefault chestimModeLrTStride
              decodeTbStatusLatest ↔
            q.tmMode.nEffTx ≠ 8 ∧
              (blockNSsTxLarger1AtPcc type1NSs type2NSs = false →
                q.psdef.mcsIndex ≤ 9 ∧
                  Pcc.nofSymbols q.psdef.b q.tmMode.nEffTx < q.nDfSymb ∧
                  (decodeTbStatusLatest = true → nTxMax ≠ 8)) := by
  have valid := Sp3.valid_of_getPacketSizes returned
  have hasCells := (Sp3.getPacketSizes_segmentation returned).2.1
  obtain ⟨tmMode, modeMember, mcs, -, -, -, packetValid, sizes⟩ :=
    Sp3.getPacketSizes_sizes returned
  have bValid : q.psdef.b ∈ bIdx2bLut := by
    rw [sizes.psdef]
    exact valid.b_mem
  have nTsValid : q.tmMode.nEffTx ∈ nTsIdx2NTsVec := by
    rw [sizes.isTmMode]
    exact packetValid.nTs_mem
  have streams : 1 ≤ q.tmMode.nSs := by
    have all : ∀ tmMode ∈ Sp3.tmModes, 1 ≤ tmMode.nSs := by
      decide
    rw [sizes.isTmMode]
    exact all tmMode modeMember
  have isSmall : q.nDfSymb < 2 ^ 32 :=
    (Sp3.getPacketSizes_nDfSymb_le returned).trans_lt (by decide)
  obtain ⟨components, pccLinear, isComponents, created, allocation,
    serves, isMimo⟩ :=
    Components.create_serves bMaxValid nTxMaxValid nTsMaxValid bValid bInside
      nTsValid txInside tsInside
  refine ⟨components, isComponents, serves.nStage_eq, ?_⟩
  intro left type1NSs type2NSs announced chestimModeLrDefault
    chestimModeLrTStride decodeTbStatusLatest
  by_cases isEight : q.tmMode.nEffTx = 8
  · have refused :=
      @demoddecodRxPcc_eq_error _ (syncReportOf q) _ _ bValid isEight
        txInside allocation serves q left
    refine ⟨?_, fun condition => absurd isEight condition.1⟩
    rintro ⟨cells, outcome, -, isOutcome, -⟩
    rw [demoddecodRx, refused] at isOutcome
    cases isOutcome
  · have isCells :
        Tx.nofCells q.psdef.b q.tmMode.nEffTx pccLinear 1 q.nDfSymb =
          q.nPdcSubc := by
      rw [sizes.nPdcSubc] at hasCells ⊢
      rw [sizes.psdef, sizes.isTmMode] at allocation ⊢
      rw [sizes.nDfSymb]
      exact Pdc.sum_length_rowAt valid.b_mem packetValid allocation hasCells
    have isDrs :
        ((List.range' 1 q.nDfSymb).map
            (ChannelEstimator.drsCells q.psdef.b q.tmMode.nEffTx)).sum =
          q.nDrsSubc := by
      rw [sizes.isTmMode] at isEight
      rw [sizes.nDrsSubc, sizes.nDfSymb, sizes.psdef, sizes.isTmMode]
      exact ChannelEstimator.sum_drsCells packetValid isEight qq.b
    obtain ⟨rx, isRx, inPcc⟩ :=
      @demoddecodRxPcc_spec _ (syncReportOf q) _ _ bValid nTsValid
        isEight txInside allocation serves q left
    have symbols :=
      ResourceGrid.runSymbols_spec bValid nTsValid allocation serves.grid
        (Nat.le_refl 1) q.nDfSymb
    cases blocked : blockNSsTxLarger1AtPcc type1NSs type2NSs with
    | true =>
        refine
          ⟨fun _ => ⟨isEight, fun isFalse => by cases isFalse⟩, fun _ =>
            ⟨_, none, symbols, ?_, fun after isNone => by cases isNone⟩⟩
        rw [demoddecodRx, isRx, Checked.ok_bind, blocked]
        rfl
    | false =>
        have single : q.tmMode.nSs = 1 := by
          unfold blockNSsTxLarger1AtPcc at blocked
          rw [Bool.or_eq_false_iff] at blocked
          have few : ¬ 1 < q.tmMode.nSs := by
            rcases announced with isFirst | isSecond
            · rw [isFirst] at blocked
              exact of_decide_eq_false blocked.1
            · rw [isSecond] at blocked
              exact of_decide_eq_false blocked.2
          omega
        have goesOn :
            demoddecodRx components left (syncReportOf q) q type1NSs type2NSs
                chestimModeLrDefault chestimModeLrTStride
                decodeTbStatusLatest =
              (rx.demoddecodRxPdc components.estimatorMimo (syncReportOf q) q
                  chestimModeLrDefault chestimModeLrTStride
                  decodeTbStatusLatest).map some := by
          rw [demoddecodRx, isRx, Checked.ok_bind, blocked]
          rfl
        have received mcsInside inside :=
          @demoddecodRxPdc_spec _ _ _ _ _ rx
            ⟨bValid, nTsValid, allocation, fun _ => single⟩ created isEight
            txInside inPcc mcsInside inside isSmall single isCells isDrs
            (Sp3.getPacketSizes_G_of_single returned single)
            components.estimatorMimo chestimModeLrDefault
            chestimModeLrTStride decodeTbStatusLatest
        have estimates :
            components.estimatorMimo.processDrs nTxMax nTxMax q.psdef.b
                q.tmMode.nEffTx 0 (q.tmMode.nEffTx - 1) = .ok () ↔
              nTxMax ≠ 8 := by
          rw [isMimo]
          exact EstimatorMimo.processDrs_eq_ok_iff rfl bInside
            (pos_of_mem_bIdx2bLut bValid) nTxMaxValid nTsValid isEight txInside
            tsInside
        constructor
        · rintro ⟨cells, outcome, -, isOutcome, -⟩
          refine ⟨isEight, fun _ => ?_⟩
          rw [goesOn] at isOutcome
          cases accepted :
              HeaderAdmission.demoddecodRxPdc rx.ofdmSymbIdx q with
          | error fault =>
              rw [demoddecodRxPdc, accepted] at isOutcome
              cases isOutcome
          | ok _ =>
              obtain ⟨_, isMcs, isSymb⟩ := Checked.bind_eq_ok.mp accepted
              have inside := of_decide_eq_true (dectnrpAssert_eq_ok.mp isSymb)
              rw [inPcc.walked.ofdmSymbIdx_eq] at inside
              have mcsInside :=
                of_decide_eq_true (dectnrpAssert_eq_ok.mp isMcs)
              refine ⟨mcsInside, inside, fun isCorrect => ?_⟩
              obtain ⟨after, isAfter, -⟩ := received mcsInside inside
              rw [isAfter, isCorrect, if_pos rfl] at isOutcome
              refine estimates.mp ?_
              cases isEstimated : components.estimatorMimo.processDrs nTxMax
                  nTxMax q.psdef.b q.tmMode.nEffTx 0 (q.tmMode.nEffTx - 1) with
              | ok _ => rfl
              | error fault =>
                  erw [isEstimated] at isOutcome
                  cases isOutcome
        · rintro ⟨-, condition⟩
          obtain ⟨mcsInside, inside, fewAntennas⟩ := condition rfl
          obtain ⟨after, isAfter, inTail⟩ := received mcsInside inside
          have isEstimated :
              (if decodeTbStatusLatest then
                components.estimatorMimo.processDrs nTxMax nTxMax q.psdef.b
                  q.tmMode.nEffTx 0 (q.tmMode.nEffTx - 1)
              else pure ()) = .ok () := by
            cases decodeTbStatusLatest with
            | true => exact estimates.mpr (fewAntennas rfl)
            | false => rfl
          refine ⟨_, some after, symbols, ?_, ?_⟩
          · rw [goesOn, isAfter]
            erw [isEstimated]
            rfl
          · intro received isReceived
            cases isReceived
            rw [serves.nStage_eq]
            exact inTail.aligned nTsValid

/-- A packet of two subslots with one stream of QPSK stays aligned. -/
theorem staysAligned_iff_oneStream :
    ∃ q components,
      Sp3.getPacketSizes ⟨1, 1, 0, 2, 0, 1, 2048⟩ = .ok (some q) ∧
      Components.create 1 1 1 = .ok components ∧
      components.processingStage.nStage = 1 ∧
      StaysAligned components (fun _ => none) q (some 1) none true 2
        true := by
  have listed :
      (Sp3.getPacketSizes ⟨1, 1, 0, 2, 0, 1, 2048⟩).toOption.join.any
        (fun q =>
          decide
            (q.psdef.b ≤ 1 ∧ q.tmMode.nEffTx ≤ 1 ∧ q.tmMode.nSs = 1 ∧
              q.psdef.mcsIndex ≤ 9 ∧
              Pcc.nofSymbols q.psdef.b q.tmMode.nEffTx < q.nDfSymb)) =
          true := by
    decide +kernel
  obtain ⟨q, isQ, listed⟩ := (Option.any_eq_true _ _).mp listed
  obtain ⟨narrow, single, oneStream, mcsInside, inside⟩ :=
    of_decide_eq_true listed
  have returned := Checked.eq_ok_of_toOption (Option.join_eq_some_iff.mp isQ)
  obtain ⟨components, isComponents, isStage, aligned⟩ :=
    @staysAligned_iff 1 1 1 (by decide) (by decide) (by decide) _ q returned
      narrow single single
  refine ⟨q, components, returned, isComponents, isStage, ?_⟩
  exact
    (aligned (fun _ => none) (some 1) none
        (.inl (congrArg some oneStream.symm)) true 2 true).mpr
      ⟨by omega, fun _ => ⟨mcsInside, inside, fun _ => by decide⟩⟩

/-- A packet with eight streams stops at its second control symbol. -/
theorem not_staysAligned_eightStreams :
    ∃ q components,
      Sp3.getPacketSizes ⟨1, 1, 1, 4, 10, 1, 2048⟩ = .ok (some q) ∧
      q.tmMode.nEffTx = 8 ∧ q.tmMode.nSs = 1 ∧
      Components.create 1 8 8 = .ok components ∧
      demoddecodRxPcc components (fun _ => none) (syncReportOf q) =
        .error (.assertion "t_idx too large") ∧
      ¬ StaysAligned components (fun _ => none) q (some 1) none true 2
          true := by
  have listed :
      (Sp3.getPacketSizes ⟨1, 1, 1, 4, 10, 1, 2048⟩).toOption.join.any
        (fun q =>
          decide
            (q.psdef.b = 1 ∧ q.tmMode.nEffTx = 8 ∧ q.tmMode.nSs = 1)) =
          true := by
    decide +kernel
  obtain ⟨q, isQ, listed⟩ := (Option.any_eq_true _ _).mp listed
  obtain ⟨narrow, isEight, oneStream⟩ := of_decide_eq_true listed
  have returned := Checked.eq_ok_of_toOption (Option.join_eq_some_iff.mp isQ)
  have bValid : q.psdef.b ∈ bIdx2bLut := by
    rw [narrow]
    decide
  have nTsValid : q.tmMode.nEffTx ∈ nTsIdx2NTsVec := by
    rw [isEight]
    decide
  obtain ⟨components, pccLinear, isComponents, -, allocation, serves, -⟩ :=
    @Components.create_serves 1 8 8 q.psdef.b q.tmMode.nEffTx (by decide)
      (by decide) (by decide) bValid (Nat.le_of_eq narrow) nTsValid
      (Nat.le_of_eq isEight) (Nat.le_of_eq isEight)
  have refused :=
    @demoddecodRxPcc_eq_error _ (syncReportOf q) _ _ bValid isEight
      (Nat.le_of_eq isEight) allocation serves q fun _ => none
  refine
    ⟨q, components, returned, isEight, oneStream, isComponents, refused, ?_⟩
  rintro ⟨cells, outcome, -, isOutcome, -⟩
  rw [demoddecodRx, refused] at isOutcome
  cases isOutcome

end StageReceiver

end RxSynced

end DectNrp
