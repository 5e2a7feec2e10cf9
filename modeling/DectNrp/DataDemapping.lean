import DectNrp.AllocatedCells
import DectNrp.HeaderAdmission

namespace DectNrp

open ColumnTables
open Phyres
open VirtualFrame

/-!
# Demapping the data channel

The receiver collects the data cells in processing stages if channel estimates
to the left and right are to be used, and otherwise symbol by symbol.  A stage
of eight streams ends with a symbol that is not looked at again, which has
reference signals only.  The counters of cells and bits end where the sizes of
the packet say.
-/

open Checked (ok_bind pure_eq_ok)

namespace RxSynced

open HeaderAdmission

/-- Length of a processing stage with two symbols of reference signals. -/
def nEffTx2ProcessingStageLen : List Nat :=
  [0, 6, 6, 0, 11, 0, 0, 0, 12]

/-- What the receiver carries from one symbol with data to the next. -/
structure PdcReceiver where
  pdc : Pdc
  psIdx : Nat
  ofdmSymbIdx : Nat
  pdcSubcIdx : Nat
  pdcBitsIdx : Nat
  deriving Repr, DecidableEq

namespace PdcReceiver

/-- A number of cells is demapped. -/
def demap
    (rx : PdcReceiver)
    (q : Sp3.PacketSizes)
    (cells : Nat) :
    PdcReceiver :=
  { rx with
    pdcSubcIdx := rx.pdcSubcIdx + cells
    pdcBitsIdx := rx.pdcBitsIdx + cells * q.mcs.nBps }

/-- Two halves of the spectrum if there are data cells only, else cell by cell. -/
def runPdcModeSingleAntenna
    (rx : PdcReceiver)
    (q : Sp3.PacketSizes)
    (nBOcc : Nat)
    (kIOneSymbol : List Nat) :
    PdcReceiver :=
  let stepMax := if kIOneSymbol.length = nBOcc then 2 else 1
  let stepWidth := if stepMax = 2 then nBOcc / 2 else nBOcc + 1
  (List.range stepMax).foldl
    (fun rx _ =>
      if stepMax = 2 then
        rx.demap q stepWidth
      else
        kIOneSymbol.foldl (fun rx _ => rx.demap q 1) rx)
    rx

/-- Cells are combined in pairs. -/
def runPdcModeTransmitDiversity
    (rx : PdcReceiver)
    (q : Sp3.PacketSizes)
    (kIOneSymbol : List Nat) :
    Checked PdcReceiver := do
  dectnrpAssert (kIOneSymbol.length % 2 == 0) "must be even"
  pure (rx.demap q kIOneSymbol.length)

/-- Several spatial streams are not demapped yet. -/
def runPdcModeAxAMimo (rx : PdcReceiver) : PdcReceiver :=
  rx

def runPdc
    (rx : PdcReceiver)
    (syncReport : SyncReport)
    (q : Sp3.PacketSizes)
    (kIOneSymbol : List Nat) :
    Checked PdcReceiver :=
  if syncReport.nEffTx = 1 then
    .ok
      (rx.runPdcModeSingleAntenna q (nBOccLut (b2bIdx syncReport.b))
        kIOneSymbol)
  else if q.tmMode.nSs = 1 then
    rx.runPdcModeTransmitDiversity q kIOneSymbol
  else
    .ok rx.runPdcModeAxAMimo

/-- Data cells of a symbol, if it has any. -/
def collectSymbol
    (rx : PdcReceiver)
    (syncReport : SyncReport)
    (q : Sp3.PacketSizes)
    (l : Nat) :
    Checked PdcReceiver := do
  let (found, pdc) ← rx.pdc.isSymbolIndex l
  let rx := { rx with pdc := pdc }
  if found then do
    let kIOneSymbol ← pdc.getKIOneSymbol
    rx.runPdc syncReport q kIOneSymbol
  else
    pure rx

/-- Data cells of a number of symbols from `l` on. -/
def collectSymbols
    (rx : PdcReceiver)
    (syncReport : SyncReport)
    (q : Sp3.PacketSizes) :
    (l count : Nat) → Checked PdcReceiver
  | _, 0 => pure rx
  | l, count + 1 => do
      let rx ← rx.collectSymbol syncReport q l
      rx.collectSymbols syncReport q (l + 1) count

/--
A processing stage with channel estimates to the left and right.  Its first
symbol is the last one of the stage before.
-/
def runProcessingStage
    (rx : PdcReceiver)
    (syncReport : SyncReport)
    (q : Sp3.PacketSizes)
    (psTLength nStep : Nat) :
    Checked PdcReceiver := do
  let firstIdx := 1 + rx.psIdx * nStep
  let finalIdx := psTLength + rx.psIdx * nStep
  let relativeStart := if rx.psIdx = 0 then 0 else 1
  let rx := { rx with ofdmSymbIdx := max rx.ofdmSymbIdx (finalIdx + 1) }
  let rx ←
    rx.collectSymbols syncReport q (firstIdx + relativeStart)
      (nStep + 1 - relativeStart)
  pure { rx with psIdx := rx.psIdx + 1 }

/-- A number of processing stages. -/
def runProcessingStages
    (rx : PdcReceiver)
    (syncReport : SyncReport)
    (q : Sp3.PacketSizes)
    (psTLength nStep : Nat) :
    (count : Nat) → Checked PdcReceiver
  | 0 => pure rx
  | count + 1 => do
      let rx ← rx.runProcessingStage syncReport q psTLength nStep
      rx.runProcessingStages syncReport q psTLength nStep count

/-- All processing stages that are complete. -/
def runPdcPsInChestimModeLrT
    (rx : PdcReceiver)
    (syncReport : SyncReport)
    (q : Sp3.PacketSizes) :
    Checked PdcReceiver :=
  let nStep := Drs.getNStep syncReport.nEffTx
  let psTLength := nEffTx2ProcessingStageLen.getD syncReport.nEffTx 0
  let nofFullPs := Tx.wordSub q.nDfSymb (psTLength - nStep) / nStep
  rx.runProcessingStages syncReport q psTLength nStep
    (nofFullPs - rx.psIdx)

/--
Symbols that were collected for the control channel, and all later ones.  The
index of the processing stage is not needed behind them.
-/
def runPdcPsInChestimModeLrF
    (rx : PdcReceiver)
    (syncReport : SyncReport)
    (q : Sp3.PacketSizes) :
    Checked PdcReceiver := do
  let rx ←
    (if rx.psIdx = 0 then
      rx.collectSymbols syncReport q 1 (rx.ofdmSymbIdx - 1)
    else
      pure rx)
  let rx ←
    rx.collectSymbols syncReport q rx.ofdmSymbIdx
      (q.nDfSymb + 1 - rx.ofdmSymbIdx)
  pure { rx with ofdmSymbIdx := max rx.ofdmSymbIdx (q.nDfSymb + 1) }

/-- The data channel with the assertions on its counters. -/
def demoddecodRxPdc
    (rx : PdcReceiver)
    (chestimModeLrDefault : Bool)
    (syncReport : SyncReport)
    (q : Sp3.PacketSizes) :
    Checked PdcReceiver := do
  HeaderAdmission.demoddecodRxPdc rx.ofdmSymbIdx q
  let rx ←
    (if chestimModeLrDefault then
      rx.runPdcPsInChestimModeLrT syncReport q
    else
      pure rx)
  let rx ← rx.runPdcPsInChestimModeLrF syncReport q
  dectnrpAssert (rx.pdcBitsIdx == q.G)
    "incorrect number of PDC bits written"
  dectnrpAssert (rx.pdcSubcIdx == q.nPdcSubc * q.tmMode.nSs)
    "incorrect number of PDC subcarriers written across all transmit streams"
  pure rx

theorem demap_zero
    (rx : PdcReceiver)
    (q : Sp3.PacketSizes) :
    rx.demap q 0 = rx := by
  simp [demap]

theorem demap_demap
    (rx : PdcReceiver)
    (q : Sp3.PacketSizes)
    (first second : Nat) :
    (rx.demap q first).demap q second = rx.demap q (first + second) := by
  simp only [demap, Nat.add_mul, Nat.add_assoc]

theorem foldl_demap
    (rx : PdcReceiver)
    (q : Sp3.PacketSizes)
    (cells : List Nat) :
    cells.foldl (fun rx _ => rx.demap q 1) rx = rx.demap q cells.length := by
  induction cells generalizing rx with
  | nil => exact (demap_zero rx q).symm
  | cons _ cells hypothesis =>
      rw [List.foldl_cons, hypothesis, demap_demap,
        List.length_cons, Nat.add_comm]

theorem runPdcModeSingleAntenna_eq
    {nBOcc : Nat}
    (halves : nBOcc % 2 = 0)
    (rx : PdcReceiver)
    (q : Sp3.PacketSizes)
    (kIOneSymbol : List Nat) :
    rx.runPdcModeSingleAntenna q nBOcc kIOneSymbol =
      rx.demap q kIOneSymbol.length := by
  unfold runPdcModeSingleAntenna
  by_cases full : kIOneSymbol.length = nBOcc
  · have both : nBOcc / 2 + nBOcc / 2 = nBOcc := by omega
    simp only [if_pos full, List.range_succ, List.range_zero,
      List.nil_append, List.foldl_append, List.foldl_cons, List.foldl_nil,
      if_true]
    rw [demap_demap, both, full]
  · simp only [if_neg full, List.range_succ, List.range_zero,
      List.nil_append, List.foldl_cons, List.foldl_nil]
    exact foldl_demap rx q kIOneSymbol

theorem runPdc_eq
    {syncReport : SyncReport}
    {q : Sp3.PacketSizes}
    (bValid : syncReport.b ∈ bIdx2bLut)
    (singleStream : syncReport.nEffTx ≠ 1 → q.tmMode.nSs = 1)
    {kIOneSymbol : List Nat}
    (fourteen : 14 ∣ kIOneSymbol.length)
    (rx : PdcReceiver) :
    rx.runPdc syncReport q kIOneSymbol =
      .ok (rx.demap q kIOneSymbol.length) := by
  unfold runPdc
  by_cases single : syncReport.nEffTx = 1
  · rw [if_pos single, runPdcModeSingleAntenna_eq]
    rw [nBOccLut_b2bIdx bValid]
    omega
  · have even : kIOneSymbol.length % 2 = 0 := by omega
    rw [if_neg single, if_pos (singleStream single)]
    simp only [runPdcModeTransmitDiversity, even, beq_self_eq_true,
      dectnrpAssert_true, ok_bind, pure_eq_ok]

section

variable
  {syncReport : SyncReport}
  {q : Sp3.PacketSizes}
  {pccLinear : List Nat}

/-- Cells that were collected, and the table for the symbols to come. -/
structure Collected
    (syncReport : SyncReport)
    (q : Sp3.PacketSizes)
    (pccLinear : List Nat)
    (rx : PdcReceiver)
    (cells : Nat) :
    Prop where
  table : Pdc.HoldsTable rx.pdc syncReport.b syncReport.nEffTx pccLinear
  subc : rx.pdcSubcIdx = cells
  bits : rx.pdcBitsIdx = cells * q.mcs.nBps

/-- What is known of a packet with one spatial stream. -/
structure SingleStream
    (syncReport : SyncReport)
    (q : Sp3.PacketSizes)
    (pccLinear : List Nat) :
    Prop where
  b_mem : syncReport.b ∈ bIdx2bLut
  nEffTx_mem : syncReport.nEffTx ∈ nTsIdx2NTsVec
  allocation : Pcc.Allocation syncReport.b syncReport.nEffTx pccLinear
  single : syncReport.nEffTx ≠ 1 → q.tmMode.nSs = 1

variable {rx : PdcReceiver}

/-- The data cells of a symbol are counted, and the stage stays the same. -/
theorem collectSymbol_spec
    (packet : SingleStream syncReport q pccLinear)
    {cells l : Nat}
    (collected : Collected syncReport q pccLinear rx cells)
    (positive : 1 ≤ l) :
    ∃ after,
      rx.collectSymbol syncReport q l = .ok after ∧
      Collected syncReport q pccLinear after
        (cells +
          (Pdc.rowAt syncReport.b syncReport.nEffTx pccLinear l).length) ∧
      after.psIdx = rx.psIdx ∧ after.ofdmSymbIdx = rx.ofdmSymbIdx := by
  obtain ⟨table, subc, bits⟩ := collected
  obtain ⟨pdc, isRun, isTable⟩ :=
    Pdc.runSymbol_spec packet.b_mem packet.nEffTx_mem packet.allocation
      table positive
  obtain ⟨isFound, isKI⟩ := Pdc.isSymbolIndex_of_runSymbol isRun
  have fourteen :=
    Pdc.length_rowAt packet.b_mem packet.nEffTx_mem packet.allocation l
  unfold collectSymbol
  rw [isFound, ok_bind]
  dsimp only
  by_cases none : Pdc.rowAt syncReport.b syncReport.nEffTx pccLinear l = []
  · refine ⟨{ rx with pdc := pdc }, ?_, ⟨isTable, ?_, ?_⟩, rfl, rfl⟩
    · rw [none, List.isEmpty_nil, Bool.not_true, if_neg Bool.false_ne_true,
        pure_eq_ok]
    · rw [none]
      exact subc
    · rw [none]
      exact bits
  · rw [if_pos (by simpa using none), isKI none, ok_bind,
      runPdc_eq packet.b_mem packet.single fourteen]
    refine ⟨_, rfl, ⟨isTable, ?_, ?_⟩, rfl, rfl⟩
    · dsimp only [demap]
      rw [subc]
    · dsimp only [demap]
      rw [bits, Nat.add_mul]

/-- The data cells of consecutive symbols are counted. -/
theorem collectSymbols_spec
    (packet : SingleStream syncReport q pccLinear)
    {cells l : Nat}
    (collected : Collected syncReport q pccLinear rx cells)
    (positive : 1 ≤ l)
    (count : Nat) :
    ∃ after,
      rx.collectSymbols syncReport q l count = .ok after ∧
      Collected syncReport q pccLinear after
        (cells +
          Tx.nofCells syncReport.b syncReport.nEffTx pccLinear l count) ∧
      after.psIdx = rx.psIdx ∧ after.ofdmSymbIdx = rx.ofdmSymbIdx := by
  induction count generalizing rx cells l with
  | zero => exact ⟨rx, rfl, collected, rfl, rfl⟩
  | succ count hypothesis =>
      obtain ⟨next, isNext, isCollected, samePs, sameSymb⟩ :=
        collectSymbol_spec packet collected positive
      obtain ⟨after, isAfter, all, keptPs, keptSymb⟩ :=
        hypothesis isCollected (Nat.le_add_left 1 l)
      refine ⟨after, ?_, ?_, keptPs.trans samePs, keptSymb.trans sameSymb⟩
      · rw [collectSymbols, isNext, ok_bind]
        exact isAfter
      · rw [Tx.nofCells_succ, ← Nat.add_assoc]
        exact all

/-- Cells of the symbols that a number of processing stages has collected. -/
def stageCells
    (b nTs : Nat)
    (pccLinear : List Nat)
    (nStep : Nat) :
    (stages : Nat) → Nat
  | 0 => 0
  | stages + 1 => Tx.nofCells b nTs pccLinear 1 (1 + (stages + 1) * nStep)

theorem stageCells_add
    (b nTs : Nat)
    (pccLinear : List Nat)
    (nStep stages : Nat) :
    stageCells b nTs pccLinear nStep stages +
        Tx.nofCells b nTs pccLinear
          (1 + stages * nStep + if stages = 0 then 0 else 1)
          (nStep + 1 - if stages = 0 then 0 else 1) =
      stageCells b nTs pccLinear nStep (stages + 1) := by
  cases stages with
  | zero => simp [stageCells, Nat.add_comm]
  | succ stages =>
      simp only [stageCells, if_neg (Nat.succ_ne_zero stages)]
      have next :
          1 + (stages + 1) * nStep + 1 = 1 + (1 + (stages + 1) * nStep) := by
        omega
      have whole : 1 + (stages + 1 + 1) * nStep =
          1 + (stages + 1) * nStep + (nStep + 1 - 1) := by
        rw [Nat.add_mul (stages + 1) 1, Nat.one_mul]
        omega
      rw [next, whole,
        Tx.nofCells_add b nTs pccLinear 1 (1 + (stages + 1) * nStep)]

/-- A number of processing stages, each of which continues the one before. -/
theorem runProcessingStages_spec
    (packet : SingleStream syncReport q pccLinear)
    {rx : PdcReceiver}
    {stages psTLength nStep : Nat}
    (isStage : rx.psIdx = stages)
    (collected :
      Collected syncReport q pccLinear rx
        (stageCells syncReport.b syncReport.nEffTx pccLinear nStep stages))
    (early : rx.ofdmSymbIdx ≤ psTLength + stages * nStep + 1)
    (count : Nat) :
    ∃ after,
      rx.runProcessingStages syncReport q psTLength nStep count = .ok after ∧
      Collected syncReport q pccLinear after
        (stageCells syncReport.b syncReport.nEffTx pccLinear nStep
          (stages + count)) ∧
      after.psIdx = stages + count ∧
      after.ofdmSymbIdx =
        if count = 0 then rx.ofdmSymbIdx
        else psTLength + (stages + count - 1) * nStep + 1 := by
  induction count generalizing rx stages with
  | zero => exact ⟨rx, rfl, collected, isStage, rfl⟩
  | succ count hypothesis =>
      obtain ⟨table, subc, bits⟩ := collected
      obtain ⟨next, isNext, isCollected, samePs, sameSymb⟩ :=
        collectSymbols_spec packet (show Collected syncReport q pccLinear
            { rx with
              ofdmSymbIdx :=
                max rx.ofdmSymbIdx (psTLength + rx.psIdx * nStep + 1) }
            _ from
            ⟨table, subc, bits⟩)
          (show 1 ≤ 1 + rx.psIdx * nStep + if rx.psIdx = 0 then 0 else 1 by
            omega)
          (nStep + 1 - if rx.psIdx = 0 then 0 else 1)
      rw [isStage, stageCells_add] at isCollected
      obtain ⟨nextTable, nextSubc, nextBits⟩ := isCollected
      have isSymb : next.ofdmSymbIdx = psTLength + stages * nStep + 1 := by
        rw [sameSymb, isStage]
        exact Nat.max_eq_right early
      obtain ⟨after, isAfter, all, isPs, lastSymb⟩ :=
        @hypothesis { next with psIdx := next.psIdx + 1 }
          (stages + 1) (by rw [samePs, isStage])
          ⟨nextTable, nextSubc, nextBits⟩
          (by rw [isSymb, Nat.add_mul]; omega)
      refine ⟨after, ?_, ?_, ?_, ?_⟩
      · rw [runProcessingStages, runProcessingStage, isNext]
        exact isAfter
      · rw [Nat.add_assoc, Nat.add_comm 1] at all
        exact all
      · omega
      · rw [lastSymb, isSymb, if_neg (Nat.succ_ne_zero count)]
        split
        · rename_i last
          rw [last]
          rfl
        · have same : stages + 1 + count - 1 = stages + (count + 1) - 1 := by
            omega
          rw [same]

theorem rowAt_eq_nil_of_eight
    {b : Nat}
    (bValid : b ∈ bIdx2bLut)
    (pccLinear : List Nat)
    (stages : Nat) :
    Pdc.rowAt b 8 pccLinear (2 + stages * 10) = [] := by
  have isOccurrence : Drs.groupAt 8 (2 + stages * 10) = some (1, stages) :=
    (Drs.groupAt_eq_some (by decide)).mpr ⟨.inr ⟨rfl, rfl⟩, rfl⟩
  have noCells :=
    Drs.length_freeRow_eq bValid (show 8 ∈ nTsIdx2NTsVec by decide)
      (2 + stages * 10)
  rw [isOccurrence, Option.isSome_some, if_pos rfl] at noCells
  have free : Drs.freeRow b 8 (2 + stages * 10) = [] := by
    refine List.eq_nil_of_length_eq_zero ?_
    have four : min 8 4 * (14 * b) = 4 * (14 * b) := rfl
    omega
  unfold Pdc.rowAt
  rw [free, List.filter_nil]

/-- All cells before the next symbol are collected, or those of no symbol yet. -/
def cellsBefore
    (syncReport : SyncReport)
    (pccLinear : List Nat)
    (rx : PdcReceiver) :
    Nat :=
  if rx.psIdx = 0 then 0
  else
    Tx.nofCells syncReport.b syncReport.nEffTx pccLinear 1
      (rx.ofdmSymbIdx - 1)

/-- Complete stages leave off where the symbols are continued one by one. -/
theorem runPdcPsInChestimModeLrT_spec
    (packet : SingleStream syncReport q pccLinear)
    (collected : Collected syncReport q pccLinear rx 0)
    (isFirst : rx.psIdx = 0)
    (later : 2 ≤ rx.ofdmSymbIdx)
    (early : rx.ofdmSymbIdx ≤ 5)
    (inside : rx.ofdmSymbIdx ≤ q.nDfSymb)
    (small : q.nDfSymb < 2 ^ 32) :
    ∃ after,
      rx.runPdcPsInChestimModeLrT syncReport q = .ok after ∧
      Collected syncReport q pccLinear after
        (cellsBefore syncReport pccLinear after) ∧
      1 ≤ after.ofdmSymbIdx ∧ after.ofdmSymbIdx ≤ q.nDfSymb + 1 := by
  have lengths : ∃ psTLength nStep overlap,
      nEffTx2ProcessingStageLen.getD syncReport.nEffTx 0 = psTLength ∧
      Drs.getNStep syncReport.nEffTx = nStep ∧
      psTLength = nStep + overlap ∧ 5 ≤ nStep ∧
      (overlap = 1 ∨ overlap = 2 ∧ nStep = 10 ∧ syncReport.nEffTx = 8) := by
    rcases nTs_cases packet.nEffTx_mem with is | is | is | is
    all_goals rw [is]
    · exact ⟨6, 5, 1, rfl, rfl, rfl, by omega, .inl rfl⟩
    · exact ⟨6, 5, 1, rfl, rfl, rfl, by omega, .inl rfl⟩
    · exact ⟨11, 10, 1, rfl, rfl, rfl, by omega, .inl rfl⟩
    · exact ⟨12, 10, 2, rfl, rfl, rfl, by omega, .inr ⟨rfl, rfl, rfl⟩⟩
  obtain ⟨psTLength, nStep, overlap, isLength, isStep, isSum, long,
    overlaps⟩ := lengths
  unfold runPdcPsInChestimModeLrT
  dsimp only
  rw [isLength, isStep, isFirst, isSum, Nat.add_sub_cancel_left,
    Tx.wordSub_eq (by omega) small]
  generalize isCount : (q.nDfSymb - overlap) / nStep - 0 = stages
  have complete : stages * nStep + overlap ≤ q.nDfSymb := by
    have product := Nat.div_mul_le_self (q.nDfSymb - overlap) nStep
    rw [Nat.sub_zero] at isCount
    rw [isCount] at product
    omega
  obtain ⟨after, isAfter, all, isPs, isSymb⟩ :=
    @runProcessingStages_spec _ _ _ packet rx 0 (nStep + overlap) nStep
      isFirst collected (by omega) stages
  rw [Nat.zero_add] at all isPs isSymb
  refine ⟨after, isAfter, ?_, ?_, ?_⟩
  · unfold cellsBefore
    cases stages with
    | zero =>
        rw [if_pos isPs]
        exact all
    | succ stages =>
        rw [if_neg (by omega), isSymb, if_neg (Nat.succ_ne_zero stages),
          Nat.add_sub_cancel, Nat.add_sub_cancel]
        have next : (stages + 1) * nStep = nStep + stages * nStep := by
          rw [Nat.add_mul, Nat.one_mul, Nat.add_comm]
        have isCells : Tx.nofCells syncReport.b syncReport.nEffTx pccLinear 1
            (nStep + overlap + stages * nStep) =
              stageCells syncReport.b syncReport.nEffTx pccLinear nStep
                (stages + 1) := by
          rw [stageCells]
          rcases overlaps with one | ⟨two, ten, eight⟩
          · rw [one, next]
            congr 1
            omega
          · have further : nStep + overlap + stages * nStep =
                1 + (stages + 1) * nStep + 1 := by
              omega
            have behind :
                1 + (1 + (stages + 1) * nStep) = 2 + (stages + 1) * nStep := by
              omega
            rw [further, Tx.nofCells_add, behind, Tx.nofCells_succ, eight,
              ten, rowAt_eq_nil_of_eight packet.b_mem]
            rfl
        rw [isCells]
        exact all
  · rw [isSymb]
    split <;> omega
  · rw [isSymb]
    cases stages with
    | zero =>
        rw [if_pos rfl]
        omega
    | succ stages =>
        rw [if_neg (Nat.succ_ne_zero stages), Nat.add_sub_cancel]
        rw [Nat.add_mul, Nat.one_mul] at complete
        omega

/-- Symbol by symbol, all cells that are left are collected. -/
theorem runPdcPsInChestimModeLrF_spec
    (packet : SingleStream syncReport q pccLinear)
    (collected :
      Collected syncReport q pccLinear rx
        (cellsBefore syncReport pccLinear rx))
    (positive : 1 ≤ rx.ofdmSymbIdx)
    (inside : rx.ofdmSymbIdx ≤ q.nDfSymb + 1) :
    ∃ after,
      rx.runPdcPsInChestimModeLrF syncReport q = .ok after ∧
      Collected syncReport q pccLinear after
        (Tx.nofCells syncReport.b syncReport.nEffTx pccLinear 1
          q.nDfSymb) := by
  have earlier : ∃ next, (if rx.psIdx = 0 then
      rx.collectSymbols syncReport q 1 (rx.ofdmSymbIdx - 1) else pure rx) =
          .ok next ∧
        Collected syncReport q pccLinear next
          (Tx.nofCells syncReport.b syncReport.nEffTx pccLinear 1
            (rx.ofdmSymbIdx - 1)) ∧
        next.ofdmSymbIdx = rx.ofdmSymbIdx := by
    unfold cellsBefore at collected
    by_cases isFirst : rx.psIdx = 0
    · rw [if_pos isFirst] at collected ⊢
      obtain ⟨next, isNext, isCollected, -, sameSymb⟩ :=
        collectSymbols_spec packet collected (Nat.le_refl 1)
          (rx.ofdmSymbIdx - 1)
      rw [Nat.zero_add] at isCollected
      exact ⟨next, isNext, isCollected, sameSymb⟩
    · rw [if_neg isFirst] at collected ⊢
      exact ⟨rx, rfl, collected, rfl⟩
  obtain ⟨next, isNext, isCollected, sameSymb⟩ := earlier
  obtain ⟨after, isAfter, all, -, -⟩ :=
    collectSymbols_spec packet isCollected
      (show 1 ≤ next.ofdmSymbIdx by rw [sameSymb]; exact positive)
      (q.nDfSymb + 1 - next.ofdmSymbIdx)
  have split := Tx.nofCells_add syncReport.b syncReport.nEffTx pccLinear 1
    (rx.ofdmSymbIdx - 1) (q.nDfSymb + 1 - rx.ofdmSymbIdx)
  have behind : 1 + (rx.ofdmSymbIdx - 1) = rx.ofdmSymbIdx := by omega
  have count :
      rx.ofdmSymbIdx - 1 + (q.nDfSymb + 1 - rx.ofdmSymbIdx) = q.nDfSymb := by
    omega
  rw [count, behind] at split
  rw [sameSymb, ← split] at all
  obtain ⟨table, subc, bits⟩ := all
  refine
    ⟨{ after with ofdmSymbIdx := max after.ofdmSymbIdx (q.nDfSymb + 1) },
      ?_, ⟨table, subc, bits⟩⟩
  rw [runPdcPsInChestimModeLrF, isNext, ok_bind, isAfter]
  rfl

/-- In both modes, the counters end where the sizes of the packet say. -/
theorem demoddecodRxPdc_spec
    (packet : SingleStream syncReport q pccLinear)
    {rx : PdcReceiver}
    (collected : Collected syncReport q pccLinear rx 0)
    (isFirst : rx.psIdx = 0)
    (later : 2 ≤ rx.ofdmSymbIdx)
    (early : rx.ofdmSymbIdx ≤ 5)
    (accepted : HeaderAdmission.demoddecodRxPdc rx.ofdmSymbIdx q = .ok ())
    (small : q.nDfSymb < 2 ^ 32)
    (single : q.tmMode.nSs = 1)
    (isCells :
      Tx.nofCells syncReport.b syncReport.nEffTx pccLinear 1 q.nDfSymb =
        q.nPdcSubc)
    (isG : q.G = q.nPdcSubc * q.mcs.nBps)
    (chestimModeLrDefault : Bool) :
    ∃ final,
      rx.demoddecodRxPdc chestimModeLrDefault syncReport q = .ok final ∧
      final.pdcSubcIdx = q.nPdcSubc ∧ final.pdcBitsIdx = q.G := by
  have inside : rx.ofdmSymbIdx ≤ q.nDfSymb := by
    obtain ⟨_, -, isAssertion⟩ := Checked.bind_eq_ok.mp accepted
    exact of_decide_eq_true (dectnrpAssert_eq_ok.mp isAssertion)
  have stages : ∃ next, (if chestimModeLrDefault then
      rx.runPdcPsInChestimModeLrT syncReport q else pure rx) = .ok next ∧
        Collected syncReport q pccLinear next
          (cellsBefore syncReport pccLinear next) ∧
        1 ≤ next.ofdmSymbIdx ∧ next.ofdmSymbIdx ≤ q.nDfSymb + 1 := by
    cases chestimModeLrDefault with
    | true =>
        rw [if_pos rfl]
        exact
          runPdcPsInChestimModeLrT_spec packet collected isFirst later early
            inside small
    | false =>
        rw [if_neg Bool.false_ne_true]
        refine ⟨rx, rfl, ?_, by omega, by omega⟩
        unfold cellsBefore
        rw [if_pos isFirst]
        exact collected
  obtain ⟨next, isNext, isCollected, positive, within⟩ := stages
  obtain ⟨final, isFinal, -, subc, bits⟩ :=
    runPdcPsInChestimModeLrF_spec packet isCollected positive within
  rw [isCells] at subc bits
  rw [← isG] at bits
  refine ⟨final, ?_, subc, bits⟩
  rw [demoddecodRxPdc, accepted, ok_bind, isNext, ok_bind,
    isFinal, ok_bind, bits, subc, single, Nat.mul_one]
  simp only [beq_self_eq_true, dectnrpAssert_true, ok_bind, pure_eq_ok]

end

end PdcReceiver

/-- The receiver after the control channel of a packet. -/
def afterPcc
    (grid : ResourceGrid)
    (syncReport : SyncReport) :
    PdcReceiver where
  pdc := (grid.setConfiguration syncReport.b syncReport.nEffTx).pdc
  psIdx := 0
  ofdmSymbIdx := ofdmSymbIdx grid.pcc syncReport
  pdcSubcIdx := 0
  pdcBitsIdx := 0

/-- Every receiver that goes on behind the control channel demaps `G` bits. -/
def DemapsAllBits
    (grid : ResourceGrid)
    (q : Sp3.PacketSizes) :
    Prop :=
  ∀ (syncReport : SyncReport) (chestimModeLrDefault : Bool),
    syncReport.b = q.psdef.b →
    syncReport.nEffTx = q.tmMode.nEffTx →
    q.tmMode.nSs = 1 →
    HeaderAdmission.demoddecodRxPdc (afterPcc grid syncReport).ofdmSymbIdx
        q = .ok () →
      ∃ final,
        (afterPcc grid syncReport).demoddecodRxPdc chestimModeLrDefault
            syncReport q = .ok final ∧
        final.pdcSubcIdx = q.nPdcSubc ∧ final.pdcBitsIdx = q.G

end RxSynced

namespace Tx

/-- Every transmitter that accepts the packet modulates `G` bits. -/
def ModulatesAllBits (q : Sp3.PacketSizes) : Prop :=
  ∀ (Value : Type) [CommRing Value] (TxBuffer Parity : Type)
    (tx : Transmitter Value TxBuffer Parity) (rv : Nat)
    (matching : TurboEncoder TxBuffer Parity) (routines : BitRoutines)
    (srsranSequence : ScramblingSequence),
    tx.library = matching.withScrambling routines srsranSequence →
    MatchesInPlace matching rv →
    ∀ table, tx.runPacketDimensions q = .ok table →
    ∀ maxCb fuel, q.C ≤ maxCb → q.C < fuel →
    ∀ (a : Memory) (transmitStreamsStages : Nat → Nat → Nat → Cf Value),
      ∃ calls final,
        tx.generateTxPacket q rv a maxCb fuel transmitStreamsStages =
          .ok (some (calls, final)) ∧
        final.pdcSubcIdx = q.nPdcSubc * q.tmMode.nSs ∧
        final.pdcBitsIdx = q.G ∧
        final.pdcNofCmplxSubcResidual = 0

end Tx

namespace ResourceGrid

theorem demapsAllBits
    {qq : Sp3.PacketSizesDef}
    {q : Sp3.PacketSizes}
    (returned : Sp3.getPacketSizes qq = .ok (some q))
    {grid : ResourceGrid}
    {pccLinear : List Nat}
    (allocation : Pcc.Allocation q.psdef.b q.tmMode.nEffTx pccLinear)
    (waits :
      WaitsFrom (grid.setConfiguration q.psdef.b q.tmMode.nEffTx)
        q.psdef.b q.tmMode.nEffTx pccLinear 1) :
    RxSynced.DemapsAllBits grid q := by
  intro syncReport chestimModeLrDefault sameB sameStreams single accepted
  have valid := Sp3.valid_of_getPacketSizes returned
  have hasCells := (Sp3.getPacketSizes_segmentation returned).2.1
  obtain ⟨tmMode, modeMember, mcs, -, -, -, packetValid, sizes⟩ :=
    Sp3.getPacketSizes_sizes returned
  have bValid := valid.b_mem
  have nTsValid := packetValid.nTs_mem
  have isG := Sp3.getPacketSizes_G_of_single returned single
  rw [sizes.psdef] at allocation waits sameB
  rw [sizes.isTmMode] at allocation waits sameStreams
  rw [← sameB] at allocation waits bValid
  rw [← sameStreams] at allocation waits packetValid nTsValid
  have symbols : q.nDfSymb < 2 ^ 32 :=
    (Sp3.getPacketSizes_nDfSymb_le returned).trans_lt (by decide)
  have isCells :
      Tx.nofCells syncReport.b syncReport.nEffTx pccLinear 1 q.nDfSymb =
        q.nPdcSubc := by
    rw [sizes.nPdcSubc, ← sameB, ← sameStreams] at hasCells ⊢
    rw [sizes.nDfSymb]
    exact Pdc.sum_length_rowAt bValid packetValid allocation hasCells
  have isSymbol : (RxSynced.afterPcc grid syncReport).ofdmSymbIdx =
      Pcc.nofSymbols syncReport.b syncReport.nEffTx + 1 := by
    have last := Pcc.getPccSymbolIdxMax_eq bValid nTsValid allocation waits.pcc
    exact congrArg (· + 1) last
  have first := (Pcc.freeBefore_nofSymbols bValid nTsValid).1
  have early : Pcc.nofSymbols syncReport.b syncReport.nEffTx ≤ 4 := by
    unfold Pcc.nofSymbols
    split <;> split_ifs <;> omega
  exact RxSynced.PdcReceiver.demoddecodRxPdc_spec
      ⟨bValid, nTsValid, allocation, fun _ => single⟩
      ⟨waits.pdc, rfl, (Nat.zero_mul _).symm⟩ rfl (by omega) (by omega)
      accepted symbols single isCells isG chestimModeLrDefault

/--
For every packet that has sizes, the data cells of all symbols are as many as
the sizes say, each stream has its share of the reference signals, and the
control channel has its ninety-eight cells before the first symbol with data
only.  Every transmitter that accepts the packet modulates exactly its `G`
bits, and so many are demapped by every receiver that goes on with it.
-/
theorem getPacketSizes_countsCells
    {bMax nTsMax : Nat}
    (bMaxValid : bMax ∈ bIdx2bLut)
    (nTsMaxValid : nTsMax ∈ nTsIdx2NTsVec)
    {qq : Sp3.PacketSizesDef}
    {q : Sp3.PacketSizes}
    (returned : Sp3.getPacketSizes qq = .ok (some q))
    (bInside : q.psdef.b ≤ bMax)
    (nTsInside : q.tmMode.nEffTx ≤ nTsMax) :
    ∃ grid symbols,
      create bMax nTsMax = .ok grid ∧
      (grid.setConfiguration q.psdef.b q.tmMode.nEffTx).runSymbols 1
          q.nDfSymb = .ok symbols ∧
      MatchesSizes q symbols ∧
      Tx.ModulatesAllBits q ∧
      RxSynced.DemapsAllBits grid q := by
  obtain ⟨tmMode, -, mcs, -, -, -, packetValid, sizes⟩ :=
    Sp3.getPacketSizes_sizes returned
  have bValid : q.psdef.b ∈ bIdx2bLut := by
    rw [sizes.psdef]
    exact (Sp3.valid_of_getPacketSizes returned).b_mem
  have nTsValid : q.tmMode.nEffTx ∈ nTsIdx2NTsVec := by
    rw [sizes.isTmMode]
    exact packetValid.nTs_mem
  obtain ⟨grid, pccLinear, isGrid, created, allocation, waits⟩ :=
    create_waitsFrom bMaxValid nTsMaxValid bValid bInside nTsValid nTsInside
  refine
    ⟨grid, _, isGrid,
      runSymbols_spec bValid nTsValid allocation waits (Nat.le_refl 1) _,
      patternAt_matchesSizes returned created allocation, ?_,
      demapsAllBits returned allocation waits⟩
  intro Value _ TxBuffer Parity tx rv matching routines srsranSequence
    isLibrary inPlace table accepted maxCb fuel capacity enough a
    transmitStreamsStages
  obtain ⟨_, calls, final, -, sent, inOrder⟩ :=
    Tx.generateTxPacket_spec isLibrary inPlace returned accepted capacity
      enough a transmitStreamsStages
  exact
    ⟨calls, final, sent, inOrder.subcIdx, inOrder.bitsIdx,
      inOrder.residual⟩

/-- A packet of one slot with one stream of QPSK. -/
theorem getPacketSizes_countsCells_oneStream :
    ∃ q grid symbols,
      Sp3.getPacketSizes ⟨1, 1, 0, 2, 0, 1, 2048⟩ = .ok (some q) ∧
      create 1 1 = .ok grid ∧
      (grid.setConfiguration q.psdef.b q.tmMode.nEffTx).runSymbols 1
          q.nDfSymb = .ok symbols ∧
      MatchesSizes q symbols ∧
      Tx.ModulatesAllBits q ∧
      RxSynced.DemapsAllBits grid q := by
  have listed :
      (Sp3.getPacketSizes ⟨1, 1, 0, 2, 0, 1, 2048⟩).toOption.join.any
        (fun q => decide (q.psdef.b ≤ 1 ∧ q.tmMode.nEffTx ≤ 1)) =
          true := by
    decide +kernel
  obtain ⟨q, isQ, listed⟩ := (Option.any_eq_true _ _).mp listed
  obtain ⟨narrow, single⟩ := of_decide_eq_true listed
  have returned := Checked.eq_ok_of_toOption (Option.join_eq_some_iff.mp isQ)
  obtain ⟨grid, symbols, counted⟩ :=
    @getPacketSizes_countsCells 1 1 (by decide) (by decide) _ q returned
      narrow single
  exact ⟨q, grid, symbols, returned, counted⟩

end ResourceGrid

end DectNrp
