import DectNrp.CheckedRuns
import DectNrp.DataDemapping
import DectNrp.MimoEstimator

namespace DectNrp

open Phyres
open VirtualFrame

/-!
# Processing stages

The receiver transforms the symbols of a packet into the slots of a processing
stage.  Reference signals, control channel and data channel are read from the
slot at which the pointers of the antennas are, and channel estimates come from
tables with one entry for each slot.  Beside the state there is a history of
the symbols that were transformed, estimated, interpolated and demapped.
-/

namespace RxSynced

open HeaderAdmission

/-- Number of subcarriers with the one at the center. -/
def nBOccPlusDcLut (bIdx : Nat) : Nat :=
  [57, 113, 225, 449, 673, 897].getD bIdx 0

/-- Sizes of a stage: the largest ones, and those of the current packet. -/
structure ProcessingStage where
  nFDomainMax : Nat
  nTDomainMax : Nat
  nStage : Nat
  nFDomain : Nat
  nTDomain : Nat
  deriving Repr, DecidableEq

namespace ProcessingStage

def create (nFDomainMax nTDomainMax nStage : Nat) : ProcessingStage where
  nFDomainMax := nFDomainMax
  nTDomainMax := nTDomainMax
  nStage := nStage
  nFDomain := 0
  nTDomain := 0

def setConfiguration
    (processingStage : ProcessingStage)
    (nFDomain nTDomain : Nat) :
    Checked ProcessingStage := do
  dectnrpAssert (nFDomain ≤ processingStage.nFDomainMax)
    "N_f_domain_ larger than maximum"
  dectnrpAssert (nTDomain ≤ processingStage.nTDomainMax)
    "N_t_domain_ larger than maximum"
  pure { processingStage with nFDomain := nFDomain, nTDomain := nTDomain }

/-- A pointer to a slot is the stage and the slot. -/
def getStageSpecific
    (processingStage : ProcessingStage)
    (tIdx stageIdx : Nat) :
    Checked (Nat × Nat) := do
  dectnrpAssert (tIdx < processingStage.nTDomain) "t_idx too large"
  dectnrpAssert (stageIdx < processingStage.nStage) "stage_idx too large"
  pure (stageIdx, tIdx)

/-- Pointers to a slot in all stages, for a vector of a given size. -/
def getStagePrealloc
    (processingStage : ProcessingStage)
    (tIdx vecSize : Nat) :
    Checked (List (Nat × Nat)) := do
  dectnrpAssert (vecSize == processingStage.nStage)
    "number of antennas not the number of stages"
  (List.range processingStage.nStage).mapM fun stageIdx =>
    processingStage.getStageSpecific tIdx stageIdx

end ProcessingStage

/-- Streams for which the tables are calculated. -/
def nEffTxMaxPrecalc : Nat := 4

/-- Tables of one bandwidth: where the pilots begin, and which weights to use. -/
structure Lut where
  idxPilot : ProcessingStage
  idxWeights : ProcessingStage
  deriving Repr, DecidableEq

/-- The tables for one slot, and for the slots between two symbols with references. -/
structure ChannelLut where
  lut0Vec : List Lut
  lut5Vec : List Lut
  lut10Vec : List Lut
  bIdx : Nat
  nEffTx : Nat
  psIdx : Nat
  effective : Lut
  deriving Repr, DecidableEq

namespace ChannelLut

def initLut (bIdx psTLength : Nat) : Checked Lut := do
  let nFDomain := nBOccPlusDcLut bIdx
  let stage := ProcessingStage.create nFDomain psTLength nEffTxMaxPrecalc
  let idxPilot ← stage.setConfiguration nFDomain psTLength
  let idxWeights ← stage.setConfiguration nFDomain psTLength
  pure ⟨idxPilot, idxWeights⟩

def initLutXVec (nStepVirtual bMax : Nat) : Checked (List Lut) :=
  (List.range (b2bIdx bMax + 1)).mapM fun bIdx =>
    initLut bIdx (nStepVirtual + 1)

/-- The longest tables are only there if they can be necessary. -/
def create (bMax nEffTxMax : Nat) : Checked ChannelLut := do
  let lut0Vec ← initLutXVec 0 bMax
  let lut5Vec ← initLutXVec 5 bMax
  let lut10Vec ←
    (if 4 ≤ nEffTxMax then
      initLutXVec 10 bMax
    else
      pure [])
  pure
    { lut0Vec := lut0Vec
      lut5Vec := lut5Vec
      lut10Vec := lut10Vec
      bIdx := 0
      nEffTx := 0
      psIdx := 0
      effective :=
        ⟨ProcessingStage.create 0 0 nEffTxMaxPrecalc,
          ProcessingStage.create 0 0 nEffTxMaxPrecalc⟩ }

def setConfigurationPacket
    (channelLut : ChannelLut)
    (bIdx nEffTx : Nat) :
    ChannelLut :=
  { channelLut with bIdx := bIdx, nEffTx := nEffTx }

def setConfigurationPs
    (channelLut : ChannelLut)
    (chestimModeLr : Bool)
    (psIdx : Nat) :
    Checked ChannelLut := do
  let effective ←
    (if chestimModeLr then
      if channelLut.nEffTx ≤ 2 then
        elementAt channelLut.lut5Vec channelLut.bIdx
      else
        elementAt channelLut.lut10Vec channelLut.bIdx
    else
      elementAt channelLut.lut0Vec channelLut.bIdx)
  pure { channelLut with psIdx := psIdx, effective := effective }

def swapUpperLowerHalf
    (symb : List (Nat × Nat)) :
    Checked (List (Nat × Nat)) := do
  dectnrpAssert (symb.length == 4) "incorrect length, should be 4"
  pure (symb.drop 2 ++ symb.take 2)

/-- Entries of a slot; the halves are swapped in every other stage. -/
def getIdxSymb
    (channelLut : ChannelLut)
    (idx : ProcessingStage)
    (ofdmSymbPsIdx : Nat) :
    Checked (List (Nat × Nat)) := do
  let symb ← idx.getStagePrealloc ofdmSymbPsIdx nEffTxMaxPrecalc
  if channelLut.psIdx % 2 = 1 then
    swapUpperLowerHalf symb
  else
    pure symb

def getIdxPilotSymb
    (channelLut : ChannelLut)
    (ofdmSymbPsIdx : Nat) :
    Checked (List (Nat × Nat)) :=
  channelLut.getIdxSymb channelLut.effective.idxPilot ofdmSymbPsIdx

def getIdxWeightsSymb
    (channelLut : ChannelLut)
    (ofdmSymbPsIdx : Nat) :
    Checked (List (Nat × Nat)) :=
  channelLut.getIdxSymb channelLut.effective.idxWeights ofdmSymbPsIdx

end ChannelLut

/-- A symbol on behalf of which a call runs, and what its pointers hold. -/
abbrev Access := Nat × List (Option Nat)

/-- All antennas read the symbol on behalf of which the call runs. -/
def Access.Aligned
    (access : Access)
    (nStage : Nat) :
    Prop :=
  access.2 = List.replicate nStage (some access.1)

instance
    (access : Access)
    (nStage : Nat) :
    Decidable (access.Aligned nStage) := by
  unfold Access.Aligned
  infer_instance

/--
The symbols of a packet in the slots of the stages.  `nextSymbol` is the one
whose samples are resampled next, and `collected` has each symbol with the
index it was collected under.
-/
structure SymbolStage where
  processingStage : ProcessingStage
  ofdmSymbolNow : List (Nat × Nat)
  symbolAt : Nat × Nat → Option Nat
  nextSymbol : Nat
  mixerStage : Nat
  collected : List (Nat × Nat)

namespace SymbolStage

/-- The symbols at the pointers of the antennas. -/
def now (symbols : SymbolStage) : List (Option Nat) :=
  symbols.ofdmSymbolNow.map symbols.symbolAt

/-- Move the pointers of the antennas to a slot. -/
def getStagePrealloc
    (symbols : SymbolStage)
    (ofdmSymbPsIdx : Nat) :
    Checked SymbolStage := do
  let ofdmSymbolNow ←
    symbols.processingStage.getStagePrealloc ofdmSymbPsIdx
      symbols.ofdmSymbolNow.length
  pure { symbols with ofdmSymbolNow := ofdmSymbolNow }

/-- Resample the next symbol. -/
def runMixResample
    (symbols : SymbolStage)
    (ofdmSymbPsIdx : Nat) :
    Checked SymbolStage :=
  { symbols with
    mixerStage := symbols.nextSymbol
    nextSymbol := symbols.nextSymbol + 1 }.getStagePrealloc ofdmSymbPsIdx

/-- Transform the symbol into the slots at the pointers. -/
def runCpFftScale
    (symbols : SymbolStage)
    (ofdmSymbIdx : Nat) :
    SymbolStage :=
  { symbols with
    symbolAt := fun slot =>
      if slot ∈ symbols.ofdmSymbolNow then
        some symbols.mixerStage
      else
        symbols.symbolAt slot
    collected := symbols.collected ++ [(ofdmSymbIdx, symbols.mixerStage)] }

end SymbolStage

/--
Channel estimates from the reference signals.  The tables differ in their
weights only, so that one stands for the one that is picked.
-/
structure ChannelEstimator where
  drs : Drs
  channelLut : ChannelLut
  channelLutEffective : Option ChannelLut
  nEffTxMax : Nat
  drsIdx : Nat
  tsIdxFirst : Nat
  tsIdxLast : Nat
  estimated : List Access
  interpolated : List Access

namespace ChannelEstimator

/-- There are vectors for the estimates of a stream. -/
def chestimOf
    (estimator : ChannelEstimator)
    (tsIdx : Nat) :
    Checked Unit :=
  if tsIdx < estimator.nEffTxMax then
    pure ()
  else
    .error (.readBeyond tsIdx)

def runDrsChannelLutPick
    (estimator : ChannelEstimator)
    (syncReport : SyncReport) :
    ChannelEstimator :=
  { estimator with
    channelLutEffective :=
      some
        (estimator.channelLut.setConfigurationPacket (b2bIdx syncReport.b)
          syncReport.nEffTx) }

def runDrsChestimZf
    (estimator : ChannelEstimator)
    (syncReport : SyncReport)
    (chestimModeLr : Bool)
    (ofdmSymbPsIdx ofdmSymbIdx : Nat)
    (now : List (Option Nat)) :
    Checked ChannelEstimator := do
  dectnrpAssert
    (!(!chestimModeLr && syncReport.nEffTx ≤ 4 && ofdmSymbPsIdx != 0))
    "index cannot contain DRS cells"
  dectnrpAssert
    (!(!chestimModeLr && 4 < syncReport.nEffTx && 1 < ofdmSymbPsIdx))
    "index cannot contain DRS cells"
  let kISize := (estimator.drs.getKI.getD 0 []).length
  let tsIdxFirst := estimator.drs.getTsIdxFirst
  let (tsIdxLast, drs) := estimator.drs.getTsIdxLastAndAdvance
  (List.range' tsIdxFirst (tsIdxLast + 1 - tsIdxFirst)).forM
    estimator.chestimOf
  pure
    ({ estimator with
      drs := drs
      drsIdx := estimator.drsIdx + kISize * (tsIdxLast + 1 - tsIdxFirst)
      tsIdxFirst := tsIdxFirst
      tsIdxLast := tsIdxLast
      estimated :=
        estimator.estimated ++
          [(ofdmSymbIdx, now)] }.runDrsChannelLutPick syncReport)

/-- Interpolate the channel on behalf of a symbol. -/
def runDrsChInterpolation
    (estimator : ChannelEstimator)
    (chestimModeLr : Bool)
    (psIdx ofdmSymbPsIdx symbol : Nat)
    (now : List (Option Nat)) :
    Checked ChannelEstimator :=
  match estimator.channelLutEffective with
  | none => .error .badOptionalAccess
  | some channelLut => do
      let channelLut ← channelLut.setConfigurationPs chestimModeLr psIdx
      let idxPilot ← channelLut.getIdxPilotSymb ofdmSymbPsIdx
      let idxWeights ← channelLut.getIdxWeightsSymb ofdmSymbPsIdx
      let tsIdxFirstLocal := if chestimModeLr then 0 else estimator.tsIdxFirst
      (List.range' tsIdxFirstLocal
          (estimator.tsIdxLast + 1 - tsIdxFirstLocal)).forM fun tsIdx => do
        let _ ← elementAt idxPilot (tsIdx % 4)
        let _ ← elementAt idxWeights (tsIdx % 4)
        estimator.chestimOf tsIdx
      pure
        { estimator with
          channelLutEffective := some channelLut
          interpolated := estimator.interpolated ++ [(symbol, now)] }

end ChannelEstimator

/-- What the constructor of the receiver provides for all packets. -/
structure Components where
  grid : ResourceGrid
  channelLut : ChannelLut
  processingStage : ProcessingStage
  nEffTxMax : Nat
  estimatorMimo : EstimatorMimo

def Components.create (bMax nTxMax nTsMax : Nat) : Checked Components := do
  let grid ← ResourceGrid.create bMax nTsMax
  let channelLut ← ChannelLut.create bMax nTxMax
  pure
    { grid := grid
      channelLut := channelLut
      processingStage :=
        ProcessingStage.create (nBOccPlusDcLut (b2bIdx bMax))
          (nEffTx2ProcessingStageLen.getD nTxMax 0) nTxMax
      nEffTxMax := nTxMax
      estimatorMimo := ⟨nTxMax, nTsMax, 14 * bMax⟩ }

/-- The receiver in the middle of a packet. -/
structure StageReceiver extends PdcReceiver where
  pcc : Pcc
  pccIdx : Nat
  symbols : SymbolStage
  estimator : ChannelEstimator
  chestimModeLr : Bool
  nStep : Nat
  ofdmSymbPsIdx : Nat
  demapped : List Access

namespace StageReceiver

def runMixResample (rx : StageReceiver) : Checked StageReceiver := do
  let symbols ← rx.symbols.runMixResample rx.ofdmSymbPsIdx
  pure { rx with symbols := symbols }

def runCpFftScale (rx : StageReceiver) : StageReceiver :=
  { rx with symbols := rx.symbols.runCpFftScale rx.ofdmSymbIdx }

def runDrsChestimZf
    (rx : StageReceiver)
    (syncReport : SyncReport) :
    Checked StageReceiver := do
  let estimator ←
    rx.estimator.runDrsChestimZf syncReport rx.chestimModeLr rx.ofdmSymbPsIdx
      rx.ofdmSymbIdx rx.symbols.now
  pure { rx with estimator := estimator }

def runDrsChInterpolation
    (rx : StageReceiver)
    (symbol : Nat) :
    Checked StageReceiver := do
  let estimator ←
    rx.estimator.runDrsChInterpolation rx.chestimModeLr rx.psIdx
      rx.ofdmSymbPsIdx symbol rx.symbols.now
  pure { rx with estimator := estimator }

/-- Cells are counted; with several streams they are combined in pairs. -/
def runPccCollectionAndDemapping
    (rx : StageReceiver)
    (syncReport : SyncReport) :
    Checked StageReceiver := do
  let kIOneSymbol ← rx.pcc.getKIOneSymbol
  if syncReport.nEffTx = 1 then
    pure { rx with pccIdx := rx.pccIdx + kIOneSymbol.length }
  else do
    dectnrpAssert (kIOneSymbol.length % 2 == 0) "must be even"
    pure { rx with pccIdx := rx.pccIdx + kIOneSymbol.length }

/-- Data cells are demapped on behalf of a symbol. -/
def runPdc
    (rx : StageReceiver)
    (syncReport : SyncReport)
    (q : Sp3.PacketSizes)
    (symbol : Nat) :
    Checked StageReceiver := do
  let kIOneSymbol ← rx.pdc.getKIOneSymbol
  let after ← rx.toPdcReceiver.runPdc syncReport q kIOneSymbol
  pure
    { rx with
      toPdcReceiver := after
      demapped := rx.demapped ++ [(symbol, rx.symbols.now)] }

/--
Transform the next symbol, and estimate the channel if it has reference
signals.  It is interpolated at once, unless estimates to the right are still
missing.
-/
def collectSymbol
    (rx : StageReceiver)
    (syncReport : SyncReport) :
    Checked StageReceiver := do
  let rx ← rx.runMixResample
  let rx := rx.runCpFftScale
  if rx.estimator.drs.isSymbolIndex rx.ofdmSymbIdx then do
    let rx ← rx.runDrsChestimZf syncReport
    if rx.chestimModeLr then
      pure rx
    else
      rx.runDrsChInterpolation rx.ofdmSymbIdx
  else
    pure rx

/-- Data cells of a symbol, if it has any. -/
def collectPdc
    (rx : StageReceiver)
    (syncReport : SyncReport)
    (q : Sp3.PacketSizes)
    (symbol : Nat) :
    Checked StageReceiver := do
  let (found, pdc) ← rx.pdc.isSymbolIndex symbol
  let rx := { rx with pdc := pdc }
  if found then
    rx.runPdc syncReport q symbol
  else
    pure rx

/-- Control cells of the current symbol, if it has any. -/
def collectPcc
    (rx : StageReceiver)
    (syncReport : SyncReport) :
    Checked StageReceiver := do
  let (found, pcc) ← rx.pcc.isSymbolIndex rx.ofdmSymbIdx
  let rx := { rx with pcc := pcc }
  if found then
    rx.runPccCollectionAndDemapping syncReport
  else
    pure rx

/-- A number of symbols that may have cells of the control channel. -/
def collectPccSymbols
    (rx : StageReceiver)
    (syncReport : SyncReport) :
    (count : Nat) → Checked StageReceiver
  | 0 => pure rx
  | count + 1 => do
      let rx ← rx.collectSymbol syncReport
      let rx ← rx.collectPcc syncReport
      { rx with
        ofdmSymbPsIdx := rx.ofdmSymbPsIdx + 1
        ofdmSymbIdx := rx.ofdmSymbIdx + 1 }.collectPccSymbols syncReport count

/--
The receiver at the beginning of a packet.  Earlier packets have left symbols
in the slots of the stages.
-/
def reset
    (components : Components)
    (left : Nat × Nat → Option Nat)
    (syncReport : SyncReport)
    (processingStage : ProcessingStage) :
    StageReceiver :=
  let grid := components.grid.setConfiguration syncReport.b syncReport.nEffTx
  { pdc := grid.pdc
    psIdx := 0
    ofdmSymbIdx := 0
    pdcSubcIdx := 0
    pdcBitsIdx := 0
    pcc := grid.pcc
    pccIdx := 0
    symbols :=
      { processingStage := processingStage
        ofdmSymbolNow := List.replicate processingStage.nStage (0, 0)
        symbolAt := left
        nextSymbol := 0
        mixerStage := 0
        collected := [] }
    estimator :=
      { drs := grid.drs
        channelLut := components.channelLut
        channelLutEffective := none
        nEffTxMax := components.nEffTxMax
        drsIdx := 0
        tsIdxFirst := 0
        tsIdxLast := 0
        estimated := []
        interpolated := [] }
    chestimModeLr := false
    nStep := Drs.getNStep syncReport.nEffTx
    ofdmSymbPsIdx := 0
    demapped := [] }

/-- The stage has the length that the streams of the packet need. -/
def reconfigure
    (components : Components)
    (left : Nat × Nat → Option Nat)
    (syncReport : SyncReport) :
    Checked StageReceiver := do
  let processingStage ←
    components.processingStage.setConfiguration
      (nBOccPlusDcLut (b2bIdx syncReport.b))
      (nEffTx2ProcessingStageLen.getD syncReport.nEffTx 0)
  pure (reset components left syncReport processingStage)

/-- The synchronization training field and the control channel. -/
def demoddecodRxPcc
    (components : Components)
    (left : Nat × Nat → Option Nat)
    (syncReport : SyncReport) :
    Checked StageReceiver := do
  let rx ← reconfigure components left syncReport
  let rx ← rx.runMixResample
  let rx := rx.runCpFftScale
  let pccSymbolIdxMax := rx.pcc.getPccSymbolIdxMax
  let rx ←
    { rx with ofdmSymbIdx := 1 }.collectPccSymbols syncReport pccSymbolIdxMax
  dectnrpAssert (rx.pccIdx == Pcc.pccCells)
    "Incorrect number of PCC subcarriers read"
  pure rx

/-- A number of symbols between two symbols with reference signals. -/
def collectStageSymbols
    (rx : StageReceiver)
    (syncReport : SyncReport) :
    (count : Nat) → Checked StageReceiver
  | 0 => pure rx
  | count + 1 => do
      let rx ← rx.collectSymbol syncReport
      { rx with
        ofdmSymbPsIdx := rx.ofdmSymbPsIdx + 1
        ofdmSymbIdx := rx.ofdmSymbIdx + 1 }.collectStageSymbols syncReport
          count

/-- The slots of a stage are gone over a second time. -/
def collectStagePdc
    (rx : StageReceiver)
    (syncReport : SyncReport)
    (q : Sp3.PacketSizes)
    (chestimModeLrTStride firstIdx relativeStart : Nat) :
    (count : Nat) → Checked StageReceiver
  | 0 => pure rx
  | count + 1 => do
      let symbols ← rx.symbols.getStagePrealloc rx.ofdmSymbPsIdx
      let rx := { rx with symbols := symbols }
      let rx ←
        (if (rx.ofdmSymbPsIdx - relativeStart) % chestimModeLrTStride = 0 then
          rx.runDrsChInterpolation (firstIdx + rx.ofdmSymbPsIdx)
        else
          pure rx)
      let rx ← rx.collectPdc syncReport q (firstIdx + rx.ofdmSymbPsIdx)
      { rx with ofdmSymbPsIdx := rx.ofdmSymbPsIdx + 1 }.collectStagePdc
        syncReport q chestimModeLrTStride firstIdx relativeStart count

/-- A processing stage with channel estimates to the left and right. -/
def runProcessingStage
    (rx : StageReceiver)
    (syncReport : SyncReport)
    (q : Sp3.PacketSizes)
    (chestimModeLrTStride psTLength : Nat) :
    Checked StageReceiver := do
  let firstIdx := 1 + rx.psIdx * rx.nStep
  let finalIdx := psTLength + rx.psIdx * rx.nStep
  let rx := if 0 < rx.psIdx then { rx with ofdmSymbPsIdx := 1 } else rx
  let rx ← rx.collectStageSymbols syncReport (finalIdx + 1 - rx.ofdmSymbIdx)
  let relativeStart := if rx.psIdx = 0 then 0 else 1
  let rx ←
    { rx with ofdmSymbPsIdx := relativeStart }.collectStagePdc syncReport q
      chestimModeLrTStride firstIdx relativeStart
      (rx.nStep + 1 - relativeStart)
  pure { rx with psIdx := rx.psIdx + 1, ofdmSymbPsIdx := 0 }

/-- A number of processing stages. -/
def runProcessingStages
    (rx : StageReceiver)
    (syncReport : SyncReport)
    (q : Sp3.PacketSizes)
    (chestimModeLrTStride psTLength : Nat) :
    (count : Nat) → Checked StageReceiver
  | 0 => pure rx
  | count + 1 => do
      let rx ←
        rx.runProcessingStage syncReport q chestimModeLrTStride psTLength
      rx.runProcessingStages syncReport q chestimModeLrTStride psTLength count

def runPdcPsInChestimModeLrT
    (rx : StageReceiver)
    (syncReport : SyncReport)
    (q : Sp3.PacketSizes)
    (chestimModeLrTStride : Nat) :
    Checked StageReceiver :=
  let psTLength := nEffTx2ProcessingStageLen.getD syncReport.nEffTx 0
  let nofFullPs := Tx.wordSub q.nDfSymb (psTLength - rx.nStep) / rx.nStep
  if nofFullPs = 0 then
    pure rx
  else
    { rx with chestimModeLr := true }.runProcessingStages syncReport q
      chestimModeLrTStride psTLength (nofFullPs - rx.psIdx)

/-- Data cells of symbols that have been collected with the control channel. -/
def collectEarlierPdc
    (rx : StageReceiver)
    (syncReport : SyncReport)
    (q : Sp3.PacketSizes) :
    (symbol count : Nat) → Checked StageReceiver
  | _, 0 => pure rx
  | symbol, count + 1 => do
      let rx ← rx.collectPdc syncReport q symbol
      { rx with ofdmSymbPsIdx := rx.ofdmSymbPsIdx + 1 }.collectEarlierPdc
        syncReport q (symbol + 1) count

/-- Symbol by symbol; after the last slot the next stage begins. -/
def collectTailSymbols
    (rx : StageReceiver)
    (syncReport : SyncReport)
    (q : Sp3.PacketSizes) :
    (count : Nat) → Checked StageReceiver
  | 0 => pure rx
  | count + 1 => do
      let rx ← rx.collectSymbol syncReport
      let rx ← rx.collectPdc syncReport q rx.ofdmSymbIdx
      let rx := { rx with ofdmSymbPsIdx := rx.ofdmSymbPsIdx + 1 }
      let rx :=
        if rx.ofdmSymbPsIdx = rx.nStep then
          { rx with psIdx := rx.psIdx + 1, ofdmSymbPsIdx := 0 }
        else
          rx
      { rx with ofdmSymbIdx := rx.ofdmSymbIdx + 1 }.collectTailSymbols
        syncReport q count

def runPdcPsInChestimModeLrF
    (rx : StageReceiver)
    (syncReport : SyncReport)
    (q : Sp3.PacketSizes) :
    Checked StageReceiver := do
  let rx := { rx with chestimModeLr := false }
  let rx ←
    (if rx.psIdx = 0 then
      { rx with ofdmSymbPsIdx := 0 }.collectEarlierPdc syncReport q 1
        (rx.ofdmSymbIdx - 1)
    else
      pure rx)
  rx.collectTailSymbols syncReport q (q.nDfSymb + 1 - rx.ofdmSymbIdx)

/--
The data channel, with the assertions behind it.  If the checksum is correct,
matrices for several antennas are looked for at the end.
-/
def demoddecodRxPdc
    (rx : StageReceiver)
    (estimatorMimo : EstimatorMimo)
    (syncReport : SyncReport)
    (q : Sp3.PacketSizes)
    (chestimModeLrDefault : Bool)
    (chestimModeLrTStride : Nat)
    (decodeTbStatusLatest : Bool) :
    Checked StageReceiver := do
  HeaderAdmission.demoddecodRxPdc rx.ofdmSymbIdx q
  let rx ←
    (if chestimModeLrDefault then
      rx.runPdcPsInChestimModeLrT syncReport q chestimModeLrTStride
    else
      pure rx)
  let rx ← rx.runPdcPsInChestimModeLrF syncReport q
  dectnrpAssert (rx.pccIdx == Pcc.pccCells)
    "incorrect number of PCC subcarriers written"
  dectnrpAssert (rx.estimator.drsIdx == q.nDrsSubc)
    "incorrect number of DRS subcarriers written"
  dectnrpAssert (rx.pdcBitsIdx == q.G)
    "incorrect number of PDC bits written"
  dectnrpAssert (rx.pdcSubcIdx == q.nPdcSubc * q.tmMode.nSs)
    "incorrect number of PDC subcarriers written across all transmit streams"
  (if decodeTbStatusLatest then do
    dectnrpAssert (rx.estimator.tsIdxLast == syncReport.nEffTx - 1)
      "last transmit stream incorrect {} {}"
    estimatorMimo.processDrs rx.symbols.processingStage.nStage
      rx.estimator.nEffTxMax syncReport.b syncReport.nEffTx
      rx.estimator.tsIdxFirst rx.estimator.tsIdxLast
  else
    pure ())
  pure rx

/-- A header with several spatial streams is treated like none. -/
def blockNSsTxLarger1AtPcc (type1NSs type2NSs : Option Nat) : Bool :=
  type1NSs.any (1 < ·) || type2NSs.any (1 < ·)

/--
Both channels of a packet.  A packet that is blocked ends behind its control
channel.
-/
def demoddecodRx
    (components : Components)
    (left : Nat × Nat → Option Nat)
    (syncReport : SyncReport)
    (q : Sp3.PacketSizes)
    (type1NSs type2NSs : Option Nat)
    (chestimModeLrDefault : Bool)
    (chestimModeLrTStride : Nat)
    (decodeTbStatusLatest : Bool) :
    Checked (Option StageReceiver) := do
  let rx ← demoddecodRxPcc components left syncReport
  if blockNSsTxLarger1AtPcc type1NSs type2NSs then
    pure none
  else do
    let rx ←
      rx.demoddecodRxPdc components.estimatorMimo syncReport q
        chestimModeLrDefault chestimModeLrTStride decodeTbStatusLatest
    pure (some rx)

end StageReceiver

end RxSynced

end DectNrp
