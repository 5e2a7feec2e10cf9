import DectNrp.CheckedRuns
import DectNrp.Drs

namespace DectNrp

open Phyres

/-!
# Estimation with several antennas

At the end of a packet, a few cells of the channel estimates are copied to one
stage for each antenna, and from there to one stage for each stream.  All
beamforming matrices of a single spatial stream are tried on the stages: those
of the transmitter, and those of the receiver if the channel is reciprocal.
What counts here is which elements are accessed, not which matrix is the best.
-/

open Checked (forM_eq_ok ok_bind)

namespace RxSynced

/-- Access an element of a container with a number of elements. -/
def access (size index : Nat) : Checked Unit :=
  if index < size then
    pure ()
  else
    .error (.readBeyond index)

theorem access_eq_ok
    {size index : Nat} :
    access size index = .ok () ↔ index < size := by
  unfold access
  by_cases inside : index < size
  · rw [if_pos inside]
    exact ⟨fun _ => inside, fun _ => rfl⟩
  · rw [if_neg inside]
    exact ⟨nofun, fun isInside => absurd isInside inside⟩

/-- The number of matrices in each row of the codebook, and of their entries. -/
def wRows : List (Nat × Nat) :=
  [(1, 1), (6, 2), (28, 4), (3, 4), (22, 8), (5, 16), (1, 64)]

def nTsNTxIdx : List (List Nat) :=
  [[0, 0, 0, 0, 0, 0, 0, 0, 0], [0, 0, 1, 0, 2, 0, 0, 0, 0],
    [0, 0, 3, 0, 4, 0, 0, 0, 0], [0, 0, 0, 0, 0, 0, 0, 0, 0],
    [0, 0, 0, 0, 5, 0, 0, 0, 0], [0, 0, 0, 0, 0, 0, 0, 0, 0],
    [0, 0, 0, 0, 0, 0, 0, 0, 0], [0, 0, 0, 0, 0, 0, 0, 0, 0],
    [0, 0, 0, 0, 0, 0, 0, 0, 6]]

def nTsNTxCodebookIndexNonzero : List (List Nat) :=
  [[0, 0, 0, 0, 0, 0, 0, 0, 0], [0, 0, 2, 0, 12, 0, 0, 0, 0],
    [0, 0, 1, 0, 14, 0, 0, 0, 0], [0, 0, 0, 0, 0, 0, 0, 0, 0],
    [0, 0, 0, 0, 3, 0, 0, 0, 0], [0, 0, 0, 0, 0, 0, 0, 0, 0],
    [0, 0, 0, 0, 0, 0, 0, 0, 0], [0, 0, 0, 0, 0, 0, 0, 0, 0],
    [0, 0, 0, 0, 0, 0, 0, 0, 0]]

/-- Matrices for streams and antennas; those without a row of their own get the first. -/
def getW (nTs nTx : Nat) : Checked (Nat × Nat) := do
  let row ← elementAt nTsNTxIdx nTs
  let idx ← elementAt row nTx
  elementAt wRows idx

def getCodebookIndexNonzero (nTs nTx : Nat) : Checked Nat := do
  let row ← elementAt nTsNTxCodebookIndexNonzero nTs
  elementAt row nTx

/-- Cells at which the channel is considered. -/
def nWidebandCells : Nat := 4

/-- The cells of an antenna or a stream are inside of a stage for all of them. -/
theorem lastCell_lt
    {count index : Nat}
    (inside : index < count) :
    index * nWidebandCells + (nWidebandCells - 1) < count * nWidebandCells := by
  unfold nWidebandCells
  omega

/-- Numbers of antennas and streams, and of the cells of an estimate. -/
structure EstimatorMimo where
  nRx : Nat
  nTsMax : Nat
  nofDrsSubcMax : Nat
  deriving Repr, DecidableEq

namespace EstimatorMimo

/-- Of all cells that are copied, the last one is accessed. -/
def setStages
    (estimator : EstimatorMimo)
    (nofChannelAntennas nEffTxMax b tsIdxLast : Nat) :
    Checked Unit := do
  let stepWidth := 14 * b / nWidebandCells
  let stepOffset := stepWidth / 2
  let lastCell := nWidebandCells - 1
  (List.range estimator.nRx).forM fun rx =>
    (List.range (tsIdxLast + 1)).forM fun ts => do
      access nofChannelAntennas rx
      access nEffTxMax ts
      access estimator.nofDrsSubcMax (stepOffset + lastCell * stepWidth)
      access (estimator.nTsMax * nWidebandCells)
        (ts * nWidebandCells + lastCell)
  (List.range (tsIdxLast + 1)).forM fun ts => do
    access estimator.nTsMax ts
    (List.range estimator.nRx).forM fun rx =>
      access (estimator.nRx * nWidebandCells) (rx * nWidebandCells + lastCell)

/--
Try all matrices without zeros on the stages.  The first one is better than
the start value, so that one of them is returned.
-/
def modeSingleSpatialStream37
    (nTxVirt nRxVirt nofStages stageLength : Nat) :
    Checked Unit := do
  dectnrpAssert (1 < nTxVirt)
    "single TX antenna does not allow beamforming"
  let (nofMatrices, nofEntries) ← getW 1 nTxVirt
  let A ← getCodebookIndexNonzero 1 nTxVirt
  dectnrpAssert (A < nofMatrices) "no matrices to use"
  (List.range' A (nofMatrices - A)).forM fun _ =>
    (List.range nRxVirt).forM fun rx =>
      (List.range nTxVirt).forM fun tx => do
        access nofStages rx
        access stageLength (tx * nWidebandCells + (nWidebandCells - 1))
        access nofEntries tx

/-- One antenna, or one stream, has no matrix to choose. -/
def processDrs
    (estimator : EstimatorMimo)
    (nofChannelAntennas nEffTxMax b nTs tsIdxFirst tsIdxLast : Nat) :
    Checked Unit := do
  dectnrpAssert (estimator.nRx == nofChannelAntennas) "incorrect size"
  dectnrpAssert (tsIdxFirst == 0) "incorrect number of transmit streams"
  dectnrpAssert (nTs == tsIdxLast + 1)
    "incorrect number of transmit streams"
  estimator.setStages nofChannelAntennas nEffTxMax b tsIdxLast
  (if nTs = 1 then
    pure ()
  else
    modeSingleSpatialStream37 nTs estimator.nRx estimator.nRx
      (estimator.nTsMax * nWidebandCells))
  (if estimator.nRx = 1 then
    pure ()
  else
    modeSingleSpatialStream37 estimator.nRx nTs estimator.nTsMax
      (estimator.nRx * nWidebandCells))

/-- Two or four antennas have matrices with one entry for each. -/
theorem modeSingleSpatialStream37_eq_ok
    {nTxVirt nRxVirt nofStages stageLength : Nat}
    (several : nTxVirt = 2 ∨ nTxVirt = 4)
    (inStages : nRxVirt ≤ nofStages)
    (inStage : nTxVirt * nWidebandCells ≤ stageLength) :
    modeSingleSpatialStream37 nTxVirt nRxVirt nofStages stageLength =
      .ok () := by
  obtain ⟨nofMatrices, A, isW, isA, isSome⟩ : ∃ nofMatrices A,
        getW 1 nTxVirt = .ok (nofMatrices, nTxVirt) ∧
        getCodebookIndexNonzero 1 nTxVirt = .ok A ∧ A < nofMatrices := by
    rcases several with rfl | rfl
    · exact ⟨6, 2, rfl, rfl, by decide⟩
    · exact ⟨28, 12, rfl, rfl, by decide⟩
  have beamforms : 1 < nTxVirt := by omega
  rw [modeSingleSpatialStream37, decide_eq_true beamforms, isW]
  simp only [dectnrpAssert_true, ok_bind, isA, decide_eq_true isSome,
    forM_eq_ok, List.mem_range]
  intro _ _ rx isRx tx isTx
  rw [access_eq_ok.mpr (isRx.trans_le inStages), ok_bind,
    access_eq_ok.mpr ((lastCell_lt isTx).trans_le inStage), ok_bind,
    access_eq_ok.mpr isTx]

/-- Eight antennas get the matrix of a single one, which has one entry. -/
theorem modeSingleSpatialStream37_ne_ok
    {nRxVirt nofStages stageLength : Nat}
    (positive : 0 < nRxVirt) :
    modeSingleSpatialStream37 8 nRxVirt nofStages stageLength ≠ .ok () := by
  intro returned
  have tried : ((List.range' 0 1).forM fun _ =>
        (List.range nRxVirt).forM fun rx =>
          (List.range 8).forM fun tx => do
            access nofStages rx
            access stageLength (tx * nWidebandCells + (nWidebandCells - 1))
            access 1 tx) = .ok () :=
    returned
  simp only [forM_eq_ok, List.mem_range] at tried
  obtain ⟨_, -, entries⟩ :=
    Checked.bind_eq_ok.mp (tried 0 (by decide) 0 positive 1 (by decide))
  obtain ⟨_, -, entry⟩ := Checked.bind_eq_ok.mp entries
  exact Nat.lt_irrefl 1 (access_eq_ok.mp entry)

/-- Stages have room for the antennas and streams of the constructor. -/
theorem setStages_eq_ok
    {estimator : EstimatorMimo}
    {bMax b nEffTxMax tsIdxLast : Nat}
    (isSubc : estimator.nofDrsSubcMax = 14 * bMax)
    (narrow : b ≤ bMax)
    (positive : 0 < b)
    (inEstimates : tsIdxLast < nEffTxMax)
    (inStages : tsIdxLast < estimator.nTsMax) :
    estimator.setStages estimator.nRx nEffTxMax b tsIdxLast = .ok () := by
  have copied : ((List.range estimator.nRx).forM fun rx =>
        (List.range (tsIdxLast + 1)).forM fun ts => do
          access estimator.nRx rx
          access nEffTxMax ts
          access estimator.nofDrsSubcMax (14 * b / nWidebandCells / 2 +
              (nWidebandCells - 1) * (14 * b / nWidebandCells))
          access (estimator.nTsMax * nWidebandCells)
            (ts * nWidebandCells + (nWidebandCells - 1))) = .ok () := by
    simp only [forM_eq_ok, List.mem_range]
    intro rx isRx ts isTs
    have isStep : 14 * b / nWidebandCells / 2 +
            (nWidebandCells - 1) * (14 * b / nWidebandCells) <
          estimator.nofDrsSubcMax := by
      unfold nWidebandCells
      omega
    rw [access_eq_ok.mpr isRx, ok_bind, access_eq_ok.mpr (by omega),
      ok_bind, access_eq_ok.mpr isStep, ok_bind,
      access_eq_ok.mpr (lastCell_lt (by omega))]
  rw [setStages, copied, ok_bind]
  simp only [forM_eq_ok, List.mem_range]
  intro ts isTs
  rw [access_eq_ok.mpr (by omega), ok_bind]
  simp only [forM_eq_ok, List.mem_range]
  intro rx isRx
  exact access_eq_ok.mpr (lastCell_lt isRx)

/-- With up to four streams, the estimation ends unless there are eight antennas. -/
theorem processDrs_eq_ok_iff
    {estimator : EstimatorMimo}
    {bMax b nTs : Nat}
    (isSubc : estimator.nofDrsSubcMax = 14 * bMax)
    (narrow : b ≤ bMax)
    (positive : 0 < b)
    (nRxValid : estimator.nRx ∈ nTsIdx2NTsVec)
    (nTsValid : nTs ∈ nTsIdx2NTsVec)
    (fewer : nTs ≠ 8)
    (rxInside : nTs ≤ estimator.nRx)
    (tsInside : nTs ≤ estimator.nTsMax) :
    estimator.processDrs estimator.nRx estimator.nRx b nTs 0 (nTs - 1) =
        .ok () ↔
      estimator.nRx ≠ 8 := by
  have antennas := nTs_cases nRxValid
  have streams := nTs_cases nTsValid
  have staged :=
    @setStages_eq_ok estimator bMax b estimator.nRx (nTs - 1) isSubc narrow
      positive (by omega) (by omega)
  have others : (if nTs = 1 then pure () else
        modeSingleSpatialStream37 nTs estimator.nRx estimator.nRx
          (estimator.nTsMax * nWidebandCells)) = .ok () := by
    by_cases isOne : nTs = 1
    · exact if_pos isOne
    · rw [if_neg isOne]
      exact modeSingleSpatialStream37_eq_ok (by omega) (Nat.le_refl _)
        (Nat.mul_le_mul_right _ tsInside)
  have isLast : (nTs == nTs - 1 + 1) = true :=
    beq_iff_eq.mpr (Nat.sub_add_cancel (by omega)).symm
  rw [processDrs, isLast, staged]
  simp only [beq_self_eq_true, dectnrpAssert_true, ok_bind, others]
  constructor
  · intro returned isEight
    rw [if_neg (by omega), isEight] at returned
    exact modeSingleSpatialStream37_ne_ok (by omega) returned
  · intro notEight
    by_cases isOne : estimator.nRx = 1
    · exact if_pos isOne
    · rw [if_neg isOne]
      exact modeSingleSpatialStream37_eq_ok (by omega) tsInside (Nat.le_refl _)

end EstimatorMimo

end RxSynced

end DectNrp
