import DectNrp.PacketSizing
import Mathlib.Algebra.BigOperators.Group.Finset.Basic
import Mathlib.Data.Nat.Bitwise

namespace DectNrp

/-!
# Beamforming

Every transmit stream is multiplied with its weight for an antenna and added to
the stage of the antenna, with the two halves of the spectrum at their mirrored
positions.  A mask has one bit for each antenna that was processed, so that
antennas with equal weights can share a product.  Arithmetic is exact here.
-/

namespace Tx

/-- Dimensions of a packet that beamforming reads. -/
structure BeamformingConfig where
  u : Nat
  b : Nat
  numerology : Sp3.Numerologies
  isNumerology : Sp3.getNumerologies u b = .ok numerology
  /-- Number of subcarriers with oversampling. -/
  nBDftOs : Nat
  oversampled : numerology.nBDft ≤ nBDftOs
  even : (nBDftOs - numerology.nBDft) % 2 = 0
  nTs : Nat
  nTx : Nat
  antennas : nTx ≤ 8

/--
The stages between transmit streams and antennas.  The list of the streams
added to antennas is a record that the program does not keep.
-/
structure Stages (Value : Type) where
  transmitStreamsStage : Nat → Nat → Value
  beamformingStage : Nat → Value
  antennaMapperStage : Nat → Nat → Value
  added : List (Nat × Nat)

namespace BeamformingConfig

theorem numerology_eq (config : BeamformingConfig) :
    0 < config.b ∧
      config.numerology.nBDft = config.b * 64 ∧
      config.numerology.nBOcc = config.b * 56 ∧
      config.numerology.nGuardsBottom = config.b * 4 := by
  have isNumerology := config.isNumerology
  unfold Sp3.getNumerologies at isNumerology
  by_cases definedU : (Sp3.hasSingleBit config.u && config.u ≤ 8) = true
  · by_cases definedB :
        (Sp3.hasSingleBit config.b && config.b ≤ 16 || config.b == 12) = true
    · have positive : 0 < config.b := by
        refine Nat.pos_of_ne_zero ?_
        intro isZero
        rw [isZero] at definedB
        exact absurd definedB (by decide)
      rw [definedU, definedB] at isNumerology
      rw [← Except.ok.inj isNumerology]
      refine ⟨positive, rfl, rfl, ?_⟩
      change (config.b * 64 - config.b * 56) / 2 - 1 + 1 = config.b * 4
      omega
    · rw [definedU, Bool.eq_false_of_not_eq_true definedB] at isNumerology
      cases isNumerology
  · rw [Bool.eq_false_of_not_eq_true definedU] at isNumerology
    cases isNumerology

/-- Offset of the lower half of the spectrum after mirroring. -/
def nSubcOffsetLowerHalfOs (config : BeamformingConfig) : Nat :=
  let nBDftGuardOs := (config.nBDftOs - config.numerology.nBDft) / 2
  config.numerology.nBDft / 2 + 2 * nBDftGuardOs +
    config.numerology.nGuardsBottom

/-- Number of occupied subcarriers with the one in the middle. -/
def nBOccPlusDc (config : BeamformingConfig) : Nat :=
  config.numerology.nBOcc + 1

theorem nSubcOffsetLowerHalfOs_eq (config : BeamformingConfig) :
    config.nSubcOffsetLowerHalfOs + config.numerology.nBOcc / 2 =
      config.nBDftOs := by
  obtain ⟨-, isDft, isOcc, isBottom⟩ := config.numerology_eq
  have oversampled := config.oversampled
  have even := config.even
  unfold nSubcOffsetLowerHalfOs
  dsimp only
  omega

end BeamformingConfig

section Stages

variable {Value : Type}

/-- Set the first values to zero. -/
def vecCfZero
    [Zero Value]
    (vec : Nat → Value)
    (length : Nat) :
    Nat → Value :=
  fun k => if k < length then 0 else vec k

/-- Multiply the first values with a scalar. -/
def vecScProdCcc
    [Mul Value]
    (source : Nat → Value)
    (scalar : Value)
    (target : Nat → Value)
    (length : Nat) :
    Nat → Value :=
  fun k => if k < length then source k * scalar else target k

/-- Add values from an offset on to as many values of the target. -/
def vecAdd
    [Add Value]
    (target : Nat → Value)
    (targetOffset : Nat)
    (source : Nat → Value)
    (sourceOffset length : Nat) :
    Nat → Value :=
  fun k =>
    if targetOffset ≤ k ∧ k < targetOffset + length then
      target k + source (sourceOffset + (k - targetOffset))
    else
      target k

variable [CommSemiring Value]

def runZeroStages
    (config : BeamformingConfig)
    (stages : Stages Value) :
    Stages Value where
  transmitStreamsStage := fun i =>
    if i < config.nTs then
      vecCfZero (stages.transmitStreamsStage i) config.nBOccPlusDc
    else
      stages.transmitStreamsStage i
  beamformingStage := vecCfZero stages.beamformingStage config.nBOccPlusDc
  antennaMapperStage := fun i =>
    if i < config.nTx then
      vecCfZero (stages.antennaMapperStage i) config.nBDftOs
    else
      stages.antennaMapperStage i
  added := []

/-- Add a weighted stream to an antenna, with the spectrum mirrored. -/
def addToAntenna
    (config : BeamformingConfig)
    (src : Nat → Value)
    (i : Nat)
    (stages : Stages Value)
    (jCompare : Nat) :
    Stages Value :=
  let nBOcc := config.numerology.nBOcc
  let upper :=
    vecAdd (stages.antennaMapperStage jCompare) 0 src (nBOcc / 2)
      ((nBOcc + 2) / 2)
  let lower := vecAdd upper config.nSubcOffsetLowerHalfOs src 0 (nBOcc / 2)
  { stages with
    antennaMapperStage :=
      Function.update stages.antennaMapperStage jCompare lower
    added := stages.added ++ [(i, jCompare)] }

/-- Upper and lower half of a spectrum at their mirrored positions. -/
def mirrored
    (config : BeamformingConfig)
    (source : Nat → Value)
    (k : Nat) :
    Value :=
  if k ≤ config.numerology.nBOcc / 2 then
    source (config.numerology.nBOcc / 2 + k)
  else if config.nBDftOs - config.numerology.nBOcc / 2 ≤ k then
    source (k - (config.nBDftOs - config.numerology.nBOcc / 2))
  else
    0

variable {config : BeamformingConfig}

theorem mirrored_congr
    {source other : Nat → Value}
    {k : Nat}
    (inside : k < config.nBDftOs)
    (same : ∀ k, k < config.nBOccPlusDc → source k = other k) :
    mirrored config source k = mirrored config other k := by
  obtain ⟨positive, isDft, isOcc, -⟩ := config.numerology_eq
  have oversampled := config.oversampled
  unfold BeamformingConfig.nBOccPlusDc at same
  unfold mirrored
  by_cases isUpper : k ≤ config.numerology.nBOcc / 2
  · rw [if_pos isUpper, if_pos isUpper]
    exact same _ (by omega)
  · rw [if_neg isUpper, if_neg isUpper]
    by_cases isLower : config.nBDftOs - config.numerology.nBOcc / 2 ≤ k
    · rw [if_pos isLower, if_pos isLower]
      exact same _ (by omega)
    · rw [if_neg isLower, if_neg isLower]

theorem mirrored_mul
    (config : BeamformingConfig)
    (weight : Value)
    (source : Nat → Value)
    (k : Nat) :
    mirrored config (fun k => weight * source k) k =
      weight * mirrored config source k := by
  unfold mirrored
  split
  · rfl
  · split
    · rfl
    · exact (mul_zero weight).symm

theorem antennaMapperStage_addToAntenna
    (src : Nat → Value)
    (i : Nat)
    (stages : Stages Value)
    (jCompare : Nat)
    {antenna k : Nat}
    (inside : k < config.nBDftOs) :
    (addToAntenna config src i stages jCompare).antennaMapperStage
        antenna k =
      stages.antennaMapperStage antenna k +
        if antenna = jCompare then mirrored config src k else 0 := by
  unfold addToAntenna
  dsimp only
  by_cases isAntenna : antenna = jCompare
  · rw [isAntenna, Function.update_self, if_pos rfl]
    obtain ⟨positive, isDft, isOcc, -⟩ := config.numerology_eq
    have isOffset := config.nSubcOffsetLowerHalfOs_eq
    have oversampled := config.oversampled
    unfold vecAdd mirrored
    by_cases isUpper : k ≤ config.numerology.nBOcc / 2
    · rw [if_neg (by omega), if_pos (by omega), if_pos isUpper, Nat.sub_zero]
    · rw [if_neg isUpper]
      by_cases isLower : config.nBDftOs - config.numerology.nBOcc / 2 ≤ k
      · have offset : config.nSubcOffsetLowerHalfOs =
            config.nBDftOs - config.numerology.nBOcc / 2 := by
          omega
        rw [if_pos (by omega), if_neg (by omega), if_pos isLower, offset,
          Nat.zero_add]
      · rw [if_neg (by omega), if_neg (by omega), if_neg isLower, add_zero]
  · rw [Function.update_of_ne isAntenna, if_neg isAntenna, add_zero]

/-- Stages, mask and index of a weight within the loops over antennas. -/
structure AntennaLoop (Value : Type) where
  stages : Stages Value
  mask : Nat
  wMatIdx : Nat

variable [DecidableEq Value]

/-- Compare the weight of the antenna `j` with that of another one. -/
def compareAntenna
    (config : BeamformingConfig)
    (wMat : Nat → Value)
    (weight : Value)
    (src : Nat → Value)
    (i j : Nat)
    (loop : AntennaLoop Value)
    (jCompare : Nat) :
    AntennaLoop Value :=
  -- the bit of `j` is tested, not that of the antenna compared with
  if (loop.mask >>> j) &&& 1 = 1 then
    { loop with wMatIdx := loop.wMatIdx + config.nTs }
  else if weight = wMat loop.wMatIdx then
    { stages := addToAntenna config src i loop.stages jCompare
      mask := loop.mask ||| 1 <<< jCompare
      wMatIdx := loop.wMatIdx + config.nTs }
  else
    { loop with wMatIdx := loop.wMatIdx + config.nTs }

/-- Add a stream to an antenna and to those after it with the same weight. -/
def processAntenna
    (config : BeamformingConfig)
    (wMat : Nat → Value)
    (i : Nat)
    (loop : AntennaLoop Value)
    (j : Nat) :
    AntennaLoop Value :=
  if (loop.mask >>> j) &&& 1 = 1 then
    { loop with wMatIdx := loop.wMatIdx + config.nTs }
  else
    let weight := wMat loop.wMatIdx
    if weight = 0 then
      { loop with
        wMatIdx := loop.wMatIdx + config.nTs
        mask := loop.mask ||| 1 <<< j }
    else
      let stages :=
        if weight = 1 then
          loop.stages
        else
          { loop.stages with
            beamformingStage :=
              vecScProdCcc (loop.stages.transmitStreamsStage i) weight
                loop.stages.beamformingStage config.nBOccPlusDc }
      let src :=
        if weight = 1 then
          stages.transmitStreamsStage i
        else
          stages.beamformingStage
      let compared :=
        (List.range' j (config.nTx - j)).foldl
          (compareAntenna config wMat weight src i j)
          { stages := stages
            mask := loop.mask
            wMatIdx := loop.wMatIdx }
      { compared with wMatIdx := loop.wMatIdx + config.nTs }

/-- Add a stream to all antennas. -/
def processStream
    (config : BeamformingConfig)
    (wMat : Nat → Value)
    (stages : Stages Value)
    (i : Nat) :
    Checked (Stages Value) := do
  let loop :=
    (List.range config.nTx).foldl (processAntenna config wMat i)
      { stages := stages, mask := 0, wMatIdx := i }
  dectnrpAssert (loop.mask == 1 <<< config.nTx - 1)
    "not all antennas streams processed"
  pure loop.stages

/-- Add the first transmit streams to all antennas. -/
def runBeamforming
    (config : BeamformingConfig)
    (wMat : Nat → Value)
    (stages : Stages Value)
    (nTsNonZero : Nat) :
    Checked (Stages Value) :=
  (List.range nTsNonZero).foldlM (processStream config wMat) stages

section Mask

/-- A bit of the mask. -/
theorem shiftRight_and_one (mask j : Nat) :
    (mask >>> j) &&& 1 = 1 ↔ mask.testBit j = true := by
  rw [Nat.and_one_is_mod, Nat.testBit_eq_decide_div_mod_eq,
    Nat.shiftRight_eq_div_pow, decide_eq_true_iff]

/-- The mask of all antennas before one does not have its bit. -/
theorem not_processed (j : Nat) :
    ¬((2 ^ j - 1) >>> j) &&& 1 = 1 := by
  rw [shiftRight_and_one, Nat.testBit_two_pow_sub_one, decide_eq_true_iff]
  exact lt_irrefl j

theorem or_shiftLeft (j : Nat) :
    (2 ^ j - 1) ||| 1 <<< j = 2 ^ (j + 1) - 1 := by
  apply Nat.eq_of_testBit_eq
  intro bit
  rw [Nat.testBit_or, Nat.one_shiftLeft, Nat.testBit_two_pow,
    Nat.testBit_two_pow_sub_one, Nat.testBit_two_pow_sub_one,
    ← Bool.decide_or]
  exact decide_eq_decide.mpr (by omega)

end Mask

section Loops

variable
  {config : BeamformingConfig}
  {wMat : Nat → Value}
  {weight : Value}
  {src : Nat → Value}
  {i j : Nat}

theorem foldl_compareAntenna
    (others : List Nat)
    (loop : AntennaLoop Value)
    (isProcessed : (loop.mask >>> j) &&& 1 = 1) :
    let compared :=
      others.foldl (compareAntenna config wMat weight src i j) loop
    compared.stages = loop.stages ∧ compared.mask = loop.mask := by
  induction others generalizing loop with
  | nil => exact ⟨rfl, rfl⟩
  | cons other others hypothesis =>
      have step : compareAntenna config wMat weight src i j loop other =
          { loop with wMatIdx := loop.wMatIdx + config.nTs } :=
        if_pos isProcessed
      dsimp only
      rw [List.foldl_cons, step]
      exact hypothesis _ isProcessed

/-- The stages and the mask after a stream was added to one antenna. -/
structure AddedOnce
    (config : BeamformingConfig)
    (weight : Value)
    (i j : Nat)
    (loop after : AntennaLoop Value) : Prop where
  mask : after.mask = loop.mask ||| 1 <<< j
  wMatIdx : after.wMatIdx = loop.wMatIdx + config.nTs
  streams :
    after.stages.transmitStreamsStage = loop.stages.transmitStreamsStage
  antennas :
    ∀ antenna k,
      k < config.nBDftOs →
      after.stages.antennaMapperStage antenna k =
        loop.stages.antennaMapperStage antenna k +
          if antenna = j then
            weight *
              mirrored config (loop.stages.transmitStreamsStage i) k
          else
            0
  added : after.stages.added = loop.stages.added ++ [(i, j)]

theorem processAntenna_addedOnce
    {loop : AntennaLoop Value}
    (inside : j < config.nTx)
    (isMask : loop.mask = 2 ^ j - 1)
    (notZero : wMat loop.wMatIdx ≠ 0) :
    AddedOnce config (wMat loop.wMatIdx) i j loop
      (processAntenna config wMat i loop j) := by
  have isOpen : ¬(loop.mask >>> j) &&& 1 = 1 := by
    rw [isMask]
    exact not_processed j
  have isClosed : ((loop.mask ||| 1 <<< j) >>> j) &&& 1 = 1 := by
    rw [isMask, or_shiftLeft, shiftRight_and_one, Nat.testBit_two_pow_sub_one]
    exact decide_eq_true (Nat.lt_succ_self j)
  obtain ⟨others, isOthers⟩ := Nat.exists_eq_add_of_lt inside
  have antennas :
      List.range' j (config.nTx - j) = j :: List.range' (j + 1) others := by
    rw [isOthers, Nat.add_assoc, Nat.add_sub_cancel_left, List.range'_succ]
  unfold processAntenna
  rw [if_neg isOpen]
  dsimp only
  rw [if_neg notZero, antennas, List.foldl_cons]
  generalize isStages :
    (if wMat loop.wMatIdx = 1 then loop.stages else _) = stages
  generalize isSrc :
    (if wMat loop.wMatIdx = 1 then stages.transmitStreamsStage i
    else stages.beamformingStage) = src
  have same : stages.transmitStreamsStage = loop.stages.transmitStreamsStage ∧
      stages.antennaMapperStage = loop.stages.antennaMapperStage ∧
      stages.added = loop.stages.added := by
    rw [← isStages]
    split <;> exact ⟨rfl, rfl, rfl⟩
  have weighted : ∀ k, k < config.nBOccPlusDc →
      src k = wMat loop.wMatIdx * loop.stages.transmitStreamsStage i k := by
    intro k occupied
    rw [← isSrc, ← isStages]
    by_cases isOne : wMat loop.wMatIdx = 1
    · rw [if_pos isOne, if_pos isOne, isOne, one_mul]
    · rw [if_neg isOne, if_neg isOne]
      dsimp only [vecScProdCcc]
      rw [if_pos occupied, mul_comm]
  have first : compareAntenna config wMat (wMat loop.wMatIdx) src i j
      { stages := stages
        mask := loop.mask
        wMatIdx := loop.wMatIdx } j =
        { stages := addToAntenna config src i stages j
          mask := loop.mask ||| 1 <<< j
          wMatIdx := loop.wMatIdx + config.nTs } := by
    unfold compareAntenna
    rw [if_neg isOpen, if_pos rfl]
  rw [first]
  obtain ⟨sameStages, sameMask⟩ :=
    @foldl_compareAntenna Value _ _ config wMat (wMat loop.wMatIdx) src
      i j (List.range' (j + 1) others)
      { stages := addToAntenna config src i stages j
        mask := loop.mask ||| 1 <<< j
        wMatIdx := loop.wMatIdx + config.nTs }
      isClosed
  refine ⟨sameMask, rfl, ?_, ?_, ?_⟩
  · dsimp only
    rw [sameStages]
    exact same.1
  · intro antenna k isSubcarrier
    dsimp only
    rw [sameStages, antennaMapperStage_addToAntenna _ _ _ _ isSubcarrier,
      same.2.1, mirrored_congr isSubcarrier weighted, mirrored_mul]
  · dsimp only
    rw [sameStages]
    change stages.added ++ [(i, j)] = _
    rw [same.2.2]

/--
The stages after a stream was added to the first antennas.
-/
structure Processed
    (config : BeamformingConfig)
    (wMat : Nat → Value)
    (i : Nat)
    (before : Stages Value)
    (nAntennas : Nat)
    (loop : AntennaLoop Value) : Prop where
  mask : loop.mask = 2 ^ nAntennas - 1
  wMatIdx : loop.wMatIdx = nAntennas * config.nTs + i
  streams : loop.stages.transmitStreamsStage = before.transmitStreamsStage
  antennas :
    ∀ antenna k,
      k < config.nBDftOs →
      loop.stages.antennaMapperStage antenna k =
        before.antennaMapperStage antenna k +
          if antenna < nAntennas then
            wMat (antenna * config.nTs + i) *
              mirrored config (before.transmitStreamsStage i) k
          else
            0
  added :
    loop.stages.added =
      before.added ++
        ((List.range nAntennas).filter fun antenna =>
          wMat (antenna * config.nTs + i) ≠ 0).map fun antenna =>
            (i, antenna)

/-- One more antenna. -/
theorem Processed.step
    {before : Stages Value}
    {loop : AntennaLoop Value}
    (inside : j < config.nTx)
    (processed : Processed config wMat i before j loop) :
    Processed config wMat i before (j + 1)
      (processAntenna config wMat i loop j) := by
  have nextIdx : loop.wMatIdx + config.nTs = (j + 1) * config.nTs + i := by
    rw [processed.wMatIdx]
    ring
  by_cases isZero : wMat loop.wMatIdx = 0
  · -- nothing is added for a zero weight, only the bit is set
    have step : processAntenna config wMat i loop j =
        { loop with
          wMatIdx := loop.wMatIdx + config.nTs
          mask := loop.mask ||| 1 <<< j } := by
      unfold processAntenna
      rw [processed.mask, if_neg (not_processed j)]
      exact if_pos isZero
    rw [processed.wMatIdx] at isZero
    rw [step]
    refine ⟨?_, nextIdx, processed.streams, ?_, ?_⟩
    · dsimp only
      rw [processed.mask, or_shiftLeft]
    · intro antenna k isSubcarrier
      dsimp only
      rw [processed.antennas antenna k isSubcarrier]
      by_cases isBefore : antenna < j
      · rw [if_pos isBefore, if_pos (Nat.lt_succ_of_lt isBefore)]
      · rw [if_neg isBefore]
        by_cases isAntenna : antenna = j
        · rw [isAntenna, if_pos (Nat.lt_succ_self j), isZero, zero_mul]
        · rw [if_neg (by omega)]
    · dsimp only
      rw [processed.added, List.range_succ, List.filter_append,
        List.filter_singleton]
      simp only [isZero, ne_eq, not_true_eq_false, decide_false,
        cond_false, List.append_nil]
  · have once :=
      @processAntenna_addedOnce Value _ _ config wMat i j loop inside
        processed.mask isZero
    rw [processed.wMatIdx] at isZero
    refine ⟨?_, once.wMatIdx.trans nextIdx,
      once.streams.trans processed.streams, ?_, ?_⟩
    · rw [once.mask, processed.mask, or_shiftLeft]
    · intro antenna k isSubcarrier
      rw [once.antennas antenna k isSubcarrier,
        processed.antennas antenna k isSubcarrier, processed.streams,
        processed.wMatIdx]
      by_cases isAntenna : antenna = j
      · rw [isAntenna, if_neg (lt_irrefl j), if_pos rfl,
          if_pos (Nat.lt_succ_self j), add_zero]
      · rw [if_neg isAntenna, add_zero]
        by_cases isBefore : antenna < j
        · rw [if_pos isBefore, if_pos (Nat.lt_succ_of_lt isBefore)]
        · rw [if_neg isBefore, if_neg (by omega)]
    · rw [once.added, processed.added, List.range_succ,
        List.filter_append, List.filter_singleton]
      simp only [isZero, ne_eq, not_false_eq_true, decide_true,
        cond_true, List.map_append, List.map_cons, List.map_nil,
        List.append_assoc]

/-- All antennas up to a number. -/
theorem Processed.run
    (before : Stages Value)
    (nAntennas : Nat)
    (inside : nAntennas ≤ config.nTx) :
    Processed config wMat i before nAntennas
      ((List.range nAntennas).foldl (processAntenna config wMat i)
        { stages := before, mask := 0, wMatIdx := i }) := by
  induction nAntennas with
  | zero =>
      refine ⟨rfl, ?_, rfl, ?_, ?_⟩
      · change i = 0 * config.nTs + i
        rw [Nat.zero_mul, Nat.zero_add]
      · intro antenna k isSubcarrier
        rw [if_neg (Nat.not_lt_zero antenna), add_zero]
        rfl
      · exact (List.append_nil before.added).symm
  | succ nAntennas hypothesis =>
      rw [List.range_succ, List.foldl_append]
      exact (hypothesis (Nat.le_of_succ_le inside)).step inside

end Loops

section Streams

variable
  {config : BeamformingConfig}
  {wMat : Nat → Value}

/-- The antennas that get a stream. -/
def antennasOf
    (config : BeamformingConfig)
    (wMat : Nat → Value)
    (i : Nat) :
    List (Nat × Nat) :=
  ((List.range config.nTx).filter fun antenna =>
    wMat (antenna * config.nTs + i) ≠ 0).map fun antenna => (i, antenna)

theorem mem_antennasOf
    {i : Nat}
    {pair : Nat × Nat} :
    pair ∈ antennasOf config wMat i ↔
      pair.1 = i ∧ pair.2 < config.nTx ∧
        wMat (pair.2 * config.nTs + pair.1) ≠ 0 := by
  obtain ⟨stream, antenna⟩ := pair
  unfold antennasOf
  rw [List.mem_map]
  constructor
  · rintro ⟨member, isMember, same⟩
    obtain ⟨rfl, rfl⟩ := Prod.mk.inj same
    obtain ⟨inside, notZero⟩ := List.mem_filter.mp isMember
    exact ⟨rfl, List.mem_range.mp inside, of_decide_eq_true notZero⟩
  · rintro ⟨isStream, inside, notZero⟩
    dsimp only at isStream inside notZero
    subst isStream
    exact ⟨antenna, List.mem_filter.mpr
      ⟨List.mem_range.mpr inside, decide_eq_true notZero⟩, rfl⟩

theorem nodup_antennasOf (i : Nat) :
    (antennasOf config wMat i).Nodup := by
  refine List.Nodup.map ?_ (List.Nodup.filter _ List.nodup_range)
  intro antenna other same
  exact (Prod.mk.inj same).2

theorem processStream_spec
    (stages : Stages Value)
    (i : Nat) :
    ∃ after,
      processStream config wMat stages i = .ok after ∧
        after.transmitStreamsStage = stages.transmitStreamsStage ∧
        (∀ antenna k,
          antenna < config.nTx →
          k < config.nBDftOs →
          after.antennaMapperStage antenna k =
            stages.antennaMapperStage antenna k +
              wMat (antenna * config.nTs + i) *
                mirrored config (stages.transmitStreamsStage i) k) ∧
        after.added = stages.added ++ antennasOf config wMat i := by
  have processed :=
    @Processed.run Value _ _ config wMat i stages config.nTx le_rfl
  refine ⟨_, ?_, processed.streams, ?_, processed.added⟩
  · unfold processStream
    dsimp only
    rw [processed.mask, Nat.one_shiftLeft, beq_self_eq_true]
    rfl
  · intro antenna k inside isSubcarrier
    rw [processed.antennas antenna k isSubcarrier, if_pos inside]

theorem runBeamforming_spec
    (stages : Stages Value)
    (nTsNonZero : Nat) :
    ∃ after,
      runBeamforming config wMat stages nTsNonZero = .ok after ∧
        after.transmitStreamsStage = stages.transmitStreamsStage ∧
        (∀ antenna k,
          antenna < config.nTx →
          k < config.nBDftOs →
          after.antennaMapperStage antenna k =
            stages.antennaMapperStage antenna k +
              ∑ i ∈ Finset.range nTsNonZero,
                wMat (antenna * config.nTs + i) *
                  mirrored config (stages.transmitStreamsStage i) k) ∧
        after.added =
          stages.added ++
            (List.range nTsNonZero).flatMap (antennasOf config wMat) := by
  induction nTsNonZero with
  | zero =>
      refine ⟨stages, rfl, rfl, ?_, (List.append_nil _).symm⟩
      intro antenna k inside isSubcarrier
      rw [Finset.sum_range_zero, add_zero]
  | succ nTsNonZero hypothesis =>
      obtain ⟨first, isFirst, firstStreams, firstAntennas, firstAdded⟩ :=
        hypothesis
      obtain ⟨after, isAfter, afterStreams, afterAntennas, afterAdded⟩ :=
        @processStream_spec Value _ _ config wMat first nTsNonZero
      refine ⟨after, ?_, afterStreams.trans firstStreams, ?_, ?_⟩
      · unfold runBeamforming at isFirst ⊢
        rw [List.range_succ, List.foldlM_append, isFirst]
        change processStream config wMat first nTsNonZero >>= pure = _
        rw [isAfter]
        rfl
      · intro antenna k inside isSubcarrier
        rw [afterAntennas antenna k inside isSubcarrier,
          firstAntennas antenna k inside isSubcarrier, firstStreams,
          Finset.sum_range_succ, add_assoc]
      · rw [afterAdded, firstAdded, List.range_succ, List.flatMap_append,
          List.flatMap_singleton, List.append_assoc]

/--
After the stages were set to zero and the streams filled, every antenna gets
the sum of the weighted streams, with the spectrum mirrored and zeros
elsewhere.  Every stream with a weight other than zero is added once.
-/
theorem runBeamforming_matrixProduct
    (config : BeamformingConfig)
    (wMat : Nat → Value)
    (stages : Stages Value)
    (streams : Nat → Nat → Value)
    (nTsNonZero : Nat) :
    ∃ after,
      runBeamforming config wMat
          { runZeroStages config stages with
            transmitStreamsStage := streams }
          nTsNonZero = .ok after ∧
        (∀ j k,
          j < config.nTx →
          k < config.nBDftOs →
          after.antennaMapperStage j k =
            ∑ i ∈ Finset.range nTsNonZero,
              wMat (j * config.nTs + i) * mirrored config (streams i) k) ∧
        after.added.Nodup ∧
        ∀ i j,
          (i, j) ∈ after.added ↔
            i < nTsNonZero ∧ j < config.nTx ∧
              wMat (j * config.nTs + i) ≠ 0 := by
  obtain ⟨after, isAfter, -, antennas, added⟩ :=
    @runBeamforming_spec Value _ _ config wMat
      { runZeroStages config stages with transmitStreamsStage := streams }
      nTsNonZero
  have isAdded :
      after.added =
        (List.range nTsNonZero).flatMap (antennasOf config wMat) :=
    added
  refine ⟨after, isAfter, ?_, ?_, ?_⟩
  · intro j k inside isSubcarrier
    have isZero :
        (runZeroStages config stages).antennaMapperStage j k = 0 := by
      unfold runZeroStages vecCfZero
      dsimp only
      rw [if_pos inside, if_pos isSubcarrier]
    rw [antennas j k inside isSubcarrier, isZero, zero_add]
  · rw [isAdded, List.nodup_flatMap]
    refine ⟨fun i _ => nodup_antennasOf i, ?_⟩
    refine List.nodup_range.imp ?_
    intro i other different pair inFirst inSecond
    exact different ((mem_antennasOf.mp inFirst).1.symm.trans
      (mem_antennasOf.mp inSecond).1)
  · intro i j
    rw [isAdded, List.mem_flatMap]
    constructor
    · rintro ⟨stream, isStream, isMember⟩
      obtain ⟨same, inside, notZero⟩ := mem_antennasOf.mp isMember
      dsimp only at same
      subst same
      exact ⟨List.mem_range.mp isStream, inside, notZero⟩
    · rintro ⟨isStream, inside, notZero⟩
      exact ⟨i, List.mem_range.mpr isStream,
        mem_antennasOf.mpr ⟨rfl, inside, notZero⟩⟩

end Streams

end Stages

end Tx

end DectNrp
