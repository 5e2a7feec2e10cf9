import DectNrp.CheckedRuns
import DectNrp.Rounding

namespace DectNrp

/-!
# Pulses per x

The rising edge of the next pulse is an estimation that is extrapolated from
pulse to pulse.  Each received beacon corrects it: beacons are due in a raster,
so that the distance of a beacon from the closest point of the raster is the
deviation of the estimation.
-/

open Checked (bind_eq_ok ok_bind)

/-- Settings of the pulses as numbers of samples, and the estimation. -/
structure Ppx where
  ppxPeriod : UInt32
  ppxLength : UInt32
  ppxTimeAdvance : UInt32
  beaconPeriod : UInt32
  timeDeviationMax : UInt32
  ppxPeriodWarped64 : Int
  ppxRisingEdgeEstimation64 : Int
  deriving Repr, DecidableEq

namespace Ppx

/-- All durations are derived from the same sample rate. -/
def construct
    (ppxPeriod ppxLength ppxTimeAdvance beaconPeriod timeDeviationMax :
      UInt32) :
    Checked Ppx := do
  dectnrpAssert (ppxLength < ppxPeriod) "ill-defined"
  dectnrpAssert (ppxTimeAdvance < ppxPeriod) "ill-defined"
  dectnrpAssert (beaconPeriod < ppxPeriod) "ill-defined"
  dectnrpAssert (ppxPeriod % beaconPeriod == 0) "ill-defined"
  pure {
    ppxPeriod := ppxPeriod
    ppxLength := ppxLength
    ppxTimeAdvance := ppxTimeAdvance
    beaconPeriod := beaconPeriod
    timeDeviationMax := timeDeviationMax
    ppxPeriodWarped64 := ppxPeriod.toNat
    ppxRisingEdgeEstimation64 := undefinedEarly64
  }

def hasPpxRisingEdge (ppx : Ppx) : Bool :=
  0 ≤ ppx.ppxRisingEdgeEstimation64

def setPpxPeriodWarped
    (ppx : Ppx)
    (ppxPeriodWarped64 : Int) :
    Ppx :=
  { ppx with ppxPeriodWarped64 := ppxPeriodWarped64 }

def extrapolateNextRisingEdge (ppx : Ppx) : Checked Ppx := do
  let estimation ←
    int64 (ppx.ppxRisingEdgeEstimation64 + ppx.ppxPeriodWarped64)
  pure { ppx with ppxRisingEdgeEstimation64 := estimation }

/-- By how much a time deviates from the closest point of a raster. -/
def determineOffset (ref64 raster64 timeToTest64 : Int) : Checked Int := do
  dectnrpAssert (raster64.tmod 2 = 0) "raster must be even"
  let A ← int64 (timeToTest64 - ref64)
  let B ← roundInteger A raster64
  let multiple ← int64 (B * raster64)
  let C ← int64 (ref64 + multiple)
  let distance ← int64 (timeToTest64 - C)
  dectnrpAssert (distance.natAbs < raster64.tdiv 2) "distance incorrect"
  pure distance

def provideBeaconTimeOutOfRaster
    (ppx : Ppx)
    (beaconTime64 beaconPeriodCustom64 : Int) :
    Checked Ppx := do
  dectnrpAssert ppx.hasPpxRisingEdge "not initialized yet"
  -- deviation between received beacon time and extrapolated beacon time
  let deviation ←
    determineOffset ppx.ppxRisingEdgeEstimation64 beaconPeriodCustom64
      beaconTime64
  dectnrpAssert (deviation.natAbs ≤ ppx.timeDeviationMax.toNat)
    "synchronization lost"
  -- slight adjustment
  let estimation ← int64 (ppx.ppxRisingEdgeEstimation64 + deviation)
  pure { ppx with ppxRisingEdgeEstimation64 := estimation }

def provideBeaconTime
    (ppx : Ppx)
    (beaconTime64 : Int) :
    Checked Ppx :=
  ppx.provideBeaconTimeOutOfRaster beaconTime64 ppx.beaconPeriod.toNat

/-- A time is exactly between two points of a raster. -/
def IsTie (ref64 raster64 time64 : Int) : Prop :=
  (time64 - ref64) % raster64 = raster64 / 2

instance (ref64 raster64 time64 : Int) :
    Decidable (IsTie ref64 raster64 time64) :=
  inferInstanceAs (Decidable (_ = _))

/-- Distance of a time from the closest point of a raster. -/
def closestDistance (ref64 raster64 time64 : Int) : Int :=
  (time64 - ref64 + raster64 / 2) % raster64 - raster64 / 2

/--
The distance of two times, the distance moved by half a raster and the closest
point of the raster are numbers of 64 bits.
-/
structure Fits (ref64 raster64 time64 : Int) : Prop where
  distance : InInt64 (time64 - ref64)
  moved :
    InInt64
      (time64 - ref64 + roundingOffset (time64 - ref64) raster64)
  closest : InInt64 (time64 - closestDistance ref64 raster64 time64)

/-- The offset is returned, and the rest is a multiple of the raster. -/
def DeterminesOffset (ref64 raster64 time64 : Int) : Prop :=
  ∃ offset : Int,
    determineOffset ref64 raster64 time64 = .ok offset ∧
    offset.natAbs ≤ raster64 / 2 ∧
    raster64 ∣ time64 - ref64 - offset

variable {ref64 raster64 time64 : Int}

/-- Rounding leaves the closest distance, except for a tie. -/
theorem remainder_eq_closestDistance
    (positive : 0 < raster64)
    (even : raster64 % 2 = 0)
    (noTie : ¬ IsTie ref64 raster64 time64) :
    remainder (time64 - ref64) raster64 =
      closestDistance ref64 raster64 time64 := by
  obtain ⟨lower, upper⟩ :=
    @remainder_bounds (time64 - ref64) raster64 positive even
  have notHalf :
      (remainder (time64 - ref64) raster64).natAbs ≠ (raster64 / 2).natAbs :=
    fun isHalf =>
      noTie ((natAbs_remainder_eq_half_iff positive even).mp isHalf)
  have sameClass := remainder_emod (time64 - ref64) raster64
  unfold closestDistance
  rw [Int.add_emod, ← sameClass, ← Int.add_emod,
    Int.emod_eq_of_lt (by omega) (by omega)]
  omega

/-- The offset is the closest distance of a time that is not between points. -/
theorem determineOffset_eq_ok_iff
    {ref64 raster64 time64 offset : Int}
    (positive : 0 < raster64)
    (isInt64 : InInt64 raster64)
    (even : raster64 % 2 = 0) :
    determineOffset ref64 raster64 time64 = .ok offset ↔
      Fits ref64 raster64 time64 ∧ ¬ IsTie ref64 raster64 time64 ∧
        offset = closestDistance ref64 raster64 time64 := by
  have isEven : raster64.tmod 2 = 0 := by
    rw [Int.tmod_eq_emod_of_nonneg (Int.le_of_lt positive)]
    exact even
  have half : raster64.tdiv 2 = raster64 / 2 :=
    Int.tdiv_eq_ediv_of_nonneg (Int.le_of_lt positive)
  obtain ⟨lower, upper⟩ :=
    @remainder_bounds (time64 - ref64) raster64 positive even
  have tieIff :=
    @natAbs_remainder_eq_half_iff (time64 - ref64) raster64 positive even
  -- what is left once the closest point was subtracted
  have isRemainder (multiple : Int)
      (isMultiple : multiple = rounded (time64 - ref64) raster64 * raster64) :
      time64 - (ref64 + multiple) = remainder (time64 - ref64) raster64 := by
    unfold remainder
    omega
  unfold determineOffset
  rw [isEven, half]
  simp only [decide_true, dectnrpAssert_true, ok_bind]
  constructor
  · intro returned
    obtain ⟨A, AEq, returned⟩ := bind_eq_ok.mp returned
    obtain ⟨distanceFits, rfl⟩ := int64_eq_ok_iff.mp AEq
    obtain ⟨B, BEq, returned⟩ := bind_eq_ok.mp returned
    obtain ⟨movedFits, rfl⟩ := (roundInteger_eq_ok_iff positive isInt64).mp BEq
    obtain ⟨multiple, multipleEq, returned⟩ := bind_eq_ok.mp returned
    obtain ⟨-, isMultiple⟩ := int64_eq_ok_iff.mp multipleEq
    obtain ⟨C, CEq, returned⟩ := bind_eq_ok.mp returned
    obtain ⟨closestFits, rfl⟩ := int64_eq_ok_iff.mp CEq
    obtain ⟨distance, distanceEq, returned⟩ := bind_eq_ok.mp returned
    obtain ⟨-, rfl⟩ := int64_eq_ok_iff.mp distanceEq
    obtain ⟨_, short, returned⟩ := bind_eq_ok.mp returned
    have shorter := of_decide_eq_true (dectnrpAssert_eq_ok.mp short)
    have isOffset := (Except.ok.inj returned).symm
    rw [isRemainder multiple isMultiple] at shorter isOffset
    have noTie : ¬ IsTie ref64 raster64 time64 := by
      intro tie
      have isHalf := tieIff.mpr tie
      omega
    have isClosest := remainder_eq_closestDistance positive even noTie
    refine ⟨⟨distanceFits, movedFits, ?_⟩, noTie, ?_⟩
    · rw [← isClosest]
      have isRest := isRemainder multiple isMultiple
      rw [show time64 - remainder (time64 - ref64) raster64 =
        ref64 + multiple by omega]
      exact closestFits
    · rw [isOffset, isClosest]
  · rintro ⟨⟨distanceFits, movedFits, closestFits⟩, noTie, rfl⟩
    have isClosest := remainder_eq_closestDistance positive even noTie
    have notHalf :
        (remainder (time64 - ref64) raster64).natAbs ≠ (raster64 / 2).natAbs :=
      fun isHalf => noTie (tieIff.mp isHalf)
    have isRest := isRemainder _ rfl
    rw [← isClosest] at closestFits ⊢
    obtain ⟨distanceLower, distanceUpper⟩ := distanceFits
    obtain ⟨rasterLower, rasterUpper⟩ := isInt64
    obtain ⟨closestLower, closestUpper⟩ := closestFits
    have multipleFits :
        InInt64 (rounded (time64 - ref64) raster64 * raster64) := by
      obtain ⟨movedLower, movedUpper⟩ := movedFits
      unfold remainder at isRest lower upper
      unfold roundingOffset at movedLower movedUpper
      constructor <;> split at movedLower <;> split at movedUpper <;> omega
    rw [int64_eq_ok_iff.mpr ⟨⟨distanceLower, distanceUpper⟩, rfl⟩, ok_bind,
      (roundInteger_eq_ok_iff positive
        ⟨rasterLower, rasterUpper⟩).mpr ⟨movedFits, rfl⟩,
      ok_bind, int64_eq_ok_iff.mpr ⟨multipleFits, rfl⟩,
      ok_bind,
      int64_eq_ok_iff.mpr ⟨⟨by omega, by omega⟩, rfl⟩,
      ok_bind, isRest,
      int64_eq_ok_iff.mpr ⟨⟨by omega, by omega⟩, rfl⟩,
      ok_bind]
    have short : ((remainder (time64 - ref64) raster64).natAbs : Int) <
        raster64 / 2 := by
      omega
    simp only [short, decide_true, dectnrpAssert_true, ok_bind,
      Checked.pure_eq_ok]

theorem determinesOffset_iff
    (positive : 0 < raster64)
    (isInt64 : InInt64 raster64)
    (even : raster64 % 2 = 0) :
    DeterminesOffset ref64 raster64 time64 ↔
      Fits ref64 raster64 time64 ∧ ¬ IsTie ref64 raster64 time64 := by
  constructor
  · rintro ⟨offset, returned, -, -⟩
    obtain ⟨fits, noTie, -⟩ :=
      (determineOffset_eq_ok_iff positive isInt64 even).mp returned
    exact ⟨fits, noTie⟩
  · rintro ⟨fits, noTie⟩
    have isClosest := remainder_eq_closestDistance positive even noTie
    obtain ⟨lower, upper⟩ :=
      @remainder_bounds (time64 - ref64) raster64 positive even
    refine ⟨closestDistance ref64 raster64 time64,
        (determineOffset_eq_ok_iff positive isInt64 even).mpr
          ⟨fits, noTie, rfl⟩, ?_, ?_⟩
    · rw [← isClosest]
      omega
    · rw [← isClosest]
      apply Int.dvd_of_emod_eq_zero
      rw [Int.sub_emod, remainder_emod, Int.sub_self, Int.zero_emod]

/-- What happens between two pulses. -/
inductive Call where
  | extrapolateNextRisingEdge
  | setPpxPeriodWarped (ppxPeriodWarped64 : Int)
  | provideBeaconTime (beaconTime64 : Int)
  deriving Repr, DecidableEq

def step (ppx : Ppx) : Call → Checked Ppx
  | .extrapolateNextRisingEdge => ppx.extrapolateNextRisingEdge
  | .setPpxPeriodWarped ppxPeriodWarped64 =>
      pure (ppx.setPpxPeriodWarped ppxPeriodWarped64)
  | .provideBeaconTime beaconTime64 =>
      ppx.provideBeaconTime beaconTime64

/-- The deviation that is accepted is at most half of an even raster. -/
structure HasRaster (ppx : Ppx) : Prop where
  positive : 0 < ppx.beaconPeriod
  even : ppx.beaconPeriod.toNat % 2 = 0
  deviation :
    ppx.timeDeviationMax.toNat ≤ ppx.beaconPeriod.toNat / 2

/-- A beacon deviates from a point of the raster as much as accepted. -/
def Near (ppx : Ppx) : Call → Prop
  | .provideBeaconTime beaconTime64 =>
      ∃ point : Int,
        (beaconTime64 -
            (ppx.ppxRisingEdgeEstimation64 +
              point * ppx.beaconPeriod.toNat)).natAbs ≤
          ppx.timeDeviationMax.toNat
  | _ => True

/-- The estimation is in the raster of the beacon and was hardly moved. -/
def Tracks (ppx after : Ppx) : Call → Prop
  | .provideBeaconTime beaconTime64 =>
      (ppx.beaconPeriod.toNat : Int) ∣
          after.ppxRisingEdgeEstimation64 - beaconTime64 ∧
        (after.ppxRisingEdgeEstimation64 -
            ppx.ppxRisingEdgeEstimation64).natAbs ≤
          ppx.timeDeviationMax.toNat
  | _ => True

/--
The estimation is not negative, the beacon is not between two points of the
raster, and all times are numbers of 64 bits.
-/
def Permits (ppx : Ppx) : Call → Prop
  | .extrapolateNextRisingEdge =>
      InInt64 (ppx.ppxRisingEdgeEstimation64 + ppx.ppxPeriodWarped64)
  | .setPpxPeriodWarped _ => True
  | .provideBeaconTime beaconTime64 =>
      0 ≤ ppx.ppxRisingEdgeEstimation64 ∧
      Fits ppx.ppxRisingEdgeEstimation64 ppx.beaconPeriod.toNat
        beaconTime64 ∧
      ¬ IsTie ppx.ppxRisingEdgeEstimation64 ppx.beaconPeriod.toNat
          beaconTime64 ∧
      InInt64
        (ppx.ppxRisingEdgeEstimation64 +
          closestDistance ppx.ppxRisingEdgeEstimation64
            ppx.beaconPeriod.toNat beaconTime64)

/-- Every call of a run returns and keeps the estimation in the raster. -/
def StaysOnRaster (ppx : Ppx) (calls : List Call) : Prop :=
  AlongRun step
    (fun ppx call =>
      ∃ after, ppx.step call = .ok after ∧ ppx.Tracks after call)
    ppx calls

theorem closestDistance_le
    {ref64 raster64 time64 point : Int}
    {timeDeviationMax : Nat}
    (positive : 0 < raster64)
    (even : raster64 % 2 = 0)
    (accepted : (timeDeviationMax : Int) ≤ raster64 / 2)
    (noTie : ¬ IsTie ref64 raster64 time64)
    (near : (time64 - (ref64 + point * raster64)).natAbs ≤ timeDeviationMax) :
    (closestDistance ref64 raster64 time64).natAbs ≤ timeDeviationMax := by
  generalize isDeviation :
    time64 - (ref64 + point * raster64) = deviation at near
  have isDistance : time64 - ref64 = deviation + point * raster64 := by omega
  -- half a raster to the front is a tie, like half a raster behind
  have notHalf : deviation ≠ raster64 / 2 := by
    intro isHalf
    apply noTie
    unfold IsTie
    rw [isDistance, Int.add_mul_emod_self_right, isHalf,
      Int.emod_eq_of_lt (by omega) (by omega)]
  have isClosest : closestDistance ref64 raster64 time64 = deviation := by
    unfold closestDistance
    rw [isDistance, show deviation + point * raster64 + raster64 / 2 =
        deviation + raster64 / 2 + point * raster64 by omega,
      Int.add_mul_emod_self_right,
      Int.emod_eq_of_lt (by omega) (by omega)]
    omega
  rw [isClosest]
  exact near

variable {ppx : Ppx}

theorem provideBeaconTime_iff
    (hasRaster : ppx.HasRaster)
    {beaconTime64 : Int}
    (near : ppx.Near (.provideBeaconTime beaconTime64)) :
    (∃ after,
      ppx.provideBeaconTime beaconTime64 = .ok after ∧
        ppx.Tracks after (.provideBeaconTime beaconTime64)) ↔
      ppx.Permits (.provideBeaconTime beaconTime64) := by
  obtain ⟨rasterPositive, rasterEven, accepted⟩ := hasRaster
  obtain ⟨point, near⟩ := near
  have positive : (0 : Int) < ppx.beaconPeriod.toNat := by
    rw [UInt32.lt_iff_toNat_lt] at rasterPositive
    exact Int.ofNat_lt.mpr rasterPositive
  have isInt64 : InInt64 ppx.beaconPeriod.toNat := by
    have bound := ppx.beaconPeriod.toNat_lt
    exact ⟨by omega, by omega⟩
  have even : (ppx.beaconPeriod.toNat : Int) % 2 = 0 := by omega
  unfold provideBeaconTime provideBeaconTimeOutOfRaster Permits
  constructor
  · rintro ⟨after, returned, -⟩
    obtain ⟨_, initialized, returned⟩ := bind_eq_ok.mp returned
    obtain ⟨deviation, deviationEq, returned⟩ := bind_eq_ok.mp returned
    obtain ⟨fits, noTie, rfl⟩ :=
      (determineOffset_eq_ok_iff positive isInt64 even).mp deviationEq
    obtain ⟨_, -, returned⟩ := bind_eq_ok.mp returned
    obtain ⟨estimation, estimationEq, -⟩ := bind_eq_ok.mp returned
    exact ⟨of_decide_eq_true (dectnrpAssert_eq_ok.mp initialized), fits,
        noTie, (int64_eq_ok_iff.mp estimationEq).1⟩
  · rintro ⟨initialized, fits, noTie, estimationFits⟩
    have small : (closestDistance ppx.ppxRisingEdgeEstimation64
        ppx.beaconPeriod.toNat beaconTime64).natAbs ≤
          ppx.timeDeviationMax.toNat :=
      closestDistance_le positive even (by omega) noTie near
    have hasEdge : ppx.hasPpxRisingEdge = true := decide_eq_true initialized
    have isClosest := remainder_eq_closestDistance positive even noTie
    rw [hasEdge, dectnrpAssert_true, ok_bind,
      (determineOffset_eq_ok_iff positive isInt64 even).mpr ⟨fits, noTie, rfl⟩,
      ok_bind, decide_eq_true small, dectnrpAssert_true,
      ok_bind, int64_eq_ok_iff.mpr ⟨estimationFits, rfl⟩]
    refine ⟨_, rfl, ?_, ?_⟩
    · dsimp only
      rw [← isClosest, remainder]
      exact ⟨-rounded (beaconTime64 - ppx.ppxRisingEdgeEstimation64)
          ppx.beaconPeriod.toNat, by
          rw [Int.mul_neg, Int.mul_comm (ppx.beaconPeriod.toNat : Int)]
          omega⟩
    · dsimp only
      rw [add_sub_cancel_left]
      exact small

theorem step_iff
    (hasRaster : ppx.HasRaster)
    {call : Call}
    (near : ppx.Near call) :
    (∃ after, ppx.step call = .ok after ∧ ppx.Tracks after call) ↔
      ppx.Permits call := by
  cases call with
  | extrapolateNextRisingEdge =>
      unfold step extrapolateNextRisingEdge Permits
      constructor
      · rintro ⟨after, returned, -⟩
        obtain ⟨estimation, estimationEq, -⟩ := bind_eq_ok.mp returned
        exact (int64_eq_ok_iff.mp estimationEq).1
      · intro fits
        rw [int64_eq_ok_iff.mpr ⟨fits, rfl⟩]
        exact ⟨_, rfl, trivial⟩
  | setPpxPeriodWarped ppxPeriodWarped64 =>
      exact ⟨fun _ => trivial, fun _ => ⟨_, rfl, trivial⟩⟩
  | provideBeaconTime beaconTime64 =>
      exact provideBeaconTime_iff hasRaster near

/-- No call changes the raster. -/
theorem HasRaster.step
    {ppx after : Ppx}
    {call : Call}
    (hasRaster : ppx.HasRaster)
    (returned : ppx.step call = .ok after) :
    after.HasRaster := by
  have sameSettings : after.beaconPeriod = ppx.beaconPeriod ∧
      after.timeDeviationMax = ppx.timeDeviationMax := by
    cases call with
    | extrapolateNextRisingEdge =>
        obtain ⟨estimation, -, isAfter⟩ := bind_eq_ok.mp returned
        rw [← Except.ok.inj isAfter]
        exact ⟨rfl, rfl⟩
    | setPpxPeriodWarped ppxPeriodWarped64 =>
        rw [← Except.ok.inj returned]
        exact ⟨rfl, rfl⟩
    | provideBeaconTime beaconTime64 =>
        obtain ⟨_, -, returned⟩ := bind_eq_ok.mp returned
        obtain ⟨deviation, -, returned⟩ := bind_eq_ok.mp returned
        obtain ⟨_, -, returned⟩ := bind_eq_ok.mp returned
        obtain ⟨estimation, -, isAfter⟩ := bind_eq_ok.mp returned
        rw [← Except.ok.inj isAfter]
        exact ⟨rfl, rfl⟩
  obtain ⟨samePeriod, sameDeviation⟩ := sameSettings
  obtain ⟨positive, even, deviation⟩ := hasRaster
  exact ⟨by rw [samePeriod]; exact positive, by rw [samePeriod]; exact even,
      by rw [samePeriod, sameDeviation]; exact deviation⟩

theorem staysOnRaster_iff
    {calls : List Call}
    (hasRaster : ppx.HasRaster)
    (near : AlongRun step Near ppx calls) :
    ppx.StaysOnRaster calls ↔ AlongRun step Permits ppx calls := by
  exact alongRun_iff (fun hasRaster _ returned => hasRaster.step returned)
      (fun hasRaster nearNow => step_iff hasRaster nearNow)
      hasRaster near

/--
An offset is determined for every time that is not between two points of the
raster, and a run of such beacons stays on the raster.
-/
theorem tracksBeaconRaster
    {ref64 raster64 time64 : Int}
    (positive : 0 < raster64)
    (isInt64 : InInt64 raster64)
    (even : raster64 % 2 = 0)
    {ppx : Ppx}
    {calls : List Call}
    (hasRaster : ppx.HasRaster)
    (near : AlongRun step Near ppx calls) :
    (DeterminesOffset ref64 raster64 time64 ↔
      Fits ref64 raster64 time64 ∧ ¬ IsTie ref64 raster64 time64) ∧
    (ppx.StaysOnRaster calls ↔ AlongRun step Permits ppx calls) := by
  constructor
  · exact determinesOffset_iff positive isInt64 even
  · exact staysOnRaster_iff hasRaster near

/-- A pulse per second, corrected by beacons every ten milliseconds. -/
theorem tracksBeaconRaster_pps :
    let ppx : Ppx :=
      { ppxPeriod := 27648000
        ppxLength := 6912000
        ppxTimeAdvance := 829440
        beaconPeriod := 276480
        timeDeviationMax := 138240
        ppxPeriodWarped64 := 27648000
        ppxRisingEdgeEstimation64 := 1000 }
    let calls := [Call.extrapolateNextRisingEdge, .provideBeaconTime 276500]
    (DeterminesOffset 1000 276480 (-275400) ↔
      Fits 1000 276480 (-275400) ∧ ¬ IsTie 1000 276480 (-275400)) ∧
    (ppx.StaysOnRaster calls ↔ AlongRun step Permits ppx calls) := by
  refine
    tracksBeaconRaster (by decide) (by decide) (by decide)
      ⟨by decide, by decide, by decide⟩ ⟨trivial, ?_⟩
  intro after returned
  rw [← Except.ok.inj returned]
  exact ⟨⟨-99, by decide⟩, fun _ _ => trivial⟩

/-- A time exactly between two points of the raster fails. -/
theorem not_determinesOffset_between :
    ¬ ∀ ref64 raster64 time64 : Int,
      InInt64 ref64 → InInt64 time64 →
        0 < raster64 → InInt64 raster64 → raster64 % 2 = 0 →
          DeterminesOffset ref64 raster64 time64 := by
  intro determines
  obtain ⟨offset, returned, -, -⟩ :=
    determines 1000 276480 139240 (by decide) (by decide) (by decide)
      (by decide) (by decide)
  have failed :
      determineOffset 1000 276480 139240 =
        .error (.assertion "distance incorrect") := by
    decide
  rw [failed] at returned
  cases returned

end Ppx

end DectNrp
