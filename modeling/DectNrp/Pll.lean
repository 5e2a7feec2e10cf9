import Mathlib.Data.Real.Basic
import Mathlib.Tactic.Linarith
import DectNrp.HistoryRing
import DectNrp.Rounding

namespace DectNrp

/-!
# Clock measurement by beacons

Beacon times are collected in a ring.  Once it is full, the distance of the
newest and the oldest time is compared to the number of beacon periods that it
most likely spans.  The quotient of both is a floating point number that enters
an average, so that it is left out here: a measurement shows what it is made of.
-/

open Checked (bind_eq_ok ok_bind)

/-- Numbers of samples, the times of past beacons and the position of the next. -/
structure Pll where
  beaconPeriod : UInt32
  distMinAccept64 : Int
  distMin64 : Int
  distMax64 : Int
  beaconTimeVec : List Int
  idx : Nat
  deriving Repr, DecidableEq

namespace Pll

open HistoryRing

/-- What the warp factor is updated with. -/
structure Measurement where
  newest : Int
  oldest : Int
  dist64 : Int
  nBeaconPeriods : Int
  equivalentDist : Int
  deriving Repr, DecidableEq

def distMinAcceptMs : Int := 1000

def distMinMs : Int := 5000

def distMinToMaxInBeaconPeriods : Int := 8

def distMaxDeviationSafetyFactor : Int := 8

/-- Accuracy of the reference time in parts per million. -/
def accuracyPpm (extremeCondition : Bool) : Nat :=
  if extremeCondition then 15 else 10

/-- The beacon period is a duration at a sample rate. -/
def construct (sampRate beaconPeriod : UInt32) : Checked Pll := do
  let distMinAccept64 := (sampRate.toNat * distMinAcceptMs).tdiv 1000
  let distMin64 := (sampRate.toNat * distMinMs).tdiv 1000
  let distMax64 := distMin64 + beaconPeriod.toNat * distMinToMaxInBeaconPeriods
  dectnrpAssert (distMinAccept64 < distMin64) "ill-defined"
  dectnrpAssert (distMin64.tmod distMinAccept64 = 0) "ill-defined"
  dectnrpAssert (distMin64 < distMax64) "ill-defined"
  dectnrpAssert
    ((distMax64 * accuracyPpm true).tdiv 1000000 <
      (beaconPeriod.toNat : Int).tdiv distMaxDeviationSafetyFactor)
    "ill-defined"
  pure {
    beaconPeriod := beaconPeriod
    distMinAccept64 := distMinAccept64
    distMin64 := distMin64
    distMax64 := distMax64
    beaconTimeVec :=
      List.replicate (distMin64.tdiv distMinAccept64).toNat
        undefinedEarly64
    idx := 0
  }

/-- A time of the ring, which must be inside. -/
def beaconTimeAt (pll : Pll) (idx : Nat) : Checked Int :=
  match pll.beaconTimeVec[idx]? with
  | some beaconTime64 => .ok beaconTime64
  | none => .error (.readBeyond idx)

def prevIdx (pll : Pll) : Nat :=
  previous pll.beaconTimeVec.length pll.idx

def nextIdx (pll : Pll) : Nat :=
  next pll.beaconTimeVec.length pll.idx

def getBeaconTimeLastKnown (pll : Pll) : Checked Int :=
  pll.beaconTimeAt pll.prevIdx

def getBeaconTimeOldestKnown (pll : Pll) : Checked Int :=
  pll.beaconTimeAt pll.nextIdx

/-- The next position becomes the current one. -/
def advance (pll : Pll) : Pll :=
  { pll with idx := pll.nextIdx }

def provideBeaconTime
    (pll : Pll)
    (beaconTime64 : Int) :
    Checked (Pll × Option Measurement) := do
  let lastKnown ← pll.getBeaconTimeLastKnown
  let A ← int64 (beaconTime64 - lastKnown)
  -- the distance to the past beacon is too small
  if A < pll.distMinAccept64 then
    return (pll, none)
  let _ ← pll.beaconTimeAt pll.idx
  let pll :=
    { pll with beaconTimeVec := pll.beaconTimeVec.set pll.idx beaconTime64 }
  -- not enough beacon times collected yet
  let oldestKnown ← pll.getBeaconTimeOldestKnown
  if oldestKnown < 0 then
    return (pll.advance, none)
  let newest ← pll.beaconTimeAt pll.idx
  let dist64 ← int64 (newest - oldestKnown)
  -- ignore if the distance is too large
  if pll.distMax64 < dist64 then
    return (pll.advance, none)
  let nBeaconPeriods ← roundInteger dist64 pll.beaconPeriod.toNat
  let equivalentDist ← int64 (nBeaconPeriods * pll.beaconPeriod.toNat)
  return (pll.advance,
    some ⟨newest, oldestKnown, dist64, nBeaconPeriods, equivalentDist⟩)

def reset (pll : Pll) : Pll :=
  { pll with
    beaconTimeVec :=
      List.replicate pll.beaconTimeVec.length undefinedEarly64
    idx := 0
  }

inductive Call where
  | provideBeaconTime (beaconTime64 : Int)
  | reset
  deriving Repr, DecidableEq

def step (pll : Pll) : Call → Checked (Pll × Option Measurement)
  | .provideBeaconTime beaconTime64 => pll.provideBeaconTime beaconTime64
  | .reset => pure (pll.reset, none)

/-- All measurements of a run in their order. -/
def run (pll : Pll) : List Call → Checked (Pll × List Measurement)
  | [] => pure (pll, [])
  | call :: calls => do
      let (pll, measurement) ← pll.step call
      let (pll, measurements) ← pll.run calls
      pure (pll, measurement.toList ++ measurements)

/-- Times that are stored, the latest one first. -/
def storedTimes (pll : Pll) : List Int :=
  ((List.range pll.beaconTimeVec.length).map fun age =>
    pll.beaconTimeVec.getD
      (slot pll.beaconTimeVec.length pll.idx age) undefinedEarly64).filter
    fun beaconTime64 => 0 ≤ beaconTime64

/-- What the constructor has checked. -/
structure Settings (pll : Pll) : Prop where
  capacity : pll.beaconTimeVec.length = 5
  acceptPositive : 0 < pll.distMinAccept64
  acceptBound : pll.distMinAccept64 < 2 ^ 32
  distMin : pll.distMin64 = 5 * pll.distMinAccept64
  distMax : pll.distMax64 = pll.distMin64 + 8 * pll.beaconPeriod.toNat
  accuracy :
    pll.distMax64 * 15 / 1000000 < (pll.beaconPeriod.toNat : Int) / 8

variable {pll : Pll}

theorem construct_settings
    {sampRate beaconPeriod : UInt32}
    (constructed : construct sampRate beaconPeriod = .ok pll) :
    pll.Settings ∧
      Represents undefinedEarly64 pll.beaconTimeVec pll.idx [] := by
  have rateBound := sampRate.toNat_lt
  have acceptEq : ((sampRate.toNat : Int) * distMinAcceptMs).tdiv 1000 =
      sampRate.toNat := by
    unfold distMinAcceptMs
    rw [Int.tdiv_eq_ediv_of_nonneg (by omega)]
    omega
  have minEq :
      ((sampRate.toNat : Int) * distMinMs).tdiv 1000 = 5 * sampRate.toNat := by
    unfold distMinMs
    rw [Int.tdiv_eq_ediv_of_nonneg (by omega)]
    omega
  unfold construct at constructed
  rw [acceptEq, minEq] at constructed
  obtain ⟨_, larger, constructed⟩ := bind_eq_ok.mp constructed
  obtain ⟨_, -, constructed⟩ := bind_eq_ok.mp constructed
  obtain ⟨_, -, constructed⟩ := bind_eq_ok.mp constructed
  obtain ⟨_, accurate, constructed⟩ := bind_eq_ok.mp constructed
  have largerRate := of_decide_eq_true (dectnrpAssert_eq_ok.mp larger)
  have accuracy := of_decide_eq_true (dectnrpAssert_eq_ok.mp accurate)
  have positive : (0 : Int) < sampRate.toNat := by omega
  have five : (5 * (sampRate.toNat : Int)).tdiv sampRate.toNat = 5 :=
    Int.mul_tdiv_cancel 5 (by omega)
  rw [five] at constructed
  cases constructed
  constructor
  · unfold distMinToMaxInBeaconPeriods distMaxDeviationSafetyFactor
      accuracyPpm at accuracy
    rw [if_pos rfl, Int.tdiv_eq_ediv_of_nonneg (by omega),
      Int.tdiv_eq_ediv_of_nonneg (by omega)] at accuracy
    exact
      { capacity := rfl
        acceptPositive := positive
        acceptBound := by dsimp only; omega
        distMin := rfl
        distMax := by
          dsimp only
          unfold distMinToMaxInBeaconPeriods
          omega
        accuracy := accuracy }
  · exact represents_replicate undefinedEarly64 (by decide)

/-- A time is stored if it is far enough from the last one. -/
def accept
    (distMinAccept64 : Int)
    (history : List Int)
    (beaconTime64 : Int) :
    List Int :=
  match history with
  | [] => [beaconTime64]
  | lastKnown :: older =>
      if beaconTime64 - lastKnown < distMinAccept64 then
        lastKnown :: older
      else
        beaconTime64 :: lastKnown :: older

/-- The measurement that a full ring allows for. -/
def measured
    (pll : Pll)
    (history : List Int) :
    Option Measurement :=
  match history[0]?, history[pll.beaconTimeVec.length - 1]? with
  | some newest, some oldest =>
      if pll.distMax64 < newest - oldest then
        none
      else
        some {
          newest := newest
          oldest := oldest
          dist64 := newest - oldest
          nBeaconPeriods :=
            rounded (newest - oldest) pll.beaconPeriod.toNat
          equivalentDist :=
            rounded (newest - oldest) pll.beaconPeriod.toNat *
              pll.beaconPeriod.toNat
        }
  | _, _ => none

/-- The ring holds the end of a history of positive times that were given. -/
structure Stores
    (Given : Int → Prop)
    (pll : Pll)
    (history : List Int) : Prop where
  settings : pll.Settings
  ring :
    Represents undefinedEarly64 pll.beaconTimeVec pll.idx history
  spaced : Spaced pll.distMinAccept64 history
  positive :
    ∀ beaconTime64 ∈ history, 0 < beaconTime64 ∧ beaconTime64 < 2 ^ 63
  given : ∀ beaconTime64 ∈ history, Given beaconTime64

variable {beaconTime64 : Int}

theorem beaconTimeAt_eq
    {idx : Nat}
    (isTime : pll.beaconTimeVec[idx]? = some beaconTime64) :
    pll.beaconTimeAt idx = .ok beaconTime64 := by
  unfold beaconTimeAt
  rw [isTime]

/-- A reset ring has no history. -/
theorem Stores.reset
    {Given : Int → Prop}
    {pll : Pll}
    {history : List Int}
    (stores : Stores Given pll history) :
    Stores Given pll.reset [] := by
  obtain ⟨capacity, acceptPositive, acceptBound, distMin, distMax,
    accuracy⟩ := stores.settings
  exact
    { settings :=
        { capacity := by
            unfold Pll.reset
            rw [List.length_replicate]
            exact capacity
          acceptPositive := acceptPositive
          acceptBound := acceptBound
          distMin := distMin
          distMax := distMax
          accuracy := accuracy }
      ring :=
        represents_replicate undefinedEarly64 (by
          rw [capacity]
          decide)
      spaced := List.isChain_nil
      positive := fun _ member => (List.not_mem_nil member).elim
      given := fun _ member => (List.not_mem_nil member).elim }

/-- The ring after a time was stored and the position moved on. -/
def store (pll : Pll) (beaconTime64 : Int) : Pll :=
  { pll with
    beaconTimeVec := pll.beaconTimeVec.set pll.idx beaconTime64
    idx := pll.nextIdx
  }

variable
  {Given : Int → Prop}
  {history : List Int}

/-- A stored time extends the history. -/
theorem Stores.store
    (stores : Stores Given pll history)
    (positive : 0 < beaconTime64 ∧ beaconTime64 < 2 ^ 63)
    (isGiven : Given beaconTime64)
    (apart :
      ∀ lastKnown ∈ history.head?,
        pll.distMinAccept64 ≤ beaconTime64 - lastKnown) :
    Stores Given (pll.store beaconTime64) (beaconTime64 :: history) := by
  obtain ⟨capacity, acceptPositive, acceptBound, distMin, distMax,
    accuracy⟩ := stores.settings
  exact
    { settings :=
        { capacity := by
            unfold Pll.store
            rw [List.length_set]
            exact capacity
          acceptPositive := acceptPositive
          acceptBound := acceptBound
          distMin := distMin
          distMax := distMax
          accuracy := accuracy }
      ring := stores.ring.push beaconTime64
      spaced := List.isChain_cons.mpr ⟨apart, stores.spaced⟩
      positive := List.forall_mem_cons.mpr ⟨positive, stores.positive⟩
      given := List.forall_mem_cons.mpr ⟨isGiven, stores.given⟩ }

/-- Default times are negative. -/
theorem undefinedEarly64_lt : undefinedEarly64 < 0 := by
  decide

theorem roundInteger_dist
    {pll : Pll}
    (settings : pll.Settings)
    {dist64 : Int}
    (notNegative : 0 ≤ dist64)
    (notTooLarge : dist64 ≤ pll.distMax64) :
    roundInteger dist64 pll.beaconPeriod.toNat =
        .ok (rounded dist64 pll.beaconPeriod.toNat) ∧
      int64
          (rounded dist64 pll.beaconPeriod.toNat * pll.beaconPeriod.toNat) =
        .ok (rounded dist64 pll.beaconPeriod.toNat *
          pll.beaconPeriod.toNat) := by
  obtain ⟨-, acceptPositive, acceptBound, distMin, distMax, accuracy⟩ :=
    settings
  have periodBound := pll.beaconPeriod.toNat_lt
  have positive : (0 : Int) < pll.beaconPeriod.toNat := by omega
  obtain ⟨lower, upper⟩ := rounded_mul_bounds notNegative positive
  constructor
  · refine (roundInteger_eq_ok_iff positive ⟨by omega, by omega⟩).mpr ⟨?_, rfl⟩
    unfold roundingOffset
    rw [if_pos notNegative]
    exact ⟨by omega, by omega⟩
  · exact int64_eq_ok_iff.mpr ⟨⟨by omega, by omega⟩, rfl⟩

theorem provideBeaconTime_stored
    (stores : Stores Given pll history)
    (stored : Stores Given (pll.store beaconTime64) (beaconTime64 :: history))
    (fits : InInt64 (beaconTime64 - history.getD 0 undefinedEarly64))
    (apart :
      pll.distMinAccept64 ≤ beaconTime64 - history.getD 0 undefinedEarly64) :
    pll.provideBeaconTime beaconTime64 =
      .ok (pll.store beaconTime64,
        pll.measured (beaconTime64 :: history)) := by
  have inside := stores.ring.inside
  obtain ⟨before, isBefore⟩ :
      ∃ before, pll.beaconTimeVec[pll.idx]? = some before :=
    ⟨_, List.getElem?_eq_getElem inside⟩
  -- the ring after the time was stored, before the position moves on
  have isNewest : (pll.beaconTimeVec.set pll.idx beaconTime64)[pll.idx]? =
      some beaconTime64 :=
    List.getElem?_set_self inside
  have isOldest := stores.ring.oldest beaconTime64
  have sameNext :
      next (pll.beaconTimeVec.set pll.idx beaconTime64).length pll.idx =
        next pll.beaconTimeVec.length pll.idx := by
    rw [List.length_set]
  unfold provideBeaconTime getBeaconTimeLastKnown
    getBeaconTimeOldestKnown prevIdx nextIdx advance
  rw [beaconTimeAt_eq stores.ring.latest, ok_bind,
    int64_eq_ok_iff.mpr ⟨fits, rfl⟩, ok_bind,
    if_neg (by omega), beaconTimeAt_eq isBefore, ok_bind]
  dsimp only
  rw [sameNext, beaconTimeAt_eq isOldest, ok_bind]
  unfold measured store nextIdx
  rw [List.getD_eq_getElem?_getD, sameNext]
  rcases oldestCase :
      (beaconTime64 :: history)[pll.beaconTimeVec.length - 1]? with
    _ | oldest
  · -- not enough times yet
    rw [Option.getD_none, if_pos undefinedEarly64_lt]
    rfl
  · have newestPositive := stored.positive beaconTime64 List.mem_cons_self
    have oldestPositive :=
      stored.positive oldest (List.mem_of_getElem? oldestCase)
    have spanned := stored.spaced.span rfl oldestCase
    have capacity := stores.settings.capacity
    have acceptPositive : 0 < (pll.store beaconTime64).distMinAccept64 :=
      stored.settings.acceptPositive
    rw [capacity] at spanned
    have distFits : InInt64 (beaconTime64 - oldest) := ⟨by omega, by omega⟩
    rw [Option.getD_some, if_neg (by omega), beaconTimeAt_eq isNewest,
      ok_bind, int64_eq_ok_iff.mpr ⟨distFits, rfl⟩,
      ok_bind, List.getElem?_cons_zero]
    by_cases tooLarge : pll.distMax64 < beaconTime64 - oldest
    · rw [if_pos tooLarge]
      dsimp only
      rw [if_pos tooLarge]
      rfl
    · obtain ⟨isRounded, isEquivalent⟩ :=
        @roundInteger_dist pll stores.settings (beaconTime64 - oldest)
          (by omega) (by omega)
      rw [if_neg tooLarge, isRounded, ok_bind, isEquivalent, ok_bind]
      dsimp only
      rw [if_neg tooLarge]
      rfl

variable {pll after : Pll}

theorem provideBeaconTime_spec
    {measurement : Option Measurement}
    (stores : Stores Given pll history)
    (positive : 0 < beaconTime64 ∧ beaconTime64 < 2 ^ 63)
    (isGiven : Given beaconTime64)
    (returned :
      pll.provideBeaconTime beaconTime64 = .ok (after, measurement)) :
    (accept pll.distMinAccept64 history beaconTime64 = history ∧
        after = pll ∧ measurement = none) ∨
      (accept pll.distMinAccept64 history beaconTime64 =
          beaconTime64 :: history ∧
        Stores Given (pll.store beaconTime64) (beaconTime64 :: history) ∧
        after = pll.store beaconTime64 ∧
        measurement = pll.measured (beaconTime64 :: history)) := by
  have fits : InInt64 (beaconTime64 - history.getD 0 undefinedEarly64) := by
    unfold provideBeaconTime getBeaconTimeLastKnown prevIdx at returned
    rw [beaconTimeAt_eq stores.ring.latest, ok_bind] at returned
    obtain ⟨A, AEq, -⟩ := bind_eq_ok.mp returned
    exact (int64_eq_ok_iff.mp AEq).1
  have acceptBound := stores.settings.acceptBound
  by_cases apart :
      pll.distMinAccept64 ≤ beaconTime64 - history.getD 0 undefinedEarly64
  · have stored :
        Stores Given (pll.store beaconTime64) (beaconTime64 :: history) := by
      refine stores.store positive isGiven ?_
      intro lastKnown isLast
      rcases history with _ | ⟨first, older⟩
      · cases isLast
      · cases isLast
        exact apart
    rw [provideBeaconTime_stored stores stored fits apart] at returned
    cases returned
    refine .inr ⟨?_, stored, rfl, rfl⟩
    unfold accept
    rcases history with _ | ⟨first, older⟩
    · rfl
    · rw [List.getD_cons_zero] at apart
      dsimp only
      rw [if_neg (by omega)]
  · unfold provideBeaconTime getBeaconTimeLastKnown prevIdx at returned
    rw [beaconTimeAt_eq stores.ring.latest, ok_bind,
      int64_eq_ok_iff.mpr ⟨fits, rfl⟩, ok_bind,
      if_pos (by omega)] at returned
    cases returned
    refine .inl ⟨?_, rfl, rfl⟩
    unfold accept
    rcases history with _ | ⟨first, older⟩
    · -- without a last time every time is far enough
      have isDefault :
          ([] : List Int).getD 0 undefinedEarly64 = -2 ^ 63 / 8 := rfl
      rw [isDefault] at apart
      omega
    · rw [List.getD_cons_zero] at apart
      dsimp only
      rw [if_pos (by omega)]

variable {measurement : Measurement}

/-- What a measurement is made of. -/
theorem measured_spec
    (stores : Stores Given pll history)
    (isMeasured : pll.measured history = some measurement) :
    history[0]? = some measurement.newest ∧
      history[pll.beaconTimeVec.length - 1]? = some measurement.oldest ∧
      measurement.dist64 = measurement.newest - measurement.oldest ∧
      4 * pll.distMinAccept64 ≤ measurement.dist64 ∧
      measurement.dist64 ≤ pll.distMax64 ∧
      measurement.nBeaconPeriods =
        rounded measurement.dist64 pll.beaconPeriod.toNat := by
  unfold measured at isMeasured
  rcases newestCase : history[0]? with _ | newest
  · rw [newestCase] at isMeasured
    cases isMeasured
  · rcases oldestCase : history[pll.beaconTimeVec.length - 1]? with
      _ | oldest
    · rw [newestCase, oldestCase] at isMeasured
      cases isMeasured
    · rw [newestCase, oldestCase] at isMeasured
      dsimp only at isMeasured
      have spanned := stores.spaced.span newestCase oldestCase
      rw [stores.settings.capacity] at spanned
      by_cases tooLarge : pll.distMax64 < newest - oldest
      · rw [if_pos tooLarge] at isMeasured
        cases isMeasured
      · rw [if_neg tooLarge] at isMeasured
        cases isMeasured
        exact ⟨rfl, rfl, rfl, spanned, by dsimp only; omega, rfl⟩

/--
A time is the one of a numbered beacon of a deviating clock, rounded up, down
or to the closest number.
-/
def IsBeaconTime
    (beaconPeriod : UInt32)
    (deviation : ℝ)
    (number beaconTime64 : Int) : Prop :=
  |(beaconTime64 : ℝ) -
      number * beaconPeriod.toNat * (1 + deviation)| ≤ 1

theorem rounded_dist
    (settings : pll.Settings)
    {deviation : ℝ}
    (accurate : |deviation| ≤ (accuracyPpm true : ℝ) / 1000000)
    {newest oldest newestNumber oldestNumber : Int}
    (isNewest : IsBeaconTime pll.beaconPeriod deviation newestNumber newest)
    (isOldest : IsBeaconTime pll.beaconPeriod deviation oldestNumber oldest)
    (spanned : 4 * pll.distMinAccept64 ≤ newest - oldest)
    (notTooLarge : newest - oldest ≤ pll.distMax64) :
    rounded (newest - oldest) pll.beaconPeriod.toNat =
        newestNumber - oldestNumber ∧
      newestNumber - oldestNumber ≠ 0 := by
  obtain ⟨-, acceptPositive, -, distMin, distMax, accuracy⟩ := settings
  unfold IsBeaconTime at isNewest isOldest
  have accuracyEq : (accuracyPpm true : ℝ) = 15 := by norm_num [accuracyPpm]
  rw [accuracyEq] at accurate
  generalize isPeriod : (pll.beaconPeriod.toNat : Int) = period at *
  have castPeriod : (pll.beaconPeriod.toNat : ℝ) = (period : ℝ) := by
    rw [← isPeriod]
    norm_cast
  rw [castPeriod] at isNewest isOldest
  have notNegative : 0 ≤ pll.distMax64 * 15 / 1000000 :=
    Int.ediv_nonneg (by omega) (by decide)
  have periodLarge : 8 ≤ period := by omega
  -- the constructor makes the deviation small within a distance
  have small : 15 * (newest - oldest) < 125000 * period := by omega
  have smallReal : 15 * ((newest : ℝ) - oldest) < 125000 * period := by
    exact_mod_cast small
  have largeReal : (8 : ℝ) ≤ period := by exact_mod_cast periodLarge
  have distLarge : (4 : ℝ) ≤ newest - oldest := by
    have dist : 4 ≤ newest - oldest := by omega
    exact_mod_cast dist
  generalize isTrue : ((newestNumber : ℝ) - oldestNumber) * period = trueDist
  have received :
      |(newest : ℝ) - oldest - trueDist * (1 + deviation)| ≤ 2 := by
    have both := abs_sub ((newest : ℝ) -
      newestNumber * period * (1 + deviation))
      (oldest - oldestNumber * period * (1 + deviation))
    have sameDist : (newest : ℝ) - newestNumber * period * (1 + deviation) -
        (oldest - oldestNumber * period * (1 + deviation)) =
          newest - oldest - trueDist * (1 + deviation) := by
      rw [← isTrue]
      ring
    rw [sameDist] at both
    linarith
  have product : |trueDist * deviation| ≤ |trueDist| * (15 / 1000000) := by
    rw [abs_mul]
    exact mul_le_mul_of_nonneg_left accurate (abs_nonneg trueDist)
  have expanded :
      trueDist * (1 + deviation) = trueDist + trueDist * deviation := by
    ring
  rw [expanded] at received
  obtain ⟨receivedLower, receivedUpper⟩ := abs_le.mp received
  obtain ⟨productLower, productUpper⟩ := abs_le.mp product
  have trueBound : |trueDist| * (1 - 15 / 1000000) ≤ newest - oldest + 2 := by
    rcases abs_cases trueDist with ⟨isAbs, -⟩ | ⟨isAbs, -⟩ <;>
      rw [isAbs] at productLower productUpper ⊢ <;> linarith
  have aboveReal : 2 * (((newest : ℝ) - oldest) - trueDist) < period := by
    linarith
  have belowReal : 2 * (trueDist - ((newest : ℝ) - oldest)) < period := by
    linarith
  rw [← isTrue] at aboveReal belowReal
  constructor
  · apply rounded_eq (by omega) (by omega)
    · exact_mod_cast aboveReal
    · exact_mod_cast belowReal
  · intro isZero
    have noDist : trueDist = 0 := by
      rw [← isTrue]
      have zeroReal : (newestNumber : ℝ) - oldestNumber = 0 := by
        exact_mod_cast isZero
      rw [zeroReal, zero_mul]
    rw [noDist, zero_mul, add_zero, sub_zero] at receivedUpper
    linarith

/-- A call provides a positive time of 64 bits. -/
def Call.IsPositive : Call → Prop
  | .provideBeaconTime beaconTime64 =>
      0 < beaconTime64 ∧ beaconTime64 < 2 ^ 63
  | .reset => True

/-- The times that a list of calls provides are numbered beacons. -/
def Call.IsBeacon
    (beaconPeriod : UInt32)
    (deviation : ℝ)
    (number : Int → Int) : Call → Prop
  | .provideBeaconTime beaconTime64 =>
      IsBeaconTime beaconPeriod deviation (number beaconTime64)
        beaconTime64
  | .reset => True

/--
All measurements are between the minimum and the maximum distance and count
beacon periods without an error, and the stored times are apart.
-/
structure MeasuresValid
    (pll after : Pll)
    (calls : List Call)
    (measurements : List Measurement) : Prop where
  dist :
    ∀ measurement ∈ measurements,
      pll.distMin64 ≤ measurement.dist64 ∧
        measurement.dist64 ≤ pll.distMax64
  spaced : Spaced pll.distMinAccept64 after.storedTimes
  counted :
    ∀ (deviation : ℝ) (number : Int → Int),
      |deviation| ≤ (accuracyPpm true : ℝ) / 1000000 →
      (∀ call ∈ calls,
        call.IsBeacon pll.beaconPeriod deviation number) →
      ∀ measurement ∈ measurements,
        measurement.nBeaconPeriods =
            number measurement.newest - number measurement.oldest ∧
          measurement.nBeaconPeriods ≠ 0

/-- A full history spans the minimum distance. -/
def FullSpans (pll : Pll) (history : List Int) : Prop :=
  ∀ newest oldest,
    history[0]? = some newest →
      history[pll.beaconTimeVec.length - 1]? = some oldest →
        pll.distMin64 ≤ newest - oldest

/--
Whenever a time is accepted, the accepted times that fill the ring span the
minimum distance.
-/
def AcceptsSpans (pll : Pll) : List Int → List Call → Prop
  | _, [] => True
  | _, .reset :: calls => pll.AcceptsSpans [] calls
  | history, .provideBeaconTime beaconTime64 :: calls =>
      let accepted := accept pll.distMinAccept64 history beaconTime64
      pll.FullSpans accepted ∧ pll.AcceptsSpans accepted calls

/-- Two rings with the same settings. -/
structure SameSettings (pll after : Pll) : Prop where
  beaconPeriod : after.beaconPeriod = pll.beaconPeriod
  distMinAccept64 : after.distMinAccept64 = pll.distMinAccept64
  distMin64 : after.distMin64 = pll.distMin64
  distMax64 : after.distMax64 = pll.distMax64
  capacity : after.beaconTimeVec.length = pll.beaconTimeVec.length

theorem sameSettings_store
    (pll : Pll)
    (beaconTime64 : Int) :
    SameSettings pll (pll.store beaconTime64) :=
  ⟨rfl, rfl, rfl, rfl, List.length_set⟩

theorem sameSettings_reset (pll : Pll) :
    SameSettings pll pll.reset :=
  ⟨rfl, rfl, rfl, rfl, List.length_replicate⟩

/-- The condition depends on the settings only. -/
theorem SameSettings.acceptsSpans
    (same : SameSettings pll after)
    (history : List Int)
    (calls : List Call) :
    after.AcceptsSpans history calls ↔ pll.AcceptsSpans history calls := by
  induction calls generalizing history with
  | nil => exact Iff.rfl
  | cons call calls hypothesis =>
      cases call with
      | provideBeaconTime beaconTime64 =>
          unfold AcceptsSpans FullSpans
          rw [same.distMinAccept64, same.distMin64, same.capacity]
          exact and_congr Iff.rfl (hypothesis _)
      | reset => exact hypothesis []

theorem fullSpans_iff (stores : Stores Given pll history) :
    pll.FullSpans history ↔
      ∀ measurement ∈ pll.measured history,
        pll.distMin64 ≤ measurement.dist64 := by
  obtain ⟨-, -, -, distMin, distMax, -⟩ := stores.settings
  constructor
  · intro spans measurement isMeasured
    obtain ⟨isNewest, isOldest, isDist, -⟩ :=
      measured_spec stores (Option.mem_def.mp isMeasured)
    rw [isDist]
    exact spans _ _ isNewest isOldest
  · intro measuresMin newest oldest isNewest isOldest
    by_cases tooLarge : pll.distMax64 < newest - oldest
    · omega
    · have isMeasured : pll.measured history =
          some ⟨newest, oldest, newest - oldest,
            rounded (newest - oldest) pll.beaconPeriod.toNat,
            rounded (newest - oldest) pll.beaconPeriod.toNat *
              pll.beaconPeriod.toNat⟩ := by
        unfold measured
        rw [isNewest, isOldest]
        dsimp only
        rw [if_neg tooLarge]
      exact measuresMin _ isMeasured

/-- What is known about a measurement without any condition. -/
structure Measured
    (Given : Int → Prop)
    (pll : Pll)
    (measurement : Measurement) : Prop where
  newest : Given measurement.newest
  oldest : Given measurement.oldest
  dist :
    measurement.dist64 = measurement.newest - measurement.oldest
  spanned : 4 * pll.distMinAccept64 ≤ measurement.dist64
  notTooLarge : measurement.dist64 ≤ pll.distMax64
  nBeaconPeriods :
    measurement.nBeaconPeriods =
      rounded measurement.dist64 pll.beaconPeriod.toNat

theorem SameSettings.measured
    (same : SameSettings pll after)
    (measured : Measured Given after measurement) :
    Measured Given pll measurement := by
  obtain ⟨newest, oldest, dist, spanned, notTooLarge, isRounded⟩ := measured
  rw [same.distMinAccept64] at spanned
  rw [same.distMax64] at notTooLarge
  rw [same.beaconPeriod] at isRounded
  exact ⟨newest, oldest, dist, spanned, notTooLarge, isRounded⟩

theorem SameSettings.fullSpans
    (same : SameSettings pll after)
    (history : List Int) :
    after.FullSpans history ↔ pll.FullSpans history := by
  unfold FullSpans
  rw [same.distMin64, same.capacity]

theorem SameSettings.trans
    {pll middle after : Pll}
    (first : SameSettings pll middle)
    (second : SameSettings middle after) :
    SameSettings pll after :=
  ⟨second.beaconPeriod.trans first.beaconPeriod,
    second.distMinAccept64.trans first.distMinAccept64,
    second.distMin64.trans first.distMin64,
    second.distMax64.trans first.distMax64,
    second.capacity.trans first.capacity⟩

/-- The measurement of a stored time is known. -/
theorem Stores.measured
    (stores : Stores Given pll history)
    (isMeasured : measurement ∈ pll.measured history) :
    Measured Given pll measurement := by
  obtain ⟨isNewest, isOldest, dist, spanned, notTooLarge, isRounded⟩ :=
    measured_spec stores (Option.mem_def.mp isMeasured)
  exact ⟨stores.given _ (List.mem_of_getElem? isNewest),
      stores.given _ (List.mem_of_getElem? isOldest), dist, spanned,
      notTooLarge, isRounded⟩

/-- What a run measures, and when it keeps to the minimum distance. -/
theorem run_spec
    {calls : List Call}
    {measurements : List Measurement}
    (stores : Stores Given pll history)
    (given :
      ∀ beaconTime64,
        .provideBeaconTime beaconTime64 ∈ calls →
          Given beaconTime64 ∧ 0 < beaconTime64 ∧ beaconTime64 < 2 ^ 63)
    (returned : pll.run calls = .ok (after, measurements)) :
    (∃ later, Stores Given after later) ∧
      SameSettings pll after ∧
      (∀ measurement ∈ measurements, Measured Given pll measurement) ∧
      (pll.FullSpans history →
        ((∀ measurement ∈ measurements,
            pll.distMin64 ≤ measurement.dist64) ↔
          pll.AcceptsSpans history calls)) := by
  induction calls generalizing pll history measurements with
  | nil =>
      cases returned
      exact ⟨⟨history, stores⟩, ⟨rfl, rfl, rfl, rfl, rfl⟩,
          fun _ member => (List.not_mem_nil member).elim,
          fun _ =>
            ⟨fun _ => trivial,
              fun _ _ member => (List.not_mem_nil member).elim⟩⟩
  | cons call calls hypothesis =>
      obtain ⟨⟨middle, measurement⟩, stepEq, returned⟩ :=
        bind_eq_ok.mp returned
      obtain ⟨⟨last, rest⟩, runEq, returned⟩ := bind_eq_ok.mp returned
      cases returned
      have givenRest : ∀ beaconTime64,
          .provideBeaconTime beaconTime64 ∈ calls →
            Given beaconTime64 ∧ 0 < beaconTime64 ∧ beaconTime64 < 2 ^ 63 :=
        fun beaconTime64 member =>
          given beaconTime64 (List.mem_cons_of_mem call member)
      cases call with
      | reset =>
          cases stepEq
          have same := sameSettings_reset pll
          obtain ⟨later, sameAfter, measured, spansIff⟩ :=
            hypothesis stores.reset givenRest runEq
          refine ⟨later, same.trans sameAfter, fun measurement member =>
              same.measured (measured measurement member), ?_⟩
          intro _
          have noHistory : pll.reset.FullSpans [] := by
            intro newest oldest isNewest
            cases isNewest
          exact (spansIff noHistory).trans (same.acceptsSpans [] calls)
      | provideBeaconTime beaconTime64 =>
          obtain ⟨isGiven, positive⟩ := given beaconTime64 List.mem_cons_self
          unfold AcceptsSpans
          rcases provideBeaconTime_spec stores positive isGiven stepEq
            with ⟨ignored, rfl, rfl⟩ | ⟨accepted, stored, rfl, rfl⟩
          · obtain ⟨later, sameAfter, measured, spansIff⟩ :=
              hypothesis stores givenRest runEq
            refine ⟨later, sameAfter, measured, ?_⟩
            intro spans
            rw [ignored]
            exact (spansIff spans).trans
                ⟨fun acceptsSpans => ⟨spans, acceptsSpans⟩, And.right⟩
          · have same := sameSettings_store pll beaconTime64
            obtain ⟨later, sameAfter, measured, spansIff⟩ :=
              hypothesis stored givenRest runEq
            have sameMeasured : pll.measured (beaconTime64 :: history) =
                (pll.store beaconTime64).measured
                  (beaconTime64 :: history) := by
              unfold Pll.measured
              rw [same.capacity, same.distMax64, same.beaconPeriod]
            rw [sameMeasured]
            refine ⟨later, same.trans sameAfter, ?_, ?_⟩
            · intro measurement member
              rcases List.mem_append.mp member with now | later
              · exact
                  same.measured (stored.measured (Option.mem_toList.mp now))
              · exact same.measured (measured measurement later)
            · intro _
              have nowIff := fullSpans_iff stored
              rw [same.fullSpans, same.distMin64] at nowIff
              rw [same.fullSpans, same.distMin64,
                same.acceptsSpans] at spansIff
              rw [accepted]
              constructor
              · intro measuresMin
                have spansNow : pll.FullSpans (beaconTime64 :: history) :=
                  nowIff.mpr fun measurement member =>
                    measuresMin measurement (List.mem_append.mpr
                        (.inl (Option.mem_toList.mpr member)))
                refine ⟨spansNow, (spansIff spansNow).mp ?_⟩
                intro measurement member
                exact
                  measuresMin measurement (List.mem_append.mpr (.inr member))
              · rintro ⟨spansNow, spansLater⟩ measurement member
                rcases List.mem_append.mp member with now | later
                · exact
                    nowIff.mp spansNow measurement (Option.mem_toList.mp now)
                · exact (spansIff spansNow).mpr spansLater measurement later

private theorem filter_getD_range
    {default : Int}
    (isNegative : default < 0)
    (positive : ∀ value ∈ history, 0 ≤ value)
    (capacity : Nat) :
    ((List.range capacity).map fun age =>
        history.getD age default).filter (fun value => 0 ≤ value) =
      history.take capacity := by
  induction capacity generalizing history with
  | zero => rfl
  | succ capacity hypothesis =>
      rw [List.range_succ_eq_map, List.map_cons, List.map_map]
      rcases history with _ | ⟨first, rest⟩
      · have noMore :=
          @hypothesis [] fun _ member => (List.not_mem_nil member).elim
        rw [List.filter_cons_of_neg (by simpa using isNegative)]
        rw [List.take_nil] at noMore ⊢
        exact noMore
      · have firstPositive := positive first List.mem_cons_self
        rw [List.filter_cons_of_pos (by simpa using firstPositive),
          List.take_succ_cons]
        congr 1
        exact hypothesis fun value member =>
            positive value (List.mem_cons_of_mem first member)

theorem storedTimes_eq (stores : Stores Given pll history) :
    pll.storedTimes = history.take pll.beaconTimeVec.length := by
  have notNegative : ∀ value ∈ history, 0 ≤ value := by
    intro value member
    have positive := stores.positive value member
    omega
  rw [← filter_getD_range undefinedEarly64_lt notNegative]
  unfold storedTimes
  congr 1
  apply List.map_congr_left
  intro age member
  rw [List.getD_eq_getElem?_getD,
    stores.ring.entries age (List.mem_range.mp member)]
  rfl

/--
A run measures valid distances only, exactly if the accepted times that fill the
ring span the minimum distance.
-/
theorem measuresValid_iff
    {sampRate beaconPeriod : UInt32}
    {pll after : Pll}
    {calls : List Call}
    {measurements : List Measurement}
    (constructed : construct sampRate beaconPeriod = .ok pll)
    (positive : ∀ call ∈ calls, call.IsPositive)
    (returned : pll.run calls = .ok (after, measurements)) :
    pll.MeasuresValid after calls measurements ↔
      pll.AcceptsSpans [] calls := by
  obtain ⟨settings, isEmpty⟩ := construct_settings constructed
  have stores (Given : Int → Prop) : Stores Given pll [] :=
    { settings := settings
      ring := isEmpty
      spaced := List.isChain_nil
      positive := fun _ member => (List.not_mem_nil member).elim
      given := fun _ member => (List.not_mem_nil member).elim }
  have noHistory : pll.FullSpans [] := by
    intro newest oldest isNewest
    cases isNewest
  obtain ⟨⟨later, storesLater⟩, same, measured, spansIff⟩ :=
    run_spec (stores fun _ => True)
      (fun beaconTime64 member => ⟨trivial, positive _ member⟩) returned
  constructor
  · intro valid
    exact
      (spansIff noHistory).mp fun measurement member =>
        (valid.dist measurement member).1
  · intro spans
    refine
      { dist := fun measurement member =>
          ⟨(spansIff noHistory).mpr spans measurement member,
            (measured measurement member).notTooLarge⟩
        spaced := ?_
        counted := ?_ }
    · rw [storedTimes_eq storesLater, ← same.distMinAccept64]
      exact storesLater.spaced.take _
    · intro deviation number accurate isBeacon measurement member
      -- every stored time is the one of a beacon
      obtain ⟨-, -, measuredBeacons, -⟩ :=
        run_spec
          (stores fun beaconTime64 =>
            IsBeaconTime pll.beaconPeriod deviation
              (number beaconTime64) beaconTime64)
          (fun beaconTime64 member =>
            ⟨isBeacon _ member, positive _ member⟩) returned
      obtain ⟨newest, oldest, dist, spanned, notTooLarge, isRounded⟩ :=
        measuredBeacons measurement member
      rw [dist] at spanned notTooLarge isRounded
      rw [isRounded]
      obtain ⟨isCount, notZero⟩ :=
        rounded_dist settings accurate newest oldest spanned notTooLarge
      rw [isCount]
      exact ⟨rfl, notZero⟩

/-- A run whose fifth accepted time is far enough from the first one. -/
theorem measuresValid_iff_apart :
    let pll : Pll :=
      { beaconPeriod := 276480
        distMinAccept64 := 27648000
        distMin64 := 138240000
        distMax64 := 140451840
        beaconTimeVec := List.replicate 5 undefinedEarly64
        idx := 0 }
    let calls : List Call :=
      [.provideBeaconTime 1, .reset, .provideBeaconTime 276481,
        .provideBeaconTime 552961, .provideBeaconTime 34836481,
        .provideBeaconTime 69396481, .provideBeaconTime 103956481,
        .provideBeaconTime 138516481]
    pll.MeasuresValid
        { pll with
          beaconTimeVec :=
            [276481, 34836481, 69396481, 103956481, 138516481]
          idx := 0 }
        calls [⟨138516481, 276481, 138240000, 500, 138240000⟩] ↔
      pll.AcceptsSpans [] calls := by
  have constructed :
      construct 27648000 276480 =
        .ok {
          beaconPeriod := 276480
          distMinAccept64 := 27648000
          distMin64 := 138240000
          distMax64 := 140451840
          beaconTimeVec := List.replicate 5 undefinedEarly64
          idx := 0 } := by
    decide +kernel
  exact
    measuresValid_iff constructed (by simp [Call.IsPositive])
      (by decide +kernel)

/-- A second between the beacons that are accepted is too little. -/
theorem not_measuresValid_everySecond :
    ¬ ∀ (sampRate beaconPeriod : UInt32) (pll after : Pll)
        (calls : List Call) (measurements : List Measurement),
      construct sampRate beaconPeriod = .ok pll →
        (∀ call ∈ calls, call.IsPositive) →
          pll.run calls = .ok (after, measurements) →
            pll.MeasuresValid after calls measurements := by
  intro measuresValid
  let pll : Pll :=
    { beaconPeriod := 276480
      distMinAccept64 := 27648000
      distMin64 := 138240000
      distMax64 := 140451840
      beaconTimeVec := List.replicate 5 undefinedEarly64
      idx := 0 }
  let calls : List Call :=
    [.provideBeaconTime 1, .provideBeaconTime 27648001,
      .provideBeaconTime 55296001, .provideBeaconTime 82944001,
      .provideBeaconTime 110592001]
  have constructed : construct 27648000 276480 = .ok pll := by
    decide +kernel
  have positive : ∀ call ∈ calls, call.IsPositive := by
    simp [calls, Call.IsPositive]
  have returned :
      pll.run calls =
        .ok ({ pll with
            beaconTimeVec := [1, 27648001, 55296001, 82944001, 110592001]
            idx := 0 },
          [⟨110592001, 1, 110592000, 400, 110592000⟩]) := by
    decide +kernel
  have valid :=
    measuresValid 27648000 276480 pll _ calls _ constructed positive
      returned
  have tooShort := (valid.dist _ List.mem_cons_self).1
  exact absurd tooShort (by decide)

end Pll

end DectNrp
