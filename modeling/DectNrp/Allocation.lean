import DectNrp.Octets

namespace DectNrp

/-!
# Allocation of transmission times

A beacon opens a period in which resources are allocated to the portable
terminations.  Resources are given relative to the beacon and repeat from period
to period.

Times are 64 bit numbers of samples.  A signed overflow is undefined and counts
as a fault here.
-/

open Checked (bind_eq_ok ok_bind)

/-- A signed number of 64 bits, which must not overflow. -/
def int64 (value : Int) : Checked Int :=
  if -2 ^ 63 ≤ value ∧ value < 2 ^ 63 then
    .ok value
  else
    .error (.assertion "signed overflow")

/-- The largest signed number of 64 bits. -/
def int64Max : Int := 2 ^ 63 - 1

/-- A time far in the past. -/
def undefinedEarly64 : Int := -2 ^ 63 / 8

theorem int64_eq_ok_iff
    {value result : Int} :
    int64 value = .ok result ↔
      (-2 ^ 63 ≤ value ∧ value < 2 ^ 63) ∧ result = value := by
  unfold int64
  by_cases inRange : -2 ^ 63 ≤ value ∧ value < 2 ^ 63
  · rw [if_pos inRange]
    exact ⟨fun returned => ⟨inRange, (Except.ok.inj returned).symm⟩,
        fun fits => by rw [fits.2]⟩
  · rw [if_neg inRange]
    exact ⟨fun failed => (by cases failed), fun fits => absurd fits.1 inRange⟩

theorem int64_eq_ok
    {value : Int}
    (lower : -2 ^ 63 ≤ value)
    (upper : value ≤ int64Max) :
    int64 value = .ok value := by
  unfold int64Max at upper
  exact int64_eq_ok_iff.mpr ⟨⟨lower, by omega⟩, rfl⟩

inductive DurationEc where
  | ms001
  | s001
  | slot001
  | subslotU1001
  | subslotU2001
  | subslotU4001
  | subslotU8001
  deriving Repr, DecidableEq

def slotsPerSec : UInt32 := 2400

def DurationEc.sampRateDivisor : DurationEc → UInt32
  | ms001 => 1000
  | s001 => 1
  | slot001 => slotsPerSec
  | subslotU1001 => 4800
  | subslotU2001 => 9600
  | subslotU4001 => 19200
  | subslotU8001 => 38400

/-- Number of samples of a multiple of a duration. -/
def getDuration
    (sampRate : UInt32)
    (durationEc : DurationEc)
    (mult : UInt32) :
    Checked UInt32 := do
  dectnrpAssert (0 < sampRate) "zero sample rate"
  dectnrpAssert (0 < mult) "zero multiplier"
  dectnrpAssert (sampRate % durationEc.sampRateDivisor == 0)
    "must have zero remainder"
  let nSamples := sampRate / durationEc.sampRateDivisor
  dectnrpAssert (0 < nSamples) "cannot be zero"
  dectnrpAssert (nSamples.toNat * mult.toNat ≤ (2 ^ 32 - 1) / 2)
    "out-of-bound"
  pure (nSamples * mult)

/-- A duration is a positive multiple that leaves some leeway. -/
theorem getDuration_eq_ok
    {sampRate mult nSamples : UInt32}
    {durationEc : DurationEc}
    (returned : getDuration sampRate durationEc mult = .ok nSamples) :
    0 < mult.toNat ∧
      sampRate.toNat % durationEc.sampRateDivisor.toNat = 0 ∧
      0 < sampRate.toNat / durationEc.sampRateDivisor.toNat ∧
      nSamples.toNat =
        sampRate.toNat / durationEc.sampRateDivisor.toNat * mult.toNat ∧
      nSamples.toNat < 2 ^ 31 := by
  unfold getDuration at returned
  obtain ⟨_, -, returned⟩ := bind_eq_ok.mp returned
  obtain ⟨_, positive, returned⟩ := bind_eq_ok.mp returned
  obtain ⟨_, divides, returned⟩ := bind_eq_ok.mp returned
  obtain ⟨_, notZero, returned⟩ := bind_eq_ok.mp returned
  obtain ⟨_, leeway, returned⟩ := bind_eq_ok.mp returned
  cases returned
  have positive :=
    UInt32.lt_iff_toNat_lt.mp
      (of_decide_eq_true (dectnrpAssert_eq_ok.mp positive))
  have divides :=
    UInt32.toNat_inj.mpr (beq_iff_eq.mp (dectnrpAssert_eq_ok.mp divides))
  have notZero :=
    UInt32.lt_iff_toNat_lt.mp
      (of_decide_eq_true (dectnrpAssert_eq_ok.mp notZero))
  have leeway := of_decide_eq_true (dectnrpAssert_eq_ok.mp leeway)
  rw [UInt32.toNat_mod] at divides
  rw [UInt32.toNat_div] at notZero leeway
  have small : sampRate.toNat / durationEc.sampRateDivisor.toNat * mult.toNat <
      2 ^ 31 :=
    lt_of_le_of_lt leeway (by decide)
  have isProduct : (sampRate / durationEc.sampRateDivisor * mult).toNat =
      sampRate.toNat / durationEc.sampRateDivisor.toNat * mult.toNat := by
    rw [UInt32.toNat_mul, UInt32.toNat_div]
    exact Nat.mod_eq_of_lt (lt_trans small (by decide))
  exact ⟨positive, divides, notZero, isProduct, isProduct ▸ small⟩

/-- Samples relative to the beacon. -/
structure Resource where
  offset : UInt32
  length : UInt32
  deriving Repr, DecidableEq

namespace Resource

def getFirstSampleIndex (resource : Resource) : UInt32 :=
  resource.offset

def getLastSampleIndex (resource : Resource) : UInt32 :=
  resource.offset + resource.length - 1

def isPositiveLength (resource : Resource) : Bool :=
  1 ≤ resource.length

def isCausal (resource : Resource) : Bool :=
  resource.getFirstSampleIndex ≤ resource.getLastSampleIndex

def isWellDefined (resource : Resource) : Bool :=
  resource.isPositiveLength && resource.isCausal

def create (offset length : UInt32) : Checked Resource := do
  let resource : Resource := ⟨offset, length⟩
  dectnrpAssert resource.isWellDefined "not well defined"
  pure resource

def isOrthogonalEarlier (resource other : Resource) : Bool :=
  other.getLastSampleIndex < resource.getFirstSampleIndex

def isOrthogonalLater (resource other : Resource) : Bool :=
  resource.getLastSampleIndex < other.getFirstSampleIndex

def isOrthogonal (resource other : Resource) : Bool :=
  resource.isOrthogonalEarlier other || resource.isOrthogonalLater other

end Resource

inductive Direction where
  | ul
  | dl
  | both
  deriving Repr, DecidableEq

/-- A transmission time and how long it may be used; negative if there is none. -/
structure TxOpportunity where
  txTime64 : Int
  nSamples64 : Int
  deriving Repr, DecidableEq

def TxOpportunity.none : TxOpportunity := ⟨-1, -1⟩

def TxOpportunity.getEnd (txOpportunity : TxOpportunity) : Checked Int :=
  int64 (txOpportunity.txTime64 + txOpportunity.nSamples64)

def maxNofUlResourcesPerPt : Nat := 8

def maxNofDlResourcesPerPt : Nat := 8

/-- What is allocated to a portable termination. -/
structure AllocationPt where
  beaconPeriod : UInt32
  allocationValidityAfterBeacon : UInt32
  allocationValidityAfterNow : UInt32
  turnaroundTime : Int
  beaconTimeLastKnown64 : Int
  resourceUlVec : List Resource
  resourceDlVec : List Resource
  deriving Repr, DecidableEq

namespace AllocationPt

def create
    (beaconPeriod allocationValidityAfterBeacon
      allocationValidityAfterNow : UInt32)
    (turnaroundTime : Int) :
    AllocationPt where
  beaconPeriod := beaconPeriod
  allocationValidityAfterBeacon := allocationValidityAfterBeacon
  allocationValidityAfterNow := allocationValidityAfterNow
  turnaroundTime := turnaroundTime
  beaconTimeLastKnown64 := undefinedEarly64
  resourceUlVec := []
  resourceDlVec := []

def setBeaconTimeLastKnown
    (allocationPt : AllocationPt)
    (beaconTimeLastKnown64 : Int) :
    AllocationPt :=
  { allocationPt with beaconTimeLastKnown64 := beaconTimeLastKnown64 }

def isWithinBeaconPeriod
    (allocationPt : AllocationPt)
    (other : Resource) :
    Bool :=
  other.getLastSampleIndex < allocationPt.beaconPeriod

/-- Resources of one direction. -/
def resourceVec
    (allocationPt : AllocationPt) :
    Direction → Checked (List Resource)
  | .ul => .ok allocationPt.resourceUlVec
  | .dl => .ok allocationPt.resourceDlVec
  | .both =>
      .error (.assertion "resource can only be added in one direction")

def isOrthogonal
    (allocationPt : AllocationPt)
    (direction : Direction)
    (other : Resource) :
    Checked Bool := do
  let rvec ← allocationPt.resourceVec direction
  pure (rvec.all fun elem => elem.isOrthogonal other)

def addResource
    (allocationPt : AllocationPt)
    (direction : Direction)
    (offset length : UInt32) :
    Checked AllocationPt := do
  let resource ← Resource.create offset length
  dectnrpAssert (allocationPt.isWithinBeaconPeriod resource)
    "outside of beacon period"
  let orthogonal ← allocationPt.isOrthogonal direction resource
  dectnrpAssert orthogonal "resource not orthogonal"
  match direction with
  | .ul => do
      let resourceUlVec := allocationPt.resourceUlVec ++ [resource]
      dectnrpAssert (resourceUlVec.length ≤ maxNofUlResourcesPerPt)
        "too many uplink resources"
      pure { allocationPt with resourceUlVec := resourceUlVec }
  | .dl => do
      let resourceDlVec := allocationPt.resourceDlVec ++ [resource]
      dectnrpAssert (resourceDlVec.length ≤ maxNofDlResourcesPerPt)
        "too many downlink resources"
      pure { allocationPt with resourceDlVec := resourceDlVec }
  | .both =>
      .error (.assertion "resource can only be added in one direction")

/-- Resources of equal length at equal distances. -/
def addResourceRegular
    (sampRate : UInt32)
    (allocationPt : AllocationPt)
    (direction : Direction)
    (offset length stride : UInt32)
    (nResources : Nat)
    (baseDurationEc : DurationEc) :
    Checked AllocationPt :=
  (List.range nResources).foldlM
    (fun allocationPt i => do
      let offset ←
        getDuration sampRate baseDurationEc
          (offset + stride * UInt32.ofNat i)
      let length ← getDuration sampRate baseDurationEc length
      allocationPt.addResource direction offset length)
    allocationPt

/--
Go through the resources of a beacon period, and of the next one behind the last
resource.  The fuel is the number of tests and returns to the first resource.
-/
def search
    (beaconPeriod : UInt32)
    (rvec : List Resource)
    (txEarliestLocal64 txLatestLocal64 : Int) :
    Nat → Int → List Resource → Checked (Option TxOpportunity)
  | 0, _, _ => .error (.assertion "endless loop")
  | fuel + 1, A, [] => do
      let A ← int64 (A + beaconPeriod.toNat)
      search beaconPeriod rvec txEarliestLocal64 txLatestLocal64 fuel A rvec
  | fuel + 1, A, resource :: rest => do
      let D ← int64 (A + resource.offset.toNat)
      if txEarliestLocal64 ≤ D ∧ D < txLatestLocal64 then
        pure (some ⟨D, resource.length.toNat⟩)
      else if txLatestLocal64 ≤ D then
        pure none
      else
        search beaconPeriod rvec txEarliestLocal64 txLatestLocal64 fuel A
          rest

/-- Begin of the period in which the search starts. -/
def searchBegin
    (allocationPt : AllocationPt)
    (txEarliestLocal64 : Int) :
    Checked Int :=
  if allocationPt.beaconTimeLastKnown64 < txEarliestLocal64 then do
    let B ← int64 (txEarliestLocal64 - allocationPt.beaconTimeLastKnown64)
    dectnrpAssert (1 ≤ allocationPt.beaconPeriod)
      "multiple must be at least 1"
    let C :=
      B.tdiv allocationPt.beaconPeriod.toNat *
        allocationPt.beaconPeriod.toNat
    let A ← int64 (allocationPt.beaconTimeLastKnown64 + C)
    dectnrpAssert (A ≤ txEarliestLocal64) "next multiple incorrect"
    pure A
  else
    pure allocationPt.beaconTimeLastKnown64

def getTxOpportunityGeneric
    (allocationPt : AllocationPt)
    (txEarliestLocal64 txLatestLocal64 : Int)
    (rvec : List Resource) :
    Checked TxOpportunity := do
  if rvec.isEmpty then
    pure .none
  else if txLatestLocal64 < txEarliestLocal64 then
    pure .none
  else do
    let A ← allocationPt.searchBegin txEarliestLocal64
    -- every return to the first resource moves on by one sample at least
    let fuel := ((txLatestLocal64 - A).toNat + 2) * (rvec.length + 1)
    match ← search allocationPt.beaconPeriod rvec txEarliestLocal64
        txLatestLocal64 fuel A rvec with
    | none => pure .none
    | some txOpportunity => do
        dectnrpAssert (txEarliestLocal64 ≤ txOpportunity.txTime64)
          "tx time too early"
        dectnrpAssert (txOpportunity.txTime64 < txLatestLocal64)
          "tx time too late"
        pure txOpportunity

def getTxOpportunity
    (allocationPt : AllocationPt)
    (direction : Direction)
    (now64 txEarliest64 : Int) :
    Checked TxOpportunity := do
  let turnedAround64 ← int64 (now64 + allocationPt.turnaroundTime)
  let txEarliestLocal64 := max turnedAround64 txEarliest64
  match direction with
  | .ul => do
      dectnrpAssert (allocationPt.beaconTimeLastKnown64 ≤ now64)
        "uplink times out-of-order"
      let afterBeacon64 ←
        int64
          (allocationPt.beaconTimeLastKnown64 +
            allocationPt.allocationValidityAfterBeacon.toNat)
      let afterNow64 ←
        int64 (now64 + allocationPt.allocationValidityAfterNow.toNat)
      allocationPt.getTxOpportunityGeneric txEarliestLocal64
        (min afterBeacon64 afterNow64) allocationPt.resourceUlVec
  | .dl => do
      let txLatestLocal64 ←
        int64
          (allocationPt.beaconTimeLastKnown64 +
            allocationPt.beaconPeriod.toNat)
      allocationPt.getTxOpportunityGeneric txEarliestLocal64
        txLatestLocal64 allocationPt.resourceDlVec
  | .both =>
      .error (.assertion "resource can only be added in one direction")

/-- The resources lie within the beacon period. -/
def InPeriod
    (beaconPeriod : UInt32)
    (rvec : List Resource) :
    Prop :=
  ∀ resource ∈ rvec,
    resource.offset.toNat + resource.length.toNat ≤ beaconPeriod.toNat

/--
The search ends.  What it finds is a resource of one of the periods up to the
latest time, which is the begin of a period itself.
-/
theorem search_eq_ok
    {beaconPeriod : UInt32}
    {rvec : List Resource}
    {txEarliestLocal64 txLatestLocal64 : Int}
    (inPeriod : InPeriod beaconPeriod rvec)
    (nonempty : rvec ≠ [])
    (upper : txLatestLocal64 + beaconPeriod.toNat ≤ int64Max)
    (fuel : Nat)
    {A : Int}
    {rest : List Resource}
    {periods : Nat}
    (lower : -2 ^ 63 ≤ A)
    (isLatest : txLatestLocal64 = A + periods * beaconPeriod.toNat)
    (suffix : ∀ resource ∈ rest, resource ∈ rvec)
    (early : rest = [] → A < txLatestLocal64)
    (enough : periods * (rvec.length + 1) + rest.length + 1 ≤ fuel) :
    ∃ found,
      search beaconPeriod rvec txEarliestLocal64 txLatestLocal64 fuel A
          rest =
        .ok found ∧
      ∀ txOpportunity, found = some txOpportunity →
        txEarliestLocal64 ≤ txOpportunity.txTime64 ∧
        txOpportunity.txTime64 < txLatestLocal64 ∧
        ∃ resource ∈ rvec, ∃ later : Nat,
          txOpportunity =
            ⟨A + later * beaconPeriod.toNat + resource.offset.toNat,
              resource.length.toNat⟩ := by
  induction fuel generalizing A rest periods with
  | zero => omega
  | succ fuel hypothesis =>
      have notNegative : (0 : Int) ≤ periods * beaconPeriod.toNat :=
        Int.mul_nonneg (Int.natCast_nonneg _) (Int.natCast_nonneg _)
      cases rest with
      | nil =>
          have isEarly := early rfl
          cases periods with
          | zero =>
              rw [Nat.cast_zero, Int.zero_mul] at isLatest
              omega
          | succ periods =>
              have next : txLatestLocal64 =
                  A + beaconPeriod.toNat + periods * beaconPeriod.toNat := by
                rw [isLatest]
                push_cast
                ring
              have further : (0 : Int) ≤ periods * beaconPeriod.toNat :=
                Int.mul_nonneg (Int.natCast_nonneg _) (Int.natCast_nonneg _)
              have lessFuel :
                  periods * (rvec.length + 1) + rvec.length + 1 ≤ fuel := by
                rw [Nat.succ_mul] at enough
                simp only [List.length_nil] at enough
                omega
              obtain ⟨found, isFound, explained⟩ :=
                @hypothesis (A + beaconPeriod.toNat) rvec periods
                  (by omega) next (fun _ member => member)
                  (fun isEmpty => absurd isEmpty nonempty) lessFuel
              refine ⟨found, ?_, ?_⟩
              · unfold search
                rw [int64_eq_ok (by omega) (by omega), ok_bind]
                exact isFound
              · intro txOpportunity isSome
                obtain ⟨first, second, resource, member, later, isTime⟩ :=
                  explained txOpportunity isSome
                refine ⟨first, second, resource, member, later + 1, ?_⟩
                rw [isTime]
                congr 1
                push_cast
                ring
      | cons resource rest =>
          have member := suffix resource List.mem_cons_self
          have inside := inPeriod resource member
          unfold search
          rw [int64_eq_ok (by omega) (by omega), ok_bind]
          by_cases hit : txEarliestLocal64 ≤ A + resource.offset.toNat ∧
              A + resource.offset.toNat < txLatestLocal64
          · rw [if_pos hit]
            refine ⟨_, rfl, ?_⟩
            intro txOpportunity isSome
            cases isSome
            refine ⟨hit.1, hit.2, resource, member, 0, ?_⟩
            rw [Nat.cast_zero, Int.zero_mul, Int.add_zero]
          · rw [if_neg hit]
            by_cases outside : txLatestLocal64 ≤ A + resource.offset.toNat
            · rw [if_pos outside]
              exact ⟨none, rfl, fun _ isSome => nomatch isSome⟩
            · rw [if_neg outside]
              refine hypothesis lower isLatest (fun other otherMember =>
                    suffix other (List.mem_cons_of_mem _ otherMember))
                  (fun _ => ?_) ?_
              · omega
              · simp only [List.length_cons] at enough
                omega

theorem searchBegin_eq_ok
    {allocationPt : AllocationPt}
    {txEarliestLocal64 : Int}
    (positive : 0 < allocationPt.beaconPeriod.toNat)
    (lower : 0 ≤ allocationPt.beaconTimeLastKnown64)
    (upper :
      allocationPt.beaconTimeLastKnown64 +
          2 * allocationPt.beaconPeriod.toNat ≤
        int64Max)
    (notLate :
      txEarliestLocal64 ≤
        allocationPt.beaconTimeLastKnown64 + allocationPt.beaconPeriod.toNat) :
    ∃ later : Nat,
      later ≤ 1 ∧
      allocationPt.searchBegin txEarliestLocal64 =
        .ok
          (allocationPt.beaconTimeLastKnown64 +
            later * allocationPt.beaconPeriod.toNat) := by
  unfold searchBegin
  by_cases behind : allocationPt.beaconTimeLastKnown64 < txEarliestLocal64
  · rw [if_pos behind]
    obtain ⟨B, isB⟩ : ∃ B : Nat,
        txEarliestLocal64 - allocationPt.beaconTimeLastKnown64 = B :=
      ⟨_, (Int.toNat_of_nonneg (by omega)).symm⟩
    have isPositive : decide (1 ≤ allocationPt.beaconPeriod) = true := by
      rw [decide_eq_true_iff, UInt32.le_iff_toNat_le]
      exact positive
    have isMultiple : ((B : Int).tdiv allocationPt.beaconPeriod.toNat) *
        allocationPt.beaconPeriod.toNat =
          ((B / allocationPt.beaconPeriod.toNat : Nat) : Int) *
            allocationPt.beaconPeriod.toNat := by
      rw [← Int.ofNat_tdiv]
    have few : B / allocationPt.beaconPeriod.toNat ≤ 1 := by
      refine Nat.div_le_of_le_mul ?_
      omega
    have below : B / allocationPt.beaconPeriod.toNat *
        allocationPt.beaconPeriod.toNat ≤ B :=
      Nat.div_mul_le_self _ _
    have belowInt : ((B / allocationPt.beaconPeriod.toNat : Nat) : Int) *
        allocationPt.beaconPeriod.toNat ≤ B := by
      exact_mod_cast below
    have notNegative : (0 : Int) ≤
        ((B / allocationPt.beaconPeriod.toNat : Nat) : Int) *
          allocationPt.beaconPeriod.toNat :=
      Int.mul_nonneg (Int.natCast_nonneg _) (Int.natCast_nonneg _)
    refine ⟨B / allocationPt.beaconPeriod.toNat, few, ?_⟩
    unfold int64Max at upper
    rw [isB, int64_eq_ok (by omega) (by unfold int64Max; omega),
      ok_bind, isPositive, dectnrpAssert_true, ok_bind,
      isMultiple]
    dsimp only
    rw [int64_eq_ok (by omega) (by unfold int64Max; omega),
      ok_bind, decide_eq_true (by omega), dectnrpAssert_true]
    rfl
  · rw [if_neg behind]
    refine ⟨0, Nat.zero_le 1, ?_⟩
    rw [Nat.cast_zero, Int.zero_mul, Int.add_zero]
    rfl

/--
A downlink opportunity is a resource of the period of the last beacon, or there
is none.
-/
theorem getTxOpportunity_dl
    {allocationPt : AllocationPt}
    {now64 txEarliest64 : Int}
    (positive : 0 < allocationPt.beaconPeriod.toNat)
    (inPeriod : InPeriod allocationPt.beaconPeriod allocationPt.resourceDlVec)
    (lower : 0 ≤ allocationPt.beaconTimeLastKnown64)
    (upper :
      allocationPt.beaconTimeLastKnown64 +
          2 * allocationPt.beaconPeriod.toNat ≤
        int64Max)
    (nowLower : -2 ^ 63 ≤ now64 + allocationPt.turnaroundTime)
    (nowUpper : now64 + allocationPt.turnaroundTime ≤ int64Max) :
    ∃ txOpportunity,
      allocationPt.getTxOpportunity .dl now64 txEarliest64 =
        .ok txOpportunity ∧
      (txOpportunity = .none ∨
        ∃ resource ∈ allocationPt.resourceDlVec,
          txOpportunity =
            ⟨allocationPt.beaconTimeLastKnown64 + resource.offset.toNat,
              resource.length.toNat⟩ ∧
          txEarliest64 ≤ txOpportunity.txTime64) := by
  unfold getTxOpportunity
  rw [int64_eq_ok nowLower nowUpper, ok_bind]
  dsimp only
  rw [int64_eq_ok (by omega) (by omega), ok_bind]
  generalize isEarliest :
    max (now64 + allocationPt.turnaroundTime) txEarliest64 = txEarliestLocal64
  have notEarlier : txEarliest64 ≤ txEarliestLocal64 := by
    rw [← isEarliest]
    exact le_max_right _ _
  unfold getTxOpportunityGeneric
  by_cases isEmpty : allocationPt.resourceDlVec = []
  · rw [isEmpty]
    exact ⟨.none, rfl, Or.inl rfl⟩
  · have notEmpty : allocationPt.resourceDlVec.isEmpty = false :=
      Bool.eq_false_iff.mpr fun empty => isEmpty (List.isEmpty_iff.mp empty)
    rw [notEmpty, if_neg Bool.false_ne_true]
    by_cases late : allocationPt.beaconTimeLastKnown64 +
        allocationPt.beaconPeriod.toNat < txEarliestLocal64
    · rw [if_pos late]
      exact ⟨.none, rfl, Or.inl rfl⟩
    · rw [if_neg late]
      obtain ⟨before, few, isBegin⟩ :=
        searchBegin_eq_ok positive lower upper (not_lt.mp late)
      rw [isBegin, ok_bind]
      have offset : (0 : Int) ≤ before * allocationPt.beaconPeriod.toNat :=
        Int.mul_nonneg (Int.natCast_nonneg _) (Int.natCast_nonneg _)
      have isLatest : allocationPt.beaconTimeLastKnown64 +
          allocationPt.beaconPeriod.toNat =
            allocationPt.beaconTimeLastKnown64 +
                before * allocationPt.beaconPeriod.toNat +
              ((1 - before : Nat) : Int) *
                allocationPt.beaconPeriod.toNat := by
        rw [Nat.cast_sub few]
        push_cast
        ring
      obtain ⟨found, isFound, explained⟩ :=
        @search_eq_ok allocationPt.beaconPeriod
          allocationPt.resourceDlVec txEarliestLocal64
          (allocationPt.beaconTimeLastKnown64 +
            allocationPt.beaconPeriod.toNat)
          inPeriod isEmpty (by omega)
          (((allocationPt.beaconTimeLastKnown64 +
              allocationPt.beaconPeriod.toNat -
              (allocationPt.beaconTimeLastKnown64 +
                before * allocationPt.beaconPeriod.toNat)).toNat + 2) *
            (allocationPt.resourceDlVec.length + 1))
          (allocationPt.beaconTimeLastKnown64 +
            before * allocationPt.beaconPeriod.toNat)
          allocationPt.resourceDlVec (1 - before) (by omega) isLatest
          (fun _ member => member) (fun empty => absurd empty isEmpty)
          (by
            have one : (1 - before) * (allocationPt.resourceDlVec.length + 1) ≤
                1 * (allocationPt.resourceDlVec.length + 1) :=
              Nat.mul_le_mul_right _ (Nat.sub_le 1 before)
            have two : 2 * (allocationPt.resourceDlVec.length + 1) ≤
                ((allocationPt.beaconTimeLastKnown64 +
                    allocationPt.beaconPeriod.toNat -
                    (allocationPt.beaconTimeLastKnown64 +
                      before * allocationPt.beaconPeriod.toNat)).toNat + 2) *
                  (allocationPt.resourceDlVec.length + 1) :=
              Nat.mul_le_mul_right _ (Nat.le_add_left 2 _)
            omega)
      dsimp only
      rw [isFound, ok_bind]
      cases found with
      | none => exact ⟨.none, rfl, Or.inl rfl⟩
      | some txOpportunity =>
          obtain ⟨notTooEarly, notTooLate, resource, member, later,
            isTime⟩ := explained txOpportunity rfl
          refine ⟨txOpportunity, ?_, Or.inr ⟨resource, member, ?_, ?_⟩⟩
          · dsimp only
            rw [decide_eq_true notTooEarly, decide_eq_true notTooLate]
            rfl
          · -- a later period would begin behind the latest time
            have further : before * (allocationPt.beaconPeriod.toNat : Int) +
                later * allocationPt.beaconPeriod.toNat <
                  1 * allocationPt.beaconPeriod.toNat := by
              rw [isTime] at notTooLate
              dsimp only at notTooLate
              omega
            rw [← Int.add_mul] at further
            have none : (before : Int) + later < 1 :=
              lt_of_mul_lt_mul_right further (Int.natCast_nonneg _)
            have isBefore : before = 0 := by omega
            have isLater : later = 0 := by omega
            rw [isTime, isBefore, isLater]
            simp
          · exact notEarlier.trans notTooEarly

/-- A resource of a regular series passes the assertions. -/
structure Regular
    (sampRate beaconPeriod : UInt32)
    (offset length stride : UInt32)
    (baseDurationEc : DurationEc)
    (i : Nat)
    (resource : Resource) :
    Prop where
  offset :
    getDuration sampRate baseDurationEc (offset + stride * UInt32.ofNat i) =
      .ok resource.offset
  length : getDuration sampRate baseDurationEc length = .ok resource.length
  wellDefined : resource.isWellDefined = true
  within : resource.getLastSampleIndex < beaconPeriod

variable
  {allocationPt after : AllocationPt}
  {direction : Direction}

/-- Only the resources of one direction are extended. -/
theorem addResource_eq_ok
    {offset length : UInt32}
    (returned : allocationPt.addResource direction offset length = .ok after) :
    (⟨offset, length⟩ : Resource).isWellDefined = true ∧
      (⟨offset, length⟩ : Resource).getLastSampleIndex <
        allocationPt.beaconPeriod ∧
      (direction = .ul ∧
          after =
            { allocationPt with
              resourceUlVec :=
                allocationPt.resourceUlVec ++ [⟨offset, length⟩] } ∨
        direction = .dl ∧ after =
            { allocationPt with
              resourceDlVec :=
                allocationPt.resourceDlVec ++ [⟨offset, length⟩] }) := by
  unfold addResource Resource.create at returned
  obtain ⟨resource, isResource, returned⟩ := bind_eq_ok.mp returned
  obtain ⟨_, wellDefined, isResource⟩ := bind_eq_ok.mp isResource
  cases isResource
  obtain ⟨_, within, returned⟩ := bind_eq_ok.mp returned
  obtain ⟨_, -, returned⟩ := bind_eq_ok.mp returned
  obtain ⟨_, -, returned⟩ := bind_eq_ok.mp returned
  refine ⟨dectnrpAssert_eq_ok.mp wellDefined,
      of_decide_eq_true (dectnrpAssert_eq_ok.mp within), ?_⟩
  cases direction with
  | ul =>
      obtain ⟨_, -, returned⟩ := bind_eq_ok.mp returned
      cases returned
      exact Or.inl ⟨rfl, rfl⟩
  | dl =>
      obtain ⟨_, -, returned⟩ := bind_eq_ok.mp returned
      cases returned
      exact Or.inr ⟨rfl, rfl⟩
  | both => cases returned

/-- What a regular series of resources changes. -/
structure Extends
    (allocationPt after : AllocationPt)
    (direction : Direction)
    (added : List Resource) :
    Prop where
  beaconPeriod : after.beaconPeriod = allocationPt.beaconPeriod
  turnaroundTime : after.turnaroundTime = allocationPt.turnaroundTime
  resourceUlVec :
    after.resourceUlVec =
      allocationPt.resourceUlVec ++ if direction = .ul then added else []
  resourceDlVec :
    after.resourceDlVec =
      allocationPt.resourceDlVec ++ if direction = .dl then added else []

/-- All resources of a regular series pass the assertions. -/
theorem addResourceRegular_eq_ok
    {sampRate : UInt32}
    {offset length stride : UInt32}
    {nResources : Nat}
    {baseDurationEc : DurationEc}
    (returned :
      addResourceRegular sampRate allocationPt direction offset length
          stride nResources baseDurationEc =
        .ok after) :
    ∃ added,
      Extends allocationPt after direction added ∧
      (∀ resource ∈ added, ∃ i < nResources,
        Regular sampRate allocationPt.beaconPeriod offset length stride
          baseDurationEc i resource) ∧
      ∀ i < nResources, ∃ resource,
        Regular sampRate allocationPt.beaconPeriod offset length stride
          baseDurationEc i resource := by
  induction nResources generalizing after with
  | zero =>
      cases returned
      exact ⟨[], ⟨rfl, rfl, by simp, by simp⟩, by simp, by simp⟩
  | succ nResources hypothesis =>
      unfold addResourceRegular at returned
      rw [List.range_succ, List.foldlM_append] at returned
      obtain ⟨between, isBetween, returned⟩ := bind_eq_ok.mp returned
      obtain ⟨added, extends_, explained, all⟩ := hypothesis isBetween
      rw [List.foldlM_cons] at returned
      obtain ⟨last, isLast, returned⟩ := bind_eq_ok.mp returned
      cases returned
      obtain ⟨lastOffset, isOffset, isLast⟩ := bind_eq_ok.mp isLast
      obtain ⟨lastLength, isLength, isLast⟩ := bind_eq_ok.mp isLast
      obtain ⟨wellDefined, within, isAfter⟩ := addResource_eq_ok isLast
      rw [extends_.beaconPeriod] at within
      have regular :
          Regular sampRate allocationPt.beaconPeriod offset length stride
            baseDurationEc nResources ⟨lastOffset, lastLength⟩ :=
        ⟨isOffset, isLength, wellDefined, within⟩
      refine ⟨added ++ [⟨lastOffset, lastLength⟩], ?_, ?_, ?_⟩
      · rcases isAfter with ⟨isUl, isAfter⟩ | ⟨isDl, isAfter⟩
        · rw [isAfter]
          refine ⟨extends_.beaconPeriod, extends_.turnaroundTime, ?_, ?_⟩
          · simp [extends_.resourceUlVec, isUl]
          · simp [extends_.resourceDlVec, isUl]
        · rw [isAfter]
          refine ⟨extends_.beaconPeriod, extends_.turnaroundTime, ?_, ?_⟩
          · simp [extends_.resourceUlVec, isDl]
          · simp [extends_.resourceDlVec, isDl]
      · intro resource member
        rcases List.mem_append.mp member with member | member
        · obtain ⟨i, bound, isRegular⟩ := explained resource member
          exact ⟨i, Nat.lt_succ_of_lt bound, isRegular⟩
        · rw [List.mem_singleton.mp member]
          exact ⟨nResources, Nat.lt_succ_self _, regular⟩
      · intro i bound
        by_cases isNew : i = nResources
        · rw [isNew]
          exact ⟨_, regular⟩
        · exact all i (by omega)

end AllocationPt

end DectNrp
