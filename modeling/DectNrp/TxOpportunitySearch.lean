import DectNrp.Allocation
import DectNrp.PeriodicOccurrence
import Mathlib.Logic.Relation

namespace DectNrp

/-!
# Search for a transmission opportunity

The search tests the resources in the order in which they were added, period
after period, and ends with the first one that is not too early.  That is the
next opportunity only if the resources happen to be in a suitable order, which
no function that adds a resource takes care of.
-/

open Checked (bind_eq_ok ok_bind)

namespace AllocationPt

open PeriodicOccurrence (Occurs nextAt periodStart)

/-- A value of a signed type of 64 bits. -/
def IsInt64 (value : Int) : Prop :=
  -2 ^ 63 ≤ value ∧ value ≤ int64Max

instance (value : Int) : Decidable (IsInt64 value) :=
  inferInstanceAs (Decidable (_ ∧ _))

/-- Calls that add resources or tell the time of a beacon. -/
inductive Configures : AllocationPt → AllocationPt → Prop where
  | addResource
      {allocationPt after : AllocationPt}
      {direction : Direction}
      {offset length : UInt32}
      (returned :
        allocationPt.addResource direction offset length = .ok after) :
      Configures allocationPt after
  | addResourceRegular
      {sampRate : UInt32}
      {allocationPt after : AllocationPt}
      {direction : Direction}
      {offset length stride : UInt32}
      {nResources : Nat}
      {baseDurationEc : DurationEc}
      (returned :
        addResourceRegular sampRate allocationPt direction offset length
            stride nResources baseDurationEc =
          .ok after) :
      Configures allocationPt after
  | setBeaconTimeLastKnown
      {allocationPt : AllocationPt}
      {beaconTimeLastKnown64 : Int}
      (isInt64 : IsInt64 beaconTimeLastKnown64) :
      Configures allocationPt
        (allocationPt.setBeaconTimeLastKnown beaconTimeLastKnown64)

/-- An allocation that was configured by any of the calls. -/
def Reached (allocationPt : AllocationPt) : Prop :=
  ∃ beaconPeriod validityAfterBeacon validityAfterNow turnaroundTime,
    Relation.ReflTransGen Configures
      (create beaconPeriod validityAfterBeacon validityAfterNow
        turnaroundTime)
      allocationPt

/-- Two resources that do not share a sample. -/
def Apart (first second : Resource) : Prop :=
  first.offset.toNat + first.length.toNat ≤ second.offset.toNat ∨
    second.offset.toNat + second.length.toNat ≤ first.offset.toNat

instance : Std.Symm Apart where
  symm _ _ apart := apart.symm

/-- The resources of one direction lie apart in the beacon period. -/
structure Arranged
    (beaconPeriod : UInt32)
    (rvec : List Resource) :
    Prop where
  wellDefined : ∀ resource ∈ rvec, resource.isWellDefined = true
  inPeriod : InPeriod beaconPeriod rvec
  apart : rvec.Pairwise Apart

/-- What all calls keep. -/
structure Invariant (allocationPt : AllocationPt) : Prop where
  ul : Arranged allocationPt.beaconPeriod allocationPt.resourceUlVec
  dl : Arranged allocationPt.beaconPeriod allocationPt.resourceDlVec
  beacon : IsInt64 allocationPt.beaconTimeLastKnown64

/-- The earliest time. -/
def earliest
    (allocationPt : AllocationPt)
    (now64 txEarliest64 : Int) :
    Int :=
  max (now64 + allocationPt.turnaroundTime) txEarliest64

/-- The time in front of which to transmit. -/
def latest
    (allocationPt : AllocationPt)
    (now64 : Int) :
    Direction → Int
  | .ul =>
      min
        (allocationPt.beaconTimeLastKnown64 +
          allocationPt.allocationValidityAfterBeacon.toNat)
        (now64 + allocationPt.allocationValidityAfterNow.toNat)
  | _ =>
      allocationPt.beaconTimeLastKnown64 + allocationPt.beaconPeriod.toNat

/-- Resources of one direction. -/
def resources
    (allocationPt : AllocationPt) :
    Direction → List Resource
  | .ul => allocationPt.resourceUlVec
  | _ => allocationPt.resourceDlVec

/-- A time at which a resource is available. -/
def OccursAt
    (allocationPt : AllocationPt)
    (resource : Resource)
    (time : Int) :
    Prop :=
  Occurs allocationPt.beaconTimeLastKnown64 allocationPt.beaconPeriod.toNat
    resource.offset.toNat time

/-- A time at which to transmit with a resource. -/
structure Opportunity
    (allocationPt : AllocationPt)
    (direction : Direction)
    (now64 txEarliest64 : Int)
    (resource : Resource)
    (time : Int) :
    Prop where
  member : resource ∈ allocationPt.resources direction
  occurs : allocationPt.OccursAt resource time
  notEarly : allocationPt.earliest now64 txEarliest64 ≤ time
  notLate : time < allocationPt.latest now64 direction

/-- The earliest opportunity, with all samples of its resource. -/
structure IsEarliest
    (allocationPt : AllocationPt)
    (direction : Direction)
    (now64 txEarliest64 : Int)
    (resource : Resource)
    (txOpportunity : TxOpportunity) :
    Prop where
  opportunity :
    allocationPt.Opportunity direction now64 txEarliest64 resource
      txOpportunity.txTime64
  length : txOpportunity.nSamples64 = resource.length.toNat
  least :
    ∀ other time,
      allocationPt.Opportunity direction now64 txEarliest64 other time →
        txOpportunity.txTime64 ≤ time
  /-- It ends with its beacon period. -/
  within :
    ∃ k : Nat,
      let start :=
        allocationPt.beaconTimeLastKnown64 +
          k * allocationPt.beaconPeriod.toNat
      start ≤ txOpportunity.txTime64 ∧
        txOpportunity.txTime64 + txOpportunity.nSamples64 ≤
          start + allocationPt.beaconPeriod.toNat
  apart :
    ∀ other ∈ allocationPt.resources direction, other ≠ resource →
      ∀ time, allocationPt.OccursAt other time →
        txOpportunity.txTime64 + txOpportunity.nSamples64 ≤ time ∨
          time + other.length.toNat ≤ txOpportunity.txTime64

/-- The search returns the earliest opportunity, or none if there is none. -/
def FindsEarliest
    (allocationPt : AllocationPt)
    (direction : Direction)
    (now64 txEarliest64 : Int) :
    Prop :=
  ∃ txOpportunity,
    allocationPt.getTxOpportunity direction now64 txEarliest64 =
        .ok txOpportunity ∧
      (txOpportunity ≠ .none ↔
        ∃ resource time,
          allocationPt.Opportunity direction now64 txEarliest64 resource
            time) ∧
      (txOpportunity ≠ .none →
        ∃ resource,
          allocationPt.IsEarliest direction now64 txEarliest64 resource
            txOpportunity)

/-- The next time of a resource that is not too early. -/
def nextTime
    (allocationPt : AllocationPt)
    (now64 txEarliest64 : Int)
    (resource : Resource) :
    Int :=
  nextAt allocationPt.beaconTimeLastKnown64 allocationPt.beaconPeriod.toNat
    (allocationPt.earliest now64 txEarliest64) resource.offset.toNat

/--
The first resource that was added of those that are not behind in the period of
the earliest time, or of all resources.
-/
def firstFound
    (allocationPt : AllocationPt)
    (direction : Direction)
    (now64 txEarliest64 : Int) :
    Option Resource :=
  let earliest := allocationPt.earliest now64 txEarliest64
  let A :=
    periodStart allocationPt.beaconTimeLastKnown64
      allocationPt.beaconPeriod.toNat earliest
  let rvec := allocationPt.resources direction
  (rvec.find? fun resource =>
    decide (earliest ≤ A + resource.offset.toNat)).or rvec.head?

/-- None of the sums of the search overflows. -/
structure Representable
    (allocationPt : AllocationPt)
    (direction : Direction)
    (now64 txEarliest64 : Int) :
    Prop where
  turnedAround : IsInt64 (now64 + allocationPt.turnaroundTime)
  afterBeacon :
    direction = .ul →
      IsInt64
        (allocationPt.beaconTimeLastKnown64 +
          allocationPt.allocationValidityAfterBeacon.toNat)
  afterNow :
    direction = .ul →
      IsInt64 (now64 + allocationPt.allocationValidityAfterNow.toNat)
  period :
    direction = .dl →
      IsInt64
        (allocationPt.beaconTimeLastKnown64 +
          allocationPt.beaconPeriod.toNat)
  searched :
    ∀ first,
      allocationPt.firstFound direction now64 txEarliest64 = some first →
        allocationPt.earliest now64 txEarliest64 ≤
            allocationPt.latest now64 direction →
          IsInt64 (allocationPt.nextTime now64 txEarliest64 first) ∧
            (allocationPt.beaconTimeLastKnown64 <
                allocationPt.earliest now64 txEarliest64 →
              IsInt64
                (allocationPt.earliest now64 txEarliest64 -
                  allocationPt.beaconTimeLastKnown64))

/--
There is no opportunity, or the resource that is tested first is the next one
of all.
-/
def InOrder
    (allocationPt : AllocationPt)
    (direction : Direction)
    (now64 txEarliest64 : Int) :
    Prop :=
  (∀ resource ∈ allocationPt.resources direction,
      allocationPt.latest now64 direction ≤
        allocationPt.nextTime now64 txEarliest64 resource) ∨
    ∀ first,
      allocationPt.firstFound direction now64 txEarliest64 = some first →
        ∀ resource ∈ allocationPt.resources direction,
          allocationPt.nextTime now64 txEarliest64 first ≤
            allocationPt.nextTime now64 txEarliest64 resource

/-- The last sample of a well defined resource. -/
theorem getLastSampleIndex_toNat
    {resource : Resource}
    (wellDefined : resource.isWellDefined = true) :
    0 < resource.length.toNat ∧
      resource.getLastSampleIndex.toNat + 1 =
        resource.offset.toNat + resource.length.toNat := by
  simp only [Resource.isWellDefined, Resource.isPositiveLength,
    Resource.isCausal, Resource.getFirstSampleIndex,
    Resource.getLastSampleIndex, Bool.and_eq_true] at wellDefined ⊢
  obtain ⟨isPositive, isCausal⟩ := wellDefined
  have isPositive := UInt32.le_iff_toNat_le.mp (of_decide_eq_true isPositive)
  have isCausal := UInt32.le_iff_toNat_le.mp (of_decide_eq_true isCausal)
  have isOne : UInt32.toNat 1 = 1 := rfl
  have offsetBound := resource.offset.toNat_lt
  have lengthBound := resource.length.toNat_lt
  rw [UInt32.toNat_sub, UInt32.toNat_add, isOne] at isCausal ⊢
  omega

variable {resource other : Resource}

theorem apart_of_isOrthogonal
    (wellDefined : resource.isWellDefined = true)
    (otherWellDefined : other.isWellDefined = true)
    (orthogonal : resource.isOrthogonal other = true) :
    Apart resource other := by
  obtain ⟨-, isLast⟩ := getLastSampleIndex_toNat wellDefined
  obtain ⟨-, otherLast⟩ := getLastSampleIndex_toNat otherWellDefined
  simp only [Resource.isOrthogonal, Resource.isOrthogonalEarlier,
    Resource.isOrthogonalLater, Resource.getFirstSampleIndex,
    Bool.or_eq_true] at orthogonal
  rcases orthogonal with otherEarlier | otherLater
  · have before := UInt32.lt_iff_toNat_lt.mp (of_decide_eq_true otherEarlier)
    exact .inr (by omega)
  · have before := UInt32.lt_iff_toNat_lt.mp (of_decide_eq_true otherLater)
    exact .inl (by omega)

variable
  {beaconPeriod : UInt32}
  {rvec : List Resource}

/-- A resource that passes the assertions is arranged with the others. -/
theorem Arranged.append
    {resource : Resource}
    (arranged : Arranged beaconPeriod rvec)
    (wellDefined : resource.isWellDefined = true)
    (within : resource.getLastSampleIndex < beaconPeriod)
    (orthogonal : rvec.all (·.isOrthogonal resource) = true) :
    Arranged beaconPeriod (rvec ++ [resource]) := by
  obtain ⟨-, isLast⟩ := getLastSampleIndex_toNat wellDefined
  have within := UInt32.lt_iff_toNat_lt.mp within
  refine ⟨?_, ?_, ?_⟩
  · intro other member
    rcases List.mem_append.mp member with isOld | isNew
    · exact arranged.wellDefined other isOld
    · rw [List.mem_singleton.mp isNew]
      exact wellDefined
  · intro other member
    rcases List.mem_append.mp member with isOld | isNew
    · exact arranged.inPeriod other isOld
    · rw [List.mem_singleton.mp isNew]
      omega
  · refine List.pairwise_append.mpr
        ⟨arranged.apart, List.pairwise_singleton _ _, ?_⟩
    intro old isOld new isNew
    rw [List.mem_singleton.mp isNew]
    exact apart_of_isOrthogonal (arranged.wellDefined old isOld) wellDefined
        (List.all_eq_true.mp orthogonal old isOld)

theorem Arranged.nil (beaconPeriod : UInt32) :
    Arranged beaconPeriod [] :=
  ⟨nofun, nofun, List.Pairwise.nil⟩

theorem Arranged.apart_of_ne
    (arranged : Arranged beaconPeriod rvec)
    (member : resource ∈ rvec)
    (otherMember : other ∈ rvec)
    (different : other ≠ resource) :
    Apart resource other :=
  arranged.apart.forall member otherMember different.symm

variable
  {allocationPt after : AllocationPt}
  {direction : Direction}

/-- Adding a resource keeps the resources apart. -/
theorem Invariant.addResource
    {offset length : UInt32}
    (invariant : allocationPt.Invariant)
    (returned : allocationPt.addResource direction offset length = .ok after) :
    after.Invariant := by
  obtain ⟨wellDefined, within, isAfter⟩ := addResource_eq_ok returned
  have orthogonal : ∀ rvec, allocationPt.resourceVec direction = .ok rvec →
      rvec.all (·.isOrthogonal ⟨offset, length⟩) = true := by
    intro rvec isVec
    unfold AllocationPt.addResource Resource.create at returned
    obtain ⟨_, isResource, returned⟩ := bind_eq_ok.mp returned
    obtain ⟨_, -, isResource⟩ := bind_eq_ok.mp isResource
    cases isResource
    obtain ⟨_, -, returned⟩ := bind_eq_ok.mp returned
    obtain ⟨isApart, tested, returned⟩ := bind_eq_ok.mp returned
    obtain ⟨_, asserted, -⟩ := bind_eq_ok.mp returned
    unfold isOrthogonal at tested
    rw [isVec, ok_bind] at tested
    cases tested
    exact dectnrpAssert_eq_ok.mp asserted
  rcases isAfter with ⟨rfl, rfl⟩ | ⟨rfl, rfl⟩
  · exact ⟨invariant.ul.append wellDefined within (orthogonal _ rfl),
        invariant.dl, invariant.beacon⟩
  · exact ⟨invariant.ul,
        invariant.dl.append wellDefined within (orthogonal _ rfl),
        invariant.beacon⟩

/-- A series of resources keeps the resources apart. -/
theorem Invariant.addResourceRegular
    {sampRate : UInt32}
    {offset length stride : UInt32}
    {nResources : Nat}
    {baseDurationEc : DurationEc}
    (invariant : allocationPt.Invariant)
    (returned :
      AllocationPt.addResourceRegular sampRate allocationPt direction
          offset length stride nResources baseDurationEc =
        .ok after) :
    after.Invariant := by
  induction nResources generalizing after with
  | zero =>
      cases returned
      exact invariant
  | succ nResources hypothesis =>
      unfold AllocationPt.addResourceRegular at returned
      rw [List.range_succ, List.foldlM_append] at returned
      obtain ⟨between, isBetween, returned⟩ := bind_eq_ok.mp returned
      rw [List.foldlM_cons] at returned
      obtain ⟨last, isLast, returned⟩ := bind_eq_ok.mp returned
      cases returned
      obtain ⟨_, -, isLast⟩ := bind_eq_ok.mp isLast
      obtain ⟨_, -, isLast⟩ := bind_eq_ok.mp isLast
      exact (hypothesis isBetween).addResource isLast

variable {allocationPt : AllocationPt}

/-- In an allocation that was reached the resources lie apart. -/
theorem Reached.invariant (reached : allocationPt.Reached) :
    allocationPt.Invariant := by
  obtain ⟨beaconPeriod, afterBeacon, afterNow, turnaroundTime, calls⟩ :=
    reached
  induction calls with
  | refl =>
      refine ⟨Arranged.nil _, Arranged.nil _, ?_⟩
      change IsInt64 undefinedEarly64
      unfold IsInt64
      decide
  | tail _ call hypothesis =>
      cases call with
      | addResource returned => exact hypothesis.addResource returned
      | addResourceRegular returned =>
          exact hypothesis.addResourceRegular returned
      | setBeaconTimeLastKnown isInt64 =>
          exact ⟨hypothesis.ul, hypothesis.dl, isInt64⟩

theorem Invariant.resources
    (invariant : allocationPt.Invariant)
    (direction : Direction) :
    Arranged allocationPt.beaconPeriod (allocationPt.resources direction) := by
  cases direction with
  | ul => exact invariant.ul
  | dl => exact invariant.dl
  | both => exact invariant.dl

/-- What the search returns about the first time that is not too early. -/
def foundAt
    (txLatestLocal64 : Int)
    (resource : Resource)
    (D : Int) :
    Option TxOpportunity :=
  if D < txLatestLocal64 then
    some ⟨D, resource.length.toNat⟩
  else
    none

theorem int64_eq_error
    {value : Int}
    (beyond : int64Max < value) :
    int64 value = .error (.assertion "signed overflow") := by
  unfold int64Max at beyond
  unfold int64
  rw [if_neg]
  omega

section Search

variable {beaconPeriod : UInt32}
variable {rvec : List Resource}
variable {txEarliestLocal64 txLatestLocal64 A : Int}

/-- Resources that are too early are skipped. -/
theorem search_skip
    (ordered : txEarliestLocal64 ≤ txLatestLocal64)
    (lower : -2 ^ 63 ≤ A)
    (upper : txEarliestLocal64 ≤ int64Max)
    (fuel : Nat)
    {skipped rest : List Resource}
    (early :
      ∀ resource ∈ skipped, A + resource.offset.toNat < txEarliestLocal64) :
    search beaconPeriod rvec txEarliestLocal64 txLatestLocal64
        (fuel + skipped.length) A (skipped ++ rest) =
      search beaconPeriod rvec txEarliestLocal64 txLatestLocal64 fuel A
        rest := by
  induction skipped with
  | nil => rfl
  | cons resource skipped hypothesis =>
      have isEarly := early resource List.mem_cons_self
      have others := hypothesis fun other member =>
        early other (List.mem_cons_of_mem resource member)
      rw [List.length_cons, List.cons_append, ← Nat.add_assoc, search,
        int64_eq_ok (by omega) (by omega), ok_bind,
        if_neg (by omega), if_neg (by omega)]
      exact others

/-- The search ends with a resource that is not too early. -/
theorem search_stop
    (fuel : Nat)
    {resource : Resource}
    {rest : List Resource}
    (notEarly : txEarliestLocal64 ≤ A + resource.offset.toNat) :
    search beaconPeriod rvec txEarliestLocal64 txLatestLocal64 (fuel + 1)
        A (resource :: rest) =
      (int64 (A + resource.offset.toNat)).map
        (foundAt txLatestLocal64 resource) := by
  rw [search]
  unfold int64
  split
  · rw [ok_bind, Except.map, foundAt]
    by_cases inTime : A + resource.offset.toNat < txLatestLocal64
    · rw [if_pos ⟨notEarly, inTime⟩, if_pos inTime]
      rfl
    · rw [if_neg fun both => inTime both.2, if_pos (not_lt.mp inTime),
        if_neg inTime]
      rfl
  · rfl

theorem search_first
    (ordered : txEarliestLocal64 ≤ txLatestLocal64)
    (lower : -2 ^ 63 ≤ A)
    (upper : txEarliestLocal64 ≤ int64Max)
    (inPeriod : txEarliestLocal64 < A + beaconPeriod.toNat)
    {fuel : Nat}
    (enough : 2 * (rvec.length + 1) ≤ fuel)
    {first : Resource}
    (isFirst :
      (rvec.find? fun resource =>
          decide (txEarliestLocal64 ≤ A + resource.offset.toNat)).or
        rvec.head? = some first) :
    search beaconPeriod rvec txEarliestLocal64 txLatestLocal64 fuel A
        rvec =
      (int64
          (if txEarliestLocal64 ≤ A + first.offset.toNat then
            A + first.offset.toNat
          else A + beaconPeriod.toNat + first.offset.toNat)).map
        (foundAt txLatestLocal64 first) := by
  cases found : rvec.find? fun resource =>
      decide (txEarliestLocal64 ≤ A + resource.offset.toNat) with
  | some resource =>
      rw [found, Option.some_or, Option.some.injEq] at isFirst
      subst isFirst
      obtain ⟨notEarly, skipped, rest, isVec, early⟩ :=
        List.find?_eq_some_iff_append.mp found
      have notEarly := of_decide_eq_true notEarly
      have few := congrArg List.length isVec
      rw [List.length_append, List.length_cons] at few
      have isFuel : fuel = fuel - skipped.length - 1 + 1 + skipped.length := by
        omega
      have isEarly :
          ∀ other ∈ skipped, A + other.offset.toNat < txEarliestLocal64 := by
        intro other member
        simpa using early other member
      have skippedAll :=
        @search_skip beaconPeriod rvec txEarliestLocal64 txLatestLocal64
          A ordered lower upper (fuel - skipped.length - 1 + 1) skipped
          (resource :: rest) isEarly
      rw [← isVec, ← isFuel] at skippedAll
      rw [if_pos notEarly, skippedAll]
      exact search_stop _ notEarly
  | none =>
      rw [found, Option.none_or] at isFirst
      obtain ⟨rest, isVec⟩ := List.head?_eq_some_iff.mp isFirst
      have early : ∀ resource ∈ rvec,
          A + resource.offset.toNat < txEarliestLocal64 := by
        intro resource member
        have notFound := List.find?_eq_none.mp found resource member
        simpa using notFound
      have firstEarly := early first (isVec ▸ List.mem_cons_self)
      have isFuel : fuel = fuel - rvec.length - 2 + 1 + 1 + rvec.length := by
        omega
      have skipped :=
        @search_skip beaconPeriod rvec txEarliestLocal64 txLatestLocal64
          A ordered lower upper (fuel - rvec.length - 2 + 1 + 1) rvec []
          early
      rw [List.append_nil, ← isFuel] at skipped
      rw [if_neg (not_le.mpr firstEarly), skipped, search]
      by_cases inRange : A + beaconPeriod.toNat ≤ int64Max
      · rw [int64_eq_ok (by omega) inRange, ok_bind, isVec]
        exact search_stop _ (by omega)
      · rw [int64_eq_error (by omega), int64_eq_error (by omega)]
        rfl

theorem searchBegin_eq
    {allocationPt : AllocationPt}
    (positive : 0 < allocationPt.beaconPeriod.toNat)
    (isBeacon : IsInt64 allocationPt.beaconTimeLastKnown64)
    (isEarliest : IsInt64 txEarliestLocal64) :
    allocationPt.searchBegin txEarliestLocal64 =
      if allocationPt.beaconTimeLastKnown64 < txEarliestLocal64 then
        (int64 (txEarliestLocal64 -
            allocationPt.beaconTimeLastKnown64)).map fun _ =>
          periodStart allocationPt.beaconTimeLastKnown64
            allocationPt.beaconPeriod.toNat txEarliestLocal64
      else
        .ok
          (periodStart allocationPt.beaconTimeLastKnown64
            allocationPt.beaconPeriod.toNat txEarliestLocal64) := by
  have isPeriod : (0 : Int) < allocationPt.beaconPeriod.toNat := by omega
  obtain ⟨k, isStart, inside, -⟩ :=
    PeriodicOccurrence.periodStart_spec
      allocationPt.beaconTimeLastKnown64 isPeriod txEarliestLocal64
  have notNegative : (0 : Int) ≤ k * allocationPt.beaconPeriod.toNat :=
    Int.mul_nonneg (Int.natCast_nonneg _) (Int.natCast_nonneg _)
  obtain ⟨beaconLower, -⟩ := isBeacon
  obtain ⟨-, earliestUpper⟩ := isEarliest
  unfold searchBegin
  by_cases later : allocationPt.beaconTimeLastKnown64 < txEarliestLocal64
  · rw [if_pos later, if_pos later]
    obtain ⟨notLater, -⟩ := inside later
    unfold int64
    split
    · have isMultiple : (1 : UInt32) ≤ allocationPt.beaconPeriod :=
        UInt32.le_iff_toNat_le.mpr positive
      rw [ok_bind, decide_eq_true isMultiple, dectnrpAssert_true, ok_bind,
        Int.tdiv_eq_ediv_of_nonneg (by omega)]
      have isA : allocationPt.beaconTimeLastKnown64 +
          (txEarliestLocal64 - allocationPt.beaconTimeLastKnown64) /
            allocationPt.beaconPeriod.toNat *
            allocationPt.beaconPeriod.toNat =
            periodStart allocationPt.beaconTimeLastKnown64
              allocationPt.beaconPeriod.toNat txEarliestLocal64 :=
        (if_pos later).symm
      dsimp only
      rw [isA, isStart]
      unfold int64Max at earliestUpper
      rw [if_pos (by omega), ok_bind, decide_eq_true notLater]
      rfl
    · rfl
  · rw [if_neg later, if_neg later]
    exact congrArg Except.ok (if_neg later).symm

theorem int64_eq_ok_iff_isInt64
    {value result : Int} :
    int64 value = .ok result ↔ IsInt64 value ∧ result = value := by
  rw [int64_eq_ok_iff]
  unfold IsInt64 int64Max
  omega

theorem search_returned
    {searched : Checked (Option TxOpportunity)}
    {first : Resource}
    {time : Int}
    (isSearched : searched = (int64 time).map (foundAt txLatestLocal64 first))
    (notEarly : txEarliestLocal64 ≤ time)
    {txOpportunity : TxOpportunity} :
    (do
      match ← searched with
      | none => pure .none
      | some txOpportunity => do
          dectnrpAssert (txEarliestLocal64 ≤ txOpportunity.txTime64)
            "tx time too early"
          dectnrpAssert (txOpportunity.txTime64 < txLatestLocal64)
            "tx time too late"
          pure txOpportunity) = (.ok txOpportunity : Checked _) ↔
      IsInt64 time ∧
        txOpportunity = (foundAt txLatestLocal64 first time).getD .none := by
  rw [isSearched]
  by_cases inRange : IsInt64 time
  · have isTime := int64_eq_ok_iff_isInt64.mpr ⟨inRange, rfl⟩
    rw [isTime, Except.map, ok_bind, foundAt]
    by_cases inTime : time < txLatestLocal64
    · rw [if_pos inTime]
      dsimp only
      rw [decide_eq_true notEarly, decide_eq_true inTime,
        dectnrpAssert_true, dectnrpAssert_true, ok_bind,
        ok_bind, Checked.pure_eq_ok, Except.ok.injEq]
      exact ⟨fun same => ⟨inRange, same.symm⟩, fun same => same.2.symm⟩
    · rw [if_neg inTime]
      dsimp only
      rw [Checked.pure_eq_ok, Except.ok.injEq]
      exact ⟨fun same => ⟨inRange, same.symm⟩, fun same => same.2.symm⟩
  · cases isTime : int64 time with
    | ok result => exact absurd (int64_eq_ok_iff_isInt64.mp isTime).1 inRange
    | error fault =>
        constructor
        · intro same
          cases same
        · intro same
          exact absurd same.1 inRange

variable {allocationPt : AllocationPt}

theorem getTxOpportunityGeneric_eq_ok_iff
    (positive : 0 < allocationPt.beaconPeriod.toNat)
    (inPeriod : InPeriod allocationPt.beaconPeriod rvec)
    (isBeacon : IsInt64 allocationPt.beaconTimeLastKnown64)
    (isEarliest : IsInt64 txEarliestLocal64)
    (ordered : txEarliestLocal64 ≤ txLatestLocal64)
    {first : Resource}
    (isFirst :
      (rvec.find? fun resource =>
          decide (txEarliestLocal64 ≤
            periodStart allocationPt.beaconTimeLastKnown64
                allocationPt.beaconPeriod.toNat txEarliestLocal64 +
              resource.offset.toNat)).or
        rvec.head? = some first)
    {txOpportunity : TxOpportunity} :
    allocationPt.getTxOpportunityGeneric txEarliestLocal64
        txLatestLocal64 rvec =
        .ok txOpportunity ↔
      (allocationPt.beaconTimeLastKnown64 < txEarliestLocal64 →
        IsInt64 (txEarliestLocal64 - allocationPt.beaconTimeLastKnown64)) ∧
      IsInt64
        (nextAt allocationPt.beaconTimeLastKnown64
          allocationPt.beaconPeriod.toNat txEarliestLocal64
          first.offset.toNat) ∧
      txOpportunity =
        (foundAt txLatestLocal64 first
          (nextAt allocationPt.beaconTimeLastKnown64
            allocationPt.beaconPeriod.toNat txEarliestLocal64
            first.offset.toNat)).getD .none := by
  have isPeriod : (0 : Int) < allocationPt.beaconPeriod.toNat := by omega
  have notEmpty : rvec.isEmpty = false := by
    cases rvec with
    | nil => cases isFirst
    | cons resource rest => rfl
  have notEarly : txEarliestLocal64 ≤ nextAt allocationPt.beaconTimeLastKnown64
      allocationPt.beaconPeriod.toNat txEarliestLocal64
      first.offset.toNat :=
    PeriodicOccurrence.le_nextAt isPeriod (Int.natCast_nonneg _)
  obtain ⟨k, isStart, inside, isZero⟩ :=
    PeriodicOccurrence.periodStart_spec
      allocationPt.beaconTimeLastKnown64 isPeriod txEarliestLocal64
  have notNegative : (0 : Int) ≤ k * allocationPt.beaconPeriod.toNat :=
    Int.mul_nonneg (Int.natCast_nonneg _) (Int.natCast_nonneg _)
  have isSearched :=
    @search_first allocationPt.beaconPeriod rvec txEarliestLocal64
      txLatestLocal64
      (periodStart allocationPt.beaconTimeLastKnown64
        allocationPt.beaconPeriod.toNat txEarliestLocal64)
      ordered
      (by
        have beaconLower := isBeacon.1
        omega)
      isEarliest.2
      (by
        by_cases later : allocationPt.beaconTimeLastKnown64 < txEarliestLocal64
        · have below := (inside later).2
          omega
        · omega)
      (((txLatestLocal64 - periodStart allocationPt.beaconTimeLastKnown64
          allocationPt.beaconPeriod.toNat
          txEarliestLocal64).toNat + 2) * (rvec.length + 1))
      (Nat.mul_le_mul_right _ (Nat.le_add_left 2 _)) first isFirst
  have returned :=
    @search_returned txEarliestLocal64 txLatestLocal64 _ first _
      isSearched notEarly txOpportunity
  unfold getTxOpportunityGeneric
  rw [notEmpty, if_neg Bool.false_ne_true, if_neg (not_lt.mpr ordered),
    searchBegin_eq positive isBeacon isEarliest]
  by_cases later : allocationPt.beaconTimeLastKnown64 < txEarliestLocal64
  · rw [if_pos later]
    by_cases inRange :
        IsInt64 (txEarliestLocal64 - allocationPt.beaconTimeLastKnown64)
    · rw [int64_eq_ok_iff_isInt64.mpr ⟨inRange, rfl⟩, Except.map, ok_bind]
      refine returned.trans ?_
      exact ⟨fun found => ⟨fun _ => inRange, found⟩, fun found => found.2⟩
    · cases isDifference :
          int64 (txEarliestLocal64 - allocationPt.beaconTimeLastKnown64) with
      | ok result =>
          exact absurd (int64_eq_ok_iff_isInt64.mp isDifference).1 inRange
      | error fault =>
          constructor
          · intro same
            cases same
          · intro same
            exact absurd (same.1 later) inRange
  · rw [if_neg later, ok_bind]
    refine returned.trans ?_
    exact ⟨fun found => ⟨fun isLater => absurd isLater later, found⟩,
        fun found => found.2⟩

end Search

section Opportunities

variable {allocationPt : AllocationPt}
variable {direction : Direction}
variable {now64 txEarliest64 : Int}
variable {resource : Resource}

/-- What the search returns if no sum overflows. -/
def found
    (allocationPt : AllocationPt)
    (direction : Direction)
    (now64 txEarliest64 : Int) :
    TxOpportunity :=
  match allocationPt.firstFound direction now64 txEarliest64 with
  | none => .none
  | some first =>
      if allocationPt.earliest now64 txEarliest64 ≤
          allocationPt.latest now64 direction then
        (foundAt (allocationPt.latest now64 direction) first
          (allocationPt.nextTime now64 txEarliest64 first)).getD .none
      else
        .none

/-- Nothing is found first only if there is nothing. -/
theorem resources_of_firstFound_eq_none
    (noFirst : allocationPt.firstFound direction now64 txEarliest64 = none) :
    allocationPt.resources direction = [] := by
  unfold firstFound at noFirst
  exact List.head?_eq_none_iff.mp (Option.or_eq_none_iff.mp noFirst).2

theorem mem_of_firstFound
    {first : Resource}
    (isFirst :
      allocationPt.firstFound direction now64 txEarliest64 = some first) :
    first ∈ allocationPt.resources direction := by
  unfold firstFound at isFirst
  rcases Option.or_eq_some_iff.mp isFirst with isFound | ⟨-, isHead⟩
  · exact List.mem_of_find?_eq_some isFound
  · exact List.mem_of_head? isHead

/-- The search among the resources of a direction. -/
theorem searchResources_eq_ok_iff
    (invariant : allocationPt.Invariant)
    (positive : 0 < allocationPt.beaconPeriod.toNat)
    (isEarliest : IsInt64 (allocationPt.earliest now64 txEarliest64))
    {txOpportunity : TxOpportunity} :
    allocationPt.getTxOpportunityGeneric
        (allocationPt.earliest now64 txEarliest64)
        (allocationPt.latest now64 direction)
        (allocationPt.resources direction) =
        .ok txOpportunity ↔
      (∀ first,
        allocationPt.firstFound direction now64 txEarliest64 =
            some first →
          allocationPt.earliest now64 txEarliest64 ≤
              allocationPt.latest now64 direction →
            IsInt64 (allocationPt.nextTime now64 txEarliest64 first) ∧
              (allocationPt.beaconTimeLastKnown64 <
                  allocationPt.earliest now64 txEarliest64 →
                IsInt64
                  (allocationPt.earliest now64 txEarliest64 -
                    allocationPt.beaconTimeLastKnown64))) ∧
        txOpportunity = allocationPt.found direction now64 txEarliest64 := by
  unfold found
  cases isFirst : allocationPt.firstFound direction now64 txEarliest64 with
  | none =>
      unfold getTxOpportunityGeneric
      rw [resources_of_firstFound_eq_none isFirst]
      exact ⟨fun same => ⟨nofun, (Except.ok.inj same).symm⟩, fun same =>
          congrArg Except.ok same.2.symm⟩
  | some first =>
      dsimp only
      by_cases ordered : allocationPt.earliest now64 txEarliest64 ≤
          allocationPt.latest now64 direction
      · rw [getTxOpportunityGeneric_eq_ok_iff positive
          (invariant.resources direction).inPeriod invariant.beacon
          isEarliest ordered isFirst, if_pos ordered]
        constructor
        · rintro ⟨difference, inRange, isFound⟩
          refine ⟨?_, isFound⟩
          intro other isOther _
          cases isOther
          exact ⟨inRange, difference⟩
        · rintro ⟨searched, isFound⟩
          obtain ⟨inRange, difference⟩ := searched first rfl ordered
          exact ⟨difference, inRange, isFound⟩
      · have notEmpty :
            (allocationPt.resources direction).isEmpty = false := by
          have member := mem_of_firstFound isFirst
          cases isVec : allocationPt.resources direction with
          | nil =>
              rw [isVec] at member
              cases member
          | cons resource rest => rfl
        unfold getTxOpportunityGeneric
        rw [notEmpty, if_neg Bool.false_ne_true,
          if_pos (not_le.mp ordered), if_neg ordered]
        exact ⟨fun same =>
            ⟨fun _ _ isOrdered => absurd isOrdered ordered,
              (Except.ok.inj same).symm⟩,
            fun same => congrArg Except.ok same.2.symm⟩

/-- The search returns exactly if no sum overflows. -/
theorem getTxOpportunity_eq_ok_iff
    (invariant : allocationPt.Invariant)
    (positive : 0 < allocationPt.beaconPeriod.toNat)
    (oneDirection : direction ≠ .both)
    (isTxEarliest : IsInt64 txEarliest64)
    (inOrder : direction = .ul → allocationPt.beaconTimeLastKnown64 ≤ now64)
    {txOpportunity : TxOpportunity} :
    allocationPt.getTxOpportunity direction now64 txEarliest64 =
        .ok txOpportunity ↔
      allocationPt.Representable direction now64 txEarliest64 ∧
        txOpportunity = allocationPt.found direction now64 txEarliest64 := by
  have isEarliest
      (turnedAround : IsInt64 (now64 + allocationPt.turnaroundTime)) :
      IsInt64 (allocationPt.earliest now64 txEarliest64) :=
    ⟨le_max_of_le_left turnedAround.1, max_le turnedAround.2 isTxEarliest.2⟩
  unfold getTxOpportunity
  cases direction with
  | both => exact absurd rfl oneDirection
  | ul =>
      constructor
      · intro returned
        obtain ⟨_, turned, returned⟩ := bind_eq_ok.mp returned
        obtain ⟨turnedAround, rfl⟩ := int64_eq_ok_iff_isInt64.mp turned
        obtain ⟨_, -, returned⟩ := bind_eq_ok.mp returned
        obtain ⟨_, isBeacon, returned⟩ := bind_eq_ok.mp returned
        obtain ⟨afterBeacon, rfl⟩ := int64_eq_ok_iff_isInt64.mp isBeacon
        obtain ⟨_, isNow, returned⟩ := bind_eq_ok.mp returned
        obtain ⟨afterNow, rfl⟩ := int64_eq_ok_iff_isInt64.mp isNow
        obtain ⟨searched, isFound⟩ :=
          (@searchResources_eq_ok_iff allocationPt .ul now64 txEarliest64
            invariant positive (isEarliest turnedAround)
            txOpportunity).mp returned
        exact ⟨⟨turnedAround, fun _ => afterBeacon, fun _ => afterNow, nofun,
            searched⟩, isFound⟩
      · rintro ⟨representable, isFound⟩
        rw [int64_eq_ok_iff_isInt64.mpr ⟨representable.turnedAround, rfl⟩,
          ok_bind]
        dsimp only
        rw [decide_eq_true (inOrder rfl), dectnrpAssert_true, ok_bind,
          int64_eq_ok_iff_isInt64.mpr ⟨representable.afterBeacon rfl, rfl⟩,
          ok_bind,
          int64_eq_ok_iff_isInt64.mpr ⟨representable.afterNow rfl, rfl⟩,
          ok_bind]
        exact (@searchResources_eq_ok_iff allocationPt .ul now64 txEarliest64
            invariant positive (isEarliest representable.turnedAround)
            txOpportunity).mpr ⟨representable.searched, isFound⟩
  | dl =>
      constructor
      · intro returned
        obtain ⟨_, turned, returned⟩ := bind_eq_ok.mp returned
        obtain ⟨turnedAround, rfl⟩ := int64_eq_ok_iff_isInt64.mp turned
        obtain ⟨_, isPeriod, returned⟩ := bind_eq_ok.mp returned
        obtain ⟨period, rfl⟩ := int64_eq_ok_iff_isInt64.mp isPeriod
        obtain ⟨searched, isFound⟩ :=
          (@searchResources_eq_ok_iff allocationPt .dl now64 txEarliest64
            invariant positive (isEarliest turnedAround)
            txOpportunity).mp returned
        exact
          ⟨⟨turnedAround, nofun, nofun, fun _ => period, searched⟩, isFound⟩
      · rintro ⟨representable, isFound⟩
        rw [int64_eq_ok_iff_isInt64.mpr ⟨representable.turnedAround, rfl⟩,
          ok_bind]
        dsimp only
        rw [int64_eq_ok_iff_isInt64.mpr ⟨representable.period rfl, rfl⟩,
          ok_bind]
        exact (@searchResources_eq_ok_iff allocationPt .dl now64 txEarliest64
            invariant positive (isEarliest representable.turnedAround)
            txOpportunity).mpr ⟨representable.searched, isFound⟩

/-- The next time of a resource is an opportunity if it is in time. -/
theorem opportunity_nextTime
    (positive : 0 < allocationPt.beaconPeriod.toNat)
    (member : resource ∈ allocationPt.resources direction)
    (inTime :
      allocationPt.nextTime now64 txEarliest64 resource <
        allocationPt.latest now64 direction) :
    allocationPt.Opportunity direction now64 txEarliest64 resource
      (allocationPt.nextTime now64 txEarliest64 resource) := by
  have isPeriod : (0 : Int) < allocationPt.beaconPeriod.toNat := by omega
  exact ⟨member, PeriodicOccurrence.nextAt_occurs isPeriod,
      PeriodicOccurrence.le_nextAt isPeriod (Int.natCast_nonneg _),
      inTime⟩

/-- No opportunity of a resource lies in front of its next time. -/
theorem Opportunity.nextTime_le
    {time : Int}
    (invariant : allocationPt.Invariant)
    (positive : 0 < allocationPt.beaconPeriod.toNat)
    (opportunity :
      allocationPt.Opportunity direction now64 txEarliest64 resource time) :
    allocationPt.nextTime now64 txEarliest64 resource ≤ time := by
  have arranged := invariant.resources direction
  have inPeriod := arranged.inPeriod resource opportunity.member
  have isLong :=
    (getLastSampleIndex_toNat
      (arranged.wellDefined resource opportunity.member)).1
  exact PeriodicOccurrence.nextAt_le (by omega) (by omega)
      opportunity.occurs opportunity.notEarly

theorem isEarliest_of_least
    (invariant : allocationPt.Invariant)
    (positive : 0 < allocationPt.beaconPeriod.toNat)
    {time : Int}
    (opportunity :
      allocationPt.Opportunity direction now64 txEarliest64 resource time)
    (least :
      ∀ other otherTime,
        allocationPt.Opportunity direction now64 txEarliest64 other
            otherTime →
          time ≤ otherTime) :
    allocationPt.IsEarliest direction now64 txEarliest64 resource
      ⟨time, resource.length.toNat⟩ := by
  have isPeriod : (0 : Int) < allocationPt.beaconPeriod.toNat := by omega
  have arranged := invariant.resources direction
  have fits := arranged.inPeriod resource opportunity.member
  refine ⟨opportunity, rfl, least, ?_, ?_⟩
  · obtain ⟨k, starts, ends⟩ :=
      @PeriodicOccurrence.Occurs.within _ _ _ _ opportunity.occurs
        (resource.length.toNat : Int) (by omega)
    have startsBefore : allocationPt.beaconTimeLastKnown64 +
        k * allocationPt.beaconPeriod.toNat ≤ time := by
      omega
    exact ⟨k, startsBefore, ends⟩
  · intro other member different otherTime occurs
    have otherFits := arranged.inPeriod other member
    have apart := arranged.apart_of_ne opportunity.member member different
    unfold Apart at apart
    have result : time + resource.length.toNat ≤ otherTime ∨
        otherTime + other.length.toNat ≤ time :=
      opportunity.occurs.apart isPeriod occurs (Int.natCast_nonneg _)
        (Int.natCast_nonneg _) (by omega) (by omega) (by omega)
    exact result

theorem opportunity_ne_none
    (time : Int)
    (resource : Resource) :
    (⟨time, resource.length.toNat⟩ : TxOpportunity) ≠ .none := by
  intro same
  have isLength := congrArg TxOpportunity.nSamples64 same
  have notNegative := Int.natCast_nonneg resource.length.toNat
  dsimp only [TxOpportunity.none] at isLength
  omega

/-- An opportunity that is found is the next time of the first resource. -/
theorem found_ne_none
    (isFound : allocationPt.found direction now64 txEarliest64 ≠ .none) :
    ∃ first,
      allocationPt.firstFound direction now64 txEarliest64 = some first ∧
        allocationPt.nextTime now64 txEarliest64 first <
          allocationPt.latest now64 direction ∧
        allocationPt.found direction now64 txEarliest64 =
          ⟨allocationPt.nextTime now64 txEarliest64 first,
            first.length.toNat⟩ := by
  cases isFirst : allocationPt.firstFound direction now64 txEarliest64 with
  | none =>
      unfold found at isFound
      rw [isFirst] at isFound
      exact absurd rfl isFound
  | some first =>
      unfold found at isFound ⊢
      rw [isFirst] at isFound ⊢
      dsimp only at isFound ⊢
      split at isFound
      · rename_i ordered
        rw [if_pos ordered]
        unfold foundAt at isFound ⊢
        split at isFound
        · rename_i inTime
          rw [if_pos inTime]
          exact ⟨first, rfl, inTime, rfl⟩
        · exact absurd rfl isFound
      · exact absurd rfl isFound

theorem found_of_firstFound
    (positive : 0 < allocationPt.beaconPeriod.toNat)
    {first : Resource}
    (isFirst :
      allocationPt.firstFound direction now64 txEarliest64 = some first)
    (inTime :
      allocationPt.nextTime now64 txEarliest64 first <
        allocationPt.latest now64 direction) :
    allocationPt.found direction now64 txEarliest64 =
      ⟨allocationPt.nextTime now64 txEarliest64 first,
        first.length.toNat⟩ := by
  have notEarly :=
    (opportunity_nextTime positive (mem_of_firstFound isFirst) inTime).notEarly
  have ordered : allocationPt.earliest now64 txEarliest64 ≤
      allocationPt.latest now64 direction := by
    omega
  unfold found
  rw [isFirst]
  dsimp only
  rw [if_pos ordered, foundAt, if_pos inTime]
  rfl

theorem found_of_inOrder
    (invariant : allocationPt.Invariant)
    (positive : 0 < allocationPt.beaconPeriod.toNat)
    (inOrder : allocationPt.InOrder direction now64 txEarliest64) :
    (allocationPt.found direction now64 txEarliest64 ≠ .none ↔
        ∃ resource time,
          allocationPt.Opportunity direction now64 txEarliest64 resource
            time) ∧
      (allocationPt.found direction now64 txEarliest64 ≠ .none →
        ∃ resource,
          allocationPt.IsEarliest direction now64 txEarliest64 resource
            (allocationPt.found direction now64 txEarliest64)) := by
  refine ⟨⟨?_, ?_⟩, ?_⟩
  · intro isFound
    obtain ⟨first, isFirst, inTime, -⟩ := found_ne_none isFound
    exact ⟨first, _,
        opportunity_nextTime positive (mem_of_firstFound isFirst) inTime⟩
  · rintro ⟨resource, time, opportunity⟩
    have next := opportunity.nextTime_le invariant positive
    have notLate := opportunity.notLate
    rcases inOrder with noOpportunity | isNext
    · have late := noOpportunity resource opportunity.member
      omega
    · cases isFirst : allocationPt.firstFound direction now64 txEarliest64 with
      | none =>
          have member := opportunity.member
          rw [resources_of_firstFound_eq_none isFirst] at member
          cases member
      | some first =>
          have notBehind := isNext first isFirst resource opportunity.member
          rw [found_of_firstFound positive isFirst (by omega)]
          exact opportunity_ne_none _ _
  · intro isFound
    obtain ⟨first, isFirst, inTime, isFirstTime⟩ := found_ne_none isFound
    have member := mem_of_firstFound isFirst
    rw [isFirstTime]
    refine ⟨first, isEarliest_of_least invariant positive
      (opportunity_nextTime positive member inTime) ?_⟩
    intro other time opportunity
    have next := opportunity.nextTime_le invariant positive
    rcases inOrder with noOpportunity | isNext
    · have late := noOpportunity first member
      omega
    · have notBehind := isNext first isFirst other opportunity.member
      omega

theorem inOrder_of_found
    (positive : 0 < allocationPt.beaconPeriod.toNat)
    (complete :
      (∃ resource time,
        allocationPt.Opportunity direction now64 txEarliest64 resource time) →
        allocationPt.found direction now64 txEarliest64 ≠ .none)
    (isEarliest :
      allocationPt.found direction now64 txEarliest64 ≠ .none →
        ∃ resource,
          allocationPt.IsEarliest direction now64 txEarliest64 resource
            (allocationPt.found direction now64 txEarliest64)) :
    allocationPt.InOrder direction now64 txEarliest64 := by
  by_cases noOpportunity : ∀ resource ∈ allocationPt.resources direction,
      allocationPt.latest now64 direction ≤
        allocationPt.nextTime now64 txEarliest64 resource
  · exact .inl noOpportunity
  · right
    push Not at noOpportunity
    obtain ⟨resource, member, inTime⟩ := noOpportunity
    have isFound :=
      complete ⟨resource, _, opportunity_nextTime positive member inTime⟩
    obtain ⟨earliest, least⟩ := isEarliest isFound
    obtain ⟨first, isFirst, firstInTime, isFirstTime⟩ := found_ne_none isFound
    intro other isOther next nextMember
    rw [isFirst, Option.some.injEq] at isOther
    subst isOther
    by_cases nextInTime : allocationPt.nextTime now64 txEarliest64 next <
        allocationPt.latest now64 direction
    · have notBehind :=
        least.least next _
          (opportunity_nextTime positive nextMember nextInTime)
      rw [isFirstTime] at notBehind
      exact notBehind
    · omega

/--
The search returns the earliest opportunity exactly if no sum overflows and the
resource that is tested first is the next one, or there is no opportunity.
-/
theorem getTxOpportunity_findsEarliest_iff
    (reached : allocationPt.Reached)
    (positive : 0 < allocationPt.beaconPeriod.toNat)
    (oneDirection : direction ≠ .both)
    (isTxEarliest : IsInt64 txEarliest64)
    (inOrder :
      direction = .ul → allocationPt.beaconTimeLastKnown64 ≤ now64) :
    allocationPt.FindsEarliest direction now64 txEarliest64 ↔
      allocationPt.Representable direction now64 txEarliest64 ∧
        allocationPt.InOrder direction now64 txEarliest64 := by
  have invariant := reached.invariant
  constructor
  · rintro ⟨txOpportunity, returned, complete, isEarliest⟩
    obtain ⟨representable, rfl⟩ :=
      (getTxOpportunity_eq_ok_iff invariant positive oneDirection
        isTxEarliest inOrder).mp returned
    exact ⟨representable, inOrder_of_found positive complete.mpr isEarliest⟩
  · rintro ⟨representable, isInOrder⟩
    obtain ⟨complete, isEarliest⟩ :=
      found_of_inOrder invariant positive isInOrder
    exact ⟨_, (getTxOpportunity_eq_ok_iff invariant positive oneDirection
        isTxEarliest inOrder).mpr ⟨representable, rfl⟩,
        complete, isEarliest⟩

end Opportunities

/-- Resources for which the later one may have been added first. -/
def twoResources (first second : UInt32) : AllocationPt where
  beaconPeriod := 1000
  allocationValidityAfterBeacon := 1000
  allocationValidityAfterNow := 1000
  turnaroundTime := 0
  beaconTimeLastKnown64 := 0
  resourceUlVec := []
  resourceDlVec := [⟨first, 10⟩, ⟨second, 10⟩]

/-- Two resources are added after a beacon. -/
theorem twoResources_reached
    {first second : UInt32}
    {between : AllocationPt}
    (isFirst :
      ((create 1000 1000 1000 0).setBeaconTimeLastKnown 0).addResource
          .dl first 10 =
        .ok between)
    (isSecond :
      between.addResource .dl second 10 = .ok (twoResources first second)) :
    (twoResources first second).Reached :=
  ⟨1000, 1000, 1000, 0, ((Relation.ReflTransGen.single
      (.setBeaconTimeLastKnown (by decide))).tail
        (.addResource isFirst)).tail (.addResource isSecond)⟩

/-- Of resources in order of their offsets, the first one is found. -/
theorem getTxOpportunity_findsEarliest_iff_ascending :
    (twoResources 100 500).FindsEarliest .dl 0 0 ↔
      (twoResources 100 500).Representable .dl 0 0 ∧
        (twoResources 100 500).InOrder .dl 0 0 :=
  getTxOpportunity_findsEarliest_iff
    (twoResources_reached rfl rfl) (by decide) (by decide) (by decide)
    nofun

/-- A resource that was added later is passed over although it is earlier. -/
theorem not_getTxOpportunity_findsEarliest :
    ¬∀ (allocationPt : AllocationPt)
        (direction : Direction)
        (now64 txEarliest64 : Int),
        allocationPt.Reached →
        0 < allocationPt.beaconPeriod.toNat →
        direction ≠ .both →
        IsInt64 now64 →
        IsInt64 txEarliest64 →
        (direction = .ul → allocationPt.beaconTimeLastKnown64 ≤ now64) →
        allocationPt.FindsEarliest direction now64 txEarliest64 := by
  intro findsAll
  obtain ⟨txOpportunity, returned, complete, isEarliest⟩ :=
    findsAll (twoResources 500 100) .dl 0 0
      (twoResources_reached rfl rfl) (by decide) (by decide) (by decide)
      (by decide) nofun
  have isLater :
      (twoResources 500 100).getTxOpportunity .dl 0 0 =
        .ok ⟨500, 10⟩ := by
    decide +kernel
  rw [isLater] at returned
  cases returned
  obtain ⟨resource, least⟩ := isEarliest (by decide)
  have isFirst : (500 : Int) ≤ 100 :=
    least.least ⟨100, 10⟩ 100
      ⟨by decide +kernel, ⟨0, by decide +kernel⟩, by decide +kernel,
        by decide +kernel⟩
  omega

end AllocationPt

end DectNrp
