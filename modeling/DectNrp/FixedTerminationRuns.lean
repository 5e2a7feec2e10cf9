import DectNrp.FixedTerminationLog
import DectNrp.FixedTerminationSchedule

namespace DectNrp

/-!
# Runs of the fixed termination point

The termination point is constructed, enters its steady state and is then called
when a beacon is due and when there is data.  Every run keeps the schedule.
-/

open Checked (bind_eq_ok ok_bind)

namespace P2p

/-- What the durations of a beacon period have in common. -/
structure Timing
    (settings : Settings)
    (beaconPeriod : UInt32) :
    Prop where
  slots :
    settings.sampRate.toNat = 2400 * (settings.sampRate.toNat / 2400)
  positive : 0 < settings.sampRate.toNat / 2400
  isPeriod : beaconPeriod.toNat = settings.sampRate.toNat / 1000 * 10
  milliseconds : 0 < settings.sampRate.toNat / 1000
  divides :
    settings.sampRate.toNat = settings.sampRate.toNat / 1000 * 1000

variable
  {settings : Settings}
  {beaconPeriod : UInt32}

theorem Timing.twoSlots_eq (_timing : Timing settings beaconPeriod) :
    twoSlots settings.sampRate =
      (settings.sampRate.toNat / 2400 * 2 : Nat) := by
  unfold twoSlots getNSamplesFromDuration
  rw [UInt32.toNat_div]
  rfl

theorem downlink_multiple (firmwareId nPt i : UInt32) :
    (2 + 0 + firmwareId * (2 + 0 + (2 + 0)) + (2 + 0) +
        (2 + 0 + (2 + 0)) * nPt * i).toNat % 4 =
      0 := by
  simp only [UInt32.toNat_add, UInt32.toNat_mul]
  have multiple : 4 * nPt.toNat * i.toNat % 4 = 0 := by
    rw [Nat.mul_assoc]
    exact Nat.mul_mod_right 4 _
  have two : UInt32.toNat 2 = 2 := rfl
  have zero : UInt32.toNat 0 = 0 := rfl
  rw [two, zero]
  norm_num
  generalize 4 * nPt.toNat * i.toNat = product at multiple ⊢
  omega

variable {beaconPeriod firmwareId : UInt32}

/-- A regular downlink resource lies in the beacon period, behind the beacon. -/
theorem Timing.downlink
    {i : Nat}
    {resource : Resource}
    (timing : Timing settings beaconPeriod)
    (regular :
      AllocationPt.Regular settings.sampRate beaconPeriod
        (2 + 0 + firmwareId * (2 + 0 + (2 + 0)) + (2 + 0)) 2
        ((2 + 0 + (2 + 0)) * settings.nPt) .slot001 i resource) :
    twoSlots settings.sampRate ≤ resource.offset.toNat ∧
      2 ≤ resource.length.toNat ∧
      resource.offset.toNat + resource.length.toNat ≤ beaconPeriod.toNat := by
  obtain ⟨multiplePositive, -, -, isOffset, offsetSmall⟩ :=
    getDuration_eq_ok regular.offset
  obtain ⟨-, -, -, isLength, lengthSmall⟩ := getDuration_eq_ok regular.length
  have multiple := downlink_multiple firmwareId settings.nPt (UInt32.ofNat i)
  generalize (2 + 0 + firmwareId * (2 + 0 + (2 + 0)) + (2 + 0) +
      (2 + 0 + (2 + 0)) * settings.nPt * UInt32.ofNat i).toNat =
        mult at multiplePositive isOffset multiple
  have slots : DurationEc.slot001.sampRateDivisor.toNat = 2400 := rfl
  have two : UInt32.toNat 2 = 2 := rfl
  rw [slots] at isOffset isLength
  rw [two] at isLength
  have positive := timing.positive
  have behind :
      settings.sampRate.toNat / 2400 * 4 ≤ resource.offset.toNat := by
    rw [isOffset]
    exact Nat.mul_le_mul_left _ (by omega)
  have within := UInt32.lt_iff_toNat_lt.mp regular.within
  unfold Resource.getLastSampleIndex at within
  have isSum : (resource.offset + resource.length).toNat =
      resource.offset.toNat + resource.length.toNat := by
    rw [UInt32.toNat_add]
    exact Nat.mod_eq_of_lt (by omega)
  have one : (1 : UInt32) ≤ resource.offset + resource.length := by
    rw [UInt32.le_iff_toNat_le, isSum]
    have isOne : UInt32.toNat 1 = 1 := rfl
    omega
  rw [UInt32.toNat_sub_of_le _ _ one, isSum] at within
  have isOne : UInt32.toNat 1 = 1 := rfl
  rw [timing.twoSlots_eq]
  refine ⟨?_, ?_, ?_⟩
  · exact_mod_cast (Nat.mul_le_mul_left _ (by decide : 2 ≤ 4)).trans behind
  · omega
  · omega

/-- What is allocated to one of the portable terminations. -/
structure Allocated
    (settings : Settings)
    (beaconPeriod firmwareId : UInt32)
    (allocationPt : AllocationPt) :
    Prop where
  isPeriod : allocationPt.beaconPeriod = beaconPeriod
  turnaroundTime :
    allocationPt.turnaroundTime = settings.turnaroundTime.toNat
  regular :
    ∀ resource ∈ allocationPt.resourceDlVec, ∃ i,
      AllocationPt.Regular settings.sampRate beaconPeriod
        (2 + 0 + firmwareId * (2 + 0 + (2 + 0)) + (2 + 0)) 2
        ((2 + 0 + (2 + 0)) * settings.nPt) .slot001 i resource
  all :
    ∀ i < settings.nResources, ∃ resource,
      AllocationPt.Regular settings.sampRate beaconPeriod
        (2 + 0 + firmwareId * (2 + 0 + (2 + 0)) + (2 + 0)) 2
        ((2 + 0 + (2 + 0)) * settings.nPt) .slot001 i resource

theorem initAllocationPt_eq_ok
    {allocationPt : AllocationPt}
    (isPt : firmwareId.toNat < settings.nPt.toNat)
    (returned :
      initAllocationPt settings beaconPeriod firmwareId = .ok allocationPt) :
    Allocated settings beaconPeriod firmwareId allocationPt := by
  unfold initAllocationPt at returned
  obtain ⟨afterBeacon, -, returned⟩ := bind_eq_ok.mp returned
  obtain ⟨afterNow, -, returned⟩ := bind_eq_ok.mp returned
  have notEmpty : ¬ settings.nPt ≤ firmwareId := by
    rw [UInt32.le_iff_toNat_le]
    exact not_le.mpr isPt
  rw [if_neg notEmpty] at returned
  obtain ⟨between, isBetween, returned⟩ := bind_eq_ok.mp returned
  obtain ⟨uplink, extendsUl, -, -⟩ :=
    AllocationPt.addResourceRegular_eq_ok isBetween
  obtain ⟨downlink, extendsDl, explained, all⟩ :=
    AllocationPt.addResourceRegular_eq_ok returned
  have isPeriod : between.beaconPeriod = beaconPeriod := extendsUl.beaconPeriod
  have noDownlink : between.resourceDlVec = [] := by
    rw [extendsUl.resourceDlVec, if_neg (by decide)]
    rfl
  refine ⟨?_, ?_, ?_, ?_⟩
  · rw [extendsDl.beaconPeriod, isPeriod]
  · rw [extendsDl.turnaroundTime, extendsUl.turnaroundTime]
    rfl
  · intro resource member
    rw [extendsDl.resourceDlVec, noDownlink, if_pos rfl,
      List.nil_append] at member
    obtain ⟨i, -, regular⟩ := explained resource member
    rw [isPeriod] at regular
    exact ⟨i, regular⟩
  · intro i bound
    obtain ⟨resource, regular⟩ := all i bound
    rw [isPeriod] at regular
    exact ⟨resource, regular⟩

theorem initContacts_eq_ok
    {n : Nat}
    {contactsVec : List ContactP2p}
    (returned :
      (List.range n).foldlM
          (fun contactsVec firmwareIdPt => do
            let contact ←
              initContact settings beaconPeriod (UInt32.ofNat firmwareIdPt)
            pure (contactsVec ++ [contact]))
          [] =
        (.ok contactsVec : Checked (List ContactP2p))) :
    contactsVec.length = n ∧
      (∀ contact ∈ contactsVec, ∃ id < n,
        initContact settings beaconPeriod (UInt32.ofNat id) = .ok contact) ∧
      ∀ id < n, ∃ contact ∈ contactsVec,
        initContact settings beaconPeriod (UInt32.ofNat id) = .ok contact := by
  induction n generalizing contactsVec with
  | zero =>
      cases returned
      exact ⟨rfl, by simp, by simp⟩
  | succ n hypothesis =>
      rw [List.range_succ, List.foldlM_append] at returned
      obtain ⟨between, isBetween, returned⟩ := bind_eq_ok.mp returned
      rw [List.foldlM_cons] at returned
      obtain ⟨extended, isExtended, returned⟩ := bind_eq_ok.mp returned
      obtain ⟨contact, isContact, isExtended⟩ := bind_eq_ok.mp isExtended
      cases isExtended
      cases returned
      obtain ⟨isLength, explained, all⟩ := hypothesis isBetween
      refine ⟨?_, ?_, ?_⟩
      · rw [List.length_append, isLength]
        rfl
      · intro other member
        rcases List.mem_append.mp member with member | member
        · obtain ⟨id, bound, isOther⟩ := explained other member
          exact ⟨id, Nat.lt_succ_of_lt bound, isOther⟩
        · rw [List.mem_singleton.mp member]
          exact ⟨n, Nat.lt_succ_self n, isContact⟩
      · intro id bound
        by_cases isLast : id = n
        · rw [isLast]
          exact
            ⟨contact, List.mem_append_right _ List.mem_cons_self, isContact⟩
        · obtain ⟨other, member, isOther⟩ := all id (by omega)
          exact ⟨other, List.mem_append_left _ member, isOther⟩

/-- What the construction leaves behind. -/
structure Created
    (settings : Settings)
    (beaconPeriod : UInt32)
    (steadyFt : SteadyFt) :
    Prop where
  timing : Timing settings beaconPeriod
  isFirst : steadyFt.txOrderId = 0
  noBeacon : steadyFt.allocationFt.beaconTimeTransmitted64 = int64Max
  noCallback : steadyFt.callbacks = .new 4
  isPeriod : steadyFt.allocationFt.beaconPeriod = beaconPeriod
  prepared :
    steadyFt.allocationFt.beaconPrepareDuration.toNat ≤
      beaconPeriod.toNat
  isLength : steadyFt.contactsVec.length = settings.nPt.toNat
  contacts :
    ∀ contact ∈ steadyFt.contactsVec, ∃ id < settings.nPt.toNat,
      contact.shortRadioDeviceId = 1000 + (1 + UInt32.ofNat id) ∧
      Allocated settings beaconPeriod (UInt32.ofNat id)
        contact.allocationPt
  all :
    ∀ id < settings.nPt.toNat, ∃ allocationPt,
      Allocated settings beaconPeriod (UInt32.ofNat id) allocationPt

theorem initContact_eq_ok
    {id : Nat}
    {contact : ContactP2p}
    (isPt : id < settings.nPt.toNat)
    (returned :
      initContact settings beaconPeriod (UInt32.ofNat id) = .ok contact) :
    contact.shortRadioDeviceId = 1000 + (1 + UInt32.ofNat id) ∧
      Allocated settings beaconPeriod (UInt32.ofNat id)
        contact.allocationPt := by
  unfold initContact at returned
  obtain ⟨allocationPt, isAllocation, returned⟩ := bind_eq_ok.mp returned
  cases returned
  have isId : (UInt32.ofNat id).toNat = id :=
    UInt32.toNat_ofNat_of_lt' (lt_trans isPt (UInt32.toNat_lt _))
  exact ⟨rfl, initAllocationPt_eq_ok (by rw [isId]; exact isPt) isAllocation⟩

variable {steadyFt : SteadyFt}

theorem SteadyFt.create_eq_ok
    (returned : SteadyFt.create settings = .ok steadyFt) :
    ∃ beaconPeriod, Created settings beaconPeriod steadyFt := by
  unfold SteadyFt.create checkDurationLut at returned
  obtain ⟨_, isLut, returned⟩ := bind_eq_ok.mp returned
  obtain ⟨beaconPeriod, isPeriod, returned⟩ := bind_eq_ok.mp returned
  obtain ⟨beaconPrepareDuration, isPrepare, returned⟩ := bind_eq_ok.mp returned
  obtain ⟨allocationFt, isAllocationFt, returned⟩ := bind_eq_ok.mp returned
  obtain ⟨contactsVec, isContacts, returned⟩ := bind_eq_ok.mp returned
  cases returned
  unfold AllocationFt.create at isAllocationFt
  obtain ⟨_, -, isAllocationFt⟩ := bind_eq_ok.mp isAllocationFt
  cases isAllocationFt
  simp only [List.forM_eq_forM, List.forM_cons] at isLut
  obtain ⟨_, -, isLut⟩ := bind_eq_ok.mp isLut
  obtain ⟨_, -, isLut⟩ := bind_eq_ok.mp isLut
  obtain ⟨_, isSlot, -⟩ := bind_eq_ok.mp isLut
  obtain ⟨slot, isSlot, -⟩ := bind_eq_ok.mp isSlot
  obtain ⟨-, divides, positive, -, -⟩ := getDuration_eq_ok isSlot
  obtain ⟨-, exactly, milliseconds, periodEq, -⟩ := getDuration_eq_ok isPeriod
  obtain ⟨-, -, -, prepareEq, -⟩ := getDuration_eq_ok isPrepare
  have slots : DurationEc.slot001.sampRateDivisor.toNat = 2400 := rfl
  have thousand : DurationEc.ms001.sampRateDivisor.toNat = 1000 := rfl
  have ten : UInt32.toNat 10 = 10 := rfl
  have two : UInt32.toNat 2 = 2 := rfl
  rw [slots] at divides positive
  rw [thousand] at exactly milliseconds periodEq prepareEq
  rw [ten] at periodEq
  rw [two] at prepareEq
  obtain ⟨isLength, explained, all⟩ := initContacts_eq_ok isContacts
  refine ⟨beaconPeriod,
      { timing :=
          ⟨by omega, positive, periodEq, milliseconds, by omega⟩
        isFirst := rfl
        noBeacon := rfl
        noCallback := rfl
        isPeriod := rfl
        prepared := by dsimp only; omega
        isLength := isLength
        contacts := ?_
        all := ?_ }⟩
  · intro contact member
    obtain ⟨id, bound, isContact⟩ := explained contact member
    exact ⟨id, bound, initContact_eq_ok bound isContact⟩
  · intro id bound
    obtain ⟨contact, -, isContact⟩ := all id bound
    exact ⟨_, (initContact_eq_ok bound isContact).2⟩

theorem Created.nPt_le
    (created : Created settings beaconPeriod steadyFt)
    (isUsed : 0 < settings.nResources) :
    settings.nPt.toNat ≤ 5 := by
  by_contra many
  obtain ⟨allocationPt, allocated⟩ := created.all 5 (by omega)
  obtain ⟨resource, regular⟩ := allocated.all 0 isUsed
  obtain ⟨-, -, -, isOffset, -⟩ := getDuration_eq_ok regular.offset
  obtain ⟨-, isLong, inPeriod⟩ := created.timing.downlink regular
  have slots : DurationEc.slot001.sampRateDivisor.toNat = 2400 := rfl
  have mult : (2 + 0 + UInt32.ofNat 5 * (2 + 0 + (2 + 0)) + (2 + 0) +
      (2 + 0 + (2 + 0)) * settings.nPt * UInt32.ofNat 0).toNat = 24 := by
    rw [show UInt32.ofNat 0 = 0 from rfl, UInt32.mul_zero]
    rfl
  rw [mult, slots] at isOffset
  have isSlots := created.timing.slots
  have isPeriod := created.timing.isPeriod
  omega

variable {name : String}

theorem Created.beaconFits
    (created : Created settings beaconPeriod steadyFt)
    (isClass : Sp3.getRadioDeviceClass name = .ok settings.radioDeviceClass)
    (usable : 0 < settings.nResources ∨ settings.BeaconFits) :
    settings.BeaconFits := by
  rcases usable with isUsed | fits
  · have few := created.nPt_le isUsed
    obtain ⟨packetSizes, isSizes, isLarge, -⟩ := psdefBeacon_sizes isClass
    refine ⟨packetSizes, isSizes, ?_⟩
    unfold Settings.beaconSize
    by_cases small : settings.radioDeviceClass.uMin ≤ 4
    · rw [if_pos small]
      omega
    · rw [if_neg small]
      omega
  · exact fits

/-- All contacts are in the beacon period if the beacon announces them. -/
theorem Created.fitting
    (created : Created settings beaconPeriod steadyFt)
    (isClass : Sp3.getRadioDeviceClass name = .ok settings.radioDeviceClass)
    (fits : settings.BeaconFits) :
    ∀ contact ∈ steadyFt.contactsVec,
      Fitting settings beaconPeriod contact := by
  intro contact member
  obtain ⟨id, bound, isId, allocated⟩ := created.contacts contact member
  obtain ⟨packetSizes, isSizes, isSmall⟩ := fits
  obtain ⟨sameSizes, isSame, -, small⟩ := psdefBeacon_sizes isClass
  rw [isSizes] at isSame
  cases isSame
  have few : settings.nPt.toNat * 11 ≤ 60000 := by
    unfold Settings.beaconSize at isSmall
    by_cases fewer : settings.radioDeviceClass.uMin ≤ 4
    · rw [if_pos fewer] at isSmall
      omega
    · rw [if_neg fewer] at isSmall
      omega
  have idEq : (UInt32.ofNat id).toNat = id :=
    UInt32.toNat_ofNat_of_lt' (lt_trans bound (UInt32.toNat_lt _))
  have downlink : ∀ resource ∈ contact.allocationPt.resourceDlVec,
      twoSlots settings.sampRate ≤ resource.offset.toNat ∧
        2 ≤ resource.length.toNat ∧
        resource.offset.toNat + resource.length.toNat ≤
          beaconPeriod.toNat := by
    intro resource resourceMember
    obtain ⟨i, regular⟩ := allocated.regular resource resourceMember
    exact created.timing.downlink regular
  refine ⟨?_, allocated.isPeriod, allocated.turnaroundTime,
      fun resource resourceMember => (downlink resource resourceMember).1,
      fun resource resourceMember => (downlink resource resourceMember).2.1,
      ?_⟩
  · have thousand : UInt32.toNat 1000 = 1000 := rfl
    have one : UInt32.toNat 1 = 1 := rfl
    rw [isId, UInt32.toNat_add, UInt32.toNat_add, idEq, thousand, one]
    omega
  · intro resource resourceMember
    rw [allocated.isPeriod]
    exact (downlink resource resourceMember).2.2

/-- Facts that no call changes. -/
structure Constant
    (settings : Settings)
    (beaconPeriod : UInt32)
    (steadyFt : SteadyFt) :
    Prop where
  isPeriod : steadyFt.allocationFt.beaconPeriod = beaconPeriod
  prepared :
    steadyFt.allocationFt.beaconPrepareDuration.toNat ≤
      beaconPeriod.toNat
  isLength : steadyFt.contactsVec.length = settings.nPt.toNat
  fitting :
    ∀ contact ∈ steadyFt.contactsVec,
      Fitting settings beaconPeriod contact
  logged :
    Logged settings steadyFt.allocationFt.beaconTimeScheduled64
      steadyFt.callbacks

/-- Either no beacon was sent yet, or the schedule of a period is kept. -/
inductive Phase
    (settings : Settings)
    (beaconPeriod : UInt32)
    (descriptors : List TxDescriptor)
    (steadyFt : SteadyFt) :
    Prop where
  | noBeacon
      (isEmpty : descriptors = [])
      (isFirst : steadyFt.txOrderId = 0)
      (undefined :
        steadyFt.allocationFt.beaconTimeTransmitted64 = int64Max)
      (notNegative : 0 ≤ steadyFt.allocationFt.beaconTimeScheduled64)
  | beacon
      (notNegative : 0 ≤ steadyFt.allocationFt.beaconTimeTransmitted64)
      (isNext :
        steadyFt.allocationFt.beaconTimeScheduled64 =
          steadyFt.allocationFt.beaconTimeTransmitted64 +
            beaconPeriod.toNat)
      (room :
        steadyFt.allocationFt.beaconTimeTransmitted64 +
            2 * beaconPeriod.toNat ≤
          int64Max)
      (scheduled :
        Scheduled settings steadyFt.allocationFt.beaconTimeTransmitted64
          beaconPeriod descriptors steadyFt.transmissions)

variable {descriptors : List TxDescriptor}

/-- What is defined so far ends before the next beacon. -/
theorem Phase.due (phase : Phase settings beaconPeriod descriptors steadyFt) :
    Lined settings.sampRate descriptors ∧
      steadyFt.txOrderId = descriptors.length ∧
      steadyFt.txOrderId ≤ steadyFt.allocationFt.beaconTimeScheduled64 ∧
      ∀ descriptor ∈ descriptors,
        (descriptor.occupies settings.sampRate).finish ≤
          steadyFt.allocationFt.beaconTimeScheduled64 := by
  cases phase with
  | noBeacon isEmpty isFirst undefined notNegative =>
      rw [isEmpty, isFirst]
      refine ⟨⟨rfl, List.Pairwise.nil, ?_⟩, rfl, notNegative, ?_⟩
      · intro descriptor member
        exact absurd member List.not_mem_nil
      · intro descriptor member
        exact absurd member List.not_mem_nil
  | beacon notNegative isNext room scheduled =>
      have lined := scheduled.lined
      have isId := scheduled.txOrderId
      have inPeriod := scheduled.inPeriod
      dsimp only [SteadyFt.transmissions] at lined isId inPeriod
      rw [List.append_nil] at lined isId inPeriod
      rw [isNext]
      exact ⟨lined, isId, scheduled.remaining, inPeriod⟩

/-- The beacon that is due begins a new schedule. -/
theorem Phase.next
    (phase : Phase settings beaconPeriod descriptors steadyFt)
    (timing : Timing settings beaconPeriod) :
    Scheduled settings steadyFt.allocationFt.beaconTimeScheduled64
      beaconPeriod descriptors
      ⟨steadyFt.txOrderId + 1,
        steadyFt.allocationFt.beaconTimeScheduled64,
        [⟨.beacon, steadyFt.txOrderId,
          steadyFt.allocationFt.beaconTimeScheduled64⟩]⟩ := by
  obtain ⟨lined, isId, few, before⟩ := phase.due
  have slots := timing.twoSlots_eq
  have positive := timing.positive
  have isSlots := timing.slots
  have isPeriod := timing.isPeriod
  have milliseconds := timing.milliseconds
  have occupied : ((⟨.beacon, steadyFt.txOrderId,
      steadyFt.allocationFt.beaconTimeScheduled64⟩ :
        TxDescriptor).occupies settings.sampRate) =
        ⟨steadyFt.allocationFt.beaconTimeScheduled64,
          twoSlots settings.sampRate⟩ :=
    rfl
  constructor
  · refine lined.concat isId rfl ?_ before
    rw [occupied]
    dsimp only
    omega
  · rw [List.length_append]
    push_cast
    rw [← isId]
    rfl
  · dsimp only
    omega
  · dsimp only
    omega
  · exact le_refl _
  · intro descriptor member
    dsimp only at member ⊢
    rcases List.mem_append.mp member with member | member
    · exact (before descriptor member).trans (le_max_left _ _)
    · rw [List.mem_singleton.mp member, occupied]
      exact le_max_right _ _
  · intro descriptor member
    dsimp only at member
    rcases List.mem_append.mp member with member | member
    · exact (before descriptor member).trans (by omega)
    · rw [List.mem_singleton.mp member, occupied]
      dsimp only [Reservations.Reservation.finish]
      omega

/-- The packets of a call join the packets before. -/
theorem Scheduled.join
    {beaconTime64 : Int}
    {earlier : List TxDescriptor}
    {transmissions : Transmissions}
    (scheduled :
      Scheduled settings beaconTime64 beaconPeriod earlier transmissions) :
    Scheduled settings beaconTime64 beaconPeriod
      (earlier ++ transmissions.txDescriptorVec)
      ⟨transmissions.txOrderId, transmissions.txEarliest64, []⟩ := by
  obtain ⟨lined, isId, numbered, remaining, notEarlier, behind, inPeriod⟩ :=
    scheduled
  constructor
  · rw [List.append_nil]
    exact lined
  · rw [List.append_nil]
    exact isId
  · exact numbered
  · exact remaining
  · exact notEarlier
  · rw [List.append_nil]
    exact behind
  · rw [List.append_nil]
    exact inPeriod

theorem worksubTxBeacon_eq_ok
    (target : (⟨settings.powerTargetDBmCoded⟩ : PowerTargetIe).isValid = true)
    (fits : settings.BeaconFits)
    (constant : Constant settings beaconPeriod steadyFt)
    (idLower : 0 ≤ steadyFt.txOrderId)
    (idUpper :
      steadyFt.txOrderId ≤ steadyFt.allocationFt.beaconTimeScheduled64)
    (positive : 0 < beaconPeriod.toNat)
    (room :
      steadyFt.allocationFt.beaconTimeScheduled64 +
          2 * beaconPeriod.toNat ≤
        int64Max) :
    steadyFt.worksubTxBeacon settings true steadyFt.transmissions =
      .ok
        (some
          ({ steadyFt.allocationFt with
              beaconTimeTransmitted64 :=
                steadyFt.allocationFt.beaconTimeScheduled64
              beaconTimeScheduled64 :=
                steadyFt.allocationFt.beaconTimeScheduled64 +
                  beaconPeriod.toNat
              beaconCnt := steadyFt.allocationFt.beaconCnt + 1 },
            ⟨steadyFt.txOrderId + 1,
              steadyFt.allocationFt.beaconTimeScheduled64,
              [⟨.beacon, steadyFt.txOrderId,
                steadyFt.allocationFt.beaconTimeScheduled64⟩]⟩)) := by
  have isPeriod := constant.isPeriod
  subst isPeriod
  obtain ⟨packetSizes, isSizes, isSmall⟩ := fits
  obtain ⟨aCntW, isPdu⟩ :=
    @worksubTxBeaconMacPdu_eq_ok settings steadyFt.allocationFt
      steadyFt.contactsVec packetSizes.nTbByte target
      (fun contact member =>
        (constant.fitting contact member).shortRadioDeviceId)
      constant.isLength isSmall
  have isNext : steadyFt.allocationFt.setBeaconTimeNext = .ok
      { steadyFt.allocationFt with
        beaconTimeTransmitted64 := steadyFt.allocationFt.beaconTimeScheduled64
        beaconTimeScheduled64 :=
          steadyFt.allocationFt.beaconTimeScheduled64 +
            steadyFt.allocationFt.beaconPeriod.toNat
        beaconCnt := steadyFt.allocationFt.beaconCnt + 1 } := by
    unfold AllocationFt.setBeaconTimeNext
    rw [int64_eq_ok (by omega) (by omega), ok_bind]
    rfl
  unfold SteadyFt.worksubTxBeacon
  rw [isSizes, ok_bind]
  dsimp only
  rw [if_pos rfl, isPdu, ok_bind, define_eq_ok .beacon _ _ idLower
      (by dsimp only [SteadyFt.transmissions]; omega),
    ok_bind, isNext, ok_bind]
  rfl

/-- A call of the termination point. -/
inductive Call where
  | irregular
      (irregularReport : SteadyFt.IrregularReport)
      (processTx : Bool)
      (surroundings : Nat → Nat → Surroundings)
      (rxTimePassed64 : Int)
  | application (surroundings : Nat → Nat → Surroundings)

namespace Call

def run
    (settings : Settings)
    (steadyFt : SteadyFt) :
    Call → Checked (SteadyFt × List TxDescriptor)
  | irregular irregularReport processTx surroundings rxTimePassed64 => do
      let (steadyFt, txDescriptorVec, _) ←
        steadyFt.workIrregular settings irregularReport processTx
          surroundings rxTimePassed64
      pure (steadyFt, txDescriptorVec)
  | application surroundings =>
      steadyFt.workApplication settings surroundings

/--
The beacon is called for when it is due, before its time, and has a process.
Time does not go back until the callbacks are run.  Data may come at any time.
-/
def Admissible (steadyFt : SteadyFt) : Call → Prop
  | irregular irregularReport processTx _ rxTimePassed64 =>
      steadyFt.allocationFt.getBeaconTimeScheduledMinusPrepareDuration =
          .ok irregularReport.callAsapAfterThisTimeHasPassed64 ∧
        irregularReport.callAsapAfterThisTimeHasPassed64 <
          irregularReport.timeOfRecognition ∧
        irregularReport.timeOfRecognition <
          steadyFt.allocationFt.beaconTimeScheduled64 ∧
        irregularReport.timeOfRecognition ≤ rxTimePassed64 ∧
        processTx = true
  | application _ => True

/--
Times stay three seconds below the largest number, the callbacks are run at most
half a second behind the time of the beacon, and no data comes before the first
beacon.
-/
def InRange
    (settings : Settings)
    (steadyFt : SteadyFt) :
    Call → Prop
  | irregular _ _ surroundings rxTimePassed64 =>
      steadyFt.allocationFt.beaconTimeScheduled64 +
          getNSamplesFromDuration settings.sampRate .s001 3 ≤
          int64Max ∧
        rxTimePassed64 <
          steadyFt.allocationFt.beaconTimeScheduled64 +
            getNSamplesFromDuration settings.sampRate .ms001 500 ∧
        ∀ i j, InTime settings (surroundings i j)
  | application surroundings =>
      (settings.nPt = 0 ∨
          steadyFt.allocationFt.beaconTimeTransmitted64 ≠ int64Max) ∧
        ∀ i j, InTime settings (surroundings i j)

theorem run_irregular_eq_ok
    {settings : Settings}
    {steadyFt after : SteadyFt}
    {irregularReport : SteadyFt.IrregularReport}
    {processTx : Bool}
    {surroundings : Nat → Nat → Surroundings}
    {txDescriptorVec : List TxDescriptor}
    {callAsap64 rxTimePassed64 : Int}
    (returned :
      steadyFt.workIrregular settings irregularReport processTx
          surroundings rxTimePassed64 =
        .ok (after, txDescriptorVec, callAsap64)) :
    (Call.irregular irregularReport processTx surroundings
        rxTimePassed64).run settings steadyFt =
      .ok (after, txDescriptorVec) := by
  simp [run, returned]

theorem run_application
    (settings : Settings)
    (steadyFt : SteadyFt)
    (surroundings : Nat → Nat → Surroundings) :
    (Call.application surroundings).run settings steadyFt =
      steadyFt.workApplication settings surroundings :=
  rfl

end Call

variable {surroundings : Nat → Nat → Surroundings}

/-- A beacon that is due is sent, and data behind it. -/
theorem workIrregular_eq_ok
    {irregularReport : SteadyFt.IrregularReport}
    {processTx : Bool}
    {rxTimePassed64 : Int}
    (target : (⟨settings.powerTargetDBmCoded⟩ : PowerTargetIe).isValid = true)
    (fits : settings.BeaconFits)
    (timing : Timing settings beaconPeriod)
    (constant : Constant settings beaconPeriod steadyFt)
    (phase : Phase settings beaconPeriod descriptors steadyFt)
    (admissible :
      (Call.irregular irregularReport processTx surroundings
        rxTimePassed64).Admissible steadyFt)
    (inRange :
      (Call.irregular irregularReport processTx surroundings
        rxTimePassed64).InRange settings steadyFt) :
    ∃ after txDescriptorVec callAsap64,
      steadyFt.workIrregular settings irregularReport processTx
          surroundings rxTimePassed64 =
        .ok (after, txDescriptorVec, callAsap64) ∧
      Constant settings beaconPeriod after ∧
      Phase settings beaconPeriod (descriptors ++ txDescriptorVec) after := by
  obtain ⟨isCall, isDue, isEarly, isLater, isAvailable⟩ := admissible
  obtain ⟨roomOfLog, inTimeOfLog, inTime⟩ := inRange
  obtain ⟨-, isId, few, -⟩ := phase.due
  have idLower : 0 ≤ steadyFt.txOrderId := by
    rw [isId]
    exact Int.natCast_nonneg _
  have isPeriod := timing.isPeriod
  have milliseconds := timing.milliseconds
  have prepared := constant.prepared
  have bounded := settings.sampRate.toNat_lt
  have room : steadyFt.allocationFt.beaconTimeScheduled64 +
      2 * beaconPeriod.toNat ≤ int64Max := by
    have three : UInt32.toNat 3 = 3 := rfl
    have seconds := seconds_eq settings.sampRate 3
    rw [three] at seconds
    omega
  unfold AllocationFt.getBeaconTimeScheduledMinusPrepareDuration at isCall
  rw [int64_eq_ok (by omega) (by omega)] at isCall
  have isCall := Except.ok.inj isCall
  obtain ⟨log, isLog, logged⟩ :=
    @Logged.run settings _ rxTimePassed64 beaconPeriod _ constant.logged
      (by omega) (by omega) inTimeOfLog roomOfLog
  have isBeacon :=
    worksubTxBeacon_eq_ok target fits constant idLower few (by omega) room
  obtain ⟨contactsAfter, transmissions, isUnicast, isLength, fitting,
    scheduled⟩ :=
    @worksubTxUnicastConsecutive_eq_ok settings
      steadyFt.allocationFt.beaconTimeScheduled64 beaconPeriod
      descriptors _ steadyFt.contactsVec surroundings (by omega)
      (by omega) room inTime constant.fitting (phase.next timing)
      maxSimultaneousTxUnicast
  have isNextCall : ({ steadyFt.allocationFt with
      beaconTimeTransmitted64 := steadyFt.allocationFt.beaconTimeScheduled64
      beaconTimeScheduled64 :=
        steadyFt.allocationFt.beaconTimeScheduled64 + beaconPeriod.toNat
      beaconCnt := steadyFt.allocationFt.beaconCnt + 1 } :
        AllocationFt).getBeaconTimeScheduledMinusPrepareDuration =
        .ok (steadyFt.allocationFt.beaconTimeScheduled64 + beaconPeriod.toNat -
            steadyFt.allocationFt.beaconPrepareDuration.toNat) :=
    int64_eq_ok (by dsimp only; omega) (by dsimp only; omega)
  unfold SteadyFt.workIrregular
  rw [decide_eq_true (by omega), dectnrpAssert_true, ok_bind,
    int64_eq_ok (by omega) (by omega), ok_bind,
    decide_eq_true (by omega), dectnrpAssert_true, ok_bind,
    isAvailable, isBeacon, ok_bind]
  dsimp only
  rw [isUnicast, ok_bind]
  dsimp only
  rw [isNextCall, ok_bind, isLog, ok_bind]
  refine ⟨_, _, _, rfl,
      ⟨constant.isPeriod, prepared, isLength.trans constant.isLength, fitting,
        logged⟩,
      .beacon (by dsimp only; omega) rfl room scheduled.join⟩

theorem worksubTxUnicastConsecutive_nil
    (settings : Settings)
    (beaconTimeTransmitted64 : Int)
    (n : Nat)
    (surroundings : Nat → Nat → Surroundings)
    (transmissions : Transmissions) :
    worksubTxUnicastConsecutive settings beaconTimeTransmitted64 n
        surroundings [] transmissions =
      .ok ([], transmissions) := by
  induction n generalizing surroundings with
  | zero => rfl
  | succ n hypothesis =>
      unfold worksubTxUnicastConsecutive
      exact hypothesis fun i => surroundings (i + 1)

/-- Data is sent in the current beacon period. -/
theorem workApplication_eq_ok
    (timing : Timing settings beaconPeriod)
    (constant : Constant settings beaconPeriod steadyFt)
    (phase : Phase settings beaconPeriod descriptors steadyFt)
    (inRange : (Call.application surroundings).InRange settings steadyFt) :
    ∃ after txDescriptorVec,
      steadyFt.workApplication settings surroundings =
        .ok (after, txDescriptorVec) ∧
      Constant settings beaconPeriod after ∧
      Phase settings beaconPeriod (descriptors ++ txDescriptorVec) after := by
  obtain ⟨beaconSent, inTime⟩ := inRange
  unfold SteadyFt.workApplication
  cases phase with
  | noBeacon isEmpty isFirst undefined notNegative =>
      have noPt : settings.nPt = 0 :=
        beaconSent.resolve_right fun defined => defined undefined
      have noContacts : steadyFt.contactsVec = [] := by
        refine List.eq_nil_of_length_eq_zero ?_
        rw [constant.isLength, noPt]
        rfl
      rw [noContacts, worksubTxUnicastConsecutive_nil, ok_bind]
      refine ⟨_, _, rfl,
          ⟨constant.isPeriod, constant.prepared, ?_, ?_, constant.logged⟩,
          .noBeacon ?_ isFirst undefined notNegative⟩
      · rw [noPt]
        rfl
      · intro contact member
        exact absurd member List.not_mem_nil
      · rw [isEmpty]
        rfl
  | beacon notNegative isNext room scheduled =>
      have milliseconds := timing.milliseconds
      have isPeriod := timing.isPeriod
      obtain ⟨contactsAfter, transmissions, isUnicast, isLength, fitting,
        scheduledAfter⟩ :=
        @worksubTxUnicastConsecutive_eq_ok settings
          steadyFt.allocationFt.beaconTimeTransmitted64 beaconPeriod
          descriptors _ steadyFt.contactsVec surroundings (by omega)
          notNegative room inTime constant.fitting scheduled
          maxSimultaneousTxUnicast
      rw [isUnicast, ok_bind]
      exact ⟨_, _, rfl, ⟨constant.isPeriod, constant.prepared,
          isLength.trans constant.isLength, fitting, constant.logged⟩,
          .beacon notNegative isNext room scheduledAfter.join⟩

/-- States of the termination point and all packets it defined. -/
inductive Reached
    (settings : Settings)
    (Allowed : SteadyFt → Call → Prop) :
    SteadyFt → List TxDescriptor → Prop where
  | entry
      {created steadyFt : SteadyFt}
      {rxTimePassed64 ppsToFullSecondMeasuredSamples callAsap64 : Int}
      (isCreated : SteadyFt.create settings = .ok created)
      (entered :
        created.entry settings rxTimePassed64
            ppsToFullSecondMeasuredSamples =
          .ok (steadyFt, callAsap64))
      (started : 0 ≤ rxTimePassed64)
      (measured :
        0 ≤ ppsToFullSecondMeasuredSamples ∧
          ppsToFullSecondMeasuredSamples ≤ settings.sampRate.toNat) :
      Reached settings Allowed steadyFt []
  | call
      {steadyFt after : SteadyFt}
      {descriptors txDescriptorVec : List TxDescriptor}
      (reached : Reached settings Allowed steadyFt descriptors)
      (call : Call)
      (allowed : Allowed steadyFt call)
      (returned :
        call.run settings steadyFt = .ok (after, txDescriptorVec)) :
      Reached settings Allowed after (descriptors ++ txDescriptorVec)

theorem getNSamplesAtNextFullSecond_notNegative
    {sampRate : UInt32}
    {now64 A : Int}
    (started : 0 ≤ now64)
    (returned : getNSamplesAtNextFullSecond sampRate now64 = .ok A) :
    0 ≤ A := by
  have leqm : 0 ≤ now64.tdiv sampRate.toNat * sampRate.toNat :=
    Int.mul_nonneg (Int.tdiv_nonneg started (Int.natCast_nonneg _))
      (Int.natCast_nonneg _)
  unfold getNSamplesAtNextFullSecond at returned
  obtain ⟨_, -, returned⟩ := bind_eq_ok.mp returned
  dsimp only at returned
  split at returned
  · obtain ⟨-, rfl⟩ := int64_eq_ok_iff.mp returned
    omega
  · cases returned
    exact leqm

theorem SteadyFt.entry_eq_ok
    {steadyFt after : SteadyFt}
    {rxTimePassed64 ppsToFullSecondMeasuredSamples callAsap64 : Int}
    (started : 0 ≤ rxTimePassed64)
    (returned :
      steadyFt.entry settings rxTimePassed64
          ppsToFullSecondMeasuredSamples =
        .ok (after, callAsap64)) :
    ∃ A B added callbacks,
      0 ≤ A ∧
        B = A + settings.sampRate.toNat + ppsToFullSecondMeasuredSamples ∧
        steadyFt.callbacks.addCallback worksubCallbackLog
            (A + getNSamplesFromDuration settings.sampRate .ms001 500)
            (getNSamplesFromDuration settings.sampRate .s001 2) =
          .ok (added, callbacks) ∧
        after =
          { steadyFt with
            allocationFt :=
              { steadyFt.allocationFt with beaconTimeScheduled64 := B }
            callbacks := callbacks } := by
  unfold SteadyFt.entry at returned
  obtain ⟨A, isA, returned⟩ := bind_eq_ok.mp returned
  obtain ⟨second64, isSecond, returned⟩ := bind_eq_ok.mp returned
  obtain ⟨B, isB, returned⟩ := bind_eq_ok.mp returned
  obtain ⟨log64, isLog, returned⟩ := bind_eq_ok.mp returned
  obtain ⟨⟨added, callbacks⟩, isAdded, returned⟩ := bind_eq_ok.mp returned
  obtain ⟨_, -, returned⟩ := bind_eq_ok.mp returned
  cases returned
  obtain ⟨-, rfl⟩ := int64_eq_ok_iff.mp isSecond
  obtain ⟨-, rfl⟩ := int64_eq_ok_iff.mp isB
  obtain ⟨-, rfl⟩ := int64_eq_ok_iff.mp isLog
  refine ⟨A, _, added, callbacks, ?_, ?_, isAdded, rfl⟩
  · exact getNSamplesAtNextFullSecond_notNegative started isA
  · have one : UInt32.toNat 1 = 1 := rfl
    rw [seconds_eq, one, Nat.cast_one, Int.mul_one]

/-- The state of the schedule in every reached state. -/
theorem Reached.phase
    (isClass : Sp3.getRadioDeviceClass name = .ok settings.radioDeviceClass)
    (target : (⟨settings.powerTargetDBmCoded⟩ : PowerTargetIe).isValid = true)
    (usable : 0 < settings.nResources ∨ settings.BeaconFits)
    (reached :
      Reached settings
        (fun steadyFt call =>
          call.Admissible steadyFt ∧ call.InRange settings steadyFt)
        steadyFt descriptors) :
    settings.BeaconFits ∧
      ∃ beaconPeriod,
        Timing settings beaconPeriod ∧
        Constant settings beaconPeriod steadyFt ∧
        Phase settings beaconPeriod descriptors steadyFt := by
  induction reached with
  | entry isCreated entered started measured =>
      obtain ⟨beaconPeriod, created⟩ := SteadyFt.create_eq_ok isCreated
      obtain ⟨A, B, added, callbacks, notNegative, isB, isAdded, isEntered⟩ :=
        SteadyFt.entry_eq_ok started entered
      have fits := created.beaconFits isClass usable
      have timing := created.timing
      rw [created.noCallback] at isAdded
      have logged :=
        @logged_of_addCallback settings A B added callbacks notNegative
          timing.milliseconds timing.divides (by omega) isAdded
      refine ⟨fits, beaconPeriod, timing, ?_, ?_⟩
      · rw [isEntered]
        exact ⟨created.isPeriod, created.prepared, created.isLength,
            created.fitting isClass fits, logged⟩
      · rw [isEntered]
        exact .noBeacon rfl created.isFirst created.noBeacon
          (by dsimp only; omega)
  | call reached call allowed returned hypothesis =>
      obtain ⟨fits, beaconPeriod, timing, constant, phase⟩ := hypothesis
      obtain ⟨admissible, inRange⟩ := allowed
      refine ⟨fits, beaconPeriod, timing, ?_⟩
      cases call with
      | irregular irregularReport processTx surroundings rxTimePassed64 =>
          obtain ⟨after, txDescriptorVec, callAsap64, isAfter,
            constantAfter, phaseAfter⟩ :=
            workIrregular_eq_ok target fits timing constant phase
              admissible inRange
          rw [Call.run_irregular_eq_ok isAfter] at returned
          cases returned
          exact ⟨constantAfter, phaseAfter⟩
      | application surroundings =>
          obtain ⟨after, txDescriptorVec, isAfter, constantAfter,
            phaseAfter⟩ :=
            workApplication_eq_ok timing constant phase inRange
          rw [Call.run_application, isAfter] at returned
          cases returned
          exact ⟨constantAfter, phaseAfter⟩

/--
In every reached state the packets defined so far are in order, and every call
that is allowed completes without a fault.
-/
def KeepsSchedule
    (settings : Settings)
    (Allowed : SteadyFt → Call → Prop) :
    Prop :=
  ∀ steadyFt descriptors,
    Reached settings Allowed steadyFt descriptors →
      InOrder settings.sampRate descriptors ∧
        ∀ call, Allowed steadyFt call →
          ∃ after txDescriptorVec,
            call.run settings steadyFt = .ok (after, txDescriptorVec)

/--
The schedule is kept as long as data comes after the first beacon and times
stay in range.
-/
theorem keepsSchedule
    {settings : Settings}
    {name : String}
    (isClass :
      Sp3.getRadioDeviceClass name = .ok settings.radioDeviceClass)
    (target :
      (⟨settings.powerTargetDBmCoded⟩ : PowerTargetIe).isValid = true)
    (usable : 0 < settings.nResources ∨ settings.BeaconFits) :
    KeepsSchedule settings fun steadyFt call =>
      call.Admissible steadyFt ∧ call.InRange settings steadyFt := by
  intro steadyFt descriptors reached
  obtain ⟨fits, beaconPeriod, timing, constant, phase⟩ :=
    reached.phase isClass target usable
  refine ⟨phase.due.1.inOrder, ?_⟩
  intro call allowed
  obtain ⟨admissible, inRange⟩ := allowed
  cases call with
  | irregular irregularReport processTx surroundings rxTimePassed64 =>
      obtain ⟨after, txDescriptorVec, callAsap64, isAfter, -, -⟩ :=
        workIrregular_eq_ok target fits timing constant phase admissible
          inRange
      exact ⟨after, txDescriptorVec, Call.run_irregular_eq_ok isAfter⟩
  | application surroundings =>
      obtain ⟨after, txDescriptorVec, isAfter, -, -⟩ :=
        workApplication_eq_ok timing constant phase inRange
      exact ⟨after, txDescriptorVec, isAfter⟩

/-- One portable termination with four resources. -/
def onePt : Settings where
  sampRate := 1728000
  turnaroundTime := 1000
  nPt := 1
  nResources := 4
  radioDeviceClass := ⟨1, 1, 1, 7, 8, 2, 25344, 2048, 4⟩
  powerTargetDBmCoded := 50

theorem keepsSchedule_onePt :
    KeepsSchedule onePt fun steadyFt call =>
      call.Admissible steadyFt ∧ call.InRange onePt steadyFt :=
  @keepsSchedule onePt "1.1.1.A" (by decide) (by decide)
    (Or.inl (by decide))

/-- Data before the first beacon adds a period to the largest number. -/
theorem not_keepsSchedule_beforeBeacon :
    ¬ KeepsSchedule onePt fun steadyFt call =>
        call.Admissible steadyFt := by
  intro keeps
  have overflows :
      (match SteadyFt.create onePt with
      | .ok created =>
          match created.entry onePt 0 0 with
          | .ok (steadyFt, _) =>
              match
                steadyFt.workApplication onePt
                  (fun _ _ => ⟨0, ⟨[], by simp⟩, none, fun _ => false⟩)
              with
              | .ok _ => false
              | .error _ => true
          | .error _ => false
      | .error _ => false) = true := by
    decide +kernel
  split at overflows
  · rename_i created isCreated
    split at overflows
    · rename_i steadyFt callAsap64 entered
      obtain ⟨-, completes⟩ :=
        keeps steadyFt []
          (.entry isCreated entered (le_refl 0) (by decide))
      obtain ⟨after, txDescriptorVec, returned⟩ :=
        completes (.application _) trivial
      rw [Call.run_application] at returned
      rw [returned] at overflows
      cases overflows
    · cases overflows
  · cases overflows

end P2p

end DectNrp
