import DectNrp.FixedTerminationPackets
import DectNrp.Reservations

namespace DectNrp

/-!
# Schedule of the fixed termination point

Beacons and unicast packets share one earliest time, which a beacon sets to its
own start.  No packet is placed on a beacon nevertheless: downlink resources
start behind the two slots of the beacon, and they end with the beacon period.
-/

namespace P2p

open Reservations

/-- A unicast packet occupies its opportunity, a beacon two slots. -/
def TxDescriptor.occupies
    (sampRate : UInt32)
    (descriptor : TxDescriptor) :
    Reservation :=
  match descriptor.packet with
  | .beacon =>
      ⟨descriptor.txTime64,
        getNSamplesFromDuration sampRate .slot001 2⟩
  | .unicast txOpportunity =>
      ⟨txOpportunity.txTime64, txOpportunity.nSamples64⟩

/-- Identities are consecutive, times increase and packets do not overlap. -/
structure InOrder
    (sampRate : UInt32)
    (descriptors : List TxDescriptor) :
    Prop where
  consecutive :
    descriptors.map TxDescriptor.txOrderId =
      (List.range descriptors.length).map fun i : Nat => (i : Int)
  increasing :
    (descriptors.map TxDescriptor.txTime64).Pairwise (· < ·)
  disjoint :
    descriptors.Pairwise fun earlier later =>
      Disjoint (earlier.occupies sampRate).times
        (later.occupies sampRate).times

/-- Packets are reserved one after the other, at the times they are sent. -/
structure Lined
    (sampRate : UInt32)
    (descriptors : List TxDescriptor) :
    Prop where
  consecutive :
    descriptors.map TxDescriptor.txOrderId =
      (List.range descriptors.length).map fun i : Nat => (i : Int)
  ordered :
    Ordered (descriptors.map (TxDescriptor.occupies sampRate))
  placed :
    ∀ descriptor ∈ descriptors,
      (descriptor.occupies sampRate).start = descriptor.txTime64 ∧
        0 < (descriptor.occupies sampRate).length

variable {descriptors : List TxDescriptor}

theorem Lined.inOrder
    {sampRate : UInt32}
    (lined : Lined sampRate descriptors) :
    InOrder sampRate descriptors := by
  refine ⟨lined.consecutive, ?_, ?_⟩
  · have starts := lined.ordered.increasing (by
      intro reservation member
      obtain ⟨descriptor, descriptorMember, rfl⟩ := List.mem_map.mp member
      exact (lined.placed descriptor descriptorMember).2)
    rw [List.map_map] at starts
    have same : descriptors.map
        (Reservation.start ∘ TxDescriptor.occupies sampRate) =
          descriptors.map TxDescriptor.txTime64 :=
      List.map_congr_left fun descriptor member =>
        (lined.placed descriptor member).1
    rw [← same]
    exact starts
  · have apart := lined.ordered.disjoint
    rw [List.pairwise_map] at apart
    exact apart

/-- A packet that starts behind all others continues their line. -/
theorem Lined.concat
    {sampRate : UInt32}
    {last : TxDescriptor}
    (lined : Lined sampRate descriptors)
    (isId : last.txOrderId = descriptors.length)
    (isStart : (last.occupies sampRate).start = last.txTime64)
    (positive : 0 < (last.occupies sampRate).length)
    (behind :
      ∀ descriptor ∈ descriptors,
        (descriptor.occupies sampRate).finish ≤ last.txTime64) :
    Lined sampRate (descriptors ++ [last]) := by
  refine ⟨?_, ?_, ?_⟩
  · rw [List.map_append, lined.consecutive, List.length_append,
      List.length_singleton, List.range_succ, List.map_append]
    simp [isId]
  · rw [List.map_append]
    refine lined.ordered.concat ?_
    intro reservation member
    obtain ⟨descriptor, descriptorMember, rfl⟩ := List.mem_map.mp member
    rw [isStart]
    exact behind descriptor descriptorMember
  · intro descriptor member
    rcases List.mem_append.mp member with member | member
    · exact lined.placed descriptor member
    · rw [List.mem_singleton.mp member]
      exact ⟨isStart, positive⟩

/-- Length of the beacon. -/
def twoSlots (sampRate : UInt32) : Int :=
  getNSamplesFromDuration sampRate .slot001 2

/-- Downlink resources lie in the beacon period, behind the beacon. -/
structure Fitting
    (settings : Settings)
    (beaconPeriod : UInt32)
    (contact : ContactP2p) :
    Prop where
  shortRadioDeviceId : contact.shortRadioDeviceId.toNat ≤ 65535
  beaconPeriod : contact.allocationPt.beaconPeriod = beaconPeriod
  turnaroundTime :
    contact.allocationPt.turnaroundTime = settings.turnaroundTime.toNat
  behindBeacon :
    ∀ resource ∈ contact.allocationPt.resourceDlVec,
      twoSlots settings.sampRate ≤ resource.offset.toNat
  isLong :
    ∀ resource ∈ contact.allocationPt.resourceDlVec,
      2 ≤ resource.length.toNat
  inPeriod :
    AllocationPt.InPeriod contact.allocationPt.beaconPeriod
      contact.allocationPt.resourceDlVec

/--
The state within a beacon period.  The earliest time may lie on the beacon; what
is defined ends before that time or with the beacon.
-/
structure Scheduled
    (settings : Settings)
    (beaconTime64 : Int)
    (beaconPeriod : UInt32)
    (earlier : List TxDescriptor)
    (transmissions : Transmissions) :
    Prop where
  lined :
    Lined settings.sampRate (earlier ++ transmissions.txDescriptorVec)
  txOrderId :
    transmissions.txOrderId =
      (earlier ++ transmissions.txDescriptorVec).length
  numbered : transmissions.txOrderId ≤ transmissions.txEarliest64 + 1
  remaining : transmissions.txOrderId ≤ beaconTime64 + beaconPeriod.toNat
  notEarlier : beaconTime64 ≤ transmissions.txEarliest64
  behind :
    ∀ descriptor ∈ earlier ++ transmissions.txDescriptorVec,
      (descriptor.occupies settings.sampRate).finish ≤
        max transmissions.txEarliest64
          (beaconTime64 + twoSlots settings.sampRate)
  inPeriod :
    ∀ descriptor ∈ earlier ++ transmissions.txDescriptorVec,
      (descriptor.occupies settings.sampRate).finish ≤
        beaconTime64 + beaconPeriod.toNat

/-- Times that a call reads leave room for the turnaround. -/
def InTime
    (settings : Settings)
    (surroundings : Surroundings) :
    Prop :=
  -2 ^ 63 ≤ surroundings.rxTimePassed64 ∧
    surroundings.rxTimePassed64 + settings.turnaroundTime.toNat ≤ int64Max

variable
  {settings : Settings}
  {beaconPeriod : UInt32}

variable
  {earlier : List TxDescriptor}
  {transmissions : Transmissions}

/-- A unicast packet is placed behind all packets defined. -/
theorem Scheduled.unicast
    {beaconTime64 : Int}
    {resource : Resource}
    (scheduled :
      Scheduled settings beaconTime64 beaconPeriod earlier transmissions)
    (behindBeacon : twoSlots settings.sampRate ≤ resource.offset.toNat)
    (isLong : 2 ≤ resource.length.toNat)
    (inPeriod :
      resource.offset.toNat + resource.length.toNat ≤ beaconPeriod.toNat)
    (notEarlier :
      transmissions.txEarliest64 ≤ beaconTime64 + resource.offset.toNat) :
    Scheduled settings beaconTime64 beaconPeriod earlier
      ⟨transmissions.txOrderId + 1,
        beaconTime64 + resource.offset.toNat + resource.length.toNat,
        transmissions.txDescriptorVec ++
          [⟨.unicast
              ⟨beaconTime64 + resource.offset.toNat, resource.length.toNat⟩,
            transmissions.txOrderId,
            beaconTime64 + resource.offset.toNat⟩]⟩ := by
  have numbered := scheduled.numbered
  have start := scheduled.notEarlier
  have free : max transmissions.txEarliest64
      (beaconTime64 + twoSlots settings.sampRate) ≤
        beaconTime64 + resource.offset.toNat :=
    max_le notEarlier (by omega)
  constructor
  · dsimp only
    rw [← List.append_assoc]
    refine scheduled.lined.concat scheduled.txOrderId rfl ?_ ?_
    · dsimp only [TxDescriptor.occupies]
      omega
    · intro descriptor member
      exact (scheduled.behind descriptor member).trans free
  · have isId := scheduled.txOrderId
    simp only [List.length_append, List.length_singleton,
      Nat.cast_add, Nat.cast_one] at isId ⊢
    omega
  · dsimp only
    omega
  · dsimp only
    omega
  · dsimp only
    omega
  · intro descriptor member
    dsimp only at member ⊢
    rw [← List.append_assoc] at member
    rcases List.mem_append.mp member with member | member
    · have before := (scheduled.behind descriptor member).trans free
      exact before.trans (le_max_of_le_left (by omega))
    · rw [List.mem_singleton.mp member]
      exact le_max_left _ _
  · intro descriptor member
    dsimp only at member ⊢
    rw [← List.append_assoc] at member
    rcases List.mem_append.mp member with member | member
    · exact scheduled.inPeriod descriptor member
    · rw [List.mem_singleton.mp member]
      dsimp only [TxDescriptor.occupies, Reservation.finish]
      omega

/-- A contact with the time of the last beacon. -/
theorem Fitting.update
    {contact : ContactP2p}
    (fitting : Fitting settings beaconPeriod contact)
    (beaconTime64 : Int) :
    Fitting settings beaconPeriod
      (contact.setBeaconTimeLastKnown beaconTime64) :=
  ⟨fitting.shortRadioDeviceId, fitting.beaconPeriod,
    fitting.turnaroundTime, fitting.behindBeacon, fitting.isLong,
    fitting.inPeriod⟩

theorem goOverContacts_eq_ok
    {beaconTime64 : Int}
    {contacts : List ContactP2p}
    {surroundings : Nat → Surroundings}
    (positive : 0 < beaconPeriod.toNat)
    (lower : 0 ≤ beaconTime64)
    (upper : beaconTime64 + 2 * beaconPeriod.toNat ≤ int64Max)
    (inTime : ∀ j, InTime settings (surroundings j))
    (fitting : ∀ contact ∈ contacts, Fitting settings beaconPeriod contact)
    (scheduled :
      Scheduled settings beaconTime64 beaconPeriod earlier transmissions) :
    ∃ contactsAfter after continues,
      goOverContacts settings beaconTime64 surroundings contacts
          transmissions =
        .ok (contactsAfter, after, continues) ∧
      contactsAfter.length = contacts.length ∧
      (∀ contact ∈ contactsAfter, Fitting settings beaconPeriod contact) ∧
      Scheduled settings beaconTime64 beaconPeriod earlier after := by
  induction contacts generalizing surroundings transmissions with
  | nil => exact ⟨[], transmissions, true, rfl, rfl, fitting, scheduled⟩
  | cons contact contacts hypothesis =>
      have fits := (fitting contact List.mem_cons_self).update beaconTime64
      have others : ∀ other ∈ contacts, Fitting settings beaconPeriod other :=
        fun other member => fitting other (List.mem_cons_of_mem _ member)
      have lastKnown : (contact.setBeaconTimeLastKnown
          beaconTime64).allocationPt.beaconTimeLastKnown64 =
          beaconTime64 :=
        rfl
      unfold goOverContacts
      generalize contact.setBeaconTimeLastKnown beaconTime64 = updated
          at fits lastKnown ⊢
      have all :
          ∀ other ∈ updated :: contacts, Fitting settings beaconPeriod other :=
        List.forall_mem_cons.mpr ⟨fits, others⟩
      obtain ⟨nowLower, nowUpper⟩ := inTime 0
      obtain ⟨txOpportunity, isOpportunity, found⟩ :=
        @AllocationPt.getTxOpportunity_dl updated.allocationPt
          (surroundings 0).rxTimePassed64 transmissions.txEarliest64
          (by rw [fits.beaconPeriod]; exact positive) fits.inPeriod
          (by rw [lastKnown]; exact lower)
          (by rw [lastKnown, fits.beaconPeriod]; exact upper)
          (by rw [fits.turnaroundTime]; omega)
          (by rw [fits.turnaroundTime]; exact nowUpper)
      dsimp only
      rw [isOpportunity, Checked.ok_bind]
      rcases found with isNone | ⟨resource, member, isTime, notEarlier⟩
      · rw [isNone, if_pos (by decide)]
        exact
          ⟨updated :: contacts, transmissions, false, rfl, rfl, all, scheduled⟩
      · have inPeriod := fits.inPeriod resource member
        rw [fits.beaconPeriod] at inPeriod
        rw [lastKnown] at isTime
        rw [isTime] at notEarlier
        have isLong := fits.isLong resource member
        have isId := scheduled.txOrderId
        have few := scheduled.remaining
        have next :=
          scheduled.unicast (fits.behindBeacon resource member) isLong
            inPeriod notEarlier
        obtain ⟨between, isBetween, changed⟩ :=
          @worksubTxUnicast_eq_ok settings txOpportunity transmissions
            (surroundings 0) (by rw [isTime]; dsimp only; omega)
            (by rw [isTime]; dsimp only; omega)
            (by rw [isTime]; dsimp only; omega) (by omega) (by omega)
        have scheduledBetween :
            Scheduled settings beaconTime64 beaconPeriod earlier between := by
          rcases changed with same | isNew
          · rw [same]
            exact scheduled
          · rw [isNew, isTime]
            exact next
        obtain ⟨contactsAfter, after, continues, isAfter, isLength,
          fittingAfter, scheduledAfter⟩ :=
          hypothesis (fun j => inTime (j + 1)) others scheduledBetween
        rw [if_neg (by rw [isTime]; dsimp only; omega), isBetween,
          Checked.ok_bind, isAfter, Checked.ok_bind]
        exact ⟨updated :: contactsAfter, after, continues, rfl,
            congrArg (· + 1) isLength,
            List.forall_mem_cons.mpr ⟨fits, fittingAfter⟩,
            scheduledAfter⟩

/-- All passes over the contacts continue the schedule of the period. -/
theorem worksubTxUnicastConsecutive_eq_ok
    {settings : Settings}
    {beaconTime64 : Int}
    {beaconPeriod : UInt32}
    {earlier : List TxDescriptor}
    {transmissions : Transmissions}
    {contacts : List ContactP2p}
    {surroundings : Nat → Nat → Surroundings}
    (positive : 0 < beaconPeriod.toNat)
    (lower : 0 ≤ beaconTime64)
    (upper : beaconTime64 + 2 * beaconPeriod.toNat ≤ int64Max)
    (inTime : ∀ i j, InTime settings (surroundings i j))
    (fitting : ∀ contact ∈ contacts, Fitting settings beaconPeriod contact)
    (scheduled :
      Scheduled settings beaconTime64 beaconPeriod earlier transmissions)
    (n : Nat) :
    ∃ contactsAfter after,
      worksubTxUnicastConsecutive settings beaconTime64 n surroundings
          contacts transmissions =
        .ok (contactsAfter, after) ∧
      contactsAfter.length = contacts.length ∧
      (∀ contact ∈ contactsAfter, Fitting settings beaconPeriod contact) ∧
      Scheduled settings beaconTime64 beaconPeriod earlier after := by
  induction n generalizing surroundings contacts transmissions with
  | zero => exact ⟨contacts, transmissions, rfl, rfl, fitting, scheduled⟩
  | succ n hypothesis =>
      obtain ⟨between, transmissionsBetween, continues, isBetween,
        isLength, fittingBetween, scheduledBetween⟩ :=
        goOverContacts_eq_ok positive lower upper (inTime 0) fitting scheduled
      unfold worksubTxUnicastConsecutive
      rw [isBetween, Checked.ok_bind]
      dsimp only
      cases continues with
      | false =>
          exact ⟨between, transmissionsBetween, rfl, isLength,
              fittingBetween, scheduledBetween⟩
      | true =>
          obtain ⟨contactsAfter, after, isAfter, isLengthAfter,
            fittingAfter, scheduledAfter⟩ :=
            hypothesis (fun i => inTime (i + 1)) fittingBetween
              scheduledBetween
          rw [if_pos rfl]
          exact ⟨contactsAfter, after, isAfter,
              isLengthAfter.trans isLength, fittingAfter,
              scheduledAfter⟩

end P2p

end DectNrp
