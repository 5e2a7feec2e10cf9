import DectNrp.AssociationRequest
import DectNrp.AssociationResponse
import DectNrp.BroadcastIndication
import DectNrp.LoadAndMeasurement
import DectNrp.Mmie
import DectNrp.Neighbouring
import DectNrp.NetworkBeacon
import DectNrp.RandomAccessResource
import DectNrp.RdCapability
import DectNrp.Reconfiguration
import DectNrp.ResourceAllocation
import DectNrp.SmallElements

namespace DectNrp

/-!
# Elements of the receive pool

The pool holds one class for each element that a MAC PDU may contain.  Every
class that unpacks octets of a peer is given a codec here or earlier, and the
octets that it unpacks without a fault are told by a condition on them.
-/

namespace NetworkBeaconMessage

/-- Nothing of the object that unpacks a message is kept. -/
def codec : MmieCodec NetworkBeaconMessage where
  isValid message := .ok message.isValid
  getPackedSize message := .ok message.getPackedSize
  pack := pack
  getPackedSizeMinToPeek := getPackedSizeMinToPeek
  getPackedSizeByPeeking _ macPduOffset := do
    let octet0 ← OctetReader.octet macPduOffset
    pure (.ok (sizeByFlags octet0))
  unpack _ := unpack
  SameContext _ _ := True
  sameContext_refl _ := trivial

theorem peek_eq
    (initial : NetworkBeaconMessage)
    (memory : Memory)
    (front : Nat) :
    codec.peek initial memory front = .ok (.ok (sizeByFlags (memory front))) :=
  MmieCodec.peek_eq ⟨Nat.lt_succ_self front, trivial⟩

theorem unpacksSafely
    (initial : NetworkBeaconMessage)
    (memory : Memory)
    (front : Nat) :
    codec.UnpacksSafely initial memory front := by
  rw [MmieCodec.unpacksSafely_iff_of_peek (peek_eq initial memory front)]
  exact ⟨_, _, unpack_window (Nat.le_refl _), rfl⟩

end NetworkBeaconMessage

namespace ClusterBeaconMessage

/-- The subcarrier scaling factor of the object is kept. -/
def codec : MmieCodec ClusterBeaconMessage where
  isValid message := .ok message.isValid
  getPackedSize message := .ok message.getPackedSize
  pack := pack
  getPackedSizeMinToPeek := getPackedSizeMinToPeek
  getPackedSizeByPeeking message macPduOffset := do
    let octet1 ← OctetReader.octet (macPduOffset + 1)
    pure (.ok (sizeByFlags message.mu octet1))
  unpack := unpack
  SameContext initial message := initial.mu = message.mu
  sameContext_refl _ := rfl

theorem peek_eq
    (initial : ClusterBeaconMessage)
    (memory : Memory)
    (front : Nat) :
    codec.peek initial memory front =
      .ok (.ok (sizeByFlags initial.mu (memory (front + 1)))) :=
  MmieCodec.peek_eq ⟨Nat.lt_succ_self (front + 1), trivial⟩

theorem unpacksSafely
    (initial : ClusterBeaconMessage)
    (memory : Memory)
    (front : Nat) :
    codec.UnpacksSafely initial memory front := by
  rw [MmieCodec.unpacksSafely_iff_of_peek (peek_eq initial memory front)]
  exact ⟨_, _, unpack_window initial (Nat.le_refl _), rfl⟩

end ClusterBeaconMessage

namespace PowerTargetIe

def codec : MmieCodec PowerTargetIe where
  isValid ie := .ok ie.isValid
  getPackedSize _ := .ok getPackedSize
  pack := pack
  getPackedSizeMinToPeek := 0
  getPackedSizeByPeeking _ _ := pure (.ok getPackedSize)
  unpack := unpack
  SameContext _ _ := True
  sameContext_refl _ := trivial

theorem unpacksSafely
    (initial : PowerTargetIe)
    (memory : Memory)
    (front : Nat) :
    codec.UnpacksSafely initial memory front := by
  rw [MmieCodec.unpacksSafely_iff_of_peek
    (show codec.peek initial memory front = .ok (.ok getPackedSize) from rfl)]
  exact ⟨_, _, unpack_window initial (Nat.le_refl _), rfl⟩

end PowerTargetIe

namespace TimeAnnounceIe

def codec : MmieCodec TimeAnnounceIe where
  isValid ie := .ok ie.isValid
  getPackedSize _ := .ok getPackedSize
  pack := pack
  getPackedSizeMinToPeek := 0
  getPackedSizeByPeeking _ _ := pure (.ok getPackedSize)
  unpack := unpack
  SameContext _ _ := True
  sameContext_refl _ := trivial

theorem unpacksSafely
    (initial : TimeAnnounceIe)
    (memory : Memory)
    (front : Nat) :
    codec.UnpacksSafely initial memory front := by
  rw [MmieCodec.unpacksSafely_iff_of_peek
    (show codec.peek initial memory front = .ok (.ok getPackedSize) from rfl)]
  exact ⟨_, _, unpack_window initial (Nat.le_refl _), rfl⟩

end TimeAnnounceIe

/--
The classes of the pool that unpack octets, in the order of the pool.  Flows
keep a pointer to their octets only and a configuration request has none.
-/
inductive PoolClass where
  | networkBeaconMessage
  | clusterBeaconMessage
  | associationRequestMessage
  | associationResponseMessage
  | associationReleaseMessage
  | reconfigurationRequestMessage
  | reconfigurationResponseMessage
  | macSecurityInfoIe
  | routeInfoIe
  | resourceAllocationIe
  | randomAccessResourceIe
  | rdCapabilityIe
  | neighbouringIe
  | broadcastIndicationIe
  | groupAssignmentIe
  | loadInfoIe
  | measurementReportIe
  | radioDeviceStatusIe
  | powerTargetIe
  | timeAnnounceIe
  deriving Repr, DecidableEq

namespace PoolClass

/-- The objects of a class. -/
def Element : PoolClass → Type
  | networkBeaconMessage => NetworkBeaconMessage
  | clusterBeaconMessage => ClusterBeaconMessage
  | associationRequestMessage => AssociationRequestMessage
  | associationResponseMessage => AssociationResponseMessage
  | associationReleaseMessage => AssociationReleaseMessage
  | reconfigurationRequestMessage => ReconfigurationRequestMessage
  | reconfigurationResponseMessage => ReconfigurationResponseMessage
  | macSecurityInfoIe => MacSecurityInfoIe
  | routeInfoIe => RouteInfoIe
  | resourceAllocationIe => ResourceAllocationIe
  | randomAccessResourceIe => RandomAccessResourceIe
  | rdCapabilityIe => RdCapabilityIe
  | neighbouringIe => NeighbouringIe
  | broadcastIndicationIe => BroadcastIndicationIe
  | groupAssignmentIe => GroupAssignmentIe
  | loadInfoIe => LoadInfoIe
  | measurementReportIe => MeasurementReportIe
  | radioDeviceStatusIe => RadioDeviceStatusIe
  | powerTargetIe => PowerTargetIe
  | timeAnnounceIe => TimeAnnounceIe

/-- What the objects of a class can do. -/
def codec : (poolClass : PoolClass) → MmieCodec poolClass.Element
  | networkBeaconMessage => NetworkBeaconMessage.codec
  | clusterBeaconMessage => ClusterBeaconMessage.codec
  | associationRequestMessage => AssociationRequestMessage.codec
  | associationResponseMessage => AssociationResponseMessage.codec
  | associationReleaseMessage => AssociationReleaseMessage.codec
  | reconfigurationRequestMessage => ReconfigurationRequestMessage.codec
  | reconfigurationResponseMessage => ReconfigurationResponseMessage.codec
  | macSecurityInfoIe => MacSecurityInfoIe.codec
  | routeInfoIe => RouteInfoIe.codec
  | resourceAllocationIe => ResourceAllocationIe.codec
  | randomAccessResourceIe => RandomAccessResourceIe.codec
  | rdCapabilityIe => RdCapabilityIe.codec
  | neighbouringIe => NeighbouringIe.codec
  | broadcastIndicationIe => BroadcastIndicationIe.codec
  | groupAssignmentIe => GroupAssignmentIe.codec
  | loadInfoIe => LoadInfoIe.codec
  | measurementReportIe => MeasurementReportIe.codec
  | radioDeviceStatusIe => RadioDeviceStatusIe.codec
  | powerTargetIe => PowerTargetIe.codec
  | timeAnnounceIe => TimeAnnounceIe.codec

/-- The octets that an object of a class unpacks safely. -/
def SafeOctets :
    (poolClass : PoolClass) →
      poolClass.Element → Memory → Nat → Prop
  | associationRequestMessage, _, memory, front =>
      AssociationRequestMessage.SafeOctets memory front
  | associationResponseMessage, _, memory, front =>
      memory (front + 1) >>> 4 < 5 ∧ memory (front + 1) &&& 15 < 9
  | reconfigurationRequestMessage, _, memory, front =>
      ReconfigurationRequestMessage.SafeOctets memory front
  | reconfigurationResponseMessage, _, memory, front =>
      ReconfigurationResponseMessage.SafeOctets memory front
  | resourceAllocationIe, initial, memory, front =>
      ResourceAllocationIe.SafeOctets initial.mu memory front
  | randomAccessResourceIe, initial, memory, front =>
      RandomAccessResourceIe.SafeOctets initial.mu memory front
  | rdCapabilityIe, _, memory, front =>
      RdCapabilityIe.SafeOctets memory front
  | neighbouringIe, _, memory, front =>
      (memory (front + 2) >>> 5) &&& 1 ≠ 0
  | broadcastIndicationIe, _, memory, front =>
      BroadcastIndicationIe.SafeOctets memory front
  | groupAssignmentIe, initial, memory, front =>
      GroupAssignmentIe.SafeOctets initial.length memory front
  -- the other classes check what they read without an assertion
  | networkBeaconMessage, _, _, _ => True
  | clusterBeaconMessage, _, _, _ => True
  | associationReleaseMessage, _, _, _ => True
  | macSecurityInfoIe, _, _, _ => True
  | routeInfoIe, _, _, _ => True
  | loadInfoIe, _, _, _ => True
  | measurementReportIe, _, _, _ => True
  | radioDeviceStatusIe, _, _, _ => True
  | powerTargetIe, _, _, _ => True
  | timeAnnounceIe, _, _, _ => True

/--
Octets of a peer are unpacked, or rejected, without a fault exactly if no
reserved code and no missing field reaches an assertion of its class.
-/
theorem poolClass_unpacks_iff
    (poolClass : PoolClass)
    (initial : poolClass.Element)
    (memory : Memory)
    (front : Nat) :
    poolClass.codec.UnpacksSafely initial memory front ↔
      poolClass.SafeOctets initial memory front := by
  cases poolClass with
  | networkBeaconMessage =>
      exact iff_of_true
        (NetworkBeaconMessage.unpacksSafely initial memory front) trivial
  | clusterBeaconMessage =>
      exact iff_of_true
        (ClusterBeaconMessage.unpacksSafely initial memory front) trivial
  | associationRequestMessage =>
      exact AssociationRequestMessage.unpacksSafely_iff initial memory front
  | associationResponseMessage =>
      exact AssociationResponseMessage.unpacksSafely_iff initial memory front
  | associationReleaseMessage =>
      exact iff_of_true
        (AssociationReleaseMessage.unpacksSafely initial memory front)
        trivial
  | reconfigurationRequestMessage =>
      exact ReconfigurationRequestMessage.unpacksSafely_iff initial memory
        front
  | reconfigurationResponseMessage =>
      exact ReconfigurationResponseMessage.unpacksSafely_iff initial
        memory front
  | macSecurityInfoIe =>
      exact iff_of_true
        (MacSecurityInfoIe.unpacksSafely initial memory front) trivial
  | routeInfoIe =>
      exact iff_of_true
        (RouteInfoIe.unpacksSafely initial memory front) trivial
  | resourceAllocationIe =>
      exact ResourceAllocationIe.unpacksSafely_iff initial memory front
  | randomAccessResourceIe =>
      exact RandomAccessResourceIe.unpacksSafely_iff initial memory front
  | rdCapabilityIe =>
      exact RdCapabilityIe.unpacksSafely_iff initial memory front
  | neighbouringIe =>
      exact NeighbouringIe.unpacksSafely_iff initial memory front
  | broadcastIndicationIe =>
      exact BroadcastIndicationIe.unpacksSafely_iff initial memory front
  | groupAssignmentIe =>
      exact GroupAssignmentIe.unpacksSafely_iff initial memory front
  | loadInfoIe =>
      exact iff_of_true (LoadInfoIe.unpacksSafely initial memory front) trivial
  | measurementReportIe =>
      exact iff_of_true
        (MeasurementReportIe.unpacksSafely initial memory front) trivial
  | radioDeviceStatusIe =>
      exact iff_of_true
        (RadioDeviceStatusIe.unpacksSafely initial memory front) trivial
  | powerTargetIe =>
      exact iff_of_true
        (PowerTargetIe.unpacksSafely initial memory front) trivial
  | timeAnnounceIe =>
      exact iff_of_true
        (TimeAnnounceIe.unpacksSafely initial memory front) trivial

/-- A rejection with a reserved cause and time reaches an assertion. -/
theorem not_poolClass_unpacks :
    ¬ ∀ (poolClass : PoolClass) (initial : poolClass.Element)
        (memory : Memory) (front : Nat),
      poolClass.codec.UnpacksSafely initial memory front := by
  intro safely
  let memory : Memory := fun address => if address = 0 then 0 else 255
  have causeFits : memory (0 + 1) >>> 4 < 5 :=
    ((AssociationResponseMessage.unpacksSafely_iff .zero memory 0).mp
      (safely .associationResponseMessage _ _ _)).1
  exact absurd causeFits (by decide)

end PoolClass

end DectNrp
