import DectNrp.ClusterBeacon

namespace DectNrp

/-!
# Codec of cluster beacon messages

A valid message is restored from its own octets by any message with the same
scaling factor.  Whatever octets are received, unpacking them stays within the
size that peeking reports, and a message that is accepted can be sent again.
-/

namespace ClusterBeaconMessage

/-- A message that was received or constructed with the same scaling factor. -/
def SameMu (initial message : ClusterBeaconMessage) : Prop :=
  initial.mu = message.mu

/-- Packing writes as many octets as the packed size says, and they suffice. -/
def RoundTrips (message : ClusterBeaconMessage) : Prop :=
  ∀ (initial : ClusterBeaconMessage) (front : Nat) (memory : Memory),
    initial.SameMu message →
      ∃ octets : List UInt8,
        octets.length = message.getPackedSize ∧
        message.pack front memory = .ok (memory.write front octets) ∧
        initial.getPackedSizeByPeeking
            ((memory.write front octets).window 0
              (front + getPackedSizeMinToPeek))
            front =
          .ok (some message.getPackedSize) ∧
        initial.unpack
            ((memory.write front octets).window 0
              (front + message.getPackedSize))
            front =
          .ok (true, message)

/-- Any octets are unpacked, and what they stand for is sent again if valid. -/
def UnpacksAny (initial : ClusterBeaconMessage) : Prop :=
  ∀ (front : Nat) (memory : Memory),
    ∃ size valid message,
      initial.getPackedSizeByPeeking
          (memory.window 0 (front + getPackedSizeMinToPeek)) front =
        .ok (some size) ∧
      initial.unpack (memory.window 0 (front + size)) front =
        .ok (valid, message) ∧
      message.getPackedSize = size ∧
      message.SameMu initial ∧
      (valid = true → message.RoundTrips)

/-- Peeking reads the second octet. -/
theorem getPackedSizeByPeeking_window
    (message : ClusterBeaconMessage)
    (front : Nat)
    (memory : Memory) :
    message.getPackedSizeByPeeking
        (memory.window 0 (front + getPackedSizeMinToPeek)) front =
      .ok (some (sizeByFlags message.mu (memory (front + 1)))) := by
  have inside : front + 1 < front + getPackedSizeMinToPeek :=
    Nat.lt_succ_self (front + 1)
  unfold getPackedSizeByPeeking
  rw [Memory.loadOctet_window inside, Checked.ok_bind]
  rfl

/-- A valid message is restored. -/
theorem roundTrips_of_valid
    {message : ClusterBeaconMessage}
    (valid : message.isValid = true) :
    message.RoundTrips := by
  intro initial front memory sameMu
  have holds := Memory.window_write front message.code memory
  rw [code_length] at holds
  obtain ⟨isFlags, isMessage⟩ := decoded_code valid holds
  have isSize : sizeByFlags initial.mu
      ((memory.write front message.code) (front + 1)) =
        message.getPackedSize := by
    rw [isFlags, sameMu]
    exact sizeByFlags_flagsOf message
  refine
    ⟨message.code, code_length message, pack_valid valid front memory, ?_, ?_⟩
  · rw [getPackedSizeByPeeking_window, isSize]
  · rw [unpack_window initial (by rw [isSize]), sameMu, isMessage, valid]

theorem getPackedSize_decoded
    (mu : Nat)
    (memory : Memory)
    (front : Nat) :
    (decoded mu memory front).getPackedSize =
      sizeByFlags mu (memory (front + 1)) := by
  rw [sizeByFlags_eq]
  simp [decoded, getPackedSize, optionalSize]

theorem unpacksAny (initial : ClusterBeaconMessage) :
    initial.UnpacksAny := by
  intro front memory
  refine ⟨_, _, _, getPackedSizeByPeeking_window initial front memory,
      unpack_window initial (le_refl _), getPackedSize_decoded _ _ _,
      rfl, roundTrips_of_valid⟩

/-- The codec restores every valid message and accepts no other. -/
theorem clusterBeacon_codec :
    (∀ message : ClusterBeaconMessage,
      message.isValid = true → message.RoundTrips) ∧
    ∀ initial : ClusterBeaconMessage, initial.UnpacksAny :=
  ⟨fun _ valid => roundTrips_of_valid valid, unpacksAny⟩

/-- A message with all optional fields and a frame offset of two octets. -/
theorem clusterBeacon_codec_mu8 :
    RoundTrips
      { construct with
        systemFrameNumber := 255
        clustersMaxTxPower := some .pos19dBm
        hasPowerConstraints := true
        frameOffset := some 65535
        nextClusterChannel := some 1700
        timeToNext := some 4294967295
        networkBeaconPeriod := .ms100
        clusterBeaconPeriod := .ms10
        countToTrigger := .times1
        relQuality := .dB9
        minQuality := .dB9
        mu := 8 } :=
  clusterBeacon_codec.1 _ (by decide)

end ClusterBeaconMessage

end DectNrp
