import DectNrp.PlcfCodec

namespace DectNrp

/-!
# Octets of type 2

Both header formats of type 2 share nine of ten octets.  `EncodesType2` states
the octets for a given value of the remaining octet and for a given code of
the feedback, so that the same relation describes what a sender packs and what
a receiver accepted.
-/

open Checked (ok_bind pure_eq_ok)
open BitFields

/-- A code that is written for every octet to complete has twelve bits. -/
theorem FeedbackInfo.Writes.code_lt
    {pack : Nat → Memory → Checked Memory}
    {code : Nat}
    (writes : FeedbackInfo.Writes pack code) :
    code < 4096 := by
  obtain ⟨octet0, octet1, _, value0, _⟩ := writes 0 [] 0xF0 (fun _ => 0)
  have octet0Bound := octet0.toNat_lt
  have upperHalf : (0xF0 : UInt8).toNat / 16 * 16 = 240 := by decide
  omega

/--
The octets of a type 2 object whose octet 7 has the value `middle` and whose
feedback has the code `feedbackCode`.
-/
def EncodesType2
    (base : PlcfBase)
    (shortNetworkID : UInt32)
    (transmitterIdentity : UInt32)
    (receiverIdentity : UInt32)
    (middle : Nat)
    (feedbackFormat : UInt32)
    (feedbackCode : Nat)
    (octets : List UInt8) :
    Prop :=
  ∃ octet0 octet1 octet4 octet7 octet8 octet9,
    octets =
      [octet0, octet1,
        UInt8.ofNat (transmitterIdentity.toNat / 256),
        UInt8.ofNat transmitterIdentity.toNat, octet4,
        UInt8.ofNat (receiverIdentity.toNat / 256),
        UInt8.ofNat receiverIdentity.toNat, octet7, octet8, octet9] ∧
    octet0.toNat = base.code ∧
    octet1.toNat = shortNetworkID.toNat ∧
    octet4.toNat = base.transmitPower.toNat * 16 + base.dfmcs.toNat ∧
    octet7.toNat = middle ∧
    octet8.toNat = feedbackFormat.toNat * 16 + feedbackCode / 256 ∧
    octet9.toNat = feedbackCode % 256

namespace EncodesType2

section

variable {base : PlcfBase}
variable {shortNetworkID : UInt32}
variable {transmitterIdentity : UInt32}
variable {receiverIdentity : UInt32}
variable {middle : Nat}
variable {feedbackFormat : UInt32}
variable {feedbackCode : Nat}
variable {octets : List UInt8}

/-- There is exactly one encoding for given values. -/
theorem unique
    {other : List UInt8}
    (encodes :
      EncodesType2 base shortNetworkID transmitterIdentity
        receiverIdentity middle feedbackFormat feedbackCode octets)
    (otherEncodes :
      EncodesType2 base shortNetworkID transmitterIdentity
        receiverIdentity middle feedbackFormat feedbackCode other) :
    octets = other := by
  obtain ⟨a0, a1, a4, a7, a8, a9, rfl, a0Value, a1Value, a4Value,
    a7Value, a8Value, a9Value⟩ := encodes
  obtain ⟨b0, b1, b4, b7, b8, b9, rfl, b0Value, b1Value, b4Value,
    b7Value, b8Value, b9Value⟩ := otherEncodes
  rw [UInt8.toNat_inj.mp (a0Value.trans b0Value.symm),
    UInt8.toNat_inj.mp (a1Value.trans b1Value.symm),
    UInt8.toNat_inj.mp (a4Value.trans b4Value.symm),
    UInt8.toNat_inj.mp (a7Value.trans b7Value.symm),
    UInt8.toNat_inj.mp (a8Value.trans b8Value.symm),
    UInt8.toNat_inj.mp (a9Value.trans b9Value.symm)]

/-- Type 2 has ten octets. -/
theorem length
    (encodes :
      EncodesType2 base shortNetworkID transmitterIdentity
        receiverIdentity middle feedbackFormat feedbackCode octets) :
    octets.length = 10 := by
  obtain ⟨_, _, _, _, _, _, rfl, _⟩ := encodes
  rfl

/-- The feedback is found behind octet 7. -/
theorem holds
    (encodes :
      EncodesType2 base shortNetworkID transmitterIdentity
        receiverIdentity middle feedbackFormat feedbackCode octets)
    (codeBound : feedbackCode < 4096) :
    FeedbackInfo.Holds octets 8 feedbackCode := by
  obtain ⟨octet0, octet1, octet4, octet7, octet8, octet9, rfl, _, _, _,
    _, value8, value9⟩ := encodes
  refine ⟨octet8, octet9, rfl, rfl, ?_⟩
  omega

/-- The values that a receiver reads from an encoding. -/
theorem loads
    (encodes :
      EncodesType2 base shortNetworkID transmitterIdentity
        receiverIdentity middle feedbackFormat feedbackCode octets)
    (transmitterBound : transmitterIdentity.toNat ≤ 65535)
    (receiverBound : receiverIdentity.toNat ≤ 65535)
    (powerBound : base.transmitPower.toNat ≤ 15)
    (mcsBound : base.dfmcs.toNat ≤ 15)
    (codeBound : feedbackCode < 4096) :
    ∃ octet0 octet1 octet4 octet7 octet8 transmitter receiver,
      loadOctet octets 0 = .ok octet0 ∧
      octet0.toNat = base.code ∧
      loadOctet octets 1 = .ok octet1 ∧
      octet1.toUInt32 = shortNetworkID ∧
      b2lLower octets 2 2 = .ok transmitter ∧
      UInt32.ofNat transmitter = transmitterIdentity ∧
      loadOctet octets 4 = .ok octet4 ∧
      extract octet4 4 0b1111 = base.transmitPower ∧
      extract octet4 0 0b1111 = base.dfmcs ∧
      b2lLower octets 5 2 = .ok receiver ∧
      UInt32.ofNat receiver = receiverIdentity ∧
      loadOctet octets 7 = .ok octet7 ∧
      octet7.toNat = middle ∧
      loadOctet octets 8 = .ok octet8 ∧
      extract octet8 4 0b1111 = feedbackFormat := by
  obtain ⟨octet0, octet1, octet4, octet7, octet8, octet9, rfl, value0,
    value1, value4, value7, value8, value9⟩ := encodes
  have octet8Bound := octet8.toNat_lt
  refine ⟨octet0, octet1, octet4, octet7, octet8, _, _, rfl, value0, rfl,
    ?_, b2lLower_two rfl rfl, identity_of_octets transmitterBound, rfl,
    ?_, ?_, b2lLower_two rfl rfl, identity_of_octets receiverBound, rfl,
    value7, rfl, ?_⟩
  · apply UInt32.toNat_inj.mp
    simpa using value1
  · apply UInt32.toNat_inj.mp
    simp
    omega
  · apply UInt32.toNat_inj.mp
    simp
    omega
  · apply UInt32.toNat_inj.mp
    simp
    omega

/-- Packing the feedback behind the first eight octets completes an encoding. -/
theorem of_pack
    {pool : FeedbackInfo.Pool}
    {octet0 octet7 : UInt8}
    (value0 : octet0.toNat = base.code)
    (value7 : octet7.toNat = middle)
    (networkBound : shortNetworkID.toNat ≤ 255)
    (powerBound : base.transmitPower.toNat ≤ 15)
    (mcsBound : base.dfmcs.toNat ≤ 15)
    (memberValid : pool.memberIsValid feedbackFormat = true) :
    ∃ octets,
      EncodesType2 base shortNetworkID transmitterIdentity
        receiverIdentity middle feedbackFormat
        (pool.code feedbackFormat) octets ∧
      ∀ (front : Nat) (memory : Memory),
        pool.pack feedbackFormat (front + 8)
            (memory.write front
              [octet0, shortNetworkID.toUInt8,
                UInt8.ofNat (transmitterIdentity.toNat / 256),
                UInt8.ofNat transmitterIdentity.toNat,
                (base.transmitPower <<< 4).toUInt8 ||| base.dfmcs.toUInt8,
                UInt8.ofNat (receiverIdentity.toNat / 256),
                UInt8.ofNat receiverIdentity.toNat, octet7,
                (feedbackFormat <<< 4).toUInt8]) =
          .ok (memory.write front octets) := by
  have formatBound : feedbackFormat.toNat ≤ 6 := by
    rcases FeedbackInfo.Pool.format_of_memberIsValid memberValid with
        rfl | rfl | rfl | rfl | rfl | rfl | rfl <;>
      decide
  have value4 : ((base.transmitPower <<< 4).toUInt8 |||
      base.dfmcs.toUInt8).toNat =
        base.transmitPower.toNat * 16 + base.dfmcs.toNat :=
    toNat_two (by decide) (show base.transmitPower.toNat * 16 < 256 by omega)
      (show base.dfmcs.toNat < 16 by omega)
  have value8 :
      (feedbackFormat <<< 4).toUInt8.toNat = feedbackFormat.toNat * 16 :=
    toNat_shifted (by decide) (show feedbackFormat.toNat * 16 < 256 by omega)
  have packFeedback := fun (front : Nat) (memory : Memory) =>
    FeedbackInfo.Pool.pack_writes memberValid front
      [octet0, shortNetworkID.toUInt8,
        UInt8.ofNat (transmitterIdentity.toNat / 256),
        UInt8.ofNat transmitterIdentity.toNat,
        (base.transmitPower <<< 4).toUInt8 ||| base.dfmcs.toUInt8,
        UInt8.ofNat (receiverIdentity.toNat / 256),
        UInt8.ofNat receiverIdentity.toNat, octet7]
      (feedbackFormat <<< 4).toUInt8 memory
  rw [value8, Nat.mul_div_cancel _ (by decide)] at packFeedback
  obtain ⟨octet8, octet9, _, octet8Value, octet9Value⟩ :=
    packFeedback 0 fun _ => 0
  refine ⟨_, ⟨octet0, shortNetworkID.toUInt8, _, octet7, octet8, octet9, rfl,
      value0, toNat_unshifted (by omega), value4, value7, octet8Value,
      octet9Value⟩, fun front memory => ?_⟩
  obtain ⟨written8, written9, packed, written8Value, written9Value⟩ :=
    packFeedback front memory
  rw [UInt8.toNat_inj.mp (written8Value.trans octet8Value.symm),
    UInt8.toNat_inj.mp (written9Value.trans octet9Value.symm)]
    at packed
  exact packed

/-- What a receiver reads from ten octets. -/
theorem reads_of_length (size : octets.length = 10) :
    ∃ octet0 octet1 octet2 octet3 octet4 octet5 octet6 octet7 octet8
        octet9,
      octets =
        [octet0, octet1, octet2, octet3, octet4, octet5, octet6, octet7,
          octet8, octet9] ∧
      loadOctet octets 0 = .ok octet0 ∧
      loadOctet octets 1 = .ok octet1 ∧
      b2lLower octets 2 2 = .ok (fromBigEndian [octet2, octet3]) ∧
      loadOctet octets 4 = .ok octet4 ∧
      b2lLower octets 5 2 = .ok (fromBigEndian [octet5, octet6]) ∧
      loadOctet octets 7 = .ok octet7 ∧
      loadOctet octets 8 = .ok octet8 := by
  match octets, size with
  | [octet0, octet1, octet2, octet3, octet4, octet5, octet6, octet7,
      octet8, octet9], _ =>
      exact ⟨octet0, octet1, octet2, octet3, octet4, octet5, octet6,
        octet7, octet8, octet9, rfl, rfl, rfl, b2lLower_two rfl rfl, rfl,
        b2lLower_two rfl rfl, rfl, rfl⟩

/-- Ten received octets encode the values that are read from them. -/
theorem of_reads
    {octet0 octet1 octet2 octet3 octet4 : UInt8}
    {octet5 octet6 octet7 octet8 octet9 : UInt8}
    {received : Nat}
    (value0 : octet0.toNat = base.code)
    (holds :
      FeedbackInfo.Holds
        [octet0, octet1, octet2, octet3, octet4, octet5, octet6, octet7,
          octet8, octet9] 8 received) :
    EncodesType2
      { base with
        transmitPower := extract octet4 4 0b1111
        dfmcs := extract octet4 0 0b1111 }
      octet1.toUInt32
      (UInt32.ofNat (fromBigEndian [octet2, octet3]))
      (UInt32.ofNat (fromBigEndian [octet5, octet6]))
      octet7.toNat
      (extract octet8 4 0b1111)
      received
      [octet0, octet1, octet2, octet3, octet4, octet5, octet6, octet7,
        octet8, octet9] := by
  obtain ⟨read8, read9, load8, load9, value⟩ := holds
  cases load8
  cases load9
  have transmitter := octets_of_identity octet2 octet3
  have receiver := octets_of_identity octet5 octet6
  simp only [List.cons.injEq, and_true] at transmitter receiver
  have octet4Bound := octet4.toNat_lt
  have octet8Bound := octet8.toNat_lt
  have octet9Bound := octet9.toNat_lt
  refine ⟨octet0, octet1, octet4, octet7, octet8, octet9, ?_, value0,
    ?_, ?_, rfl, ?_, ?_⟩
  · rw [transmitter.1, transmitter.2, receiver.1, receiver.2]
  · simp
  · simp
    omega
  · simp
    omega
  · omega

end

end EncodesType2

namespace Plcf20

/-- Value of octet 7. -/
def middle (header : Plcf20) : Nat :=
  header.numberOfSpatialStreams.toNat * 64 +
    header.dfRedundancyVersion.toNat * 16 +
    header.dfNewDataIndication.toNat * 8 +
    header.dfHARQProcessNumber.toNat

/-- The octets of the object when its feedback has the given code. -/
abbrev Encodes
    (header : Plcf20)
    (feedbackCode : Nat)
    (octets : List UInt8) :
    Prop :=
  EncodesType2 header.toPlcfBase header.shortNetworkID
    header.transmitterIdentity header.receiverIdentity header.middle
    header.feedbackFormat feedbackCode octets

theorem isValid_iff
    {header : Plcf20} :
    header.isValid = true ↔
      header.headerFormat = 0 ∧
        (header.shortNetworkID ≠ 0 ∧ header.shortNetworkID.toNat ≤ 255) ∧
        (header.transmitterIdentity ≠ 0 ∧
          header.transmitterIdentity.toNat ≤ 65535) ∧
        header.transmitPower.toNat ≤ 15 ∧
        header.dfmcs.toNat ≤ 11 ∧
        (header.receiverIdentity ≠ 0 ∧ header.receiverIdentity.toNat ≤ 65535) ∧
        header.numberOfSpatialStreams.toNat ≤ 3 ∧
        header.dfRedundancyVersion.toNat ≤ 3 ∧
        header.dfNewDataIndication.toNat ≤ 1 ∧
        header.dfHARQProcessNumber.toNat ≤ 7 ∧
        header.feedbackFormat.toNat ≤ 15 := by
  simp [isValid, UInt32.lt_iff_toNat_lt, Identity.isValidShortNetworkID_iff,
    Identity.isValidShortRadioDeviceID_iff]

variable {header : Plcf20}

private theorem octet7_value (valid : header.isValid = true) :
    ((((header.numberOfSpatialStreams <<< 6).toUInt8 |||
        (header.dfRedundancyVersion <<< 4).toUInt8) |||
        (header.dfNewDataIndication <<< 3).toUInt8) |||
      header.dfHARQProcessNumber.toUInt8).toNat =
      header.middle := by
  obtain ⟨_, _, _, _, _, _, streamsBound, versionBound, indicationBound,
    harqBound, _⟩ := isValid_iff.mp valid
  have withStreams : (header.numberOfSpatialStreams <<< 6).toUInt8.toNat =
      header.numberOfSpatialStreams.toNat * 64 :=
    toNat_shifted (by decide)
      (show header.numberOfSpatialStreams.toNat * 64 < 256 by omega)
  have withVersion : ((header.numberOfSpatialStreams <<< 6).toUInt8 |||
      (header.dfRedundancyVersion <<< 4).toUInt8).toNat =
        header.numberOfSpatialStreams.toNat * 64 +
          header.dfRedundancyVersion.toNat * 16 := by
    rw [toNat_or_shifted 2 (by decide) _ (by omega), withStreams]
    · rfl
    · rw [withStreams]
      exact Nat.mul_mod_left _ _
  have withIndication : (((header.numberOfSpatialStreams <<< 6).toUInt8 |||
      (header.dfRedundancyVersion <<< 4).toUInt8) |||
          (header.dfNewDataIndication <<< 3).toUInt8).toNat =
        header.numberOfSpatialStreams.toNat * 64 +
          header.dfRedundancyVersion.toNat * 16 +
          header.dfNewDataIndication.toNat * 8 := by
    rw [toNat_or_shifted 1 (by decide) _ (by omega), withVersion]
    · rfl
    · rw [withVersion]
      change _ % 16 = 0
      omega
  rw [toNat_or_lowest 3 (by omega) _ (by omega), withIndication, middle]
  rw [withIndication]
  omega

/-- `pack` writes the encoding of the object. -/
theorem pack_eq_write
    (baseValid : header.toPlcfBase.isValid = true)
    (valid : header.isValid = true)
    (memberValid :
      header.feedbackInfoPool.memberIsValid header.feedbackFormat = true) :
    ∃ octets,
      header.Encodes
        (header.feedbackInfoPool.code header.feedbackFormat) octets ∧
      ∀ front memory,
        header.pack front memory = .ok (memory.write front octets) := by
  obtain ⟨octet0, value0, packBase⟩ := PlcfBase.pack_eq_write baseValid
  obtain ⟨_, ⟨_, networkBound⟩, _, powerBound, mcsBound, _⟩ :=
    isValid_iff.mp valid
  obtain ⟨octets, encodes, packFeedback⟩ :=
    EncodesType2.of_pack value0 (octet7_value valid) networkBound
      powerBound (by omega) memberValid
  refine ⟨octets, encodes, fun front memory => ?_⟩
  have packed := packFeedback front memory
  simpa [pack, packBase, valid, Memory.assign_behind,
    Memory.l2bLower_behind, Memory.assignOr_inside, toBigEndian_two]
    using packed

variable {octets : List UInt8}

/-- `unpack` of an encoding whose feedback is accepted restores the object. -/
theorem unpack_of_encodesFeedback
    (target : Plcf20)
    {feedbackCode : Nat}
    {pool : FeedbackInfo.Pool}
    (baseValid : header.toPlcfBase.isValid = true)
    (valid : header.isValid = true)
    (codeBound : feedbackCode < 4096)
    (encodes : header.Encodes feedbackCode octets)
    (unpackFeedback :
      target.feedbackInfoPool.unpack header.feedbackFormat octets 8 =
        .ok (true, pool)) :
    target.unpack octets =
      .ok (true, { header with feedbackInfoPool := pool }) := by
  obtain ⟨_, _, ⟨_, transmitterBound⟩, powerBound, mcsBound,
    ⟨_, receiverBound⟩, streamsBound, versionBound, indicationBound,
    harqBound, _⟩ := isValid_iff.mp valid
  obtain ⟨octet0, octet1, octet4, octet7, octet8, transmitter, receiver,
    load0, value0, load1, network, loadTransmitter, transmitterValue,
    load4, power, mcs, loadReceiver, receiverValue, load7, value7, load8,
    format⟩ :=
    encodes.loads transmitterBound receiverBound powerBound (by omega)
      codeBound
  have unpackBase :=
    PlcfBase.unpack_of_code target.toPlcfBase baseValid load0 value0
  unfold middle at value7
  have streams : extract octet7 6 0b11 = header.numberOfSpatialStreams := by
    apply UInt32.toNat_inj.mp
    simp
    omega
  have version : extract octet7 4 0b11 = header.dfRedundancyVersion := by
    apply UInt32.toNat_inj.mp
    simp
    omega
  have indication : extract octet7 3 0b1 = header.dfNewDataIndication := by
    apply UInt32.toNat_inj.mp
    simp
    omega
  have harq : extract octet7 0 0b111 = header.dfHARQProcessNumber := by
    apply UInt32.toNat_inj.mp
    simp
    omega
  simp only [unpack, unpackBase, load1, load4, load7, load8,
    loadTransmitter, loadReceiver, ok_bind, not_true_eq_false,
    ↓reduceIte, pure_eq_ok, format, unpackFeedback, network,
    transmitterValue, receiverValue, power, mcs, streams, version,
    indication, harq]
  exact congrArg (fun verdict =>
      Except.ok (verdict, { header with feedbackInfoPool := pool }))
    valid

/-- `unpack` of an encoding restores the object up to its feedback. -/
theorem unpack_of_encodes
    (target : Plcf20)
    (baseValid : header.toPlcfBase.isValid = true)
    (valid : header.isValid = true)
    (memberValid :
      header.feedbackInfoPool.memberIsValid header.feedbackFormat = true)
    (encodes :
      header.Encodes
        (header.feedbackInfoPool.code header.feedbackFormat) octets) :
    target.unpack octets =
      .ok (true, { header with
        feedbackInfoPool :=
          header.feedbackInfoPool.restoredInto target.feedbackInfoPool
            header.feedbackFormat }) := by
  have codeBound := (FeedbackInfo.Pool.pack_writes memberValid).code_lt
  exact unpack_of_encodesFeedback target baseValid valid codeBound encodes
    (FeedbackInfo.Pool.unpack_of_holds target.feedbackInfoPool
      memberValid (encodes.holds codeBound))

/-- Accepted octets encode the object with the code of the received feedback. -/
theorem encodes_of_unpack
    {target header : Plcf20}
    (size : octets.length = 10)
    (accepted : target.unpack octets = .ok (true, header)) :
    header.toPlcfBase.isValid = true ∧
      header.isValid = true ∧
      header.feedbackInfoPool.memberIsValid header.feedbackFormat = true ∧
      ∃ received,
        header.Encodes received octets ∧
        FeedbackInfo.Holds octets 8 received ∧
        header.feedbackInfoPool.code header.feedbackFormat =
          received -
            (if FeedbackInfo.Pool.carriesBufferStatus
                header.feedbackFormat then
              FeedbackInfo.drift received
            else 0) := by
  obtain ⟨octet0, octet1, octet2, octet3, octet4, octet5, octet6,
    octet7, octet8, octet9, rfl, load0, load1, loadTransmitter, load4,
    loadReceiver, load7, load8⟩ :=
    EncodesType2.reads_of_length size
  obtain ⟨base, unpackBase, accepted⟩ :=
    Checked.accepted_of_bind accepted fun _ => ⟨_, rfl⟩
  obtain ⟨baseIsValid, read0, reload0, value0⟩ :=
    PlcfBase.code_of_unpack unpackBase
  cases load0.symm.trans reload0
  simp only [not_true_eq_false, ↓reduceIte, load1, load4, load7, load8,
    loadTransmitter, loadReceiver, ok_bind] at accepted
  obtain ⟨feedback, unpackFeedback, accepted⟩ :=
    Checked.accepted_of_bind accepted fun _ => ⟨_, rfl⟩
  obtain ⟨memberValid, received, holds, code⟩ :=
    FeedbackInfo.Pool.code_of_unpack unpackFeedback
  simp only [not_true_eq_false, ↓reduceIte, pure_eq_ok,
    Except.ok.injEq, Prod.mk.injEq] at accepted
  obtain ⟨valid, rfl⟩ := accepted
  refine ⟨baseIsValid, valid, memberValid, received, ?_, holds, code⟩
  have encodes := EncodesType2.of_reads value0 holds
  have octet7Bound := octet7.toNat_lt
  convert encodes using 1
  simp [middle]
  omega

end Plcf20

namespace Plcf21

/-- Value of octet 7. -/
def middle (header : Plcf21) : Nat :=
  header.numberOfSpatialStreams.toNat * 64 + header.reserved.toNat

/-- The octets of the object when its feedback has the given code. -/
abbrev Encodes
    (header : Plcf21)
    (feedbackCode : Nat)
    (octets : List UInt8) :
    Prop :=
  EncodesType2 header.toPlcfBase header.shortNetworkID
    header.transmitterIdentity header.receiverIdentity header.middle
    header.feedbackFormat feedbackCode octets

theorem isValid_iff
    {header : Plcf21} :
    header.isValid = true ↔
      header.headerFormat = 1 ∧
        (header.shortNetworkID ≠ 0 ∧ header.shortNetworkID.toNat ≤ 255) ∧
        (header.transmitterIdentity ≠ 0 ∧
          header.transmitterIdentity.toNat ≤ 65535) ∧
        header.transmitPower.toNat ≤ 15 ∧
        header.dfmcs.toNat ≤ 11 ∧
        (header.receiverIdentity ≠ 0 ∧ header.receiverIdentity.toNat ≤ 65535) ∧
        header.numberOfSpatialStreams.toNat ≤ 3 ∧
        header.reserved = 0 ∧
        header.feedbackFormat.toNat ≤ 15 := by
  simp [isValid, UInt32.lt_iff_toNat_lt, Identity.isValidShortNetworkID_iff,
    Identity.isValidShortRadioDeviceID_iff]

variable {header : Plcf21}

private theorem octet7_valueReserved (valid : header.isValid = true) :
    ((header.numberOfSpatialStreams <<< 6).toUInt8 |||
        header.reserved.toUInt8).toNat =
      header.middle := by
  obtain ⟨_, _, _, _, _, _, streamsBound, unreserved, _⟩ :=
    isValid_iff.mp valid
  have reservedValue : header.reserved.toNat = 0 := by
    rw [unreserved]
    rfl
  exact toNat_two (by decide)
    (show header.numberOfSpatialStreams.toNat * 64 < 256 by omega)
    (show header.reserved.toNat < 64 by omega)

/-- `pack` writes the encoding of the object. -/
theorem pack_eq_write
    (baseValid : header.toPlcfBase.isValid = true)
    (valid : header.isValid = true)
    (memberValid :
      header.feedbackInfoPool.memberIsValid header.feedbackFormat = true) :
    ∃ octets,
      header.Encodes
        (header.feedbackInfoPool.code header.feedbackFormat) octets ∧
      ∀ front memory,
        header.pack front memory = .ok (memory.write front octets) := by
  obtain ⟨octet0, value0, packBase⟩ := PlcfBase.pack_eq_write baseValid
  obtain ⟨_, ⟨_, networkBound⟩, _, powerBound, mcsBound, _⟩ :=
    isValid_iff.mp valid
  obtain ⟨octets, encodes, packFeedback⟩ :=
    EncodesType2.of_pack value0 (octet7_valueReserved valid) networkBound
      powerBound (by omega) memberValid
  refine ⟨octets, encodes, fun front memory => ?_⟩
  have packed := packFeedback front memory
  simpa [pack, packBase, valid, Memory.assign_behind,
    Memory.l2bLower_behind, Memory.assignOr_inside, toBigEndian_two]
    using packed

variable {octets : List UInt8}

/-- `unpack` of an encoding whose feedback is accepted restores the object. -/
theorem unpack_of_encodesFeedback
    (target : Plcf21)
    {feedbackCode : Nat}
    {pool : FeedbackInfo.Pool}
    (baseValid : header.toPlcfBase.isValid = true)
    (valid : header.isValid = true)
    (codeBound : feedbackCode < 4096)
    (encodes : header.Encodes feedbackCode octets)
    (unpackFeedback :
      target.feedbackInfoPool.unpack header.feedbackFormat octets 8 =
        .ok (true, pool)) :
    target.unpack octets =
      .ok (true, { header with feedbackInfoPool := pool }) := by
  obtain ⟨_, _, ⟨_, transmitterBound⟩, powerBound, mcsBound,
    ⟨_, receiverBound⟩, streamsBound, unreserved, _⟩ :=
    isValid_iff.mp valid
  have reservedValue : header.reserved.toNat = 0 := by
    rw [unreserved]
    rfl
  obtain ⟨octet0, octet1, octet4, octet7, octet8, transmitter, receiver,
    load0, value0, load1, network, loadTransmitter, transmitterValue,
    load4, power, mcs, loadReceiver, receiverValue, load7, value7, load8,
    format⟩ :=
    encodes.loads transmitterBound receiverBound powerBound (by omega)
      codeBound
  have unpackBase :=
    PlcfBase.unpack_of_code target.toPlcfBase baseValid load0 value0
  unfold middle at value7
  have streams : extract octet7 6 0b11 = header.numberOfSpatialStreams := by
    apply UInt32.toNat_inj.mp
    simp
    omega
  have reserved : extract octet7 0 0b111111 = header.reserved := by
    apply UInt32.toNat_inj.mp
    simp
    omega
  simp only [unpack, unpackBase, load1, load4, load7, load8,
    loadTransmitter, loadReceiver, ok_bind, not_true_eq_false,
    ↓reduceIte, pure_eq_ok, format, unpackFeedback, network,
    transmitterValue, receiverValue, power, mcs, streams, reserved]
  exact congrArg (fun verdict =>
      Except.ok (verdict, { header with feedbackInfoPool := pool }))
    valid

/-- `unpack` of an encoding restores the object up to its feedback. -/
theorem unpack_of_encodes
    (target : Plcf21)
    (baseValid : header.toPlcfBase.isValid = true)
    (valid : header.isValid = true)
    (memberValid :
      header.feedbackInfoPool.memberIsValid header.feedbackFormat = true)
    (encodes :
      header.Encodes
        (header.feedbackInfoPool.code header.feedbackFormat) octets) :
    target.unpack octets =
      .ok (true, { header with
        feedbackInfoPool :=
          header.feedbackInfoPool.restoredInto target.feedbackInfoPool
            header.feedbackFormat }) := by
  have codeBound := (FeedbackInfo.Pool.pack_writes memberValid).code_lt
  exact unpack_of_encodesFeedback target baseValid valid codeBound encodes
    (FeedbackInfo.Pool.unpack_of_holds target.feedbackInfoPool
      memberValid (encodes.holds codeBound))

/-- Accepted octets encode the object with the code of the received feedback. -/
theorem encodes_of_unpack
    {target header : Plcf21}
    (size : octets.length = 10)
    (accepted : target.unpack octets = .ok (true, header)) :
    header.toPlcfBase.isValid = true ∧
      header.isValid = true ∧
      header.feedbackInfoPool.memberIsValid header.feedbackFormat = true ∧
      ∃ received,
        header.Encodes received octets ∧
        FeedbackInfo.Holds octets 8 received ∧
        header.feedbackInfoPool.code header.feedbackFormat =
          received -
            (if FeedbackInfo.Pool.carriesBufferStatus
                header.feedbackFormat then
              FeedbackInfo.drift received
            else 0) := by
  obtain ⟨octet0, octet1, octet2, octet3, octet4, octet5, octet6,
    octet7, octet8, octet9, rfl, load0, load1, loadTransmitter, load4,
    loadReceiver, load7, load8⟩ :=
    EncodesType2.reads_of_length size
  obtain ⟨base, unpackBase, accepted⟩ :=
    Checked.accepted_of_bind accepted fun _ => ⟨_, rfl⟩
  obtain ⟨baseIsValid, read0, reload0, value0⟩ :=
    PlcfBase.code_of_unpack unpackBase
  cases load0.symm.trans reload0
  simp only [not_true_eq_false, ↓reduceIte, load1, load4, load7, load8,
    loadTransmitter, loadReceiver, ok_bind] at accepted
  obtain ⟨feedback, unpackFeedback, accepted⟩ :=
    Checked.accepted_of_bind accepted fun _ => ⟨_, rfl⟩
  obtain ⟨memberValid, received, holds, code⟩ :=
    FeedbackInfo.Pool.code_of_unpack unpackFeedback
  simp only [not_true_eq_false, ↓reduceIte, pure_eq_ok,
    Except.ok.injEq, Prod.mk.injEq] at accepted
  obtain ⟨valid, rfl⟩ := accepted
  refine ⟨baseIsValid, valid, memberValid, received, ?_, holds, code⟩
  have encodes := EncodesType2.of_reads value0 holds
  have octet7Bound := octet7.toNat_lt
  convert encodes using 1
  simp [middle]
  omega

end Plcf21

end DectNrp
