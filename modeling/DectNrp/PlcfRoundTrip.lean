import DectNrp.PlcfType2Codec

namespace DectNrp

/-!
# Sending and receiving a control field

A packed object is compared with the object a receiver unpacks.  Every field
arrives unchanged except for a buffer size, which is replaced by the lower
bound of its class.  That bound is the upper bound of the class below, so only
an empty buffer keeps its class.
-/

namespace FeedbackInfo

/-- A received size stands for the sent one if it is in the same class. -/
def SameClass
    (sent received : UInt32) :
    Prop :=
  bufferSize2BufferStatus received = bufferSize2BufferStatus sent

/-- Only an empty buffer is restored into its own class. -/
theorem sameClass_restored_iff
    {bufferSize : UInt32} :
    SameClass bufferSize
        (bufferSizeLower (bufferSize2BufferStatus bufferSize)) ↔
      bufferSize = 0 := by
  have fourBits := bufferSize2BufferStatus_le bufferSize
  have lower := bufferSize2BufferStatus_lower fourBits
  rw [SameClass, ← bufferSize2BufferStatus_eq_zero]
  constructor
  · intro sameClass
    rw [sameClass] at lower
    apply UInt32.toNat_inj.mp
    rw [UInt32.toNat_zero]
    omega
  · intro firstClass
    rw [firstClass]
    rfl

namespace Pool

/-- The selected object was received as sent, a buffer size up to its class. -/
def Restores
    (sent received : Pool)
    (feedbackFormat : UInt32) :
    Prop :=
  match feedbackFormat with
  | 1 =>
      received.f1 =
          { sent.f1 with bufferSize := received.f1.bufferSize } ∧
        SameClass sent.f1.bufferSize received.f1.bufferSize
  | 2 =>
      received.f2 =
          { sent.f2 with bufferSize := received.f2.bufferSize } ∧
        SameClass sent.f2.bufferSize received.f2.bufferSize
  | 3 => received.f3 = sent.f3
  | 4 => received.f4 = sent.f4
  | 5 => received.f5 = sent.f5
  | 6 =>
      received.f6 =
          { sent.f6 with bufferSize := received.f6.bufferSize } ∧
        SameClass sent.f6.bufferSize received.f6.bufferSize
  | _ => True

/-- What a receiver restores is what was sent unless a buffer size is lost. -/
theorem restores_restoredInto_iff
    {sent target : Pool}
    {feedbackFormat : UInt32}
    (valid : sent.memberIsValid feedbackFormat = true) :
    sent.Restores (sent.restoredInto target feedbackFormat)
        feedbackFormat ↔
      ∀ bufferSize,
        sent.bufferSize? feedbackFormat = some bufferSize →
          bufferSize = 0 := by
  rcases format_of_memberIsValid valid with
      rfl | rfl | rfl | rfl | rfl | rfl | rfl
  · simp [Restores, bufferSize?]
  · simp [Restores, restoredInto, bufferSize?, F1.restored,
      sameClass_restored_iff]
  · simp [Restores, restoredInto, bufferSize?, F2.restored,
      sameClass_restored_iff]
  · simp [Restores, restoredInto, bufferSize?]
  · simp [Restores, restoredInto, bufferSize?]
  · simp [Restores, restoredInto, bufferSize?]
  · simp [Restores, restoredInto, bufferSize?, F6.restored,
      sameClass_restored_iff]

end Pool

end FeedbackInfo

namespace PlcfKind

/-- Octets, shared fields and the selected feedback are all in range. -/
def packable
    (kind : PlcfKind)
    (header : kind.Header) :
    Bool :=
  (kind.base header).isValid && kind.isValid header &&
    match kind.feedback header with
    | none => true
    | some (feedbackFormat, pool) => pool.memberIsValid feedbackFormat

/-- Buffer size that is sent as part of the feedback. -/
def bufferSize?
    (kind : PlcfKind)
    (header : kind.Header) :
    Option UInt32 :=
  match kind.feedback header with
  | none => none
  | some (feedbackFormat, pool) => pool.bufferSize? feedbackFormat

/-- Every field was received as sent, a buffer size up to its class. -/
def Restores :
    (kind : PlcfKind) → (sent received : kind.Header) → Prop
  | .plcf10, sent, received => received = sent
  | .plcf20, sent, received =>
      received =
          { sent with feedbackInfoPool := received.feedbackInfoPool } ∧
        sent.feedbackInfoPool.Restores received.feedbackInfoPool
          sent.feedbackFormat
  | .plcf21, sent, received =>
      received =
          { sent with feedbackInfoPool := received.feedbackInfoPool } ∧
        sent.feedbackInfoPool.Restores received.feedbackInfoPool
          sent.feedbackFormat

/-- The object that `target` becomes when it unpacks what was sent. -/
def received :
    (kind : PlcfKind) → (sent target : kind.Header) → kind.Header
  | .plcf10, sent, _ => sent
  | .plcf20, sent, target =>
      { sent with
        feedbackInfoPool :=
          sent.feedbackInfoPool.restoredInto target.feedbackInfoPool
            sent.feedbackFormat }
  | .plcf21, sent, target =>
      { sent with
        feedbackInfoPool :=
          sent.feedbackInfoPool.restoredInto target.feedbackInfoPool
            sent.feedbackFormat }

/-- The octets at which a packed object arrives in memory. -/
def PacksTo
    (kind : PlcfKind)
    (header : kind.Header)
    (octets : List UInt8) :
    Prop :=
  ∀ (front : Nat) (memory : Memory),
    kind.pack header front memory = .ok (memory.write front octets)

/--
Packing writes exactly the octets of the kind, and unpacking them into any
object of the kind restores every field.
-/
def RoundTrips
    (kind : PlcfKind)
    (sent : kind.Header) :
    Prop :=
  ∃ octets,
    octets.length = kind.getPackedSize ∧
    kind.PacksTo sent octets ∧
    ∀ target,
      ∃ received,
        kind.unpack target octets = .ok (true, received) ∧
        kind.Restores sent received

variable {kind : PlcfKind}

/-- Octets of one size that an object packs to are unique. -/
theorem PacksTo.unique
    {header : kind.Header}
    {first second : List UInt8}
    (packsFirst : kind.PacksTo header first)
    (packsSecond : kind.PacksTo header second)
    (sameSize : first.length = second.length) :
    first = second := by
  have sameMemory :
      Memory.write 0 first (fun _ => 0) = Memory.write 0 second (fun _ => 0) :=
    Except.ok.inj
      ((packsFirst 0 fun _ => 0).symm.trans (packsSecond 0 fun _ => 0))
  rw [← Memory.window_write 0 first fun _ => 0, sameMemory, sameSize,
    Memory.window_write]

/-- A packable object is packed to octets that unpack to its restored form. -/
theorem unpack_pack
    {sent : kind.Header}
    (valid : kind.packable sent = true) :
    ∃ octets,
      octets.length = kind.getPackedSize ∧
      kind.PacksTo sent octets ∧
      ∀ target,
        kind.unpack target octets = .ok (true, kind.received sent target) := by
  cases kind with
  | plcf10 =>
      simp only [packable, feedback, Bool.and_true, Bool.and_eq_true] at valid
      obtain ⟨octets, encodes, packs⟩ := Plcf10.pack_eq_write valid.1 valid.2
      refine ⟨octets, ?_, packs, fun target =>
        Plcf10.unpack_of_encodes target valid.1 valid.2 encodes⟩
      obtain ⟨_, _, _, rfl, _⟩ := encodes
      rfl
  | plcf20 =>
      simp only [packable, feedback, Bool.and_eq_true] at valid
      obtain ⟨⟨baseValid, headerValid⟩, memberValid⟩ := valid
      obtain ⟨octets, encodes, packs⟩ :=
        Plcf20.pack_eq_write baseValid headerValid memberValid
      exact ⟨octets, encodes.length, packs, fun target =>
        Plcf20.unpack_of_encodes target baseValid headerValid
          memberValid encodes⟩
  | plcf21 =>
      simp only [packable, feedback, Bool.and_eq_true] at valid
      obtain ⟨⟨baseValid, headerValid⟩, memberValid⟩ := valid
      obtain ⟨octets, encodes, packs⟩ :=
        Plcf21.pack_eq_write baseValid headerValid memberValid
      exact ⟨octets, encodes.length, packs, fun target =>
        Plcf21.unpack_of_encodes target baseValid headerValid
          memberValid encodes⟩

/-- The restored form has all fields exactly if no buffer size is lost. -/
theorem restores_received_iff
    {sent target : kind.Header}
    (valid : kind.packable sent = true) :
    kind.Restores sent (kind.received sent target) ↔
      ∀ bufferSize,
        kind.bufferSize? sent = some bufferSize → bufferSize = 0 := by
  cases kind with
  | plcf10 => simp [Restores, received, PlcfKind.bufferSize?, feedback]
  | plcf20 =>
      simp only [packable, feedback, Bool.and_eq_true] at valid
      simpa [Restores, received, PlcfKind.bufferSize?, feedback] using
        FeedbackInfo.Pool.restores_restoredInto_iff valid.2
  | plcf21 =>
      simp only [packable, feedback, Bool.and_eq_true] at valid
      simpa [Restores, received, PlcfKind.bufferSize?, feedback] using
        FeedbackInfo.Pool.restores_restoredInto_iff valid.2

/--
A packable object survives packing and unpacking exactly if it reports an
empty buffer or no buffer at all.
-/
theorem roundTrips_iff
    {kind : PlcfKind}
    {sent : kind.Header}
    (valid : kind.packable sent = true) :
    kind.RoundTrips sent ↔
      ∀ bufferSize,
        kind.bufferSize? sent = some bufferSize → bufferSize = 0 := by
  obtain ⟨octets, size, packs, unpacks⟩ := unpack_pack valid
  constructor
  · rintro ⟨others, otherSize, otherPacks, restores⟩
    have sameOctets : others = octets :=
      otherPacks.unique packs (otherSize.trans size.symm)
    obtain ⟨header, unpacked, restored⟩ := restores sent
    rw [sameOctets, unpacks sent] at unpacked
    cases unpacked
    exact (restores_received_iff valid).mp restored
  · intro nothingLost
    exact ⟨octets, size, packs, fun target =>
      ⟨_, unpacks target, (restores_received_iff valid).mpr nothingLost⟩⟩

/-- A device that reports its buffer size in feedback format 1. -/
def reportingBuffer (bufferSize : UInt32) : Plcf20 where
  headerFormat := 0
  packetLengthType := 0
  packetLengthM1 := 3
  transmitPower := 5
  dfmcs := 2
  shortNetworkID := 17
  transmitterIdentity := 1000
  receiverIdentity := 2000
  numberOfSpatialStreams := 0
  dfRedundancyVersion := 0
  dfNewDataIndication := 1
  dfHARQProcessNumber := 4
  feedbackFormat := 1
  feedbackInfoPool := {
    f1 := ⟨3, .ack, bufferSize, 4⟩
    f2 := ⟨0, .singleLayer, 0, 0⟩
    f3 := ⟨0, .nack, 0, .nack, 0⟩
    f4 := ⟨0, 0⟩
    f5 := ⟨0, .nack, .singleLayer, 0⟩
    f6 := ⟨0, 0, 0, 0⟩
  }

/-- A device with an empty buffer is understood. -/
theorem roundTrips_reportingEmptyBuffer :
    plcf20.packable (reportingBuffer 0) = true ∧
      plcf20.RoundTrips (reportingBuffer 0) :=
  ⟨by decide, (roundTrips_iff (by decide)).mpr (by
    intro bufferSize reported
    exact (Option.some.inj reported).symm)⟩

/-- A device with 17 octets to send is understood to have at most 16. -/
theorem not_roundTrips_reportingBuffer :
    plcf20.packable (reportingBuffer 17) = true ∧
      ¬ plcf20.RoundTrips (reportingBuffer 17) := by
  refine ⟨by decide, ?_⟩
  rintro ⟨octets, size, packs, restores⟩
  obtain ⟨others, otherSize, otherPacks, unpacks⟩ :=
    unpack_pack (show plcf20.packable (reportingBuffer 17) = true by
      decide)
  have sameOctets : octets = others :=
    packs.unique otherPacks (size.trans otherSize.symm)
  obtain ⟨header, unpacked, restored⟩ := restores (reportingBuffer 17)
  rw [sameOctets, unpacks] at unpacked
  cases unpacked
  have sameClass : FeedbackInfo.SameClass 17 16 := restored.2.2
  exact absurd sameClass (by unfold FeedbackInfo.SameClass; decide)

end PlcfKind

end DectNrp
