import DectNrp.PlcfRoundTrip

namespace DectNrp

/-!
# Re-encoding an accepted control field

A relay that unpacks a control field and packs it again sends the same octets
unless the feedback carries a nonzero buffer status.  Such a status is lowered
by one with every further decoding and encoding.
-/

open BitFields

namespace FeedbackInfo

theorem reencoded_eq_iff
    {received : Nat}
    {carries : Bool} :
    received - (if carries then drift received else 0) = received ↔
      (carries = true → received % 256 / 16 = 0) := by
  unfold drift
  cases carries with
  | false => simp
  | true =>
      simp only [↓reduceIte, forall_const]
      split <;> omega

theorem reencoded_inj
    {first second : Nat}
    {carries : Bool}
    (sameStatus : carries = true → first % 256 / 16 = second % 256 / 16)
    (sameCode :
      first - (if carries then drift first else 0) =
        second - (if carries then drift second else 0)) :
    first = second := by
  unfold drift at sameCode
  cases carries with
  | false => simpa using sameCode
  | true =>
      have status := sameStatus rfl
      simp only [↓reduceIte, status] at sameCode
      split at sameCode <;> omega

end FeedbackInfo

namespace EncodesType2

section

variable {base : PlcfBase}
variable {shortNetworkID : UInt32}
variable {transmitterIdentity : UInt32}
variable {receiverIdentity : UInt32}
variable {middle : Nat}
variable {feedbackFormat : UInt32}
variable {feedbackCode : Nat}
variable {octets : List UInt8}

theorem code_unique
    {otherCode : Nat}
    (encodes :
      EncodesType2 base shortNetworkID transmitterIdentity
        receiverIdentity middle feedbackFormat feedbackCode octets)
    (otherEncodes :
      EncodesType2 base shortNetworkID transmitterIdentity
        receiverIdentity middle feedbackFormat otherCode octets) :
    feedbackCode = otherCode := by
  obtain ⟨_, _, _, _, octet8, octet9, rfl, _, _, _, _, value8, value9⟩ :=
    encodes
  obtain ⟨_, _, _, _, other8, other9, shape, _, _, _, _, otherValue8,
    otherValue9⟩ := otherEncodes
  simp only [List.cons.injEq, and_true] at shape
  obtain ⟨_, _, _, _, _, _, _, _, rfl, rfl⟩ := shape
  omega

end

end EncodesType2

namespace PlcfKind

/-- Buffer status index among ten received octets of type 2. -/
def statusOfType2? (octets : List UInt8) : Option Nat :=
  if FeedbackInfo.Pool.carriesBufferStatus
      (extract (octets.getD 8 0) 4 0b1111) then
    some ((octets.getD 9 0).toNat / 16)
  else
    none

/-- Buffer status index among the received octets, if they carry one. -/
def bufferStatus? : PlcfKind → List UInt8 → Option Nat
  | .plcf10, _ => none
  | .plcf20, octets => statusOfType2? octets
  | .plcf21, octets => statusOfType2? octets

theorem statusOfType2?_of_encodes
    {base : PlcfBase}
    {shortNetworkID transmitterIdentity receiverIdentity : UInt32}
    {middle : Nat}
    {feedbackFormat : UInt32}
    {feedbackCode : Nat}
    {octets : List UInt8}
    (encodes :
      EncodesType2 base shortNetworkID transmitterIdentity
        receiverIdentity middle feedbackFormat feedbackCode octets)
    (codeBound : feedbackCode < 4096) :
    statusOfType2? octets =
      if FeedbackInfo.Pool.carriesBufferStatus feedbackFormat then
        some (feedbackCode % 256 / 16)
      else none := by
  obtain ⟨_, _, _, _, octet8, octet9, rfl, _, _, _, _, value8, value9⟩ :=
    encodes
  have octet8Bound := octet8.toNat_lt
  have format : extract octet8 4 0b1111 = feedbackFormat := by
    apply UInt32.toNat_inj.mp
    simp
    omega
  simp [statusOfType2?, format, value9]

section

variable {base : PlcfBase}
variable {shortNetworkID : UInt32}
variable {transmitterIdentity : UInt32}
variable {receiverIdentity : UInt32}
variable {middle : Nat}
variable {feedbackFormat : UInt32}

/-- Type 2 octets are re-encoded unchanged unless a nonzero status is lowered. -/
theorem reencoded_octets_eq_iff
    {feedbackCode reencodedCode : Nat}
    {octets reencoded : List UInt8}
    (encodes :
      EncodesType2 base shortNetworkID transmitterIdentity
        receiverIdentity middle feedbackFormat feedbackCode octets)
    (reencodes :
      EncodesType2 base shortNetworkID transmitterIdentity
        receiverIdentity middle feedbackFormat reencodedCode reencoded)
    (codeBound : feedbackCode < 4096)
    (code :
      reencodedCode =
        feedbackCode -
          (if FeedbackInfo.Pool.carriesBufferStatus feedbackFormat then
            FeedbackInfo.drift feedbackCode
          else 0)) :
    reencoded = octets ↔
      ∀ status, statusOfType2? octets = some status → status = 0 := by
  rw [statusOfType2?_of_encodes encodes codeBound]
  have sameCode : reencoded = octets ↔ reencodedCode = feedbackCode := by
    constructor
    · rintro rfl
      exact reencodes.code_unique encodes
    · rintro rfl
      exact reencodes.unique encodes
  rw [sameCode, code, FeedbackInfo.reencoded_eq_iff]
  split <;> simp_all

/-- Two accepted sequences with one object differ in the status at most. -/
theorem octets_eq_iff_status
    {firstCode secondCode : Nat}
    {first second : List UInt8}
    (firstEncodes :
      EncodesType2 base shortNetworkID transmitterIdentity
        receiverIdentity middle feedbackFormat firstCode first)
    (secondEncodes :
      EncodesType2 base shortNetworkID transmitterIdentity
        receiverIdentity middle feedbackFormat secondCode second)
    (firstBound : firstCode < 4096)
    (secondBound : secondCode < 4096)
    (sameCode :
      firstCode -
        (if FeedbackInfo.Pool.carriesBufferStatus feedbackFormat then
          FeedbackInfo.drift firstCode
        else 0) =
        secondCode -
          (if FeedbackInfo.Pool.carriesBufferStatus feedbackFormat then
            FeedbackInfo.drift secondCode
          else 0)) :
    second = first ↔ statusOfType2? second = statusOfType2? first := by
  constructor
  · rintro rfl
    rfl
  · intro sameStatus
    rw [statusOfType2?_of_encodes firstEncodes firstBound,
      statusOfType2?_of_encodes secondEncodes secondBound]
      at sameStatus
    have equalCode : firstCode = secondCode := by
      refine FeedbackInfo.reencoded_inj (fun carries => ?_) sameCode
      simpa [carries] using sameStatus.symm
    subst equalCode
    exact secondEncodes.unique firstEncodes

end

variable {kind : PlcfKind}

/-- The octets written are the only ones of their size an object packs to. -/
theorem PacksTo.packsTo_iff
    {header : kind.Header}
    {written octets : List UInt8}
    (packs : kind.PacksTo header written)
    (sameSize : written.length = octets.length) :
    kind.PacksTo header octets ↔ written = octets := by
  constructor
  · intro packsOctets
    exact packs.unique packsOctets sameSize
  · rintro rfl
    exact packs

/-- Accepted octets are packed again unless they carry a nonzero status. -/
theorem packsTo_accepted_iff
    {target header : kind.Header}
    {octets : List UInt8}
    (size : octets.length = kind.getPackedSize)
    (accepted : kind.unpack target octets = .ok (true, header)) :
    kind.PacksTo header octets ↔
      ∀ status, kind.bufferStatus? octets = some status → status = 0 := by
  cases kind with
  | plcf10 =>
      obtain ⟨baseValid, valid, encodes⟩ :=
        Plcf10.encodes_of_unpack size accepted
      obtain ⟨written, writtenEncodes, packs⟩ :=
        Plcf10.pack_eq_write baseValid valid
      rw [writtenEncodes.unique encodes] at packs
      exact iff_of_true packs (by simp [bufferStatus?])
  | plcf20 =>
      obtain ⟨baseValid, valid, memberValid, received, encodes, holds,
        code⟩ := Plcf20.encodes_of_unpack size accepted
      obtain ⟨written, writtenEncodes, packs⟩ :=
        Plcf20.pack_eq_write baseValid valid memberValid
      have packsTo : PacksTo plcf20 header written := packs
      rw [packsTo.packsTo_iff (writtenEncodes.length.trans size.symm)]
      exact reencoded_octets_eq_iff encodes writtenEncodes holds.code_lt code
  | plcf21 =>
      obtain ⟨baseValid, valid, memberValid, received, encodes, holds,
        code⟩ := Plcf21.encodes_of_unpack size accepted
      obtain ⟨written, writtenEncodes, packs⟩ :=
        Plcf21.pack_eq_write baseValid valid memberValid
      have packsTo : PacksTo plcf21 header written := packs
      rw [packsTo.packsTo_iff (writtenEncodes.length.trans size.symm)]
      exact reencoded_octets_eq_iff encodes writtenEncodes holds.code_lt code

theorem accepted_eq_iff
    {firstTarget secondTarget header : kind.Header}
    {first second : List UInt8}
    (firstSize : first.length = kind.getPackedSize)
    (secondSize : second.length = kind.getPackedSize)
    (firstAccepted : kind.unpack firstTarget first = .ok (true, header))
    (secondAccepted : kind.unpack secondTarget second = .ok (true, header)) :
    second = first ↔ kind.bufferStatus? second = kind.bufferStatus? first := by
  cases kind with
  | plcf10 =>
      obtain ⟨_, _, firstEncodes⟩ :=
        Plcf10.encodes_of_unpack firstSize firstAccepted
      obtain ⟨_, _, secondEncodes⟩ :=
        Plcf10.encodes_of_unpack secondSize secondAccepted
      exact iff_of_true (secondEncodes.unique firstEncodes) rfl
  | plcf20 =>
      obtain ⟨_, _, _, firstCode, firstEncodes, firstHolds, fromFirst⟩ :=
        Plcf20.encodes_of_unpack firstSize firstAccepted
      obtain ⟨_, _, _, secondCode, secondEncodes, secondHolds,
        fromSecond⟩ :=
        Plcf20.encodes_of_unpack secondSize secondAccepted
      exact octets_eq_iff_status firstEncodes secondEncodes
        firstHolds.code_lt secondHolds.code_lt
        (fromFirst.symm.trans fromSecond)
  | plcf21 =>
      obtain ⟨_, _, _, firstCode, firstEncodes, firstHolds, fromFirst⟩ :=
        Plcf21.encodes_of_unpack firstSize firstAccepted
      obtain ⟨_, _, _, secondCode, secondEncodes, secondHolds,
        fromSecond⟩ :=
        Plcf21.encodes_of_unpack secondSize secondAccepted
      exact octets_eq_iff_status firstEncodes secondEncodes
        firstHolds.code_lt secondHolds.code_lt
        (fromFirst.symm.trans fromSecond)

/--
Accepted octets are packed again exactly if they carry no buffer status other
than zero, and they are the only octets of their object with their status.
-/
theorem reencoding_stable_iff
    {kind : PlcfKind}
    {target header : kind.Header}
    {octets : List UInt8}
    (size : octets.length = kind.getPackedSize)
    (accepted : kind.unpack target octets = .ok (true, header)) :
    (kind.PacksTo header octets ↔
      ∀ status,
        kind.bufferStatus? octets = some status → status = 0) ∧
    ∀ (otherTarget : kind.Header) (other : List UInt8),
      other.length = kind.getPackedSize →
      kind.unpack otherTarget other = .ok (true, header) →
      (other = octets ↔
        kind.bufferStatus? other = kind.bufferStatus? octets) :=
  ⟨packsTo_accepted_iff size accepted,
    fun _ _ otherSize otherAccepted =>
      accepted_eq_iff size otherSize accepted otherAccepted⟩

/-- Ten octets with feedback format 1 and the given last octet. -/
def reportingStatus (octet9 : UInt8) : List UInt8 :=
  [3, 17, 3, 232, 82, 7, 208, 12, 23, octet9]

/-- A report of an empty buffer is relayed unchanged. -/
theorem reencoding_stable_reportingEmptyBuffer :
    plcf20.PacksTo (reportingBuffer 0) (reportingStatus 5) :=
  (reencoding_stable_iff (by decide)
    (show plcf20.unpack (reportingBuffer 0) (reportingStatus 5) =
      .ok (true, reportingBuffer 0) by decide)).1.mpr (by
    intro status reported
    exact (Option.some.inj reported).symm)

/-- Buffer status 3 is not relayed as buffer status 3. -/
theorem not_reencoding_stable_reportingBuffer :
    plcf20.unpack (reportingBuffer 0) (reportingStatus 53) =
        .ok (true, reportingBuffer 32) ∧
      ¬ plcf20.PacksTo (reportingBuffer 32) (reportingStatus 53) := by
  have accepted :
      plcf20.unpack (reportingBuffer 0) (reportingStatus 53) =
        .ok (true, reportingBuffer 32) := by
    decide
  refine ⟨accepted, fun packs => ?_⟩
  have unchanged :=
    (packsTo_accepted_iff (by decide) accepted).mp packs 3
      (by decide)
  exact absurd unchanged (by decide)

end PlcfKind

end DectNrp
