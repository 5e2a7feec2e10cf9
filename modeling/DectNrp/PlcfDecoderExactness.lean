import DectNrp.PlcfDecoder
import DectNrp.PlcfType2Codec

namespace DectNrp

/-!
# Exactness of the control field decoder

Objects of earlier packets remain in the decoder.  Nevertheless a base pointer
is returned exactly if the octets of its type are accepted, and it then points
to the fields of these octets: neither an earlier packet nor the other type of
the same packet can be seen.
-/

open BitFields (extract)
open Checked (accepted_of_bind bind_eq_ok ok_bind pure_eq_ok)

namespace FeedbackInfo.Pool

/-- The object of the selected format holds what the octets say. -/
def ReadFrom
    (pool : Pool)
    (feedbackFormat : UInt32)
    (octets : List UInt8)
    (pointer : Nat) :
    Prop :=
  match feedbackFormat with
  | 0 => Holds octets pointer 0
  | 1 => F1.unpack octets pointer = .ok (true, pool.f1)
  | 2 => F2.unpack octets pointer = .ok (true, pool.f2)
  | 3 => F3.unpack octets pointer = .ok (true, pool.f3)
  | 4 => F4.unpack octets pointer = .ok (true, pool.f4)
  | 5 => F5.unpack octets pointer = .ok (true, pool.f5)
  | 6 => F6.unpack octets pointer = .ok (true, pool.f6)
  | _ => False

variable
  {octets : List UInt8}
  {pointer : Nat}

/-- Two readable octets are unpacked without fault. -/
theorem unpack_total
    (pool : Pool)
    (feedbackFormat : UInt32)
    (inside : pointer + 1 < octets.length) :
    ∃ valid received,
      pool.unpack feedbackFormat octets pointer = .ok (valid, received) := by
  have load0 := loadOctet_of_lt (show pointer < octets.length by omega)
  have load1 := loadOctet_of_lt inside
  unfold unpack
  split
  · simp only [load0, load1, ok_bind]
    split
    · exact ⟨_, _, rfl⟩
    · split <;> exact ⟨_, _, rfl⟩
  · exact ⟨_, _, by simp only [F1.unpack, load0, load1]; rfl⟩
  · exact ⟨_, _, by simp only [F2.unpack, load0, load1]; rfl⟩
  · exact ⟨_, _, by simp only [F3.unpack, load0, load1]; rfl⟩
  · exact ⟨_, _, by simp only [F4.unpack, load0, load1]; rfl⟩
  · exact ⟨_, _, by simp only [F5.unpack, load0, load1]; rfl⟩
  · exact ⟨_, _, by simp only [F6.unpack, load0, load1]; rfl⟩
  · exact ⟨_, _, rfl⟩

variable {feedbackFormat : UInt32}

/-- What is accepted has been read from the octets. -/
theorem readFrom_of_unpack
    {pool received : Pool}
    (accepted :
      pool.unpack feedbackFormat octets pointer = .ok (true, received)) :
    received.ReadFrom feedbackFormat octets pointer := by
  by_cases isNone : feedbackFormat = 0
  · subst isNone
    exact holds_of_unpack_none accepted
  · unfold unpack at accepted
    split at accepted
    · exact absurd rfl isNone
    all_goals try
      obtain ⟨⟨valid, info⟩, read, result⟩ := bind_eq_ok.mp accepted
      simp only [pure_eq_ok, Except.ok.injEq, Prod.mk.injEq] at result
      obtain ⟨rfl, rfl⟩ := result
      exact read
    · simp at accepted

/-- What some object holds is accepted into every pool. -/
theorem unpack_of_readFrom
    {pool : Pool}
    (read : pool.ReadFrom feedbackFormat octets pointer)
    (target : Pool) :
    ∃ received,
      target.unpack feedbackFormat octets pointer = .ok (true, received) := by
  unfold ReadFrom at read
  split at read
  · exact ⟨_, unpack_none_of_holds target read⟩
  all_goals try exact ⟨_, by simp only [unpack, read]; rfl⟩
  · exact absurd read id

end FeedbackInfo.Pool

/-- Accepted octets carry accepted feedback. -/
theorem Plcf20.feedback_of_unpack
    {target header : Plcf20}
    {octets : List UInt8}
    (accepted : target.unpack octets = .ok (true, header)) :
    target.feedbackInfoPool.unpack header.feedbackFormat octets 8 =
      .ok (true, header.feedbackInfoPool) := by
  obtain ⟨base, -, accepted⟩ := accepted_of_bind accepted fun _ => ⟨_, rfl⟩
  simp only [not_true_eq_false, ↓reduceIte, bind_eq_ok] at accepted
  obtain ⟨_, -, _, -, _, -, _, -, _, -, octet8, -, accepted⟩ := accepted
  obtain ⟨feedback, unpackFeedback, accepted⟩ :=
    accepted_of_bind (bind_eq_ok.mpr accepted) fun _ => ⟨_, rfl⟩
  simp only [not_true_eq_false, ↓reduceIte, pure_eq_ok,
    Except.ok.injEq, Prod.mk.injEq] at accepted
  obtain ⟨-, rfl⟩ := accepted
  exact unpackFeedback

/-- Accepted octets carry accepted feedback. -/
theorem Plcf21.feedback_of_unpack
    {target header : Plcf21}
    {octets : List UInt8}
    (accepted : target.unpack octets = .ok (true, header)) :
    target.feedbackInfoPool.unpack header.feedbackFormat octets 8 =
      .ok (true, header.feedbackInfoPool) := by
  obtain ⟨base, -, accepted⟩ := accepted_of_bind accepted fun _ => ⟨_, rfl⟩
  simp only [not_true_eq_false, ↓reduceIte, bind_eq_ok] at accepted
  obtain ⟨_, -, _, -, _, -, _, -, _, -, octet8, -, accepted⟩ := accepted
  obtain ⟨feedback, unpackFeedback, accepted⟩ :=
    accepted_of_bind (bind_eq_ok.mpr accepted) fun _ => ⟨_, rfl⟩
  simp only [not_true_eq_false, ↓reduceIte, pure_eq_ok,
    Except.ok.injEq, Prod.mk.injEq] at accepted
  obtain ⟨-, rfl⟩ := accepted
  exact unpackFeedback

namespace PlcfKind

/-- A valid object whose fields are those of the octets. -/
def ReadFrom :
    (kind : PlcfKind) → kind.Header → List UInt8 → Prop
  | .plcf10, header, octets =>
      header.toPlcfBase.isValid = true ∧ header.isValid = true ∧
        header.Encodes octets
  | .plcf20, header, octets =>
      header.toPlcfBase.isValid = true ∧ header.isValid = true ∧
        (∃ feedbackCode < 4096, header.Encodes feedbackCode octets) ∧
        header.feedbackInfoPool.ReadFrom header.feedbackFormat octets 8
  | .plcf21, header, octets =>
      header.toPlcfBase.isValid = true ∧ header.isValid = true ∧
        (∃ feedbackCode < 4096, header.Encodes feedbackCode octets) ∧
        header.feedbackInfoPool.ReadFrom header.feedbackFormat octets 8

variable
  {kind : PlcfKind}
  {octets : List UInt8}

/-- Octets of the right number are unpacked without fault. -/
theorem unpack_total
    (size : octets.length = kind.getPackedSize)
    (target : kind.Header) :
    ∃ valid header, kind.unpack target octets = .ok (valid, header) := by
  cases kind with
  | plcf10 =>
      match octets, size with
      | [octet0, octet1, octet2, octet3, octet4], _ =>
          have loadIdentity :
              b2lLower [octet0, octet1, octet2, octet3, octet4] 2 2 =
                .ok (fromBigEndian [octet2, octet3]) :=
            b2lLower_two rfl rfl
          simp only [unpack, Plcf10.unpack, PlcfBase.unpack, loadOctet,
            List.getElem?_cons_zero, List.getElem?_cons_succ,
            loadIdentity, ok_bind, pure_eq_ok]
          split <;> exact ⟨_, _, rfl⟩
  | plcf20 =>
      have inside : 8 + 1 < octets.length := by
        rw [size]
        decide
      obtain ⟨_, _, _, _, _, _, _, _, octet8, _, -, load0, load1,
        loadTransmitter, load4, loadReceiver, load7, load8⟩ :=
        EncodesType2.reads_of_length size
      obtain ⟨valid, received, feedback⟩ :=
        FeedbackInfo.Pool.unpack_total (Plcf20.feedbackInfoPool target)
          (extract octet8 4 0b1111) inside
      simp only [unpack, Plcf20.unpack, PlcfBase.unpack, load0, load1,
        loadTransmitter, load4, loadReceiver, load7, load8, feedback,
        ok_bind, pure_eq_ok]
      split
      · exact ⟨_, _, rfl⟩
      · split <;> exact ⟨_, _, rfl⟩
  | plcf21 =>
      have inside : 8 + 1 < octets.length := by
        rw [size]
        decide
      obtain ⟨_, _, _, _, _, _, _, _, octet8, _, -, load0, load1,
        loadTransmitter, load4, loadReceiver, load7, load8⟩ :=
        EncodesType2.reads_of_length size
      obtain ⟨valid, received, feedback⟩ :=
        FeedbackInfo.Pool.unpack_total (Plcf21.feedbackInfoPool target)
          (extract octet8 4 0b1111) inside
      simp only [unpack, Plcf21.unpack, PlcfBase.unpack, load0, load1,
        loadTransmitter, load4, loadReceiver, load7, load8, feedback,
        ok_bind, pure_eq_ok]
      split
      · exact ⟨_, _, rfl⟩
      · split <;> exact ⟨_, _, rfl⟩

/-- What is accepted has been read from the octets. -/
theorem readFrom_of_unpack
    (size : octets.length = kind.getPackedSize)
    {target header : kind.Header}
    (accepted : kind.unpack target octets = .ok (true, header)) :
    kind.ReadFrom header octets := by
  cases kind with
  | plcf10 => exact Plcf10.encodes_of_unpack size accepted
  | plcf20 =>
      obtain ⟨baseValid, valid, -, received, encodes, holds, -⟩ :=
        Plcf20.encodes_of_unpack size accepted
      exact ⟨baseValid, valid, ⟨received, holds.code_lt, encodes⟩,
          FeedbackInfo.Pool.readFrom_of_unpack
            (Plcf20.feedback_of_unpack accepted)⟩
  | plcf21 =>
      obtain ⟨baseValid, valid, -, received, encodes, holds, -⟩ :=
        Plcf21.encodes_of_unpack size accepted
      exact ⟨baseValid, valid, ⟨received, holds.code_lt, encodes⟩,
          FeedbackInfo.Pool.readFrom_of_unpack
            (Plcf21.feedback_of_unpack accepted)⟩

/-- What some object holds is accepted, with the same limited fields. -/
theorem unpack_of_readFrom
    {other : kind.Header}
    (read : kind.ReadFrom other octets)
    (target : kind.Header) :
    ∃ header,
      kind.unpack target octets = .ok (true, header) ∧
      kind.base header = kind.base other ∧
      kind.getNSs header = kind.getNSs other := by
  cases kind with
  | plcf10 =>
      obtain ⟨baseValid, valid, encodes⟩ := read
      exact ⟨other, Plcf10.unpack_of_encodes target baseValid valid encodes,
          rfl, rfl⟩
  | plcf20 =>
      obtain ⟨baseValid, valid, ⟨code, codeBound, encodes⟩, feedback⟩ := read
      obtain ⟨received, accepted⟩ :=
        FeedbackInfo.Pool.unpack_of_readFrom feedback
          (Plcf20.feedbackInfoPool target)
      exact ⟨_, Plcf20.unpack_of_encodesFeedback target baseValid valid
          codeBound encodes accepted, rfl, rfl⟩
  | plcf21 =>
      obtain ⟨baseValid, valid, ⟨code, codeBound, encodes⟩, feedback⟩ := read
      obtain ⟨received, accepted⟩ :=
        FeedbackInfo.Pool.unpack_of_readFrom feedback
          (Plcf21.feedbackInfoPool target)
      exact ⟨_, Plcf21.unpack_of_encodesFeedback target baseValid valid
          codeBound encodes accepted, rfl, rfl⟩

variable {header : kind.Header}

/-- The header format of an object stands in the upper bits of octet 0. -/
theorem headerFormat_of_readFrom
    (read : kind.ReadFrom header octets)
    {octet0 : UInt8}
    (load0 : loadOctet octets 0 = .ok octet0) :
    extract octet0 5 0b111 = kind.getHeaderFormat := by
  have fromCode : ∀ base : PlcfBase, base.isValid = true →
      octet0.toNat = base.code →
      extract octet0 5 0b111 = base.headerFormat := by
    intro base baseValid value
    obtain ⟨formatBound, typeBound, lengthBound⟩ :=
      PlcfBase.isValid_iff.mp baseValid
    unfold PlcfBase.code at value
    apply UInt32.toNat_inj.mp
    rw [BitFields.toNat_extract_3 _ (by decide)]
    simp
    omega
  cases kind with
  | plcf10 =>
      obtain ⟨baseValid, valid, first, _, _, rfl, value0, -⟩ := read
      cases load0
      rw [fromCode _ baseValid value0]
      exact (Plcf10.isValid_iff.mp valid).1
  | plcf20 =>
      obtain ⟨baseValid, valid, ⟨_, _, encodes⟩, -⟩ := read
      obtain ⟨first, _, _, _, _, _, rfl, value0, -⟩ := encodes
      cases load0
      rw [fromCode _ baseValid value0]
      exact (Plcf20.isValid_iff.mp valid).1
  | plcf21 =>
      obtain ⟨baseValid, valid, ⟨_, _, encodes⟩, -⟩ := read
      obtain ⟨first, _, _, _, _, _, rfl, value0, -⟩ := encodes
      cases load0
      rw [fromCode _ baseValid value0]
      exact (Plcf21.isValid_iff.mp valid).1

theorem getNSs_total (read : kind.ReadFrom header octets) :
    ∃ nSs, kind.getNSs header = .ok nSs := by
  have fromTable : ∀ streams : UInt32, streams.toNat ≤ 3 →
      ∃ nSs, elementAt PlcfBase.nSsCodedLutRev streams.toNat = .ok nSs := by
    intro streams bound
    have cases_ : streams.toNat = 0 ∨ streams.toNat = 1 ∨ streams.toNat = 2 ∨
        streams.toNat = 3 := by
      omega
    rcases cases_ with value | value | value | value <;>
      rw [value] <;> exact ⟨_, rfl⟩
  cases kind with
  | plcf10 => exact ⟨1, rfl⟩
  | plcf20 =>
      obtain ⟨_, _, _, _, _, _, streamsBound, _⟩ :=
        Plcf20.isValid_iff.mp read.2.1
      exact fromTable _ streamsBound
  | plcf21 =>
      obtain ⟨_, _, _, _, _, _, streamsBound, _⟩ :=
        Plcf21.isValid_iff.mp read.2.1
      exact fromTable _ streamsBound

end PlcfKind

/-- The fields stay within what the radio device class supports. -/
def PlcfLimits.Permits
    (limits : PlcfLimits)
    (kind : PlcfKind)
    (header : kind.Header) :
    Prop :=
  (kind.base header).getPacketLength ≤ limits.packetLengthMax ∧
    (kind.base header).dfmcs ≤ limits.mcsIndexMax ∧
    ∃ nSs, kind.getNSs header = .ok nSs ∧ nSs ≤ limits.nSsMax

namespace PlcfDecoder

/--
The octets of a type are those of a valid object of an implemented kind that
the radio device class supports.
-/
structure Acceptable
    (limits : PlcfLimits)
    (plcfType : Nat)
    (octets : List UInt8)
    (kind : PlcfKind)
    (header : kind.Header) :
    Prop where
  isType : kind.getType = plcfType
  read : kind.ReadFrom header octets
  permitted : limits.Permits kind header

theorem checkRdcLimits_spec
    (limits : PlcfLimits)
    {kind : PlcfKind}
    {header : kind.Header}
    {nSs : UInt32}
    (isNSs : kind.getNSs header = .ok nSs) :
    ∃ within,
      checkRdcLimits limits kind header = .ok within ∧
      (within = true ↔ limits.Permits kind header) := by
  unfold checkRdcLimits PlcfLimits.Permits
  by_cases longPacket :
      limits.packetLengthMax < (kind.base header).getPacketLength
  · refine ⟨false, if_pos longPacket, by simp, fun permitted => ?_⟩
    exact absurd permitted.1 (UInt32.not_le.mpr longPacket)
  · rw [if_neg longPacket]
    by_cases highMcs : limits.mcsIndexMax < (kind.base header).dfmcs
    · refine ⟨false, if_pos highMcs, by simp, fun permitted => ?_⟩
      exact absurd permitted.2.1 (UInt32.not_le.mpr highMcs)
    · rw [if_neg highMcs, isNSs]
      refine ⟨decide (nSs ≤ limits.nSsMax), rfl, ?_⟩
      rw [decide_eq_true_iff]
      constructor
      · intro few
        exact ⟨UInt32.not_lt.mp longPacket, UInt32.not_lt.mp highMcs, nSs,
            rfl, few⟩
      · rintro ⟨_, _, _, sameNSs, few⟩
        cases sameNSs
        exact few

/-- The header format that is stored for a type. -/
def headerFormatOf
    (decoder : PlcfDecoder)
    (plcfType : Nat) :
    UInt32 :=
  if plcfType = 1 then decoder.headerFormatType1
  else decoder.headerFormatType2

/-- Store the header format of a type. -/
def setHeaderFormat
    (decoder : PlcfDecoder)
    (plcfType : Nat)
    (headerFormat : UInt32) :
    PlcfDecoder :=
  if plcfType = 1 then
    { decoder with headerFormatType1 := headerFormat }
  else
    { decoder with headerFormatType2 := headerFormat }

/-- The kinds of a type are found by their header format. -/
structure Implements
    (plcfType : Nat)
    (arrayPlcf : List PlcfKind) :
    Prop where
  isType : plcfType = 1 ∨ plcfType = 2
  retrieves :
    ∀ decoder : PlcfDecoder,
      decoder.getPlcfBase plcfType =
        decoder.objectOf arrayPlcf (decoder.headerFormatOf plcfType)
  selects :
    ∀ (headerFormat : UInt32) (kind : PlcfKind),
      arrayPlcf[headerFormat.toNat]? = some kind ↔
        kind.getType = plcfType ∧ kind.getHeaderFormat = headerFormat

/-- Header formats are compared by their values. -/
private theorem eq_headerFormat_iff
    (value : UInt32)
    (headerFormat : UInt32) :
    value = headerFormat ↔ headerFormat.toNat = value.toNat := by
  rw [eq_comm, UInt32.toNat_inj]

theorem implements_type1 : Implements 1 arrayPlcfType1 where
  isType := Or.inl rfl
  retrieves := fun _ => rfl
  selects := by
    intro headerFormat kind
    cases kind <;>
      simp [arrayPlcfType1, PlcfKind.getType, PlcfKind.getHeaderFormat,
        eq_headerFormat_iff, List.getElem?_cons]

theorem implements_type2 : Implements 2 arrayPlcfType2 where
  isType := Or.inr rfl
  retrieves := fun _ => rfl
  selects := by
    intro headerFormat kind
    by_cases isZero : headerFormat.toNat = 0
    · cases kind <;> simp [arrayPlcfType2, PlcfKind.getType,
          PlcfKind.getHeaderFormat, eq_headerFormat_iff, isZero]
    · by_cases isOne : headerFormat.toNat = 1
      · cases kind <;> simp [arrayPlcfType2, PlcfKind.getType,
            PlcfKind.getHeaderFormat, eq_headerFormat_iff, isOne]
      · cases kind <;> simp [arrayPlcfType2, PlcfKind.getType,
            PlcfKind.getHeaderFormat, eq_headerFormat_iff, isZero,
            isOne, List.getElem?_cons]
        omega

variable (decoder : PlcfDecoder)

/-- An object that has been set is the object of its kind. -/
@[simp] theorem object_setObject
    (kind : PlcfKind)
    (header : kind.Header) :
    (decoder.setObject kind header).object kind = header := by
  cases kind <;> rfl

theorem object_setObject_of_type_ne
    {kind other : PlcfKind}
    (header : kind.Header)
    (differs : other.getType ≠ kind.getType) :
    (decoder.setObject kind header).object other = decoder.object other := by
  cases kind <;> cases other <;> first | rfl | exact absurd rfl differs

/-- Setting an object changes neither limits nor header formats. -/
theorem setObject_keeps
    (kind : PlcfKind)
    (header : kind.Header) :
    (decoder.setObject kind header).toPlcfLimits =
        decoder.toPlcfLimits ∧
      ∀ other,
        (decoder.setObject kind header).headerFormatOf other =
          decoder.headerFormatOf other := by
  cases kind <;> exact ⟨rfl, fun _ => rfl⟩

theorem setHeaderFormat_keeps
    (plcfType : Nat)
    (headerFormat : UInt32) :
    (decoder.setHeaderFormat plcfType headerFormat).toPlcfLimits =
        decoder.toPlcfLimits ∧
      ∀ kind,
        (decoder.setHeaderFormat plcfType headerFormat).object kind =
          decoder.object kind := by
  unfold setHeaderFormat
  split
  · exact ⟨rfl, fun kind => by cases kind <;> rfl⟩
  · exact ⟨rfl, fun kind => by cases kind <;> rfl⟩

theorem headerFormatOf_setHeaderFormat
    (plcfType : Nat)
    (headerFormat : UInt32) :
    (decoder.setHeaderFormat plcfType headerFormat).headerFormatOf
        plcfType =
      headerFormat := by
  unfold setHeaderFormat headerFormatOf
  split <;> rfl

theorem headerFormatOf_setHeaderFormat_of_ne
    {plcfType other : Nat}
    (isType : plcfType = 1 ∨ plcfType = 2)
    (isOther : other = 1 ∨ other = 2)
    (differs : other ≠ plcfType)
    (headerFormat : UInt32) :
    (decoder.setHeaderFormat plcfType headerFormat).headerFormatOf
        other =
      decoder.headerFormatOf other := by
  rcases isType with rfl | rfl <;> rcases isOther with rfl | rfl <;>
    first | rfl | exact absurd rfl differs

/-- What unpacking a candidate leaves alone. -/
structure Untouched
    (plcfType : Nat)
    (before after : PlcfDecoder) :
    Prop where
  limits : after.toPlcfLimits = before.toPlcfLimits
  headerFormats :
    ∀ other, after.headerFormatOf other = before.headerFormatOf other
  objects :
    ∀ kind : PlcfKind, kind.getType ≠ plcfType →
      after.object kind = before.object kind

theorem untouched_setObject
    (kind : PlcfKind)
    (header : kind.Header) :
    Untouched kind.getType decoder (decoder.setObject kind header) where
  limits := (setObject_keeps decoder kind header).1
  headerFormats := (setObject_keeps decoder kind header).2
  objects := fun _ differs =>
    object_setObject_of_type_ne decoder header differs

variable
  {plcfType : Nat}
  {octets : List UInt8}

variable {arrayPlcf : List PlcfKind}

theorem unpackCandidate_spec
    (isArray : Implements plcfType arrayPlcf)
    (size :
      ∀ kind : PlcfKind, kind.getType = plcfType →
        octets.length = kind.getPackedSize)
    {octet0 : UInt8}
    (load0 : loadOctet octets 0 = .ok octet0) :
    ∃ accepted after,
      decoder.unpackCandidate arrayPlcf
          (extract octet0 5 0b111) octets =
        .ok (accepted, after) ∧
      Untouched plcfType decoder after ∧
      (accepted = true →
        ∃ kind : PlcfKind,
          kind.getHeaderFormat = extract octet0 5 0b111 ∧
          Acceptable decoder.toPlcfLimits plcfType octets kind
            (after.object kind)) ∧
      (accepted = false →
        ∀ (kind : PlcfKind) (header : kind.Header),
          ¬ Acceptable decoder.toPlcfLimits plcfType octets kind header) := by
  unfold unpackCandidate
  cases selected : arrayPlcf[(extract octet0 5 0b111).toNat]? with
  | none =>
      refine
        ⟨false, decoder, rfl, ⟨rfl, fun _ => rfl, fun _ _ => rfl⟩, by simp, ?_⟩
      intro _ kind header acceptable
      have isSelected :=
        (isArray.selects (extract octet0 5 0b111) kind).mpr ⟨acceptable.isType,
            (PlcfKind.headerFormat_of_readFrom acceptable.read load0).symm⟩
      rw [selected] at isSelected
      cases isSelected
  | some kind =>
      obtain ⟨isType, isFormat⟩ := (isArray.selects _ kind).mp selected
      -- no other kind of this type has the header format
      have onlyKind : ∀ (other : PlcfKind) (header : other.Header),
          Acceptable decoder.toPlcfLimits plcfType octets other header →
          other = kind := by
        intro other header acceptable
        have isSelected :=
          (isArray.selects (extract octet0 5 0b111) other).mpr
            ⟨acceptable.isType,
              (PlcfKind.headerFormat_of_readFrom acceptable.read
              load0).symm⟩
        rw [selected] at isSelected
        exact (Option.some.inj isSelected).symm
      obtain ⟨valid, header, unpacked⟩ :=
        PlcfKind.unpack_total (size kind isType) (decoder.object kind)
      have untouched := untouched_setObject decoder kind header
      rw [isType] at untouched
      cases valid with
      | false =>
          refine
            ⟨false, decoder.setObject kind header, ?_, untouched, by simp, ?_⟩
          · simp only [unpacked, ok_bind]
            rfl
          · intro _ other otherHeader acceptable
            cases onlyKind other otherHeader acceptable
            obtain ⟨_, accepted, -, -⟩ :=
              PlcfKind.unpack_of_readFrom acceptable.read (decoder.object kind)
            rw [unpacked] at accepted
            cases accepted
      | true =>
          have read := PlcfKind.readFrom_of_unpack (size kind isType) unpacked
          obtain ⟨nSs, isNSs⟩ := PlcfKind.getNSs_total read
          obtain ⟨within, checked, permits⟩ :=
            checkRdcLimits_spec decoder.toPlcfLimits isNSs
          refine ⟨within, decoder.setObject kind header, ?_, untouched, ?_, ?_⟩
          · simp only [unpacked, ok_bind, untouched.limits,
              object_setObject, checked]
            rfl
          · intro isWithin
            refine ⟨kind, isFormat, isType, ?_, ?_⟩
            · rw [object_setObject]
              exact read
            · rw [object_setObject]
              exact permits.mp isWithin
          · intro notWithin other otherHeader acceptable
            cases onlyKind other otherHeader acceptable
            obtain ⟨_, accepted, sameBase, sameNSs⟩ :=
              PlcfKind.unpack_of_readFrom acceptable.read (decoder.object kind)
            rw [unpacked] at accepted
            cases accepted
            have permitted := acceptable.permitted
            unfold PlcfLimits.Permits at permitted
            rw [← sameBase, ← sameNSs] at permitted
            rw [permits.mpr permitted] at notWithin
            cases notWithin

/-- No object of the type belongs to the current packet. -/
def Free
    (decoder : PlcfDecoder)
    (plcfType : Nat) :
    Prop :=
  decoder.getPlcfBase plcfType = .ok none

/-- What a base pointer says about the octets of its type. -/
def Answers
    (limits : PlcfLimits)
    (plcfType : Nat)
    (octets : List UInt8) :
    Option ((kind : PlcfKind) × kind.Header) → Prop
  | none =>
      ∀ (kind : PlcfKind) (header : kind.Header),
        ¬ Acceptable limits plcfType octets kind header
  | some ⟨kind, header⟩ => Acceptable limits plcfType octets kind header

theorem objectOf_defined
    (isArray : Implements plcfType arrayPlcf)
    {kind : PlcfKind}
    (isType : kind.getType = plcfType) :
    decoder.objectOf arrayPlcf kind.getHeaderFormat =
      .ok (some ⟨kind, decoder.object kind⟩) := by
  have defined : kind.getHeaderFormat ≠ undefinedNumeric32 := by
    cases kind <;> decide
  have selected :=
    (isArray.selects kind.getHeaderFormat kind).mpr ⟨isType, rfl⟩
  rw [objectOf, if_pos defined, elementAt, selected]
  simp

/-- Header formats without an object are never those of another type. -/
theorem objectOf_undefined
    (arrayPlcf : List PlcfKind) :
    decoder.objectOf arrayPlcf undefinedNumeric32 = .ok none := by
  rw [objectOf, if_neg (not_not.mpr rfl)]
  rfl

variable
  {plcfType : Nat}
  {arrayPlcf : List PlcfKind}

variable {before after : PlcfDecoder}

/-- Only the objects of its own type are behind a base pointer. -/
theorem objectOf_congr
    (isArray : Implements plcfType arrayPlcf)
    (same :
      ∀ kind : PlcfKind, kind.getType = plcfType →
        after.object kind = before.object kind)
    (headerFormat : UInt32) :
    after.objectOf arrayPlcf headerFormat =
      before.objectOf arrayPlcf headerFormat := by
  unfold objectOf elementAt
  cases selected : arrayPlcf[headerFormat.toNat]? with
  | none => rfl
  | some kind =>
      obtain ⟨isType, -⟩ := (isArray.selects headerFormat kind).mp selected
      simp only [ok_bind, same kind isType]

variable {decoder : PlcfDecoder}

/-- A type without base pointer has no header format. -/
theorem undefined_of_objectOf
    {headerFormat : UInt32}
    (isFree : decoder.objectOf arrayPlcf headerFormat = .ok none) :
    headerFormat = undefinedNumeric32 := by
  by_contra defined
  rw [objectOf, if_pos defined] at isFree
  obtain ⟨kind, -, isFree⟩ := bind_eq_ok.mp isFree
  obtain ⟨_, -, isFree⟩ := bind_eq_ok.mp isFree
  simp at isFree

/-- A base pointer depends on the header format and objects of its type. -/
theorem getPlcfBase_congr
    (sameFormat :
      plcfType = 1 ∨ plcfType = 2 →
        after.headerFormatOf plcfType = before.headerFormatOf plcfType)
    (same :
      ∀ kind : PlcfKind, kind.getType = plcfType →
        after.object kind = before.object kind) :
    after.getPlcfBase plcfType = before.getPlcfBase plcfType := by
  by_cases isOne : plcfType = 1
  · subst isOne
    rw [implements_type1.retrieves, implements_type1.retrieves,
      sameFormat (Or.inl rfl)]
    exact objectOf_congr implements_type1 same _
  · by_cases isTwo : plcfType = 2
    · subst isTwo
      rw [implements_type2.retrieves, implements_type2.retrieves,
        sameFormat (Or.inr rfl)]
      exact objectOf_congr implements_type2 same _
    · simp [getPlcfBase, isOne, isTwo, dectnrpAssert]

/-- One call decides its own type and leaves the other one alone. -/
structure Decided
    (decoder : PlcfDecoder)
    (plcfType : Nat)
    (octets : List UInt8)
    (after : PlcfDecoder) :
    Prop where
  limits : after.toPlcfLimits = decoder.toPlcfLimits
  answers :
    ∃ found,
      after.getPlcfBase plcfType = .ok found ∧
      Answers decoder.toPlcfLimits plcfType octets found
  others :
    ∀ other, other ≠ plcfType →
      after.getPlcfBase other = decoder.getPlcfBase other

/-- A call is decided by the candidate of its type. -/
theorem decided_of_candidate
    (isArray : Implements plcfType arrayPlcf)
    (free : decoder.Free plcfType)
    (size :
      ∀ kind : PlcfKind, kind.getType = plcfType →
        octets.length = kind.getPackedSize)
    {octet0 : UInt8}
    (load0 : loadOctet octets 0 = .ok octet0) :
    ∃ accepted after,
      decoder.unpackCandidate arrayPlcf
          (extract octet0 5 0b111) octets =
        .ok (accepted, after) ∧
      decoder.Decided plcfType octets
        (if accepted then
          after.setHeaderFormat plcfType (extract octet0 5 0b111)
        else after) := by
  unfold Free at free
  rw [isArray.retrieves] at free
  have undefined := undefined_of_objectOf free
  obtain ⟨accepted, after, unpacked, untouched, ifAccepted, ifNot⟩ :=
    unpackCandidate_spec decoder isArray size load0
  refine ⟨accepted, after, unpacked, ?_⟩
  cases accepted with
  | false =>
      refine ⟨untouched.limits, ⟨none, ?_, ifNot rfl⟩, ?_⟩
      · simp only [Bool.false_eq_true, if_false]
        rw [isArray.retrieves, untouched.headerFormats, undefined]
        exact objectOf_undefined _ _
      · intro other differs
        refine getPlcfBase_congr (fun _ => untouched.headerFormats other) ?_
        intro kind isType
        exact untouched.objects kind (isType.trans_ne differs)
  | true =>
      obtain ⟨kind, isFormat, acceptable⟩ := ifAccepted rfl
      obtain ⟨sameLimits, sameObjects⟩ :=
        after.setHeaderFormat_keeps plcfType (extract octet0 5 0b111)
      simp only [if_true]
      refine ⟨sameLimits.trans untouched.limits,
          ⟨some ⟨kind, after.object kind⟩, ?_, acceptable⟩, ?_⟩
      · rw [isArray.retrieves, headerFormatOf_setHeaderFormat,
          ← isFormat, objectOf_defined _ isArray acceptable.isType,
          isFormat, sameObjects]
      · intro other differs
        refine getPlcfBase_congr (fun isOther => ?_) ?_
        · rw [headerFormatOf_setHeaderFormat_of_ne after isArray.isType
            isOther differs]
          exact untouched.headerFormats other
        · intro otherKind isType
          rw [sameObjects]
          exact untouched.objects otherKind (isType.trans_ne differs)

theorem decodeAndRdcCheck_spec
    (sized :
      (plcfType = 1 ∧ octets.length = 5) ∨ (plcfType = 2 ∧ octets.length = 10))
    (free : decoder.Free plcfType) :
    ∃ after,
      decoder.decodeAndRdcCheck plcfType octets = .ok after ∧
      decoder.Decided plcfType octets after := by
  have load0 := loadOctet_of_lt (show 0 < octets.length by omega)
  rcases sized with ⟨rfl, size⟩ | ⟨rfl, size⟩
  · have undefined : decoder.headerFormatType1 = undefinedNumeric32 :=
      undefined_of_objectOf free
    have sizes : ∀ kind : PlcfKind, kind.getType = 1 →
        octets.length = kind.getPackedSize := by
      intro kind isType
      cases kind <;> first | exact size | cases isType
    obtain ⟨accepted, after, unpacked, decided⟩ :=
      decided_of_candidate implements_type1 free sizes load0
    refine ⟨_, ?_, decided⟩
    simp only [decodeAndRdcCheck, load0, undefined, ok_bind, unpacked]
    cases accepted <;> rfl
  · have undefined : decoder.headerFormatType2 = undefinedNumeric32 :=
      undefined_of_objectOf free
    have sizes : ∀ kind : PlcfKind, kind.getType = 2 →
        octets.length = kind.getPackedSize := by
      intro kind isType
      cases kind <;> first | exact size | cases isType
    obtain ⟨accepted, after, unpacked, decided⟩ :=
      decided_of_candidate implements_type2 free sizes load0
    refine ⟨_, ?_, decided⟩
    simp only [decodeAndRdcCheck, load0, undefined, ok_bind, unpacked]
    cases accepted <;> rfl

theorem decodeCalls_spec
    {calls : List (Nat × List UInt8)}
    (sized :
      ∀ call ∈ calls,
        (call.1 = 1 ∧ call.2.length = 5) ∨ (call.1 = 2 ∧ call.2.length = 10))
    (once : (calls.map Prod.fst).Nodup)
    {decoder : PlcfDecoder}
    (free : ∀ call ∈ calls, decoder.Free call.1) :
    ∃ after,
      decodeCalls calls decoder = .ok after ∧
      after.toPlcfLimits = decoder.toPlcfLimits ∧
      (∀ call ∈ calls,
        ∃ found,
          after.getPlcfBase call.1 = .ok found ∧
          Answers decoder.toPlcfLimits call.1 call.2 found) ∧
      ∀ other, other ∉ calls.map Prod.fst →
        after.getPlcfBase other = decoder.getPlcfBase other := by
  induction calls generalizing decoder with
  | nil => exact ⟨decoder, rfl, rfl, by simp, fun _ _ => rfl⟩
  | cons call calls hypothesis =>
      obtain ⟨plcfType, octets⟩ := call
      rw [List.map_cons, List.nodup_cons] at once
      obtain ⟨notAgain, onceMore⟩ := once
      obtain ⟨between, decodes, decided⟩ :=
        decodeAndRdcCheck_spec (sized _ List.mem_cons_self)
          (free _ List.mem_cons_self)
      have stillFree : ∀ call ∈ calls, between.Free call.1 := by
        intro call member
        have differs : call.1 ≠ plcfType := by
          rintro rfl
          exact notAgain (List.mem_map.mpr ⟨call, member, rfl⟩)
        rw [Free, decided.others _ differs]
        exact free call (List.mem_cons_of_mem _ member)
      obtain ⟨after, further, sameLimits, answers, others⟩ :=
        hypothesis
          (fun call member => sized call (List.mem_cons_of_mem _ member))
          onceMore stillFree
      refine ⟨after, ?_, sameLimits.trans decided.limits, ?_, ?_⟩
      · simp only [decodeCalls, decodes, ok_bind, further]
      · intro other member
        rcases List.mem_cons.mp member with rfl | later
        · obtain ⟨found, isFound, isAnswer⟩ := decided.answers
          exact ⟨found, (others _ notAgain).trans isFound, isAnswer⟩
        · obtain ⟨found, isFound, isAnswer⟩ := answers other later
          rw [decided.limits] at isAnswer
          exact ⟨found, isFound, isAnswer⟩
      · intro other absent
        rw [List.map_cons, List.mem_cons, not_or] at absent
        rw [others other absent.2, decided.others other absent.1]

/-- A configuration frees both types. -/
theorem setConfiguration_free
    (isType : plcfType = 1 ∨ plcfType = 2) :
    decoder.setConfiguration.Free plcfType := by
  rcases isType with rfl | rfl
  · exact objectOf_undefined decoder.setConfiguration arrayPlcfType1
  · exact objectOf_undefined decoder.setConfiguration arrayPlcfType2

/-- Every packet is decoded without fault, whatever was decoded before. -/
theorem decodePacket_spec
    (packet : PlcfPacket) :
    ∃ after,
      decoder.decodePacket packet = .ok after ∧
      after.toPlcfLimits = decoder.toPlcfLimits ∧
      (∀ call ∈ packet.calls,
        ∃ found,
          after.getPlcfBase call.1 = .ok found ∧
          Answers decoder.toPlcfLimits call.1 call.2 found) ∧
      ∀ plcfType, plcfType = 1 ∨ plcfType = 2 →
        plcfType ∉ packet.calls.map Prod.fst →
        after.getPlcfBase plcfType = .ok none := by
  have free : ∀ call ∈ packet.calls, decoder.setConfiguration.Free call.1 := by
    intro call member
    refine decoder.setConfiguration_free ?_
    rcases packet.sized call member with isOne | isTwo
    · exact Or.inl isOne.1
    · exact Or.inr isTwo.1
  obtain ⟨after, decodes, sameLimits, answers, others⟩ :=
    decodeCalls_spec packet.sized packet.once free
  refine ⟨after, decodes, sameLimits, answers, ?_⟩
  intro plcfType isType absent
  rw [others plcfType absent]
  exact decoder.setConfiguration_free isType

theorem decodePackets_total
    (packets : List PlcfPacket)
    (decoder : PlcfDecoder) :
    ∃ after,
      decodePackets packets decoder = .ok after ∧
      after.toPlcfLimits = decoder.toPlcfLimits := by
  induction packets generalizing decoder with
  | nil => exact ⟨decoder, rfl, rfl⟩
  | cons packet packets hypothesis =>
      obtain ⟨between, decodes, sameLimits, -⟩ :=
        decoder.decodePacket_spec packet
      obtain ⟨after, further, stillSame⟩ := hypothesis between
      refine ⟨after, ?_, stillSame.trans sameLimits⟩
      simp only [decodePackets, decodes, ok_bind, further]

/-- A packet that follows others has the answers of its own calls. -/
theorem decodePackets_answers
    (limits : PlcfLimits)
    (plcf10 : Plcf10)
    (plcf20 : Plcf20)
    (plcf21 : Plcf21)
    (earlier : List PlcfPacket)
    (packet : PlcfPacket) :
    ∃ before after,
      decodePackets earlier (construct limits plcf10 plcf20 plcf21) =
        .ok before ∧
      before.decodePacket packet = .ok after ∧
      (∀ call ∈ packet.calls,
        ∃ found,
          after.getPlcfBase call.1 = .ok found ∧
          Answers limits call.1 call.2 found) ∧
      ∀ plcfType, plcfType = 1 ∨ plcfType = 2 →
        plcfType ∉ packet.calls.map Prod.fst →
        after.getPlcfBase plcfType = .ok none := by
  obtain ⟨before, decoded, sameLimits⟩ :=
    decodePackets_total earlier (construct limits plcf10 plcf20 plcf21)
  have isLimits : before.toPlcfLimits = limits := sameLimits
  obtain ⟨after, decodes, -, answers, absent⟩ :=
    before.decodePacket_spec packet
  rw [isLimits] at answers
  exact ⟨before, after, decoded, decodes, answers, absent⟩

/--
Whatever was decoded before, a base pointer of a packet is there exactly if
acceptable octets of its type were given, and it then points to an object with
the fields of these octets.
-/
theorem decodePackets_exact
    (limits : PlcfLimits)
    (plcf10 : Plcf10)
    (plcf20 : Plcf20)
    (plcf21 : Plcf21)
    (earlier : List PlcfPacket)
    (packet : PlcfPacket) :
    ∃ before after,
      decodePackets earlier (construct limits plcf10 plcf20 plcf21) =
        .ok before ∧
      before.decodePacket packet = .ok after ∧
      ∀ plcfType, plcfType = 1 ∨ plcfType = 2 →
        ∃ found,
          after.getPlcfBase plcfType = .ok found ∧
          (found ≠ none ↔
            ∃ octets kind header,
              (plcfType, octets) ∈ packet.calls ∧
              Acceptable limits plcfType octets kind header) ∧
          ∀ kind header, found = some ⟨kind, header⟩ →
            ∃ octets,
              (plcfType, octets) ∈ packet.calls ∧
              Acceptable limits plcfType octets kind header := by
  obtain ⟨before, after, decoded, decodes, answers, absent⟩ :=
    decodePackets_answers limits plcf10 plcf20 plcf21 earlier packet
  refine ⟨before, after, decoded, decodes, ?_⟩
  intro plcfType isType
  by_cases given : plcfType ∈ packet.calls.map Prod.fst
  · obtain ⟨⟨_, octets⟩, member, rfl⟩ := List.mem_map.mp given
    obtain ⟨found, isFound, isAnswer⟩ := answers _ member
    refine ⟨found, isFound, ?_, ?_⟩
    · cases found with
      | none =>
          refine iff_of_false (fun some_ => some_ rfl) ?_
          rintro ⟨other, kind, header, otherMember, acceptable⟩
          have same :=
            List.inj_on_of_nodup_map packet.once otherMember member rfl
          cases same
          exact isAnswer kind header acceptable
      | some pointed =>
          exact iff_of_true (by simp)
            ⟨octets, pointed.1, pointed.2, member, isAnswer⟩
    · rintro kind header rfl
      exact ⟨octets, member, isAnswer⟩
  · refine ⟨none, absent plcfType isType given, ?_, by simp⟩
    refine iff_of_false (fun some_ => some_ rfl) ?_
    rintro ⟨octets, kind, header, member, -⟩
    exact given (List.mem_map_of_mem member)

end PlcfDecoder

end DectNrp
