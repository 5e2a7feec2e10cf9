import DectNrp.FeedbackInfoCodec
import DectNrp.Plcf

namespace DectNrp

/-!
# Octets of the physical layer control field

`Encodes` relates a valid object to the octets of its kind.  The octets are
determined by the object, `pack` writes them and nothing else, and `unpack`
of these octets restores every field except for the quantised buffer size.
Conversely every accepted octet sequence encodes the object it was unpacked
to, up to the drift of a buffer status.
-/

open BitFields

namespace Identity

theorem isValidShortNetworkID_iff
    {shortNetworkID : UInt32} :
    isValidShortNetworkID shortNetworkID = true ↔
      shortNetworkID ≠ 0 ∧ shortNetworkID.toNat ≤ 255 := by
  simp [isValidShortNetworkID, UInt32.lt_iff_toNat_lt]

theorem isValidShortRadioDeviceID_iff
    {shortRadioDeviceID : UInt32} :
    isValidShortRadioDeviceID shortRadioDeviceID = true ↔
      shortRadioDeviceID ≠ 0 ∧ shortRadioDeviceID.toNat ≤ 65535 := by
  simp [isValidShortRadioDeviceID, UInt32.lt_iff_toNat_lt]

end Identity

/-- If the whole is accepted, so is the part that is unpacked first. -/
theorem Checked.accepted_of_bind
    {Part Whole : Type}
    {unpackPart : Checked (Bool × Part)}
    {next : Bool × Part → Checked (Bool × Whole)}
    {whole : Whole}
    (accepted : (unpackPart >>= next) = .ok (true, whole))
    (rejects :
      ∀ part, ∃ rejected, next (false, part) = .ok (false, rejected)) :
    ∃ part,
      unpackPart = .ok (true, part) ∧
        next (true, part) = .ok (true, whole) := by
  obtain ⟨⟨valid, part⟩, unpacked, accepted⟩ := Checked.bind_eq_ok.mp accepted
  cases valid with
  | false =>
      obtain ⟨rejected, isRejected⟩ := rejects part
      rw [isRejected] at accepted
      cases accepted
  | true => exact ⟨part, unpacked, accepted⟩

/-- Two big-endian octets. -/
theorem toBigEndian_two (value : Nat) :
    toBigEndian value 2 = [UInt8.ofNat (value / 256), UInt8.ofNat value] := by
  simp [toBigEndian]

/-- Two octets that hold a 16-bit identity give it back. -/
theorem identity_of_octets
    {identity : UInt32}
    (bound : identity.toNat ≤ 65535) :
    UInt32.ofNat
        (fromBigEndian
          [UInt8.ofNat (identity.toNat / 256), UInt8.ofNat identity.toNat]) =
      identity := by
  rw [← toBigEndian_two, fromBigEndian_toBigEndian,
    Nat.mod_eq_of_lt (show identity.toNat < 256 ^ 2 by omega),
    UInt32.ofNat_toNat]

/-- Two received octets are the encoding of their value. -/
theorem octets_of_identity (upper lower : UInt8) :
    [UInt8.ofNat
        ((UInt32.ofNat (fromBigEndian [upper, lower])).toNat / 256),
      UInt8.ofNat (UInt32.ofNat (fromBigEndian [upper, lower])).toNat] =
      [upper, lower] := by
  have valueBound := fromBigEndian_lt [upper, lower]
  have wordValue : (UInt32.ofNat (fromBigEndian [upper, lower])).toNat =
      fromBigEndian [upper, lower] := by
    rw [UInt32.toNat_ofNat']
    exact Nat.mod_eq_of_lt
      (lt_trans valueBound (show 256 ^ 2 < 2 ^ 32 by decide))
  rw [wordValue, ← toBigEndian_two]
  exact toBigEndian_fromBigEndian [upper, lower]

/-- Reading two consecutive octets of a literal sequence. -/
theorem b2lLower_two
    {octets : List UInt8}
    {start : Nat}
    {upper lower : UInt8}
    (loadUpper : loadOctet octets start = .ok upper)
    (loadLower : loadOctet octets (start + 1) = .ok lower) :
    b2lLower octets start 2 = .ok (fromBigEndian [upper, lower]) := by
  simp [b2lLower, loadOctets, loadUpper, loadLower]

namespace PlcfBase

/-- Value of the first octet. -/
def code (base : PlcfBase) : Nat :=
  base.headerFormat.toNat * 32 + base.packetLengthType.toNat * 16 +
    base.packetLengthM1.toNat

theorem isValid_iff
    {base : PlcfBase} :
    base.isValid = true ↔
      base.headerFormat.toNat ≤ 1 ∧
        base.packetLengthType.toNat ≤ 1 ∧
        base.packetLengthM1.toNat ≤ 15 := by
  simp [isValid, UInt32.lt_iff_toNat_lt]

/-- Packing the shared fields writes the first octet. -/
theorem pack_eq_write
    {base : PlcfBase}
    (valid : base.isValid = true) :
    ∃ octet0,
      octet0.toNat = base.code ∧
      ∀ front memory,
        base.pack front memory = .ok (memory.write front [octet0]) := by
  obtain ⟨formatBound, typeBound, lengthBound⟩ := isValid_iff.mp valid
  have withFormat :
      (base.headerFormat <<< 5).toUInt8.toNat = base.headerFormat.toNat * 32 :=
    toNat_shifted (by decide)
      (show base.headerFormat.toNat * 32 < 256 by omega)
  have withType : ((base.headerFormat <<< 5).toUInt8 |||
      (base.packetLengthType <<< 4).toUInt8).toNat =
        base.headerFormat.toNat * 32 + base.packetLengthType.toNat * 16 := by
    rw [toNat_or_shifted 1 (by decide) _ (by omega), withFormat]
    · rfl
    · rw [withFormat]
      exact Nat.mul_mod_left _ _
  have withLength : (((base.headerFormat <<< 5).toUInt8 |||
      (base.packetLengthType <<< 4).toUInt8) |||
        base.packetLengthM1.toUInt8).toNat =
        base.code := by
    rw [toNat_or_lowest 4 (by omega) _ (by omega), withType, code]
    rw [withType]
    omega
  refine ⟨_, withLength, fun front memory => ?_⟩
  simp [pack, valid, Memory.assign_eq_write, Memory.assignOr_front]

/-- Reading a first octet that encodes valid fields restores them. -/
theorem unpack_of_code
    {base : PlcfBase}
    (target : PlcfBase)
    {octets : List UInt8}
    {octet0 : UInt8}
    (valid : base.isValid = true)
    (load0 : loadOctet octets 0 = .ok octet0)
    (value : octet0.toNat = base.code) :
    target.unpack octets =
      .ok (true, { base with
        transmitPower := target.transmitPower
        dfmcs := target.dfmcs }) := by
  obtain ⟨formatBound, typeBound, lengthBound⟩ := isValid_iff.mp valid
  unfold code at value
  have format : octet0.toUInt32 >>> 5 = base.headerFormat := by
    apply UInt32.toNat_inj.mp
    simp [Nat.shiftRight_eq_div_pow]
    omega
  have lengthType : extract octet0 4 0b1 = base.packetLengthType := by
    apply UInt32.toNat_inj.mp
    simp
    omega
  have length : extract octet0 0 0b1111 = base.packetLengthM1 := by
    apply UInt32.toNat_inj.mp
    simp
    omega
  simp only [unpack, load0, Checked.ok_bind, format, lengthType, length,
    Checked.pure_eq_ok]
  congr 2

/-- An accepted first octet is the code of the fields read from it. -/
theorem code_of_unpack
    {target base : PlcfBase}
    {octets : List UInt8}
    (accepted : target.unpack octets = .ok (true, base)) :
    base.isValid = true ∧
      ∃ octet0,
        loadOctet octets 0 = .ok octet0 ∧
        octet0.toNat = base.code := by
  obtain ⟨octet0, load0, result⟩ := Checked.bind_eq_ok.mp accepted
  simp only [Checked.pure_eq_ok, Except.ok.injEq, Prod.mk.injEq] at result
  obtain ⟨valid, rfl⟩ := result
  refine ⟨valid, octet0, load0, ?_⟩
  simp [code, Nat.shiftRight_eq_div_pow]
  omega

end PlcfBase

namespace Plcf10

/-- The octets that a valid type 1 object is packed to. -/
def Encodes
    (header : Plcf10)
    (octets : List UInt8) :
    Prop :=
  ∃ octet0 octet1 octet4,
    octets =
      [octet0, octet1,
        UInt8.ofNat (header.transmitterIdentity.toNat / 256),
        UInt8.ofNat header.transmitterIdentity.toNat, octet4] ∧
    octet0.toNat = header.toPlcfBase.code ∧
    octet1.toNat = header.shortNetworkID.toNat ∧
    octet4.toNat =
      header.transmitPower.toNat * 16 + header.reserved.toNat * 8 +
        header.dfmcs.toNat

theorem isValid_iff
    {header : Plcf10} :
    header.isValid = true ↔
      header.headerFormat = 0 ∧
        (header.shortNetworkID ≠ 0 ∧ header.shortNetworkID.toNat ≤ 255) ∧
        (header.transmitterIdentity ≠ 0 ∧
          header.transmitterIdentity.toNat ≤ 65535) ∧
        header.transmitPower.toNat ≤ 15 ∧
        header.reserved = 0 ∧
        header.dfmcs.toNat ≤ 7 := by
  simp [isValid, UInt32.lt_iff_toNat_lt, Identity.isValidShortNetworkID_iff,
    Identity.isValidShortRadioDeviceID_iff]

variable {header : Plcf10}

/-- A valid object has exactly one encoding. -/
theorem Encodes.unique
    {first second : List UInt8}
    (firstEncodes : header.Encodes first)
    (secondEncodes : header.Encodes second) :
    first = second := by
  obtain ⟨a0, a1, a4, rfl, a0Value, a1Value, a4Value⟩ := firstEncodes
  obtain ⟨b0, b1, b4, rfl, b0Value, b1Value, b4Value⟩ := secondEncodes
  rw [UInt8.toNat_inj.mp (a0Value.trans b0Value.symm),
    UInt8.toNat_inj.mp (a1Value.trans b1Value.symm),
    UInt8.toNat_inj.mp (a4Value.trans b4Value.symm)]

/-- `pack` writes an encoding of the object. -/
theorem pack_eq_write
    (baseValid : header.toPlcfBase.isValid = true)
    (valid : header.isValid = true) :
    ∃ octets,
      header.Encodes octets ∧
      ∀ front memory,
        header.pack front memory = .ok (memory.write front octets) := by
  obtain ⟨octet0, value0, packBase⟩ := PlcfBase.pack_eq_write baseValid
  obtain ⟨_, ⟨_, networkBound⟩, _, powerBound, unreserved, mcsBound⟩ :=
    isValid_iff.mp valid
  have reservedValue : header.reserved.toNat = 0 := by
    rw [unreserved]
    rfl
  have withPower : (header.transmitPower <<< 4).toUInt8.toNat =
      header.transmitPower.toNat * 16 :=
    toNat_shifted (by decide)
      (show header.transmitPower.toNat * 16 < 256 by omega)
  have withReserved : ((header.transmitPower <<< 4).toUInt8 |||
      (header.reserved <<< 3).toUInt8).toNat =
        header.transmitPower.toNat * 16 + header.reserved.toNat * 8 := by
    rw [toNat_or_shifted 1 (by decide) _ (by omega), withPower]
    · rfl
    · rw [withPower]
      exact Nat.mul_mod_left _ _
  have value4 : (((header.transmitPower <<< 4).toUInt8 |||
      (header.reserved <<< 3).toUInt8) ||| header.dfmcs.toUInt8).toNat =
        header.transmitPower.toNat * 16 +
          header.reserved.toNat * 8 + header.dfmcs.toNat := by
    rw [toNat_or_lowest 3 (by omega) _ (by omega), withReserved]
    rw [withReserved]
    omega
  refine ⟨_, ⟨octet0, header.shortNetworkID.toUInt8, _, rfl, value0,
      toNat_unshifted (by omega), value4⟩,
    fun front memory => ?_⟩
  simp [pack, packBase, valid, Memory.assign_behind,
    Memory.l2bLower_behind, Memory.assignOr_inside, toBigEndian_two]

/-- `unpack` of an encoding restores the object. -/
theorem unpack_of_encodes
    (target : Plcf10)
    {octets : List UInt8}
    (baseValid : header.toPlcfBase.isValid = true)
    (valid : header.isValid = true)
    (encodes : header.Encodes octets) :
    target.unpack octets = .ok (true, header) := by
  obtain ⟨octet0, octet1, octet4, shape, value0, value1, value4⟩ := encodes
  obtain ⟨_, ⟨_, networkBound⟩, ⟨_, identityBound⟩, powerBound,
    unreserved, mcsBound⟩ := isValid_iff.mp valid
  have reservedValue : header.reserved.toNat = 0 := by
    rw [unreserved]
    rfl
  have load0 : loadOctet octets 0 = .ok octet0 := by
    rw [shape]
    rfl
  have load1 : loadOctet octets 1 = .ok octet1 := by
    rw [shape]
    rfl
  have load4 : loadOctet octets 4 = .ok octet4 := by
    rw [shape]
    rfl
  have loadIdentity : b2lLower octets 2 2 = .ok (fromBigEndian
      [UInt8.ofNat (header.transmitterIdentity.toNat / 256),
        UInt8.ofNat header.transmitterIdentity.toNat]) := by
    rw [shape]
    exact b2lLower_two rfl rfl
  have unpackBase :=
    PlcfBase.unpack_of_code target.toPlcfBase baseValid load0 value0
  have network : octet1.toUInt32 = header.shortNetworkID := by
    apply UInt32.toNat_inj.mp
    simpa using value1
  have power : extract octet4 4 0b1111 = header.transmitPower := by
    apply UInt32.toNat_inj.mp
    simp
    omega
  have reserved : extract octet4 3 0b1 = header.reserved := by
    apply UInt32.toNat_inj.mp
    simp
    omega
  have mcs : extract octet4 0 0b111 = header.dfmcs := by
    apply UInt32.toNat_inj.mp
    simp
    omega
  simp only [unpack, unpackBase, load1, load4, loadIdentity,
    Checked.ok_bind, not_true_eq_false, ↓reduceIte, Checked.pure_eq_ok,
    identity_of_octets identityBound, network, power, reserved, mcs]
  exact congrArg (fun verdict => Except.ok (verdict, header)) valid

/-- Accepted octets encode the object they are unpacked to. -/
theorem encodes_of_unpack
    {target header : Plcf10}
    {octets : List UInt8}
    (size : octets.length = 5)
    (accepted : target.unpack octets = .ok (true, header)) :
    header.toPlcfBase.isValid = true ∧
      header.isValid = true ∧
      header.Encodes octets := by
  obtain ⟨octet0, octet1, octet2, octet3, octet4, rfl⟩ :
      ∃ octet0 octet1 octet2 octet3 octet4,
        octets = [octet0, octet1, octet2, octet3, octet4] := by
    match octets, size with
    | [octet0, octet1, octet2, octet3, octet4], _ => exact ⟨_, _, _, _, _, rfl⟩
  obtain ⟨base, unpackBase, accepted⟩ :=
    Checked.accepted_of_bind accepted fun _ => ⟨_, rfl⟩
  obtain ⟨baseIsValid, read0, load0, value0⟩ :=
    PlcfBase.code_of_unpack unpackBase
  cases load0
  have loadIdentity : b2lLower [octet0, octet1, octet2, octet3, octet4] 2 2 =
      .ok (fromBigEndian [octet2, octet3]) :=
    b2lLower_two rfl rfl
  have load1 :
      loadOctet [octet0, octet1, octet2, octet3, octet4] 1 = .ok octet1 :=
    rfl
  have load4 :
      loadOctet [octet0, octet1, octet2, octet3, octet4] 4 = .ok octet4 :=
    rfl
  simp only [not_true_eq_false, ↓reduceIte, load1, load4, loadIdentity, Checked.ok_bind, Checked.pure_eq_ok,
    Except.ok.injEq, Prod.mk.injEq] at accepted
  obtain ⟨valid, rfl⟩ := accepted
  refine ⟨baseIsValid, valid, octet0, octet1, octet4, ?_, value0, ?_, ?_⟩
  · have identity := octets_of_identity octet2 octet3
    simp only [List.cons.injEq, and_true] at identity
    rw [identity.1, identity.2]
  · simp
  · have octet4Bound := octet4.toNat_lt
    simp
    omega

end Plcf10

end DectNrp
