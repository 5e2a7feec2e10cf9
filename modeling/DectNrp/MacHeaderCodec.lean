import DectNrp.MacHeader

namespace DectNrp

/-!
# Round trips of MAC headers

A header is restored from its own octets by any object of its kind.  Two cases
are lost on the way: a header type that announces an escape is rejected by the
receiver, and the lowest octet of a network identity is not part of a beacon.
-/

namespace MacHeaderType

/-- Packing writes one octet, from which any object restores the header. -/
def RoundTrips (header : MacHeaderType) : Prop :=
  ∀ (initial : MacHeaderType) (front : Nat) (memory : Memory),
    ∃ octets : List UInt8,
      octets.length = header.getPackedSize ∧
      header.pack front memory = .ok (memory.write front octets) ∧
      initial.unpack
          ((memory.write front octets).window 0
            (front + header.getPackedSize))
          front =
        .ok (true, header)

theorem roundTrips_iff_implemented
    {header : MacHeaderType}
    (valid : header.isValid = true) :
    header.RoundTrips ↔ header.macHeaderType ≠ .escape := by
  constructor
  · intro roundTrips isEscape
    obtain ⟨octets, isLength, packed, unpacked⟩ :=
      roundTrips header 0 fun _ => 0
    have inside : 0 < 0 + header.getPackedSize := Nat.one_pos
    rw [unpack_window header inside] at unpacked
    have restored := congrArg Prod.snd (Except.ok.inj unpacked)
    dsimp only at restored
    have isType := congrArg MacHeaderType.macHeaderType restored
    rw [isEscape] at isType
    simp only [decoded, MacHeaderTypeEc.getMacHeaderTypeEc] at isType
    split_ifs at isType
  · intro implemented initial front memory
    refine ⟨[header.code], rfl, pack_valid valid front memory, ?_⟩
    have inside : front < front + header.getPackedSize :=
      Nat.lt_succ_self front
    rw [unpack_window initial inside]
    have written : (memory.write front [header.code]) front = header.code := by
      have holds := Memory.window_write front [header.code] memory
      exact (List.cons.inj holds).1
    rw [written, decoded_code valid implemented, valid]

end MacHeaderType

namespace MacCommonHeader

/-- Packing writes as many octets as the packed size says, and they suffice. -/
def RoundTrips (header : MacCommonHeader) : Prop :=
  ∀ (initial : MacCommonHeader) (front : Nat) (memory : Memory),
    initial.kind = header.kind →
      ∃ octets : List UInt8,
        octets.length = header.getPackedSize ∧
        header.pack front memory = .ok (memory.write front octets) ∧
        initial.unpack
            ((memory.write front octets).window 0
              (front + header.getPackedSize))
            front =
          .ok (true, header)

theorem networkID3Lsb_lt
    {header : BeaconHeader}
    (valid : (beacon header).isValid = true) :
    header.networkID3Lsb.toNat < 256 ^ 3 := by
  by_contra large
  have above : 0xFFFFFF < header.networkID3Lsb := by
    rw [UInt32.lt_iff_toNat_lt]
    have isBound : UInt32.toNat 0xFFFFFF = 256 ^ 3 - 1 := rfl
    omega
  simp [isValid, BeaconHeader.isValid, above] at valid

/-- What an object of the same kind reads from the octets of a header. -/
theorem unpack_code
    {header initial : MacCommonHeader}
    (sameKind : initial.kind = header.kind)
    (front : Nat)
    (memory : Memory) :
    initial.unpack
        ((memory.write front header.code).window 0
          (front + header.getPackedSize))
        front =
      .ok
        ((initial.decoded (memory.write front header.code)
            front).isValid,
          initial.decoded (memory.write front header.code) front) := by
  have sameSize : initial.getPackedSize = header.getPackedSize := by
    cases header <;> cases initial <;>
      simp only [kind, reduceCtorEq] at sameKind <;> rfl
  exact unpack_window initial (by rw [sameSize])

/-- The octets of a header in memory. -/
theorem window_code
    (header : MacCommonHeader)
    (front : Nat)
    (memory : Memory) :
    (memory.write front header.code).window front
        header.getPackedSize =
      header.code := by
  have holds := Memory.window_write front header.code memory
  rw [code_length] at holds
  exact holds

/-- Whether the octets of a header hold all of its fields. -/
def Representable : MacCommonHeader → Prop
  | beacon header => header.networkID3Lsb.toNat % 256 = 0
  | _ => True

/-- Only the lowest octet of a network identity is lost. -/
theorem roundTrips_iff_kept
    {header : MacCommonHeader}
    (valid : header.isValid = true) :
    header.RoundTrips ↔ header.Representable := by
  by_cases isBeacon : header.kind = .beacon
  · cases header with
    | beacon header =>
        have small := networkID3Lsb_lt valid
        have read (initial : MacCommonHeader)
            (sameKind : initial.kind = .beacon)
            (front : Nat)
            (memory : Memory) :=
          decoded_beacon small sameKind
            (window_code (beacon header) front memory)
        constructor
        · intro roundTrips
          obtain ⟨octets, isLength, packed, unpacked⟩ :=
            roundTrips (beacon header) 0 (fun _ => 0) rfl
          rw [pack_valid valid 0] at packed
          have isCode := Except.ok.inj packed
          rw [← isCode, unpack_code rfl, read _ rfl] at unpacked
          have restored := congrArg Prod.snd (Except.ok.inj unpacked)
          have sameId :=
            congrArg UInt32.toNat (congrArg BeaconHeader.networkID3Lsb
                (MacCommonHeader.beacon.inj restored))
          dsimp only at sameId
          rw [UInt32.toNat_ofNat'] at sameId
          unfold Representable
          omega
        · intro representable initial front memory sameKind
          refine ⟨_, code_length _, pack_valid valid front memory, ?_⟩
          have restored :
              UInt32.ofNat (header.networkID3Lsb.toNat / 256 * 256) =
                header.networkID3Lsb := by
            unfold Representable at representable
            rw [Nat.div_mul_cancel (Nat.dvd_of_mod_eq_zero representable),
              UInt32.ofNat_toNat]
          rw [unpack_code sameKind, read initial sameKind, restored]
          exact congrArg Except.ok (Prod.ext valid rfl)
    | _ => cases isBeacon
  · constructor
    · intro _
      cases header with
      | beacon header => exact absurd rfl isBeacon
      | _ => trivial
    · intro _ initial front memory sameKind
      refine ⟨_, code_length _, pack_valid valid front memory, ?_⟩
      rw [unpack_code sameKind,
        decoded_code valid isBeacon sameKind (window_code header front memory),
        valid]

end MacCommonHeader

/-- The two headers that a MAC PDU starts with. -/
inductive MacHeader where
  | headerType (header : MacHeaderType)
  | common (header : MacCommonHeader)
  deriving Repr, DecidableEq

namespace MacHeader

def isValid : MacHeader → Bool
  | headerType header => header.isValid
  | common header => header.isValid

def RoundTrips : MacHeader → Prop
  | headerType header => header.RoundTrips
  | common header => header.RoundTrips

/-- Neither an escape nor a network identity with a lowest octet. -/
def Representable : MacHeader → Prop
  | headerType header => header.macHeaderType ≠ .escape
  | common header => header.Representable

/-- Every valid header is restored, up to the two exceptions. -/
theorem roundTrips_iff_representable
    {header : MacHeader}
    (valid : header.isValid = true) :
    header.RoundTrips ↔ header.Representable := by
  cases header with
  | headerType header => exact MacHeaderType.roundTrips_iff_implemented valid
  | common header => exact MacCommonHeader.roundTrips_iff_kept valid

theorem roundTrips_iff_representable_beacon :
    (common (.beacon ⟨256, 10000000⟩)).RoundTrips ↔
      (common (.beacon ⟨256, 10000000⟩)).Representable :=
  roundTrips_iff_representable (by decide)

/-- The network identity 100 of a fixed termination point reads as zero. -/
theorem not_roundTrips_networkId :
    (common (.beacon ⟨100, 10000000⟩)).isValid = true ∧
      ¬ (common (.beacon ⟨100, 10000000⟩)).RoundTrips := by
  refine ⟨by decide, ?_⟩
  intro roundTrips
  have representable :=
    (MacCommonHeader.roundTrips_iff_kept (by decide)).mp roundTrips
  exact absurd representable (by unfold MacCommonHeader.Representable; decide)

end MacHeader

end DectNrp
