import DectNrp.Octets

namespace DectNrp

/-!
# Bit fields of one octet

A field is placed with a shift and an or, and read back with a shift and a
mask.  Both directions are stated as arithmetic on natural numbers, so that
the codecs of the following modules reduce to division with remainder.
-/

namespace BitFields

/-- Or-ing below the lowest set bit is addition. -/
theorem or_eq_add
    {upper lower width : Nat}
    (free : upper % 2 ^ width = 0)
    (bound : lower < 2 ^ width) :
    upper ||| lower = upper + lower := by
  have multiple : upper = 2 ^ width * (upper / 2 ^ width) := by
    have split := Nat.div_add_mod upper (2 ^ width)
    omega
  rw [multiple]
  exact (Nat.two_pow_add_eq_or_of_lt bound _).symm

/-- A mask of the `width` least significant bits is a remainder. -/
theorem and_eq_mod
    {mask : Nat}
    (width : Nat)
    (isMask : mask = 2 ^ width - 1)
    (value : Nat) :
    value &&& mask = value % 2 ^ width := by
  rw [isMask, Nat.and_two_pow_sub_one_eq_mod]

variable {field shift : UInt32}

/-- A small enough shifted field is a product. -/
theorem toNat_shifted
    (shiftBound : shift.toNat < 8)
    (fits : field.toNat * 2 ^ shift.toNat < 256) :
    (field <<< shift).toUInt8.toNat = field.toNat * 2 ^ shift.toNat := by
  rw [UInt32.toNat_toUInt8, UInt32.toNat_shiftLeft,
    Nat.mod_eq_of_lt (show shift.toNat < 32 by omega),
    Nat.shiftLeft_eq,
    Nat.mod_eq_of_lt (show _ < 2 ^ 32 by omega),
    Nat.mod_eq_of_lt fits]

/-- A small enough unshifted field keeps its value. -/
theorem toNat_unshifted
    {field : UInt32}
    (fits : field.toNat < 256) :
    field.toUInt8.toNat = field.toNat := by
  rw [UInt32.toNat_toUInt8, Nat.mod_eq_of_lt fits]

/-- Or-ing an octet into the free lower bits of another one adds it. -/
theorem toNat_or
    {upper lower : UInt8}
    (width : Nat)
    (free : upper.toNat % 2 ^ width = 0)
    (bound : lower.toNat < 2 ^ width) :
    (upper ||| lower).toNat = upper.toNat + lower.toNat := by
  rw [UInt8.toNat_or, or_eq_add free bound]

/-- Two fields that share one octet. -/
theorem toNat_two
    {first second shift : UInt32}
    (shiftBound : shift.toNat < 8)
    (firstFits : first.toNat * 2 ^ shift.toNat < 256)
    (secondFits : second.toNat < 2 ^ shift.toNat) :
    ((first <<< shift).toUInt8 ||| second.toUInt8).toNat =
      first.toNat * 2 ^ shift.toNat + second.toNat := by
  have shiftPower : 2 ^ shift.toNat ≤ 2 ^ 7 :=
    Nat.pow_le_pow_right (by decide) (by omega)
  have secondValue : second.toUInt8.toNat = second.toNat :=
    toNat_unshifted (by omega)
  rw [toNat_or shift.toNat, toNat_shifted shiftBound firstFits, secondValue]
  · rw [toNat_shifted shiftBound firstFits, Nat.mul_mod_left]
  · rwa [secondValue]

/-- One more shifted field below the fields already placed. -/
theorem toNat_or_shifted
    {octet : UInt8}
    (width : Nat)
    (shiftBound : shift.toNat + width ≤ 7)
    (free : octet.toNat % 2 ^ (shift.toNat + width) = 0)
    (bound : field.toNat < 2 ^ width) :
    (octet ||| (field <<< shift).toUInt8).toNat =
      octet.toNat + field.toNat * 2 ^ shift.toNat := by
  have product :
      field.toNat * 2 ^ shift.toNat < 2 ^ (shift.toNat + width) := by
    rw [Nat.pow_add, Nat.mul_comm]
    exact Nat.mul_lt_mul_of_pos_left bound (Nat.two_pow_pos _)
  have power : 2 ^ (shift.toNat + width) ≤ 2 ^ 7 :=
    Nat.pow_le_pow_right (by decide) shiftBound
  have shiftedValue :
      (field <<< shift).toUInt8.toNat = field.toNat * 2 ^ shift.toNat :=
    toNat_shifted (by omega) (by omega)
  rw [toNat_or (shift.toNat + width) free, shiftedValue]
  rwa [shiftedValue]

/-- The lowest field of an octet. -/
theorem toNat_or_lowest
    {octet : UInt8}
    {field : UInt32}
    (width : Nat)
    (widthBound : width ≤ 8)
    (free : octet.toNat % 2 ^ width = 0)
    (bound : field.toNat < 2 ^ width) :
    (octet ||| field.toUInt8).toNat = octet.toNat + field.toNat := by
  have power : 2 ^ width ≤ 2 ^ 8 := Nat.pow_le_pow_right (by decide) widthBound
  have fieldValue : field.toUInt8.toNat = field.toNat :=
    toNat_unshifted (by omega)
  rw [toNat_or width free, fieldValue]
  rwa [fieldValue]

/-- Field of `width` bits that starts at bit `shift` of an octet. -/
def extract
    (octet : UInt8)
    (shift mask : UInt32) :
    UInt32 :=
  (octet.toUInt32 >>> shift) &&& mask

/-- Extracting a field is a quotient followed by a remainder. -/
theorem toNat_extract
    (octet : UInt8)
    {shift mask : UInt32}
    (width : Nat)
    (shiftBound : shift.toNat < 32)
    (isMask : mask.toNat = 2 ^ width - 1) :
    (extract octet shift mask).toNat =
      octet.toNat / 2 ^ shift.toNat % 2 ^ width := by
  rw [extract, UInt32.toNat_and, UInt32.toNat_shiftRight,
    UInt8.toNat_toUInt32, Nat.mod_eq_of_lt shiftBound,
    Nat.shiftRight_eq_div_pow, and_eq_mod width isMask]

section Masks

variable (octet : UInt8)
variable {shift : UInt32}

@[simp] theorem toNat_extract_1 (shiftBound : shift.toNat < 32) :
    (extract octet shift 0b1).toNat = octet.toNat / 2 ^ shift.toNat % 2 :=
  toNat_extract octet 1 shiftBound (by decide)

@[simp] theorem toNat_extract_2 (shiftBound : shift.toNat < 32) :
    (extract octet shift 0b11).toNat = octet.toNat / 2 ^ shift.toNat % 4 :=
  toNat_extract octet 2 shiftBound (by decide)

@[simp] theorem toNat_extract_3 (shiftBound : shift.toNat < 32) :
    (extract octet shift 0b111).toNat = octet.toNat / 2 ^ shift.toNat % 8 :=
  toNat_extract octet 3 shiftBound (by decide)

@[simp] theorem toNat_extract_4 (shiftBound : shift.toNat < 32) :
    (extract octet shift 0b1111).toNat = octet.toNat / 2 ^ shift.toNat % 16 :=
  toNat_extract octet 4 shiftBound (by decide)

@[simp] theorem toNat_extract_5 (shiftBound : shift.toNat < 32) :
    (extract octet shift 0b11111).toNat = octet.toNat / 2 ^ shift.toNat % 32 :=
  toNat_extract octet 5 shiftBound (by decide)

@[simp] theorem toNat_extract_6 (shiftBound : shift.toNat < 32) :
    (extract octet shift 0b111111).toNat =
      octet.toNat / 2 ^ shift.toNat % 64 :=
  toNat_extract octet 6 shiftBound (by decide)

end Masks

/-- A property of the 256 octet values is one of every octet. -/
theorem forall_octet
    {property : UInt8 → Prop}
    (everyValue : ∀ value : Fin 256, property (UInt8.ofNat value.val))
    (octet : UInt8) :
    property octet := by
  simpa using everyValue ⟨octet.toNat, octet.toNat_lt⟩

/-- A property of the values of a field is one of every field that fits. -/
theorem forall_field
    {property : UInt32 → Prop}
    (width : Nat)
    (everyValue :
      ∀ value : Fin (2 ^ width), property (UInt32.ofNat value.val)) :
    ∀ field : UInt32, field.toNat < 2 ^ width → property field := by
  intro field fits
  simpa using everyValue ⟨field.toNat, fits⟩

/-- Masking with `0xF0` keeps the upper half of an octet. -/
theorem toNat_and_upperHalf (octet : UInt8) :
    (octet &&& 0xF0).toNat = octet.toNat / 16 * 16 := by
  have everyOctet : ∀ value : Fin 256,
      (UInt8.ofNat value.val &&& 0xF0).toNat = value.val / 16 * 16 := by
    decide +kernel
  simpa using everyOctet ⟨octet.toNat, octet.toNat_lt⟩

end BitFields

end DectNrp
