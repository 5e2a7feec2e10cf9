import DectNrp.Octets
import Mathlib.Data.Nat.Bitwise

namespace DectNrp

/-!
# Packed bits

Eight bits are packed into one octet, the first of them in the most significant
place.  A bit of a memory is addressed by its index over all octets.
-/

/-- A bit of an octet, counted from the most significant one. -/
def octetBit (octet : UInt8) (index : Nat) : Bool :=
  octet.toNat.testBit (7 - index)

/-- The first bits of an octet, one octet for each of them. -/
def octetBits (octet : UInt8) (nofBits : Nat) : List UInt8 :=
  (List.range nofBits).map fun index =>
    if octetBit octet index then 1 else 0

/-- The octet whose first bits are given; the others are zero. -/
def packBits (bits : List UInt8) : UInt8 :=
  UInt8.ofNat (Nat.ofBits fun place : Fin 8 =>
    bits[7 - place.val]?.getD 0 != 0)

@[simp] theorem octetBits_length
    (octet : UInt8)
    (nofBits : Nat) :
    (octetBits octet nofBits).length = nofBits := by
  simp [octetBits]

theorem octetBits_getElem?
    (octet : UInt8)
    {nofBits index : Nat}
    (inside : index < nofBits) :
    (octetBits octet nofBits)[index]? =
      some (if octetBit octet index then 1 else 0) := by
  simp [octetBits, inside]

/-- Octets of single bits are zero or one. -/
theorem octetBits_isBit
    {octet bit : UInt8}
    {nofBits : Nat}
    (member : bit ∈ octetBits octet nofBits) :
    bit = 0 ∨ bit = 1 := by
  obtain ⟨index, -, isBit⟩ := List.mem_map.mp member
  rw [← isBit]
  split
  · exact Or.inr rfl
  · exact Or.inl rfl

/-- A bit is known from its octet. -/
theorem octetBit_of_octetBits
    {octet bit : UInt8}
    {nofBits index : Nat}
    (inside : index < nofBits)
    (isBit : (octetBits octet nofBits)[index]? = some bit) :
    octetBit octet index = (bit != 0) := by
  rw [octetBits_getElem? octet inside, Option.some.injEq] at isBit
  rw [← isBit]
  cases octetBit octet index <;> rfl

/-- Packing puts every bit into its place. -/
theorem octetBit_packBits
    (bits : List UInt8)
    {index : Nat}
    (inside : index < 8) :
    octetBit (packBits bits) index = (bits[index]?.getD 0 != 0) := by
  have place : 7 - index < 8 := by omega
  have bounded :=
    Nat.ofBits_lt_two_pow
      (fun place : Fin 8 => bits[7 - place.val]?.getD 0 != 0)
  rw [octetBit, packBits, UInt8.toNat_ofNat_of_lt' bounded,
    Nat.testBit_ofBits_lt _ _ place]
  simp only
  rw [show 7 - (7 - index) = index by omega]

/-- Packed bits are unpacked again. -/
theorem octetBits_packBits
    {bits : List UInt8}
    (few : bits.length ≤ 8)
    (areBits : ∀ bit ∈ bits, bit = 0 ∨ bit = 1) :
    octetBits (packBits bits) bits.length = bits := by
  apply List.ext_getElem?
  intro index
  by_cases inside : index < bits.length
  · rw [octetBits_getElem? _ inside,
      octetBit_packBits _ (Nat.lt_of_lt_of_le inside few),
      List.getElem?_eq_getElem inside, Option.getD_some]
    rcases areBits _ (List.getElem_mem inside) with isZero | isOne
    · rw [isZero]
      rfl
    · rw [isOne]
      rfl
  · rw [List.getElem?_eq_none (by simpa using inside),
      List.getElem?_eq_none (by simpa using inside)]

namespace Memory

/-- A bit of a memory. -/
def bitAt (memory : Memory) (index : Nat) : Bool :=
  octetBit (memory (index / 8)) (index % 8)

/-- Two memories hold the same bits in front of `stop`. -/
def SameBitsBefore
    (stop : Nat)
    (first second : Memory) :
    Prop :=
  ∀ index < stop, second.bitAt index = first.bitAt index

/-- Two memories hold the same octets from `start` on. -/
def SameOctetsFrom
    (start : Nat)
    (first second : Memory) :
    Prop :=
  ∀ index, start ≤ index → second index = first index

theorem SameBitsBefore.refl
    (stop : Nat)
    (memory : Memory) :
    SameBitsBefore stop memory memory :=
  fun _ _ => rfl

variable {first second third : Memory}

theorem SameBitsBefore.trans
    {stop : Nat}
    (leading : SameBitsBefore stop first second)
    (trailing : SameBitsBefore stop second third) :
    SameBitsBefore stop first third :=
  fun index before => (trailing index before).trans (leading index before)

variable {first second : Memory}

/-- Fewer bits are the same as well. -/
theorem SameBitsBefore.mono
    {stop earlier : Nat}
    (same : SameBitsBefore stop first second)
    (notLater : earlier ≤ stop) :
    SameBitsBefore earlier first second :=
  fun index before => same index (Nat.lt_of_lt_of_le before notLater)

theorem SameOctetsFrom.trans
    {start : Nat}
    (leading : SameOctetsFrom start first second)
    (trailing : SameOctetsFrom start second third) :
    SameOctetsFrom start first third :=
  fun index behind => (trailing index behind).trans (leading index behind)

/-- Fewer octets are the same as well. -/
theorem SameOctetsFrom.mono
    {start later : Nat}
    (same : SameOctetsFrom start first second)
    (notEarlier : start ≤ later) :
    SameOctetsFrom later first second :=
  fun index behind => same index (Nat.le_trans notEarlier behind)

/-- A write leaves the bits of the octets in front of it alone. -/
theorem sameBitsBefore_write
    {stop start : Nat}
    (octets : List UInt8)
    (memory : Memory)
    (before : stop ≤ 8 * start) :
    SameBitsBefore stop memory (memory.write start octets) := by
  intro index inside
  have earlier : index / 8 < start := by omega
  rw [bitAt, bitAt, write_before _ _ earlier]

/-- A write leaves the octets behind it alone. -/
theorem sameOctetsFrom_write
    {start later : Nat}
    {octets : List UInt8}
    (memory : Memory)
    (behind : start + octets.length ≤ later) :
    SameOctetsFrom later memory (memory.write start octets) :=
  fun _ notEarlier => write_behind _ _ (Nat.le_trans behind notEarlier)

/-- Overwriting an octet by one with the same first bits keeps these bits. -/
theorem sameBitsBefore_writeOctet
    {stop : Nat}
    {octet : UInt8}
    {memory : Memory}
    (sameFirst :
      ∀ index < stop % 8,
        octetBit octet index = octetBit (memory (stop / 8)) index) :
    SameBitsBefore stop memory (memory.write (stop / 8) [octet]) := by
  intro index before
  by_cases sameOctet : index / 8 = stop / 8
  · have isOctet :
        memory.write (stop / 8) [octet] (stop / 8) = octet :=
      @write_inside (stop / 8) [octet] memory 0 (by simp)
    rw [bitAt, bitAt, sameOctet, isOctet]
    exact sameFirst _ (by omega)
  · have earlier : index / 8 < stop / 8 := by omega
    rw [bitAt, bitAt, write_before _ _ earlier]

/-- Overwrite a number of bits by zeros. -/
def clearBits
    (start count : Nat)
    (memory : Memory) :
    Memory :=
  fun address =>
    if (start + count + 7) / 8 ≤ address then
      memory address
    else
      packBits ((List.range 8).map fun index =>
        if start ≤ 8 * address + index ∧
            8 * address + index < start + count then
          0
        else if octetBit (memory address) index then 1 else 0)

/-- The bits in front of those that are cleared stay as they are. -/
theorem clearBits_before
    (start count : Nat)
    (memory : Memory) :
    SameBitsBefore start memory (memory.clearBits start count) := by
  intro index before
  have inOctet : index % 8 < 8 := Nat.mod_lt _ (by decide)
  have kept : ¬(start ≤ 8 * (index / 8) + index % 8 ∧
      8 * (index / 8) + index % 8 < start + count) := by
    omega
  rw [bitAt, bitAt, clearBits]
  split
  · rfl
  · rw [octetBit_packBits _ inOctet, List.getElem?_map,
      List.getElem?_range inOctet, Option.map_some, Option.getD_some,
      if_neg kept]
    cases octetBit (memory (index / 8)) (index % 8) <;> rfl

/-- The octets behind those of the cleared bits stay as they are. -/
theorem clearBits_behind
    (start count : Nat)
    (memory : Memory) :
    SameOctetsFrom ((start + count + 7) / 8) memory
      (memory.clearBits start count) :=
  fun _ behind => if_pos behind

end Memory

end DectNrp
