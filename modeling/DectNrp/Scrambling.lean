import DectNrp.PackedBits
import Mathlib.Data.List.Basic

namespace DectNrp

/-!
# Scrambling of packed bits

Coded bits are scrambled block by block.  A block need not start or end with an
octet, so that its first and its last octet are unpacked, scrambled bit by bit
and packed again.  Whatever happens to the bits of a block, the bits in front
of it stay as they are.
-/

/-- Library routines for bits in octets. -/
structure BitRoutines where
  /-- Unpack some of the bits of one octet. -/
  bitUnpackVector : (packed : UInt8) → (nofBits : Nat) → List UInt8
  /-- Pack the bits of one octet. -/
  bitPackVector : (unpacked : List UInt8) → (nofBits : Nat) → UInt8
  vecXorBbb : List UInt8 → List UInt8 → List UInt8
  unpack_eq :
    ∀ packed nofBits,
      nofBits ≤ 8 → bitUnpackVector packed nofBits = octetBits packed nofBits
  unpack_pack :
    ∀ unpacked nofBits,
      nofBits ≤ 8 →
      unpacked.length = nofBits →
      (∀ bit ∈ unpacked, bit = 0 ∨ bit = 1) →
      octetBits (bitPackVector unpacked nofBits) nofBits = unpacked
  xor_eq :
    ∀ first second,
      vecXorBbb first second = List.zipWith (· ^^^ ·) first second

/-- Bits are packed with zeros behind them. -/
def BitRoutines.padded : BitRoutines where
  bitUnpackVector := octetBits
  bitPackVector unpacked nofBits := packBits (unpacked.take nofBits)
  vecXorBbb := List.zipWith (· ^^^ ·)
  unpack_eq _ _ _ := rfl
  unpack_pack := by
    rintro unpacked nofBits few rfl areBits
    rw [List.take_length]
    exact octetBits_packBits few areBits
  xor_eq _ _ := rfl

/-- Scrambling sequence, with one octet for each bit and packed. -/
structure ScramblingSequence where
  c : Memory
  cBytes : Memory
  isBit : ∀ index, c index = 0 ∨ c index = 1

/-- A sequence that inverts every bit. -/
def ScramblingSequence.ones : ScramblingSequence where
  c _ := 1
  cBytes _ := 0xFF
  isBit _ := Or.inr rfl

section

variable (routines : BitRoutines)
variable (s : ScramblingSequence)

/-- Scramble as many octets as there are data. -/
def scramblingB
    (c : Memory)
    (start : Nat)
    (data : List UInt8) :
    List UInt8 :=
  routines.vecXorBbb (c.window start data.length) data

/-- Scramble the bits of an octet from a bit on that is not its first. -/
def scrambleFirstBits
    (data : Memory)
    (offset : Nat) :
    Memory :=
  let tmpBits := routines.bitUnpackVector (data (offset / 8)) 8
  let tmpBits :=
    tmpBits.take (offset % 8) ++
      scramblingB routines s.c offset (tmpBits.drop (offset % 8))
  data.write (offset / 8) [routines.bitPackVector tmpBits 8]

/-- Scramble the bits of an octet that is not scrambled to its end. -/
def scrambleLastBits
    (data : Memory)
    (virtualFullLength nofBits : Nat) :
    Memory :=
  let tmpBits :=
    routines.bitUnpackVector (data (virtualFullLength / 8)) nofBits
  let tmpBits := scramblingB routines s.c (8 * (virtualFullLength / 8)) tmpBits
  data.write (virtualFullLength / 8)
    [routines.bitPackVector tmpBits nofBits]

/-- Scramble from the start of an octet on. -/
def scrambleAligned
    (data : Memory)
    (virtualFullLength : Nat)
    (len : Int)
    (offset : Nat) :
    Memory :=
  let data :=
    data.write (offset / 8)
      (scramblingB routines s.cBytes (offset / 8)
        (data.window (offset / 8) (len.tdiv 8).toNat))
  if 0 < len.tmod 8 then
    scrambleLastBits routines s data virtualFullLength
      (len.tmod 8).toNat
  else
    data

/--
Scramble a number of bits at an offset.  The signed length falls below zero if
the block ends in the octet in which it starts.
-/
def srsranScramblingBytesWithSequenceOffsetFix
    (data : Memory)
    (len offset : Nat) :
    Memory :=
  let virtualFullLength := offset + len
  if 0 < offset % 8 then
    scrambleAligned routines s (scrambleFirstBits routines s data offset)
      virtualFullLength ((len : Int) - (8 - offset % 8 : Nat))
      ((offset / 8 + 1) * 8)
  else
    scrambleAligned routines s data virtualFullLength len offset

variable {routines : BitRoutines}
variable {s : ScramblingSequence}
variable {data : Memory}
variable {len offset : Nat}

theorem scramblingB_length
    (c : Memory)
    (start : Nat)
    (octets : List UInt8) :
    (scramblingB routines c start octets).length = octets.length := by
  simp [scramblingB, routines.xor_eq]

/-- Scrambled bits are bits. -/
theorem scramblingB_isBit
    {start : Nat}
    {bits : List UInt8}
    (areBits : ∀ bit ∈ bits, bit = 0 ∨ bit = 1)
    {bit : UInt8}
    (member : bit ∈ scramblingB routines s.c start bits) :
    bit = 0 ∨ bit = 1 := by
  rw [scramblingB, routines.xor_eq] at member
  obtain ⟨index, inside, isBit⟩ := List.mem_iff_getElem.mp member
  rw [List.getElem_zipWith] at isBit
  have sequenceBit :
      ∀ octet ∈ s.c.window start bits.length, octet = 0 ∨ octet = 1 := by
    intro octet inWindow
    obtain ⟨place, -, isOctet⟩ := List.mem_map.mp inWindow
    rw [← isOctet]
    exact s.isBit _
  rw [← isBit]
  rcases sequenceBit _ (List.getElem_mem _) with isZero | isOne
  · rcases areBits _ (List.getElem_mem _) with bitZero | bitOne
    · rw [isZero, bitZero]
      exact Or.inl rfl
    · rw [isZero, bitOne]
      exact Or.inr rfl
  · rcases areBits _ (List.getElem_mem _) with bitZero | bitOne
    · rw [isOne, bitZero]
      exact Or.inr rfl
    · rw [isOne, bitOne]
      exact Or.inl rfl

/-- The bits that are packed after the first octet was scrambled. -/
theorem scrambledFirst_packed
    (octet : UInt8)
    (offset : Nat) :
    octetBits
        (routines.bitPackVector
          ((octetBits octet 8).take (offset % 8) ++
            scramblingB routines s.c offset
              ((octetBits octet 8).drop (offset % 8)))
          8)
        8 =
      (octetBits octet 8).take (offset % 8) ++
        scramblingB routines s.c offset
          ((octetBits octet 8).drop (offset % 8)) := by
  apply routines.unpack_pack _ 8 le_rfl
  · rw [List.length_append, scramblingB_length, List.length_take,
      List.length_drop, octetBits_length]
    omega
  · intro bit member
    rcases List.mem_append.mp member with kept | scrambled
    · exact octetBits_isBit (List.mem_of_mem_take kept)
    · exact scramblingB_isBit
          (fun _ dropped => octetBits_isBit (List.mem_of_mem_drop dropped))
          scrambled

theorem scrambleFirstBits_before
    (data : Memory)
    (offset : Nat) :
    Memory.SameBitsBefore offset data
      (scrambleFirstBits routines s data offset) := by
  apply Memory.sameBitsBefore_writeOctet
  intro index before
  have inside : index < 8 := by omega
  have packed :=
    congrArg (fun bits => bits[index]?)
      (@scrambledFirst_packed routines s (data (offset / 8)) offset)
  rw [List.getElem?_append_left (by
      rw [List.length_take, octetBits_length]
      omega),
    List.getElem?_take_of_lt before, octetBits_getElem? _ inside,
    octetBits_getElem? _ inside, Option.some.injEq] at packed
  rw [routines.unpack_eq _ 8 le_rfl]
  by_cases isSet : octetBit (data (offset / 8)) index = true
  · rw [isSet]
    by_contra notSet
    rw [if_neg notSet, if_pos isSet] at packed
    cases packed
  · rw [Bool.not_eq_true] at isSet
    rw [isSet]
    by_contra wasSet
    rw [Bool.not_eq_false] at wasSet
    rw [if_pos wasSet, isSet] at packed
    cases packed

theorem scrambleFirstBits_behind
    (data : Memory)
    (offset : Nat) :
    Memory.SameOctetsFrom (offset / 8 + 1) data
      (scrambleFirstBits routines s data offset) :=
  Memory.sameOctetsFrom_write data le_rfl

theorem wholeOctets_nonpos
    {len : Int}
    (negative : len ≤ 0) :
    len.tdiv 8 ≤ 0 := by
  have quotient : 0 ≤ (-len).tdiv 8 := Int.tdiv_nonneg (by omega) (by decide)
  rw [Int.neg_tdiv] at quotient
  omega

/-- A length below zero leaves no bits behind the last whole octet. -/
theorem lastBits_nonpos
    {len : Int}
    (negative : len ≤ 0) :
    len.tmod 8 ≤ 0 := by
  have remainder : 0 ≤ (-len).tmod 8 := Int.tmod_nonneg _ (by omega)
  rw [Int.neg_tmod] at remainder
  omega

/-- Whole octets are changed from the offset on. -/
theorem scrambleAligned_before
    {stop : Nat}
    {len : Int}
    (data : Memory)
    (aligned : offset % 8 = 0)
    (ends : 0 < len.tmod 8 → offset ≤ stop) :
    Memory.SameBitsBefore offset data
      (scrambleAligned routines s data stop len offset) := by
  have whole :=
    @Memory.sameBitsBefore_write offset (offset / 8)
      (scramblingB routines s.cBytes (offset / 8)
        (data.window (offset / 8) (len.tdiv 8).toNat))
      data (by omega)
  rw [scrambleAligned]
  split
  · rename_i remains
    have notBefore := ends remains
    exact whole.trans (Memory.sameBitsBefore_write _ _ (by omega))
  · exact whole

/-- No octet behind the last bit is changed. -/
theorem scrambleAligned_behind
    {stop : Nat}
    {len : Int}
    (data : Memory)
    (aligned : offset % 8 = 0)
    (ends : 0 ≤ len → (stop : Int) = offset + len) :
    Memory.SameOctetsFrom (max (offset / 8) ((stop + 7) / 8)) data
      (scrambleAligned routines s data stop len offset) := by
  have whole : Memory.SameOctetsFrom (max (offset / 8) ((stop + 7) / 8)) data
      (data.write (offset / 8) (scramblingB routines s.cBytes (offset / 8)
          (data.window (offset / 8) (len.tdiv 8).toNat))) := by
    apply Memory.sameOctetsFrom_write
    rw [scramblingB_length, Memory.window_length]
    rcases Int.lt_or_le len 0 with negative | positive
    · have notPositive := wholeOctets_nonpos negative.le
      omega
    · have isStop := ends positive
      rw [Int.tdiv_eq_ediv_of_nonneg positive]
      omega
  rw [scrambleAligned]
  split
  · rename_i remains
    refine whole.trans (Memory.sameOctetsFrom_write _ ?_)
    have positive : 0 ≤ len := by
      by_contra negative
      have notPositive := @lastBits_nonpos len (by omega)
      omega
    have isStop := ends positive
    rw [Int.tmod_eq_emod_of_nonneg positive] at remains
    simp only [List.length_singleton]
    omega
  · exact whole

/-- Scrambling a block leaves the bits in front of it alone. -/
theorem scrambling_before
    (data : Memory)
    (len offset : Nat) :
    Memory.SameBitsBefore offset data
      (srsranScramblingBytesWithSequenceOffsetFix routines s data len
        offset) := by
  rw [srsranScramblingBytesWithSequenceOffsetFix]
  split
  · have aligned : (offset / 8 + 1) * 8 % 8 = 0 := by omega
    have first := @scrambleFirstBits_before routines s data offset
    have rest :=
      @scrambleAligned_before routines s ((offset / 8 + 1) * 8)
        (offset + len) ((len : Int) - (8 - offset % 8 : Nat))
        (scrambleFirstBits routines s data offset) aligned
        (by
          intro remains
          by_contra early
          have notPositive :=
            @lastBits_nonpos ((len : Int) - (8 - offset % 8 : Nat)) (by omega)
          omega)
    exact first.trans (rest.mono (by omega))
  · rename_i aligned
    exact scrambleAligned_before data (by omega) (fun _ => by omega)

/-- Scrambling a block changes no octet behind the last one of the block. -/
theorem scrambling_behind
    (data : Memory)
    (len offset : Nat) :
    Memory.SameOctetsFrom ((offset + len + 7) / 8) data
      (srsranScramblingBytesWithSequenceOffsetFix routines s data len
        offset) := by
  rw [srsranScramblingBytesWithSequenceOffsetFix]
  split
  · have aligned : (offset / 8 + 1) * 8 % 8 = 0 := by omega
    have first := @scrambleFirstBits_behind routines s data offset
    have rest :=
      @scrambleAligned_behind routines s ((offset / 8 + 1) * 8)
        (offset + len) ((len : Int) - (8 - offset % 8 : Nat))
        (scrambleFirstBits routines s data offset) aligned
        (by omega)
    exact (first.mono (by omega)).trans (rest.mono (by omega))
  · rename_i aligned
    have rest :=
      @scrambleAligned_behind routines s offset (offset + len) len data
        (by omega) (by omega)
    exact rest.mono (by omega)

end

end DectNrp
