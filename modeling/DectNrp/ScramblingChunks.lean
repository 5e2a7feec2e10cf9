import DectNrp.PdcEncodeParts
import Mathlib.Tactic.ByContra

namespace DectNrp

/-!
# Scrambling chunk by chunk

The coded bits of a packet are scrambled one chunk after the other.  The first
octet of a chunk, its whole octets and its last octet are scrambled in
different ways, and an octet may hold the bits of two chunks or more.  The bits
behind a chunk in its last octet are lost, so that the bits of a chunk have to
be stored after the chunk before it was scrambled.
-/

open Memory (bitAt)

/-- A bit of the sequence. -/
def ScramblingSequence.bit
    (s : ScramblingSequence)
    (index : Nat) :
    Bool :=
  s.c index != 0

/-- The octets hold the bits of the sequence. -/
def ScramblingSequence.IsPacked (s : ScramblingSequence) : Prop :=
  ∀ index, s.cBytes.bitAt index = s.bit index

/-- Scramble chunks that are all stored before. -/
def scrambleChunks
    (routines : BitRoutines)
    (s : ScramblingSequence) :
    (offset : Nat) → (lengths : List Nat) → Memory → Memory
  | _, [], data => data
  | offset, len :: lengths, data =>
      scrambleChunks routines s (offset + len) lengths
        (srsranScramblingBytesWithSequenceOffsetFix routines s data len
          offset)

/-- The bits of a chunk are stored behind those of the chunks before it. -/
structure StoresChunk
    (bits : Nat → Bool)
    (offset len : Nat)
    (before after : Memory) :
    Prop where
  stored :
    ∀ index, offset ≤ index → index < offset + len →
      after.bitAt index = bits index
  earlier : Memory.SameBitsBefore offset before after
  behind : Memory.SameOctetsFrom ((offset + len + 7) / 8) before after

/-- Every chunk is stored and then scrambled. -/
inductive StoresAndScrambles
    (routines : BitRoutines)
    (s : ScramblingSequence)
    (bits : Nat → Bool) :
    (offset : Nat) → (lengths : List Nat) → Memory → Memory → Prop where
  | done
      {offset : Nat}
      {data : Memory} :
      StoresAndScrambles routines s bits offset [] data data
  | chunk
      {offset len : Nat}
      {lengths : List Nat}
      {data stored after : Memory}
      (stores : StoresChunk bits offset len data stored)
      (rest :
        StoresAndScrambles routines s bits (offset + len) lengths
          (srsranScramblingBytesWithSequenceOffsetFix routines s stored len
            offset)
          after) :
      StoresAndScrambles routines s bits offset (len :: lengths) data after

/-- The bits of a range are those of a string, scrambled with a sequence. -/
def HoldsScrambled
    (s : ScramblingSequence)
    (bits : Nat → Bool)
    (start stop : Nat)
    (data : Memory) :
    Prop :=
  ∀ index, start ≤ index → index < stop →
    data.bitAt index = (bits index ^^ s.bit index)

theorem octetBit_xor
    (first second : UInt8)
    (index : Nat) :
    octetBit (first ^^^ second) index =
      (octetBit first index ^^ octetBit second index) := by
  rw [octetBit, octetBit, octetBit, UInt8.toNat_xor, Nat.testBit_xor]

/-- The bit of an octet of a bit. -/
theorem xor_ne_zero
    {first : UInt8}
    (isBit : first = 0 ∨ first = 1)
    (second : Bool) :
    ((first ^^^ (if second then 1 else 0)) != 0) =
      (second ^^ (first != 0)) := by
  rcases isBit with rfl | rfl
  · cases second <;> rfl
  · cases second <;> rfl

/-- A bit is found in its octet. -/
theorem Memory.bitAt_of_octet
    (memory : Memory)
    (octet : Nat)
    {place : Nat}
    (inside : place < 8) :
    memory.bitAt (8 * octet + place) = octetBit (memory octet) place := by
  have isOctet : (8 * octet + place) / 8 = octet := by omega
  have isPlace : (8 * octet + place) % 8 = place := by omega
  rw [bitAt, isOctet, isPlace]

/-- A bit of an octet that is overwritten. -/
theorem Memory.bitAt_write_octet
    (memory : Memory)
    (octet : Nat)
    (value : UInt8)
    {place : Nat}
    (inside : place < 8) :
    (memory.write octet [value]).bitAt (8 * octet + place) =
      octetBit value place := by
  rw [Memory.bitAt_of_octet _ _ inside]
  have isValue := @Memory.write_inside octet [value] memory 0 Nat.one_pos
  rw [Nat.add_zero] at isValue
  rw [isValue]
  rfl

/-- The bits of an octet that is not written. -/
theorem Memory.bitAt_write_other
    (memory : Memory)
    {octet index : Nat}
    (value : UInt8)
    (other : index / 8 ≠ octet) :
    (memory.write octet [value]).bitAt index = memory.bitAt index := by
  rw [bitAt, bitAt]
  rcases Nat.lt_or_gt_of_ne other with before | behind
  · rw [Memory.write_before _ _ before]
  · rw [Memory.write_behind _ _ behind]

section

variable {routines : BitRoutines}
variable {s : ScramblingSequence}

variable {start count index : Nat}

theorem scramblingB_getElem?
    {bits : List UInt8}
    {bit : Bool}
    (isCount : bits.length = count)
    (inside : index < count)
    (isBit : bits[index]? = some (if bit then 1 else 0)) :
    (scramblingB routines s.c start bits)[index]? =
      some (s.c (start + index) ^^^ (if bit then 1 else 0)) := by
  rw [scramblingB, routines.xor_eq, List.getElem?_zipWith, isBit,
    Memory.window, List.getElem?_map,
    List.getElem?_range (by omega)]
  rfl

theorem scrambleFirstBits_inside
    (data : Memory)
    {offset index : Nat}
    (notBefore : offset ≤ index)
    (inOctet : index / 8 = offset / 8) :
    (scrambleFirstBits routines s data offset).bitAt index =
      (data.bitAt index ^^ s.bit index) := by
  obtain ⟨place, isPlace⟩ : ∃ place, index = 8 * (offset / 8) + place :=
    ⟨index % 8, by omega⟩
  have inside : place < 8 := by omega
  have isLater : offset % 8 ≤ place := by omega
  rw [isPlace, scrambleFirstBits, Memory.bitAt_write_octet _ _ _ inside,
    Memory.bitAt_of_octet _ _ inside]
  rw [routines.unpack_eq _ 8 le_rfl]
  have dropped : ((octetBits (data (offset / 8)) 8).drop (offset % 8))[place -
      offset % 8]? =
        some (if octetBit (data (offset / 8)) place then 1 else 0) := by
    rw [List.getElem?_drop, Nat.add_sub_cancel' isLater,
      octetBits_getElem? _ inside]
  have scrambled :=
    @scramblingB_getElem? routines s offset (8 - offset % 8)
      (place - offset % 8) _ _
      (by rw [List.length_drop, octetBits_length]) (by omega) dropped
  have isIndex : offset + (place - offset % 8) = 8 * (offset / 8) + place := by
    omega
  rw [isIndex] at scrambled
  have isBit :=
    @octetBit_of_octetBits (routines.bitPackVector
        ((octetBits (data (offset / 8)) 8).take (offset % 8) ++
          scramblingB routines s.c offset
            ((octetBits (data (offset / 8)) 8).drop (offset % 8))) 8)
      (s.c (8 * (offset / 8) + place) ^^^
        (if octetBit (data (offset / 8)) place then 1 else 0))
      8 place inside (by
        rw [scrambledFirst_packed, List.getElem?_append_right (by
            rw [List.length_take, octetBits_length]
            omega),
          List.length_take, octetBits_length,
          Nat.min_eq_left (by omega)]
        exact scrambled)
  rw [isBit]
  exact xor_ne_zero (s.isBit _) _

theorem scrambleFirstBits_other
    (data : Memory)
    {offset index : Nat}
    (other : index / 8 ≠ offset / 8) :
    (scrambleFirstBits routines s data offset).bitAt index =
      data.bitAt index :=
  Memory.bitAt_write_other data _ other

theorem scrambleOctets_inside
    (isPacked : s.IsPacked)
    (data : Memory)
    {start count index : Nat}
    (notBefore : 8 * start ≤ index)
    (inside : index < 8 * (start + count)) :
    (data.write start
        (scramblingB routines s.cBytes start
          (data.window start count))).bitAt index =
      (data.bitAt index ^^ s.bit index) := by
  obtain ⟨place, isPlace⟩ : ∃ place, index / 8 = start + place :=
    ⟨index / 8 - start, by omega⟩
  have few : place < count := by omega
  have within : place < (scramblingB routines s.cBytes start
      (data.window start count)).length := by
    rw [scramblingB_length, Memory.window_length]
    exact few
  rw [bitAt, isPlace, Memory.write_inside start _ within]
  have isOctet : (scramblingB routines s.cBytes start
      (data.window start count))[place] =
        s.cBytes (start + place) ^^^ data (start + place) := by
    simp [scramblingB, routines.xor_eq, Memory.window]
  rw [isOctet, octetBit_xor, ← isPacked index, bitAt, bitAt,
    isPlace, Bool.xor_comm]

theorem scrambleOctets_other
    (data : Memory)
    {start count index : Nat}
    (other : index < 8 * start ∨ 8 * (start + count) ≤ index) :
    (data.write start
        (scramblingB routines s.cBytes start
          (data.window start count))).bitAt index =
      data.bitAt index := by
  rw [bitAt, bitAt]
  rcases other with before | behind
  · rw [Memory.write_before _ _ (by omega)]
  · rw [Memory.write_behind _ _ (by
        rw [scramblingB_length, Memory.window_length]
        omega)]

variable {stop nofBits index : Nat}

theorem scrambleLastBits_inside
    (data : Memory)
    (few : nofBits ≤ 8)
    (notBefore : 8 * (stop / 8) ≤ index)
    (inside : index < 8 * (stop / 8) + nofBits) :
    (scrambleLastBits routines s data stop nofBits).bitAt index =
      (data.bitAt index ^^ s.bit index) := by
  obtain ⟨place, rfl⟩ : ∃ place, index = 8 * (stop / 8) + place :=
    ⟨index - 8 * (stop / 8), by omega⟩
  have inOctet : place < 8 := by omega
  have isFirst : place < nofBits := by omega
  rw [scrambleLastBits, Memory.bitAt_write_octet _ _ _ inOctet,
    Memory.bitAt_of_octet _ _ inOctet, routines.unpack_eq _ _ few]
  have scrambled :=
    @scramblingB_getElem? routines s (8 * (stop / 8)) nofBits place _ _
      (octetBits_length (data (stop / 8)) nofBits) isFirst
      (octetBits_getElem? _ isFirst)
  have packed :=
    routines.unpack_pack (scramblingB routines s.c (8 * (stop / 8))
        (octetBits (data (stop / 8)) nofBits))
      nofBits few
      (by rw [scramblingB_length, octetBits_length])
      (fun bit member =>
        scramblingB_isBit (fun _ isUnpacked => octetBits_isBit isUnpacked)
          member)
  rw [octetBit_of_octetBits isFirst (by rw [packed]; exact scrambled)]
  exact xor_ne_zero (s.isBit _) _

theorem scrambleLastBits_other
    (data : Memory)
    (other : index / 8 ≠ stop / 8) :
    (scrambleLastBits routines s data stop nofBits).bitAt index =
      data.bitAt index :=
  Memory.bitAt_write_other data _ other

variable {stop offset index : Nat}

/-- From an octet on, all bits are scrambled. -/
theorem scrambleAligned_inside
    (isPacked : s.IsPacked)
    (data : Memory)
    {len : Int}
    (aligned : offset % 8 = 0)
    (ends : (stop : Int) = offset + len)
    (notBefore : offset ≤ index)
    (inside : index < stop) :
    (scrambleAligned routines s data stop len offset).bitAt index =
      (data.bitAt index ^^ s.bit index) := by
  have notNegative : 0 ≤ len := by omega
  have isWhole : len.tdiv 8 = len / 8 := Int.tdiv_eq_ediv_of_nonneg notNegative
  have isRest : len.tmod 8 = len % 8 := Int.tmod_eq_emod_of_nonneg notNegative
  rw [scrambleAligned, isWhole, isRest]
  by_cases inWhole : index < 8 * (offset / 8 + (len / 8).toNat)
  · have scrambled :=
      @scrambleOctets_inside routines s isPacked data (offset / 8)
        (len / 8).toNat index (by omega) inWhole
    split
    · rw [scrambleLastBits_other _ (by omega)]
      exact scrambled
    · exact scrambled
  · have kept :=
      @scrambleOctets_other routines s data (offset / 8) (len / 8).toNat
        index (.inr (by omega))
    have remains : 0 < len % 8 := by omega
    rw [if_pos remains,
      scrambleLastBits_inside _ (by omega) (by omega) (by omega), kept]

theorem scrambleAligned_earlier
    (data : Memory)
    {len : Int}
    (aligned : offset % 8 = 0)
    (ends : 0 < len.tmod 8 → offset ≤ stop)
    (before : index < offset) :
    (scrambleAligned routines s data stop len offset).bitAt index =
      data.bitAt index :=
  scrambleAligned_before data aligned ends index before

/-- All bits of a chunk are scrambled. -/
theorem scrambling_inside
    (isPacked : s.IsPacked)
    (data : Memory)
    (len offset : Nat) :
    HoldsScrambled s data.bitAt offset (offset + len)
      (srsranScramblingBytesWithSequenceOffsetFix routines s data len
        offset) := by
  intro index notBefore inside
  rw [srsranScramblingBytesWithSequenceOffsetFix]
  split
  · rename_i unaligned
    have aligned : (offset / 8 + 1) * 8 % 8 = 0 := by omega
    by_cases inFirst : index / 8 = offset / 8
    · -- the length falls below zero if the chunk ends in its first octet
      rw [scrambleAligned_earlier _ aligned (by
          intro remains
          by_contra early
          have notPositive :=
            @lastBits_nonpos ((len : Int) - (8 - offset % 8 : Nat)) (by omega)
          omega)
        (by omega)]
      exact scrambleFirstBits_inside data notBefore inFirst
    · rw [scrambleAligned_inside isPacked _ aligned (by omega) (by omega)
        inside, scrambleFirstBits_other data inFirst]
  · rename_i isAligned
    exact scrambleAligned_inside isPacked data (by omega) (by omega) notBefore
        inside

variable {bits : Nat → Bool}
variable {offset : Nat}
variable {lengths : List Nat}
variable {before after : Memory}

/-- The bits in front of the chunks are left alone. -/
theorem StoresAndScrambles.earlier
    (scrambled :
      StoresAndScrambles routines s bits offset lengths before after) :
    Memory.SameBitsBefore offset before after := by
  induction scrambled with
  | done => exact .refl _ _
  | @chunk offset len _ _ stored _ stores rest hypothesis =>
      exact (stores.earlier.trans (scrambling_before stored len offset)).trans
          (hypothesis.mono (Nat.le_add_right _ _))

/-- The octets behind the chunks are left alone. -/
theorem StoresAndScrambles.behind
    (scrambled :
      StoresAndScrambles routines s bits offset lengths before after) :
    Memory.SameOctetsFrom ((offset + lengths.sum + 7) / 8) before after := by
  induction scrambled with
  | done => exact fun _ _ => rfl
  | @chunk offset len lengths _ stored _ stores rest hypothesis =>
      rw [List.sum_cons, ← Nat.add_assoc]
      refine Memory.SameOctetsFrom.trans ?_ hypothesis
      exact (stores.behind.trans (scrambling_behind stored len offset)).mono
          (by omega)

theorem StoresAndScrambles.holdsScrambled
    (isPacked : s.IsPacked)
    (scrambled :
      StoresAndScrambles routines s bits offset lengths before after) :
    HoldsScrambled s bits offset (offset + lengths.sum) after := by
  induction scrambled with
  | done =>
      intro index notBefore inside
      rw [List.sum_nil] at inside
      omega
  | @chunk offset len lengths _ stored _ stores rest hypothesis =>
      intro index notBefore inside
      rw [List.sum_cons, ← Nat.add_assoc] at inside
      by_cases inChunk : index < offset + len
      · rw [rest.earlier index inChunk,
          scrambling_inside isPacked stored len offset index notBefore inChunk,
          stores.stored index notBefore inChunk]
      · exact hypothesis index (by omega) inside

/-- Only the bits of the chunks matter. -/
theorem StoresAndScrambles.congr
    {others : Nat → Bool}
    (scrambled :
      StoresAndScrambles routines s bits offset lengths before after)
    (same :
      ∀ index, offset ≤ index → index < offset + lengths.sum →
        others index = bits index) :
    StoresAndScrambles routines s others offset lengths before after := by
  induction scrambled with
  | done => exact .done
  | chunk stores rest hypothesis =>
      rw [List.sum_cons] at same
      refine .chunk ⟨?_, stores.earlier, stores.behind⟩ ?_
      · intro index notBefore inside
        rw [stores.stored index notBefore inside]
        exact (same index notBefore (by omega)).symm
      · refine hypothesis ?_
        intro index notBefore inside
        exact same index (by omega) (by omega)

/-- Store the bits of a chunk, and those of the string behind it. -/
def storeBits
    (bits : Nat → Bool)
    (start count : Nat)
    (memory : Memory) :
    Memory :=
  fun address =>
    if (start + count + 7) / 8 ≤ address then
      memory address
    else
      packBits ((List.range 8).map fun index =>
        if
          if start ≤ 8 * address + index then
            bits (8 * address + index)
          else
            octetBit (memory address) index
        then 1 else 0)

/-- Stored bits start with the chunk. -/
theorem storeBits_bitAt
    (bits : Nat → Bool)
    (memory : Memory)
    (inside : index / 8 < (start + count + 7) / 8) :
    (storeBits bits start count memory).bitAt index =
      if start ≤ index then bits index else memory.bitAt index := by
  have inOctet : index % 8 < 8 := Nat.mod_lt _ (by decide)
  have isIndex : 8 * (index / 8) + index % 8 = index := by omega
  rw [bitAt, storeBits, if_neg (Nat.not_le.mpr inside),
    octetBit_packBits _ inOctet, List.getElem?_map,
    List.getElem?_range inOctet, Option.map_some, Option.getD_some, isIndex,
    ← bitAt]
  split
  · cases bits index <;> rfl
  · cases memory.bitAt index <;> rfl

theorem storesChunk_storeBits
    (bits : Nat → Bool)
    (start count : Nat)
    (memory : Memory) :
    StoresChunk bits start count memory
      (storeBits bits start count memory) := by
  refine ⟨?_, ?_, fun address behind => if_pos behind⟩
  · intro index notBefore inside
    rw [storeBits_bitAt _ _ (by omega), if_pos notBefore]
  · intro index isBefore
    rw [storeBits_bitAt _ _ (by omega), if_neg (Nat.not_le.mpr isBefore)]

theorem exists_storesAndScrambles
    (routines : BitRoutines)
    (s : ScramblingSequence)
    (bits : Nat → Bool)
    (offset : Nat)
    (lengths : List Nat)
    (before : Memory) :
    ∃ after,
      StoresAndScrambles routines s bits offset lengths before after := by
  induction lengths generalizing offset before with
  | nil => exact ⟨before, .done⟩
  | cons len lengths hypothesis =>
      obtain ⟨after, scrambled⟩ := hypothesis (offset + len) _
      exact ⟨after, .chunk (storesChunk_storeBits bits offset len before)
          scrambled⟩

section

variable {TxBuffer Parity : Type}
variable {library : TurboEncoder TxBuffer Parity}
variable {cbSegm : CbSegm}
variable {Qm rv G : Nat}
variable {data : Memory}
variable {state next : PdcEncoderState TxBuffer Parity}

theorem encodeCodeblock_storesChunk
    (matchesInPlace : MatchesInPlace library rv)
    (encoded :
      encodeCodeblock (library.withScrambling routines s) cbSegm Qm rv G
          data state =
        .ok next) :
    ∃ stored : Memory,
      StoresChunk stored.bitAt state.wp
          (encodedSize cbSegm Qm G state.cbIdx) state.eBits stored ∧
        next.wp = state.wp + encodedSize cbSegm Qm G state.cbIdx ∧
        next.eBits =
          srsranScramblingBytesWithSequenceOffsetFix routines s stored
            (encodedSize cbSegm Qm G state.cbIdx) state.wp := by
  simp only [encodeCodeblock] at encoded
  split at encoded
  · cases encoded
  · rename_i buffer eBits matched
    cases encoded
    have isStart : 8 * (state.wp / 8) + state.wp % 8 = state.wp := by omega
    have earlier := matchesInPlace.before matched
    have behind := matchesInPlace.behind matched
    rw [isStart] at earlier behind
    exact ⟨eBits, ⟨fun _ _ _ => rfl, earlier, behind⟩, rfl, rfl⟩

theorem Passes.storesAndScrambles
    {nofDBitsMinimum : Nat}
    (matchesInPlace : MatchesInPlace library rv)
    (passes :
      Passes (library.withScrambling routines s) cbSegm Qm rv G data
        nofDBitsMinimum state next) :
    ∃ (bits : Nat → Bool) (lengths : List Nat),
      state.wp + lengths.sum = next.wp ∧
        StoresAndScrambles routines s bits state.wp lengths state.eBits
          next.eBits := by
  induction passes using Relation.ReflTransGen.head_induction_on with
  | refl => exact ⟨fun _ => false, [], rfl, .done⟩
  | @head first second pass _ hypothesis =>
      obtain ⟨stored, stores, isPointer, isScrambled⟩ :=
        encodeCodeblock_storesChunk matchesInPlace pass.2
      obtain ⟨rest, lengths, isStop, scrambled⟩ := hypothesis
      rw [isPointer] at isStop scrambled
      rw [isScrambled] at scrambled
      refine ⟨fun index =>
          if index < first.wp + encodedSize cbSegm Qm G first.cbIdx then
            stored.bitAt index
          else rest index,
          encodedSize cbSegm Qm G first.cbIdx :: lengths, ?_, ?_⟩
      · rw [List.sum_cons]
        omega
      · refine .chunk ⟨?_, stores.earlier, stores.behind⟩ (scrambled.congr ?_)
        · intro index _ inside
          rw [if_pos inside]
        · intro index notBefore _
          rw [if_neg (Nat.not_lt.mpr notBefore)]

end

/--
Chunks of any lengths that are scrambled as soon as they are stored are
together the string, scrambled with the sequence.  Scrambling a chunk changes
no bit in front of it and no octet behind it.
-/
theorem scrambling_chunks_eq_whole
    (isPacked : s.IsPacked)
    (scrambled :
      StoresAndScrambles routines s bits offset lengths before after) :
    HoldsScrambled s bits offset (offset + lengths.sum) after ∧
      Memory.SameBitsBefore offset before after ∧
      Memory.SameOctetsFrom ((offset + lengths.sum + 7) / 8) before
        after ∧
      ∀ data len start,
        Memory.SameBitsBefore start data
            (srsranScramblingBytesWithSequenceOffsetFix routines s data len
              start) ∧
          Memory.SameOctetsFrom ((start + len + 7) / 8) data
            (srsranScramblingBytesWithSequenceOffsetFix routines s data len
              start) :=
  ⟨scrambled.holdsScrambled isPacked, scrambled.earlier, scrambled.behind,
    fun data len start =>
      ⟨scrambling_before data len start,
        scrambling_behind data len start⟩⟩

end

/-- A sequence that leaves every bit as it is. -/
def ScramblingSequence.zeros : ScramblingSequence where
  c _ := 0
  cBytes _ := 0
  isBit _ := Or.inl rfl

theorem ScramblingSequence.zeros_isPacked :
    ScramblingSequence.zeros.IsPacked := by
  intro index
  simp [bitAt, octetBit, ScramblingSequence.bit,
    ScramblingSequence.zeros]

theorem ScramblingSequence.ones_isPacked :
    ScramblingSequence.ones.IsPacked := by
  intro index
  have allSet : ∀ place < 8, octetBit 0xFF place = true := by decide +kernel
  exact allSet _ (Nat.mod_lt _ (by decide))

/-- A string of a single octet is scrambled in two chunks. -/
theorem scrambling_chunks_eq_whole_octet :
    ∃ after,
      HoldsScrambled .ones (fun _ => true) 0 8 after ∧
        Memory.SameBitsBefore 0 (fun _ => 0) after ∧
        Memory.SameOctetsFrom 1 (fun _ => 0) after := by
  obtain ⟨after, scrambled⟩ :=
    exists_storesAndScrambles .padded .ones (fun _ => true) 0 [3, 5]
      fun _ => 0
  obtain ⟨holds, earlier, behind, -⟩ :=
    scrambling_chunks_eq_whole ScramblingSequence.ones_isPacked scrambled
  exact ⟨after, holds, earlier, behind⟩

theorem scrambling_padded_behind
    {s : ScramblingSequence}
    (data : Memory)
    (octet : Nat)
    {place : Nat}
    (remains : 0 < place)
    (inside : place < 8) :
    (srsranScramblingBytesWithSequenceOffsetFix .padded s data
        (8 * octet + place) 0).bitAt (8 * octet + place) = false := by
  have isOctet : (0 + (8 * octet + place)) / 8 = octet := by omega
  have isCount : (((8 * octet + place : Nat) : Int) % 8).toNat = place := by
    omega
  rw [srsranScramblingBytesWithSequenceOffsetFix, if_neg (by omega),
    scrambleAligned, Int.tmod_eq_emod_of_nonneg (by omega),
    if_pos (by omega), isCount, scrambleLastBits, isOctet,
    Memory.bitAt_write_octet _ _ _ inside]
  dsimp only [BitRoutines.padded]
  rw [octetBit_packBits _ inside, List.getElem?_take, if_neg (lt_irrefl _)]
  rfl

/-- The segmentation of a transport block into two code blocks. -/
def twoCodeBlocks : CbSegm where
  F := 0
  C := 2
  K1 := 3136
  K2 := 3072
  K1Idx := 140
  K2Idx := 139
  C1 := 2
  C2 := 0
  tbs := 6200

/--
The bits of the second of two code blocks are not all kept if they are stored
before the first one is scrambled.
-/
theorem not_scrambling_chunks_eq_whole :
    ¬∀ (routines : BitRoutines)
        (s : ScramblingSequence)
        (tbs Z : Nat)
        (cbSegm : CbSegm)
        (Qm G : Nat)
        (data : Memory),
        s.IsPacked →
        srsranCbsegmFix tbs Z = some cbSegm →
        Qm ∣ G →
        HoldsScrambled s data.bitAt 0 G
          (scrambleChunks routines s 0
            ((List.range cbSegm.C).map (encodedSize cbSegm Qm G)) data) := by
  intro isWhole
  -- two chunks of 6202 bits of which all are set
  have holds :=
    isWhole .padded .zeros 6200 6144 twoCodeBlocks 2 12404
      (fun _ => 0xFF) ScramblingSequence.zeros_isPacked (by decide +kernel)
      (by decide) 6202 (by decide) (by decide)
  have areChunks :
      (List.range twoCodeBlocks.C).map
          (encodedSize twoCodeBlocks 2 12404) =
        [6202, 6202] := by
    decide +kernel
  rw [areChunks, scrambleChunks, scrambleChunks, scrambleChunks,
    scrambling_inside ScramblingSequence.zeros_isPacked _ 6202 (0 + 6202)
      6202 (by decide) (by decide),
    @scrambling_padded_behind .zeros (fun _ => 0xFF) 775 2 (by decide)
      (by decide)] at holds
  have isSet : bitAt (fun _ => 0xFF) 6202 = true := by
    decide +kernel
  rw [isSet] at holds
  cases holds

end DectNrp
