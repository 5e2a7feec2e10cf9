import DectNrp.Octets

namespace DectNrp

/-!
# Mapping of packed bits to symbols

Bits are packed into bytes with the first bit as the most significant one.  The
mapper looks up whole bytes where it can, takes symbols of six bits out of
three bytes, and completes what is not a multiple of that.  Whatever the
number of bits per symbol, consecutive bits become consecutive symbols.
-/

/--
Symbols of a modulation.  The packed tables hold the symbols of all values of a
byte, as the library that initializes them fills them.
-/
structure ModemTable (Symbol : Type) where
  nbitsXSymbol : Nat
  symbolTable : Nat → Symbol
  symbolTableBpsk : Nat → List Symbol
  symbolTableQpsk : Nat → List Symbol
  symbolTable16qam : Nat → List Symbol
  isBpsk :
    ∀ byte,
      symbolTableBpsk byte =
        [symbolTable (byte / 128 % 2), symbolTable (byte / 64 % 2),
          symbolTable (byte / 32 % 2), symbolTable (byte / 16 % 2),
          symbolTable (byte / 8 % 2), symbolTable (byte / 4 % 2),
          symbolTable (byte / 2 % 2), symbolTable (byte % 2)]
  isQpsk :
    ∀ byte,
      symbolTableQpsk byte =
        [symbolTable (byte / 64 % 4), symbolTable (byte / 16 % 4),
          symbolTable (byte / 4 % 4), symbolTable (byte % 4)]
  is16qam :
    ∀ byte,
      symbolTable16qam byte =
        [symbolTable (byte / 16 % 16), symbolTable (byte % 16)]

namespace ModemTable

variable {Symbol : Type}

def maskBpsk : List Nat :=
  [0x80, 0x40, 0x20, 0x10, 0x08, 0x04, 0x02, 0x01]

def shiftBpsk : List Nat :=
  [7, 6, 5, 4, 3, 2, 1, 0]

def maskQpsk : List Nat :=
  [0xc0, 0x30, 0x0c, 0x03]

def shiftQpsk : List Nat :=
  [6, 4, 2, 0]

def modBpskBytes
    (q : ModemTable Symbol)
    (bits : Nat → Nat)
    (nbits : Nat) :
    List Symbol :=
  (List.range (nbits / 8)).flatMap (fun i => q.symbolTableBpsk (bits i)) ++
    (List.range (nbits % 8)).map fun i =>
      q.symbolTable
        ((bits (nbits / 8) &&& maskBpsk[i]?.getD 0) >>>
          shiftBpsk[i]?.getD 0)

def modQpskBytes
    (q : ModemTable Symbol)
    (bits : Nat → Nat)
    (nbits : Nat) :
    List Symbol :=
  (List.range (nbits / 8)).flatMap (fun i => q.symbolTableQpsk (bits i)) ++
    (List.range (nbits % 8 / 2)).map fun i =>
      q.symbolTable
        ((bits (nbits / 8) &&& maskQpsk[i]?.getD 0) >>>
          shiftQpsk[i]?.getD 0)

def mod16qamBytes
    (q : ModemTable Symbol)
    (bits : Nat → Nat)
    (nbits : Nat) :
    List Symbol :=
  (List.range (nbits / 8)).flatMap (fun i => q.symbolTable16qam (bits i)) ++
    if nbits % 8 ≠ 0 then
      [q.symbolTable ((bits (nbits / 8) &&& 0xf0) >>> 4)]
    else
      []

/-- First of four symbols in three bytes, and the ones after it. -/
def in0 (in80 : Nat) : Nat := (in80 &&& 0xfc) >>> 2

def in1 (in80 in81 : Nat) : Nat :=
  (in80 &&& 0x03) <<< 4 ||| (in81 &&& 0xf0) >>> 4

def in2 (in81 in82 : Nat) : Nat :=
  (in81 &&& 0x0f) <<< 2 ||| (in82 &&& 0xc0) >>> 6

def in3 (in82 : Nat) : Nat := in82 &&& 0x3f

def mod64qamBytes
    (q : ModemTable Symbol)
    (bits : Nat → Nat)
    (nbits : Nat) :
    List Symbol :=
  let in80 := bits (3 * (nbits / 24))
  let in81 := bits (3 * (nbits / 24) + 1)
  let in82 := bits (3 * (nbits / 24) + 2)
  (List.range (nbits / 24)).flatMap (fun i =>
      [q.symbolTable (in0 (bits (3 * i))),
        q.symbolTable (in1 (bits (3 * i)) (bits (3 * i + 1))),
        q.symbolTable (in2 (bits (3 * i + 1)) (bits (3 * i + 2))),
        q.symbolTable (in3 (bits (3 * i + 2)))]) ++
    ((if 6 ≤ nbits % 24 then [q.symbolTable (in0 in80)] else []) ++
      (if 12 ≤ nbits % 24 then [q.symbolTable (in1 in80 in81)] else []) ++
      if 18 ≤ nbits % 24 then [q.symbolTable (in2 in81 in82)] else [])

def mod256qamBytes
    (q : ModemTable Symbol)
    (bits : Nat → Nat)
    (nbits : Nat) :
    List Symbol :=
  (List.range (nbits / 8)).map fun i => q.symbolTable (bits i)

/--
Symbols of a number of bits, from a byte on.  The packed tables of a
`ModemTable` are filled, so that `byte_tables_init` is checked only where they
are those of the library.
-/
def srsranModModulateBytesFix
    (q : ModemTable Symbol)
    (bits : Nat → Nat)
    (nbits : Nat) :
    Checked (List Symbol) := do
  dectnrpAssert (nbits % q.nbitsXSymbol == 0)
    "Error modulator expects number of bits ({}) to be multiple of {}"
  match q.nbitsXSymbol with
  | 1 => pure (q.modBpskBytes bits nbits)
  | 2 => pure (q.modQpskBytes bits nbits)
  | 4 => pure (q.mod16qamBytes bits nbits)
  | 6 => pure (q.mod64qamBytes bits nbits)
  | 8 => pure (q.mod256qamBytes bits nbits)
  | _ =>
      .error (.assertion
        "srsran_mod_modulate_bytes() accepts QPSK/16QAM/64QAM modulations only")

/-- One of consecutive bits, the most significant one of a byte first. -/
def bitAt (bits : Nat → Nat) (index : Nat) : Nat :=
  bits (index / 8) / 2 ^ (7 - index % 8) % 2

/-- Value of consecutive bits, the most significant one first. -/
def valueAt (bits : Nat → Nat) (start : Nat) : Nat → Nat
  | 0 => 0
  | count + 1 =>
      2 * valueAt bits start count + bitAt bits (start + count)

/-- A value of more bits is made of the values of both parts. -/
theorem valueAt_add
    (bits : Nat → Nat)
    (start count more : Nat) :
    valueAt bits start (count + more) =
      2 ^ more * valueAt bits start count +
        valueAt bits (start + count) more := by
  induction more with
  | zero =>
      rw [Nat.add_zero, Nat.pow_zero, Nat.one_mul]
      rfl
  | succ more hypothesis =>
      rw [← Nat.add_assoc, valueAt, valueAt, hypothesis,
        Nat.pow_succ, Nat.add_assoc start]
      ring

/-- A value within one byte is a part of this byte. -/
theorem valueAt_inByte
    (bits : Nat → Nat)
    (byte : Nat)
    {offset count : Nat}
    (inside : offset + count ≤ 8) :
    valueAt bits (8 * byte + offset) count =
      bits byte / 2 ^ (8 - (offset + count)) % 2 ^ count := by
  induction count with
  | zero =>
      rw [Nat.pow_zero, Nat.mod_one]
      rfl
  | succ count hypothesis =>
      have isByte : (8 * byte + offset + count) / 8 = byte := by omega
      have isOffset : 7 - (8 * byte + offset + count) % 8 =
            8 - (offset + (count + 1)) := by
        omega
      have oneMore :
          8 - (offset + count) = 8 - (offset + (count + 1)) + 1 := by
        omega
      rw [valueAt, hypothesis (by omega), bitAt, isByte,
        isOffset, oneMore, Nat.pow_succ, ← Nat.div_div_eq_div_mul,
        Nat.pow_succ', Nat.mod_mul, Nat.add_comm]

theorem valueAt_shift
    (bits : Nat → Nat)
    (byte start count : Nat) :
    valueAt (fun index => bits (byte + index)) start count =
      valueAt bits (8 * byte + start) count := by
  induction count with
  | zero => rfl
  | succ count hypothesis =>
      have isByte :
          (8 * byte + start + count) / 8 = byte + (start + count) / 8 := by
        omega
      have isOffset :
          (8 * byte + start + count) % 8 = (start + count) % 8 := by
        omega
      rw [valueAt, valueAt, hypothesis, bitAt, bitAt, isByte, isOffset]

/-- Masked and shifted bits of a byte. -/
theorem and_shiftRight
    {byte mask shift : Nat}
    (order : Nat)
    (isMask : mask >>> shift = 2 ^ order - 1) :
    (byte &&& mask) >>> shift = byte / 2 ^ shift % 2 ^ order := by
  rw [Nat.shiftRight_and_distrib, isMask, Nat.and_two_pow_sub_one_eq_mod,
    Nat.shiftRight_eq_div_pow]

/-- Consecutive symbols of consecutive bits. -/
def symbolsFrom
    (q : ModemTable Symbol)
    (bits : Nat → Nat)
    (first count : Nat) :
    List Symbol :=
  (List.range count).map fun symbol =>
    q.symbolTable
      (valueAt bits ((first + symbol) * q.nbitsXSymbol) q.nbitsXSymbol)

theorem length_symbolsFrom
    (q : ModemTable Symbol)
    (bits : Nat → Nat)
    (first count : Nat) :
    (q.symbolsFrom bits first count).length = count := by
  unfold symbolsFrom
  rw [List.length_map, List.length_range]

/-- More symbols follow the ones before. -/
theorem symbolsFrom_add
    (q : ModemTable Symbol)
    (bits : Nat → Nat)
    (first count more : Nat) :
    q.symbolsFrom bits first (count + more) =
      q.symbolsFrom bits first count ++
        q.symbolsFrom bits (first + count) more := by
  unfold symbolsFrom
  rw [List.range_add, List.map_append, List.map_map]
  simp only [Function.comp_def, Nat.add_assoc]

/-- Blocks of as many symbols each. -/
theorem flatMap_symbolsFrom
    (q : ModemTable Symbol)
    (bits : Nat → Nat)
    (size blocks : Nat) :
    ((List.range blocks).flatMap fun block =>
        q.symbolsFrom bits (block * size) size) =
      q.symbolsFrom bits 0 (blocks * size) := by
  induction blocks with
  | zero =>
      rw [Nat.zero_mul]
      rfl
  | succ blocks hypothesis =>
      rw [List.range_succ, List.flatMap_append, hypothesis,
        List.flatMap_singleton, Nat.succ_mul, symbolsFrom_add, Nat.zero_add]

/-- Symbols of one byte, if a byte holds a whole number of them. -/
theorem symbolsFrom_inByte
    (q : ModemTable Symbol)
    (bits : Nat → Nat)
    (byte : Nat)
    {perByte count : Nat}
    (whole : perByte * q.nbitsXSymbol = 8)
    (inside : count ≤ perByte) :
    q.symbolsFrom bits (byte * perByte) count =
      (List.range count).map fun symbol =>
        q.symbolTable
          (bits byte / 2 ^ (8 - (symbol + 1) * q.nbitsXSymbol) %
            2 ^ q.nbitsXSymbol) := by
  unfold symbolsFrom
  refine List.map_congr_left ?_
  intro symbol member
  have inCount := List.mem_range.mp member
  have start : (byte * perByte + symbol) * q.nbitsXSymbol =
        8 * byte + symbol * q.nbitsXSymbol := by
    rw [Nat.add_mul, Nat.mul_assoc, whole, Nat.mul_comm byte]
  have inByte : symbol * q.nbitsXSymbol + q.nbitsXSymbol ≤ 8 := by
    rw [← Nat.succ_mul, ← whole]
    exact Nat.mul_le_mul_right _ (Nat.lt_of_lt_of_le inCount inside)
  rw [start, valueAt_inByte bits byte inByte, Nat.succ_mul]

variable {q : ModemTable Symbol}

/-- Whole bytes and the first symbols of the byte behind them. -/
theorem symbolsFrom_bytes
    {bits : Nat → Nat}
    {perByte bytes rest : Nat}
    {table : Nat → List Symbol}
    {last : List Symbol}
    (isTable :
      ∀ byte, table (bits byte) = q.symbolsFrom bits (byte * perByte) perByte)
    (isLast : last = q.symbolsFrom bits (bytes * perByte) rest) :
    (List.range bytes).flatMap (fun byte => table (bits byte)) ++ last =
      q.symbolsFrom bits 0 (bytes * perByte + rest) := by
  have whole : (List.range bytes).flatMap (fun byte => table (bits byte)) =
        q.symbolsFrom bits 0 (bytes * perByte) := by
    rw [← flatMap_symbolsFrom]
    simp only [isTable]
  rw [symbolsFrom_add, whole, isLast, Nat.zero_add]

theorem modBpskBytes_eq
    (isOrder : q.nbitsXSymbol = 1)
    (bits : Nat → Nat)
    (count : Nat) :
    q.modBpskBytes bits count = q.symbolsFrom bits 0 count := by
  have masks : ∀ symbol < 8,
        (maskBpsk[symbol]?.getD 0) >>> (shiftBpsk[symbol]?.getD 0) =
            2 ^ 1 - 1 ∧
          shiftBpsk[symbol]?.getD 0 = 8 - (symbol + 1) * 1 := by
    decide
  have split : count = count / 8 * 8 + count % 8 := by omega
  have whole : 8 * q.nbitsXSymbol = 8 := by rw [isOrder]
  conv_rhs => rw [split]
  refine symbolsFrom_bytes ?_ ?_
  · intro byte
    rw [symbolsFrom_inByte q bits byte whole (Nat.le_refl 8), isOrder,
      q.isBpsk]
    simp [List.range_succ]
  · rw [symbolsFrom_inByte q bits _ whole
      (Nat.le_of_lt (Nat.mod_lt count (by decide))), isOrder]
    refine List.map_congr_left ?_
    intro symbol member
    have inside := List.mem_range.mp member
    obtain ⟨isMask, isShift⟩ := masks symbol (by omega)
    rw [and_shiftRight _ isMask, isShift]

theorem modQpskBytes_eq
    (isOrder : q.nbitsXSymbol = 2)
    (bits : Nat → Nat)
    (count : Nat) :
    q.modQpskBytes bits (2 * count) = q.symbolsFrom bits 0 count := by
  have masks : ∀ symbol < 4,
        (maskQpsk[symbol]?.getD 0) >>> (shiftQpsk[symbol]?.getD 0) =
            2 ^ 2 - 1 ∧
          shiftQpsk[symbol]?.getD 0 = 8 - (symbol + 1) * 2 := by
    decide
  have split : count = 2 * count / 8 * 4 + 2 * count % 8 / 2 := by omega
  have whole : 4 * q.nbitsXSymbol = 8 := by rw [isOrder]
  conv_rhs => rw [split]
  refine symbolsFrom_bytes ?_ ?_
  · intro byte
    rw [symbolsFrom_inByte q bits byte whole (Nat.le_refl 4), isOrder,
      q.isQpsk]
    simp [List.range_succ]
  · rw [symbolsFrom_inByte q bits _ whole (by omega), isOrder]
    refine List.map_congr_left ?_
    intro symbol member
    have inside := List.mem_range.mp member
    obtain ⟨isMask, isShift⟩ := masks symbol (by omega)
    rw [and_shiftRight _ isMask, isShift]

theorem mod16qamBytes_eq
    (isOrder : q.nbitsXSymbol = 4)
    (bits : Nat → Nat)
    (count : Nat) :
    q.mod16qamBytes bits (4 * count) = q.symbolsFrom bits 0 count := by
  have split : count = 4 * count / 8 * 2 + 4 * count % 8 / 4 := by omega
  have whole : 2 * q.nbitsXSymbol = 8 := by rw [isOrder]
  conv_rhs => rw [split]
  refine symbolsFrom_bytes ?_ ?_
  · intro byte
    rw [symbolsFrom_inByte q bits byte whole (Nat.le_refl 2), isOrder,
      q.is16qam]
    simp [List.range_succ]
  · rw [symbolsFrom_inByte q bits _ whole (by omega), isOrder]
    split
    · have half : 4 * count % 8 / 4 = 1 := by omega
      rw [half, and_shiftRight 4 (by decide)]
      simp
    · have none : 4 * count % 8 / 4 = 0 := by omega
      rw [none]
      rfl

theorem in0_eq (bits : Nat → Nat) (byte : Nat) :
    in0 (bits byte) = valueAt bits (8 * byte) 6 := by
  unfold in0
  rw [and_shiftRight 6 (by decide)]
  exact (@valueAt_inByte bits byte 0 6 (by decide)).symm

theorem in1_eq (bits : Nat → Nat) (byte : Nat) :
    in1 (bits byte) (bits (byte + 1)) = valueAt bits (8 * byte + 6) 6 := by
  have low : (bits (byte + 1) &&& 0xf0) >>> 4 =
        valueAt bits (8 * (byte + 1) + 0) 4 := by
    rw [and_shiftRight 4 (by decide),
      valueAt_inByte bits (byte + 1) (by decide)]
  have high : bits byte &&& 0x03 = valueAt bits (8 * byte + 6) 2 := by
    rw [valueAt_inByte bits byte (by decide)]
    simpa using Nat.and_two_pow_sub_one_eq_mod (bits byte) 2
  have small : valueAt bits (8 * (byte + 1) + 0) 4 < 2 ^ 4 := by
    rw [valueAt_inByte bits (byte + 1) (by decide)]
    exact Nat.mod_lt _ (by decide)
  unfold in1
  rw [low, high, ← Nat.shiftLeft_add_eq_or_of_lt small,
    Nat.shiftLeft_eq, Nat.mul_comm]
  exact (valueAt_add bits (8 * byte + 6) 2 4).symm

theorem in2_eq (bits : Nat → Nat) (byte : Nat) :
    in2 (bits byte) (bits (byte + 1)) = valueAt bits (8 * byte + 4) 6 := by
  have low : (bits (byte + 1) &&& 0xc0) >>> 6 =
        valueAt bits (8 * (byte + 1) + 0) 2 := by
    rw [and_shiftRight 2 (by decide),
      valueAt_inByte bits (byte + 1) (by decide)]
  have high : bits byte &&& 0x0f = valueAt bits (8 * byte + 4) 4 := by
    rw [valueAt_inByte bits byte (by decide)]
    simpa using Nat.and_two_pow_sub_one_eq_mod (bits byte) 4
  have small : valueAt bits (8 * (byte + 1) + 0) 2 < 2 ^ 2 := by
    rw [valueAt_inByte bits (byte + 1) (by decide)]
    exact Nat.mod_lt _ (by decide)
  unfold in2
  rw [low, high, ← Nat.shiftLeft_add_eq_or_of_lt small,
    Nat.shiftLeft_eq, Nat.mul_comm]
  exact (valueAt_add bits (8 * byte + 4) 4 2).symm

theorem in3_eq (bits : Nat → Nat) (byte : Nat) :
    in3 (bits byte) = valueAt bits (8 * byte + 2) 6 := by
  unfold in3
  rw [valueAt_inByte bits byte (by decide)]
  simpa using Nat.and_two_pow_sub_one_eq_mod (bits byte) 6

theorem mod64qamBytes_eq
    (isOrder : q.nbitsXSymbol = 6)
    (bits : Nat → Nat)
    (count : Nat) :
    q.mod64qamBytes bits (6 * count) = q.symbolsFrom bits 0 count := by
  have bitsOf (group symbol : Nat) :
      (group * 4 + symbol) * 6 = 8 * (3 * group) + 6 * symbol := by
    omega
  have first (group : Nat) :
      in0 (bits (3 * group)) = valueAt bits ((group * 4 + 0) * 6) 6 := by
    rw [in0_eq, bitsOf]
    rfl
  have second (group : Nat) : in1 (bits (3 * group)) (bits (3 * group + 1)) =
        valueAt bits ((group * 4 + 1) * 6) 6 := by
    rw [in1_eq, bitsOf]
  have third (group : Nat) :
      in2 (bits (3 * group + 1)) (bits (3 * group + 2)) =
        valueAt bits ((group * 4 + 2) * 6) 6 := by
    rw [in2_eq, bitsOf]
    congr 1
  have fourth (group : Nat) :
      in3 (bits (3 * group + 2)) = valueAt bits ((group * 4 + 3) * 6) 6 := by
    rw [in3_eq, bitsOf]
    congr 1
  have groups : (List.range (6 * count / 24)).flatMap (fun i =>
          [q.symbolTable (in0 (bits (3 * i))),
            q.symbolTable (in1 (bits (3 * i)) (bits (3 * i + 1))),
            q.symbolTable (in2 (bits (3 * i + 1)) (bits (3 * i + 2))),
            q.symbolTable (in3 (bits (3 * i + 2)))]) =
        q.symbolsFrom bits 0 (6 * count / 24 * 4) := by
    rw [← flatMap_symbolsFrom]
    refine List.flatMap_congr ?_
    intro group _
    rw [first, second, third, fourth]
    simp [symbolsFrom, isOrder, List.range_succ]
  have split : count = 6 * count / 24 * 4 + 6 * count % 24 / 6 := by omega
  have rest : 6 * count % 24 = 0 ∨ 6 * count % 24 = 6 ∨ 6 * count % 24 = 12 ∨
        6 * count % 24 = 18 := by
    omega
  conv_rhs => rw [split]
  unfold mod64qamBytes
  dsimp only
  rw [symbolsFrom_add, groups, Nat.zero_add, first, second, third]
  congr 1
  rcases rest with isRest | isRest | isRest | isRest
  · simp [isRest, symbolsFrom]
  · simp [isRest, symbolsFrom, isOrder]
  · simp [isRest, symbolsFrom, isOrder, List.range_succ]
  · simp [isRest, symbolsFrom, isOrder, List.range_succ]

theorem mod256qamBytes_eq
    (isOrder : q.nbitsXSymbol = 8)
    {bits : Nat → Nat}
    (areBytes : ∀ index, bits index < 256)
    (count : Nat) :
    q.mod256qamBytes bits (8 * count) = q.symbolsFrom bits 0 count := by
  unfold mod256qamBytes symbolsFrom
  rw [Nat.mul_div_cancel_left count (by decide)]
  refine List.map_congr_left ?_
  intro symbol _
  have start : (0 + symbol) * q.nbitsXSymbol = 8 * symbol + 0 := by
    rw [isOrder]
    omega
  rw [start, isOrder, valueAt_inByte bits symbol (by decide)]
  have whole : bits symbol % 256 = bits symbol :=
    Nat.mod_eq_of_lt (areBytes symbol)
  simp [whole]

/-- Symbols of the same bits are the same. -/
theorem symbolsFrom_shift
    (bits : Nat → Nat)
    {byte first : Nat}
    (aligned : first * q.nbitsXSymbol = 8 * byte)
    (count : Nat) :
    q.symbolsFrom (fun index => bits (byte + index)) 0 count =
      q.symbolsFrom bits first count := by
  unfold symbolsFrom
  refine List.map_congr_left ?_
  intro symbol _
  rw [valueAt_shift, Nat.zero_add, Nat.add_mul, aligned]

/-- Symbols depend on the bits they are made of only. -/
theorem symbolsFrom_congr
    {q : ModemTable Symbol}
    {bits others : Nat → Nat}
    {first count : Nat}
    (same :
      ∀ index < (first + count) * q.nbitsXSymbol,
        bitAt others index = bitAt bits index) :
    q.symbolsFrom others first count = q.symbolsFrom bits first count := by
  have sameValue (start width : Nat)
      (inside : start + width ≤ (first + count) * q.nbitsXSymbol) :
      valueAt others start width = valueAt bits start width := by
    induction width with
    | zero => rfl
    | succ width hypothesis =>
        rw [valueAt, valueAt, hypothesis (by omega), same _ (by omega)]
  unfold symbolsFrom
  refine List.map_congr_left ?_
  intro symbol member
  have inCount := List.mem_range.mp member
  rw [sameValue]
  rw [← Nat.succ_mul]
  exact Nat.mul_le_mul_right _ (by omega)

theorem symbolsFrom_getElem?
    (q : ModemTable Symbol)
    (bits : Nat → Nat)
    (first : Nat)
    {count index : Nat}
    (inside : index < count) :
    (q.symbolsFrom bits first count)[index]? =
      some
        (q.symbolTable
          (valueAt bits ((first + index) * q.nbitsXSymbol)
            q.nbitsXSymbol)) := by
  unfold symbolsFrom
  rw [List.getElem?_map, List.getElem?_range inside, Option.map_some]

/-- Orders of the modulations that are there. -/
def IsOrder (order : Nat) : Prop :=
  order = 1 ∨ order = 2 ∨ order = 4 ∨ order = 6 ∨ order = 8

theorem IsOrder.pos
    {order : Nat}
    (isOrder : IsOrder order) :
    0 < order := by
  unfold IsOrder at isOrder
  omega

/--
From a byte on that starts with a symbol, the mapper maps as many consecutive
symbols as it is asked for.
-/
theorem srsranModModulateBytesFix_eq
    {q : ModemTable Symbol}
    (isOrder : IsOrder q.nbitsXSymbol)
    {bits : Nat → Nat}
    (areBytes : ∀ index, bits index < 256)
    {byte first : Nat}
    (aligned : first * q.nbitsXSymbol = 8 * byte)
    (count : Nat) :
    q.srsranModModulateBytesFix (fun index => bits (byte + index))
        (q.nbitsXSymbol * count) =
      .ok (q.symbolsFrom bits first count) := by
  have whole : (q.nbitsXSymbol * count % q.nbitsXSymbol == 0) = true := by
    rw [Nat.mul_mod_right]
    rfl
  have here : ∀ index, bits (byte + index) < 256 :=
    fun index => areBytes (byte + index)
  rw [← symbolsFrom_shift bits aligned]
  unfold srsranModModulateBytesFix
  rw [whole, dectnrpAssert_true, Checked.ok_bind]
  rcases isOrder with isOrder | isOrder | isOrder | isOrder | isOrder
  · rw [isOrder, Nat.one_mul]
    exact congrArg Except.ok (modBpskBytes_eq isOrder _ count)
  · rw [isOrder]
    exact congrArg Except.ok (modQpskBytes_eq isOrder _ count)
  · rw [isOrder]
    exact congrArg Except.ok (mod16qamBytes_eq isOrder _ count)
  · rw [isOrder]
    exact congrArg Except.ok (mod64qamBytes_eq isOrder _ count)
  · rw [isOrder]
    exact congrArg Except.ok (mod256qamBytes_eq isOrder here count)

/-- Without bits there are no symbols. -/
theorem srsranModModulateBytesFix_noBits
    (isOrder : IsOrder q.nbitsXSymbol)
    (bits : Nat → Nat) :
    q.srsranModModulateBytesFix bits 0 = .ok [] := by
  unfold srsranModModulateBytesFix
  rcases isOrder with isOrder | isOrder | isOrder | isOrder | isOrder
  all_goals
    rw [isOrder]
    rfl

end ModemTable

end DectNrp
