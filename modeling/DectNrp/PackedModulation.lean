import DectNrp.ModulateBytes
import Mathlib.Data.Nat.ModEq

namespace DectNrp

/-!
# Modulation from and into buffers

The mapper loads the bytes of its bits one after another and stores the symbols
of each where the last ones end.  It loads a byte only if the byte holds bits
that were asked for, and stores no more than their symbols.

A bit string may be modulated in chunks, all but the last one of 24 bits or a
multiple of it, so that a chunk ends with a byte and with a symbol.
-/

open Checked (ok_bind pure_eq_ok)

/-- Tables of a modulation, and whether those of whole bytes were filled. -/
structure SrsranModemTable (Symbol : Type) extends ModemTable Symbol where
  byteTablesInit : Bool

namespace SrsranModemTable

open ModemTable (maskBpsk shiftBpsk maskQpsk shiftQpsk in0 in1 in2 in3 valueAt
  IsOrder)

variable {Symbol : Type}

/-- Copy symbols to consecutive places. -/
def storeSymbols
    (start : Nat)
    (values : List Symbol)
    (symbols : Nat → Symbol) :
    Nat → Symbol :=
  fun index =>
    if start ≤ index then
      values[index - start]?.getD (symbols index)
    else
      symbols index

/-- Store blocks of as many symbols each, one block after another. -/
def storeBlocks
    (start size blocks : Nat)
    (block : Nat → Checked (List Symbol))
    (symbols : Nat → Symbol) :
    Checked (Nat → Symbol) :=
  (List.range blocks).foldlM
    (fun symbols i => do
      let values ← block i
      pure (storeSymbols (start + size * i) values symbols))
    symbols

def modBpskBytes
    (q : SrsranModemTable Symbol)
    (bits : List UInt8)
    (front nbits : Nat)
    (symbols : Nat → Symbol) :
    Checked (Nat → Symbol) := do
  let symbols ←
    storeBlocks front 8 (nbits / 8)
      (fun i => do
        let byte ← loadOctet bits i
        pure (q.symbolTableBpsk byte.toNat))
      symbols
  storeBlocks (front + 8 * (nbits / 8)) 1 (nbits % 8)
    (fun i => do
      let byte ← loadOctet bits (nbits / 8)
      pure
        [q.symbolTable
          ((byte.toNat &&& maskBpsk[i]?.getD 0) >>>
            shiftBpsk[i]?.getD 0)])
    symbols

def modQpskBytes
    (q : SrsranModemTable Symbol)
    (bits : List UInt8)
    (front nbits : Nat)
    (symbols : Nat → Symbol) :
    Checked (Nat → Symbol) := do
  let symbols ←
    storeBlocks front 4 (nbits / 8)
      (fun i => do
        let byte ← loadOctet bits i
        pure (q.symbolTableQpsk byte.toNat))
      symbols
  storeBlocks (front + 4 * (nbits / 8)) 1 (nbits % 8 / 2)
    (fun i => do
      let byte ← loadOctet bits (nbits / 8)
      pure
        [q.symbolTable
          ((byte.toNat &&& maskQpsk[i]?.getD 0) >>>
            shiftQpsk[i]?.getD 0)])
    symbols

def mod16qamBytes
    (q : SrsranModemTable Symbol)
    (bits : List UInt8)
    (front nbits : Nat)
    (symbols : Nat → Symbol) :
    Checked (Nat → Symbol) := do
  let symbols ←
    storeBlocks front 2 (nbits / 8)
      (fun i => do
        let byte ← loadOctet bits i
        pure (q.symbolTable16qam byte.toNat))
      symbols
  if nbits % 8 ≠ 0 then do
    let byte ← loadOctet bits (nbits / 8)
    pure
      (storeSymbols (front + 2 * (nbits / 8))
        [q.symbolTable ((byte.toNat &&& 0xf0) >>> 4)] symbols)
  else
    pure symbols

/--
Symbols of an incomplete group of three bytes.  A byte is kept for the next
symbol, and one that was not loaded is not used either.
-/
def mod64qamRest
    (q : SrsranModemTable Symbol)
    (bits : List UInt8)
    (byte start rest : Nat)
    (symbols : Nat → Symbol) :
    Checked (Nat → Symbol) := do
  let (in80, symbols) ←
    (if 6 ≤ rest then do
      let in80 ← loadOctet bits (byte + 0)
      pure
        (in80,
          storeSymbols (start + 0) [q.symbolTable (in0 in80.toNat)] symbols)
    else
      pure (0, symbols))
  let (in81, symbols) ←
    (if 12 ≤ rest then do
      let in81 ← loadOctet bits (byte + 1)
      pure
        (in81,
          storeSymbols (start + 1)
            [q.symbolTable (in1 in80.toNat in81.toNat)] symbols)
    else
      pure (0, symbols))
  if 18 ≤ rest then do
    let in82 ← loadOctet bits (byte + 2)
    pure
      (storeSymbols (start + 2)
        [q.symbolTable (in2 in81.toNat in82.toNat)] symbols)
  else
    pure symbols

def mod64qamBytes
    (q : SrsranModemTable Symbol)
    (bits : List UInt8)
    (front nbits : Nat)
    (symbols : Nat → Symbol) :
    Checked (Nat → Symbol) := do
  let symbols ←
    storeBlocks front 4 (nbits / 24)
      (fun i => do
        let in80 ← loadOctet bits (3 * i + 0)
        let in81 ← loadOctet bits (3 * i + 1)
        let in82 ← loadOctet bits (3 * i + 2)
        pure
          [q.symbolTable (in0 in80.toNat),
            q.symbolTable (in1 in80.toNat in81.toNat),
            q.symbolTable (in2 in81.toNat in82.toNat),
            q.symbolTable (in3 in82.toNat)])
      symbols
  q.mod64qamRest bits (3 * (nbits / 24)) (front + 4 * (nbits / 24))
    (nbits % 24) symbols

def mod256qamBytes
    (q : SrsranModemTable Symbol)
    (bits : List UInt8)
    (front nbits : Nat)
    (symbols : Nat → Symbol) :
    Checked (Nat → Symbol) :=
  storeBlocks front 1 (nbits / 8)
    (fun i => do
      let byte ← loadOctet bits i
      pure [q.symbolTable byte.toNat])
    symbols

/-- Modulate packed bits; the symbols are stored from `front` on. -/
def srsranModModulateBytesFix
    (q : SrsranModemTable Symbol)
    (bits : List UInt8)
    (front nbits : Nat)
    (symbols : Nat → Symbol) :
    Checked (Int32 × (Nat → Symbol)) := do
  dectnrpAssert q.byteTablesInit
    "Error need to initiated modem tables for packeted bits before calling srsran_mod_modulate_bytes()"
  dectnrpAssert (nbits % q.nbitsXSymbol == 0)
    "Error modulator expects number of bits ({}) to be multiple of {}"
  let symbols ←
    (match q.nbitsXSymbol with
    | 1 => q.modBpskBytes bits front nbits symbols
    | 2 => q.modQpskBytes bits front nbits symbols
    | 4 => q.mod16qamBytes bits front nbits symbols
    | 6 => q.mod64qamBytes bits front nbits symbols
    | 8 => q.mod256qamBytes bits front nbits symbols
    | _ =>
        .error (.assertion
          "srsran_mod_modulate_bytes() accepts QPSK/16QAM/64QAM modulations only"))
  pure (Int32.ofNat (nbits / q.nbitsXSymbol), symbols)

/-- Modulate consecutive chunks of a bit string. -/
def modulateChunks
    (q : SrsranModemTable Symbol)
    (bits : List UInt8)
    (front : Nat) :
    List Nat → Nat → (Nat → Symbol) → Checked (Nat → Symbol)
  | [], _, symbols => .ok symbols
  | nbits :: chunks, bitsIdx, symbols => do
      let (_, symbols) ←
        q.srsranModModulateBytesFix (bits.drop (bitsIdx / 8))
          (front + bitsIdx / q.nbitsXSymbol) nbits symbols
      q.modulateChunks bits front chunks (bitsIdx + nbits) symbols

/-- Adjacent symbols are stored at once. -/
theorem storeSymbols_append
    {start size : Nat}
    {first : List Symbol}
    (isSize : first.length = size)
    (second : List Symbol)
    (symbols : Nat → Symbol) :
    storeSymbols (start + size) second (storeSymbols start first symbols) =
      storeSymbols start (first ++ second) symbols := by
  subst isSize
  funext index
  unfold storeSymbols
  by_cases notBefore : start ≤ index
  · rw [if_pos notBefore, if_pos notBefore]
    by_cases behind : start + first.length ≤ index
    · rw [if_pos behind, List.getElem?_append_right (by omega),
        List.getElem?_eq_none (by omega : first.length ≤ index - start),
        Option.getD_none, Nat.sub_sub]
    · rw [if_neg behind, List.getElem?_append_left (by omega)]
  · rw [if_neg notBefore, if_neg notBefore, if_neg (by omega)]

theorem storeSymbols_nil
    (start : Nat)
    (symbols : Nat → Symbol) :
    storeSymbols start [] symbols = symbols := by
  funext index
  unfold storeSymbols
  rw [List.getElem?_nil, Option.getD_none, ite_self]

theorem storeSymbols_inside
    (start : Nat)
    (values : List Symbol)
    (symbols : Nat → Symbol)
    (index : Nat) :
    storeSymbols start values symbols (start + index) =
      values[index]?.getD (symbols (start + index)) := by
  unfold storeSymbols
  rw [if_pos (Nat.le_add_right start index), Nat.add_sub_cancel_left]

variable {values : List Symbol}

theorem storeSymbols_outside
    {start index : Nat}
    (symbols : Nat → Symbol)
    (outside : index < start ∨ start + values.length ≤ index) :
    storeSymbols start values symbols index = symbols index := by
  unfold storeSymbols
  rcases outside with before | behind
  · exact if_neg (Nat.not_le.mpr before)
  · rw [List.getElem?_eq_none (by omega), Option.getD_none, ite_self]

/-- Blocks of the same size are stored at once. -/
theorem storeBlocks_eq
    {start size blocks : Nat}
    {block : Nat → Checked (List Symbol)}
    {values : Nat → List Symbol}
    (loads : ∀ i < blocks, block i = .ok (values i))
    (sized : ∀ i < blocks, (values i).length = size)
    (symbols : Nat → Symbol) :
    storeBlocks start size blocks block symbols =
        .ok (storeSymbols start ((List.range blocks).flatMap values) symbols) ∧
      ((List.range blocks).flatMap values).length = size * blocks := by
  induction blocks with
  | zero =>
      rw [List.range_zero, List.flatMap_nil, storeSymbols_nil]
      exact ⟨rfl, rfl⟩
  | succ blocks hypothesis =>
      obtain ⟨stored, isLength⟩ :=
        hypothesis (fun i less => loads i (by omega))
          (fun i less => sized i (by omega))
      have isLast := loads blocks (Nat.lt_succ_self blocks)
      have lastLength := sized blocks (Nat.lt_succ_self blocks)
      unfold storeBlocks at stored ⊢
      rw [List.range_succ, List.foldlM_append, stored, ok_bind,
        List.foldlM_cons, isLast, ok_bind, List.flatMap_append,
        List.flatMap_singleton, pure_eq_ok, ok_bind,
        storeSymbols_append isLength]
      refine ⟨rfl, ?_⟩
      rw [List.length_append, isLength, lastLength, Nat.mul_succ]

/-- The bytes of the bits as numbers. -/
def byteValues (bits : List UInt8) (index : Nat) : Nat :=
  (bits[index]?.getD 0).toNat

theorem byteValues_lt
    (bits : List UInt8)
    (index : Nat) :
    byteValues bits index < 256 :=
  UInt8.toNat_lt _

theorem byteValues_drop
    (bits : List UInt8)
    (byte : Nat) :
    byteValues (bits.drop byte) =
      fun index => byteValues bits (byte + index) := by
  funext index
  unfold byteValues
  rw [List.getElem?_drop]

variable {bits : List UInt8}

theorem loadOctet_eq
    {index : Nat}
    (inside : index < bits.length) :
    loadOctet bits index = .ok (bits[index]?.getD 0) := by
  rw [loadOctet_of_lt inside, List.getElem?_eq_getElem inside,
    Option.getD_some]

/-- A block of symbols for each of the first bytes is stored. -/
theorem storeBytes_eq
    {start size bytes : Nat}
    {bits : List UInt8}
    (held : bytes ≤ bits.length)
    {table : Nat → List Symbol}
    (sized : ∀ byte, (table byte).length = size)
    (symbols : Nat → Symbol) :
    storeBlocks start size bytes
        (fun i => do
          let byte ← loadOctet bits i
          pure (table byte.toNat))
        symbols =
        .ok
          (storeSymbols start
            ((List.range bytes).flatMap fun i => table (byteValues bits i))
            symbols) ∧
      ((List.range bytes).flatMap fun i =>
          table (byteValues bits i)).length =
        size * bytes := by
  refine storeBlocks_eq ?_ (fun i _ => sized _) symbols
  intro i less
  rw [loadOctet_eq (by omega), ok_bind]
  rfl

/-- Single symbols of the byte behind them are stored. -/
theorem storeLast_eq
    {start byte count : Nat}
    (held : 0 < count → byte < bits.length)
    (symbolOf : Nat → Nat → Symbol)
    (symbols : Nat → Symbol) :
    storeBlocks start 1 count
        (fun i => do
          let octet ← loadOctet bits byte
          pure [symbolOf octet.toNat i])
        symbols =
      .ok
        (storeSymbols start
          ((List.range count).map (symbolOf (byteValues bits byte)))
          symbols) := by
  rw [List.map_eq_flatMap]
  refine (@storeBlocks_eq _ start 1 count _
      (fun i => [symbolOf (byteValues bits byte) i]) ?_ (fun _ _ => rfl)
      symbols).1
  intro i less
  rw [loadOctet_eq (held (by omega)), ok_bind]
  rfl

theorem mod64qamRest_eq
    (q : SrsranModemTable Symbol)
    {byte start rest : Nat}
    (first : 6 ≤ rest → byte < bits.length)
    (second : 12 ≤ rest → byte + 1 < bits.length)
    (third : 18 ≤ rest → byte + 2 < bits.length)
    (symbols : Nat → Symbol) :
    q.mod64qamRest bits byte start rest symbols =
      .ok
        (storeSymbols start
          ((if 6 ≤ rest then
              [q.symbolTable (in0 (byteValues bits byte))]
            else []) ++
            (if 12 ≤ rest then
              [q.symbolTable
                (in1 (byteValues bits byte) (byteValues bits (byte + 1)))]
            else []) ++
            if 18 ≤ rest then
              [q.symbolTable
                (in2 (byteValues bits (byte + 1))
                  (byteValues bits (byte + 2)))]
            else [])
          symbols) := by
  unfold mod64qamRest
  by_cases hasFirst : 6 ≤ rest
  · rw [if_pos hasFirst, if_pos hasFirst, Nat.add_zero, Nat.add_zero,
      loadOctet_eq (first hasFirst), ok_bind, pure_eq_ok,
      ok_bind]
    dsimp only
    by_cases hasSecond : 12 ≤ rest
    · rw [if_pos hasSecond, if_pos hasSecond,
        loadOctet_eq (second hasSecond), ok_bind,
        pure_eq_ok, ok_bind]
      dsimp only
      rw [@storeSymbols_append _ start 1 _ rfl]
      by_cases hasThird : 18 ≤ rest
      · rw [if_pos hasThird, if_pos hasThird,
          loadOctet_eq (third hasThird), ok_bind,
          pure_eq_ok, @storeSymbols_append _ start 2 _ rfl]
        rfl
      · rw [if_neg hasThird, if_neg hasThird]
        rfl
    · have notThird : ¬18 ≤ rest := by omega
      rw [if_neg hasSecond, if_neg hasSecond, pure_eq_ok, ok_bind]
      dsimp only
      rw [if_neg notThird, if_neg notThird]
      rfl
  · have notSecond : ¬12 ≤ rest := by omega
    have notThird : ¬18 ≤ rest := by omega
    rw [if_neg hasFirst, if_neg hasFirst, pure_eq_ok, ok_bind]
    dsimp only
    rw [if_neg notSecond, if_neg notSecond, pure_eq_ok, ok_bind]
    dsimp only
    rw [if_neg notThird, if_neg notThird, List.append_nil, List.append_nil,
      storeSymbols_nil, pure_eq_ok]

section Orders

variable
  (q : SrsranModemTable Symbol)
  {bits : List UInt8}
  (front : Nat)
  {nbits : Nat}
  (held : nbits ≤ 8 * bits.length)
  (symbols : Nat → Symbol)

include held

theorem modBpskBytes_eq :
    q.modBpskBytes bits front nbits symbols =
      .ok
        (storeSymbols front
          (q.toModemTable.modBpskBytes (byteValues bits) nbits)
          symbols) := by
  have sized (byte : Nat) : (q.symbolTableBpsk byte).length = 8 := by
    rw [q.isBpsk]
    rfl
  obtain ⟨stored, isLength⟩ :=
    @storeBytes_eq _ front 8 (nbits / 8) bits (by omega) _ sized symbols
  unfold modBpskBytes
  rw [stored, ok_bind, storeLast_eq (by omega) (fun byte i =>
        q.symbolTable
          ((byte &&& maskBpsk[i]?.getD 0) >>> shiftBpsk[i]?.getD 0)),
    storeSymbols_append isLength]
  rfl

theorem modQpskBytes_eq :
    q.modQpskBytes bits front nbits symbols =
      .ok
        (storeSymbols front
          (q.toModemTable.modQpskBytes (byteValues bits) nbits)
          symbols) := by
  have sized (byte : Nat) : (q.symbolTableQpsk byte).length = 4 := by
    rw [q.isQpsk]
    rfl
  obtain ⟨stored, isLength⟩ :=
    @storeBytes_eq _ front 4 (nbits / 8) bits (by omega) _ sized symbols
  unfold modQpskBytes
  rw [stored, ok_bind, storeLast_eq (by omega) (fun byte i =>
        q.symbolTable
          ((byte &&& maskQpsk[i]?.getD 0) >>> shiftQpsk[i]?.getD 0)),
    storeSymbols_append isLength]
  rfl

theorem mod16qamBytes_eq :
    q.mod16qamBytes bits front nbits symbols =
      .ok
        (storeSymbols front
          (q.toModemTable.mod16qamBytes (byteValues bits) nbits)
          symbols) := by
  have sized (byte : Nat) : (q.symbolTable16qam byte).length = 2 := by
    rw [q.is16qam]
    rfl
  obtain ⟨stored, isLength⟩ :=
    @storeBytes_eq _ front 2 (nbits / 8) bits (by omega) _ sized symbols
  unfold mod16qamBytes ModemTable.mod16qamBytes
  rw [stored, ok_bind]
  by_cases isRest : nbits % 8 ≠ 0
  · rw [if_pos isRest, if_pos isRest, loadOctet_eq (by omega),
      ok_bind, pure_eq_ok, storeSymbols_append isLength]
    rfl
  · rw [if_neg isRest, if_neg isRest, List.append_nil]
    rfl

theorem mod64qamBytes_eq :
    q.mod64qamBytes bits front nbits symbols =
      .ok
        (storeSymbols front
          (q.toModemTable.mod64qamBytes (byteValues bits) nbits)
          symbols) := by
  obtain ⟨stored, isLength⟩ :=
    @storeBlocks_eq _ front 4 (nbits / 24) (fun i => do
        let in80 ← loadOctet bits (3 * i + 0)
        let in81 ← loadOctet bits (3 * i + 1)
        let in82 ← loadOctet bits (3 * i + 2)
        pure [q.symbolTable (in0 in80.toNat),
            q.symbolTable (in1 in80.toNat in81.toNat),
            q.symbolTable (in2 in81.toNat in82.toNat),
            q.symbolTable (in3 in82.toNat)])
      (fun i =>
        [q.symbolTable (in0 (byteValues bits (3 * i))), q.symbolTable
            (in1 (byteValues bits (3 * i)) (byteValues bits (3 * i + 1))),
          q.symbolTable
            (in2 (byteValues bits (3 * i + 1)) (byteValues bits (3 * i + 2))),
          q.symbolTable (in3 (byteValues bits (3 * i + 2)))])
      (by
        intro i less
        rw [loadOctet_eq (by omega), ok_bind, loadOctet_eq (by omega), ok_bind,
          loadOctet_eq (by omega), ok_bind]
        rfl)
      (fun _ _ => rfl) symbols
  unfold mod64qamBytes ModemTable.mod64qamBytes
  rw [stored, ok_bind, mod64qamRest_eq q (by omega) (by omega) (by omega),
    storeSymbols_append isLength]

theorem mod256qamBytes_eq :
    q.mod256qamBytes bits front nbits symbols =
      .ok
        (storeSymbols front
          (q.toModemTable.mod256qamBytes (byteValues bits) nbits)
          symbols) := by
  have sized (byte : Nat) : [q.symbolTable byte].length = 1 := rfl
  unfold mod256qamBytes ModemTable.mod256qamBytes
  rw [(@storeBytes_eq _ front 1 (nbits / 8) bits (by omega) _ sized
    symbols).1, List.map_eq_flatMap]

end Orders

variable {q : SrsranModemTable Symbol}

variable {nbits : Nat}

/-- The symbols of all bits are stored, from the first place on. -/
theorem srsranModModulateBytesFix_stores
    (isInit : q.byteTablesInit = true)
    (isOrder : IsOrder q.nbitsXSymbol)
    (front : Nat)
    (multiple : q.nbitsXSymbol ∣ nbits)
    (held : nbits ≤ 8 * bits.length)
    (symbols : Nat → Symbol) :
    q.srsranModModulateBytesFix bits front nbits symbols =
      .ok
        (Int32.ofNat (nbits / q.nbitsXSymbol),
          storeSymbols front
            (q.symbolsFrom (byteValues bits) 0 (nbits / q.nbitsXSymbol))
            symbols) := by
  obtain ⟨count, rfl⟩ := multiple
  have isCount : q.nbitsXSymbol * count / q.nbitsXSymbol = count :=
    Nat.mul_div_cancel_left count isOrder.pos
  have whole : (q.nbitsXSymbol * count % q.nbitsXSymbol == 0) = true := by
    rw [Nat.mul_mod_right]
    rfl
  unfold srsranModModulateBytesFix
  rw [isInit, dectnrpAssert_true, ok_bind, whole,
    dectnrpAssert_true, ok_bind, isCount]
  rcases isOrder with isOrder | isOrder | isOrder | isOrder | isOrder
  · rw [isOrder] at held ⊢
    rw [modBpskBytes_eq q front held, Nat.one_mul,
      ModemTable.modBpskBytes_eq isOrder]
    rfl
  · rw [isOrder] at held ⊢
    rw [modQpskBytes_eq q front held, ModemTable.modQpskBytes_eq isOrder]
    rfl
  · rw [isOrder] at held ⊢
    rw [mod16qamBytes_eq q front held, ModemTable.mod16qamBytes_eq isOrder]
    rfl
  · rw [isOrder] at held ⊢
    rw [mod64qamBytes_eq q front held, ModemTable.mod64qamBytes_eq isOrder]
    rfl
  · rw [isOrder] at held ⊢
    rw [mod256qamBytes_eq q front held,
      ModemTable.mod256qamBytes_eq isOrder (byteValues_lt bits)]
    rfl

theorem srsranModModulateBytesFix_refines
    (isInit : q.byteTablesInit = true)
    (front : Nat)
    (held : nbits ≤ 8 * bits.length)
    (mapped :
      q.toModemTable.srsranModModulateBytesFix (byteValues bits) nbits =
        .ok values)
    (symbols : Nat → Symbol) :
    q.srsranModModulateBytesFix bits front nbits symbols =
      .ok (Int32.ofNat values.length, storeSymbols front values symbols) := by
  obtain ⟨_, whole, selected⟩ := Checked.bind_eq_ok.mp mapped
  have noRest := beq_iff_eq.mp (dectnrpAssert_eq_ok.mp whole)
  obtain ⟨count, rfl⟩ := Nat.dvd_of_mod_eq_zero noRest
  have isOrder : IsOrder q.nbitsXSymbol := by
    unfold IsOrder
    split at selected
    · exact .inl ‹_›
    · exact .inr (.inl ‹_›)
    · exact .inr (.inr (.inl ‹_›))
    · exact .inr (.inr (.inr (.inl ‹_›)))
    · exact .inr (.inr (.inr (.inr ‹_›)))
    · cases selected
  have isCount : q.nbitsXSymbol * count / q.nbitsXSymbol = count :=
    Nat.mul_div_cancel_left count isOrder.pos
  have same :=
    @ModemTable.srsranModModulateBytesFix_eq Symbol q.toModemTable isOrder
      (byteValues bits) (byteValues_lt bits) 0 0
      ((Nat.zero_mul _).trans (Nat.mul_zero 8).symm) count
  simp only [Nat.zero_add] at same
  cases same.symm.trans mapped
  rw [srsranModModulateBytesFix_stores isInit isOrder front
      (Nat.dvd_mul_right _ count) held,
    isCount, ModemTable.length_symbolsFrom]

theorem srsranModModulateBytesFix_take
    (isInit : q.byteTablesInit = true)
    (isOrder : IsOrder q.nbitsXSymbol)
    (front : Nat)
    (multiple : q.nbitsXSymbol ∣ nbits)
    (held : nbits ≤ 8 * bits.length)
    (symbols : Nat → Symbol) :
    q.srsranModModulateBytesFix (bits.take ((nbits + 7) / 8)) front nbits
        symbols =
      q.srsranModModulateBytesFix bits front nbits symbols := by
  have isLength : (bits.take ((nbits + 7) / 8)).length = (nbits + 7) / 8 := by
    rw [List.length_take]
    omega
  have same : q.symbolsFrom (byteValues (bits.take ((nbits + 7) / 8))) 0
      (nbits / q.nbitsXSymbol) =
        q.symbolsFrom (byteValues bits) 0 (nbits / q.nbitsXSymbol) := by
    refine ModemTable.symbolsFrom_congr ?_
    intro index inside
    rw [Nat.zero_add, Nat.div_mul_cancel multiple] at inside
    unfold ModemTable.bitAt byteValues
    rw [List.getElem?_take_of_lt (by omega)]
  rw [srsranModModulateBytesFix_stores isInit isOrder front multiple held,
    srsranModModulateBytesFix_stores isInit isOrder front multiple
      (by rw [isLength]; omega),
    same]

section Chunks

variable
  {q : SrsranModemTable Symbol}
  (isInit : q.byteTablesInit = true)
  (isOrder : IsOrder q.nbitsXSymbol)
  (bits : List UInt8)
  (front : Nat)

include isOrder

/-- Whole symbols fit into 24 bits. -/
theorem nbitsXSymbol_dvd
    {nbits : Nat}
    (aligned : 24 ∣ nbits) :
    q.nbitsXSymbol ∣ nbits := by
  refine Nat.dvd_trans ?_ aligned
  rcases isOrder with order | order | order | order | order
  all_goals
    rw [order]
    decide

include isInit

/-- A chunk that starts with a byte and a symbol is stored behind it. -/
theorem srsranModModulateBytesFix_chunk
    {bitsIdx nbits : Nat}
    (start : 24 ∣ bitsIdx)
    (multiple : q.nbitsXSymbol ∣ nbits)
    (held : bitsIdx + nbits ≤ 8 * bits.length)
    (symbols : Nat → Symbol) :
    q.srsranModModulateBytesFix (bits.drop (bitsIdx / 8))
        (front + bitsIdx / q.nbitsXSymbol) nbits symbols =
      .ok
        (Int32.ofNat (nbits / q.nbitsXSymbol),
          storeSymbols (front + bitsIdx / q.nbitsXSymbol)
            (q.symbolsFrom (byteValues bits) (bitsIdx / q.nbitsXSymbol)
              (nbits / q.nbitsXSymbol))
            symbols) := by
  have isByte : 8 * (bitsIdx / 8) = bitsIdx := by omega
  have isSymbol : bitsIdx / q.nbitsXSymbol * q.nbitsXSymbol = bitsIdx :=
    Nat.div_mul_cancel (nbitsXSymbol_dvd isOrder start)
  have heldBehind : nbits ≤ 8 * (bits.drop (bitsIdx / 8)).length := by
    rw [List.length_drop]
    omega
  rw [srsranModModulateBytesFix_stores isInit isOrder _ multiple heldBehind,
    byteValues_drop,
    ModemTable.symbolsFrom_shift (byteValues bits)
      (isSymbol.trans isByte.symm)]

theorem modulateChunks_stores
    {chunks : List Nat}
    (aligned : ∀ nbits ∈ chunks, 24 ∣ nbits)
    {last : Nat}
    (multiple : q.nbitsXSymbol ∣ last)
    {bitsIdx : Nat}
    (start : 24 ∣ bitsIdx)
    (held : bitsIdx + (chunks.sum + last) ≤ 8 * bits.length)
    (symbols : Nat → Symbol) :
    q.modulateChunks bits front (chunks ++ [last]) bitsIdx symbols =
      .ok
        (storeSymbols (front + bitsIdx / q.nbitsXSymbol)
          (q.symbolsFrom (byteValues bits) (bitsIdx / q.nbitsXSymbol)
            ((chunks.sum + last) / q.nbitsXSymbol))
          symbols) := by
  induction chunks generalizing bitsIdx symbols with
  | nil =>
      rw [List.sum_nil, Nat.zero_add] at held ⊢
      rw [List.nil_append, modulateChunks,
        srsranModModulateBytesFix_chunk isInit isOrder bits front start
          multiple held,
        ok_bind]
      rfl
  | cons nbits chunks hypothesis =>
      have first := aligned nbits List.mem_cons_self
      have whole := nbitsXSymbol_dvd isOrder first
      rw [List.sum_cons] at held ⊢
      have isNext : (bitsIdx + nbits) / q.nbitsXSymbol =
          bitsIdx / q.nbitsXSymbol + nbits / q.nbitsXSymbol :=
        Nat.add_div_of_dvd_left whole
      have isCount : (nbits + chunks.sum + last) / q.nbitsXSymbol =
          nbits / q.nbitsXSymbol + (chunks.sum + last) / q.nbitsXSymbol := by
        rw [Nat.add_assoc]
        exact Nat.add_div_of_dvd_right whole
      rw [List.cons_append, modulateChunks,
        srsranModModulateBytesFix_chunk isInit isOrder bits front start
          whole (by omega),
        ok_bind]
      dsimp only
      rw [hypothesis
          (fun later member => aligned later (List.mem_cons_of_mem _ member))
          (Nat.dvd_add start first) (by omega),
        isNext, isCount, ← Nat.add_assoc,
        storeSymbols_append (ModemTable.length_symbolsFrom _ _ _ _),
        ModemTable.symbolsFrom_add]

end Chunks

/--
A number of bits is modulated from the bytes that hold them.  Each symbol is
that of its bits, the most significant one first, and no other symbol is
written.  The symbols do not depend on the chunks the bits are modulated in.
-/
structure ModulatesBits
    (q : SrsranModemTable Symbol)
    (bits : List UInt8)
    (front nbits : Nat)
    (symbols after : Nat → Symbol) :
    Prop where
  atOnce :
    q.srsranModModulateBytesFix bits front nbits symbols =
      .ok (Int32.ofNat (nbits / q.nbitsXSymbol), after)
  fewestBytes :
    q.srsranModModulateBytesFix (bits.take ((nbits + 7) / 8)) front nbits
        symbols =
      .ok (Int32.ofNat (nbits / q.nbitsXSymbol), after)
  isSymbol :
    ∀ i < nbits / q.nbitsXSymbol,
      after (front + i) =
        q.symbolTable
          (valueAt (byteValues bits) (i * q.nbitsXSymbol) q.nbitsXSymbol)
  others :
    ∀ index,
      index < front ∨ front + nbits / q.nbitsXSymbol ≤ index →
        after index = symbols index
  inChunks :
    ∀ (chunks : List Nat) (last : Nat),
      (∀ chunk ∈ chunks, 24 ∣ chunk) →
      q.nbitsXSymbol ∣ last →
      chunks.sum + last = nbits →
        q.modulateChunks bits front (chunks ++ [last]) 0 symbols =
          .ok after

/--
Whatever the modulation, consecutive bits are mapped to consecutive symbols, no
byte is loaded without bits that are mapped, and chunks make no difference.
-/
theorem srsranModModulateBytesFix_modulatesBits
    {q : SrsranModemTable Symbol}
    (isInit : q.byteTablesInit = true)
    (isOrder : IsOrder q.nbitsXSymbol)
    (bits : List UInt8)
    (front : Nat)
    {nbits : Nat}
    (multiple : q.nbitsXSymbol ∣ nbits)
    (held : nbits ≤ 8 * bits.length)
    (symbols : Nat → Symbol) :
    ∃ after, q.ModulatesBits bits front nbits symbols after := by
  have stores :=
    srsranModModulateBytesFix_stores isInit isOrder front multiple held
      symbols
  refine
    ⟨_,
      { atOnce := stores
        fewestBytes :=
          (srsranModModulateBytesFix_take isInit isOrder front multiple
            held symbols).trans stores
        isSymbol := ?_
        others := ?_
        inChunks := ?_ }⟩
  · intro i inside
    rw [storeSymbols_inside, ModemTable.symbolsFrom_getElem? _ _ _ inside,
      Option.getD_some, Nat.zero_add]
  · intro index outside
    refine storeSymbols_outside symbols ?_
    rw [ModemTable.length_symbolsFrom]
    exact outside
  · intro chunks last aligned multipleLast isSum
    have stored :=
      modulateChunks_stores isInit isOrder bits front aligned multipleLast
        (Nat.dvd_zero 24) (by omega) symbols
    rw [Nat.zero_div, Nat.add_zero, isSum] at stored
    exact stored

/-- Three symbols of six bits are made of three bytes. -/
theorem srsranModModulateBytesFix_modulatesBits_sixBits :
    ∃ (q : SrsranModemTable Nat) (after : Nat → Nat),
      q.nbitsXSymbol = 6 ∧
      q.ModulatesBits [0xa5, 0x60, 0xf0] 2 18 (fun _ => 99) after := by
  let q : SrsranModemTable Nat :=
    { nbitsXSymbol := 6
      symbolTable := id
      symbolTableBpsk := fun byte =>
        [byte / 128 % 2, byte / 64 % 2, byte / 32 % 2, byte / 16 % 2,
          byte / 8 % 2, byte / 4 % 2, byte / 2 % 2, byte % 2]
      symbolTableQpsk := fun byte =>
        [byte / 64 % 4, byte / 16 % 4, byte / 4 % 4, byte % 4]
      symbolTable16qam := fun byte => [byte / 16 % 16, byte % 16]
      isBpsk := fun _ => rfl
      isQpsk := fun _ => rfl
      is16qam := fun _ => rfl
      byteTablesInit := true }
  obtain ⟨after, modulates⟩ :=
    @srsranModModulateBytesFix_modulatesBits Nat q rfl
      (.inr (.inr (.inr (.inl rfl)))) [0xa5, 0x60, 0xf0] 2 18 (by decide)
      (by decide) (fun _ => 99)
  exact ⟨q, after, rfl, modulates⟩

end SrsranModemTable

end DectNrp
