import DectNrp.BitFields
import DectNrp.OctetReader

namespace DectNrp

/-!
# Formats of message fields

A field of a fixed number of octets is written and read at an address.  Fields
that may be missing and fields that occur several times follow each other, and
a running offset tells where the next one starts.  What is written this way
extends the octets in front of it, and every field is read where it was
written.
-/

open OctetReader (eval_bind eval_pure within_bind)

namespace Memory

/-- A sequence of octets is found at an address. -/
def Holds
    (memory : Memory)
    (address : Nat)
    (octets : List UInt8) :
    Prop :=
  memory.window address octets.length = octets

@[simp] theorem holds_nil
    (memory : Memory)
    (address : Nat) :
    memory.Holds address [] :=
  rfl

/-- Joined octets are held one sequence behind the other. -/
@[simp] theorem holds_append
    {memory : Memory}
    {address : Nat}
    {first second : List UInt8} :
    memory.Holds address (first ++ second) ↔
      memory.Holds address first ∧
        memory.Holds (address + first.length) second := by
  unfold Holds
  rw [List.length_append, window_add]
  constructor
  · intro same
    exact List.append_inj same (by simp)
  · rintro ⟨firstSame, secondSame⟩
    rw [firstSame, secondSame]

variable
  {memory : Memory}
  {address : Nat}

@[simp] theorem holds_singleton
    {octet : UInt8} :
    memory.Holds address [octet] ↔ memory address = octet := by
  simp [Holds, window]

@[simp] theorem holds_cons_cons
    {first second : UInt8}
    {rest : List UInt8} :
    memory.Holds address (first :: second :: rest) ↔
      memory address = first ∧
        memory.Holds (address + 1) (second :: rest) := by
  rw [← holds_singleton]
  exact @holds_append memory address [first] (second :: rest)

/-- Two octets are assigned one behind the other. -/
theorem assign_assign_next
    (start : Nat)
    (first second : UInt32)
    (memory : Memory) :
    (memory.assign start first).assign (start + 1) second =
      memory.write start [first.toUInt8, second.toUInt8] := by
  rw [assign_eq_write start, assign_behind start (by rfl)]
  rfl

/-- The first octet of a write is found at its start. -/
@[simp] theorem write_front
    (start : Nat)
    (first : UInt8)
    (rest : List UInt8)
    (memory : Memory) :
    memory.write start (first :: rest) start = first := by
  simp [write]

/-- Whoever holds joined octets holds the first ones. -/
theorem Holds.front
    {first second : List UInt8}
    (holds : memory.Holds address (first ++ second)) :
    memory.Holds address first :=
  (holds_append.mp holds).1

/-- What was written is held. -/
theorem holds_write
    (start : Nat)
    (octets : List UInt8)
    (memory : Memory) :
    (memory.write start octets).Holds start octets :=
  window_write start octets memory

end Memory

/-- How a field is written to and read from consecutive octets. -/
structure FieldFormat (Field : Type) where
  /-- Number of octets. -/
  size : Nat
  write : Field → Nat → Memory → Memory
  read : Nat → OctetReader Field
  /-- The octets of a field. -/
  code : Field → List UInt8
  code_length : ∀ field, (code field).length = size
  write_eq :
    ∀ field address memory,
      write field address memory = memory.write address (code field)
  read_within :
    ∀ memory limit address,
      address + size ≤ limit → (read address).Within memory limit

namespace FieldFormat

variable {Field : Type}

/-- A field is read from its own octets. -/
def Recovers
    (format : FieldFormat Field)
    (field : Field) :
    Prop :=
  ∀ memory address,
    memory.Holds address (format.code field) →
      (format.read address).eval memory = field

/-- The offset behind some octets, and a memory they are written to. -/
def written
    (macPduOffset : Nat)
    (memory : Memory)
    (octets : List UInt8) :
    Nat × Memory :=
  (octets.length, memory.write macPduOffset octets)

@[simp] theorem written_fst
    (macPduOffset : Nat)
    (memory : Memory)
    (octets : List UInt8) :
    (written macPduOffset memory octets).1 = octets.length :=
  rfl

@[simp] theorem written_snd
    (macPduOffset : Nat)
    (memory : Memory)
    (octets : List UInt8) :
    (written macPduOffset memory octets).2 =
      memory.write macPduOffset octets :=
  rfl

variable {memory : Memory}

/-- Octets that were written and the offset behind them. -/
theorem mk_write
    {macPduOffset nBytes : Nat}
    {octets : List UInt8}
    (behind : nBytes = octets.length) :
    (nBytes, memory.write macPduOffset octets) =
      written macPduOffset memory octets := by
  rw [behind, written]

/-- Write a field and move the offset behind it. -/
def pack
    (format : FieldFormat Field)
    (macPduOffset : Nat)
    (field : Field)
    (state : Nat × Memory) :
    Nat × Memory :=
  (state.1 + format.size,
    format.write field (macPduOffset + state.1) state.2)

/-- Write a field if there is one. -/
def packOptional
    (format : FieldFormat Field)
    (macPduOffset : Nat)
    (field : Option Field)
    (state : Nat × Memory) :
    Nat × Memory :=
  match field with
  | some field => format.pack macPduOffset field state
  | none => state

/-- Write one field after the other. -/
def packAll
    (format : FieldFormat Field)
    (macPduOffset : Nat)
    (fields : List Field)
    (state : Nat × Memory) :
    Nat × Memory :=
  fields.foldl
    (fun state field => format.pack macPduOffset field state) state

/-- The octets of a field that may be missing. -/
def optionalCode
    (format : FieldFormat Field) :
    Option Field → List UInt8
  | some field => format.code field
  | none => []

/-- Number of octets of a field that may be missing. -/
def optionalSize
    (format : FieldFormat Field)
    (included : Bool) :
    Nat :=
  if included then format.size else 0

@[simp] theorem optionalSize_false
    (format : FieldFormat Field) :
    format.optionalSize false = 0 :=
  rfl

@[simp] theorem optionalSize_true (format : FieldFormat Field) :
    format.optionalSize true = format.size :=
  rfl

variable (format : FieldFormat Field)

/-- The size of a field that may be missing, as programs compute it. -/
theorem optionalSize_eq
    (included : Bool) :
    format.optionalSize included = included.toNat * format.size := by
  cases included <;> simp

@[simp] theorem optionalCode_length
    (field : Option Field) :
    (format.optionalCode field).length = format.optionalSize field.isSome := by
  cases field with
  | none => rfl
  | some field => exact format.code_length field

/-- The octets of several fields. -/
def allCode
    (format : FieldFormat Field)
    (fields : List Field) :
    List UInt8 :=
  fields.flatMap format.code

@[simp] theorem allCode_length
    (fields : List Field) :
    (format.allCode fields).length = fields.length * format.size := by
  induction fields with
  | nil => simp [allCode]
  | cons field rest hypothesis =>
      unfold allCode at hypothesis ⊢
      rw [List.flatMap_cons, List.length_append, hypothesis,
        format.code_length, List.length_cons, Nat.add_mul,
        Nat.one_mul, Nat.add_comm]

section Written

variable
    (format : FieldFormat Field)
    (macPduOffset : Nat)
    (memory : Memory)
    (octets : List UInt8)

/-- Writing a field extends what was written before. -/
@[simp] theorem pack_written (field : Field) :
    format.pack macPduOffset field (written macPduOffset memory octets) =
      written macPduOffset memory (octets ++ format.code field) := by
  simp only [pack, written, format.write_eq, Memory.write_write,
    List.length_append, format.code_length]

@[simp] theorem packOptional_written (field : Option Field) :
    format.packOptional macPduOffset field
        (written macPduOffset memory octets) =
      written macPduOffset memory (octets ++ format.optionalCode field) := by
  cases field with
  | none => simp [packOptional, optionalCode]
  | some field => exact pack_written format macPduOffset memory octets field

@[simp] theorem packAll_written (fields : List Field) :
    format.packAll macPduOffset fields
        (written macPduOffset memory octets) =
      written macPduOffset memory (octets ++ format.allCode fields) := by
  unfold packAll allCode
  induction fields generalizing octets with
  | nil => simp
  | cons field rest hypothesis =>
      rw [List.foldl_cons, pack_written, hypothesis,
        List.flatMap_cons, List.append_assoc]

end Written

/-- Read a field and move the offset behind it. -/
def unpack
    (format : FieldFormat Field)
    (macPduOffset nBytes : Nat) :
    OctetReader (Field × Nat) := do
  let field ← format.read (macPduOffset + nBytes)
  pure (field, nBytes + format.size)

/-- Read a field if it is included. -/
def unpackOptional
    (format : FieldFormat Field)
    (macPduOffset : Nat)
    (included : Bool)
    (nBytes : Nat) :
    OctetReader (Option Field × Nat) :=
  if included then do
    let (field, nBytes) ← format.unpack macPduOffset nBytes
    pure (some field, nBytes)
  else
    pure (none, nBytes)

/-- Read a number of fields one after the other. -/
def unpackAll
    (format : FieldFormat Field)
    (macPduOffset : Nat) :
    Nat → Nat → OctetReader (List Field × Nat)
  | 0, nBytes => pure ([], nBytes)
  | count + 1, nBytes => do
      let (field, nBytes) ← format.unpack macPduOffset nBytes
      let (fields, nBytes) ← format.unpackAll macPduOffset count nBytes
      pure (field :: fields, nBytes)

/-- Read fields as long as the offset is in front of a limit. -/
def unpackWhile
    (format : FieldFormat Field)
    (notEmpty : 0 < format.size)
    (macPduOffset limit nBytes : Nat) :
    OctetReader (List Field × Nat) :=
  if nBytes < limit then do
    let field ← format.read (macPduOffset + nBytes)
    let (fields, nBytes) ←
      format.unpackWhile notEmpty macPduOffset limit
        (nBytes + format.size)
    pure (field :: fields, nBytes)
  else pure ([], nBytes)
  termination_by limit - nBytes

/-- A limit behind a number of fields is reached when all of them are read. -/
theorem unpackWhile_eq_unpackAll
    (notEmpty : 0 < format.size)
    (macPduOffset count nBytes : Nat) :
    format.unpackWhile notEmpty macPduOffset
        (nBytes + count * format.size) nBytes =
      format.unpackAll macPduOffset count nBytes := by
  induction count generalizing nBytes with
  | zero =>
      rw [unpackWhile, if_neg (by omega)]
      rfl
  | succ count hypothesis =>
      have limit : nBytes + (count + 1) * format.size =
          nBytes + format.size + count * format.size := by
        rw [Nat.add_mul, Nat.one_mul]
        omega
      rw [unpackWhile, if_pos (by omega), limit, hypothesis,
        unpackAll, unpack, OctetReader.bind_assoc]
      rfl

/-- The field at an address. -/
def valueAt
    (format : FieldFormat Field)
    (memory : Memory)
    (address : Nat) :
    Field :=
  (format.read address).eval memory

/-- The field at an address if it is included. -/
def optionalAt
    (format : FieldFormat Field)
    (memory : Memory)
    (address : Nat)
    (included : Bool) :
    Option Field :=
  if included then some (format.valueAt memory address) else none

/-- Several fields from an address on. -/
def allAt
    (format : FieldFormat Field)
    (memory : Memory) :
    Nat → Nat → List Field
  | _, 0 => []
  | address, count + 1 =>
      format.valueAt memory address ::
        format.allAt memory (address + format.size) count

@[simp] theorem optionalAt_false
    (memory : Memory)
    (address : Nat) :
    format.optionalAt memory address false = none :=
  rfl

@[simp] theorem optionalAt_true
    (memory : Memory)
    (address : Nat) :
    format.optionalAt memory address true =
      some (format.valueAt memory address) :=
  rfl

@[simp] theorem optionalAt_isSome
    (memory : Memory)
    (address : Nat)
    (included : Bool) :
    (format.optionalAt memory address included).isSome = included := by
  cases included <;> rfl

variable {format : FieldFormat Field}

/-- A field that may be missing is constrained if it is included. -/
theorem forall_mem_optionalAt
    {address : Nat}
    {included : Bool}
    {property : Field → Prop} :
    (∀ field ∈ format.optionalAt memory address included,
        property field) ↔
      (included = true → property (format.valueAt memory address)) := by
  cases included <;> simp [optionalAt]

@[simp] theorem allAt_length
    (memory : Memory)
    (address count : Nat) :
    (format.allAt memory address count).length = count := by
  induction count generalizing address with
  | zero => rfl
  | succ count hypothesis => rw [allAt, List.length_cons, hypothesis]

/-- Fields of one octet each are read from the octets of a window. -/
theorem allAt_eq_map
    {read : UInt8 → Field}
    (single : format.size = 1)
    (reads :
      ∀ memory address, format.valueAt memory address = read (memory address))
    (memory : Memory)
    (address count : Nat) :
    format.allAt memory address count =
      (memory.window address count).map read := by
  induction count generalizing address with
  | zero => rfl
  | succ count hypothesis =>
      rw [allAt, reads, single, hypothesis, Nat.add_comm count 1,
        Memory.window_add]
      rfl

/-- Fields that follow each other are constrained one by one. -/
theorem forall_mem_allAt
    {address count : Nat}
    {property : Field → Prop} :
    (∀ field ∈ format.allAt memory address count, property field) ↔
      ∀ index < count,
        property (format.valueAt memory (address + index * format.size)) := by
  induction count generalizing address with
  | zero => simp [allAt]
  | succ count hypothesis =>
      rw [allAt, List.forall_mem_cons, hypothesis]
      constructor
      · rintro ⟨first, rest⟩ index inside
        cases index with
        | zero => rwa [Nat.zero_mul, Nat.add_zero]
        | succ index =>
            have later := rest index (Nat.lt_of_succ_lt_succ inside)
            rwa [Nat.add_assoc, Nat.add_comm format.size,
              ← Nat.succ_mul] at later
      · intro every
        refine ⟨?_, fun index inside => ?_⟩
        · simpa using every 0 (Nat.succ_pos count)
        · have later := every (index + 1) (Nat.succ_lt_succ inside)
          rwa [Nat.succ_mul, Nat.add_comm _ format.size,
            ← Nat.add_assoc] at later

section Evaluated

variable
    (format : FieldFormat Field)
    (memory : Memory)
    (macPduOffset nBytes : Nat)

@[simp] theorem eval_unpack :
    (format.unpack macPduOffset nBytes).eval memory =
      (format.valueAt memory (macPduOffset + nBytes),
        nBytes + format.size) := by
  rw [unpack, eval_bind, eval_pure, valueAt]

@[simp] theorem eval_unpackOptional (included : Bool) :
    (format.unpackOptional macPduOffset included nBytes).eval memory =
      (format.optionalAt memory (macPduOffset + nBytes) included,
        nBytes + format.optionalSize included) := by
  cases included with
  | false => rfl
  | true => simp [unpackOptional, optionalAt]

@[simp] theorem eval_unpackAll (count : Nat) :
    (format.unpackAll macPduOffset count nBytes).eval memory =
      (format.allAt memory (macPduOffset + nBytes) count,
        nBytes + count * format.size) := by
  induction count generalizing nBytes with
  | zero => simp [unpackAll, allAt]
  | succ count hypothesis =>
      simp only [unpackAll, eval_bind, eval_unpack,
        hypothesis, eval_pure, allAt,
        Nat.add_assoc, Nat.add_mul, Nat.one_mul,
        Nat.add_comm format.size]

variable
    {memory}
    {macPduOffset nBytes}
    {limit : Nat}

theorem within_unpack (inside : macPduOffset + nBytes + format.size ≤ limit) :
    (format.unpack macPduOffset nBytes).Within memory limit := by
  rw [unpack, within_bind]
  exact ⟨format.read_within _ _ _ inside, trivial⟩

theorem within_unpackOptional
    {included : Bool}
    (inside : macPduOffset + nBytes + format.optionalSize included ≤ limit) :
    (format.unpackOptional macPduOffset included nBytes).Within memory
      limit := by
  cases included with
  | false => trivial
  | true =>
      rw [unpackOptional, if_pos rfl, within_bind]
      exact ⟨format.within_unpack inside, trivial⟩

theorem within_unpackAll
    {count : Nat}
    (inside : macPduOffset + nBytes + count * format.size ≤ limit) :
    (format.unpackAll macPduOffset count nBytes).Within memory limit := by
  induction count generalizing nBytes with
  | zero => trivial
  | succ count hypothesis =>
      rw [Nat.add_mul, Nat.one_mul] at inside
      simp only [unpackAll, within_bind, eval_unpack]
      exact ⟨format.within_unpack (by omega), hypothesis (by omega), trivial⟩

end Evaluated

section Recovered

variable
    {format : FieldFormat Field}
    {memory : Memory}
    {address : Nat}

theorem valueAt_eq
    {field : Field}
    (recovers : format.Recovers field)
    (holds : memory.Holds address (format.code field)) :
    format.valueAt memory address = field :=
  recovers memory address holds

theorem optionalAt_eq
    {field : Option Field}
    (recovers : ∀ value ∈ field, format.Recovers value)
    (holds : memory.Holds address (format.optionalCode field)) :
    format.optionalAt memory address field.isSome = field := by
  cases field with
  | none => rfl
  | some value => exact congrArg some (recovers value rfl memory address holds)

theorem allAt_eq
    {fields : List Field}
    (recovers : ∀ field ∈ fields, format.Recovers field)
    (holds : memory.Holds address (format.allCode fields)) :
    format.allAt memory address fields.length = fields := by
  induction fields generalizing address with
  | nil => rfl
  | cons field rest hypothesis =>
      rw [allCode, List.flatMap_cons, Memory.holds_append,
        format.code_length] at holds
      obtain ⟨fieldHolds, restHolds⟩ := holds
      rw [List.length_cons, allAt,
        valueAt_eq (recovers field List.mem_cons_self) fieldHolds,
        hypothesis
          (fun later member => recovers later (List.mem_cons_of_mem _ member))
          restHolds]

end Recovered

section ReadBehind

variable
    {format : FieldFormat Field}
    {memory : Memory}
    {macPduOffset : Nat}
    {octets : List UInt8}
    (nBytes : Nat)
    (behind : nBytes = octets.length)

include behind

/-- A field is read behind the octets that were read before. -/
theorem unpack_holds
    {field : Field}
    (recovers : format.Recovers field)
    (holds : memory.Holds macPduOffset (octets ++ format.code field)) :
    (format.unpack macPduOffset nBytes).eval memory =
      (field, (octets ++ format.code field).length) := by
  rw [eval_unpack, behind, List.length_append, format.code_length,
    valueAt_eq recovers (Memory.holds_append.mp holds).2]

theorem unpackOptional_holds
    {field : Option Field}
    (recovers : ∀ value ∈ field, format.Recovers value)
    (holds : memory.Holds macPduOffset (octets ++ format.optionalCode field)) :
    (format.unpackOptional macPduOffset field.isSome nBytes).eval memory =
      (field, (octets ++ format.optionalCode field).length) := by
  rw [eval_unpackOptional, behind, List.length_append, optionalCode_length,
    optionalAt_eq recovers (Memory.holds_append.mp holds).2]

end ReadBehind

/-- A field that is written and read by what it is made of. -/
def mapped
    {Part : Type}
    (format : FieldFormat Part)
    (part : Field → Part)
    (make : Part → Field) :
    FieldFormat Field where
  size := format.size
  write field := format.write (part field)
  read address := do
    let part ← format.read address
    pure (make part)
  code field := format.code (part field)
  code_length field := format.code_length (part field)
  write_eq field := format.write_eq (part field)
  read_within memory limit address inside :=
    (OctetReader.within_bind _ _ _ _).mpr
      ⟨format.read_within memory limit address inside, trivial⟩

section Mapped

variable
    {Part : Type}
    {format : FieldFormat Part}
    {part : Field → Part}
    {make : Part → Field}

@[simp] theorem mapped_size :
    (format.mapped part make).size = format.size :=
  rfl

@[simp] theorem mapped_valueAt
    (memory : Memory)
    (address : Nat) :
    (format.mapped part make).valueAt memory address =
      make (format.valueAt memory address) := by
  simp only [valueAt, mapped, eval_bind, eval_pure]

/-- A field is recovered if its parts are and suffice to make it. -/
theorem mapped_recovers
    {field : Field}
    (made : make (part field) = field)
    (recovers : format.Recovers (part field)) :
    (format.mapped part make).Recovers field := by
  intro memory address holds
  have read := recovers memory address holds
  simp only [mapped, eval_bind, eval_pure, read, made]

end Mapped

/-- Two fields one behind the other. -/
def paired
    {Second : Type}
    (first : FieldFormat Field)
    (second : FieldFormat Second) :
    FieldFormat (Field × Second) where
  size := first.size + second.size
  write fields address memory :=
    second.write fields.2 (address + first.size)
      (first.write fields.1 address memory)
  read address := do
    let firstField ← first.read address
    let secondField ← second.read (address + first.size)
    pure (firstField, secondField)
  code fields := first.code fields.1 ++ second.code fields.2
  code_length fields := by
    rw [List.length_append, first.code_length, second.code_length]
  write_eq fields address memory := by
    rw [first.write_eq, second.write_eq, ← first.code_length fields.1,
      Memory.write_write]
  read_within memory limit address inside := by
    rw [OctetReader.within_bind, OctetReader.within_bind]
    exact
      ⟨first.read_within _ _ _ (by omega),
        second.read_within _ _ _ (by omega), trivial⟩

section Paired

variable
    {Second : Type}
    {first : FieldFormat Field}
    {second : FieldFormat Second}

@[simp] theorem paired_size :
    (first.paired second).size = first.size + second.size :=
  rfl

@[simp] theorem paired_valueAt
    (memory : Memory)
    (address : Nat) :
    (first.paired second).valueAt memory address =
      (first.valueAt memory address,
        second.valueAt memory (address + first.size)) := by
  simp only [valueAt, paired, eval_bind, eval_pure]

theorem paired_recovers
    {fields : Field × Second}
    (firstRecovers : first.Recovers fields.1)
    (secondRecovers : second.Recovers fields.2) :
    (first.paired second).Recovers fields := by
  intro memory address holds
  obtain ⟨firstHolds, secondHolds⟩ := Memory.holds_append.mp holds
  rw [first.code_length] at secondHolds
  have firstRead := firstRecovers memory address firstHolds
  have secondRead := secondRecovers memory _ secondHolds
  simp only [paired, eval_bind, eval_pure, firstRead, secondRead]

end Paired

/-- A word in its lower `nByte` octets, most significant octet first. -/
def word (nByte : Nat) : FieldFormat UInt32 where
  size := nByte
  write field address memory :=
    memory.l2bLower address field.toNat nByte
  read address := do
    let value ← OctetReader.b2lLower address nByte
    pure (UInt32.ofNat value)
  code field := toBigEndian field.toNat nByte
  code_length _ := toBigEndian_length _ _
  write_eq _ _ _ := rfl
  read_within _ _ _ inside :=
    (OctetReader.within_bind _ _ _ _).mpr
      ⟨OctetReader.within_b2lLower inside, trivial⟩

@[simp] theorem word_size (nByte : Nat) :
    (word nByte).size = nByte :=
  rfl

/-- A word is read up to the end of its octets. -/
theorem within_unpack_word_iff
    {nByte macPduOffset nBytes limit : Nat}
    {memory : Memory} :
    ((word (nByte + 1)).unpack macPduOffset nBytes).Within memory limit ↔
      macPduOffset + nBytes + (nByte + 1) ≤ limit := by
  simp only [unpack, word, OctetReader.b2lLower, within_bind,
    OctetReader.within_octets_succ_iff, OctetReader.within_pure, and_true]

variable {field : UInt32}

/-- A word is recovered if its octets suffice. -/
theorem word_recovers
    {nByte : Nat}
    (fits : field.toNat < 256 ^ nByte) :
    (word nByte).Recovers field := by
  intro memory address holds
  have octets :
      memory.window address nByte = toBigEndian field.toNat nByte := by
    simpa [Memory.Holds, word] using holds
  simp only [word, eval_bind, OctetReader.eval_b2lLower,
    eval_pure, octets, fromBigEndian_toBigEndian,
    Nat.mod_eq_of_lt fits, UInt32.ofNat_toNat]

/-- Whole words are always recovered. -/
theorem word_recovers_four (field : UInt32) :
    (word 4).Recovers field :=
  word_recovers field.toNat_lt

/-- What is read from the octets of a word fits into them. -/
theorem word_valueAt_lt
    {nByte : Nat}
    (memory : Memory)
    (address : Nat) :
    ((word nByte).valueAt memory address).toNat < 256 ^ nByte := by
  have bound := fromBigEndian_lt (memory.window address nByte)
  rw [Memory.window_length] at bound
  simp only [valueAt, word, eval_bind, OctetReader.eval_b2lLower, eval_pure,
    UInt32.toNat_ofNat']
  exact Nat.lt_of_le_of_lt (Nat.mod_le _ _) bound

/-- A word in one octet. -/
def octet : FieldFormat UInt32 where
  size := 1
  write field address memory := memory.assign address field
  read address := do
    let octet ← OctetReader.octet address
    pure octet.toUInt32
  code field := [field.toUInt8]
  code_length _ := rfl
  write_eq _ _ _ := Memory.assign_eq_write _ _ _
  read_within _ _ _ inside := ⟨inside, trivial⟩

@[simp] theorem octet_size :
    octet.size = 1 :=
  rfl

theorem octet_recovers (fits : field.toNat < 256) :
    octet.Recovers field := by
  intro memory address holds
  have isOctet : memory address = field.toUInt8 :=
    Memory.holds_singleton.mp holds
  apply UInt32.toNat_inj.mp
  change (memory address).toUInt32.toNat = _
  rw [isOctet, UInt8.toNat_toUInt32, BitFields.toNat_unshifted fits]

/-- What is read from one octet fits into it. -/
theorem octet_valueAt_not_lt
    (memory : Memory)
    (address : Nat) :
    ¬ 255 < octet.valueAt memory address := by
  rw [UInt32.lt_iff_toNat_lt, Nat.not_lt]
  exact Nat.le_of_lt_succ (memory address).toNat_lt

/-- As `octet_valueAt_not_lt`, for a field that may be missing. -/
theorem octet_optionalAt_not_any
    (memory : Memory)
    (address : Nat)
    (included : Bool) :
    ¬ ((octet.optionalAt memory address included).any
      fun value => 255 < value) = true := by
  cases included with
  | false => exact Bool.false_ne_true
  | true => simpa [optionalAt] using octet_valueAt_not_lt memory address

theorem fits_of_not_lt (checked : ¬ 255 < field) :
    field.toNat < 256 := by
  rw [UInt32.lt_iff_toNat_lt] at checked
  exact Nat.lt_succ_of_le (Nat.not_lt.mp checked)

theorem octet_recovers_of_not_lt (checked : ¬ 255 < field) :
    octet.Recovers field :=
  octet_recovers (fits_of_not_lt checked)

/-- As `octet_recovers_of_not_lt`, for a field that may be missing. -/
theorem octet_recovers_of_any
    {field : Option UInt32}
    (checked : ¬ (field.any fun value => 255 < value) = true) :
    ∀ value ∈ field, octet.Recovers value := by
  intro value isValue
  apply octet_recovers_of_not_lt
  simpa [Option.mem_def.mp isValue] using checked

end FieldFormat

end DectNrp
