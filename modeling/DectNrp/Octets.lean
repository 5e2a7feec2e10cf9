import Mathlib.Data.Nat.Bitwise
import Mathlib.Logic.Function.Basic
import Mathlib.Tactic.Positivity
import Mathlib.Tactic.Ring

namespace DectNrp

/-!
# Octets, byte memory and checked execution

Headers and messages are written through raw byte pointers: every octet is
first assigned and then completed by or-ing further fields into it.  This
module provides the byte-addressed memory, the guarded reads and assertions,
and the arithmetic facts that turn shifted fields into sums.

Nothing here mentions a particular header.  Later modules fold the assignments
of one `pack` into a single `Memory.write` and read fields back by division.
-/

open Function (update update_of_ne)

/-- The ways a checked computation can go wrong. -/
inductive Fault where
  /-- An assertion of the program failed. -/
  | assertion (message : String)
  /-- The value of an optional field was asked for that has none. -/
  | badOptionalAccess
  /-- A variant was asked for another alternative than it holds. -/
  | badVariantAccess
  /-- A byte outside of the readable range was accessed. -/
  | readBeyond (index : Nat)
  deriving Repr, DecidableEq

/-- A computation that either completes or stops at its first fault. -/
abbrev Checked (Value : Type) := Except Fault Value

/-- Continue only if the asserted condition holds. -/
def dectnrpAssert
    (condition : Bool)
    (message : String) :
    Checked Unit :=
  if condition then
    .ok ()
  else
    .error (.assertion message)

@[simp] theorem dectnrpAssert_true (message : String) :
    dectnrpAssert true message = .ok () :=
  rfl

@[simp] theorem dectnrpAssert_false (message : String) :
    dectnrpAssert false message = .error (.assertion message) :=
  rfl

/-- An assertion passes exactly when its condition is true. -/
theorem dectnrpAssert_eq_ok
    {condition : Bool}
    {message : String} :
    dectnrpAssert condition message = .ok () ↔ condition = true := by
  cases condition <;> simp

namespace Checked

@[simp] theorem ok_bind
    (value : First)
    (next : First → Checked Second) :
    ((Except.ok value : Checked First) >>= next) = next value :=
  rfl

@[simp] theorem error_bind
    (fault : Fault)
    (next : First → Checked Second) :
    ((Except.error fault : Checked First) >>= next) = .error fault :=
  rfl

@[simp] theorem pure_eq_ok (value : Value) :
    (pure value : Checked Value) = .ok value :=
  rfl

/-- A completed sequence completed its first part and then the rest. -/
theorem bind_eq_ok
    {first : Checked First}
    {next : First → Checked Second}
    {value : Second} :
    (first >>= next) = .ok value ↔
      ∃ intermediate,
        first = .ok intermediate ∧ next intermediate = .ok value := by
  cases first with
  | error fault => simp
  | ok intermediate => simp

/-- A value without a fault was returned. -/
theorem eq_ok_of_toOption
    {checked : Checked Value}
    {value : Value}
    (isSome : checked.toOption = some value) :
    checked = .ok value := by
  cases checked with
  | error fault => cases isSome
  | ok returned => exact congrArg Except.ok (Option.some.inj isSome)

end Checked

/-- Result of a call, if it returned. -/
def returnedStatus
    {Status State : Type} :
    Checked (Status × State) → Option Status
  | .ok (status, _) => some status
  | .error _ => none

/-- State after a call, or the state before if it did not return. -/
def returnedState
    {Status State : Type}
    (before : State) :
    Checked (Status × State) → State
  | .ok (_, after) => after
  | .error _ => before

theorem eq_ok_of_returnedStatus
    {Status State : Type}
    {result : Checked (Status × State)}
    {status : Status}
    (returned : returnedStatus result = some status)
    (before : State) :
    result = .ok (status, returnedState before result) := by
  cases result with
  | error fault => cases returned
  | ok value =>
      obtain ⟨returnedValue, after⟩ := value
      cases returned
      rfl

/-- Read one octet of a readable range. -/
def loadOctet
    (octets : List UInt8)
    (index : Nat) :
    Checked UInt8 :=
  match octets[index]? with
  | some octet => .ok octet
  | none => .error (.readBeyond index)

/-- Octets inside of the readable range can be read. -/
theorem loadOctet_of_lt
    {octets : List UInt8}
    {index : Nat}
    (inside : index < octets.length) :
    loadOctet octets index = .ok octets[index] := by
  simp [loadOctet, inside]

/-- Big-endian value of an octet sequence. -/
def fromBigEndian (octets : List UInt8) : Nat :=
  octets.foldl (fun value octet => value * 256 + octet.toNat) 0

/-- Big-endian octets of the lower `size` bytes of a value. -/
def toBigEndian (value : Nat) : Nat → List UInt8
  | 0 => []
  | size + 1 =>
      UInt8.ofNat (value / 256 ^ size) :: toBigEndian value size

/-- Read `size` consecutive octets. -/
def loadOctets
    (octets : List UInt8)
    (start : Nat) :
    Nat → Checked (List UInt8)
  | 0 => .ok []
  | size + 1 => do
      let octet ← loadOctet octets start
      let rest ← loadOctets octets (start + 1) size
      pure (octet :: rest)

/-- Value of the `nByte` octets at `start`, most significant octet first. -/
def b2lLower
    (octets : List UInt8)
    (start : Nat)
    (nByte : Nat) :
    Checked Nat := do
  let read ← loadOctets octets start nByte
  pure (fromBigEndian read)

/-- As `b2lLower`, but the octets become the upper bytes of a 32-bit word. -/
def b2lUpper
    (octets : List UInt8)
    (start : Nat)
    (nByte : Nat) :
    Checked Nat := do
  let read ← loadOctets octets start nByte
  pure (fromBigEndian read * 256 ^ (4 - nByte))

@[simp] theorem toBigEndian_length (value size : Nat) :
    (toBigEndian value size).length = size := by
  induction size with
  | zero => rfl
  | succ size hypothesis => simp [toBigEndian, hypothesis]

private theorem foldl_bigEndian
    (octets : List UInt8)
    (accumulated : Nat) :
    octets.foldl (fun value octet => value * 256 + octet.toNat)
        accumulated =
      accumulated * 256 ^ octets.length + fromBigEndian octets := by
  induction octets generalizing accumulated with
  | nil => simp [fromBigEndian]
  | cons octet rest hypothesis =>
      have startedAtOctet := hypothesis octet.toNat
      simp only [List.foldl_cons, List.length_cons, fromBigEndian,
        Nat.zero_mul, Nat.zero_add]
      rw [hypothesis, startedAtOctet, pow_succ]
      ring

@[simp] theorem fromBigEndian_nil :
    fromBigEndian [] = 0 :=
  rfl

/-- The first octet is the most significant one. -/
theorem fromBigEndian_cons
    (octet : UInt8)
    (rest : List UInt8) :
    fromBigEndian (octet :: rest) =
      octet.toNat * 256 ^ rest.length + fromBigEndian rest := by
  simpa [fromBigEndian] using foldl_bigEndian rest octet.toNat

/-- A sequence of `n` octets encodes a value below `256 ^ n`. -/
theorem fromBigEndian_lt (octets : List UInt8) :
    fromBigEndian octets < 256 ^ octets.length := by
  induction octets with
  | nil => simp
  | cons octet rest hypothesis =>
      have octetBound : octet.toNat + 1 ≤ 256 := octet.toNat_lt
      have scaled :
          (octet.toNat + 1) * 256 ^ rest.length ≤ 256 * 256 ^ rest.length :=
        Nat.mul_le_mul_right _ octetBound
      rw [fromBigEndian_cons, List.length_cons, pow_succ]
      rw [Nat.add_mul, Nat.one_mul] at scaled
      omega

/-- Writing and reading big-endian keeps the lower bytes of a value. -/
theorem fromBigEndian_toBigEndian (value size : Nat) :
    fromBigEndian (toBigEndian value size) = value % 256 ^ size := by
  induction size with
  | zero => simp [toBigEndian, Nat.mod_one]
  | succ size hypothesis =>
      rw [toBigEndian, fromBigEndian_cons, toBigEndian_length,
        hypothesis, UInt8.toNat_ofNat', pow_succ 256 size,
        Nat.mod_mul]
      ring

theorem toBigEndian_add_mul (upper value size : Nat) :
    toBigEndian (upper * 256 ^ size + value) size =
      toBigEndian value size := by
  induction size generalizing upper value with
  | zero => rfl
  | succ size hypothesis =>
      have shifted : upper * 256 ^ (size + 1) + value =
          256 * upper * 256 ^ size + value := by
        rw [pow_succ]
        ring
      rw [toBigEndian, toBigEndian, shifted, hypothesis]
      congr 1
      rw [Nat.add_comm, Nat.add_mul_div_right _ _ (by positivity)]
      apply UInt8.toNat_inj.mp
      simp [UInt8.toNat_ofNat']

/-- Octets are determined by their number and their big-endian value. -/
theorem toBigEndian_fromBigEndian (octets : List UInt8) :
    toBigEndian (fromBigEndian octets) octets.length = octets := by
  induction octets with
  | nil => rfl
  | cons octet rest hypothesis =>
      have restBound := fromBigEndian_lt rest
      have headValue :
          fromBigEndian (octet :: rest) / 256 ^ rest.length = octet.toNat := by
        rw [fromBigEndian_cons, Nat.mul_comm, Nat.mul_add_div (by positivity),
          Nat.div_eq_of_lt restBound, Nat.add_zero]
      rw [List.length_cons, toBigEndian, headValue,
        fromBigEndian_cons, toBigEndian_add_mul, hypothesis]
      simp

/-- Byte-addressed memory. -/
abbrev Memory := Nat → UInt8

namespace Memory

/-- `pointer[address] = value`, truncated to one octet. -/
def assign
    (address : Nat)
    (value : UInt32)
    (memory : Memory) :
    Memory :=
  update memory address value.toUInt8

/-- `pointer[address] |= value`, truncated to one octet. -/
def assignOr
    (address : Nat)
    (value : UInt32)
    (memory : Memory) :
    Memory :=
  update memory address
    (memory address ||| value.toUInt8)

/-- `pointer[address] &= mask`. -/
def assignAnd
    (address : Nat)
    (mask : UInt8)
    (memory : Memory) :
    Memory :=
  update memory address (memory address &&& mask)

/-- Copy a sequence of octets to consecutive addresses. -/
def write
    (start : Nat)
    (octets : List UInt8)
    (memory : Memory) :
    Memory :=
  fun address =>
    if start ≤ address then
      octets.getD (address - start) (memory address)
    else
      memory address

/-- Copy the lower `nByte` bytes of `source`, most significant byte first. -/
def l2bLower
    (start : Nat)
    (source : Nat)
    (nByte : Nat)
    (memory : Memory) :
    Memory :=
  memory.write start (toBigEndian source nByte)

/-- Copy the upper `nByte` bytes of a 32-bit word. -/
def l2bUpper
    (start : Nat)
    (source : Nat)
    (nByte : Nat)
    (memory : Memory) :
    Memory :=
  memory.write start
    (toBigEndian (source / 256 ^ (4 - nByte)) nByte)

/-- The octets at `size` consecutive addresses. -/
def window
    (memory : Memory)
    (start size : Nat) :
    List UInt8 :=
  (List.range size).map (fun index => memory (start + index))

@[simp] theorem window_length
    (memory : Memory)
    (start size : Nat) :
    (memory.window start size).length = size := by
  simp [window]

variable (start : Nat)

@[simp] theorem write_nil
    (memory : Memory) :
    memory.write start [] = memory := by
  funext address
  simp [write]

/-- Addresses in front of a write keep their octets. -/
theorem write_before
    {start address : Nat}
    (octets : List UInt8)
    (memory : Memory)
    (before : address < start) :
    memory.write start octets address = memory address := by
  simp [write, Nat.not_le.mpr before]

/-- Addresses behind a write keep their octets. -/
theorem write_behind
    {start address : Nat}
    (octets : List UInt8)
    (memory : Memory)
    (behind : start + octets.length ≤ address) :
    memory.write start octets address = memory address := by
  have beyond : octets.length ≤ address - start := by omega
  simp [write, List.getD, List.getElem?_eq_none beyond]

/-- Addresses of a write hold its octets. -/
theorem write_inside
    (start : Nat)
    {octets : List UInt8}
    (memory : Memory)
    {index : Nat}
    (inside : index < octets.length) :
    memory.write start octets (start + index) = octets[index] := by
  simp [write, inside]

/-- Two adjacent writes are one write of the joined octets. -/
theorem write_write
    (first second : List UInt8)
    (memory : Memory) :
    (memory.write start first).write
        (start + first.length) second =
      memory.write start (first ++ second) := by
  funext address
  by_cases before : address < start
  · simp [write, Nat.not_le.mpr before,
      Nat.not_le.mpr (Nat.lt_add_right first.length before)]
  · obtain ⟨index, rfl⟩ := Nat.exists_eq_add_of_le (Nat.not_lt.mp before)
    by_cases inFirst : index < first.length
    · have notSecond : ¬ first.length ≤ index := Nat.not_le.mpr inFirst
      simp [write, notSecond, inFirst, List.getD,
        List.getElem?_append_left inFirst]
    · have afterFirst : first.length ≤ index := Nat.not_lt.mp inFirst
      simp [write, afterFirst, List.getD,
        List.getElem?_append_right afterFirst,
        Nat.add_sub_add_left]

/-- Updating the next free octet extends a write. -/
theorem update_write
    (octets : List UInt8)
    (octet : UInt8)
    (memory : Memory) :
    update (memory.write start octets)
        (start + octets.length) octet =
      memory.write start (octets ++ [octet]) := by
  rw [← write_write]
  funext address
  rcases Nat.lt_trichotomy address (start + octets.length) with
      before | rfl | behind
  · rw [update_of_ne before.ne, write_before _ _ before]
  · simp [write]
  · rw [update_of_ne behind.ne']
    exact (write_behind [octet] _ behind).symm

/-- Updating the last octet of a write changes that octet only. -/
theorem update_write_last
    (octets : List UInt8)
    (last octet : UInt8)
    (memory : Memory) :
    update (memory.write start (octets ++ [last]))
        (start + octets.length) octet =
      memory.write start (octets ++ [octet]) := by
  rw [← update_write, Function.update_idem, update_write]

/-- The last octet of a write is found behind the others. -/
theorem write_last
    (octets : List UInt8)
    (last : UInt8)
    (memory : Memory) :
    memory.write start (octets ++ [last]) (start + octets.length) = last := by
  simp [write]

/-- Assigning the next free octet extends a write. -/
theorem assign_write
    (octets : List UInt8)
    (value : UInt32)
    (memory : Memory) :
    (memory.write start octets).assign
        (start + octets.length) value =
      memory.write start (octets ++ [value.toUInt8]) :=
  update_write start octets value.toUInt8 memory

/-- Assigning into a still empty range writes its first octet. -/
theorem assign_eq_write
    (value : UInt32)
    (memory : Memory) :
    memory.assign start value = memory.write start [value.toUInt8] := by
  simpa using assign_write start [] value memory

/-- Or-ing into the last octet of a write changes that octet only. -/
theorem assignOr_write
    (octets : List UInt8)
    (last : UInt8)
    (value : UInt32)
    (memory : Memory) :
    (memory.write start (octets ++ [last])).assignOr
        (start + octets.length) value =
      memory.write start (octets ++ [last ||| value.toUInt8]) := by
  rw [assignOr, write_last, update_write_last]

/-- Masking the last octet of a write changes that octet only. -/
theorem assignAnd_write
    (octets : List UInt8)
    (last mask : UInt8)
    (memory : Memory) :
    (memory.write start (octets ++ [last])).assignAnd
        (start + octets.length) mask =
      memory.write start (octets ++ [last &&& mask]) := by
  rw [assignAnd, write_last, update_write_last]

variable
  {octets : List UInt8}
  {offset : Nat}

/-- Assigning at the offset behind a write extends it. -/
theorem assign_behind
    (behind : offset = octets.length)
    (value : UInt32)
    (memory : Memory) :
    (memory.write start octets).assign (start + offset) value =
      memory.write start (octets ++ [value.toUInt8]) := by
  rw [behind, assign_write]

/-- Or-ing at an offset inside of a write changes that octet only. -/
theorem assignOr_inside
    (inside : offset < octets.length)
    (value : UInt32)
    (memory : Memory) :
    (memory.write start octets).assignOr (start + offset) value =
      memory.write start (octets.modify offset (· ||| value.toUInt8)) := by
  rw [assignOr, write_inside start memory inside]
  funext address
  rcases Nat.lt_or_ge address start with before | reached
  · rw [update_of_ne (by omega), write_before _ _ before,
      write_before _ _ before]
  · obtain ⟨index, rfl⟩ := Nat.exists_eq_add_of_le reached
    by_cases atOffset : index = offset
    · subst index
      simp [write, inside]
    · have elsewhere : start + index ≠ start + offset := by omega
      simp [update_of_ne elsewhere, write, Ne.symm atOffset]

/-- Or-ing into the first octet of a write changes that octet only. -/
theorem assignOr_front
    (first : UInt8)
    (rest : List UInt8)
    (value : UInt32)
    (memory : Memory) :
    (memory.write start (first :: rest)).assignOr start value =
      memory.write start ((first ||| value.toUInt8) :: rest) := by
  have inside : 0 < (first :: rest).length := by simp
  simpa using assignOr_inside start inside value memory

/-- Copying bytes to the offset behind a write extends it. -/
theorem l2bLower_behind
    (behind : offset = octets.length)
    (source nByte : Nat)
    (memory : Memory) :
    (memory.write start octets).l2bLower (start + offset)
        source nByte =
      memory.write start (octets ++ toBigEndian source nByte) := by
  rw [behind, l2bLower, write_write]

/-- Assigning the octet behind the last one extends a write. -/
theorem assign_write_next
    (octets : List UInt8)
    (last : UInt8)
    (value : UInt32)
    (memory : Memory) :
    (memory.write start (octets ++ [last])).assign
        (start + octets.length + 1) value =
      memory.write start (octets ++ [last, value.toUInt8]) := by
  simpa [Nat.add_assoc] using
    assign_write start (octets ++ [last]) value memory

/-- Or-ing into the octet behind an earlier one changes only the former. -/
theorem assignOr_write_next
    (octets : List UInt8)
    (earlier last : UInt8)
    (value : UInt32)
    (memory : Memory) :
    (memory.write start (octets ++ [earlier, last])).assignOr
        (start + octets.length + 1) value =
      memory.write start (octets ++ [earlier, last ||| value.toUInt8]) := by
  simpa [Nat.add_assoc] using
    assignOr_write start (octets ++ [earlier]) last value memory

/-- The window of a write shows exactly the octets written. -/
theorem window_write
    (octets : List UInt8)
    (memory : Memory) :
    (memory.write start octets).window start octets.length = octets := by
  apply List.ext_getElem
  · simp
  · intro index inWindow inOctets
    simp [window, write_inside start memory inOctets]

/-- Writing behind a range keeps the octets of the range. -/
theorem window_write_behind
    {start size behind : Nat}
    (octets : List UInt8)
    (memory : Memory)
    (ordered : start + size ≤ behind) :
    (memory.write behind octets).window start size =
      memory.window start size := by
  unfold window
  refine List.map_congr_left fun index member => ?_
  have inside := List.mem_range.mp member
  exact write_before _ _ (by omega)

/-- A window is made of its first and its remaining octets. -/
theorem window_add
    (memory : Memory)
    (start first second : Nat) :
    memory.window start (first + second) =
      memory.window start first ++ memory.window (start + first) second := by
  simp [window, List.range_add, Nat.add_assoc]

/-- Octets of a window are read from the memory itself. -/
theorem loadOctet_window
    {memory : Memory}
    {limit address : Nat}
    (inside : address < limit) :
    loadOctet (memory.window 0 limit) address = .ok (memory address) := by
  rw [loadOctet_of_lt (by simpa using inside)]
  simp [window]

variable {limit start size : Nat}

/-- Consecutive octets of a window are read from the memory itself. -/
theorem loadOctets_window
    {memory : Memory}
    (inside : start + size ≤ limit) :
    loadOctets (memory.window 0 limit) start size =
      .ok (memory.window start size) := by
  induction size generalizing start with
  | zero => rfl
  | succ size hypothesis =>
      have headRead :
          loadOctet (memory.window 0 limit) start = .ok (memory start) :=
        loadOctet_window (by omega)
      have restRead := @hypothesis (start + 1) (by omega)
      have split : memory.window start (size + 1) =
          memory start :: memory.window (start + 1) size := by
        rw [Nat.add_comm size 1, window_add]
        rfl
      rw [loadOctets, headRead, Checked.ok_bind, restRead,
        Checked.ok_bind, Checked.pure_eq_ok, split]

/-- Big-endian values of a window are those of the memory itself. -/
theorem b2lLower_window
    {memory : Memory}
    {limit start size : Nat}
    (inside : start + size ≤ limit) :
    b2lLower (memory.window 0 limit) start size =
      .ok (fromBigEndian (memory.window start size)) := by
  rw [b2lLower, loadOctets_window inside, Checked.ok_bind, Checked.pure_eq_ok]

/-- As `b2lLower_window`, for the upper bytes of a 32-bit word. -/
theorem b2lUpper_window
    {memory : Memory}
    (inside : start + size ≤ limit) :
    b2lUpper (memory.window 0 limit) start size =
      .ok (fromBigEndian (memory.window start size) * 256 ^ (4 - size)) := by
  rw [b2lUpper, loadOctets_window inside, Checked.ok_bind, Checked.pure_eq_ok]

/-- A write hides an earlier one of the same range. -/
theorem write_overwrite
    {earlier later : List UInt8}
    (memory : Memory)
    (sameSize : earlier.length = later.length) :
    (memory.write start earlier).write start later =
      memory.write start later := by
  funext address
  by_cases inside : start ≤ address ∧ address < start + later.length
  · obtain ⟨index, rfl⟩ := Nat.exists_eq_add_of_le inside.1
    have indexInside : index < later.length := by omega
    rw [write_inside _ _ indexInside, write_inside _ _ indexInside]
  · rcases Nat.lt_or_ge address start with before | notBefore
    · rw [write_before _ _ before, write_before _ _ before,
        write_before _ _ before]
    · rw [write_behind _ _ (by omega), write_behind _ _ (by omega),
        write_behind _ _ (by omega)]

end Memory

end DectNrp
