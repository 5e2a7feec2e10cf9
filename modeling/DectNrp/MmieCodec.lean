import DectNrp.FieldFormat

namespace DectNrp

/-!
# Codecs of information elements

Every element that is received can check itself, tell its packed size, pack
itself and unpack octets of a peer.  If its size depends on its first octets,
the size is peeked from them before the element is unpacked.  Checking an
element and asking for its size are assertions of the program themselves and
need not return.

An element is unpacked into an object that exists already.  Some of its data,
such as the subcarrier scaling factor, is not part of the octets and is kept.
-/

/-- Why the size of an element is not known from its first octets. -/
inductive PeekErrc where
  | nonreservedFieldSetToReserved
  | nonreservedFieldSetToUnsupported
  | reservedFieldNotZero
  deriving Repr, DecidableEq

/-- A size, or the reason why there is none. -/
abbrev PeekResult := Except PeekErrc Nat

namespace Checked

/-- The value of an optional field, which has to be there. -/
def value
    {Field : Type}
    (field : Option Field) :
    Checked Field :=
  match field with
  | some value => .ok value
  | none => .error .badOptionalAccess

@[simp] theorem value_some
    {Field : Type}
    (field : Field) :
    value (some field) = .ok field :=
  rfl

@[simp] theorem value_none
    {Field : Type} :
    value (none : Option Field) = .error .badOptionalAccess :=
  rfl

/-- A program behind an assertion returns if the condition holds. -/
theorem dectnrpAssert_bind_eq_ok
    {Value : Type}
    {condition : Bool}
    {message : String}
    {next : Unit → Checked Value}
    {value : Value} :
    (dectnrpAssert condition message >>= next) = .ok value ↔
      condition = true ∧ next () = .ok value := by
  cases condition <;> simp

end Checked

/-- Octets that were packed have to show the size that was packed. -/
def assertPeeked
    (peeked : PeekResult)
    (nBytes : Nat) :
    Checked Unit := do
  dectnrpAssert peeked.isOk "peeking failed"
  dectnrpAssert (peeked = .ok nBytes) "lengths do not match"

/-- The assertion passes exactly for the size that was packed. -/
theorem assertPeeked_eq_ok
    {peeked : PeekResult}
    {nBytes : Nat} :
    assertPeeked peeked nBytes = .ok () ↔ peeked = .ok nBytes := by
  cases peeked with
  | error errc => simp [assertPeeked, Except.isOk, Except.toBool]
  | ok size =>
      simp [assertPeeked, Except.isOk, Except.toBool, dectnrpAssert_eq_ok]

/-- What was packed is returned if its size is peeked from it. -/
theorem assertPeeked_bind
    {peeked : PeekResult}
    {nBytes : Nat}
    (isSize : peeked = .ok nBytes)
    (memory : Memory) :
    (do
      assertPeeked peeked nBytes
      pure memory : Checked Memory) = .ok memory := by
  rw [assertPeeked_eq_ok.mpr isSize]
  rfl

/-- What was read has to have the size that was read. -/
def finishUnpacking
    {Element : Type}
    (getPackedSize : Element → Checked Nat)
    (isValid : Element → Checked Bool)
    (read : Element × Nat) :
    Checked (Bool × Element) := do
  let packedSize ← getPackedSize read.1
  dectnrpAssert (packedSize = read.2) "lengths do not match"
  let valid ← isValid read.1
  pure (valid, read.1)

variable
  {Element : Type}
  {getPackedSize : Element → Checked Nat}
  {isValid : Element → Checked Bool}

variable {read : Element × Nat}

/-- What was read is returned exactly if its size is right and it is checked. -/
theorem finishUnpacking_eq_ok
    {valid : Bool}
    {element : Element} :
    finishUnpacking getPackedSize isValid read = .ok (valid, element) ↔
      getPackedSize read.1 = .ok read.2 ∧ isValid read.1 = .ok valid ∧
        read.1 = element := by
  unfold finishUnpacking
  cases sized : getPackedSize read.1 with
  | error fault => simp
  | ok packedSize =>
      by_cases same : packedSize = read.2
      · cases checked : isValid read.1 with
        | error fault => simp [same]
        | ok returned => simp [same]
      · simp [same]

/--
If the packed size asserts that an element is valid, what was read is returned
exactly if it is valid and has the size that was read.
-/
theorem finishes_iff_of_asserts
    (asserts :
      ∀ size, getPackedSize read.1 = .ok size → isValid read.1 = .ok true) :
    (∃ valid element,
        finishUnpacking getPackedSize isValid read = .ok (valid, element) ∧
          isValid element = .ok valid) ↔
      isValid read.1 = .ok true ∧ getPackedSize read.1 = .ok read.2 := by
  simp only [finishUnpacking_eq_ok]
  constructor
  · rintro ⟨valid, element, ⟨sized, -, -⟩, -⟩
    exact ⟨asserts read.2 sized, sized⟩
  · rintro ⟨passes, sized⟩
    exact ⟨true, read.1, ⟨sized, passes, rfl⟩, passes⟩

/-- Read the fields of an element and check them. -/
def unpackRead
    {Element : Type}
    (getPackedSize : Element → Checked Nat)
    (isValid : Element → Checked Bool)
    (reader : OctetReader (Element × Nat))
    (octets : List UInt8) :
    Checked (Bool × Element) := do
  let read ← reader.run octets
  finishUnpacking getPackedSize isValid read

theorem unpackRead_eq_ok
    {reader : OctetReader (Element × Nat)}
    {memory : Memory}
    {limit : Nat}
    {valid : Bool}
    {element : Element} :
    unpackRead getPackedSize isValid reader (memory.window 0 limit) =
        .ok (valid, element) ↔
      reader.Within memory limit ∧
        getPackedSize (reader.eval memory).1 = .ok (reader.eval memory).2 ∧
        isValid (reader.eval memory).1 = .ok valid ∧
        (reader.eval memory).1 = element := by
  unfold unpackRead
  simp only [Checked.bind_eq_ok, OctetReader.run_window_eq_ok,
    finishUnpacking_eq_ok]
  constructor
  · rintro ⟨_, ⟨within, rfl⟩, sized, checked, same⟩
    exact ⟨within, sized, checked, same⟩
  · rintro ⟨within, sized, checked, same⟩
    exact ⟨_, ⟨within, rfl⟩, sized, checked, same⟩

/-- What a received element can do. -/
structure MmieCodec (Element : Type) where
  isValid : Element → Checked Bool
  getPackedSize : Element → Checked Nat
  pack : Element → Nat → Memory → Checked Memory
  /-- Octets that are there when the size is peeked. -/
  getPackedSizeMinToPeek : Nat
  getPackedSizeByPeeking : Element → Nat → OctetReader PeekResult
  unpack : Element → List UInt8 → Nat → Checked (Bool × Element)
  /-- The first object knows what the octets of the second one leave out. -/
  SameContext : Element → Element → Prop
  sameContext_refl : ∀ element, SameContext element element

namespace MmieCodec

variable
    {Element : Type}
    (codec : MmieCodec Element)

/-- Peek at the octets that have to be there. -/
def peek
    (initial : Element)
    (memory : Memory)
    (front : Nat) :
    Checked PeekResult :=
  (codec.getPackedSizeByPeeking initial front).run
    (memory.window 0 (front + codec.getPackedSizeMinToPeek))

/--
Packing writes as many octets as the packed size says, peeking finds that size
in them, and any object with the same context restores the element from them.
-/
def RoundTrips (element : Element) : Prop :=
  ∀ (initial : Element) (front : Nat) (memory : Memory),
    codec.SameContext initial element →
      ∃ octets : List UInt8,
        codec.getPackedSize element = .ok octets.length ∧
        codec.pack element front memory =
          .ok (memory.write front octets) ∧
        codec.peek initial (memory.write front octets) front =
          .ok (.ok octets.length) ∧
        codec.unpack initial
            ((memory.write front octets).window 0
              (front + octets.length))
            front =
          .ok (true, element)

/--
An element makes the round trip if it is written as octets from which its size
is peeked and which unpack to it.
-/
theorem roundTrips_of_code
    {codec : MmieCodec Element}
    {element : Element}
    {code : List UInt8}
    (sized : codec.getPackedSize element = .ok code.length)
    (packed :
      ∀ front memory,
        codec.pack element front memory = .ok (memory.write front code))
    (peeked :
      ∀ initial (memory : Memory) front,
        codec.SameContext initial element →
        memory.Holds front code →
          codec.peek initial memory front = .ok (.ok code.length))
    (unpacked :
      ∀ initial (memory : Memory) front,
        codec.SameContext initial element →
        memory.Holds front code →
          codec.unpack initial
              (memory.window 0 (front + code.length)) front =
            .ok (true, element)) :
    codec.RoundTrips element := by
  intro initial front memory sameContext
  have holds := Memory.holds_write front code memory
  exact ⟨code, sized, packed front memory,
      peeked initial _ front sameContext holds,
      unpacked initial _ front sameContext holds⟩

variable {codec : MmieCodec Element}

/-- Peeking returns if it loads the octets that are there only. -/
theorem peek_eq
    {initial : Element}
    {memory : Memory}
    {front : Nat}
    (within :
      (codec.getPackedSizeByPeeking initial front).Within memory
        (front + codec.getPackedSizeMinToPeek)) :
    codec.peek initial memory front =
      .ok ((codec.getPackedSizeByPeeking initial front).eval memory) :=
  OctetReader.run_window within

/--
If packing ends with the assertion that the packed size is peeked, and reading
recovers the element, nothing else can prevent the round trip.
-/
theorem roundTrips_iff_peeked
    {element : Element}
    {code : List UInt8}
    {peeked : PeekResult}
    (sized : codec.getPackedSize element = .ok code.length)
    (packed :
      ∀ front memory,
        codec.pack element front memory = (do
          assertPeeked peeked code.length
          pure (memory.write front code)))
    (isPeeked :
      ∀ initial (memory : Memory) front,
        codec.SameContext initial element →
        memory.Holds front code → codec.peek initial memory front = .ok peeked)
    (unpacked :
      ∀ initial (memory : Memory) front,
        codec.SameContext initial element →
        memory.Holds front code →
          codec.unpack initial
              (memory.window 0 (front + code.length)) front =
            .ok (true, element)) :
    codec.RoundTrips element ↔ peeked = .ok code.length := by
  constructor
  · intro roundTrips
    obtain ⟨octets, -, packs, -, -⟩ :=
      roundTrips element 0 (fun _ => 0) (codec.sameContext_refl element)
    rw [packed, Checked.bind_eq_ok] at packs
    obtain ⟨_, passes, -⟩ := packs
    exact assertPeeked_eq_ok.mp passes
  · intro isSize
    refine roundTrips_of_code sized ?_ ?_ unpacked
    · intro front memory
      rw [packed]
      exact assertPeeked_bind isSize _
    · intro initial memory front sameContext holds
      rw [isPeeked initial memory front sameContext holds, isSize]

/-- Packing an element that makes the round trip returns. -/
theorem RoundTrips.packs
    {element : Element}
    (roundTrips : codec.RoundTrips element)
    (front : Nat)
    (memory : Memory) :
    ∃ packed, codec.pack element front memory = .ok packed := by
  obtain ⟨octets, -, packed, -, -⟩ :=
    roundTrips element front memory (codec.sameContext_refl element)
  exact ⟨_, packed⟩

/--
If a size is peeked, unpacking reads no further octets, returns, and accepts
exactly the elements that are valid.
-/
def UnpacksSafely
    (initial : Element)
    (memory : Memory)
    (front : Nat) :
    Prop :=
  ∀ size,
    codec.peek initial memory front = .ok (.ok size) →
      ∃ valid element,
        codec.unpack initial (memory.window 0 (front + size)) front =
          .ok (valid, element) ∧
        codec.isValid element = .ok valid

/-- Unpacking is safe if what is read has the size that was read. -/
theorem unpacksSafely_iff
    {codec : MmieCodec Element}
    {initial : Element}
    {memory : Memory}
    {front : Nat}
    {reader : OctetReader (Element × Nat)}
    (unpacks :
      ∀ octets,
        codec.unpack initial octets front =
          unpackRead codec.getPackedSize codec.isValid reader octets) :
    codec.UnpacksSafely initial memory front ↔
      ∀ size,
        codec.peek initial memory front = .ok (.ok size) →
          reader.Within memory (front + size) ∧
            codec.getPackedSize (reader.eval memory).1 =
              .ok (reader.eval memory).2 ∧
            ∃ valid, codec.isValid (reader.eval memory).1 = .ok valid := by
  unfold UnpacksSafely
  refine forall_congr' fun size => imp_congr_right fun _ => ?_
  simp only [unpacks, unpackRead_eq_ok]
  constructor
  · rintro ⟨valid, element, ⟨within, sized, checked, -⟩, -⟩
    exact ⟨within, sized, valid, checked⟩
  · rintro ⟨within, sized, valid, checked⟩
    exact ⟨valid, _, ⟨within, sized, checked, rfl⟩, checked⟩

/-- As `unpacksSafely_iff`, for a reader that may stop before the end. -/
theorem unpacksSafely_iff_of_check
    {codec : MmieCodec Element}
    {initial : Element}
    {memory : Memory}
    {front : Nat}
    {reader : OctetReader (Checked (Bool × Element))}
    (unpacks :
      ∀ octets, codec.unpack initial octets front = reader.check octets) :
    codec.UnpacksSafely initial memory front ↔
      ∀ size,
        codec.peek initial memory front = .ok (.ok size) →
          reader.Within memory (front + size) ∧
            ∃ valid element,
              reader.eval memory = .ok (valid, element) ∧
                codec.isValid element = .ok valid := by
  unfold UnpacksSafely
  simp only [unpacks, OctetReader.check_window_eq_ok, and_assoc,
    exists_and_left]

/-- If the peeked size is known, unpacking has to be safe for that size only. -/
theorem unpacksSafely_iff_of_peek
    {initial : Element}
    {memory : Memory}
    {front size : Nat}
    (peeked : codec.peek initial memory front = .ok (.ok size)) :
    codec.UnpacksSafely initial memory front ↔
      ∃ valid element,
        codec.unpack initial (memory.window 0 (front + size)) front =
          .ok (valid, element) ∧
        codec.isValid element = .ok valid := by
  constructor
  · intro safely
    exact safely size peeked
  · intro safely other peekedOther
    have same : size = other := by
      simpa only [peeked, Except.ok.injEq] using peekedOther
    exact same ▸ safely

/-- The codec of elements that take the same number of octets each time. -/
def ofFixedSize
    (size : Nat)
    (isValid : Element → Bool)
    (pack : Element → Nat → Memory → Checked Memory)
    (reader : Nat → OctetReader (Bool × Element)) :
    MmieCodec Element where
  isValid element := .ok (isValid element)
  getPackedSize _ := .ok size
  pack := pack
  getPackedSizeMinToPeek := 0
  getPackedSizeByPeeking _ _ := pure (.ok size)
  unpack _ octets front := (reader front).run octets
  SameContext _ _ := True
  sameContext_refl _ := trivial

section FixedSize

variable
    {size : Nat}
    {isValid : Element → Bool}
    {pack : Element → Nat → Memory → Checked Memory}
    {reader : Nat → OctetReader (Bool × Element)}

/-- A fixed size is read and checked safely if the reader stays within it. -/
theorem ofFixedSize_unpacksSafely
    (initial : Element)
    {memory : Memory}
    {front : Nat}
    (within : (reader front).Within memory (front + size))
    (checked :
      isValid ((reader front).eval memory).2 =
        ((reader front).eval memory).1) :
    (ofFixedSize size isValid pack reader).UnpacksSafely initial memory
      front := by
  rw [unpacksSafely_iff_of_peek
    (show peek _ initial memory front = .ok (.ok size) from rfl)]
  exact ⟨_, _, OctetReader.run_window within, congrArg Except.ok checked⟩

/-- An element makes the round trip if it is read from its octets. -/
theorem ofFixedSize_roundTrips
    {element : Element}
    {code : List UInt8}
    (isSize : code.length = size)
    (packed :
      ∀ front memory,
        pack element front memory = .ok (memory.write front code))
    (within : ∀ memory front, (reader front).Within memory (front + size))
    (recovered :
      ∀ (memory : Memory) front,
        memory.Holds front code →
          (reader front).eval memory = (true, element)) :
    (ofFixedSize size isValid pack reader).RoundTrips element := by
  refine @roundTrips_of_code _ _ _ code ?_ ?_ ?_ ?_
  · exact congrArg Except.ok isSize.symm
  · exact packed
  · intro initial memory front _ _
    rw [isSize]
    rfl
  · intro initial memory front _ holds
    rw [isSize, ← recovered memory front holds]
    exact OctetReader.run_window (within memory front)

end FixedSize

end MmieCodec

end DectNrp
