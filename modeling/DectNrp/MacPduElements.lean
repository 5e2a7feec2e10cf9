import DectNrp.MacPduDecoder

namespace DectNrp

/-!
# Elements of a transport block

This module says what a transport block contains, without saying how it is
decoded.  The octets at an offset stand for a header, a size and a body, and
the elements of a block are the longest sequence of known, pooled and complete
elements that starts behind the common header.  Elements whose fields are
invalid are passed over.
-/

namespace MmieBody

/-- Whether the fields of a body have valid contents. -/
def contentsValid : MmieBody → Bool
  | paddingIe => false
  | userPlaneData _ => true
  | clusterBeaconMessage message => message.isValid
  | powerTargetIe ie => ie.isValid
  | timeAnnounceIe ie => ie.isValid

end MmieBody

namespace MacPdu

open MacMultiplexingHeader (announced packedSize lengthAt)

/-- The kind of element that is announced at an offset. -/
def typeAt
    (a : Memory)
    (offset : Nat) :
    Option MmieType :=
  (announced (a offset)).tinfo

/-- The multiplexing header at an offset. -/
def headerAt
    (a : Memory)
    (offset : Nat) :
    MacMultiplexingHeader :=
  { announced (a offset) with
    length := lengthAt (announced (a offset)).macExt a offset }

/-- The offset behind the multiplexing header at an offset. -/
def bodyOffsetAt
    (a : Memory)
    (offset : Nat) :
    Nat :=
  offset + packedSize (announced (a offset)).macExt

/-- The number of octets of a body. -/
def bodySizeAt
    (mu : Nat)
    (a : Memory)
    (offset : Nat) :
    MmieType → Nat
  | .paddingIe => 0
  | .userPlaneData => (headerAt a offset).length.toNat
  | .clusterBeaconMessage =>
      ClusterBeaconMessage.sizeByFlags mu
        (a (bodyOffsetAt a offset + 1))
  | .powerTargetIe => PowerTargetIe.getPackedSize
  | .timeAnnounceIe => TimeAnnounceIe.getPackedSize

/-- The body that the octets at its offset stand for. -/
def bodyAt
    (mu : Nat)
    (a : Memory)
    (bodyOffset : Nat) :
    MmieType → MmieBody
  | .paddingIe => .paddingIe
  | .userPlaneData => .userPlaneData (some bodyOffset)
  | .clusterBeaconMessage =>
      .clusterBeaconMessage
        (ClusterBeaconMessage.decoded mu a bodyOffset)
  | .powerTargetIe =>
      .powerTargetIe (PowerTargetIe.decoded a bodyOffset)
  | .timeAnnounceIe =>
      .timeAnnounceIe (TimeAnnounceIe.decoded a bodyOffset)

/-- The element of a kind at an offset. -/
def mmieAt
    (mu : Nat)
    (a : Memory)
    (offset : Nat)
    (type : MmieType) :
    Mmie where
  macMultiplexingHeader := headerAt a offset
  body := bodyAt mu a (bodyOffsetAt a offset) type

/-- The offset behind an element. -/
def behind
    (mu : Nat)
    (a : Memory)
    (offset : Nat)
    (type : MmieType) :
    Nat :=
  bodyOffsetAt a offset + bodySizeAt mu a offset type

/-- The reasons why no further element of a block is decoded. -/
inductive Stop
    (mu : Nat)
    (a : Memory)
    (size offset : Nat)
    (used : MmieType → Nat) :
    Prop where
  | blockEnd
      (ended : size ≤ offset)
  | notActivated
      (isUnknown : typeAt a offset = none)
  | padding
      (isPadding : typeAt a offset = some .paddingIe)
  | exhausted
      {type : MmieType}
      (isType : typeAt a offset = some type)
      (allUsed : MacPduDecoder.nofElements type ≤ used type)
  | incomplete
      {type : MmieType}
      (isType : typeAt a offset = some type)
      (tooLong : size < behind mu a offset type)

/-- A known element that has a place in the pool and in the block. -/
structure Complete
    (mu : Nat)
    (a : Memory)
    (size offset : Nat)
    (used : MmieType → Nat)
    (type : MmieType) :
    Prop where
  inside : offset < size
  isType : typeAt a offset = some type
  notPadding : type ≠ .paddingIe
  available : used type < MacPduDecoder.nofElements type
  fits : behind mu a offset type ≤ size

/-- The elements of the octets from an offset to the end of a block. -/
inductive Elements
    (mu : Nat)
    (a : Memory)
    (size : Nat) :
    (offset : Nat) → (used : MmieType → Nat) → List Mmie → Prop where
  /-- No further element is decoded. -/
  | stopped
      {offset : Nat}
      {used : MmieType → Nat}
      (stop : Stop mu a size offset used) :
      Elements mu a size offset used []
  /-- An element with invalid fields is passed over. -/
  | skipped
      {offset : Nat}
      {used : MmieType → Nat}
      {type : MmieType}
      {rest : List Mmie}
      (complete : Complete mu a size offset used type)
      (invalid :
        (mmieAt mu a offset type).body.contentsValid = false)
      (further :
        Elements mu a size (behind mu a offset type) used rest) :
      Elements mu a size offset used rest
  /-- An element with valid fields takes a place in the pool. -/
  | listed
      {offset : Nat}
      {used : MmieType → Nat}
      {type : MmieType}
      {rest : List Mmie}
      (complete : Complete mu a size offset used type)
      (valid :
        (mmieAt mu a offset type).body.contentsValid = true)
      (further :
        Elements mu a size (behind mu a offset type)
          (Function.update used type (used type + 1)) rest) :
      Elements mu a size offset used
        (mmieAt mu a offset type :: rest)

section Rules

variable
    {mu : Nat}
    {a : Memory}
    {size offset : Nat}
    {used : MmieType → Nat}

theorem stop_or_complete
    (mu : Nat)
    (a : Memory)
    (size offset : Nat)
    (used : MmieType → Nat) :
    Stop mu a size offset used ∨
      ∃ type, Complete mu a size offset used type := by
  by_cases inside : offset < size
  · cases isType : typeAt a offset with
    | none => exact .inl (.notActivated isType)
    | some type =>
        by_cases isPadding : type = .paddingIe
        · exact .inl (.padding (by rw [isType, isPadding]))
        · by_cases available : used type < MacPduDecoder.nofElements type
          · by_cases fits : behind mu a offset type ≤ size
            · exact .inr ⟨type, inside, isType, isPadding, available, fits⟩
            · exact .inl (.incomplete isType (by omega))
          · exact .inl (.exhausted isType (by omega))
  · exact .inl (.blockEnd (by omega))

/-- A block does not stop where it has a complete element. -/
theorem Complete.not_stop
    {type : MmieType}
    (complete : Complete mu a size offset used type) :
    ¬ Stop mu a size offset used := by
  intro stop
  have isType := complete.isType
  have inside := complete.inside
  have available := complete.available
  have fits := complete.fits
  cases stop with
  | blockEnd ended => omega
  | notActivated isUnknown =>
      rw [isUnknown] at isType
      cases isType
  | padding isPadding =>
      rw [isPadding, Option.some.injEq] at isType
      exact complete.notPadding isType.symm
  | exhausted isOther allUsed =>
      rw [isOther, Option.some.injEq] at isType
      subst isType
      omega
  | incomplete isOther tooLong =>
      rw [isOther, Option.some.injEq] at isType
      subst isType
      omega

/-- There is one complete element at most at an offset. -/
theorem Complete.type_unique
    {first second : MmieType}
    (isFirst : Complete mu a size offset used first)
    (isSecond : Complete mu a size offset used second) :
    first = second := by
  have isType := isFirst.isType
  rw [isSecond.isType, Option.some.injEq] at isType
  exact isType.symm

/-- The octets of a block determine its elements. -/
theorem Elements.unique
    {first second : List Mmie}
    (isFirst : Elements mu a size offset used first)
    (isSecond : Elements mu a size offset used second) :
    first = second := by
  induction isFirst generalizing second with
  | stopped stop =>
      cases isSecond with
      | stopped => rfl
      | skipped complete => exact absurd stop complete.not_stop
      | listed complete => exact absurd stop complete.not_stop
  | skipped complete invalid further hypothesis =>
      cases isSecond with
      | stopped stop => exact absurd stop complete.not_stop
      | skipped other _ furtherOther =>
          cases complete.type_unique other
          exact hypothesis furtherOther
      | listed other valid =>
          cases complete.type_unique other
          rw [valid] at invalid
          cases invalid
  | listed complete valid further hypothesis =>
      cases isSecond with
      | stopped stop => exact absurd stop complete.not_stop
      | skipped other invalid =>
          cases complete.type_unique other
          rw [valid] at invalid
          cases invalid
      | listed other _ furtherOther =>
          cases complete.type_unique other
          rw [hypothesis furtherOther]

end Rules

/-- A multiplexing header has one to three octets. -/
theorem bodyOffsetAt_bounds
    (a : Memory)
    (offset : Nat) :
    offset < bodyOffsetAt a offset ∧ bodyOffsetAt a offset ≤ offset + 3 := by
  unfold bodyOffsetAt packedSize
  split <;> simp [MacMultiplexingHeader.packedSizeMinToPeek]

/-- Every element advances the offset. -/
theorem offset_lt_behind
    (mu : Nat)
    (a : Memory)
    (offset : Nat)
    (type : MmieType) :
    offset < behind mu a offset type :=
  Nat.lt_of_lt_of_le (bodyOffsetAt_bounds a offset).1 (Nat.le_add_right _ _)

/-- From every offset a block has elements. -/
theorem Elements.exist
    (mu : Nat)
    (a : Memory)
    (size offset : Nat)
    (used : MmieType → Nat) :
    ∃ elements, Elements mu a size offset used elements := by
  obtain ⟨remaining, isRemaining⟩ :
      ∃ remaining, size - offset = remaining :=
    ⟨_, rfl⟩
  induction remaining using Nat.strong_induction_on
    generalizing offset used with
  | _ remaining hypothesis =>
      rcases stop_or_complete mu a size offset used with
          stop | ⟨type, complete⟩
      · exact ⟨[], .stopped stop⟩
      · have inside := complete.inside
        have advanced := offset_lt_behind mu a offset type
        have fewer : size - behind mu a offset type < remaining := by
          omega
        cases contents : (mmieAt mu a offset type).body.contentsValid with
        | false =>
            obtain ⟨rest, further⟩ :=
              hypothesis _ fewer (behind mu a offset type) used rfl
            exact ⟨rest, .skipped complete contents further⟩
        | true =>
            obtain ⟨rest, further⟩ :=
              hypothesis _ fewer (behind mu a offset type)
                (Function.update used type (used type + 1)) rfl
            exact ⟨_, .listed complete contents further⟩

/-- The header type of a block, if it is valid. -/
def headerTypeOf (a : Memory) : Option MacHeaderType :=
  if (MacHeaderType.decoded (a 0)).isValid then
    some (MacHeaderType.decoded (a 0))
  else
    none

/-- Zeros in the layout that the header type of a block asks for. -/
def commonHeaderLayout (a : Memory) : Option MacCommonHeader :=
  match headerTypeOf a with
  | none => none
  | some headerType =>
      (MacCommonHeader.emplace headerType.macHeaderType).toOption

/--
The common header of a block.  It remains zero if the block is too short for
it, and there is none if one of its fields is invalid.
-/
def commonHeaderOf
    (a : Memory)
    (size : Nat) :
    Option MacCommonHeader :=
  match commonHeaderLayout a with
  | none => none
  | some layout =>
      if size < 1 + layout.getPackedSize then
        some layout
      else if (layout.decoded a 1).isValid then
        some (layout.decoded a 1)
      else
        none

/-- The offset of the first element, if both headers are valid. -/
def elementsFrom
    (a : Memory)
    (size : Nat) :
    Option Nat :=
  match commonHeaderLayout a with
  | none => none
  | some layout =>
      if size < 1 + layout.getPackedSize then
        none
      else if (layout.decoded a 1).isValid then
        some (1 + layout.getPackedSize)
      else
        none

/-- The elements of a whole block. -/
def BlockElements
    (mu : Nat)
    (a : Memory)
    (size : Nat)
    (elements : List Mmie) :
    Prop :=
  match elementsFrom a size with
  | none => elements = []
  | some offset => Elements mu a size offset (fun _ => 0) elements

/-- The octets of a block determine the elements of the block. -/
theorem BlockElements.unique
    {mu : Nat}
    {a : Memory}
    {size : Nat}
    {first second : List Mmie}
    (isFirst : BlockElements mu a size first)
    (isSecond : BlockElements mu a size second) :
    first = second := by
  unfold BlockElements at isFirst isSecond
  split at isFirst
  · rename_i isNone
    rw [isNone] at isSecond
    rw [isFirst, isSecond]
  · rename_i offset isSome
    rw [isSome] at isSecond
    exact isFirst.unique isSecond

end MacPdu

end DectNrp
