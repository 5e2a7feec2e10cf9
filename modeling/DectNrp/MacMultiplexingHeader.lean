import DectNrp.BitFields
import DectNrp.CodedEnumeration
import DectNrp.FeedbackInfo

namespace DectNrp

/-!
# MAC multiplexing header

Every MAC message or information element is announced by a multiplexing header
of one to three octets.  The first octet names the layout of the header and
the type of the element, and a length field may follow.

The receiver unpacks the header in two parts: the first octet decides whether
the element is known, and only then the length field is waited for.
-/

open BitFields (extract)

/-- The kinds of elements that the receiver may recognise. -/
inductive MmieType where
  | paddingIe
  | userPlaneData
  | clusterBeaconMessage
  | powerTargetIe
  | timeAnnounceIe
  deriving Repr, DecidableEq

/-- MAC extension field. -/
inductive MacExt where
  | notDefined
  | noLengthField
  | lengthField8Bit
  | lengthField16Bit
  | lengthField1Bit
  | upper
  deriving Repr, DecidableEq

instance : CodedEnumeration MacExt where
  toUnderlying
    | .notDefined => undefinedNumeric32
    | .noLengthField => 0
    | .lengthField8Bit => 1
    | .lengthField16Bit => 2
    | .lengthField1Bit => 3
    | .upper => 4
  notDefined := .notDefined
  lower := none
  upper := .upper
  codes :=
    [.noLengthField, .lengthField8Bit, .lengthField16Bit,
      .lengthField1Bit]

/-- Members of one of the type enumerations, all without bounds. -/
structure IeTypes where
  codes : List UInt32

namespace IeTypes

/-- The type that is transmitted as a value. -/
def fromCodedValue
    (types : IeTypes)
    (value : UInt32) :
    UInt32 :=
  if value ∈ types.codes then value else undefinedNumeric32

/-- Every type but the undefined one is valid. -/
def isValid (ieType : UInt32) : Bool :=
  ieType != undefinedNumeric32

end IeTypes

-- Types under MAC extension 00, 01 and 10.
namespace IeTypeMacExt000110

def paddingIe : UInt32 := 0
def userPlaneDataFlow1 : UInt32 := 0b11
def userPlaneDataFlow2 : UInt32 := 0b100
def userPlaneDataFlow3 : UInt32 := 0b101
def userPlaneDataFlow4 : UInt32 := 0b110
def clusterBeaconMessage : UInt32 := 0b1001
def powerTargetIe : UInt32 := 0b11101
def timeAnnounceIe : UInt32 := 0b11110

/-- The listed types, the two project extensions included. -/
def types : IeTypes where
  codes :=
    [paddingIe, 0b1, 0b10, userPlaneDataFlow1, userPlaneDataFlow2,
      userPlaneDataFlow3, userPlaneDataFlow4, 0b1000,
      clusterBeaconMessage, 0b1010, 0b1011, 0b1100, 0b1101, 0b1110,
      0b1111, 0b10000, 0b10001, 0b10010, 0b10011, 0b10100, 0b10101,
      0b10110, 0b10111, 0b11000, 0b11001, 0b111110, 0b111111,
      powerTargetIe, timeAnnounceIe]

end IeTypeMacExt000110

-- Types under MAC extension 11 with an empty payload.
namespace IeTypeMacExt11Len0

def paddingIe : UInt32 := 0

def types : IeTypes where
  codes := [paddingIe, 0b1, 0b10000, 0b11110]

end IeTypeMacExt11Len0

-- Types under MAC extension 11 with a payload of one octet.
namespace IeTypeMacExt11Len1

def paddingIe : UInt32 := 0

def types : IeTypes where
  codes := [paddingIe, 0b1, 0b11110]

end IeTypeMacExt11Len1

/-- The element types that are activated without length field. -/
def activatedNoLengthField (ieType : UInt32) : Option MmieType :=
  if ieType = IeTypeMacExt000110.paddingIe then some .paddingIe
  else if ieType = IeTypeMacExt000110.clusterBeaconMessage then
    some .clusterBeaconMessage
  else if ieType = IeTypeMacExt000110.powerTargetIe then
    some .powerTargetIe
  else if ieType = IeTypeMacExt000110.timeAnnounceIe then
    some .timeAnnounceIe
  else none

/-- The four flows of user plane data. -/
def isUserPlaneDataFlow (ieType : UInt32) : Bool :=
  ieType = IeTypeMacExt000110.userPlaneDataFlow1 ||
    ieType = IeTypeMacExt000110.userPlaneDataFlow2 ||
    ieType = IeTypeMacExt000110.userPlaneDataFlow3 ||
    ieType = IeTypeMacExt000110.userPlaneDataFlow4

/-- The element types that are activated with an 8-bit length field. -/
def activatedLengthField8Bit (ieType : UInt32) : Option MmieType :=
  if ieType = IeTypeMacExt000110.paddingIe then some .paddingIe
  else if isUserPlaneDataFlow ieType then some .userPlaneData
  else none

/-- The element types that are activated with a 16-bit length field. -/
def activatedLengthField16Bit (ieType : UInt32) : Option MmieType :=
  if isUserPlaneDataFlow ieType then some .userPlaneData
  else none

/-- Working copy of a multiplexing header. -/
structure MacMultiplexingHeader where
  macExt : MacExt
  /-- The union of the three type enumerations. -/
  ieType : UInt32
  length : UInt32
  /-- Set by the receiver only. -/
  tinfo : Option MmieType
  deriving Repr, DecidableEq

namespace MacMultiplexingHeader

open CodedEnumeration (toUnderlying fromCodedValue)

/-- The first octet is enough to determine the packed size. -/
def packedSizeMinToPeek : Nat := 1

def zero : MacMultiplexingHeader where
  macExt := .notDefined
  ieType := undefinedNumeric32
  length := undefinedNumeric32
  tinfo := none

def isValid (header : MacMultiplexingHeader) : Bool :=
  match header.macExt with
  | .lengthField1Bit =>
      if header.length = 0 then IeTypes.isValid header.ieType
      else if header.length = 1 then IeTypes.isValid header.ieType
      else false
  | .lengthField8Bit =>
      if 255 < header.length then false
      else if 65535 < header.length then false
      else IeTypes.isValid header.ieType
  | .lengthField16Bit =>
      if 65535 < header.length then false
      else IeTypes.isValid header.ieType
  | .noLengthField => IeTypes.isValid header.ieType
  | _ => false

/-- Size of the header once its extension field is known. -/
def packedSize : MacExt → Nat
  | .lengthField8Bit => packedSizeMinToPeek + 1
  | .lengthField16Bit => packedSizeMinToPeek + 2
  | _ => packedSizeMinToPeek

def getPackedSize (header : MacMultiplexingHeader) : Checked Nat := do
  dectnrpAssert (CodedEnumeration.isValid header.macExt)
    "mac_ext not valid"
  pure (packedSize header.macExt)

def pack
    (header : MacMultiplexingHeader)
    (offset : Nat)
    (memory : Memory) :
    Checked Memory := do
  dectnrpAssert header.isValid "MAC multiplexing header is not valid"
  let memory := memory.assign offset (toUnderlying header.macExt <<< 6)
  match header.macExt with
  | .lengthField1Bit =>
      let memory := memory.assignOr offset (header.length <<< 5)
      pure (memory.assignOr offset header.ieType)
  | .noLengthField =>
      pure (memory.assignOr offset header.ieType)
  | .lengthField8Bit =>
      let memory := memory.assignOr offset header.ieType
      pure (memory.assign (offset + 1) (header.length &&& 255))
  | _ =>
      let memory := memory.assignOr offset header.ieType
      pure (memory.l2bLower (offset + 1) header.length.toNat 2)

/-- Set the extension, the type and the kind from the first octet. -/
def setMacExtIeType
    (header : MacMultiplexingHeader)
    (octet0 : UInt8) :
    MacMultiplexingHeader :=
  let header := { header with
    macExt := fromCodedValue (octet0.toUInt32 >>> 6)
  }
  match header.macExt with
  | .noLengthField =>
      let ieType :=
        IeTypeMacExt000110.types.fromCodedValue
          (extract octet0 0 0b111111)
      { header with
        ieType := ieType
        tinfo := activatedNoLengthField ieType <|> header.tinfo
      }
  | .lengthField8Bit =>
      let ieType :=
        IeTypeMacExt000110.types.fromCodedValue
          (extract octet0 0 0b111111)
      { header with
        ieType := ieType
        tinfo := activatedLengthField8Bit ieType <|> header.tinfo
      }
  | .lengthField16Bit =>
      let ieType :=
        IeTypeMacExt000110.types.fromCodedValue
          (extract octet0 0 0b111111)
      { header with
        ieType := ieType
        tinfo := activatedLengthField16Bit ieType <|> header.tinfo
      }
  | .lengthField1Bit =>
      -- the length is part of the first octet, but is not saved here
      let coded := extract octet0 0 0b11111
      if extract octet0 5 0b1 = 0 then
        let ieType := IeTypeMacExt11Len0.types.fromCodedValue coded
        { header with
          ieType := ieType
          tinfo :=
            if ieType = IeTypeMacExt11Len0.paddingIe then
              some .paddingIe
            else
              header.tinfo
        }
      else
        let ieType := IeTypeMacExt11Len1.types.fromCodedValue coded
        { header with
          ieType := ieType
          tinfo :=
            if ieType = IeTypeMacExt11Len1.paddingIe then
              some .paddingIe
            else
              header.tinfo
        }
  | _ => header

/-- Read the first octet and report whether the element is known. -/
def unpackMacExtIeType
    (header : MacMultiplexingHeader)
    (octets : List UInt8)
    (offset : Nat) :
    Checked (Bool × MacMultiplexingHeader) := do
  dectnrpAssert
    (header.macExt = .notDefined && header.length = undefinedNumeric32 &&
      header.tinfo.isNone)
    "fields not zero"
  let octet0 ← loadOctet octets offset
  let header := header.setMacExtIeType octet0
  pure (header.tinfo.isSome, header)

/-- Read the length field. -/
def unpackLength
    (header : MacMultiplexingHeader)
    (octets : List UInt8)
    (offset : Nat) :
    Checked MacMultiplexingHeader := do
  dectnrpAssert (header.length = undefinedNumeric32) "length not zero"
  match header.macExt with
  | .noLengthField =>
      pure { header with length := undefinedNumeric32 }
  | .lengthField8Bit =>
      let octet1 ← loadOctet octets (offset + 1)
      pure { header with length := octet1.toUInt32 }
  | .lengthField16Bit =>
      let length ← b2lLower octets (offset + 1) 2
      pure { header with length := UInt32.ofNat length }
  | .lengthField1Bit =>
      let octet0 ← loadOctet octets offset
      pure { header with length := extract octet0 5 0b1 }
  | _ => .error (.assertion "mac_ext not valid")

/-- The header that a first octet announces. -/
def announced (octet0 : UInt8) : MacMultiplexingHeader :=
  zero.setMacExtIeType octet0

/-- The length that the octets of a header stand for. -/
def lengthAt
    (macExt : MacExt)
    (memory : Memory)
    (offset : Nat) :
    UInt32 :=
  match macExt with
  | .lengthField8Bit => (memory (offset + 1)).toUInt32
  | .lengthField16Bit =>
      UInt32.ofNat (fromBigEndian (memory.window (offset + 1) 2))
  | .lengthField1Bit => extract (memory offset) 5 0b1
  | _ => undefinedNumeric32

/-- The first part of a header is made of one octet. -/
theorem unpackMacExtIeType_window
    {memory : Memory}
    {limit offset : Nat}
    (inside : offset < limit) :
    zero.unpackMacExtIeType (memory.window 0 limit) offset =
      .ok ((announced (memory offset)).tinfo.isSome,
        announced (memory offset)) := by
  simp only [unpackMacExtIeType, Memory.loadOctet_window inside,
    Checked.ok_bind, Checked.pure_eq_ok, announced]
  rfl

/-- Two bits name one of the four layouts. -/
theorem macExt_announced (octet0 : UInt8) :
    (announced octet0).macExt = .noLengthField ∨
      (announced octet0).macExt = .lengthField8Bit ∨
      (announced octet0).macExt = .lengthField16Bit ∨
      (announced octet0).macExt = .lengthField1Bit := by
  revert octet0
  exact BitFields.forall_octet (by decide +kernel)

/-- The size of a header is known behind its first octet. -/
theorem getPackedSize_announced (octet0 : UInt8) :
    (announced octet0).getPackedSize =
      .ok (packedSize (announced octet0).macExt) := by
  have defined :
      CodedEnumeration.isValid (announced octet0).macExt = true := by
    rcases macExt_announced octet0 with
      isExt | isExt | isExt | isExt <;>
      rw [isExt] <;> rfl
  simp [getPackedSize, defined]

/-- The length is still open behind the first octet. -/
theorem length_announced (octet0 : UInt8) :
    (announced octet0).length = undefinedNumeric32 := by
  revert octet0
  exact BitFields.forall_octet (by decide +kernel)

/-- The layouts under which a kind of element is recognised. -/
def layouts : MmieType → List MacExt
  | .paddingIe =>
      [.noLengthField, .lengthField8Bit, .lengthField1Bit]
  | .userPlaneData => [.lengthField8Bit, .lengthField16Bit]
  | .clusterBeaconMessage => [.noLengthField]
  | .powerTargetIe => [.noLengthField]
  | .timeAnnounceIe => [.noLengthField]

/-- A recognised element has one of the layouts of its kind. -/
theorem macExt_of_tinfo
    {octet0 : UInt8}
    {type : MmieType}
    (recognised : (announced octet0).tinfo = some type) :
    (announced octet0).macExt ∈ layouts type := by
  have everyOctet : ∀ octet : UInt8, ∀ kind ∈ (announced octet).tinfo,
        (announced octet).macExt ∈ layouts kind :=
    BitFields.forall_octet (by decide +kernel)
  exact everyOctet octet0 type recognised

variable {header : MacMultiplexingHeader}

/-- The length field is read from the octets of the header. -/
theorem unpackLength_window
    (open_ : header.length = undefinedNumeric32)
    (layout :
      header.macExt = .noLengthField ∨
        header.macExt = .lengthField8Bit ∨
        header.macExt = .lengthField16Bit ∨
        header.macExt = .lengthField1Bit)
    {memory : Memory}
    {limit offset : Nat}
    (inside : offset + packedSize header.macExt ≤ limit) :
    header.unpackLength (memory.window 0 limit) offset =
      .ok { header with length := lengthAt header.macExt memory offset } := by
  rcases layout with isExt | isExt | isExt | isExt
  all_goals
    rw [isExt] at inside
    simp only [packedSize, packedSizeMinToPeek] at inside
  · simp [unpackLength, open_, isExt, lengthAt]
  · have read : offset + 1 < limit := by omega
    simp [unpackLength, open_, isExt, lengthAt, Memory.loadOctet_window read]
  · have read : offset + 1 + 2 ≤ limit := by omega
    simp [unpackLength, open_, isExt, lengthAt, Memory.b2lLower_window read]
  · have read : offset < limit := by omega
    simp [unpackLength, open_, isExt, lengthAt, Memory.loadOctet_window read]

/-- The first octet of a header without length bit. -/
def firstOctet (header : MacMultiplexingHeader) : UInt8 :=
  (toUnderlying header.macExt <<< 6).toUInt8 |||
    header.ieType.toUInt8

/-- The octets of a header. -/
def code (header : MacMultiplexingHeader) : List UInt8 :=
  match header.macExt with
  | .lengthField1Bit =>
      [(toUnderlying header.macExt <<< 6).toUInt8 |||
          (header.length <<< 5).toUInt8 ||| header.ieType.toUInt8]
  | .noLengthField => [header.firstOctet]
  | .lengthField8Bit =>
      [header.firstOctet, (header.length &&& 255).toUInt8]
  | _ => header.firstOctet :: toBigEndian header.length.toNat 2

/-- A valid header has one of the four layouts. -/
theorem macExt_of_isValid (valid : header.isValid = true) :
    header.macExt = .noLengthField ∨
      header.macExt = .lengthField8Bit ∨
      header.macExt = .lengthField16Bit ∨
      header.macExt = .lengthField1Bit := by
  cases extCase : header.macExt with
  | notDefined => simp [isValid, extCase] at valid
  | upper => simp [isValid, extCase] at valid
  | _ => simp

/-- The size of a valid header is known. -/
theorem getPackedSize_valid (valid : header.isValid = true) :
    header.getPackedSize = .ok (packedSize header.macExt) := by
  have defined : CodedEnumeration.isValid header.macExt = true := by
    rcases macExt_of_isValid valid with
      isExt | isExt | isExt | isExt <;>
      rw [isExt] <;> rfl
  simp [getPackedSize, defined]

/-- A valid header has as many octets as its packed size says. -/
theorem code_length (valid : header.isValid = true) :
    header.code.length = packedSize header.macExt := by
  rcases macExt_of_isValid valid with isExt | isExt | isExt | isExt <;>
    simp [code, isExt, packedSize, packedSizeMinToPeek]

/-- Packing writes the octets of a valid header. -/
theorem pack_valid
    (valid : header.isValid = true)
    (offset : Nat)
    (memory : Memory) :
    header.pack offset memory = .ok (memory.write offset header.code) := by
  simp only [pack, valid, dectnrpAssert_true, Checked.ok_bind,
    Memory.assign_eq_write offset]
  rcases macExt_of_isValid valid with isExt | isExt | isExt | isExt
  · simp only [isExt, Memory.assignOr_front, Checked.pure_eq_ok, code,
      firstOctet]
  · simp only [isExt, Memory.assignOr_front, Checked.pure_eq_ok, code,
      firstOctet]
    rw [Memory.assign_behind offset (by rfl)]
    rfl
  · simp only [isExt, Memory.assignOr_front, Checked.pure_eq_ok, code,
      firstOctet]
    rw [Memory.l2bLower_behind offset (by rfl)]
    rfl
  · simp only [isExt, Memory.assignOr_front, Checked.pure_eq_ok, code]

end MacMultiplexingHeader

end DectNrp
