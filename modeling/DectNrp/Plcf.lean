import DectNrp.FeedbackInfo

namespace DectNrp

/-!
# Physical layer control field

The physical layer control field of a packet comes in three implemented kinds.
Type 1 has five octets and one header format, type 2 has ten octets and two
header formats.  All kinds share the first octet, and both header formats of
type 2 end with feedback info.
-/

open BitFields (extract)

namespace Identity

/-- A short network ID is nonzero and has eight bits. -/
def isValidShortNetworkID (shortNetworkID : UInt32) : Bool :=
  if shortNetworkID = 0 then false
  else if 255 < shortNetworkID then false
  else true

/-- A long radio device ID is nonzero. -/
def isValidLongRadioDeviceID (longRadioDeviceID : UInt32) : Bool :=
  if longRadioDeviceID = 0 then false
  else true

/-- A short radio device ID is nonzero and has sixteen bits. -/
def isValidShortRadioDeviceID (shortRadioDeviceID : UInt32) : Bool :=
  if shortRadioDeviceID = 0 then false
  else if 65535 < shortRadioDeviceID then false
  else true

end Identity

/-- Fields that all kinds of the control field share. -/
structure PlcfBase where
  headerFormat : UInt32
  packetLengthType : UInt32
  packetLengthM1 : UInt32
  transmitPower : UInt32
  dfmcs : UInt32
  deriving Repr, DecidableEq

/-- Type 1 with header format 0. -/
structure Plcf10 extends PlcfBase where
  shortNetworkID : UInt32
  transmitterIdentity : UInt32
  reserved : UInt32
  deriving Repr, DecidableEq

/-- Type 2 with header format 0. -/
structure Plcf20 extends PlcfBase where
  shortNetworkID : UInt32
  transmitterIdentity : UInt32
  receiverIdentity : UInt32
  numberOfSpatialStreams : UInt32
  dfRedundancyVersion : UInt32
  dfNewDataIndication : UInt32
  dfHARQProcessNumber : UInt32
  feedbackFormat : UInt32
  feedbackInfoPool : FeedbackInfo.Pool
  deriving Repr, DecidableEq

/-- Type 2 with header format 1. -/
structure Plcf21 extends PlcfBase where
  shortNetworkID : UInt32
  transmitterIdentity : UInt32
  receiverIdentity : UInt32
  numberOfSpatialStreams : UInt32
  reserved : UInt32
  feedbackFormat : UInt32
  feedbackInfoPool : FeedbackInfo.Pool
  deriving Repr, DecidableEq

namespace PlcfBase

/-- Range check of the first octet. -/
def isValid (base : PlcfBase) : Bool :=
  if 1 < base.headerFormat then false
  else if 1 < base.packetLengthType then false
  else if 15 < base.packetLengthM1 then false
  else true

/-- Set the first octet. -/
def pack
    (base : PlcfBase)
    (front : Nat)
    (memory : Memory) :
    Checked Memory := do
  dectnrpAssert base.isValid "invalid"
  let memory := memory.assign front (base.headerFormat <<< 5)
  let memory := memory.assignOr front (base.packetLengthType <<< 4)
  pure (memory.assignOr front base.packetLengthM1)

/-- Read the first octet and report whether it is valid. -/
def unpack
    (base : PlcfBase)
    (octets : List UInt8) :
    Checked (Bool × PlcfBase) := do
  let octet0 ← loadOctet octets 0
  let base := { base with
    headerFormat := octet0.toUInt32 >>> 5
    packetLengthType := extract octet0 4 0b1
    packetLengthM1 := extract octet0 0 0b1111
  }
  pure (base.isValid, base)

end PlcfBase

namespace Plcf10

/-- Range check of the fields behind the first octet. -/
def isValid (header : Plcf10) : Bool :=
  if header.headerFormat ≠ 0 then false
  else if ¬ Identity.isValidShortNetworkID header.shortNetworkID then
    false
  else if ¬ Identity.isValidShortRadioDeviceID
      header.transmitterIdentity then
    false
  else if 15 < header.transmitPower then false
  else if header.reserved ≠ 0 then false
  else if 7 < header.dfmcs then false
  else true

/-- Write five octets. -/
def pack
    (header : Plcf10)
    (front : Nat)
    (memory : Memory) :
    Checked Memory := do
  let memory ← header.toPlcfBase.pack front memory
  dectnrpAssert header.isValid "invalid"
  let memory := memory.assign (front + 1) header.shortNetworkID
  let memory := memory.l2bLower (front + 2) header.transmitterIdentity.toNat 2
  let memory := memory.assign (front + 4) (header.transmitPower <<< 4)
  let memory := memory.assignOr (front + 4) (header.reserved <<< 3)
  pure (memory.assignOr (front + 4) header.dfmcs)

/-- Read five octets and report whether they are valid. -/
def unpack
    (header : Plcf10)
    (octets : List UInt8) :
    Checked (Bool × Plcf10) := do
  let (baseValid, base) ← header.toPlcfBase.unpack octets
  if ¬ baseValid then
    pure (false, { header with toPlcfBase := base })
  else do
    let octet1 ← loadOctet octets 1
    let transmitterIdentity ← b2lLower octets 2 2
    let octet4 ← loadOctet octets 4
    let header : Plcf10 := {
      toPlcfBase := { base with
        transmitPower := extract octet4 4 0b1111
        dfmcs := extract octet4 0 0b111 }
      shortNetworkID := octet1.toUInt32
      transmitterIdentity := UInt32.ofNat transmitterIdentity
      reserved := extract octet4 3 0b1
    }
    pure (header.isValid, header)

end Plcf10

namespace Plcf20

/-- Range check of the fields behind the first octet. -/
def isValid (header : Plcf20) : Bool :=
  if header.headerFormat ≠ 0 then false
  else if ¬ Identity.isValidShortNetworkID header.shortNetworkID then
    false
  else if ¬ Identity.isValidShortRadioDeviceID
      header.transmitterIdentity then
    false
  else if 15 < header.transmitPower then false
  else if 11 < header.dfmcs then false
  else if ¬ Identity.isValidShortRadioDeviceID
      header.receiverIdentity then
    false
  else if 3 < header.numberOfSpatialStreams then false
  else if 3 < header.dfRedundancyVersion then false
  else if 1 < header.dfNewDataIndication then false
  else if 7 < header.dfHARQProcessNumber then false
  else if 15 < header.feedbackFormat then false
  else true

/-- Write ten octets. -/
def pack
    (header : Plcf20)
    (front : Nat)
    (memory : Memory) :
    Checked Memory := do
  let memory ← header.toPlcfBase.pack front memory
  dectnrpAssert header.isValid "invalid"
  let memory := memory.assign (front + 1) header.shortNetworkID
  let memory := memory.l2bLower (front + 2) header.transmitterIdentity.toNat 2
  let memory := memory.assign (front + 4) (header.transmitPower <<< 4)
  let memory := memory.assignOr (front + 4) header.dfmcs
  let memory := memory.l2bLower (front + 5) header.receiverIdentity.toNat 2
  let memory := memory.assign (front + 7) (header.numberOfSpatialStreams <<< 6)
  let memory := memory.assignOr (front + 7) (header.dfRedundancyVersion <<< 4)
  let memory := memory.assignOr (front + 7) (header.dfNewDataIndication <<< 3)
  let memory := memory.assignOr (front + 7) header.dfHARQProcessNumber
  let memory := memory.assign (front + 8) (header.feedbackFormat <<< 4)
  header.feedbackInfoPool.pack header.feedbackFormat (front + 8) memory

/-- Read ten octets and report whether they are valid. -/
def unpack
    (header : Plcf20)
    (octets : List UInt8) :
    Checked (Bool × Plcf20) := do
  let (baseValid, base) ← header.toPlcfBase.unpack octets
  if ¬ baseValid then
    pure (false, { header with toPlcfBase := base })
  else do
    let octet1 ← loadOctet octets 1
    let transmitterIdentity ← b2lLower octets 2 2
    let octet4 ← loadOctet octets 4
    let receiverIdentity ← b2lLower octets 5 2
    let octet7 ← loadOctet octets 7
    let octet8 ← loadOctet octets 8
    let feedbackFormat := extract octet8 4 0b1111
    let (feedbackValid, feedbackInfoPool) ←
      header.feedbackInfoPool.unpack feedbackFormat octets 8
    let header : Plcf20 := {
      toPlcfBase := { base with
        transmitPower := extract octet4 4 0b1111
        dfmcs := extract octet4 0 0b1111 }
      shortNetworkID := octet1.toUInt32
      transmitterIdentity := UInt32.ofNat transmitterIdentity
      receiverIdentity := UInt32.ofNat receiverIdentity
      numberOfSpatialStreams := extract octet7 6 0b11
      dfRedundancyVersion := extract octet7 4 0b11
      dfNewDataIndication := extract octet7 3 0b1
      dfHARQProcessNumber := extract octet7 0 0b111
      feedbackFormat := feedbackFormat
      feedbackInfoPool := feedbackInfoPool
    }
    if ¬ feedbackValid then
      pure (false, header)
    else
      pure (header.isValid, header)

end Plcf20

namespace Plcf21

/-- Range check of the fields behind the first octet. -/
def isValid (header : Plcf21) : Bool :=
  if header.headerFormat ≠ 1 then false
  else if ¬ Identity.isValidShortNetworkID header.shortNetworkID then
    false
  else if ¬ Identity.isValidShortRadioDeviceID
      header.transmitterIdentity then
    false
  else if 15 < header.transmitPower then false
  else if 11 < header.dfmcs then false
  else if ¬ Identity.isValidShortRadioDeviceID
      header.receiverIdentity then
    false
  else if 3 < header.numberOfSpatialStreams then false
  else if header.reserved ≠ 0 then false
  else if 15 < header.feedbackFormat then false
  else true

/-- Write ten octets. -/
def pack
    (header : Plcf21)
    (front : Nat)
    (memory : Memory) :
    Checked Memory := do
  let memory ← header.toPlcfBase.pack front memory
  dectnrpAssert header.isValid "invalid"
  let memory := memory.assign (front + 1) header.shortNetworkID
  let memory := memory.l2bLower (front + 2) header.transmitterIdentity.toNat 2
  let memory := memory.assign (front + 4) (header.transmitPower <<< 4)
  let memory := memory.assignOr (front + 4) header.dfmcs
  let memory := memory.l2bLower (front + 5) header.receiverIdentity.toNat 2
  let memory := memory.assign (front + 7) (header.numberOfSpatialStreams <<< 6)
  let memory := memory.assignOr (front + 7) header.reserved
  let memory := memory.assign (front + 8) (header.feedbackFormat <<< 4)
  header.feedbackInfoPool.pack header.feedbackFormat (front + 8) memory

/-- Read ten octets and report whether they are valid. -/
def unpack
    (header : Plcf21)
    (octets : List UInt8) :
    Checked (Bool × Plcf21) := do
  let (baseValid, base) ← header.toPlcfBase.unpack octets
  if ¬ baseValid then
    pure (false, { header with toPlcfBase := base })
  else do
    let octet1 ← loadOctet octets 1
    let transmitterIdentity ← b2lLower octets 2 2
    let octet4 ← loadOctet octets 4
    let receiverIdentity ← b2lLower octets 5 2
    let octet7 ← loadOctet octets 7
    let octet8 ← loadOctet octets 8
    let feedbackFormat := extract octet8 4 0b1111
    let (feedbackValid, feedbackInfoPool) ←
      header.feedbackInfoPool.unpack feedbackFormat octets 8
    let header : Plcf21 := {
      toPlcfBase := { base with
        transmitPower := extract octet4 4 0b1111
        dfmcs := extract octet4 0 0b1111 }
      shortNetworkID := octet1.toUInt32
      transmitterIdentity := UInt32.ofNat transmitterIdentity
      receiverIdentity := UInt32.ofNat receiverIdentity
      numberOfSpatialStreams := extract octet7 6 0b11
      reserved := extract octet7 0 0b111111
      feedbackFormat := feedbackFormat
      feedbackInfoPool := feedbackInfoPool
    }
    if ¬ feedbackValid then
      pure (false, header)
    else
      pure (header.isValid, header)

end Plcf21

/-- The kinds of the control field that are implemented. -/
inductive PlcfKind where
  | plcf10
  | plcf20
  | plcf21
  deriving Repr, DecidableEq

namespace PlcfKind

/-- Object of a kind. -/
abbrev Header : PlcfKind → Type
  | .plcf10 => Plcf10
  | .plcf20 => Plcf20
  | .plcf21 => Plcf21

/-- Number of octets of a kind. -/
def getPackedSize : PlcfKind → Nat
  | .plcf10 => 5
  | .plcf20 => 10
  | .plcf21 => 10

/-- Shared fields of an object. -/
def base : (kind : PlcfKind) → kind.Header → PlcfBase
  | .plcf10, header => header.toPlcfBase
  | .plcf20, header => header.toPlcfBase
  | .plcf21, header => header.toPlcfBase

/-- Dispatch `is_valid` to the class of the object. -/
def isValid : (kind : PlcfKind) → kind.Header → Bool
  | .plcf10, header => header.isValid
  | .plcf20, header => header.isValid
  | .plcf21, header => header.isValid

/-- Dispatch `pack` to the class of the object. -/
def pack :
    (kind : PlcfKind) → kind.Header → Nat → Memory → Checked Memory
  | .plcf10, header => header.pack
  | .plcf20, header => header.pack
  | .plcf21, header => header.pack

/-- Dispatch `unpack` to the class of the object. -/
def unpack :
    (kind : PlcfKind) →
      kind.Header → List UInt8 → Checked (Bool × kind.Header)
  | .plcf10, header => header.unpack
  | .plcf20, header => header.unpack
  | .plcf21, header => header.unpack

/-- Feedback format and feedback objects, which type 1 does not have. -/
def feedback :
    (kind : PlcfKind) →
      kind.Header → Option (UInt32 × FeedbackInfo.Pool)
  | .plcf10, _ => none
  | .plcf20, header =>
      some (header.feedbackFormat, header.feedbackInfoPool)
  | .plcf21, header =>
      some (header.feedbackFormat, header.feedbackInfoPool)

end PlcfKind

end DectNrp
