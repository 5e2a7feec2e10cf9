import DectNrp.BitFields
import DectNrp.CodedEnumeration
import DectNrp.Plcf

namespace DectNrp

/-!
# MAC header type and MAC common header

Every MAC PDU starts with one octet that names its version, its security mode
and the kind of the common header behind it.  The common header has one of
five layouts, three of which start with the same two octets.

Unpacking overwrites every field: what it leaves behind depends on the octets
read and on nothing else.
-/

open BitFields (extract)
open Checked (ok_bind pure_eq_ok)

/-- Version of the MAC PDU format. -/
inductive MacVersion where
  | notDefined
  | v00
  deriving Repr, DecidableEq

/-- Use of MAC security. -/
inductive MacSecurity where
  | notDefined
  | macsecNotUsed
  | macsecUsedNoIe
  | macsecUsedWithIe
  | reserved
  deriving Repr, DecidableEq

/-- Kind of the MAC common header. -/
inductive MacHeaderTypeEc where
  | notDefined
  | dataMacPdu
  | beacon
  | unicast
  | rdBroadcasting
  | mchEmpty
  | escape
  deriving Repr, DecidableEq

/-- First octet of a MAC PDU. -/
structure MacHeaderType where
  version : MacVersion
  macSecurity : MacSecurity
  macHeaderType : MacHeaderTypeEc
  deriving Repr, DecidableEq

namespace MacVersion

def toUnderlying : MacVersion → UInt32
  | notDefined => undefinedNumeric32
  | v00 => 0

def getVersionEc (value : UInt32) : MacVersion :=
  if value = 0 then v00 else notDefined

end MacVersion

namespace MacSecurity

def toUnderlying : MacSecurity → UInt32
  | notDefined => undefinedNumeric32
  | macsecNotUsed => 0
  | macsecUsedNoIe => 1
  | macsecUsedWithIe => 2
  | reserved => 3

def getMacSecurityEc (value : UInt32) : MacSecurity :=
  if value = 0 then macsecNotUsed
  else if value = 1 then macsecUsedNoIe
  else if value = 2 then macsecUsedWithIe
  else if value = 3 then reserved
  else notDefined

end MacSecurity

namespace MacHeaderTypeEc

def toUnderlying : MacHeaderTypeEc → UInt32
  | notDefined => undefinedNumeric32
  | dataMacPdu => 0
  | beacon => 1
  | unicast => 2
  | rdBroadcasting => 3
  | mchEmpty => 4
  | escape => 15

/-- The escape code is not accepted. -/
def getMacHeaderTypeEc (value : UInt32) : MacHeaderTypeEc :=
  if value = 0 then dataMacPdu
  else if value = 1 then beacon
  else if value = 2 then unicast
  else if value = 3 then rdBroadcasting
  else if value = 4 then mchEmpty
  else notDefined

end MacHeaderTypeEc

namespace MacHeaderType

def zero : MacHeaderType where
  version := .notDefined
  macSecurity := .notDefined
  macHeaderType := .notDefined

def isValid (header : MacHeaderType) : Bool :=
  if header.version = .notDefined then false
  else if header.macSecurity = .notDefined then false
  else if header.macHeaderType = .notDefined then false
  else true

def getPackedSize (_header : MacHeaderType) : Nat := 1

/-- Write one octet. -/
def pack
    (header : MacHeaderType)
    (front : Nat)
    (memory : Memory) :
    Checked Memory := do
  dectnrpAssert header.isValid "invalid"
  let memory := memory.assign front (header.version.toUnderlying <<< 6)
  let memory := memory.assignOr front (header.macSecurity.toUnderlying <<< 4)
  pure (memory.assignOr front header.macHeaderType.toUnderlying)

/-- Read one octet and report whether it is valid. -/
def unpack
    (header : MacHeaderType)
    (octets : List UInt8)
    (front : Nat) :
    Checked (Bool × MacHeaderType) := do
  let octet0 ← loadOctet octets front
  let header := { header with
    version :=
      MacVersion.getVersionEc (extract octet0 6 0b11)
    macSecurity :=
      MacSecurity.getMacSecurityEc (extract octet0 4 0b11)
    macHeaderType :=
      MacHeaderTypeEc.getMacHeaderTypeEc
        (extract octet0 0 0b1111)
  }
  pure (header.isValid, header)

/-- The header type an octet stands for. -/
def decoded (octet0 : UInt8) : MacHeaderType where
  version := MacVersion.getVersionEc (extract octet0 6 0b11)
  macSecurity :=
    MacSecurity.getMacSecurityEc (extract octet0 4 0b11)
  macHeaderType :=
    MacHeaderTypeEc.getMacHeaderTypeEc
      (extract octet0 0 0b1111)

/-- The octet of a header type. -/
def code (header : MacHeaderType) : UInt8 :=
  (header.version.toUnderlying <<< 6).toUInt8 |||
    (header.macSecurity.toUnderlying <<< 4).toUInt8 |||
    header.macHeaderType.toUnderlying.toUInt8

/-- Unpacking reads one octet and forgets what was there before. -/
theorem unpack_window
    (header : MacHeaderType)
    {memory : Memory}
    {limit front : Nat}
    (inside : front < limit) :
    header.unpack (memory.window 0 limit) front =
      .ok ((decoded (memory front)).isValid, decoded (memory front)) := by
  simp only [unpack, Memory.loadOctet_window inside, ok_bind,
    pure_eq_ok, decoded]

variable {header : MacHeaderType}

/-- Packing writes the code of a valid header type. -/
theorem pack_valid
    (valid : header.isValid = true)
    (front : Nat)
    (memory : Memory) :
    header.pack front memory = .ok (memory.write front [header.code]) := by
  simp only [pack, valid, dectnrpAssert_true, ok_bind,
    pure_eq_ok, Memory.assign_eq_write, Memory.assignOr_front,
    code]

/-- Every implemented header type is recovered from its code. -/
theorem decoded_code
    (valid : header.isValid = true)
    (implemented : header.macHeaderType ≠ .escape) :
    decoded header.code = header := by
  obtain ⟨version, macSecurity, macHeaderType⟩ := header
  cases version with
  | notDefined => cases valid
  | v00 =>
      cases macSecurity with
      | notDefined => cases valid
      | _ =>
          cases macHeaderType with
          | notDefined => cases valid
          | escape => exact absurd rfl implemented
          | _ => decide

end MacHeaderType

/-- The fields that three kinds of the common header start with. -/
structure SequenceFields where
  reserved : UInt32
  reset : UInt32
  sequenceNumber : UInt32
  deriving Repr, DecidableEq

namespace SequenceFields

def zero : SequenceFields where
  reserved := 0
  reset := 0
  sequenceNumber := 0

def isValid (header : SequenceFields) : Bool :=
  if header.reserved ≠ 0 then false
  else if 1 < header.reset then false
  else if 4095 < header.sequenceNumber then false
  else true

/-- Write two octets. -/
def pack
    (header : SequenceFields)
    (front : Nat)
    (memory : Memory) :
    Memory :=
  let memory := memory.assign front (header.reserved <<< 5)
  let memory := memory.assignOr front (header.reset <<< 4)
  let memory := memory.assignOr front (header.sequenceNumber >>> 8)
  memory.assign (front + 1) (header.sequenceNumber &&& 255)

/-- Read two octets. -/
def unpack
    (header : SequenceFields)
    (octets : List UInt8)
    (front : Nat) :
    Checked SequenceFields := do
  let octet0 ← loadOctet octets front
  let octet1 ← loadOctet octets (front + 1)
  pure { header with
    reserved := extract octet0 5 0b111
    reset := extract octet0 4 0b1
    sequenceNumber :=
      (extract octet0 0 0b1111 <<< 8) + octet1.toUInt32
  }

/-- The fields two octets stand for. -/
def decoded (octet0 octet1 : UInt8) : SequenceFields where
  reserved := extract octet0 5 0b111
  reset := extract octet0 4 0b1
  sequenceNumber :=
    (extract octet0 0 0b1111 <<< 8) + octet1.toUInt32

/-- The two octets of the fields. -/
def code (header : SequenceFields) : List UInt8 :=
  [(header.reserved <<< 5).toUInt8 |||
      (header.reset <<< 4).toUInt8 |||
      (header.sequenceNumber >>> 8).toUInt8,
    (header.sequenceNumber &&& 255).toUInt8]

/-- Packing writes the code. -/
theorem pack_eq
    (header : SequenceFields)
    (front : Nat)
    (memory : Memory) :
    header.pack front memory = memory.write front header.code := by
  simp only [pack, Memory.assign_eq_write, Memory.assignOr_front]
  rw [← Memory.assign_eq_write, Memory.assign_behind front (by simp)]
  rfl

/-- Unpacking reads two octets and forgets what was there before. -/
theorem unpack_window
    (header : SequenceFields)
    {memory : Memory}
    {limit front : Nat}
    (inside : front + 2 ≤ limit) :
    header.unpack (memory.window 0 limit) front =
      .ok (decoded (memory front) (memory (front + 1))) := by
  have first : front < limit := by omega
  have second : front + 1 < limit := by omega
  simp only [unpack, Memory.loadOctet_window first,
    Memory.loadOctet_window second, ok_bind,
    pure_eq_ok, decoded]

/-- Valid fields are recovered from their code. -/
theorem decoded_code
    {header : SequenceFields}
    (valid : header.isValid = true)
    {octet0 octet1 : UInt8}
    (isCode : header.code = [octet0, octet1]) :
    decoded octet0 octet1 = header := by
  obtain ⟨reserved, reset, sequenceNumber⟩ := header
  have fields :
      reserved = 0 ∧ reset.toNat ≤ 1 ∧ sequenceNumber.toNat ≤ 4095 := by
    simp only [isValid] at valid
    split at valid
    · cases valid
    · rename_i noReserved
      split at valid
      · cases valid
      · rename_i resetBound
        split at valid
        · cases valid
        · rename_i sequenceBound
          refine ⟨by simpa using noReserved, ?_, ?_⟩
          · simpa [UInt32.lt_iff_toNat_lt] using resetBound
          · simpa [UInt32.lt_iff_toNat_lt] using sequenceBound
  obtain ⟨rfl, resetBound, sequenceBound⟩ := fields
  simp only [code, List.cons.injEq, and_true] at isCode
  obtain ⟨isOctet0, isOctet1⟩ := isCode
  have upperValue :
      (sequenceNumber >>> 8).toNat = sequenceNumber.toNat / 256 := by
    simp [UInt32.toNat_shiftRight, Nat.shiftRight_eq_div_pow]
  have lowerValue :
      (sequenceNumber &&& 255).toNat = sequenceNumber.toNat % 256 := by
    rw [UInt32.toNat_and]
    exact BitFields.and_eq_mod 8 (by rfl) _
  have octet0Value :
      octet0.toNat = reset.toNat * 16 + sequenceNumber.toNat / 256 := by
    have two :=
      @BitFields.toNat_two reset (sequenceNumber >>> 8) 4 (by decide)
        (by simp; omega) (by rw [upperValue]; simp; omega)
    rw [← isOctet0]
    simpa [upperValue] using two
  have octet1Value : octet1.toNat = sequenceNumber.toNat % 256 := by
    rw [← isOctet1, BitFields.toNat_unshifted (by omega), lowerValue]
  have octet0Bound := octet0.toNat_lt
  simp only [decoded, SequenceFields.mk.injEq]
  refine ⟨?_, ?_, ?_⟩
  · apply UInt32.toNat_inj.mp
    rw [BitFields.toNat_extract_3 _ (by decide)]
    simp
    omega
  · apply UInt32.toNat_inj.mp
    rw [BitFields.toNat_extract_1 _ (by decide)]
    simp
    omega
  · apply UInt32.toNat_inj.mp
    rw [UInt32.toNat_add, UInt32.toNat_shiftLeft,
      BitFields.toNat_extract_4 _ (by decide), UInt8.toNat_toUInt32,
      Nat.shiftLeft_eq]
    simp
    omega

end SequenceFields

/-- Common header of a data MAC PDU. -/
structure DataMacPduHeader extends SequenceFields
  deriving Repr, DecidableEq

/-- Common header of a beacon. -/
structure BeaconHeader where
  networkID3Lsb : UInt32
  transmitterAddress : UInt32
  deriving Repr, DecidableEq

/-- Common header of a unicast MAC PDU. -/
structure UnicastHeader extends SequenceFields where
  receiverAddress : UInt32
  transmitterAddress : UInt32
  deriving Repr, DecidableEq

/-- Common header of a MAC PDU to every radio device. -/
structure RdBroadcastingHeader extends SequenceFields where
  transmitterAddress : UInt32
  deriving Repr, DecidableEq

/-- The alternatives of the common header. -/
inductive MacCommonHeader where
  | dataMacPdu (header : DataMacPduHeader)
  | beacon (header : BeaconHeader)
  | unicast (header : UnicastHeader)
  | rdBroadcasting (header : RdBroadcastingHeader)
  | mchEmpty
  deriving Repr, DecidableEq

namespace DataMacPduHeader

def isValid (header : DataMacPduHeader) : Bool :=
  header.toSequenceFields.isValid

def pack
    (header : DataMacPduHeader)
    (front : Nat)
    (memory : Memory) :
    Checked Memory := do
  dectnrpAssert header.isValid "invalid"
  pure (header.toSequenceFields.pack front memory)

def unpack
    (header : DataMacPduHeader)
    (octets : List UInt8)
    (front : Nat) :
    Checked (Bool × DataMacPduHeader) := do
  let fields ← header.toSequenceFields.unpack octets front
  let header : DataMacPduHeader := { header with toSequenceFields := fields }
  pure (header.isValid, header)

end DataMacPduHeader

namespace BeaconHeader

def isValid (header : BeaconHeader) : Bool :=
  if 0xFFFFFF < header.networkID3Lsb then false
  else if ¬ Identity.isValidLongRadioDeviceID
      header.transmitterAddress then
    false
  else true

def pack
    (header : BeaconHeader)
    (front : Nat)
    (memory : Memory) :
    Checked Memory := do
  dectnrpAssert header.isValid "invalid"
  let memory := memory.l2bUpper front header.networkID3Lsb.toNat 3
  pure (memory.l2bLower (front + 3) header.transmitterAddress.toNat 4)

def unpack
    (header : BeaconHeader)
    (octets : List UInt8)
    (front : Nat) :
    Checked (Bool × BeaconHeader) := do
  let networkID3Lsb ← b2lUpper octets front 3
  let transmitterAddress ← b2lLower octets (front + 3) 4
  let header := { header with
    networkID3Lsb := UInt32.ofNat networkID3Lsb
    transmitterAddress := UInt32.ofNat transmitterAddress
  }
  pure (header.isValid, header)

end BeaconHeader

namespace UnicastHeader

def isValid (header : UnicastHeader) : Bool :=
  if ¬ header.toSequenceFields.isValid then false
  else if ¬ Identity.isValidLongRadioDeviceID
      header.transmitterAddress then
    false
  else if ¬ Identity.isValidLongRadioDeviceID
      header.receiverAddress then
    false
  else true

def pack
    (header : UnicastHeader)
    (front : Nat)
    (memory : Memory) :
    Checked Memory := do
  dectnrpAssert header.isValid "invalid"
  let memory := header.toSequenceFields.pack front memory
  let memory := memory.l2bLower (front + 2) header.receiverAddress.toNat 4
  pure (memory.l2bLower (front + 6) header.transmitterAddress.toNat 4)

def unpack
    (header : UnicastHeader)
    (octets : List UInt8)
    (front : Nat) :
    Checked (Bool × UnicastHeader) := do
  let fields ← header.toSequenceFields.unpack octets front
  let receiverAddress ← b2lLower octets (front + 2) 4
  let transmitterAddress ← b2lLower octets (front + 6) 4
  let header := { header with
    toSequenceFields := fields
    receiverAddress := UInt32.ofNat receiverAddress
    transmitterAddress := UInt32.ofNat transmitterAddress
  }
  pure (header.isValid, header)

end UnicastHeader

namespace RdBroadcastingHeader

def isValid (header : RdBroadcastingHeader) : Bool :=
  if ¬ header.toSequenceFields.isValid then false
  else if ¬ Identity.isValidLongRadioDeviceID
      header.transmitterAddress then
    false
  else true

def pack
    (header : RdBroadcastingHeader)
    (front : Nat)
    (memory : Memory) :
    Checked Memory := do
  dectnrpAssert header.isValid "invalid"
  let memory := header.toSequenceFields.pack front memory
  pure (memory.l2bLower (front + 2) header.transmitterAddress.toNat 4)

def unpack
    (header : RdBroadcastingHeader)
    (octets : List UInt8)
    (front : Nat) :
    Checked (Bool × RdBroadcastingHeader) := do
  let fields ← header.toSequenceFields.unpack octets front
  let transmitterAddress ← b2lLower octets (front + 2) 4
  let header := { header with
    toSequenceFields := fields
    transmitterAddress := UInt32.ofNat transmitterAddress
  }
  pure (header.isValid, header)

end RdBroadcastingHeader

namespace MacCommonHeader

/-- The kind of a common header. -/
def kind : MacCommonHeader → MacHeaderTypeEc
  | dataMacPdu _ => .dataMacPdu
  | beacon _ => .beacon
  | unicast _ => .unicast
  | rdBroadcasting _ => .rdBroadcasting
  | mchEmpty => .mchEmpty

/-- The value-initialised common header of a kind. -/
def emplace : MacHeaderTypeEc → Checked MacCommonHeader
  | .dataMacPdu => .ok (dataMacPdu ⟨.zero⟩)
  | .beacon => .ok (beacon ⟨0, 0⟩)
  | .unicast => .ok (unicast ⟨.zero, 0, 0⟩)
  | .rdBroadcasting => .ok (rdBroadcasting ⟨.zero, 0⟩)
  | .mchEmpty => .ok mchEmpty
  | _ => .error (.assertion "MAC header type decoded to undefined")

def isValid : MacCommonHeader → Bool
  | dataMacPdu header => header.isValid
  | beacon header => header.isValid
  | unicast header => header.isValid
  | rdBroadcasting header => header.isValid
  | mchEmpty => true

def getPackedSize : MacCommonHeader → Nat
  | dataMacPdu _ => 2
  | beacon _ => 7
  | unicast _ => 10
  | rdBroadcasting _ => 6
  | mchEmpty => 0

def pack
    (header : MacCommonHeader)
    (front : Nat)
    (memory : Memory) :
    Checked Memory :=
  match header with
  | dataMacPdu header => header.pack front memory
  | beacon header => header.pack front memory
  | unicast header => header.pack front memory
  | rdBroadcasting header => header.pack front memory
  | mchEmpty => .ok memory

def unpack
    (header : MacCommonHeader)
    (octets : List UInt8)
    (front : Nat) :
    Checked (Bool × MacCommonHeader) :=
  match header with
  | dataMacPdu header => do
      let (valid, header) ← header.unpack octets front
      pure (valid, dataMacPdu header)
  | beacon header => do
      let (valid, header) ← header.unpack octets front
      pure (valid, beacon header)
  | unicast header => do
      let (valid, header) ← header.unpack octets front
      pure (valid, unicast header)
  | rdBroadcasting header => do
      let (valid, header) ← header.unpack octets front
      pure (valid, rdBroadcasting header)
  | mchEmpty => .ok (true, mchEmpty)

/-- The word that four octets stand for. -/
private def word
    (memory : Memory)
    (address : Nat) :
    UInt32 :=
  UInt32.ofNat (fromBigEndian (memory.window address 4))

/-- The common header that the octets at an address stand for. -/
def decoded
    (header : MacCommonHeader)
    (memory : Memory)
    (front : Nat) :
    MacCommonHeader :=
  let fields := SequenceFields.decoded (memory front) (memory (front + 1))
  match header with
  | dataMacPdu _ => dataMacPdu ⟨fields⟩
  | beacon _ =>
      beacon
        ⟨UInt32.ofNat
            (fromBigEndian (memory.window front 3) * 256 ^ (4 - 3)),
          word memory (front + 3)⟩
  | unicast _ =>
      unicast ⟨fields, word memory (front + 2), word memory (front + 6)⟩
  | rdBroadcasting _ =>
      rdBroadcasting ⟨fields, word memory (front + 2)⟩
  | mchEmpty => mchEmpty

/-- The octets of a common header. -/
def code : MacCommonHeader → List UInt8
  | dataMacPdu header => header.toSequenceFields.code
  | beacon header =>
      toBigEndian (header.networkID3Lsb.toNat / 256 ^ (4 - 3)) 3 ++
        toBigEndian header.transmitterAddress.toNat 4
  | unicast header =>
      header.toSequenceFields.code ++
        toBigEndian header.receiverAddress.toNat 4 ++
        toBigEndian header.transmitterAddress.toNat 4
  | rdBroadcasting header =>
      header.toSequenceFields.code ++
        toBigEndian header.transmitterAddress.toNat 4
  | mchEmpty => []

@[simp] theorem code_length (header : MacCommonHeader) :
    header.code.length = header.getPackedSize := by
  cases header <;> simp [code, getPackedSize, SequenceFields.code]

/-- A header type that was accepted has a common header. -/
theorem emplace_of_valid
    {header : MacHeaderType}
    {octet0 : UInt8}
    (isDecoded : header = MacHeaderType.decoded octet0)
    (valid : header.isValid = true) :
    ∃ commonHeader,
      emplace header.macHeaderType = .ok commonHeader ∧
      commonHeader.kind = header.macHeaderType := by
  have notEscape : header.macHeaderType ≠ .escape := by
    rw [isDecoded]
    simp only [MacHeaderType.decoded, MacHeaderTypeEc.getMacHeaderTypeEc]
    split_ifs <;> simp
  have defined : header.macHeaderType ≠ .notDefined := by
    intro undefined
    simp [MacHeaderType.isValid, undefined] at valid
  cases kindCase : header.macHeaderType with
  | notDefined => exact absurd kindCase defined
  | escape => exact absurd kindCase notEscape
  | _ => exact ⟨_, rfl, rfl⟩

/-- No common header is longer than ten octets. -/
theorem getPackedSize_le (header : MacCommonHeader) :
    header.getPackedSize ≤ 10 := by
  cases header <;> simp [getPackedSize]

variable {memory : Memory}

/--
Unpacking reads as many octets as the packed size says and forgets what was
there before.
-/
theorem unpack_window
    (header : MacCommonHeader)
    {limit front : Nat}
    (inside : front + header.getPackedSize ≤ limit) :
    header.unpack (memory.window 0 limit) front =
      .ok ((header.decoded memory front).isValid,
        header.decoded memory front) := by
  cases header with
  | dataMacPdu header =>
      simp only [getPackedSize] at inside
      simp only [unpack, DataMacPduHeader.unpack,
        SequenceFields.unpack_window _ inside, ok_bind,
        pure_eq_ok]
      rfl
  | beacon header =>
      simp only [getPackedSize] at inside
      have networkRead : front + 3 ≤ limit := by omega
      have transmitterRead : front + 3 + 4 ≤ limit := by omega
      simp only [unpack, BeaconHeader.unpack,
        Memory.b2lUpper_window networkRead,
        Memory.b2lLower_window transmitterRead, ok_bind,
        pure_eq_ok]
      rfl
  | unicast header =>
      simp only [getPackedSize] at inside
      have fieldsRead : front + 2 ≤ limit := by omega
      have receiverRead : front + 2 + 4 ≤ limit := by omega
      have transmitterRead : front + 6 + 4 ≤ limit := by omega
      simp only [unpack, UnicastHeader.unpack,
        SequenceFields.unpack_window _ fieldsRead,
        Memory.b2lLower_window receiverRead,
        Memory.b2lLower_window transmitterRead, ok_bind,
        pure_eq_ok]
      rfl
  | rdBroadcasting header =>
      simp only [getPackedSize] at inside
      have fieldsRead : front + 2 ≤ limit := by omega
      have transmitterRead : front + 2 + 4 ≤ limit := by omega
      simp only [unpack, RdBroadcastingHeader.unpack,
        SequenceFields.unpack_window _ fieldsRead,
        Memory.b2lLower_window transmitterRead, ok_bind,
        pure_eq_ok]
      rfl
  | mchEmpty => rfl

/-- Packing writes the code of a valid common header. -/
theorem pack_valid
    {header : MacCommonHeader}
    (valid : header.isValid = true)
    (front : Nat)
    (memory : Memory) :
    header.pack front memory = .ok (memory.write front header.code) := by
  cases header with
  | dataMacPdu header =>
      simp only [isValid] at valid
      simp only [pack, DataMacPduHeader.pack, valid,
        dectnrpAssert_true, ok_bind, pure_eq_ok,
        SequenceFields.pack_eq, code]
  | beacon header =>
      simp only [isValid] at valid
      simp only [pack, BeaconHeader.pack, valid, dectnrpAssert_true,
        ok_bind, pure_eq_ok, Memory.l2bUpper]
      rw [Memory.l2bLower_behind front (by simp)]
      rfl
  | unicast header =>
      simp only [isValid] at valid
      simp only [pack, UnicastHeader.pack, valid, dectnrpAssert_true,
        ok_bind, pure_eq_ok, SequenceFields.pack_eq]
      rw [Memory.l2bLower_behind front (by rfl),
        Memory.l2bLower_behind front (by simp [SequenceFields.code])]
      rfl
  | rdBroadcasting header =>
      simp only [isValid] at valid
      simp only [pack, RdBroadcastingHeader.pack, valid,
        dectnrpAssert_true, ok_bind, pure_eq_ok,
        SequenceFields.pack_eq]
      rw [Memory.l2bLower_behind front (by rfl)]
      rfl
  | mchEmpty => simp [pack, code]

/-- A word is recovered from its four octets. -/
private theorem word_of_window
    {address : Nat}
    {value : UInt32}
    (holds : memory.window address 4 = toBigEndian value.toNat 4) :
    word memory address = value := by
  have bound := value.toNat_lt
  rw [word, holds, fromBigEndian_toBigEndian]
  apply UInt32.toNat_inj.mp
  rw [UInt32.toNat_ofNat']
  omega

variable {front : Nat}

/-- The sequence fields are recovered from their two octets. -/
private theorem fields_of_window
    {fields : SequenceFields}
    (valid : fields.isValid = true)
    (holds : memory.window front 2 = fields.code) :
    SequenceFields.decoded (memory front) (memory (front + 1)) = fields :=
  SequenceFields.decoded_code valid holds.symm

/-- Every common header but a beacon is recovered from its octets. -/
theorem decoded_code
    {header initial : MacCommonHeader}
    (valid : header.isValid = true)
    (notBeacon : header.kind ≠ .beacon)
    (sameKind : initial.kind = header.kind)
    (holds : memory.window front header.getPackedSize = header.code) :
    initial.decoded memory front = header := by
  cases header with
  | dataMacPdu header =>
      cases initial <;> simp only [kind, reduceCtorEq] at sameKind
      have fields := fields_of_window valid holds
      simp only [decoded, fields]
  | beacon header => exact absurd rfl notBeacon
  | unicast header =>
      cases initial <;> simp only [kind, reduceCtorEq] at sameKind
      have fieldsValid : header.toSequenceFields.isValid = true := by
        by_contra invalid
        simp [isValid, UnicastHeader.isValid, invalid] at valid
      simp only [getPackedSize, code] at holds
      rw [show 10 = 2 + 4 + 4 from rfl, Memory.window_add,
        Memory.window_add] at holds
      obtain ⟨leading, holdsTransmitter⟩ :=
        List.append_inj holds (by simp [SequenceFields.code])
      obtain ⟨holdsFields, holdsReceiver⟩ :=
        List.append_inj leading (by simp [SequenceFields.code])
      simp only [decoded, fields_of_window fieldsValid holdsFields,
        word_of_window holdsReceiver]
      rw [word_of_window holdsTransmitter]
  | rdBroadcasting header =>
      cases initial <;> simp only [kind, reduceCtorEq] at sameKind
      have fieldsValid : header.toSequenceFields.isValid = true := by
        by_contra invalid
        simp [isValid, RdBroadcastingHeader.isValid, invalid] at valid
      simp only [getPackedSize, code] at holds
      rw [show 6 = 2 + 4 from rfl, Memory.window_add] at holds
      obtain ⟨holdsFields, holdsTransmitter⟩ :=
        List.append_inj holds (by simp [SequenceFields.code])
      simp only [decoded, fields_of_window fieldsValid holdsFields,
        word_of_window holdsTransmitter]
  | mchEmpty =>
      cases initial <;> simp only [kind, reduceCtorEq] at sameKind
      rfl

/-- A beacon loses the lowest octet of its network identity. -/
theorem decoded_beacon
    {header : BeaconHeader}
    {initial : MacCommonHeader}
    (small : header.networkID3Lsb.toNat < 256 ^ 3)
    (sameKind : initial.kind = .beacon)
    (holds : memory.window front 7 = (beacon header).code) :
    initial.decoded memory front =
      beacon
        { header with
          networkID3Lsb :=
            UInt32.ofNat (header.networkID3Lsb.toNat / 256 * 256) } := by
  cases initial <;> simp only [kind, reduceCtorEq] at sameKind
  simp only [code] at holds
  rw [show 7 = 3 + 4 from rfl, Memory.window_add] at holds
  obtain ⟨holdsNetwork, holdsTransmitter⟩ := List.append_inj holds (by simp)
  have inside : header.networkID3Lsb.toNat / 256 ^ (4 - 3) % 256 ^ 3 =
      header.networkID3Lsb.toNat / 256 :=
    Nat.mod_eq_of_lt (lt_of_le_of_lt (Nat.div_le_self _ _) small)
  simp only [decoded, word_of_window holdsTransmitter, holdsNetwork,
    fromBigEndian_toBigEndian, inside]
  rfl

end MacCommonHeader

end DectNrp
