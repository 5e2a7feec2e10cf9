import DectNrp.ClusterBeacon
import DectNrp.MacMultiplexingHeader

namespace DectNrp

/-!
# MAC messages and information elements

An element (MMIE) owns a multiplexing header and a body.  Packing elements
write header and body.  Flowing elements write the header only and remember
where the sender's payload has to be put, or where the receiver finds it.
Padding fills what is left of a transport block.

Addresses are offsets from the front of the transport block.
-/

open Checked (ok_bind pure_eq_ok)

/-- Announces the power that a receiver aims at. -/
structure PowerTargetIe where
  powerTargetDBmCoded : UInt32
  deriving Repr, DecidableEq

namespace PowerTargetIe

def zero : PowerTargetIe where
  powerTargetDBmCoded := undefinedNumeric32

def isValid (ie : PowerTargetIe) : Bool :=
  45 ≤ ie.powerTargetDBmCoded && ie.powerTargetDBmCoded ≤ 60

def getPackedSize : Nat := 1

def pack
    (ie : PowerTargetIe)
    (macPduOffset : Nat)
    (memory : Memory) :
    Checked Memory := do
  dectnrpAssert ie.isValid "Power Target IE is not valid"
  pure (memory.assign macPduOffset ie.powerTargetDBmCoded)

def unpack
    (_ie : PowerTargetIe)
    (octets : List UInt8)
    (macPduOffset : Nat) :
    Checked (Bool × PowerTargetIe) := do
  let ie := zero
  let octet0 ← loadOctet octets macPduOffset
  let ie := { ie with powerTargetDBmCoded := octet0.toUInt32 }
  pure (ie.isValid, ie)

/-- The element that the octet at an address stands for. -/
def decoded
    (memory : Memory)
    (macPduOffset : Nat) :
    PowerTargetIe where
  powerTargetDBmCoded := (memory macPduOffset).toUInt32

def code (ie : PowerTargetIe) : List UInt8 :=
  [ie.powerTargetDBmCoded.toUInt8]

theorem unpack_window
    (ie : PowerTargetIe)
    {memory : Memory}
    {limit macPduOffset : Nat}
    (inside : macPduOffset + getPackedSize ≤ limit) :
    ie.unpack (memory.window 0 limit) macPduOffset =
      .ok ((decoded memory macPduOffset).isValid,
        decoded memory macPduOffset) := by
  simp only [getPackedSize] at inside
  have read : macPduOffset < limit := by omega
  simp only [unpack, Memory.loadOctet_window read, ok_bind,
    pure_eq_ok, decoded]

theorem pack_valid
    {ie : PowerTargetIe}
    (valid : ie.isValid = true)
    (macPduOffset : Nat)
    (memory : Memory) :
    ie.pack macPduOffset memory = .ok (memory.write macPduOffset ie.code) := by
  simp only [pack, valid, dectnrpAssert_true, ok_bind,
    pure_eq_ok, Memory.assign_eq_write, code]

theorem decoded_code
    {ie : PowerTargetIe}
    (valid : ie.isValid = true)
    {memory : Memory}
    {macPduOffset : Nat}
    (holds : memory.window macPduOffset getPackedSize = ie.code) :
    decoded memory macPduOffset = ie := by
  obtain ⟨coded⟩ := ie
  have bound : coded.toNat ≤ 60 := by
    simp only [isValid, Bool.and_eq_true, decide_eq_true_eq,
      UInt32.le_iff_toNat_le] at valid
    exact valid.2
  have octet : memory macPduOffset = coded.toUInt8 := by
    simpa [Memory.window, List.range_succ, getPackedSize, code] using holds
  simp only [decoded, octet, PowerTargetIe.mk.injEq]
  apply UInt32.toNat_inj.mp
  rw [UInt8.toNat_toUInt32, BitFields.toNat_unshifted (by omega)]

end PowerTargetIe

/-- Reference of an announced time. -/
inductive TimeType where
  | notDefined
  | local
  | tai
  | gps
  | upper
  deriving Repr, DecidableEq

instance : CodedEnumeration TimeType where
  toUnderlying
    | .notDefined => undefinedNumeric32
    | .local => 0
    | .tai => 1
    | .gps => 2
    | .upper => 3
  notDefined := .notDefined
  lower := none
  upper := .upper
  codes := [.local, .tai, .gps]

theorem TimeType.recovers
    {value : TimeType}
    (valid : CodedEnumeration.isValid value = true) :
    CodedEnumeration.Recovers 2 value := by
  revert valid
  cases value <;> decide

/-- Announces the time of a full second. -/
structure TimeAnnounceIe where
  timeType : TimeType
  nFramesUntilFullSec : UInt32
  fullSec : Int64
  taiMinusUtcSeconds : UInt32
  deriving DecidableEq

namespace TimeAnnounceIe

open CodedEnumeration (toUnderlying fromCodedValue)

def zero : TimeAnnounceIe where
  timeType := .notDefined
  nFramesUntilFullSec := undefinedNumeric32
  fullSec := -1
  taiMinusUtcSeconds := undefinedNumeric32

def isValid (ie : TimeAnnounceIe) : Bool :=
  if ! CodedEnumeration.isValid ie.timeType then false
  else if 255 < ie.nFramesUntilFullSec then false
  else if ie.fullSec < 0 then false
  else if 255 < ie.taiMinusUtcSeconds then false
  else true

def getPackedSize : Nat := 11

def pack
    (ie : TimeAnnounceIe)
    (macPduOffset : Nat)
    (memory : Memory) :
    Checked Memory := do
  dectnrpAssert ie.isValid "time_announce_ie_t not valid"
  let memory := memory.assign macPduOffset (toUnderlying ie.timeType)
  let memory := memory.assign (macPduOffset + 1) ie.nFramesUntilFullSec
  let memory := memory.l2bLower (macPduOffset + 2) ie.fullSec.toUInt64.toNat 8
  pure (memory.assign (macPduOffset + 10) ie.taiMinusUtcSeconds)

def unpack
    (_ie : TimeAnnounceIe)
    (octets : List UInt8)
    (macPduOffset : Nat) :
    Checked (Bool × TimeAnnounceIe) := do
  let ie := zero
  let octet0 ← loadOctet octets macPduOffset
  let octet1 ← loadOctet octets (macPduOffset + 1)
  let fullSec ← b2lLower octets (macPduOffset + 2) 8
  let octet10 ← loadOctet octets (macPduOffset + 10)
  let ie := { ie with
    timeType := fromCodedValue octet0.toUInt32
    nFramesUntilFullSec := octet1.toUInt32
    fullSec := (UInt64.ofNat fullSec).toInt64
    taiMinusUtcSeconds := octet10.toUInt32
  }
  pure (ie.isValid, ie)

/-- The element that the octets at an address stand for. -/
def decoded
    (memory : Memory)
    (macPduOffset : Nat) :
    TimeAnnounceIe where
  timeType := fromCodedValue (memory macPduOffset).toUInt32
  nFramesUntilFullSec := (memory (macPduOffset + 1)).toUInt32
  fullSec :=
    (UInt64.ofNat
      (fromBigEndian (memory.window (macPduOffset + 2) 8))).toInt64
  taiMinusUtcSeconds := (memory (macPduOffset + 10)).toUInt32

def code (ie : TimeAnnounceIe) : List UInt8 :=
  [(toUnderlying ie.timeType).toUInt8,
      ie.nFramesUntilFullSec.toUInt8] ++
    toBigEndian ie.fullSec.toUInt64.toNat 8 ++
    [ie.taiMinusUtcSeconds.toUInt8]

theorem unpack_window
    (ie : TimeAnnounceIe)
    {memory : Memory}
    {limit macPduOffset : Nat}
    (inside : macPduOffset + getPackedSize ≤ limit) :
    ie.unpack (memory.window 0 limit) macPduOffset =
      .ok ((decoded memory macPduOffset).isValid,
        decoded memory macPduOffset) := by
  simp only [getPackedSize] at inside
  have typeRead : macPduOffset < limit := by omega
  have framesRead : macPduOffset + 1 < limit := by omega
  have fullSecRead : macPduOffset + 2 + 8 ≤ limit := by omega
  have taiRead : macPduOffset + 10 < limit := by omega
  simp only [unpack, Memory.loadOctet_window typeRead,
    Memory.loadOctet_window framesRead,
    Memory.b2lLower_window fullSecRead,
    Memory.loadOctet_window taiRead, ok_bind,
    pure_eq_ok, decoded]

theorem pack_valid
    {ie : TimeAnnounceIe}
    (valid : ie.isValid = true)
    (macPduOffset : Nat)
    (memory : Memory) :
    ie.pack macPduOffset memory = .ok (memory.write macPduOffset ie.code) := by
  simp only [pack, valid, dectnrpAssert_true, ok_bind,
    pure_eq_ok, Memory.assign_eq_write macPduOffset]
  rw [Memory.assign_behind macPduOffset (by rfl),
    Memory.l2bLower_behind macPduOffset (by rfl),
    Memory.assign_behind macPduOffset (by simp)]
  rfl

/-- An octet value is recovered from its octet. -/
private theorem octet_recovered
    {value : UInt32}
    (bound : value.toNat ≤ 255) :
    value.toUInt8.toUInt32 = value := by
  apply UInt32.toNat_inj.mp
  rw [UInt8.toNat_toUInt32, BitFields.toNat_unshifted (by omega)]

/-- A value that does not exceed an octet. -/
private theorem value_le
    {value : UInt32}
    (bound : ¬ 255 < value) :
    value.toNat ≤ 255 := by
  rw [UInt32.lt_iff_toNat_lt] at bound
  simpa using bound

theorem decoded_code
    {ie : TimeAnnounceIe}
    (valid : ie.isValid = true)
    {memory : Memory}
    {macPduOffset : Nat}
    (holds : memory.window macPduOffset getPackedSize = ie.code) :
    decoded memory macPduOffset = ie := by
  simp only [isValid, Bool.ite_eq_true_distrib, Bool.false_eq_true,
    if_false_left, Bool.not_eq_true, Bool.not_eq_false',
    if_true_right] at valid
  obtain ⟨typeValid, framesBound, -, taiBound⟩ := valid
  obtain ⟨typeBound, type⟩ := TimeType.recovers typeValid
  have frames := octet_recovered (value_le framesBound)
  have tai := octet_recovered (value_le taiBound)
  have timeType :
      (toUnderlying ie.timeType).toUInt8.toUInt32 = toUnderlying ie.timeType :=
    octet_recovered (by omega)
  rw [show getPackedSize = 2 + 8 + 1 from rfl, Memory.window_add,
    Memory.window_add, code] at holds
  obtain ⟨holds, taiHolds⟩ := List.append_inj' holds (by simp)
  obtain ⟨holds, fullSecHolds⟩ := List.append_inj' holds (by simp)
  have leading : memory macPduOffset = (toUnderlying ie.timeType).toUInt8 ∧
      memory (macPduOffset + 1) = ie.nFramesUntilFullSec.toUInt8 := by
    simpa [Memory.window, List.range_succ] using holds
  have trailing :
      memory (macPduOffset + 10) = ie.taiMinusUtcSeconds.toUInt8 := by
    simpa [Memory.window] using taiHolds
  have fullSec : (UInt64.ofNat (fromBigEndian
      (memory.window (macPduOffset + 2) 8))).toInt64 = ie.fullSec := by
    rw [fullSecHolds, fromBigEndian_toBigEndian,
      Nat.mod_eq_of_lt (show _ < 256 ^ 8 from ie.fullSec.toUInt64.toNat_lt),
      UInt64.ofNat_toNat, Int64.toInt64_toUInt64]
  simp only [decoded, leading, trailing, fullSec, timeType, type, frames, tai]

end TimeAnnounceIe

/-- What an element holds besides its multiplexing header. -/
inductive MmieBody where
  | paddingIe
  | userPlaneData (dataPtr : Option Nat)
  | clusterBeaconMessage (message : ClusterBeaconMessage)
  | powerTargetIe (ie : PowerTargetIe)
  | timeAnnounceIe (ie : TimeAnnounceIe)
  deriving DecidableEq

/-- A MAC message or information element. -/
structure Mmie where
  macMultiplexingHeader : MacMultiplexingHeader
  body : MmieBody
  deriving DecidableEq

namespace MmieBody

/-- The dynamic type of an element. -/
def type : MmieBody → MmieType
  | paddingIe => .paddingIe
  | userPlaneData _ => .userPlaneData
  | clusterBeaconMessage _ => .clusterBeaconMessage
  | powerTargetIe _ => .powerTargetIe
  | timeAnnounceIe _ => .timeAnnounceIe

end MmieBody

namespace Mmie

/-- A newly constructed element of a type. -/
def construct : MmieType → Mmie
  | .paddingIe =>
      { macMultiplexingHeader := .zero, body := .paddingIe }
  | .userPlaneData =>
      { macMultiplexingHeader := .zero, body := .userPlaneData none }
  | .clusterBeaconMessage =>
      { macMultiplexingHeader := { MacMultiplexingHeader.zero with
          macExt := .noLengthField
          ieType := IeTypeMacExt000110.clusterBeaconMessage }
        body := .clusterBeaconMessage .construct }
  | .powerTargetIe =>
      { macMultiplexingHeader := { MacMultiplexingHeader.zero with
          macExt := .noLengthField
          ieType := IeTypeMacExt000110.powerTargetIe }
        body := .powerTargetIe .zero }
  | .timeAnnounceIe =>
      { macMultiplexingHeader := { MacMultiplexingHeader.zero with
          macExt := .noLengthField
          ieType := IeTypeMacExt000110.timeAnnounceIe }
        body := .timeAnnounceIe .zero }

/-- Size of the body; flows and padding carry it in their header. -/
def getPackedSizeOfSdu (mmie : Mmie) : Nat :=
  match mmie.body with
  | .paddingIe => mmie.macMultiplexingHeader.length.toNat
  | .userPlaneData _ => mmie.macMultiplexingHeader.length.toNat
  | .clusterBeaconMessage message => message.getPackedSize
  | .powerTargetIe _ => PowerTargetIe.getPackedSize
  | .timeAnnounceIe _ => TimeAnnounceIe.getPackedSize

def getPackedSizeOfMmhSdu (mmie : Mmie) : Checked Nat := do
  let headerSize ← mmie.macMultiplexingHeader.getPackedSize
  pure (headerSize + mmie.getPackedSizeOfSdu)

/-- Write header and body, or header and place of the payload. -/
def packMmhSdu
    (mmie : Mmie)
    (macPduOffset : Nat)
    (memory : Memory) :
    Checked (Mmie × Memory) := do
  let memory ← mmie.macMultiplexingHeader.pack macPduOffset memory
  let headerSize ← mmie.macMultiplexingHeader.getPackedSize
  match mmie.body with
  | .paddingIe =>
      pure (mmie, memory.write (macPduOffset + headerSize)
        (List.replicate mmie.macMultiplexingHeader.length.toNat 0))
  | .userPlaneData _ =>
      pure
        ({ mmie with
            body := .userPlaneData (some (macPduOffset + headerSize)) },
          memory)
  | .clusterBeaconMessage message => do
      let memory ← message.pack (macPduOffset + headerSize) memory
      pure (mmie, memory)
  | .powerTargetIe ie => do
      let memory ← ie.pack (macPduOffset + headerSize) memory
      pure (mmie, memory)
  | .timeAnnounceIe ie => do
      let memory ← ie.pack (macPduOffset + headerSize) memory
      pure (mmie, memory)

end Mmie

namespace UserPlaneData

def setFlowId
    (mmie : Mmie)
    (flowId : Nat) :
    Checked Mmie :=
  let withType (ieType : UInt32) : Checked Mmie :=
    .ok { mmie with
      macMultiplexingHeader :=
        { mmie.macMultiplexingHeader with ieType := ieType } }
  match flowId with
  | 1 => withType IeTypeMacExt000110.userPlaneDataFlow1
  | 2 => withType IeTypeMacExt000110.userPlaneDataFlow2
  | 3 => withType IeTypeMacExt000110.userPlaneDataFlow3
  | 4 => withType IeTypeMacExt000110.userPlaneDataFlow4
  | _ => .error (.assertion "flow ID must be between 1 and 4")

def setDataSize
    (mmie : Mmie)
    (nBytes : Nat) :
    Checked Mmie := do
  dectnrpAssert (0 < nBytes && nBytes ≤ 65535)
    "data size not supported"
  pure { mmie with
    macMultiplexingHeader := { mmie.macMultiplexingHeader with
      macExt :=
        if nBytes ≤ 255 then .lengthField8Bit else .lengthField16Bit
      length := UInt32.ofNat nBytes } }

end UserPlaneData

namespace PaddingIe

/-- Two octets of header and up to 255 octets behind them. -/
def nPaddingBytesMax : Nat := 255 + 2

def setNofPaddingBytes
    (mmie : Mmie)
    (nBytes : Nat) :
    Checked Mmie := do
  dectnrpAssert (1 ≤ nBytes && nBytes ≤ nPaddingBytesMax)
    "invalid number of padding bytes"
  match nBytes with
  | 1 =>
      pure { mmie with
        macMultiplexingHeader := { mmie.macMultiplexingHeader with
          macExt := .lengthField1Bit
          ieType := IeTypeMacExt11Len0.paddingIe
          length := 0 } }
  | 2 =>
      pure { mmie with
        macMultiplexingHeader := { mmie.macMultiplexingHeader with
          macExt := .lengthField1Bit
          ieType := IeTypeMacExt11Len1.paddingIe
          length := 1 } }
  | _ => do
      let header := { mmie.macMultiplexingHeader with
        macExt := .lengthField8Bit
        ieType := IeTypeMacExt000110.paddingIe }
      let headerSize ← header.getPackedSize
      pure { mmie with
        macMultiplexingHeader :=
          { header with length := UInt32.ofNat (nBytes - headerSize) } }

/-- Number of octets that the next padding element takes. -/
def chunk (nBytesToFill : Nat) : Nat :=
  if nPaddingBytesMax < nBytesToFill then nPaddingBytesMax
  else nBytesToFill

theorem chunk_pos
    {nBytesToFill : Nat}
    (remaining : nBytesToFill ≠ 0) :
    0 < chunk nBytesToFill := by
  unfold chunk nPaddingBytesMax
  split <;> omega

/-- Fill the rest of a transport block, at most 257 octets at a time. -/
def fill
    (mmie : Mmie)
    (macPduOffset nBytesToFill : Nat)
    (memory : Memory) :
    Checked Memory :=
  if nBytesToFill = 0 then
    .ok memory
  else do
    let n := chunk nBytesToFill
    let mmie ← setNofPaddingBytes mmie n
    let (mmie, memory) ← mmie.packMmhSdu macPduOffset memory
    fill mmie (macPduOffset + n) (nBytesToFill - n) memory
termination_by nBytesToFill
decreasing_by
  have positive := chunk_pos ‹¬ nBytesToFill = 0›
  omega

/-- `fill_with_padding_ies` starts with a new padding element. -/
def fillWithPaddingIes
    (macPduOffset nBytesToFill : Nat)
    (memory : Memory) :
    Checked Memory :=
  fill (.construct .paddingIe) macPduOffset nBytesToFill memory

end PaddingIe

end DectNrp
