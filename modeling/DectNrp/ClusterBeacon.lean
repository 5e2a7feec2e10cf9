import DectNrp.BitFields
import DectNrp.CodedEnumeration
import DectNrp.FeedbackInfo

namespace DectNrp

/-!
# Cluster beacon message

A cluster beacon has four fixed octets.  Flags in the second one tell which of
four optional fields follow, so that the size of the whole message is known as
soon as two octets are there.  The size of the frame offset depends on the
subcarrier scaling factor `mu`.
-/

open Checked (ok_bind)
open BitFields (extract toNat_unshifted)

/-- Smallest and largest absolute channel number of a band. -/
structure AbsoluteChannelFrequencyNumbering where
  nMin : UInt32
  nMax : UInt32
  deriving Repr, DecidableEq

/-- Channel numbers of the nineteen bands, in the order of the bands. -/
def absoluteChannelFrequencyNumberings :
    List AbsoluteChannelFrequencyNumbering :=
  [⟨1657, 1677⟩, ⟨1680, 1700⟩, ⟨2258, 2352⟩, ⟨524, 552⟩, ⟨1, 22⟩,
    ⟨288, 411⟩, ⟨309, 321⟩, ⟨1137, 1234⟩, ⟨1691, 1711⟩, ⟨1806, 1822⟩,
    ⟨2142, 2256⟩, ⟨2374, 2511⟩, ⟨3126, 3183⟩, ⟨3184, 3298⟩,
    ⟨3299, 3356⟩, ⟨3994, 4103⟩, ⟨4392, 4466⟩, ⟨4105, 4203⟩,
    ⟨4265, 4391⟩]

/-- A channel number has thirteen bits and lies in one of the bands. -/
def isAbsoluteChannelNumberInRange (channelNumber : UInt32) : Bool :=
  if 8191 < channelNumber then false
  else
    absoluteChannelFrequencyNumberings.any fun acfn =>
      acfn.nMin ≤ channelNumber && channelNumber ≤ acfn.nMax

/-- Maximum transmit power in a cluster. -/
inductive ClustersMaxTxPower where
  | notDefined
  | lower
  | neg13dBm
  | neg6dBm
  | neg3dBm
  | pos0dBm
  | pos3dBm
  | pos6dBm
  | pos10dBm
  | pos14dBm
  | pos19dBm
  | pos23dBm
  | pos26dBm
  | pos29dBm
  | gt32dBm
  | upper
  deriving Repr, DecidableEq

instance : CodedEnumeration ClustersMaxTxPower where
  toUnderlying
    | .notDefined => undefinedNumeric32
    | .lower => 2
    | .neg13dBm => 3
    | .neg6dBm => 4
    | .neg3dBm => 5
    | .pos0dBm => 6
    | .pos3dBm => 7
    | .pos6dBm => 8
    | .pos10dBm => 9
    | .pos14dBm => 10
    | .pos19dBm => 11
    | .pos23dBm => 12
    | .pos26dBm => 13
    | .pos29dBm => 14
    | .gt32dBm => 15
    | .upper => 16
  notDefined := .notDefined
  lower := some .lower
  upper := .upper
  codes :=
    [.neg13dBm, .neg6dBm, .neg3dBm, .pos0dBm, .pos3dBm, .pos6dBm,
      .pos10dBm, .pos14dBm, .pos19dBm, .pos23dBm, .pos26dBm, .pos29dBm,
      .gt32dBm]

/-- Period of the network beacon. -/
inductive NetworkBeaconPeriod where
  | notDefined
  | ms50
  | ms100
  | ms500
  | ms1000
  | ms1500
  | ms2000
  | ms4000
  | upper
  deriving Repr, DecidableEq

instance : CodedEnumeration NetworkBeaconPeriod where
  toUnderlying
    | .notDefined => undefinedNumeric32
    | .ms50 => 0
    | .ms100 => 1
    | .ms500 => 2
    | .ms1000 => 3
    | .ms1500 => 4
    | .ms2000 => 5
    | .ms4000 => 6
    | .upper => 7
  notDefined := .notDefined
  lower := none
  upper := .upper
  codes := [.ms50, .ms100, .ms500, .ms1000, .ms1500, .ms2000, .ms4000]

/-- Period of the cluster beacon. -/
inductive ClusterBeaconPeriod where
  | notDefined
  | ms10
  | ms50
  | ms100
  | ms500
  | ms1000
  | ms1500
  | ms2000
  | ms4000
  | ms8000
  | ms16000
  | ms32000
  | upper
  deriving Repr, DecidableEq

instance : CodedEnumeration ClusterBeaconPeriod where
  toUnderlying
    | .notDefined => undefinedNumeric32
    | .ms10 => 0
    | .ms50 => 1
    | .ms100 => 2
    | .ms500 => 3
    | .ms1000 => 4
    | .ms1500 => 5
    | .ms2000 => 6
    | .ms4000 => 7
    | .ms8000 => 8
    | .ms16000 => 9
    | .ms32000 => 10
    | .upper => 11
  notDefined := .notDefined
  lower := none
  upper := .upper
  codes :=
    [.ms10, .ms50, .ms100, .ms500, .ms1000, .ms1500, .ms2000, .ms4000,
      .ms8000, .ms16000, .ms32000]

/-- How often a condition has to be met. -/
inductive CountToTrigger where
  | notDefined
  | times1
  | times2
  | times3
  | times4
  | times5
  | times6
  | times7
  | times8
  | times16
  | times24
  | times32
  | times40
  | times48
  | times64
  | times128
  | times256
  | upper
  deriving Repr, DecidableEq

instance : CodedEnumeration CountToTrigger where
  toUnderlying
    | .notDefined => undefinedNumeric32
    | .times1 => 0
    | .times2 => 1
    | .times3 => 2
    | .times4 => 3
    | .times5 => 4
    | .times6 => 5
    | .times7 => 6
    | .times8 => 7
    | .times16 => 8
    | .times24 => 9
    | .times32 => 10
    | .times40 => 11
    | .times48 => 12
    | .times64 => 13
    | .times128 => 14
    | .times256 => 15
    | .upper => 16
  notDefined := .notDefined
  lower := none
  upper := .upper
  codes :=
    [.times1, .times2, .times3, .times4, .times5, .times6, .times7,
      .times8, .times16, .times24, .times32, .times40, .times48,
      .times64, .times128, .times256]

/-- Threshold of a quality. -/
inductive QualityThreshold where
  | notDefined
  | dB0
  | dB3
  | dB6
  | dB9
  | upper
  deriving Repr, DecidableEq

instance : CodedEnumeration QualityThreshold where
  toUnderlying
    | .notDefined => undefinedNumeric32
    | .dB0 => 0
    | .dB3 => 1
    | .dB6 => 2
    | .dB9 => 3
    | .upper => 4
  notDefined := .notDefined
  lower := none
  upper := .upper
  codes := [.dB0, .dB3, .dB6, .dB9]

section Recovery

open CodedEnumeration

theorem ClustersMaxTxPower.recovers
    {value : ClustersMaxTxPower}
    (valid : isValid value = true) :
    Recovers 4 value := by
  revert valid
  cases value <;> decide

theorem NetworkBeaconPeriod.recovers
    {value : NetworkBeaconPeriod}
    (valid : isValid value = true) :
    Recovers 4 value := by
  revert valid
  cases value <;> decide

theorem ClusterBeaconPeriod.recovers
    {value : ClusterBeaconPeriod}
    (valid : isValid value = true) :
    Recovers 4 value := by
  revert valid
  cases value <;> decide

theorem CountToTrigger.recovers
    {value : CountToTrigger}
    (valid : isValid value = true) :
    Recovers 4 value := by
  revert valid
  cases value <;> decide

theorem QualityThreshold.recovers
    {value : QualityThreshold}
    (valid : isValid value = true) :
    Recovers 2 value := by
  revert valid
  cases value <;> decide

end Recovery

/-- Fields of a cluster beacon and the scaling factor it depends on. -/
structure ClusterBeaconMessage where
  systemFrameNumber : UInt32
  clustersMaxTxPower : Option ClustersMaxTxPower
  hasPowerConstraints : Bool
  frameOffset : Option UInt32
  nextClusterChannel : Option UInt32
  timeToNext : Option UInt32
  networkBeaconPeriod : NetworkBeaconPeriod
  clusterBeaconPeriod : ClusterBeaconPeriod
  countToTrigger : CountToTrigger
  relQuality : QualityThreshold
  minQuality : QualityThreshold
  mu : Nat
  deriving Repr, DecidableEq

namespace ClusterBeaconMessage

open CodedEnumeration (toUnderlying fromCodedValue)

/-- Reset every field but the scaling factor. -/
def zero (message : ClusterBeaconMessage) : ClusterBeaconMessage :=
  { message with
    systemFrameNumber := undefinedNumeric32
    clustersMaxTxPower := none
    hasPowerConstraints := false
    frameOffset := none
    nextClusterChannel := none
    timeToNext := none
    networkBeaconPeriod := .notDefined
    clusterBeaconPeriod := .notDefined
    countToTrigger := .notDefined
    relQuality := .notDefined
    minQuality := .notDefined
  }

/-- A newly constructed message. -/
def construct : ClusterBeaconMessage where
  systemFrameNumber := undefinedNumeric32
  clustersMaxTxPower := none
  hasPowerConstraints := false
  frameOffset := none
  nextClusterChannel := none
  timeToNext := none
  networkBeaconPeriod := .notDefined
  clusterBeaconPeriod := .notDefined
  countToTrigger := .notDefined
  relQuality := .notDefined
  minQuality := .notDefined
  mu := 0

/-- Exactly one bit of a word is set. -/
def hasSingleBit (value : Nat) : Bool :=
  value ≠ 0 && value &&& (value - 1) = 0

def setMu
    (message : ClusterBeaconMessage)
    (mu : Nat) :
    Checked ClusterBeaconMessage := do
  dectnrpAssert (hasSingleBit mu && mu ≤ 8) "mu must be 1, 2, 4 or 8"
  pure { message with mu := mu }

def isValid (message : ClusterBeaconMessage) : Bool :=
  if 255 < message.systemFrameNumber then false
  else if message.clustersMaxTxPower.any
      fun txPower => ! CodedEnumeration.isValid txPower then
    false
  else if message.frameOffset.any fun frameOffset =>
      (message.mu ≤ 4 && 255 < frameOffset) ||
        (4 < message.mu && 65535 < frameOffset) then
    false
  else if message.nextClusterChannel.any
      fun channel => ! isAbsoluteChannelNumberInRange channel then
    false
  else if ! CodedEnumeration.isValid message.networkBeaconPeriod then
    false
  else if ! CodedEnumeration.isValid message.clusterBeaconPeriod then
    false
  else if ! CodedEnumeration.isValid message.countToTrigger then false
  else if ! CodedEnumeration.isValid message.relQuality then false
  else if ! CodedEnumeration.isValid message.minQuality then false
  else true

/-- Number of octets of the frame offset. -/
def frameOffsetSize (mu : Nat) : Nat :=
  if mu ≤ 4 then 1 else 2

def getPackedSize (message : ClusterBeaconMessage) : Nat :=
  4 + message.clustersMaxTxPower.isSome.toNat +
    message.frameOffset.isSome.toNat * frameOffsetSize message.mu +
    message.nextClusterChannel.isSome.toNat * 2 +
    message.timeToNext.isSome.toNat * 4

/-- Size of a message whose second octet is known. -/
def sizeByFlags
    (mu : Nat)
    (octet1 : UInt8) :
    Nat :=
  4 + (BitFields.extract octet1 4 0b1).toNat +
    (BitFields.extract octet1 2 0b1).toNat * frameOffsetSize mu +
    (BitFields.extract octet1 1 0b1).toNat * 2 +
    (BitFields.extract octet1 0 0b1).toNat * 4

def getPackedSizeMinToPeek : Nat := 2

/-- Size of a packed message; peeking never fails. -/
def getPackedSizeByPeeking
    (message : ClusterBeaconMessage)
    (octets : List UInt8)
    (macPduOffset : Nat) :
    Checked (Option Nat) := do
  let octet1 ← loadOctet octets (macPduOffset + 1)
  pure (some (sizeByFlags message.mu octet1))

/-- Write an optional field and move the offset behind it. -/
def packOptional
    {Field : Type}
    (macPduOffset size : Nat)
    (write : Field → Nat → Memory → Memory)
    (field : Option Field)
    (state : Nat × Memory) :
    Nat × Memory :=
  match field with
  | some value =>
      (state.1 + size, write value (macPduOffset + state.1) state.2)
  | none => state

/-- Write the transmit power. -/
def writeTxPower
    (txPower : ClustersMaxTxPower)
    (address : Nat)
    (memory : Memory) :
    Memory :=
  memory.assign address (toUnderlying txPower)

/-- Write the frame offset. -/
def writeFrameOffset
    (mu : Nat)
    (frameOffset : UInt32)
    (address : Nat)
    (memory : Memory) :
    Memory :=
  memory.l2bLower address frameOffset.toNat (frameOffsetSize mu)

/-- Write the next cluster channel. -/
def writeNextClusterChannel
    (channel : UInt32)
    (address : Nat)
    (memory : Memory) :
    Memory :=
  (memory.assign address (channel >>> 8)).assign (address + 1)
    (channel &&& 255)

/-- Write the time to the next beacon. -/
def writeTimeToNext
    (timeToNext : UInt32)
    (address : Nat)
    (memory : Memory) :
    Memory :=
  memory.l2bLower address timeToNext.toNat 4

/-- Write the four required octets. -/
def packRequired
    (message : ClusterBeaconMessage)
    (macPduOffset : Nat)
    (memory : Memory) :
    Memory :=
  -- octet 0
  let memory := memory.assign macPduOffset message.systemFrameNumber
  -- octet 1
  let memory := memory.assign (macPduOffset + 1)
    (message.clustersMaxTxPower.isSome.toUInt32 <<< 4)
  let memory := memory.assignOr (macPduOffset + 1)
    (message.hasPowerConstraints.toUInt32 <<< 3)
  let memory := memory.assignOr (macPduOffset + 1)
    (message.frameOffset.isSome.toUInt32 <<< 2)
  let memory := memory.assignOr (macPduOffset + 1)
    (message.nextClusterChannel.isSome.toUInt32 <<< 1)
  let memory := memory.assignOr (macPduOffset + 1)
    message.timeToNext.isSome.toUInt32
  -- octet 2
  let memory := memory.assign (macPduOffset + 2)
    (toUnderlying message.networkBeaconPeriod <<< 4)
  let memory := memory.assignOr (macPduOffset + 2)
    (toUnderlying message.clusterBeaconPeriod)
  -- octet 3
  let memory := memory.assign (macPduOffset + 3)
    (toUnderlying message.countToTrigger <<< 4)
  let memory := memory.assignOr (macPduOffset + 3)
    (toUnderlying message.relQuality <<< 2)
  memory.assignOr (macPduOffset + 3)
    (toUnderlying message.minQuality)

def pack
    (message : ClusterBeaconMessage)
    (macPduOffset : Nat)
    (memory : Memory) :
    Checked Memory := do
  dectnrpAssert message.isValid "cluster beacon message is not valid"
  let memory := message.packRequired macPduOffset memory
  -- optional fields
  let state := (4, memory)
  let state := packOptional macPduOffset 1 writeTxPower
    message.clustersMaxTxPower state
  let state := packOptional macPduOffset (frameOffsetSize message.mu)
    (writeFrameOffset message.mu) message.frameOffset state
  let state := packOptional macPduOffset 2 writeNextClusterChannel
    message.nextClusterChannel state
  let (offset, memory) := packOptional macPduOffset 4 writeTimeToNext
    message.timeToNext state
  -- peeking at the packed message always has a value
  dectnrpAssert
    (sizeByFlags message.mu (memory (macPduOffset + 1)) = offset)
    "lengths do not match"
  pure memory

/-- A flag of the second octet. -/
def flag
    (octet1 : UInt8)
    (shift : UInt32) :
    Bool :=
  BitFields.extract octet1 shift 0b1 = 1

/-- Read an optional field and move the offset behind it. -/
def unpackOptional
    {Field : Type}
    (macPduOffset : Nat)
    (included : Bool)
    (size : Nat)
    (read : Nat → Checked Field)
    (offset : Nat) :
    Checked (Option Field × Nat) :=
  if included then do
    let field ← read (macPduOffset + offset)
    pure (some field, offset + size)
  else
    pure (none, offset)

/-- Read the transmit power. -/
def readTxPower
    (octets : List UInt8)
    (address : Nat) :
    Checked ClustersMaxTxPower := do
  let octet ← loadOctet octets address
  pure (fromCodedValue (BitFields.extract octet 0 0b1111))

/-- Read the frame offset. -/
def readFrameOffset
    (mu : Nat)
    (octets : List UInt8)
    (address : Nat) :
    Checked UInt32 := do
  let value ← b2lLower octets address (frameOffsetSize mu)
  pure (UInt32.ofNat value)

/-- Read the next cluster channel. -/
def readNextClusterChannel
    (octets : List UInt8)
    (address : Nat) :
    Checked UInt32 := do
  let lower ← loadOctet octets (address + 1)
  let upper ← loadOctet octets address
  pure (lower.toUInt32 |||
    (BitFields.extract upper 0 0b11111 <<< 8))

/-- Read the time to the next beacon. -/
def readTimeToNext
    (octets : List UInt8)
    (address : Nat) :
    Checked UInt32 := do
  let value ← b2lLower octets address 4
  pure (UInt32.ofNat value)

def unpack
    (message : ClusterBeaconMessage)
    (octets : List UInt8)
    (macPduOffset : Nat) :
    Checked (Bool × ClusterBeaconMessage) := do
  let message := message.zero
  let octet0 ← loadOctet octets macPduOffset
  let octet1 ← loadOctet octets (macPduOffset + 1)
  let octet2 ← loadOctet octets (macPduOffset + 2)
  let octet3 ← loadOctet octets (macPduOffset + 3)
  let message := { message with
    systemFrameNumber := octet0.toUInt32
    hasPowerConstraints := flag octet1 3
    networkBeaconPeriod := fromCodedValue (octet2.toUInt32 >>> 4)
    clusterBeaconPeriod :=
      fromCodedValue (BitFields.extract octet2 0 0b1111)
    countToTrigger := fromCodedValue (octet3.toUInt32 >>> 4)
    relQuality := fromCodedValue (BitFields.extract octet3 2 0b11)
    minQuality := fromCodedValue (BitFields.extract octet3 0 0b11)
  }
  let txPower := flag octet1 4
  let fo := flag octet1 2
  let nextChannel := flag octet1 1
  let includeTimeToNext := flag octet1 0
  let (clustersMaxTxPower, offset) ←
    unpackOptional macPduOffset txPower 1 (readTxPower octets) 4
  let (frameOffset, offset) ←
    unpackOptional macPduOffset fo (frameOffsetSize message.mu)
      (readFrameOffset message.mu octets) offset
  let (nextClusterChannel, offset) ←
    unpackOptional macPduOffset nextChannel 2
      (readNextClusterChannel octets) offset
  let (timeToNext, offset) ←
    unpackOptional macPduOffset includeTimeToNext 4
      (readTimeToNext octets) offset
  let message := { message with
    clustersMaxTxPower := clustersMaxTxPower
    frameOffset := frameOffset
    nextClusterChannel := nextClusterChannel
    timeToNext := timeToNext
  }
  dectnrpAssert (message.getPackedSize = offset) "lengths do not match"
  pure (message.isValid, message)

/-- Number of octets that an optional field takes. -/
def optionalSize
    (included : Bool)
    (size : Nat) :
    Nat :=
  included.toNat * size

/-- The value of an optional field, if its flag is set. -/
def optionalAt
    {Field : Type}
    (included : Bool)
    (value : Field) :
    Option Field :=
  if included then some value else none

/-- The message that the octets at an address stand for. -/
def decoded
    (mu : Nat)
    (memory : Memory)
    (macPduOffset : Nat) :
    ClusterBeaconMessage :=
  let octet1 := memory (macPduOffset + 1)
  let octet2 := memory (macPduOffset + 2)
  let octet3 := memory (macPduOffset + 3)
  let offset1 := 4 + optionalSize (flag octet1 4) 1
  let offset2 := offset1 + optionalSize (flag octet1 2) (frameOffsetSize mu)
  let offset3 := offset2 + optionalSize (flag octet1 1) 2
  { systemFrameNumber := (memory macPduOffset).toUInt32
    clustersMaxTxPower :=
      optionalAt (flag octet1 4)
        (fromCodedValue
          (BitFields.extract (memory (macPduOffset + 4)) 0 0b1111))
    hasPowerConstraints := flag octet1 3
    frameOffset :=
      optionalAt (flag octet1 2)
        (UInt32.ofNat (fromBigEndian
          (memory.window (macPduOffset + offset1)
            (frameOffsetSize mu))))
    nextClusterChannel :=
      optionalAt (flag octet1 1)
        ((memory (macPduOffset + offset2 + 1)).toUInt32 |||
          (BitFields.extract (memory (macPduOffset + offset2)) 0
            0b11111 <<< 8))
    timeToNext :=
      optionalAt (flag octet1 0)
        (UInt32.ofNat (fromBigEndian
          (memory.window (macPduOffset + offset3) 4)))
    networkBeaconPeriod := fromCodedValue (octet2.toUInt32 >>> 4)
    clusterBeaconPeriod :=
      fromCodedValue (BitFields.extract octet2 0 0b1111)
    countToTrigger := fromCodedValue (octet3.toUInt32 >>> 4)
    relQuality := fromCodedValue (BitFields.extract octet3 2 0b11)
    minQuality := fromCodedValue (BitFields.extract octet3 0 0b11)
    mu := mu
  }

variable {Field : Type}

@[simp] theorem optionalAt_isSome
    (included : Bool)
    (value : Field) :
    (optionalAt included value).isSome = included := by
  cases included <;> rfl

/-- A flag of the second octet as a number. -/
theorem toNat_flag
    (octet1 : UInt8)
    {shift : UInt32}
    (shiftBound : shift.toNat < 32) :
    (extract octet1 shift 0b1).toNat = (flag octet1 shift).toNat := by
  have isBit := BitFields.toNat_extract_1 octet1 shiftBound
  have zeroOrOne : (extract octet1 shift 0b1).toNat = 0 ∨
      (extract octet1 shift 0b1).toNat = 1 := by
    omega
  rcases zeroOrOne with isZero | isOne
  · have notSet : extract octet1 shift 0b1 ≠ 1 := by
      intro isSet
      rw [isSet] at isZero
      cases isZero
    simp [flag, notSet, isZero]
  · have isSet : extract octet1 shift 0b1 = 1 := UInt32.toNat_inj.mp isOne
    simp [flag, isSet]

/-- The size of a message is the sum of its fields. -/
theorem sizeByFlags_eq
    (mu : Nat)
    (octet1 : UInt8) :
    sizeByFlags mu octet1 =
      4 + optionalSize (flag octet1 4) 1 +
        optionalSize (flag octet1 2) (frameOffsetSize mu) +
        optionalSize (flag octet1 1) 2 +
        optionalSize (flag octet1 0) 4 := by
  rw [sizeByFlags, toNat_flag _ (by decide), toNat_flag _ (by decide),
    toNat_flag _ (by decide), toNat_flag _ (by decide)]
  simp [optionalSize]

/-- Every optional field together with the required ones. -/
theorem sizeByFlags_le
    (mu : Nat)
    (octet1 : UInt8) :
    sizeByFlags mu octet1 ≤ 13 := by
  have size : frameOffsetSize mu ≤ 2 := by
    unfold frameOffsetSize
    split <;> omega
  rw [sizeByFlags_eq]
  unfold optionalSize
  cases flag octet1 4 <;> cases flag octet1 2 <;>
    cases flag octet1 1 <;> cases flag octet1 0 <;>
    simp only [Bool.toNat_true, Bool.toNat_false] <;> omega

/-- The required fields and the flags are always there. -/
theorem four_le_sizeByFlags
    (mu : Nat)
    (octet1 : UInt8) :
    4 ≤ sizeByFlags mu octet1 := by
  rw [sizeByFlags_eq]
  omega

/-- An optional field is read if its octets are there. -/
theorem unpackOptional_eq
    {macPduOffset : Nat}
    {included : Bool}
    {size : Nat}
    {read : Nat → Checked Field}
    {offset : Nat}
    {value : Field}
    (reads : included = true → read (macPduOffset + offset) = .ok value) :
    unpackOptional macPduOffset included size read offset =
      .ok (optionalAt included value,
        offset + optionalSize included size) := by
  cases included with
  | false => simp [unpackOptional, optionalAt, optionalSize]
  | true => simp [unpackOptional, reads rfl, optionalAt, optionalSize]

variable {memory : Memory}

/--
Unpacking reads as many octets as peeking reports and keeps the scaling factor
only.
-/
theorem unpack_window
    (message : ClusterBeaconMessage)
    {limit macPduOffset : Nat}
    (inside :
      macPduOffset +
        sizeByFlags message.mu (memory (macPduOffset + 1)) ≤ limit) :
    message.unpack (memory.window 0 limit) macPduOffset =
      .ok ((decoded message.mu memory macPduOffset).isValid,
        decoded message.mu memory macPduOffset) := by
  rw [sizeByFlags_eq] at inside
  generalize octet1Case : memory (macPduOffset + 1) = octet1 at inside
  have octet0Read :=
    @Memory.loadOctet_window memory limit macPduOffset (by omega)
  have octet1Read :=
    @Memory.loadOctet_window memory limit (macPduOffset + 1) (by omega)
  have octet2Read :=
    @Memory.loadOctet_window memory limit (macPduOffset + 2) (by omega)
  have octet3Read :=
    @Memory.loadOctet_window memory limit (macPduOffset + 3) (by omega)
  rw [octet1Case] at octet1Read
  simp only [unpack, octet0Read, octet1Read, octet2Read, octet3Read,
    ok_bind, zero]
  simp only [optionalSize] at inside
  rw [unpackOptional_eq (fun included => by
      simp only [included, Bool.toNat_true] at inside
      rw [readTxPower, Memory.loadOctet_window (by omega)]
      rfl),
    ok_bind,
    unpackOptional_eq
    (fun included => by
      simp only [included, Bool.toNat_true] at inside
      rw [readFrameOffset, Memory.b2lLower_window (by
        simp only [optionalSize]
        omega)]
      rfl),
    ok_bind,
    unpackOptional_eq
    (fun included => by
      simp only [included, Bool.toNat_true] at inside
      simp only [readNextClusterChannel, optionalSize]
      rw [Memory.loadOctet_window (by omega),
        Memory.loadOctet_window (by omega)]
      rfl),
    ok_bind,
    unpackOptional_eq
    (fun included => by
      simp only [included, Bool.toNat_true] at inside
      rw [readTimeToNext, Memory.b2lLower_window (by
        simp only [optionalSize]
        omega)]
      rfl),
    ok_bind]
  -- the size of what was read is where the reading ended
  simp only [decoded, octet1Case, getPackedSize, optionalAt_isSome,
    optionalSize, Nat.mul_one, decide_true, dectnrpAssert_true,
    ok_bind, Checked.pure_eq_ok]

/-- The second octet, made of five flags. -/
def flags
    (txPower powerConst fo nextChannel timeToNext : Bool) :
    UInt8 :=
  (txPower.toUInt32 <<< 4).toUInt8 ||| (powerConst.toUInt32 <<< 3).toUInt8 |||
    (fo.toUInt32 <<< 2).toUInt8 ||| (nextChannel.toUInt32 <<< 1).toUInt8 |||
    timeToNext.toUInt32.toUInt8

/-- The flags are found where they were placed. -/
theorem flag_flags (txPower powerConst fo nextChannel timeToNext : Bool) :
    flag (flags txPower powerConst fo nextChannel timeToNext) 4 =
        txPower ∧
      flag (flags txPower powerConst fo nextChannel timeToNext) 3 =
        powerConst ∧
      flag (flags txPower powerConst fo nextChannel timeToNext) 2 = fo ∧
      flag (flags txPower powerConst fo nextChannel timeToNext) 1 =
        nextChannel ∧
      flag (flags txPower powerConst fo nextChannel timeToNext) 0 =
        timeToNext := by
  revert txPower powerConst fo nextChannel timeToNext
  decide

/-- The octets of an optional field. -/
def optionalCode
    {Field : Type}
    (fieldCode : Field → List UInt8) :
    Option Field → List UInt8
  | some field => fieldCode field
  | none => []

/-- The flags of a message. -/
def flagsOf (message : ClusterBeaconMessage) : UInt8 :=
  flags message.clustersMaxTxPower.isSome message.hasPowerConstraints
    message.frameOffset.isSome message.nextClusterChannel.isSome
    message.timeToNext.isSome

/-- The four fixed octets of a message. -/
def fixedCode (message : ClusterBeaconMessage) : List UInt8 :=
  [message.systemFrameNumber.toUInt8,
    message.flagsOf,
    (toUnderlying message.networkBeaconPeriod <<< 4).toUInt8 |||
      (toUnderlying message.clusterBeaconPeriod).toUInt8,
    (toUnderlying message.countToTrigger <<< 4).toUInt8 |||
      (toUnderlying message.relQuality <<< 2).toUInt8 |||
      (toUnderlying message.minQuality).toUInt8]

def txPowerCode (txPower : ClustersMaxTxPower) : List UInt8 :=
  [(toUnderlying txPower).toUInt8]

def frameOffsetCode
    (mu : Nat)
    (frameOffset : UInt32) :
    List UInt8 :=
  toBigEndian frameOffset.toNat (frameOffsetSize mu)

def nextClusterChannelCode (channel : UInt32) : List UInt8 :=
  [(channel >>> 8).toUInt8, (channel &&& 255).toUInt8]

def timeToNextCode (timeToNext : UInt32) : List UInt8 :=
  toBigEndian timeToNext.toNat 4

@[simp] theorem txPowerCode_length (txPower : ClustersMaxTxPower) :
    (txPowerCode txPower).length = 1 :=
  rfl

@[simp] theorem frameOffsetCode_length
    (mu : Nat)
    (frameOffset : UInt32) :
    (frameOffsetCode mu frameOffset).length = frameOffsetSize mu :=
  toBigEndian_length _ _

@[simp] theorem nextClusterChannelCode_length (channel : UInt32) :
    (nextClusterChannelCode channel).length = 2 :=
  rfl

@[simp] theorem timeToNextCode_length (timeToNext : UInt32) :
    (timeToNextCode timeToNext).length = 4 :=
  toBigEndian_length _ _

/-- The octets of a message. -/
def code (message : ClusterBeaconMessage) : List UInt8 :=
  message.fixedCode ++
    optionalCode txPowerCode message.clustersMaxTxPower ++
    optionalCode (frameOffsetCode message.mu) message.frameOffset ++
    optionalCode nextClusterChannelCode message.nextClusterChannel ++
    optionalCode timeToNextCode message.timeToNext

variable {fieldCode : Field → List UInt8}

/-- An optional field is as long as its size or absent. -/
theorem optionalCode_length
    {size : Nat}
    (sized : ∀ field, (fieldCode field).length = size)
    (field : Option Field) :
    (optionalCode fieldCode field).length =
      optionalSize field.isSome size := by
  cases field <;> simp [optionalCode, optionalSize, sized]

theorem code_length (message : ClusterBeaconMessage) :
    message.code.length = message.getPackedSize := by
  rw [code, List.length_append, List.length_append, List.length_append,
    List.length_append, optionalCode_length txPowerCode_length,
    optionalCode_length (frameOffsetCode_length message.mu),
    optionalCode_length nextClusterChannelCode_length,
    optionalCode_length timeToNextCode_length]
  simp [getPackedSize, optionalSize, fixedCode]

/-- The flags of a message give its size. -/
theorem sizeByFlags_flagsOf (message : ClusterBeaconMessage) :
    sizeByFlags message.mu message.flagsOf = message.getPackedSize := by
  obtain ⟨txPower, -, fo, nextChannel, timeToNext⟩ :=
    flag_flags message.clustersMaxTxPower.isSome
      message.hasPowerConstraints message.frameOffset.isSome
      message.nextClusterChannel.isSome message.timeToNext.isSome
  rw [sizeByFlags_eq, flagsOf, txPower, fo, nextChannel, timeToNext]
  simp [getPackedSize, optionalSize]

/-- Writing an optional field extends what was written before. -/
theorem packOptional_behind
    {start size : Nat}
    {write : Field → Nat → Memory → Memory}
    (sized : ∀ field, (fieldCode field).length = size)
    (writes :
      ∀ field octets memory,
        write field (start + octets.length)
            (Memory.write start octets memory) =
          Memory.write start (octets ++ fieldCode field) memory)
    (field : Option Field)
    (octets : List UInt8)
    (memory : Memory) :
    packOptional start size write field
        (octets.length, memory.write start octets) =
      ((octets ++ optionalCode fieldCode field).length,
        memory.write start (octets ++ optionalCode fieldCode field)) := by
  cases field with
  | none => simp [packOptional, optionalCode]
  | some field => simp [packOptional, optionalCode, writes, sized]

/-- The required octets are written one behind the other. -/
theorem packRequired_eq
    (message : ClusterBeaconMessage)
    (macPduOffset : Nat)
    (memory : Memory) :
    message.packRequired macPduOffset memory =
      memory.write macPduOffset message.fixedCode := by
  simp only [packRequired, Memory.assign_eq_write macPduOffset]
  rw [Memory.assign_behind macPduOffset (by rfl)]
  rw [Memory.assignOr_inside macPduOffset (by simp),
    Memory.assignOr_inside macPduOffset (by simp),
    Memory.assignOr_inside macPduOffset (by simp),
    Memory.assignOr_inside macPduOffset (by simp),
    Memory.assign_behind macPduOffset (by simp),
    Memory.assignOr_inside macPduOffset (by simp),
    Memory.assign_behind macPduOffset (by simp),
    Memory.assignOr_inside macPduOffset (by simp),
    Memory.assignOr_inside macPduOffset (by simp)]
  rfl

variable {message : ClusterBeaconMessage}

/-- Packing writes the octets of a valid message. -/
theorem pack_valid
    (valid : message.isValid = true)
    (macPduOffset : Nat)
    (memory : Memory) :
    message.pack macPduOffset memory =
      .ok (memory.write macPduOffset message.code) := by
  have flagsWritten : Memory.write macPduOffset message.code memory
      (macPduOffset + 1) = message.flagsOf := by
    rw [Memory.write_inside _ _ (by
      rw [code_length, getPackedSize]
      omega)]
    rfl
  simp only [pack, valid, dectnrpAssert_true, ok_bind, packRequired_eq]
  rw [show (4, memory.write macPduOffset message.fixedCode) =
      (message.fixedCode.length,
        memory.write macPduOffset message.fixedCode) from rfl,
    packOptional_behind txPowerCode_length (by
      intro field octets memory
      exact Memory.assign_write _ _ _ _),
    packOptional_behind (frameOffsetCode_length message.mu) (by
      intro field octets memory
      exact Memory.l2bLower_behind _ rfl _ _ _),
    packOptional_behind nextClusterChannelCode_length (by
      intro field octets memory
      rw [writeNextClusterChannel, Memory.assign_write,
        Memory.assign_write_next]
      rfl),
    packOptional_behind timeToNextCode_length (by
      intro field octets memory
      exact Memory.l2bLower_behind _ rfl _ _ _)]
  change (do
    dectnrpAssert (sizeByFlags message.mu
        (memory.write macPduOffset message.code (macPduOffset + 1)) =
        message.code.length)
      "lengths do not match"
    Except.ok (memory.write macPduOffset message.code)) = _
  simp only [flagsWritten, sizeByFlags_flagsOf, code_length,
    decide_true, dectnrpAssert_true, ok_bind]

/-- Four upper and four lower bits are found where they were placed. -/
theorem halves_recovered
    {upper lower : UInt32}
    (upperBound : upper.toNat < 2 ^ 4)
    (lowerBound : lower.toNat < 2 ^ 4) :
    ((upper <<< 4).toUInt8 ||| lower.toUInt8).toUInt32 >>> 4 = upper ∧
      extract ((upper <<< 4).toUInt8 ||| lower.toUInt8) 0 0b1111 = lower := by
  have two :=
    @BitFields.toNat_two upper lower 4 (by decide)
      (by simp; omega) (by simpa using lowerBound)
  constructor
  · apply UInt32.toNat_inj.mp
    rw [UInt32.toNat_shiftRight, UInt8.toNat_toUInt32, two,
      Nat.shiftRight_eq_div_pow]
    simp
    omega
  · apply UInt32.toNat_inj.mp
    rw [BitFields.toNat_extract_4 _ (by decide), two]
    simp
    omega

private theorem quarters_recovered
    {upper middle lower : UInt32}
    (upperBound : upper.toNat < 2 ^ 4)
    (middleBound : middle.toNat < 2 ^ 2)
    (lowerBound : lower.toNat < 2 ^ 2) :
    ((upper <<< 4).toUInt8 ||| (middle <<< 2).toUInt8 |||
        lower.toUInt8).toUInt32 >>> 4 = upper ∧
      extract
          ((upper <<< 4).toUInt8 ||| (middle <<< 2).toUInt8 |||
            lower.toUInt8) 2 0b11 = middle ∧
      extract
          ((upper <<< 4).toUInt8 ||| (middle <<< 2).toUInt8 |||
            lower.toUInt8) 0 0b11 = lower := by
  have upperValue : (upper <<< 4).toUInt8.toNat = upper.toNat * 16 :=
    BitFields.toNat_shifted (by decide) (by simp; omega)
  have withMiddle : ((upper <<< 4).toUInt8 ||| (middle <<< 2).toUInt8).toNat =
      upper.toNat * 16 + middle.toNat * 4 := by
    rw [BitFields.toNat_or_shifted 2 (by decide) (by
      rw [upperValue]
      simp) middleBound, upperValue]
    rfl
  have whole : ((upper <<< 4).toUInt8 ||| (middle <<< 2).toUInt8 |||
      lower.toUInt8).toNat =
        upper.toNat * 16 + middle.toNat * 4 + lower.toNat := by
    rw [BitFields.toNat_or_lowest 2 (by omega) (by
      rw [withMiddle]
      omega) lowerBound, withMiddle]
  refine ⟨?_, ?_, ?_⟩
  · apply UInt32.toNat_inj.mp
    rw [UInt32.toNat_shiftRight, UInt8.toNat_toUInt32, whole,
      Nat.shiftRight_eq_div_pow]
    simp
    omega
  · apply UInt32.toNat_inj.mp
    rw [BitFields.toNat_extract_2 _ (by decide), whole]
    simp
    omega
  · apply UInt32.toNat_inj.mp
    rw [BitFields.toNat_extract_2 _ (by decide), whole]
    simp
    omega

/-- A channel number of thirteen bits is recovered from its octets. -/
theorem channel_recovered
    {channel : UInt32}
    (bound : channel.toNat ≤ 8191) :
    (channel &&& 255).toUInt8.toUInt32 |||
        (extract (channel >>> 8).toUInt8 0 0b11111 <<< 8) =
      channel := by
  have upperValue : (channel >>> 8).toNat = channel.toNat / 256 := by
    simp [UInt32.toNat_shiftRight, Nat.shiftRight_eq_div_pow]
  have lowerValue : (channel &&& 255).toNat = channel.toNat % 256 := by
    rw [UInt32.toNat_and]
    exact BitFields.and_eq_mod 8 (by rfl) _
  have lowerOctet :
      (channel &&& 255).toUInt8.toUInt32.toNat = channel.toNat % 256 := by
    rw [UInt8.toNat_toUInt32, toNat_unshifted (by omega), lowerValue]
  have upperOctet : (extract (channel >>> 8).toUInt8 0 0b11111 <<< 8).toNat =
      channel.toNat / 256 * 256 := by
    rw [UInt32.toNat_shiftLeft, BitFields.toNat_extract_5 _ (by decide),
      toNat_unshifted (by omega), upperValue,
      Nat.shiftLeft_eq]
    simp
    omega
  apply UInt32.toNat_inj.mp
  rw [UInt32.toNat_or, Nat.or_comm, lowerOctet, upperOctet,
    @BitFields.or_eq_add _ _ 8 (by omega) (by omega)]
  omega

/-- What validity says about the fields. -/
structure Fields (message : ClusterBeaconMessage) : Prop where
  systemFrameNumber : message.systemFrameNumber.toNat ≤ 255
  clustersMaxTxPower :
    ∀ txPower ∈ message.clustersMaxTxPower,
      CodedEnumeration.isValid txPower = true
  frameOffset :
    ∀ frameOffset ∈ message.frameOffset,
      frameOffset.toNat < 256 ^ frameOffsetSize message.mu
  nextClusterChannel :
    ∀ channel ∈ message.nextClusterChannel, channel.toNat ≤ 8191
  networkBeaconPeriod :
    CodedEnumeration.isValid message.networkBeaconPeriod = true
  clusterBeaconPeriod :
    CodedEnumeration.isValid message.clusterBeaconPeriod = true
  countToTrigger :
    CodedEnumeration.isValid message.countToTrigger = true
  relQuality : CodedEnumeration.isValid message.relQuality = true
  minQuality : CodedEnumeration.isValid message.minQuality = true

/-- A channel number in range has thirteen bits. -/
theorem channel_le
    {channel : UInt32}
    (inRange : isAbsoluteChannelNumberInRange channel = true) :
    channel.toNat ≤ 8191 := by
  by_contra tooLarge
  have above : 8191 < channel := by
    rw [UInt32.lt_iff_toNat_lt]
    simpa using tooLarge
  simp [isAbsoluteChannelNumberInRange, above] at inRange

/-- A valid message has fields in their ranges. -/
theorem fields_of_isValid (valid : message.isValid = true) :
    Fields message := by
  simp only [isValid, Bool.ite_eq_true_distrib, Bool.false_eq_true,
    if_false_left, if_true_right, Bool.not_eq_true,
    Bool.not_eq_false'] at valid
  obtain ⟨systemFrameNumber, txPower, frameOffset, channel,
    networkBeaconPeriod, clusterBeaconPeriod, countToTrigger,
    relQuality, minQuality⟩ := valid
  refine
    { systemFrameNumber := by
        simpa [UInt32.le_iff_toNat_le] using systemFrameNumber
      clustersMaxTxPower := ?_
      frameOffset := ?_
      nextClusterChannel := ?_
      networkBeaconPeriod := networkBeaconPeriod
      clusterBeaconPeriod := clusterBeaconPeriod
      countToTrigger := countToTrigger
      relQuality := relQuality
      minQuality := by simpa using minQuality }
  · intro value included
    rw [Option.mem_def.mp included] at txPower
    simpa using txPower
  · intro value included
    rw [Option.mem_def.mp included] at frameOffset
    rw [frameOffsetSize]
    split
    · rename_i small
      simp [small, UInt32.lt_iff_toNat_lt] at frameOffset
      omega
    · rename_i large
      simp [large, UInt32.lt_iff_toNat_lt] at frameOffset
      omega
  · intro value included
    rw [Option.mem_def.mp included] at channel
    exact channel_le (by simpa using channel)

private theorem window_four
    {start : Nat}
    {octet0 octet1 octet2 octet3 : UInt8}
    (holds : memory.window start 4 = [octet0, octet1, octet2, octet3]) :
    memory start = octet0 ∧ memory (start + 1) = octet1 ∧
      memory (start + 2) = octet2 ∧ memory (start + 3) = octet3 := by
  simpa [Memory.window, List.range_succ] using holds

variable {address : Nat}

theorem txPower_recovered
    {field : Option ClustersMaxTxPower}
    (valid : ∀ txPower ∈ field, CodedEnumeration.isValid txPower = true)
    (holds :
      memory.window address (optionalSize field.isSome 1) =
        optionalCode txPowerCode field) :
    optionalAt field.isSome
        (fromCodedValue (extract (memory address) 0 0b1111)) =
      field := by
  cases field with
  | none => rfl
  | some txPower =>
      obtain ⟨bound, recovered⟩ :=
        ClustersMaxTxPower.recovers (valid txPower rfl)
      have octet : memory address = (toUnderlying txPower).toUInt8 := by
        simpa [Memory.window, List.range_succ, optionalSize,
          optionalCode, txPowerCode] using holds
      have value :
          extract (memory address) 0 0b1111 = toUnderlying txPower := by
        apply UInt32.toNat_inj.mp
        rw [octet, BitFields.toNat_extract_4 _ (by decide),
          toNat_unshifted (by omega)]
        simp
        omega
      rw [value, recovered]
      rfl

variable {field : Option UInt32}

private theorem frameOffset_recovered
    {mu : Nat}
    (valid :
      ∀ frameOffset ∈ field, frameOffset.toNat < 256 ^ frameOffsetSize mu)
    (holds :
      memory.window address
          (optionalSize field.isSome (frameOffsetSize mu)) =
        optionalCode (frameOffsetCode mu) field) :
    optionalAt field.isSome
        (UInt32.ofNat (fromBigEndian
          (memory.window address (frameOffsetSize mu)))) =
      field := by
  cases field with
  | none => rfl
  | some frameOffset =>
      have octets : memory.window address (frameOffsetSize mu) =
          toBigEndian frameOffset.toNat (frameOffsetSize mu) := by
        simpa [optionalSize, optionalCode, frameOffsetCode] using holds
      rw [octets, fromBigEndian_toBigEndian,
        Nat.mod_eq_of_lt (valid frameOffset rfl), UInt32.ofNat_toNat]
      rfl

theorem nextClusterChannel_recovered
    (valid : ∀ channel ∈ field, channel.toNat ≤ 8191)
    (holds :
      memory.window address (optionalSize field.isSome 2) =
        optionalCode nextClusterChannelCode field) :
    optionalAt field.isSome
        ((memory (address + 1)).toUInt32 |||
          (extract (memory address) 0 0b11111 <<< 8)) =
      field := by
  cases field with
  | none => rfl
  | some channel =>
      have octets : memory address = (channel >>> 8).toUInt8 ∧
          memory (address + 1) = (channel &&& 255).toUInt8 := by
        simpa [Memory.window, List.range_succ, optionalSize,
          optionalCode, nextClusterChannelCode] using holds
      rw [octets.1, octets.2, channel_recovered (valid channel rfl)]
      rfl

private theorem timeToNext_recovered
    (holds :
      memory.window address (optionalSize field.isSome 4) =
        optionalCode timeToNextCode field) :
    optionalAt field.isSome
        (UInt32.ofNat (fromBigEndian (memory.window address 4))) =
      field := by
  cases field with
  | none => rfl
  | some timeToNext =>
      have octets :
          memory.window address 4 = toBigEndian timeToNext.toNat 4 := by
        simpa [optionalSize, optionalCode, timeToNextCode] using holds
      rw [octets, fromBigEndian_toBigEndian,
        Nat.mod_eq_of_lt (show _ < 256 ^ 4 from timeToNext.toNat_lt),
        UInt32.ofNat_toNat]
      rfl

/-- The size of a message is the sum of its fields. -/
private theorem getPackedSize_eq (message : ClusterBeaconMessage) :
    message.getPackedSize =
      4 + optionalSize message.clustersMaxTxPower.isSome 1 +
        optionalSize message.frameOffset.isSome (frameOffsetSize message.mu) +
        optionalSize message.nextClusterChannel.isSome 2 +
        optionalSize message.timeToNext.isSome 4 := by
  simp [getPackedSize, optionalSize]

/-- A valid message is recovered from its octets. -/
theorem decoded_code
    (valid : message.isValid = true)
    {macPduOffset : Nat}
    (holds : memory.window macPduOffset message.getPackedSize = message.code) :
    memory (macPduOffset + 1) = message.flagsOf ∧
      decoded message.mu memory macPduOffset = message := by
  have fields := fields_of_isValid valid
  -- one window for each field
  rw [getPackedSize_eq, Memory.window_add, Memory.window_add,
    Memory.window_add, Memory.window_add, code] at holds
  obtain ⟨holds, timeToNextHolds⟩ :=
    List.append_inj' holds (by
      rw [optionalCode_length timeToNextCode_length]
      simp)
  obtain ⟨holds, channelHolds⟩ :=
    List.append_inj' holds (by
      rw [optionalCode_length nextClusterChannelCode_length]
      simp)
  obtain ⟨holds, frameOffsetHolds⟩ :=
    List.append_inj' holds (by
      rw [optionalCode_length (frameOffsetCode_length message.mu)]
      simp)
  obtain ⟨holds, txPowerHolds⟩ :=
    List.append_inj' holds (by
      rw [optionalCode_length txPowerCode_length]
      simp)
  obtain ⟨octet0, octet1, octet2, octet3⟩ := window_four holds
  obtain ⟨txFlag, powerFlag, foFlag, channelFlag, timeFlag⟩ :=
    flag_flags message.clustersMaxTxPower.isSome
      message.hasPowerConstraints message.frameOffset.isSome
      message.nextClusterChannel.isSome message.timeToNext.isSome
  obtain ⟨networkBound, networkPeriod⟩ :=
    NetworkBeaconPeriod.recovers fields.networkBeaconPeriod
  obtain ⟨clusterBound, clusterPeriod⟩ :=
    ClusterBeaconPeriod.recovers fields.clusterBeaconPeriod
  obtain ⟨countBound, count⟩ := CountToTrigger.recovers fields.countToTrigger
  obtain ⟨relBound, rel⟩ := QualityThreshold.recovers fields.relQuality
  obtain ⟨minBound, min⟩ := QualityThreshold.recovers fields.minQuality
  obtain ⟨networkBits, clusterBits⟩ :=
    halves_recovered networkBound clusterBound
  obtain ⟨countBits, relBits, minBits⟩ :=
    quarters_recovered countBound relBound minBound
  have systemFrameNumber : message.systemFrameNumber.toUInt8.toUInt32 =
      message.systemFrameNumber := by
    have bound := fields.systemFrameNumber
    apply UInt32.toNat_inj.mp
    rw [UInt8.toNat_toUInt32, toNat_unshifted (by omega)]
  refine ⟨octet1, ?_⟩
  simp only [decoded, octet0, octet1, octet2, octet3, flagsOf, txFlag,
    powerFlag, foFlag, channelFlag, timeFlag, networkBits, clusterBits,
    countBits, relBits, minBits, networkPeriod, clusterPeriod, count,
    rel, min, systemFrameNumber]
  rw [txPower_recovered fields.clustersMaxTxPower txPowerHolds,
    frameOffset_recovered fields.frameOffset frameOffsetHolds,
    nextClusterChannel_recovered fields.nextClusterChannel channelHolds,
    timeToNext_recovered timeToNextHolds]

end ClusterBeaconMessage

end DectNrp
