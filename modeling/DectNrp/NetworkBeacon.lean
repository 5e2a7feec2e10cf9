import DectNrp.ClusterBeacon
import Mathlib.Data.List.ReduceOption

namespace DectNrp

/-!
# Network beacon messages

Fields of a network beacon are packed in order: eight required octets, then the
transmit power, the current cluster channel and up to three additional network
beacon channels.  The additional channels are announced by their number only.
-/

open BitFields (extract)
open Checked (ok_bind)

structure NetworkBeaconMessage where
  clustersMaxTxPower : Option ClustersMaxTxPower
  hasPowerConstraints : Bool
  currentClusterChannel : Option UInt32
  networkBeaconChannel0 : Option UInt32
  networkBeaconChannel1 : Option UInt32
  networkBeaconChannel2 : Option UInt32
  networkBeaconPeriod : NetworkBeaconPeriod
  clusterBeaconPeriod : ClusterBeaconPeriod
  nextClusterChannel : UInt32
  timeToNext : UInt32
  deriving Repr, DecidableEq

namespace NetworkBeaconMessage

open CodedEnumeration (toUnderlying fromCodedValue)
open ClusterBeaconMessage

def zero : NetworkBeaconMessage where
  clustersMaxTxPower := none
  hasPowerConstraints := false
  currentClusterChannel := none
  networkBeaconChannel0 := none
  networkBeaconChannel1 := none
  networkBeaconChannel2 := none
  networkBeaconPeriod := .notDefined
  clusterBeaconPeriod := .notDefined
  nextClusterChannel := undefinedNumeric32
  timeToNext := undefinedNumeric32

/-- An optional channel is not out of range. -/
def channelValid (channel : Option UInt32) : Bool :=
  ! channel.any fun channel => ! isAbsoluteChannelNumberInRange channel

def isValid (message : NetworkBeaconMessage) : Bool :=
  if message.clustersMaxTxPower.any
      fun txPower => ! CodedEnumeration.isValid txPower then
    false
  else if ! channelValid message.currentClusterChannel then false
  else if ! channelValid message.networkBeaconChannel0 then false
  else if ! channelValid message.networkBeaconChannel1 then false
  else if ! channelValid message.networkBeaconChannel2 then false
  else if ! CodedEnumeration.isValid message.networkBeaconPeriod then
    false
  else if ! CodedEnumeration.isValid message.clusterBeaconPeriod then
    false
  else if ! isAbsoluteChannelNumberInRange message.nextClusterChannel then
    false
  else true

def getPackedSize (message : NetworkBeaconMessage) : Nat :=
  8 + message.clustersMaxTxPower.isSome.toNat +
    message.currentClusterChannel.isSome.toNat * 2 +
    message.networkBeaconChannel0.isSome.toNat * 2 +
    message.networkBeaconChannel1.isSome.toNat * 2 +
    message.networkBeaconChannel2.isSome.toNat * 2

/-- Size of a message whose first octet is known. -/
def sizeByFlags (octet0 : UInt8) : Nat :=
  8 + (extract octet0 4 0b1).toNat +
    (extract octet0 2 0b1).toNat * 2 +
    (extract octet0 0 0b11).toNat * 2

def getPackedSizeMinToPeek : Nat := 1

/-- Size of a packed message; peeking never fails. -/
def getPackedSizeByPeeking
    (octets : List UInt8)
    (macPduOffset : Nat) :
    Checked (Option Nat) := do
  let octet0 ← loadOctet octets macPduOffset
  pure (some (sizeByFlags octet0))

/-- Write the eight required octets. -/
def packRequired
    (message : NetworkBeaconMessage)
    (macPduOffset : Nat)
    (memory : Memory) :
    Memory :=
  -- octet 0
  let memory := memory.assign macPduOffset
    (message.clustersMaxTxPower.isSome.toUInt32 <<< 4)
  let memory := memory.assignOr macPduOffset
    (message.hasPowerConstraints.toUInt32 <<< 3)
  let memory := memory.assignOr macPduOffset
    (message.currentClusterChannel.isSome.toUInt32 <<< 2)
  let memory := memory.assignOr macPduOffset
    (message.networkBeaconChannel0.isSome.toUInt32 +
      message.networkBeaconChannel1.isSome.toUInt32 +
      message.networkBeaconChannel2.isSome.toUInt32)
  -- octet 1
  let memory := memory.assign (macPduOffset + 1)
    (toUnderlying message.networkBeaconPeriod <<< 4)
  let memory := memory.assignOr (macPduOffset + 1)
    (toUnderlying message.clusterBeaconPeriod)
  -- octets 2 and 3
  let memory := memory.assign (macPduOffset + 2)
    (message.nextClusterChannel >>> 8)
  let memory := memory.assign (macPduOffset + 3)
    (message.nextClusterChannel &&& 255)
  -- octets 4 to 7
  memory.l2bLower (macPduOffset + 4) message.timeToNext.toNat 4

def pack
    (message : NetworkBeaconMessage)
    (macPduOffset : Nat)
    (memory : Memory) :
    Checked Memory := do
  dectnrpAssert message.isValid "network beacon message is not valid"
  let memory := message.packRequired macPduOffset memory
  -- optional fields
  let state := (8, memory)
  let state := packOptional macPduOffset 1 writeTxPower
    message.clustersMaxTxPower state
  let state := packOptional macPduOffset 2 writeNextClusterChannel
    message.currentClusterChannel state
  let state := packOptional macPduOffset 2 writeNextClusterChannel
    message.networkBeaconChannel0 state
  let state := packOptional macPduOffset 2 writeNextClusterChannel
    message.networkBeaconChannel1 state
  let (offset, memory) := packOptional macPduOffset 2
    writeNextClusterChannel message.networkBeaconChannel2 state
  -- peeking at the packed message always has a value
  dectnrpAssert (sizeByFlags (memory macPduOffset) = offset)
    "lengths do not match"
  pure memory

/-- Additional channels that are included, by their number. -/
def includeNetworkBeaconChannels (octet0 : UInt8) : Bool × Bool × Bool :=
  let nofChannels := extract octet0 0 0b11
  if nofChannels = 3 then (true, true, true)
  else if nofChannels = 2 then (true, true, false)
  else if nofChannels = 1 then (true, false, false)
  else (false, false, false)

def unpack
    (octets : List UInt8)
    (macPduOffset : Nat) :
    Checked (Bool × NetworkBeaconMessage) := do
  let message := zero
  let octet0 ← loadOctet octets macPduOffset
  let octet1 ← loadOctet octets (macPduOffset + 1)
  let octet2 ← loadOctet octets (macPduOffset + 2)
  let octet3 ← loadOctet octets (macPduOffset + 3)
  let timeToNext ← b2lLower octets (macPduOffset + 4) 4
  let message := { message with
    hasPowerConstraints := flag octet0 3
    networkBeaconPeriod := fromCodedValue (octet1.toUInt32 >>> 4)
    clusterBeaconPeriod :=
      fromCodedValue (extract octet1 0 0b1111)
    nextClusterChannel :=
      octet3.toUInt32 ||| (extract octet2 0 0b11111 <<< 8)
    timeToNext := UInt32.ofNat timeToNext
  }
  let txPower := flag octet0 4
  let current := flag octet0 2
  let channels := includeNetworkBeaconChannels octet0
  let (clustersMaxTxPower, offset) ←
    unpackOptional macPduOffset txPower 1 (readTxPower octets) 8
  let (currentClusterChannel, offset) ←
    unpackOptional macPduOffset current 2
      (readNextClusterChannel octets) offset
  let (networkBeaconChannel0, offset) ←
    unpackOptional macPduOffset channels.1 2
      (readNextClusterChannel octets) offset
  let (networkBeaconChannel1, offset) ←
    unpackOptional macPduOffset channels.2.1 2
      (readNextClusterChannel octets) offset
  let (networkBeaconChannel2, offset) ←
    unpackOptional macPduOffset channels.2.2 2
      (readNextClusterChannel octets) offset
  let message := { message with
    clustersMaxTxPower := clustersMaxTxPower
    currentClusterChannel := currentClusterChannel
    networkBeaconChannel0 := networkBeaconChannel0
    networkBeaconChannel1 := networkBeaconChannel1
    networkBeaconChannel2 := networkBeaconChannel2
  }
  dectnrpAssert (message.getPackedSize = offset) "lengths do not match"
  pure (message.isValid, message)

/-- The channel number at an address. -/
def channelAt
    (memory : Memory)
    (address : Nat) :
    UInt32 :=
  (memory (address + 1)).toUInt32 |||
    (extract (memory address) 0 0b11111 <<< 8)

/-- The message that the octets at an address stand for. -/
def decoded
    (memory : Memory)
    (macPduOffset : Nat) :
    NetworkBeaconMessage :=
  let octet0 := memory macPduOffset
  let octet1 := memory (macPduOffset + 1)
  let channels := includeNetworkBeaconChannels octet0
  let offset1 := 8 + optionalSize (flag octet0 4) 1
  let offset2 := offset1 + optionalSize (flag octet0 2) 2
  let offset3 := offset2 + optionalSize channels.1 2
  let offset4 := offset3 + optionalSize channels.2.1 2
  { clustersMaxTxPower :=
      optionalAt (flag octet0 4)
        (fromCodedValue
          (extract (memory (macPduOffset + 8)) 0 0b1111))
    hasPowerConstraints := flag octet0 3
    currentClusterChannel :=
      optionalAt (flag octet0 2)
        (channelAt memory (macPduOffset + offset1))
    networkBeaconChannel0 :=
      optionalAt channels.1 (channelAt memory (macPduOffset + offset2))
    networkBeaconChannel1 :=
      optionalAt channels.2.1 (channelAt memory (macPduOffset + offset3))
    networkBeaconChannel2 :=
      optionalAt channels.2.2 (channelAt memory (macPduOffset + offset4))
    networkBeaconPeriod := fromCodedValue (octet1.toUInt32 >>> 4)
    clusterBeaconPeriod :=
      fromCodedValue (extract octet1 0 0b1111)
    nextClusterChannel := channelAt memory (macPduOffset + 2)
    timeToNext :=
      UInt32.ofNat
        (fromBigEndian (memory.window (macPduOffset + 4) 4)) }

theorem nofChannels_eq (octet0 : UInt8) :
    (extract octet0 0 0b11).toNat * 2 =
      optionalSize (includeNetworkBeaconChannels octet0).1 2 +
        optionalSize (includeNetworkBeaconChannels octet0).2.1 2 +
        optionalSize (includeNetworkBeaconChannels octet0).2.2 2 := by
  have isNumber :=
    BitFields.toNat_extract_2 octet0 (by decide : (0 : UInt32).toNat < 32)
  unfold includeNetworkBeaconChannels
  generalize extract octet0 0 0b11 = nofChannels at isNumber ⊢
  have three : nofChannels = 3 ↔ nofChannels.toNat = 3 := UInt32.toNat_inj.symm
  have two : nofChannels = 2 ↔ nofChannels.toNat = 2 := UInt32.toNat_inj.symm
  have one : nofChannels = 1 ↔ nofChannels.toNat = 1 := UInt32.toNat_inj.symm
  dsimp only
  unfold optionalSize
  split_ifs with isThree isTwo isOne
  · simp only [Bool.toNat_true, three.mp isThree]
  · simp only [Bool.toNat_true, Bool.toNat_false, two.mp isTwo]
  · simp only [Bool.toNat_true, Bool.toNat_false, one.mp isOne]
  · rw [three] at isThree
    rw [two] at isTwo
    rw [one] at isOne
    simp only [Bool.toNat_false]
    omega

/-- The size of a message is the sum of its fields. -/
theorem sizeByFlags_eq (octet0 : UInt8) :
    sizeByFlags octet0 =
      8 + optionalSize (flag octet0 4) 1 +
        optionalSize (flag octet0 2) 2 +
        optionalSize (includeNetworkBeaconChannels octet0).1 2 +
        optionalSize (includeNetworkBeaconChannels octet0).2.1 2 +
        optionalSize (includeNetworkBeaconChannels octet0).2.2 2 := by
  unfold sizeByFlags
  rw [nofChannels_eq, toNat_flag _ (by decide), toNat_flag _ (by decide)]
  unfold optionalSize
  omega

variable {memory : Memory}

theorem readChannel_window
    {limit address : Nat}
    (inside : address + 2 ≤ limit) :
    readNextClusterChannel (memory.window 0 limit) address =
      .ok (channelAt memory address) := by
  unfold readNextClusterChannel
  rw [Memory.loadOctet_window (by omega), ok_bind,
    Memory.loadOctet_window (by omega), ok_bind]
  rfl

/-- An optional channel is read if its octets are there. -/
theorem unpackChannel_window
    {limit macPduOffset offset : Nat}
    {included : Bool}
    (inside : macPduOffset + offset + optionalSize included 2 ≤ limit) :
    unpackOptional macPduOffset included 2
        (readNextClusterChannel (memory.window 0 limit)) offset =
      .ok
        (optionalAt included (channelAt memory (macPduOffset + offset)),
          offset + optionalSize included 2) :=
  unpackOptional_eq fun isIncluded => readChannel_window (by
    rwa [isIncluded] at inside)

/-- Unpacking reads as many octets as peeking reports. -/
theorem unpack_window
    {limit macPduOffset : Nat}
    (inside : macPduOffset + sizeByFlags (memory macPduOffset) ≤ limit) :
    unpack (memory.window 0 limit) macPduOffset =
      .ok ((decoded memory macPduOffset).isValid,
        decoded memory macPduOffset) := by
  rw [sizeByFlags_eq] at inside
  have octet0Read :=
    @Memory.loadOctet_window memory limit macPduOffset (by omega)
  have octet1Read :=
    @Memory.loadOctet_window memory limit (macPduOffset + 1) (by omega)
  have octet2Read :=
    @Memory.loadOctet_window memory limit (macPduOffset + 2) (by omega)
  have octet3Read :=
    @Memory.loadOctet_window memory limit (macPduOffset + 3) (by omega)
  have timeRead :=
    @Memory.b2lLower_window memory limit (macPduOffset + 4) 4 (by omega)
  unfold unpack decoded
  generalize memory macPduOffset = octet0 at inside octet0Read ⊢
  rw [octet0Read, ok_bind, octet1Read, ok_bind,
    octet2Read, ok_bind, octet3Read, ok_bind, timeRead,
    ok_bind]
  dsimp only
  generalize includeNetworkBeaconChannels octet0 = channels at inside ⊢
  simp only [optionalSize] at inside
  rw [unpackOptional_eq (fun included => by
      simp only [included, Bool.toNat_true] at inside
      rw [readTxPower, Memory.loadOctet_window (by omega)]
      rfl),
    ok_bind,
    unpackChannel_window (by simp only [optionalSize]; omega),
    ok_bind,
    unpackChannel_window (by simp only [optionalSize]; omega),
    ok_bind,
    unpackChannel_window (by simp only [optionalSize]; omega),
    ok_bind,
    unpackChannel_window (by simp only [optionalSize]; omega),
    ok_bind]
  -- the size of what was read is where the reading ended
  simp only [getPackedSize, optionalAt_isSome, optionalSize, Nat.mul_one,
    decide_true, dectnrpAssert_true, ok_bind, Checked.pure_eq_ok]
  rfl

/-- The first octet, made of three flags and a number. -/
def flags
    (txPower powerConst current : Bool)
    (nofChannels : UInt32) :
    UInt8 :=
  (txPower.toUInt32 <<< 4).toUInt8 |||
    (powerConst.toUInt32 <<< 3).toUInt8 |||
    (current.toUInt32 <<< 2).toUInt8 ||| nofChannels.toUInt8

/-- Number of additional channels. -/
def nofChannels (message : NetworkBeaconMessage) : UInt32 :=
  message.networkBeaconChannel0.isSome.toUInt32 +
    message.networkBeaconChannel1.isSome.toUInt32 +
    message.networkBeaconChannel2.isSome.toUInt32

/-- The first octet of a message. -/
def flagsOf (message : NetworkBeaconMessage) : UInt8 :=
  flags message.clustersMaxTxPower.isSome message.hasPowerConstraints
    message.currentClusterChannel.isSome message.nofChannels

/-- The eight fixed octets of a message. -/
def fixedCode (message : NetworkBeaconMessage) : List UInt8 :=
  [message.flagsOf,
    (toUnderlying message.networkBeaconPeriod <<< 4).toUInt8 |||
      (toUnderlying message.clusterBeaconPeriod).toUInt8,
    (message.nextClusterChannel >>> 8).toUInt8,
    (message.nextClusterChannel &&& 255).toUInt8] ++
    toBigEndian message.timeToNext.toNat 4

/-- The octets of a message. -/
def code (message : NetworkBeaconMessage) : List UInt8 :=
  message.fixedCode ++
    optionalCode txPowerCode message.clustersMaxTxPower ++
    optionalCode nextClusterChannelCode message.currentClusterChannel ++
    optionalCode nextClusterChannelCode message.networkBeaconChannel0 ++
    optionalCode nextClusterChannelCode message.networkBeaconChannel1 ++
    optionalCode nextClusterChannelCode message.networkBeaconChannel2

theorem fixedCode_length (message : NetworkBeaconMessage) :
    message.fixedCode.length = 8 := by
  simp [fixedCode, toBigEndian_length]

/-- The size of a message is the sum of its fields. -/
theorem getPackedSize_eq (message : NetworkBeaconMessage) :
    message.getPackedSize =
      8 + optionalSize message.clustersMaxTxPower.isSome 1 +
        optionalSize message.currentClusterChannel.isSome 2 +
        optionalSize message.networkBeaconChannel0.isSome 2 +
        optionalSize message.networkBeaconChannel1.isSome 2 +
        optionalSize message.networkBeaconChannel2.isSome 2 := by
  simp [getPackedSize, optionalSize]

theorem code_length (message : NetworkBeaconMessage) :
    message.code.length = message.getPackedSize := by
  rw [code, List.length_append, List.length_append, List.length_append,
    List.length_append, List.length_append, fixedCode_length,
    optionalCode_length txPowerCode_length,
    optionalCode_length nextClusterChannelCode_length,
    optionalCode_length nextClusterChannelCode_length,
    optionalCode_length nextClusterChannelCode_length,
    optionalCode_length nextClusterChannelCode_length,
    getPackedSize_eq]

/-- The flags and the number are found where they were placed. -/
theorem flag_flags
    (txPower powerConst current channel0 channel1 channel2 : Bool) :
    let octet0 := flags txPower powerConst current
      (channel0.toUInt32 + channel1.toUInt32 + channel2.toUInt32)
    flag octet0 4 = txPower ∧
      flag octet0 3 = powerConst ∧
      flag octet0 2 = current ∧
      (extract octet0 0 0b11).toNat =
        channel0.toNat + channel1.toNat + channel2.toNat := by
  revert txPower powerConst current channel0 channel1 channel2
  decide

/-- The first octet of a message gives its size. -/
theorem sizeByFlags_flagsOf (message : NetworkBeaconMessage) :
    sizeByFlags message.flagsOf = message.getPackedSize := by
  obtain ⟨txPower, -, current, channels⟩ :=
    flag_flags message.clustersMaxTxPower.isSome
      message.hasPowerConstraints message.currentClusterChannel.isSome
      message.networkBeaconChannel0.isSome
      message.networkBeaconChannel1.isSome
      message.networkBeaconChannel2.isSome
  rw [sizeByFlags, toNat_flag _ (by decide), toNat_flag _ (by decide),
    flagsOf, nofChannels, txPower, current, channels, getPackedSize]
  omega

/-- The required octets are written one behind the other. -/
theorem packRequired_eq
    (message : NetworkBeaconMessage)
    (macPduOffset : Nat)
    (memory : Memory) :
    message.packRequired macPduOffset memory =
      memory.write macPduOffset message.fixedCode := by
  simp only [packRequired, Memory.assign_eq_write macPduOffset]
  rw [Memory.assignOr_front, Memory.assignOr_front,
    Memory.assignOr_front, Memory.assign_behind macPduOffset (by rfl),
    Memory.assignOr_inside macPduOffset (by simp),
    Memory.assign_behind macPduOffset (by simp),
    Memory.assign_behind macPduOffset (by simp),
    Memory.l2bLower_behind macPduOffset (by simp)]
  rfl

/-- A channel is written behind what was written before. -/
theorem writeChannel_behind
    (start : Nat)
    (channel : UInt32)
    (octets : List UInt8)
    (memory : Memory) :
    writeNextClusterChannel channel (start + octets.length)
        (memory.write start octets) =
      memory.write start (octets ++ nextClusterChannelCode channel) := by
  rw [writeNextClusterChannel, Memory.assign_write, Memory.assign_write_next]
  rfl

variable {message : NetworkBeaconMessage}

/-- Packing writes the octets of a valid message. -/
theorem pack_valid
    (valid : message.isValid = true)
    (macPduOffset : Nat)
    (memory : Memory) :
    message.pack macPduOffset memory =
      .ok (memory.write macPduOffset message.code) := by
  have flagsWritten :
      Memory.write macPduOffset message.code memory macPduOffset =
        message.flagsOf := by
    have notEmpty : 0 < message.code.length := by
      rw [code_length, getPackedSize]
      omega
    exact Memory.write_inside macPduOffset memory notEmpty
  simp only [pack, valid, dectnrpAssert_true, ok_bind, packRequired_eq]
  rw [show (8, memory.write macPduOffset message.fixedCode) =
      (message.fixedCode.length,
        memory.write macPduOffset message.fixedCode) by
      rw [fixedCode_length],
    packOptional_behind txPowerCode_length (by
      intro field octets memory
      exact Memory.assign_write _ _ _ _),
    packOptional_behind nextClusterChannelCode_length
      (writeChannel_behind macPduOffset),
    packOptional_behind nextClusterChannelCode_length
      (writeChannel_behind macPduOffset),
    packOptional_behind nextClusterChannelCode_length
      (writeChannel_behind macPduOffset),
    packOptional_behind nextClusterChannelCode_length
      (writeChannel_behind macPduOffset)]
  change (do
    dectnrpAssert (sizeByFlags
        (memory.write macPduOffset message.code macPduOffset) =
        message.code.length)
      "lengths do not match"
    Except.ok (memory.write macPduOffset message.code)) = _
  simp only [flagsWritten, sizeByFlags_flagsOf, code_length,
    decide_true, dectnrpAssert_true, ok_bind]

/-- What validity says about the fields. -/
structure Fields (message : NetworkBeaconMessage) : Prop where
  clustersMaxTxPower :
    ∀ txPower ∈ message.clustersMaxTxPower,
      CodedEnumeration.isValid txPower = true
  currentClusterChannel :
    ∀ channel ∈ message.currentClusterChannel, channel.toNat ≤ 8191
  networkBeaconChannel0 :
    ∀ channel ∈ message.networkBeaconChannel0, channel.toNat ≤ 8191
  networkBeaconChannel1 :
    ∀ channel ∈ message.networkBeaconChannel1, channel.toNat ≤ 8191
  networkBeaconChannel2 :
    ∀ channel ∈ message.networkBeaconChannel2, channel.toNat ≤ 8191
  networkBeaconPeriod :
    CodedEnumeration.isValid message.networkBeaconPeriod = true
  clusterBeaconPeriod :
    CodedEnumeration.isValid message.clusterBeaconPeriod = true
  nextClusterChannel : message.nextClusterChannel.toNat ≤ 8191

/-- A valid optional channel has thirteen bits. -/
theorem channel_le_of_valid
    {field : Option UInt32}
    (valid : channelValid field = true) :
    ∀ channel ∈ field, channel.toNat ≤ 8191 := by
  intro channel included
  rw [Option.mem_def.mp included] at valid
  exact channel_le (by simpa [channelValid] using valid)

/-- A valid message has fields in their ranges. -/
theorem fields_of_isValid (valid : message.isValid = true) :
    Fields message := by
  simp only [isValid, Bool.ite_eq_true_distrib, Bool.false_eq_true,
    if_false_left, if_true_right, Bool.not_eq_true,
    Bool.not_eq_false'] at valid
  obtain ⟨txPower, current, channel0, channel1, channel2,
    networkBeaconPeriod, clusterBeaconPeriod, nextClusterChannel⟩ :=
    valid
  refine
    { clustersMaxTxPower := ?_
      currentClusterChannel := channel_le_of_valid current
      networkBeaconChannel0 := channel_le_of_valid channel0
      networkBeaconChannel1 := channel_le_of_valid channel1
      networkBeaconChannel2 := channel_le_of_valid channel2
      networkBeaconPeriod := networkBeaconPeriod
      clusterBeaconPeriod := clusterBeaconPeriod
      nextClusterChannel := channel_le (by simpa using nextClusterChannel) }
  intro value included
  rw [Option.mem_def.mp included] at txPower
  simpa using txPower

/-- No additional channel is present without the ones in front of it. -/
def ChannelsLeading (message : NetworkBeaconMessage) : Prop :=
  (message.networkBeaconChannel1.isSome = true →
    message.networkBeaconChannel0.isSome = true) ∧
  (message.networkBeaconChannel2.isSome = true →
    message.networkBeaconChannel1.isSome = true)

instance (message : NetworkBeaconMessage) :
    Decidable message.ChannelsLeading :=
  inferInstanceAs (Decidable (_ ∧ _))

theorem includeNetworkBeaconChannels_flagsOf
    (leading : message.ChannelsLeading) :
    includeNetworkBeaconChannels message.flagsOf =
      (message.networkBeaconChannel0.isSome,
        message.networkBeaconChannel1.isSome,
        message.networkBeaconChannel2.isSome) := by
  obtain ⟨leading1, leading2⟩ := leading
  unfold flagsOf nofChannels
  generalize message.networkBeaconChannel0.isSome = channel0 at *
  generalize message.networkBeaconChannel1.isSome = channel1 at *
  generalize message.networkBeaconChannel2.isSome = channel2 at *
  generalize message.clustersMaxTxPower.isSome = txPower
  generalize message.hasPowerConstraints = powerConst
  generalize message.currentClusterChannel.isSome = current
  revert txPower powerConst current channel0 channel1 channel2
  decide

theorem window_eight
    {start : Nat}
    {octet0 octet1 octet2 octet3 : UInt8}
    {rest : List UInt8}
    (holds :
      memory.window start 8 = [octet0, octet1, octet2, octet3] ++ rest) :
    memory start = octet0 ∧ memory (start + 1) = octet1 ∧
      memory (start + 2) = octet2 ∧ memory (start + 3) = octet3 ∧
      memory.window (start + 4) 4 = rest := by
  rw [show 8 = 4 + 4 by rfl, Memory.window_add] at holds
  obtain ⟨front, behind⟩ := List.append_inj holds (by simp)
  have octets : memory start = octet0 ∧ memory (start + 1) = octet1 ∧
      memory (start + 2) = octet2 ∧ memory (start + 3) = octet3 := by
    simpa [Memory.window, List.range_succ] using front
  exact ⟨octets.1, octets.2.1, octets.2.2.1, octets.2.2.2, behind⟩

/-- A valid message with leading channels is recovered from its octets. -/
theorem decoded_code
    (valid : message.isValid = true)
    (leading : message.ChannelsLeading)
    {memory : Memory}
    {macPduOffset : Nat}
    (holds : memory.window macPduOffset message.getPackedSize = message.code) :
    decoded memory macPduOffset = message := by
  have fields := fields_of_isValid valid
  -- one window for each field
  rw [getPackedSize_eq, Memory.window_add, Memory.window_add,
    Memory.window_add, Memory.window_add, Memory.window_add, code] at holds
  obtain ⟨holds, channel2Holds⟩ :=
    List.append_inj' holds (by
      rw [optionalCode_length nextClusterChannelCode_length]
      simp)
  obtain ⟨holds, channel1Holds⟩ :=
    List.append_inj' holds (by
      rw [optionalCode_length nextClusterChannelCode_length]
      simp)
  obtain ⟨holds, channel0Holds⟩ :=
    List.append_inj' holds (by
      rw [optionalCode_length nextClusterChannelCode_length]
      simp)
  obtain ⟨holds, currentHolds⟩ :=
    List.append_inj' holds (by
      rw [optionalCode_length nextClusterChannelCode_length]
      simp)
  obtain ⟨holds, txPowerHolds⟩ :=
    List.append_inj' holds (by
      rw [optionalCode_length txPowerCode_length]
      simp)
  obtain ⟨octet0, octet1, octet2, octet3, timeHolds⟩ := window_eight holds
  obtain ⟨txFlag, powerFlag, currentFlag, -⟩ :=
    flag_flags message.clustersMaxTxPower.isSome
      message.hasPowerConstraints message.currentClusterChannel.isSome
      message.networkBeaconChannel0.isSome
      message.networkBeaconChannel1.isSome
      message.networkBeaconChannel2.isSome
  rw [← nofChannels, ← flagsOf] at txFlag powerFlag currentFlag
  obtain ⟨networkBound, networkPeriod⟩ :=
    NetworkBeaconPeriod.recovers fields.networkBeaconPeriod
  obtain ⟨clusterBound, clusterPeriod⟩ :=
    ClusterBeaconPeriod.recovers fields.clusterBeaconPeriod
  obtain ⟨networkBits, clusterBits⟩ :=
    halves_recovered networkBound clusterBound
  have nextChannel :
      channelAt memory (macPduOffset + 2) = message.nextClusterChannel := by
    unfold channelAt
    rw [octet2, octet3, channel_recovered fields.nextClusterChannel]
  have time :
      UInt32.ofNat (fromBigEndian (memory.window (macPduOffset + 4) 4)) =
        message.timeToNext := by
    rw [timeHolds, fromBigEndian_toBigEndian,
      Nat.mod_eq_of_lt (show _ < 256 ^ 4 from message.timeToNext.toNat_lt),
      UInt32.ofNat_toNat]
  unfold decoded
  simp only [octet0, octet1, txFlag, powerFlag, currentFlag,
    includeNetworkBeaconChannels_flagsOf leading, networkBits,
    clusterBits, networkPeriod, clusterPeriod, nextChannel, time]
  unfold channelAt
  rw [txPower_recovered fields.clustersMaxTxPower txPowerHolds,
    nextClusterChannel_recovered fields.currentClusterChannel currentHolds,
    nextClusterChannel_recovered fields.networkBeaconChannel0 channel0Holds,
    nextClusterChannel_recovered fields.networkBeaconChannel1 channel1Holds,
    nextClusterChannel_recovered fields.networkBeaconChannel2 channel2Holds]

/-- The message with its additional channels moved to the front. -/
def moved (message : NetworkBeaconMessage) : NetworkBeaconMessage :=
  let channels :=
    [message.networkBeaconChannel0, message.networkBeaconChannel1,
      message.networkBeaconChannel2].reduceOption
  { message with
    networkBeaconChannel0 := channels[0]?
    networkBeaconChannel1 := channels[1]?
    networkBeaconChannel2 := channels[2]?
  }

theorem moved_nofChannels (message : NetworkBeaconMessage) :
    message.moved.nofChannels = message.nofChannels := by
  unfold nofChannels moved
  rcases message.networkBeaconChannel0 with _ | channel0 <;>
    rcases message.networkBeaconChannel1 with _ | channel1 <;>
    rcases message.networkBeaconChannel2 with _ | channel2 <;>
    rfl

theorem moved_code (message : NetworkBeaconMessage) :
    message.moved.code = message.code := by
  have sameFixed : message.moved.fixedCode = message.fixedCode := by
    unfold fixedCode flagsOf
    rw [moved_nofChannels]
    rfl
  unfold code
  rw [sameFixed]
  unfold moved
  rcases message.networkBeaconChannel0 with _ | channel0 <;>
    rcases message.networkBeaconChannel1 with _ | channel1 <;>
    rcases message.networkBeaconChannel2 with _ | channel2 <;>
    simp [optionalCode]

theorem moved_channelsLeading (message : NetworkBeaconMessage) :
    message.moved.ChannelsLeading := by
  unfold ChannelsLeading moved
  rcases message.networkBeaconChannel0 with _ | channel0 <;>
    rcases message.networkBeaconChannel1 with _ | channel1 <;>
    rcases message.networkBeaconChannel2 with _ | channel2 <;>
    simp

theorem moved_isValid (valid : message.isValid = true) :
    message.moved.isValid = true := by
  revert valid
  unfold isValid moved
  rcases message.networkBeaconChannel0 with _ | channel0 <;>
    rcases message.networkBeaconChannel1 with _ | channel1 <;>
    rcases message.networkBeaconChannel2 with _ | channel2 <;>
    simp +contextual [channelValid]

/-- Only leading channels stay where they are. -/
theorem moved_eq_iff (message : NetworkBeaconMessage) :
    message.moved = message ↔ message.ChannelsLeading := by
  obtain ⟨txPower, powerConst, current, channel0, channel1, channel2,
    networkPeriod, clusterPeriod, nextChannel, time⟩ := message
  rcases channel0 with _ | channel0 <;> rcases channel1 with _ | channel1 <;>
    rcases channel2 with _ | channel2 <;>
    simp [moved, ChannelsLeading]

/-- A valid message is received with its additional channels moved. -/
theorem unpack_code
    (valid : message.isValid = true)
    (front : Nat)
    (memory : Memory) :
    getPackedSizeByPeeking
        ((memory.write front message.code).window 0
          (front + getPackedSizeMinToPeek))
        front =
      .ok (some message.getPackedSize) ∧
    unpack
        ((memory.write front message.code).window 0
          (front + message.getPackedSize))
        front =
      .ok (true, message.moved) := by
  have stillValid := moved_isValid valid
  have holds := Memory.window_write front message.moved.code memory
  rw [code_length] at holds
  have isMessage :=
    decoded_code stillValid (moved_channelsLeading message) holds
  rw [moved_code] at isMessage
  have notEmpty : 0 < message.code.length := by
    rw [code_length, getPackedSize]
    omega
  have isFlags : memory.write front message.code front = message.flagsOf :=
    Memory.write_inside front memory notEmpty
  have isSize : sizeByFlags (memory.write front message.code front) =
      message.getPackedSize := by
    rw [isFlags, sizeByFlags_flagsOf]
  have inside : front < front + getPackedSizeMinToPeek :=
    Nat.lt_succ_self front
  constructor
  · unfold getPackedSizeByPeeking
    rw [Memory.loadOctet_window inside, ok_bind, isSize]
    rfl
  · rw [unpack_window (by rw [isSize]), isMessage, stillValid]

/-- Packing writes the packed size, and a receiver restores the message. -/
def RoundTrips (message : NetworkBeaconMessage) : Prop :=
  ∀ (front : Nat) (memory : Memory),
    ∃ octets : List UInt8,
      octets.length = message.getPackedSize ∧
      message.pack front memory = .ok (memory.write front octets) ∧
      getPackedSizeByPeeking
          ((memory.write front octets).window 0
            (front + getPackedSizeMinToPeek))
          front =
        .ok (some message.getPackedSize) ∧
      unpack
          ((memory.write front octets).window 0
            (front + message.getPackedSize))
          front =
        .ok (true, message)

/-- Whoever restores a message has not moved its channels. -/
theorem moved_eq_of_roundTrips
    (valid : message.isValid = true)
    (roundTrips : message.RoundTrips) :
    message.moved = message := by
  obtain ⟨octets, -, packed, -, restored⟩ := roundTrips 0 fun _ => 0
  -- packing wrote the octets of the message
  have sameMemory : Memory.write 0 octets (fun _ => 0) =
      Memory.write 0 message.code fun _ => 0 :=
    Except.ok.inj (packed.symm.trans (pack_valid valid 0 _))
  rw [sameMemory, (unpack_code valid 0 _).2] at restored
  exact (Prod.mk.inj (Except.ok.inj restored)).2

/--
A valid message is restored exactly if its additional channels are leading; in
any other one the channels move to the front.
-/
theorem roundTrips_iff_channelsLeading
    {message : NetworkBeaconMessage}
    (valid : message.isValid = true) :
    message.RoundTrips ↔ message.ChannelsLeading := by
  constructor
  · intro roundTrips
    exact (moved_eq_iff message).mp (moved_eq_of_roundTrips valid roundTrips)
  · intro leading front memory
    obtain ⟨peeked, unpacked⟩ := unpack_code valid front memory
    rw [(moved_eq_iff message).mpr leading] at unpacked
    exact
      ⟨message.code, code_length message, pack_valid valid front memory,
        peeked, unpacked⟩

/-- A message with two additional channels. -/
theorem roundTrips_iff_channelsLeading_two :
    let message :=
      { zero with
        clustersMaxTxPower := some .pos19dBm
        networkBeaconChannel0 := some 1657
        networkBeaconChannel1 := some 1700
        networkBeaconPeriod := .ms100
        clusterBeaconPeriod := .ms10
        nextClusterChannel := 1677 }
    message.RoundTrips ↔ message.ChannelsLeading :=
  roundTrips_iff_channelsLeading (by decide)

/-- A valid message with the second additional channel only is not restored. -/
theorem not_roundTrips_channel1 :
    ¬ ∀ message : NetworkBeaconMessage,
      message.isValid = true → message.RoundTrips := by
  intro restores
  let message :=
    { zero with
      networkBeaconChannel1 := some 1700
      networkBeaconPeriod := .ms100
      clusterBeaconPeriod := .ms10
      nextClusterChannel := 1677 }
  have valid : message.isValid = true := by decide
  have isMoved : message.moved ≠ message := by decide
  exact isMoved (moved_eq_of_roundTrips valid (restores message valid))

end NetworkBeaconMessage

end DectNrp
