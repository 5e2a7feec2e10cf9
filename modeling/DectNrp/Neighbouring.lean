import DectNrp.PhyCapability

namespace DectNrp

/-!
# Neighbouring element

A neighbour is described by four octets, of which the third one has a flag for
each of five optional fields, and by these fields.  Its device class is checked
by its value, which throws if there is none, and so does packing without a next
cluster channel.  The size of that channel is counted twice when it is peeked.
-/

open FieldFormat (octet)
open FieldFormat (octet_size optionalSize_eq within_unpackOptional word
  word_size)

open CodedEnumeration (toUnderlying fromCodedValue)
open RdCapabilityIe (RadioDeviceClass)

structure NeighbouringIe where
  shortRdId : UInt32
  radioDeviceClass : Option RadioDeviceClass
  measurementResultSnr : Option UInt32
  measurementResultRssi2 : Option UInt32
  hasPowerConstraints : Bool
  nextClusterChannel : Option UInt32
  timeToNext : Option UInt32
  networkBeaconPeriod : NetworkBeaconPeriod
  clusterBeaconPeriod : ClusterBeaconPeriod
  deriving Repr, DecidableEq

namespace NeighbouringIe

/-- The checks behind that of the device class. -/
def restValid (ie : NeighbouringIe) : Bool :=
  if ie.measurementResultSnr.any fun snr => 255 < snr then false
  else if ie.measurementResultRssi2.any fun rssi2 => 255 < rssi2 then false
  else if ie.nextClusterChannel.any
      fun channel => ! isAbsoluteChannelNumberInRange channel then
    false
  else if ! CodedEnumeration.isValid ie.networkBeaconPeriod ||
      ! CodedEnumeration.isValid ie.clusterBeaconPeriod then
    false
  else true

/-- The value of the device class is asked for before its presence. -/
def isValid (ie : NeighbouringIe) : Checked Bool :=
  if 65535 < ie.shortRdId then pure false
  else do
    let deviceClass ← Checked.value ie.radioDeviceClass
    if ! deviceClass.isValid then pure false
    else pure ie.restValid

/-- The size is not asserted to be that of a valid element. -/
def getPackedSize (ie : NeighbouringIe) : Checked Nat :=
  pure (4 + ie.radioDeviceClass.isSome.toNat +
    ie.measurementResultSnr.isSome.toNat +
    ie.measurementResultRssi2.isSome.toNat +
    ie.nextClusterChannel.isSome.toNat * 2 +
    ie.timeToNext.isSome.toNat * 4)

/-- Size of an element whose third octet is known. -/
def sizeByFlags (octet2 : UInt8) : Nat :=
  4 + ((octet2 >>> 5) &&& 1).toNat + ((octet2 >>> 4) &&& 1).toNat +
    ((octet2 >>> 3) &&& 1).toNat + (octet2 &&& 0b10).toNat * 2 +
    (octet2 &&& 1).toNat * 4

def getPackedSizeByPeeking
    (macPduOffset : Nat) :
    OctetReader PeekResult := do
  let octet2 ← OctetReader.octet (macPduOffset + 2)
  pure (.ok (sizeByFlags octet2))

/-- A channel number is moved by five bits when it is written. -/
def nextChannel : FieldFormat UInt32 where
  size := 2
  write channel address memory :=
    (memory.assign address (channel >>> 5)).assign (address + 1)
      (channel &&& 255)
  read := FieldFormat.channel.read
  code channel := [(channel >>> 5).toUInt8, (channel &&& 255).toUInt8]
  code_length _ := rfl
  write_eq _ _ _ := Memory.assign_assign_next _ _ _ _
  read_within := FieldFormat.channel.read_within

@[simp] theorem nextChannel_size :
    nextChannel.size = 2 :=
  rfl

def pack
    (ie : NeighbouringIe)
    (macPduOffset : Nat)
    (memory : Memory) :
    Checked Memory := do
  let valid ← ie.isValid
  dectnrpAssert valid "Neighbouring IE is not valid"
  let memory := (FieldFormat.word 2).write ie.shortRdId macPduOffset memory
  -- octet 2
  let memory := memory.assign (macPduOffset + 2)
    (ie.radioDeviceClass.isSome.toUInt32 <<< 5)
  let memory := memory.assignOr (macPduOffset + 2)
    (ie.measurementResultSnr.isSome.toUInt32 <<< 4)
  let memory := memory.assignOr (macPduOffset + 2)
    (ie.measurementResultRssi2.isSome.toUInt32 <<< 3)
  let memory := memory.assignOr (macPduOffset + 2)
    (ie.hasPowerConstraints.toUInt32 <<< 2)
  let memory := memory.assignOr (macPduOffset + 2)
    (ie.nextClusterChannel.isSome.toUInt32 <<< 1)
  let memory := memory.assignOr (macPduOffset + 2)
    ie.timeToNext.isSome.toUInt32
  -- octet 3
  let memory := memory.assign (macPduOffset + 3)
    (toUnderlying ie.networkBeaconPeriod <<< 4)
  let memory := memory.assignOr (macPduOffset + 3)
    (toUnderlying ie.clusterBeaconPeriod)
  -- the next cluster channel and the device class have to be there
  let channel ← Checked.value ie.nextClusterChannel
  let state := nextChannel.pack macPduOffset channel (4, memory)
  let state := (FieldFormat.word 4).packOptional macPduOffset
    ie.timeToNext state
  let state := octet.packOptional macPduOffset
    ie.measurementResultRssi2 state
  let state := octet.packOptional macPduOffset
    ie.measurementResultSnr state
  let deviceClass ← Checked.value ie.radioDeviceClass
  let (nBytes, memory) := RadioDeviceClass.format.pack macPduOffset
    deviceClass state
  assertPeeked ((getPackedSizeByPeeking macPduOffset).eval memory) nBytes
  pure memory

/-- Read the fields of an element; all fields are overwritten. -/
def unpack
    (macPduOffset : Nat) :
    OctetReader (NeighbouringIe × Nat) := do
  let shortRdId ← (FieldFormat.word 2).read macPduOffset
  let octet2 ← OctetReader.octet (macPduOffset + 2)
  let octet3 ← OctetReader.octet (macPduOffset + 3)
  let (nextClusterChannel, nBytes) ←
    nextChannel.unpackOptional macPduOffset (octet2 &&& 0b10 != 0) 4
  let (timeToNext, nBytes) ←
    (FieldFormat.word 4).unpackOptional macPduOffset
      (octet2 &&& 1 != 0) nBytes
  let (rssi2, nBytes) ←
    octet.unpackOptional macPduOffset
      ((octet2 >>> 3) &&& 1 != 0) nBytes
  let (snr, nBytes) ←
    octet.unpackOptional macPduOffset
      ((octet2 >>> 4) &&& 1 != 0) nBytes
  let (deviceClass, nBytes) ←
    RadioDeviceClass.format.unpackOptional macPduOffset
      ((octet2 >>> 5) &&& 1 != 0) nBytes
  pure
    ({ shortRdId := shortRdId
       radioDeviceClass := deviceClass
       measurementResultSnr := snr
       measurementResultRssi2 := rssi2
       hasPowerConstraints := (octet2 >>> 2) &&& 1 != 0
       nextClusterChannel := nextClusterChannel
       timeToNext := timeToNext
       networkBeaconPeriod :=
         fromCodedValue (BitFields.extract octet3 0 0xF0)
       clusterBeaconPeriod :=
         fromCodedValue (BitFields.extract octet3 0 0xF) }, nBytes)

/-- Nothing of the object that unpacks an element is kept. -/
def codec : MmieCodec NeighbouringIe where
  isValid := isValid
  getPackedSize := getPackedSize
  pack := pack
  getPackedSizeMinToPeek := 3
  getPackedSizeByPeeking _ := getPackedSizeByPeeking
  unpack _ octets macPduOffset :=
    unpackRead getPackedSize isValid (unpack macPduOffset) octets
  SameContext _ _ := True
  sameContext_refl _ := trivial

/-- The third octet. -/
def octet2Of
    (deviceClass snr rssi2 power channel time : Bool) :
    UInt8 :=
  (deviceClass.toUInt32 <<< 5).toUInt8 ||| (snr.toUInt32 <<< 4).toUInt8 |||
    (rssi2.toUInt32 <<< 3).toUInt8 ||| (power.toUInt32 <<< 2).toUInt8 |||
    (channel.toUInt32 <<< 1).toUInt8 ||| time.toUInt32.toUInt8

theorem sizeByFlags_octet2Of
    (deviceClass snr rssi2 power channel time : Bool) :
    sizeByFlags (octet2Of deviceClass snr rssi2 power channel time) =
      4 + deviceClass.toNat + snr.toNat + rssi2.toNat +
        channel.toNat * 4 + time.toNat * 4 := by
  revert deviceClass snr rssi2 power channel time
  decide

/-- The octets of an element with a device class and a channel. -/
def code
    (ie : NeighbouringIe)
    (deviceClass : RadioDeviceClass)
    (channel : UInt32) :
    List UInt8 :=
  (FieldFormat.word 2).code ie.shortRdId ++
    [octet2Of ie.radioDeviceClass.isSome ie.measurementResultSnr.isSome
        ie.measurementResultRssi2.isSome ie.hasPowerConstraints
        ie.nextClusterChannel.isSome ie.timeToNext.isSome,
      (toUnderlying ie.networkBeaconPeriod <<< 4).toUInt8 |||
        (toUnderlying ie.clusterBeaconPeriod).toUInt8] ++
    nextChannel.code channel ++
    (FieldFormat.word 4).optionalCode ie.timeToNext ++
    octet.optionalCode ie.measurementResultRssi2 ++
    octet.optionalCode ie.measurementResultSnr ++
    RadioDeviceClass.format.code deviceClass

theorem code_length
    (ie : NeighbouringIe)
    (deviceClass : RadioDeviceClass)
    (channel : UInt32) :
    (ie.code deviceClass channel).length =
      7 + ie.timeToNext.isSome.toNat * 4 +
        ie.measurementResultRssi2.isSome.toNat +
        ie.measurementResultSnr.isSome.toNat := by
  simp only [code, List.length_append, FieldFormat.code_length,
    FieldFormat.optionalCode_length, optionalSize_eq,
    word_size, octet_size, nextChannel_size,
    RadioDeviceClass.format_size, List.length_cons, List.length_nil]
  omega

variable {ie : NeighbouringIe}

variable {deviceClass : RadioDeviceClass}

theorem octet2_of_holds
    {channel : UInt32}
    {memory : Memory}
    {front : Nat}
    (holds : memory.Holds front (ie.code deviceClass channel)) :
    memory (front + 2) =
      octet2Of ie.radioDeviceClass.isSome
        ie.measurementResultSnr.isSome ie.measurementResultRssi2.isSome
        ie.hasPowerConstraints ie.nextClusterChannel.isSome
        ie.timeToNext.isSome := by
  have head := holds.front.front.front.front.front
  rw [Memory.holds_append, FieldFormat.code_length, word_size] at head
  exact (Memory.holds_cons_cons.mp head.2).1

theorem pack_with_channel
    (valid : ie.isValid = .ok true)
    (hasClass : ie.radioDeviceClass = some deviceClass)
    {channel : UInt32}
    (hasChannel : ie.nextClusterChannel = some channel)
    (macPduOffset : Nat)
    (memory : Memory) :
    ie.pack macPduOffset memory = (do
      assertPeeked
        (.ok (sizeByFlags
          (memory.write macPduOffset (ie.code deviceClass channel)
            (macPduOffset + 2))))
        (ie.code deviceClass channel).length
      pure (memory.write macPduOffset (ie.code deviceClass channel))) := by
  obtain ⟨upper, lower, isTwo⟩ :=
    List.length_eq_two.mp ((word 2).code_length ie.shortRdId)
  simp only [pack, valid, Checked.ok_bind, dectnrpAssert_true,
    (word 2).write_eq, isTwo, hasClass, hasChannel,
    Checked.value_some]
  rw [Memory.assign_behind macPduOffset (by rfl),
    Memory.assignOr_inside macPduOffset (by simp),
    Memory.assignOr_inside macPduOffset (by simp),
    Memory.assignOr_inside macPduOffset (by simp),
    Memory.assignOr_inside macPduOffset (by simp),
    Memory.assignOr_inside macPduOffset (by simp),
    Memory.assign_behind macPduOffset (by simp),
    Memory.assignOr_inside macPduOffset (by simp),
    FieldFormat.mk_write (by simp)]
  simp only [FieldFormat.pack_written, FieldFormat.packOptional_written,
    FieldFormat.written_fst, FieldFormat.written_snd]
  simp only [code, isTwo, hasClass, hasChannel]
  rfl

theorem deviceClass_of_isValid (valid : ie.isValid = .ok true) :
    ∃ deviceClass, ie.radioDeviceClass = some deviceClass := by
  unfold isValid at valid
  cases hasClass : ie.radioDeviceClass with
  | none =>
      rw [hasClass] at valid
      split at valid
      · cases valid
      · cases valid
  | some deviceClass => exact ⟨deviceClass, rfl⟩

theorem pack_ne_ok
    (ie : NeighbouringIe)
    (macPduOffset : Nat)
    (memory packed : Memory) :
    ie.pack macPduOffset memory ≠ .ok packed := by
  intro packs
  have valid : ie.isValid = .ok true := by
    unfold pack at packs
    obtain ⟨valid, checked, rest⟩ := Checked.bind_eq_ok.mp packs
    rw [Checked.dectnrpAssert_bind_eq_ok] at rest
    rw [checked, rest.1]
  obtain ⟨deviceClass, hasClass⟩ := deviceClass_of_isValid valid
  cases hasChannel : ie.nextClusterChannel with
  | none =>
      simp only [pack, valid, Checked.ok_bind, dectnrpAssert_true,
        hasChannel, Checked.value_none] at packs
      cases packs
  | some channel =>
      rw [pack_with_channel valid hasClass hasChannel,
        Checked.bind_eq_ok] at packs
      obtain ⟨_, passes, -⟩ := packs
      have isSize := Except.ok.inj (assertPeeked_eq_ok.mp passes)
      rw [octet2_of_holds (Memory.holds_write _ _ _),
        sizeByFlags_octet2Of, code_length, hasClass, hasChannel]
        at isSize
      simp only [Option.isSome_some, Bool.toNat_true] at isSize
      omega

/-- Whatever the element is, it is not packed and restored. -/
theorem neighbouring_not_roundTrips
    (ie : NeighbouringIe) :
    ¬ codec.RoundTrips ie := by
  intro roundTrips
  obtain ⟨packed, packs⟩ := roundTrips.packs 0 fun _ => 0
  exact pack_ne_ok ie 0 _ packed packs

/-- The checks of `isValid`, each made only if its field is included. -/
def isAdmitted (ie : NeighbouringIe) : Bool :=
  if 65535 < ie.shortRdId then false
  else if ie.radioDeviceClass.any
      fun deviceClass => ! deviceClass.isValid then
    false
  else ie.restValid

/-- A neighbour with a channel is admitted, but cannot be packed. -/
theorem not_neighbouring_roundTrips :
    ¬ ∀ ie : NeighbouringIe,
      ie.isAdmitted = true → codec.RoundTrips ie := by
  intro restores
  let ie : NeighbouringIe :=
    { shortRdId := 100
      radioDeviceClass := some ⟨.kHz27, .size64⟩
      measurementResultSnr := some 20
      measurementResultRssi2 := some 200
      hasPowerConstraints := false
      nextClusterChannel := some 1700
      timeToNext := some 1000
      networkBeaconPeriod := .ms50
      clusterBeaconPeriod := .ms10 }
  obtain ⟨packed, packs⟩ := (restores ie (by decide)).packs 0 fun _ => 0
  exact pack_ne_ok ie 0 _ packed packs

/-- Where the time to the next beacon starts. -/
def timeOffset (octet2 : UInt8) : Nat :=
  4 + nextChannel.optionalSize (octet2 &&& 0b10 != 0)

/-- Where the measurement of the signal strength starts. -/
def rssi2Offset (octet2 : UInt8) : Nat :=
  timeOffset octet2 +
    (FieldFormat.word 4).optionalSize (octet2 &&& 1 != 0)

/-- Where the measurement of the noise starts. -/
def snrOffset (octet2 : UInt8) : Nat :=
  rssi2Offset octet2 +
    octet.optionalSize ((octet2 >>> 3) &&& 1 != 0)

/-- Where the device class starts. -/
def deviceClassOffset (octet2 : UInt8) : Nat :=
  snrOffset octet2 +
    octet.optionalSize ((octet2 >>> 4) &&& 1 != 0)

/-- Number of octets of an element whose third octet is known. -/
def bytesRead (octet2 : UInt8) : Nat :=
  deviceClassOffset octet2 +
    RadioDeviceClass.format.optionalSize ((octet2 >>> 5) &&& 1 != 0)

/-- The element that octets stand for. -/
def received
    (memory : Memory)
    (front : Nat) :
    NeighbouringIe :=
  let octet2 := memory (front + 2)
  { shortRdId := (FieldFormat.word 2).valueAt memory front
    radioDeviceClass :=
      RadioDeviceClass.format.optionalAt memory
        (front + deviceClassOffset octet2) ((octet2 >>> 5) &&& 1 != 0)
    measurementResultSnr :=
      octet.optionalAt memory (front + snrOffset octet2)
        ((octet2 >>> 4) &&& 1 != 0)
    measurementResultRssi2 :=
      octet.optionalAt memory (front + rssi2Offset octet2)
        ((octet2 >>> 3) &&& 1 != 0)
    hasPowerConstraints := (octet2 >>> 2) &&& 1 != 0
    nextClusterChannel :=
      nextChannel.optionalAt memory (front + 4) (octet2 &&& 0b10 != 0)
    timeToNext :=
      (FieldFormat.word 4).optionalAt memory (front + timeOffset octet2)
        (octet2 &&& 1 != 0)
    networkBeaconPeriod :=
      fromCodedValue (BitFields.extract (memory (front + 3)) 0 0xF0)
    clusterBeaconPeriod :=
      fromCodedValue (BitFields.extract (memory (front + 3)) 0 0xF) }

theorem eval_unpack
    (memory : Memory)
    (front : Nat) :
    (unpack front).eval memory =
      (received memory front, bytesRead (memory (front + 2))) := by
  simp only [unpack, OctetReader.eval_bind, OctetReader.eval_octet,
    FieldFormat.eval_unpackOptional, OctetReader.eval_pure]
  rfl

/-- Unpacking loads the octets that are counted. -/
theorem within_unpack
    {memory : Memory}
    {limit front : Nat}
    (inside : front + bytesRead (memory (front + 2)) ≤ limit) :
    (unpack front).Within memory limit := by
  simp only [bytesRead, deviceClassOffset, snrOffset, rssi2Offset,
    timeOffset] at inside
  simp only [unpack, OctetReader.within_bind, OctetReader.within_octet,
    OctetReader.eval_octet, FieldFormat.eval_unpackOptional,
    OctetReader.within_pure, and_true]
  exact ⟨(word 2).read_within _ _ _ (by simp; omega), by omega, by omega,
      within_unpackOptional _ (by omega),
      within_unpackOptional _ (by omega),
      within_unpackOptional _ (by omega),
      within_unpackOptional _ (by omega),
      within_unpackOptional _ (by omega)⟩

/-- At least as many octets are peeked as are read. -/
theorem bytesRead_le_sizeByFlags (octet2 : UInt8) :
    bytesRead octet2 ≤ sizeByFlags octet2 := by
  simp only [bytesRead, deviceClassOffset, snrOffset, rssi2Offset,
    timeOffset, sizeByFlags, optionalSize_eq,
    word_size, octet_size, nextChannel_size,
    RadioDeviceClass.format_size]
  revert octet2
  apply BitFields.forall_octet
  decide +kernel

theorem getPackedSize_received
    (memory : Memory)
    (front : Nat) :
    (received memory front).getPackedSize =
      .ok (bytesRead (memory (front + 2))) := by
  simp only [getPackedSize, received, FieldFormat.optionalAt_isSome,
    bytesRead, deviceClassOffset, snrOffset, rssi2Offset, timeOffset,
    optionalSize_eq, word_size,
    octet_size, nextChannel_size,
    RadioDeviceClass.format_size, Checked.pure_eq_ok]
  congr 1
  omega

/-- The check of what is received returns if there is a device class. -/
theorem received_isValid_iff
    (memory : Memory)
    (front : Nat) :
    (∃ valid, (received memory front).isValid = .ok valid) ↔
      (memory (front + 2) >>> 5) &&& 1 ≠ 0 := by
  have shortRdId : ¬ 65535 < (received memory front).shortRdId := by
    have bound := @FieldFormat.word_valueAt_lt 2 memory front
    rw [UInt32.lt_iff_toNat_lt]
    exact Nat.not_lt.mpr (Nat.le_of_lt_succ bound)
  have hasClass : (received memory front).radioDeviceClass.isSome = true ↔
      (memory (front + 2) >>> 5) &&& 1 ≠ 0 := by
    simp only [received, FieldFormat.optionalAt_isSome, bne_iff_ne]
  rw [isValid, if_neg shortRdId, ← hasClass]
  cases (received memory front).radioDeviceClass with
  | none => simp
  | some deviceClass =>
      by_cases valid : deviceClass.isValid = true <;> simp [valid]

/-- Unpacking is safe exactly if a device class is announced. -/
theorem unpacksSafely_iff
    (initial : NeighbouringIe)
    (memory : Memory)
    (front : Nat) :
    codec.UnpacksSafely initial memory front ↔
      (memory (front + 2) >>> 5) &&& 1 ≠ 0 := by
  have peeked : codec.peek initial memory front =
      .ok (.ok (sizeByFlags (memory (front + 2)))) := by
    have within :
        (getPackedSizeByPeeking front).Within memory (front + 3) := by
      simp [getPackedSizeByPeeking]
    exact OctetReader.run_window within
  rw [@MmieCodec.unpacksSafely_iff _ codec initial memory front
    (unpack front) fun _ => rfl]
  simp only [peeked, Except.ok.injEq, forall_eq', eval_unpack]
  rw [and_iff_right (within_unpack
    (Nat.add_le_add_left (bytesRead_le_sizeByFlags _) front))]
  exact (and_iff_right (getPackedSize_received memory front)).trans
      (received_isValid_iff memory front)

end NeighbouringIe

end DectNrp
