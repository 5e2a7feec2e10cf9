import DectNrp.PhyCapability

namespace DectNrp

/-!
# RD capability

Seven octets describe a device and its physical layer.  The first octet tells
how many numerologies are described behind them.  They are read as long as the
offset is in front of the size that is peeked from the first octet.
-/

open BitFields (extract forall_field forall_octet)
open OctetReader (eval_bind eval_octet eval_pure)
open CodedEnumeration (toUnderlying fromCodedValue)

namespace RdCapabilityIe

/-- The physical layer of a further numerology. -/
structure PhyCapabilityAdditional where
  deviceClass : RadioDeviceClass
  capability : PhyCapability
  deriving Repr, DecidableEq

namespace PhyCapabilityAdditional

def isValid (additional : PhyCapabilityAdditional) : Bool :=
  CodedEnumeration.isValid additional.deviceClass.mu &&
    CodedEnumeration.isValid additional.deviceClass.beta &&
    additional.capability.isValid

/-- The numerology in front of its capability. -/
def format : FieldFormat PhyCapabilityAdditional :=
  (RadioDeviceClass.format.paired PhyCapability.format).mapped
    (fun additional => (additional.deviceClass, additional.capability))
    fun field => ⟨field.1, field.2⟩

@[simp] theorem format_size :
    format.size = 5 :=
  rfl

theorem format_notEmpty :
    0 < format.size := by
  rw [format_size]
  omega

theorem recovers
    {additional : PhyCapabilityAdditional}
    (valid : additional.isValid = true) :
    format.Recovers additional := by
  obtain ⟨deviceClass, capability⟩ := Bool.and_eq_true_iff.mp valid
  exact FieldFormat.mapped_recovers rfl
      (FieldFormat.paired_recovers (RadioDeviceClass.recovers deviceClass)
        (PhyCapability.recovers capability))

/-- None of the codes in five octets is reserved. -/
def Octets
    (memory : Memory)
    (address : Nat) :
    Prop :=
  memory address >>> 5 ≤ 3 ∧ (memory address >>> 1) &&& 15 ≤ 5 ∧
    PhyCapability.Octets memory (address + 1)

theorem valueAt_isValid_iff
    (memory : Memory)
    (address : Nat) :
    (format.valueAt memory address).isValid = true ↔
      Octets memory address := by
  rw [isValid, Bool.and_eq_true, Octets, ← and_assoc,
    ← RadioDeviceClass.ofOctet_isValid_iff,
    ← PhyCapability.valueAt_isValid_iff]
  rfl

end PhyCapabilityAdditional

end RdCapabilityIe

structure RdCapabilityIe where
  additionalPhyCapabilities : List RdCapabilityIe.PhyCapabilityAdditional
  release : RdCapabilityIe.Release
  operatingModes : RdCapabilityIe.OperatingMode
  supportsMeshSystemOperation : Bool
  supportsScheduledDataTransferService : Bool
  macSecurity : RdCapabilityIe.MacSecurity
  dlcServiceType : RdCapabilityIe.DlcServiceType
  phyCapability : RdCapabilityIe.PhyCapability
  deriving Repr, DecidableEq

namespace RdCapabilityIe

def isValid (ie : RdCapabilityIe) : Bool :=
  if 7 < ie.additionalPhyCapabilities.length ||
      ! ie.additionalPhyCapabilities.all
        PhyCapabilityAdditional.isValid then
    false
  else if ! CodedEnumeration.isValid ie.release ||
      ! CodedEnumeration.isValid ie.operatingModes ||
      ! CodedEnumeration.isValid ie.macSecurity ||
      ! CodedEnumeration.isValid ie.dlcServiceType ||
      ! ie.phyCapability.isValid then
    false
  else true

def getPackedSize (ie : RdCapabilityIe) : Checked Nat := do
  dectnrpAssert ie.isValid "RD Capability IE is not valid"
  pure (7 + ie.additionalPhyCapabilities.length * 5)

/-- Number of further numerologies that the first octet announces. -/
def nofAdditional (octet0 : UInt8) : Nat :=
  (octet0 >>> 5).toNat

def getPackedSizeByPeeking
    (macPduOffset : Nat) :
    OctetReader PeekResult := do
  let octet0 ← OctetReader.octet macPduOffset
  pure (.ok (7 + nofAdditional octet0 * 5))

def pack
    (ie : RdCapabilityIe)
    (macPduOffset : Nat)
    (memory : Memory) :
    Checked Memory := do
  dectnrpAssert ie.isValid "RD Capability IE is not valid"
  -- octet 0
  let memory := memory.assign macPduOffset
    (UInt32.ofNat ie.additionalPhyCapabilities.length <<< 5)
  let memory := memory.assignOr macPduOffset (toUnderlying ie.release)
  -- octet 1
  let memory := memory.assign (macPduOffset + 1)
    (toUnderlying ie.operatingModes <<< 2)
  let memory := memory.assignOr (macPduOffset + 1)
    (ie.supportsMeshSystemOperation.toUInt32 <<< 1)
  let memory := memory.assignOr (macPduOffset + 1)
    ie.supportsScheduledDataTransferService.toUInt32
  -- octet 2
  let memory := memory.assign (macPduOffset + 2)
    (toUnderlying ie.macSecurity <<< 5)
  let memory := memory.assignOr (macPduOffset + 2)
    (toUnderlying ie.dlcServiceType <<< 2)
  -- octets 3 to 6, and those of further numerologies
  let state := PhyCapability.format.pack macPduOffset ie.phyCapability
    (3, memory)
  let (nBytes, memory) := PhyCapabilityAdditional.format.packAll
    macPduOffset ie.additionalPhyCapabilities state
  assertPeeked ((getPackedSizeByPeeking macPduOffset).eval memory) nBytes
  pure memory

/-- Read the fields of an element; all fields are overwritten. -/
def unpack
    (macPduOffset : Nat) :
    OctetReader (RdCapabilityIe × Nat) := do
  let octet0 ← OctetReader.octet macPduOffset
  let octet1 ← OctetReader.octet (macPduOffset + 1)
  let octet2 ← OctetReader.octet (macPduOffset + 2)
  let (phyCapability, nBytes) ←
    PhyCapability.format.unpack macPduOffset 3
  -- peeking never fails, and finds the same size each time
  let (additionalPhyCapabilities, nBytes) ←
    PhyCapabilityAdditional.format.unpackWhile
      PhyCapabilityAdditional.format_notEmpty macPduOffset
      (7 + nofAdditional octet0 * 5) nBytes
  pure
    ({ additionalPhyCapabilities := additionalPhyCapabilities
       release := fromCodedValue (BitFields.extract octet0 0 0b11111)
       operatingModes := fromCodedValue (BitFields.extract octet1 2 0b11)
       supportsMeshSystemOperation := octet1 &&& 0b10 != 0
       supportsScheduledDataTransferService := octet1 &&& 1 != 0
       macSecurity := fromCodedValue (octet2.toUInt32 >>> 5)
       dlcServiceType := fromCodedValue (BitFields.extract octet2 2 0b111)
       phyCapability := phyCapability }, nBytes)

/-- Nothing of the object that unpacks an element is kept. -/
def codec : MmieCodec RdCapabilityIe where
  isValid ie := .ok ie.isValid
  getPackedSize := getPackedSize
  pack := pack
  getPackedSizeMinToPeek := 1
  getPackedSizeByPeeking _ := getPackedSizeByPeeking
  unpack _ octets macPduOffset :=
    unpackRead getPackedSize (fun ie => .ok ie.isValid)
      (unpack macPduOffset) octets
  SameContext _ _ := True
  sameContext_refl _ := trivial

/-- The checks of an element. -/
theorem isValid_iff (ie : RdCapabilityIe) :
    ie.isValid = true ↔
      ie.additionalPhyCapabilities.length ≤ 7 ∧
      (∀ additional ∈ ie.additionalPhyCapabilities,
        additional.isValid = true) ∧
      CodedEnumeration.isValid ie.release = true ∧
      CodedEnumeration.isValid ie.operatingModes = true ∧
      CodedEnumeration.isValid ie.macSecurity = true ∧
      CodedEnumeration.isValid ie.dlcServiceType = true ∧
      ie.phyCapability.isValid = true := by
  simp only [isValid, Bool.if_false_left, Bool.and_true,
    Bool.and_eq_true, Bool.not_eq_true', decide_eq_false_iff_not,
    Bool.not_eq_false, Bool.or_eq_true, not_or, List.all_eq_true,
    and_assoc, decide_eq_true_eq, Nat.not_lt]

/-- The three octets in front of the physical layer. -/
def headCode (ie : RdCapabilityIe) : List UInt8 :=
  [(UInt32.ofNat ie.additionalPhyCapabilities.length <<< 5).toUInt8 |||
      (toUnderlying ie.release).toUInt8,
    (toUnderlying ie.operatingModes <<< 2).toUInt8 |||
      (ie.supportsMeshSystemOperation.toUInt32 <<< 1).toUInt8 |||
      ie.supportsScheduledDataTransferService.toUInt32.toUInt8,
    (toUnderlying ie.macSecurity <<< 5).toUInt8 |||
      (toUnderlying ie.dlcServiceType <<< 2).toUInt8]

def code (ie : RdCapabilityIe) : List UInt8 :=
  ie.headCode ++ PhyCapability.format.code ie.phyCapability ++
    PhyCapabilityAdditional.format.allCode ie.additionalPhyCapabilities

theorem code_length (ie : RdCapabilityIe) :
    ie.code.length = 7 + ie.additionalPhyCapabilities.length * 5 := by
  simp only [code, headCode, List.length_append, FieldFormat.code_length,
    FieldFormat.allCode_length, PhyCapability.format_size,
    PhyCapabilityAdditional.format_size, List.length_cons,
    List.length_nil]

/-! The fields of each octet are found where they were placed. -/

theorem octet0_recovered :
    ∀ number : UInt32, number.toNat < 2 ^ 3 →
      ∀ release : UInt32, release.toNat < 2 ^ 5 →
        let octet := (number <<< 5).toUInt8 ||| release.toUInt8
        nofAdditional octet = number.toNat ∧
          extract octet 0 0b11111 = release := by
  apply forall_field
  intro number
  apply forall_field
  revert number
  decide +kernel

theorem octet1_recovered (mesh scheduled : Bool) :
    ∀ modes : UInt32, modes.toNat < 2 ^ 2 →
      let octet :=
        (modes <<< 2).toUInt8 ||| (mesh.toUInt32 <<< 1).toUInt8 |||
          scheduled.toUInt32.toUInt8
      extract octet 2 0b11 = modes ∧
        (octet &&& 0b10 != 0) = mesh ∧ (octet &&& 1 != 0) = scheduled := by
  apply forall_field
  revert mesh scheduled
  decide +kernel

theorem octet2_recovered :
    ∀ security : UInt32, security.toNat < 2 ^ 3 →
      ∀ service : UInt32, service.toNat < 2 ^ 3 →
        let octet := (security <<< 5).toUInt8 ||| (service <<< 2).toUInt8
        octet.toUInt32 >>> 5 = security ∧ extract octet 2 0b111 = service := by
  apply forall_field
  intro security
  apply forall_field
  revert security
  decide +kernel

variable {memory : Memory}

/-- What is found in the first three octets. -/
theorem head_recovered
    {ie : RdCapabilityIe}
    (valid : ie.isValid = true)
    {front : Nat}
    (holds : memory.Holds front ie.headCode) :
    nofAdditional (memory front) =
        ie.additionalPhyCapabilities.length ∧
      fromCodedValue (extract (memory front) 0 0b11111) = ie.release ∧
      fromCodedValue (extract (memory (front + 1)) 2 0b11) =
        ie.operatingModes ∧
      (memory (front + 1) &&& 0b10 != 0) = ie.supportsMeshSystemOperation ∧
      (memory (front + 1) &&& 1 != 0) =
        ie.supportsScheduledDataTransferService ∧
      fromCodedValue ((memory (front + 2)).toUInt32 >>> 5) = ie.macSecurity ∧
      fromCodedValue (extract (memory (front + 2)) 2 0b111) =
        ie.dlcServiceType := by
  obtain ⟨few, -, release, modes, security, service, -⟩ :=
    (isValid_iff ie).mp valid
  have isRelease := Release.recovers release
  have isModes := OperatingMode.recovers modes
  have isSecurity := MacSecurity.recovers security
  have isService := DlcServiceType.recovers service
  have isNumber : (UInt32.ofNat ie.additionalPhyCapabilities.length).toNat =
      ie.additionalPhyCapabilities.length := by
    rw [UInt32.toNat_ofNat', Nat.mod_eq_of_lt (by omega)]
  obtain ⟨first, holds⟩ := Memory.holds_cons_cons.mp holds
  obtain ⟨second, holds⟩ := Memory.holds_cons_cons.mp holds
  have third : memory (front + 2) = _ := Memory.holds_singleton.mp holds
  obtain ⟨gotNumber, gotRelease⟩ :=
    octet0_recovered _ (by rw [isNumber]; omega) _ isRelease.1
  obtain ⟨gotModes, gotMesh, gotScheduled⟩ :=
    octet1_recovered ie.supportsMeshSystemOperation
      ie.supportsScheduledDataTransferService _ isModes.1
  obtain ⟨gotSecurity, gotService⟩ :=
    octet2_recovered _ isSecurity.1 _ isService.1
  rw [first, second, third, gotNumber, isNumber, gotRelease, gotModes,
    gotMesh, gotScheduled, gotSecurity, gotService]
  exact ⟨rfl, isRelease.2, isModes.2, rfl, rfl, isSecurity.2, isService.2⟩

section Valid

variable
    {ie : RdCapabilityIe}
    (valid : ie.isValid = true)

include valid

/-- The size of a valid element is found in its octets. -/
theorem peeked_code
    {memory : Memory}
    {front : Nat}
    (holds : memory.Holds front ie.code) :
    (getPackedSizeByPeeking front).eval memory = .ok ie.code.length := by
  obtain ⟨isNumber, -⟩ := head_recovered valid holds.front.front
  simp only [getPackedSizeByPeeking, eval_bind,
    eval_octet, isNumber, eval_pure, code_length]

theorem getPackedSize_valid :
    ie.getPackedSize = .ok ie.code.length := by
  rw [getPackedSize, valid, code_length]
  rfl

/-- A valid element is packed as its octets. -/
theorem pack_valid
    (macPduOffset : Nat)
    (memory : Memory) :
    ie.pack macPduOffset memory = .ok (memory.write macPduOffset ie.code) := by
  have peeked :=
    peeked_code valid (Memory.holds_write macPduOffset ie.code memory)
  simp only [pack, valid, dectnrpAssert_true, Checked.ok_bind,
    Memory.assign_eq_write macPduOffset, Memory.assignOr_front]
  rw [Memory.assign_behind macPduOffset (by rfl),
    Memory.assignOr_inside macPduOffset (by simp),
    Memory.assignOr_inside macPduOffset (by simp),
    Memory.assign_behind macPduOffset (by simp),
    Memory.assignOr_inside macPduOffset (by simp),
    FieldFormat.mk_write (by rfl)]
  simp only [FieldFormat.pack_written, FieldFormat.packAll_written,
    FieldFormat.written_fst, FieldFormat.written_snd]
  exact assertPeeked_bind peeked _

end Valid

/-- The element that octets stand for. -/
def received
    (memory : Memory)
    (front : Nat) :
    RdCapabilityIe where
  additionalPhyCapabilities :=
    PhyCapabilityAdditional.format.allAt memory (front + 7)
      (nofAdditional (memory front))
  release := fromCodedValue (BitFields.extract (memory front) 0 0b11111)
  operatingModes :=
    fromCodedValue (BitFields.extract (memory (front + 1)) 2 0b11)
  supportsMeshSystemOperation := memory (front + 1) &&& 0b10 != 0
  supportsScheduledDataTransferService := memory (front + 1) &&& 1 != 0
  macSecurity := fromCodedValue ((memory (front + 2)).toUInt32 >>> 5)
  dlcServiceType :=
    fromCodedValue (BitFields.extract (memory (front + 2)) 2 0b111)
  phyCapability := PhyCapability.format.valueAt memory (front + 3)

/-- As many numerologies are read as the first octet announces. -/
theorem unpackWhile_eq
    (octet0 : UInt8)
    (macPduOffset : Nat) :
    PhyCapabilityAdditional.format.unpackWhile
        PhyCapabilityAdditional.format_notEmpty macPduOffset
        (7 + nofAdditional octet0 * 5) (3 + 4) =
      PhyCapabilityAdditional.format.unpackAll macPduOffset
        (nofAdditional octet0) 7 :=
  FieldFormat.unpackWhile_eq_unpackAll _ _ _ _ _

theorem eval_unpack
    (memory : Memory)
    (front : Nat) :
    (unpack front).eval memory =
      (received memory front, 7 + nofAdditional (memory front) * 5) := by
  simp only [unpack, eval_bind, eval_octet,
    FieldFormat.eval_unpack, PhyCapability.format_size, unpackWhile_eq,
    FieldFormat.eval_unpackAll, PhyCapabilityAdditional.format_size,
    eval_pure]
  rfl

/-- Unpacking loads the octets that are counted. -/
theorem within_unpack
    {limit front : Nat}
    (inside : front + (7 + nofAdditional (memory front) * 5) ≤ limit) :
    (unpack front).Within memory limit := by
  simp only [unpack, OctetReader.within_bind, OctetReader.within_octet,
    eval_octet, FieldFormat.eval_unpack,
    PhyCapability.format_size, unpackWhile_eq, OctetReader.within_pure,
    and_true]
  exact ⟨by omega, by omega, by omega,
      FieldFormat.within_unpack _ (by simp; omega),
      FieldFormat.within_unpackAll _ (by simp; omega)⟩

/-- A valid element is received from its octets. -/
theorem received_code
    {ie : RdCapabilityIe}
    (valid : ie.isValid = true)
    {front : Nat}
    (holds : memory.Holds front ie.code) :
    received memory front = ie := by
  obtain ⟨isNumber, isRelease, isModes, isMesh, isScheduled, isSecurity,
    isService⟩ := head_recovered valid holds.front.front
  obtain ⟨-, additional, -, -, -, -, capability⟩ := (isValid_iff ie).mp valid
  obtain ⟨headHolds, additionalHold⟩ := Memory.holds_append.mp holds
  obtain ⟨-, capabilityHolds⟩ := Memory.holds_append.mp headHolds
  have gotCapability :=
    FieldFormat.valueAt_eq (PhyCapability.recovers capability) capabilityHolds
  have gotAdditional :=
    FieldFormat.allAt_eq (fun field member =>
        PhyCapabilityAdditional.recovers (additional field member))
      additionalHold
  have behindHead : ie.headCode.length = 3 := rfl
  rw [behindHead] at gotCapability
  rw [List.length_append, behindHead, FieldFormat.code_length,
    PhyCapability.format_size] at gotAdditional
  rw [received, isNumber, isRelease, isModes, isMesh, isScheduled,
    isSecurity, isService, gotCapability, gotAdditional]

theorem peek_eq
    (ie : RdCapabilityIe)
    (memory : Memory)
    (front : Nat) :
    codec.peek ie memory front =
      .ok ((getPackedSizeByPeeking front).eval memory) := by
  apply MmieCodec.peek_eq
  simp [codec, getPackedSizeByPeeking]

/-- Every valid element is restored by whatever object unpacks it. -/
theorem rdCapability_roundTrips
    {ie : RdCapabilityIe}
    (valid : ie.isValid = true) :
    codec.RoundTrips ie := by
  refine MmieCodec.roundTrips_of_code (getPackedSize_valid valid)
    (pack_valid valid) ?_ ?_
  · intro initial memory front _ holds
    rw [peek_eq, peeked_code valid holds]
  · intro initial memory front _ holds
    obtain ⟨isNumber, -⟩ := head_recovered valid holds.front.front
    have read : 7 + nofAdditional (memory front) * 5 = ie.code.length := by
      rw [isNumber, code_length]
    refine unpackRead_eq_ok.mpr ?_
    rw [eval_unpack, received_code valid holds, read]
    exact
      ⟨within_unpack (by rw [read]), getPackedSize_valid valid,
        congrArg Except.ok valid, rfl⟩

/-- A device of a single numerology, and one of eight. -/
def exampleCapability (nofAdditional : Nat) : RdCapabilityIe :=
  let capability : PhyCapability :=
    { rdPowerClass := .class3
      maxNssForRx := .streams8
      rxForTxDiversity := .antennas2
      rxGainIndex := 8
      maxMcs := .mcs11
      softBufferSize := .bytes2048000
      nofHarqProcesses := .processes8
      harqFeedbackDelay := .subslots6 }
  { additionalPhyCapabilities :=
      List.replicate nofAdditional ⟨⟨.kHz216, .size1024⟩, capability⟩
    release := .release4
    operatingModes := .ftPtOperation
    supportsMeshSystemOperation := true
    supportsScheduledDataTransferService := false
    macSecurity := .mode1
    dlcServiceType := .types0123
    phyCapability := capability }

/-- Both devices are restored. -/
theorem rdCapability_roundTrips_example :
    codec.RoundTrips (exampleCapability 0) ∧
      codec.RoundTrips (exampleCapability 7) :=
  ⟨rdCapability_roundTrips (by decide),
    rdCapability_roundTrips (by decide)⟩

/-- None of the codes in an element is reserved. -/
def SafeOctets
    (memory : Memory)
    (front : Nat) :
    Prop :=
  (∀ index < nofAdditional (memory front),
    PhyCapabilityAdditional.Octets memory (front + 7 + index * 5)) ∧
    1 ≤ memory front &&& 31 ∧ memory front &&& 31 ≤ 4 ∧
    (memory (front + 1) >>> 2) &&& 3 ≠ 3 ∧
    memory (front + 2) >>> 5 ≤ 1 ∧
    (memory (front + 2) >>> 2) &&& 7 ≤ 4 ∧
    PhyCapability.Octets memory (front + 3)

theorem nofAdditional_le (octet0 : UInt8) :
    nofAdditional octet0 ≤ 7 := by
  revert octet0
  apply forall_octet
  decide +kernel

/-- What is received is valid exactly if no code is reserved. -/
theorem received_isValid_iff
    (memory : Memory)
    (front : Nat) :
    (received memory front).isValid = true ↔ SafeOctets memory front := by
  have release (octet : UInt8) : CodedEnumeration.isValid (fromCodedValue
      (extract octet 0 0b11111) : Release) = true ↔
        1 ≤ octet &&& 31 ∧ octet &&& 31 ≤ 4 := by
    revert octet
    apply forall_octet
    decide +kernel
  have modes (octet : UInt8) : CodedEnumeration.isValid (fromCodedValue
      (extract octet 2 0b11) : OperatingMode) = true ↔
        (octet >>> 2) &&& 3 ≠ 3 := by
    revert octet
    apply forall_octet
    decide +kernel
  have security (octet : UInt8) : CodedEnumeration.isValid (fromCodedValue
      (octet.toUInt32 >>> 5) : MacSecurity) = true ↔ octet >>> 5 ≤ 1 := by
    revert octet
    apply forall_octet
    decide +kernel
  have service (octet : UInt8) : CodedEnumeration.isValid (fromCodedValue
      (extract octet 2 0b111) : DlcServiceType) = true ↔
        (octet >>> 2) &&& 7 ≤ 4 := by
    revert octet
    apply forall_octet
    decide +kernel
  rw [isValid_iff]
  simp only [received, FieldFormat.allAt_length, nofAdditional_le,
    true_and, FieldFormat.forall_mem_allAt,
    PhyCapabilityAdditional.valueAt_isValid_iff,
    PhyCapabilityAdditional.format_size, release, modes, security,
    service, PhyCapability.valueAt_isValid_iff, SafeOctets, and_assoc]

theorem getPackedSize_received_iff
    (memory : Memory)
    (front : Nat) :
    (received memory front).getPackedSize =
        .ok (7 + nofAdditional (memory front) * 5) ↔
      SafeOctets memory front := by
  rw [getPackedSize, Checked.dectnrpAssert_bind_eq_ok,
    received_isValid_iff, received, FieldFormat.allAt_length]
  exact and_iff_left rfl

/-- Unpacking is safe for the octets of the condition and for no others. -/
theorem unpacksSafely_iff
    (initial : RdCapabilityIe)
    (memory : Memory)
    (front : Nat) :
    codec.UnpacksSafely initial memory front ↔ SafeOctets memory front := by
  rw [@MmieCodec.unpacksSafely_iff _ codec initial memory front
    (unpack front) fun _ => rfl]
  simp only [peek_eq, getPackedSizeByPeeking, eval_bind,
    eval_octet, eval_pure, Except.ok.injEq,
    forall_eq', eval_unpack]
  rw [← getPackedSize_received_iff,
    and_iff_right (within_unpack (Nat.le_refl _))]
  exact and_iff_left ⟨_, rfl⟩

end RdCapabilityIe

end DectNrp
