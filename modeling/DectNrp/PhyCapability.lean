import DectNrp.MmieFields

namespace DectNrp

/-!
# Physical layer capabilities

A capability is written as four octets, each with codes of two to four bits.
For every numerology but the first one, an octet with the numerology is in
front of them.
-/

open BitFields (extract forall_field forall_octet)
open CodedEnumeration (toUnderlying fromCodedValue)

namespace RdCapabilityIe

/-- The release of the standard that a device supports. -/
inductive Release where
  | notDefined
  | lower
  | release1
  | release2
  | release3
  | release4
  | upper
  deriving Repr, DecidableEq

instance : CodedEnumeration Release where
  toUnderlying
    | .notDefined => undefinedNumeric32
    | .lower => 0
    | .release1 => 1
    | .release2 => 2
    | .release3 => 3
    | .release4 => 4
    | .upper => 5
  notDefined := .notDefined
  lower := some .lower
  upper := .upper
  codes := [.release1, .release2, .release3, .release4]

/-- Which sides of a link a device can take. -/
inductive OperatingMode where
  | notDefined
  | ptOperation
  | ftOperation
  | ftPtOperation
  | upper
  deriving Repr, DecidableEq

instance : CodedEnumeration OperatingMode where
  toUnderlying
    | .notDefined => undefinedNumeric32
    | .ptOperation => 0
    | .ftOperation => 1
    | .ftPtOperation => 2
    | .upper => 3
  notDefined := .notDefined
  lower := none
  upper := .upper
  codes := [.ptOperation, .ftOperation, .ftPtOperation]

/-- Whether messages can be secured. -/
inductive MacSecurity where
  | notDefined
  | notSupported
  | mode1
  | upper
  deriving Repr, DecidableEq

instance : CodedEnumeration MacSecurity where
  toUnderlying
    | .notDefined => undefinedNumeric32
    | .notSupported => 0
    | .mode1 => 1
    | .upper => 2
  notDefined := .notDefined
  lower := none
  upper := .upper
  codes := [.notSupported, .mode1]

/-- Which services of the data link control are supported. -/
inductive DlcServiceType where
  | notDefined
  | type0
  | type1
  | type2
  | types123
  | types0123
  | upper
  deriving Repr, DecidableEq

instance : CodedEnumeration DlcServiceType where
  toUnderlying
    | .notDefined => undefinedNumeric32
    | .type0 => 0
    | .type1 => 1
    | .type2 => 2
    | .types123 => 3
    | .types0123 => 4
    | .upper => 5
  notDefined := .notDefined
  lower := none
  upper := .upper
  codes := [.type0, .type1, .type2, .types123, .types0123]

/-- Power class of a device. -/
inductive RdPowerClass where
  | notDefined
  | class1
  | class2
  | class3
  | upper
  deriving Repr, DecidableEq

instance : CodedEnumeration RdPowerClass where
  toUnderlying
    | .notDefined => undefinedNumeric32
    | .class1 => 0
    | .class2 => 1
    | .class3 => 2
    | .upper => 3
  notDefined := .notDefined
  lower := none
  upper := .upper
  codes := [.class1, .class2, .class3]

/-- How many spatial streams are received at most. -/
inductive MaxNofSpatialStreams where
  | notDefined
  | streams1
  | streams2
  | streams4
  | streams8
  | upper
  deriving Repr, DecidableEq

instance : CodedEnumeration MaxNofSpatialStreams where
  toUnderlying
    | .notDefined => undefinedNumeric32
    | .streams1 => 0
    | .streams2 => 1
    | .streams4 => 2
    | .streams8 => 3
    | .upper => 4
  notDefined := .notDefined
  lower := none
  upper := .upper
  codes := [.streams1, .streams2, .streams4, .streams8]

/-- How many antennas a transmission may use at most. -/
inductive MaxNofTxAntennas where
  | notDefined
  | antennas1
  | antennas2
  | antennas4
  | antennas8
  | upper
  deriving Repr, DecidableEq

instance : CodedEnumeration MaxNofTxAntennas where
  toUnderlying
    | .notDefined => undefinedNumeric32
    | .antennas1 => 0
    | .antennas2 => 1
    | .antennas4 => 2
    | .antennas8 => 3
    | .upper => 4
  notDefined := .notDefined
  lower := none
  upper := .upper
  codes := [.antennas1, .antennas2, .antennas4, .antennas8]

/-- The largest modulation and coding scheme. -/
inductive MaxMcsIndex where
  | notDefined
  | mcs2
  | mcs3
  | mcs4
  | mcs5
  | mcs6
  | mcs7
  | mcs8
  | mcs9
  | mcs10
  | mcs11
  | upper
  deriving Repr, DecidableEq

instance : CodedEnumeration MaxMcsIndex where
  toUnderlying
    | .notDefined => undefinedNumeric32
    | .mcs2 => 0
    | .mcs3 => 1
    | .mcs4 => 2
    | .mcs5 => 3
    | .mcs6 => 4
    | .mcs7 => 5
    | .mcs8 => 6
    | .mcs9 => 7
    | .mcs10 => 8
    | .mcs11 => 9
    | .upper => 10
  notDefined := .notDefined
  lower := none
  upper := .upper
  codes :=
    [.mcs2, .mcs3, .mcs4, .mcs5, .mcs6, .mcs7, .mcs8, .mcs9, .mcs10,
      .mcs11]

/-- Size of the soft buffer. -/
inductive SoftBufferSize where
  | notDefined
  | bytes16000
  | bytes25344
  | bytes32000
  | bytes64000
  | bytes128000
  | bytes256000
  | bytes512000
  | bytes1024000
  | bytes2048000
  | upper
  deriving Repr, DecidableEq

instance : CodedEnumeration SoftBufferSize where
  toUnderlying
    | .notDefined => undefinedNumeric32
    | .bytes16000 => 0
    | .bytes25344 => 1
    | .bytes32000 => 2
    | .bytes64000 => 3
    | .bytes128000 => 4
    | .bytes256000 => 5
    | .bytes512000 => 6
    | .bytes1024000 => 7
    | .bytes2048000 => 8
    | .upper => 9
  notDefined := .notDefined
  lower := none
  upper := .upper
  codes :=
    [.bytes16000, .bytes25344, .bytes32000, .bytes64000, .bytes128000,
      .bytes256000, .bytes512000, .bytes1024000, .bytes2048000]

/-- Number of HARQ processes. -/
inductive NofHarqProcesses where
  | notDefined
  | processes1
  | processes2
  | processes4
  | processes8
  | upper
  deriving Repr, DecidableEq

instance : CodedEnumeration NofHarqProcesses where
  toUnderlying
    | .notDefined => undefinedNumeric32
    | .processes1 => 0
    | .processes2 => 1
    | .processes4 => 2
    | .processes8 => 3
    | .upper => 4
  notDefined := .notDefined
  lower := none
  upper := .upper
  codes := [.processes1, .processes2, .processes4, .processes8]

/-- Delay of the HARQ feedback. -/
inductive HarqFeedbackDelay where
  | notDefined
  | subslots0
  | subslots1
  | subslots2
  | subslots3
  | subslots4
  | subslots5
  | subslots6
  | upper
  deriving Repr, DecidableEq

instance : CodedEnumeration HarqFeedbackDelay where
  toUnderlying
    | .notDefined => undefinedNumeric32
    | .subslots0 => 0
    | .subslots1 => 1
    | .subslots2 => 2
    | .subslots3 => 3
    | .subslots4 => 4
    | .subslots5 => 5
    | .subslots6 => 6
    | .upper => 7
  notDefined := .notDefined
  lower := none
  upper := .upper
  codes :=
    [.subslots0, .subslots1, .subslots2, .subslots3, .subslots4,
      .subslots5, .subslots6]

/-- Distance between subcarriers. -/
inductive SubcarrierWidth where
  | notDefined
  | kHz27
  | kHz54
  | kHz108
  | kHz216
  | upper
  deriving Repr, DecidableEq

instance : CodedEnumeration SubcarrierWidth where
  toUnderlying
    | .notDefined => undefinedNumeric32
    | .kHz27 => 0
    | .kHz54 => 1
    | .kHz108 => 2
    | .kHz216 => 3
    | .upper => 4
  notDefined := .notDefined
  lower := none
  upper := .upper
  codes := [.kHz27, .kHz54, .kHz108, .kHz216]

/-- Size of the Fourier transform. -/
inductive DftSize where
  | notDefined
  | size64
  | size128
  | size256
  | size512
  | size768
  | size1024
  | upper
  deriving Repr, DecidableEq

instance : CodedEnumeration DftSize where
  toUnderlying
    | .notDefined => undefinedNumeric32
    | .size64 => 0
    | .size128 => 1
    | .size256 => 2
    | .size512 => 3
    | .size768 => 4
    | .size1024 => 5
    | .upper => 6
  notDefined := .notDefined
  lower := none
  upper := .upper
  codes := [.size64, .size128, .size256, .size512, .size768, .size1024]

section Recovery

open CodedEnumeration

theorem Release.recovers
    {value : Release}
    (valid : isValid value = true) :
    Recovers 5 value := by
  revert valid
  cases value <;> decide

theorem OperatingMode.recovers
    {value : OperatingMode}
    (valid : isValid value = true) :
    Recovers 2 value := by
  revert valid
  cases value <;> decide

theorem MacSecurity.recovers
    {value : MacSecurity}
    (valid : isValid value = true) :
    Recovers 3 value := by
  revert valid
  cases value <;> decide

theorem DlcServiceType.recovers
    {value : DlcServiceType}
    (valid : isValid value = true) :
    Recovers 3 value := by
  revert valid
  cases value <;> decide

theorem RdPowerClass.recovers
    {value : RdPowerClass}
    (valid : isValid value = true) :
    Recovers 3 value := by
  revert valid
  cases value <;> decide

theorem MaxNofSpatialStreams.recovers
    {value : MaxNofSpatialStreams}
    (valid : isValid value = true) :
    Recovers 2 value := by
  revert valid
  cases value <;> decide

theorem MaxNofTxAntennas.recovers
    {value : MaxNofTxAntennas}
    (valid : isValid value = true) :
    Recovers 2 value := by
  revert valid
  cases value <;> decide

theorem MaxMcsIndex.recovers
    {value : MaxMcsIndex}
    (valid : isValid value = true) :
    Recovers 4 value := by
  revert valid
  cases value <;> decide

theorem SoftBufferSize.recovers
    {value : SoftBufferSize}
    (valid : isValid value = true) :
    Recovers 4 value := by
  revert valid
  cases value <;> decide

theorem NofHarqProcesses.recovers
    {value : NofHarqProcesses}
    (valid : isValid value = true) :
    Recovers 2 value := by
  revert valid
  cases value <;> decide

theorem HarqFeedbackDelay.recovers
    {value : HarqFeedbackDelay}
    (valid : isValid value = true) :
    Recovers 4 value := by
  revert valid
  cases value <;> decide

theorem SubcarrierWidth.recovers
    {value : SubcarrierWidth}
    (valid : isValid value = true) :
    Recovers 3 value := by
  revert valid
  cases value <;> decide

theorem DftSize.recovers
    {value : DftSize}
    (valid : isValid value = true) :
    Recovers 4 value := by
  revert valid
  cases value <;> decide

end Recovery

/-- A numerology. -/
structure RadioDeviceClass where
  mu : SubcarrierWidth
  beta : DftSize
  deriving Repr, DecidableEq

namespace RadioDeviceClass

def isValid (deviceClass : RadioDeviceClass) : Bool :=
  CodedEnumeration.isValid deviceClass.mu &&
    CodedEnumeration.isValid deviceClass.beta

/-- The numerology that an octet stands for. -/
def ofOctet (octet : UInt8) : RadioDeviceClass where
  mu := fromCodedValue (octet.toUInt32 >>> 5)
  beta := fromCodedValue (BitFields.extract octet 1 0b1111)

/-- Both codes in one octet whose lowest bit is free. -/
def format : FieldFormat RadioDeviceClass where
  size := 1
  write deviceClass address memory :=
    (memory.assign address (toUnderlying deviceClass.mu <<< 5)).assignOr
      address (toUnderlying deviceClass.beta <<< 1)
  read address := do
    let octet ← OctetReader.octet address
    pure (ofOctet octet)
  code deviceClass :=
    [(toUnderlying deviceClass.mu <<< 5).toUInt8 |||
      (toUnderlying deviceClass.beta <<< 1).toUInt8]
  code_length _ := rfl
  write_eq _ _ _ := by
    rw [Memory.assign_eq_write, Memory.assignOr_front]
  read_within _ _ _ inside := ⟨inside, trivial⟩

@[simp] theorem format_size :
    format.size = 1 :=
  rfl

@[simp] theorem format_valueAt
    (memory : Memory)
    (address : Nat) :
    format.valueAt memory address = ofOctet (memory address) :=
  rfl

/-- Both fields are read back from their octet. -/
theorem octet_recovered :
    ∀ mu : UInt32, mu.toNat < 2 ^ 3 →
      ∀ beta : UInt32, beta.toNat < 2 ^ 4 →
        let octet := (mu <<< 5).toUInt8 ||| (beta <<< 1).toUInt8
        octet.toUInt32 >>> 5 = mu ∧ extract octet 1 0b1111 = beta := by
  apply forall_field
  intro mu
  apply forall_field
  revert mu
  decide +kernel

/-- A valid numerology is recovered from its octet. -/
theorem recovers
    {deviceClass : RadioDeviceClass}
    (valid : deviceClass.isValid = true) :
    format.Recovers deviceClass := by
  obtain ⟨mu, beta⟩ := Bool.and_eq_true_iff.mp valid
  have isMu := SubcarrierWidth.recovers mu
  have isBeta := DftSize.recovers beta
  intro memory address holds
  have isOctet := Memory.holds_singleton.mp holds
  obtain ⟨gotMu, gotBeta⟩ := octet_recovered _ isMu.1 _ isBeta.1
  change ofOctet (memory address) = deviceClass
  rw [ofOctet, isOctet, gotMu, gotBeta, isMu.2, isBeta.2]

/-- Subcarrier widths from four on and sizes from six on are reserved. -/
theorem ofOctet_isValid_iff (octet : UInt8) :
    (ofOctet octet).isValid = true ↔
      octet >>> 5 ≤ 3 ∧ (octet >>> 1) &&& 15 ≤ 5 := by
  revert octet
  apply forall_octet
  decide +kernel

end RadioDeviceClass

/-- What the physical layer of a device can do. -/
structure PhyCapability where
  rdPowerClass : RdPowerClass
  maxNssForRx : MaxNofSpatialStreams
  rxForTxDiversity : MaxNofTxAntennas
  rxGainIndex : UInt32
  maxMcs : MaxMcsIndex
  softBufferSize : SoftBufferSize
  nofHarqProcesses : NofHarqProcesses
  harqFeedbackDelay : HarqFeedbackDelay
  deriving Repr, DecidableEq

namespace PhyCapability

/-- Gains in dB by their index. -/
def rxGainTable : List Int :=
  [-10, -8, -6, -4, -2, 0, 2, 4, 6]

/-- The gain, if its index is one of the table. -/
def getRxGainDb (capability : PhyCapability) : Option Int :=
  rxGainTable[capability.rxGainIndex.toNat]?

def isValid (capability : PhyCapability) : Bool :=
  CodedEnumeration.isValid capability.rdPowerClass &&
    CodedEnumeration.isValid capability.maxNssForRx &&
    CodedEnumeration.isValid capability.rxForTxDiversity &&
    capability.getRxGainDb.isSome &&
    CodedEnumeration.isValid capability.maxMcs &&
    CodedEnumeration.isValid capability.softBufferSize &&
    CodedEnumeration.isValid capability.nofHarqProcesses &&
    CodedEnumeration.isValid capability.harqFeedbackDelay

/-- The capability that four octets stand for. -/
def ofOctets (octet0 octet1 octet2 octet3 : UInt8) : PhyCapability where
  rdPowerClass := fromCodedValue (BitFields.extract octet0 4 0b111)
  maxNssForRx := fromCodedValue (BitFields.extract octet0 2 0b11)
  rxForTxDiversity := fromCodedValue (BitFields.extract octet0 0 0b11)
  rxGainIndex := octet1.toUInt32 >>> 4
  maxMcs := fromCodedValue (BitFields.extract octet1 0 0b1111)
  softBufferSize := fromCodedValue (octet2.toUInt32 >>> 4)
  nofHarqProcesses := fromCodedValue (BitFields.extract octet2 2 0b11)
  harqFeedbackDelay := fromCodedValue (octet3.toUInt32 >>> 4)

/-- Write the four octets of a capability. -/
def write
    (capability : PhyCapability)
    (address : Nat)
    (memory : Memory) :
    Memory :=
  let memory := memory.assign address
    (toUnderlying capability.rdPowerClass <<< 4)
  let memory := memory.assignOr address
    (toUnderlying capability.maxNssForRx <<< 2)
  let memory := memory.assignOr address
    (toUnderlying capability.rxForTxDiversity)
  let memory := memory.assign (address + 1)
    (capability.rxGainIndex <<< 4)
  let memory := memory.assignOr (address + 1)
    (toUnderlying capability.maxMcs)
  let memory := memory.assign (address + 2)
    (toUnderlying capability.softBufferSize <<< 4)
  let memory := memory.assignOr (address + 2)
    (toUnderlying capability.nofHarqProcesses <<< 2)
  memory.assign (address + 3)
    (toUnderlying capability.harqFeedbackDelay <<< 4)

def code (capability : PhyCapability) : List UInt8 :=
  [(toUnderlying capability.rdPowerClass <<< 4).toUInt8 |||
      (toUnderlying capability.maxNssForRx <<< 2).toUInt8 |||
      (toUnderlying capability.rxForTxDiversity).toUInt8,
    (capability.rxGainIndex <<< 4).toUInt8 |||
      (toUnderlying capability.maxMcs).toUInt8,
    (toUnderlying capability.softBufferSize <<< 4).toUInt8 |||
      (toUnderlying capability.nofHarqProcesses <<< 2).toUInt8,
    (toUnderlying capability.harqFeedbackDelay <<< 4).toUInt8]

/-- The octets of a capability are written one behind the other. -/
theorem write_eq
    (capability : PhyCapability)
    (address : Nat)
    (memory : Memory) :
    capability.write address memory =
      memory.write address capability.code := by
  simp only [write, Memory.assign_eq_write address]
  rw [Memory.assignOr_front, Memory.assignOr_front,
    Memory.assign_behind address (by rfl),
    Memory.assignOr_inside address (by simp),
    Memory.assign_behind address (by simp),
    Memory.assignOr_inside address (by simp),
    Memory.assign_behind address (by simp)]
  rfl

def format : FieldFormat PhyCapability where
  size := 4
  write := write
  read address := do
    let octet0 ← OctetReader.octet address
    let octet1 ← OctetReader.octet (address + 1)
    let octet2 ← OctetReader.octet (address + 2)
    let octet3 ← OctetReader.octet (address + 3)
    pure (ofOctets octet0 octet1 octet2 octet3)
  code := code
  code_length _ := rfl
  write_eq := write_eq
  read_within _ _ _ inside :=
    ⟨by omega, by omega, by omega, by omega, trivial⟩

@[simp] theorem format_size :
    format.size = 4 :=
  rfl

theorem format_valueAt
    (memory : Memory)
    (address : Nat) :
    format.valueAt memory address =
      ofOctets (memory address) (memory (address + 1))
        (memory (address + 2)) (memory (address + 3)) :=
  rfl

/-! The codes of each octet are found where they were placed. -/

theorem octet0_recovered :
    ∀ power : UInt32, power.toNat < 2 ^ 3 →
      ∀ streams : UInt32, streams.toNat < 2 ^ 2 →
        ∀ antennas : UInt32, antennas.toNat < 2 ^ 2 →
          let octet :=
            (power <<< 4).toUInt8 ||| (streams <<< 2).toUInt8 |||
              antennas.toUInt8
          extract octet 4 0b111 = power ∧ extract octet 2 0b11 = streams ∧
            extract octet 0 0b11 = antennas := by
  apply forall_field
  intro power
  apply forall_field
  intro streams
  apply forall_field
  revert power streams
  decide +kernel

theorem octet1_recovered :
    ∀ gain : UInt32, gain.toNat < 2 ^ 4 →
      ∀ mcs : UInt32, mcs.toNat < 2 ^ 4 →
        let octet := (gain <<< 4).toUInt8 ||| mcs.toUInt8
        octet.toUInt32 >>> 4 = gain ∧ extract octet 0 0b1111 = mcs := by
  apply forall_field
  intro gain
  apply forall_field
  revert gain
  decide +kernel

theorem octet2_recovered :
    ∀ buffer : UInt32, buffer.toNat < 2 ^ 4 →
      ∀ processes : UInt32, processes.toNat < 2 ^ 2 →
        let octet := (buffer <<< 4).toUInt8 ||| (processes <<< 2).toUInt8
        octet.toUInt32 >>> 4 = buffer ∧ extract octet 2 0b11 = processes := by
  apply forall_field
  intro buffer
  apply forall_field
  revert buffer
  decide +kernel

theorem octet3_recovered :
    ∀ delay : UInt32, delay.toNat < 2 ^ 4 →
      (delay <<< 4).toUInt8.toUInt32 >>> 4 = delay := by
  apply forall_field
  decide +kernel

variable {capability : PhyCapability}

theorem rxGainIndex_lt (inTable : capability.getRxGainDb.isSome = true) :
    capability.rxGainIndex.toNat < 2 ^ 4 := by
  have inside : capability.rxGainIndex.toNat < rxGainTable.length := by
    simpa [getRxGainDb] using inTable
  exact Nat.lt_trans inside (by decide)

/-- A valid capability is recovered from its octets. -/
theorem recovers (valid : capability.isValid = true) :
    format.Recovers capability := by
  simp only [isValid, Bool.and_eq_true] at valid
  obtain ⟨⟨⟨⟨⟨⟨⟨power, streams⟩, antennas⟩, gain⟩, mcs⟩, buffer⟩,
    processes⟩, delay⟩ := valid
  have isPower := RdPowerClass.recovers power
  have isStreams := MaxNofSpatialStreams.recovers streams
  have isAntennas := MaxNofTxAntennas.recovers antennas
  have isMcs := MaxMcsIndex.recovers mcs
  have isBuffer := SoftBufferSize.recovers buffer
  have isProcesses := NofHarqProcesses.recovers processes
  have isDelay := HarqFeedbackDelay.recovers delay
  intro memory address holds
  obtain ⟨first, holds⟩ := Memory.holds_cons_cons.mp holds
  obtain ⟨second, holds⟩ := Memory.holds_cons_cons.mp holds
  obtain ⟨third, holds⟩ := Memory.holds_cons_cons.mp holds
  have fourth := Memory.holds_singleton.mp holds
  obtain ⟨gotPower, gotStreams, gotAntennas⟩ :=
    octet0_recovered _ isPower.1 _ isStreams.1 _ isAntennas.1
  obtain ⟨gotGain, gotMcs⟩ :=
    octet1_recovered _ (rxGainIndex_lt gain) _ isMcs.1
  obtain ⟨gotBuffer, gotProcesses⟩ :=
    octet2_recovered _ isBuffer.1 _ isProcesses.1
  have gotDelay := octet3_recovered _ isDelay.1
  change ofOctets (memory address) (memory (address + 1))
    (memory (address + 1 + 1)) (memory (address + 1 + 1 + 1)) = capability
  rw [first, second, third, fourth, ofOctets, gotPower, gotStreams,
    gotAntennas, gotGain, gotMcs, gotBuffer, gotProcesses, gotDelay,
    isPower.2, isStreams.2, isAntennas.2, isMcs.2, isBuffer.2,
    isProcesses.2, isDelay.2]

/-- None of the codes in four octets is reserved. -/
def Octets
    (memory : Memory)
    (address : Nat) :
    Prop :=
  (memory address >>> 4) &&& 7 ≤ 2 ∧ memory (address + 1) >>> 4 ≤ 8 ∧
    memory (address + 1) &&& 15 ≤ 9 ∧ memory (address + 2) >>> 4 ≤ 8 ∧
    memory (address + 3) >>> 4 ≤ 6

/-- What is received is valid exactly if no code is reserved. -/
theorem valueAt_isValid_iff
    (memory : Memory)
    (address : Nat) :
    (format.valueAt memory address).isValid = true ↔
      Octets memory address := by
  have power (octet : UInt8) : CodedEnumeration.isValid (fromCodedValue
      (extract octet 4 0b111) : RdPowerClass) = true ↔
        (octet >>> 4) &&& 7 ≤ 2 := by
    revert octet
    apply forall_octet
    decide +kernel
  have streams (octet : UInt8) : CodedEnumeration.isValid (fromCodedValue
      (extract octet 2 0b11) : MaxNofSpatialStreams) = true := by
    revert octet
    apply forall_octet
    decide +kernel
  have antennas (octet : UInt8) : CodedEnumeration.isValid (fromCodedValue
      (extract octet 0 0b11) : MaxNofTxAntennas) = true := by
    revert octet
    apply forall_octet
    decide +kernel
  have gain (octet : UInt8) :
      (rxGainTable[(octet.toUInt32 >>> 4).toNat]?).isSome = true ↔
        octet >>> 4 ≤ 8 := by
    revert octet
    apply forall_octet
    decide +kernel
  have mcs (octet : UInt8) : CodedEnumeration.isValid (fromCodedValue
      (extract octet 0 0b1111) : MaxMcsIndex) = true ↔ octet &&& 15 ≤ 9 := by
    revert octet
    apply forall_octet
    decide +kernel
  have buffer (octet : UInt8) : CodedEnumeration.isValid (fromCodedValue
      (octet.toUInt32 >>> 4) : SoftBufferSize) = true ↔ octet >>> 4 ≤ 8 := by
    revert octet
    apply forall_octet
    decide +kernel
  have processes (octet : UInt8) : CodedEnumeration.isValid (fromCodedValue
      (extract octet 2 0b11) : NofHarqProcesses) = true := by
    revert octet
    apply forall_octet
    decide +kernel
  have delay (octet : UInt8) : CodedEnumeration.isValid (fromCodedValue
      (octet.toUInt32 >>> 4) : HarqFeedbackDelay) = true ↔
        octet >>> 4 ≤ 6 := by
    revert octet
    apply forall_octet
    decide +kernel
  simp only [isValid, Bool.and_eq_true, format_valueAt, ofOctets,
    getRxGainDb, power, streams, antennas, gain, mcs, buffer, processes,
    delay, and_true, and_assoc, Octets]

end PhyCapability

end RdCapabilityIe

end DectNrp
