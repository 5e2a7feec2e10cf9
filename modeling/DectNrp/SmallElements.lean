import DectNrp.CodedEnumeration
import DectNrp.FeedbackInfo
import DectNrp.MmieCodec

namespace DectNrp

/-!
# Elements of a known size

Association release, MAC security info, route info and radio device status take
the same number of octets in every message.  A group assignment takes as many
octets as its multiplexing header says.  None of them is peeked at.
-/

open Checked (ok_bind pure_eq_ok)
open BitFields (extract)
open FieldFormat (allAt_length word)
open OctetReader (eval_bind eval_octet eval_pure within_bind within_octet
  within_pure)

open CodedEnumeration (toUnderlying fromCodedValue)

/-- Why an association is released. -/
inductive ReleaseCause where
  | notDefined
  | connectionTermination
  | mobility
  | longInactivity
  | incompatibleConfiguration
  | noSufficientHwMemoryResource
  | noSufficientRadioResources
  | badRadioQuality
  | securityError
  | otherError
  | otherReason
  | upper
  deriving Repr, DecidableEq

instance : CodedEnumeration ReleaseCause where
  toUnderlying
    | .notDefined => undefinedNumeric32
    | .connectionTermination => 0
    | .mobility => 1
    | .longInactivity => 2
    | .incompatibleConfiguration => 3
    | .noSufficientHwMemoryResource => 4
    | .noSufficientRadioResources => 5
    | .badRadioQuality => 6
    | .securityError => 7
    | .otherError => 8
    | .otherReason => 9
    | .upper => 10
  notDefined := .notDefined
  lower := none
  upper := .upper
  codes :=
    [.connectionTermination, .mobility, .longInactivity,
      .incompatibleConfiguration, .noSufficientHwMemoryResource,
      .noSufficientRadioResources, .badRadioQuality, .securityError,
      .otherError, .otherReason]

structure AssociationReleaseMessage where
  releaseCause : ReleaseCause
  deriving Repr, DecidableEq

namespace AssociationReleaseMessage

def isValid (message : AssociationReleaseMessage) : Bool :=
  CodedEnumeration.isValid message.releaseCause

def getPackedSize : Nat := 1

def pack
    (message : AssociationReleaseMessage)
    (macPduOffset : Nat)
    (memory : Memory) :
    Checked Memory := do
  dectnrpAssert message.isValid "association release message is not valid"
  pure (memory.assign macPduOffset
    (toUnderlying message.releaseCause <<< 4))

/-- The message that an octet stands for. -/
def ofOctet (octet0 : UInt8) : AssociationReleaseMessage where
  releaseCause := fromCodedValue (octet0.toUInt32 >>> 4)

def unpack
    (macPduOffset : Nat) :
    OctetReader (Bool × AssociationReleaseMessage) := do
  let octet0 ← OctetReader.octet macPduOffset
  let message := ofOctet octet0
  pure (message.isValid, message)

def codec : MmieCodec AssociationReleaseMessage :=
  .ofFixedSize getPackedSize isValid pack unpack

theorem ofOctet_code
    {message : AssociationReleaseMessage}
    (valid : message.isValid = true) :
    ofOctet (toUnderlying message.releaseCause <<< 4).toUInt8 = message := by
  obtain ⟨cause⟩ := message
  revert valid
  cases cause <;> decide

/-- A valid message is restored from its octet. -/
theorem roundTrips
    {message : AssociationReleaseMessage}
    (valid : message.isValid = true) :
    codec.RoundTrips message := by
  refine @MmieCodec.ofFixedSize_roundTrips _ _ _ _ _ _
    [(toUnderlying message.releaseCause <<< 4).toUInt8] rfl ?_ ?_ ?_
  · intro front memory
    simp only [pack, valid, dectnrpAssert_true, ok_bind,
      Memory.assign_eq_write, pure_eq_ok]
  · intro memory front
    exact ⟨Nat.lt_succ_self front, trivial⟩
  · intro memory front holds
    have octet0 := Memory.holds_singleton.mp holds
    simp only [unpack, eval_bind, eval_octet,
      eval_pure, octet0, ofOctet_code valid, valid]

theorem unpacksSafely
    (initial : AssociationReleaseMessage)
    (memory : Memory)
    (front : Nat) :
    codec.UnpacksSafely initial memory front :=
  MmieCodec.ofFixedSize_unpacksSafely initial
    ⟨Nat.lt_succ_self front, trivial⟩ rfl

end AssociationReleaseMessage

/-- Version of the security info, which is the first security mode. -/
inductive SecurityVersion where
  | notDefined
  | mode1
  | upper
  deriving Repr, DecidableEq

instance : CodedEnumeration SecurityVersion where
  toUnderlying
    | .notDefined => undefinedNumeric32
    | .mode1 => 0
    | .upper => 1
  notDefined := .notDefined
  lower := none
  upper := .upper
  codes := [.mode1]

/-- How the hyper packet counter is used in the first security mode. -/
inductive SecurityIvTypeMode1 where
  | notDefined
  | oneTimeHpc
  | resynchronizingHpc
  | oneTimeHpcWithHpcRequest
  | upper
  deriving Repr, DecidableEq

instance : CodedEnumeration SecurityIvTypeMode1 where
  toUnderlying
    | .notDefined => undefinedNumeric32
    | .oneTimeHpc => 0
    | .resynchronizingHpc => 1
    | .oneTimeHpcWithHpcRequest => 2
    | .upper => 3
  notDefined := .notDefined
  lower := none
  upper := .upper
  codes := [.oneTimeHpc, .resynchronizingHpc, .oneTimeHpcWithHpcRequest]

structure MacSecurityInfoIe where
  keyIndex : UInt32
  securityIvType : SecurityIvTypeMode1
  hpc : UInt32
  deriving Repr, DecidableEq

namespace MacSecurityInfoIe

def version : SecurityVersion := .mode1

def zero : MacSecurityInfoIe where
  keyIndex := undefinedNumeric32
  securityIvType := .notDefined
  hpc := undefinedNumeric32

def isValid (ie : MacSecurityInfoIe) : Bool :=
  ie.keyIndex ≤ 0b11 && CodedEnumeration.isValid ie.securityIvType

def getPackedSize : Nat := 5

def pack
    (ie : MacSecurityInfoIe)
    (macPduOffset : Nat)
    (memory : Memory) :
    Checked Memory := do
  dectnrpAssert ie.isValid "MAC security info is not valid"
  -- octet 0
  let memory := memory.assign macPduOffset (toUnderlying version <<< 6)
  let memory := memory.assignOr macPduOffset (ie.keyIndex <<< 4)
  let memory := memory.assignOr macPduOffset
    (toUnderlying ie.securityIvType)
  -- octets 1 to 4
  pure ((FieldFormat.word 4).write ie.hpc (macPduOffset + 1) memory)

/-- Another version than the first security mode is not unpacked. -/
def unpack
    (macPduOffset : Nat) :
    OctetReader (Bool × MacSecurityInfoIe) := do
  let octet0 ← OctetReader.octet macPduOffset
  if octet0.toUInt32 >>> 6 ≠ toUnderlying SecurityVersion.mode1 then
    pure (false, zero)
  else do
    let hpc ← (FieldFormat.word 4).read (macPduOffset + 1)
    let ie : MacSecurityInfoIe :=
      { keyIndex := extract octet0 4 0b11
        securityIvType := fromCodedValue (extract octet0 0 0xf)
        hpc := hpc }
    pure (ie.isValid, ie)

def codec : MmieCodec MacSecurityInfoIe :=
  .ofFixedSize getPackedSize isValid pack unpack

/-- The first octet of an element. -/
def octet0Of
    (keyIndex : UInt32)
    (securityIvType : SecurityIvTypeMode1) :
    UInt8 :=
  (toUnderlying version <<< 6).toUInt8 ||| (keyIndex <<< 4).toUInt8 |||
    (toUnderlying securityIvType).toUInt8

theorem octet0Of_recovered
    {securityIvType : SecurityIvTypeMode1}
    (valid : CodedEnumeration.isValid securityIvType = true) :
    ∀ keyIndex : UInt32, keyIndex.toNat < 2 ^ 2 →
      (octet0Of keyIndex securityIvType).toUInt32 >>> 6 =
          toUnderlying SecurityVersion.mode1 ∧
        extract (octet0Of keyIndex securityIvType) 4 0b11 =
          keyIndex ∧
        fromCodedValue
            (extract (octet0Of keyIndex securityIvType) 0 0xf) =
          securityIvType := by
  apply BitFields.forall_field
  revert valid
  cases securityIvType <;> decide +kernel

theorem within_unpack
    (memory : Memory)
    (front : Nat) :
    (unpack front).Within memory (front + getPackedSize) := by
  rw [unpack, within_bind, within_octet]
  refine ⟨Nat.lt_add_of_pos_right (by decide), ?_⟩
  split
  · trivial
  · rw [within_bind]
    exact ⟨(word 4).read_within _ _ _ (Nat.le_refl _), trivial⟩

/-- A valid element is restored from its octets. -/
theorem roundTrips
    {ie : MacSecurityInfoIe}
    (valid : ie.isValid = true) :
    codec.RoundTrips ie := by
  have checked := valid
  simp only [isValid, Bool.and_eq_true, decide_eq_true_eq,
    UInt32.le_iff_toNat_le] at checked
  obtain ⟨isVersion, isKey, isIv⟩ :=
    octet0Of_recovered checked.2 ie.keyIndex
      (Nat.lt_succ_of_le checked.1)
  refine @MmieCodec.ofFixedSize_roundTrips _ _ _ _ _ _
    ([octet0Of ie.keyIndex ie.securityIvType] ++
      (word 4).code ie.hpc)
    (by simp; rfl) ?_ ?_ ?_
  · intro front memory
    simp only [pack, valid, dectnrpAssert_true, ok_bind,
      Memory.assign_eq_write, Memory.assignOr_front,
      FieldFormat.write_eq, pure_eq_ok]
    exact congrArg Except.ok
      (Memory.write_write front
        [octet0Of ie.keyIndex ie.securityIvType] _ memory)
  · intro memory front
    exact within_unpack memory front
  · intro memory front holds
    rw [Memory.holds_append, Memory.holds_singleton] at holds
    have isHpc : ((word 4).read (front + 1)).eval memory = ie.hpc :=
      FieldFormat.word_recovers_four ie.hpc memory (front + 1) holds.2
    simp only [unpack, eval_bind, eval_octet,
      holds.1, isVersion, ne_eq, not_true_eq_false, if_false, isHpc,
      isKey, isIv, eval_pure, valid]

theorem unpacksSafely
    (initial : MacSecurityInfoIe)
    (memory : Memory)
    (front : Nat) :
    codec.UnpacksSafely initial memory front := by
  apply MmieCodec.ofFixedSize_unpacksSafely initial
    (within_unpack memory front)
  rw [unpack, eval_bind]
  split
  · rfl
  · rw [eval_bind, eval_pure]

end MacSecurityInfoIe

structure RouteInfoIe where
  sinkAddress : UInt32
  routeCost : UInt32
  applicationSequenceNumber : UInt32
  deriving Repr, DecidableEq

namespace RouteInfoIe

def isValid (ie : RouteInfoIe) : Bool :=
  ie.routeCost ≤ 0xff && ie.applicationSequenceNumber ≤ 0xff

def getPackedSize : Nat := 6

def pack
    (ie : RouteInfoIe)
    (macPduOffset : Nat)
    (memory : Memory) :
    Checked Memory := do
  dectnrpAssert ie.isValid "route info IE is not valid"
  let memory := (FieldFormat.word 4).write ie.sinkAddress macPduOffset
    memory
  let memory := memory.assign (macPduOffset + 4) ie.routeCost
  pure (memory.assign (macPduOffset + 5) ie.applicationSequenceNumber)

/-- What is read is not checked, as every field fits into its octets. -/
def unpack (macPduOffset : Nat) : OctetReader (Bool × RouteInfoIe) := do
  let sinkAddress ← (FieldFormat.word 4).read macPduOffset
  let octet4 ← OctetReader.octet (macPduOffset + 4)
  let octet5 ← OctetReader.octet (macPduOffset + 5)
  pure
    (true,
      { sinkAddress := sinkAddress
        routeCost := octet4.toUInt32
        applicationSequenceNumber := octet5.toUInt32 })

def codec : MmieCodec RouteInfoIe :=
  .ofFixedSize getPackedSize isValid pack unpack

theorem within_unpack
    (memory : Memory)
    (front : Nat) :
    (unpack front).Within memory (front + getPackedSize) := by
  simp only [unpack, within_bind, within_octet,
    within_pure, and_true, getPackedSize]
  exact ⟨(word 4).read_within _ _ _
      (Nat.add_le_add_left (by decide) front), by omega, by omega⟩

/-- A valid element is restored from its octets. -/
theorem roundTrips
    {ie : RouteInfoIe}
    (valid : ie.isValid = true) :
    codec.RoundTrips ie := by
  have checked := valid
  simp only [isValid, Bool.and_eq_true, decide_eq_true_eq] at checked
  refine @MmieCodec.ofFixedSize_roundTrips _ _ _ _ _ _
    ((word 4).code ie.sinkAddress ++
      FieldFormat.octet.code ie.routeCost ++
      FieldFormat.octet.code ie.applicationSequenceNumber)
    (by simp; rfl) ?_ ?_ ?_
  · intro front memory
    simp only [pack, valid, dectnrpAssert_true, ok_bind,
      pure_eq_ok, FieldFormat.write_eq]
    have sinkSize : 4 = ((word 4).code ie.sinkAddress).length :=
      ((word 4).code_length _).symm
    rw [Memory.assign_behind front sinkSize,
      Memory.assign_behind front (by simp [← sinkSize])]
    rfl
  · intro memory front
    exact within_unpack memory front
  · intro memory front holds
    have readSequence : (memory (front + 5)).toUInt32 = _ :=
      FieldFormat.octet_recovers_of_not_lt
        (UInt32.not_lt.mpr checked.2) memory (front + 5)
        (Memory.holds_append.mp holds).2
    have readCost : (memory (front + 4)).toUInt32 = _ :=
      FieldFormat.octet_recovers_of_not_lt
        (UInt32.not_lt.mpr checked.1) memory (front + 4)
        (Memory.holds_append.mp holds.front).2
    have readSink : ((word 4).read front).eval memory = ie.sinkAddress :=
      FieldFormat.word_recovers_four ie.sinkAddress memory front
        holds.front.front
    simp only [unpack, eval_bind, eval_octet,
      eval_pure, readSequence, readCost, readSink]

theorem unpacksSafely
    (initial : RouteInfoIe)
    (memory : Memory)
    (front : Nat) :
    codec.UnpacksSafely initial memory front := by
  apply MmieCodec.ofFixedSize_unpacksSafely initial
    (within_unpack memory front)
  have cost := FieldFormat.octet_valueAt_not_lt memory (front + 4)
  have sequenceNumber := FieldFormat.octet_valueAt_not_lt memory (front + 5)
  simp only [unpack, eval_bind, eval_pure,
    eval_octet, isValid, Bool.and_eq_true, decide_eq_true_eq]
  exact ⟨UInt32.not_lt.mp cost, UInt32.not_lt.mp sequenceNumber⟩

end RouteInfoIe

/-- State of a device. -/
inductive StatusFlag where
  | notDefined
  | lower
  | memoryFull
  | normalOperation
  | upper
  deriving Repr, DecidableEq

instance : CodedEnumeration StatusFlag where
  toUnderlying
    | .notDefined => undefinedNumeric32
    | .lower => 0
    | .memoryFull => 1
    | .normalOperation => 2
    | .upper => 3
  notDefined := .notDefined
  lower := some .lower
  upper := .upper
  codes := [.memoryFull, .normalOperation]

/-- How long a state lasts. -/
inductive StatusDuration where
  | notDefined
  | ms50
  | ms100
  | ms200
  | ms400
  | ms600
  | ms800
  | ms1000
  | ms1500
  | ms2000
  | ms3000
  | ms4000
  | unknown
  | upper
  deriving Repr, DecidableEq

instance : CodedEnumeration StatusDuration where
  toUnderlying
    | .notDefined => undefinedNumeric32
    | .ms50 => 0
    | .ms100 => 1
    | .ms200 => 2
    | .ms400 => 3
    | .ms600 => 4
    | .ms800 => 5
    | .ms1000 => 6
    | .ms1500 => 7
    | .ms2000 => 8
    | .ms3000 => 9
    | .ms4000 => 10
    | .unknown => 11
    | .upper => 12
  notDefined := .notDefined
  lower := none
  upper := .upper
  codes :=
    [.ms50, .ms100, .ms200, .ms400, .ms600, .ms800, .ms1000, .ms1500,
      .ms2000, .ms3000, .ms4000, .unknown]

structure RadioDeviceStatusIe where
  statusFlag : StatusFlag
  duration : StatusDuration
  deriving Repr, DecidableEq

namespace RadioDeviceStatusIe

def isValid (ie : RadioDeviceStatusIe) : Bool :=
  CodedEnumeration.isValid ie.statusFlag &&
    CodedEnumeration.isValid ie.duration

def getPackedSize : Nat := 1

def pack
    (ie : RadioDeviceStatusIe)
    (macPduOffset : Nat)
    (memory : Memory) :
    Checked Memory := do
  dectnrpAssert ie.isValid "Radio Device Status IE is not valid"
  let memory := memory.assign macPduOffset
    (toUnderlying ie.statusFlag <<< 4)
  pure (memory.assignOr macPduOffset (toUnderlying ie.duration))

/-- The state that an octet stands for. -/
def ofOctet (octet0 : UInt8) : RadioDeviceStatusIe where
  statusFlag := fromCodedValue (extract octet0 4 0b11)
  duration := fromCodedValue (extract octet0 0 0xf)

def unpack
    (macPduOffset : Nat) :
    OctetReader (Bool × RadioDeviceStatusIe) := do
  let octet0 ← OctetReader.octet macPduOffset
  let ie := ofOctet octet0
  pure (ie.isValid, ie)

def codec : MmieCodec RadioDeviceStatusIe :=
  .ofFixedSize getPackedSize isValid pack unpack

theorem ofOctet_code
    {ie : RadioDeviceStatusIe}
    (valid : ie.isValid = true) :
    ofOctet
        ((toUnderlying ie.statusFlag <<< 4).toUInt8 |||
          (toUnderlying ie.duration).toUInt8) =
      ie := by
  obtain ⟨statusFlag, duration⟩ := ie
  revert valid
  cases statusFlag <;> cases duration <;> decide

/-- A valid element is restored from its octet. -/
theorem roundTrips
    {ie : RadioDeviceStatusIe}
    (valid : ie.isValid = true) :
    codec.RoundTrips ie := by
  refine @MmieCodec.ofFixedSize_roundTrips _ _ _ _ _ _
    [(toUnderlying ie.statusFlag <<< 4).toUInt8 |||
      (toUnderlying ie.duration).toUInt8] rfl ?_ ?_ ?_
  · intro front memory
    simp only [pack, valid, dectnrpAssert_true, ok_bind,
      Memory.assign_eq_write, Memory.assignOr_front, pure_eq_ok]
  · intro memory front
    exact ⟨Nat.lt_succ_self front, trivial⟩
  · intro memory front holds
    have octet0 := Memory.holds_singleton.mp holds
    simp only [unpack, eval_bind, eval_octet,
      eval_pure, octet0, ofOctet_code valid, valid]

theorem unpacksSafely
    (initial : RadioDeviceStatusIe)
    (memory : Memory)
    (front : Nat) :
    codec.UnpacksSafely initial memory front :=
  MmieCodec.ofFixedSize_unpacksSafely initial
    ⟨Nat.lt_succ_self front, trivial⟩ rfl

end RadioDeviceStatusIe

/-- Whether one resource is assigned or several. -/
inductive NofResourceAssignments where
  | notDefined
  | multipleAssignments
  | singleAssignment
  | upper
  deriving Repr, DecidableEq

instance : CodedEnumeration NofResourceAssignments where
  toUnderlying
    | .notDefined => undefinedNumeric32
    | .multipleAssignments => 0
    | .singleAssignment => 1
    | .upper => 2
  notDefined := .notDefined
  lower := none
  upper := .upper
  codes := [.multipleAssignments, .singleAssignment]

/-- Direction in which an assigned resource is used. -/
inductive ResourceDirection where
  | notDefined
  | asPreassigned
  | inverted
  | upper
  deriving Repr, DecidableEq

instance : CodedEnumeration ResourceDirection where
  toUnderlying
    | .notDefined => undefinedNumeric32
    | .asPreassigned => 0
    | .inverted => 1
    | .upper => 2
  notDefined := .notDefined
  lower := none
  upper := .upper
  codes := [.asPreassigned, .inverted]

structure ResourceAssignment where
  direct : ResourceDirection
  resourceTag : UInt32
  deriving Repr, DecidableEq

namespace ResourceAssignment

def isValid (assignment : ResourceAssignment) : Bool :=
  CodedEnumeration.isValid assignment.direct &&
    assignment.resourceTag ≤ 127

/-- The assignment that an octet stands for. -/
def ofOctet (octet : UInt8) : ResourceAssignment where
  direct := fromCodedValue (octet.toUInt32 >>> 7)
  resourceTag := extract octet 0 127

/-- The direction is the most significant bit in front of the tag. -/
def format : FieldFormat ResourceAssignment where
  size := 1
  write assignment address memory :=
    (memory.assign address
      (toUnderlying assignment.direct <<< 7)).assignOr address
        assignment.resourceTag
  read address := do
    let octet ← OctetReader.octet address
    pure (ofOctet octet)
  code assignment :=
    [(toUnderlying assignment.direct <<< 7).toUInt8 |||
      assignment.resourceTag.toUInt8]
  code_length _ := rfl
  write_eq _ _ _ := by
    rw [Memory.assign_eq_write, Memory.assignOr_front]
  read_within _ _ _ inside := ⟨inside, trivial⟩

@[simp] theorem format_size :
    format.size = 1 :=
  rfl

theorem format_notEmpty :
    0 < format.size :=
  Nat.one_pos

/-- The fields of an octet are found where they were placed. -/
theorem ofOctet_code
    {direct : ResourceDirection}
    (valid : CodedEnumeration.isValid direct = true) :
    ∀ resourceTag : UInt32, resourceTag.toNat < 2 ^ 7 →
      ofOctet
          ((toUnderlying direct <<< 7).toUInt8 ||| resourceTag.toUInt8) =
        ⟨direct, resourceTag⟩ := by
  apply BitFields.forall_field
  revert valid
  cases direct <;> decide +kernel

/-- An assignment that passes its check is recovered from its octet. -/
theorem recovers
    {assignment : ResourceAssignment}
    (valid : assignment.isValid = true) :
    format.Recovers assignment := by
  intro memory address holds
  have isOctet := Memory.holds_singleton.mp holds
  simp only [isValid, Bool.and_eq_true, decide_eq_true_eq,
    UInt32.le_iff_toNat_le] at valid
  change ofOctet (memory address) = assignment
  rw [isOctet]
  exact ofOctet_code valid.1 _ (Nat.lt_succ_of_le valid.2)

theorem ofOctet_isValid (octet : UInt8) :
    (ofOctet octet).isValid = true := by
  revert octet
  apply BitFields.forall_octet
  decide +kernel

end ResourceAssignment

/-- The fields and the length in the multiplexing header. -/
structure GroupAssignmentIe where
  single : NofResourceAssignments
  groupId : UInt32
  resourceAssignments : List ResourceAssignment
  length : UInt32
  deriving Repr, DecidableEq

namespace GroupAssignmentIe

def isValid (ie : GroupAssignmentIe) : Bool :=
  if ! CodedEnumeration.isValid ie.single then false
  else if ie.single = .singleAssignment &&
      ie.resourceAssignments.length ≠ 1 then
    false
  else if ie.single = .multipleAssignments &&
      ie.resourceAssignments.length < 2 then
    false
  else if 127 < ie.groupId then false
  else ie.resourceAssignments.all ResourceAssignment.isValid

/-- The number of assignments is as told, and every field fits. -/
theorem isValid_iff
    {ie : GroupAssignmentIe} :
    ie.isValid = true ↔
      (ie.single = .singleAssignment ∧
          ie.resourceAssignments.length = 1 ∨
        ie.single = .multipleAssignments ∧
          ¬ ie.resourceAssignments.length < 2) ∧
      ¬ 127 < ie.groupId ∧
      ∀ assignment ∈ ie.resourceAssignments, assignment.isValid = true := by
  unfold isValid
  cases ie.single <;>
    simp [CodedEnumeration.isValid, CodedEnumeration.notDefined,
      CodedEnumeration.lower, CodedEnumeration.upper]

def getPackedSize (ie : GroupAssignmentIe) : Checked Nat := do
  dectnrpAssert ie.isValid "Group Assignment IE is not valid"
  pure (1 + ie.resourceAssignments.length)

def pack
    (ie : GroupAssignmentIe)
    (macPduOffset : Nat)
    (memory : Memory) :
    Checked Memory := do
  dectnrpAssert ie.isValid "Group Assignment IE is not valid"
  let memory := memory.assign macPduOffset (toUnderlying ie.single <<< 7)
  let memory := memory.assignOr macPduOffset ie.groupId
  let (_, memory) := ResourceAssignment.format.packAll macPduOffset
    ie.resourceAssignments (1, memory)
  pure memory

/-- As many assignments are read as the multiplexing header announces. -/
def read
    (length : UInt32)
    (macPduOffset : Nat) :
    OctetReader (GroupAssignmentIe × Nat) := do
  let octet0 ← OctetReader.octet macPduOffset
  let (resourceAssignments, _) ←
    ResourceAssignment.format.unpackWhile
      ResourceAssignment.format_notEmpty macPduOffset length.toNat 1
  pure
    ({ single := fromCodedValue (octet0.toUInt32 >>> 7)
       groupId := extract octet0 0 127
       resourceAssignments := resourceAssignments
       length := length }, length.toNat)

/-- An element takes the octets that its multiplexing header announces. -/
def codec : MmieCodec GroupAssignmentIe where
  isValid ie := .ok ie.isValid
  getPackedSize := getPackedSize
  pack := pack
  getPackedSizeMinToPeek := 0
  getPackedSizeByPeeking initial _ := pure (.ok initial.length.toNat)
  unpack initial octets macPduOffset :=
    unpackRead getPackedSize (fun ie => .ok ie.isValid)
      (read initial.length macPduOffset) octets
  SameContext initial ie := initial.length = ie.length
  sameContext_refl _ := rfl

/-- The length fits to the number of assignments that the first bit tells. -/
def SafeOctets
    (length : UInt32)
    (memory : Memory)
    (front : Nat) :
    Prop :=
  (memory front >>> 7 = 1 ∧ length = 2) ∨
    (memory front >>> 7 = 0 ∧ 3 ≤ length)

/-- What is read of octets that contain at least the first one. -/
def received
    (length : UInt32)
    (memory : Memory)
    (front : Nat) :
    GroupAssignmentIe where
  single := fromCodedValue ((memory front).toUInt32 >>> 7)
  groupId := extract (memory front) 0 127
  resourceAssignments :=
    ResourceAssignment.format.allAt memory (front + 1) (length.toNat - 1)
  length := length

variable {length : UInt32}

theorem length_pos (notEmpty : length ≠ 0) :
    0 < length.toNat :=
  Nat.pos_of_ne_zero fun isZero => notEmpty (UInt32.toNat_inj.mp isZero)

/-- The octets behind the first one are assignments. -/
theorem read_eq
    (notEmpty : length ≠ 0)
    (macPduOffset : Nat) :
    read length macPduOffset = (do
      let octet0 ← OctetReader.octet macPduOffset
      let (resourceAssignments, _) ←
        ResourceAssignment.format.unpackAll macPduOffset (length.toNat - 1) 1
      pure
        ({ single := fromCodedValue (octet0.toUInt32 >>> 7)
           groupId := extract octet0 0 127
           resourceAssignments := resourceAssignments
           length := length }, length.toNat)) := by
  have positive := length_pos notEmpty
  have limit : length.toNat =
      1 + (length.toNat - 1) * ResourceAssignment.format.size := by
    rw [ResourceAssignment.format_size]
    omega
  unfold read
  nth_rewrite 1 [limit]
  rw [FieldFormat.unpackWhile_eq_unpackAll]

theorem eval_read
    (notEmpty : length ≠ 0)
    (memory : Memory)
    (front : Nat) :
    (read length front).eval memory =
      (received length memory front, length.toNat) := by
  rw [read_eq notEmpty]
  simp only [eval_bind, eval_octet,
    FieldFormat.eval_unpackAll, eval_pure, received]

theorem within_read
    (notEmpty : length ≠ 0)
    (memory : Memory)
    (front : Nat) :
    (read length front).Within memory (front + length.toNat) := by
  have positive := length_pos notEmpty
  rw [read_eq notEmpty]
  simp only [within_bind, within_octet, within_pure, and_true]
  exact ⟨by omega, FieldFormat.within_unpackAll _ (by
        rw [ResourceAssignment.format_size]
        omega)⟩

/-- Every first octet tells a number of assignments and a group. -/
theorem octet0_understood (octet0 : UInt8) :
    let single : NofResourceAssignments :=
      fromCodedValue (octet0.toUInt32 >>> 7)
    (octet0 >>> 7 = 1 ∧ single = .singleAssignment ∨
        octet0 >>> 7 = 0 ∧ single = .multipleAssignments) ∧
      ¬ 127 < extract octet0 0 127 := by
  revert octet0
  apply BitFields.forall_octet
  decide +kernel

variable {memory : Memory}

/-- What was read is valid if the length fits. -/
theorem received_isValid_iff
    {front : Nat} :
    (received length memory front).isValid = true ↔
      SafeOctets length memory front := by
  have assignments :
      ∀ assignment ∈ ResourceAssignment.format.allAt memory (front + 1)
        (length.toNat - 1), assignment.isValid = true := by
    rw [FieldFormat.forall_mem_allAt]
    intro index _
    exact ResourceAssignment.ofOctet_isValid _
  have exactlyOne : length.toNat - 1 = 1 ↔ length = 2 := by
    rw [← UInt32.toNat_inj]
    change _ ↔ _ = 2
    omega
  have several : ¬ length.toNat - 1 < 2 ↔ 3 ≤ length := by
    rw [UInt32.le_iff_toNat_le]
    change _ ↔ 3 ≤ _
    omega
  obtain ⟨told, groupFits⟩ := octet0_understood (memory front)
  rw [isValid_iff, and_iff_left ⟨groupFits, assignments⟩, received,
    allAt_length, exactlyOne, several, SafeOctets]
  rcases told with ⟨bit, isSingle⟩ | ⟨bit, isMultiple⟩
  · simp only [bit, isSingle, true_and]
    exact or_congr_right
      ⟨fun wrong => (by cases wrong.1), fun wrong => (by cases wrong.1)⟩
  · simp only [bit, isMultiple, true_and]
    exact or_congr_left
      ⟨fun wrong => (by cases wrong.1), fun wrong => (by cases wrong.1)⟩

/-- A valid element has the size that its multiplexing header announced. -/
theorem getPackedSize_received
    (notEmpty : length ≠ 0)
    {front : Nat}
    (valid : (received length memory front).isValid = true) :
    (received length memory front).getPackedSize = .ok length.toNat := by
  have positive := length_pos notEmpty
  have behindFirst : 1 + (length.toNat - 1) = length.toNat := by omega
  rw [getPackedSize, valid, dectnrpAssert_true, ok_bind,
    received, allAt_length, behindFirst]
  rfl

/-- An element is unpacked safely exactly if its length fits. -/
theorem unpacksSafely_iff
    (initial : GroupAssignmentIe)
    (memory : Memory)
    (front : Nat) :
    codec.UnpacksSafely initial memory front ↔
      SafeOctets initial.length memory front := by
  rw [@MmieCodec.unpacksSafely_iff _ codec initial memory front
      (read initial.length front) fun _ => rfl]
  constructor
  · intro safely
    obtain ⟨within, sized, -⟩ := safely _ rfl
    have notEmpty : initial.length ≠ 0 := by
      intro isZero
      rw [isZero] at within
      exact Nat.lt_irrefl front within.1
    rw [eval_read notEmpty] at sized
    obtain ⟨valid, -⟩ := Checked.dectnrpAssert_bind_eq_ok.mp sized
    exact received_isValid_iff.mp valid
  · intro safe size peeked
    have notEmpty : initial.length ≠ 0 := by
      rintro isZero
      rcases safe with ⟨-, isTwo⟩ | ⟨-, atLeast⟩
      · rw [isZero] at isTwo
        cases isTwo
      · rw [isZero] at atLeast
        exact absurd atLeast (by decide)
    have isSize : initial.length.toNat = size := by
      simpa only [Except.ok.injEq] using
        (show Except.ok (Except.ok initial.length.toNat) = _ from peeked)
    subst isSize
    rw [eval_read notEmpty]
    exact ⟨within_read notEmpty memory front, getPackedSize_received notEmpty
        (received_isValid_iff.mpr safe), _, rfl⟩

/-- The octets of an element. -/
def code (ie : GroupAssignmentIe) : List UInt8 :=
  [(toUnderlying ie.single <<< 7).toUInt8 ||| ie.groupId.toUInt8] ++
    ResourceAssignment.format.allCode ie.resourceAssignments

theorem code_length (ie : GroupAssignmentIe) :
    ie.code.length = 1 + ie.resourceAssignments.length := by
  rw [code, List.length_append, FieldFormat.allCode_length,
    ResourceAssignment.format_size, Nat.mul_one]
  rfl

/-- The fields of the first octet are found where they were placed. -/
theorem octet0_recovered
    {single : NofResourceAssignments}
    (valid : CodedEnumeration.isValid single = true) :
    ∀ groupId : UInt32, groupId.toNat < 2 ^ 7 →
      let octet0 := (toUnderlying single <<< 7).toUInt8 ||| groupId.toUInt8
      fromCodedValue (octet0.toUInt32 >>> 7) = single ∧
        extract octet0 0 127 = groupId := by
  apply BitFields.forall_field
  revert valid
  cases single <;> decide +kernel

variable {ie : GroupAssignmentIe}

/-- A valid element is written as its octets. -/
theorem pack_valid
    (valid : ie.isValid = true)
    (macPduOffset : Nat)
    (memory : Memory) :
    ie.pack macPduOffset memory = .ok (memory.write macPduOffset ie.code) := by
  simp only [pack, valid, dectnrpAssert_true, ok_bind,
    Memory.assign_eq_write, Memory.assignOr_front, pure_eq_ok]
  rw [FieldFormat.mk_write (by rfl), FieldFormat.packAll_written]
  rfl

/-- A valid element is read from its octets. -/
theorem received_code
    (valid : ie.isValid = true)
    (announced : ie.length.toNat = ie.code.length)
    {front : Nat}
    (holds : memory.Holds front ie.code) :
    received ie.length memory front = ie := by
  obtain ⟨single, groupId, resourceAssignments, length⟩ := ie
  obtain ⟨told, groupFits, assignmentsValid⟩ := isValid_iff.mp valid
  have singleValid : CodedEnumeration.isValid single = true := by
    rcases told with ⟨isSingle, -⟩ | ⟨isMultiple, -⟩
    · exact congrArg CodedEnumeration.isValid isSingle
    · exact congrArg CodedEnumeration.isValid isMultiple
  rw [UInt32.lt_iff_toNat_lt] at groupFits
  obtain ⟨isSingle, isGroup⟩ :=
    octet0_recovered singleValid groupId
      (Nat.lt_succ_of_le (Nat.not_lt.mp groupFits))
  rw [code, Memory.holds_append, Memory.holds_singleton] at holds
  have isAssignments : ResourceAssignment.format.allAt memory (front + 1)
      resourceAssignments.length = resourceAssignments :=
    FieldFormat.allAt_eq (fun assignment member =>
        ResourceAssignment.recovers (assignmentsValid assignment member))
      holds.2
  have count : length.toNat - 1 = resourceAssignments.length := by
    rw [announced, code_length, Nat.add_sub_cancel_left]
  rw [received, holds.1, isSingle, isGroup, count, isAssignments]

/--
A valid element is restored from its octets by an object whose multiplexing
header announces their number.
-/
theorem roundTrips
    {ie : GroupAssignmentIe}
    (valid : ie.isValid = true)
    (announced : ie.length.toNat = ie.code.length) :
    codec.RoundTrips ie := by
  have notEmpty : ie.length ≠ 0 := by
    intro isZero
    rw [isZero, code_length, UInt32.toNat_zero] at announced
    omega
  have sized : ie.getPackedSize = .ok ie.code.length := by
    rw [getPackedSize, valid, code_length]
    rfl
  refine MmieCodec.roundTrips_of_code sized (pack_valid valid) ?_ ?_
  · intro initial memory front sameLength _
    rw [← announced, ← show initial.length = ie.length from sameLength]
    rfl
  · intro initial memory front sameLength holds
    rw [← announced]
    change
      unpackRead getPackedSize (fun ie => .ok ie.isValid)
        (read initial.length front) _ = _
    rw [show initial.length = ie.length from sameLength,
      unpackRead_eq_ok, eval_read notEmpty,
      received_code valid announced holds]
    exact
      ⟨within_read notEmpty memory front, announced ▸ sized,
        congrArg Except.ok valid, rfl⟩

end GroupAssignmentIe

/-- What is transmitted of an element without optional fields is received. -/
theorem smallElements_restored :
    (∀ message : AssociationReleaseMessage, message.isValid = true →
      AssociationReleaseMessage.codec.RoundTrips message) ∧
    (∀ ie : MacSecurityInfoIe, ie.isValid = true →
      MacSecurityInfoIe.codec.RoundTrips ie) ∧
    (∀ ie : RouteInfoIe, ie.isValid = true → RouteInfoIe.codec.RoundTrips ie) ∧
    (∀ ie : RadioDeviceStatusIe, ie.isValid = true →
      RadioDeviceStatusIe.codec.RoundTrips ie) ∧
    ∀ ie : GroupAssignmentIe, ie.isValid = true →
      ie.length.toNat = ie.code.length →
        GroupAssignmentIe.codec.RoundTrips ie :=
  ⟨fun _ => AssociationReleaseMessage.roundTrips,
    fun _ => MacSecurityInfoIe.roundTrips, fun _ => RouteInfoIe.roundTrips,
    fun _ => RadioDeviceStatusIe.roundTrips,
    fun _ => GroupAssignmentIe.roundTrips⟩

/-- A route of three hops, and a group with two assignments. -/
theorem smallElements_restored_twoAssignments :
    RouteInfoIe.codec.RoundTrips ⟨0x12345678, 3, 7⟩ ∧
    GroupAssignmentIe.codec.RoundTrips
      ⟨.multipleAssignments, 5, [⟨.asPreassigned, 1⟩, ⟨.inverted, 127⟩], 3⟩ := by
  obtain ⟨-, -, routes, -, groups⟩ := smallElements_restored
  exact ⟨routes _ (by decide), groups _ (by decide) (by decide)⟩

end DectNrp
