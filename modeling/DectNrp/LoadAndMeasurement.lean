import DectNrp.CodedEnumeration
import DectNrp.FeedbackInfo
import DectNrp.MmieCodec

namespace DectNrp

/-!
# Load info and measurement report

Both elements start with an octet of flags, one for each optional field.  The
size that is peeked from the flags adds some of them without moving the flag
to the lowest bit first.
-/

open FieldFormat (octet word)
open BitFields (extract)
open FieldFormat (eval_unpack eval_unpackOptional mk_write
  octet_recovers_of_any octet_recovers_of_not_lt octet_size
  octet_valueAt_not_lt optionalSize_eq unpackOptional_holds unpack_holds
  within_unpackOptional word_size written_fst written_snd)

open OctetReader (eval_bind eval_octet eval_pure within_bind within_octet
  within_pure)

/-- Width of the number of associated devices. -/
inductive MaxAssocSize where
  | notDefined
  | bit8
  | bit16
  | upper
  deriving Repr, DecidableEq

instance : CodedEnumeration MaxAssocSize where
  toUnderlying
    | .notDefined => undefinedNumeric32
    | .bit8 => 0
    | .bit16 => 1
    | .upper => 2
  notDefined := .notDefined
  lower := none
  upper := .upper
  codes := [.bit8, .bit16]

/-- Load of the subslots of a channel. -/
structure ChannelLoad where
  percentageSubslotsFree : UInt32
  percentageSubslotsBusy : UInt32
  deriving Repr, DecidableEq

/-- A channel load is written as two octets. -/
def ChannelLoad.format : FieldFormat ChannelLoad :=
  (octet.paired octet).mapped
    (fun load =>
      (load.percentageSubslotsFree, load.percentageSubslotsBusy))
    fun load => ⟨load.1, load.2⟩

@[simp] theorem ChannelLoad.format_size :
    format.size = 2 :=
  rfl

structure LoadInfoIe where
  maxAssoc : MaxAssocSize
  rdPtLoadPercentage : Option UInt32
  rachLoadPercentage : Option UInt32
  channelLoad : Option ChannelLoad
  trafficLoadPercentage : UInt32
  maxNofAssociatedRd : UInt32
  rdFtLoadPercentage : UInt32
  deriving Repr, DecidableEq

namespace LoadInfoIe

open CodedEnumeration (toUnderlying fromCodedValue)

def isValid (ie : LoadInfoIe) : Bool :=
  if ! CodedEnumeration.isValid ie.maxAssoc then false
  else if ie.rdPtLoadPercentage.any fun load => 255 < load then false
  else if ie.rachLoadPercentage.any fun load => 255 < load then false
  else if ie.channelLoad.any fun load =>
      255 < load.percentageSubslotsFree ||
        255 < load.percentageSubslotsBusy then
    false
  else if 255 < ie.trafficLoadPercentage then false
  else if (if ie.maxAssoc = .bit8 then 255 else 65535) <
      ie.maxNofAssociatedRd then
    false
  else ie.rdFtLoadPercentage ≤ 255

def getPackedSize (ie : LoadInfoIe) : Checked Nat := do
  dectnrpAssert ie.isValid "Load Info IE is not valid"
  pure ((if ie.maxAssoc = .bit8 then 4 else 5) +
    ie.rdPtLoadPercentage.isSome.toNat +
    ie.rachLoadPercentage.isSome.toNat +
    ie.channelLoad.isSome.toNat * 2)

/-- Size of an element whose first octet is known. -/
def sizeByFlags (octet0 : UInt8) : Nat :=
  (if (octet0 &&& 8).toUInt32 = toUnderlying MaxAssocSize.bit8 then 4
    else 5) +
    (octet0 &&& 4).toNat + (octet0 &&& 2).toNat +
    (octet0 &&& 1).toNat * 2

def getPackedSizeByPeeking (macPduOffset : Nat) : OctetReader PeekResult := do
  let octet0 ← OctetReader.octet macPduOffset
  pure (.ok (sizeByFlags octet0))

/-- Number of octets of the number of associated devices. -/
def maxNofAssociatedRdSize (maxAssoc : MaxAssocSize) : Nat :=
  if maxAssoc = .bit8 then 1 else 2

def pack
    (ie : LoadInfoIe)
    (macPduOffset : Nat)
    (memory : Memory) :
    Checked Memory := do
  dectnrpAssert ie.isValid "Load Info IE is not valid"
  -- octet 0
  let memory := memory.assign macPduOffset (toUnderlying ie.maxAssoc <<< 3)
  let memory := memory.assignOr macPduOffset
    (ie.rdPtLoadPercentage.isSome.toUInt32 <<< 2)
  let memory := memory.assignOr macPduOffset
    (ie.rachLoadPercentage.isSome.toUInt32 <<< 1)
  let memory := memory.assignOr macPduOffset
    ie.channelLoad.isSome.toUInt32
  -- octet 1
  let memory := memory.assign (macPduOffset + 1) ie.trafficLoadPercentage
  let state := (2, memory)
  let state := (word (maxNofAssociatedRdSize ie.maxAssoc)).pack
    macPduOffset ie.maxNofAssociatedRd state
  let state := octet.pack macPduOffset ie.rdFtLoadPercentage
    state
  -- optional fields
  let state := octet.packOptional macPduOffset
    ie.rdPtLoadPercentage state
  let state := octet.packOptional macPduOffset
    ie.rachLoadPercentage state
  let (nBytes, memory) := ChannelLoad.format.packOptional macPduOffset
    ie.channelLoad state
  assertPeeked ((getPackedSizeByPeeking macPduOffset).eval memory) nBytes
  pure memory

/-- The fields of an element and the number of octets they take. -/
def read (macPduOffset : Nat) : OctetReader (LoadInfoIe × Nat) := do
  let octet0 ← OctetReader.octet macPduOffset
  let octet1 ← OctetReader.octet (macPduOffset + 1)
  let maxAssoc : MaxAssocSize :=
    fromCodedValue (BitFields.extract octet0 3 0b1)
  let (maxNofAssociatedRd, nBytes) ←
    (word (maxNofAssociatedRdSize maxAssoc)).unpack
      macPduOffset 2
  let (rdFtLoadPercentage, nBytes) ←
    octet.unpack macPduOffset nBytes
  let (rdPtLoadPercentage, nBytes) ←
    octet.unpackOptional macPduOffset (octet0 &&& 4 != 0)
      nBytes
  let (rachLoadPercentage, nBytes) ←
    octet.unpackOptional macPduOffset (octet0 &&& 2 != 0)
      nBytes
  let (channelLoad, nBytes) ←
    ChannelLoad.format.unpackOptional macPduOffset (octet0 &&& 1 != 0)
      nBytes
  pure
    ({ maxAssoc := maxAssoc
       rdPtLoadPercentage := rdPtLoadPercentage
       rachLoadPercentage := rachLoadPercentage
       channelLoad := channelLoad
       trafficLoadPercentage := octet1.toUInt32
       maxNofAssociatedRd := maxNofAssociatedRd
       rdFtLoadPercentage := rdFtLoadPercentage }, nBytes)

def unpack
    (octets : List UInt8)
    (macPduOffset : Nat) :
    Checked (Bool × LoadInfoIe) :=
  unpackRead getPackedSize (fun ie => .ok ie.isValid)
    (read macPduOffset) octets

def codec : MmieCodec LoadInfoIe where
  isValid ie := .ok ie.isValid
  getPackedSize := getPackedSize
  pack := pack
  getPackedSizeMinToPeek := 1
  getPackedSizeByPeeking _ := getPackedSizeByPeeking
  unpack _ := unpack
  SameContext _ _ := True
  sameContext_refl _ := trivial

/-- The first octet of an element. -/
def flagsOf (ie : LoadInfoIe) : UInt8 :=
  (toUnderlying ie.maxAssoc <<< 3).toUInt8 |||
    (ie.rdPtLoadPercentage.isSome.toUInt32 <<< 2).toUInt8 |||
    (ie.rachLoadPercentage.isSome.toUInt32 <<< 1).toUInt8 |||
    ie.channelLoad.isSome.toUInt32.toUInt8

def code (ie : LoadInfoIe) : List UInt8 :=
  [ie.flagsOf, ie.trafficLoadPercentage.toUInt8] ++
    (word (maxNofAssociatedRdSize ie.maxAssoc)).code
      ie.maxNofAssociatedRd ++
    octet.code ie.rdFtLoadPercentage ++
    octet.optionalCode ie.rdPtLoadPercentage ++
    octet.optionalCode ie.rachLoadPercentage ++
    ChannelLoad.format.optionalCode ie.channelLoad

variable {maxAssoc : MaxAssocSize}

/-- The flags are found where they were placed. -/
theorem flags_recovered
    (valid : CodedEnumeration.isValid maxAssoc = true)
    (rdPt rach channel : Bool) :
    let octet0 :=
      (toUnderlying maxAssoc <<< 3).toUInt8 |||
        (rdPt.toUInt32 <<< 2).toUInt8 |||
        (rach.toUInt32 <<< 1).toUInt8 ||| channel.toUInt32.toUInt8
    fromCodedValue (extract octet0 3 0b1) = maxAssoc ∧
      (octet0 &&& 4 != 0) = rdPt ∧ (octet0 &&& 2 != 0) = rach ∧
      (octet0 &&& 1 != 0) = channel ∧
      sizeByFlags octet0 =
        (if maxAssoc = .bit8 then 4 else 5) + rdPt.toNat * 4 +
          rach.toNat * 2 + channel.toNat * 2 := by
  revert valid rdPt rach channel
  cases maxAssoc <;> decide

variable {ie : LoadInfoIe}

theorem flagsOf_recovered
    (valid : CodedEnumeration.isValid ie.maxAssoc = true) :
    fromCodedValue (extract ie.flagsOf 3 0b1) = ie.maxAssoc ∧
      (ie.flagsOf &&& 4 != 0) = ie.rdPtLoadPercentage.isSome ∧
      (ie.flagsOf &&& 2 != 0) = ie.rachLoadPercentage.isSome ∧
      (ie.flagsOf &&& 1 != 0) = ie.channelLoad.isSome ∧
      sizeByFlags ie.flagsOf =
        (if ie.maxAssoc = .bit8 then 4 else 5) +
          ie.rdPtLoadPercentage.isSome.toNat * 4 +
          ie.rachLoadPercentage.isSome.toNat * 2 +
          ie.channelLoad.isSome.toNat * 2 :=
  flags_recovered valid _ _ _

variable {memory : Memory}

/-- Peeking at the octets of an element. -/
theorem peeked_code
    {macPduOffset : Nat}
    (holds : memory.Holds macPduOffset ie.code) :
    (getPackedSizeByPeeking macPduOffset).eval memory =
      .ok (sizeByFlags ie.flagsOf) := by
  have isFlags : memory macPduOffset = ie.flagsOf := by
    simp only [code, Memory.holds_append, Memory.holds_cons_cons] at holds
    exact holds.1.1.1.1.1.1
  simp only [getPackedSizeByPeeking, eval_bind, eval_octet, eval_pure, isFlags]

theorem pack_valid
    (valid : ie.isValid = true)
    (macPduOffset : Nat)
    (memory : Memory) :
    ie.pack macPduOffset memory = (do
      assertPeeked (.ok (sizeByFlags ie.flagsOf)) ie.code.length
      pure (memory.write macPduOffset ie.code)) := by
  have peeked := peeked_code (Memory.holds_write macPduOffset ie.code memory)
  simp only [pack, valid, dectnrpAssert_true, Checked.ok_bind,
    Memory.assign_eq_write macPduOffset, Memory.assignOr_front]
  rw [Memory.assign_behind macPduOffset (by rfl), mk_write (by rfl)]
  simp only [FieldFormat.pack_written, FieldFormat.packOptional_written,
    written_fst, written_snd]
  rw [← peeked]
  rfl

/-- The fields that a valid element recovers from its octets. -/
structure RecoveredFields (ie : LoadInfoIe) : Prop where
  maxAssoc : CodedEnumeration.isValid ie.maxAssoc = true
  rdPtLoadPercentage :
    ∀ load ∈ ie.rdPtLoadPercentage, octet.Recovers load
  rachLoadPercentage :
    ∀ load ∈ ie.rachLoadPercentage, octet.Recovers load
  channelLoad : ∀ load ∈ ie.channelLoad, ChannelLoad.format.Recovers load
  trafficLoadPercentage :
    octet.Recovers ie.trafficLoadPercentage
  maxNofAssociatedRd :
    (word (maxNofAssociatedRdSize ie.maxAssoc)).Recovers
      ie.maxNofAssociatedRd
  rdFtLoadPercentage : octet.Recovers ie.rdFtLoadPercentage

theorem channelLoad_recovers
    {channelLoad : Option ChannelLoad}
    (checked :
      ¬ (channelLoad.any fun load =>
        255 < load.percentageSubslotsFree ||
          255 < load.percentageSubslotsBusy) = true) :
    ∀ load ∈ channelLoad, ChannelLoad.format.Recovers load := by
  intro load isLoad
  simp only [Option.mem_def.mp isLoad, Option.any_some, Bool.or_eq_true,
    decide_eq_true_eq, not_or] at checked
  exact FieldFormat.mapped_recovers rfl (FieldFormat.paired_recovers
      (octet_recovers_of_not_lt checked.1)
      (octet_recovers_of_not_lt checked.2))

theorem maxNofAssociatedRd_recovers
    {maxNofAssociatedRd : UInt32}
    (checked :
      ¬ (if maxAssoc = .bit8 then 255 else 65535) < maxNofAssociatedRd) :
    (word (maxNofAssociatedRdSize maxAssoc)).Recovers
      maxNofAssociatedRd := by
  apply FieldFormat.word_recovers
  unfold maxNofAssociatedRdSize
  rw [UInt32.lt_iff_toNat_lt] at checked
  split at checked <;> rename_i isBit8 <;>
    simp only [isBit8, if_true, if_false] <;>
    exact Nat.lt_succ_of_le (Nat.not_lt.mp checked)

theorem recoveredFields_of_isValid (valid : ie.isValid = true) :
    RecoveredFields ie := by
  simp only [isValid, Bool.if_false_left, Bool.and_eq_true,
    Bool.not_eq_true', decide_eq_false_iff_not, decide_eq_true_eq,
    Bool.not_eq_false] at valid
  obtain ⟨maxAssoc, rdPt, rach, channel, traffic, maxNof, rdFt⟩ := valid
  exact
    { maxAssoc := maxAssoc
      rdPtLoadPercentage := octet_recovers_of_any rdPt
      rachLoadPercentage := octet_recovers_of_any rach
      channelLoad := channelLoad_recovers channel
      trafficLoadPercentage := octet_recovers_of_not_lt traffic
      maxNofAssociatedRd := maxNofAssociatedRd_recovers maxNof
      rdFtLoadPercentage := octet_recovers_of_not_lt (UInt32.not_lt.mpr rdFt) }

/-- A valid element is read from its octets. -/
theorem read_code
    (valid : ie.isValid = true)
    {macPduOffset : Nat}
    (holds : memory.Holds macPduOffset ie.code) :
    (read macPduOffset).eval memory = (ie, ie.code.length) := by
  have fields := recoveredFields_of_isValid valid
  obtain ⟨isMaxAssoc, isRdPt, isRach, isChannel, -⟩ :=
    flagsOf_recovered fields.maxAssoc
  -- the octets in front of each field are held as well
  have readChannel := unpackOptional_holds _ rfl fields.channelLoad holds
  have readRach :=
    unpackOptional_holds _ rfl fields.rachLoadPercentage holds.front
  have readRdPt :=
    unpackOptional_holds _ rfl fields.rdPtLoadPercentage holds.front.front
  have readRdFt :=
    unpack_holds _ rfl fields.rdFtLoadPercentage holds.front.front.front
  have readMaxNof :=
    unpack_holds 2 rfl fields.maxNofAssociatedRd holds.front.front.front.front
  have readTraffic : (memory (macPduOffset + 1)).toUInt32 = _ :=
    fields.trafficLoadPercentage memory (macPduOffset + 1)
      (Memory.holds_cons_cons.mp holds.front.front.front.front.front).2
  have octet0 : memory macPduOffset = ie.flagsOf :=
    (Memory.holds_cons_cons.mp holds.front.front.front.front.front).1
  simp only [read, eval_bind, eval_octet,
    eval_pure, octet0, isMaxAssoc, isRdPt, isRach, isChannel,
    readTraffic, readMaxNof, readRdFt, readRdPt, readRach, readChannel]
  rfl

/-- Reading loads the octets that it counts. -/
theorem within_read
    {limit macPduOffset : Nat}
    (inside : macPduOffset + ((read macPduOffset).eval memory).2 ≤ limit) :
    (read macPduOffset).Within memory limit := by
  simp only [read, eval_bind, eval_octet, eval_pure, eval_unpack,
    eval_unpackOptional] at inside
  simp only [read, within_bind, within_octet, eval_octet, eval_unpack,
    eval_unpackOptional, within_pure, and_true]
  exact ⟨by omega, by omega, FieldFormat.within_unpack _ (by omega),
      FieldFormat.within_unpack _ (by omega),
      within_unpackOptional _ (by omega),
      within_unpackOptional _ (by omega),
      within_unpackOptional _ (by omega)⟩

/-- The octets in front of the optional ones. -/
theorem fixedSize_eq (maxAssoc : MaxAssocSize) :
    3 + maxNofAssociatedRdSize maxAssoc =
      if maxAssoc = .bit8 then 4 else 5 := by
  unfold maxNofAssociatedRdSize
  split <;> rfl

theorem code_length (ie : LoadInfoIe) :
    ie.code.length =
      (if ie.maxAssoc = .bit8 then 4 else 5) +
        ie.rdPtLoadPercentage.isSome.toNat +
        ie.rachLoadPercentage.isSome.toNat +
        ie.channelLoad.isSome.toNat * 2 := by
  simp only [code, List.length_append, FieldFormat.code_length,
    FieldFormat.optionalCode_length, optionalSize_eq,
    List.length_cons, List.length_nil, octet_size,
    word_size, ChannelLoad.format_size, ← fixedSize_eq]
  omega

/-- A valid element tells the number of its octets. -/
theorem getPackedSize_valid (valid : ie.isValid = true) :
    ie.getPackedSize = .ok ie.code.length := by
  rw [getPackedSize, valid, code_length]
  rfl

theorem peek_eq
    (ie : LoadInfoIe)
    (memory : Memory)
    (front : Nat) :
    codec.peek ie memory front =
      .ok ((getPackedSizeByPeeking front).eval memory) :=
  MmieCodec.peek_eq ⟨Nat.lt_succ_self front, trivial⟩

/-- The flags that are added without being moved have to be missing. -/
theorem restores_iff (valid : ie.isValid = true) :
    codec.RoundTrips ie ↔
      ie.rdPtLoadPercentage = none ∧ ie.rachLoadPercentage = none := by
  obtain ⟨-, -, -, -, isSize⟩ :=
    flagsOf_recovered (recoveredFields_of_isValid valid).maxAssoc
  rw [MmieCodec.roundTrips_iff_peeked (getPackedSize_valid valid)
    (pack_valid valid)
    (fun initial memory front _ holds =>
      (peek_eq initial memory front).trans
        (congrArg Except.ok (peeked_code holds)))
    (fun initial memory front _ holds =>
      unpackRead_eq_ok.mpr (by
        rw [read_code valid holds]
        exact ⟨within_read (by rw [read_code valid holds]),
            getPackedSize_valid valid, congrArg Except.ok valid, rfl⟩)),
    Except.ok.injEq, isSize, code_length]
  cases ie.rdPtLoadPercentage <;> cases ie.rachLoadPercentage <;> simp

/-- Every first octet is understood, and peeking counts enough octets. -/
theorem octet0_understood (octet0 : UInt8) :
    let maxAssoc : MaxAssocSize := fromCodedValue (extract octet0 3 0b1)
    CodedEnumeration.isValid maxAssoc = true ∧
      (if maxAssoc = .bit8 then 4 else 5) + (octet0 &&& 4 != 0).toNat +
          (octet0 &&& 2 != 0).toNat + (octet0 &&& 1 != 0).toNat * 2 ≤
        sizeByFlags octet0 := by
  revert octet0
  apply BitFields.forall_octet
  decide +kernel

theorem channelLoad_not_any
    (memory : Memory)
    (address : Nat)
    (included : Bool) :
    ¬ ((ChannelLoad.format.optionalAt memory address included).any
      fun load =>
        255 < load.percentageSubslotsFree ||
          255 < load.percentageSubslotsBusy) = true := by
  cases included with
  | false => exact Bool.false_ne_true
  | true =>
      have free := octet_valueAt_not_lt memory address
      have busy := octet_valueAt_not_lt memory (address + 1)
      simp only [FieldFormat.optionalAt, if_true, Option.any_some,
        ChannelLoad.format, FieldFormat.mapped_valueAt,
        FieldFormat.paired_valueAt, octet_size,
        Bool.or_eq_true, decide_eq_true_eq, not_or]
      exact ⟨free, busy⟩

/-- Whatever is read is valid. -/
theorem read_isValid
    (memory : Memory)
    (macPduOffset : Nat) :
    ((read macPduOffset).eval memory).1.isValid = true := by
  simp only [read, eval_bind, eval_octet, eval_pure, eval_unpack,
    eval_unpackOptional]
  simp only [isValid, Bool.if_false_left, Bool.and_eq_true,
    Bool.not_eq_true', decide_eq_false_iff_not, decide_eq_true_eq,
    Bool.not_eq_false]
  refine ⟨(octet0_understood _).1, FieldFormat.octet_optionalAt_not_any _ _ _,
      FieldFormat.octet_optionalAt_not_any _ _ _,
      channelLoad_not_any _ _ _,
      octet_valueAt_not_lt memory (macPduOffset + 1), ?_,
      UInt32.not_lt.mp (octet_valueAt_not_lt _ _)⟩
  generalize (fromCodedValue _ : MaxAssocSize) = maxAssoc
  have bound :=
    @FieldFormat.word_valueAt_lt (maxNofAssociatedRdSize maxAssoc) memory
      (macPduOffset + 2)
  revert bound
  generalize FieldFormat.valueAt _ _ _ = maxNofAssociatedRd
  intro bound
  rw [UInt32.lt_iff_toNat_lt]
  unfold maxNofAssociatedRdSize at bound
  split at bound <;> rename_i isBit8 <;>
    simp only [isBit8, if_true, if_false] <;>
    exact Nat.not_lt.mpr (Nat.le_of_lt_succ bound)

/-- The number of octets that are read. -/
theorem read_size
    (memory : Memory)
    (macPduOffset : Nat) :
    ((read macPduOffset).eval memory).1.getPackedSize =
        .ok ((read macPduOffset).eval memory).2 ∧
      ((read macPduOffset).eval memory).2 ≤
        sizeByFlags (memory macPduOffset) := by
  have understood := (octet0_understood (memory macPduOffset)).2
  rw [getPackedSize, read_isValid]
  simp only [read, eval_bind, eval_octet, eval_pure, eval_unpack,
    eval_unpackOptional, dectnrpAssert_true, Checked.ok_bind,
    FieldFormat.optionalAt_isSome, optionalSize_eq,
    word_size, octet_size,
    ChannelLoad.format_size,
    Checked.pure_eq_ok, Except.ok.injEq, ← fixedSize_eq]
  rw [← fixedSize_eq] at understood
  constructor <;> omega

/-- Unpacking any octets is safe. -/
theorem unpacksSafely
    (ie : LoadInfoIe)
    (memory : Memory)
    (front : Nat) :
    codec.UnpacksSafely ie memory front := by
  rw [MmieCodec.unpacksSafely_iff fun _ => rfl]
  intro size peeked
  rw [peek_eq, getPackedSizeByPeeking] at peeked
  cases peeked
  obtain ⟨sized, bound⟩ := read_size memory front
  exact ⟨within_read (Nat.add_le_add_left bound front), sized, true,
      congrArg Except.ok (read_isValid memory front)⟩

end LoadInfoIe

/-- What a measurement was made of. -/
inductive MeasurementResultSource where
  | notDefined
  | dlScheduledResources
  | dlReceptionOfRachResponse
  | upper
  deriving Repr, DecidableEq

instance : CodedEnumeration MeasurementResultSource where
  toUnderlying
    | .notDefined => undefinedNumeric32
    | .dlScheduledResources => 0
    | .dlReceptionOfRachResponse => 1
    | .upper => 2
  notDefined := .notDefined
  lower := none
  upper := .upper
  codes := [.dlScheduledResources, .dlReceptionOfRachResponse]

structure MeasurementReportIe where
  measurementResultSnr : Option UInt32
  measurementResultRssi2 : Option UInt32
  measurementResultRssi1 : Option UInt32
  measurementResultTxCount : Option UInt32
  rach : MeasurementResultSource
  deriving Repr, DecidableEq

namespace MeasurementReportIe

open CodedEnumeration (toUnderlying fromCodedValue)

/-- A measured value that is there fits into an octet. -/
def resultValid (result : Option UInt32) : Bool :=
  ! result.any fun value => 255 < value

def isValid (ie : MeasurementReportIe) : Bool :=
  if ! resultValid ie.measurementResultSnr then false
  else if ! resultValid ie.measurementResultRssi2 then false
  else if ! resultValid ie.measurementResultRssi1 then false
  else if ! resultValid ie.measurementResultTxCount then false
  else CodedEnumeration.isValid ie.rach

def getPackedSize (ie : MeasurementReportIe) : Nat :=
  1 + ie.measurementResultSnr.isSome.toNat +
    ie.measurementResultRssi2.isSome.toNat +
    ie.measurementResultRssi1.isSome.toNat +
    ie.measurementResultTxCount.isSome.toNat

/-- Size of an element whose first octet is known. -/
def sizeByFlags (octet0 : UInt8) : Nat :=
  1 + (BitFields.extract octet0 4 0b1).toNat +
    (BitFields.extract octet0 3 0b1).toNat +
    (BitFields.extract octet0 2 0b1).toNat +
    (octet0 &&& 0b10).toNat

def getPackedSizeByPeeking (macPduOffset : Nat) : OctetReader PeekResult := do
  let octet0 ← OctetReader.octet macPduOffset
  pure (.ok (sizeByFlags octet0))

def pack
    (ie : MeasurementReportIe)
    (macPduOffset : Nat)
    (memory : Memory) :
    Checked Memory := do
  dectnrpAssert ie.isValid "Measurement Report IE is not valid"
  -- octet 0
  let memory := memory.assign macPduOffset
    (ie.measurementResultSnr.isSome.toUInt32 <<< 4)
  let memory := memory.assignOr macPduOffset
    (ie.measurementResultRssi2.isSome.toUInt32 <<< 3)
  let memory := memory.assignOr macPduOffset
    (ie.measurementResultRssi1.isSome.toUInt32 <<< 2)
  let memory := memory.assignOr macPduOffset
    (ie.measurementResultTxCount.isSome.toUInt32 <<< 1)
  let memory := memory.assignOr macPduOffset (toUnderlying ie.rach)
  -- optional fields
  let state := (1, memory)
  let state := octet.packOptional macPduOffset
    ie.measurementResultSnr state
  let state := octet.packOptional macPduOffset
    ie.measurementResultRssi2 state
  let state := octet.packOptional macPduOffset
    ie.measurementResultRssi1 state
  let (nBytes, memory) := octet.packOptional macPduOffset
    ie.measurementResultTxCount state
  assertPeeked ((getPackedSizeByPeeking macPduOffset).eval memory) nBytes
  pure memory

/-- The fields of an element and the number of octets they take. -/
def read (macPduOffset : Nat) : OctetReader (MeasurementReportIe × Nat) := do
  let octet0 ← OctetReader.octet macPduOffset
  let (snr, nBytes) ←
    octet.unpackOptional macPduOffset
      (BitFields.extract octet0 4 0b1 != 0) 1
  let (rssi2, nBytes) ←
    octet.unpackOptional macPduOffset
      (BitFields.extract octet0 3 0b1 != 0) nBytes
  let (rssi1, nBytes) ←
    octet.unpackOptional macPduOffset
      (BitFields.extract octet0 2 0b1 != 0) nBytes
  let (txCount, nBytes) ←
    octet.unpackOptional macPduOffset
      (octet0 &&& 0b10 != 0) nBytes
  pure
    ({ measurementResultSnr := snr
       measurementResultRssi2 := rssi2
       measurementResultRssi1 := rssi1
       measurementResultTxCount := txCount
       rach := fromCodedValue (BitFields.extract octet0 0 0b1) }, nBytes)

def unpack
    (octets : List UInt8)
    (macPduOffset : Nat) :
    Checked (Bool × MeasurementReportIe) :=
  unpackRead (fun ie => .ok ie.getPackedSize) (fun ie => .ok ie.isValid)
    (read macPduOffset) octets

def codec : MmieCodec MeasurementReportIe where
  isValid ie := .ok ie.isValid
  getPackedSize ie := .ok ie.getPackedSize
  pack := pack
  getPackedSizeMinToPeek := 1
  getPackedSizeByPeeking _ := getPackedSizeByPeeking
  unpack _ := unpack
  SameContext _ _ := True
  sameContext_refl _ := trivial

/-- An octet of four flags and the source of the measurement. -/
def flags
    (snr rssi2 rssi1 txCount : Bool)
    (rach : MeasurementResultSource) :
    UInt8 :=
  (snr.toUInt32 <<< 4).toUInt8 ||| (rssi2.toUInt32 <<< 3).toUInt8 |||
    (rssi1.toUInt32 <<< 2).toUInt8 ||| (txCount.toUInt32 <<< 1).toUInt8 |||
    (toUnderlying rach).toUInt8

/-- The first octet of an element. -/
def flagsOf (ie : MeasurementReportIe) : UInt8 :=
  flags ie.measurementResultSnr.isSome ie.measurementResultRssi2.isSome
    ie.measurementResultRssi1.isSome ie.measurementResultTxCount.isSome
    ie.rach

def code (ie : MeasurementReportIe) : List UInt8 :=
  [ie.flagsOf] ++
    octet.optionalCode ie.measurementResultSnr ++
    octet.optionalCode ie.measurementResultRssi2 ++
    octet.optionalCode ie.measurementResultRssi1 ++
    octet.optionalCode ie.measurementResultTxCount

/-- The flags are found where they were placed. -/
theorem flags_recovered
    (snr rssi2 rssi1 txCount : Bool)
    {rach : MeasurementResultSource}
    (valid : CodedEnumeration.isValid rach = true) :
    let octet0 := flags snr rssi2 rssi1 txCount rach
    (extract octet0 4 0b1 != 0) = snr ∧
      (extract octet0 3 0b1 != 0) = rssi2 ∧
      (extract octet0 2 0b1 != 0) = rssi1 ∧
      (octet0 &&& 0b10 != 0) = txCount ∧
      fromCodedValue (extract octet0 0 0b1) = rach ∧
      sizeByFlags octet0 =
        1 + snr.toNat + rssi2.toNat + rssi1.toNat + txCount.toNat * 2 := by
  revert snr rssi2 rssi1 txCount valid
  cases rach <;> decide

variable {ie : MeasurementReportIe}

theorem flagsOf_recovered (valid : CodedEnumeration.isValid ie.rach = true) :
    (extract ie.flagsOf 4 0b1 != 0) =
        ie.measurementResultSnr.isSome ∧
      (extract ie.flagsOf 3 0b1 != 0) = ie.measurementResultRssi2.isSome ∧
      (extract ie.flagsOf 2 0b1 != 0) = ie.measurementResultRssi1.isSome ∧
      (ie.flagsOf &&& 0b10 != 0) = ie.measurementResultTxCount.isSome ∧
      fromCodedValue (extract ie.flagsOf 0 0b1) = ie.rach ∧
      sizeByFlags ie.flagsOf =
        1 + ie.measurementResultSnr.isSome.toNat +
          ie.measurementResultRssi2.isSome.toNat +
          ie.measurementResultRssi1.isSome.toNat +
          ie.measurementResultTxCount.isSome.toNat * 2 :=
  flags_recovered _ _ _ _ valid

/-- The fields of a valid element are recovered from their octets. -/
theorem recovers_of_isValid (valid : ie.isValid = true) :
    (∀ value ∈ ie.measurementResultSnr, octet.Recovers value) ∧
      (∀ value ∈ ie.measurementResultRssi2, octet.Recovers value) ∧
      (∀ value ∈ ie.measurementResultRssi1, octet.Recovers value) ∧
      (∀ value ∈ ie.measurementResultTxCount,
        octet.Recovers value) ∧
      CodedEnumeration.isValid ie.rach = true := by
  simp only [isValid, resultValid, Bool.if_false_left, Bool.and_eq_true,
    Bool.not_not, Bool.not_eq_true', decide_eq_false_iff_not] at valid
  obtain ⟨snr, rssi2, rssi1, txCount, rach⟩ := valid
  exact ⟨octet_recovers_of_any snr, octet_recovers_of_any rssi2,
      octet_recovers_of_any rssi1,
      octet_recovers_of_any txCount, rach⟩

theorem code_length (ie : MeasurementReportIe) :
    ie.code.length = ie.getPackedSize := by
  simp only [code, List.length_append, FieldFormat.optionalCode_length,
    optionalSize_eq, octet_size, Nat.mul_one,
    getPackedSize, List.length_singleton]

variable {memory : Memory}

/-- Peeking at the octets of an element. -/
theorem peeked_code
    {macPduOffset : Nat}
    (holds : memory.Holds macPduOffset ie.code) :
    (getPackedSizeByPeeking macPduOffset).eval memory =
      .ok (sizeByFlags ie.flagsOf) := by
  have isFlags : memory macPduOffset = ie.flagsOf :=
    Memory.holds_singleton.mp holds.front.front.front.front
  simp only [getPackedSizeByPeeking, eval_bind, eval_octet, eval_pure, isFlags]

theorem pack_valid
    (valid : ie.isValid = true)
    (macPduOffset : Nat)
    (memory : Memory) :
    ie.pack macPduOffset memory = (do
      assertPeeked (.ok (sizeByFlags ie.flagsOf)) ie.code.length
      pure (memory.write macPduOffset ie.code)) := by
  have peeked := peeked_code (Memory.holds_write macPduOffset ie.code memory)
  simp only [pack, valid, dectnrpAssert_true, Checked.ok_bind,
    Memory.assign_eq_write macPduOffset, Memory.assignOr_front]
  rw [mk_write (by rfl)]
  simp only [FieldFormat.packOptional_written, written_fst, written_snd]
  rw [← peeked]
  rfl

/-- A valid element is read from its octets. -/
theorem read_code
    (valid : ie.isValid = true)
    {macPduOffset : Nat}
    (holds : memory.Holds macPduOffset ie.code) :
    (read macPduOffset).eval memory = (ie, ie.code.length) := by
  obtain ⟨snr, rssi2, rssi1, txCount, rach⟩ := recovers_of_isValid valid
  obtain ⟨isSnr, isRssi2, isRssi1, isTxCount, isRach, -⟩ :=
    flagsOf_recovered rach
  have readTxCount := unpackOptional_holds _ rfl txCount holds
  have readRssi1 := unpackOptional_holds _ rfl rssi1 holds.front
  have readRssi2 := unpackOptional_holds _ rfl rssi2 holds.front.front
  have readSnr := unpackOptional_holds 1 rfl snr holds.front.front.front
  have octet0 : memory macPduOffset = ie.flagsOf :=
    Memory.holds_singleton.mp holds.front.front.front.front
  simp only [read, eval_bind, eval_octet,
    eval_pure, octet0, isSnr, isRssi2, isRssi1, isTxCount,
    isRach, readSnr, readRssi2, readRssi1, readTxCount]
  rfl

/-- Reading loads the octets that it counts. -/
theorem within_read
    {limit macPduOffset : Nat}
    (inside : macPduOffset + ((read macPduOffset).eval memory).2 ≤ limit) :
    (read macPduOffset).Within memory limit := by
  simp only [read, eval_bind, eval_octet,
    eval_pure, eval_unpackOptional] at inside
  simp only [read, within_bind, within_octet, eval_octet, eval_unpackOptional,
    within_pure, and_true]
  exact ⟨by omega, within_unpackOptional _ (by omega),
      within_unpackOptional _ (by omega),
      within_unpackOptional _ (by omega),
      within_unpackOptional _ (by omega)⟩

theorem peek_eq
    (ie : MeasurementReportIe)
    (memory : Memory)
    (front : Nat) :
    codec.peek ie memory front =
      .ok ((getPackedSizeByPeeking front).eval memory) :=
  MmieCodec.peek_eq ⟨Nat.lt_succ_self front, trivial⟩

/-- The flag that is added without being moved has to be missing. -/
theorem restores_iff (valid : ie.isValid = true) :
    codec.RoundTrips ie ↔ ie.measurementResultTxCount = none := by
  obtain ⟨-, -, -, -, -, isSize⟩ :=
    flagsOf_recovered (recovers_of_isValid valid).2.2.2.2
  rw [MmieCodec.roundTrips_iff_peeked
    (congrArg Except.ok (code_length ie).symm) (pack_valid valid)
    (fun initial memory front _ holds =>
      (peek_eq initial memory front).trans
        (congrArg Except.ok (peeked_code holds)))
    (fun initial memory front _ holds =>
      unpackRead_eq_ok.mpr (by
        rw [read_code valid holds]
        exact ⟨within_read (by rw [read_code valid holds]),
            congrArg Except.ok (code_length ie).symm,
            congrArg Except.ok valid, rfl⟩)),
    Except.ok.injEq, isSize, code_length, getPackedSize]
  cases ie.measurementResultTxCount <;> simp

theorem counted_le_sizeByFlags (octet0 : UInt8) :
    1 + (extract octet0 4 0b1 != 0).toNat +
        (extract octet0 3 0b1 != 0).toNat +
        (extract octet0 2 0b1 != 0).toNat +
        (octet0 &&& 0b10 != 0).toNat ≤
      sizeByFlags octet0 := by
  revert octet0
  apply BitFields.forall_octet
  decide +kernel

/-- The number of octets that are read. -/
theorem read_size
    (memory : Memory)
    (macPduOffset : Nat) :
    ((read macPduOffset).eval memory).1.getPackedSize =
        ((read macPduOffset).eval memory).2 ∧
      ((read macPduOffset).eval memory).2 ≤
        sizeByFlags (memory macPduOffset) := by
  have counted := counted_le_sizeByFlags (memory macPduOffset)
  simp only [read, eval_bind, eval_octet, eval_pure, eval_unpackOptional,
    getPackedSize, FieldFormat.optionalAt_isSome,
    optionalSize_eq, octet_size, Nat.mul_one]
  exact ⟨trivial, counted⟩

/-- Unpacking any octets is safe. -/
theorem unpacksSafely
    (ie : MeasurementReportIe)
    (memory : Memory)
    (front : Nat) :
    codec.UnpacksSafely ie memory front := by
  rw [MmieCodec.unpacksSafely_iff fun _ => rfl]
  intro size peeked
  rw [peek_eq, getPackedSizeByPeeking] at peeked
  cases peeked
  obtain ⟨sized, bound⟩ := read_size memory front
  exact ⟨within_read (Nat.add_le_add_left bound front),
      congrArg Except.ok sized, _, rfl⟩

end MeasurementReportIe

/--
A valid load info is restored exactly if it tells the load neither of the
devices in PT mode nor of the random access channel, and a valid measurement
report exactly if it has no transmission count.
-/
theorem loadAndMeasurement_roundTrips_iff
    (loadInfo : LoadInfoIe)
    (report : MeasurementReportIe) :
    (loadInfo.isValid = true →
      (LoadInfoIe.codec.RoundTrips loadInfo ↔
        loadInfo.rdPtLoadPercentage = none ∧
          loadInfo.rachLoadPercentage = none)) ∧
      (report.isValid = true →
        (MeasurementReportIe.codec.RoundTrips report ↔
          report.measurementResultTxCount = none)) :=
  ⟨LoadInfoIe.restores_iff, MeasurementReportIe.restores_iff⟩

/-- A load info with every optional field, and a report with a count. -/
theorem loadAndMeasurement_roundTrips_iff_all :
    let loadInfo : LoadInfoIe :=
      { maxAssoc := .bit16
        rdPtLoadPercentage := some 25
        rachLoadPercentage := some 50
        channelLoad := some ⟨100, 155⟩
        trafficLoadPercentage := 255
        maxNofAssociatedRd := 65535
        rdFtLoadPercentage := 0 }
    let report : MeasurementReportIe :=
      { measurementResultSnr := some 10
        measurementResultRssi2 := none
        measurementResultRssi1 := some 255
        measurementResultTxCount := some 3
        rach := .dlReceptionOfRachResponse }
    (LoadInfoIe.codec.RoundTrips loadInfo ↔
        loadInfo.rdPtLoadPercentage = none ∧
          loadInfo.rachLoadPercentage = none) ∧
      (MeasurementReportIe.codec.RoundTrips report ↔
        report.measurementResultTxCount = none) :=
  (loadAndMeasurement_roundTrips_iff _ _).imp
    (fun restores => restores (by decide))
    fun restores => restores (by decide)

/-- A valid report with a transmission count cannot be packed. -/
theorem not_loadAndMeasurement_roundTrips :
    ¬ ((∀ ie : LoadInfoIe, ie.isValid = true →
        LoadInfoIe.codec.RoundTrips ie) ∧
      ∀ ie : MeasurementReportIe, ie.isValid = true →
        MeasurementReportIe.codec.RoundTrips ie) := by
  rintro ⟨-, restores⟩
  let report : MeasurementReportIe :=
    { measurementResultSnr := none
      measurementResultRssi2 := none
      measurementResultRssi1 := none
      measurementResultTxCount := some 3
      rach := .dlScheduledResources }
  have valid : report.isValid = true := by decide
  have missing :=
    (MeasurementReportIe.restores_iff valid).mp (restores report valid)
  cases missing

end DectNrp
