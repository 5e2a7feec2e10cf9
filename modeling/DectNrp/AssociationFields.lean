import DectNrp.KeyedSet
import DectNrp.MmieFields
import Mathlib.Order.Interval.Finset.Nat

namespace DectNrp

/-!
# Fields of association and reconfiguration messages

A HARQ configuration takes one octet.  Flows are kept as a set that is ordered
by their identifiers and written as one octet each.  Octets of a peer may name
a flow twice, or one that does not exist.
-/

open CodedEnumeration (toUnderlying fromCodedValue)

/-- How long a HARQ retransmission may be delayed. -/
inductive MaxHarqRetransmissionDelay where
  | notDefined
  | us105
  | us200
  | us400
  | us800
  | ms1
  | ms2
  | ms4
  | ms6
  | ms8
  | ms10
  | ms20
  | ms30
  | ms40
  | ms50
  | ms60
  | ms70
  | ms80
  | ms90
  | ms100
  | ms120
  | ms140
  | ms160
  | ms180
  | ms200
  | ms240
  | ms280
  | ms320
  | ms360
  | ms400
  | ms450
  | ms500
  | upper
  deriving Repr, DecidableEq

instance : CodedEnumeration MaxHarqRetransmissionDelay where
  toUnderlying
    | .notDefined => undefinedNumeric32
    | .us105 => 0
    | .us200 => 1
    | .us400 => 2
    | .us800 => 3
    | .ms1 => 4
    | .ms2 => 5
    | .ms4 => 6
    | .ms6 => 7
    | .ms8 => 8
    | .ms10 => 9
    | .ms20 => 10
    | .ms30 => 11
    | .ms40 => 12
    | .ms50 => 13
    | .ms60 => 14
    | .ms70 => 15
    | .ms80 => 16
    | .ms90 => 17
    | .ms100 => 18
    | .ms120 => 19
    | .ms140 => 20
    | .ms160 => 21
    | .ms180 => 22
    | .ms200 => 23
    | .ms240 => 24
    | .ms280 => 25
    | .ms320 => 26
    | .ms360 => 27
    | .ms400 => 28
    | .ms450 => 29
    | .ms500 => 30
    | .upper => 31
  notDefined := .notDefined
  lower := none
  upper := .upper
  codes :=
    [.us105, .us200, .us400, .us800, .ms1, .ms2, .ms4, .ms6, .ms8, .ms10,
      .ms20, .ms30, .ms40, .ms50, .ms60, .ms70, .ms80, .ms90, .ms100,
      .ms120, .ms140, .ms160, .ms180, .ms200, .ms240, .ms280, .ms320,
      .ms360, .ms400, .ms450, .ms500]

theorem MaxHarqRetransmissionDelay.recovers
    {value : MaxHarqRetransmissionDelay}
    (valid : CodedEnumeration.isValid value = true) :
    CodedEnumeration.Recovers 5 value := by
  revert valid
  cases value <;> decide

/-- Number of HARQ processes and their delay. -/
structure HarqConfiguration where
  nHarqProcesses : UInt32
  maxHarqRetransmissionDelay : MaxHarqRetransmissionDelay
  deriving Repr, DecidableEq

namespace HarqConfiguration

def isValid (config : HarqConfiguration) : Bool :=
  if 7 < config.nHarqProcesses ||
      ! CodedEnumeration.isValid config.maxHarqRetransmissionDelay then
    false
  else true

/-- The configuration that an octet stands for. -/
def ofOctet (octet : UInt8) : HarqConfiguration where
  nHarqProcesses := octet.toUInt32 >>> 5
  maxHarqRetransmissionDelay :=
    fromCodedValue (BitFields.extract octet 0 0b11111)

/-- The number in the upper three bits and the delay in the others. -/
def format : FieldFormat HarqConfiguration where
  size := 1
  write config address memory :=
    (memory.assign address (config.nHarqProcesses <<< 5)).assignOr address
      (toUnderlying config.maxHarqRetransmissionDelay)
  read address := do
    let octet ← OctetReader.octet address
    pure (ofOctet octet)
  code config :=
    [(config.nHarqProcesses <<< 5).toUInt8 |||
      (toUnderlying config.maxHarqRetransmissionDelay).toUInt8]
  code_length _ := rfl
  write_eq _ _ _ := by
    rw [Memory.assign_eq_write, Memory.assignOr_front]
  read_within _ _ _ inside := ⟨inside, trivial⟩

@[simp] theorem format_size :
    format.size = 1 :=
  rfl

@[simp] theorem format_valueAt
    (memory : Memory)
    (address : Nat) :
    format.valueAt memory address = ofOctet (memory address) :=
  rfl

/-- Both fields of an octet are found where they were placed. -/
theorem octet_recovered :
    ∀ number : UInt32, number.toNat < 2 ^ 3 →
      ∀ code : UInt32, code.toNat < 2 ^ 5 →
        let octet := (number <<< 5).toUInt8 ||| code.toUInt8
        octet.toUInt32 >>> 5 = number ∧
          BitFields.extract octet 0 0b11111 = code := by
  apply BitFields.forall_field
  intro number
  apply BitFields.forall_field
  revert number
  decide +kernel

/-- A valid configuration is recovered from its octet. -/
theorem recovers
    {config : HarqConfiguration}
    (valid : config.isValid = true) :
    format.Recovers config := by
  simp only [isValid, Bool.if_false_left, Bool.and_true,
    Bool.not_eq_true', decide_eq_false_iff_not, Bool.or_eq_true,
    decide_eq_true_eq, not_or, Bool.not_eq_false] at valid
  obtain ⟨number, delay⟩ := valid
  obtain ⟨delayFits, delayRecovered⟩ :=
    MaxHarqRetransmissionDelay.recovers delay
  have numberFits : config.nHarqProcesses.toNat < 2 ^ 3 := by
    rw [UInt32.lt_iff_toNat_lt] at number
    exact Nat.lt_succ_of_le (Nat.not_lt.mp number)
  intro memory address holds
  have isOctet := Memory.holds_singleton.mp holds
  obtain ⟨isNumber, isCode⟩ := octet_recovered _ numberFits _ delayFits
  change ofOctet (memory address) = config
  rw [ofOctet, isOctet, isNumber, isCode, delayRecovered]

/-- As `recovers`, for a configuration that may be missing. -/
theorem recovers_of_any
    {config : Option HarqConfiguration}
    (checked : ¬ (config.any fun value => ! value.isValid) = true) :
    ∀ value ∈ config, format.Recovers value := by
  intro value isValue
  apply recovers
  simpa [Option.mem_def.mp isValue] using checked

/-- The largest delay code is reserved, all others are valid. -/
theorem ofOctet_isValid_iff (octet : UInt8) :
    (ofOctet octet).isValid = true ↔ octet &&& 31 ≠ 31 := by
  revert octet
  apply BitFields.forall_octet
  decide +kernel

end HarqConfiguration

/-- Flows of higher layer signalling and of user plane data. -/
inductive FlowId where
  | notDefined
  | lower
  | higherLayerSignallingFlow1
  | higherLayerSignallingFlow2
  | userPlaneDataFlow1
  | userPlaneDataFlow2
  | userPlaneDataFlow3
  | userPlaneDataFlow4
  | upper
  deriving Repr, DecidableEq

instance : CodedEnumeration FlowId where
  toUnderlying
    | .notDefined => undefinedNumeric32
    | .lower => 0
    | .higherLayerSignallingFlow1 => 1
    | .higherLayerSignallingFlow2 => 2
    | .userPlaneDataFlow1 => 3
    | .userPlaneDataFlow2 => 4
    | .userPlaneDataFlow3 => 5
    | .userPlaneDataFlow4 => 6
    | .upper => 7
  notDefined := .notDefined
  lower := some .lower
  upper := .upper
  codes :=
    [.higherLayerSignallingFlow1, .higherLayerSignallingFlow2,
      .userPlaneDataFlow1, .userPlaneDataFlow2, .userPlaneDataFlow3,
      .userPlaneDataFlow4]

namespace FlowId

/-- Scoped enumerations are ordered by their underlying values. -/
def key (id : FlowId) : Nat :=
  (toUnderlying id).toNat

/-- The codes of flows are those from one to six. -/
theorem isValid_iff (id : FlowId) :
    CodedEnumeration.isValid id = true ↔ 1 ≤ id.key ∧ id.key ≤ 6 := by
  cases id <;> decide

/-- The flow that the lower six bits of an octet stand for. -/
def ofOctet (octet : UInt8) : FlowId :=
  fromCodedValue (BitFields.extract octet 0 0b111111)

/-- An octet for each flow. -/
def format : FieldFormat FlowId where
  size := 1
  write id address memory := memory.assign address (toUnderlying id)
  read address := do
    let octet ← OctetReader.octet address
    pure (ofOctet octet)
  code id := [(toUnderlying id).toUInt8]
  code_length _ := rfl
  write_eq _ _ _ := Memory.assign_eq_write _ _ _
  read_within _ _ _ inside := ⟨inside, trivial⟩

@[simp] theorem format_size :
    format.size = 1 :=
  rfl

/-- A valid flow is recovered from its octet. -/
theorem format_recovers
    {id : FlowId}
    (valid : CodedEnumeration.isValid id = true) :
    format.Recovers id := by
  intro memory address holds
  have isOctet := Memory.holds_singleton.mp holds
  change ofOctet (memory address) = id
  rw [isOctet]
  revert valid
  cases id <;> decide

end FlowId

section FlowSets

variable
    {Flow : Type}
    {key : Flow → Nat}

/-- There are six flows at most. -/
theorem flows_length_le
    {flows : KeyedSet key}
    (valid : ∀ flow ∈ flows.elements, 1 ≤ key flow ∧ key flow ≤ 6) :
    flows.elements.length ≤ 6 :=
  flows.length_le_of_keys (Finset.Icc 1 6) fun flow member =>
    Finset.mem_Icc.mpr (valid flow member)

/-- Number of flows that the first octet of a message announces. -/
def nFlows (octet0 : UInt8) : Nat :=
  (BitFields.extract octet0 2 0b111).toNat

theorem nFlows_le (octet0 : UInt8) :
    nFlows octet0 ≤ 7 := by
  rw [nFlows, BitFields.toNat_extract_3 octet0 (by decide)]
  omega

/-- The code of a flow in the lower six bits of an octet. -/
def flowCode (octet : UInt8) : Nat :=
  (octet &&& 63).toNat

/-- Octets name flows that exist, and none of them twice. -/
def FlowsAdmitted
    (memory : Memory)
    (address count : Nat) :
    Prop :=
  let codes := (memory.window address count).map flowCode
  (∀ code ∈ codes, 1 ≤ code ∧ code ≤ 6) ∧ codes.Nodup

/-- An octet names a flow that exists by the code of that flow. -/
theorem ofOctet_key (octet : UInt8) :
    (1 ≤ (FlowId.ofOctet octet).key ∧ (FlowId.ofOctet octet).key ≤ 6 ↔
        1 ≤ flowCode octet ∧ flowCode octet ≤ 6) ∧
      (1 ≤ flowCode octet ∧ flowCode octet ≤ 6 →
        (FlowId.ofOctet octet).key = flowCode octet) := by
  revert octet
  apply BitFields.forall_octet
  decide +kernel

/-- A set holds every flow that was read exactly if all are admitted. -/
theorem flows_received_iff
    {format : FieldFormat Flow}
    {read : UInt8 → Flow}
    (single : format.size = 1)
    (reads :
      ∀ memory address, format.valueAt memory address = read (memory address))
    (sameKey : ∀ octet, key (read octet) = (FlowId.ofOctet octet).key)
    (memory : Memory)
    (address count : Nat) :
    ((∀ flow ∈
        (KeyedSet.ofList (format.allAt memory address count) :
          KeyedSet key).elements,
        1 ≤ key flow ∧ key flow ≤ 6) ∧
        (KeyedSet.ofList (format.allAt memory address count) :
          KeyedSet key).elements.length = count) ↔
      FlowsAdmitted memory address count := by
  generalize isRead : format.allAt memory address count = fields
  have keys : fields.map key = (memory.window address count).map fun octet =>
      (FlowId.ofOctet octet).key := by
    rw [← isRead, FieldFormat.allAt_eq_map single reads, List.map_map]
    exact List.map_congr_left fun octet _ => sameKey octet
  have inRange : (∀ flow ∈ (KeyedSet.ofList fields : KeyedSet key).elements,
      1 ≤ key flow ∧ key flow ≤ 6) ↔ ∀ octet ∈ memory.window address count,
          1 ≤ flowCode octet ∧ flowCode octet ≤ 6 := by
    rw [← List.forall_mem_map
      (P := fun code => 1 ≤ code ∧ code ≤ 6) (f := key)]
    simp only [KeyedSet.mem_keys_ofList, keys,
      List.forall_mem_map, (ofOctet_key _).1]
  have complete :
      (KeyedSet.ofList fields : KeyedSet key).elements.length = count ↔
        ((memory.window address count).map fun octet =>
          (FlowId.ofOctet octet).key).Nodup := by
    rw [← keys, ← KeyedSet.length_ofList_eq_iff, ← isRead,
      FieldFormat.allAt_length]
  rw [FlowsAdmitted, inRange, complete, List.forall_mem_map]
  refine and_congr_right fun admitted => ?_
  rw [List.map_congr_left fun octet member =>
    (ofOctet_key octet).2 (admitted octet member)]

end FlowSets

end DectNrp
