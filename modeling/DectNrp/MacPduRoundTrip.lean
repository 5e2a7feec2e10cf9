import DectNrp.MacPduSoundness

namespace DectNrp

/-!
# Multiplexing and demultiplexing

A sender writes header type, common header and elements back to back and fills
the rest of the transport block with padding.  The octets of each element stand
for the element itself, so that the decoder lists exactly what was sent, and
finds each payload where the sender has put it.
-/

open Memory (window write_before)
open PaddingIe (chunk fill nPaddingBytesMax)
open Checked (ok_bind pure_eq_ok)
open MacMultiplexingHeader (announced code_length firstOctet
  getPackedSize_valid lengthAt pack_valid packedSizeMinToPeek zero)

namespace MacPdu

/-- What a sender puts into a transport block. -/
inductive Sdu where
  | userPlaneData (flowId dataSize : Nat) (payload : List UInt8)
  | clusterBeaconMessage (message : ClusterBeaconMessage)
  | powerTargetIe (ie : PowerTargetIe)
  | timeAnnounceIe (ie : TimeAnnounceIe)

namespace Sdu

def type : Sdu → MmieType
  | userPlaneData .. => .userPlaneData
  | clusterBeaconMessage _ => .clusterBeaconMessage
  | powerTargetIe _ => .powerTargetIe
  | timeAnnounceIe _ => .timeAnnounceIe

/-- What the code requires of an element before it is packed. -/
def Valid
    (mu : Nat) :
    Sdu → Prop
  | userPlaneData flowId dataSize payload =>
      1 ≤ flowId ∧ flowId ≤ 4 ∧ 1 ≤ dataSize ∧ dataSize ≤ 65535 ∧
        payload.length ≤ dataSize
  | clusterBeaconMessage message =>
      message.isValid = true ∧ message.mu = mu
  | powerTargetIe ie => ie.isValid = true
  | timeAnnounceIe ie => ie.isValid = true

/-- Set up an element of the sender. -/
def prepare : Sdu → Checked Mmie
  | userPlaneData flowId dataSize _ => do
      let mmie ←
        UserPlaneData.setFlowId (.construct .userPlaneData) flowId
      UserPlaneData.setDataSize mmie dataSize
  | clusterBeaconMessage message =>
      .ok { Mmie.construct .clusterBeaconMessage with
        body := .clusterBeaconMessage message }
  | powerTargetIe ie =>
      .ok { Mmie.construct .powerTargetIe with
        body := .powerTargetIe ie }
  | timeAnnounceIe ie =>
      .ok { Mmie.construct .timeAnnounceIe with
        body := .timeAnnounceIe ie }

/-- Copy the payload of a flow to where its header says. -/
def copyPayload
    (sdu : Sdu)
    (mmie : Mmie)
    (memory : Memory) :
    Memory :=
  match sdu, mmie.body with
  | userPlaneData _ _ payload, .userPlaneData (some dataPtr) =>
      memory.write dataPtr payload
  | _, _ => memory

/-- Number of octets of an element with its multiplexing header. -/
def packedSize : Sdu → Nat
  | userPlaneData _ dataSize _ =>
      (if dataSize ≤ 255 then 2 else 3) + dataSize
  | clusterBeaconMessage message => 1 + message.getPackedSize
  | powerTargetIe _ => 1 + PowerTargetIe.getPackedSize
  | timeAnnounceIe _ => 1 + TimeAnnounceIe.getPackedSize

/-- Write one element. -/
def send
    (sdu : Sdu)
    (offset : Nat)
    (memory : Memory) :
    Checked (Mmie × Nat × Memory) := do
  let mmie ← sdu.prepare
  let (mmie, memory) ← mmie.packMmhSdu offset memory
  let size ← mmie.getPackedSizeOfMmhSdu
  pure (mmie, offset + size, sdu.copyPayload mmie memory)

end Sdu

/-- Write elements back to back. -/
def sendAll :
    List Sdu → Nat → Memory → Checked (List Mmie × Nat × Memory)
  | [], offset, memory => .ok ([], offset, memory)
  | sdu :: sdus, offset, memory => do
      let (mmie, offset, memory) ← sdu.send offset memory
      let (mmies, offset, memory) ← sendAll sdus offset memory
      pure (mmie :: mmies, offset, memory)

/-- Write a whole MAC PDU into a transport block of a given size. -/
def multiplex
    (headerType : MacHeaderType)
    (commonHeader : MacCommonHeader)
    (sdus : List Sdu)
    (size : Nat)
    (memory : Memory) :
    Checked (List Mmie × Memory) := do
  let memory ← headerType.pack 0 memory
  let memory ← commonHeader.pack headerType.getPackedSize memory
  let (mmies, offset, memory) ←
    sendAll sdus (headerType.getPackedSize + commonHeader.getPackedSize)
      memory
  let memory ←
    PaddingIe.fillWithPaddingIes offset (size - offset) memory
  pure (mmies, memory)

/-- An element of the sender as the receiver stores it. -/
def received (mmie : Mmie) : Mmie :=
  { mmie with
    macMultiplexingHeader := { mmie.macMultiplexingHeader with
      tinfo := some mmie.body.type } }

/-- Part of a window. -/
theorem window_part
    {first second : Memory}
    {start stop from_ size : Nat}
    (same : ∀ index, start ≤ index → index < stop → first index = second index)
    (lower : start ≤ from_)
    (upper : from_ + size ≤ stop) :
    first.window from_ size = second.window from_ size := by
  refine List.map_congr_left fun index member => ?_
  have inside := List.mem_range.mp member
  exact same _ (by omega) (by omega)

variable {offset : Nat}

theorem headerAt_noLengthField
    {memory : Memory}
    {header : MacMultiplexingHeader}
    {type : MmieType}
    (noLengthField : header.macExt = .noLengthField)
    (noLength : header.length = undefinedNumeric32)
    (isAnnounced :
      announced header.firstOctet = { header with tinfo := some type })
    (holds : memory offset = header.firstOctet) :
    typeAt memory offset = some type ∧
      bodyOffsetAt memory offset = offset + 1 ∧
      headerAt memory offset = { header with tinfo := some type } := by
  refine ⟨?_, ?_, ?_⟩
  · rw [typeAt, holds, isAnnounced]
  · simp only [bodyOffsetAt, holds, isAnnounced, noLengthField,
      MacMultiplexingHeader.packedSize,
      packedSizeMinToPeek]
  · simp only [headerAt, holds, isAnnounced, noLengthField, lengthAt, noLength]

/-- The header of a flow as `set_flow_id` and `set_data_size` leave it. -/
def flowHeader
    (flowId dataSize : Nat) :
    MacMultiplexingHeader where
  macExt := if dataSize ≤ 255 then .lengthField8Bit else .lengthField16Bit
  ieType := UInt32.ofNat (flowId + 2)
  length := UInt32.ofNat dataSize
  tinfo := none

variable {mu : Nat}

variable
  {flowId dataSize : Nat}
  {payload : List UInt8}

theorem prepare_userPlaneData
    (valid : (Sdu.userPlaneData flowId dataSize payload).Valid mu) :
    (Sdu.userPlaneData flowId dataSize payload).prepare =
      .ok
        { macMultiplexingHeader := flowHeader flowId dataSize
          body := .userPlaneData none } := by
  obtain ⟨flowLower, flowUpper, sizeLower, sizeUpper, -⟩ := valid
  have positive : 0 < dataSize := sizeLower
  have isFlow : flowId = 1 ∨ flowId = 2 ∨ flowId = 3 ∨ flowId = 4 := by omega
  rcases isFlow with rfl | rfl | rfl | rfl <;>
    simp [Sdu.prepare, UserPlaneData.setFlowId,
      UserPlaneData.setDataSize, positive, sizeUpper, Mmie.construct,
      flowHeader, zero,
      IeTypeMacExt000110.userPlaneDataFlow1,
      IeTypeMacExt000110.userPlaneDataFlow2,
      IeTypeMacExt000110.userPlaneDataFlow3,
      IeTypeMacExt000110.userPlaneDataFlow4]

/-- A stored element and the octets that it points to hold what was sent. -/
def Carries
    (memory : Memory)
    (mmie : Mmie) :
    Sdu → Prop
  | .userPlaneData flowId dataSize payload =>
      mmie.macMultiplexingHeader =
        { flowHeader flowId dataSize with
          tinfo := some .userPlaneData } ∧
      ∃ dataPtr,
        mmie.body = .userPlaneData (some dataPtr) ∧
        memory.window dataPtr payload.length = payload
  | .clusterBeaconMessage message =>
      mmie.body = .clusterBeaconMessage message
  | .powerTargetIe ie => mmie.body = .powerTargetIe ie
  | .timeAnnounceIe ie => mmie.body = .timeAnnounceIe ie

/--
One element has been written: what lies in front of it is kept, and wherever
its octets are kept they stand for the element.
-/
structure Sent
    (mu : Nat)
    (sdu : Sdu)
    (mmie : Mmie)
    (offset : Nat)
    (before after : Memory) :
    Prop where
  frame : ∀ index < offset, after index = before index
  isType : mmie.body.type = sdu.type
  readable :
    ∀ final : Memory,
      (∀ index, offset ≤ index → index < offset + sdu.packedSize →
        final index = after index) →
      typeAt final offset = some sdu.type ∧
        behind mu final offset sdu.type = offset + sdu.packedSize ∧
        mmieAt mu final offset sdu.type = received mmie ∧
        (received mmie).body.contentsValid = true ∧
        Carries final (received mmie) sdu

private theorem written_octets
    {final memory : Memory}
    {first : UInt8}
    {octets : List UInt8}
    (same :
      ∀ index, offset ≤ index → index < offset + (1 + octets.length) →
        final index = memory.write offset (first :: octets) index) :
    final offset = first ∧
      final.window (offset + 1) octets.length = octets := by
  have whole : final.window offset (1 + octets.length) = first :: octets := by
    rw [window_part same (Nat.le_refl _) (Nat.le_refl _), Nat.add_comm 1]
    exact Memory.window_write offset (first :: octets) memory
  rw [Memory.window_add] at whole
  rw [show first :: octets = [first] ++ octets from rfl] at whole
  have split := List.append_inj whole (by simp)
  refine ⟨?_, split.2⟩
  simpa [window] using split.1

/-- An element without length field, whose body is packed behind its header. -/
private theorem send_packing
    {mu offset : Nat}
    {sdu : Sdu}
    {mmie : Mmie}
    {code : List UInt8}
    (prepared : sdu.prepare = .ok mmie)
    (isType : mmie.body.type = sdu.type)
    (headerValid : mmie.macMultiplexingHeader.isValid = true)
    (noLengthField : mmie.macMultiplexingHeader.macExt = .noLengthField)
    (noLength : mmie.macMultiplexingHeader.length = undefinedNumeric32)
    (isAnnounced :
      announced
          mmie.macMultiplexingHeader.firstOctet =
        { mmie.macMultiplexingHeader with tinfo := some sdu.type })
    (packed :
      ∀ memory,
        mmie.packMmhSdu offset memory =
          .ok (mmie, (memory.write offset
            mmie.macMultiplexingHeader.code).write (offset + 1) code))
    (bodySize : mmie.getPackedSizeOfSdu = code.length)
    (packedSize : sdu.packedSize = 1 + code.length)
    (noPayload : ∀ memory, sdu.copyPayload mmie memory = memory)
    (valid : mmie.body.contentsValid = true)
    (carries : ∀ final, Carries final (received mmie) sdu)
    (unpacked :
      ∀ final : Memory,
        final.window (offset + 1) code.length = code →
        bodyOffsetAt final offset = offset + 1 →
        bodySizeAt mu final offset sdu.type = code.length ∧
          bodyAt mu final (offset + 1) sdu.type = mmie.body)
    (memory : Memory) :
    ∃ mmie after,
      sdu.send offset memory = .ok (mmie, offset + sdu.packedSize, after) ∧
      Sent mu sdu mmie offset memory after := by
  have headerCode : mmie.macMultiplexingHeader.code =
      [mmie.macMultiplexingHeader.firstOctet] := by
    simp only [MacMultiplexingHeader.code, noLengthField]
  have written : (memory.write offset mmie.macMultiplexingHeader.code).write
      (offset + 1) code = memory.write offset
          (mmie.macMultiplexingHeader.firstOctet :: code) := by
    rw [headerCode]
    exact Memory.write_write offset
      [mmie.macMultiplexingHeader.firstOctet] code memory
  refine ⟨mmie, memory.write offset
      (mmie.macMultiplexingHeader.firstOctet :: code), ?_, ?_, isType,
      ?_⟩
  · simp only [Sdu.send, prepared, ok_bind, packed, written,
      Mmie.getPackedSizeOfMmhSdu,
      getPackedSize_valid headerValid,
      noLengthField, MacMultiplexingHeader.packedSize,
      packedSizeMinToPeek, bodySize,
      pure_eq_ok, packedSize, noPayload]
  · intro index before
    exact write_before _ _ before
  · intro final same
    rw [packedSize] at same
    obtain ⟨first, body⟩ := written_octets same
    obtain ⟨sameType, isBodyOffset, isHeader⟩ :=
      headerAt_noLengthField noLengthField noLength isAnnounced first
    obtain ⟨isBodySize, isBody⟩ := unpacked final body isBodyOffset
    refine ⟨sameType, ?_, ?_, valid, carries final⟩
    · rw [behind, isBodyOffset, isBodySize, packedSize, Nat.add_assoc]
    · rw [mmieAt, isHeader, isBodyOffset, isBody, received, isType]

theorem send_clusterBeaconMessage
    {message : ClusterBeaconMessage}
    (valid : (Sdu.clusterBeaconMessage message).Valid mu)
    (offset : Nat)
    (memory : Memory) :
    ∃ mmie after,
      (Sdu.clusterBeaconMessage message).send offset memory =
        .ok (mmie, offset +
          (Sdu.clusterBeaconMessage message).packedSize, after) ∧
      Sent mu (.clusterBeaconMessage message) mmie offset memory after := by
  obtain ⟨isValid, rfl⟩ := valid
  have headerValid : (Mmie.construct
      .clusterBeaconMessage).macMultiplexingHeader.isValid = true := by
    decide
  have isAnnounced : announced (Mmie.construct
      .clusterBeaconMessage).macMultiplexingHeader.firstOctet =
        { (Mmie.construct .clusterBeaconMessage).macMultiplexingHeader with
          tinfo := some .clusterBeaconMessage } := by
    decide
  refine @send_packing message.mu offset (.clusterBeaconMessage message)
      { Mmie.construct .clusterBeaconMessage with
        body := .clusterBeaconMessage message }
      message.code rfl rfl headerValid rfl rfl isAnnounced ?_
      message.code_length.symm ?_ (fun _ => rfl) isValid (fun _ => rfl)
      ?_ memory
  · intro memory
    simp only [Mmie.packMmhSdu, pack_valid headerValid,
      getPackedSize_valid headerValid,
      ok_bind]
    rw [ClusterBeaconMessage.pack_valid isValid]
    rfl
  · rw [message.code_length]
    rfl
  · intro final holds isBodyOffset
    rw [message.code_length] at holds ⊢
    obtain ⟨flags, decoded⟩ := ClusterBeaconMessage.decoded_code isValid holds
    constructor
    · simp only [Sdu.type, bodySizeAt, isBodyOffset, flags,
        message.sizeByFlags_flagsOf]
    · simp only [Sdu.type, bodyAt, decoded]

theorem send_powerTargetIe
    {ie : PowerTargetIe}
    (valid : (Sdu.powerTargetIe ie).Valid mu)
    (offset : Nat)
    (memory : Memory) :
    ∃ mmie after,
      (Sdu.powerTargetIe ie).send offset memory =
        .ok (mmie, offset + (Sdu.powerTargetIe ie).packedSize, after) ∧
      Sent mu (.powerTargetIe ie) mmie offset memory after := by
  have headerValid : (Mmie.construct
      .powerTargetIe).macMultiplexingHeader.isValid = true := by
    decide
  have isAnnounced : announced
      (Mmie.construct .powerTargetIe).macMultiplexingHeader.firstOctet =
        { (Mmie.construct .powerTargetIe).macMultiplexingHeader with
          tinfo := some .powerTargetIe } := by
    decide
  refine @send_packing mu offset (.powerTargetIe ie)
      { Mmie.construct .powerTargetIe with body := .powerTargetIe ie }
      ie.code rfl rfl headerValid rfl rfl isAnnounced ?_ rfl rfl
      (fun _ => rfl) valid (fun _ => rfl) ?_ memory
  · intro memory
    simp only [Mmie.packMmhSdu, pack_valid headerValid,
      getPackedSize_valid headerValid,
      ok_bind]
    rw [PowerTargetIe.pack_valid valid]
    rfl
  · intro final holds isBodyOffset
    refine ⟨rfl, ?_⟩
    simp only [Sdu.type, bodyAt, PowerTargetIe.decoded_code valid holds]

theorem send_timeAnnounceIe
    {ie : TimeAnnounceIe}
    (valid : (Sdu.timeAnnounceIe ie).Valid mu)
    (offset : Nat)
    (memory : Memory) :
    ∃ mmie after,
      (Sdu.timeAnnounceIe ie).send offset memory =
        .ok (mmie, offset + (Sdu.timeAnnounceIe ie).packedSize, after) ∧
      Sent mu (.timeAnnounceIe ie) mmie offset memory after := by
  have headerValid : (Mmie.construct
      .timeAnnounceIe).macMultiplexingHeader.isValid = true := by
    decide
  have isAnnounced : announced
      (Mmie.construct .timeAnnounceIe).macMultiplexingHeader.firstOctet =
        { (Mmie.construct .timeAnnounceIe).macMultiplexingHeader with
          tinfo := some .timeAnnounceIe } := by
    decide
  have codeLength : ie.code.length = TimeAnnounceIe.getPackedSize := by
    simp [TimeAnnounceIe.code, TimeAnnounceIe.getPackedSize]
  refine @send_packing mu offset (.timeAnnounceIe ie)
      { Mmie.construct .timeAnnounceIe with body := .timeAnnounceIe ie }
      ie.code rfl rfl headerValid rfl rfl isAnnounced ?_
      codeLength.symm ?_ (fun _ => rfl) valid (fun _ => rfl) ?_ memory
  · intro memory
    simp only [Mmie.packMmhSdu, pack_valid headerValid,
      getPackedSize_valid headerValid,
      ok_bind]
    rw [TimeAnnounceIe.pack_valid valid]
    rfl
  · rw [codeLength]
    rfl
  · intro final holds isBodyOffset
    rw [codeLength] at holds ⊢
    refine ⟨rfl, ?_⟩
    simp only [Sdu.type, bodyAt, TimeAnnounceIe.decoded_code valid holds]

/-- Number of octets in front of the payload of a flow. -/
def flowHeaderSize (dataSize : Nat) : Nat :=
  if dataSize ≤ 255 then 2 else 3

/-- The header of a flow is valid and has two or three octets. -/
theorem flowHeader_valid
    {flowId dataSize : Nat}
    (isFlow : flowId = 1 ∨ flowId = 2 ∨ flowId = 3 ∨ flowId = 4)
    (sizeUpper : dataSize ≤ 65535) :
    (flowHeader flowId dataSize).isValid = true ∧
      MacMultiplexingHeader.packedSize
          (flowHeader flowId dataSize).macExt =
        flowHeaderSize dataSize := by
  have typeValid : IeTypes.isValid (UInt32.ofNat flowId + 2) = true := by
    rcases isFlow with rfl | rfl | rfl | rfl <;> decide
  have length : (UInt32.ofNat dataSize).toNat = dataSize := by
    rw [UInt32.toNat_ofNat']
    omega
  by_cases small : dataSize ≤ 255
  · have notLarge : ¬ 255 < UInt32.ofNat dataSize := by
      rw [UInt32.lt_iff_toNat_lt, length]
      simpa using small
    have notTooLarge : ¬ 65535 < UInt32.ofNat dataSize := by
      rw [UInt32.lt_iff_toNat_lt, length]
      simpa using sizeUpper
    simp [flowHeader, flowHeaderSize, small,
      MacMultiplexingHeader.isValid, notLarge, notTooLarge, typeValid,
      MacMultiplexingHeader.packedSize,
      packedSizeMinToPeek]
  · have notTooLarge : ¬ 65535 < UInt32.ofNat dataSize := by
      rw [UInt32.lt_iff_toNat_lt, length]
      simpa using sizeUpper
    simp [flowHeader, flowHeaderSize, small,
      MacMultiplexingHeader.isValid, notTooLarge, typeValid,
      MacMultiplexingHeader.packedSize,
      packedSizeMinToPeek]

theorem flowHeader_announced
    {flowId : Nat}
    (isFlow : flowId = 1 ∨ flowId = 2 ∨ flowId = 3 ∨ flowId = 4)
    (dataSize : Nat) :
    announced
        (flowHeader flowId dataSize).firstOctet =
      { flowHeader flowId dataSize with
        length := undefinedNumeric32
        tinfo := some .userPlaneData } := by
  by_cases small : dataSize ≤ 255
  · simp only [flowHeader, small, if_true, firstOctet]
    rcases isFlow with rfl | rfl | rfl | rfl <;> decide
  · simp only [flowHeader, small, if_false, firstOctet]
    rcases isFlow with rfl | rfl | rfl | rfl <;> decide

theorem flowHeader_recovered
    (isFlow : flowId = 1 ∨ flowId = 2 ∨ flowId = 3 ∨ flowId = 4)
    (sizeUpper : dataSize ≤ 65535)
    {memory : Memory}
    (holds :
      memory.window offset (flowHeaderSize dataSize) =
        (flowHeader flowId dataSize).code) :
    typeAt memory offset = some .userPlaneData ∧
      bodyOffsetAt memory offset = offset + flowHeaderSize dataSize ∧
      headerAt memory offset =
        { flowHeader flowId dataSize with tinfo := some .userPlaneData } := by
  have isAnnounced := flowHeader_announced isFlow dataSize
  obtain ⟨-, headerSize⟩ := flowHeader_valid isFlow sizeUpper
  have length : (UInt32.ofNat dataSize).toNat = dataSize := by
    rw [UInt32.toNat_ofNat']
    omega
  have octets : memory offset = (flowHeader flowId dataSize).firstOctet ∧
      lengthAt (flowHeader flowId dataSize).macExt memory offset =
        UInt32.ofNat dataSize := by
    by_cases small : dataSize ≤ 255
    · have isExt :
          (flowHeader flowId dataSize).macExt = .lengthField8Bit := by
        simp [flowHeader, small]
      simp only [flowHeaderSize, small, if_true,
        MacMultiplexingHeader.code, isExt, window,
        List.range_succ, List.range_zero, List.nil_append,
        List.map_cons, List.map_nil, Nat.add_zero,
        List.cons_append, List.cons.injEq, and_true] at holds
      refine ⟨holds.1, ?_⟩
      simp only [isExt, lengthAt, holds.2]
      have masked :
          ((flowHeader flowId dataSize).length &&& 255).toNat = dataSize := by
        rw [UInt32.toNat_and, flowHeader, length]
        exact (BitFields.and_eq_mod 8 (by rfl) _).trans
          (Nat.mod_eq_of_lt (by omega))
      apply UInt32.toNat_inj.mp
      rw [UInt8.toNat_toUInt32, BitFields.toNat_unshifted (by omega),
        masked, length]
    · have isExt :
          (flowHeader flowId dataSize).macExt = .lengthField16Bit := by
        simp [flowHeader, small]
      simp only [flowHeaderSize, small, if_false,
        MacMultiplexingHeader.code, isExt] at holds
      rw [show 3 = 1 + 2 from rfl, Memory.window_add,
        ← List.singleton_append] at holds
      obtain ⟨first, behind⟩ := List.append_inj holds (by simp)
      refine ⟨by simpa [window] using first, ?_⟩
      simp only [isExt, lengthAt, behind, fromBigEndian_toBigEndian]
      apply UInt32.toNat_inj.mp
      rw [flowHeader, length, UInt32.toNat_ofNat']
      omega
  refine ⟨?_, ?_, ?_⟩
  · rw [typeAt, octets.1, isAnnounced]
  · rw [bodyOffsetAt, octets.1, isAnnounced]
    simp only [headerSize]
  · rw [headerAt, octets.1, isAnnounced]
    simp only [octets.2]
    rfl

theorem send_userPlaneData
    {mu flowId dataSize : Nat}
    (valid : (Sdu.userPlaneData flowId dataSize payload).Valid mu)
    (offset : Nat)
    (memory : Memory) :
    ∃ mmie after,
      (Sdu.userPlaneData flowId dataSize payload).send offset memory =
        .ok (mmie, offset +
          (Sdu.userPlaneData flowId dataSize payload).packedSize,
          after) ∧
      Sent mu (.userPlaneData flowId dataSize payload) mmie offset
        memory after := by
  have prepared := prepare_userPlaneData valid
  obtain ⟨flowLower, flowUpper, sizeLower, sizeUpper, payloadSize⟩ := valid
  have isFlow : flowId = 1 ∨ flowId = 2 ∨ flowId = 3 ∨ flowId = 4 := by omega
  obtain ⟨headerValid, headerSize⟩ := flowHeader_valid isFlow sizeUpper
  have codeLength :
      (flowHeader flowId dataSize).code.length = flowHeaderSize dataSize := by
    rw [code_length headerValid, headerSize]
  have length : (UInt32.ofNat dataSize).toNat = dataSize := by
    rw [UInt32.toNat_ofNat']
    omega
  refine
    ⟨{ macMultiplexingHeader := flowHeader flowId dataSize
       body := .userPlaneData (some (offset + flowHeaderSize dataSize)) },
      (memory.write offset (flowHeader flowId dataSize).code).write
        (offset + flowHeaderSize dataSize) payload, ?_, ?_, rfl, ?_⟩
  · simp only [Sdu.send, prepared, ok_bind, Mmie.packMmhSdu,
      pack_valid headerValid,
      getPackedSize_valid headerValid,
      headerSize, pure_eq_ok, Mmie.getPackedSizeOfMmhSdu,
      Mmie.getPackedSizeOfSdu, Sdu.copyPayload, Sdu.packedSize]
    rw [flowHeader, length]
    rfl
  · intro index before
    rw [write_before _ _ (by omega), write_before _ _ before]
  · intro final same
    have isSize : (Sdu.userPlaneData flowId dataSize payload).packedSize =
        flowHeaderSize dataSize + dataSize :=
      rfl
    have holds : final.window offset (flowHeaderSize dataSize) =
        (flowHeader flowId dataSize).code := by
      rw [window_part same (Nat.le_refl _) (by omega),
        Memory.window_write_behind _ _ (Nat.le_refl _), ← codeLength]
      exact Memory.window_write _ _ _
    obtain ⟨sameType, isBodyOffset, isHeader⟩ :=
      flowHeader_recovered isFlow sizeUpper holds
    refine ⟨sameType, ?_, ?_, rfl, rfl, _, rfl, ?_⟩
    · simp only [Sdu.type, behind, isBodyOffset, bodySizeAt, isHeader]
      rw [isSize, Nat.add_assoc]
      simp only [flowHeader, length]
    · simp only [mmieAt, Sdu.type, isHeader, isBodyOffset, bodyAt]
      rfl
    · rw [window_part same (by omega) (by omega)]
      exact Memory.window_write _ _ _

theorem send_valid
    {sdu : Sdu}
    (valid : sdu.Valid mu)
    (offset : Nat)
    (memory : Memory) :
    ∃ mmie after,
      sdu.send offset memory = .ok (mmie, offset + sdu.packedSize, after) ∧
      Sent mu sdu mmie offset memory after := by
  cases sdu with
  | userPlaneData flowId dataSize payload =>
      exact send_userPlaneData valid offset memory
  | clusterBeaconMessage message =>
      exact send_clusterBeaconMessage valid offset memory
  | powerTargetIe ie => exact send_powerTargetIe valid offset memory
  | timeAnnounceIe ie => exact send_timeAnnounceIe valid offset memory

theorem Sdu.type_ne_paddingIe (sdu : Sdu) :
    sdu.type ≠ .paddingIe := by
  cases sdu <;> simp [Sdu.type]

/-- Number of octets of elements that are written back to back. -/
def packedSizes (sdus : List Sdu) : Nat :=
  (sdus.map Sdu.packedSize).sum

/-- How many elements of a type are sent. -/
def countOf
    (sdus : List Sdu)
    (type : MmieType) :
    Nat :=
  sdus.countP fun sdu => sdu.type = type

/--
Valid elements are written without fault.  Wherever their octets are kept and
the block stops behind them, they are the elements of the block.
-/
theorem sendAll_valid
    {sdus : List Sdu}
    (valid : ∀ sdu ∈ sdus, sdu.Valid mu)
    (offset : Nat)
    (memory : Memory) :
    ∃ mmies after,
      sendAll sdus offset memory =
        .ok (mmies, offset + packedSizes sdus, after) ∧
      (∀ index < offset, after index = memory index) ∧
      ∀ (final : Memory) (size : Nat) (used : MmieType → Nat),
        (∀ index, offset ≤ index → index < offset + packedSizes sdus →
          final index = after index) →
        offset + packedSizes sdus ≤ size →
        (∀ type,
          used type + countOf sdus type ≤ MacPduDecoder.nofElements type) →
        (∀ used, Stop mu final size (offset + packedSizes sdus) used) →
        Elements mu final size offset used (mmies.map received) ∧
          List.Forall₂ (Carries final) (mmies.map received) sdus := by
  induction sdus generalizing offset memory with
  | nil =>
      refine ⟨[], memory, rfl, fun _ _ => rfl, ?_⟩
      intro final size used same inside few stop
      exact ⟨.stopped (stop used), .nil⟩
  | cons sdu sdus hypothesis =>
      obtain ⟨mmie, between, sent, isSent⟩ :=
        send_valid (valid sdu (List.mem_cons_self ..)) offset memory
      obtain ⟨mmies, after, sentAll, frame, readable⟩ :=
        hypothesis
          (fun other member => valid other (List.mem_cons_of_mem _ member))
          (offset + sdu.packedSize) between
      have total : offset + packedSizes (sdu :: sdus) =
          offset + sdu.packedSize + packedSizes sdus := by
        simp [packedSizes, Nat.add_assoc]
      refine ⟨mmie :: mmies, after, ?_, ?_, ?_⟩
      · simp only [sendAll, sent, sentAll, ok_bind, pure_eq_ok, total]
      · intro index before
        rw [frame index (Nat.lt_add_right _ before), isSent.frame index before]
      · intro final size used same inside few stop
        rw [total] at same inside stop
        -- the elements behind this one do not touch its octets
        obtain
            ⟨isType, isBehind, isElement, contentsValid, carries⟩ :=
          isSent.readable final fun index lower upper => by
            rw [same index lower (Nat.lt_add_right _ upper), frame index upper]
        have counted := few sdu.type
        have isOne :
            countOf (sdu :: sdus) sdu.type = countOf sdus sdu.type + 1 := by
          simp [countOf]
        have advanced := offset_lt_behind mu final offset sdu.type
        have complete : Complete mu final size offset used sdu.type :=
          { inside := by omega
            isType := isType
            notPadding := sdu.type_ne_paddingIe
            available := by omega
            fits := by omega }
        suffices rest : Elements mu final size (offset + sdu.packedSize)
            (Function.update used sdu.type (used sdu.type + 1))
            (mmies.map received) ∧
              List.Forall₂ (Carries final) (mmies.map received) sdus by
          rw [← isBehind] at rest
          rw [← isElement] at contentsValid
          constructor
          · rw [List.map_cons, ← isElement]
            exact .listed complete contentsValid rest.1
          · exact .cons carries rest.2
        refine readable final size _ ?_ inside ?_ stop
        · intro index lower upper
          exact same index (by omega) upper
        · intro type
          by_cases isSame : type = sdu.type
          · subst isSame
            rw [Function.update_self]
            omega
          · have others :
                countOf (sdu :: sdus) type = countOf sdus type := by
              simp [countOf, Ne.symm isSame]
            rw [Function.update_of_ne isSame, ← others]
            exact few type

/-- More than two octets of padding have a length field. -/
theorem setNofPaddingBytes_long
    (mmie : Mmie)
    {nBytes : Nat}
    (long : 2 < nBytes)
    (upper : nBytes ≤ nPaddingBytesMax) :
    PaddingIe.setNofPaddingBytes mmie nBytes =
      .ok { mmie with
        macMultiplexingHeader := { mmie.macMultiplexingHeader with
          macExt := .lengthField8Bit
          ieType := IeTypeMacExt000110.paddingIe
          length := UInt32.ofNat (nBytes - 2) } } := by
  have inRange : (1 ≤ nBytes && nBytes ≤ nPaddingBytesMax) = true := by
    simp only [Bool.and_eq_true, decide_eq_true_eq]
    exact ⟨by omega, upper⟩
  unfold PaddingIe.setNofPaddingBytes
  rw [inRange, dectnrpAssert_true, ok_bind]
  split
  · exact absurd long (by decide)
  · exact absurd long (by decide)
  · rfl

/-- The three layouts of a padding element. -/
theorem setNofPaddingBytes_valid
    (mmie : Mmie)
    {nBytes : Nat}
    (lower : 1 ≤ nBytes)
    (upper : nBytes ≤ nPaddingBytesMax) :
    ∃ next,
      PaddingIe.setNofPaddingBytes mmie nBytes = .ok next ∧
      next.body = mmie.body ∧
      next.macMultiplexingHeader.isValid = true ∧
      ∃ first behind,
        next.macMultiplexingHeader.code = first :: behind ∧
        (announced first).tinfo = some .paddingIe := by
  by_cases isOne : nBytes = 1
  · subst isOne
    refine ⟨_, rfl, rfl, rfl, 0xC0, [], ?_, by decide⟩
    simp only [MacMultiplexingHeader.code]
    decide
  · by_cases isTwo : nBytes = 2
    · subst isTwo
      refine ⟨_, rfl, rfl, rfl, 0xE0, [], ?_, by decide⟩
      simp only [MacMultiplexingHeader.code]
      decide
    · have isSet := setNofPaddingBytes_long mmie (by omega) upper
      have length : (UInt32.ofNat (nBytes - 2)).toNat = nBytes - 2 := by
        rw [UInt32.toNat_ofNat']
        unfold nPaddingBytesMax at upper
        omega
      refine ⟨_, isSet, rfl, ?_, ?_⟩
      · have notLarge : ¬ 255 < UInt32.ofNat (nBytes - 2) := by
          rw [UInt32.lt_iff_toNat_lt, length]
          unfold nPaddingBytesMax at upper
          simpa using upper
        have notTooLarge : ¬ 65535 < UInt32.ofNat (nBytes - 2) := by
          rw [UInt32.lt_iff_toNat_lt, length]
          unfold nPaddingBytesMax at upper
          simp only [UInt32.reduceToNat]
          omega
        simp only [MacMultiplexingHeader.isValid, notLarge,
          notTooLarge, if_false]
        decide
      · refine ⟨_, _, rfl, ?_⟩
        simp only [firstOctet]
        decide

theorem packPadding
    {mmie : Mmie}
    (isPadding : mmie.body = .paddingIe)
    (headerValid : mmie.macMultiplexingHeader.isValid = true)
    {first : UInt8}
    {behind : List UInt8}
    (isCode : mmie.macMultiplexingHeader.code = first :: behind)
    (isAnnounced : (announced first).tinfo = some .paddingIe)
    (offset : Nat)
    (memory : Memory) :
    ∃ after,
      mmie.packMmhSdu offset memory = .ok (mmie, after) ∧
      (∀ index < offset, after index = memory index) ∧
      typeAt after offset = some .paddingIe := by
  have headerSize : MacMultiplexingHeader.packedSize
      mmie.macMultiplexingHeader.macExt = behind.length + 1 := by
    rw [← code_length headerValid, isCode, List.length_cons]
  refine ⟨(memory.write offset mmie.macMultiplexingHeader.code).write
      (offset + MacMultiplexingHeader.packedSize
        mmie.macMultiplexingHeader.macExt)
      (List.replicate mmie.macMultiplexingHeader.length.toNat 0),
      ?_, ?_, ?_⟩
  · simp only [Mmie.packMmhSdu, pack_valid headerValid,
      getPackedSize_valid headerValid,
      ok_bind, isPadding, pure_eq_ok]
  · intro index before
    rw [write_before _ _ (by omega), write_before _ _ before]
  · have kept : memory.write offset (first :: behind) offset = first := by
      simp [Memory.write]
    rw [typeAt, write_before _ _ (by omega), isCode, kept, isAnnounced]

theorem fill_spec
    {mmie : Mmie}
    (isPadding : mmie.body = .paddingIe)
    (offset nBytes : Nat)
    (memory : Memory) :
    ∃ after,
      fill mmie offset nBytes memory = .ok after ∧
      (∀ index < offset, after index = memory index) ∧
      (nBytes ≠ 0 → typeAt after offset = some .paddingIe) := by
  induction nBytes using Nat.strong_induction_on
    generalizing mmie offset memory with
  | _ nBytes hypothesis =>
      by_cases remaining : nBytes = 0
      · subst remaining
        refine ⟨memory, ?_, fun _ _ => rfl, fun some_ => absurd rfl some_⟩
        rw [fill, if_pos rfl]
      · have positive := PaddingIe.chunk_pos remaining
        have bounds : chunk nBytes ≤ nPaddingBytesMax ∧
            chunk nBytes ≤ nBytes := by
          unfold chunk
          split <;> omega
        obtain
            ⟨next, isSet, sameBody, headerValid, _, _, isCode, isAnnounced⟩ :=
          setNofPaddingBytes_valid mmie positive bounds.1
        have isNext : next.body = .paddingIe := sameBody.trans isPadding
        obtain ⟨between, packed, frame, atOnce⟩ :=
          packPadding isNext headerValid isCode isAnnounced offset memory
        obtain ⟨after, filled, further, -⟩ :=
          hypothesis (nBytes - chunk nBytes)
            (by omega) isNext (offset + chunk nBytes) between
        refine ⟨after, ?_, ?_, ?_⟩
        · rw [fill, if_neg remaining]
          simp only [isSet, packed, filled, ok_bind]
        · intro index before
          rw [further index (by omega), frame index before]
        · intro _
          rw [typeAt, further offset (by omega), ← typeAt, atOnce]

theorem headers_recovered
    {headerType : MacHeaderType}
    {commonHeader : MacCommonHeader}
    (typeValid : headerType.isValid = true)
    (matching : headerType.macHeaderType = commonHeader.kind)
    (notBeacon : commonHeader.kind ≠ .beacon)
    (commonValid : commonHeader.isValid = true)
    {final : Memory}
    (holds :
      final.window 0 (1 + commonHeader.getPackedSize) =
        headerType.code :: commonHeader.code)
    {size : Nat}
    (inside : 1 + commonHeader.getPackedSize ≤ size) :
    headerTypeOf final = some headerType ∧
      commonHeaderOf final size = some commonHeader ∧
      elementsFrom final size = some (1 + commonHeader.getPackedSize) := by
  rw [Memory.window_add, ← List.singleton_append] at holds
  obtain ⟨first, behind⟩ := List.append_inj holds (by simp)
  have octet0 : final 0 = headerType.code := by
    simpa [window] using first
  have implemented : headerType.macHeaderType ≠ .escape := by
    rw [matching]
    cases commonHeader <;> simp [MacCommonHeader.kind]
  have isDecoded : MacHeaderType.decoded (final 0) = headerType := by
    rw [octet0]
    exact MacHeaderType.decoded_code typeValid implemented
  have isHeaderType : headerTypeOf final = some headerType := by
    rw [headerTypeOf, isDecoded, if_pos typeValid]
  obtain ⟨layout, emplaced, sameKind⟩ :=
    MacCommonHeader.emplace_of_valid isDecoded.symm typeValid
  have isLayout : commonHeaderLayout final = some layout := by
    rw [commonHeaderLayout, isHeaderType]
    simp only [emplaced, Except.toOption]
  have isKind : layout.kind = commonHeader.kind := sameKind.trans matching
  have sameSize : layout.getPackedSize = commonHeader.getPackedSize := by
    cases layout <;> cases commonHeader <;>
      first | rfl | simp [MacCommonHeader.kind] at isKind
  have isCommonHeader : layout.decoded final 1 = commonHeader :=
    MacCommonHeader.decoded_code commonValid notBeacon isKind behind
  have fits : ¬ size < 1 + commonHeader.getPackedSize :=
    Nat.not_lt_of_le inside
  refine ⟨isHeaderType, ?_, ?_⟩
  · rw [commonHeaderOf, isLayout]
    simp only [sameSize, fits, if_false, isCommonHeader, commonValid, if_true]
  · rw [elementsFrom, isLayout]
    simp only [sameSize, fits, if_false, isCommonHeader, commonValid, if_true]

/-- A sender writes a block that is demultiplexed again. -/
theorem multiplex_demultiplexed
    {headerType : MacHeaderType}
    {commonHeader : MacCommonHeader}
    (typeValid : headerType.isValid = true)
    (matching : headerType.macHeaderType = commonHeader.kind)
    (notBeacon : commonHeader.kind ≠ .beacon)
    (commonValid : commonHeader.isValid = true)
    {mu : Nat}
    (muValid : mu = 1 ∨ mu = 2 ∨ mu = 4 ∨ mu = 8)
    {sdus : List Sdu}
    (valid : ∀ sdu ∈ sdus, sdu.Valid mu)
    (few : ∀ type, countOf sdus type ≤ MacPduDecoder.nofElements type)
    {size : Nat}
    (fits :
      headerType.getPackedSize + commonHeader.getPackedSize +
        packedSizes sdus ≤ size)
    (small : size + 65535 < 2 ^ 32)
    (memory : Memory)
    {decoder : MacPduDecoder}
    (typed : decoder.WellTyped)
    {fuel : Nat}
    (enough : 4 * size + 5 ≤ fuel) :
    ∃ mmies block final,
      multiplex headerType commonHeader sdus size memory = .ok (mmies, block) ∧
      (do
        let decoder ← decoder.setConfiguration size mu
        decoder.decode fuel block size) = .ok (some final) ∧
      final.hasReachedValidFinalState = .ok true ∧
      final.getMacHeaderType = some headerType ∧
      final.getMacCommonHeader = some commonHeader ∧
      final.decodedMmies = mmies.map received ∧
      List.Forall₂ (Carries block) final.decodedMmies sdus := by
  have oneOctet : headerType.getPackedSize = 1 := rfl
  rw [oneOctet] at fits
  obtain ⟨mmies, written, sent, front, readable⟩ :=
    sendAll_valid valid (1 + commonHeader.getPackedSize)
      ((memory.write 0 [headerType.code]).write 1 commonHeader.code)
  have isPadding : (Mmie.construct .paddingIe).body = .paddingIe := rfl
  obtain ⟨block, filled, kept, padded⟩ :=
    fill_spec isPadding (1 + commonHeader.getPackedSize + packedSizes sdus)
      (size - (1 + commonHeader.getPackedSize + packedSizes sdus))
      written
  have multiplexed : multiplex headerType commonHeader sdus size memory =
      .ok (mmies, block) := by
    simp only [multiplex, MacHeaderType.pack_valid typeValid, oneOctet,
      MacCommonHeader.pack_valid commonValid, ok_bind, sent,
      PaddingIe.fillWithPaddingIes, filled, pure_eq_ok]
  -- neither the elements nor the padding touch the headers
  have headers : block.window 0 (1 + commonHeader.getPackedSize) =
      headerType.code :: commonHeader.code := by
    have length : (headerType.code :: commonHeader.code).length =
        1 + commonHeader.getPackedSize := by
      rw [List.length_cons, commonHeader.code_length, Nat.add_comm]
    have whole :=
      Memory.window_write 0 (headerType.code :: commonHeader.code) memory
    rw [length] at whole
    rw [← whole]
    refine @window_part _ _ 0 (1 + commonHeader.getPackedSize) 0 _ ?_
        (Nat.le_refl _) (by omega)
    intro index _ upper
    rw [kept index (by omega), front index upper]
    exact congrFun
      (Memory.write_write 0 [headerType.code] commonHeader.code memory)
      index
  obtain ⟨isHeaderType, isCommonHeader, from_⟩ :=
    headers_recovered typeValid matching notBeacon commonValid headers
      (Nat.le_trans (Nat.le_add_right _ _) fits)
  obtain ⟨elements, carried⟩ :
      BlockElements mu block size (mmies.map received) ∧
        List.Forall₂ (Carries block) (mmies.map received) sdus := by
    rw [BlockElements, from_]
    refine readable block size _ ?_ fits ?_ ?_
    · intro index _ upper
      exact kept index upper
    · intro type
      rw [Nat.zero_add]
      exact few type
    · intro used
      by_cases isFull :
          size = 1 + commonHeader.getPackedSize + packedSizes sdus
      · exact .blockEnd (Nat.le_of_eq isFull)
      · exact .padding (padded (by omega))
  obtain ⟨settled, decodes, isSettled, -, decoded⟩ :=
    @MacPduDecoder.configured_decode block mu size small (by omega)
      (MacPduDecoder.mu_hasSingleBit muValid) decoder typed fuel enough
  obtain ⟨located, atEnd, isFinal⟩ := isSettled.finish_total
  obtain ⟨sameType, sameCommon, -, -⟩ := settled.finish_retrieval size
  have listed : (settled.finish size).decodedMmies = mmies.map received := by
    rw [MacPduDecoder.finish_decodedMmies]
    exact decoded.elements.unique elements
  refine ⟨mmies, block, settled.finish size, multiplexed, ?_, ?_, ?_, ?_,
      listed, ?_⟩
  · rw [MacPduDecoder.setConfiguration_eq (by omega), ok_bind, decodes]
  · rcases isFinal with isDone | isAborted
    · simp [MacPduDecoder.hasReachedValidFinalState, located, atEnd, isDone]
    · simp [MacPduDecoder.hasReachedValidFinalState, located, atEnd, isAborted]
  · rw [sameType, decoded.headerType, isHeaderType]
  · rw [sameCommon, decoded.commonHeader, isCommonHeader]
  · rw [listed]
    exact carried

/--
What is multiplexed is demultiplexed: a sender writes a valid header type, a
valid common header of the announced kind and valid elements without fault.
The decoder then ends in a valid final state with the same headers and with
the elements of the sender in the order of the sender.  The bound on the size
holds for every transport block, which has less than `2 ^ 29` octets.
-/
theorem multiplex_decode
    {headerType : MacHeaderType}
    {commonHeader : MacCommonHeader}
    (typeValid : headerType.isValid = true)
    (matching : headerType.macHeaderType = commonHeader.kind)
    (notBeacon : commonHeader.kind ≠ .beacon)
    (commonValid : commonHeader.isValid = true)
    {mu : Nat}
    (muValid : mu = 1 ∨ mu = 2 ∨ mu = 4 ∨ mu = 8)
    {sdus : List Sdu}
    (valid : ∀ sdu ∈ sdus, sdu.Valid mu)
    (few :
      ∀ type, countOf sdus type ≤ MacPduDecoder.nofElements type)
    {size : Nat}
    (fits :
      headerType.getPackedSize + commonHeader.getPackedSize +
        packedSizes sdus ≤ size)
    (small : size + 65535 < 2 ^ 32)
    (memory : Memory)
    {decoder : MacPduDecoder}
    (typed : decoder.WellTyped)
    {fuel : Nat}
    (enough : 4 * size + 5 ≤ fuel) :
    ∃ mmies block final,
      multiplex headerType commonHeader sdus size memory =
        .ok (mmies, block) ∧
      (do
        let decoder ← decoder.setConfiguration size mu
        decoder.decode fuel block size) = .ok (some final) ∧
      final.hasReachedValidFinalState = .ok true ∧
      final.getMacHeaderType = some headerType ∧
      final.getMacCommonHeader = some commonHeader ∧
      final.decodedMmies = mmies.map received ∧
      List.Forall₂ (Carries block) final.decodedMmies sdus :=
  multiplex_demultiplexed typeValid matching notBeacon commonValid
    muValid valid few fits small memory typed enough

/-- A flow with two octets and a power target in front of padding. -/
theorem multiplex_decode_flowAndPowerTarget :
    ∃ mmies block final,
      multiplex ⟨.v00, .macsecNotUsed, .mchEmpty⟩ .mchEmpty
        [.userPlaneData 2 2 [0xAA, 0xBB], .powerTargetIe ⟨50⟩] 12
        (fun _ => 0) = .ok (mmies, block) ∧
      (do
        let decoder ← MacPduDecoder.construct.setConfiguration 12 4
        decoder.decode 53 block 12) = .ok (some final) ∧
      final.hasReachedValidFinalState = .ok true ∧
      final.getMacHeaderType =
        some ⟨.v00, .macsecNotUsed, .mchEmpty⟩ ∧
      final.getMacCommonHeader = some .mchEmpty ∧
      final.decodedMmies = mmies.map received ∧
      List.Forall₂ (Carries block) final.decodedMmies
        [.userPlaneData 2 2 [0xAA, 0xBB], .powerTargetIe ⟨50⟩] := by
  refine
    multiplex_decode rfl rfl (by decide) rfl
      (Or.inr (Or.inr (Or.inl rfl))) ?_ ?_ (by decide) (by decide) _
      MacPduDecoder.construct_wellTyped (by decide)
  · intro sdu member
    rcases List.mem_pair.mp member with rfl | rfl
    · simp [Sdu.Valid]
    · rfl
  · intro type
    cases type <;> decide

end MacPdu

end DectNrp
