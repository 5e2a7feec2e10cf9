import DectNrp.MacPduDemultiplexing
import Mathlib.Data.List.Perm.Subperm

namespace DectNrp

/-!
# Every transport block is decoded

A configured decoder reads the header type and the common header and then
demultiplexes the elements behind them.  Whatever octets the transport block
holds, the decoder ends in a final state at the end of the block, and what can
be retrieved from it is what the octets of the block stand for.
-/

namespace MacPduDecoder

open MacPdu (headerTypeOf commonHeaderLayout commonHeaderOf elementsFrom
  BlockElements Elements)

/-- The decoder after its configuration. -/
def configured
    (decoder : MacPduDecoder)
    (size mu : Nat) :
    MacPduDecoder :=
  { decoder with
    aCntWTb := size
    state := .macHeaderType
    aCntR := 0
    mhtEffective := false
    mht := .zero
    mchEffective := false
    mu := mu
    nBytesRequired := 1
    mmh := .zero
    mmie := none
    indexNextIe := fun _ => 0
    mmieDecodedVec := [] }

/-- A configuration accepts every transport block that is not empty. -/
theorem setConfiguration_eq
    {size : Nat}
    (nonempty : 0 < size)
    (decoder : MacPduDecoder)
    (mu : Nat) :
    decoder.setConfiguration size mu = .ok (decoder.configured size mu) := by
  have first : add32 0 1 ≤ size := nonempty
  simp [setConfiguration, nonempty, MacHeaderType.getPackedSize, first,
    configured]

theorem configured_places
    (decoder : MacPduDecoder)
    (size mu : Nat) :
    (decoder.configured size mu).Places where
  listed := by
    intro ref
    simp [configured]
  distinct := List.nodup_nil
  bounded := by
    intro type
    exact Nat.zero_le _

/-- The decoder has read a whole block, or given up on it. -/
structure BlockDecoded
    (mu : Nat)
    (a : Memory)
    (size : Nat)
    (decoder : MacPduDecoder) :
    Prop where
  places : decoder.Places
  headerType : decoder.getMacHeaderType = headerTypeOf a
  commonHeader : decoder.getMacCommonHeader = commonHeaderOf a size
  elements : BlockElements mu a size decoder.decodedMmies

/-- A configured decoder settles with the contents of the block. -/
theorem configured_run
    {a : Memory}
    {mu size : Nat}
    (small : size + 65535 < 2 ^ 32)
    (nonempty : 0 < size)
    (muValid : ClusterBeaconMessage.hasSingleBit mu = true ∧ mu ≤ 8)
    {decoder : MacPduDecoder}
    (typed : decoder.WellTyped) :
    ∃ steps after,
      steps ≤ 4 * size + 4 ∧
      (machine a size small).Trace steps (decoder.configured size mu) after ∧
      Settled size after ∧
      BlockDecoded mu a size after := by
  have places := decoder.configured_places size mu
  by_cases valid : (MacHeaderType.decoded (a 0)).isValid = true
  · obtain ⟨layout, emplaced, -⟩ := MacCommonHeader.emplace_of_valid rfl valid
    have isHeaderType :
        headerTypeOf a = some (MacHeaderType.decoded (a 0)) := by
      rw [headerTypeOf, if_pos valid]
    have isLayout : commonHeaderLayout a = some layout := by
      rw [commonHeaderLayout, isHeaderType]
      simp only [emplaced, Except.toOption]
    have toCommonHeader :=
      @step_headerType_accepted a size (decoder.configured size mu)
        rfl rfl rfl rfl nonempty valid layout emplaced
    have bound := layout.getPackedSize_le
    by_cases headerFits : 1 + layout.getPackedSize ≤ size
    · by_cases commonValid : (layout.decoded a 1).isValid = true
      · have toElements :=
          @step_commonHeader_accepted a size
            ((decoder.configured size mu).withHeaderType
              (MacHeaderType.decoded (a 0)) layout)
            small rfl rfl rfl headerFits commonValid
        obtain ⟨elements, isElements⟩ :=
          Elements.exist mu a size (1 + layout.getPackedSize) (fun _ => 0)
        obtain ⟨steps, after, few, trace, demultiplexed⟩ :=
          @Scanning.run a mu size _ _ small muValid elements isElements
            (((decoder.configured size mu).withHeaderType
              (MacHeaderType.decoded (a 0)) layout).withCommonHeader
                (layout.decoded a 1))
            { located := rfl
              isState := rfl
              front := rfl
              required := rfl
              inside := headerFits
              sameMu := rfl
              typed := typed
              sameUsed := rfl
              places := ⟨places.listed, places.distinct, places.bounded⟩ }
        refine ⟨steps + 1 + 1, after, by omega,
            .cons toCommonHeader (.cons toElements trace),
            demultiplexed.settled, demultiplexed.places, ?_, ?_, ?_⟩
        · rw [demultiplexed.headerType, isHeaderType]
          rfl
        · rw [demultiplexed.commonHeader, commonHeaderOf, isLayout]
          simp only [if_neg (Nat.not_lt_of_le headerFits), commonValid,
            if_true]
          rfl
        · rw [demultiplexed.decodedMmies, BlockElements, elementsFrom,
            isLayout]
          simp only [if_neg (Nat.not_lt_of_le headerFits), commonValid,
            if_true]
          exact isElements
      · -- the common header is refused
        have refused :=
          @step_commonHeader_refused a size
            ((decoder.configured size mu).withHeaderType
              (MacHeaderType.decoded (a 0)) layout)
            rfl rfl rfl headerFits (Bool.not_eq_true _ ▸ commonValid)
        refine ⟨2, _, by omega, .cons toCommonHeader (.single refused),
            prepareMacPduPrematureAbort_settled rfl nonempty,
            ⟨places.listed, places.distinct, places.bounded⟩, ?_, ?_,
            ?_⟩
        · rw [isHeaderType]
          rfl
        · rw [commonHeaderOf, isLayout]
          simp only [if_neg (Nat.not_lt_of_le headerFits), commonValid]
          rfl
        · rw [BlockElements, elementsFrom, isLayout]
          simp only [if_neg (Nat.not_lt_of_le headerFits), commonValid]
          rfl
    · -- the block is too short for the common header
      have tooLong : size < 1 + layout.getPackedSize := by omega
      refine ⟨1, _, by omega, .single toCommonHeader,
          .unfitting rfl (by simp [withHeaderType]) nonempty ?_ tooLong,
          ⟨places.listed, places.distinct, places.bounded⟩, ?_, ?_, ?_⟩
      · simp only [withHeaderType]
        omega
      · rw [isHeaderType]
        rfl
      · rw [commonHeaderOf, isLayout]
        simp only [if_pos tooLong]
        rfl
      · rw [BlockElements, elementsFrom, isLayout]
        simp only [if_pos tooLong]
        rfl
  · -- the header type is refused
    have invalid : (MacHeaderType.decoded (a 0)).isValid = false := by
      simpa using valid
    have isHeaderType : headerTypeOf a = none := by
      rw [headerTypeOf, if_neg valid]
    have noLayout : commonHeaderLayout a = none := by
      rw [commonHeaderLayout, isHeaderType]
    have refused :=
      @step_headerType_refused a size (decoder.configured size mu)
        rfl rfl rfl rfl nonempty invalid
    refine ⟨1, _, by omega, .single refused,
        prepareMacPduPrematureAbort_settled rfl (Nat.zero_le _),
        ⟨places.listed, places.distinct, places.bounded⟩, ?_, ?_, ?_⟩
    · rw [isHeaderType]
      rfl
    · rw [commonHeaderOf, noLayout]
      rfl
    · rw [BlockElements, elementsFrom, noLayout]
      rfl

/-- The factors that the standard knows are single bits. -/
theorem mu_hasSingleBit
    {mu : Nat}
    (muValid : mu = 1 ∨ mu = 2 ∨ mu = 4 ∨ mu = 8) :
    ClusterBeaconMessage.hasSingleBit mu = true ∧ mu ≤ 8 := by
  rcases muValid with rfl | rfl | rfl | rfl <;> decide

theorem Places.count_le
    {decoder : MacPduDecoder}
    (places : decoder.Places)
    (type : MmieType) :
    (decoder.mmieDecodedVec.filter
      fun ref => ref.type = type).length ≤ nofElements type := by
  have indices : ((decoder.mmieDecodedVec.filter
      fun ref => ref.type = type).map MmieRef.index).Nodup := by
    refine List.Nodup.map_on ?_ (places.distinct.filter _)
    rintro ⟨firstType, firstIndex⟩ first ⟨secondType, secondIndex⟩
      second sameIndex
    have isFirst : firstType = type := by
      simpa using (List.mem_filter.mp first).2
    have isSecond : secondType = type := by
      simpa using (List.mem_filter.mp second).2
    rw [isFirst, isSecond]
    exact congrArg _ sameIndex
  have inPool : (decoder.mmieDecodedVec.filter
      fun ref => ref.type = type).map MmieRef.index ⊆
      List.range (nofElements type) := by
    intro index member
    obtain ⟨ref, isListed, rfl⟩ := List.mem_map.mp member
    obtain ⟨listed, isType⟩ := List.mem_filter.mp isListed
    have sameType : ref.type = type := by simpa using isType
    have place := (places.listed ref).mp listed
    have bounded := places.bounded ref.type
    rw [List.mem_range, ← sameType]
    omega
  have counted := (List.subperm_of_subset indices inPool).length_le
  simpa using counted

/-- One call on a whole block finishes it. -/
theorem configured_decode
    {a : Memory}
    {mu size : Nat}
    (small : size + 65535 < 2 ^ 32)
    (nonempty : 0 < size)
    (muValid : ClusterBeaconMessage.hasSingleBit mu = true ∧ mu ≤ 8)
    {decoder : MacPduDecoder}
    (typed : decoder.WellTyped)
    {fuel : Nat}
    (enough : 4 * size + 5 ≤ fuel) :
    ∃ settled,
      (decoder.configured size mu).decode fuel a size =
        .ok (some (settled.finish size)) ∧
      Settled size settled ∧
      settled.WellTyped ∧
      BlockDecoded mu a size settled := by
  obtain ⟨steps, settled, few, trace, isSettled, decoded⟩ :=
    configured_run small nonempty muValid typed
  have inside : settled.aCntR ≤ size := by cases isSettled <;> omega
  obtain ⟨rest, isFuel⟩ :
      ∃ rest, fuel = rest + 1 + steps :=
    ⟨fuel - 1 - steps, by omega⟩
  refine ⟨settled, ?_, isSettled, ?_, decoded⟩
  · have allSteps := trace.call_total (rest + 1)
    have finished :=
      @Settled.loop_eq a size size small settled isSettled inside
        (Nat.le_refl _) rest
    have written :
        decide (size ≤ (decoder.configured size mu).aCntWTb) = true :=
      decide_eq_true (Nat.le_refl size)
    have read : decide ((decoder.configured size mu).aCntR ≤ size) = true :=
      decide_eq_true (Nat.zero_le size)
    rw [decode, written, read, isFuel]
    exact allSteps.trans finished
  · exact @ResumableMachine.Trace.preserves _ _ (machine a size small)
      WellTyped (fun step => Step.typed step) _ _ _ trace typed

/--
Whatever a transport block holds, decoding it terminates without fault, and a
fault would be an assertion that fails or a read behind the block.  The decoder
has then read the block to its end and is in a final state, and it has listed
the elements of the block at different places of the pool.  The bound on the
size holds for every transport block, which has less than `2 ^ 29` octets.
-/
theorem decode_hostile
    (a : Memory)
    {mu size : Nat}
    (small : size + 65535 < 2 ^ 32)
    (nonempty : 0 < size)
    (muValid : mu = 1 ∨ mu = 2 ∨ mu = 4 ∨ mu = 8)
    {decoder : MacPduDecoder}
    (typed : decoder.WellTyped)
    {fuel : Nat}
    (enough : 4 * size + 5 ≤ fuel) :
    ∃ final,
      (do
        let decoder ← decoder.setConfiguration size mu
        decoder.decode fuel a size) = .ok (some final) ∧
      final.aCntR = size ∧
      (final.state = .macPduDone ∨
        final.state = .macPduPrematureAbort) ∧
      final.hasReachedValidFinalState = .ok true ∧
      final.getMmieDecodedVec.Nodup ∧
      (∀ ref ∈ final.getMmieDecodedVec,
        ref.index < nofElements ref.type) ∧
      (∀ type,
        (final.getMmieDecodedVec.filter
          fun ref => ref.type = type).length ≤ nofElements type) ∧
      BlockElements mu a size final.decodedMmies ∧
      final.WellTyped := by
  obtain ⟨settled, decodes, isSettled, settledTyped, decoded⟩ :=
    @configured_decode a mu size small nonempty
      (mu_hasSingleBit muValid) decoder typed fuel enough
  obtain ⟨located, atEnd, isFinal⟩ := isSettled.finish_total
  obtain ⟨-, -, sameVec, samePool⟩ := settled.finish_retrieval size
  refine
    ⟨settled.finish size, ?_, atEnd, isFinal, ?_, ?_, ?_, ?_, ?_, ?_⟩
  · rw [setConfiguration_eq nonempty, Checked.ok_bind, decodes]
  · rcases isFinal with isDone | isAborted
    · simp [hasReachedValidFinalState, located, atEnd, isDone]
    · simp [hasReachedValidFinalState, located, atEnd, isAborted]
  · rw [getMmieDecodedVec, sameVec]
    exact decoded.places.distinct
  · intro ref listed
    rw [getMmieDecodedVec, sameVec] at listed
    exact Nat.lt_of_lt_of_le ((decoded.places.listed ref).mp listed)
      (decoded.places.bounded ref.type)
  · intro type
    rw [getMmieDecodedVec, sameVec]
    exact decoded.places.count_le type
  · rw [finish_decodedMmies]
    exact decoded.elements
  · intro ref
    rw [samePool]
    exact settledTyped ref

/-- A block with one flow of two octets and a beacon that is cut off. -/
theorem decode_hostile_cutOff :
    ∃ final,
      (do
        let decoder ← construct.setConfiguration 7 1
        decoder.decode 33
          (Memory.write 0 [0x04, 0x43, 0x02, 0xAA, 0xBB, 0x09, 0x00]
            (fun _ => 0)) 7) = .ok (some final) ∧
      final.aCntR = 7 ∧
      BlockElements 1
        (Memory.write 0 [0x04, 0x43, 0x02, 0xAA, 0xBB, 0x09, 0x00]
          (fun _ => 0))
        7 final.decodedMmies := by
  obtain ⟨final, decodes, atEnd, -, -, -, -, -, elements, -⟩ :=
    @decode_hostile
      (Memory.write 0 [0x04, 0x43, 0x02, 0xAA, 0xBB, 0x09, 0x00]
        (fun _ => 0))
      1 7 (by decide) (by decide) (Or.inl rfl) construct
      construct_wellTyped 33 (by decide)
  exact ⟨final, decodes, atEnd, elements⟩

end MacPduDecoder

end DectNrp
