import DectNrp.HarqLifeCycle
import DectNrp.PdcSoundness

namespace DectNrp

/-!
# Code blocks that the receiver touches

Decoding a transport block changes the soft buffer at the code blocks of the
transport block only.  A HARQ process that resets just these code blocks
therefore leaves a clean soft buffer to the next user.

The octets and the soft bits of a process, into which the decoder writes as
well, are never reset, and they are left out here.
-/

open Checked (bind_eq_ok)

section

variable {EBits SoftBits Tdec : Type}

/-- The code blocks from the given one on are the same. -/
structure SoftbufferRx.SameFrom
    (first : Nat)
    (before after : SoftbufferRx SoftBits) :
    Prop where
  maxCb : after.maxCb = before.maxCb
  bufferF :
    ∀ cbIdx, first ≤ cbIdx →
      after.bufferF cbIdx = before.bufferF cbIdx
  data :
    ∀ cbIdx, first ≤ cbIdx → after.data cbIdx = before.data cbIdx
  cbCrc :
    ∀ cbIdx, first ≤ cbIdx → after.cbCrc cbIdx = before.cbCrc cbIdx

namespace SoftbufferRx.SameFrom

variable {first : Nat}
variable {before middle after : SoftbufferRx SoftBits}

theorem refl (softbuffer : SoftbufferRx SoftBits) :
    SameFrom first softbuffer softbuffer :=
  ⟨rfl, fun _ _ => rfl, fun _ _ => rfl, fun _ _ => rfl⟩

theorem trans
    (earlier : SameFrom first before middle)
    (later : SameFrom first middle after) :
    SameFrom first before after where
  maxCb := later.maxCb.trans earlier.maxCb
  bufferF cbIdx kept :=
    (later.bufferF cbIdx kept).trans (earlier.bufferF cbIdx kept)
  data cbIdx kept := (later.data cbIdx kept).trans (earlier.data cbIdx kept)
  cbCrc cbIdx kept := (later.cbCrc cbIdx kept).trans (earlier.cbCrc cbIdx kept)

variable {index : Nat}

theorem updateBufferF
    (softbuffer : SoftbufferRx SoftBits)
    (earlier : index < first)
    (softBits : SoftBits) :
    SameFrom first softbuffer { softbuffer with
      bufferF := Function.update softbuffer.bufferF index softBits } := by
  refine { refl softbuffer with bufferF := fun cbIdx kept => ?_ }
  have other : cbIdx ≠ index := by omega
  exact Function.update_of_ne other _ _

theorem updateData
    (softbuffer : SoftbufferRx SoftBits)
    (earlier : index < first)
    (octets : Memory) :
    SameFrom first softbuffer { softbuffer with
      data := Function.update softbuffer.data index octets } := by
  refine { refl softbuffer with data := fun cbIdx kept => ?_ }
  have other : cbIdx ≠ index := by omega
  exact Function.update_of_ne other _ _

/-- An earlier code block gets a new flag. -/
theorem updateCbCrc
    (softbuffer : SoftbufferRx SoftBits)
    (earlier : index < first)
    (flag : Bool) :
    SameFrom first softbuffer { softbuffer with
      cbCrc := Function.update softbuffer.cbCrc index flag } := by
  refine { refl softbuffer with cbCrc := fun cbIdx kept => ?_ }
  have other : cbIdx ≠ index := by omega
  exact Function.update_of_ne other _ _

/-- The flag of the transport block does not belong to a code block. -/
theorem setTbCrc
    (softbuffer : SoftbufferRx SoftBits)
    (flag : Bool) :
    SameFrom first softbuffer { softbuffer with tbCrc := flag } :=
  ⟨rfl, fun _ _ => rfl, fun _ _ => rfl, fun _ _ => rfl⟩

end SoftbufferRx.SameFrom

open SoftbufferRx (SameFrom)

variable {softbuffer : SoftbufferRx SoftBits}

theorem tdecLoop_sameFrom
    (library : TurboDecoder EBits SoftBits Tdec)
    (cbSegm : CbSegm)
    {first index remaining cbNoi : Nat}
    {state : PdcDecoderState EBits SoftBits Tdec}
    (uses : state.softbuffer = softbuffer)
    (current : state.cbIdx = index)
    (earlier : index < first) :
    SameFrom first softbuffer
      (tdecLoop library cbSegm remaining cbNoi state).softbuffer ∧
    (tdecLoop library cbSegm remaining cbNoi state).cbIdx = index := by
  induction remaining generalizing cbNoi state with
  | zero =>
      rw [tdecLoop]
      dsimp only
      split
      · subst uses current
        exact ⟨.updateCbCrc _ earlier true, rfl⟩
      · exact ⟨uses ▸ .refl _, current⟩
  | succ remaining hypothesis =>
      rw [tdecLoop]
      dsimp only
      split
      · subst uses current
        exact ⟨.updateCbCrc _ earlier true, rfl⟩
      · exact hypothesis uses current

variable
  {library : TurboDecoder EBits SoftBits Tdec}
  {cbSegm : CbSegm}
  {before after : PdcDecoderState EBits SoftBits Tdec}

theorem decodeOrCopy_sameFrom
    {rv first : Nat}
    {bits : CodedBits}
    (returned : decodeOrCopy library cbSegm rv bits before = .ok after)
    (earlier : before.cbIdx < first) :
    SameFrom first before.softbuffer after.softbuffer ∧
      after.cbIdx = before.cbIdx := by
  rw [decodeOrCopy] at returned
  split at returned
  · rw [decodeUnchecked] at returned
    split at returned
    · cases returned
    · rename_i softBits _
      cases returned
      have soft := SameFrom.updateBufferF before.softbuffer earlier softBits
      refine And.imp_left soft.trans ?_
      exact tdecLoop_sameFrom library cbSegm rfl rfl earlier
  · cases returned
    exact ⟨.refl _, rfl⟩

/-- Decoding leaves the code blocks behind its own. -/
theorem decodeLoop_sameFrom
    {Qm rv nofEBits nofDBitsMaximum first remaining : Nat}
    (returned :
      decodeLoop library cbSegm Qm rv nofEBits nofDBitsMaximum remaining
        before = .ok after)
    (inside : before.cbIdx + remaining ≤ first) :
    SameFrom first before.softbuffer after.softbuffer := by
  induction remaining generalizing before with
  | zero =>
      cases returned
      exact .refl _
  | succ remaining hypothesis =>
      rw [decodeLoop] at returned
      split at returned
      · cases returned
        exact .refl _
      · obtain ⟨middle, decoded, returned⟩ := bind_eq_ok.mp returned
        rw [decodeCodeblock] at decoded
        obtain ⟨block, chosen, result⟩ := bind_eq_ok.mp decoded
        cases result
        have earlier : before.cbIdx < first := by omega
        obtain ⟨same, sameIndex⟩ := decodeOrCopy_sameFrom chosen earlier
        have next : block.cbIdx + 1 + remaining ≤ first := by
          rw [sameIndex]
          dsimp only
          omega
        have rest := hypothesis returned next
        exact same.trans rest

theorem saveDecoded_sameFrom
    (cbSegm : CbSegm)
    (data : Memory)
    {first remaining cbIdx writeOffset : Nat}
    (inside : cbIdx + remaining ≤ first) :
    SameFrom first softbuffer
      (saveDecoded cbSegm data softbuffer remaining cbIdx writeOffset) := by
  induction remaining generalizing cbIdx writeOffset softbuffer with
  | zero => exact .refl _
  | succ remaining hypothesis =>
      have earlier : cbIdx < first := by omega
      rw [saveDecoded]
      refine SameFrom.trans ?_ (hypothesis (by omega))
      split
      · exact .updateData _ earlier _
      · exact .refl _

theorem decodeResult_sameFrom
    (library : TurboDecoder EBits SoftBits Tdec)
    (cbSegm : CbSegm)
    (state : PdcDecoderState EBits SoftBits Tdec) :
    SameFrom cbSegm.C state.softbuffer
      (decodeResult library cbSegm state).2.softbuffer := by
  have blocks : 0 + cbSegm.C ≤ cbSegm.C := by omega
  rw [decodeResult]
  dsimp only
  split
  · exact (SameFrom.setTbCrc _ _).trans (saveDecoded_sameFrom cbSegm _ blocks)
  · split
    · exact .setTbCrc _ _
    · split
      · exact .setTbCrc _ _
      · obtain ⟨maxCb, bufferF, data⟩ :=
          library.resetCbCrc_blocks
            { state.softbuffer with
              tbCrc := (List.range cbSegm.C).all
                fun cbIdx => state.softbuffer.cbCrc cbIdx } cbSegm.C
        exact ⟨maxCb, fun _ _ => congrFun bufferF _,
          fun _ _ => congrFun data _,
          fun _ kept => library.resetCbCrc_other _ _ _ kept⟩

theorem decodeTb_sameFrom
    {Qm rv G nofBitsMaximum : Nat}
    {crcStatus : Bool}
    (inside : before.cbIdx ≤ cbSegm.C)
    (returned :
      decodeTb library cbSegm Qm rv G nofBitsMaximum before =
        .ok (crcStatus, after)) :
    SameFrom cbSegm.C before.softbuffer after.softbuffer := by
  rw [decodeTb] at returned
  obtain ⟨_, _, returned⟩ := bind_eq_ok.mp returned
  rw [pdcDecodeCodeblocks] at returned
  obtain ⟨_, _, returned⟩ := bind_eq_ok.mp returned
  obtain ⟨_, _, returned⟩ := bind_eq_ok.mp returned
  obtain ⟨_, _, returned⟩ := bind_eq_ok.mp returned
  obtain ⟨_, _, returned⟩ := bind_eq_ok.mp returned
  obtain ⟨middle, looped, returned⟩ := bind_eq_ok.mp returned
  have blocks : SameFrom cbSegm.C before.softbuffer middle.softbuffer :=
    decodeLoop_sameFrom looped (by omega)
  split at returned
  · rw [Checked.pure_eq_ok, Except.ok.injEq] at returned
    have result := decodeResult_sameFrom library cbSegm middle
    rw [returned] at result
    exact blocks.trans result
  · cases returned
    exact blocks

/-- A call of the decoder with the soft buffer of a process. -/
def DecodesOnce
    (library : TurboDecoder EBits SoftBits Tdec)
    (cbSegm : CbSegm)
    (softbuffer decoded : SoftbufferRx SoftBits) :
    Prop :=
  ∃ before after Qm rv G nofBitsMaximum crcStatus,
    before.softbuffer = softbuffer ∧ before.cbIdx ≤ cbSegm.C ∧
      decodeTb library cbSegm Qm rv G nofBitsMaximum before =
          .ok (crcStatus, after) ∧
        after.softbuffer = decoded

theorem decodesOnce_sameFrom
    {decoded : SoftbufferRx SoftBits}
    (calls :
      Relation.ReflTransGen (DecodesOnce library cbSegm) softbuffer decoded) :
    SameFrom cbSegm.C softbuffer decoded := by
  induction calls with
  | refl => exact .refl softbuffer
  | tail _ call hypothesis =>
      obtain ⟨before, after, _, _, _, _, _, rfl, inside, returned, rfl⟩ := call
      exact hypothesis.trans (decodeTb_sameFrom inside returned)

/--
Whatever the decoder was called with, a process that resets the code blocks of
its transport block leaves a clean buffer.
-/
theorem BufferRx.clean_of_decoding
    {Block : Type}
    {softbuffers : SoftbufferLibrary Block SoftBits}
    {buffer : BufferRx SoftBits}
    (others : buffer.ResetFrom softbuffers cbSegm.C)
    {decoded : SoftbufferRx SoftBits}
    (calls :
      Relation.ReflTransGen (DecodesOnce library cbSegm)
        buffer.softbufferD decoded)
    (aCnt : Nat) :
    (BufferRx.resetACntAndSoftbufferCb softbuffers
      { buffer with
        aCnt := aCnt
        softbufferD := decoded }
      cbSegm.C).Clean softbuffers := by
  have same := decodesOnce_sameFrom calls
  apply ResetFrom.clean
  intro cbIdx kept inside
  have insideBefore : cbIdx < buffer.softbufferD.maxCb := same.maxCb ▸ inside
  obtain ⟨softBits, data, flag⟩ := others cbIdx kept insideBefore
  exact ⟨(same.bufferF cbIdx kept).trans softBits,
      (same.data cbIdx kept).trans data,
      (same.cbCrc cbIdx kept).trans flag⟩

end

/-- A buffer for one code block of two octets. -/
def oneBlockBuffer : BufferRx UInt8 where
  aLen := 2
  aCnt := 0
  softbufferD := resetReception.decoder.softbuffer

/-- The octets are read once the transport block was received. -/
theorem BufferRx.clean_of_decoding_oneBlock :
    ∃ decoded,
      DecodesOnce echoDecoder oneBlock oneBlockBuffer.softbufferD decoded ∧
        (BufferRx.resetACntAndSoftbufferCb octetSoftbuffers
          { oneBlockBuffer with
            aCnt := 2
            softbufferD := decoded }
          1).Clean octetSoftbuffers := by
  have received :
      returnedStatus (receiveAll resetReception 7) = some true := by
    decide
  have returned := eq_ok_of_returnedStatus received resetReception.decoder
  have call : DecodesOnce echoDecoder oneBlock oneBlockBuffer.softbufferD
      (returnedState resetReception.decoder
        (receiveAll resetReception 7)).softbuffer :=
    ⟨{ resetReception.decoder with eBits := 7 }, _, 1, 0, 80, 80, true, rfl,
      Nat.zero_le _, returned, rfl⟩
  have others : oneBlockBuffer.ResetFrom octetSoftbuffers 1 :=
    fun _ _ _ => ⟨rfl, rfl, rfl⟩
  exact ⟨_, call, clean_of_decoding others (.single call) 2⟩

end DectNrp
