import DectNrp.PdcPartition

namespace DectNrp

/-!
# Soundness of the receiver over retransmissions

The flag of a code block says that its checksum was correct in this or in an
earlier transmission.  In the first case the decoded bits are in the transport
block, in the second case they have been saved.  The saved bits are written
behind the last code block of a transmission that failed, so that they are
missing after a transmission that succeeded or that was left before its last
code block.
-/

/-- First transport block bit of a code block. -/
def blockStart (cbSegm : CbSegm) : Nat → Nat
  | 0 => 0
  | cbIdx + 1 => blockStart cbSegm cbIdx + cbSegm.rlen cbIdx

/-- Bits of a code block in a transport block. -/
def blockOctets
    (cbSegm : CbSegm)
    (data : Memory)
    (cbIdx : Nat) :
    List UInt8 :=
  data.window (blockStart cbSegm cbIdx / 8) (cbSegm.rlen cbIdx / 8)

section

variable {EBits SoftBits Tdec : Type}

/-- Octets that were decoded together with a correct code block checksum. -/
def CodeblockCorrect
    (library : TurboDecoder EBits SoftBits Tdec)
    (cbSegm : CbSegm)
    (cbIdx : Nat)
    (octets : List UInt8) :
    Prop :=
  ∃ checksum : List UInt8,
    checksum.length = 3 ∧
    library.crcChecksumByte .cb (octets ++ checksum)
        (cbSegm.cbLen cbIdx) =
      0

/--
The data handed up passed its checks.  A single code block is checked with the
transport block checksum.  Several code blocks have each been decoded with a
correct checksum of their own, and the transport block checksum matches.
-/
def CrcCorrect
    (library : TurboDecoder EBits SoftBits Tdec)
    (cbSegm : CbSegm)
    (data : Memory) :
    Prop :=
  if cbSegm.C = 1 then
    library.crcChecksumByte .tb
        (data.window 0 ((cbSegm.tbs + 24 + 7) / 8)) (cbSegm.tbs + 24) =
      0
  else
    library.crcMatchByte .tb
        (data.window 0 ((cbSegm.tbs + 24 + 7) / 8)) cbSegm.tbs =
      true ∧
    ∀ cbIdx, cbIdx < cbSegm.C →
      CodeblockCorrect library cbSegm cbIdx
        (blockOctets cbSegm data cbIdx)

/-- A flagged block of the transport block passed its checksum. -/
def BlockCorrect
    (library : TurboDecoder EBits SoftBits Tdec)
    (cbSegm : CbSegm)
    (data : Memory)
    (cbIdx : Nat) :
    Prop :=
  if cbSegm.C = 1 then
    library.crcChecksumByte .tb
        (data.window 0 ((cbSegm.tbs + 24 + 7) / 8)) (cbSegm.tbs + 24) =
      0
  else
    CodeblockCorrect library cbSegm cbIdx
      (blockOctets cbSegm data cbIdx)

/-- A flagged block has been saved with correct bits. -/
def BlockSaved
    (library : TurboDecoder EBits SoftBits Tdec)
    (cbSegm : CbSegm)
    (softbuffer : SoftbufferRx SoftBits)
    (cbIdx : Nat) :
    Prop :=
  cbSegm.C ≠ 1 ∧
    CodeblockCorrect library cbSegm cbIdx
      ((softbuffer.data cbIdx).window 0 (cbSegm.rlen cbIdx / 8))

/-- Every flagged block has been saved. -/
def Saved
    (library : TurboDecoder EBits SoftBits Tdec)
    (cbSegm : CbSegm)
    (softbuffer : SoftbufferRx SoftBits) :
    Prop :=
  ∀ cbIdx, cbIdx < cbSegm.C →
    softbuffer.cbCrc cbIdx = true →
      BlockSaved library cbSegm softbuffer cbIdx

/-- Flags, saved bits and transport block agree during a transmission. -/
structure Consistent
    (library : TurboDecoder EBits SoftBits Tdec)
    (cbSegm : CbSegm)
    (state : PdcDecoderState EBits SoftBits Tdec) :
    Prop where
  inside : state.cbIdx ≤ cbSegm.C
  pointer : state.wp = blockStart cbSegm state.cbIdx
  processed :
    ∀ cbIdx, cbIdx < state.cbIdx →
      state.softbuffer.cbCrc cbIdx = true →
        BlockCorrect library cbSegm state.data cbIdx
  waiting :
    ∀ cbIdx, state.cbIdx ≤ cbIdx → cbIdx < cbSegm.C →
      state.softbuffer.cbCrc cbIdx = true →
        BlockSaved library cbSegm state.softbuffer cbIdx

section

variable {cbSegm : CbSegm}

variable {first second : Nat}

theorem blockStart_mono (ordered : first ≤ second) :
    blockStart cbSegm first ≤ blockStart cbSegm second := by
  induction second, ordered using Nat.le_induction with
  | base => exact le_rfl
  | succ second _ hypothesis => exact hypothesis.trans (Nat.le_add_right _ _)

theorem blockStart_octets
    (octets : ∀ cbIdx, cbSegm.rlen cbIdx % 8 = 0)
    (cbIdx : Nat) :
    blockStart cbSegm cbIdx % 8 = 0 := by
  induction cbIdx with
  | zero => rfl
  | succ cbIdx hypothesis =>
      have blockOctets := octets cbIdx
      rw [blockStart]
      omega

theorem blockStart_stop
    (octets : ∀ cbIdx, cbSegm.rlen cbIdx % 8 = 0)
    (ordered : first < second) :
    blockStart cbSegm first / 8 + cbSegm.rlen first / 8 ≤
      blockStart cbSegm second / 8 := by
  have next : blockStart cbSegm (first + 1) ≤ blockStart cbSegm second :=
    blockStart_mono ordered
  rw [blockStart] at next
  have firstOctets := blockStart_octets octets first
  have sizeOctets := octets first
  omega

theorem blockOctets_write
    (octets : ∀ cbIdx, cbSegm.rlen cbIdx % 8 = 0)
    (ordered : first < second)
    (written : List UInt8)
    (data : Memory) :
    blockOctets cbSegm
        (data.write (blockStart cbSegm second / 8) written) first =
      blockOctets cbSegm data first :=
  Memory.window_write_behind _ _ (blockStart_stop octets ordered)

end

section

variable {library : TurboDecoder EBits SoftBits Tdec}
variable {cbSegm : CbSegm}
variable {Qm rv G : Nat}

theorem codeblockCorrect_of_checksum
    {cbIdx : Nat}
    {data : Memory}
    (severalBlocks : 1 < cbSegm.C)
    (lenOctets : cbSegm.cbLen cbIdx % 8 = 0)
    (lenBound : 40 ≤ cbSegm.cbLen cbIdx)
    (checksum :
      codeblockChecksum library cbSegm cbIdx (blockStart cbSegm cbIdx)
          data =
        0) :
    CodeblockCorrect library cbSegm cbIdx (blockOctets cbSegm data cbIdx) := by
  have size : (cbSegm.cbLen cbIdx + 7) / 8 = cbSegm.rlen cbIdx / 8 + 3 := by
    rw [CbSegm.rlen, if_neg severalBlocks.ne']
    omega
  refine ⟨data.window (blockStart cbSegm cbIdx / 8 + cbSegm.rlen cbIdx / 8) 3,
    Memory.window_length _ _ _, ?_⟩
  simp only [codeblockChecksum, crcPtr, crcLen, severalBlocks,
    ↓reduceIte, size, Memory.window_add] at checksum
  exact checksum

theorem blockCorrect_of_checksum
    {cbIdx : Nat}
    {data : Memory}
    (inside : cbIdx < cbSegm.C)
    (lenOctets : cbSegm.cbLen cbIdx % 8 = 0)
    (lenBound : 40 ≤ cbSegm.cbLen cbIdx)
    (checksum :
      codeblockChecksum library cbSegm cbIdx (blockStart cbSegm cbIdx)
          data =
        0) :
    BlockCorrect library cbSegm data cbIdx := by
  unfold BlockCorrect
  split
  · rename_i singleBlock
    have first : cbIdx = 0 := by omega
    subst first
    simpa [codeblockChecksum, crcPtr, crcLen, singleBlock, blockStart]
      using checksum
  · exact codeblockCorrect_of_checksum (by omega) lenOctets lenBound checksum

/--
The iterations of the turbo decoder overwrite the current block and set its
flag if the checksum of the overwritten block is correct.
-/
theorem tdecLoop_spec
    (remaining cbNoi : Nat)
    (state : PdcDecoderState EBits SoftBits Tdec) :
    (∃ octets : List UInt8,
      octets.length = cbSegm.cbLen state.cbIdx / 8 ∧
      (tdecLoop library cbSegm remaining cbNoi state).data =
        state.data.write (state.wp / 8) octets) ∧
    ((tdecLoop library cbSegm remaining cbNoi state).softbuffer =
        state.softbuffer ∨
      ((tdecLoop library cbSegm remaining cbNoi state).softbuffer =
          { state.softbuffer with
            cbCrc :=
              Function.update state.softbuffer.cbCrc state.cbIdx true } ∧
        codeblockChecksum library cbSegm state.cbIdx state.wp
            (tdecLoop library cbSegm remaining cbNoi state).data =
          0)) := by
  induction remaining generalizing cbNoi state with
  | zero =>
      unfold tdecLoop
      dsimp only
      split
      · rename_i stop
        exact ⟨⟨_, by simp, rfl⟩, Or.inr ⟨rfl, stop.1⟩⟩
      · exact ⟨⟨_, by simp, rfl⟩, Or.inl rfl⟩
  | succ remaining hypothesis =>
      unfold tdecLoop
      dsimp only
      split
      · rename_i stop
        exact ⟨⟨_, by simp, rfl⟩, Or.inr ⟨rfl, stop.1⟩⟩
      · obtain ⟨⟨octets, size, written⟩, flags⟩ :=
          hypothesis (cbNoi + 1) { state with
            tdec := (library.tdecIteration state.tdec
              (state.softbuffer.bufferF state.cbIdx)).1
            data := state.data.write (state.wp / 8)
              ((List.range (cbSegm.cbLen state.cbIdx / 8)).map
                (library.tdecIteration state.tdec
                  (state.softbuffer.bufferF state.cbIdx)).2) }
        refine ⟨⟨octets, size, ?_⟩, flags⟩
        rw [written]
        exact Memory.write_overwrite _ (by simpa using size.symm)

variable {before after : PdcDecoderState EBits SoftBits Tdec}

/-- What decoding or copying a block changes. -/
theorem decodeOrCopy_spec
    {bits : CodedBits}
    (decoded : decodeOrCopy library cbSegm rv bits before = .ok after) :
    (∃ octets : List UInt8,
      after.data = before.data.write (before.wp / 8) octets ∧
      (before.softbuffer.cbCrc before.cbIdx = true →
        octets =
          (before.softbuffer.data before.cbIdx).window 0
            (cbSegm.rlen before.cbIdx / 8))) ∧
    after.softbuffer.data = before.softbuffer.data ∧
    (∀ cbIdx, cbIdx ≠ before.cbIdx →
      after.softbuffer.cbCrc cbIdx = before.softbuffer.cbCrc cbIdx) ∧
    (before.softbuffer.cbCrc before.cbIdx = false →
      after.softbuffer.cbCrc before.cbIdx = true →
        codeblockChecksum library cbSegm before.cbIdx before.wp
            after.data =
          0) := by
  unfold decodeOrCopy at decoded
  split at decoded
  · rename_i unflagged
    have unchecked : before.softbuffer.cbCrc before.cbIdx = false := by
      simpa using unflagged
    unfold decodeUnchecked at decoded
    split at decoded
    · cases decoded
    · rename_i softBits _
      cases decoded
      obtain ⟨⟨octets, _, written⟩, flags⟩ :=
        @tdecLoop_spec EBits SoftBits Tdec library cbSegm
          (library.maxIterations - 1) 0 { before with
            softbuffer := { before.softbuffer with
              bufferF :=
                Function.update before.softbuffer.bufferF
                  before.cbIdx softBits }
            tdec := library.tdecNewCb before.tdec (cbSegm.cbLen before.cbIdx) }
      refine ⟨⟨octets, written, fun flagged => ?_⟩, ?_, ?_, ?_⟩
      · exact absurd (unchecked.symm.trans flagged) (by simp)
      · rcases flags with flags | ⟨flags, _⟩ <;> rw [flags]
      · intro cbIdx other
        rcases flags with flags | ⟨flags, _⟩ <;> rw [flags]
        exact Function.update_of_ne other _ _
      · intro _ flagged
        rcases flags with flags | ⟨_, checksum⟩
        · rw [flags] at flagged
          exact absurd (unchecked.symm.trans flagged) (by simp)
        · exact checksum
  · rename_i notUnflagged
    have flagged : before.softbuffer.cbCrc before.cbIdx = true := by
      simpa using notUnflagged
    cases decoded
    refine ⟨⟨_, rfl, fun _ => rfl⟩, rfl, fun _ _ => rfl, ?_⟩
    intro unflagged
    exact absurd (flagged.symm.trans unflagged) (by simp)

/-- A block that lies before the written one stays correct. -/
theorem BlockCorrect.write
    {first second : Nat}
    {data : Memory}
    (correct : BlockCorrect library cbSegm data first)
    (octets : ∀ cbIdx, cbSegm.rlen cbIdx % 8 = 0)
    (ordered : first < second)
    (inside : second < cbSegm.C)
    (written : List UInt8) :
    BlockCorrect library cbSegm
      (data.write (blockStart cbSegm second / 8) written) first := by
  have severalBlocks : cbSegm.C ≠ 1 := by omega
  rw [BlockCorrect, if_neg severalBlocks] at correct ⊢
  rwa [blockOctets_write octets ordered]

/-- Decoding a block keeps flags, saved bits and transport block in agreement. -/
theorem Consistent.codeblock
    (consistent : Consistent library cbSegm before)
    (octets : ∀ cbIdx, cbSegm.cbLen cbIdx % 8 = 0 ∧ 40 ≤ cbSegm.cbLen cbIdx)
    (notLast : before.cbIdx < cbSegm.C)
    (decoded : decodeCodeblock library cbSegm Qm rv G before = .ok after) :
    Consistent library cbSegm after := by
  have rlenOctets : ∀ cbIdx, cbSegm.rlen cbIdx % 8 = 0 := by
    intro cbIdx
    have lenOctets := octets cbIdx
    unfold CbSegm.rlen
    split <;> omega
  obtain ⟨nextIdx, nextWp, _⟩ := decodeCodeblock_counters decoded
  obtain ⟨state, blockDecoded, result⟩ := Checked.bind_eq_ok.mp decoded
  cases result
  obtain ⟨⟨written, dataWritten, copied⟩, sameSaved, sameFlags,
    checked⟩ := decodeOrCopy_spec blockDecoded
  dsimp only at nextIdx nextWp dataWritten copied sameSaved
  dsimp only at sameFlags checked
  rw [consistent.pointer] at dataWritten checked
  refine ⟨?_, ?_, ?_, ?_⟩
  · dsimp only
    omega
  · dsimp only
    rw [nextWp, nextIdx, consistent.pointer]
    rfl
  · intro cbIdx earlier flagged
    dsimp only at earlier flagged ⊢
    rw [nextIdx] at earlier
    rcases Nat.lt_or_ge cbIdx before.cbIdx with processed | current
    · -- blocks in front of the current one are not overwritten
      rw [sameFlags cbIdx processed.ne] at flagged
      rw [dataWritten]
      exact (consistent.processed cbIdx processed flagged).write
        rlenOctets processed notLast written
    · have sameIdx : cbIdx = before.cbIdx := by omega
      subst sameIdx
      by_cases alreadyFlagged : before.softbuffer.cbCrc before.cbIdx = true
      · -- the saved bits are copied
        obtain ⟨severalBlocks, saved⟩ :=
          consistent.waiting _ le_rfl notLast alreadyFlagged
        rw [BlockCorrect, if_neg severalBlocks, dataWritten,
          copied alreadyFlagged]
        have size : ((before.softbuffer.data before.cbIdx).window 0
            (cbSegm.rlen before.cbIdx / 8)).length =
            cbSegm.rlen before.cbIdx / 8 :=
          Memory.window_length _ _ _
        unfold blockOctets
        have copy :=
          Memory.window_write (blockStart cbSegm before.cbIdx / 8)
            ((before.softbuffer.data before.cbIdx).window 0
              (cbSegm.rlen before.cbIdx / 8)) before.data
        rw [size] at copy
        rwa [copy]
      · exact blockCorrect_of_checksum notLast (octets _).1 (octets _).2
          (checked (by simpa using alreadyFlagged) flagged)
  · intro cbIdx later inside flagged
    dsimp only at later flagged ⊢
    rw [nextIdx] at later
    rw [sameFlags cbIdx (by omega)] at flagged
    have saved := consistent.waiting cbIdx (by omega) inside flagged
    rwa [BlockSaved, sameSaved]

/-- The loop keeps flags, saved bits and transport block in agreement. -/
theorem Consistent.loop
    {nofDBitsMaximum remaining : Nat}
    (consistent : Consistent library cbSegm before)
    (octets : ∀ cbIdx, cbSegm.cbLen cbIdx % 8 = 0 ∧ 40 ≤ cbSegm.cbLen cbIdx)
    (blocksLeft : before.cbIdx + remaining ≤ cbSegm.C)
    (returned :
      decodeLoop library cbSegm Qm rv G nofDBitsMaximum remaining
          before =
        .ok after) :
    Consistent library cbSegm after := by
  induction remaining generalizing before with
  | zero =>
      cases returned
      exact consistent
  | succ remaining hypothesis =>
      rw [decodeLoop] at returned
      split at returned
      · cases returned
        exact consistent
      · obtain ⟨state, decoded, returned⟩ := Checked.bind_eq_ok.mp returned
        have nextIdx := (decodeCodeblock_counters decoded).1
        exact hypothesis
          (consistent.codeblock octets (by omega) decoded) (by omega)
          returned

theorem decodeLoop_saved
    {nofDBitsMaximum remaining : Nat}
    (returned :
      decodeLoop library cbSegm Qm rv G nofDBitsMaximum remaining
          before =
        .ok after) :
    after.softbuffer.data = before.softbuffer.data := by
  induction remaining generalizing before with
  | zero =>
      cases returned
      rfl
  | succ remaining hypothesis =>
      rw [decodeLoop] at returned
      split at returned
      · cases returned
        rfl
      · obtain ⟨state, decoded, returned⟩ := Checked.bind_eq_ok.mp returned
        rw [hypothesis returned]
        obtain ⟨processed, blockDecoded, result⟩ :=
          Checked.bind_eq_ok.mp decoded
        cases result
        exact (decodeOrCopy_spec blockDecoded).2.1

/--
Saving keeps the flags, copies the bits of flagged blocks from `cbIdx` on and
leaves the other saved bits alone.
-/
theorem saveDecoded_spec
    (data : Memory)
    (softbuffer : SoftbufferRx SoftBits)
    (remaining cbIdx : Nat) :
    (saveDecoded cbSegm data softbuffer remaining cbIdx
        (blockStart cbSegm cbIdx)).cbCrc = softbuffer.cbCrc ∧
    (∀ earlier, earlier < cbIdx →
      (saveDecoded cbSegm data softbuffer remaining cbIdx
          (blockStart cbSegm cbIdx)).data earlier =
        softbuffer.data earlier) ∧
    (∀ saved, cbIdx ≤ saved → saved < cbIdx + remaining →
      softbuffer.cbCrc saved = true →
        ((saveDecoded cbSegm data softbuffer remaining cbIdx
            (blockStart cbSegm cbIdx)).data saved).window 0
            (cbSegm.rlen saved / 8) =
          blockOctets cbSegm data saved) := by
  induction remaining generalizing softbuffer cbIdx with
  | zero => exact ⟨rfl, fun _ _ => rfl, fun saved _ _ => by omega⟩
  | succ remaining hypothesis =>
      rw [saveDecoded, show blockStart cbSegm cbIdx + cbSegm.rlen cbIdx =
          blockStart cbSegm (cbIdx + 1) from rfl]
      by_cases current : softbuffer.cbCrc cbIdx = true
      · rw [if_pos current]
        obtain ⟨flags, unchanged, copied⟩ :=
          hypothesis { softbuffer with
            data :=
              Function.update softbuffer.data cbIdx
                ((softbuffer.data cbIdx).write 0
                  (blockOctets cbSegm data cbIdx)) } (cbIdx + 1)
        refine ⟨flags, fun earlier before => ?_,
          fun saved notBefore inside flagged => ?_⟩
        · refine (unchanged earlier (by omega)).trans ?_
          exact Function.update_of_ne before.ne _ _
        · rcases Nat.eq_or_lt_of_le notBefore with rfl | later
          · refine (congrArg
              (fun memory : Memory => memory.window 0 (cbSegm.rlen cbIdx / 8))
              (unchanged cbIdx (Nat.lt_succ_self _))).trans ?_
            have size : (blockOctets cbSegm data cbIdx).length =
                cbSegm.rlen cbIdx / 8 :=
              Memory.window_length _ _ _
            have copy :=
              Memory.window_write 0 (blockOctets cbSegm data cbIdx)
                (softbuffer.data cbIdx)
            rw [size] at copy
            simpa using copy
          · exact copied saved later (by omega) flagged
      · rw [if_neg current]
        obtain ⟨flags, unchanged, copied⟩ := hypothesis softbuffer (cbIdx + 1)
        refine ⟨flags, fun earlier before =>
          unchanged earlier (by omega),
          fun saved notBefore inside flagged => ?_⟩
        rcases Nat.eq_or_lt_of_le notBefore with rfl | later
        · exact absurd flagged current
        · exact copied saved later (by omega) flagged

theorem decodeResult_flag
    {crcStatus : Bool}
    (result : decodeResult library cbSegm before = (crcStatus, after))
    {cbIdx : Nat}
    (inside : cbIdx < cbSegm.C)
    (flagged : after.softbuffer.cbCrc cbIdx = true) :
    before.softbuffer.cbCrc cbIdx = true := by
  unfold decodeResult at result
  dsimp only at result
  split_ifs at result
  · cases result
    exact flagged
  · cases result
    exact flagged
  · cases result
    exact absurd
      ((library.resetCbCrc_cbCrc _ _ cbIdx inside).symm.trans flagged)
      (by simp)
  · cases result
    obtain ⟨flags, _⟩ :=
      @saveDecoded_spec SoftBits cbSegm before.data
        { before.softbuffer with
          tbCrc :=
            (List.range cbSegm.C).all
              (fun cbIdx => before.softbuffer.cbCrc cbIdx) }
        cbSegm.C 0
    exact (congrFun flags cbIdx).symm.trans flagged

theorem Consistent.saved_of_failure
    (consistent : Consistent library cbSegm before)
    (last : before.cbIdx = cbSegm.C)
    (result : decodeResult library cbSegm before = (false, after)) :
    Saved library cbSegm after.softbuffer := by
  unfold decodeResult at result
  dsimp only at result
  split_ifs at result with allFlagged single
  · cases result
  · cases result
  · -- a false alarm clears all flags
    cases result
    intro cbIdx inside flagged
    have cleared :=
      library.resetCbCrc_cbCrc { before.softbuffer with
        tbCrc :=
          (List.range cbSegm.C).all
            (fun cbIdx => before.softbuffer.cbCrc cbIdx) }
        cbSegm.C cbIdx inside
    exact absurd (cleared.symm.trans flagged) (by simp)
  · -- a checksum is missing, the blocks with a correct one are saved
    cases result
    intro cbIdx inside flagged
    obtain ⟨flags, _, copied⟩ :=
      @saveDecoded_spec SoftBits cbSegm before.data
        { before.softbuffer with
          tbCrc :=
            (List.range cbSegm.C).all
              (fun cbIdx => before.softbuffer.cbCrc cbIdx) }
        cbSegm.C 0
    have wasFlagged : before.softbuffer.cbCrc cbIdx = true :=
      (congrFun flags cbIdx).symm.trans flagged
    have severalBlocks : cbSegm.C ≠ 1 := by
      intro single
      have first : cbIdx = 0 := by omega
      subst first
      exact allFlagged (by simp [single, wasFlagged])
    have correct := consistent.processed cbIdx (by omega) wasFlagged
    rw [BlockCorrect, if_neg severalBlocks] at correct
    have copy := copied cbIdx (Nat.zero_le _) (by omega) wasFlagged
    refine ⟨severalBlocks, ?_⟩
    rw [← copy] at correct
    exact correct

theorem Consistent.crcCorrect_of_success
    (consistent : Consistent library cbSegm before)
    (last : before.cbIdx = cbSegm.C)
    (result : decodeResult library cbSegm before = (true, after)) :
    CrcCorrect library cbSegm after.data := by
  have sameData := (decodeResult_counters result).2.2.2
  rw [sameData]
  unfold decodeResult at result
  dsimp only at result
  split_ifs at result with allFlagged single matched
  · have flagged : before.softbuffer.cbCrc 0 = true := by
      simpa [single] using allFlagged
    have correct := consistent.processed 0 (by omega) flagged
    rw [BlockCorrect, if_pos single] at correct
    rwa [CrcCorrect, if_pos single]
  · rw [CrcCorrect, if_neg single]
    refine ⟨matched, fun cbIdx inside => ?_⟩
    have flagged : before.softbuffer.cbCrc cbIdx = true :=
      List.all_eq_true.mp allFlagged cbIdx (List.mem_range.mpr inside)
    have correct := consistent.processed cbIdx (by omega) flagged
    rwa [BlockCorrect, if_neg single] at correct
  · cases result
  · cases result

end

end

/-- Reception of one transport block over several transmissions. -/
structure Reception (EBits SoftBits Tdec : Type) where
  decoder : PdcDecoderState EBits SoftBits Tdec
  /-- Redundancy version of the current transmission. -/
  rv : Nat
  /-- Result of the latest call for the current transmission. -/
  decodeTbStatusLatest : Bool
  /-- Flags of the soft buffer when the current transmission began. -/
  flagsBefore : Nat → Bool

section

variable {EBits SoftBits Tdec : Type}
variable {library : TurboDecoder EBits SoftBits Tdec}
variable {cbSegm : CbSegm}
variable {Qm G : Nat}

/-- The soft buffer has been reset and nothing was received since. -/
structure Reception.Initial
    (cbSegm : CbSegm)
    (reception : Reception EBits SoftBits Tdec) :
    Prop where
  counters : reception.decoder = reception.decoder.fresh
  status : reception.decodeTbStatusLatest = false
  flags :
    ∀ cbIdx, cbIdx < cbSegm.C →
      reception.decoder.softbuffer.cbCrc cbIdx = false
  flagsBefore :
    reception.flagsBefore = reception.decoder.softbuffer.cbCrc

/--
The current transmission failed behind its last code block, or it set no
flag.
-/
def Reception.Resumable
    (cbSegm : CbSegm)
    (reception : Reception EBits SoftBits Tdec) :
    Prop :=
  (reception.decoder.cbIdx = cbSegm.C ∧
      reception.decodeTbStatusLatest = false) ∨
    ∀ cbIdx, cbIdx < cbSegm.C →
      reception.decoder.softbuffer.cbCrc cbIdx =
        reception.flagsBefore cbIdx

/--
Steps of a process that is kept running between its transmissions, where a
transmission may only follow states with the given property.
-/
inductive ReceptionStep
    (mayFollow : Reception EBits SoftBits Tdec → Prop)
    (library : TurboDecoder EBits SoftBits Tdec)
    (cbSegm : CbSegm)
    (Qm G : Nat) :
    Reception EBits SoftBits Tdec →
      Reception EBits SoftBits Tdec → Prop where
  /-- A new transmission starts with the soft buffer of the last one. -/
  | transmission
      (before : Reception EBits SoftBits Tdec)
      (rv : Nat)
      (data : Memory)
      (tdec : Tdec)
      (follows : mayFollow before) :
      ReceptionStep mayFollow library cbSegm Qm G before {
        decoder := ({ before.decoder with
          data := data
          tdec := tdec } : PdcDecoderState EBits SoftBits Tdec).fresh
        rv := rv
        decodeTbStatusLatest := false
        flagsBefore := before.decoder.softbuffer.cbCrc
      }
  /-- Further soft bits are received and as many blocks as possible decoded. -/
  | decode
      (before : Reception EBits SoftBits Tdec)
      (eBits : EBits)
      (nofBitsMaximum : Nat)
      (crcStatus : Bool)
      (after : PdcDecoderState EBits SoftBits Tdec)
      (returned :
        decodeTb library cbSegm Qm before.rv G nofBitsMaximum
            { before.decoder with eBits := eBits } =
          .ok (crcStatus, after)) :
      ReceptionStep mayFollow library cbSegm Qm G before { before with
        decoder := after
        decodeTbStatusLatest := crcStatus }

/-- What holds of a reception whose transmissions were all resumable. -/
structure Reception.Invariant
    (library : TurboDecoder EBits SoftBits Tdec)
    (cbSegm : CbSegm)
    (reception : Reception EBits SoftBits Tdec) :
    Prop where
  consistent : Consistent library cbSegm reception.decoder
  saved :
    (∀ cbIdx, cbIdx < cbSegm.C →
      reception.flagsBefore cbIdx = true →
        BlockSaved library cbSegm reception.decoder.softbuffer cbIdx) ∨
      (reception.decoder.cbIdx = cbSegm.C ∧
        Saved library cbSegm reception.decoder.softbuffer)
  failed :
    reception.decoder.cbIdx = cbSegm.C →
      reception.decodeTbStatusLatest = false →
        Saved library cbSegm reception.decoder.softbuffer

theorem Reception.Initial.invariant
    {reception : Reception EBits SoftBits Tdec}
    (initial : reception.Initial cbSegm) :
    reception.Invariant library cbSegm := by
  have nothingSaved : Saved library cbSegm reception.decoder.softbuffer := by
    intro cbIdx inside flagged
    exact absurd ((initial.flags cbIdx inside).symm.trans flagged) (by simp)
  have firstIdx : reception.decoder.cbIdx = 0 := by
    rw [initial.counters]
    rfl
  refine ⟨⟨?_, ?_, ?_, ?_⟩, Or.inl ?_, fun _ _ => nothingSaved⟩
  · omega
  · rw [firstIdx, initial.counters]
    rfl
  · intro cbIdx processed
    omega
  · intro cbIdx _ inside flagged
    exact nothingSaved cbIdx inside flagged
  · rw [initial.flagsBefore]
    exact nothingSaved

theorem Reception.Invariant.saved_of_resumable
    {reception : Reception EBits SoftBits Tdec}
    (invariant : reception.Invariant library cbSegm)
    (resumable : reception.Resumable cbSegm) :
    Saved library cbSegm reception.decoder.softbuffer := by
  rcases resumable with ⟨last, failure⟩ | unchanged
  · exact invariant.failed last failure
  · rcases invariant.saved with saved | ⟨_, saved⟩
    · intro cbIdx inside flagged
      exact saved cbIdx inside ((unchanged cbIdx inside).symm.trans flagged)
    · exact saved

/-- A new transmission starts with all flagged blocks saved. -/
theorem Reception.Invariant.transmission
    {before : Reception EBits SoftBits Tdec}
    (invariant : before.Invariant library cbSegm)
    (positive : 0 < cbSegm.C)
    (resumable : before.Resumable cbSegm)
    (rv : Nat)
    (data : Memory)
    (tdec : Tdec) :
    Reception.Invariant library cbSegm {
      decoder := ({ before.decoder with
        data := data
        tdec := tdec } : PdcDecoderState EBits SoftBits Tdec).fresh
      rv := rv
      decodeTbStatusLatest := false
      flagsBefore := before.decoder.softbuffer.cbCrc
    } := by
  have saved := invariant.saved_of_resumable resumable
  refine ⟨⟨Nat.zero_le _, rfl, ?_, ?_⟩, Or.inl saved, ?_⟩
  · intro cbIdx processed
    exact absurd processed (Nat.not_lt_zero _)
  · intro cbIdx _ inside flagged
    exact saved cbIdx inside flagged
  · intro last
    exact absurd last positive.ne

/-- Blocks are as saved as before if the saved bits are the same. -/
theorem BlockSaved.congr
    {first second : SoftbufferRx SoftBits}
    {cbIdx : Nat}
    (saved : BlockSaved library cbSegm first cbIdx)
    (sameData : second.data = first.data) :
    BlockSaved library cbSegm second cbIdx := by
  rwa [BlockSaved, sameData]

theorem decodeResult_success
    {before after : PdcDecoderState EBits SoftBits Tdec}
    (result : decodeResult library cbSegm before = (true, after)) :
    after.softbuffer.data = before.softbuffer.data ∧
      after.softbuffer.cbCrc = before.softbuffer.cbCrc := by
  unfold decodeResult at result
  dsimp only at result
  split_ifs at result
  · cases result
    exact ⟨rfl, rfl⟩
  · cases result
    exact ⟨rfl, rfl⟩
  · cases result
  · cases result

/-- The result keeps counters, flags and transport block in agreement. -/
theorem Consistent.result
    {crcStatus : Bool}
    {before after : PdcDecoderState EBits SoftBits Tdec}
    (consistent : Consistent library cbSegm before)
    (last : before.cbIdx = cbSegm.C)
    (result : decodeResult library cbSegm before = (crcStatus, after)) :
    Consistent library cbSegm after := by
  obtain ⟨sameIdx, sameWp, _, sameData⟩ := decodeResult_counters result
  refine ⟨?_, ?_, ?_, ?_⟩
  · rw [sameIdx]
    exact consistent.inside
  · rw [sameIdx, sameWp]
    exact consistent.pointer
  · intro cbIdx processed flagged
    rw [sameData]
    rw [sameIdx] at processed
    exact consistent.processed cbIdx processed
      (decodeResult_flag result (by omega) flagged)
  · intro cbIdx waiting inside
    omega

/-- A call keeps the invariant of the reception. -/
theorem Reception.Invariant.decode
    {before : Reception EBits SoftBits Tdec}
    (invariant : before.Invariant library cbSegm)
    (octets : ∀ cbIdx, cbSegm.cbLen cbIdx % 8 = 0 ∧ 40 ≤ cbSegm.cbLen cbIdx)
    {eBits : EBits}
    {nofBitsMaximum : Nat}
    {crcStatus : Bool}
    {after : PdcDecoderState EBits SoftBits Tdec}
    (returned :
      decodeTb library cbSegm Qm before.rv G nofBitsMaximum
          { before.decoder with eBits := eBits } =
        .ok (crcStatus, after)) :
    Reception.Invariant library cbSegm { before with
      decoder := after
      decodeTbStatusLatest := crcStatus } := by
  obtain ⟨state, looped, result⟩ := decodeTb_eq_ok returned
  have started :
      Consistent library cbSegm { before.decoder with eBits := eBits } :=
    ⟨invariant.consistent.inside, invariant.consistent.pointer,
      invariant.consistent.processed, invariant.consistent.waiting⟩
  have inside : before.decoder.cbIdx ≤ cbSegm.C := invariant.consistent.inside
  have looping :=
    started.loop octets
      (show before.decoder.cbIdx + (cbSegm.C - before.decoder.cbIdx) ≤
        cbSegm.C by omega) looped
  have sameSaved := decodeLoop_saved looped
  -- behind the last block the loop does nothing
  have idle : before.decoder.cbIdx = cbSegm.C →
      state = { before.decoder with eBits := eBits } := by
    intro last
    have noneLeft : cbSegm.C - before.decoder.cbIdx = 0 := by omega
    dsimp only at looped
    rw [noneLeft] at looped
    exact (Except.ok.inj looped).symm
  rcases result with ⟨last, result⟩ | ⟨notLast, rfl, rfl⟩
  · have lastAfter : after.cbIdx = cbSegm.C :=
      (decodeResult_counters result).1.trans last
    have consistent := looping.result last result
    cases crcStatus with
    | false =>
        have saved := looping.saved_of_failure last result
        exact ⟨consistent, Or.inr ⟨lastAfter, saved⟩, fun _ _ => saved⟩
    | true =>
        obtain ⟨sameData, sameFlags⟩ := decodeResult_success result
        refine ⟨consistent, ?_, fun _ failure => nomatch failure⟩
        rcases invariant.saved with saved | ⟨lastBefore, saved⟩
        · refine Or.inl fun cbIdx inside flagged => ?_
          exact (saved cbIdx inside flagged).congr (sameData.trans sameSaved)
        · refine Or.inr ⟨lastAfter, fun cbIdx inside flagged => ?_⟩
          have same := idle lastBefore
          dsimp only at flagged ⊢
          rw [sameFlags, same] at flagged
          exact (saved cbIdx inside flagged).congr (sameData.trans sameSaved)
  · refine ⟨looping, ?_, fun last => absurd last notLast⟩
    rcases invariant.saved with saved | ⟨lastBefore, _⟩
    · refine Or.inl fun cbIdx inside flagged => ?_
      exact (saved cbIdx inside flagged).congr sameSaved
    · have same := idle lastBefore
      exact absurd (congrArg PdcDecoderState.cbIdx same ▸ lastBefore) notLast

/-- Every run whose transmissions were resumable keeps the invariant. -/
theorem Reception.Invariant.run
    {first last : Reception EBits SoftBits Tdec}
    (invariant : first.Invariant library cbSegm)
    (positive : 0 < cbSegm.C)
    (octets : ∀ cbIdx, cbSegm.cbLen cbIdx % 8 = 0 ∧ 40 ≤ cbSegm.cbLen cbIdx)
    (run :
      Relation.ReflTransGen
        (ReceptionStep (Reception.Resumable cbSegm) library cbSegm Qm G)
        first last) :
    last.Invariant library cbSegm := by
  induction run with
  | refl => exact invariant
  | tail _ step hypothesis =>
      cases step with
      | transmission rv data tdec resumable =>
          exact hypothesis.transmission positive resumable rv data tdec
      | decode eBits nofBitsMaximum crcStatus after returned =>
          exact hypothesis.decode octets returned

/--
Data handed up passed its checks, in every run from a reset soft buffer in
which no transmission follows one that succeeded or that was left with new
flags before its last code block.
-/
theorem decodeTb_sound
    {tbs Z : Nat}
    (nonempty : tbs ≠ 0)
    (validZ : Z = 2048 ∨ Z = 6144)
    (segmented : srsranCbsegmFix tbs Z = some cbSegm)
    {first last : Reception EBits SoftBits Tdec}
    (initial : first.Initial cbSegm)
    (run :
      Relation.ReflTransGen
        (ReceptionStep (Reception.Resumable cbSegm) library cbSegm Qm G)
        first last)
    {eBits : EBits}
    {nofBitsMaximum : Nat}
    {after : PdcDecoderState EBits SoftBits Tdec}
    (returned :
      decodeTb library cbSegm Qm last.rv G nofBitsMaximum
          { last.decoder with eBits := eBits } =
        .ok (true, after)) :
    CrcCorrect library cbSegm after.data := by
  have octets := srsranCbsegmFix_octets nonempty segmented
  have positive := srsranCbsegmFix_C_pos nonempty validZ segmented
  have consistent := (initial.invariant.run positive octets run).consistent
  have inside := consistent.inside
  obtain ⟨state, looped, result⟩ := decodeTb_eq_ok returned
  have started :
      Consistent library cbSegm
        { last.decoder with eBits := eBits } :=
    ⟨consistent.inside, consistent.pointer, consistent.processed,
      consistent.waiting⟩
  have looping :=
    started.loop octets
      (show last.decoder.cbIdx + (cbSegm.C - last.decoder.cbIdx) ≤
        cbSegm.C by omega) looped
  rcases result with ⟨lastIdx, result⟩ | ⟨_, failure, _⟩
  · exact looping.crcCorrect_of_success lastIdx result
  · exact absurd failure (by simp)

end

/--
Library routines for which soft bits are one octet, the decoder repeats this
octet, and only the octet 7 has a correct checksum.
-/
def echoDecoder : TurboDecoder UInt8 UInt8 Unit where
  maxCodeblocks := 1
  maxIterations := 2
  descramble eBits _ _ := eBits
  rmTurboRx eBits _ _ _ _ _ := some eBits
  tdecNewCb tdec _ := tdec
  tdecIteration tdec softBits := (tdec, fun _ => softBits)
  crcChecksumByte _ octets _ := if octets.all (· = 7) then 0 else 1
  crcMatchByte _ octets _ := octets.all (· = 7)
  resetCbCrc softbuffer nofCb := { softbuffer with
    cbCrc := fun cbIdx =>
      if cbIdx < nofCb then false else softbuffer.cbCrc cbIdx }
  resetCbCrc_cbCrc _ _ _ reset := if_pos reset
  resetCbCrc_other _ _ _ kept := if_neg (Nat.not_lt.mpr kept)
  resetCbCrc_blocks _ _ := ⟨rfl, rfl, rfl⟩

/-- Segmentation of a transport block of sixteen bits. -/
def oneBlock : CbSegm where
  F := 0
  C := 1
  K1 := 40
  K2 := 0
  K1Idx := 0
  K2Idx := 0
  C1 := 1
  C2 := 0
  tbs := 16

/-- A soft buffer that has been reset. -/
def resetReception : Reception UInt8 UInt8 Unit where
  decoder := {
    softbuffer := {
      maxCb := 1
      bufferF := fun _ => 0
      data := fun _ _ => 0
      cbCrc := fun _ => false
      tbCrc := false
    }
    eBits := 0
    data := fun _ => 0
    tdec := ()
    cbIdx := 0
    wp := 0
    read := []
  }
  rv := 0
  decodeTbStatusLatest := false
  flagsBefore _ := false

theorem resetReception_initial :
    resetReception.Initial oneBlock :=
  ⟨rfl, rfl, fun _ _ => rfl, rfl⟩

/-- All soft bits of a transmission are received at once. -/
def receiveAll
    (reception : Reception UInt8 UInt8 Unit)
    (eBits : UInt8) :
    Checked (Bool × PdcDecoderState UInt8 UInt8 Unit) :=
  decodeTb echoDecoder oneBlock 1 reception.rv 80 80
    { reception.decoder with eBits := eBits }

/-- The reception after a transmission with the given soft bits. -/
def afterReceiving
    (reception : Reception UInt8 UInt8 Unit)
    (eBits : UInt8)
    (crcStatus : Bool) :
    Reception UInt8 UInt8 Unit :=
  { reception with
    decoder :=
      returnedState reception.decoder (receiveAll reception eBits)
    decodeTbStatusLatest := crcStatus }

/-- The reception when the next transmission begins. -/
def beforeRetransmission
    (reception : Reception UInt8 UInt8 Unit) :
    Reception UInt8 UInt8 Unit where
  decoder := ({ reception.decoder with
    data := fun _ => 1
    tdec := () } : PdcDecoderState UInt8 UInt8 Unit).fresh
  rv := 2
  decodeTbStatusLatest := false
  flagsBefore := reception.decoder.softbuffer.cbCrc

/-- A transmission and the beginning of the next one as steps of a run. -/
theorem receiveAll_run
    {mayFollow : Reception UInt8 UInt8 Unit → Prop}
    {reception : Reception UInt8 UInt8 Unit}
    {eBits : UInt8}
    {crcStatus : Bool}
    (returned : returnedStatus (receiveAll reception eBits) = some crcStatus)
    (follows : mayFollow (afterReceiving reception eBits crcStatus)) :
    Relation.ReflTransGen
      (ReceptionStep mayFollow echoDecoder oneBlock 1 80)
      reception
      (beforeRetransmission (afterReceiving reception eBits crcStatus)) := by
  have received : ReceptionStep mayFollow echoDecoder oneBlock 1 80 reception
      (afterReceiving reception eBits crcStatus) :=
    .decode reception eBits 80 crcStatus _ (eq_ok_of_returnedStatus returned _)
  exact (Relation.ReflTransGen.single received).tail
    (.transmission _ 2 (fun _ => 1) () follows)

/-- A failed transmission is followed by one whose data passed its checks. -/
theorem decodeTb_sound_afterFailure :
    CrcCorrect echoDecoder oneBlock
      (afterReceiving
        (beforeRetransmission (afterReceiving resetReception 9 false))
        7 true).decoder.data :=
  decodeTb_sound (by decide) (Or.inl rfl)
    (show srsranCbsegmFix 16 2048 = some oneBlock by decide +kernel)
    resetReception_initial
    (receiveAll_run (by decide +kernel)
      (Or.inl ⟨by decide +kernel, rfl⟩))
    (eq_ok_of_returnedStatus
      (show returnedStatus
          (receiveAll
            (beforeRetransmission
              (afterReceiving resetReception 9 false)) 7) =
        some true by decide +kernel)
      (beforeRetransmission
        (afterReceiving resetReception 9 false)).decoder)

/--
After a transmission that succeeded, the next one is reported to be correct
although the octets handed up are those of the soft buffer that was never
written.
-/
theorem not_decodeTb_sound_afterSuccess :
    ∃ last after,
      Relation.ReflTransGen
          (ReceptionStep (fun _ => True) echoDecoder oneBlock 1 80)
          resetReception last ∧
        decodeTb echoDecoder oneBlock 1 last.rv 80 80
            { last.decoder with eBits := 9 } =
          .ok (true, after) ∧
        ¬ CrcCorrect echoDecoder oneBlock after.data := by
  refine ⟨beforeRetransmission (afterReceiving resetReception 7 true),
    (afterReceiving
      (beforeRetransmission (afterReceiving resetReception 7 true))
      9 true).decoder, ?_, ?_, ?_⟩
  · exact receiveAll_run (by decide +kernel) trivial
  · exact eq_ok_of_returnedStatus
      (show returnedStatus
          (receiveAll
            (beforeRetransmission
              (afterReceiving resetReception 7 true)) 9) =
        some true by decide +kernel)
      (beforeRetransmission
        (afterReceiving resetReception 7 true)).decoder
  · rw [CrcCorrect, if_pos (show oneBlock.C = 1 from rfl)]
    decide +kernel

end DectNrp
