import DectNrp.CodeblockSegmentation
import DectNrp.Octets

namespace DectNrp

/-!
# Channel coding of the transport block

A transport block is split into code blocks.  The transmitter encodes as many
blocks as are needed for a minimum number of coded bits, the receiver decodes
as many blocks as fit into a maximum number of soft bits, and both are called
repeatedly for one transport block.

Turbo coding, rate matching, scrambling and checksums belong to a library
outside of the repository and are parameters here.  All counters stay below
the number of coded bits, so that natural numbers stand for 32-bit words.
-/

/-- Consecutive coded bits that belong to one code block. -/
structure CodedBits where
  start : Nat
  size : Nat
  deriving Repr, DecidableEq

/-- Library routines of the transmitter. -/
structure TurboEncoder (TxBuffer Parity : Type) where
  /--
  Turbo encoding of the systematic bytes.  The registers of the checksums, one
  of which runs over all blocks, are part of the parity.
  -/
  tcodEncode :
    (systematic : Memory) → Parity → (cblenIdx : Nat) →
      (cbCrc lastCb : Bool) → Memory × Parity
  /-- Rate matching to a byte and bit offset of the coded bits. -/
  rmTurboTx :
    TxBuffer → Memory → Parity → (eBits : Memory) →
      (byteOffset cblenIdx nE bitOffset rv : Nat) →
        Option (TxBuffer × Memory)
  /-- Scrambling of coded bits at an offset. -/
  scrambling : (eBits : Memory) → (nE offset : Nat) → Memory

/-- Buffers and counters of the transmitter. -/
structure PdcEncoderState (TxBuffer Parity : Type) where
  bufferB : Nat → TxBuffer
  cSystematic : Memory
  cParity : Parity
  eBits : Memory
  cbIdx : Nat
  rp : Nat
  wp : Nat
  /-- Coded bits of every block so far, in the order of writing. -/
  written : List CodedBits

section

variable {TxBuffer Parity : Type}

/--
Number of coded bits the transmitter writes for a code block.  The quotient of
the source has single precision, which rounds up to the same number as long as
there are at most `2 ^ 24` symbols.
-/
def encodedSize
    (cbSegm : CbSegm)
    (Qm nofEBits cbIdx : Nat) :
    Nat :=
  let Gp := nofEBits / Qm
  let gamma := if 0 < cbSegm.C then Gp % cbSegm.C else Gp
  if cbIdx ≤ cbSegm.C - gamma - 1 then
    Qm * (Gp / cbSegm.C)
  else
    -- `ceilf((float)Gp / C)`
    Qm * ((Gp + cbSegm.C - 1) / cbSegm.C)

/-- Number of transport block bits that the transmitter puts into a code block. -/
def encodedRlen
    (cbSegm : CbSegm)
    (cbIdx : Nat) :
    Nat :=
  if 1 < cbSegm.C then cbSegm.cbLen cbIdx - 24 else cbSegm.cbLen cbIdx

/-- Turbo encoding, which is skipped for retransmissions. -/
def turboEncode
    (library : TurboEncoder TxBuffer Parity)
    (cbSegm : CbSegm)
    (rv : Nat)
    (data : Memory)
    (state : PdcEncoderState TxBuffer Parity) :
    Memory × Parity :=
  if rv = 0 then
    let lastCb := ¬ state.cbIdx < cbSegm.C - 1
    let rlen := encodedRlen cbSegm state.cbIdx
    -- the last block leaves room for the checksum of the transport block
    let copied := if lastCb then rlen - 24 else rlen
    library.tcodEncode
      (state.cSystematic.write 0
        (data.window (state.rp / 8) (copied / 8)))
      state.cParity (cbSegm.cbLenIdx state.cbIdx) (1 < cbSegm.C) lastCb
  else
    (state.cSystematic, state.cParity)

/-- One iteration of the loop over the code blocks. -/
def encodeCodeblock
    (library : TurboEncoder TxBuffer Parity)
    (cbSegm : CbSegm)
    (Qm rv nofEBits : Nat)
    (data : Memory)
    (state : PdcEncoderState TxBuffer Parity) :
    Checked (PdcEncoderState TxBuffer Parity) :=
  let nE := encodedSize cbSegm Qm nofEBits state.cbIdx
  let (cSystematic, cParity) := turboEncode library cbSegm rv data state
  match library.rmTurboTx (state.bufferB state.cbIdx) cSystematic cParity
      state.eBits (state.wp / 8) (cbSegm.cbLenIdx state.cbIdx) nE
      (state.wp % 8) rv with
  | none => .error (.assertion "Error in rate matching")
  | some (buffer, eBits) =>
      .ok {
        bufferB := Function.update state.bufferB state.cbIdx buffer
        cSystematic := cSystematic
        cParity := cParity
        eBits := library.scrambling eBits nE state.wp
        cbIdx := state.cbIdx + 1
        rp := state.rp + encodedRlen cbSegm state.cbIdx
        wp := state.wp + nE
        written := state.written ++ [⟨state.wp, nE⟩]
      }

/-- Iterate until enough coded bits are written; `none` if the fuel runs out. -/
def encodeLoop
    (library : TurboEncoder TxBuffer Parity)
    (cbSegm : CbSegm)
    (Qm rv nofEBits : Nat)
    (data : Memory)
    (nofDBitsMinimum : Nat) :
    Nat →
      PdcEncoderState TxBuffer Parity →
        Checked (Option (PdcEncoderState TxBuffer Parity))
  | 0, _ => .ok none
  | fuel + 1, state =>
      if state.wp < nofDBitsMinimum then do
        let state ←
          encodeCodeblock library cbSegm Qm rv nofEBits data state
        encodeLoop library cbSegm Qm rv nofEBits data nofDBitsMinimum
          fuel state
      else
        .ok (some state)

/-- Encode code blocks until enough coded bits are written. -/
def pdcEncodeCodeblocks
    (library : TurboEncoder TxBuffer Parity)
    (maxCb : Nat)
    (cbSegm : CbSegm)
    (Qm rv nofEBits : Nat)
    (data : Memory)
    (nofDBitsMinimum fuel : Nat)
    (state : PdcEncoderState TxBuffer Parity) :
    Checked (Option (PdcEncoderState TxBuffer Parity)) := do
  dectnrpAssert (cbSegm.F = 0) "Filler bits not supported"
  dectnrpAssert (cbSegm.C ≤ maxCb) "Number of CBs exceeds maximum"
  dectnrpAssert (Qm ≠ 0) "Invalid Qm"
  encodeLoop library cbSegm Qm rv nofEBits data nofDBitsMinimum fuel
    state

/-- Encode a part of the transport block, at most all of its coded bits. -/
def encodeTb
    (library : TurboEncoder TxBuffer Parity)
    (maxCb : Nat)
    (cbSegm : CbSegm)
    (Qm rv G : Nat)
    (data : Memory)
    (nofBitsMinimum fuel : Nat)
    (state : PdcEncoderState TxBuffer Parity) :
    Checked (Option (PdcEncoderState TxBuffer Parity)) :=
  pdcEncodeCodeblocks library maxCb cbSegm Qm rv G data
    (min nofBitsMinimum G) fuel state

/-- Counters that are reset for every transmission of a transport block. -/
def PdcEncoderState.fresh
    (state : PdcEncoderState TxBuffer Parity) :
    PdcEncoderState TxBuffer Parity :=
  { state with cbIdx := 0, rp := 0, wp := 0, written := [] }

end

/-- The two checksums of the decoder. -/
inductive PdcCrc where
  | cb
  | tb
  deriving Repr, DecidableEq

/-- Soft buffer of one transport block over all its transmissions. -/
structure SoftbufferRx (SoftBits : Type) where
  maxCb : Nat
  bufferF : Nat → SoftBits
  data : Nat → Memory
  cbCrc : Nat → Bool
  tbCrc : Bool

/--
Library routines of the receiver for the configured width of the soft bits.
All of them are arbitrary functions of their inputs, except that resetting the
flags of the soft buffer clears the flags of the given code blocks and changes
nothing else.
-/
structure TurboDecoder (EBits SoftBits Tdec : Type) where
  /-- Limit of the library on the number of code blocks. -/
  maxCodeblocks : Nat
  /-- Number of iterations of the turbo decoder. -/
  maxIterations : Nat
  descramble : EBits → (rp nE2 : Nat) → EBits
  rmTurboRx :
    EBits → (rp : Nat) → SoftBits → (nE2 cbLenIdx rv : Nat) →
      Option SoftBits
  tdecNewCb : Tdec → (cbLen : Nat) → Tdec
  /-- One iteration, with the hard decision of every byte of the block. -/
  tdecIteration : Tdec → SoftBits → Tdec × (Nat → UInt8)
  crcChecksumByte : PdcCrc → List UInt8 → (len : Nat) → UInt32
  crcMatchByte : PdcCrc → List UInt8 → (tbs : Nat) → Bool
  resetCbCrc :
    SoftbufferRx SoftBits → (nofCb : Nat) → SoftbufferRx SoftBits
  resetCbCrc_cbCrc :
    ∀ softbuffer nofCb cbIdx,
      cbIdx < nofCb →
        (resetCbCrc softbuffer nofCb).cbCrc cbIdx = false
  resetCbCrc_other :
    ∀ softbuffer nofCb cbIdx,
      nofCb ≤ cbIdx →
        (resetCbCrc softbuffer nofCb).cbCrc cbIdx =
          softbuffer.cbCrc cbIdx
  resetCbCrc_blocks :
    ∀ softbuffer nofCb,
      (resetCbCrc softbuffer nofCb).maxCb = softbuffer.maxCb ∧
      (resetCbCrc softbuffer nofCb).bufferF = softbuffer.bufferF ∧
      (resetCbCrc softbuffer nofCb).data = softbuffer.data

/-- Buffers and counters of the receiver. -/
structure PdcDecoderState (EBits SoftBits Tdec : Type) where
  softbuffer : SoftbufferRx SoftBits
  eBits : EBits
  data : Memory
  tdec : Tdec
  cbIdx : Nat
  wp : Nat
  /-- Coded bits of every block so far, in the order of reading. -/
  read : List CodedBits

/-- Fewest iterations of the turbo decoder before the checksum is trusted. -/
def pdschMinTdecIters : Nat := 2

section

variable {EBits SoftBits Tdec : Type}

/-- Coded bits that the receiver reads for a code block. -/
def decodedBits
    (cbSegm : CbSegm)
    (Qm nofEBits cbIdx : Nat) :
    CodedBits :=
  let Gp := nofEBits / Qm
  let gamma := if 0 < cbSegm.C then Gp % cbSegm.C else Gp
  let nE := Qm * (Gp / cbSegm.C)
  if cbSegm.C - gamma < cbIdx then
    let nE2 := nE + Qm
    ⟨(cbSegm.C - gamma) * nE + (cbIdx - (cbSegm.C - gamma)) * nE2, nE2⟩
  else
    ⟨cbIdx * nE, nE⟩

/-- Octets that the checksum of a code block is computed of. -/
def crcLen (cbSegm : CbSegm) (cbIdx : Nat) : Nat :=
  if 1 < cbSegm.C then cbSegm.cbLen cbIdx else cbSegm.tbs + 24

/-- Checksum that protects a code block. -/
def crcPtr (cbSegm : CbSegm) : PdcCrc :=
  if 1 < cbSegm.C then .cb else .tb

/-- Checksum of the code block that was last written to `data[wp / 8]`. -/
def codeblockChecksum
    (library : TurboDecoder EBits SoftBits Tdec)
    (cbSegm : CbSegm)
    (cbIdx wp : Nat)
    (data : Memory) :
    UInt32 :=
  library.crcChecksumByte (crcPtr cbSegm)
    (data.window (wp / 8) ((crcLen cbSegm cbIdx + 7) / 8))
    (crcLen cbSegm cbIdx)

/-- Run the turbo decoder on the current block until its checksum is correct. -/
def tdecLoop
    (library : TurboDecoder EBits SoftBits Tdec)
    (cbSegm : CbSegm) :
    (remaining cbNoi : Nat) →
      PdcDecoderState EBits SoftBits Tdec →
        PdcDecoderState EBits SoftBits Tdec
  | remaining, cbNoi, state =>
      let (tdec, decision) :=
        library.tdecIteration state.tdec
          (state.softbuffer.bufferF state.cbIdx)
      let data :=
        state.data.write (state.wp / 8)
          ((List.range (cbSegm.cbLen state.cbIdx / 8)).map decision)
      let cbNoi := cbNoi + 1
      if codeblockChecksum library cbSegm state.cbIdx state.wp data = 0 ∧
          pdschMinTdecIters ≤ cbNoi then
        { state with
          tdec := tdec
          data := data
          softbuffer := { state.softbuffer with
            cbCrc :=
              Function.update state.softbuffer.cbCrc state.cbIdx true } }
      else
        match remaining with
        | 0 => { state with tdec := tdec, data := data }
        | remaining + 1 =>
            tdecLoop library cbSegm remaining cbNoi
              { state with tdec := tdec, data := data }

/-- Rate matching and turbo decoding of a block whose checksum is missing. -/
def decodeUnchecked
    (library : TurboDecoder EBits SoftBits Tdec)
    (cbSegm : CbSegm)
    (rv : Nat)
    (bits : CodedBits)
    (state : PdcDecoderState EBits SoftBits Tdec) :
    Checked (PdcDecoderState EBits SoftBits Tdec) :=
  match library.rmTurboRx state.eBits bits.start
      (state.softbuffer.bufferF state.cbIdx) bits.size
      (cbSegm.cbLenIdx state.cbIdx) rv with
  | none => .error (.assertion "Error in rate matching")
  | some softBits =>
      .ok (tdecLoop library cbSegm (library.maxIterations - 1) 0
        { state with
          softbuffer := { state.softbuffer with
            bufferF :=
              Function.update state.softbuffer.bufferF state.cbIdx
                softBits }
          tdec :=
            library.tdecNewCb state.tdec (cbSegm.cbLen state.cbIdx) })

/-- Copy the bits that an earlier transmission has saved for a block. -/
def copySaved
    (cbSegm : CbSegm)
    (state : PdcDecoderState EBits SoftBits Tdec) :
    PdcDecoderState EBits SoftBits Tdec :=
  { state with
    data :=
      state.data.write (state.wp / 8)
        ((state.softbuffer.data state.cbIdx).window 0
          (cbSegm.rlen state.cbIdx / 8)) }

/-- Blocks whose checksum was correct in an earlier transmission are skipped. -/
def decodeOrCopy
    (library : TurboDecoder EBits SoftBits Tdec)
    (cbSegm : CbSegm)
    (rv : Nat)
    (bits : CodedBits)
    (state : PdcDecoderState EBits SoftBits Tdec) :
    Checked (PdcDecoderState EBits SoftBits Tdec) :=
  if ¬ state.softbuffer.cbCrc state.cbIdx then
    decodeUnchecked library cbSegm rv bits state
  else
    .ok (copySaved cbSegm state)

/-- One iteration of the loop over the code blocks. -/
def decodeCodeblock
    (library : TurboDecoder EBits SoftBits Tdec)
    (cbSegm : CbSegm)
    (Qm rv nofEBits : Nat)
    (state : PdcDecoderState EBits SoftBits Tdec) :
    Checked (PdcDecoderState EBits SoftBits Tdec) := do
  let bits := decodedBits cbSegm Qm nofEBits state.cbIdx
  let state ←
    decodeOrCopy library cbSegm rv bits { state with
      eBits := library.descramble state.eBits bits.start bits.size
      read := state.read ++ [bits] }
  pure { state with
    wp := state.wp + cbSegm.rlen state.cbIdx
    cbIdx := state.cbIdx + 1 }

/-- Loop over the code blocks whose soft bits have all been received. -/
def decodeLoop
    (library : TurboDecoder EBits SoftBits Tdec)
    (cbSegm : CbSegm)
    (Qm rv nofEBits nofDBitsMaximum : Nat) :
    (remaining : Nat) →
      PdcDecoderState EBits SoftBits Tdec →
        Checked (PdcDecoderState EBits SoftBits Tdec)
  | 0, state => .ok state
  | remaining + 1, state => do
      let bits := decodedBits cbSegm Qm nofEBits state.cbIdx
      if nofDBitsMaximum < bits.start + bits.size then
        pure state
      else do
        let state ←
          decodeCodeblock library cbSegm Qm rv nofEBits state
        decodeLoop library cbSegm Qm rv nofEBits nofDBitsMaximum
          remaining state

/-- Save the decoded bits of every block whose checksum was correct. -/
def saveDecoded
    (cbSegm : CbSegm)
    (data : Memory)
    (softbuffer : SoftbufferRx SoftBits) :
    (remaining cbIdx writeOffset : Nat) → SoftbufferRx SoftBits
  | 0, _, _ => softbuffer
  | remaining + 1, cbIdx, writeOffset =>
      let saved :=
        if softbuffer.cbCrc cbIdx then
          { softbuffer with
            data :=
              Function.update softbuffer.data cbIdx
                ((softbuffer.data cbIdx).write 0
                  (data.window (writeOffset / 8)
                    (cbSegm.rlen cbIdx / 8))) }
        else
          softbuffer
      saveDecoded cbSegm data saved remaining (cbIdx + 1)
        (writeOffset + cbSegm.rlen cbIdx)

/-- The overall result after the last code block. -/
def decodeResult
    (library : TurboDecoder EBits SoftBits Tdec)
    (cbSegm : CbSegm)
    (state : PdcDecoderState EBits SoftBits Tdec) :
    Bool × PdcDecoderState EBits SoftBits Tdec :=
  let tbCrc :=
    (List.range cbSegm.C).all (fun cbIdx => state.softbuffer.cbCrc cbIdx)
  let softbuffer := { state.softbuffer with tbCrc := tbCrc }
  if ¬ tbCrc then
    (false, { state with
      softbuffer :=
        saveDecoded cbSegm state.data softbuffer cbSegm.C 0 0 })
  else if cbSegm.C = 1 then
    (true, { state with softbuffer := softbuffer })
  else if library.crcMatchByte .tb
      (state.data.window 0 ((cbSegm.tbs + 24 + 7) / 8)) cbSegm.tbs then
    (true, { state with softbuffer := softbuffer })
  else
    -- false alarm of at least one code block
    (false, { state with
      softbuffer := library.resetCbCrc softbuffer cbSegm.C })

/-- Decode the code blocks whose soft bits have all been received. -/
def pdcDecodeCodeblocks
    (library : TurboDecoder EBits SoftBits Tdec)
    (cbSegm : CbSegm)
    (Qm rv nofEBits nofDBitsMaximum : Nat)
    (state : PdcDecoderState EBits SoftBits Tdec) :
    Checked (Bool × PdcDecoderState EBits SoftBits Tdec) := do
  dectnrpAssert (cbSegm.F = 0) "Filler bits not supported"
  dectnrpAssert (cbSegm.C ≤ state.softbuffer.maxCb)
    "Number of CBs exceeds maximum"
  dectnrpAssert (cbSegm.C ≤ library.maxCodeblocks)
    "Number of CBs exceeds maximum"
  dectnrpAssert (Qm ≠ 0) "Invalid Qm"
  let state ←
    decodeLoop library cbSegm Qm rv nofEBits nofDBitsMaximum
      (cbSegm.C - state.cbIdx) state
  if state.cbIdx = cbSegm.C then
    pure (decodeResult library cbSegm state)
  else
    pure (false, state)

/-- Decode a part of the transport block from the soft bits received so far. -/
def decodeTb
    (library : TurboDecoder EBits SoftBits Tdec)
    (cbSegm : CbSegm)
    (Qm rv G nofBitsMaximum : Nat)
    (state : PdcDecoderState EBits SoftBits Tdec) :
    Checked (Bool × PdcDecoderState EBits SoftBits Tdec) := do
  dectnrpAssert (nofBitsMaximum ≤ G) "Nof bits fed larger G"
  pdcDecodeCodeblocks library cbSegm Qm rv G nofBitsMaximum state

/-- Counters that are reset for every reception of a transport block. -/
def PdcDecoderState.fresh
    (state : PdcDecoderState EBits SoftBits Tdec) :
    PdcDecoderState EBits SoftBits Tdec :=
  { state with cbIdx := 0, wp := 0, read := [] }

end

end DectNrp
