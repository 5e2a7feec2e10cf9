import DectNrp.BurstStream
import DectNrp.TxPacketQueue

namespace DectNrp

/-!
# Transmit thread of a USRP

The thread sends packets in bursts.  It waits for the packet with the expected
order, starts a burst and sends the packet in chunks.  Before the last chunk it
looks whether the next packet is available and starts soon enough to stay in
the same burst, and fills the gap with zeros.

Every access to a transmit buffer or to the device is one step of the thread,
and the other threads run in between.
-/

namespace Radio

open BurstStream (Metadata Send)

namespace HwUsrp

/-- What the thread is configured with. -/
structure TxConfig where
  /-- Maximum number of samples per call of the device. -/
  sppMax : Nat
  sppMax_pos : 0 < sppMax
  sampRate : Nat
  txBurstLeadingZeroUs : Nat
  notTooManyZeros : sampRate * txBurstLeadingZeroUs / 1000000 ≤ sppMax
  txTimeAdvanceSamples : Nat
  /-- A negative value ends each burst with its packet. -/
  usrpTxGapSamples : Int

def TxConfig.nofPrefixZeros64 (config : TxConfig) : Nat :=
  config.sampRate * config.txBurstLeadingZeroUs / 1000000

/-- The lower half of a number of 64 bits, as a signed number. -/
def int32Cast (value : Int) : Int :=
  value.bmod (2 ^ 32)

/-- A signed number of 32 bits, as an unsigned one. -/
def uint32Cast (value : Int) : Nat :=
  (value % 2 ^ 32).toNat

/-- Local variables of the thread while it transmits a packet. -/
structure Transmission (nofBufferTx : Nat) where
  currentBufferTx : Fin nofBufferTx
  txTimeTa64 : Int
  txLengthSamples : Nat
  txLengthSamplesCnt : Nat

def Transmission.txTimeTaEnd64
    {nofBufferTx : Nat}
    (transmission : Transmission nofBufferTx) :
    Int :=
  transmission.txTimeTa64 + transmission.txLengthSamples

/-- Where the thread is. -/
inductive WorkTx (nofBufferTx : Nat) where
  /-- It waits for the packet with the expected order. -/
  | waiting
  /-- A burst begins. -/
  | starting (nextBufferTx : Fin nofBufferTx)
  /-- At the beginning of the loop over the packets of a burst. -/
  | picking (nextBufferTx : Fin nofBufferTx)
  | sendingFirst (transmission : Transmission nofBufferTx)
  | sendingChunks (transmission : Transmission nofBufferTx)
  /-- It waits for the last samples of the packet. -/
  | completing (transmission : Transmission nofBufferTx)
  /-- Does another packet stay in the burst? -/
  | lookingAhead (transmission : Transmission nofBufferTx)
  | sendingFinal
      (transmission : Transmission nofBufferTx)
      (nextBufferTx : Option (Fin nofBufferTx))
      (usrpTxGapCurrentSamples : Nat)
  | sendingGap
      (transmission : Transmission nofBufferTx)
      (nextBufferTx : Option (Fin nofBufferTx))
      (usrpTxGapCurrentSamples usrpTxGapCurrentSamplesCnt : Nat)
  | releasing
      (transmission : Transmission nofBufferTx)
      (nextBufferTx : Option (Fin nofBufferTx))

end HwUsrp

open HwUsrp

/--
The thread with the buffers, what the device was given, and the packets whose
buffers were given back.
-/
structure HwUsrp (nofBufferTx : Nat) (Sample : Type) where
  handed : Handed nofBufferTx Sample
  txOrderIdExpected : Int
  txMd : Metadata Int
  workTx : WorkTx nofBufferTx
  bursts : List (List (Send Int Sample))
  transmitted : List (Packet Sample)

namespace HwUsrp

variable {nofBufferTx : Nat} {Sample : Type}

/-- The device takes samples with the current metadata. -/
def send
    (system : HwUsrp nofBufferTx Sample)
    (samples : List Sample) :
    HwUsrp nofBufferTx Sample :=
  { system with
    bursts := BurstStream.addSend system.bursts ⟨samples, system.txMd⟩ }

/-- Only the first send of a burst has a time. -/
def updateMetadata
    (system : HwUsrp nofBufferTx Sample) :
    HwUsrp nofBufferTx Sample :=
  { system with
    txMd :=
      { system.txMd with
        startOfBurst := false
        hasTimeSpec := false } }

section Steps

variable [Zero Sample] (config : TxConfig)

/-- Wait for a specific packet to become available. -/
def waitForPacket
    (system : HwUsrp nofBufferTx Sample) :
    HwUsrp nofBufferTx Sample :=
  match system.handed.buffers.getSpecificTxOrderIdIfAvailable
      system.txOrderIdExpected with
  | some nextBufferTx =>
      { system with workTx := .starting nextBufferTx }
  | none => system

/-- A new burst begins, with zeros if there are leading ones. -/
def startBurst
    (nextBufferTx : Fin nofBufferTx)
    (system : HwUsrp nofBufferTx Sample) :
    HwUsrp nofBufferTx Sample :=
  let buffer := system.handed.buffers nextBufferTx
  let txBurstStartTime :=
    buffer.bufferTxMeta.txTime64 - config.txTimeAdvanceSamples -
      config.nofPrefixZeros64
  let system : HwUsrp nofBufferTx Sample := { system with
    txMd :=
      { startOfBurst := true
        endOfBurst := false
        hasTimeSpec := true
        timeSpec := txBurstStartTime }
    workTx := .picking nextBufferTx }
  if config.nofPrefixZeros64 > 0 then
    (system.send (List.replicate config.nofPrefixZeros64 0)).updateMetadata
  else
    system

/-- Read the next order and the length of the packet. -/
def pickUp
    (nextBufferTx : Fin nofBufferTx)
    (system : HwUsrp nofBufferTx Sample) :
    Checked (HwUsrp nofBufferTx Sample) := do
  let buffer := system.handed.buffers nextBufferTx
  let txOrderIdExpected :=
    if buffer.bufferTxMeta.txOrderIdExpectNext < 0 then
      system.txOrderIdExpected + 1
    else
      buffer.bufferTxMeta.txOrderIdExpectNext
  dectnrpAssert (config.sppMax < buffer.txLengthSamples)
    "tx_length_samples too small, reduce spp"
  pure { system with
    txOrderIdExpected := txOrderIdExpected
    workTx := .sendingFirst
      { currentBufferTx := nextBufferTx
        txTimeTa64 :=
          buffer.bufferTxMeta.txTime64 - config.txTimeAdvanceSamples
        txLengthSamples := buffer.txLengthSamples
        txLengthSamplesCnt := 0 } }

/-- Send samples of the packet once the physical layer has written them. -/
def sendSamples
    (transmission : Transmission nofBufferTx)
    (nofSamples : Nat)
    (next : Transmission nofBufferTx → WorkTx nofBufferTx)
    (system : HwUsrp nofBufferTx Sample) :
    Checked (HwUsrp nofBufferTx Sample) := do
  let buffer := system.handed.buffers transmission.currentBufferTx
  let txLengthSamplesCnt := transmission.txLengthSamplesCnt
  let available ←
    buffer.waitForSamplesBusyNto (txLengthSamplesCnt + nofSamples)
  if available then do
    let antStreams ← buffer.getAntStreamsOffset txLengthSamplesCnt
    let system := system.send ((List.range nofSamples).map antStreams)
    pure { system with
      workTx :=
        next { transmission with
          txLengthSamplesCnt := txLengthSamplesCnt + nofSamples } }
  else
    pure system

/-- Send the one maximum sized chunk that there is at least. -/
def sendFirst
    (transmission : Transmission nofBufferTx)
    (system : HwUsrp nofBufferTx Sample) :
    Checked (HwUsrp nofBufferTx Sample) := do
  let after ←
    system.sendSamples transmission config.sppMax .sendingChunks
  match after.workTx with
  | .sendingChunks _ => pure after.updateMetadata
  | _ => pure after

/-- Send until no maximum sized chunk is left. -/
def sendChunks
    (transmission : Transmission nofBufferTx)
    (system : HwUsrp nofBufferTx Sample) :
    Checked (HwUsrp nofBufferTx Sample) :=
  let left := transmission.txLengthSamples - transmission.txLengthSamplesCnt
  if left > config.sppMax then
    system.sendSamples transmission config.sppMax .sendingChunks
  else do
    dectnrpAssert (left > 0 && left ≤ config.sppMax)
      "incorrect number of samples in final chunk"
    pure { system with workTx := .completing transmission }

/-- Wait until all samples of the packet are written. -/
def complete
    (transmission : Transmission nofBufferTx)
    (system : HwUsrp nofBufferTx Sample) :
    Checked (HwUsrp nofBufferTx Sample) := do
  let buffer := system.handed.buffers transmission.currentBufferTx
  let available ←
    buffer.waitForSamplesBusyNto transmission.txLengthSamples
  if available then
    pure { system with workTx := .lookingAhead transmission }
  else
    pure system

/-- The burst ends with the current packet. -/
def endBurst
    (transmission : Transmission nofBufferTx)
    (system : HwUsrp nofBufferTx Sample) :
    HwUsrp nofBufferTx Sample :=
  { system with
    txMd := { system.txMd with endOfBurst := true }
    workTx := .sendingFinal transmission none 0 }

/--
Decide whether the next packet stays in the burst.  A busy wait for it ends
with this search.  The gap is a number of 64 bits and is narrowed to 32 bits.
-/
def lookAhead
    (transmission : Transmission nofBufferTx)
    (system : HwUsrp nofBufferTx Sample) :
    Checked (HwUsrp nofBufferTx Sample) :=
  if config.usrpTxGapSamples ≥ 0 then
    match system.handed.buffers.getSpecificTxOrderIdIfAvailable
        system.txOrderIdExpected with
    | some nextBufferTx => do
        let buffer := system.handed.buffers nextBufferTx
        let txTimeTaCandidate64 :=
          buffer.bufferTxMeta.txTime64 - config.txTimeAdvanceSamples
        dectnrpAssert
          (transmission.txTimeTaEnd64 ≤ txTimeTaCandidate64)
          "packet TX times are out of order"
        let usrpTxGapCandidateSamples :=
          int32Cast (txTimeTaCandidate64 - transmission.txTimeTaEnd64)
        if usrpTxGapCandidateSamples > config.usrpTxGapSamples then
          pure (system.endBurst transmission)
        else
          pure { system with
            workTx := .sendingFinal transmission (some nextBufferTx)
              (uint32Cast usrpTxGapCandidateSamples) }
    | none => pure (system.endBurst transmission)
  else
    pure (system.endBurst transmission)

/-- Send the final samples of the packet. -/
def sendFinal
    (transmission : Transmission nofBufferTx)
    (nextBufferTx : Option (Fin nofBufferTx))
    (usrpTxGapCurrentSamples : Nat)
    (system : HwUsrp nofBufferTx Sample) :
    Checked (HwUsrp nofBufferTx Sample) := do
  let buffer := system.handed.buffers transmission.currentBufferTx
  let txLengthSamplesCnt := transmission.txLengthSamplesCnt
  let antStreams ← buffer.getAntStreamsOffset txLengthSamplesCnt
  let nofSamples := transmission.txLengthSamples - txLengthSamplesCnt
  let system := system.send ((List.range nofSamples).map antStreams)
  let transmission := { transmission with
    txLengthSamplesCnt := txLengthSamplesCnt + nofSamples }
  dectnrpAssert
    (transmission.txLengthSamples = transmission.txLengthSamplesCnt)
    "incorrect number of samples"
  if 0 < usrpTxGapCurrentSamples then do
    dectnrpAssert (!system.txMd.endOfBurst) "burst must continue"
    dectnrpAssert nextBufferTx.isSome "transmission must continue"
    pure { system with
      workTx :=
        .sendingGap transmission nextBufferTx usrpTxGapCurrentSamples 0 }
  else
    pure { system with workTx := .releasing transmission nextBufferTx }

/-- Send zeros until the gap is filled. -/
def sendGap
    (transmission : Transmission nofBufferTx)
    (nextBufferTx : Option (Fin nofBufferTx))
    (usrpTxGapCurrentSamples usrpTxGapCurrentSamplesCnt : Nat)
    (system : HwUsrp nofBufferTx Sample) :
    HwUsrp nofBufferTx Sample :=
  if usrpTxGapCurrentSamplesCnt < usrpTxGapCurrentSamples then
    let nofSamples :=
      min config.sppMax
        (usrpTxGapCurrentSamples - usrpTxGapCurrentSamplesCnt)
    { system.send (List.replicate nofSamples 0) with
      workTx :=
        .sendingGap transmission nextBufferTx usrpTxGapCurrentSamples
          (usrpTxGapCurrentSamplesCnt + nofSamples) }
  else
    { system with workTx := .releasing transmission nextBufferTx }

/-- Give the buffer back, and go on with the burst unless it has ended. -/
def release
    (transmission : Transmission nofBufferTx)
    (nextBufferTx : Option (Fin nofBufferTx))
    (system : HwUsrp nofBufferTx Sample) :
    Checked (HwUsrp nofBufferTx Sample) := do
  let buffer := system.handed.buffers transmission.currentBufferTx
  dectnrpAssert
    (!(!system.txMd.endOfBurst && buffer.bufferTxMeta.txPowerAdjDB))
    "AGC settings should only be attached to the end of a burst"
  dectnrpAssert
    (!(!system.txMd.endOfBurst && buffer.bufferTxMeta.rxPowerAdjDB))
    "AGC settings should only be attached to the end of a burst"
  let handed ← system.handed.release transmission.currentBufferTx
  pure { system with
    handed := handed
    transmitted :=
      system.transmitted ++
        [⟨buffer.bufferTxMeta,
          (List.range buffer.txLengthSamples).map buffer.antStreams⟩]
    workTx :=
      match nextBufferTx with
      | some nextBufferTx => .picking nextBufferTx
      | none => .waiting }

/-- The next step of the thread. -/
def step
    (system : HwUsrp nofBufferTx Sample) :
    Checked (HwUsrp nofBufferTx Sample) :=
  match system.workTx with
  | .waiting => .ok system.waitForPacket
  | .starting nextBufferTx => .ok (system.startBurst config nextBufferTx)
  | .picking nextBufferTx => system.pickUp config nextBufferTx
  | .sendingFirst transmission => system.sendFirst config transmission
  | .sendingChunks transmission => system.sendChunks config transmission
  | .completing transmission => system.complete transmission
  | .lookingAhead transmission => system.lookAhead config transmission
  | .sendingFinal transmission nextBufferTx gap =>
      system.sendFinal transmission nextBufferTx gap
  | .sendingGap transmission nextBufferTx gap cnt =>
      .ok (system.sendGap config transmission nextBufferTx gap cnt)
  | .releasing transmission nextBufferTx =>
      system.release transmission nextBufferTx

end Steps

/-- Nothing was handed over, and nothing was sent. -/
def initial
    (nofBufferTx : Nat)
    (antStreamsLengthSamples : Nat)
    (antStreams : Fin nofBufferTx → Nat → Sample) :
    HwUsrp nofBufferTx Sample where
  handed := Handed.initial nofBufferTx antStreamsLengthSamples antStreams
  txOrderIdExpected := 0
  txMd := ⟨false, false, false, 0⟩
  workTx := .waiting
  bursts := []
  transmitted := []

/-- The thread and the other threads take turns. -/
inductive Step
    [Zero Sample]
    (config : TxConfig)
    (queue : TxQueue Sample config.sppMax)
    (system : HwUsrp nofBufferTx Sample) :
    HwUsrp nofBufferTx Sample → Prop where
  | workTx
      {after : HwUsrp nofBufferTx Sample}
      (returned : system.step config = .ok after) :
      Step config queue system after
  | phy
      {handed : Handed nofBufferTx Sample}
      (step :
        Handed.PhyStep queue system.transmitted.length system.handed
          handed) :
      Step config queue system { system with handed := handed }

end HwUsrp

end Radio

end DectNrp
