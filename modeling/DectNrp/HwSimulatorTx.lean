import DectNrp.TxPacketQueue

namespace DectNrp

/-!
# Transmit thread of the simulated hardware

The thread writes its signal into the virtual space in pieces of equal size.
Once it has found the next packet it writes zeros up to its first sample, then
its samples.  When a packet ends inside of a piece, the next packet may start
in the same piece.

Every access to a transmit buffer or to the virtual space is one step of the
thread, and the other threads run in between.
-/

namespace Radio

namespace HwSimulator

/-- Piece of the signal that is written at a time. -/
structure Vspptx (Sample : Type) where
  now64 : Int
  spp : Nat → Sample
  /-- Where the transmission starts in the piece, negative without one. -/
  txIdx : Int
  txLength : Int

namespace Vspptx

variable {Sample : Type}

def sppZero [Zero Sample] (vspptx : Vspptx Sample) : Vspptx Sample :=
  { vspptx with spp := fun _ => 0 }

/-- Copy samples to an offset. -/
def sppWriteV
    (sppSize : Nat)
    (vspptx : Vspptx Sample)
    (inp : Nat → Sample)
    (offset nofSamples : Nat) :
    Checked (Vspptx Sample) := do
  dectnrpAssert (nofSamples != 0 && offset + nofSamples ≤ sppSize)
    "Input ill-configured"
  pure
    { vspptx with
      spp := fun index =>
        if offset ≤ index ∧ index < offset + nofSamples then
          inp (index - offset)
        else
          vspptx.spp index }

/-- Samples that fit into the piece are copied. -/
theorem sppWriteV_eq_ok
    {sppSize : Nat}
    {inp : Nat → Sample}
    {offset nofSamples : Nat}
    (vspptx : Vspptx Sample)
    (nonempty : 0 < nofSamples)
    (inside : offset + nofSamples ≤ sppSize) :
    vspptx.sppWriteV sppSize inp offset nofSamples =
      .ok
        { vspptx with
          spp := fun index =>
            if offset ≤ index ∧ index < offset + nofSamples then
              inp (index - offset)
            else vspptx.spp index } := by
  unfold sppWriteV
  have valid :
      (nofSamples != 0 && decide (offset + nofSamples ≤ sppSize)) = true := by
    rw [Bool.and_eq_true, bne_iff_ne]
    exact ⟨nonempty.ne', decide_eq_true inside⟩
  rw [valid]
  rfl

def txSetNoNonZeroSamples (vspptx : Vspptx Sample) : Vspptx Sample :=
  { vspptx with
    txIdx := -1
    txLength := -1 }

end Vspptx

/-- The part of the virtual space that belongs to one transmitter. -/
structure Vspace (Sample : Type) where
  now64 : Int
  /-- The piece at this time has been written. -/
  statusTxWritten : Bool
  /-- All pieces that were written, the last one at the end. -/
  pieces : List (Vspptx Sample)

namespace Vspace

variable {Sample : Type}

def write
    (vspace : Vspace Sample)
    (vspptx : Vspptx Sample) :
    Checked (Vspace Sample) := do
  dectnrpAssert (!vspace.statusTxWritten)
    "HW TX interface already written"
  dectnrpAssert (vspptx.now64 == vspace.now64)
    "HW time not the same as vspace time"
  pure
    { vspace with
      statusTxWritten := true
      pieces := vspace.pieces ++ [vspptx] }

/-- All receivers have read, and the time goes on. -/
def lastRead (sppSize : Nat) (vspace : Vspace Sample) : Vspace Sample :=
  { vspace with
    now64 := vspace.now64 + sppSize
    statusTxWritten := false }

end Vspace

/-- Local variables of the thread while it transmits a packet. -/
structure Transmission (nofBufferTx : Nat) where
  bufferTxIdx : Fin nofBufferTx
  txLengthSamples : Nat
  txTime64 : Int
  sppOffset : Nat
  txLengthSamplesCnt : Nat
  txLengthSamplesThisSpp : Nat

/-- Where the thread is. -/
inductive WorkTx (nofBufferTx : Nat) where
  /-- At the beginning of the outer loop. -/
  | searching
  /-- There is no packet, and zeros can be written. -/
  | sendingZeros
  /-- A number of pieces without samples comes before the packet. -/
  | leading (transmission : Transmission nofBufferTx) (nofSppZero : Nat)
  /-- At the beginning of the loop over the pieces of a packet. -/
  | copying (transmission : Transmission nofBufferTx)
  /-- The buffer is given back, and the next order is to be read. -/
  | readingOrder (transmission : Transmission nofBufferTx)
  /-- The next order was not negative, and it is read once more. -/
  | overwritingOrder (transmission : Transmission nofBufferTx)
  /-- Is there a packet that starts in the same piece? -/
  | lookingAhead (transmission : Transmission nofBufferTx)
  /-- There is one, and its first samples are copied. -/
  | copyingNext (transmission : Transmission nofBufferTx)
  /-- The piece is complete. -/
  | writing (transmission : Transmission nofBufferTx)

end HwSimulator

open HwSimulator

/--
The thread with the buffers and the virtual space, the packets it has given
back and how often it has read a buffer that it had given back.
-/
structure HwSimulator (nofBufferTx : Nat) (Sample : Type) where
  handed : Handed nofBufferTx Sample
  vspace : Vspace Sample
  txOrderIdExpected : Int
  now64 : Int
  vspptx : Vspptx Sample
  workTx : WorkTx nofBufferTx
  transmitted : List (Packet Sample)
  lateReads : Nat

namespace HwSimulator

variable {nofBufferTx : Nat} {Sample : Type}

/-- The piece is written, and the local time goes on. -/
def write
    (sppSize : Nat)
    (system : HwSimulator nofBufferTx Sample) :
    Checked (HwSimulator nofBufferTx Sample) := do
  let vspptx := { system.vspptx with now64 := system.now64 }
  let vspace ← system.vspace.write vspptx
  pure
    { system with
      vspace := vspace
      vspptx := vspptx
      now64 := system.now64 + sppSize }

section Steps

variable [Zero Sample] (sppSize : Nat)

/-- Check if the currently expected buffer is ready. -/
def search
    (system : HwSimulator nofBufferTx Sample) :
    Checked (HwSimulator nofBufferTx Sample) :=
  match system.handed.buffers.getSpecificTxOrderIdIfAvailable
      system.txOrderIdExpected with
  | some bufferTxIdx => do
      let buffer := system.handed.buffers bufferTxIdx
      dectnrpAssert (sppSize < buffer.txLengthSamples)
        "transmission length must be larger than one spp"
      dectnrpAssert (system.now64 ≤ buffer.bufferTxMeta.txTime64)
        "transmission time of expected packet earlier than current time"
      let time2tx := buffer.bufferTxMeta.txTime64 - system.now64
      pure
        { system with
          vspptx := system.vspptx.sppZero.txSetNoNonZeroSamples
          workTx :=
            .leading
              { bufferTxIdx := bufferTxIdx
                txLengthSamples := buffer.txLengthSamples
                txTime64 := buffer.bufferTxMeta.txTime64
                sppOffset := 0
                txLengthSamplesCnt := 0
                txLengthSamplesThisSpp := 0 }
              (time2tx / sppSize).toNat }
  | none =>
      pure
        { system with
          vspptx := system.vspptx.sppZero.txSetNoNonZeroSamples
          workTx := .sendingZeros }

/-- Write zeros unless the virtual space stays occupied for too long. -/
def sendZeros
    (system : HwSimulator nofBufferTx Sample) :
    Checked (HwSimulator nofBufferTx Sample) :=
  if system.vspace.statusTxWritten then
    pure { system with workTx := .searching }
  else do
    let system ← system.write sppSize
    pure { system with workTx := .searching }

/-- Write the zeros before a packet. -/
def lead
    (transmission : Transmission nofBufferTx)
    (nofSppZero : Nat)
    (system : HwSimulator nofBufferTx Sample) :
    Checked (HwSimulator nofBufferTx Sample) :=
  match nofSppZero with
  | nofSppZero + 1 =>
      if system.vspace.statusTxWritten then
        pure system
      else do
        let system ← system.write sppSize
        pure { system with workTx := .leading transmission nofSppZero }
  | 0 => do
      -- less than a piece is left, so that the cast keeps the value
      let sppOffset := (transmission.txTime64 - system.now64).toNat
      dectnrpAssert (sppOffset < sppSize)
        "nof leading zeros larger than one spp"
      pure
        { system with
          vspptx := system.vspptx.sppZero
          workTx :=
            .copying
              { transmission with
                sppOffset := sppOffset
                txLengthSamplesCnt := 0 } }

/-- Set the buffer as transmitted. -/
def setTransmitted
    (transmission : Transmission nofBufferTx)
    (system : HwSimulator nofBufferTx Sample) :
    Checked (HwSimulator nofBufferTx Sample) := do
  let buffer := system.handed.buffers transmission.bufferTxIdx
  let handed ← system.handed.release transmission.bufferTxIdx
  pure
    { system with
      handed := handed
      transmitted :=
        system.transmitted ++
          [⟨buffer.bufferTxMeta,
            (List.range buffer.txLengthSamples).map buffer.antStreams⟩]
      workTx := .readingOrder transmission }

/-- Copy samples of the packet once enough of them are available. -/
def copySamples
    (transmission : Transmission nofBufferTx)
    (system : HwSimulator nofBufferTx Sample) :
    Checked (HwSimulator nofBufferTx Sample) := do
  let buffer := system.handed.buffers transmission.bufferTxIdx
  let txLengthSamplesCnt := transmission.txLengthSamplesCnt
  let txLengthSamplesThisSpp :=
    min (transmission.txLengthSamples - txLengthSamplesCnt)
      (sppSize - transmission.sppOffset)
  let available ←
    buffer.waitForSamplesBusyNto
      (txLengthSamplesCnt + txLengthSamplesThisSpp)
  if available then do
    let antStreams ← buffer.getAntStreamsOffset txLengthSamplesCnt
    let vspptx ←
      system.vspptx.sppWriteV sppSize antStreams transmission.sppOffset
        txLengthSamplesThisSpp
    let system :=
      { system with
        vspptx :=
          { vspptx with
            txIdx := transmission.sppOffset
            txLength := txLengthSamplesThisSpp } }
    let transmission :=
      { transmission with
        txLengthSamplesCnt := txLengthSamplesCnt + txLengthSamplesThisSpp
        txLengthSamplesThisSpp := txLengthSamplesThisSpp }
    dectnrpAssert
      (transmission.txLengthSamplesCnt ≤ transmission.txLengthSamples)
      "more samples counted than packet has in total"
    if transmission.txLengthSamplesCnt = transmission.txLengthSamples then
      system.setTransmitted transmission
    else
      pure { system with workTx := .writing transmission }
  else
    pure system

/-- Read which order comes next, from the buffer that was given back. -/
def readOrder
    (transmission : Transmission nofBufferTx)
    (system : HwSimulator nofBufferTx Sample) :
    HwSimulator nofBufferTx Sample :=
  let buffer := system.handed.buffers transmission.bufferTxIdx
  if buffer.bufferTxMeta.txOrderIdExpectNext < 0 then
    { system with
      txOrderIdExpected := system.txOrderIdExpected + 1
      lateReads := system.lateReads + 1
      workTx := .lookingAhead transmission }
  else
    { system with
      lateReads := system.lateReads + 1
      workTx := .overwritingOrder transmission }

@[inherit_doc readOrder]
def overwriteOrder
    (transmission : Transmission nofBufferTx)
    (system : HwSimulator nofBufferTx Sample) :
    HwSimulator nofBufferTx Sample :=
  let buffer := system.handed.buffers transmission.bufferTxIdx
  { system with
    txOrderIdExpected := buffer.bufferTxMeta.txOrderIdExpectNext
    lateReads := system.lateReads + 1
    workTx := .lookingAhead transmission }

/--
Check if another packet starts in the current piece.  The length and the time
of a packet that starts later replace those of the packet that has ended.
-/
def lookAhead
    (transmission : Transmission nofBufferTx)
    (system : HwSimulator nofBufferTx Sample) :
    Checked (HwSimulator nofBufferTx Sample) :=
  let sppEnd := transmission.sppOffset + transmission.txLengthSamplesThisSpp
  if sppEnd < sppSize then
    match system.handed.buffers.getSpecificTxOrderIdIfAvailable
        system.txOrderIdExpected with
    | some bufferTxIdx => do
        let buffer := system.handed.buffers bufferTxIdx
        let txTime64 := buffer.bufferTxMeta.txTime64
        dectnrpAssert (sppSize < buffer.txLengthSamples)
          "transmission length must be larger than one spp"
        dectnrpAssert (system.now64 + sppEnd ≤ txTime64)
          "transmission time of expected packet earlier than current time"
        let transmission :=
          { transmission with
            bufferTxIdx := bufferTxIdx
            txLengthSamples := buffer.txLengthSamples
            txTime64 := txTime64 }
        if txTime64 < system.now64 + sppSize then do
          let sppOffset := (txTime64 - system.now64).toNat
          dectnrpAssert (sppOffset < sppSize)
            "nof leading samples larger than one spp"
          pure
            { system with
              workTx :=
                .copyingNext
                  { transmission with
                    sppOffset := sppOffset
                    txLengthSamplesCnt := 0
                    txLengthSamplesThisSpp := sppSize - sppOffset } }
        else
          pure { system with workTx := .writing transmission }
    | none => pure { system with workTx := .writing transmission }
  else
    pure { system with workTx := .writing transmission }

/-- Copy the first samples of the next packet into the same piece. -/
def copyNext
    (transmission : Transmission nofBufferTx)
    (system : HwSimulator nofBufferTx Sample) :
    Checked (HwSimulator nofBufferTx Sample) := do
  let buffer := system.handed.buffers transmission.bufferTxIdx
  let txLengthSamplesThisSpp := transmission.txLengthSamplesThisSpp
  let available ← buffer.waitForSamplesBusyNto txLengthSamplesThisSpp
  if available then do
    let antStreams ← buffer.getAntStreamsOffset 0
    let vspptx ←
      system.vspptx.sppWriteV sppSize antStreams transmission.sppOffset
        txLengthSamplesThisSpp
    pure
      { system with
        vspptx :=
          { vspptx with
            txIdx := 0
            txLength := sppSize }
        workTx :=
          .writing
            { transmission with
              txLengthSamplesCnt :=
                transmission.txLengthSamplesCnt +
                  txLengthSamplesThisSpp } }
  else
    pure system

/-- Write the piece, and go on with the packet or with the next one. -/
def writeSpp
    (transmission : Transmission nofBufferTx)
    (system : HwSimulator nofBufferTx Sample) :
    Checked (HwSimulator nofBufferTx Sample) :=
  if system.vspace.statusTxWritten then
    pure system
  else do
    let system ← system.write sppSize
    let transmission := { transmission with sppOffset := 0 }
    pure
      { system with
        vspptx := system.vspptx.sppZero
        workTx :=
          if transmission.txLengthSamplesCnt <
              transmission.txLengthSamples then
            .copying transmission
          else
            .searching }

/-- The next step of the thread. -/
def step
    (system : HwSimulator nofBufferTx Sample) :
    Checked (HwSimulator nofBufferTx Sample) :=
  match system.workTx with
  | .searching => system.search sppSize
  | .sendingZeros => system.sendZeros sppSize
  | .leading transmission nofSppZero =>
      system.lead sppSize transmission nofSppZero
  | .copying transmission => system.copySamples sppSize transmission
  | .readingOrder transmission => .ok (system.readOrder transmission)
  | .overwritingOrder transmission =>
      .ok (system.overwriteOrder transmission)
  | .lookingAhead transmission => system.lookAhead sppSize transmission
  | .copyingNext transmission => system.copyNext sppSize transmission
  | .writing transmission => system.writeSpp sppSize transmission

end Steps

/-- Nothing has happened at the time at which the simulation starts. -/
def initial
    [Zero Sample]
    (nofBufferTx : Nat)
    (antStreamsLengthSamples : Nat)
    (antStreams : Fin nofBufferTx → Nat → Sample)
    (nowStart64 : Int) :
    HwSimulator nofBufferTx Sample where
  handed := Handed.initial nofBufferTx antStreamsLengthSamples antStreams
  vspace :=
    { now64 := nowStart64
      statusTxWritten := false
      pieces := [] }
  txOrderIdExpected := 0
  now64 := nowStart64
  vspptx :=
    { now64 := nowStart64
      spp := fun _ => 0
      txIdx := -1
      txLength := -1 }
  workTx := .searching
  transmitted := []
  lateReads := 0

/-- The thread, the other threads and the virtual space take turns. -/
inductive Step
    [Zero Sample]
    {sppSize : Nat}
    (queue : TxQueue Sample sppSize)
    (system : HwSimulator nofBufferTx Sample) :
    HwSimulator nofBufferTx Sample → Prop where
  | workTx
      {after : HwSimulator nofBufferTx Sample}
      (returned : system.step sppSize = .ok after) :
      Step queue system after
  | phy
      {handed : Handed nofBufferTx Sample}
      (step :
        Handed.PhyStep queue system.transmitted.length system.handed
          handed) :
      Step queue system { system with handed := handed }
  | lastRead
      (written : system.vspace.statusTxWritten = true) :
      Step queue system
        { system with vspace := system.vspace.lastRead sppSize }

end HwSimulator

end Radio

end DectNrp
