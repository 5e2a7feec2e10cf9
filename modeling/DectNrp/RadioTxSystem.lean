import DectNrp.RadioBufferTx
import DectNrp.WakeUpCounter
import Mathlib.Logic.Relation

namespace DectNrp

/-!
# Threads that share transmit buffers

Any number of threads of the physical layer fill the buffers of a pool, and one
thread of the radio transmits them.  Every function of a buffer or of the pool
is one step, except that `set_transmittable`, `set_transmitted_or_abort` and
`wait_for_specific_tx_order_id_to` are several steps, between which the other
threads run.

A thread that fills a buffer publishes more and more samples of its packet,
both before and after the packet is transmittable, and it is done once it has
published all of them.

The transmit thread is that of `hw_simulator_t` or that of `hw_usrp_t`.  What
is sent before and between packets, and whether a packet is found in time, does
not concern the buffers and is left open.
-/

open Function (update)

namespace Radio

open WakeUpCounter

/-- What a thread fills into which buffer, and how much is published. -/
structure Fill (nofBufferTx : Nat) (Sample : Type) where
  buffer : Fin nofBufferTx
  packet : Packet Sample
  published : Nat

/-- All samples of the packet are published. -/
def Fill.complete
    {nofBufferTx : Nat}
    {Sample : Type}
    (fill : Fill nofBufferTx Sample) :
    Bool :=
  fill.packet.samples.length ≤ fill.published

/-- A thread of the physical layer. -/
inductive Filler (nofBufferTx : Nat) (Sample : Type) where
  | idle
  /-- The thread got a buffer from the pool. -/
  | acquired (buffer : Fin nofBufferTx)
  /-- The thread fills a buffer that is not transmittable. -/
  | filling (fill : Fill nofBufferTx Sample)
  /-- The packet is transmittable, and the counter is not raised. -/
  | raising (fill : Fill nofBufferTx Sample)
  /-- The counter is raised, and the radio is not notified. -/
  | notifying (fill : Fill nofBufferTx Sample)
  /-- The thread fills a buffer that is transmittable. -/
  | streaming (fill : Fill nofBufferTx Sample)

namespace Filler

variable {nofBufferTx : Nat} {Sample : Type}

def isRaising : Filler nofBufferTx Sample → Bool
  | raising _ => true
  | _ => false

def isNotifying : Filler nofBufferTx Sample → Bool
  | notifying _ => true
  | _ => false

/-- A thread is done with a transmittable packet when it is complete. -/
def continue_ (fill : Fill nofBufferTx Sample) : Filler nofBufferTx Sample :=
  if fill.complete then
    idle
  else
    streaming fill

theorem isRaising_continue (fill : Fill nofBufferTx Sample) :
    (continue_ fill).isRaising = false := by
  unfold continue_
  by_cases complete : fill.complete
  · rw [if_pos complete]
    rfl
  · rw [if_neg complete]
    rfl

theorem isNotifying_continue (fill : Fill nofBufferTx Sample) :
    (continue_ fill).isNotifying = false := by
  unfold continue_
  by_cases complete : fill.complete
  · rw [if_pos complete]
    rfl
  · rw [if_neg complete]
    rfl

end Filler

/-- The radios that have a transmit thread. -/
inductive Hw where
  | simulator
  | usrp
  deriving Repr, DecidableEq

/-- The transmit thread of the radio. -/
inductive RadioTx (nofBufferTx : Nat) (Sample : Type) where
  | idle
  /-- The first search was in vain. -/
  | locking (target : Int)
  /-- The counter is about to be compared, with the mutex locked. -/
  | comparing (target : Int) (reference : UInt32)
  | sleeping (target : Int) (reference : UInt32)
  /-- The mutex has to be locked anew. -/
  | waking (target : Int) (reference : UInt32)
  /-- The buffers are about to be searched, with the mutex locked. -/
  | looking (target : Int) (reference : UInt32)
  /-- A buffer has been found. -/
  | starting (buffer : Fin nofBufferTx)
  /--
  Samples behind those that are left out were sent, and the next buffer may have
  been found.
  -/
  | sending
      (buffer : Fin nofBufferTx)
      (length : Nat)
      (skipped : Nat)
      (sent : List Sample)
      (next : Option (Fin nofBufferTx))
  | unlockingInner
      (buffer : Fin nofBufferTx)
      (length : Nat)
      (next : Option (Fin nofBufferTx))
  | unlockingOuter
      (buffer : Fin nofBufferTx)
      (length : Nat)
      (next : Option (Fin nofBufferTx))
  | lowering
      (buffer : Fin nofBufferTx)
      (length : Nat)
      (next : Option (Fin nofBufferTx))
  /-- The next order is about to be read, for the first time or again. -/
  | reading
      (buffer : Fin nofBufferTx)
      (length : Nat)
      (again : Bool)
  /-- A packet of the given length has ended inside an spp. -/
  | behind (length : Nat)

namespace RadioTx

variable {nofBufferTx : Nat} {Sample : Type}

/-- The thread goes on with the next packet if it has found it already. -/
def continue_ : Option (Fin nofBufferTx) → RadioTx nofBufferTx Sample
  | some buffer => starting buffer
  | none => idle

/-- What follows the release of a buffer. -/
def released
    (hw : Hw)
    (buffer : Fin nofBufferTx)
    (length : Nat)
    (next : Option (Fin nofBufferTx)) :
    RadioTx nofBufferTx Sample :=
  match hw with
  | .simulator => reading buffer length false
  | .usrp => continue_ next

/-- Samples at the beginning of a packet that are never sent. -/
def skipped : RadioTx nofBufferTx Sample → Nat
  | sending _ _ skipped _ _ => skipped
  | _ => 0

/-- The thread owns the mutex while it compares and searches. -/
def ownsMutex : RadioTx nofBufferTx Sample → Bool
  | comparing _ _ => true
  | looking _ _ => true
  | _ => false

/-- A notification reaches a thread that is asleep. -/
def notified : RadioTx nofBufferTx Sample → RadioTx nofBufferTx Sample
  | sleeping target reference => waking target reference
  | radio => radio

/-- The order that the thread waits for. -/
def target? : RadioTx nofBufferTx Sample → Option Int
  | comparing target _ => some target
  | sleeping target _ => some target
  | waking target _ => some target
  | looking target _ => some target
  | _ => none

/-- What the thread does about the counter. -/
def consumer : RadioTx nofBufferTx Sample → Consumer
  | comparing _ reference => .comparing reference
  | sleeping _ reference => .sleeping reference
  | waking _ reference => .waking reference
  | looking _ reference => .looking reference
  | _ => .away

/-- Packets for which the counter still has to be lowered. -/
def nofLowering : RadioTx nofBufferTx Sample → Nat
  | unlockingOuter _ _ _ => 1
  | lowering _ _ _ => 1
  | _ => 0

end RadioTx

/--
The pool with its counter, all threads, and what was made transmittable in a
buffer and transmitted from it so far.
-/
structure TxSystem (nofBufferTx nofFillers : Nat) (Sample : Type) where
  buffers : BufferTxPool nofBufferTx Sample
  txNewPacketCnt : UInt32
  fillers : Fin nofFillers → Filler nofBufferTx Sample
  radio : RadioTx nofBufferTx Sample
  txOrderIdExpected : Int
  offered : Fin nofBufferTx → List (Packet Sample)
  transmitted : Fin nofBufferTx → List (Packet Sample)

namespace TxSystem

variable {nofBufferTx nofFillers : Nat} {Sample : Type}

/-- Nothing has happened yet. -/
def initial
    (nofBufferTx nofFillers : Nat)
    (antStreamsLengthSamples : Nat)
    (antStreams : Fin nofBufferTx → Nat → Sample) :
    TxSystem nofBufferTx nofFillers Sample where
  buffers := fun index =>
    BufferTx.new antStreamsLengthSamples (antStreams index)
  txNewPacketCnt := 0
  fillers := fun _ => .idle
  radio := .idle
  txOrderIdExpected := 0
  offered := fun _ => []
  transmitted := fun _ => []

/-- The first samples of a packet are in a buffer. -/
def Holds
    (buffer : BufferTx Sample)
    (packet : Packet Sample)
    (count : Nat) :
    Prop :=
  ∀ index < count,
    packet.samples[index]? = some (buffer.antStreams index)

/-- Steps of the threads of the physical layer. -/
inductive FillerStep
    (system : TxSystem nofBufferTx nofFillers Sample)
    (filler : Fin nofFillers) :
    TxSystem nofBufferTx nofFillers Sample → Prop where
  | getBufferTxToFill
      {index : Fin nofBufferTx}
      {buffer : BufferTx Sample}
      (idle : system.fillers filler = .idle)
      (returned :
        system.buffers.getBufferTxToFill = .ok (some (index, buffer))) :
      FillerStep system filler
        { system with
          buffers := update system.buffers index buffer
          fillers :=
            update system.fillers filler (.acquired index) }
  | getAntStreams
      {index : Fin nofBufferTx}
      {buffer : BufferTx Sample}
      (packet : Packet Sample)
      (acquired : system.fillers filler = .acquired index)
      (returned :
        (system.buffers index).getAntStreams packet.samples.length =
          .ok buffer) :
      FillerStep system filler
        { system with
          buffers := update system.buffers index buffer
          fillers :=
            update system.fillers filler
              (.filling ⟨index, packet, 0⟩) }
  /-- Samples are written before they are published, and never again. -/
  | write
      {fill : Fill nofBufferTx Sample}
      (antStreams : Nat → Sample)
      (writes :
        system.fillers filler = .filling fill ∨
          system.fillers filler = .streaming fill)
      (incomplete : fill.complete = false)
      (kept :
        ∀ index < fill.published,
          antStreams index =
            (system.buffers fill.buffer).antStreams index) :
      FillerStep system filler
        { system with
          buffers :=
            update system.buffers fill.buffer
              { system.buffers fill.buffer with
                antStreams := antStreams } }
  /-- The packet is not transmittable yet. -/
  | publishFilling
      {fill : Fill nofBufferTx Sample}
      {buffer : BufferTx Sample}
      (published : Nat)
      (filling : system.fillers filler = .filling fill)
      (grows : fill.published < published)
      (written :
        Holds (system.buffers fill.buffer) fill.packet published)
      (returned :
        (system.buffers fill.buffer).setTxLengthSamplesCnt published =
          .ok buffer) :
      FillerStep system filler
        { system with
          buffers := update system.buffers fill.buffer buffer
          fillers :=
            update system.fillers filler
              (.filling { fill with published := published }) }
  | publishStreaming
      {fill : Fill nofBufferTx Sample}
      {buffer : BufferTx Sample}
      (published : Nat)
      (streaming : system.fillers filler = .streaming fill)
      (grows : fill.published < published)
      (written :
        Holds (system.buffers fill.buffer) fill.packet published)
      (returned :
        (system.buffers fill.buffer).setTxLengthSamplesCnt published =
          .ok buffer) :
      FillerStep system filler
        { system with
          buffers := update system.buffers fill.buffer buffer
          fillers :=
            update system.fillers filler
              (.continue_ { fill with published := published }) }
  | setTransmittable
      {fill : Fill nofBufferTx Sample}
      {buffer : BufferTx Sample}
      (filling : system.fillers filler = .filling fill)
      (returned :
        (system.buffers fill.buffer).setTransmittable
          fill.packet.bufferTxMeta = .ok buffer) :
      FillerStep system filler
        { system with
          buffers := update system.buffers fill.buffer buffer
          fillers :=
            update system.fillers filler (.raising fill)
          offered :=
            update system.offered fill.buffer
              (system.offered fill.buffer ++ [fill.packet]) }
  | raise
      {fill : Fill nofBufferTx Sample}
      (raising : system.fillers filler = .raising fill)
      (mutex : system.radio.ownsMutex = false) :
      FillerStep system filler
        { system with
          txNewPacketCnt := system.txNewPacketCnt + 1
          fillers :=
            update system.fillers filler (.notifying fill) }
  | notify
      {fill : Fill nofBufferTx Sample}
      (notifying : system.fillers filler = .notifying fill) :
      FillerStep system filler
        { system with
          fillers :=
            update system.fillers filler (.continue_ fill)
          radio := system.radio.notified }

/-- The order that is expected behind a packet. -/
def orderBehind
    (system : TxSystem nofBufferTx nofFillers Sample)
    (buffer : Fin nofBufferTx) :
    Int :=
  let bufferTxMeta := (system.buffers buffer).bufferTxMeta
  if bufferTxMeta.txOrderIdExpectNext < 0 then
    system.txOrderIdExpected + 1
  else
    bufferTxMeta.txOrderIdExpectNext

/-- The buffer of the expected order if it is available. -/
def expectedIfAvailable
    (system : TxSystem nofBufferTx nofFillers Sample) :
    Option (Fin nofBufferTx) :=
  system.buffers.getSpecificTxOrderIdIfAvailable system.txOrderIdExpected

/-- Steps of the transmit thread. -/
inductive RadioStep
    (hw : Hw)
    (system : TxSystem nofBufferTx nofFillers Sample) :
    TxSystem nofBufferTx nofFillers Sample → Prop where
  /-- A search without or before waiting. -/
  | search
      {buffer : Fin nofBufferTx}
      (idle : system.radio = .idle)
      (found : system.expectedIfAvailable = some buffer) :
      RadioStep hw system { system with radio := .starting buffer }
  /-- The simulator sends zeros instead of waiting. -/
  | wait
      (isUsrp : hw = .usrp)
      (idle : system.radio = .idle)
      (missing : system.expectedIfAvailable = none) :
      RadioStep hw system
        { system with radio := .locking system.txOrderIdExpected }
  | lock
      {target : Int}
      (locking : system.radio = .locking target) :
      RadioStep hw system { system with radio := .comparing target 0 }
  | sleep
      {target : Int}
      {reference : UInt32}
      (comparing : system.radio = .comparing target reference)
      (same : system.txNewPacketCnt = reference) :
      RadioStep hw system
        { system with radio := .sleeping target reference }
  | look
      {target : Int}
      {reference : UInt32}
      (comparing : system.radio = .comparing target reference)
      (changed : system.txNewPacketCnt ≠ reference) :
      RadioStep hw system
        { system with radio := .looking target reference }
  | timeout
      {target : Int}
      {reference : UInt32}
      (sleeping : system.radio = .sleeping target reference) :
      RadioStep hw system { system with radio := .idle }
  /-- A condition variable may wake up on its own. -/
  | wakeUp
      {target : Int}
      {reference : UInt32}
      (sleeping : system.radio = .sleeping target reference) :
      RadioStep hw system
        { system with radio := .waking target reference }
  | relock
      {target : Int}
      {reference : UInt32}
      (waking : system.radio = .waking target reference) :
      RadioStep hw system
        { system with radio := .comparing target reference }
  | found
      {target : Int}
      {reference : UInt32}
      {buffer : Fin nofBufferTx}
      (looking : system.radio = .looking target reference)
      (found :
        system.buffers.getSpecificTxOrderIdIfAvailable target =
          some buffer) :
      RadioStep hw system { system with radio := .starting buffer }
  | missed
      {target : Int}
      {reference : UInt32}
      (looking : system.radio = .looking target reference)
      (missing :
        system.buffers.getSpecificTxOrderIdIfAvailable target = none) :
      RadioStep hw system
        { system with radio := .comparing target system.txNewPacketCnt }
  | start
      {buffer : Fin nofBufferTx}
      (starting : system.radio = .starting buffer) :
      RadioStep hw system
        { system with
          radio :=
            .sending buffer (system.buffers buffer).txLengthSamples 0 [] none
          txOrderIdExpected :=
            match hw with
            | .simulator => system.txOrderIdExpected
            | .usrp => system.orderBehind buffer }
  /-- The samples are read as soon as they are published. -/
  | send
      {buffer : Fin nofBufferTx}
      {length skipped : Nat}
      {sent : List Sample}
      {next : Option (Fin nofBufferTx)}
      {antStreamsOffset : Nat → Sample}
      (count : Nat)
      (sending : system.radio = .sending buffer length skipped sent next)
      (waited :
        (system.buffers buffer).waitForSamplesBusyNto
          (skipped + sent.length + count) = .ok true)
      (returned :
        (system.buffers buffer).getAntStreamsOffset
          (skipped + sent.length) = .ok antStreamsOffset) :
      RadioStep hw system
        { system with
          radio :=
            .sending buffer length skipped
              (sent ++ (List.range count).map antStreamsOffset) next }
  /-- The next packet must not start before the end of the current one. -/
  | lookAhead
      {buffer : Fin nofBufferTx}
      {length skipped : Nat}
      {sent : List Sample}
      (isUsrp : hw = .usrp)
      (sending : system.radio = .sending buffer length skipped sent none)
      (remaining : sent.length < length)
      (inOrder :
        ∀ next, system.expectedIfAvailable = some next →
          (system.buffers buffer).bufferTxMeta.txTime64 + length ≤
            (system.buffers next).bufferTxMeta.txTime64) :
      RadioStep hw system
        { system with
          radio :=
            .sending buffer length skipped sent
              system.expectedIfAvailable }
  /-- The gap to the next packet is too large. -/
  | endOfBurst
      {buffer : Fin nofBufferTx}
      {length skipped : Nat}
      {sent : List Sample}
      {next : Option (Fin nofBufferTx)}
      (isUsrp : hw = .usrp)
      (sending : system.radio = .sending buffer length skipped sent next) :
      RadioStep hw system
        { system with
          radio := .sending buffer length skipped sent none }
  | reset
      {buffer : Fin nofBufferTx}
      {length skipped : Nat}
      {sent : List Sample}
      {next : Option (Fin nofBufferTx)}
      {after : BufferTx Sample}
      (sending : system.radio = .sending buffer length skipped sent next)
      (complete : skipped + sent.length = length)
      (returned : (system.buffers buffer).reset = .ok after) :
      RadioStep hw system
        { system with
          buffers := update system.buffers buffer after
          radio := .unlockingInner buffer length next
          transmitted :=
            update system.transmitted buffer
              (system.transmitted buffer ++
                [⟨(system.buffers buffer).bufferTxMeta, sent⟩]) }
  | unlockInner
      {buffer : Fin nofBufferTx}
      {length : Nat}
      {next : Option (Fin nofBufferTx)}
      {after : BufferTx Sample}
      (unlocking : system.radio = .unlockingInner buffer length next)
      (returned : (system.buffers buffer).unlockInner = .ok after) :
      RadioStep hw system
        { system with
          buffers := update system.buffers buffer after
          radio := .unlockingOuter buffer length next }
  | unlockOuter
      {buffer : Fin nofBufferTx}
      {length : Nat}
      {next : Option (Fin nofBufferTx)}
      {after : BufferTx Sample}
      (unlocking : system.radio = .unlockingOuter buffer length next)
      (returned : (system.buffers buffer).unlockOuter = .ok after) :
      RadioStep hw system
        { system with
          buffers := update system.buffers buffer after
          radio := .lowering buffer length next }
  | lower
      {buffer : Fin nofBufferTx}
      {length : Nat}
      {next : Option (Fin nofBufferTx)}
      (lowering : system.radio = .lowering buffer length next) :
      RadioStep hw system
        { system with
          txNewPacketCnt := system.txNewPacketCnt - 1
          radio := .released hw buffer length next }
  /-- The simulator reads the next order once the buffer is released. -/
  | readLate
      {buffer : Fin nofBufferTx}
      {length : Nat}
      (reading : system.radio = .reading buffer length false)
      (negative :
        (system.buffers buffer).bufferTxMeta.txOrderIdExpectNext < 0) :
      RadioStep hw system
        { system with
          radio := .behind length
          txOrderIdExpected := system.txOrderIdExpected + 1 }
  | readFirst
      {buffer : Fin nofBufferTx}
      {length : Nat}
      (reading : system.radio = .reading buffer length false)
      (given :
        0 ≤ (system.buffers buffer).bufferTxMeta.txOrderIdExpectNext) :
      RadioStep hw system { system with radio := .reading buffer length true }
  | readAgain
      {buffer : Fin nofBufferTx}
      {length : Nat}
      (reading : system.radio = .reading buffer length true) :
      RadioStep hw system
        { system with
          radio := .behind length
          txOrderIdExpected :=
            (system.buffers buffer).bufferTxMeta.txOrderIdExpectNext }
  /-- No packet is found, or the one that is found is not begun. -/
  | leave
      {length : Nat}
      (behind : system.radio = .behind length) :
      RadioStep hw system { system with radio := .idle }
  /-- The next packet starts in the same spp. -/
  | follow
      {length : Nat}
      {buffer : Fin nofBufferTx}
      (behind : system.radio = .behind length)
      (found : system.expectedIfAvailable = some buffer) :
      RadioStep hw system { system with radio := .starting buffer }
  /--
  The next packet starts in a later spp and is longer than the last one.  The
  loop over its samples then goes on with the counter of the last one.
  -/
  | skip
      {length : Nat}
      {buffer : Fin nofBufferTx}
      (behind : system.radio = .behind length)
      (found : system.expectedIfAvailable = some buffer)
      (longer : length < (system.buffers buffer).txLengthSamples) :
      RadioStep hw system
        { system with
          radio :=
            .sending buffer (system.buffers buffer).txLengthSamples length []
              none }

/-- One step of any thread. -/
inductive Step (hw : Hw) :
    TxSystem nofBufferTx nofFillers Sample →
    TxSystem nofBufferTx nofFillers Sample →
    Prop where
  | filler
      {before after : TxSystem nofBufferTx nofFillers Sample}
      (filler : Fin nofFillers)
      (step : FillerStep before filler after) :
      Step hw before after
  | radio
      {before after : TxSystem nofBufferTx nofFillers Sample}
      (step : RadioStep hw before after) :
      Step hw before after

/-- One step after which the simulator leaves out no samples of a packet. -/
def WholeStep
    (hw : Hw)
    (before after : TxSystem nofBufferTx nofFillers Sample) :
    Prop :=
  Step hw before after ∧ (hw = .simulator → after.radio.skipped = 0)

/-- States that are reached from the start by any interleaving. -/
def Reachable
    (hw : Hw)
    (system : TxSystem nofBufferTx nofFillers Sample) :
    Prop :=
  ∃ antStreamsLengthSamples antStreams,
    Relation.ReflTransGen (Step hw)
      (initial nofBufferTx nofFillers antStreamsLengthSamples antStreams)
      system

/-- States that are reached while no samples of a packet are left out. -/
def ReachableWhole
    (hw : Hw)
    (system : TxSystem nofBufferTx nofFillers Sample) :
    Prop :=
  ∃ antStreamsLengthSamples antStreams,
    Relation.ReflTransGen (WholeStep hw)
      (initial nofBufferTx nofFillers antStreamsLengthSamples antStreams)
      system

end TxSystem

end Radio

end DectNrp
