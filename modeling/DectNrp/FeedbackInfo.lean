import DectNrp.BitFields

namespace DectNrp

/-!
# Feedback info of the physical layer control field

A type 2 physical layer control field ends with a feedback format and twelve
bits of feedback info.  Six formats are defined, all of them share the octet of
the feedback format: `pack` keeps its upper half and completes the lower one.

Buffer sizes are transmitted as a buffer status with sixteen classes, and a
modulation and coding scheme as a channel quality indicator.
-/

open BitFields (extract)

/-- Default of undefined numeric fields. -/
def undefinedNumeric32 : UInt32 := 0xFFFFFFFF

namespace FeedbackInfo

/-- Acknowledgement of a HARQ process. -/
inductive TransmissionFeedback where
  | nack
  | ack
  | notDefined
  deriving Repr, DecidableEq

/-- Number of MIMO layers that are reported. -/
inductive MimoFeedback where
  | singleLayer
  | dualLayer
  | fourLayer
  | reserved
  | notDefined
  deriving Repr, DecidableEq

namespace TransmissionFeedback

/-- Coded value of an enumerator. -/
def toUnderlying : TransmissionFeedback → UInt32
  | .nack => 0
  | .ack => 1
  | .notDefined => undefinedNumeric32

/-- Enumerator of a coded value; callers mask the value to one bit. -/
def ofUnderlying : UInt32 → TransmissionFeedback
  | 0 => .nack
  | 1 => .ack
  | _ => .notDefined

end TransmissionFeedback

namespace MimoFeedback

/-- Coded value of an enumerator. -/
def toUnderlying : MimoFeedback → UInt32
  | .singleLayer => 0
  | .dualLayer => 1
  | .fourLayer => 2
  | .reserved => 3
  | .notDefined => undefinedNumeric32

/-- Enumerator of a coded value; callers mask the value to two bits. -/
def ofUnderlying : UInt32 → MimoFeedback
  | 0 => .singleLayer
  | 1 => .dualLayer
  | 2 => .fourLayer
  | 3 => .reserved
  | _ => .notDefined

end MimoFeedback

/-- Marks a channel quality indicator without an MCS. -/
def mcsOutOfRange : UInt32 := undefinedNumeric32

/-- Channel quality indicator of an MCS. -/
def mcs2Cqi (mcs : Int32) : Checked UInt32 := do
  dectnrpAssert (decide (0 ≤ mcs)) "MCS undefined"
  dectnrpAssert (decide (mcs ≤ 11)) "MCS undefined"
  pure (mcs + 1).toUInt32

/-- MCS of a channel quality indicator. -/
def cqi2Mcs (cqi : UInt32) : UInt32 :=
  if cqi = 0 ∨ 12 < cqi then
    mcsOutOfRange
  else
    cqi - 1

/-- Class of a buffer size. -/
def bufferSize2BufferStatus (bufferSize : UInt32) : UInt32 :=
  if bufferSize = 0 then 0
  else if 0 < bufferSize ∧ bufferSize ≤ 16 then 1
  else if 16 < bufferSize ∧ bufferSize ≤ 32 then 2
  else if 32 < bufferSize ∧ bufferSize ≤ 64 then 3
  else if 64 < bufferSize ∧ bufferSize ≤ 128 then 4
  else if 128 < bufferSize ∧ bufferSize ≤ 256 then 5
  else if 256 < bufferSize ∧ bufferSize ≤ 512 then 6
  else if 512 < bufferSize ∧ bufferSize ≤ 1024 then 7
  else if 1024 < bufferSize ∧ bufferSize ≤ 2048 then 8
  else if 2048 < bufferSize ∧ bufferSize ≤ 4096 then 9
  else if 4096 < bufferSize ∧ bufferSize ≤ 8192 then 10
  else if 8192 < bufferSize ∧ bufferSize ≤ 16384 then 11
  else if 16384 < bufferSize ∧ bufferSize ≤ 32768 then 12
  else if 32768 < bufferSize ∧ bufferSize ≤ 65536 then 13
  else if 65536 < bufferSize ∧ bufferSize ≤ 131072 then 14
  else 15

/-- Lower bounds of the sixteen buffer status classes. -/
def bufferStatus2BufferSizeLower : List UInt32 :=
  [0, 0, 16, 32, 64, 128, 256, 512, 1024, 2048, 4096, 8192, 16384,
    32768, 65536, 131072]

/-- Buffer size that stands for a received four-bit buffer status. -/
def bufferSizeLower (bufferStatus : UInt32) : UInt32 :=
  bufferStatus2BufferSizeLower.getD bufferStatus.toNat 0

/-- Feedback format 1. -/
structure F1 where
  harqProcessNumber : UInt32
  transmissionFeedback : TransmissionFeedback
  bufferSize : UInt32
  mcs : UInt32
  deriving Repr, DecidableEq

/-- Feedback format 2. -/
structure F2 where
  codebookIndex : UInt32
  mimoFeedback : MimoFeedback
  bufferSize : UInt32
  mcs : UInt32
  deriving Repr, DecidableEq

/-- Feedback format 3. -/
structure F3 where
  harqProcessNumber0 : UInt32
  transmissionFeedback0 : TransmissionFeedback
  harqProcessNumber1 : UInt32
  transmissionFeedback1 : TransmissionFeedback
  mcs : UInt32
  deriving Repr, DecidableEq

/-- Feedback format 4. -/
structure F4 where
  harqFeedbackBitmap : UInt32
  mcs : UInt32
  deriving Repr, DecidableEq

/-- Feedback format 5. -/
structure F5 where
  harqProcessNumber : UInt32
  transmissionFeedback : TransmissionFeedback
  mimoFeedback : MimoFeedback
  codebookIndex : UInt32
  deriving Repr, DecidableEq

/-- Feedback format 6. -/
structure F6 where
  harqProcessNumber : UInt32
  reserved : UInt32
  bufferSize : UInt32
  mcs : UInt32
  deriving Repr, DecidableEq

namespace F1

/-- Range check of format 1. -/
def isValid (info : F1) : Bool :=
  if 7 < info.harqProcessNumber then false
  else if info.transmissionFeedback = .notDefined then false
  else if 15 < bufferSize2BufferStatus info.bufferSize then false
  else if 11 < info.mcs then false
  else true

/-- Complete the octet at `pointer` and set the following one. -/
def pack
    (info : F1)
    (pointer : Nat)
    (memory : Memory) :
    Checked Memory := do
  dectnrpAssert info.isValid "invalid"
  let memory := memory.assignAnd pointer 0xF0
  let memory := memory.assignOr pointer (info.harqProcessNumber <<< 1)
  let memory := memory.assignOr pointer info.transmissionFeedback.toUnderlying
  let memory :=
    memory.assign (pointer + 1)
      (bufferSize2BufferStatus info.bufferSize <<< 4)
  let cqi ← mcs2Cqi info.mcs.toInt32
  pure (memory.assignOr (pointer + 1) cqi)

/-- Read format 1 and report whether it is valid. -/
def unpack
    (octets : List UInt8)
    (pointer : Nat) :
    Checked (Bool × F1) := do
  let octet0 ← loadOctet octets pointer
  let octet1 ← loadOctet octets (pointer + 1)
  let info : F1 := {
    harqProcessNumber := extract octet0 1 0b111
    transmissionFeedback :=
      .ofUnderlying (extract octet0 0 0b1)
    bufferSize := bufferSizeLower (extract octet1 4 0b1111)
    mcs := cqi2Mcs (extract octet1 0 0b1111)
  }
  pure (info.isValid, info)

end F1

namespace F2

/-- Range check of format 2. -/
def isValid (info : F2) : Bool :=
  if 7 < info.codebookIndex then false
  else if ¬ (info.mimoFeedback = .singleLayer ∨
      info.mimoFeedback = .dualLayer) then false
  else if 15 < bufferSize2BufferStatus info.bufferSize then false
  else if 11 < info.mcs then false
  else true

/-- Complete the octet at `pointer` and set the following one. -/
def pack
    (info : F2)
    (pointer : Nat)
    (memory : Memory) :
    Checked Memory := do
  dectnrpAssert info.isValid "invalid"
  let memory := memory.assignAnd pointer 0xF0
  let memory := memory.assignOr pointer (info.codebookIndex <<< 1)
  let memory := memory.assignOr pointer info.mimoFeedback.toUnderlying
  let memory :=
    memory.assign (pointer + 1)
      (bufferSize2BufferStatus info.bufferSize <<< 4)
  let cqi ← mcs2Cqi info.mcs.toInt32
  pure (memory.assignOr (pointer + 1) cqi)

/-- Read format 2 and report whether it is valid. -/
def unpack
    (octets : List UInt8)
    (pointer : Nat) :
    Checked (Bool × F2) := do
  let octet0 ← loadOctet octets pointer
  let octet1 ← loadOctet octets (pointer + 1)
  let info : F2 := {
    codebookIndex := extract octet0 1 0b111
    mimoFeedback := .ofUnderlying (extract octet0 0 0b1)
    bufferSize := bufferSizeLower (extract octet1 4 0b1111)
    mcs := cqi2Mcs (extract octet1 0 0b1111)
  }
  pure (info.isValid, info)

end F2

namespace F3

/-- Range check of format 3. -/
def isValid (info : F3) : Bool :=
  if 7 < info.harqProcessNumber0 then false
  else if info.transmissionFeedback0 = .notDefined then false
  else if 7 < info.harqProcessNumber1 then false
  else if info.transmissionFeedback1 = .notDefined then false
  else if 11 < info.mcs then false
  else true

/-- Complete the octet at `pointer` and set the following one. -/
def pack
    (info : F3)
    (pointer : Nat)
    (memory : Memory) :
    Checked Memory := do
  dectnrpAssert info.isValid "invalid"
  let memory := memory.assignAnd pointer 0xF0
  let memory := memory.assignOr pointer (info.harqProcessNumber0 <<< 1)
  let memory := memory.assignOr pointer info.transmissionFeedback0.toUnderlying
  let memory := memory.assign (pointer + 1) (info.harqProcessNumber1 <<< 5)
  let memory :=
    memory.assignOr (pointer + 1)
      (info.transmissionFeedback1.toUnderlying <<< 4)
  let cqi ← mcs2Cqi info.mcs.toInt32
  pure (memory.assignOr (pointer + 1) cqi)

/-- Read format 3 and report whether it is valid. -/
def unpack
    (octets : List UInt8)
    (pointer : Nat) :
    Checked (Bool × F3) := do
  let octet0 ← loadOctet octets pointer
  let octet1 ← loadOctet octets (pointer + 1)
  let info : F3 := {
    harqProcessNumber0 := extract octet0 1 0b111
    transmissionFeedback0 :=
      .ofUnderlying (extract octet0 0 0b1)
    harqProcessNumber1 := extract octet1 5 0b111
    transmissionFeedback1 :=
      .ofUnderlying (extract octet1 4 0b1)
    mcs := cqi2Mcs (extract octet1 0 0b1111)
  }
  pure (info.isValid, info)

end F3

namespace F4

/-- Range check of format 4. -/
def isValid (info : F4) : Bool :=
  if 255 < info.harqFeedbackBitmap then false
  else if 11 < info.mcs then false
  else true

/-- Complete the octet at `pointer` and set the following one. -/
def pack
    (info : F4)
    (pointer : Nat)
    (memory : Memory) :
    Checked Memory := do
  dectnrpAssert info.isValid "invalid"
  let memory := memory.assignAnd pointer 0xF0
  let memory := memory.assignOr pointer (info.harqFeedbackBitmap >>> 4)
  let memory :=
    memory.assign (pointer + 1)
      ((info.harqFeedbackBitmap &&& 0b1111) <<< 4)
  let cqi ← mcs2Cqi info.mcs.toInt32
  pure (memory.assignOr (pointer + 1) cqi)

/-- Read format 4 and report whether it is valid. -/
def unpack
    (octets : List UInt8)
    (pointer : Nat) :
    Checked (Bool × F4) := do
  let octet0 ← loadOctet octets pointer
  let octet1 ← loadOctet octets (pointer + 1)
  let info : F4 := {
    harqFeedbackBitmap :=
      (extract octet0 0 0b1111 <<< 4) |||
        extract octet1 4 0b1111
    mcs := cqi2Mcs (extract octet1 0 0b1111)
  }
  pure (info.isValid, info)

end F4

namespace F5

/-- Range check of format 5. -/
def isValid (info : F5) : Bool :=
  if 7 < info.harqProcessNumber then false
  else if info.transmissionFeedback = .notDefined then false
  else if info.mimoFeedback = .notDefined then false
  else if 63 < info.codebookIndex then false
  else true

/-- Complete the octet at `pointer` and set the following one. -/
def pack
    (info : F5)
    (pointer : Nat)
    (memory : Memory) :
    Checked Memory := do
  dectnrpAssert info.isValid "invalid"
  let memory := memory.assignAnd pointer 0xF0
  let memory := memory.assignOr pointer (info.harqProcessNumber <<< 1)
  let memory := memory.assignOr pointer info.transmissionFeedback.toUnderlying
  let memory :=
    memory.assign (pointer + 1) (info.mimoFeedback.toUnderlying <<< 6)
  pure (memory.assignOr (pointer + 1) info.codebookIndex)

/-- Read format 5 and report whether it is valid. -/
def unpack
    (octets : List UInt8)
    (pointer : Nat) :
    Checked (Bool × F5) := do
  let octet0 ← loadOctet octets pointer
  let octet1 ← loadOctet octets (pointer + 1)
  let info : F5 := {
    harqProcessNumber := extract octet0 1 0b111
    transmissionFeedback :=
      .ofUnderlying (extract octet0 0 0b1)
    mimoFeedback := .ofUnderlying (extract octet1 6 0b11)
    codebookIndex := extract octet1 0 0b111111
  }
  pure (info.isValid, info)

end F5

namespace F6

/-- Range check of format 6. -/
def isValid (info : F6) : Bool :=
  if 7 < info.harqProcessNumber then false
  else if info.reserved ≠ 0 then false
  else if 15 < bufferSize2BufferStatus info.bufferSize then false
  else if 11 < info.mcs then false
  else true

/-- Complete the octet at `pointer` and set the following one. -/
def pack
    (info : F6)
    (pointer : Nat)
    (memory : Memory) :
    Checked Memory := do
  dectnrpAssert info.isValid "invalid"
  let memory := memory.assignAnd pointer 0xF0
  let memory := memory.assignOr pointer (info.harqProcessNumber <<< 1)
  let memory := memory.assignOr pointer info.reserved
  let memory :=
    memory.assign (pointer + 1)
      (bufferSize2BufferStatus info.bufferSize <<< 4)
  let cqi ← mcs2Cqi info.mcs.toInt32
  pure (memory.assignOr (pointer + 1) cqi)

/-- Read format 6 and report whether it is valid. -/
def unpack
    (octets : List UInt8)
    (pointer : Nat) :
    Checked (Bool × F6) := do
  let octet0 ← loadOctet octets pointer
  let octet1 ← loadOctet octets (pointer + 1)
  let info : F6 := {
    harqProcessNumber := extract octet0 1 0b111
    reserved := extract octet0 0 0b1
    bufferSize := bufferSizeLower (extract octet1 4 0b1111)
    mcs := cqi2Mcs (extract octet1 0 0b1111)
  }
  pure (info.isValid, info)

end F6

/-- One object of every feedback format. -/
structure Pool where
  f1 : F1
  f2 : F2
  f3 : F3
  f4 : F4
  f5 : F5
  f6 : F6
  deriving Repr, DecidableEq

namespace Pool

/-- Pack the object of the selected format. -/
def pack
    (pool : Pool)
    (feedbackFormat : UInt32)
    (pointer : Nat)
    (memory : Memory) :
    Checked Memory :=
  match feedbackFormat with
  | 0 =>
      pure ((memory.assignAnd pointer 0xF0).assign (pointer + 1) 0)
  | 1 => pool.f1.pack pointer memory
  | 2 => pool.f2.pack pointer memory
  | 3 => pool.f3.pack pointer memory
  | 4 => pool.f4.pack pointer memory
  | 5 => pool.f5.pack pointer memory
  | 6 => pool.f6.pack pointer memory
  | _ => do
      dectnrpAssert false "unknown feedback_format"
      pure memory

/-- Unpack the object of the selected format and keep all others. -/
def unpack
    (pool : Pool)
    (feedbackFormat : UInt32)
    (octets : List UInt8)
    (pointer : Nat) :
    Checked (Bool × Pool) :=
  match feedbackFormat with
  | 0 => do
      let octet0 ← loadOctet octets pointer
      if extract octet0 0 0b1111 ≠ 0 then
        pure (false, pool)
      else do
        let octet1 ← loadOctet octets (pointer + 1)
        if octet1 ≠ 0 then
          pure (false, pool)
        else
          pure (true, pool)
  | 1 => do
      let (valid, info) ← F1.unpack octets pointer
      pure (valid, { pool with f1 := info })
  | 2 => do
      let (valid, info) ← F2.unpack octets pointer
      pure (valid, { pool with f2 := info })
  | 3 => do
      let (valid, info) ← F3.unpack octets pointer
      pure (valid, { pool with f3 := info })
  | 4 => do
      let (valid, info) ← F4.unpack octets pointer
      pure (valid, { pool with f4 := info })
  | 5 => do
      let (valid, info) ← F5.unpack octets pointer
      pure (valid, { pool with f5 := info })
  | 6 => do
      let (valid, info) ← F6.unpack octets pointer
      pure (valid, { pool with f6 := info })
  | _ => pure (false, pool)

end Pool

end FeedbackInfo

end DectNrp
