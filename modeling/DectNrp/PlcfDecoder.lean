import DectNrp.PlcfCodec
import DectNrp.PhysicalResources

namespace DectNrp

/-!
# Decoder of the physical layer control field

The decoder owns one object of every implemented kind.  For each packet it is
configured once and then called for the types whose checksum was correct.  The
objects are never cleared: only the header format of a type tells whether its
object belongs to the current packet.
-/

namespace PlcfBase

def getPacketLength (base : PlcfBase) : UInt32 :=
  base.packetLengthM1 + 1

/-- Table that undoes the coding of the number of spatial streams. -/
def nSsCodedLutRev : List UInt32 := [1, 2, 4, 8]

end PlcfBase

namespace PlcfKind

def getType : PlcfKind → Nat
  | .plcf10 => 1
  | .plcf20 => 2
  | .plcf21 => 2

def getHeaderFormat : PlcfKind → UInt32
  | .plcf10 => 0
  | .plcf20 => 0
  | .plcf21 => 1

/-- Dispatch `get_N_SS` to the class of the object. -/
def getNSs : (kind : PlcfKind) → kind.Header → Checked UInt32
  | .plcf10, _ => .ok 1
  | .plcf20, header =>
      elementAt PlcfBase.nSsCodedLutRev
        header.numberOfSpatialStreams.toNat
  | .plcf21, header =>
      elementAt PlcfBase.nSsCodedLutRev
        header.numberOfSpatialStreams.toNat

end PlcfKind

/-- What the radio device class supports. -/
structure PlcfLimits where
  packetLengthMax : UInt32
  mcsIndexMax : UInt32
  nSsMax : UInt32

/-- Decoder with its objects and one header format for each type. -/
structure PlcfDecoder extends PlcfLimits where
  headerFormatType1 : UInt32
  plcf10 : Plcf10
  headerFormatType2 : UInt32
  plcf20 : Plcf20
  plcf21 : Plcf21

namespace PlcfDecoder

/-- Kinds of type 1, ordered by header format. -/
def arrayPlcfType1 : List PlcfKind := [.plcf10]

/-- Kinds of type 2, ordered by header format. -/
def arrayPlcfType2 : List PlcfKind := [.plcf20, .plcf21]

/-- Object that a base pointer points to. -/
def object
    (decoder : PlcfDecoder) :
    (kind : PlcfKind) → kind.Header
  | .plcf10 => decoder.plcf10
  | .plcf20 => decoder.plcf20
  | .plcf21 => decoder.plcf21

/-- Change the object that a base pointer points to. -/
def setObject
    (decoder : PlcfDecoder) :
    (kind : PlcfKind) → kind.Header → PlcfDecoder
  | .plcf10, header => { decoder with plcf10 := header }
  | .plcf20, header => { decoder with plcf20 := header }
  | .plcf21, header => { decoder with plcf21 := header }

def setConfiguration (decoder : PlcfDecoder) : PlcfDecoder :=
  { decoder with
    headerFormatType1 := undefinedNumeric32
    headerFormatType2 := undefinedNumeric32 }

/-- A new decoder; its objects are not initialised. -/
def construct
    (limits : PlcfLimits)
    (plcf10 : Plcf10)
    (plcf20 : Plcf20)
    (plcf21 : Plcf21) :
    PlcfDecoder :=
  setConfiguration
    { toPlcfLimits := limits
      headerFormatType1 := 0
      plcf10 := plcf10
      headerFormatType2 := 0
      plcf20 := plcf20
      plcf21 := plcf21 }

/-- The fields must stay within the radio device class. -/
def checkRdcLimits
    (limits : PlcfLimits)
    (kind : PlcfKind)
    (header : kind.Header) :
    Checked Bool :=
  if limits.packetLengthMax < (kind.base header).getPacketLength then
    pure false
  else if limits.mcsIndexMax < (kind.base header).dfmcs then
    pure false
  else do
    let nSs ← kind.getNSs header
    pure (decide (nSs ≤ limits.nSsMax))

/--
Unpack the object with the candidate's header format and check its limits; both
cases of `decode_and_rdc_check` do so.
-/
def unpackCandidate
    (decoder : PlcfDecoder)
    (arrayPlcf : List PlcfKind)
    (headerFormatCandidate : UInt32)
    (plcfFront : List UInt8) :
    Checked (Bool × PlcfDecoder) :=
  match arrayPlcf[headerFormatCandidate.toNat]? with
  | none => pure (false, decoder)
  | some kind => do
      let (valid, header) ←
        kind.unpack (decoder.object kind) plcfFront
      let decoder := decoder.setObject kind header
      if ¬ valid then
        pure (false, decoder)
      else do
        let within ←
          checkRdcLimits decoder.toPlcfLimits kind (decoder.object kind)
        pure (within, decoder)

def decodeAndRdcCheck
    (decoder : PlcfDecoder)
    (plcfType : Nat)
    (plcfFront : List UInt8) :
    Checked PlcfDecoder := do
  dectnrpAssert (plcfType == 1 || plcfType == 2) "unknown PLCF type"
  let octet0 ← loadOctet plcfFront 0
  let headerFormatCandidate := BitFields.extract octet0 5 0b111
  match plcfType with
  | 1 => do
      dectnrpAssert (decoder.headerFormatType1 == undefinedNumeric32)
        "Header format already defined. Function set_configuration() called?"
      let (accepted, decoder) ←
        decoder.unpackCandidate arrayPlcfType1 headerFormatCandidate
          plcfFront
      if accepted then
        pure { decoder with headerFormatType1 := headerFormatCandidate }
      else
        pure decoder
  | _ => do
      dectnrpAssert (decoder.headerFormatType2 == undefinedNumeric32)
        "Header format already defined. Function set_configuration() called?"
      let (accepted, decoder) ←
        decoder.unpackCandidate arrayPlcfType2 headerFormatCandidate
          plcfFront
      if accepted then
        pure { decoder with headerFormatType2 := headerFormatCandidate }
      else
        pure decoder

/-- The object of a header format, if the header format is defined. -/
def objectOf
    (decoder : PlcfDecoder)
    (arrayPlcf : List PlcfKind)
    (headerFormat : UInt32) :
    Checked (Option ((kind : PlcfKind) × kind.Header)) :=
  if headerFormat ≠ undefinedNumeric32 then do
    let kind ← elementAt arrayPlcf headerFormat.toNat
    dectnrpAssert (headerFormat == kind.getHeaderFormat)
      "not the same header format"
    pure (some ⟨kind, decoder.object kind⟩)
  else
    pure none

/-- The base pointer of a type, with the class that it can be cast to. -/
def getPlcfBase
    (decoder : PlcfDecoder)
    (plcfType : Nat) :
    Checked (Option ((kind : PlcfKind) × kind.Header)) := do
  dectnrpAssert (plcfType == 1 || plcfType == 2) "unknown PLCF type"
  match plcfType with
  | 1 => decoder.objectOf arrayPlcfType1 decoder.headerFormatType1
  | _ => decoder.objectOf arrayPlcfType2 decoder.headerFormatType2

end PlcfDecoder

/-- The calls for one packet: each type at most once, in any order. -/
structure PlcfPacket where
  calls : List (Nat × List UInt8)
  sized :
    ∀ call ∈ calls,
      (call.1 = 1 ∧ call.2.length = 5) ∨
        (call.1 = 2 ∧ call.2.length = 10)
  once : (calls.map Prod.fst).Nodup

namespace PlcfDecoder

/-- Decode candidate after candidate. -/
def decodeCalls :
    List (Nat × List UInt8) → PlcfDecoder → Checked PlcfDecoder
  | [], decoder => .ok decoder
  | (plcfType, plcfFront) :: calls, decoder => do
      let decoder ← decoder.decodeAndRdcCheck plcfType plcfFront
      decodeCalls calls decoder

/-- Configure the decoder for a packet and decode its candidates. -/
def decodePacket
    (decoder : PlcfDecoder)
    (packet : PlcfPacket) :
    Checked PlcfDecoder :=
  decodeCalls packet.calls decoder.setConfiguration

/-- Decode packet after packet. -/
def decodePackets :
    List PlcfPacket → PlcfDecoder → Checked PlcfDecoder
  | [], decoder => .ok decoder
  | packet :: packets, decoder => do
      let decoder ← decoder.decodePacket packet
      decodePackets packets decoder

end PlcfDecoder

end DectNrp
