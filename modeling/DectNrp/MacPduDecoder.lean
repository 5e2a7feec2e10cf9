import DectNrp.MacHeader
import DectNrp.Mmie

namespace DectNrp

/-!
# MAC PDU decoder

The decoder demultiplexes one transport block while its octets arrive.  It is
called with the number of octets written so far, works until the next header
or element is incomplete, and continues from there when it is called again.

Elements are unpacked into a pool that outlives the transport block.  Only
elements with valid contents are listed; the others leave their place in the
pool to the next element of their type.
-/

/-- Working and final states of the decoder. -/
inductive MacPduDecoderState where
  | macHeaderType
  | macCommonHeader
  | macMuxHeaderUnpackMacExtIeType
  | aMacMuxHeaderUnpackLengthOrFixedSize
  | bMacMessageIePeek
  | macMessageIeUnpack
  | macPduCheckIfDone
  | macPduDone
  | macPduPrematureAbort
  deriving Repr, DecidableEq

/-- Address of an element of the pool. -/
structure MmieRef where
  type : MmieType
  index : Nat
  deriving Repr, DecidableEq

/-- The decoder and its pool. -/
structure MacPduDecoder where
  aCntWTb : Nat
  aCntR : Nat
  state : MacPduDecoderState
  /-- Whether `mht_effective` points to the header type. -/
  mhtEffective : Bool
  mht : MacHeaderType
  /-- Whether `mch_effective` points to the common header. -/
  mchEffective : Bool
  mchVariant : MacCommonHeader
  mu : Nat
  nBytesRequired : Nat
  mmh : MacMultiplexingHeader
  mmie : Option MmieRef
  indexNextIe : MmieType → Nat
  mmieDecodedVec : List MmieRef
  pool : MmieRef → Mmie

namespace MacPduDecoder

/-- Sum of two 32-bit counters. -/
def add32 (first second : Nat) : Nat :=
  (first + second) % 2 ^ 32

/-- Difference of two 32-bit counters. -/
def sub32 (first second : Nat) : Nat :=
  (first + 2 ^ 32 - second) % 2 ^ 32

def maxNofUserPlaneDataPerMacPdu : Nat := 8

/-- How often the pool holds a type; padding is not pooled. -/
def nofElements : MmieType → Nat
  | .paddingIe => 0
  | .userPlaneData => maxNofUserPlaneDataPerMacPdu
  | _ => 1

/-- A newly constructed decoder; counters are set by a configuration. -/
def construct : MacPduDecoder where
  aCntWTb := 0
  aCntR := 0
  state := .macHeaderType
  mhtEffective := false
  mht := .zero
  mchEffective := false
  mchVariant := .dataMacPdu ⟨.zero⟩
  mu := 0
  nBytesRequired := 0
  mmh := .zero
  mmie := none
  indexNextIe := fun _ => 0
  mmieDecodedVec := []
  pool := fun ref => .construct ref.type

/-- Prepare for a transport block of a given size. -/
def setConfiguration
    (decoder : MacPduDecoder)
    (aCntWTb mu : Nat) :
    Checked MacPduDecoder := do
  dectnrpAssert (0 < aCntWTb) "number of bytes in TB must be larger 0"
  let decoder := { decoder with
    aCntWTb := aCntWTb
    state := .macHeaderType
    aCntR := 0
    mhtEffective := false
    mht := .zero
    mchEffective := false
    mu := mu
    nBytesRequired := MacHeaderType.getPackedSize .zero
    mmh := .zero
    mmie := none
    indexNextIe := fun _ => 0
    mmieDecodedVec := []
  }
  dectnrpAssert
    (add32 decoder.aCntR decoder.nBytesRequired ≤ decoder.aCntWTb)
    "first state requires too many bytes"
  pure decoder

def prepareMacPduCheckIfDone
    (decoder : MacPduDecoder) :
    MacPduDecoder :=
  { decoder with
    state := .macPduCheckIfDone
    nBytesRequired := 0 }

def prepareMacPduPrematureAbort
    (decoder : MacPduDecoder) :
    MacPduDecoder :=
  { decoder with
    state := .macPduPrematureAbort
    nBytesRequired := 0 }

/-- The next free element of a type, if there is one. -/
def getMmieFromPool
    (decoder : MacPduDecoder)
    (type : MmieType) :
    Option MmieRef :=
  if decoder.indexNextIe type < nofElements type then
    some ⟨type, decoder.indexNextIe type⟩
  else
    none

/-- Change one element of the pool. -/
def updatePool
    (decoder : MacPduDecoder)
    (ref : MmieRef)
    (mmie : Mmie) :
    MacPduDecoder :=
  { decoder with pool := Function.update decoder.pool ref mmie }

/-- The element being decoded; the pointer is set in these states. -/
def currentMmie
    (decoder : MacPduDecoder) :
    Checked MmieRef :=
  match decoder.mmie with
  | some ref => .ok ref
  | none => .error (.assertion "nullptr")

/-- State `MAC_HEADER_TYPE`. -/
def unpackHeaderType
    (decoder : MacPduDecoder)
    (octets : List UInt8)
    (aCntW : Nat) :
    Checked MacPduDecoder := do
  dectnrpAssert (decoder.aCntR = 0)
    "packets always start with MAC header type"
  dectnrpAssert (0 < aCntW) "at least one byte must have been written"
  let (valid, mht) ← decoder.mht.unpack octets decoder.aCntR
  let decoder := { decoder with mht := mht }
  if ! valid then
    pure decoder.prepareMacPduPrematureAbort
  else do
    let decoder := { decoder with
      mhtEffective := true
      aCntR := add32 decoder.aCntR decoder.nBytesRequired
    }
    dectnrpAssert (decoder.aCntR = 1) "must be one byte"
    let mchVariant ← MacCommonHeader.emplace decoder.mht.macHeaderType
    pure { decoder with
      state := .macCommonHeader
      mchEffective := true
      mchVariant := mchVariant
      nBytesRequired := mchVariant.getPackedSize
    }

/-- State `MAC_COMMON_HEADER`. -/
def unpackCommonHeader
    (decoder : MacPduDecoder)
    (octets : List UInt8) :
    Checked MacPduDecoder := do
  let (valid, mchVariant) ←
    decoder.mchVariant.unpack octets decoder.aCntR
  let decoder := { decoder with mchVariant := mchVariant }
  if ! valid then
    pure { decoder with
      mchEffective := false }.prepareMacPduPrematureAbort
  else
    pure { decoder with
      aCntR := add32 decoder.aCntR decoder.nBytesRequired
      state := .macMuxHeaderUnpackMacExtIeType
      nBytesRequired := MacMultiplexingHeader.packedSizeMinToPeek
    }

/-- State `MAC_MUX_HEADER_UNPACK_MAC_EXT_IE_TYPE`. -/
def unpackMacExtIeType
    (decoder : MacPduDecoder)
    (octets : List UInt8) :
    Checked MacPduDecoder := do
  let (known, mmh) ←
    MacMultiplexingHeader.zero.unpackMacExtIeType octets decoder.aCntR
  let decoder := { decoder with mmh := mmh }
  match known, mmh.tinfo with
  | true, some type =>
      if type = .paddingIe then
        -- padding terminates the MAC PDU as far as elements go
        pure decoder.prepareMacPduPrematureAbort
      else
        let mmie := decoder.getMmieFromPool type
        let decoder := { decoder with mmie := mmie }
        match mmie with
        | none => pure decoder.prepareMacPduPrematureAbort
        | some ref =>
            match (decoder.pool ref).body with
            | .clusterBeaconMessage _ =>
                -- the size has to be peeked at
                let decoder := decoder.updatePool ref
                  { decoder.pool ref with macMultiplexingHeader := mmh }
                pure { decoder with
                  aCntR := add32 decoder.aCntR decoder.nBytesRequired
                  state := .bMacMessageIePeek
                  nBytesRequired :=
                    ClusterBeaconMessage.getPackedSizeMinToPeek
                }
            | _ => do
                let headerSize ← mmh.getPackedSize
                pure { decoder with
                  state := .aMacMuxHeaderUnpackLengthOrFixedSize
                  nBytesRequired := headerSize
                }
  | _, _ => pure decoder.prepareMacPduPrematureAbort

/-- State `A_MAC_MUX_HEADER_UNPACK_LENGTH_OR_FIXED_SIZE`. -/
def unpackLengthOrFixedSize
    (decoder : MacPduDecoder)
    (octets : List UInt8) :
    Checked MacPduDecoder := do
  let mmh ← decoder.mmh.unpackLength octets decoder.aCntR
  let ref ← decoder.currentMmie
  let mmie := { decoder.pool ref with macMultiplexingHeader := mmh }
  let decoder := { decoder with mmh := mmh }.updatePool ref mmie
  pure { decoder with
    aCntR := add32 decoder.aCntR decoder.nBytesRequired
    state := .macMessageIeUnpack
    nBytesRequired :=
      if mmh.length < undefinedNumeric32 then
        mmh.length.toNat
      else
        mmie.getPackedSizeOfSdu
  }

/-- State `B_MAC_MESSAGE_IE_PEEK`. -/
def peekMmie
    (decoder : MacPduDecoder)
    (octets : List UInt8) :
    Checked MacPduDecoder := do
  let ref ← decoder.currentMmie
  let mmie := decoder.pool ref
  match mmie.body with
  | .clusterBeaconMessage message => do
      let message ← message.setMu decoder.mu
      let decoder := decoder.updatePool ref
        { mmie with body := .clusterBeaconMessage message }
      let decoder := { decoder with state := .macMessageIeUnpack }
      let peeked ←
        message.getPackedSizeByPeeking octets decoder.aCntR
      match peeked with
      | some size => pure { decoder with nBytesRequired := size }
      | none => pure decoder.prepareMacPduPrematureAbort
  | _ => .error (.assertion "nullptr")

/-- Unpack the contents of an element and report whether they are valid. -/
def unpackContents
    (mmie : Mmie)
    (octets : List UInt8)
    (aCntR : Nat) :
    Checked (Bool × Mmie) :=
  match mmie.body with
  | .clusterBeaconMessage message => do
      let (valid, message) ← message.unpack octets aCntR
      pure (valid, { mmie with body := .clusterBeaconMessage message })
  | .powerTargetIe ie => do
      let (valid, ie) ← ie.unpack octets aCntR
      pure (valid, { mmie with body := .powerTargetIe ie })
  | .timeAnnounceIe ie => do
      let (valid, ie) ← ie.unpack octets aCntR
      pure (valid, { mmie with body := .timeAnnounceIe ie })
  | .userPlaneData _ =>
      -- not really unpacking, the payload can be copied from here
      .ok (true, { mmie with body := .userPlaneData (some aCntR) })
  | .paddingIe => .error (.assertion "must be flowing")

/-- State `MAC_MESSAGE_IE_UNPACK`. -/
def unpackMmie
    (decoder : MacPduDecoder)
    (octets : List UInt8) :
    Checked MacPduDecoder := do
  let ref ← decoder.currentMmie
  let (valid, mmie) ←
    unpackContents (decoder.pool ref) octets decoder.aCntR
  let decoder := decoder.updatePool ref mmie
  let decoder ←
    if valid then
      match mmie.macMultiplexingHeader.tinfo with
      | some type =>
          .ok { decoder with
            indexNextIe :=
              Function.update decoder.indexNextIe type
                (decoder.indexNextIe type + 1)
            mmieDecodedVec := decoder.mmieDecodedVec ++ [ref]
          }
      | none => .error (.assertion "nullptr")
    else
      .ok decoder
  pure { decoder with
    aCntR := add32 decoder.aCntR decoder.nBytesRequired
  }.prepareMacPduCheckIfDone

/-- What one pass of the loop ends with. -/
inductive Pass where
  | again (decoder : MacPduDecoder)
  | returned (decoder : MacPduDecoder)

/-- The `switch` of the loop. -/
def switchState
    (decoder : MacPduDecoder)
    (octets : List UInt8)
    (aCntW : Nat) :
    Checked Pass :=
  match decoder.state with
  | .macHeaderType => do
      let decoder ← decoder.unpackHeaderType octets aCntW
      pure (.again decoder)
  | .macCommonHeader => do
      let decoder ← decoder.unpackCommonHeader octets
      pure (.again decoder)
  | .macMuxHeaderUnpackMacExtIeType => do
      let decoder ← decoder.unpackMacExtIeType octets
      pure (.again decoder)
  | .aMacMuxHeaderUnpackLengthOrFixedSize => do
      let decoder ← decoder.unpackLengthOrFixedSize octets
      pure (.again decoder)
  | .bMacMessageIePeek => do
      let decoder ← decoder.peekMmie octets
      pure (.again decoder)
  | .macMessageIeUnpack => do
      let decoder ← decoder.unpackMmie octets
      pure (.again decoder)
  | .macPduCheckIfDone =>
      if decoder.aCntR < decoder.aCntWTb then
        pure (.again { decoder with
          state := .macMuxHeaderUnpackMacExtIeType
          nBytesRequired := MacMultiplexingHeader.packedSizeMinToPeek })
      else
        pure (.returned { decoder with state := .macPduDone })
  | .macPduDone =>
      .error (.assertion "decoding despite MAC PDU being done")
  | .macPduPrematureAbort =>
      pure (.returned { decoder with aCntR := aCntW })

/-- One pass of the loop. -/
def pass
    (decoder : MacPduDecoder)
    (octets : List UInt8)
    (aCntW : Nat) :
    Checked Pass :=
  -- never expect more bytes than the transport block will contain
  if decoder.aCntWTb < add32 decoder.aCntR decoder.nBytesRequired then
    decoder.prepareMacPduPrematureAbort.switchState octets aCntW
  else if sub32 aCntW decoder.aCntR < decoder.nBytesRequired then
    pure (.returned decoder)
  else
    decoder.switchState octets aCntW

/-- The loop; `none` if it has not returned after `fuel` passes. -/
def loop
    (octets : List UInt8)
    (aCntW : Nat) :
    Nat → MacPduDecoder → Checked (Option MacPduDecoder)
  | 0, _ => .ok none
  | fuel + 1, decoder => do
      match ← decoder.pass octets aCntW with
      | .again decoder => loop octets aCntW fuel decoder
      | .returned decoder => pure (some decoder)

/--
Decode the first `aCntW` octets at `a`.  Nothing behind them can be read.
-/
def decode
    (decoder : MacPduDecoder)
    (fuel : Nat)
    (a : Memory)
    (aCntW : Nat) :
    Checked (Option MacPduDecoder) := do
  dectnrpAssert (aCntW ≤ decoder.aCntWTb) "invalid write counter"
  dectnrpAssert (decoder.aCntR ≤ aCntW) "invalid read counter"
  loop (a.window 0 aCntW) aCntW fuel decoder

def hasReachedValidFinalState
    (decoder : MacPduDecoder) :
    Checked Bool := do
  let final :=
    decoder.state = .macPduDone || decoder.state = .macPduPrematureAbort
  dectnrpAssert (decoder.aCntR = decoder.aCntWTb)
    "not all bytes given to decoder"
  dectnrpAssert final "state machine left in invalid state"
  pure (decoder.aCntR = decoder.aCntWTb && final)

/-- The header type, or `none` if decoding it failed. -/
def getMacHeaderType
    (decoder : MacPduDecoder) :
    Option MacHeaderType :=
  if decoder.mhtEffective then some decoder.mht else none

/-- The common header, or `none` if decoding it failed. -/
def getMacCommonHeader
    (decoder : MacPduDecoder) :
    Option MacCommonHeader :=
  if decoder.mchEffective then some decoder.mchVariant else none

def getMmieDecodedVec (decoder : MacPduDecoder) : List MmieRef :=
  decoder.mmieDecodedVec

/-- The elements that the decoded references point to. -/
def decodedMmies (decoder : MacPduDecoder) : List Mmie :=
  decoder.getMmieDecodedVec.map decoder.pool

end MacPduDecoder

end DectNrp
