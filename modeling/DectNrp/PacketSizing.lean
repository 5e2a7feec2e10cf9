import DectNrp.TransportBlockSize

namespace DectNrp

/-!
# Packet sizes

The sizes of a packet follow from its numerology, bandwidth, length,
transmission mode, modulation and code block size.  Not every combination is a
packet: it may be too short for its reference signals, or leave no cells for
the data channel, or too few bits for a transport block without filler bits.
-/

namespace Sp3

/-- What a radio device supports at least. -/
structure RadioDeviceClass where
  uMin : Nat
  bMin : Nat
  nTxMin : Nat
  mcsIndexMin : Nat
  mDlHarqMin : Nat
  mConnectionDlHarqMin : Nat
  nSoftMin : Nat
  zMin : Nat
  packetLengthMin : Nat
  deriving Repr, DecidableEq

/-- The classes by their names. -/
def radioDeviceClasses : List (String × RadioDeviceClass) :=
  [("1.1.1.A", ⟨1, 1, 1, 7, 8, 2, 25344, 2048, 4⟩),
   ("1.1.1.B", ⟨1, 1, 1, 7, 8, 2, 25344, 6144, 4⟩),
   ("8.1.1.A", ⟨8, 1, 1, 7, 8, 2, 25344, 6144, 4⟩),
   ("1.8.1.A", ⟨1, 8, 1, 7, 8, 2, 25344, 6144, 4⟩),
   ("2.8.2.A", ⟨2, 8, 2, 7, 8, 2, 25344, 6144, 4⟩),
   ("2.12.4.A", ⟨2, 12, 4, 7, 8, 2, 25344, 2048, 4⟩),
   ("2.12.4.B", ⟨2, 12, 4, 7, 8, 2, 25344, 6144, 4⟩),
   ("8.12.8.A", ⟨8, 12, 8, 9, 8, 2, 225344, 6144, 16⟩),
   ("8.16.8.A", ⟨8, 16, 8, 9, 8, 2, 225344, 6144, 16⟩)]

def getRadioDeviceClass
    (radioDeviceClassString : String) :
    Checked RadioDeviceClass :=
  match radioDeviceClasses.lookup radioDeviceClassString with
  | some radioDeviceClass => .ok radioDeviceClass
  | none => .error (.assertion "Unknown Radio Device Class")

/-- Exactly one bit is set. -/
def hasSingleBit (x : Nat) : Bool :=
  x != 0 && (x &&& (x - 1)) == 0

/-- Dimensions that follow from numerology and bandwidth. -/
structure Numerologies where
  u : Nat
  b : Nat
  deltaUF : Nat
  nSlotUSymb : Nat
  nSlotUSubslot : Nat
  bUBDft : Nat
  nBDft : Nat
  nBCp : Nat
  nBOcc : Nat
  nGuardsTop : Nat
  nGuardsBottom : Nat
  deriving Repr, DecidableEq

def getNumerologies (u b : Nat) : Checked Numerologies := do
  dectnrpAssert (hasSingleBit u && u ≤ 8) "u undefined"
  dectnrpAssert ((hasSingleBit b && b ≤ 16) || b == 12) "b undefined"
  let nGuardsTop := (b * 64 - b * 56) / 2 - 1
  pure
    { u := u
      b := b
      deltaUF := u * 27000
      nSlotUSymb := u * 10
      nSlotUSubslot := u * 2
      bUBDft := b * 64 * (u * 27000)
      nBDft := b * 64
      nBCp := b * 8
      nBOcc := b * 56
      nGuardsTop := nGuardsTop
      nGuardsBottom := nGuardsTop + 1 }

/-- Transmission mode. -/
structure TmMode where
  index : Nat
  nEffTx : Nat
  nSs : Nat
  /-- Closed loop. -/
  cl : Bool
  nTs : Nat
  nTx : Nat
  deriving Repr, DecidableEq

/-- The transmission modes by their index. -/
def tmModes : List TmMode :=
  [⟨0, 1, 1, false, 1, 1⟩, ⟨1, 2, 1, false, 2, 2⟩,
   ⟨2, 2, 2, false, 2, 2⟩, ⟨3, 1, 1, true, 1, 2⟩,
   ⟨4, 2, 2, true, 2, 2⟩, ⟨5, 4, 1, false, 4, 4⟩,
   ⟨6, 4, 4, false, 4, 4⟩, ⟨7, 1, 1, true, 1, 4⟩,
   ⟨8, 2, 2, true, 2, 4⟩, ⟨9, 4, 4, true, 4, 4⟩,
   ⟨10, 8, 1, false, 8, 8⟩, ⟨11, 8, 8, false, 8, 8⟩]

def getTmMode (index : Nat) : Checked TmMode :=
  match tmModes[index]? with
  | some tmMode => .ok tmMode
  | none => .error (.assertion "tm_mode_index undefined")

def getMaxTmModeIndexDependingOnNTx (nTx : Nat) : Checked Nat := do
  dectnrpAssert (nTx == 1 || nTx == 2 || nTx == 4 || nTx == 8)
    "N_TX undefined"
  pure
    (match nTx with
      | 1 => 0
      | 2 => 4
      | 4 => 9
      | _ => 11)

def getEquivalentTmMode (nEffTx nSs : Nat) : Checked Nat := do
  dectnrpAssert
    (nEffTx == 1 || nEffTx == 2 || nEffTx == 4 || nEffTx == 8)
    "N_eff_TX undefined"
  dectnrpAssert (0 < nSs) "N_SS undefined"
  pure
    (match nEffTx with
      | 1 => 0
      | 2 => if nSs = 1 then 1 else 2
      | 4 => if nSs = 1 then 5 else 6
      | _ => if nSs = 1 then 10 else 11)

/-- Modulation and coding scheme. -/
structure Mcs where
  index : Nat
  nBps : Nat
  rNumerator : Nat
  rDenominator : Nat
  deriving Repr, DecidableEq

/-- The modulation and coding schemes by their index. -/
def mcsTable : List Mcs :=
  [⟨0, 1, 1, 2⟩, ⟨1, 2, 1, 2⟩, ⟨2, 2, 3, 4⟩, ⟨3, 4, 1, 2⟩,
   ⟨4, 4, 3, 4⟩, ⟨5, 6, 2, 3⟩, ⟨6, 6, 3, 4⟩, ⟨7, 6, 5, 6⟩,
   ⟨8, 8, 3, 4⟩, ⟨9, 8, 5, 6⟩, ⟨10, 10, 3, 4⟩, ⟨11, 10, 5, 6⟩]

def getMcs (index : Nat) : Checked Mcs :=
  match mcsTable[index]? with
  | some mcs => .ok mcs
  | none => .error (.assertion "MCS out of bound")

def getNPacketSymb
    (packetLengthType packetLength nSlotUSymb nSlotUSubslot : Nat) :
    Nat :=
  if packetLengthType = 0 then
    packetLength * nSlotUSymb / nSlotUSubslot
  else
    packetLength * nSlotUSymb

def getNSamplesOfdmSymbol (b : Nat) : Nat :=
  72 * b

def getNSamplesStf (u b : Nat) : Nat :=
  if u = 1 then
    getNSamplesOfdmSymbol b * 14 / 9
  else if u = 2 ∨ u = 4 ∨ u = 8 then
    getNSamplesOfdmSymbol b * 2
  else
    0

def getNSamplesStfCpOnly (u b : Nat) : Nat :=
  getNSamplesStf u b - 64 * b

def getNSamplesDf (u b nPacketSymb : Nat) : Nat :=
  getNSamplesOfdmSymbol b * Pdc.getNDfSymb u nPacketSymb

def getNSamplesGi (u b : Nat) : Nat :=
  if u = 1 then
    getNSamplesOfdmSymbol b * 4 / 9
  else if u = 2 ∨ u = 4 then
    getNSamplesOfdmSymbol b
  else if u = 8 then
    getNSamplesOfdmSymbol b * 2
  else
    0

/-- What the sizes of a packet follow from. -/
structure PacketSizesDef where
  u : Nat
  b : Nat
  packetLengthType : Nat
  packetLength : Nat
  tmModeIndex : Nat
  mcsIndex : Nat
  Z : Nat
  deriving Repr, DecidableEq

/-- The sizes of a packet. -/
structure PacketSizes where
  psdef : PacketSizesDef
  numerology : Numerologies
  mcs : Mcs
  tmMode : TmMode
  nPacketSymb : Nat
  nPdcSubc : Nat
  G : Nat
  nPdcBits : Nat
  nTbBits : Nat
  nTbByte : Nat
  C : Nat
  nDfSymb : Nat
  nDrsSubc : Nat
  nSamplesOfdmSymbol : Nat
  nSamplesStf : Nat
  nSamplesStfCpOnly : Nat
  nSamplesDf : Nat
  nSamplesGi : Nat
  nSamplesPacketNoGi : Nat
  nSamplesPacket : Nat
  deriving Repr, DecidableEq

/-- Last part of `get_packet_sizes`: the packet is possible. -/
def fillPacketSizes
    (qq : PacketSizesDef)
    (numerology : Numerologies)
    (mcs : Mcs)
    (tmMode : TmMode)
    (nPacketSymb nPdcSubc nTbBits C : Nat) :
    Checked PacketSizes := do
  let nDrsSubc ←
    Pdc.getNDrsSubc qq.u nPacketSymb tmMode.nEffTx numerology.nBOcc
  let nSamplesStf := getNSamplesStf qq.u qq.b
  let nSamplesDf := getNSamplesDf qq.u qq.b nPacketSymb
  let nSamplesGi := getNSamplesGi qq.u qq.b
  let nSamplesPacket := nSamplesStf + nSamplesDf + nSamplesGi
  dectnrpAssert
    (nSamplesPacket ==
      getNSamplesStfCpOnly qq.u qq.b + 64 * qq.b + nSamplesDf +
        nSamplesGi)
    "Incorrect number of samples for STF, DF and GI."
  dectnrpAssert
    (nSamplesPacket == getNSamplesOfdmSymbol qq.b * nPacketSymb)
    "Incorrect number of samples for STF, DF and GI."
  pure
    { psdef := qq
      numerology := numerology
      mcs := mcs
      tmMode := tmMode
      nPacketSymb := nPacketSymb
      nPdcSubc := nPdcSubc
      G := TransportBlockSize.getG tmMode.nSs nPdcSubc mcs.nBps
      nPdcBits :=
        TransportBlockSize.getNPdcBits tmMode.nSs nPdcSubc mcs.nBps
          mcs.rNumerator mcs.rDenominator
      nTbBits := nTbBits
      nTbByte := TransportBlockSize.ceilDivideInteger nTbBits 8
      C := C
      nDfSymb := Pdc.getNDfSymb qq.u nPacketSymb
      nDrsSubc := nDrsSubc
      nSamplesOfdmSymbol := getNSamplesOfdmSymbol qq.b
      nSamplesStf := nSamplesStf
      nSamplesStfCpOnly := getNSamplesStfCpOnly qq.u qq.b
      nSamplesDf := nSamplesDf
      nSamplesGi := nSamplesGi
      nSamplesPacketNoGi := nSamplesStf + nSamplesDf
      nSamplesPacket := nSamplesPacket }

/-- Middle part of `get_packet_sizes`: the reference signals have room. -/
def sizeDataChannel
    (qq : PacketSizesDef)
    (numerology : Numerologies)
    (tmMode : TmMode)
    (nPacketSymb : Nat) :
    Checked (Option PacketSizes) := do
  let nPdcSubc ←
    Pdc.getNPdcSubc nPacketSymb qq.u tmMode.nEffTx numerology.nBOcc
  if nPdcSubc = 0 then
    pure none
  else do
    let mcs ← getMcs qq.mcsIndex
    let nTbBits :=
      TransportBlockSize.getNTbBits tmMode.nSs nPdcSubc mcs.nBps
        mcs.rNumerator mcs.rDenominator qq.Z
    if nTbBits = 0 then
      pure none
    else
      match srsranCbsegmFix nTbBits qq.Z with
      | none =>
          .error (.assertion
            "Error computing Codeword Segmentation for TBS")
      | some cbSegm =>
          if 0 < cbSegm.F then
            pure none
          else do
            let q ←
              fillPacketSizes qq numerology mcs tmMode nPacketSymb
                nPdcSubc nTbBits cbSegm.C
            pure (some q)

/-- The sizes of a packet, or nothing if there is no such packet. -/
def getPacketSizes
    (qq : PacketSizesDef) :
    Checked (Option PacketSizes) := do
  dectnrpAssert (hasSingleBit qq.u && qq.u ≤ 8) "u undefined"
  dectnrpAssert ((hasSingleBit qq.b && qq.b ≤ 16) || qq.b == 12)
    "b undefined"
  dectnrpAssert (qq.packetLengthType ≤ 1) "PacketLengthType undefined"
  dectnrpAssert (0 < qq.packetLength && qq.packetLength ≤ 16)
    "PacketLength undefined"
  dectnrpAssert (qq.tmModeIndex ≤ 11) "tm_mode_index undefined"
  dectnrpAssert (qq.mcsIndex ≤ 11) "mcs_index undefined"
  dectnrpAssert (qq.Z == 2048 || qq.Z == 6144) "mcs_index undefined"
  let numerology ← getNumerologies qq.u qq.b
  let nPacketSymb :=
    getNPacketSymb qq.packetLengthType qq.packetLength
      numerology.nSlotUSymb numerology.nSlotUSubslot
  dectnrpAssert
    (5 ≤ nPacketSymb && nPacketSymb ≤ 1280 && nPacketSymb % 5 == 0)
    "N_PACKET_symb ill-defined"
  let tmMode ← getTmMode qq.tmModeIndex
  if tmMode.nEffTx = 4 ∧ nPacketSymb < 15 then
    pure none
  else if qq.u = 8 ∧ tmMode.nEffTx = 8 ∧
      (nPacketSymb < 20 ∨ nPacketSymb % 10 ≠ 0) then
    pure none
  else
    sizeDataChannel qq numerology tmMode nPacketSymb

/-- Values of `u` below the largest one, each twice the one before. -/
def smallerNumerologies (uMin : Nat) : List Nat :=
  ((List.range uMin).map fun exponent => 2 ^ exponent).takeWhile
    fun uCheck => uCheck < uMin

/-- The maximum sizes cover the ones of a smaller numerology. -/
def assertCovers (q mpsCheck : PacketSizes) : Checked Unit := do
  dectnrpAssert (mpsCheck.nPacketSymb ≤ q.nPacketSymb) ""
  dectnrpAssert (mpsCheck.nPdcSubc ≤ q.nPdcSubc) ""
  dectnrpAssert (mpsCheck.G ≤ q.G) ""
  dectnrpAssert (mpsCheck.nPdcBits ≤ q.nPdcBits) ""
  dectnrpAssert (mpsCheck.nTbBits ≤ q.nTbBits) ""
  dectnrpAssert (mpsCheck.nTbByte ≤ q.nTbByte) ""
  dectnrpAssert (mpsCheck.C ≤ q.C) ""
  dectnrpAssert (mpsCheck.nDfSymb ≤ q.nDfSymb) ""
  dectnrpAssert (mpsCheck.nDrsSubc ≤ q.nDrsSubc) ""
  dectnrpAssert (mpsCheck.nSamplesOfdmSymbol ≤ q.nSamplesOfdmSymbol) ""
  dectnrpAssert (mpsCheck.nSamplesStf ≤ q.nSamplesStf) ""
  dectnrpAssert (mpsCheck.nSamplesStfCpOnly ≤ q.nSamplesStfCpOnly) ""
  dectnrpAssert (mpsCheck.nSamplesDf ≤ q.nSamplesDf) ""
  dectnrpAssert (mpsCheck.nSamplesGi ≤ q.nSamplesGi) ""
  dectnrpAssert (mpsCheck.nSamplesPacketNoGi ≤ q.nSamplesPacketNoGi) ""
  dectnrpAssert (mpsCheck.nSamplesPacket ≤ q.nSamplesPacket) ""

/-- Sizes that must exist. -/
def requirePacketSizes (qq : PacketSizesDef) : Checked PacketSizes := do
  match ← getPacketSizes qq with
  | some q => pure q
  | none =>
      .error (.assertion "unable to determine maximum packet sizes")

/-- The largest packet of a radio device class. -/
def getMaximumPacketSizes
    (radioDeviceClassString : String) :
    Checked PacketSizes := do
  let radioDeviceClass ← getRadioDeviceClass radioDeviceClassString
  let tmModeIndex ←
    getMaxTmModeIndexDependingOnNTx radioDeviceClass.nTxMin
  let psdefMaximumSizes : PacketSizesDef :=
    { u := radioDeviceClass.uMin
      b := radioDeviceClass.bMin
      packetLengthType := 1
      packetLength := radioDeviceClass.packetLengthMin
      tmModeIndex := tmModeIndex
      mcsIndex := radioDeviceClass.mcsIndexMin
      Z := radioDeviceClass.zMin }
  let q ← requirePacketSizes psdefMaximumSizes
  (smallerNumerologies radioDeviceClass.uMin).forM fun uCheck => do
    let mpsCheck ← requirePacketSizes { psdefMaximumSizes with u := uCheck }
    assertCovers q mpsCheck
  pure q

end Sp3

end DectNrp
