import DectNrp.Callbacks
import DectNrp.MacPduElements
import DectNrp.PacketSizing

namespace DectNrp

/-!
# Fixed termination point

The fixed termination point sends a beacon in every beacon period and unicast
packets in the downlink resources of the portable terminations.  Packets are
defined ahead of their transmission: beacons when they are due, unicast packets
whenever there is data.  Behind every beacon the periodic callbacks are run, of
which there is one for the log.

The octets of a beacon and the text of the log are left out.  The size of the
beacon and the assertions of its elements are not.
-/

namespace P2p

structure Settings where
  sampRate : UInt32
  turnaroundTime : UInt32
  nPt : UInt32
  nResources : Nat
  radioDeviceClass : Sp3.RadioDeviceClass
  /-- Depends on the receive power of the radio device. -/
  powerTargetDBmCoded : UInt32

def maxSimultaneousTxUnicast : Nat := 8

/-- Size of a beacon. -/
def Settings.psdefBeacon (settings : Settings) : Sp3.PacketSizesDef where
  u := settings.radioDeviceClass.uMin
  b := settings.radioDeviceClass.bMin
  packetLengthType := 1
  packetLength := 2
  tmModeIndex := 0
  mcsIndex := 2
  Z := settings.radioDeviceClass.zMin

/-- A number of samples that is not limited to 32 bits. -/
def getNSamplesFromDuration
    (sampRate : UInt32)
    (durationEc : DurationEc)
    (mult : UInt32) :
    Int :=
  (sampRate / durationEc.sampRateDivisor).toNat * mult.toNat

/-- The first multiple of a second that is not before a time. -/
def getNSamplesAtNextFullSecond
    (sampRate : UInt32)
    (now64 : Int) :
    Checked Int := do
  dectnrpAssert (1 ≤ sampRate) "multiple must be at least 1"
  let leqm := now64.tdiv sampRate.toNat * sampRate.toNat
  if leqm < now64 then
    int64 (leqm + sampRate.toNat)
  else
    pure leqm

/-- All durations of the table of durations are defined. -/
def checkDurationLut (sampRate : UInt32) : Checked Unit :=
  [DurationEc.ms001, .s001, .slot001, .subslotU1001, .subslotU2001,
    .subslotU4001, .subslotU8001].forM fun durationEc => do
      let _ ← getDuration sampRate durationEc 1
      pure ()

structure AllocationFt where
  beaconPeriod : UInt32
  beaconPrepareDuration : UInt32
  beaconTimeTransmitted64 : Int
  beaconTimeScheduled64 : Int
  beaconCnt : UInt64
  nBeaconsPerSecond : UInt32
  deriving Repr, DecidableEq

namespace AllocationFt

def create
    (sampRate beaconPeriod beaconPrepareDuration : UInt32) :
    Checked AllocationFt := do
  dectnrpAssert (sampRate % beaconPeriod == 0)
    "second not a multiple of duration"
  pure
    { beaconPeriod := beaconPeriod
      beaconPrepareDuration := beaconPrepareDuration
      beaconTimeTransmitted64 := int64Max
      beaconTimeScheduled64 := int64Max
      beaconCnt := 0
      nBeaconsPerSecond := sampRate / beaconPeriod }

def getBeaconTimeScheduledMinusPrepareDuration
    (allocationFt : AllocationFt) :
    Checked Int :=
  int64
    (allocationFt.beaconTimeScheduled64 -
      allocationFt.beaconPrepareDuration.toNat)

def setBeaconTimeNext
    (allocationFt : AllocationFt) :
    Checked AllocationFt := do
  let next64 ←
    int64
      (allocationFt.beaconTimeScheduled64 +
        allocationFt.beaconPeriod.toNat)
  pure
    { allocationFt with
      beaconTimeTransmitted64 := allocationFt.beaconTimeScheduled64
      beaconTimeScheduled64 := next64
      beaconCnt := allocationFt.beaconCnt + 1 }

end AllocationFt

/-- Subslots that are announced for one direction. -/
structure SubslotAllocation where
  startSubslot : UInt32
  length : UInt32
  deriving Repr, DecidableEq

structure RepeatInfo where
  repetition : UInt32
  validity : UInt32
  deriving Repr, DecidableEq

/-- Announces an allocation; without the fields that a beacon never sets. -/
structure ResourceAllocationIe where
  allocationDl : Option SubslotAllocation
  allocationUl : Option SubslotAllocation
  shortRdId : Option UInt32
  repeatInfo : Option RepeatInfo
  mu : Nat
  deriving Repr, DecidableEq

namespace ResourceAllocationIe

/-- Access to a value that must be there. -/
def value {Value : Type} : Option Value → Checked Value
  | some value => .ok value
  | none => .error (.assertion "bad optional access")

def isAllocationValid
    (mu : Nat)
    (allocation : SubslotAllocation) :
    Bool :=
  allocation.startSubslot ≤ (if mu ≤ 4 then 0xff else 0xffff) &&
    allocation.length ≤ 127

def isValid (ie : ResourceAllocationIe) : Checked Bool := do
  if ie.allocationDl.isNone && ie.allocationUl.isNone then
    pure true
  else do
    let allocationDl ← value ie.allocationDl
    if ! isAllocationValid ie.mu allocationDl then
      pure false
    else do
      let allocationUl ← value ie.allocationUl
      if ! isAllocationValid ie.mu allocationUl then
        pure false
      else if ie.shortRdId.any fun shortRdId => 0xffff < shortRdId then
        pure false
      else do
        let repeatInfo ← value ie.repeatInfo
        pure
          (! (0xff < repeatInfo.repetition || repeatInfo.repetition == 0 ||
            0xff < repeatInfo.validity))

def getPackedSize (ie : ResourceAllocationIe) : Checked Nat := do
  let valid ← ie.isValid
  dectnrpAssert valid "resource allocation IE is not valid"
  if ie.allocationDl.isNone && ie.allocationUl.isNone then
    pure 1
  else
    pure
      ((if ie.mu ≤ 4 then 4 else 5) +
        (if ie.allocationDl.isSome && ie.allocationUl.isSome then
          if ie.mu ≤ 4 then 2 else 3
        else 0) +
        ie.shortRdId.isSome.toNat * 2 + ie.repeatInfo.isSome.toNat * 2)

/-- The announcement does not depend on the allocation yet. -/
def translate
    (mu : Nat)
    (srdid : UInt32) :
    ResourceAllocationIe where
  allocationDl := some ⟨1, 2⟩
  allocationUl := some ⟨1, 2⟩
  shortRdId := some srdid
  repeatInfo := some ⟨1, 2⟩
  mu := mu

/-- Size with the multiplexing header, which has no length field. -/
def getPackedSizeOfMmhSdu (ie : ResourceAllocationIe) : Checked Nat := do
  let size ← ie.getPackedSize
  pure (MacMultiplexingHeader.packedSize .noLengthField + size)

end ResourceAllocationIe

/-- A portable termination as the fixed termination point knows it. -/
structure ContactP2p where
  shortRadioDeviceId : UInt32
  allocationPt : AllocationPt
  deriving Repr, DecidableEq

def ContactP2p.setBeaconTimeLastKnown
    (contact : ContactP2p)
    (beaconTimeLastKnown64 : Int) :
    ContactP2p :=
  { contact with
    allocationPt :=
      contact.allocationPt.setBeaconTimeLastKnown beaconTimeLastKnown64 }

/-- Cluster beacon message of a beacon. -/
def clusterBeacon
    (settings : Settings)
    (beaconCnt : UInt64) :
    Mmie :=
  { Mmie.construct .clusterBeaconMessage with
    body :=
      .clusterBeaconMessage
        { ClusterBeaconMessage.construct with
          mu := settings.radioDeviceClass.uMin
          systemFrameNumber := (beaconCnt % 256).toUInt32
          clustersMaxTxPower := some .pos19dBm
          hasPowerConstraints := true
          networkBeaconPeriod := .ms100
          clusterBeaconPeriod := .ms10
          countToTrigger := .times1
          relQuality := .dB9
          minQuality := .dB9 } }

def powerTarget (settings : Settings) : Mmie :=
  { Mmie.construct .powerTargetIe with
    body := .powerTargetIe ⟨settings.powerTargetDBmCoded⟩ }

def timeAnnounce : Mmie :=
  { Mmie.construct .timeAnnounceIe with
    body := .timeAnnounceIe ⟨.local, 0, 0, 0⟩ }

/-- Attach a valid element behind the octets written. -/
def attach
    (nTbByte : Nat)
    (mmie : Mmie)
    (aCntW : Nat) :
    Checked Nat := do
  let size ← mmie.getPackedSizeOfMmhSdu
  dectnrpAssert (aCntW + size ≤ nTbByte) "TB too small"
  dectnrpAssert mmie.body.contentsValid "element is not valid"
  pure (aCntW + size)

def attachAllocation
    (settings : Settings)
    (nTbByte : Nat)
    (aCntW : Nat)
    (contact : ContactP2p) :
    Checked Nat := do
  let raie :=
    ResourceAllocationIe.translate settings.radioDeviceClass.uMin
      contact.shortRadioDeviceId
  let size ← raie.getPackedSizeOfMmhSdu
  dectnrpAssert (aCntW + size ≤ nTbByte) "TB too small"
  pure (aCntW + size)

/-- Number of octets of a beacon that are not padding. -/
def worksubTxBeaconMacPdu
    (settings : Settings)
    (allocationFt : AllocationFt)
    (contactsVec : List ContactP2p)
    (nTbByte : Nat) :
    Checked Nat := do
  -- header type and header of a beacon
  let aCntW := 1 + 7
  let aCntW ←
    attach nTbByte (clusterBeacon settings allocationFt.beaconCnt) aCntW
  let aCntW ← attach nTbByte (powerTarget settings) aCntW
  let aCntW ←
    if allocationFt.beaconCnt % allocationFt.nBeaconsPerSecond.toUInt64 == 0
    then
      attach nTbByte timeAnnounce aCntW
    else
      pure aCntW
  let aCntW ←
    contactsVec.foldlM (attachAllocation settings nTbByte) aCntW
  dectnrpAssert (aCntW ≤ nTbByte) "transport block too small"
  pure aCntW

/-- What the process of a packet transmits. -/
inductive Packet where
  | beacon
  | unicast (txOpportunity : TxOpportunity)
  deriving Repr, DecidableEq

structure TxDescriptor where
  packet : Packet
  txOrderId : Int
  txTime64 : Int
  deriving Repr, DecidableEq

/-- Identity and earliest time of the next packet, and the packets defined. -/
structure Transmissions where
  txOrderId : Int
  txEarliest64 : Int
  txDescriptorVec : List TxDescriptor
  deriving Repr, DecidableEq

/-- One more packet is defined. -/
def Transmissions.define
    (transmissions : Transmissions)
    (packet : Packet)
    (txTime64 txEarliest64 : Int) :
    Checked Transmissions := do
  let next ← int64 (transmissions.txOrderId + 1)
  pure
    { txOrderId := next
      txEarliest64 := txEarliest64
      txDescriptorVec :=
        transmissions.txDescriptorVec ++
          [⟨packet, transmissions.txOrderId, txTime64⟩] }

/-- Sizes of the next datagrams, as the queue of a connection reports them. -/
structure QueueLevel where
  levels : List Nat
  /-- Only datagrams that are not empty are written to a queue. -/
  written : ∀ level ∈ levels, 0 < level ∧ level ≤ 1600

/-- What is read while a packet for one portable termination is defined. -/
structure Surroundings where
  rxTimePassed64 : Int
  queueLevel : QueueLevel
  /-- Octets of the transport block, if a process is available. -/
  processTx : Option Nat
  /-- Whether the datagrams are still in the queue. -/
  readNto : Nat → Bool

/-- Attach datagrams as long as they fit. -/
def packUserPlaneData
    (nTbByte : Nat)
    (readNto : Nat → Bool) :
    Nat → List Nat → Nat → Checked Nat
  | _, [], aCntW => pure aCntW
  | i, level :: levels, aCntW => do
      let upd ← UserPlaneData.setFlowId (.construct .userPlaneData) 1
      let upd ← UserPlaneData.setDataSize upd level
      let size ← upd.getPackedSizeOfMmhSdu
      if nTbByte ≤ aCntW + size then
        pure aCntW
      else do
        let headerSize ← upd.macMultiplexingHeader.getPackedSize
        dectnrpAssert (aCntW + headerSize + level ≤ nTbByte)
          "MAC PDU too large"
        if readNto i then
          packUserPlaneData nTbByte readNto (i + 1) levels (aCntW + size)
        else
          pure aCntW

/-- Whether any datagram was attached. -/
def worksubTxUnicastMacSdu
    (surroundings : Surroundings)
    (nTbByte : Nat) :
    Checked Bool := do
  -- header type and empty common header
  let packedSizeMhtMch := 1 + 0
  let aCntW ←
    packUserPlaneData nTbByte surroundings.readNto 0
      surroundings.queueLevel.levels packedSizeMhtMch
  pure (packedSizeMhtMch != aCntW)

def worksubTxUnicast
    (settings : Settings)
    (surroundings : Surroundings)
    (txOpportunity : TxOpportunity)
    (transmissions : Transmissions) :
    Checked Transmissions := do
  if surroundings.queueLevel.levels.isEmpty then
    pure transmissions
  else do
    -- values of the feedback expire at this time
    let _ ←
      int64
        (txOpportunity.txTime64 -
          getNSamplesFromDuration settings.sampRate .ms001 50)
    match surroundings.processTx with
    | none => pure transmissions
    | some nTbByte => do
        let written ← worksubTxUnicastMacSdu surroundings nTbByte
        if written then do
          let behind64 ← txOpportunity.getEnd
          transmissions.define (.unicast txOpportunity)
            txOpportunity.txTime64 behind64
        else
          pure transmissions

/--
Go over the portable terminations once.  The flag tells that all of them had an
opportunity.
-/
def goOverContacts
    (settings : Settings)
    (beaconTimeTransmitted64 : Int) :
    (Nat → Surroundings) → List ContactP2p → Transmissions →
      Checked (List ContactP2p × Transmissions × Bool)
  | _, [], transmissions => pure ([], transmissions, true)
  | surroundings, contact :: contacts, transmissions => do
      let contact := contact.setBeaconTimeLastKnown beaconTimeTransmitted64
      let txOpportunity ←
        contact.allocationPt.getTxOpportunity .dl
          (surroundings 0).rxTimePassed64 transmissions.txEarliest64
      if txOpportunity.txTime64 < 0 then
        pure (contact :: contacts, transmissions, false)
      else do
        let transmissions ←
          worksubTxUnicast settings (surroundings 0) txOpportunity
            transmissions
        let (contacts, transmissions, continues) ←
          goOverContacts settings beaconTimeTransmitted64
            (fun j => surroundings (j + 1)) contacts transmissions
        pure (contact :: contacts, transmissions, continues)

/-- The number of definable packets is limited. -/
def worksubTxUnicastConsecutive
    (settings : Settings)
    (beaconTimeTransmitted64 : Int) :
    Nat → (Nat → Nat → Surroundings) → List ContactP2p → Transmissions →
      Checked (List ContactP2p × Transmissions)
  | 0, _, contacts, transmissions => pure (contacts, transmissions)
  | n + 1, surroundings, contacts, transmissions => do
      let (contacts, transmissions, continues) ←
        goOverContacts settings beaconTimeTransmitted64 (surroundings 0)
          contacts transmissions
      if continues then
        worksubTxUnicastConsecutive settings beaconTimeTransmitted64 n
          (fun i => surroundings (i + 1)) contacts transmissions
      else
        pure (contacts, transmissions)

/-- Allocation of a portable termination. -/
def initAllocationPt
    (settings : Settings)
    (beaconPeriod firmwareId : UInt32) :
    Checked AllocationPt := do
  let allocationValidityAfterBeacon ←
    getDuration settings.sampRate .ms001 16
  let allocationValidityAfterNow ← getDuration settings.sampRate .ms001 11
  let allocationPt :=
    AllocationPt.create beaconPeriod allocationValidityAfterBeacon
      allocationValidityAfterNow settings.turnaroundTime.toNat
  if settings.nPt ≤ firmwareId then
    pure allocationPt
  else do
    let gap : UInt32 := 0
    let offsetBeacon := 2 + gap
    let ul : UInt32 := 2
    let dl : UInt32 := 2
    let ulGap := ul + gap
    let dlGap := dl + gap
    let ulGapDlGap := ulGap + dlGap
    let stride := ulGapDlGap * settings.nPt
    let offset := offsetBeacon + firmwareId * ulGapDlGap
    let allocationPt ←
      AllocationPt.addResourceRegular settings.sampRate allocationPt .ul
        offset ul stride settings.nResources .slot001
    AllocationPt.addResourceRegular settings.sampRate allocationPt .dl
      (offset + ulGap) dl stride settings.nResources .slot001

/-- Long and short identities are counted from those of the termination point. -/
def initContact
    (settings : Settings)
    (beaconPeriod firmwareIdPt : UInt32) :
    Checked ContactP2p := do
  let allocationPt ← initAllocationPt settings beaconPeriod firmwareIdPt
  pure ⟨1000 + (1 + firmwareIdPt), allocationPt⟩

/-- The log leaves the time of its next call and its period as they are. -/
def worksubCallbackLog : Callback Unit Unit :=
  fun _ _ _ next64 period64 => ⟨(), next64, period64, ()⟩

structure SteadyFt where
  txOrderId : Int
  txEarliest64 : Int
  allocationFt : AllocationFt
  contactsVec : List ContactP2p
  callbacks : Callbacks Unit Unit 4

namespace SteadyFt

def create (settings : Settings) : Checked SteadyFt := do
  checkDurationLut settings.sampRate
  let beaconPeriod ← getDuration settings.sampRate .ms001 10
  let beaconPrepareDuration ← getDuration settings.sampRate .ms001 2
  let allocationFt ←
    AllocationFt.create settings.sampRate beaconPeriod
      beaconPrepareDuration
  let contactsVec ←
    (List.range settings.nPt.toNat).foldlM
      (fun contactsVec firmwareIdPt => do
        let contact ←
          initContact settings beaconPeriod (UInt32.ofNat firmwareIdPt)
        pure (contactsVec ++ [contact]))
      []
  pure ⟨0, undefinedEarly64, allocationFt, contactsVec, .new 4⟩

/-- Set the time of the first beacon, a second after the next full one. -/
def entry
    (settings : Settings)
    (rxTimePassed64 ppsToFullSecondMeasuredSamples : Int)
    (steadyFt : SteadyFt) :
    Checked (SteadyFt × Int) := do
  let A ← getNSamplesAtNextFullSecond settings.sampRate rxTimePassed64
  let second64 ←
    int64 (A + getNSamplesFromDuration settings.sampRate .s001 1)
  let B ← int64 (second64 + ppsToFullSecondMeasuredSamples)
  let allocationFt := { steadyFt.allocationFt with beaconTimeScheduled64 := B }
  let log64 ←
    int64 (A + getNSamplesFromDuration settings.sampRate .ms001 500)
  let (_, callbacks) ←
    steadyFt.callbacks.addCallback worksubCallbackLog log64
      (getNSamplesFromDuration settings.sampRate .s001 2)
  let callAsap64 ←
    allocationFt.getBeaconTimeScheduledMinusPrepareDuration
  pure
    ({ steadyFt with
        allocationFt := allocationFt
        callbacks := callbacks },
      callAsap64)

def transmissions (steadyFt : SteadyFt) : Transmissions :=
  ⟨steadyFt.txOrderId, steadyFt.txEarliest64, []⟩

/-- Define the next beacon if a process is available. -/
def worksubTxBeacon
    (settings : Settings)
    (processTx : Bool)
    (steadyFt : SteadyFt)
    (transmissions : Transmissions) :
    Checked (Option (AllocationFt × Transmissions)) := do
  let packetSizesOpt ← Sp3.getPacketSizes settings.psdefBeacon
  match packetSizesOpt with
  | none => .error (.assertion "packets must be well-defined")
  | some packetSizes =>
      if processTx then do
        let _ ←
          worksubTxBeaconMacPdu settings steadyFt.allocationFt
            steadyFt.contactsVec packetSizes.nTbByte
        let beaconTime64 := steadyFt.allocationFt.beaconTimeScheduled64
        -- the end of the beacon does not matter, data starts behind it
        let transmissions ←
          transmissions.define .beacon beaconTime64 beaconTime64
        let allocationFt ← steadyFt.allocationFt.setBeaconTimeNext
        pure (some (allocationFt, transmissions))
      else
        pure none

structure IrregularReport where
  timeOfRecognition : Int
  callAsapAfterThisTimeHasPassed64 : Int

def workIrregular
    (settings : Settings)
    (irregularReport : IrregularReport)
    (processTx : Bool)
    (surroundings : Nat → Nat → Surroundings)
    (rxTimePassed64 : Int)
    (steadyFt : SteadyFt) :
    Checked (SteadyFt × List TxDescriptor × Int) := do
  dectnrpAssert
    (irregularReport.callAsapAfterThisTimeHasPassed64 <
      steadyFt.allocationFt.beaconTimeScheduled64) "too late"
  let recognitionDelay ←
    int64
      (irregularReport.timeOfRecognition -
        irregularReport.callAsapAfterThisTimeHasPassed64)
  dectnrpAssert (0 < recognitionDelay) "time out-of-order"
  match ← steadyFt.worksubTxBeacon settings processTx
      steadyFt.transmissions with
  | none => .error (.assertion "beacon not transmitted")
  | some (allocationFt, transmissions) => do
      let (contactsVec, transmissions) ←
        worksubTxUnicastConsecutive settings
          allocationFt.beaconTimeTransmitted64 maxSimultaneousTxUnicast
          surroundings steadyFt.contactsVec transmissions
      let callAsap64 ←
        allocationFt.getBeaconTimeScheduledMinusPrepareDuration
      let run ← steadyFt.callbacks.run () rxTimePassed64
      pure
        (⟨transmissions.txOrderId, transmissions.txEarliest64,
            allocationFt, contactsVec, run.callbacks⟩,
          transmissions.txDescriptorVec, callAsap64)

def workApplication
    (settings : Settings)
    (surroundings : Nat → Nat → Surroundings)
    (steadyFt : SteadyFt) :
    Checked (SteadyFt × List TxDescriptor) := do
  let (contactsVec, transmissions) ←
    worksubTxUnicastConsecutive settings
      steadyFt.allocationFt.beaconTimeTransmitted64
      maxSimultaneousTxUnicast surroundings steadyFt.contactsVec
      steadyFt.transmissions
  pure
    (⟨transmissions.txOrderId, transmissions.txEarliest64,
        steadyFt.allocationFt, contactsVec, steadyFt.callbacks⟩,
      transmissions.txDescriptorVec)

end SteadyFt

end P2p

end DectNrp
