import DectNrp.PacketAdmission
import DectNrp.PccSymbols
import DectNrp.PlcfDecoderExactness

namespace DectNrp

open Phyres

/-!
# Headers that describe a packet

The header check compares the length, the modulation and the number of streams
of a received header with the radio device class, each of them by itself.
Whether there is a packet with such a header, and whether it goes on behind the
control channel, depends on all of them and on the numerology, the bandwidth
and the number of transmit antennas that the synchronization has found.
-/

namespace HeaderAdmission

open Sp3

/-- What the synchronization knows about a packet. -/
structure SyncReport where
  u : Nat
  b : Nat
  nEffTx : Nat
  deriving Repr, DecidableEq

/-- The report stays within the largest packet of a radio device class. -/
structure SyncReport.Within
    (syncReport : SyncReport)
    (maximum : Sp3.PacketSizes) :
    Prop where
  u_mem : syncReport.u ∈ [1, 2, 4, 8]
  u_le : syncReport.u ≤ maximum.psdef.u
  b_mem : syncReport.b ∈ bIdx2bLut
  b_le : syncReport.b ≤ maximum.psdef.b
  nEffTx_mem : syncReport.nEffTx ∈ nTsIdx2NTsVec
  nEffTx_le : syncReport.nEffTx ≤ maximum.tmMode.nTs

/-- What the header decoder of a receiver is constructed with. -/
def plcfLimits (maximum : Sp3.PacketSizes) : PlcfLimits where
  packetLengthMax := UInt32.ofNat maximum.psdef.packetLength
  mcsIndexMax := UInt32.ofNat maximum.psdef.mcsIndex
  nSsMax := UInt32.ofNat maximum.tmMode.nSs

/-- The definition of the packet that a header announces. -/
def worksubPsdef
    (maximum : Sp3.PacketSizes)
    (syncReport : SyncReport)
    (plcfDecoder : PlcfDecoder)
    (plcfType : Nat) :
    Checked PacketSizesDef := do
  match ← plcfDecoder.getPlcfBase plcfType with
  | none => .error (.assertion "chosen PLCF is undefined")
  | some ⟨kind, header⟩ =>
      let plcfBase := kind.base header
      let nSs ← kind.getNSs header
      let tmModeIndex ← getEquivalentTmMode syncReport.nEffTx nSs.toNat
      pure
        { u := syncReport.u
          b := syncReport.b
          packetLengthType := plcfBase.packetLengthType.toNat
          packetLength := plcfBase.getPacketLength.toNat
          tmModeIndex := tmModeIndex
          mcsIndex := plcfBase.dfmcs.toNat
          Z := maximum.psdef.Z }

/-- Value of `ofdm_symb_idx` behind the loop that collects the control channel. -/
def ofdmSymbIdx (pcc : Pcc) (syncReport : SyncReport) : Nat :=
  (pcc.setConfiguration syncReport.b
    syncReport.nEffTx).getPccSymbolIdxMax + 1

/-- Assertions with which the receiver goes on with the data channel. -/
def demoddecodRxPdc
    (ofdmSymbIdx : Nat)
    (packetSizes : Sp3.PacketSizes) :
    Checked Unit := do
  dectnrpAssert (packetSizes.psdef.mcsIndex ≤ 9)
    "Unable to set modem table for MCS index"
  dectnrpAssert (ofdmSymbIdx ≤ packetSizes.nDfSymb)
    "Absolute OFDM symbol index too large."

/-- The receiver can process the packet that a header announces. -/
def CanProcess
    (maximum : Sp3.PacketSizes)
    (pcc : Pcc)
    (syncReport : SyncReport)
    (plcfDecoder : PlcfDecoder)
    (plcfType : Nat) :
    Prop :=
  ∃ psdef packetSizes,
    worksubPsdef maximum syncReport plcfDecoder plcfType = .ok psdef ∧
      getPacketSizes psdef = .ok (some packetSizes) ∧
      demoddecodRxPdc (ofdmSymbIdx pcc syncReport) packetSizes = .ok ()

/--
Packets that are long enough: a packet of five symbols needs a large bandwidth
for its numerology and has two transmit streams at most, and at the smallest
bandwidth it has one stream and not the lowest modulation.  All longer packets
suffice, if they have room for the reference signals of four or eight streams.
-/
def LongEnough
    (u b nEffTx nPacketSymb mcsIndex : Nat) :
    Prop :=
  if nPacketSymb = 5 then
    nEffTx ≤ 2 ∧
      ((u = 1 ∧ (2 ≤ b ∨ nEffTx = 1 ∧ 1 ≤ mcsIndex)) ∨
        ((u = 2 ∨ u = 4) ∧ 4 ≤ b))
  else
    (nEffTx = 4 → 15 ≤ nPacketSymb) ∧
      (u = 8 ∧ nEffTx = 8 → 20 ≤ nPacketSymb ∧ nPacketSymb % 10 = 0)

instance
    (u b nEffTx nPacketSymb mcsIndex : Nat) :
    Decidable (LongEnough u b nEffTx nPacketSymb mcsIndex) := by
  unfold LongEnough
  infer_instance

variable {tmMode : TmMode}

variable {mcs : Mcs}

theorem fiveSymbols
    {u b : Nat}
    (uMember : u ∈ [1, 2, 4, 8])
    (bMember : b ∈ bIdx2bLut)
    (isTmMode : tmMode ∈ tmModes)
    (isMcs : mcs ∈ mcsTable) :
    (PacketValid u 5 tmMode.nEffTx ∧ 40 ≤ dataBits u 5 b tmMode mcs ∧
        Pcc.nofSymbols b tmMode.nEffTx + 1 ≤ Pdc.getNDfSymb u 5) ↔
      LongEnough u b tmMode.nEffTx 5 mcs.index := by
  have evaluated : ∀ u ∈ [1, 2, 4, 8], ∀ b ∈ bIdx2bLut, ∀ tmMode ∈ tmModes,
      ∀ mcs ∈ mcsTable, (PacketValid u 5 tmMode.nEffTx ∧
          40 ≤ dataBits u 5 b tmMode mcs ∧
          Pcc.nofSymbols b tmMode.nEffTx + 1 ≤ Pdc.getNDfSymb u 5) ↔
          LongEnough u b tmMode.nEffTx 5 mcs.index := by
    decide +kernel
  exact evaluated u uMember b bMember tmMode isTmMode mcs isMcs

variable {u b nPacketSymb nEffTx : Nat}

theorem enough_dataCells
    (packetValid : PacketValid u nPacketSymb nEffTx)
    (bMember : b ∈ bIdx2bLut)
    (long : 10 ≤ nPacketSymb) :
    80 ≤ dataCells u nPacketSymb b nEffTx := by
  have positive := pos_of_mem_bIdx2bLut bMember
  have fourStreams := packetValid.fourStreams
  have eightStreams := packetValid.eightStreams
  have free : 20 + nEffTx * Drs.nofSymbols nPacketSymb nEffTx ≤
      4 * Pdc.getNDfSymb u nPacketSymb := by
    have uMember := packetValid.u_mem
    have nMember := packetValid.nTs_mem
    have multiple := packetValid.multiple
    simp only [nTsIdx2NTsVec, List.mem_cons, List.not_mem_nil, or_false]
      at uMember nMember
    unfold Pdc.getNDfSymb Drs.nofSymbols
    rcases nMember with rfl | rfl | rfl | rfl <;>
      rcases uMember with rfl | rfl | rfl | rfl <;> simp at * <;> omega
  have cells : (20 + nEffTx * Drs.nofSymbols nPacketSymb nEffTx) * (14 * b) ≤
      4 * Pdc.getNDfSymb u nPacketSymb * (14 * b) :=
    Nat.mul_le_mul_right _ free
  have all : 4 * Pdc.getNDfSymb u nPacketSymb * (14 * b) =
      Pdc.getNDfSymb u nPacketSymb * (56 * b) := by
    ring
  have taken : (20 + nEffTx * Drs.nofSymbols nPacketSymb nEffTx) * (14 * b) =
      280 * b + nEffTx * (14 * b) * Drs.nofSymbols nPacketSymb nEffTx := by
    ring
  have isPcc : Pcc.pccCells = 98 := rfl
  unfold dataCells
  omega

variable {u b nPacketSymb : Nat}

theorem enough_dataBits
    (isTmMode : tmMode ∈ tmModes)
    (isMcs : mcs ∈ mcsTable)
    (cells : 80 ≤ dataCells u nPacketSymb b tmMode.nEffTx) :
    40 ≤ dataBits u nPacketSymb b tmMode mcs := by
  have streams : ∀ tmMode ∈ tmModes, 1 ≤ tmMode.nSs := by decide
  have rates : ∀ mcs ∈ mcsTable, 0 < mcs.rDenominator ∧
      mcs.rDenominator ≤ 2 * (mcs.nBps * mcs.rNumerator) := by
    decide
  obtain ⟨positive, rate⟩ := rates mcs isMcs
  unfold dataBits TransportBlockSize.getNPdcBits TransportBlockSize.getG
  rw [Nat.le_div_iff_mul_le positive]
  calc
    40 * mcs.rDenominator ≤ 40 * (2 * (mcs.nBps * mcs.rNumerator)) :=
      Nat.mul_le_mul_left 40 rate
    _ = 1 * 80 * (mcs.nBps * mcs.rNumerator) := by ring
    _ ≤ tmMode.nSs * dataCells u nPacketSymb b tmMode.nEffTx *
        (mcs.nBps * mcs.rNumerator) :=
      Nat.mul_le_mul_right _ (Nat.mul_le_mul (streams tmMode isTmMode) cells)
    _ = tmMode.nSs * dataCells u nPacketSymb b tmMode.nEffTx *
        mcs.nBps * mcs.rNumerator := by
      ring

theorem enough_symbols (long : 10 ≤ nPacketSymb) :
    Pcc.nofSymbols b nEffTx + 1 ≤ Pdc.getNDfSymb u nPacketSymb := by
  have few : Pcc.nofSymbols b nEffTx ≤ 4 := by
    unfold Pcc.nofSymbols
    split <;> split_ifs <;> decide
  unfold Pdc.getNDfSymb
  split_ifs <;> omega

theorem longEnough_iff
    (uMember : u ∈ [1, 2, 4, 8])
    (bMember : b ∈ bIdx2bLut)
    (isTmMode : tmMode ∈ tmModes)
    (isMcs : mcs ∈ mcsTable)
    (long : 5 ≤ nPacketSymb)
    (multiple : nPacketSymb % 5 = 0) :
    (PacketValid u nPacketSymb tmMode.nEffTx ∧
        40 ≤ dataBits u nPacketSymb b tmMode mcs ∧
        Pcc.nofSymbols b tmMode.nEffTx + 1 ≤ Pdc.getNDfSymb u nPacketSymb) ↔
      LongEnough u b tmMode.nEffTx nPacketSymb mcs.index := by
  by_cases isFive : nPacketSymb = 5
  · rw [isFive]
    exact fiveSymbols uMember bMember isTmMode isMcs
  · have ten : 10 ≤ nPacketSymb := by omega
    have nMember : ∀ tmMode ∈ tmModes, tmMode.nEffTx ∈ nTsIdx2NTsVec := by
      decide
    unfold LongEnough
    rw [if_neg isFive]
    constructor
    · rintro ⟨packetValid, -, -⟩
      exact ⟨packetValid.fourStreams, packetValid.eightStreams⟩
    · rintro ⟨fourStreams, eightStreams⟩
      have packetValid : PacketValid u nPacketSymb tmMode.nEffTx :=
        ⟨uMember, nMember tmMode isTmMode, long, multiple, fourStreams,
          eightStreams⟩
      exact ⟨packetValid, enough_dataBits isTmMode isMcs
          (enough_dataCells packetValid bMember ten),
          enough_symbols ten⟩

/-- The largest packet of a class has values that the receiver knows. -/
structure Supports (maximum : Sp3.PacketSizes) : Prop where
  b_mem : maximum.psdef.b ∈ bIdx2bLut
  nTs_mem : maximum.tmMode.nTs ∈ nTsIdx2NTsVec
  packetLength_le : maximum.psdef.packetLength ≤ 16
  mcsIndex_le : maximum.psdef.mcsIndex ≤ 9
  Z : maximum.psdef.Z = 2048 ∨ maximum.psdef.Z = 6144

instance (maximum : Sp3.PacketSizes) : Decidable (Supports maximum) :=
  decidable_of_iff
    (maximum.psdef.b ∈ bIdx2bLut ∧
      maximum.tmMode.nTs ∈ nTsIdx2NTsVec ∧
      maximum.psdef.packetLength ≤ 16 ∧
      maximum.psdef.mcsIndex ≤ 9 ∧
      (maximum.psdef.Z = 2048 ∨ maximum.psdef.Z = 6144))
    ⟨fun ⟨b, nTs, packetLength, mcsIndex, Z⟩ =>
        ⟨b, nTs, packetLength, mcsIndex, Z⟩,
      fun supports =>
        ⟨supports.b_mem, supports.nTs_mem, supports.packetLength_le,
          supports.mcsIndex_le, supports.Z⟩⟩

/-- Every radio device class has a largest packet. -/
theorem getMaximumPacketSizes_supports
    {entry : String × RadioDeviceClass}
    (isClass : entry ∈ radioDeviceClasses) :
    ∃ maximum,
      getMaximumPacketSizes entry.1 = .ok maximum ∧ Supports maximum := by
  have evaluated : ∀ entry ∈ radioDeviceClasses,
      ∃ maximum ∈ (getMaximumPacketSizes entry.1).toOption,
        Supports maximum := by
    decide +kernel
  obtain ⟨maximum, found, supports⟩ := evaluated entry isClass
  exact ⟨maximum, Checked.eq_ok_of_toOption found, supports⟩

variable
  {kind : PlcfKind}
  {header : kind.Header}

theorem getNSs_positive
    {nSs : UInt32}
    (isNSs : kind.getNSs header = .ok nSs) :
    0 < nSs.toNat := by
  have coded : ∀ {index : Nat},
      elementAt PlcfBase.nSsCodedLutRev index = .ok nSs →
      0 < nSs.toNat := by
    intro index isCoded
    have positive : ∀ nSs ∈ PlcfBase.nSsCodedLutRev, 0 < nSs.toNat := by
      simp [PlcfBase.nSsCodedLutRev]
    refine positive nSs ?_
    unfold elementAt at isCoded
    split at isCoded
    · cases isCoded
      rename_i found
      exact List.mem_of_getElem? found
    · cases isCoded
  cases kind with
  | plcf10 =>
      cases isNSs
      decide
  | plcf20 => exact coded isNSs
  | plcf21 => exact coded isNSs

theorem getEquivalentTmMode_spec
    {nEffTx nSs : Nat}
    (nMember : nEffTx ∈ nTsIdx2NTsVec)
    (positive : 0 < nSs) :
    ∃ tmMode ∈ tmModes,
      getEquivalentTmMode nEffTx nSs = .ok tmMode.index ∧
      getTmMode tmMode.index = .ok tmMode ∧
      tmMode.index ≤ 11 ∧
      tmMode.nEffTx = nEffTx := by
  -- only one stream and several streams are told apart
  have evaluated :
      ∀ nSs ∈ [1, 2], ∀ nEffTx ∈ nTsIdx2NTsVec, ∃ tmMode ∈ tmModes,
        getEquivalentTmMode nEffTx nSs = .ok tmMode.index ∧
        getTmMode tmMode.index = .ok tmMode ∧
        tmMode.index ≤ 11 ∧
        tmMode.nEffTx = nEffTx := by
    decide
  by_cases single : nSs = 1
  · rw [single]
    exact evaluated 1 (by decide) nEffTx nMember
  · have several :
        getEquivalentTmMode nEffTx nSs = getEquivalentTmMode nEffTx 2 := by
      unfold getEquivalentTmMode
      rw [decide_eq_true positive, decide_eq_true Nat.two_pos]
      simp only [if_neg single, OfNat.ofNat_ne_one, if_false]
    rw [several]
    exact evaluated 2 (by decide) nEffTx nMember

theorem getMcs_spec
    {index : Nat}
    (inside : index ≤ 11) :
    ∃ mcs ∈ mcsTable, getMcs index = .ok mcs ∧ mcs.index = index := by
  have listed : ∀ index ≤ 11,
      ∃ mcs ∈ mcsTable, getMcs index = .ok mcs ∧ mcs.index = index := by
    decide
  exact listed index inside

variable
  {maximum : Sp3.PacketSizes}
  {syncReport : SyncReport}

variable {decoder : PlcfDecoder}

theorem worksubPsdef_spec
    {plcfType : Nat}
    {octets : List UInt8}
    (supports : Supports maximum)
    (within : syncReport.Within maximum)
    (found : decoder.getPlcfBase plcfType = .ok (some ⟨kind, header⟩))
    (acceptable :
      PlcfDecoder.Acceptable (plcfLimits maximum) plcfType octets kind
        header) :
    ∃ psdef, ∃ tmMode ∈ tmModes, ∃ mcs ∈ mcsTable,
      worksubPsdef maximum syncReport decoder plcfType = .ok psdef ∧
      psdef.Valid ∧
      psdef.u = syncReport.u ∧
      psdef.b = syncReport.b ∧
      psdef.packetLengthType = (kind.base header).packetLengthType.toNat ∧
      psdef.packetLength = (kind.base header).getPacketLength.toNat ∧
      getTmMode psdef.tmModeIndex = .ok tmMode ∧
      tmMode.nEffTx = syncReport.nEffTx ∧
      getMcs psdef.mcsIndex = .ok mcs ∧
      mcs.index = (kind.base header).dfmcs.toNat ∧
      psdef.mcsIndex ≤ 9 := by
  obtain ⟨short, lowMcs, nSs, isNSs, -⟩ := acceptable.permitted
  have baseValid : (kind.base header).isValid = true := by
    have read := acceptable.read
    cases kind with
    | plcf10 => exact read.1
    | plcf20 => exact read.1
    | plcf21 => exact read.1
  obtain ⟨-, lengthType, lengthM1⟩ := PlcfBase.isValid_iff.mp baseValid
  have isLength : (kind.base header).getPacketLength.toNat =
      (kind.base header).packetLengthM1.toNat + 1 := by
    unfold PlcfBase.getPacketLength
    rw [UInt32.toNat_add]
    have isOne : (1 : UInt32).toNat = 1 := rfl
    omega
  have mcsLimit : (kind.base header).dfmcs.toNat ≤ maximum.psdef.mcsIndex := by
    have limited := UInt32.le_iff_toNat_le.mp lowMcs
    have fits := supports.mcsIndex_le
    have isLimit :
        (plcfLimits maximum).mcsIndexMax.toNat = maximum.psdef.mcsIndex := by
      refine UInt32.toNat_ofNat_of_lt' ?_
      exact Nat.lt_of_le_of_lt fits (by decide)
    rw [isLimit] at limited
    exact limited
  have lowEnough := mcsLimit.trans supports.mcsIndex_le
  obtain ⟨tmMode, isListed, isIndex, isTmMode, inside, streams⟩ :=
    getEquivalentTmMode_spec within.nEffTx_mem (getNSs_positive isNSs)
  obtain ⟨mcs, isTabled, isMcs, mcsIndex⟩ :=
    @getMcs_spec (kind.base header).dfmcs.toNat (lowEnough.trans (by decide))
  refine
    ⟨{ u := syncReport.u
       b := syncReport.b
       packetLengthType := (kind.base header).packetLengthType.toNat
       packetLength := (kind.base header).getPacketLength.toNat
       tmModeIndex := tmMode.index
       mcsIndex := (kind.base header).dfmcs.toNat
       Z := maximum.psdef.Z },
      tmMode, isListed, mcs, isTabled, ?_,
      ⟨within.u_mem, within.b_mem, lengthType, ?_, ?_, inside,
        lowEnough.trans (by decide), supports.Z⟩,
      rfl, rfl, rfl, rfl, isTmMode, streams, isMcs, mcsIndex,
      lowEnough⟩
  · unfold worksubPsdef
    simp only [found, isNSs, isIndex, Checked.ok_bind, Checked.pure_eq_ok]
  · exact Nat.lt_of_lt_of_eq (Nat.succ_pos _) isLength.symm
  · exact isLength.trans_le (Nat.succ_le_succ lengthM1)

/-- The receiver goes on behind the last symbol of the control channel. -/
theorem ofdmSymbIdx_eq
    {pcc : Pcc}
    (supports : Supports maximum)
    (within : syncReport.Within maximum)
    (created : Pcc.create maximum.psdef.b maximum.tmMode.nTs = .ok pcc) :
    ofdmSymbIdx pcc syncReport =
      Pcc.nofSymbols syncReport.b syncReport.nEffTx + 1 := by
  obtain ⟨other, isCreated, waits⟩ :=
    Pcc.create_spec supports.b_mem supports.nTs_mem
  rw [created] at isCreated
  cases isCreated
  obtain ⟨cells, isCells, allocation⟩ :=
    Pcc.getKILinear_spec within.b_mem within.nEffTx_mem
  unfold ofdmSymbIdx
  rw [Pcc.getPccSymbolIdxMax_eq within.b_mem within.nEffTx_mem allocation
    (waits _ within.b_mem within.b_le _ within.nEffTx_mem within.nEffTx_le
      cells isCells)]

theorem canProcess_iff
    {pcc : Pcc}
    {plcfType : Nat}
    {octets : List UInt8}
    (supports : Supports maximum)
    (created : Pcc.create maximum.psdef.b maximum.tmMode.nTs = .ok pcc)
    (within : syncReport.Within maximum)
    (found : decoder.getPlcfBase plcfType = .ok (some ⟨kind, header⟩))
    (acceptable :
      PlcfDecoder.Acceptable (plcfLimits maximum) plcfType octets kind
        header) :
    CanProcess maximum pcc syncReport decoder plcfType ↔
      LongEnough syncReport.u syncReport.b syncReport.nEffTx
        (getNPacketSymb (kind.base header).packetLengthType.toNat
          (kind.base header).getPacketLength.toNat (syncReport.u * 10)
          (syncReport.u * 2))
        (kind.base header).dfmcs.toNat := by
  obtain ⟨psdef, tmMode, isListed, mcs, isTabled, isPsdef, valid, isU, isB,
      lengthType, packetLength, isTmMode, streams, isMcs, mcsIndex,
      lowMcs⟩ :=
    worksubPsdef_spec supports within found acceptable
  obtain ⟨long, -, multiple⟩ := valid.nPacketSymb_bounds
  have sizes :=
    getPacketSizes_spec valid isTmMode
      (by rw [streams]; exact within.nEffTx_mem) isMcs
  have symbols : psdef.nPacketSymb =
      getNPacketSymb (kind.base header).packetLengthType.toNat
        (kind.base header).getPacketLength.toNat (syncReport.u * 10)
        (syncReport.u * 2) := by
    rw [← lengthType, ← packetLength, ← isU]
    rfl
  have isLongEnough :=
    longEnough_iff valid.u_mem valid.b_mem isListed isTabled long multiple
  rw [← symbols, ← mcsIndex, ← streams, ← isU, ← isB, ← isLongEnough]
  have position := ofdmSymbIdx_eq supports within created
  rw [← streams, ← isB] at position
  constructor
  · rintro ⟨other, packetSizes, isOther, isSizes, continues⟩
    rw [isPsdef] at isOther
    cases isOther
    rcases sizes with ⟨packetValid, enough, q, isQ, describes⟩ | ⟨-, no⟩
    · rw [isQ] at isSizes
      cases isSizes
      have inside := (Checked.bind_eq_ok.mp continues)
      obtain ⟨-, -, further⟩ := inside
      have reached := dectnrpAssert_eq_ok.mp further
      rw [decide_eq_true_iff, position, describes.nDfSymb] at reached
      exact ⟨packetValid, enough, reached⟩
    · rw [no] at isSizes
      cases isSizes
  · rintro ⟨packetValid, enough, room⟩
    rcases sizes with ⟨-, -, q, isQ, describes⟩ | ⟨impossible, -⟩
    · refine ⟨psdef, q, isPsdef, isQ, ?_⟩
      unfold demoddecodRxPdc
      rw [position, describes.nDfSymb, describes.psdef,
        decide_eq_true lowMcs, decide_eq_true room]
      rfl
    · exact absurd ⟨packetValid, enough⟩ impossible

/--
Whatever was decoded before, an accepted header describes a packet that the
receiver can process exactly if the packet is long enough.
-/
theorem canProcess_iff_longEnough
    {entry : String × RadioDeviceClass}
    (isClass : entry ∈ radioDeviceClasses) :
    ∃ maximum pcc,
      getMaximumPacketSizes entry.1 = .ok maximum ∧
      Pcc.create maximum.psdef.b maximum.tmMode.nTs = .ok pcc ∧
      ∀ syncReport : SyncReport, syncReport.Within maximum →
      ∀ plcf10 plcf20 plcf21 earlier packet,
      ∃ before after,
        PlcfDecoder.decodePackets earlier
            (.construct (plcfLimits maximum) plcf10 plcf20 plcf21) =
          .ok before ∧
        before.decodePacket packet = .ok after ∧
        ∀ plcfType, plcfType = 1 ∨ plcfType = 2 →
        ∀ kind header,
          after.getPlcfBase plcfType = .ok (some ⟨kind, header⟩) →
          (CanProcess maximum pcc syncReport after plcfType ↔
            LongEnough syncReport.u syncReport.b syncReport.nEffTx
              (getNPacketSymb (kind.base header).packetLengthType.toNat
                (kind.base header).getPacketLength.toNat
                (syncReport.u * 10) (syncReport.u * 2))
              (kind.base header).dfmcs.toNat) := by
  obtain ⟨maximum, isMaximum, supports⟩ :=
    getMaximumPacketSizes_supports isClass
  obtain ⟨pcc, created, -⟩ := Pcc.create_spec supports.b_mem supports.nTs_mem
  refine ⟨maximum, pcc, isMaximum, created, ?_⟩
  intro syncReport within plcf10 plcf20 plcf21 earlier packet
  obtain ⟨before, after, decoded, decodes, answers, absent⟩ :=
    PlcfDecoder.decodePackets_answers (plcfLimits maximum) plcf10 plcf20
      plcf21 earlier packet
  refine ⟨before, after, decoded, decodes, ?_⟩
  intro plcfType isType kind header isFound
  by_cases given : plcfType ∈ packet.calls.map Prod.fst
  · obtain ⟨⟨_, octets⟩, member, rfl⟩ := List.mem_map.mp given
    obtain ⟨found, same, acceptable⟩ := answers _ member
    rw [isFound] at same
    cases same
    exact canProcess_iff supports created within isFound acceptable
  · rw [absent plcfType isType given] at isFound
    cases isFound

section ShortPackets

/-- Objects of a decoder before its first packet. -/
def firstPlcf10 : Plcf10 where
  headerFormat := 0
  packetLengthType := 0
  packetLengthM1 := 0
  transmitPower := 0
  dfmcs := 0
  shortNetworkID := 0
  transmitterIdentity := 0
  reserved := 0

@[inherit_doc firstPlcf10]
def firstPool : FeedbackInfo.Pool :=
  ⟨⟨0, .nack, 0, 0⟩, ⟨0, .singleLayer, 0, 0⟩, ⟨0, .nack, 0, .nack, 0⟩,
    ⟨0, 0⟩, ⟨0, .nack, .singleLayer, 0⟩, ⟨0, 0, 0, 0⟩⟩

@[inherit_doc firstPlcf10]
def firstPlcf20 : Plcf20 where
  toPlcfBase := firstPlcf10.toPlcfBase
  shortNetworkID := 0
  transmitterIdentity := 0
  receiverIdentity := 0
  numberOfSpatialStreams := 0
  dfRedundancyVersion := 0
  dfNewDataIndication := 0
  dfHARQProcessNumber := 0
  feedbackFormat := 0
  feedbackInfoPool := firstPool

@[inherit_doc firstPlcf10]
def firstPlcf21 : Plcf21 where
  toPlcfBase := firstPlcf10.toPlcfBase
  shortNetworkID := 0
  transmitterIdentity := 0
  receiverIdentity := 0
  numberOfSpatialStreams := 0
  reserved := 0
  feedbackFormat := 0
  feedbackInfoPool := firstPool

/-- A header of type 1: one subslot or one slot with the lowest modulation. -/
def beaconPacket (octet0 : UInt8) : PlcfPacket where
  calls := [(1, [octet0, 1, 0, 1, 0])]
  sized := by
    intro call member
    rw [List.mem_singleton.mp member]
    exact Or.inl ⟨rfl, rfl⟩
  once := List.nodup_singleton 1

/-- The fields of such a header. -/
def beaconHeader (packetLengthType : UInt32) : Plcf10 where
  headerFormat := 0
  packetLengthType := packetLengthType
  packetLengthM1 := 0
  transmitPower := 0
  dfmcs := 0
  shortNetworkID := 1
  transmitterIdentity := 1
  reserved := 0

/-- The smallest class, for which nothing can vary. -/
theorem getMaximumPacketSizes_smallestClass :
    ∃ maximum pcc,
      getMaximumPacketSizes "1.1.1.A" = .ok maximum ∧
      Pcc.create maximum.psdef.b maximum.tmMode.nTs = .ok pcc ∧
      plcfLimits maximum = ⟨4, 7, 1⟩ ∧
      maximum.psdef.Z = 2048 ∧
      (⟨1, 1, 1⟩ : SyncReport).Within maximum := by
  have evaluated : ∃ maximum ∈ (getMaximumPacketSizes "1.1.1.A").toOption,
        maximum.psdef = ⟨1, 1, 1, 4, 0, 7, 2048⟩ ∧
          maximum.tmMode = ⟨0, 1, 1, false, 1, 1⟩ := by
    decide +kernel
  obtain ⟨maximum, found, psdef, tmMode⟩ := evaluated
  obtain ⟨other, isMaximum, supports⟩ :=
    @getMaximumPacketSizes_supports
      ("1.1.1.A", ⟨1, 1, 1, 7, 8, 2, 25344, 2048, 4⟩) (by decide)
  rw [isMaximum] at found
  cases found
  obtain ⟨pcc, created, -⟩ := Pcc.create_spec supports.b_mem supports.nTs_mem
  refine ⟨maximum, pcc, isMaximum, created, ?_, ?_, ?_⟩
  · unfold plcfLimits
    rw [psdef, tmMode]
    rfl
  · rw [psdef]
  · refine ⟨by decide, ?_, by decide, ?_, by decide, ?_⟩
    · rw [psdef]
    · rw [psdef]
    · rw [tmMode]

/-- A packet of one slot is long enough at the lowest modulation. -/
theorem canProcess_oneSlot :
    ∃ maximum pcc after,
      getMaximumPacketSizes "1.1.1.A" = .ok maximum ∧
      Pcc.create maximum.psdef.b maximum.tmMode.nTs = .ok pcc ∧
      (PlcfDecoder.construct (plcfLimits maximum) firstPlcf10 firstPlcf20
          firstPlcf21).decodePacket (beaconPacket 16) =
        .ok after ∧
      after.getPlcfBase 1 = .ok (some ⟨.plcf10, beaconHeader 1⟩) ∧
      CanProcess maximum pcc ⟨1, 1, 1⟩ after 1 := by
  obtain ⟨maximum, pcc, isMaximum, created, always⟩ :=
    @canProcess_iff_longEnough
      ("1.1.1.A", ⟨1, 1, 1, 7, 8, 2, 25344, 2048, 4⟩) (by decide)
  obtain ⟨_, _, sameMaximum, -, limits, -, within⟩ :=
    getMaximumPacketSizes_smallestClass
  rw [isMaximum] at sameMaximum
  cases sameMaximum
  obtain ⟨before, after, decoded, decodes, answers⟩ :=
    always ⟨1, 1, 1⟩ within firstPlcf10 firstPlcf20 firstPlcf21 []
      (beaconPacket 16)
  cases decoded
  have found : after.getPlcfBase 1 = .ok (some ⟨.plcf10, beaconHeader 1⟩) := by
    rw [limits] at decodes
    cases decodes
    rfl
  refine ⟨maximum, pcc, after, isMaximum, created, decodes, found, ?_⟩
  exact
    (answers 1 (Or.inl rfl) .plcf10 (beaconHeader 1) found).mpr
      (by decide)

/-- There is no packet of one subslot at the lowest modulation. -/
theorem not_canProcess_oneSubslot :
    ¬ ∀ entry ∈ radioDeviceClasses, ∀ maximum pcc,
        getMaximumPacketSizes entry.1 = .ok maximum →
        Pcc.create maximum.psdef.b maximum.tmMode.nTs = .ok pcc →
        ∀ syncReport : SyncReport, syncReport.Within maximum →
        ∀ plcf10 plcf20 plcf21 earlier packet before after,
          PlcfDecoder.decodePackets earlier
              (.construct (plcfLimits maximum) plcf10 plcf20 plcf21) =
            .ok before →
          before.decodePacket packet = .ok after →
          ∀ plcfType kind header,
            after.getPlcfBase plcfType = .ok (some ⟨kind, header⟩) →
            CanProcess maximum pcc syncReport after plcfType := by
  intro always
  obtain ⟨maximum, pcc, isMaximum, created, limits, isZ, within⟩ :=
    getMaximumPacketSizes_smallestClass
  have decodes :
      ∃ after,
        (PlcfDecoder.construct (plcfLimits maximum) firstPlcf10
            firstPlcf20 firstPlcf21).decodePacket (beaconPacket 0) =
          .ok after ∧
        after.getPlcfBase 1 = .ok (some ⟨.plcf10, beaconHeader 0⟩) := by
    rw [limits]
    exact ⟨_, rfl, rfl⟩
  obtain ⟨after, decoded, found⟩ := decodes
  obtain ⟨psdef, packetSizes, isPsdef, isSizes, -⟩ :=
    always ("1.1.1.A", ⟨1, 1, 1, 7, 8, 2, 25344, 2048, 4⟩) (by decide)
      maximum pcc isMaximum created ⟨1, 1, 1⟩ within firstPlcf10
      firstPlcf20 firstPlcf21 [] (beaconPacket 0) _ after rfl decoded 1
      .plcf10 (beaconHeader 0) found
  have described : psdef = ⟨1, 1, 0, 1, 0, 0, 2048⟩ := by
    unfold worksubPsdef at isPsdef
    rw [found, isZ] at isPsdef
    cases isPsdef
    rfl
  have noPacket : getPacketSizes ⟨1, 1, 0, 1, 0, 0, 2048⟩ = .ok none := by
    decide +kernel
  rw [described, noPacket] at isSizes
  cases isSizes

end ShortPackets

end HeaderAdmission

end DectNrp
