import DectNrp.PacketAdmission

namespace DectNrp

open Phyres

/-!
# The largest packet of a radio device class

Buffers are allocated for the largest packet of a class: the one with the
largest numerology, bandwidth, length and modulation, and with as many streams
as there are antennas.  More streams need more reference signals, and a larger
numerology has a longer guard interval, but neither outweighs what is gained.
-/

open Pdc (getNDfSymb)
open Drs (nofSymbols)
open Checked (bind_eq_ok ok_bind)

namespace Sp3

variable {qq : PacketSizesDef}

/-- Definitions that pass the first assertions are valid. -/
theorem valid_of_getPacketSizes
    {sizes : Option PacketSizes}
    (returned : getPacketSizes qq = .ok sizes) :
    qq.Valid := by
  have isU : ∀ u ≤ 8, hasSingleBit u = true → u ∈ [1, 2, 4, 8] := by decide
  have isB : ∀ b ≤ 16, hasSingleBit b = true → b ∈ bIdx2bLut := by decide
  unfold getPacketSizes at returned
  obtain ⟨_, u, returned⟩ := bind_eq_ok.mp returned
  obtain ⟨_, b, returned⟩ := bind_eq_ok.mp returned
  obtain ⟨_, lengthType, returned⟩ := bind_eq_ok.mp returned
  obtain ⟨_, length, returned⟩ := bind_eq_ok.mp returned
  obtain ⟨_, tmModeIndex, returned⟩ := bind_eq_ok.mp returned
  obtain ⟨_, mcsIndex, returned⟩ := bind_eq_ok.mp returned
  obtain ⟨_, Z, -⟩ := bind_eq_ok.mp returned
  have u := dectnrpAssert_eq_ok.mp u
  have b := dectnrpAssert_eq_ok.mp b
  have length := dectnrpAssert_eq_ok.mp length
  have Z := dectnrpAssert_eq_ok.mp Z
  rw [Bool.and_eq_true, decide_eq_true_iff] at u
  rw [Bool.or_eq_true, Bool.and_eq_true, decide_eq_true_iff, beq_iff_eq] at b
  rw [Bool.and_eq_true, decide_eq_true_iff, decide_eq_true_iff] at length
  rw [Bool.or_eq_true, beq_iff_eq, beq_iff_eq] at Z
  constructor
  · exact isU qq.u u.2 u.1
  · rcases b with ⟨single, short⟩ | isTwelve
    · exact isB qq.b short single
    · rw [isTwelve]
      decide
  · exact of_decide_eq_true (dectnrpAssert_eq_ok.mp lengthType)
  · exact length.1
  · exact length.2
  · exact of_decide_eq_true (dectnrpAssert_eq_ok.mp tmModeIndex)
  · exact of_decide_eq_true (dectnrpAssert_eq_ok.mp mcsIndex)
  · exact Z

/-- All sizes of a packet by its definition. -/
structure Sizes
    (qq : PacketSizesDef)
    (tmMode : TmMode)
    (mcs : Mcs)
    (q : PacketSizes) :
    Prop where
  psdef : q.psdef = qq
  isTmMode : q.tmMode = tmMode
  isMcs : q.mcs = mcs
  nPacketSymb : q.nPacketSymb = qq.nPacketSymb
  nPdcSubc :
    q.nPdcSubc = dataCells qq.u qq.nPacketSymb qq.b tmMode.nEffTx
  G :
    q.G =
      TransportBlockSize.getG tmMode.nSs
        (dataCells qq.u qq.nPacketSymb qq.b tmMode.nEffTx) mcs.nBps
  nPdcBits : q.nPdcBits = dataBits qq.u qq.nPacketSymb qq.b tmMode mcs
  nTbBits :
    q.nTbBits =
      TransportBlockSize.getNTbBits tmMode.nSs
        (dataCells qq.u qq.nPacketSymb qq.b tmMode.nEffTx) mcs.nBps
        mcs.rNumerator mcs.rDenominator qq.Z
  nTbByte :
    q.nTbByte = TransportBlockSize.ceilDivideInteger q.nTbBits 8
  C :
    q.C =
      TransportBlockSize.nofCodeblocks
        (TransportBlockSize.nM
          (dataBits qq.u qq.nPacketSymb qq.b tmMode mcs)) qq.Z
  nDfSymb : q.nDfSymb = getNDfSymb qq.u qq.nPacketSymb
  nDrsSubc :
    q.nDrsSubc =
      tmMode.nEffTx * (14 * qq.b) *
        nofSymbols qq.nPacketSymb tmMode.nEffTx
  nSamplesOfdmSymbol :
    q.nSamplesOfdmSymbol = getNSamplesOfdmSymbol qq.b
  nSamplesStf : q.nSamplesStf = getNSamplesStf qq.u qq.b
  nSamplesStfCpOnly : q.nSamplesStfCpOnly = getNSamplesStfCpOnly qq.u qq.b
  nSamplesDf : q.nSamplesDf = getNSamplesDf qq.u qq.b qq.nPacketSymb
  nSamplesGi : q.nSamplesGi = getNSamplesGi qq.u qq.b
  nSamplesPacketNoGi : q.nSamplesPacketNoGi = q.nSamplesStf + q.nSamplesDf
  nSamplesPacket :
    q.nSamplesPacket = q.nSamplesPacketNoGi + q.nSamplesGi

variable {q : PacketSizes}

variable {numerology : Numerologies}

theorem sizes_of_fillPacketSizes
    {tmMode : TmMode}
    {mcs : Mcs}
    {C : Nat}
    (nBOcc : numerology.nBOcc = qq.b * 56)
    (packetValid : PacketValid qq.u qq.nPacketSymb tmMode.nEffTx)
    (isC :
      C =
        TransportBlockSize.nofCodeblocks
          (TransportBlockSize.nM
            (dataBits qq.u qq.nPacketSymb qq.b tmMode mcs)) qq.Z)
    (returned :
      fillPacketSizes qq numerology mcs tmMode qq.nPacketSymb
          (dataCells qq.u qq.nPacketSymb qq.b tmMode.nEffTx)
          (TransportBlockSize.getNTbBits tmMode.nSs
            (dataCells qq.u qq.nPacketSymb qq.b tmMode.nEffTx) mcs.nBps
            mcs.rNumerator mcs.rDenominator qq.Z)
          C =
        .ok q) :
    Sizes qq tmMode mcs q := by
  have quarter :
      tmMode.nEffTx * (qq.b * 56) / 4 = tmMode.nEffTx * (14 * qq.b) := by
    have regroup :
        tmMode.nEffTx * (qq.b * 56) = tmMode.nEffTx * (14 * qq.b) * 4 := by
      ring
    rw [regroup]
    exact Nat.mul_div_cancel _ (by decide)
  unfold fillPacketSizes at returned
  obtain ⟨nDrsSubc, isNDrsSubc, returned⟩ := bind_eq_ok.mp returned
  obtain ⟨_, -, returned⟩ := bind_eq_ok.mp returned
  obtain ⟨_, -, returned⟩ := bind_eq_ok.mp returned
  simp only [Pdc.getNDrsSubc,
    Pdc.getNofOfdmSymbolsCarryingDrsPerTs_eq packetValid, nBOcc,
    ok_bind, quarter] at isNDrsSubc
  cases isNDrsSubc
  cases returned
  exact
    { psdef := rfl, isTmMode := rfl, isMcs := rfl, nPacketSymb := rfl
      nPdcSubc := rfl, G := rfl, nPdcBits := rfl, nTbBits := rfl
      nTbByte := rfl, C := isC, nDfSymb := rfl, nDrsSubc := rfl
      nSamplesOfdmSymbol := rfl, nSamplesStf := rfl
      nSamplesStfCpOnly := rfl, nSamplesDf := rfl, nSamplesGi := rfl
      nSamplesPacketNoGi := rfl, nSamplesPacket := rfl }

theorem sizes_of_sizeDataChannel
    {tmMode : TmMode}
    {mcs : Mcs}
    (validZ : qq.Z = 2048 ∨ qq.Z = 6144)
    (nBOcc : numerology.nBOcc = qq.b * 56)
    (packetValid : PacketValid qq.u qq.nPacketSymb tmMode.nEffTx)
    (isMcs : getMcs qq.mcsIndex = .ok mcs)
    (returned :
      sizeDataChannel qq numerology tmMode qq.nPacketSymb = .ok (some q)) :
    Sizes qq tmMode mcs q := by
  unfold sizeDataChannel at returned
  rw [nBOcc, getNPdcSubc_eq_dataCells packetValid, ok_bind, isMcs] at returned
  split at returned
  · cases returned
  · rw [ok_bind] at returned
    dsimp only at returned
    split at returned
    · cases returned
    · rename_i notZero
      obtain ⟨cbSegm, segmented, suits⟩ :=
        TransportBlockSize.suits_of_getNTbBits validZ rfl
          (Nat.pos_of_ne_zero notZero)
      rw [segmented] at returned
      dsimp only at returned
      split at returned
      · cases returned
      · obtain ⟨other, isFilled, returned⟩ := bind_eq_ok.mp returned
        cases returned
        exact
          sizes_of_fillPacketSizes nBOcc packetValid suits.sameCount isFilled

/-- A packet has the sizes that its definition describes. -/
theorem getPacketSizes_sizes (returned : getPacketSizes qq = .ok (some q)) :
    ∃ tmMode ∈ tmModes, ∃ mcs ∈ mcsTable,
      getTmMode qq.tmModeIndex = .ok tmMode ∧
      getMcs qq.mcsIndex = .ok mcs ∧
      PacketValid qq.u qq.nPacketSymb tmMode.nEffTx ∧
      Sizes qq tmMode mcs q := by
  have valid := valid_of_getPacketSizes returned
  have modes : ∀ index ≤ 11, ∃ tmMode ∈ tmModes,
        getTmMode index = .ok tmMode ∧ tmMode.nEffTx ∈ nTsIdx2NTsVec := by
    decide
  have modulations :
      ∀ index ≤ 11, ∃ mcs ∈ mcsTable, getMcs index = .ok mcs := by
    decide
  obtain ⟨tmMode, modeMember, isTmMode, isStreams⟩ :=
    modes qq.tmModeIndex valid.tmModeIndex
  obtain ⟨mcs, mcsMember, isMcs⟩ := modulations qq.mcsIndex valid.mcsIndex
  refine ⟨tmMode, modeMember, mcs, mcsMember, isTmMode, isMcs, ?_⟩
  rcases getPacketSizes_spec valid isTmMode isStreams isMcs with
    ⟨packetValid, -, -⟩ | ⟨-, none⟩
  · refine ⟨packetValid, ?_⟩
    obtain ⟨numerology, nBOcc, sizes⟩ := valid.getPacketSizes_eq isTmMode
    rw [sizes] at returned
    split at returned
    · cases returned
    · split at returned
      · cases returned
      · exact sizes_of_sizeDataChannel valid.Z nBOcc packetValid isMcs returned
  · rw [returned] at none
    cases none

/-- A packet has 1280 symbols at most. -/
theorem getPacketSizes_nDfSymb_le
    (returned : getPacketSizes qq = .ok (some q)) :
    q.nDfSymb ≤ 1280 := by
  obtain ⟨-, short, -⟩ := (valid_of_getPacketSizes returned).nPacketSymb_bounds
  obtain ⟨_, -, _, -, -, -, -, sizes⟩ := getPacketSizes_sizes returned
  rw [sizes.nDfSymb]
  unfold getNDfSymb
  split_ifs <;> omega

/-- With one spatial stream, each data cell carries the bits of one symbol. -/
theorem getPacketSizes_G_of_single
    (returned : getPacketSizes qq = .ok (some q))
    (single : q.tmMode.nSs = 1) :
    q.G = q.nPdcSubc * q.mcs.nBps := by
  obtain ⟨_, -, _, -, -, -, -, sizes⟩ := getPacketSizes_sizes returned
  rw [sizes.isTmMode] at single
  rw [sizes.G, sizes.nPdcSubc, sizes.isMcs, single]
  unfold TransportBlockSize.getG
  rw [Nat.one_mul]

section Bits

open TransportBlockSize

variable {fewer more : Nat}

/-- Rounding keeps the order, although the step grows. -/
theorem nM_mono (le : fewer ≤ more) :
    nM fewer ≤ nM more := by
  unfold nM stepOf
  split_ifs <;> omega

/-- Large numbers of bits are multiples of the largest step. -/
theorem nM_multiple
    {Z : Nat}
    (validZ : Z = 2048 ∨ Z = 6144)
    (large : Z < nM more) :
    nM more % 64 = 0 := by
  unfold nM stepOf at large ⊢
  split_ifs at large ⊢
  · rcases validZ with rfl | rfl <;> omega
  · rcases validZ with rfl | rfl <;> omega
  · rcases validZ with rfl | rfl <;> omega
  · exact Nat.mul_mod_left _ _

/-- More bits need no fewer code blocks. -/
theorem nofCodeblocks_mono
    {Z : Nat}
    (validZ : Z = 2048 ∨ Z = 6144)
    (le : fewer ≤ more) :
    nofCodeblocks fewer Z ≤ nofCodeblocks more Z := by
  unfold nofCodeblocks ceilDivideInteger L
  rcases validZ with rfl | rfl
  · split_ifs <;> omega
  · split_ifs <;> omega

theorem getNTbBits_mono
    {nSs nPdcSubc nBps rNumerator rDenominator : Nat}
    {nSs' nPdcSubc' nBps' rNumerator' rDenominator' : Nat}
    {Z : Nat}
    (validZ : Z = 2048 ∨ Z = 6144)
    (le :
      getNPdcBits nSs nPdcSubc nBps rNumerator rDenominator ≤
        getNPdcBits nSs' nPdcSubc' nBps' rNumerator' rDenominator') :
    getNTbBits nSs nPdcSubc nBps rNumerator rDenominator Z ≤
      getNTbBits nSs' nPdcSubc' nBps' rNumerator' rDenominator' Z := by
  unfold getNTbBits
  generalize getNPdcBits nSs nPdcSubc nBps rNumerator rDenominator = fewer at *
  generalize
    getNPdcBits nSs' nPdcSubc' nBps' rNumerator' rDenominator' = more at *
  have ordered := nM_mono le
  have blocks := nofCodeblocks_mono validZ ordered
  have fewerMultiple := @nM_multiple fewer Z validZ
  have moreMultiple := @nM_multiple more Z validZ
  dsimp only
  generalize nM fewer = few at *
  generalize nM more = many at *
  have isL : L = 24 := rfl
  by_cases tooSmall : few ≤ L
  · have nothing : (if few = 0 then 0 else if few ≤ L then 0
          else if few ≤ Z then few - L
          else few - (nofCodeblocks few Z + 1) * L) = 0 := by
      rw [if_pos tooSmall, ite_self]
    rw [nothing]
    exact Nat.zero_le _
  · have notTooSmall : ¬ many ≤ L := by omega
    have fewNotZero : ¬ few = 0 := by omega
    have manyNotZero : ¬ many = 0 := by omega
    rw [if_neg fewNotZero, if_neg tooSmall, if_neg manyNotZero,
      if_neg notTooSmall, isL]
    by_cases severalBlocks : few ≤ Z
    · rw [if_pos severalBlocks]
      by_cases oneBlock : many ≤ Z
      · rw [if_pos oneBlock]
        exact Nat.sub_le_sub_right ordered 24
      · rw [if_neg oneBlock]
        obtain ⟨several, full, -⟩ :=
          nofCodeblocks_bounds validZ
            (moreMultiple (Nat.lt_of_not_le oneBlock))
            (Nat.lt_of_not_le oneBlock)
        rcases validZ with rfl | rfl <;> omega
    · have notOneBlock : ¬ many ≤ Z := by omega
      rw [if_neg severalBlocks, if_neg notOneBlock]
      have fewerMultiple := fewerMultiple (Nat.lt_of_not_le severalBlocks)
      have moreMultiple := moreMultiple (Nat.lt_of_not_le notOneBlock)
      obtain ⟨-, -, room⟩ :=
        nofCodeblocks_bounds validZ fewerMultiple
          (Nat.lt_of_not_le severalBlocks)
      obtain ⟨-, full, -⟩ :=
        nofCodeblocks_bounds validZ moreMultiple (Nat.lt_of_not_le notOneBlock)
      rcases validZ with rfl | rfl <;> omega

end Bits

theorem div_le_div_of_cross
    {numerator denominator numerator' denominator' : Nat}
    (positive : 0 < denominator)
    (positive' : 0 < denominator')
    (cross : numerator * denominator' ≤ numerator' * denominator) :
    numerator / denominator ≤ numerator' / denominator' := by
  rw [Nat.le_div_iff_mul_le positive']
  refine Nat.le_of_mul_le_mul_right ?_ positive
  calc
    numerator / denominator * denominator' * denominator =
        numerator / denominator * denominator * denominator' := by
      ring
    _ ≤ numerator * denominator' :=
      Nat.mul_le_mul_right _ (Nat.div_mul_le_self _ _)
    _ ≤ numerator' * denominator := cross

section Cells

variable {u uMax nPacketSymb packetLength b bMax nEffTx nTx : Nat}

theorem getNDfSymb_mono
    (uMember : u ∈ [1, 2, 4, 8])
    (uMaxMember : uMax ∈ [1, 2, 4, 8])
    (uLe : u ≤ uMax)
    (long : 4 ≤ packetLength)
    (fits : nPacketSymb ≤ 10 * u * packetLength) :
    getNDfSymb u nPacketSymb ≤
      getNDfSymb uMax (10 * uMax * packetLength) := by
  simp only [List.mem_cons, List.not_mem_nil, or_false] at uMember uMaxMember
  unfold getNDfSymb
  rcases uMember with rfl | rfl | rfl | rfl <;>
    rcases uMaxMember with rfl | rfl | rfl | rfl <;> simp <;> omega

theorem nofSymbols_mono
    (uMember : u ∈ [1, 2, 4, 8])
    (uMaxMember : uMax ∈ [1, 2, 4, 8])
    (isStreams : nEffTx ∈ nTsIdx2NTsVec)
    (uLe : u ≤ uMax)
    (long : 4 ≤ packetLength)
    (short : 5 ≤ nPacketSymb)
    (multiple : nPacketSymb % 5 = 0)
    (fits : nPacketSymb ≤ 10 * u * packetLength) :
    4 * getNDfSymb u nPacketSymb +
        nEffTx * nofSymbols (10 * uMax * packetLength) nEffTx ≤
      4 * getNDfSymb uMax (10 * uMax * packetLength) +
        nEffTx * nofSymbols nPacketSymb nEffTx := by
  have gained :
      4 * getNDfSymb u nPacketSymb + 4 * (10 * uMax * packetLength) =
          4 * getNDfSymb uMax (10 * uMax * packetLength) +
            4 * nPacketSymb ∨
        40 + nPacketSymb ≤ 10 * uMax * packetLength ∧
          4 * getNDfSymb u nPacketSymb + 4 * (10 * uMax * packetLength) ≤
            4 * getNDfSymb uMax (10 * uMax * packetLength) +
              4 * nPacketSymb + 8 := by
    simp only [List.mem_cons, List.not_mem_nil, or_false] at uMember uMaxMember
    unfold getNDfSymb
    rcases uMember with rfl | rfl | rfl | rfl <;>
      rcases uMaxMember with rfl | rfl | rfl | rfl <;> simp <;> omega
  have longer : nPacketSymb ≤ 10 * uMax * packetLength :=
    fits.trans (Nat.mul_le_mul_right _ (Nat.mul_le_mul_left 10 uLe))
  have tens : 10 * uMax * packetLength = 10 * (uMax * packetLength) :=
    Nat.mul_assoc _ _ _
  rw [tens] at gained longer ⊢
  generalize uMax * packetLength = slots at *
  simp only [nTsIdx2NTsVec, List.mem_cons, List.not_mem_nil, or_false]
    at isStreams
  unfold nofSymbols
  rcases isStreams with rfl | rfl | rfl | rfl
  · simp only [Nat.reduceLeDiff, if_true]
    omega
  · simp only [Nat.reduceLeDiff, if_true]
    omega
  · simp only [Nat.reduceLeDiff, if_false]
    omega
  · simp only [Nat.reduceLeDiff, if_false]
    omega

/-- Cells of the data channel, by the width of a quarter symbol. -/
theorem dataCells_eq :
    dataCells u nPacketSymb b nEffTx =
      14 * b *
          (4 * getNDfSymb u nPacketSymb -
            nEffTx * nofSymbols nPacketSymb nEffTx) -
        98 := by
  have isPcc : Pcc.pccCells = 98 := rfl
  have all : 14 * b * (4 * getNDfSymb u nPacketSymb) =
        getNDfSymb u nPacketSymb * (56 * b) := by
    ring
  have taken : 14 * b * (nEffTx * nofSymbols nPacketSymb nEffTx) =
        nEffTx * (14 * b) * nofSymbols nPacketSymb nEffTx := by
    ring
  rw [Nat.mul_sub, all, taken]
  unfold dataCells
  rw [isPcc]

theorem dataCells_mono
    (uMember : u ∈ [1, 2, 4, 8])
    (uMaxMember : uMax ∈ [1, 2, 4, 8])
    (isStreams : nEffTx ∈ nTsIdx2NTsVec)
    (uLe : u ≤ uMax)
    (bLe : b ≤ bMax)
    (long : 4 ≤ packetLength)
    (short : 5 ≤ nPacketSymb)
    (multiple : nPacketSymb % 5 = 0)
    (fits : nPacketSymb ≤ 10 * u * packetLength) :
    dataCells u nPacketSymb b nEffTx ≤
      dataCells uMax (10 * uMax * packetLength) bMax nEffTx := by
  have gained :=
    nofSymbols_mono uMember uMaxMember isStreams uLe long short multiple fits
  rw [dataCells_eq, dataCells_eq]
  refine Nat.sub_le_sub_right (Nat.mul_le_mul ?_ ?_) 98
  · exact Nat.mul_le_mul_left 14 bLe
  · omega

theorem streams_mono
    (uMaxMember : uMax ∈ [1, 2, 4, 8])
    (isStreams : nEffTx ∈ nTsIdx2NTsVec)
    (isMaxStreams : nTx ∈ nTsIdx2NTsVec)
    (fewer : nEffTx ≤ nTx)
    (positive : 0 < bMax)
    (long : 4 ≤ packetLength) :
    nEffTx * dataCells uMax (10 * uMax * packetLength) bMax nEffTx ≤
      nTx * dataCells uMax (10 * uMax * packetLength) bMax nTx := by
  by_cases same : nEffTx = nTx
  · rw [same]
  · have twice : 2 * nEffTx ≤ nTx ∧ 2 ≤ nTx := by
      simp only [nTsIdx2NTsVec, List.mem_cons, List.not_mem_nil, or_false]
        at isStreams isMaxStreams
      omega
    -- twice the cells of many streams are more than all cells of a stream
    have plenty : 4 * getNDfSymb uMax (10 * uMax * packetLength) + 14 ≤ 2 *
            (4 * getNDfSymb uMax (10 * uMax * packetLength) -
              nTx * nofSymbols (10 * uMax * packetLength) nTx) := by
      have tens : 10 * uMax * packetLength = 10 * (uMax * packetLength) :=
        Nat.mul_assoc _ _ _
      have several : 4 ≤ uMax * packetLength := by
        have atLeast : 1 ≤ uMax := by
          simp only [List.mem_cons, List.not_mem_nil, or_false] at uMaxMember
          omega
        exact long.trans (Nat.le_mul_of_pos_left _ atLeast)
      rw [tens]
      generalize uMax * packetLength = slots at *
      have mostly : 10 * slots - 4 ≤ getNDfSymb uMax (10 * slots) := by
        unfold getNDfSymb
        split_ifs <;> omega
      simp only [nTsIdx2NTsVec, List.mem_cons, List.not_mem_nil, or_false]
        at isMaxStreams
      unfold nofSymbols
      rcases isMaxStreams with rfl | rfl | rfl | rfl
      · omega
      · simp only [Nat.reduceLeDiff, if_true]
        omega
      · simp only [Nat.reduceLeDiff, if_false]
        omega
      · simp only [Nat.reduceLeDiff, if_false]
        omega
    rw [dataCells_eq, dataCells_eq]
    generalize 4 * getNDfSymb uMax (10 * uMax * packetLength) = all at *
    generalize
      all - nTx * nofSymbols (10 * uMax * packetLength) nTx = free at *
    have wide : 14 ≤ 14 * bMax := Nat.le_mul_of_pos_right 14 positive
    generalize 14 * bMax = width at *
    have few : width *
            (all - nEffTx * nofSymbols (10 * uMax * packetLength) nEffTx) -
            98 ≤
          width * all :=
      (Nat.sub_le _ _).trans (Nat.mul_le_mul_left width (Nat.sub_le _ _))
    have many : width * all ≤ 2 * (width * free - 98) := by
      have scaled : width * (all + 14) ≤ width * (2 * free) :=
        Nat.mul_le_mul_left width plenty
      rw [Nat.mul_add, Nat.mul_left_comm] at scaled
      omega
    calc
      nEffTx * (width * (all -
                nEffTx * nofSymbols (10 * uMax * packetLength) nEffTx) -
            98) ≤
          nEffTx * (2 * (width * free - 98)) :=
        Nat.mul_le_mul_left nEffTx (few.trans many)
      _ = 2 * nEffTx * (width * free - 98) := by ring
      _ ≤ nTx * (width * free - 98) := Nat.mul_le_mul_right _ twice.1

/-- Some streams of a packet have no more cells than all of a larger one. -/
theorem streamCells_mono
    (uMember : u ∈ [1, 2, 4, 8])
    (uMaxMember : uMax ∈ [1, 2, 4, 8])
    (isStreams : nEffTx ∈ nTsIdx2NTsVec)
    (isMaxStreams : nTx ∈ nTsIdx2NTsVec)
    {nSs : Nat}
    (streams : nSs ≤ nEffTx)
    (fewer : nEffTx ≤ nTx)
    (uLe : u ≤ uMax)
    (bLe : b ≤ bMax)
    (positive : 0 < bMax)
    (long : 4 ≤ packetLength)
    (short : 5 ≤ nPacketSymb)
    (multiple : nPacketSymb % 5 = 0)
    (fits : nPacketSymb ≤ 10 * u * packetLength) :
    nSs * dataCells u nPacketSymb b nEffTx ≤
      nTx * dataCells uMax (10 * uMax * packetLength) bMax nTx :=
  calc
    nSs * dataCells u nPacketSymb b nEffTx ≤
        nEffTx * dataCells uMax (10 * uMax * packetLength) bMax nEffTx :=
      Nat.mul_le_mul streams
        (dataCells_mono uMember uMaxMember isStreams uLe bLe long short
          multiple fits)
    _ ≤ nTx * dataCells uMax (10 * uMax * packetLength) bMax nTx :=
      streams_mono uMaxMember isStreams isMaxStreams fewer positive long

/-- More cells and a higher rate carry more bits. -/
theorem dataBits_mono
    {tmMode maxMode : TmMode}
    {mcs maxMcs : Mcs}
    {maxPacketSymb : Nat}
    (rate : 0 < mcs.rDenominator)
    (maxRate : 0 < maxMcs.rDenominator)
    (cross :
      mcs.nBps * mcs.rNumerator * maxMcs.rDenominator ≤
        maxMcs.nBps * maxMcs.rNumerator * mcs.rDenominator)
    (cells :
      tmMode.nSs * dataCells u nPacketSymb b tmMode.nEffTx ≤
        maxMode.nSs * dataCells uMax maxPacketSymb bMax maxMode.nEffTx) :
    dataBits u nPacketSymb b tmMode mcs ≤
      dataBits uMax maxPacketSymb bMax maxMode maxMcs := by
  unfold dataBits TransportBlockSize.getNPdcBits TransportBlockSize.getG
  refine div_le_div_of_cross rate maxRate ?_
  have products := Nat.mul_le_mul cells cross
  calc
    _ = tmMode.nSs * dataCells u nPacketSymb b tmMode.nEffTx *
        (mcs.nBps * mcs.rNumerator * maxMcs.rDenominator) := by
      ring
    _ ≤ _ := products
    _ = _ := by
      ring

theorem nDrsSubc_mono
    (isStreams : nEffTx ∈ nTsIdx2NTsVec)
    (isMaxStreams : nTx ∈ nTsIdx2NTsVec)
    (fewer : nEffTx ≤ nTx)
    (bLe : b ≤ bMax)
    (fits : nPacketSymb ≤ 10 * uMax * packetLength) :
    nEffTx * (14 * b) * nofSymbols nPacketSymb nEffTx ≤
      nTx * (14 * bMax) * nofSymbols (10 * uMax * packetLength) nTx := by
  have symbols : nEffTx * nofSymbols nPacketSymb nEffTx ≤
        nTx * nofSymbols (10 * uMax * packetLength) nTx := by
    have tens : 10 * uMax * packetLength = 10 * (uMax * packetLength) :=
      Nat.mul_assoc _ _ _
    rw [tens] at fits ⊢
    generalize uMax * packetLength = slots at *
    simp only [nTsIdx2NTsVec, List.mem_cons, List.not_mem_nil, or_false]
      at isStreams isMaxStreams
    unfold nofSymbols
    rcases isStreams with rfl | rfl | rfl | rfl <;>
      rcases isMaxStreams with rfl | rfl | rfl | rfl <;> simp <;> omega
  calc
    nEffTx * (14 * b) * nofSymbols nPacketSymb nEffTx =
        14 * b * (nEffTx * nofSymbols nPacketSymb nEffTx) := by
      ring
    _ ≤ 14 * bMax *
        (nTx * nofSymbols (10 * uMax * packetLength) nTx) :=
      Nat.mul_le_mul (Nat.mul_le_mul_left 14 bLe) symbols
    _ = nTx * (14 * bMax) *
        nofSymbols (10 * uMax * packetLength) nTx := by
      ring

end Cells

theorem getMcs_mono
    {index larger : Nat}
    {mcs mcs' : Mcs}
    (le : index ≤ larger)
    (inside : larger ≤ 11)
    (isMcs : getMcs index = .ok mcs)
    (isMcs' : getMcs larger = .ok mcs') :
    mcs.nBps ≤ mcs'.nBps ∧
      0 < mcs.rDenominator ∧ 0 < mcs'.rDenominator ∧
      mcs.nBps * mcs.rNumerator * mcs'.rDenominator ≤
        mcs'.nBps * mcs'.rNumerator * mcs.rDenominator := by
  have listed : ∀ index ≤ 11, ∃ mcs ∈ mcsTable,
        getMcs index = .ok mcs ∧ mcs.index = index := by
    decide
  have ordered : ∀ mcs ∈ mcsTable, ∀ mcs' ∈ mcsTable, mcs.index ≤ mcs'.index →
        mcs.nBps ≤ mcs'.nBps ∧ 0 < mcs.rDenominator ∧ 0 < mcs'.rDenominator ∧
          mcs.nBps * mcs.rNumerator * mcs'.rDenominator ≤
            mcs'.nBps * mcs'.rNumerator * mcs.rDenominator := by
    decide
  obtain ⟨first, firstMember, isFirst, firstIndex⟩ :=
    listed index (le.trans inside)
  obtain ⟨second, secondMember, isSecond, secondIndex⟩ := listed larger inside
  rw [isMcs] at isFirst
  rw [isMcs'] at isSecond
  cases isFirst
  cases isSecond
  exact ordered mcs firstMember mcs' secondMember (by omega)

theorem samples_mono
    {u uMax b bMax : Nat}
    (uMember : u ∈ [1, 2, 4, 8])
    (uMaxMember : uMax ∈ [1, 2, 4, 8])
    (uLe : u ≤ uMax)
    (bLe : b ≤ bMax) :
    getNSamplesStf u b ≤ getNSamplesStf uMax bMax ∧
      getNSamplesStfCpOnly u b ≤ getNSamplesStfCpOnly uMax bMax ∧
      getNSamplesGi u b ≤ getNSamplesGi uMax bMax := by
  simp only [List.mem_cons, List.not_mem_nil, or_false] at uMember uMaxMember
  unfold getNSamplesStfCpOnly getNSamplesStf getNSamplesGi
    getNSamplesOfdmSymbol
  rcases uMember with rfl | rfl | rfl | rfl <;>
    rcases uMaxMember with rfl | rfl | rfl | rfl <;> simp <;> omega

/--
The definition stays within a class.  The length is the one of the class in
slots; a length in subslots must not be longer than that.
-/
structure PacketSizesDef.Within
    (qq : PacketSizesDef)
    (radioDeviceClass : RadioDeviceClass) :
    Prop where
  u : qq.u ≤ radioDeviceClass.uMin
  b : qq.b ≤ radioDeviceClass.bMin
  packetLength :
    if qq.packetLengthType = 0 then
      qq.packetLength ≤ 2 * qq.u * radioDeviceClass.packetLengthMin
    else
      qq.packetLength ≤ radioDeviceClass.packetLengthMin
  mcsIndex : qq.mcsIndex ≤ radioDeviceClass.mcsIndexMin
  tmMode :
    ∀ tmMode, getTmMode qq.tmModeIndex = .ok tmMode →
      tmMode.nTx ≤ radioDeviceClass.nTxMin
  Z : qq.Z = radioDeviceClass.zMin

/-- Octets of the coded bits of a packet for transmission. -/
def PacketSizes.dLenTx (q : PacketSizes) : Nat :=
  TransportBlockSize.ceilDivideInteger q.G 8

/-- Octets of the soft bits of a received packet. -/
def PacketSizes.dLenRx (q : PacketSizes) : Nat :=
  q.G * 2

/-- Octets of the soft bits of a symbol with all its carriers. -/
def PacketSizes.demappingStageLen (q : PacketSizes) : Nat :=
  (56 * q.psdef.b + 1) * q.mcs.nBps * 2

/-- All sizes for which buffers are allocated are covered. -/
structure PacketSizes.CoveredBy (q maximum : PacketSizes) : Prop where
  Z : q.psdef.Z = maximum.psdef.Z
  dLenTx : q.dLenTx ≤ maximum.dLenTx
  dLenRx : q.dLenRx ≤ maximum.dLenRx
  demappingStageLen : q.demappingStageLen ≤ maximum.demappingStageLen
  nTbByte : q.nTbByte ≤ maximum.nTbByte
  nTbBits : q.nTbBits ≤ maximum.nTbBits
  nPdcBits : q.nPdcBits ≤ maximum.nPdcBits
  G : q.G ≤ maximum.G
  C : q.C ≤ maximum.C
  nDrsSubc : q.nDrsSubc ≤ maximum.nDrsSubc
  nDfSymb : q.nDfSymb ≤ maximum.nDfSymb
  nPacketSymb : q.nPacketSymb ≤ maximum.nPacketSymb
  nSamplesOfdmSymbol : q.nSamplesOfdmSymbol ≤ maximum.nSamplesOfdmSymbol
  nSamplesStf : q.nSamplesStf ≤ maximum.nSamplesStf
  nSamplesStfCpOnly : q.nSamplesStfCpOnly ≤ maximum.nSamplesStfCpOnly
  nSamplesDf : q.nSamplesDf ≤ maximum.nSamplesDf
  nSamplesGi : q.nSamplesGi ≤ maximum.nSamplesGi
  nSamplesPacketNoGi : q.nSamplesPacketNoGi ≤ maximum.nSamplesPacketNoGi
  nSamplesPacket : q.nSamplesPacket ≤ maximum.nSamplesPacket

variable {radioDeviceClass : RadioDeviceClass}

theorem PacketSizesDef.Within.nPacketSymb_le
    (valid : qq.Valid)
    (within : qq.Within radioDeviceClass) :
    qq.nPacketSymb ≤ 10 * qq.u * radioDeviceClass.packetLengthMin := by
  have fits := within.packetLength
  rw [valid.nPacketSymb]
  by_cases subslots : qq.packetLengthType = 0
  · rw [if_pos subslots] at fits ⊢
    calc
      5 * qq.packetLength ≤
          5 * (2 * qq.u * radioDeviceClass.packetLengthMin) :=
        Nat.mul_le_mul_left 5 fits
      _ = 10 * qq.u * radioDeviceClass.packetLengthMin := by ring
  · rw [if_neg subslots] at fits ⊢
    calc
      5 * (qq.packetLength * (2 * qq.u)) =
          10 * qq.u * qq.packetLength := by
        ring
      _ ≤ 10 * qq.u * radioDeviceClass.packetLengthMin :=
        Nat.mul_le_mul_left _ fits

/-- What the largest packet of a class is defined by. -/
structure IsMaximum
    (radioDeviceClass : RadioDeviceClass)
    (psdef : PacketSizesDef)
    (tmMode : TmMode) :
    Prop where
  u : psdef.u = radioDeviceClass.uMin
  b : psdef.b = radioDeviceClass.bMin
  nPacketSymb :
    psdef.nPacketSymb =
      10 * radioDeviceClass.uMin * radioDeviceClass.packetLengthMin
  mcsIndex : psdef.mcsIndex = radioDeviceClass.mcsIndexMin
  Z : psdef.Z = radioDeviceClass.zMin
  nSs : tmMode.nSs = radioDeviceClass.nTxMin
  nEffTx : tmMode.nEffTx = radioDeviceClass.nTxMin

theorem getMaxTmModeIndexDependingOnNTx_spec
    {nTx index : Nat}
    (returned : getMaxTmModeIndexDependingOnNTx nTx = .ok index) :
    nTx ∈ nTsIdx2NTsVec ∧
      ∀ tmMode, getTmMode index = .ok tmMode →
        tmMode.nSs = nTx ∧ tmMode.nEffTx = nTx := by
  unfold getMaxTmModeIndexDependingOnNTx at returned
  obtain ⟨_, isNTx, returned⟩ := bind_eq_ok.mp returned
  have isNTx := dectnrpAssert_eq_ok.mp isNTx
  simp only [Bool.or_eq_true, beq_iff_eq] at isNTx
  rcases isNTx with ((rfl | rfl) | rfl) | rfl
  all_goals
    cases returned
    refine ⟨by decide, ?_⟩
    intro tmMode isTmMode
    cases isTmMode
    exact ⟨rfl, rfl⟩

theorem getRadioDeviceClass_long
    {name : String}
    (isClass : getRadioDeviceClass name = .ok radioDeviceClass) :
    4 ≤ radioDeviceClass.packetLengthMin := by
  have listed : ∀ entry ∈ radioDeviceClasses, 4 ≤ entry.2.packetLengthMin := by
    decide
  unfold getRadioDeviceClass at isClass
  split at isClass
  · rename_i found
    cases isClass
    obtain ⟨before, after, split, -⟩ := List.lookup_eq_some_iff.mp found
    refine listed (name, radioDeviceClass) ?_
    rw [split]
    exact List.mem_append_right before List.mem_cons_self
  · cases isClass

theorem getMaximumPacketSizes_sizes
    {name : String}
    {maximum : PacketSizes}
    (isClass : getRadioDeviceClass name = .ok radioDeviceClass)
    (isMaximum : getMaximumPacketSizes name = .ok maximum) :
    ∃ psdef tmMode mcs,
      getPacketSizes psdef = .ok (some maximum) ∧
      getMcs psdef.mcsIndex = .ok mcs ∧
      radioDeviceClass.nTxMin ∈ nTsIdx2NTsVec ∧
      IsMaximum radioDeviceClass psdef tmMode ∧
      Sizes psdef tmMode mcs maximum := by
  unfold getMaximumPacketSizes at isMaximum
  rw [isClass, ok_bind] at isMaximum
  obtain ⟨tmModeIndex, isIndex, isMaximum⟩ := bind_eq_ok.mp isMaximum
  obtain ⟨q, isRequired, isMaximum⟩ := bind_eq_ok.mp isMaximum
  obtain ⟨_, -, isMaximum⟩ := bind_eq_ok.mp isMaximum
  cases isMaximum
  obtain ⟨sizes, returned, isSome⟩ := bind_eq_ok.mp isRequired
  cases sizes with
  | none => cases isSome
  | some sizes =>
      cases isSome
      obtain ⟨isStreams, streams⟩ :=
        getMaxTmModeIndexDependingOnNTx_spec isIndex
      obtain ⟨tmMode, -, mcs, -, isTmMode, isMcs, -, isSizes⟩ :=
        getPacketSizes_sizes returned
      obtain ⟨nSs, nEffTx⟩ := streams tmMode isTmMode
      have valid := valid_of_getPacketSizes returned
      refine ⟨_, tmMode, mcs, returned, isMcs, isStreams,
          ⟨rfl, rfl, ?_, rfl, rfl, nSs, nEffTx⟩, isSizes⟩
      rw [valid.nPacketSymb, if_neg Nat.one_ne_zero]
      ring

/--
No packet of a radio device class needs more than its largest packet, from which
all buffers are allocated.
-/
theorem getMaximumPacketSizes_dominates
    {name : String}
    {radioDeviceClass : RadioDeviceClass}
    {maximum q : PacketSizes}
    {qq : PacketSizesDef}
    (isClass : getRadioDeviceClass name = .ok radioDeviceClass)
    (isMaximum : getMaximumPacketSizes name = .ok maximum)
    (within : qq.Within radioDeviceClass)
    (returned : getPacketSizes qq = .ok (some q)) :
    q.CoveredBy maximum := by
  have isLong := getRadioDeviceClass_long isClass
  have valid := valid_of_getPacketSizes returned
  obtain ⟨short, -, multiple⟩ := valid.nPacketSymb_bounds
  have fits := within.nPacketSymb_le valid
  obtain ⟨tmMode, modeMember, mcs, -, isTmMode, isMcs, packetValid, sizes⟩ :=
    getPacketSizes_sizes returned
  obtain ⟨psdef, maxMode, maxMcs, maxReturned, isMaxMcs, isMaxStreams,
    isMax, maxSizes⟩ := getMaximumPacketSizes_sizes isClass isMaximum
  have maxValid := valid_of_getPacketSizes maxReturned
  have uMaxMember : radioDeviceClass.uMin ∈ [1, 2, 4, 8] :=
    isMax.u ▸ maxValid.u_mem
  have positive : 0 < radioDeviceClass.bMin :=
    isMax.b ▸ pos_of_mem_bIdx2bLut maxValid.b_mem
  have modes :
      ∀ tmMode ∈ tmModes,
        tmMode.nSs ≤ tmMode.nEffTx ∧ tmMode.nEffTx ≤ tmMode.nTx := by
    decide
  obtain ⟨streams, antennas⟩ := modes tmMode modeMember
  have fewer := antennas.trans (within.tmMode tmMode isTmMode)
  have inside : radioDeviceClass.mcsIndexMin ≤ 11 :=
    isMax.mcsIndex ▸ maxValid.mcsIndex
  rw [isMax.mcsIndex] at isMaxMcs
  obtain ⟨moreBits, rate, maxRate, cross⟩ :=
    getMcs_mono within.mcsIndex inside isMcs isMaxMcs
  have dataField := getNDfSymb_mono valid.u_mem uMaxMember within.u isLong fits
  have longest :
      qq.nPacketSymb ≤
        10 * radioDeviceClass.uMin * radioDeviceClass.packetLengthMin :=
    fits.trans
      (Nat.mul_le_mul_right _ (Nat.mul_le_mul_left 10 within.u))
  obtain ⟨stf, stfCpOnly, gi⟩ :=
    samples_mono valid.u_mem uMaxMember within.u within.b
  -- cells over all streams
  have cells :
      tmMode.nSs *
          dataCells qq.u qq.nPacketSymb qq.b tmMode.nEffTx ≤
        maxMode.nSs *
          dataCells psdef.u psdef.nPacketSymb psdef.b maxMode.nEffTx := by
    rw [isMax.nSs, isMax.nEffTx, isMax.u, isMax.b, isMax.nPacketSymb]
    exact
      streamCells_mono valid.u_mem uMaxMember packetValid.nTs_mem
        isMaxStreams streams fewer within.u within.b positive isLong short
        multiple fits
  have bits := dataBits_mono rate maxRate cross cells
  have sameZ : qq.Z = psdef.Z := within.Z.trans isMax.Z.symm
  have codedBits : q.G ≤ maximum.G := by
    rw [sizes.G, maxSizes.G]
    exact Nat.mul_le_mul cells moreBits
  have blockBits : q.nTbBits ≤ maximum.nTbBits := by
    rw [sizes.nTbBits, maxSizes.nTbBits, ← sameZ]
    exact getNTbBits_mono valid.Z bits
  have dataSamples : q.nSamplesDf ≤ maximum.nSamplesDf := by
    rw [sizes.nSamplesDf, maxSizes.nSamplesDf, isMax.b, isMax.u,
      isMax.nPacketSymb]
    exact Nat.mul_le_mul (Nat.mul_le_mul_left 72 within.b) dataField
  have stfSamples : q.nSamplesStf ≤ maximum.nSamplesStf := by
    rw [sizes.nSamplesStf, maxSizes.nSamplesStf, isMax.u, isMax.b]
    exact stf
  have giSamples : q.nSamplesGi ≤ maximum.nSamplesGi := by
    rw [sizes.nSamplesGi, maxSizes.nSamplesGi, isMax.u, isMax.b]
    exact gi
  have noGiSamples : q.nSamplesPacketNoGi ≤ maximum.nSamplesPacketNoGi := by
    rw [sizes.nSamplesPacketNoGi, maxSizes.nSamplesPacketNoGi]
    exact Nat.add_le_add stfSamples dataSamples
  constructor
  · rw [sizes.psdef, maxSizes.psdef]
    exact sameZ
  · exact Nat.div_le_div_right (Nat.sub_le_sub_right
      (Nat.add_le_add_right codedBits 8) 1)
  · exact Nat.mul_le_mul_right 2 codedBits
  · unfold PacketSizes.demappingStageLen
    rw [sizes.psdef, maxSizes.psdef, isMax.b, sizes.isMcs, maxSizes.isMcs]
    exact
      Nat.mul_le_mul_right 2
        (Nat.mul_le_mul
          (Nat.add_le_add_right (Nat.mul_le_mul_left 56 within.b) 1)
          moreBits)
  · rw [sizes.nTbByte, maxSizes.nTbByte]
    exact Nat.div_le_div_right (Nat.sub_le_sub_right
      (Nat.add_le_add_right blockBits 8) 1)
  · exact blockBits
  · rw [sizes.nPdcBits, maxSizes.nPdcBits]
    exact bits
  · exact codedBits
  · rw [sizes.C, maxSizes.C, ← sameZ]
    exact nofCodeblocks_mono valid.Z (nM_mono bits)
  · rw [sizes.nDrsSubc, maxSizes.nDrsSubc, isMax.nEffTx, isMax.b,
      isMax.nPacketSymb]
    exact
      nDrsSubc_mono packetValid.nTs_mem isMaxStreams fewer within.b
        longest
  · rw [sizes.nDfSymb, maxSizes.nDfSymb, isMax.u, isMax.nPacketSymb]
    exact dataField
  · rw [sizes.nPacketSymb, maxSizes.nPacketSymb, isMax.nPacketSymb]
    exact longest
  · rw [sizes.nSamplesOfdmSymbol, maxSizes.nSamplesOfdmSymbol, isMax.b]
    exact Nat.mul_le_mul_left 72 within.b
  · exact stfSamples
  · rw [sizes.nSamplesStfCpOnly, maxSizes.nSamplesStfCpOnly, isMax.u,
      isMax.b]
    exact stfCpOnly
  · exact dataSamples
  · exact giSamples
  · exact noGiSamples
  · rw [sizes.nSamplesPacket, maxSizes.nSamplesPacket]
    exact Nat.add_le_add noGiSamples giSamples

/-- The class has a largest packet, and it covers a short one. -/
theorem getMaximumPacketSizes_dominates_short :
    ∃ maximum q,
      getMaximumPacketSizes "2.8.2.A" = .ok maximum ∧
      getPacketSizes ⟨1, 8, 0, 3, 1, 4, 6144⟩ = .ok (some q) ∧
      q.CoveredBy maximum := by
  have maximumExists :
      (getMaximumPacketSizes "2.8.2.A").toOption.isSome = true := by
    decide +kernel
  have packetExists :
      ((getPacketSizes ⟨1, 8, 0, 3, 1, 4, 6144⟩).toOption.join).isSome =
        true := by
    decide +kernel
  obtain ⟨maximum, maximumFound⟩ := Option.isSome_iff_exists.mp maximumExists
  obtain ⟨q, packetFound⟩ := Option.isSome_iff_exists.mp packetExists
  have isMaximum := Checked.eq_ok_of_toOption maximumFound
  have isSizes :=
    Checked.eq_ok_of_toOption (Option.join_eq_some_iff.mp packetFound)
  refine ⟨maximum, q, isMaximum, isSizes, ?_⟩
  refine
    @getMaximumPacketSizes_dominates "2.8.2.A"
      ⟨2, 8, 2, 7, 8, 2, 25344, 6144, 4⟩ maximum q
      ⟨1, 8, 0, 3, 1, 4, 6144⟩ rfl isMaximum ?_ isSizes
  refine ⟨by decide, by decide, by decide, by decide, ?_, rfl⟩
  intro tmMode isTmMode
  cases isTmMode
  decide

end Sp3

end DectNrp
