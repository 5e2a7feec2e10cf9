import DectNrp.PacketSizing

namespace DectNrp

open Phyres

/-!
# Which packets are possible

For a definition that passes the first assertions, no further assertion fails,
and there is a packet exactly if its length suits its streams and its data
channel carries at least forty bits.
-/

open Checked (ok_bind pure_eq_ok)

namespace Sp3

/-- The definition passes the assertions on its own fields. -/
structure PacketSizesDef.Valid (qq : PacketSizesDef) : Prop where
  u_mem : qq.u ∈ [1, 2, 4, 8]
  b_mem : qq.b ∈ bIdx2bLut
  packetLengthType : qq.packetLengthType ≤ 1
  packetLength_pos : 0 < qq.packetLength
  packetLength_le : qq.packetLength ≤ 16
  tmModeIndex : qq.tmModeIndex ≤ 11
  mcsIndex : qq.mcsIndex ≤ 11
  Z : qq.Z = 2048 ∨ qq.Z = 6144

/-- Number of symbols of the packet. -/
def PacketSizesDef.nPacketSymb (qq : PacketSizesDef) : Nat :=
  getNPacketSymb qq.packetLengthType qq.packetLength (qq.u * 10)
    (qq.u * 2)

/-- Cells that the data channel gets, none if the packet is too short. -/
def dataCells (u nPacketSymb b nEffTx : Nat) : Nat :=
  Pdc.getNDfSymb u nPacketSymb * (56 * b) -
    nEffTx * (14 * b) * Drs.nofSymbols nPacketSymb nEffTx - Pcc.pccCells

/-- Information bits that the data channel carries. -/
def dataBits
    (u nPacketSymb b : Nat)
    (tmMode : TmMode)
    (mcs : Mcs) :
    Nat :=
  TransportBlockSize.getNPdcBits tmMode.nSs
    (dataCells u nPacketSymb b tmMode.nEffTx) mcs.nBps mcs.rNumerator
    mcs.rDenominator

variable {qq : PacketSizesDef}

/-- A packet has a multiple of five symbols. -/
theorem PacketSizesDef.Valid.nPacketSymb (valid : qq.Valid) :
    qq.nPacketSymb =
      5 * (if qq.packetLengthType = 0 then qq.packetLength
        else qq.packetLength * (2 * qq.u)) := by
  have positive : 0 < qq.u := by
    have member := valid.u_mem
    simp only [List.mem_cons, List.not_mem_nil, or_false] at member
    rcases member with isU | isU | isU | isU <;> rw [isU] <;> decide
  unfold PacketSizesDef.nPacketSymb getNPacketSymb
  by_cases subslots : qq.packetLengthType = 0
  · rw [if_pos subslots, if_pos subslots]
    have split :
        qq.packetLength * (qq.u * 10) = 5 * qq.packetLength * (qq.u * 2) := by
      ring
    rw [split]
    exact Nat.mul_div_cancel _ (Nat.mul_pos positive Nat.two_pos)
  · rw [if_neg subslots, if_neg subslots]
    ring

theorem PacketSizesDef.Valid.nPacketSymb_bounds (valid : qq.Valid) :
    5 ≤ qq.nPacketSymb ∧ qq.nPacketSymb ≤ 1280 ∧ qq.nPacketSymb % 5 = 0 := by
  have long := valid.packetLength_pos
  have short := valid.packetLength_le
  have member := valid.u_mem
  simp only [List.mem_cons, List.not_mem_nil, or_false] at member
  rw [valid.nPacketSymb]
  refine ⟨?_, ?_, Nat.mul_mod_right 5 _⟩
  · split
    · omega
    · rcases member with isU | isU | isU | isU <;> rw [isU] <;> omega
  · split
    · omega
    · rcases member with isU | isU | isU | isU <;> rw [isU] <;> omega

/-- The cells of the data channel are counted without fault. -/
theorem getNPdcSubc_eq_dataCells
    {u nPacketSymb b nEffTx : Nat}
    (valid : PacketValid u nPacketSymb nEffTx) :
    Pdc.getNPdcSubc nPacketSymb u nEffTx (b * 56) =
      .ok (dataCells u nPacketSymb b nEffTx) := by
  rw [Nat.mul_comm b 56]
  by_cases carries : Pdc.CarriesData u b nPacketSymb nEffTx
  · exact Pdc.getNPdcSubc_eq valid carries
  · have quarter : nEffTx * (56 * b) / 4 = nEffTx * (14 * b) := by
      have regroup : nEffTx * (56 * b) = 4 * (nEffTx * (14 * b)) := by ring
      omega
    have tooFew := Nat.not_lt.mp carries
    have noCells : dataCells u nPacketSymb b nEffTx = 0 := by
      unfold dataCells
      omega
    simp only [Pdc.getNPdcSubc, Pdc.getNDrsSubc,
      Pdc.getNofOfdmSymbolsCarryingDrsPerTs_eq valid, ok_bind,
      quarter, if_pos tooFew, noCells]

section Segmentation

open TransportBlockSize

variable
    (nSs nPdcSubc nBps rNumerator rDenominator : Nat)
    {Z : Nat}

theorem segmentation_of_enough
    (validZ : Z = 2048 ∨ Z = 6144)
    (enough : 40 ≤ getNPdcBits nSs nPdcSubc nBps rNumerator rDenominator) :
    getNTbBits nSs nPdcSubc nBps rNumerator rDenominator Z ≠ 0 ∧
      ∃ cbSegm,
        srsranCbsegmFix
            (getNTbBits nSs nPdcSubc nBps rNumerator rDenominator Z) Z =
          some cbSegm ∧
        cbSegm.F = 0 := by
  have large : 8 < getNTbBits nSs nPdcSubc nBps rNumerator rDenominator Z := by
    unfold getNTbBits
    generalize
      getNPdcBits nSs nPdcSubc nBps rNumerator rDenominator = nPdcBits at *
    have atLeast : 40 ≤ nM nPdcBits := by
      unfold nM stepOf
      split_ifs <;> omega
    have isL : L = 24 := rfl
    dsimp only
    rw [if_neg (by omega), if_neg (by omega)]
    by_cases oneBlock : nM nPdcBits ≤ Z
    · rw [if_pos oneBlock]
      omega
    · rw [if_neg oneBlock]
      unfold nofCodeblocks ceilDivideInteger
      rw [if_neg oneBlock, isL]
      rcases validZ with rfl | rfl <;> omega
  obtain ⟨cbSegm, segmented, suits⟩ :=
    suits_of_getNTbBits validZ rfl (Nat.zero_lt_of_lt large)
  exact ⟨Nat.ne_of_gt (Nat.zero_lt_of_lt large), cbSegm, segmented,
      suits.noFiller large⟩

theorem eightBits_of_few
    (validZ : Z = 2048 ∨ Z = 6144)
    (few : getNPdcBits nSs nPdcSubc nBps rNumerator rDenominator < 40)
    (nonempty : getNTbBits nSs nPdcSubc nBps rNumerator rDenominator Z ≠ 0) :
    getNTbBits nSs nPdcSubc nBps rNumerator rDenominator Z = 8 ∧
      nofCodeblocks
          (nM (getNPdcBits nSs nPdcSubc nBps rNumerator rDenominator))
          Z =
        1 := by
  unfold getNTbBits at *
  generalize
    getNPdcBits nSs nPdcSubc nBps rNumerator rDenominator = nPdcBits at *
  have isL : L = 24 := rfl
  have octets : nM nPdcBits % 8 = 0 ∧ nM nPdcBits ≤ 32 := by
    have isEight : stepOf nPdcBits = 8 := if_pos (by omega)
    unfold nM
    rw [isEight]
    omega
  dsimp only at *
  generalize nM nPdcBits = bits at *
  have oneBlock : bits ≤ Z := by rcases validZ with rfl | rfl <;> omega
  have one_ : nofCodeblocks bits Z = 1 := if_pos oneBlock
  rw [if_pos oneBlock, isL] at nonempty ⊢
  refine ⟨?_, one_⟩
  split_ifs at nonempty ⊢ with isZero isSmall
  · exact absurd rfl nonempty
  · exact absurd rfl nonempty
  · omega

theorem segmentation_of_few
    (validZ : Z = 2048 ∨ Z = 6144)
    (few : getNPdcBits nSs nPdcSubc nBps rNumerator rDenominator < 40) :
    getNTbBits nSs nPdcSubc nBps rNumerator rDenominator Z = 0 ∨
      ∃ cbSegm,
        srsranCbsegmFix
            (getNTbBits nSs nPdcSubc nBps rNumerator rDenominator Z) Z =
          some cbSegm ∧
        0 < cbSegm.F := by
  by_cases isZero : getNTbBits nSs nPdcSubc nBps rNumerator rDenominator Z = 0
  · exact Or.inl isZero
  · right
    obtain ⟨cbSegm, segmented, suits⟩ :=
      suits_of_getNTbBits validZ rfl (Nat.pos_of_ne_zero isZero)
    refine ⟨cbSegm, segmented, ?_⟩
    have isL : L = 24 := rfl
    obtain ⟨eightBits, one_⟩ :=
      eightBits_of_few nSs nPdcSubc nBps rNumerator rDenominator validZ
        few isZero
    have oneBlock : cbSegm.C = 1 := suits.sameCount.trans one_
    have notSeveral : ¬ 1 < cbSegm.C := by
      rw [oneBlock]
      exact Nat.lt_irrefl 1
    have noSmall := suits.small
    rw [if_neg notSeveral] at noSmall
    have bits := suits.bits
    rw [if_neg notSeveral, noSmall.2, eightBits] at bits
    have one : cbSegm.C1 = 1 := by
      have counted := suits.counted
      omega
    have smallest : ∀ size ∈ tcCbSizes, 40 ≤ size := by decide +kernel
    have large := smallest _ suits.large.1
    rw [one] at bits
    omega

end Segmentation

theorem fillPacketSizes_eq_ok
    {qq : PacketSizesDef}
    {numerology : Numerologies}
    {mcs : Mcs}
    {tmMode : TmMode}
    {nPacketSymb : Nat}
    (valid : PacketValid qq.u nPacketSymb tmMode.nEffTx)
    (nPdcSubc nTbBits C : Nat) :
    ∃ q,
      fillPacketSizes qq numerology mcs tmMode nPacketSymb nPdcSubc
          nTbBits C =
        .ok q ∧
      q.psdef = qq ∧ q.tmMode = tmMode ∧
      q.nDfSymb = Pdc.getNDfSymb qq.u nPacketSymb := by
  obtain ⟨further, isLong⟩ := Nat.exists_eq_add_of_le valid.long
  have member := valid.u_mem
  simp only [List.mem_cons, List.not_mem_nil, or_false] at member
  have stf : getNSamplesStf qq.u qq.b =
      getNSamplesStfCpOnly qq.u qq.b + 64 * qq.b := by
    unfold getNSamplesStfCpOnly getNSamplesStf getNSamplesOfdmSymbol
    rcases member with isU | isU | isU | isU <;> rw [isU] <;> simp <;> omega
  have whole : getNSamplesStf qq.u qq.b + getNSamplesDf qq.u qq.b nPacketSymb +
      getNSamplesGi qq.u qq.b = getNSamplesOfdmSymbol qq.b * nPacketSymb := by
    unfold getNSamplesStf getNSamplesDf getNSamplesGi
      getNSamplesOfdmSymbol Pdc.getNDfSymb
    rw [isLong]
    rcases member with isU | isU | isU | isU
    · rw [isU, if_pos rfl, if_pos rfl, if_pos rfl]
      have first : 72 * qq.b * 14 / 9 = 112 * qq.b := by omega
      have last : 72 * qq.b * 4 / 9 = 32 * qq.b := by omega
      have between : 5 + further - 2 = further + 3 := by omega
      rw [first, last, between]
      ring
    · rw [isU]
      have between : 5 + further - 3 = further + 2 := by omega
      simp only [between]
      norm_num
      ring
    · rw [isU]
      have between : 5 + further - 3 = further + 2 := by omega
      simp only [between]
      norm_num
      ring
    · rw [isU]
      have between : 5 + further - 4 = further + 1 := by omega
      have notSmaller : ¬ ((8 : Nat) = 2 ∨ (8 : Nat) = 4) := by decide
      rw [if_neg notSmaller, if_neg notSmaller, between]
      norm_num
      ring
  unfold fillPacketSizes
  simp only [Pdc.getNDrsSubc,
    Pdc.getNofOfdmSymbolsCarryingDrsPerTs_eq valid, ok_bind,
    ← stf, whole, beq_self_eq_true, dectnrpAssert_true,
    pure_eq_ok]
  exact ⟨_, rfl, rfl, rfl, rfl⟩

/-- The packet that a definition describes. -/
structure Describes
    (qq : PacketSizesDef)
    (tmMode : TmMode)
    (q : PacketSizes) :
    Prop where
  psdef : q.psdef = qq
  tmMode : q.tmMode = tmMode
  nDfSymb : q.nDfSymb = Pdc.getNDfSymb qq.u qq.nPacketSymb

variable {tmMode : TmMode}

variable
  {numerology : Numerologies}
  {mcs : Mcs}

theorem sizeDataChannel_of_enough
    (nBOcc : numerology.nBOcc = qq.b * 56)
    (valid : PacketValid qq.u qq.nPacketSymb tmMode.nEffTx)
    (isMcs : getMcs qq.mcsIndex = .ok mcs)
    (validZ : qq.Z = 2048 ∨ qq.Z = 6144)
    (enough : 40 ≤ dataBits qq.u qq.nPacketSymb qq.b tmMode mcs) :
    ∃ q,
      sizeDataChannel qq numerology tmMode qq.nPacketSymb =
          .ok (some q) ∧
        Describes qq tmMode q := by
  have someCells : dataCells qq.u qq.nPacketSymb qq.b tmMode.nEffTx ≠ 0 := by
    intro noCells
    unfold dataBits at enough
    rw [noCells] at enough
    simp [TransportBlockSize.getNPdcBits, TransportBlockSize.getG] at enough
  obtain ⟨nonempty, cbSegm, segmented, noFiller⟩ :=
    segmentation_of_enough _ _ _ _ _ validZ enough
  obtain ⟨q, filled, psdef, isTmMode, nDfSymb⟩ :=
    @fillPacketSizes_eq_ok qq numerology mcs tmMode qq.nPacketSymb valid
      (dataCells qq.u qq.nPacketSymb qq.b tmMode.nEffTx)
      (TransportBlockSize.getNTbBits tmMode.nSs
        (dataCells qq.u qq.nPacketSymb qq.b tmMode.nEffTx) mcs.nBps
        mcs.rNumerator mcs.rDenominator qq.Z) cbSegm.C
  refine ⟨q, ?_, psdef, isTmMode, nDfSymb⟩
  unfold sizeDataChannel
  simp only [nBOcc, getNPdcSubc_eq_dataCells valid, ok_bind,
    if_neg someCells, isMcs, if_neg nonempty, segmented, noFiller,
    Nat.lt_irrefl, if_false, filled, pure_eq_ok]

theorem sizeDataChannel_of_few
    (nBOcc : numerology.nBOcc = qq.b * 56)
    (valid : PacketValid qq.u qq.nPacketSymb tmMode.nEffTx)
    (isMcs : getMcs qq.mcsIndex = .ok mcs)
    (validZ : qq.Z = 2048 ∨ qq.Z = 6144)
    (few : dataBits qq.u qq.nPacketSymb qq.b tmMode mcs < 40) :
    sizeDataChannel qq numerology tmMode qq.nPacketSymb = .ok none := by
  unfold sizeDataChannel
  simp only [nBOcc, getNPdcSubc_eq_dataCells valid, ok_bind]
  by_cases noCells : dataCells qq.u qq.nPacketSymb qq.b tmMode.nEffTx = 0
  · rw [if_pos noCells]
    rfl
  · rw [if_neg noCells, isMcs]
    simp only [ok_bind]
    rcases segmentation_of_few _ _ _ _ _ validZ few with
      empty | ⟨cbSegm, segmented, filler⟩
    · rw [if_pos empty]
      rfl
    · split
      · rfl
      · simp only [segmented, if_pos filler, pure_eq_ok]

/-- The fields of a valid definition pass the assertions. -/
theorem PacketSizesDef.Valid.getPacketSizes_eq
    (valid : qq.Valid)
    (isTmMode : getTmMode qq.tmModeIndex = .ok tmMode) :
    ∃ numerology,
      numerology.nBOcc = qq.b * 56 ∧
      getPacketSizes qq =
        if tmMode.nEffTx = 4 ∧ qq.nPacketSymb < 15 then .ok none
        else if qq.u = 8 ∧ tmMode.nEffTx = 8 ∧
            (qq.nPacketSymb < 20 ∨ qq.nPacketSymb % 10 ≠ 0) then
          .ok none
        else sizeDataChannel qq numerology tmMode qq.nPacketSymb := by
  have isU : ∀ u ∈ [1, 2, 4, 8], (hasSingleBit u && u ≤ 8) = true := by decide
  have isB :
      ∀ b ∈ bIdx2bLut, ((hasSingleBit b && b ≤ 16) || b == 12) = true := by
    decide
  have isLength :
      (decide (0 < qq.packetLength) && decide (qq.packetLength ≤ 16)) =
        true := by
    rw [Bool.and_eq_true]
    exact ⟨decide_eq_true valid.packetLength_pos,
        decide_eq_true valid.packetLength_le⟩
  have isZ : (qq.Z == 2048 || qq.Z == 6144) = true := by
    rcases valid.Z with isZ | isZ <;> rw [isZ] <;> rfl
  obtain ⟨long, short, multiple⟩ := valid.nPacketSymb_bounds
  have isSymb :
      (decide (5 ≤ qq.nPacketSymb) && decide (qq.nPacketSymb ≤ 1280) &&
          qq.nPacketSymb % 5 == 0) =
        true := by
    rw [Bool.and_eq_true, Bool.and_eq_true, beq_iff_eq]
    exact ⟨⟨decide_eq_true long, decide_eq_true short⟩, multiple⟩
  obtain ⟨numerology, isNumerology, nBOcc, nSlotUSymb, nSlotUSubslot⟩ :
      ∃ numerology, getNumerologies qq.u qq.b = .ok numerology ∧
          numerology.nBOcc = qq.b * 56 ∧
          numerology.nSlotUSymb = qq.u * 10 ∧
          numerology.nSlotUSubslot = qq.u * 2 := by
    unfold getNumerologies
    rw [isU qq.u valid.u_mem, isB qq.b valid.b_mem]
    exact ⟨_, rfl, rfl, rfl, rfl⟩
  refine ⟨numerology, nBOcc, ?_⟩
  have symbols : getNPacketSymb qq.packetLengthType qq.packetLength
      numerology.nSlotUSymb numerology.nSlotUSubslot = qq.nPacketSymb := by
    rw [nSlotUSymb, nSlotUSubslot]
    rfl
  unfold getPacketSizes
  simp only [isU qq.u valid.u_mem, isB qq.b valid.b_mem,
    decide_eq_true valid.packetLengthType, isLength,
    decide_eq_true valid.tmModeIndex, decide_eq_true valid.mcsIndex, isZ,
    isNumerology, symbols, isSymb, isTmMode, dectnrpAssert_true,
    ok_bind, pure_eq_ok]

/--
No assertion fails, and there is a packet exactly if its length suits its
streams and its data channel carries forty bits.
-/
theorem getPacketSizes_spec
    (valid : qq.Valid)
    (isTmMode : getTmMode qq.tmModeIndex = .ok tmMode)
    (isStreams : tmMode.nEffTx ∈ nTsIdx2NTsVec)
    (isMcs : getMcs qq.mcsIndex = .ok mcs) :
    (PacketValid qq.u qq.nPacketSymb tmMode.nEffTx ∧
        40 ≤ dataBits qq.u qq.nPacketSymb qq.b tmMode mcs ∧
        ∃ q, getPacketSizes qq = .ok (some q) ∧ Describes qq tmMode q) ∨
      (¬ (PacketValid qq.u qq.nPacketSymb tmMode.nEffTx ∧
          40 ≤ dataBits qq.u qq.nPacketSymb qq.b tmMode mcs) ∧
        getPacketSizes qq = .ok none) := by
  obtain ⟨long, short, multiple⟩ := valid.nPacketSymb_bounds
  obtain ⟨numerology, nBOcc, sizes⟩ := valid.getPacketSizes_eq isTmMode
  rw [sizes]
  by_cases fourStreams : tmMode.nEffTx = 4 ∧ qq.nPacketSymb < 15
  · right
    refine ⟨?_, if_pos fourStreams⟩
    rintro ⟨packetValid, _⟩
    exact absurd (packetValid.fourStreams fourStreams.1)
      (Nat.not_le_of_lt fourStreams.2)
  · rw [if_neg fourStreams]
    by_cases eightStreams : qq.u = 8 ∧ tmMode.nEffTx = 8 ∧
        (qq.nPacketSymb < 20 ∨ qq.nPacketSymb % 10 ≠ 0)
    · right
      refine ⟨?_, if_pos eightStreams⟩
      rintro ⟨packetValid, _⟩
      obtain ⟨isEight, streams, unsuited⟩ := eightStreams
      obtain ⟨atLeast, tens⟩ := packetValid.eightStreams ⟨isEight, streams⟩
      rcases unsuited with tooShort | odd
      · exact absurd atLeast (Nat.not_le_of_lt tooShort)
      · exact odd tens
    · rw [if_neg eightStreams]
      have packetValid : PacketValid qq.u qq.nPacketSymb tmMode.nEffTx := by
        refine ⟨valid.u_mem, isStreams, long, multiple, ?_, ?_⟩
        · intro streams
          by_contra tooShort
          exact fourStreams ⟨streams, Nat.lt_of_not_le tooShort⟩
        · rintro ⟨isEight, streams⟩
          by_contra unsuited
          refine eightStreams ⟨isEight, streams, ?_⟩
          by_contra suited
          rw [not_or, not_not] at suited
          exact unsuited ⟨Nat.le_of_not_lt suited.1, suited.2⟩
      by_cases enough : 40 ≤ dataBits qq.u qq.nPacketSymb qq.b tmMode mcs
      · exact Or.inl ⟨packetValid, enough,
            sizeDataChannel_of_enough nBOcc packetValid isMcs valid.Z enough⟩
      · exact Or.inr ⟨fun both => enough both.2,
            sizeDataChannel_of_few nBOcc packetValid isMcs valid.Z
              (Nat.lt_of_not_le enough)⟩

end Sp3

end DectNrp
