import DectNrp.CodeblockSegmentation
import DectNrp.Pdc

namespace DectNrp

/-!
# Transport block size

The size of a transport block is chosen such that its code blocks, checksums
included, fill a multiple of 8, 16, 32 or 64 bits.  The segmentation is computed
independently of it.  Both agree on the number of code blocks, and because the
sizes of the interleaver grow in the same steps, filler bits are only needed
for the smallest transport block.
-/

namespace TransportBlockSize

def ceilDivideInteger (x y : Nat) : Nat :=
  (x + y - 1) / y

/-- Number of coded bits. -/
def getG (nSs nPdcSubc nBps : Nat) : Nat :=
  nSs * nPdcSubc * nBps

def getNPdcBits
    (nSs nPdcSubc nBps rNumerator rDenominator : Nat) :
    Nat :=
  getG nSs nPdcSubc nBps * rNumerator / rDenominator

/-- Number of bits of a checksum. -/
def L : Nat := 24

/-- The step in which the number of bits is rounded. -/
def stepOf (nPdcBits : Nat) : Nat :=
  if nPdcBits ≤ 512 then 8
  else if nPdcBits ≤ 1024 then 16
  else if nPdcBits ≤ 2048 then 32
  else 64

/-- Number of bits that code blocks and checksums fill. -/
def nM (nPdcBits : Nat) : Nat :=
  nPdcBits / stepOf nPdcBits * stepOf nPdcBits

/-- Number of code blocks that checksums are subtracted for. -/
def nofCodeblocks (nM Z : Nat) : Nat :=
  if nM ≤ Z then 1 else ceilDivideInteger (nM - L) Z

/--
Size of a transport block; zero if it is ill-configured.  The numbers of a
packet are far too small for an overflow of 32 bits.
-/
def getNTbBits
    (nSs nPdcSubc nBps rNumerator rDenominator Z : Nat) :
    Nat :=
  let nPdcBits := getNPdcBits nSs nPdcSubc nBps rNumerator rDenominator
  let nM := nM nPdcBits
  if nM = 0 then 0
  else if nM ≤ L then 0
  else if nM ≤ Z then nM - L
  else nM - (nofCodeblocks nM Z + 1) * L

theorem tcCbSizes_ascending : tcCbSizes.Pairwise (· < ·) := by
  decide +kernel

/-- The smallest size that holds a number of bits is found. -/
theorem cbsize_found
    {longCb size : Nat}
    (isSize : size ∈ tcCbSizes)
    (fits : longCb ≤ size) :
    ∃ index found,
      srsranCbsegmCbindexFix longCb = some index ∧
      srsranCbsegmCbsizeFix index = some found ∧
      longCb ≤ found ∧
      ∀ other ∈ tcCbSizes, longCb ≤ other → found ≤ other := by
  cases search : srsranCbsegmCbindexFix longCb with
  | none =>
      have nothing := List.findIdx?_eq_none_iff.mp search size isSize
      simp [fits] at nothing
  | some index =>
      obtain ⟨inside, holds, smaller⟩ :=
        List.findIdx?_eq_some_iff_getElem.mp search
      refine ⟨index, tcCbSizes[index], rfl, List.getElem?_eq_getElem inside,
          of_decide_eq_true holds, ?_⟩
      intro other isOther holdsOther
      obtain ⟨otherIndex, otherInside, rfl⟩ := List.getElem_of_mem isOther
      rcases Nat.lt_trichotomy index otherIndex with before | same | behind
      · exact Nat.le_of_lt
          (List.pairwise_iff_getElem.mp tcCbSizes_ascending index
            otherIndex inside otherInside before)
      · subst same
        exact Nat.le_refl _
      · have tooSmall := smaller otherIndex behind
        simp [holdsOther] at tooSmall

theorem cbsize_exact
    {size : Nat}
    (isSize : size ∈ tcCbSizes) :
    ∃ index,
      srsranCbsegmCbindexFix size = some index ∧
      srsranCbsegmCbsizeFix index = some size := by
  obtain ⟨index, found, search, isFound, holds, smallest⟩ :=
    cbsize_found isSize (Nat.le_refl size)
  have same : found = size :=
    Nat.le_antisymm (smallest size isSize (Nat.le_refl size)) holds
  exact ⟨index, search, same ▸ isFound⟩

theorem nM_mem_tcCbSizes
    {nPdcBits : Nat}
    (lower : 40 ≤ nM nPdcBits)
    (upper : nM nPdcBits ≤ 6144) :
    nM nPdcBits ∈ tcCbSizes := by
  have eights : ∀ k < 65, 40 ≤ k * 8 → k * 8 ∈ tcCbSizes := by decide +kernel
  have sixteens : ∀ k < 65, 512 ≤ k * 16 → k * 16 ∈ tcCbSizes := by
    decide +kernel
  have thirtyTwos : ∀ k < 65, 1024 ≤ k * 32 → k * 32 ∈ tcCbSizes := by
    decide +kernel
  have sixtyFours : ∀ k < 97, 2048 ≤ k * 64 → k * 64 ∈ tcCbSizes := by
    decide +kernel
  unfold nM stepOf at *
  split_ifs at * with upTo512 upTo1024 upTo2048
  · exact eights (nPdcBits / 8) (by omega) lower
  · exact sixteens (nPdcBits / 16) (by omega) (by omega)
  · exact thirtyTwos (nPdcBits / 32) (by omega) (by omega)
  · exact sixtyFours (nPdcBits / 64) (by omega) (by omega)

theorem neighbours
    {index smaller larger : Nat}
    (small : srsranCbsegmCbsizeFix index = some smaller)
    (large : srsranCbsegmCbsizeFix (index + 1) = some larger) :
    (1024 < larger → larger ≤ 2048 → larger % 32 = 0 ∧ larger = smaller + 32) ∧
    (2048 < larger → larger % 64 = 0 ∧ larger = smaller + 64) := by
  have everyPair : ∀ index : Fin 187, (1024 < tcCbSizes.getD (index + 1) 0 →
      tcCbSizes.getD (index + 1) 0 ≤ 2048 →
      tcCbSizes.getD (index + 1) 0 % 32 = 0 ∧
        tcCbSizes.getD (index + 1) 0 = tcCbSizes.getD index 0 + 32) ∧
        (2048 < tcCbSizes.getD (index + 1) 0 →
          tcCbSizes.getD (index + 1) 0 % 64 = 0 ∧
            tcCbSizes.getD (index + 1) 0 = tcCbSizes.getD index 0 + 64) := by
    decide +kernel
  obtain ⟨inside, _⟩ := List.getElem?_eq_some_iff.mp large
  have size : tcCbSizes.length = 188 := by decide +kernel
  have steps := everyPair ⟨index, by omega⟩
  simpa [List.getD, show tcCbSizes[index]? = some smaller from small,
    show tcCbSizes[index + 1]? = some larger from large] using steps

section Agreement

variable
    {nM Z : Nat}

/-- The code block count of a transport block that is split. -/
theorem nofCodeblocks_bounds
    (validZ : Z = 2048 ∨ Z = 6144)
    (isMultiple : nM % 64 = 0)
    (severalBlocks : Z < nM) :
    2 ≤ nofCodeblocks nM Z ∧
      Z * (nofCodeblocks nM Z - 1) + 64 ≤ nM ∧
      nM ≤ Z * nofCodeblocks nM Z := by
  unfold nofCodeblocks ceilDivideInteger L
  rw [if_neg (Nat.not_le.mpr severalBlocks)]
  rcases validZ with rfl | rfl <;> omega

theorem cbsegmCbSize_eq
    (validZ : Z = 2048 ∨ Z = 6144)
    (isMultiple : nM % 64 = 0)
    (severalBlocks : Z < nM) :
    cbsegmCbSize (nM - (nofCodeblocks nM Z + 1) * L + 24) Z =
      (nofCodeblocks nM Z, nM) := by
  obtain ⟨two, lower, upper⟩ :=
    nofCodeblocks_bounds validZ isMultiple severalBlocks
  generalize nofCodeblocks nM Z = C at *
  unfold cbsegmCbSize L
  rcases validZ with rfl | rfl
  · have split : ¬ nM - (C + 1) * 24 + 24 ≤ 2048 := by omega
    have sameCount :
        (nM - (C + 1) * 24 + 24 + (2048 - 24 - 1)) / (2048 - 24) = C := by
      apply Nat.div_eq_of_lt_le <;> omega
    rw [if_neg split]
    simp only [sameCount, Prod.mk.injEq, true_and]
    omega
  · have split : ¬ nM - (C + 1) * 24 + 24 ≤ 6144 := by omega
    have sameCount :
        (nM - (C + 1) * 24 + 24 + (6144 - 24 - 1)) / (6144 - 24) = C := by
      apply Nat.div_eq_of_lt_le <;> omega
    rw [if_neg split]
    simp only [sameCount, Prod.mk.injEq, true_and]
    omega

end Agreement

/-- A segmentation suits a transport block and its number of code blocks. -/
structure Suits
    (tbs C Z : Nat)
    (cbSegm : CbSegm) :
    Prop where
  sameCount : cbSegm.C = C
  counted : cbSegm.C1 + cbSegm.C2 = cbSegm.C
  bits :
    cbSegm.C1 * cbSegm.K1 + cbSegm.C2 * cbSegm.K2 =
      tbs + L + (if 1 < cbSegm.C then cbSegm.C * L else 0) + cbSegm.F
  large : cbSegm.K1 ∈ tcCbSizes ∧ cbSegm.K1 ≤ Z
  /-- A single code block has the large size, and zero is the other. -/
  small :
    if 1 < cbSegm.C then cbSegm.K2 ∈ tcCbSizes ∧ cbSegm.K2 ≤ Z
    else cbSegm.K2 = 0 ∧ cbSegm.C2 = 0
  checksum : ∀ cbIdx < cbSegm.C, L < cbSegm.cbLen cbIdx
  noFiller : 8 < tbs → cbSegm.F = 0

/-- A transport block that fits into one code block. -/
theorem suits_oneBlock
    {nM Z index K1 : Nat}
    (large : L < nM)
    (fits : nM ≤ Z)
    (search : srsranCbsegmCbindexFix nM = some index)
    (isFound : srsranCbsegmCbsizeFix index = some K1)
    (holds : nM ≤ K1)
    (bounded : K1 ≤ Z)
    (noFiller : 8 < nM - L → K1 = nM) :
    ∃ cbSegm,
      srsranCbsegmFix (nM - L) Z = some cbSegm ∧
      Suits (nM - L) 1 Z cbSegm := by
  have whole : nM - L + 24 = nM := Nat.sub_add_cancel (Nat.le_of_lt large)
  have one : cbsegmCbSize (nM - L + 24) Z = (1, nM) := by
    rw [whole, cbsegmCbSize, if_pos fits]
  have perBlock : (nM - 1) / 1 + 1 = nM := by
    rw [Nat.div_one]
    omega
  obtain ⟨smaller, isSmaller⟩ :
      ∃ smaller, smallerCbsize index K1 = some smaller := by
    unfold smallerCbsize
    split
    · obtain ⟨inside, -⟩ := List.getElem?_eq_some_iff.mp isFound
      exact ⟨_, List.getElem?_eq_getElem (Nat.lt_of_le_of_lt
        (Nat.sub_le index 1) inside)⟩
    · exact ⟨K1, rfl⟩
  refine ⟨segmentation (nM - L) 1 nM index K1 smaller, ?_, ?_⟩
  · rw [srsranCbsegmFix, if_neg (by omega), one]
    simp only [perBlock, search, isFound, isSmaller,
      Option.bind_eq_bind, Option.bind_some, Option.pure_def]
  · have isSize := List.mem_of_getElem? isFound
    have atLeast := (srsranCbsegmCbsizeFix_octets isFound).2
    have isL : L = 24 := rfl
    refine
      { sameCount := rfl
        counted := rfl
        bits := ?_
        large := ⟨isSize, bounded⟩
        small := ?_
        checksum := ?_
        noFiller := ?_ }
    · simp only [segmentation, if_true]
      rw [if_neg (by decide)]
      omega
    · simp [segmentation]
    · intro cbIdx _
      simp only [segmentation, if_true, CbSegm.cbLen, Nat.not_lt_zero,
        if_false]
      omega
    · intro notSmall
      simp only [segmentation, if_true, noFiller notSmall, Nat.sub_self]

/-- Blocks of two neighbouring sizes hold a number of bits exactly. -/
theorem twoSizes
    {C K1 step smaller nM : Nat}
    (positive : 0 < step)
    (neighbour : K1 = smaller + step)
    (dividesSize : K1 % step = 0)
    (dividesBits : nM % step = 0)
    (lower : C * smaller ≤ nM)
    (upper : nM ≤ C * K1) :
    (C * K1 - nM) / (K1 - smaller) ≤ C ∧
      (C - (C * K1 - nM) / (K1 - smaller)) * K1 +
          (C * K1 - nM) / (K1 - smaller) * smaller =
        nM := by
  have difference : K1 - smaller = step := by omega
  have product : C * K1 = C * smaller + C * step := by
    rw [neighbour, Nat.mul_add]
  obtain ⟨sizes, isSizes⟩ := Nat.dvd_of_mod_eq_zero dividesSize
  obtain ⟨parts, isParts⟩ := Nat.dvd_of_mod_eq_zero dividesBits
  have divides : step ∣ C * K1 - nM :=
    Nat.dvd_sub (isSizes ▸ ⟨C * sizes, by ring⟩) (isParts ▸ ⟨parts, rfl⟩)
  obtain ⟨few, isFew⟩ := divides
  rw [difference, isFew, Nat.mul_div_cancel_left few positive]
  have bounded : few ≤ C := by
    refine Nat.le_of_mul_le_mul_left ?_ positive
    rw [← isFew, Nat.mul_comm step C]
    omega
  obtain ⟨rest, rfl⟩ := Nat.exists_eq_add_of_le bounded
  refine ⟨bounded, ?_⟩
  rw [Nat.add_sub_cancel_left]
  have expanded :
      (few + rest) * K1 = few * smaller + few * step + rest * K1 := by
    rw [Nat.add_mul, neighbour, Nat.mul_add]
  rw [Nat.mul_comm step few] at isFew
  omega

theorem suits_severalBlocks
    {nM Z : Nat}
    (validZ : Z = 2048 ∨ Z = 6144)
    (isMultiple : nM % 64 = 0)
    (severalBlocks : Z < nM) :
    ∃ cbSegm,
      srsranCbsegmFix (nM - (nofCodeblocks nM Z + 1) * L) Z = some cbSegm ∧
      Suits (nM - (nofCodeblocks nM Z + 1) * L) (nofCodeblocks nM Z) Z
        cbSegm := by
  obtain ⟨two, lower, upper⟩ :=
    nofCodeblocks_bounds validZ isMultiple severalBlocks
  have counted := cbsegmCbSize_eq validZ isMultiple severalBlocks
  have isL : L = 24 := rfl
  generalize nofCodeblocks nM Z = C at *
  -- the size of the largest block
  obtain ⟨longCb, isLongCb⟩ : ∃ longCb, (nM - 1) / C + 1 = longCb := ⟨_, rfl⟩
  have positive : 0 < C := by omega
  have holdsAll : nM ≤ C * longCb := by
    have below := Nat.lt_mul_div_succ (nM - 1) positive
    rw [isLongCb] at below
    omega
  have notOneLess : C * (longCb - 1) ≤ nM := by
    have above := Nat.mul_div_le (nM - 1) C
    rw [← isLongCb, Nat.add_sub_cancel]
    omega
  have atMostZ : longCb ≤ Z := by
    rw [← isLongCb]
    exact Nat.div_lt_of_lt_mul (by rw [Nat.mul_comm]; omega)
  have isSizeZ : Z ∈ tcCbSizes := by
    rcases validZ with rfl | rfl <;> decide +kernel
  obtain ⟨index, K1, search, isFound, holds, smallest⟩ :=
    cbsize_found isSizeZ atMostZ
  have bounded : K1 ≤ Z := smallest Z isSizeZ atMostZ
  have beyondHalf : Z / 2 < longCb := by
    by_contra atMost
    have few := Nat.mul_le_mul_left C (Nat.not_lt.mp atMost)
    rcases validZ with rfl | rfl <;> omega
  -- the size below it
  obtain ⟨previous, rfl⟩ : ∃ previous, index = previous + 1 := by
    refine Nat.exists_eq_succ_of_ne_zero ?_
    rintro rfl
    have isSmallest : K1 = 40 := (Option.some.inj isFound).symm
    rcases validZ with rfl | rfl <;> omega
  obtain ⟨inside, -⟩ := List.getElem?_eq_some_iff.mp isFound
  obtain ⟨smaller, isSmaller⟩ :
      ∃ smaller, srsranCbsegmCbsizeFix previous = some smaller :=
    ⟨_, List.getElem?_eq_getElem (Nat.lt_of_succ_lt inside)⟩
  have isSmallerSize := List.mem_of_getElem? isSmaller
  have ascends := srsranCbsegmCbsizeFix_lt isSmaller isFound
  have tooSmall : smaller ≤ longCb - 1 := by
    by_contra large
    have minimal := smallest smaller isSmallerSize (by omega)
    omega
  have lowerSum := Nat.mul_le_mul_left C tooSmall
  have upperSum := Nat.mul_le_mul_left C holds
  obtain ⟨upTo2048, beyond2048⟩ := neighbours isSmaller isFound
  obtain ⟨fewSmall, exact_⟩ : (C * K1 - nM) / (K1 - smaller) ≤ C ∧
      (C - (C * K1 - nM) / (K1 - smaller)) * K1 +
          (C * K1 - nM) / (K1 - smaller) * smaller =
        nM := by
    rcases validZ with rfl | rfl
    · obtain ⟨divides, neighbour⟩ := upTo2048 (by omega) bounded
      exact twoSizes (by decide) neighbour divides (by omega)
        (by omega) (by omega)
    · obtain ⟨divides, neighbour⟩ := beyond2048 (by omega)
      exact twoSizes (by decide) neighbour divides isMultiple
        (by omega) (by omega)
  refine
    ⟨segmentation (nM - (C + 1) * L) C nM (previous + 1) K1 smaller, ?_, ?_⟩
  · have nonempty : nM - (C + 1) * L ≠ 0 := by
      rw [isL]
      rcases validZ with rfl | rfl <;> omega
    rw [srsranCbsegmFix, if_neg nonempty, counted]
    simp only [isLongCb, search, isFound, smallerCbsize,
      Nat.zero_lt_succ, if_true, Nat.add_sub_cancel, isSmaller,
      Option.bind_eq_bind, Option.bind_some, Option.pure_def]
  · have notOne : C ≠ 1 := by omega
    have several : 1 < C := by omega
    have atLeast := (srsranCbsegmCbsizeFix_octets isSmaller).2
    refine
      { sameCount := ?_
        counted := ?_
        bits := ?_
        large := ?_
        small := ?_
        checksum := ?_
        noFiller := ?_ }
    · simp only [segmentation, notOne, if_false]
    · simp only [segmentation, notOne, if_false]
      exact Nat.sub_add_cancel fewSmall
    · simp only [segmentation, notOne, if_false, several, if_true, exact_, isL]
      rcases validZ with rfl | rfl <;> omega
    · simp only [segmentation, notOne, if_false]
      exact ⟨List.mem_of_getElem? isFound, bounded⟩
    · simp only [segmentation, notOne, if_false, several, if_true]
      exact ⟨isSmallerSize, by omega⟩
    · intro cbIdx _
      simp only [segmentation, notOne, if_false, CbSegm.cbLen]
      split <;> omega
    · intro _
      simp only [segmentation, notOne, if_false, exact_, Nat.sub_self]

/-- A transport block size has the segmentation it was computed for. -/
theorem suits_of_getNTbBits
    {nSs nPdcSubc nBps rNumerator rDenominator Z tbs : Nat}
    (validZ : Z = 2048 ∨ Z = 6144)
    (isSize : getNTbBits nSs nPdcSubc nBps rNumerator rDenominator Z = tbs)
    (positive : 0 < tbs) :
    ∃ cbSegm,
      srsranCbsegmFix tbs Z = some cbSegm ∧
      Suits tbs
        (nofCodeblocks
          (nM (getNPdcBits nSs nPdcSubc nBps rNumerator rDenominator))
          Z)
        Z cbSegm := by
  subst isSize
  unfold getNTbBits at *
  generalize
    getNPdcBits nSs nPdcSubc nBps rNumerator rDenominator =
      nPdcBits at *
  dsimp only at *
  have isL : L = 24 := rfl
  by_cases isZero : nM nPdcBits = 0
  · simp [isZero] at positive
  · rw [if_neg isZero] at positive ⊢
    by_cases tooSmall : nM nPdcBits ≤ L
    · simp [tooSmall] at positive
    · rw [if_neg tooSmall] at positive ⊢
      by_cases oneBlock : nM nPdcBits ≤ Z
      · have one : nofCodeblocks (nM nPdcBits) Z = 1 := if_pos oneBlock
        rw [if_pos oneBlock, one]
        by_cases isSize : 40 ≤ nM nPdcBits
        · have member :=
            nM_mem_tcCbSizes isSize
              (by rcases validZ with rfl | rfl <;> omega)
          obtain ⟨index, search, isFound⟩ := cbsize_exact member
          exact suits_oneBlock (Nat.not_le.mp tooSmall) oneBlock search
            isFound (Nat.le_refl _) oneBlock (fun _ => rfl)
        · -- forty bits are the smallest size
          have smallest : (40 : Nat) ∈ tcCbSizes := by
            decide +kernel
          obtain ⟨index, K1, search, isFound, holds, minimal⟩ :=
            cbsize_found smallest (Nat.le_of_not_le isSize)
          have atMost := minimal 40 smallest (Nat.le_of_not_le isSize)
          have eightBits : nM nPdcBits - L ≤ 8 := by
            unfold nM stepOf at *
            split_ifs at * <;> omega
          exact suits_oneBlock (Nat.not_le.mp tooSmall) oneBlock search
            isFound holds (by rcases validZ with rfl | rfl <;> omega)
            (fun notSmall => by omega)
      · rw [if_neg oneBlock]
        have severalBlocks := Nat.not_le.mp oneBlock
        have isMultiple : nM nPdcBits % 64 = 0 := by
          unfold nM stepOf at *
          rcases validZ with rfl | rfl <;> split_ifs at * <;> omega
        exact suits_severalBlocks validZ isMultiple severalBlocks

/--
The segmentation of every transport block exists and has the number of code
blocks that the size of the transport block was computed for.  Its sizes are
sizes of the interleaver, and it has filler bits for the smallest transport
block only.
-/
theorem segmentation_suits
    (nSs nPdcSubc nBps rNumerator rDenominator : Nat)
    {Z : Nat}
    (validZ : Z = 2048 ∨ Z = 6144)
    (positive :
      0 < getNTbBits nSs nPdcSubc nBps rNumerator rDenominator Z) :
    ∃ cbSegm,
      srsranCbsegmFix
          (getNTbBits nSs nPdcSubc nBps rNumerator rDenominator Z) Z =
        some cbSegm ∧
      Suits (getNTbBits nSs nPdcSubc nBps rNumerator rDenominator Z)
        (nofCodeblocks
          (nM (getNPdcBits nSs nPdcSubc nBps rNumerator rDenominator))
          Z)
        Z cbSegm :=
  suits_of_getNTbBits validZ rfl positive

/-- The longest code blocks of a large packet are found. -/
theorem segmentation_suits_severalBlocks :
    ∃ cbSegm,
      srsranCbsegmFix (getNTbBits 1 3000 2 3 4 2048) 2048 =
        some cbSegm ∧
      Suits (getNTbBits 1 3000 2 3 4 2048)
        (nofCodeblocks (nM (getNPdcBits 1 3000 2 3 4)) 2048) 2048
        cbSegm :=
  segmentation_suits 1 3000 2 3 4 (Or.inl rfl) (by decide)

/--
A packet of one subslot whose transport block has 32 bits: there is no second
size, and zero stands for it.
-/
theorem not_segmentation_twoSizes :
    Pdc.getNPdcSubc 5 1 1 56 = .ok 56 ∧
      getNTbBits 1 56 2 1 2 2048 = 32 ∧
      ∃ cbSegm,
        srsranCbsegmFix (getNTbBits 1 56 2 1 2 2048) 2048 =
          some cbSegm ∧
        cbSegm.K2 ∉ tcCbSizes := by
  refine ⟨by decide, by decide, ⟨0, 1, 56, 0, 2, 0, 1, 0, 32⟩, ?_, ?_⟩
  · decide +kernel
  · decide +kernel

end TransportBlockSize

end DectNrp
