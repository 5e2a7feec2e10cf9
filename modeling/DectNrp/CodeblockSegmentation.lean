import Mathlib.Tactic.Ring
import Mathlib.Data.Nat.Init

namespace DectNrp

/-!
# Code block segmentation

A transport block with its checksum is encoded as one code block if it is
small enough.  Otherwise it is split into blocks of two neighbouring sizes, each
of which gets a checksum of its own.
-/

/-- Code block segmentation of a transport block. -/
structure CbSegm where
  F : Nat
  C : Nat
  K1 : Nat
  K2 : Nat
  K1Idx : Nat
  K2Idx : Nat
  C1 : Nat
  C2 : Nat
  tbs : Nat
  deriving Repr, DecidableEq

namespace CbSegm

/-- Number of bits of a code block. -/
def cbLen
    (cbSegm : CbSegm)
    (cbIdx : Nat) :
    Nat :=
  if cbIdx < cbSegm.C2 then cbSegm.K2 else cbSegm.K1

/-- Table index of the size of a code block. -/
def cbLenIdx
    (cbSegm : CbSegm)
    (cbIdx : Nat) :
    Nat :=
  if cbIdx < cbSegm.C2 then cbSegm.K2Idx else cbSegm.K1Idx

/-- Number of transport block bits that the receiver takes from a code block. -/
def rlen
    (cbSegm : CbSegm)
    (cbIdx : Nat) :
    Nat :=
  if cbSegm.C = 1 then cbSegm.cbLen cbIdx else cbSegm.cbLen cbIdx - 24

end CbSegm

/-- Sizes of the interleaver of the turbo code. -/
def tcCbSizes : List Nat :=
  [40, 48, 56, 64, 72, 80, 88, 96, 104, 112, 120, 128, 136, 144, 152, 160,
   168, 176, 184, 192, 200, 208, 216, 224, 232, 240, 248, 256, 264, 272,
   280, 288, 296, 304, 312, 320, 328, 336, 344, 352, 360, 368, 376, 384,
   392, 400, 408, 416, 424, 432, 440, 448, 456, 464, 472, 480, 488, 496,
   504, 512, 528, 544, 560, 576, 592, 608, 624, 640, 656, 672, 688, 704,
   720, 736, 752, 768, 784, 800, 816, 832, 848, 864, 880, 896, 912, 928,
   944, 960, 976, 992, 1008, 1024, 1056, 1088, 1120, 1152, 1184, 1216,
   1248, 1280, 1312, 1344, 1376, 1408, 1440, 1472, 1504, 1536, 1568, 1600,
   1632, 1664, 1696, 1728, 1760, 1792, 1824, 1856, 1888, 1920, 1952, 1984,
   2016, 2048, 2112, 2176, 2240, 2304, 2368, 2432, 2496, 2560, 2624, 2688,
   2752, 2816, 2880, 2944, 3008, 3072, 3136, 3200, 3264, 3328, 3392, 3456,
   3520, 3584, 3648, 3712, 3776, 3840, 3904, 3968, 4032, 4096, 4160, 4224,
   4288, 4352, 4416, 4480, 4544, 4608, 4672, 4736, 4800, 4864, 4928, 4992,
   5056, 5120, 5184, 5248, 5312, 5376, 5440, 5504, 5568, 5632, 5696, 5760,
   5824, 5888, 5952, 6016, 6080, 6144]

/-- Index of the smallest size that holds a number of bits. -/
def srsranCbsegmCbindexFix (longCb : Nat) : Option Nat :=
  tcCbSizes.findIdx? (fun size => decide (longCb ≤ size))

/-- Size of an index. -/
def srsranCbsegmCbsizeFix (index : Nat) : Option Nat :=
  tcCbSizes[index]?

/-- Number of code blocks, and of bits including all checksums. -/
def cbsegmCbSize
    (B Z : Nat) :
    Nat × Nat :=
  if B ≤ Z then
    (1, B)
  else
    let C := (B + (Z - 24 - 1)) / (Z - 24)
    (C, B + 24 * C)

/-- The size below the one of an index, if there is one. -/
def smallerCbsize
    (idx1 K1 : Nat) :
    Option Nat :=
  if 0 < idx1 then srsranCbsegmCbsizeFix (idx1 - 1) else some K1

/-- Segmentation into blocks of two neighbouring sizes. -/
def segmentation
    (tbs C Bp idx1 K1 smaller : Nat) :
    CbSegm :=
  if C = 1 then
    ⟨K1 - Bp, C, K1, 0, idx1, 0, 1, 0, tbs⟩
  else
    let C2 := (C * K1 - Bp) / (K1 - smaller)
    let C1 := C - C2
    { F := C1 * K1 + C2 * smaller - Bp
      C := C
      K1 := K1
      K2 := smaller
      K1Idx := idx1
      K2Idx := idx1 - 1
      C1 := C1
      C2 := C2
      tbs := tbs }

/-- Segmentation of a transport block; `none` if there is no such size. -/
def srsranCbsegmFix
    (tbs Z : Nat) :
    Option CbSegm :=
  if tbs = 0 then
    some ⟨0, 0, 0, 0, 0, 0, 0, 0, 0⟩
  else do
    let (C, Bp) := cbsegmCbSize (tbs + 24) Z
    let idx1 ← srsranCbsegmCbindexFix ((Bp - 1) / C + 1)
    let K1 ← srsranCbsegmCbsizeFix idx1
    let smaller ← smallerCbsize idx1 K1
    pure (segmentation tbs C Bp idx1 K1 smaller)

theorem cbsegmCbSize_pos
    {B Z : Nat}
    (validZ : Z = 2048 ∨ Z = 6144) :
    0 < (cbsegmCbSize B Z).1 := by
  unfold cbsegmCbSize
  split
  · exact Nat.one_pos
  · rcases validZ with rfl | rfl <;>
      · dsimp only
        omega

variable {cbSegm : CbSegm}

variable {tbs Z : Nat}

/-- A segmentation consists of the values it was computed from. -/
theorem srsranCbsegmFix_eq_some
    (nonempty : tbs ≠ 0)
    (segmented : srsranCbsegmFix tbs Z = some cbSegm) :
    ∃ idx1 K1 smaller,
      srsranCbsegmCbindexFix
          (((cbsegmCbSize (tbs + 24) Z).2 - 1) /
              (cbsegmCbSize (tbs + 24) Z).1 + 1) =
        some idx1 ∧
      srsranCbsegmCbsizeFix idx1 = some K1 ∧
      smallerCbsize idx1 K1 = some smaller ∧
      cbSegm =
        segmentation tbs (cbsegmCbSize (tbs + 24) Z).1
          (cbsegmCbSize (tbs + 24) Z).2 idx1 K1 smaller := by
  simp only [srsranCbsegmFix, nonempty, ↓reduceIte,
    Option.bind_eq_bind, Option.bind_eq_some_iff, Option.pure_def,
    Option.some.injEq] at segmented
  obtain ⟨idx1, index, K1, large, smaller, small, rfl⟩ := segmented
  exact ⟨idx1, K1, smaller, index, large, small, rfl⟩

/-- A segmented transport block has at least one code block. -/
theorem srsranCbsegmFix_C_pos
    (nonempty : tbs ≠ 0)
    (validZ : Z = 2048 ∨ Z = 6144)
    (segmented : srsranCbsegmFix tbs Z = some cbSegm) :
    0 < cbSegm.C := by
  obtain ⟨idx1, K1, smaller, _, _, _, rfl⟩ :=
    srsranCbsegmFix_eq_some nonempty segmented
  have positive := @cbsegmCbSize_pos (tbs + 24) Z validZ
  unfold segmentation
  split <;> exact positive

/-- Sizes grow with their index. -/
theorem srsranCbsegmCbsizeFix_lt
    {index smaller larger : Nat}
    (small : srsranCbsegmCbsizeFix index = some smaller)
    (large : srsranCbsegmCbsizeFix (index + 1) = some larger) :
    smaller < larger := by
  have everyPair : ∀ index : Fin 187,
      tcCbSizes.getD index 0 < tcCbSizes.getD (index + 1) 0 := by
    decide +kernel
  obtain ⟨inside, _⟩ := List.getElem?_eq_some_iff.mp large
  have size : tcCbSizes.length = 188 := by decide +kernel
  have grows := everyPair ⟨index, by omega⟩
  simpa [List.getD, show tcCbSizes[index]? = some smaller from small,
    show tcCbSizes[index + 1]? = some larger from large] using grows

/-- All sizes consist of whole octets and hold at least forty bits. -/
theorem srsranCbsegmCbsizeFix_octets
    {index size : Nat}
    (defined : srsranCbsegmCbsizeFix index = some size) :
    size % 8 = 0 ∧ 40 ≤ size := by
  have everySize : ∀ size ∈ tcCbSizes, size % 8 = 0 ∧ 40 ≤ size := by
    decide +kernel
  exact everySize size (List.mem_of_getElem? defined)

/-- Blocks of a segmentation consist of whole octets. -/
theorem srsranCbsegmFix_octets
    (nonempty : tbs ≠ 0)
    (segmented : srsranCbsegmFix tbs Z = some cbSegm)
    (cbIdx : Nat) :
    cbSegm.cbLen cbIdx % 8 = 0 ∧ 40 ≤ cbSegm.cbLen cbIdx := by
  obtain ⟨idx1, K1, smaller, _, large, small, rfl⟩ :=
    srsranCbsegmFix_eq_some nonempty segmented
  have largeOctets := srsranCbsegmCbsizeFix_octets large
  have smallOctets : smaller % 8 = 0 ∧ 40 ≤ smaller := by
    unfold smallerCbsize at small
    split at small
    · exact srsranCbsegmCbsizeFix_octets small
    · cases small
      exact largeOctets
  unfold CbSegm.cbLen segmentation
  split
  · exact largeOctets
  · dsimp only
    split
    · exact smallOctets
    · exact largeOctets

end DectNrp
