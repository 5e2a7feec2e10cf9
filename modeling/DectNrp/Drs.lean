import DectNrp.PhysicalResources

namespace DectNrp

open ColumnTables
open Phyres

/-!
# Demodulation reference signals

The cells of the reference signals are given twice: by the defining formula for
a whole packet, and by an iterator that walks from symbol to symbol with two
precomputed tables.
-/

namespace Pdc

/-- Number of symbols of the data field. -/
def getNDfSymb
    (u nPacketSymb : Nat) :
    Nat :=
  if u = 1 then
    nPacketSymb - 2
  else if u = 2 ∨ u = 4 then
    nPacketSymb - 3
  else
    nPacketSymb - 4

def getNofOfdmSymbolsCarryingDrsPerTs
    (u nPacketSymb nEffTx : Nat) :
    Checked Nat := do
  dectnrpAssert (!(nEffTx == 4 && nPacketSymb < 15))
    "N_eff_TX = 4, the value of N_PACKET_symb must be at least 15 to accomodate two DRS symbols"
  dectnrpAssert (!(u == 8 && nEffTx == 8 && (nPacketSymb < 20 || nPacketSymb % 10 != 0)))
    "u==8 and N_eff_TX = 8, the value of N_PACKET_symb must be at least 20 and a multiple of 10"
  let nStep := if nEffTx ≤ 2 then 5 else 10
  if nStep = 10 ∧ nPacketSymb % 10 ≠ 0 then do
    dectnrpAssert (nPacketSymb % 5 == 0) "N_PACKET_symb not a multiple of 5 or 10."
    .ok (nPacketSymb / nStep + 1)
  else
    .ok (nPacketSymb / nStep)

def getNDrsSubc
    (u nPacketSymb nEffTx nBOcc : Nat) :
    Checked Nat := do
  let nofSymbols ← getNofOfdmSymbolsCarryingDrsPerTs u nPacketSymb nEffTx
  .ok (nEffTx * nBOcc / 4 * nofSymbols)

end Pdc

/-- Packets whose length can carry the reference signals of their streams. -/
structure PacketValid
    (u nPacketSymb nTs : Nat) :
    Prop where
  u_mem : u ∈ [1, 2, 4, 8]
  nTs_mem : nTs ∈ nTsIdx2NTsVec
  long : 5 ≤ nPacketSymb
  multiple : nPacketSymb % 5 = 0
  fourStreams : nTs = 4 → 15 ≤ nPacketSymb
  eightStreams : u = 8 ∧ nTs = 8 → 20 ≤ nPacketSymb ∧ nPacketSymb % 10 = 0

instance (u nPacketSymb nTs : Nat) : Decidable (PacketValid u nPacketSymb nTs) :=
  decidable_of_iff
    (u ∈ [1, 2, 4, 8] ∧ nTs ∈ nTsIdx2NTsVec ∧ 5 ≤ nPacketSymb ∧ nPacketSymb % 5 = 0 ∧
      (nTs = 4 → 15 ≤ nPacketSymb) ∧
        (u = 8 ∧ nTs = 8 → 20 ≤ nPacketSymb ∧ nPacketSymb % 10 = 0))
    ⟨fun ⟨uMem, nTsMem, long, multiple, four, eight⟩ =>
        ⟨uMem, nTsMem, long, multiple, four, eight⟩,
      fun valid =>
        ⟨valid.u_mem, valid.nTs_mem, valid.long, valid.multiple, valid.fourStreams,
          valid.eightStreams⟩⟩

theorem nTs_cases
    {nTs : Nat}
    (nTsValid : nTs ∈ nTsIdx2NTsVec) :
    nTs = 1 ∨ nTs = 2 ∨ nTs = 4 ∨ nTs = 8 := by
  simpa [nTsIdx2NTsVec] using nTsValid

namespace Drs

/-- Distance of symbols that carry the reference signals of one stream. -/
def getNStep (nTs : Nat) : Nat :=
  if nTs ≤ 2 then 5 else 10

/-- Subcarriers of one transmit stream in one symbol. -/
def getKISingle
    (bIdx t n : Nat) :
    List Nat :=
  (List.range (nBOccLut bIdx / 4)).map (fun i =>
    (bX bIdx (i * 4 + (t + n % 2 * 2) % 4) + (nBOccLut bIdx / 2 : Nat)).toNat)

/-- Linear indices of all reference cells of a packet, one row for each stream. -/
def getKILinear
    (u b nPacketSymb nTs : Nat) :
    Checked (List (List Nat)) := do
  dectnrpAssert (!(nTs == 4 && nPacketSymb < 15))
    "N_TS = 4, the value of N_PACKET_symb must be at least 15 to accomodate two DRS symbols"
  dectnrpAssert (!(u == 8 && nTs == 8 && (nPacketSymb < 20 || nPacketSymb % 10 != 0)))
    "u==8 and N_TS = 8, the value of N_PACKET_symb must be at least 20 and a multiple of 10"
  let bIdx := b2bIdx b
  let nBDft := nBDftLut bIdx
  let nBOcc := nBOccLut bIdx
  let nStep := getNStep nTs
  let nSubc := nBOcc / 4
  let nSymb ← Pdc.getNofOfdmSymbolsCarryingDrsPerTs u nPacketSymb nTs
  let kILinear := (List.range nTs).map (fun t =>
    (List.range nSymb).flatMap (fun n =>
      let l := 1 + t / 4 + n * nStep
      let linearOffset := nBDft / 2 + nBDft * l
      (List.range nSubc).map (fun i =>
        (bX bIdx (i * 4 + (t + n % 2 * 2) % 4) + (linearOffset : Nat)).toNat)))
  let nDrsSubc ← Pdc.getNDrsSubc u nPacketSymb nTs nBOcc
  dectnrpAssert ((kILinear.map List.length).sum == nDrsSubc) "Incorrect number of DRS symbols"
  .ok kILinear

end Drs

/-- Which of the two tables of subcarriers is in use. -/
inductive KIPointer where
  | for12
  | for6Or1112
  deriving Repr, DecidableEq

/-- Iterator over the symbols that carry reference signals. -/
structure Drs where
  kIFor12 : List (List (List Nat))
  kIFor6Or1112 : List (List (List Nat))
  configBIdx : Nat
  configNTs : Nat
  lNext : Nat
  kIEffective : KIPointer
  tsIdxFirstEffective : Nat
  deriving Repr, DecidableEq

namespace Drs

/-- Tables for all bandwidths up to a maximum. -/
def create
    (bMax nTsMax : Nat) :
    Drs where
  kIFor12 := (List.range (b2bIdx bMax + 1)).map (fun bIdx =>
    (List.range (min 4 nTsMax)).map (fun t => getKISingle bIdx t 0))
  kIFor6Or1112 := (List.range (b2bIdx bMax + 1)).map (fun bIdx =>
    (List.range (min 4 nTsMax)).map (fun t => getKISingle bIdx t 1))
  configBIdx := 0
  configNTs := 0
  lNext := 0
  kIEffective := .for12
  tsIdxFirstEffective := 0

def setConfiguration
    (drs : Drs)
    (b nTs : Nat) :
    Drs :=
  { drs with
    configBIdx := b2bIdx b
    configNTs := nTs
    lNext := 1
    kIEffective := .for12
    tsIdxFirstEffective := 0 }

def isSymbolIndex
    (drs : Drs)
    (l : Nat) :
    Bool :=
  l == drs.lNext

/-- Subcarriers for the current symbol, one row for each of up to four streams. -/
def getKI (drs : Drs) : List (List Nat) :=
  match drs.kIEffective with
  | .for12 => drs.kIFor12.getD drs.configBIdx []
  | .for6Or1112 => drs.kIFor6Or1112.getD drs.configBIdx []

def getTsIdxFirst (drs : Drs) : Nat :=
  drs.tsIdxFirstEffective

def switchKIPointer (drs : Drs) : Drs :=
  match drs.kIEffective with
  | .for12 => { drs with kIEffective := .for6Or1112 }
  | .for6Or1112 => { drs with kIEffective := .for12 }

/-- Last stream of the current symbol; the iterator advances to the next one. -/
def getTsIdxLastAndAdvance (drs : Drs) : Nat × Drs :=
  let tsIdxLastEffective :=
    if drs.tsIdxFirstEffective = 0 then min (drs.configNTs - 1) 3 else 7
  if drs.configNTs ≤ 2 then
    (tsIdxLastEffective, { drs with lNext := drs.lNext + 5 }.switchKIPointer)
  else if drs.configNTs = 4 then
    (tsIdxLastEffective, { drs with lNext := drs.lNext + 10 }.switchKIPointer)
  else
    let advanced :=
      if drs.lNext % 2 = 1 then
        { drs with lNext := drs.lNext + 1 }
      else
        { drs with lNext := drs.lNext + 9 }.switchKIPointer
    (tsIdxLastEffective,
      { advanced with tsIdxFirstEffective := if drs.tsIdxFirstEffective = 0 then 4 else 0 })

/-- Streams and their subcarriers that a caller gets in one symbol. -/
def runSymbol
    (drs : Drs)
    (l : Nat) :
    List (Nat × List Nat) × Drs :=
  if drs.isSymbolIndex l then
    let kI := drs.getKI
    let tsIdxFirst := drs.getTsIdxFirst
    let (tsIdxLast, advanced) := drs.getTsIdxLastAndAdvance
    ((List.range' tsIdxFirst (tsIdxLast + 1 - tsIdxFirst)).map
      (fun tsIdx => (tsIdx, kI.getD (tsIdx % 4) [])), advanced)
  else
    ([], drs)

/-- Carriers of a stream in its `n`-th symbol. -/
def carriers
    (b t n : Nat) :
    List Nat :=
  (List.range (14 * b)).map (fun i => carrier b (i * 4 + (t + n % 2 * 2) % 4))

/-- Which group of four streams, for the how many-th time, has its symbol at `l`. -/
def groupAt
    (nTs l : Nat) :
    Option (Nat × Nat) :=
  if 1 ≤ l ∧ (l - 1) % getNStep nTs = 0 then
    some (0, (l - 1) / getNStep nTs)
  else if nTs = 8 ∧ 2 ≤ l ∧ (l - 2) % 10 = 0 then
    some (1, (l - 2) / 10)
  else
    none

/-- Streams and their carriers in one symbol. -/
def rowsAt
    (b nTs l : Nat) :
    List (Nat × List Nat) :=
  match groupAt nTs l with
  | some (group, n) =>
      (List.range' (4 * group) (min nTs 4)).map (fun t => (t, carriers b t n))
  | none => []

theorem getNStep_cases (nTs : Nat) :
    nTs ≤ 2 ∧ getNStep nTs = 5 ∨ 2 < nTs ∧ getNStep nTs = 10 := by
  unfold getNStep
  split <;> omega

theorem five_le_getNStep (nTs : Nat) :
    5 ≤ getNStep nTs := by
  unfold getNStep
  split <;> decide

theorem groupAt_eq_some
    {nTs l group n : Nat}
    (nTsValid : nTs ∈ nTsIdx2NTsVec) :
    groupAt nTs l = some (group, n) ↔
      (group = 0 ∨ group = 1 ∧ nTs = 8) ∧ l = 1 + group + n * getNStep nTs := by
  have streams := nTs_cases nTsValid
  unfold groupAt
  rcases getNStep_cases nTs with ⟨few, step⟩ | ⟨many, step⟩
  · rw [step]
    split_ifs <;> simp only [Option.some.injEq, Prod.mk.injEq, false_iff] <;>
      omega
  · rw [step]
    split_ifs <;> simp only [Option.some.injEq, Prod.mk.injEq, false_iff] <;>
      omega

/-- Reference signals only occur at the first two symbols of every five. -/
theorem groupAt_eq_none
    {nTs l : Nat}
    (nTsValid : nTs ∈ nTsIdx2NTsVec)
    (residue : l % 5 ≠ 1 ∧ l % 5 ≠ 2) :
    groupAt nTs l = none := by
  cases found : groupAt nTs l with
  | none => rfl
  | some occurrence =>
      obtain ⟨group, n⟩ := occurrence
      obtain ⟨groupValid, symbol⟩ := (groupAt_eq_some nTsValid).mp found
      rcases getNStep_cases nTs with ⟨few, step⟩ | ⟨many, step⟩ <;>
        rw [step] at symbol <;> omega

/-- A stream has its symbols at equal distances. -/
theorem mem_rowsAt
    {b nTs l t : Nat}
    {row : List Nat}
    (nTsValid : nTs ∈ nTsIdx2NTsVec) :
    (t, row) ∈ rowsAt b nTs l ↔
      t < nTs ∧ ∃ n, l = 1 + t / 4 + n * getNStep nTs ∧ row = carriers b t n := by
  have streams := nTs_cases nTsValid
  constructor
  · intro member
    unfold rowsAt at member
    cases found : groupAt nTs l with
    | none =>
        rw [found] at member
        cases member
    | some occurrence =>
        obtain ⟨group, n⟩ := occurrence
        obtain ⟨groupValid, symbol⟩ := (groupAt_eq_some nTsValid).mp found
        rw [found] at member
        simp only [List.mem_map, List.mem_range'_1, Prod.mk.injEq] at member
        obtain ⟨stream, inside, rfl, rfl⟩ := member
        have sameGroup : stream / 4 = group := by omega
        exact ⟨by omega, n, by rw [sameGroup]; exact symbol, rfl⟩
  · rintro ⟨inside, n, symbol, rfl⟩
    have found : groupAt nTs l = some (t / 4, n) :=
      (groupAt_eq_some nTsValid).mpr ⟨by omega, symbol⟩
    unfold rowsAt
    rw [found]
    refine List.mem_map.mpr ⟨t, ?_, rfl⟩
    rw [List.mem_range'_1]
    omega

theorem length_carriers (b t n : Nat) :
    (carriers b t n).length = 14 * b := by
  simp [carriers]

theorem ascending_carriers (b t n : Nat) :
    Ascending (carriers b t n) :=
  (ascending_range _).map (fun _ _ smaller => carrier_lt (by omega))

theorem mem_carriers
    {b t n k : Nat} :
    k ∈ carriers b t n ↔
      ∃ index < 56 * b, index % 4 = (t + n % 2 * 2) % 4 ∧ carrier b index = k := by
  simp only [carriers, List.mem_map, List.mem_range]
  constructor
  · rintro ⟨i, inside, rfl⟩
    exact ⟨i * 4 + (t + n % 2 * 2) % 4, by omega, by omega, rfl⟩
  · rintro ⟨index, inside, residue, rfl⟩
    refine ⟨index / 4, by omega, ?_⟩
    congr 1
    omega

/-- Reference signals only use occupied subcarriers. -/
theorem carriers_occupied
    {b t n k : Nat}
    (bValid : b ∈ bIdx2bLut)
    (member : k ∈ carriers b t n) :
    k ∈ occupiedSubcarriers b := by
  obtain ⟨index, inside, -, rfl⟩ := mem_carriers.mp member
  rw [occupiedSubcarriers_eq bValid]
  exact List.mem_map.mpr ⟨index, List.mem_range.mpr inside, rfl⟩

/-- Different streams of one group never share a subcarrier. -/
theorem carriers_disjoint
    {b first second n k : Nat}
    (different : first % 4 ≠ second % 4)
    (member : k ∈ carriers b first n) :
    k ∉ carriers b second n := by
  intro other
  obtain ⟨index, -, residue, rfl⟩ := mem_carriers.mp member
  obtain ⟨otherIndex, -, otherResidue, same⟩ := mem_carriers.mp other
  have := carrier_injective same
  omega

theorem carriers_mod_two (b t n : Nat) :
    carriers b t (n % 2) = carriers b t n := by
  simp [carriers]

theorem carriers_mod_four (b t n : Nat) :
    carriers b (t % 4) n = carriers b t n := by
  unfold carriers
  refine List.map_congr_left ?_
  intro i _
  congr 1
  omega

theorem getKISingle_eq
    {b : Nat}
    (bValid : b ∈ bIdx2bLut)
    (t n : Nat) :
    getKISingle (b2bIdx b) t n = carriers b t n := by
  have quarter : nBOccLut (b2bIdx b) / 4 = 14 * b := by
    rw [nBOccLut_b2bIdx bValid]
    omega
  have half : nBOccLut (b2bIdx b) / 2 = 28 * b := by
    rw [nBOccLut_b2bIdx bValid]
    omega
  unfold getKISingle carriers
  rw [quarter, half]
  refine List.map_congr_left ?_
  intro i member
  have inside := List.mem_range.mp member
  rw [bX_eq bValid (by omega)]
  omega

/-- Carriers of all streams in one symbol. -/
def takenAt
    (b nTs l : Nat) :
    List Nat :=
  (rowsAt b nTs l).flatMap Prod.snd

theorem mem_takenAt
    {b nTs l k : Nat} :
    k ∈ takenAt b nTs l ↔ ∃ row ∈ rowsAt b nTs l, k ∈ row.2 := by
  simp [takenAt]

theorem takenAt_occupied
    {b nTs l k : Nat}
    (bValid : b ∈ bIdx2bLut)
    (nTsValid : nTs ∈ nTsIdx2NTsVec)
    (member : k ∈ takenAt b nTs l) :
    k ∈ occupiedSubcarriers b := by
  obtain ⟨⟨t, row⟩, rowMember, kMember⟩ := mem_takenAt.mp member
  obtain ⟨-, n, -, rfl⟩ := (mem_rowsAt nTsValid).mp rowMember
  exact carriers_occupied bValid kMember

/-- No carrier of a symbol belongs to two streams. -/
theorem takenAt_nodup (b nTs l : Nat) :
    (takenAt b nTs l).Nodup := by
  unfold takenAt rowsAt
  cases found : groupAt nTs l with
  | none => exact List.nodup_nil
  | some occurrence =>
      obtain ⟨group, n⟩ := occurrence
      simp only [List.flatMap_map]
      refine List.nodup_flatMap.mpr ⟨fun t _ => (ascending_carriers b t n).nodup, ?_⟩
      refine List.Pairwise.imp_of_mem ?_ List.nodup_range'
      intro first second firstMember secondMember different k inFirst inSecond
      rw [List.mem_range'_1] at firstMember secondMember
      exact carriers_disjoint (by omega) inFirst inSecond

theorem length_takenAt (b nTs l : Nat) :
    14 * b ∣ (takenAt b nTs l).length := by
  unfold takenAt rowsAt
  cases groupAt nTs l with
  | none => exact Nat.dvd_zero _
  | some occurrence =>
      obtain ⟨group, n⟩ := occurrence
      simp only [List.flatMap_map, List.length_flatMap, length_carriers, List.map_const',
        List.sum_replicate, nsmul_eq_mul]
      exact Nat.dvd_mul_left _ _

/-- Occupied subcarriers of a symbol that carry no reference signals. -/
def freeRow
    (b nTs l : Nat) :
    List Nat :=
  (occupiedSubcarriers b).filter (fun k => decide (k ∉ takenAt b nTs l))

/-- The free subcarriers of a symbol come in multiples of fourteen. -/
theorem length_freeRow
    {b nTs : Nat}
    (bValid : b ∈ bIdx2bLut)
    (nTsValid : nTs ∈ nTsIdx2NTsVec)
    (l : Nat) :
    14 ∣ (freeRow b nTs l).length := by
  have counted := length_filter_not_mem
    (ascending_occupiedSubcarriers bValid).nodup (takenAt_nodup b nTs l)
    (fun k (member : k ∈ takenAt b nTs l) => takenAt_occupied bValid nTsValid member)
  have whole : (occupiedSubcarriers b).length = 14 * (4 * b) := by
    rw [occupiedSubcarriers_eq bValid, List.length_map, List.length_range]
    omega
  have taken : 14 ∣ (takenAt b nTs l).length :=
    Nat.dvd_trans (Nat.dvd_mul_right 14 b) (length_takenAt b nTs l)
  unfold freeRow
  omega

/-- A symbol without reference signals is free. -/
theorem freeRow_of_groupAt_eq_none
    {b nTs l : Nat}
    (idle : groupAt nTs l = none) :
    freeRow b nTs l = occupiedSubcarriers b := by
  refine List.filter_eq_self.mpr ?_
  intro k _
  simp [takenAt, rowsAt, idle]

/-- Number of symbols with reference signals of one stream. -/
def nofSymbols
    (nPacketSymb nTs : Nat) :
    Nat :=
  if nTs ≤ 2 then nPacketSymb / 5 else (nPacketSymb + 5) / 10

/-- Cells of one stream in a packet. -/
def streamCells
    (b nTs count t : Nat) :
    List Nat :=
  (List.range count).flatMap (fun n =>
    (carriers b t n).map (fun k =>
      (1 + t / 4 + n * getNStep nTs) * (64 * b) + 4 * b + k))

end Drs

theorem Pdc.getNofOfdmSymbolsCarryingDrsPerTs_eq
    {u nPacketSymb nTs : Nat}
    (valid : PacketValid u nPacketSymb nTs) :
    getNofOfdmSymbolsCarryingDrsPerTs u nPacketSymb nTs =
      .ok (Drs.nofSymbols nPacketSymb nTs) := by
  have multiple := valid.multiple
  have four := valid.fourStreams
  have eight := valid.eightStreams
  have firstAssert : (!(nTs == 4 && nPacketSymb < 15)) = true := by
    simp
    omega
  have secondAssert :
      (!(u == 8 && nTs == 8 && (nPacketSymb < 20 || nPacketSymb % 10 != 0))) = true := by
    by_cases both : u = 8 ∧ nTs = 8
    · have facts := eight both
      simp [both, facts]
    · simp
      omega
  have thirdAssert : (nPacketSymb % 5 == 0) = true := by simpa using multiple
  unfold getNofOfdmSymbolsCarryingDrsPerTs
  rw [firstAssert, secondAssert, thirdAssert]
  simp only [dectnrpAssert_true, Checked.ok_bind, Drs.nofSymbols]
  split_ifs <;> simp only [Except.ok.injEq] <;> omega

namespace Drs

theorem length_streamCells (b nTs count t : Nat) :
    (streamCells b nTs count t).length = count * (14 * b) := by
  simp [streamCells, length_carriers, List.length_flatMap]

/-- The formula gives the same carriers as the pattern, shifted to their symbols. -/
theorem getKILinear_eq
    {u b nPacketSymb nTs : Nat}
    (bValid : b ∈ bIdx2bLut)
    (valid : PacketValid u nPacketSymb nTs) :
    getKILinear u b nPacketSymb nTs =
      .ok ((List.range nTs).map (streamCells b nTs (nofSymbols nPacketSymb nTs))) := by
  have four := valid.fourStreams
  have eight := valid.eightStreams
  have firstAssert : (!(nTs == 4 && nPacketSymb < 15)) = true := by
    simp
    omega
  have secondAssert :
      (!(u == 8 && nTs == 8 && (nPacketSymb < 20 || nPacketSymb % 10 != 0))) = true := by
    by_cases both : u = 8 ∧ nTs = 8
    · have facts := eight both
      simp [both, facts]
    · simp
      omega
  have quarter : nBOccLut (b2bIdx b) / 4 = 14 * b := by
    rw [nBOccLut_b2bIdx bValid]
    omega
  have formula : (List.range nTs).map (fun t =>
      (List.range (nofSymbols nPacketSymb nTs)).flatMap (fun n =>
        (List.range (14 * b)).map (fun i =>
          (bX (b2bIdx b) (i * 4 + (t + n % 2 * 2) % 4) +
            (64 * b / 2 + 64 * b * (1 + t / 4 + n * getNStep nTs) : Nat)).toNat))) =
      (List.range nTs).map (streamCells b nTs (nofSymbols nPacketSymb nTs)) := by
    refine List.map_congr_left ?_
    intro t _
    unfold streamCells carriers
    congr 1
    funext n
    rw [List.map_map]
    refine List.map_congr_left ?_
    intro i member
    have inside := List.mem_range.mp member
    simp only [Function.comp]
    rw [bX_eq bValid (by omega), Nat.mul_comm (64 * b)]
    omega
  have total : (((List.range nTs).map
      (streamCells b nTs (nofSymbols nPacketSymb nTs))).map List.length).sum =
        nTs * (56 * b) / 4 * nofSymbols nPacketSymb nTs := by
    have exact : nTs * (56 * b) / 4 = nTs * (14 * b) := by
      have regroup : nTs * (56 * b) = 4 * (nTs * (14 * b)) := by ring
      omega
    rw [List.map_map, exact]
    simp only [Function.comp_def, length_streamCells, List.map_const', List.sum_replicate,
      List.length_range, nsmul_eq_mul, Nat.cast_id]
    ring
  unfold getKILinear Pdc.getNDrsSubc
  rw [firstAssert, secondAssert, Pdc.getNofOfdmSymbolsCarryingDrsPerTs_eq valid]
  simp only [dectnrpAssert_true, Checked.ok_bind, nBDftLut_b2bIdx bValid, quarter]
  rw [formula, total, nBOccLut_b2bIdx bValid]
  simp

theorem mem_streamCells
    {b nTs count t cell : Nat} :
    cell ∈ streamCells b nTs count t ↔
      ∃ n < count, ∃ k ∈ carriers b t n,
        (1 + t / 4 + n * getNStep nTs) * (64 * b) + 4 * b + k = cell := by
  simp [streamCells]

/-- Rows stay between the guards. -/
theorem carriers_lt
    {b t n k : Nat}
    (member : k ∈ carriers b t n) :
    4 * b + k < 64 * b := by
  obtain ⟨index, inside, -, rfl⟩ := mem_carriers.mp member
  unfold carrier
  split <;> omega

theorem div_of_mem_carriers
    {b t n k : Nat}
    (member : k ∈ carriers b t n)
    (l : Nat) :
    (l * (64 * b) + 4 * b + k) / (64 * b) = l := by
  rw [Nat.add_assoc]
  exact linear_div (carriers_lt member) l

/-- Cells of a stream in one symbol of its pattern. -/
theorem streamCells_filter
    {b nTs count n : Nat}
    (inside : n < count)
    (t : Nat) :
    (streamCells b nTs count t).filter
        (fun cell => decide (cell / (64 * b) = 1 + t / 4 + n * getNStep nTs)) =
      (carriers b t n).map
        (fun k => (1 + t / 4 + n * getNStep nTs) * (64 * b) + 4 * b + k) := by
  have stepPositive : 0 < getNStep nTs := by
    rcases getNStep_cases nTs with ⟨-, step⟩ | ⟨-, step⟩ <;> omega
  unfold streamCells
  rw [filter_flatMap_of_key (fun n => 1 + t / 4 + n * getNStep nTs),
    (ascending_range count).filter_eq_singleton (List.mem_range.mpr inside)]
  · simp
  · intro number
    simp only [decide_eq_true_eq]
    constructor
    · intro same
      exact Nat.eq_of_mul_eq_mul_right stepPositive (by omega)
    · rintro rfl
      rfl
  · intro block _ cell member
    obtain ⟨k, kMember, rfl⟩ := List.mem_map.mp member
    exact div_of_mem_carriers kMember _

/-- A stream has no cells in the other symbols. -/
theorem streamCells_filter_eq_nil
    {b nTs count t l : Nat}
    (elsewhere : ∀ n < count, l ≠ 1 + t / 4 + n * getNStep nTs) :
    (streamCells b nTs count t).filter (fun cell => decide (cell / (64 * b) = l)) = [] := by
  refine List.filter_eq_nil_iff.mpr ?_
  intro cell member
  obtain ⟨n, inside, k, kMember, rfl⟩ := mem_streamCells.mp member
  simp only [div_of_mem_carriers kMember, decide_eq_true_eq]
  exact Ne.symm (elsewhere n inside)

/-- Cells of all streams. -/
def packetCells
    (b nTs count : Nat) :
    List Nat :=
  (List.range nTs).flatMap (streamCells b nTs count)

/-- A cell of a stream is given by the symbol, the occurrence and the carrier. -/
theorem streamCells_injective
    {b nTs first second n m k j : Nat}
    (nTsValid : nTs ∈ nTsIdx2NTsVec)
    (firstInside : first < nTs)
    (secondInside : second < nTs)
    (kMember : k ∈ carriers b first n)
    (jMember : j ∈ carriers b second m)
    (same : (1 + first / 4 + n * getNStep nTs) * (64 * b) + 4 * b + k =
      (1 + second / 4 + m * getNStep nTs) * (64 * b) + 4 * b + j) :
    first = second ∧ n = m ∧ k = j := by
  have streams := nTs_cases nTsValid
  obtain ⟨symbols, rows⟩ := linear_injective (carriers_lt kMember) (carriers_lt jMember)
    (by omega : (1 + first / 4 + n * getNStep nTs) * (64 * b) + (4 * b + k) =
      (1 + second / 4 + m * getNStep nTs) * (64 * b) + (4 * b + j))
  have sameCarrier : k = j := by omega
  have occurrence : n = m ∧ first / 4 = second / 4 := by
    rcases getNStep_cases nTs with ⟨few, step⟩ | ⟨many, step⟩
    · rw [step] at symbols
      omega
    · rw [step] at symbols
      omega
  obtain ⟨rfl, group⟩ := occurrence
  subst sameCarrier
  have residue : first % 4 = second % 4 := by
    by_contra different
    exact carriers_disjoint different kMember jMember
  exact ⟨by omega, rfl, rfl⟩

/-- No cell is listed twice. -/
theorem packetCells_nodup
    {b nTs : Nat}
    (nTsValid : nTs ∈ nTsIdx2NTsVec)
    (count : Nat) :
    (packetCells b nTs count).Nodup := by
  unfold packetCells
  refine List.nodup_flatMap.mpr ⟨?_, ?_⟩
  · intro t member
    have inside := List.mem_range.mp member
    refine List.nodup_flatMap.mpr ⟨?_, ?_⟩
    · intro n _
      refine List.Nodup.map ?_ (ascending_carriers b t n).nodup
      intro first second same
      simpa using same
    · refine List.nodup_range.imp ?_
      intro n m different cell first second
      obtain ⟨k, kMember, rfl⟩ := List.mem_map.mp first
      obtain ⟨j, jMember, same⟩ := List.mem_map.mp second
      exact different
        (streamCells_injective nTsValid inside inside kMember jMember same.symm).2.1
  · refine List.Pairwise.imp_of_mem ?_ List.nodup_range
    intro t s tMember sMember different cell first second
    obtain ⟨n, -, k, kMember, rfl⟩ := mem_streamCells.mp first
    obtain ⟨m, -, j, jMember, same⟩ := mem_streamCells.mp second
    exact different (streamCells_injective nTsValid (List.mem_range.mp tMember)
      (List.mem_range.mp sMember) kMember jMember same.symm).1

theorem length_packetCells (b nTs count : Nat) :
    (packetCells b nTs count).length = nTs * (count * (14 * b)) := by
  simp [packetCells, length_streamCells, List.length_flatMap]

/-- The occurrences inside of the data field are exactly those of the formula. -/
theorem symbol_le_getNDfSymb
    {u nPacketSymb nTs t n : Nat}
    (valid : PacketValid u nPacketSymb nTs)
    (inside : t < nTs) :
    1 + t / 4 + n * getNStep nTs ≤ Pdc.getNDfSymb u nPacketSymb ↔
      n < nofSymbols nPacketSymb nTs := by
  have long := valid.long
  have multiple := valid.multiple
  have four := valid.fourStreams
  have eight := valid.eightStreams
  have streams := nTs_cases valid.nTs_mem
  have spacing : u = 1 ∨ u = 2 ∨ u = 4 ∨ u = 8 := by simpa using valid.u_mem
  unfold Pdc.getNDfSymb nofSymbols
  rcases getNStep_cases nTs with ⟨few, step⟩ | ⟨many, step⟩
  · rw [step, if_pos few]
    split_ifs <;> omega
  · have notFew : ¬ nTs ≤ 2 := Nat.not_le.mpr many
    rw [step, if_neg notFew]
    split_ifs <;> omega

/-- A cell belongs to the reference signals iff the pattern of its symbol says so. -/
theorem mem_packetCells
    {u b nPacketSymb nTs l k : Nat}
    (valid : PacketValid u nPacketSymb nTs)
    (lInside : l ≤ Pdc.getNDfSymb u nPacketSymb)
    (kInside : 4 * b + k < 64 * b) :
    l * (64 * b) + 4 * b + k ∈ packetCells b nTs (nofSymbols nPacketSymb nTs) ↔
      k ∈ takenAt b nTs l := by
  simp only [packetCells, List.mem_flatMap, List.mem_range, mem_takenAt]
  constructor
  · rintro ⟨t, tInside, member⟩
    obtain ⟨n, nInside, j, jMember, same⟩ := mem_streamCells.mp member
    obtain ⟨symbol, sameRow⟩ := linear_injective (carriers_lt jMember) kInside
      (by omega : (1 + t / 4 + n * getNStep nTs) * (64 * b) + (4 * b + j) =
        l * (64 * b) + (4 * b + k))
    have sameCarrier : j = k := by omega
    subst sameCarrier
    exact ⟨(t, carriers b t n),
      (mem_rowsAt valid.nTs_mem).mpr ⟨tInside, n, symbol.symm, rfl⟩, jMember⟩
  · rintro ⟨⟨t, row⟩, rowMember, member⟩
    obtain ⟨tInside, n, rfl, rfl⟩ := (mem_rowsAt valid.nTs_mem).mp rowMember
    exact ⟨t, tInside, mem_streamCells.mpr
      ⟨n, (symbol_le_getNDfSymb valid tInside).mp lInside, k, member, rfl⟩⟩

/-- The table in use at an occurrence. -/
def pointerOf (n : Nat) : KIPointer :=
  if n % 2 = 0 then .for12 else .for6Or1112

/-- The tables hold the carriers of even and of odd occurrences. -/
structure HoldsTables
    (drs : Drs)
    (b nTs : Nat) :
    Prop where
  configBIdx_eq : drs.configBIdx = b2bIdx b
  configNTs_eq : drs.configNTs = nTs
  even : ∀ t < min 4 nTs, (drs.kIFor12.getD (b2bIdx b) []).getD t [] = carriers b t 0
  odd : ∀ t < min 4 nTs, (drs.kIFor6Or1112.getD (b2bIdx b) []).getD t [] = carriers b t 1

/-- The iterator is prepared for the first reference symbol from `l` on. -/
structure WaitsFrom
    (drs : Drs)
    (b nTs l : Nat) :
    Prop where
  tables : HoldsTables drs b nTs
  pending :
    ∃ group n,
      groupAt nTs drs.lNext = some (group, n) ∧
        drs.tsIdxFirstEffective = 4 * group ∧
        drs.kIEffective = pointerOf n
  notBefore : l ≤ drs.lNext
  idle : ∀ other, l ≤ other → other < drs.lNext → groupAt nTs other = none

theorem switchKIPointer_pointerOf
    (for12 for6Or1112 : List (List (List Nat)))
    (bIdx nTs l n first : Nat) :
    switchKIPointer ⟨for12, for6Or1112, bIdx, nTs, l, pointerOf n, first⟩ =
      ⟨for12, for6Or1112, bIdx, nTs, l, pointerOf (n + 1), first⟩ := by
  unfold switchKIPointer pointerOf
  by_cases even : n % 2 = 0
  · have oddNext : ¬ (n + 1) % 2 = 0 := by omega
    rw [if_pos even, if_neg oddNext]
  · have evenNext : (n + 1) % 2 = 0 := by omega
    rw [if_neg even, if_pos evenNext]

/-- The pattern continues with the second group, or with the next occurrence. -/
def nextAfter
    (nTs group n : Nat) :
    Nat × Nat :=
  if nTs = 8 ∧ group = 0 then (1, n) else (0, n + 1)

variable {drs : Drs}

/-- Advancing goes to the next group of the pattern. -/
theorem getTsIdxLastAndAdvance_eq
    {nTs group n : Nat}
    (nTsValid : nTs ∈ nTsIdx2NTsVec)
    (config : drs.configNTs = nTs)
    (occurrence : groupAt nTs drs.lNext = some (group, n))
    (first : drs.tsIdxFirstEffective = 4 * group)
    (pointer : drs.kIEffective = pointerOf n) :
    drs.getTsIdxLastAndAdvance =
      (4 * group + min nTs 4 - 1,
        { drs with
          lNext := 1 + (nextAfter nTs group n).1 + (nextAfter nTs group n).2 * getNStep nTs
          tsIdxFirstEffective := 4 * (nextAfter nTs group n).1
          kIEffective := pointerOf (nextAfter nTs group n).2 }) := by
  have streams := nTs_cases nTsValid
  obtain ⟨groupValid, symbol⟩ := (groupAt_eq_some nTsValid).mp occurrence
  obtain ⟨for12, for6Or1112, bIdx, configNTs, lNext, kIEffective, tsIdxFirst⟩ := drs
  simp only at config first pointer symbol
  subst config first pointer
  have last : (if 4 * group = 0 then min (configNTs - 1) 3 else 7) =
      4 * group + min configNTs 4 - 1 := by
    split <;> omega
  unfold getTsIdxLastAndAdvance
  simp only [last]
  by_cases few : configNTs ≤ 2
  · have onlyGroup : group = 0 := by omega
    have next : nextAfter configNTs group n = (0, n + 1) := if_neg (by omega)
    have step : getNStep configNTs = 5 := if_pos few
    rw [step] at symbol
    rw [if_pos few, next, switchKIPointer_pointerOf, step]
    simp only [Prod.mk.injEq, true_and, Drs.mk.injEq]
    omega
  · have step : getNStep configNTs = 10 := if_neg few
    rw [step] at symbol
    rw [if_neg few, step]
    by_cases four : configNTs = 4
    · have onlyGroup : group = 0 := by omega
      have next : nextAfter configNTs group n = (0, n + 1) := if_neg (by omega)
      rw [if_pos four, next, switchKIPointer_pointerOf]
      simp only [Prod.mk.injEq, true_and, Drs.mk.injEq]
      omega
    · have eight : configNTs = 8 := by omega
      rw [if_neg four]
      rcases groupValid with lower | ⟨upper, -⟩
      · have next : nextAfter configNTs group n = (1, n) := if_pos ⟨eight, lower⟩
        have odd : lNext % 2 = 1 := by omega
        have other : (if 4 * group = 0 then 4 else 0) = 4 := if_pos (by omega)
        rw [if_pos odd, next, other]
        simp only [Prod.mk.injEq, true_and, and_true, Drs.mk.injEq]
        omega
      · have next : nextAfter configNTs group n = (0, n + 1) := if_neg (by omega)
        have even : ¬ lNext % 2 = 1 := by omega
        have other : (if 4 * group = 0 then 4 else 0) = 0 := if_neg (by omega)
        rw [if_neg even, next, other, switchKIPointer_pointerOf]
        simp only [Prod.mk.injEq, true_and, and_true, Drs.mk.injEq]
        omega

theorem groupAt_between
    {nTs group n l other : Nat}
    (nTsValid : nTs ∈ nTsIdx2NTsVec)
    (occurrence : groupAt nTs l = some (group, n))
    (after : l < other)
    (before : other <
      1 + (nextAfter nTs group n).1 + (nextAfter nTs group n).2 * getNStep nTs) :
    groupAt nTs other = none := by
  have streams := nTs_cases nTsValid
  obtain ⟨groupValid, symbol⟩ := (groupAt_eq_some nTsValid).mp occurrence
  cases found : groupAt nTs other with
  | none => rfl
  | some otherOccurrence =>
      obtain ⟨otherGroup, m⟩ := otherOccurrence
      obtain ⟨otherValid, otherSymbol⟩ := (groupAt_eq_some nTsValid).mp found
      unfold nextAfter at before
      rcases getNStep_cases nTs with ⟨few, step⟩ | ⟨many, step⟩
      · rw [step] at symbol otherSymbol before
        split at before <;> omega
      · rw [step] at symbol otherSymbol before
        split at before <;> omega

/-- The streams of the current group get their carriers from the table in use. -/
theorem getKI_getD
    {b nTs n t : Nat}
    (tables : HoldsTables drs b nTs)
    (pointer : drs.kIEffective = pointerOf n)
    (inside : t % 4 < min 4 nTs) :
    drs.getKI.getD (t % 4) [] = carriers b t n := by
  rw [← carriers_mod_two, ← carriers_mod_four]
  unfold getKI
  rw [pointer, pointerOf, tables.configBIdx_eq]
  by_cases even : n % 2 = 0
  · rw [if_pos even, even]
    exact tables.even _ inside
  · have odd : n % 2 = 1 := by omega
    rw [if_neg even, odd]
    exact tables.odd _ inside

/-- One symbol delivers the rows of the pattern and prepares the next symbol. -/
theorem runSymbol_spec
    {b nTs l : Nat}
    (nTsValid : nTs ∈ nTsIdx2NTsVec)
    (waits : WaitsFrom drs b nTs l) :
    (drs.runSymbol l).1 = rowsAt b nTs l ∧
      WaitsFrom (drs.runSymbol l).2 b nTs (l + 1) := by
  have streams := nTs_cases nTsValid
  obtain ⟨group, n, occurrence, first, pointer⟩ := waits.pending
  have config := waits.tables.configNTs_eq
  by_cases due : l = drs.lNext
  · have groupValid := ((groupAt_eq_some nTsValid).mp occurrence).1
    have count : 4 * group + min nTs 4 - 1 + 1 - 4 * group = min nTs 4 := by
      omega
    have rows : (List.range' (4 * group) (min nTs 4)).map
        (fun tsIdx => (tsIdx, drs.getKI.getD (tsIdx % 4) [])) =
          rowsAt b nTs l := by
      unfold rowsAt
      rw [due, occurrence]
      refine List.map_congr_left ?_
      intro t member
      rw [List.mem_range'_1] at member
      rw [getKI_getD waits.tables pointer (by omega)]
    have dueTest : drs.isSymbolIndex l = true := by
      simpa [isSymbolIndex] using due
    unfold runSymbol
    rw [if_pos dueTest]
    simp only [getTsIdxFirst]
    rw [getTsIdxLastAndAdvance_eq nTsValid config occurrence first pointer]
    simp only [first, count]
    refine ⟨rows, ⟨waits.tables.configBIdx_eq, config, waits.tables.even, waits.tables.odd⟩,
      ⟨(nextAfter nTs group n).1, (nextAfter nTs group n).2, ?_, rfl, rfl⟩, ?_, ?_⟩
    · refine (groupAt_eq_some nTsValid).mpr ⟨?_, rfl⟩
      unfold nextAfter
      split <;> omega
    · obtain ⟨-, symbol⟩ := (groupAt_eq_some nTsValid).mp occurrence
      have stepAtLeast := five_le_getNStep nTs
      simp only [nextAfter]
      split
      · simp only
        omega
      · simp only [Nat.succ_mul]
        omega
    · intro other after before
      exact groupAt_between nTsValid occurrence (by omega) before
  · have dueTest : ¬ drs.isSymbolIndex l = true := by
      simpa [isSymbolIndex] using due
    have later := waits.notBefore
    have none := waits.idle l (Nat.le_refl l) (by omega)
    unfold runSymbol
    rw [if_neg dueTest]
    refine ⟨?_, waits.tables, waits.pending, ?_, ?_⟩
    · unfold rowsAt
      rw [none]
    · exact Nat.lt_of_le_of_ne later due
    · intro other after before
      exact waits.idle other (by omega) before

/-- After configuration the iterator waits for the first symbol. -/
theorem setConfiguration_waitsFrom
    {bMax nTsMax b nTs : Nat}
    (bMaxValid : bMax ∈ bIdx2bLut)
    (bValid : b ∈ bIdx2bLut)
    (bInside : b ≤ bMax)
    (nTsValid : nTs ∈ nTsIdx2NTsVec)
    (nTsInside : nTs ≤ nTsMax) :
    WaitsFrom ((create bMax nTsMax).setConfiguration b nTs) b nTs 1 := by
  have inside := b2bIdx_le bValid bMaxValid bInside
  have row : ∀ n, ∀ t < min 4 nTs,
      (((List.range (b2bIdx bMax + 1)).map (fun bIdx =>
        (List.range (min 4 nTsMax)).map (fun t => getKISingle bIdx t n))).getD
          (b2bIdx b) []).getD t [] = carriers b t n := by
    intro n t tInside
    have bIdxInside : b2bIdx b < b2bIdx bMax + 1 := by omega
    have streamInside : t < min 4 nTsMax := by omega
    rw [← getKISingle_eq bValid]
    simp [List.getD, bIdxInside, streamInside]
  refine ⟨⟨rfl, rfl, row 0, row 1⟩, ⟨0, 0, ?_, rfl, rfl⟩, Nat.le_refl 1, ?_⟩
  · exact (groupAt_eq_some nTsValid).mpr ⟨.inl rfl, by simp [setConfiguration]⟩
  · intro other after before
    exact absurd before (Nat.not_lt.mpr after)

end Drs

end DectNrp
