import DectNrp.ColumnTables
import DectNrp.Octets

namespace DectNrp

open ColumnTables

/-!
# Physical resources

The dimensions of an OFDM symbol are tables indexed by the bandwidth.  A
virtual frame holds one number for each cell of a packet: the linear index of
the cell, or a negative mark if the cell is taken.
-/

namespace Phyres

/-- Values of the bandwidth. -/
def bIdx2bLut : List Nat :=
  [1, 2, 4, 8, 12, 16]

def bIdx2b (bIdx : Nat) : Nat :=
  bIdx2bLut.getD bIdx 0

def b2bIdx (b : Nat) : Nat :=
  [0, 0, 1, 0, 2, 0, 0, 0, 3, 0, 0, 0, 4, 0, 0, 0, 5].getD b 0

def nBDftLut (bIdx : Nat) : Nat :=
  [64, 128, 256, 512, 768, 1024].getD bIdx 0

def nBOccLut (bIdx : Nat) : Nat :=
  [56, 112, 224, 448, 672, 896].getD bIdx 0

def guardsTopLut (bIdx : Nat) : Nat :=
  [3, 7, 15, 31, 47, 63].getD bIdx 0

def guardsBottomLut (bIdx : Nat) : Nat :=
  [4, 8, 16, 32, 48, 64].getD bIdx 0

/-- Numbers of transmit streams. -/
def nTsIdx2NTsVec : List Nat :=
  [1, 2, 4, 8]

def nTs2NTsIdxVec (nTs : Nat) : Nat :=
  [0, 0, 1, 0, 2, 0, 0, 0, 3].getD nTs 0

/-- Numbers of transmit streams up to a maximum, each twice the one before. -/
def streamCounts (nTsMax : Nat) : List Nat :=
  ((List.range 32).map (fun exponent => 2 ^ exponent)).filter (fun nTs => decide (nTs ≤ nTsMax))

/-- Occupied subcarriers of a symbol, the lower half before the upper half. -/
def occupiedRow (nBOcc : Nat) : List Int :=
  (List.range (nBOcc / 2)).map (fun (index : Nat) => (index : Int) - (nBOcc / 2 : Nat)) ++
    (List.range (nBOcc / 2)).map (fun (index : Nat) => (index : Int) + 1)

/-- Occupied subcarriers for each bandwidth. -/
def getKBOccVec : List (List Int) :=
  (List.range 6).map (fun bIdx => occupiedRow (nBOccLut bIdx))

/-- One entry `b_x[b_idx][index]` of the occupied subcarriers. -/
def bX
    (bIdx index : Nat) :
    Int :=
  (getKBOccVec.getD bIdx []).getD index 0

/-- Subcarriers of a symbol that are neither guards nor DC, counted from zero. -/
def occupiedSubcarriers (b : Nat) : List Nat :=
  (getKBOccVec.getD (b2bIdx b) []).map
    (fun (k : Int) => (k + (nBOccLut (b2bIdx b) / 2 : Nat)).toNat)

section Dimensions

variable {b : Nat}

theorem bIdx2b_b2bIdx (bValid : b ∈ bIdx2bLut) :
    bIdx2b (b2bIdx b) = b := by
  revert b
  decide

theorem nBDftLut_b2bIdx (bValid : b ∈ bIdx2bLut) :
    nBDftLut (b2bIdx b) = 64 * b := by
  revert b
  decide

theorem nBOccLut_b2bIdx (bValid : b ∈ bIdx2bLut) :
    nBOccLut (b2bIdx b) = 56 * b := by
  revert b
  decide

theorem guardsTopLut_b2bIdx (bValid : b ∈ bIdx2bLut) :
    guardsTopLut (b2bIdx b) = 4 * b - 1 := by
  revert b
  decide

theorem guardsBottomLut_b2bIdx (bValid : b ∈ bIdx2bLut) :
    guardsBottomLut (b2bIdx b) = 4 * b := by
  revert b
  decide

theorem b2bIdx_lt (bValid : b ∈ bIdx2bLut) :
    b2bIdx b < 6 := by
  revert b
  decide

theorem pos_of_mem_bIdx2bLut (bValid : b ∈ bIdx2bLut) :
    0 < b := by
  revert b
  decide

/-- Larger bandwidths come later in the tables. -/
theorem b2bIdx_le
    {bMax : Nat}
    (bValid : b ∈ bIdx2bLut)
    (bMaxValid : bMax ∈ bIdx2bLut)
    (bounded : b ≤ bMax) :
    b2bIdx b ≤ b2bIdx bMax := by
  have allPairs :
      ∀ b ∈ bIdx2bLut, ∀ bMax ∈ bIdx2bLut, b ≤ bMax → b2bIdx b ≤ b2bIdx bMax := by
    decide
  exact allPairs b bValid bMax bMaxValid bounded

end Dimensions

theorem streamCounts_getElem?
    {nTs nTsMax : Nat}
    (nTsValid : nTs ∈ nTsIdx2NTsVec)
    (nTsMaxValid : nTsMax ∈ nTsIdx2NTsVec)
    (bounded : nTs ≤ nTsMax) :
    (streamCounts nTsMax)[nTs2NTsIdxVec nTs]? = some nTs := by
  have allPairs :
      ∀ nTs ∈ nTsIdx2NTsVec, ∀ nTsMax ∈ nTsIdx2NTsVec, nTs ≤ nTsMax →
        (streamCounts nTsMax)[nTs2NTsIdxVec nTs]? = some nTs := by
    decide
  exact allPairs nTs nTsValid nTsMax nTsMaxValid bounded

theorem streamCounts_mem
    {nTs nTsMax : Nat}
    (nTsMaxValid : nTsMax ∈ nTsIdx2NTsVec)
    (member : nTs ∈ streamCounts nTsMax) :
    nTs ∈ nTsIdx2NTsVec := by
  have allCounts :
      ∀ nTsMax ∈ nTsIdx2NTsVec, ∀ nTs ∈ streamCounts nTsMax, nTs ∈ nTsIdx2NTsVec := by
    decide
  exact allCounts nTsMax nTsMaxValid nTs member

/-- Every index of the tables belongs to a bandwidth. -/
theorem bIdx2b_mem
    {bIdx : Nat}
    (inside : bIdx < 6) :
    bIdx2b bIdx ∈ bIdx2bLut ∧ b2bIdx (bIdx2b bIdx) = bIdx := by
  revert bIdx
  decide

/-- Position of an occupied subcarrier once the DC subcarrier is counted too. -/
def carrier
    (b index : Nat) :
    Nat :=
  if index < 28 * b then index else index + 1

variable {b first second : Nat}

theorem carrier_lt (smaller : first < second) :
    carrier b first < carrier b second := by
  unfold carrier
  split <;> split <;> omega

theorem carrier_injective (same : carrier b first = carrier b second) :
    first = second := by
  unfold carrier at same
  split at same <;> split at same <;> omega

theorem exists_carrier
    {b position : Nat} :
    (∃ index < 56 * b, carrier b index = position) ↔
      position ≤ 56 * b ∧ position ≠ 28 * b ∧ 0 < b := by
  constructor
  · rintro ⟨index, inside, rfl⟩
    unfold carrier
    split <;> omega
  · rintro ⟨inside, notDc, positive⟩
    by_cases lower : position < 28 * b
    · exact ⟨position, by omega, if_pos lower⟩
    · refine ⟨position - 1, by omega, ?_⟩
      unfold carrier
      split <;> omega

theorem getKBOccVec_getD
    {bIdx : Nat}
    (inside : bIdx < 6) :
    getKBOccVec.getD bIdx [] = occupiedRow (nBOccLut bIdx) := by
  simp [getKBOccVec, inside]

/-- The table of occupied subcarriers counts from the middle of the symbol. -/
theorem bX_eq
    {b index : Nat}
    (bValid : b ∈ bIdx2bLut)
    (inside : index < 56 * b) :
    bX (b2bIdx b) index = (carrier b index : Int) - (28 * b : Nat) := by
  have half : nBOccLut (b2bIdx b) / 2 = 28 * b := by
    rw [nBOccLut_b2bIdx bValid]
    omega
  unfold bX carrier
  rw [getKBOccVec_getD (b2bIdx_lt bValid), occupiedRow, half]
  by_cases lower : index < 28 * b
  · simp [lower, List.getElem?_append]
  · have upper : index - 28 * b < 28 * b := by omega
    simp [lower, upper, List.getElem?_append]
    omega

/-- The occupied subcarriers are the carriers in ascending order. -/
theorem occupiedSubcarriers_eq
    {b : Nat}
    (bValid : b ∈ bIdx2bLut) :
    occupiedSubcarriers b = (List.range (56 * b)).map (carrier b) := by
  have half : nBOccLut (b2bIdx b) / 2 = 28 * b := by
    rw [nBOccLut_b2bIdx bValid]
    omega
  have whole : 56 * b = 28 * b + 28 * b := by omega
  unfold occupiedSubcarriers
  rw [getKBOccVec_getD (b2bIdx_lt bValid), occupiedRow, half, whole, List.range_add,
    List.map_append, List.map_append, List.map_map, List.map_map, List.map_map]
  congr 1
  · refine List.map_congr_left ?_
    intro index member
    have inside := List.mem_range.mp member
    simp [carrier, inside]
  · refine List.map_congr_left ?_
    intro index _
    simp [carrier]
    omega

theorem ascending_occupiedSubcarriers
    {b : Nat}
    (bValid : b ∈ bIdx2bLut) :
    Ascending (occupiedSubcarriers b) := by
  rw [occupiedSubcarriers_eq bValid]
  exact (ascending_range _).map (fun _ _ smaller => carrier_lt smaller)

/-- The guards around the occupied subcarriers are as wide as the tables say. -/
theorem mem_occupiedSubcarriers
    {b position : Nat}
    (bValid : b ∈ bIdx2bLut) :
    position ∈ occupiedSubcarriers b ↔ position ≤ 56 * b ∧ position ≠ 28 * b := by
  have positive := pos_of_mem_bIdx2bLut bValid
  rw [occupiedSubcarriers_eq bValid]
  simp only [List.mem_map, List.mem_range]
  rw [exists_carrier]
  constructor
  · exact fun facts => ⟨facts.1, facts.2.1⟩
  · exact fun facts => ⟨facts.1, facts.2, positive⟩

end Phyres

/-- Bounds-checked read of a vector. -/
def elementAt
    {Element : Type}
    (elements : List Element)
    (index : Nat) :
    Checked Element :=
  match elements[index]? with
  | some element => .ok element
  | none => .error (.readBeyond index)

theorem elementAt_eq_ok
    {Element : Type}
    {elements : List Element}
    {index : Nat}
    {element : Element}
    (present : elements[index]? = some element) :
    elementAt elements index = .ok element := by
  simp [elementAt, present]

namespace VirtualFrame

/-- A frame in which each cell holds its linear index. -/
def linear (size : Nat) : List Int :=
  (List.range size).map (fun (cell : Nat) => (cell : Int))

/-- Write a mark into each of the cells. -/
def markCells
    (frame : List Int)
    (cells : List Nat)
    (mark : Int) :
    List Int :=
  cells.foldl (fun marked cell => marked.set cell mark) frame

/-- Linear indices of those cells that carry no mark. -/
def unmarkedCells
    (frame : List Int) :
    List Nat → Checked (List Nat)
  | [] => .ok []
  | cell :: rest => do
      let content ← elementAt frame cell
      let later ← unmarkedCells frame rest
      .ok (if 0 ≤ content then content.toNat :: later else later)

/-- Cells of one column. -/
def columnCells
    (dim column : Nat) :
    List Nat :=
  (List.range dim).map (fun row => column * dim + row)

/-- DC cells of all symbols. -/
def dcCells
    (nPacketSymb nBDft : Nat) :
    List Nat :=
  (List.range nPacketSymb).map (fun l => l * nBDft + nBDft / 2)

/-- Guard cells of all symbols. -/
def guardCells
    (nPacketSymb nBDft guardsBottom guardsTop : Nat) :
    List Nat :=
  (List.range nPacketSymb).flatMap (fun l =>
    (List.range guardsBottom).map (fun row => l * nBDft + row) ++
      (List.range' (nBDft - guardsTop) guardsTop).map (fun row => l * nBDft + row))

/-- The frame before any channel takes cells. -/
def blank
    (nPacketSymb b : Nat) :
    List Int :=
  let bIdx := Phyres.b2bIdx b
  let nBDft := Phyres.nBDftLut bIdx
  let frame := linear (nPacketSymb * nBDft)
  let frame := markCells frame (dcCells nPacketSymb nBDft) (-1)
  markCells frame
    (guardCells nPacketSymb nBDft (Phyres.guardsBottomLut bIdx) (Phyres.guardsTopLut bIdx)) (-2)

/-- Free cells hold their index and the taken ones a negative mark. -/
structure Shows
    (frame : List Int)
    (size : Nat)
    (taken : List Nat) :
    Prop where
  length_eq : frame.length = size
  free : ∀ cell < size, cell ∉ taken → frame[cell]? = some (cell : Int)
  marked : ∀ cell < size, cell ∈ taken → ∃ mark < 0, frame[cell]? = some mark

theorem linear_shows (size : Nat) :
    Shows (linear size) size [] where
  length_eq := by simp [linear]
  free := by
    intro cell inside _
    simp [linear, inside]
  marked := by
    intro cell _ member
    cases member

/-- Marking takes exactly the marked cells in addition. -/
theorem markCells_shows
    {frame : List Int}
    {size : Nat}
    {taken : List Nat}
    {mark : Int}
    (shows_ : Shows frame size taken)
    (negative : mark < 0)
    (cells : List Nat) :
    Shows (markCells frame cells mark) size (taken ++ cells) := by
  induction cells generalizing frame taken with
  | nil => simpa [markCells] using shows_
  | cons head rest hypothesis =>
      have afterHead : Shows (frame.set head mark) size (taken ++ [head]) := by
        refine ⟨by simpa using shows_.length_eq, ?_, ?_⟩
        · intro cell inside free
          simp only [List.mem_append, List.mem_singleton, not_or] at free
          rw [List.getElem?_set_ne (Ne.symm free.2)]
          exact shows_.free cell inside free.1
        · intro cell inside member
          by_cases atHead : head = cell
          · subst atHead
            refine ⟨mark, negative, ?_⟩
            exact List.getElem?_set_self (by rw [shows_.length_eq]; exact inside)
          · rw [List.getElem?_set_ne atHead]
            simp only [List.mem_append, List.mem_singleton] at member
            rcases member with before | rfl
            · exact shows_.marked cell inside before
            · exact absurd rfl atHead
      have afterRest := hypothesis afterHead
      rw [List.append_assoc] at afterRest
      exact afterRest

/-- The unmarked cells are those that nobody took. -/
theorem Shows.unmarkedCells_eq
    {frame : List Int}
    {size : Nat}
    {taken : List Nat}
    (shows_ : Shows frame size taken)
    {cells : List Nat}
    (inside : ∀ cell ∈ cells, cell < size) :
    unmarkedCells frame cells =
      .ok (cells.filter (fun cell => decide (cell ∉ taken))) := by
  induction cells with
  | nil => rfl
  | cons cell rest hypothesis =>
      have later := hypothesis
        (fun other member => inside other (List.mem_cons_of_mem _ member))
      have headInside := inside cell List.mem_cons_self
      by_cases member : cell ∈ taken
      · obtain ⟨mark, negative, read⟩ := shows_.marked cell headInside member
        have notFree : ¬ 0 ≤ mark := by omega
        simp [unmarkedCells, elementAt_eq_ok read, later, member, notFree]
      · have read := shows_.free cell headInside member
        simp [unmarkedCells, elementAt_eq_ok read, later, member]

theorem ascending_columnCells (dim column : Nat) :
    Ascending (columnCells dim column) :=
  (ascending_range dim).map (fun _ _ smaller => Nat.add_lt_add_left smaller _)

/-- Cells of a column inside of the frame lie inside of the frame. -/
theorem columnCells_lt
    {dim column columns : Nat}
    (inside : column < columns) :
    ∀ cell ∈ columnCells dim column, cell < columns * dim := by
  intro cell member
  simp only [columnCells, List.mem_map, List.mem_range] at member
  obtain ⟨row, rowInside, rfl⟩ := member
  have next : (column + 1) * dim ≤ columns * dim := Nat.mul_le_mul_right dim inside
  rw [Nat.succ_mul] at next
  omega

/-- Rows that hold a guard or the DC subcarrier. -/
theorem mem_blankCells
    {nPacketSymb nBDft guardsBottom guardsTop column row : Nat}
    (columnInside : column < nPacketSymb)
    (rowInside : row < nBDft)
    (guardsInside : guardsBottom + guardsTop < nBDft) :
    column * nBDft + row ∈
        dcCells nPacketSymb nBDft ++
          guardCells nPacketSymb nBDft guardsBottom guardsTop ↔
      row = nBDft / 2 ∨ row < guardsBottom ∨ nBDft - guardsTop ≤ row := by
  have halfInside : nBDft / 2 < nBDft := by omega
  simp only [dcCells, guardCells, List.mem_append, List.mem_map, List.mem_flatMap,
    List.mem_range, List.mem_range'_1]
  constructor
  · rintro (⟨l, _, same⟩ | ⟨l, _, ⟨other, otherInside, same⟩ | ⟨other, otherInside, same⟩⟩)
    · exact .inl (linear_injective halfInside rowInside same).2.symm
    · obtain ⟨-, rfl⟩ := linear_injective (by omega) rowInside same
      exact .inr (.inl otherInside)
    · obtain ⟨-, rfl⟩ := linear_injective (by omega) rowInside same
      exact .inr (.inr otherInside.1)
  · rintro (rfl | lower | upper)
    · exact .inl ⟨column, columnInside, rfl⟩
    · exact .inr ⟨column, columnInside, .inl ⟨row, lower, rfl⟩⟩
    · exact .inr ⟨column, columnInside, .inr ⟨row, by omega, rfl⟩⟩

/-- Occupied cells of one symbol. -/
def occupiedCells
    (b l : Nat) :
    List Nat :=
  (Phyres.occupiedSubcarriers b).map (fun k => l * (64 * b) + 4 * b + k)

theorem ascending_occupiedCells
    {b : Nat}
    (bValid : b ∈ Phyres.bIdx2bLut)
    (l : Nat) :
    Ascending (occupiedCells b l) :=
  (Phyres.ascending_occupiedSubcarriers bValid).map
    (fun _ _ smaller => Nat.add_lt_add_left smaller _)

/-- Cells taken by the guards and the DC subcarrier. -/
def blankCells
    (nPacketSymb b : Nat) :
    List Nat :=
  let bIdx := Phyres.b2bIdx b
  dcCells nPacketSymb (Phyres.nBDftLut bIdx) ++
    guardCells nPacketSymb (Phyres.nBDftLut bIdx) (Phyres.guardsBottomLut bIdx)
      (Phyres.guardsTopLut bIdx)

theorem blankCells_eq
    {b : Nat}
    (bValid : b ∈ Phyres.bIdx2bLut)
    (nPacketSymb : Nat) :
    blankCells nPacketSymb b =
      dcCells nPacketSymb (64 * b) ++ guardCells nPacketSymb (64 * b) (4 * b) (4 * b - 1) := by
  simp only [blankCells, Phyres.nBDftLut_b2bIdx bValid, Phyres.guardsTopLut_b2bIdx bValid,
    Phyres.guardsBottomLut_b2bIdx bValid]

theorem blank_shows (nPacketSymb b : Nat) :
    Shows (blank nPacketSymb b) (nPacketSymb * Phyres.nBDftLut (Phyres.b2bIdx b))
      (blankCells nPacketSymb b) := by
  have withDc := markCells_shows
    (linear_shows (nPacketSymb * Phyres.nBDftLut (Phyres.b2bIdx b)))
    (show (-1 : Int) < 0 by decide)
    (dcCells nPacketSymb (Phyres.nBDftLut (Phyres.b2bIdx b)))
  exact markCells_shows withDc (show (-2 : Int) < 0 by decide) _

/-- In the blank frame exactly the occupied cells are free. -/
theorem columnCells_filter_blankCells
    {b nPacketSymb l : Nat}
    (bValid : b ∈ Phyres.bIdx2bLut)
    (inside : l < nPacketSymb) :
    (columnCells (Phyres.nBDftLut (Phyres.b2bIdx b)) l).filter
        (fun cell => decide (cell ∉ blankCells nPacketSymb b)) =
      occupiedCells b l := by
  have positive := Phyres.pos_of_mem_bIdx2bLut bValid
  rw [Phyres.nBDftLut_b2bIdx bValid, blankCells_eq bValid]
  refine ((ascending_columnCells _ _).filter _).eq_of_mem_iff
    (ascending_occupiedCells bValid l) ?_
  intro cell
  simp only [List.mem_filter, decide_eq_true_eq, columnCells, occupiedCells, List.mem_map,
    List.mem_range, Phyres.mem_occupiedSubcarriers bValid]
  constructor
  · rintro ⟨⟨row, rowInside, rfl⟩, free⟩
    rw [mem_blankCells inside rowInside (by omega)] at free
    exact ⟨row - 4 * b, by omega, by omega⟩
  · rintro ⟨k, ⟨kInside, notDc⟩, rfl⟩
    have shifted : l * (64 * b) + 4 * b + k = l * (64 * b) + (4 * b + k) := by
      omega
    refine ⟨⟨4 * b + k, by omega, shifted.symm⟩, ?_⟩
    rw [shifted, mem_blankCells inside (by omega) (by omega)]
    omega

end VirtualFrame

end DectNrp
