import DectNrp.PairNumbering
import DectNrp.VirtualSpace

namespace DectNrp

/-!
# Edges of a complete graph

Every pair of simulators has a channel of its own, which is found by the index
of the edge between both.  The index is computed with unsigned words.  As long
as the square of the number of vertices is small, no result is wrapped on the
way, so that the index is the number of the pair in lexicographic order.
-/

open Checked (bind_eq_ok ok_bind)

namespace Simulation

open PairNumbering (number offset larger mem_pairs pairs pairs_number)

/-- An exact result, which has to be a word. -/
def unwrapped (value : Int) : Checked Int :=
  if 0 ≤ value ∧ value < 2 ^ 32 then
    .ok value
  else
    .error (.assertion "unsigned wrap")

/-- The number of edges, with exact results in the order of the words. -/
def exactNofEdges (nofVertices : Int) : Checked Int := do
  let others ← unwrapped (nofVertices - 1)
  let product ← unwrapped (nofVertices * others)
  unwrapped (product / 2)

/-- The index of an edge between sorted vertices, with exact results. -/
def exactEdgeIndex (nofVertices A B : Int) : Checked Int := do
  let double ← unwrapped (2 * nofVertices)
  let product ← unwrapped (double * A)
  let difference ← unwrapped (product - A)
  let square ← unwrapped (A * A)
  let doubled ← unwrapped (difference - square)
  let inFront ← unwrapped (doubled / 2)
  let behind ← unwrapped (inFront + B)
  let between ← unwrapped (behind - A)
  unwrapped (between - 1)

theorem unwrapped_eq_ok
    {value : Int}
    (notNegative : 0 ≤ value)
    (fits : value < 2 ^ 32) :
    unwrapped value = .ok value :=
  if_pos ⟨notNegative, fits⟩

theorem unwrapped_spec
    {value exact : Int}
    (isExact : unwrapped value = .ok exact) :
    exact = value ∧ 0 ≤ value ∧ value < 2 ^ 32 := by
  unfold unwrapped at isExact
  split at isExact
  · rename_i inRange
    cases isExact
    exact ⟨rfl, inRange⟩
  · cases isExact

section Words

variable {x y : UInt32}
variable {a b exact : Int}

theorem toNat_add_of_unwrapped
    (isFirst : (x.toNat : Int) = a)
    (isSecond : (y.toNat : Int) = b)
    (isExact : unwrapped (a + b) = .ok exact) :
    ((x + y).toNat : Int) = exact := by
  obtain ⟨rfl, -, fits⟩ := unwrapped_spec isExact
  rw [UInt32.toNat_add]
  omega

theorem toNat_sub_of_unwrapped
    (isFirst : (x.toNat : Int) = a)
    (isSecond : (y.toNat : Int) = b)
    (isExact : unwrapped (a - b) = .ok exact) :
    ((x - y).toNat : Int) = exact := by
  obtain ⟨rfl, notNegative, -⟩ := unwrapped_spec isExact
  have below := x.toNat_lt
  rw [UInt32.toNat_sub]
  omega

theorem toNat_mul_of_unwrapped
    (isFirst : (x.toNat : Int) = a)
    (isSecond : (y.toNat : Int) = b)
    (isExact : unwrapped (a * b) = .ok exact) :
    ((x * y).toNat : Int) = exact := by
  obtain ⟨rfl, -, fits⟩ := unwrapped_spec isExact
  rw [← isFirst, ← isSecond] at fits ⊢
  have small : x.toNat * y.toNat < 2 ^ 32 := by exact_mod_cast fits
  rw [UInt32.toNat_mul, Nat.mod_eq_of_lt small]
  push_cast
  rfl

theorem toNat_half_of_unwrapped
    (isFirst : (x.toNat : Int) = a)
    (isExact : unwrapped (a / 2) = .ok exact) :
    ((x / 2).toNat : Int) = exact := by
  obtain ⟨rfl, -, -⟩ := unwrapped_spec isExact
  have isHalf : (x / 2).toNat = x.toNat / 2 := UInt32.toNat_div x 2
  omega

end Words

theorem completeGraphNofEdges_of_exact
    {nofVertices : UInt32}
    {edges : Int}
    (isExact : exactNofEdges nofVertices.toNat = .ok edges) :
    ((completeGraphNofEdges nofVertices).toNat : Int) = edges := by
  obtain ⟨others, isOthers, isExact⟩ := bind_eq_ok.mp isExact
  obtain ⟨product, isProduct, isExact⟩ := bind_eq_ok.mp isExact
  have others := @toNat_sub_of_unwrapped nofVertices 1 _ 1 _ rfl rfl isOthers
  have product := toNat_mul_of_unwrapped rfl others isProduct
  exact toNat_half_of_unwrapped product isExact

theorem toNat_edgeIndex_of_exact
    {nofVertices A B : UInt32}
    {edge : Int}
    (isExact : exactEdgeIndex nofVertices.toNat A.toNat B.toNat = .ok edge) :
    (((2 * nofVertices * A - A - A * A) / 2 + B - A - 1).toNat : Int) =
      edge := by
  obtain ⟨_, isDouble, isExact⟩ := bind_eq_ok.mp isExact
  obtain ⟨_, isProduct, isExact⟩ := bind_eq_ok.mp isExact
  obtain ⟨_, isDifference, isExact⟩ := bind_eq_ok.mp isExact
  obtain ⟨_, isSquare, isExact⟩ := bind_eq_ok.mp isExact
  obtain ⟨_, isDoubled, isExact⟩ := bind_eq_ok.mp isExact
  obtain ⟨_, isInFront, isExact⟩ := bind_eq_ok.mp isExact
  obtain ⟨_, isBehind, isExact⟩ := bind_eq_ok.mp isExact
  obtain ⟨_, isBetween, isExact⟩ := bind_eq_ok.mp isExact
  have double := @toNat_mul_of_unwrapped 2 nofVertices 2 _ _ rfl rfl isDouble
  have product := toNat_mul_of_unwrapped double rfl isProduct
  have difference := toNat_sub_of_unwrapped product rfl isDifference
  have square := toNat_mul_of_unwrapped rfl rfl isSquare
  have doubled := toNat_sub_of_unwrapped difference square isDoubled
  have inFront := toNat_half_of_unwrapped doubled isInFront
  have behind := toNat_add_of_unwrapped inFront rfl isBehind
  have between := toNat_sub_of_unwrapped behind rfl isBetween
  exact @toNat_sub_of_unwrapped _ 1 _ 1 _ between rfl isExact

section Pairs

variable {n A B : Nat}

/-- No result is wrapped for the number of edges. -/
theorem exactNofEdges_eq
    (positive : 0 < n)
    (small : n * n < 2 ^ 31) :
    exactNofEdges n = .ok (offset (larger n) (n - 1) : Nat) := by
  obtain ⟨m, rfl⟩ := Nat.exists_eq_add_of_lt positive
  rw [Nat.zero_add] at small ⊢
  have doubled := @PairNumbering.two_mul_offset (m + 1) m (Nat.le_succ m)
  rw [Nat.add_sub_cancel]
  have isProduct :
      ((m + 1 : Nat) : Int) * m = 2 * offset (larger (m + 1)) m := by
    have same : (m + 1) * m = 2 * offset (larger (m + 1)) m := by
      have sum : 2 * offset (larger (m + 1)) m + (m + m * m) =
          (m + 1) * m + (m + m * m) := by
        rw [← Nat.add_assoc, doubled]
        ring
      exact (Nat.add_right_cancel sum).symm
    exact_mod_cast same
  have fits : ((m + 1 : Nat) : Int) * m < 2 ^ 31 := by
    have below : (m + 1) * m ≤ (m + 1) * (m + 1) :=
      Nat.mul_le_mul_left _ (Nat.le_succ m)
    exact_mod_cast Nat.lt_of_le_of_lt below small
  have isOthers : ((m + 1 : Nat) : Int) - 1 = m := by omega
  have few : m < 2 ^ 31 := by
    have below := Nat.le_mul_self (m + 1)
    omega
  unfold exactNofEdges
  rw [isOthers, unwrapped_eq_ok (by omega) (by omega), ok_bind,
    unwrapped_eq_ok (by omega) (by omega), ok_bind,
    unwrapped_eq_ok (by omega) (by omega), isProduct]
  congr 1
  omega

/-- No result is wrapped for the index, which is the number of the pair. -/
theorem exactEdgeIndex_eq
    (sorted : A < B)
    (below : B < n)
    (small : n * n < 2 ^ 31) :
    exactEdgeIndex n A B = .ok (number n (A, B) : Nat) := by
  have doubled :
      2 * (n : Int) * A = 2 * offset (larger n) A + A + (A : Int) * A := by
    exact_mod_cast (@PairNumbering.two_mul_offset n A (by omega)).symm
  have fits : 2 * (n : Int) * A < 2 ^ 32 := by
    have least : 2 * n * A ≤ 2 * (n * n) := by
      rw [Nat.mul_assoc]
      exact Nat.mul_le_mul_left 2 (Nat.mul_le_mul_left n (by omega))
    have inWord : 2 * n * A < 2 ^ 32 := by omega
    exact_mod_cast inWord
  have square : 0 ≤ (A : Int) * A :=
    Int.mul_nonneg (Int.natCast_nonneg A) (Int.natCast_nonneg A)
  have few : n < 2 ^ 31 := Nat.lt_of_le_of_lt (Nat.le_mul_self n) small
  have half : (2 * (offset (larger n) A : Int) + A + (A : Int) * A - A -
      (A : Int) * A) / 2 = offset (larger n) A := by
    omega
  unfold exactEdgeIndex number
  dsimp only
  rw [unwrapped_eq_ok (by omega) (by omega), ok_bind,
    unwrapped_eq_ok (by omega) (by omega), ok_bind,
    unwrapped_eq_ok (by omega) (by omega), ok_bind,
    unwrapped_eq_ok (by omega) (by omega), ok_bind,
    unwrapped_eq_ok (by omega) (by omega), ok_bind, doubled, half,
    unwrapped_eq_ok (by omega) (by omega), ok_bind,
    unwrapped_eq_ok (by omega) (by omega), ok_bind,
    unwrapped_eq_ok (by omega) (by omega), ok_bind,
    unwrapped_eq_ok (by omega) (by omega)]
  congr 1
  omega

end Pairs

section Graph

variable {nofVertices : UInt32}

theorem completeGraphSortedEdgeIndex_comm (nofVertices vidx0 vidx1 : UInt32) :
    completeGraphSortedEdgeIndex nofVertices vidx0 vidx1 =
      completeGraphSortedEdgeIndex nofVertices vidx1 vidx0 := by
  unfold completeGraphSortedEdgeIndex
  rw [bne_comm]
  by_cases same : vidx0 = vidx1
  · rw [same]
  · rcases UInt32.lt_or_lt_of_ne same with less | greater
    · rw [if_pos less, if_pos less, if_neg (UInt32.lt_asymm less),
        if_neg (UInt32.lt_asymm less)]
    · rw [if_pos greater, if_pos greater,
        if_neg (UInt32.lt_asymm greater), if_neg (UInt32.lt_asymm greater)]

/-- There are as many edges as pairs. -/
theorem toNat_completeGraphNofEdges
    (positive : 0 < nofVertices.toNat)
    (small : nofVertices.toNat * nofVertices.toNat < 2 ^ 31) :
    (completeGraphNofEdges nofVertices).toNat =
      offset (larger nofVertices.toNat) (nofVertices.toNat - 1) := by
  have isExact :=
    completeGraphNofEdges_of_exact (exactNofEdges_eq positive small)
  exact_mod_cast isExact

/-- The index of an edge is the number of its pair. -/
theorem completeGraphSortedEdgeIndex_eq
    {i j : Nat}
    (sorted : i < j)
    (below : j < nofVertices.toNat)
    (small : nofVertices.toNat * nofVertices.toNat < 2 ^ 31) :
    completeGraphSortedEdgeIndex nofVertices (UInt32.ofNat i)
        (UInt32.ofNat j) =
      .ok (UInt32.ofNat (number nofVertices.toNat (i, j))) := by
  have inWord := nofVertices.toNat_lt
  have isI : (UInt32.ofNat i).toNat = i := by
    rw [UInt32.toNat_ofNat']
    omega
  have isJ : (UInt32.ofNat j).toNat = j := by
    rw [UInt32.toNat_ofNat']
    omega
  have less : UInt32.ofNat i < UInt32.ofNat j := by
    rw [UInt32.lt_iff_toNat_lt, isI, isJ]
    exact sorted
  have different : (UInt32.ofNat i != UInt32.ofNat j) = true :=
    bne_iff_ne.mpr (UInt32.ne_of_lt less)
  have isExact :=
    @toNat_edgeIndex_of_exact nofVertices (UInt32.ofNat i)
      (UInt32.ofNat j) (number nofVertices.toNat (i, j) : Nat)
      (by
        rw [isI, isJ]
        exact exactEdgeIndex_eq sorted below small)
  unfold completeGraphSortedEdgeIndex
  rw [different, dectnrpAssert_true, ok_bind, if_pos less,
    if_pos less, Checked.pure_eq_ok]
  rw [← Int.natCast_inj.mp isExact, UInt32.ofNat_toNat]

open Vspace (sortedPairs createEdge wchannelGenerateGraph)

variable {earlier later : List (Nat × Nat)}

/-- The pairs in front of a pair are counted by its number. -/
theorem number_eq_length
    {n i j : Nat}
    (split : sortedPairs n = earlier ++ (i, j) :: later) :
    number n (i, j) = earlier.length := by
  have isPairs : pairs n = earlier ++ (i, j) :: later := split
  have isAt : ((pairs n).map (number n))[earlier.length]? =
      some (number n (i, j)) := by
    rw [isPairs, List.getElem?_map, List.getElem?_append_right le_rfl,
      Nat.sub_self, List.getElem?_cons_zero, Option.map_some]
  rw [pairs_number] at isAt
  obtain ⟨inside, isNumber⟩ := List.getElem?_eq_some_iff.mp isAt
  rw [List.getElem_range] at isNumber
  exact isNumber.symm

theorem createEdge_eq
    (small : nofVertices.toNat * nofVertices.toNat < 2 ^ 31)
    {i j : Nat}
    (split : sortedPairs nofVertices.toNat = earlier ++ (i, j) :: later) :
    createEdge nofVertices
        (earlier.map fun pair => ⟨pair.1, pair.2⟩) (i, j) =
      .ok ((earlier ++ [(i, j)]).map fun pair => ⟨pair.1, pair.2⟩) := by
  have listed : (i, j) ∈ pairs nofVertices.toNat := by
    have member : (i, j) ∈ sortedPairs nofVertices.toNat := by
      rw [split]
      exact List.mem_append_right earlier List.mem_cons_self
    exact member
  obtain ⟨sorted, below⟩ := mem_pairs.mp listed
  have isEdge := completeGraphSortedEdgeIndex_eq sorted below small
  have inFront := PairNumbering.number_lt sorted below
  rw [← toNat_completeGraphNofEdges (by omega) small,
    number_eq_length split] at inFront
  rw [number_eq_length split] at isEdge
  have inWord := (completeGraphNofEdges nofVertices).toNat_lt
  have isIndex : (UInt32.ofNat earlier.length).toNat = earlier.length := by
    rw [UInt32.toNat_ofNat']
    omega
  unfold createEdge
  dsimp only
  rw [completeGraphSortedEdgeIndex_comm nofVertices (UInt32.ofNat j),
    isEdge, ok_bind, ok_bind, isIndex, List.length_map,
    beq_self_eq_true, Bool.and_self, dectnrpAssert_true, ok_bind,
    if_neg (Nat.not_le.mpr inFront), List.map_append]
  rfl

theorem foldlM_createEdge_eq
    (small : nofVertices.toNat * nofVertices.toNat < 2 ^ 31)
    {earlier later : List (Nat × Nat)}
    (split : sortedPairs nofVertices.toNat = earlier ++ later) :
    later.foldlM (createEdge nofVertices)
        (earlier.map fun pair => ⟨pair.1, pair.2⟩) =
      .ok
        ((sortedPairs nofVertices.toNat).map fun pair =>
          ⟨pair.1, pair.2⟩) := by
  induction later generalizing earlier with
  | nil =>
      rw [split, List.append_nil]
      rfl
  | cons pair later hypothesis =>
      have splitBehind :
          sortedPairs nofVertices.toNat = (earlier ++ [pair]) ++ later := by
        rw [split, List.append_assoc]
        rfl
      rw [List.foldlM_cons, createEdge_eq small split, ok_bind]
      exact hypothesis splitBehind

theorem wchannelGenerateGraph_eq
    (positive : 0 < nofVertices.toNat)
    (small : nofVertices.toNat * nofVertices.toNat < 2 ^ 31) :
    wchannelGenerateGraph nofVertices =
      .ok
        ((sortedPairs nofVertices.toNat).map fun pair =>
          ⟨pair.1, pair.2⟩) := by
  have created :=
    @foldlM_createEdge_eq nofVertices small []
      (sortedPairs nofVertices.toNat) rfl
  rw [List.map_nil] at created
  have isLength : (sortedPairs nofVertices.toNat).length =
      (completeGraphNofEdges nofVertices).toNat := by
    have numbered := congrArg List.length (pairs_number nofVertices.toNat)
    rw [List.length_map, List.length_range] at numbered
    rw [toNat_completeGraphNofEdges positive small]
    exact numbered
  unfold wchannelGenerateGraph
  rw [created, ok_bind, List.length_map, isLength,
    beq_self_eq_true, dectnrpAssert_true, ok_bind,
    Checked.pure_eq_ok]

/--
The index of an edge does not depend on the order of its vertices.  In
lexicographic order, the pairs have all indices in increasing order.  Words and
exact results are the same, and every pair gets a channel of its own.
-/
structure NumbersEdges (nofVertices : UInt32) : Prop where
  symmetric :
    ∀ vidx0 vidx1,
      completeGraphSortedEdgeIndex nofVertices vidx0 vidx1 =
        completeGraphSortedEdgeIndex nofVertices vidx1 vidx0
  listed :
    ∀ i j,
      (i, j) ∈ sortedPairs nofVertices.toNat ↔
        i < j ∧ j < nofVertices.toNat
  lexicographic :
    (sortedPairs nofVertices.toNat).Pairwise (Prod.Lex (· < ·) (· < ·))
  inOrder :
    ((sortedPairs nofVertices.toNat).map fun pair =>
        completeGraphSortedEdgeIndex nofVertices (UInt32.ofNat pair.1)
          (UInt32.ofNat pair.2)) =
      (List.range (completeGraphNofEdges nofVertices).toNat).map
        fun edge => .ok (UInt32.ofNat edge)
  exactCount :
    exactNofEdges nofVertices.toNat =
      .ok (completeGraphNofEdges nofVertices).toNat
  exactIndex :
    ∀ i j, i < j → j < nofVertices.toNat →
      ∃ index,
        completeGraphSortedEdgeIndex nofVertices (UInt32.ofNat i)
            (UInt32.ofNat j) =
          .ok index ∧
        exactEdgeIndex nofVertices.toNat i j = .ok index.toNat
  ownChannels :
    wchannelGenerateGraph nofVertices =
      .ok
        ((sortedPairs nofVertices.toNat).map fun pair =>
          ⟨pair.1, pair.2⟩)

/-- The edges of a complete graph are numbered in lexicographic order. -/
theorem completeGraphSortedEdgeIndex_numbersEdges
    (several : 2 ≤ nofVertices.toNat)
    (small : nofVertices.toNat * nofVertices.toNat < 2 ^ 31) :
    NumbersEdges nofVertices := by
  have positive : 0 < nofVertices.toNat := by
    omega
  have isCount := toNat_completeGraphNofEdges positive small
  refine
    { symmetric := completeGraphSortedEdgeIndex_comm nofVertices
      listed := fun _ _ => mem_pairs
      lexicographic := PairNumbering.pairs_sorted _
      inOrder := ?_
      exactCount := ?_
      exactIndex := ?_
      ownChannels := wchannelGenerateGraph_eq positive small }
  · rw [isCount, ← pairs_number, List.map_map]
    refine List.map_congr_left ?_
    rintro ⟨i, j⟩ member
    obtain ⟨sorted, below⟩ := mem_pairs.mp member
    exact completeGraphSortedEdgeIndex_eq sorted below small
  · rw [isCount]
    exact exactNofEdges_eq positive small
  · intro i j sorted below
    refine
      ⟨_, completeGraphSortedEdgeIndex_eq sorted below small, ?_⟩
    have inFront := PairNumbering.number_lt sorted below
    rw [← isCount] at inFront
    have inWord := (completeGraphNofEdges nofVertices).toNat_lt
    rw [exactEdgeIndex_eq sorted below small, UInt32.toNat_ofNat',
      Nat.mod_eq_of_lt (by omega)]

/-- Four simulators have six channels. -/
theorem completeGraphSortedEdgeIndex_numbersEdges_fourVertices :
    NumbersEdges 4 :=
  completeGraphSortedEdgeIndex_numbersEdges (by decide) (by decide)

end Graph

end Simulation

end DectNrp
