import Mathlib.Data.List.Range
import Mathlib.Data.Prod.Lex
import Mathlib.Tactic.Ring

namespace PairNumbering

/-!
# Numbering of pairs

The cells of a table are numbered row by row.  The rows may differ in size, and
a row starts behind all cells of the rows in front of it.

Pairs of different numbers below a bound, the smaller number first, make up such
a table: the row of a pair is its smaller number.
-/

/-- Number of cells in front of a row. -/
def offset (size : Nat → Nat) : Nat → Nat
  | 0 => 0
  | row + 1 => offset size row + size row

theorem flatMap_offset
    (size : Nat → Nat)
    (rows : Nat) :
    ((List.range rows).flatMap fun row =>
        (List.range (size row)).map fun column => offset size row + column) =
      List.range (offset size rows) := by
  induction rows with
  | zero => rfl
  | succ rows hypothesis =>
      rw [List.range_succ, List.flatMap_append, hypothesis,
        List.flatMap_singleton, offset, List.range_add]

/-- Pairs of different numbers below a bound, the smaller number first. -/
def pairs (bound : Nat) : List (Nat × Nat) :=
  (List.range (bound - 1)).flatMap fun i =>
    (List.range' (i + 1) (bound - 1 - i)).map fun j => (i, j)

/-- A number is the smaller one of as many pairs as there are larger ones. -/
def larger (bound i : Nat) : Nat := bound - 1 - i

/-- Number of a pair among all pairs. -/
def number (bound : Nat) (pair : Nat × Nat) : Nat :=
  offset (larger bound) pair.1 + (pair.2 - pair.1 - 1)

variable {bound i j : Nat}

/-- Exactly the sorted pairs are listed. -/
theorem mem_pairs :
    (i, j) ∈ pairs bound ↔ i < j ∧ j < bound := by
  unfold pairs
  rw [List.mem_flatMap]
  constructor
  · rintro ⟨row, -, member⟩
    obtain ⟨column, inRow, same⟩ := List.mem_map.mp member
    cases same
    have inside := List.mem_range'_1.mp inRow
    omega
  · rintro ⟨sorted, below⟩
    refine ⟨i, List.mem_range.mpr (by omega), ?_⟩
    exact List.mem_map.mpr ⟨j, List.mem_range'_1.mpr (by omega), rfl⟩

/-- The pairs are listed in lexicographic order. -/
theorem pairs_sorted (bound : Nat) :
    (pairs bound).Pairwise (Prod.Lex (· < ·) (· < ·)) := by
  unfold pairs
  rw [List.pairwise_flatMap]
  constructor
  · intro row _
    rw [List.pairwise_map]
    refine (@List.pairwise_lt_range' (row + 1) (bound - 1 - row) 1
        Nat.one_pos).imp ?_
    intro first second less
    exact Prod.Lex.right row less
  · refine List.pairwise_lt_range.imp ?_
    intro row later less first inRow second inLater
    obtain ⟨_, -, rfl⟩ := List.mem_map.mp inRow
    obtain ⟨_, -, rfl⟩ := List.mem_map.mp inLater
    exact Prod.Lex.left _ _ less

/-- The pairs have consecutive numbers. -/
theorem pairs_number (bound : Nat) :
    (pairs bound).map (number bound) =
      List.range (offset (larger bound) (bound - 1)) := by
  rw [← flatMap_offset]
  unfold pairs
  rw [List.map_flatMap]
  refine List.flatMap_congr ?_
  intro row _
  rw [List.map_map, List.range'_eq_map_range, List.map_map]
  refine List.map_congr_left ?_
  intro column _
  unfold number
  dsimp only [Function.comp_apply]
  omega

/-- The offset of a row as a sum of consecutive numbers. -/
theorem two_mul_offset (inside : i ≤ bound) :
    2 * offset (larger bound) i + i + i * i = 2 * bound * i := by
  induction i with
  | zero => rfl
  | succ i hypothesis =>
      have earlier := hypothesis (by omega)
      obtain ⟨rest, rfl⟩ := Nat.exists_eq_add_of_le inside
      have isLarger : larger (i + 1 + rest) i = rest := by
        unfold larger
        omega
      rw [offset, isLarger]
      calc
        2 * (offset (larger (i + 1 + rest)) i + rest) + (i + 1) +
            (i + 1) * (i + 1) =
            2 * offset (larger (i + 1 + rest)) i + i + i * i +
              2 * (i + 1 + rest) := by
          ring
        _ = 2 * (i + 1 + rest) * (i + 1) := by
          rw [earlier]
          ring

/-- A pair is numbered before the pairs of the next row. -/
theorem number_lt
    (sorted : i < j)
    (below : j < bound) :
    number bound (i, j) < offset (larger bound) (bound - 1) := by
  have member :=
    List.mem_map_of_mem (mem_pairs.mpr ⟨sorted, below⟩) (f := number bound)
  rw [pairs_number] at member
  exact List.mem_range.mp member

end PairNumbering
