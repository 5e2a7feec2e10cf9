import Mathlib.Data.Fintype.Basic
import Mathlib.Tactic.ByContra

namespace SlotArray

/-!
# Arrays of slots

A container of a fixed capacity keeps its values in slots.  A slot is occupied
or free; a value is stored in the first free slot.  Which slot holds a value
does not matter, so that the container stands for a multiset of values.
-/

variable {Value : Type}
variable {n : Nat}

/-- The values of all slots. -/
def values (slots : Fin n → Value) : Multiset Value :=
  (Finset.univ : Finset (Fin n)).val.map slots

/-- The values of the occupied slots. -/
def held
    (occupied : Value → Bool)
    (slots : Fin n → Value) :
    Multiset Value :=
  (values slots).filter fun value => occupied value = true

/-- The first free slot. -/
def firstFree
    (occupied : Value → Bool)
    (slots : Fin n → Value) :
    Option (Fin n) :=
  (List.finRange n).find? fun idx => !occupied (slots idx)

/-- Keep the earlier of two slots unless the later one has a smaller key. -/
def keepSmaller
    (key : Value → Int)
    (slots : Fin n → Value)
    (least : Option (Fin n))
    (idx : Fin n) :
    Option (Fin n) :=
  match least with
  | none => some idx
  | some other =>
      if key (slots idx) < key (slots other) then some idx else some other

/-- The first slot with the smallest key. -/
def smallest
    (key : Value → Int)
    (slots : Fin n → Value) :
    Option (Fin n) :=
  (List.finRange n).foldl (keepSmaller key slots) none

variable {occupied : Value → Bool}
variable {slots : Fin n → Value}
variable {idx : Fin n}
variable {value : Value}

/-- One slot and the others. -/
theorem values_eq_cons
    (slots : Fin n → Value)
    (idx : Fin n) :
    values slots =
      slots idx ::ₘ
        ((Finset.univ : Finset (Fin n)).val.erase idx).map slots := by
  have isMember : idx ∈ (Finset.univ : Finset (Fin n)).val :=
    Finset.mem_univ_val idx
  rw [values, ← Multiset.map_cons, Multiset.cons_erase isMember]

/-- Only one slot changes if a value is stored. -/
theorem values_update
    (slots : Fin n → Value)
    (idx : Fin n)
    (value : Value) :
    values (Function.update slots idx value) =
      value ::ₘ ((Finset.univ : Finset (Fin n)).val.erase idx).map slots := by
  have others : ((Finset.univ : Finset (Fin n)).val.erase idx).map
      (Function.update slots idx value) =
        ((Finset.univ : Finset (Fin n)).val.erase idx).map slots := by
    refine Multiset.map_congr rfl ?_
    intro other isOther
    have different : other ≠ idx :=
      ((Multiset.Nodup.mem_erase_iff Finset.univ.nodup).mp isOther).1
    rw [Function.update_of_ne different]
  rw [values_eq_cons _ idx, others, Function.update_self]

/-- A value is held if a slot holds it. -/
theorem mem_held :
    value ∈ held occupied slots ↔
      ∃ idx, slots idx = value ∧ occupied value = true := by
  simp [held, values]

/-- The value of one slot counts if it is occupied. -/
theorem filter_occupied_cons
    (occupied : Value → Bool)
    (value : Value)
    (rest : Multiset Value) :
    (value ::ₘ rest).filter (fun value => occupied value = true) =
      if occupied value then
        value ::ₘ rest.filter fun value => occupied value = true
      else rest.filter fun value => occupied value = true := by
  split
  · rename_i isOccupied
    exact Multiset.filter_cons_of_pos rest isOccupied
  · rename_i isFree
    exact Multiset.filter_cons_of_neg rest isFree

/-- Storing a value in a free slot adds it. -/
theorem held_store
    (isFree : occupied (slots idx) = false)
    (isOccupied : occupied value = true) :
    held occupied (Function.update slots idx value) =
      value ::ₘ held occupied slots := by
  rw [held, held, values_update, values_eq_cons slots idx,
    filter_occupied_cons, filter_occupied_cons, isFree, isOccupied]
  rfl

/-- Freeing an occupied slot takes its value away. -/
theorem held_free
    (isOccupied : occupied (slots idx) = true)
    (isFree : occupied value = false) :
    held occupied slots =
      slots idx ::ₘ held occupied (Function.update slots idx value) := by
  rw [held, held, values_update, values_eq_cons slots idx,
    filter_occupied_cons, filter_occupied_cons, isFree, isOccupied]
  rfl

/-- A slot that is found is free. -/
theorem firstFree_isFree (isFirst : firstFree occupied slots = some idx) :
    occupied (slots idx) = false := by
  have isFree := List.find?_some isFirst
  rw [Bool.not_eq_true'] at isFree
  exact isFree

/-- There is a free slot as long as there are fewer values than slots. -/
theorem firstFree_isSome_iff :
    (firstFree occupied slots).isSome = true ↔
      (held occupied slots).card < n := by
  have allValues : (values slots).card = n := by simp [values]
  rw [firstFree, List.find?_isSome, held]
  constructor
  · rintro ⟨idx, -, isFree⟩
    have isValue : slots idx ∈ values slots := by
      rw [values_eq_cons slots idx]
      exact Multiset.mem_cons_self _ _
    have fewer : (values slots).filter (fun value => occupied value = true) <
        values slots := by
      refine lt_of_le_of_ne (Multiset.filter_le _ _) ?_
      intro same
      have isOccupied := Multiset.filter_eq_self.mp same _ isValue
      rw [isOccupied] at isFree
      cases isFree
    exact Nat.lt_of_lt_of_eq (Multiset.card_lt_card fewer) allValues
  · intro fewer
    by_contra noneFree
    have allHeld : (values slots).filter (fun value => occupied value = true) =
        values slots := by
      refine Multiset.filter_eq_self.mpr ?_
      intro value isValue
      obtain ⟨idx, -, rfl⟩ := Multiset.mem_map.mp isValue
      by_contra notOccupied
      exact noneFree ⟨idx, List.mem_finRange idx, by simpa using notOccupied⟩
    rw [allHeld, allValues] at fewer
    exact lt_irrefl _ fewer

theorem keepSmaller_spec
    {key : Value → Int}
    {slots : Fin n → Value}
    {least : Option (Fin n)}
    {visited : List (Fin n)}
    (some_le :
      ∀ idx ∈ visited, ∃ kept,
        least = some kept ∧ key (slots kept) ≤ key (slots idx))
    (next : Fin n) :
    ∀ idx ∈ next :: visited, ∃ kept,
      keepSmaller key slots least next = some kept ∧
        key (slots kept) ≤ key (slots idx) := by
  intro idx isVisited
  unfold keepSmaller
  cases least with
  | none =>
      rcases List.mem_cons.mp isVisited with rfl | isEarlier
      · exact ⟨idx, rfl, Int.le_refl _⟩
      · obtain ⟨kept, isNone, -⟩ := some_le idx isEarlier
        cases isNone
  | some other =>
      have before (isEarlier : idx ∈ visited) :
          key (slots other) ≤ key (slots idx) := by
        obtain ⟨kept, isKept, notGreater⟩ := some_le idx isEarlier
        rw [Option.some.inj isKept]
        exact notGreater
      dsimp only
      split
      · rename_i smaller
        refine ⟨next, rfl, ?_⟩
        rcases List.mem_cons.mp isVisited with rfl | isEarlier
        · exact Int.le_refl _
        · exact Int.le_trans (Int.le_of_lt smaller) (before isEarlier)
      · rename_i notSmaller
        refine ⟨other, rfl, ?_⟩
        rcases List.mem_cons.mp isVisited with rfl | isEarlier
        · exact Int.not_lt.mp notSmaller
        · exact before isEarlier

theorem foldl_keepSmaller_spec
    {key : Value → Int}
    {slots : Fin n → Value}
    {least : Option (Fin n)}
    {visited : List (Fin n)}
    (some_le :
      ∀ idx ∈ visited, ∃ kept,
        least = some kept ∧ key (slots kept) ≤ key (slots idx))
    (rest : List (Fin n)) :
    ∀ idx, idx ∈ visited ∨ idx ∈ rest → ∃ kept,
      rest.foldl (keepSmaller key slots) least = some kept ∧
        key (slots kept) ≤ key (slots idx) := by
  induction rest generalizing least visited with
  | nil =>
      intro idx isVisited
      exact some_le idx (isVisited.resolve_right List.not_mem_nil)
  | cons next rest hypothesis =>
      intro idx isVisited
      refine hypothesis (keepSmaller_spec some_le next) idx ?_
      rcases isVisited with isEarlier | isLater
      · exact .inl (List.mem_cons_of_mem _ isEarlier)
      · rcases List.mem_cons.mp isLater with rfl | isLater
        · exact .inl List.mem_cons_self
        · exact .inr isLater

/-- There is a slot with the smallest key if there is a slot. -/
theorem exists_smallest
    (key : Value → Int)
    (slots : Fin n → Value)
    (idx : Fin n) :
    ∃ least,
      smallest key slots = some least ∧ key (slots least) ≤ key (slots idx) :=
  @foldl_keepSmaller_spec _ _ key slots none [] nofun (List.finRange n) idx
    (.inr (List.mem_finRange idx))

/-- No slot has a smaller key than the smallest one. -/
theorem smallest_le
    {key : Value → Int}
    (isSmallest : smallest key slots = some idx)
    (other : Fin n) :
    key (slots idx) ≤ key (slots other) := by
  obtain ⟨least, isLeast, notGreater⟩ := exists_smallest key slots other
  rw [isSmallest] at isLeast
  rw [Option.some.inj isLeast]
  exact notGreater

end SlotArray
