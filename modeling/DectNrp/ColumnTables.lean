import Mathlib.Data.List.Sort
import Mathlib.Tactic.Ring
import Mathlib.Data.List.Dedup

namespace DectNrp

/-!
# Columns of linear indices

A list of linear indices is cut into columns by a key.  This module compares
ways to do so: one column is selected by its key, neighbouring items of one key
are grouped, and a table of finitely many columns is continued periodically.

Everything is stated for arbitrary items and keys.
-/

namespace ColumnTables

variable {Item Value : Type}

/-- The indices increase from each to the next. -/
def Ascending (indices : List Nat) : Prop :=
  indices.Pairwise (· < ·)

/-- Ascending lists with the same members are the same list. -/
theorem Ascending.eq_of_mem_iff
    {first second : List Nat}
    (firstAscending : Ascending first)
    (secondAscending : Ascending second)
    (sameMembers : ∀ index, index ∈ first ↔ index ∈ second) :
    first = second :=
  List.Pairwise.eq_of_mem_iff firstAscending secondAscending sameMembers

variable {indices : List Nat}

theorem Ascending.nodup (ascending : Ascending indices) :
    indices.Nodup :=
  ascending.imp (fun smaller => Nat.ne_of_lt smaller)

theorem Ascending.filter
    (ascending : Ascending indices)
    (select : Nat → Bool) :
    Ascending (indices.filter select) :=
  List.Pairwise.filter select ascending

theorem ascending_range (count : Nat) :
    Ascending (List.range count) :=
  List.pairwise_lt_range

theorem ascending_range' (start count : Nat) :
    Ascending (List.range' start count) :=
  List.pairwise_lt_range'

/-- A strictly increasing function keeps a list ascending. -/
theorem Ascending.map
    {transform : Nat → Nat}
    (ascending : Ascending indices)
    (increasing : ∀ first second, first < second → transform first < transform second) :
    Ascending (indices.map transform) := by
  refine List.pairwise_map.mpr ?_
  exact List.Pairwise.imp (fun {first second} smaller => increasing first second smaller) ascending

/-- No member exceeds the last one. -/
theorem Ascending.le_getLast
    (ascending : Ascending indices)
    (nonempty : indices ≠ [])
    {index : Nat}
    (member : index ∈ indices) :
    index ≤ indices.getLast nonempty := by
  induction indices with
  | nil => cases member
  | cons head rest hypothesis =>
      obtain ⟨headBelow, restAscending⟩ := List.pairwise_cons.mp ascending
      by_cases restEmpty : rest = []
      · subst restEmpty
        simpa using Nat.le_of_eq (List.mem_singleton.mp member)
      · rw [List.getLast_cons restEmpty]
        rcases List.mem_cons.mp member with atHead | inRest
        · have below := headBelow _ (List.getLast_mem restEmpty)
          omega
        · exact hypothesis restAscending restEmpty inRest

/-- What remains after removing listed members is short by their number. -/
theorem length_filter_not_mem
    {all removed : List Nat}
    (allNodup : all.Nodup)
    (removedNodup : removed.Nodup)
    (inside : ∀ index ∈ removed, index ∈ all) :
    (all.filter (fun index => decide (index ∉ removed))).length + removed.length =
      all.length := by
  have same :
      (all.filter (fun index => decide (index ∈ removed))).Perm removed := by
    refine (List.perm_ext_iff_of_nodup (allNodup.filter _) removedNodup).mpr ?_
    intro index
    simp only [List.mem_filter, decide_eq_true_eq]
    exact ⟨fun both => both.2, fun member => ⟨inside index member, member⟩⟩
  have split := List.length_eq_length_filter_add
    (l := all) (fun index => decide (index ∈ removed))
  rw [same.length_eq] at split
  simp only [decide_not]
  omega

/-- A linear index determines its column. -/
theorem linear_div
    {dim row : Nat}
    (inside : row < dim)
    (column : Nat) :
    (column * dim + row) / dim = column := by
  rw [Nat.mul_comm, Nat.mul_add_div (by omega), Nat.div_eq_of_lt inside, Nat.add_zero]

/-- A linear index determines its column and its row. -/
theorem linear_injective
    {dim column row otherColumn otherRow : Nat}
    (inside : row < dim)
    (otherInside : otherRow < dim)
    (same : column * dim + row = otherColumn * dim + otherRow) :
    column = otherColumn ∧ row = otherRow := by
  have columns : column = otherColumn := by
    rw [← linear_div inside column, same, linear_div otherInside]
  subst columns
  exact ⟨rfl, by omega⟩

variable {key : Item → Nat}

/-- Selecting the items of a key from blocks that each have one key. -/
theorem filter_flatMap_of_key
    {Block : Type}
    (blockKey : Block → Nat)
    {items : Block → List Item}
    (wanted : Nat)
    (blocks : List Block)
    (keyed : ∀ block ∈ blocks, ∀ item ∈ items block, key item = blockKey block) :
    (blocks.flatMap items).filter (fun item => decide (key item = wanted)) =
      (blocks.filter (fun block => decide (blockKey block = wanted))).flatMap items := by
  induction blocks with
  | nil => rfl
  | cons block rest hypothesis =>
      have restKeyed := hypothesis
        (fun other member => keyed other (List.mem_cons_of_mem _ member))
      have headKeyed := keyed block List.mem_cons_self
      rw [List.flatMap_cons, List.filter_append, restKeyed]
      by_cases chosen : blockKey block = wanted
      · have whole :
            (items block).filter (fun item => decide (key item = wanted)) = items block := by
          refine List.filter_eq_self.mpr ?_
          intro item member
          simpa using (headKeyed item member).trans chosen
        simp [whole, chosen]
      · have none :
            (items block).filter (fun item => decide (key item = wanted)) = [] := by
          refine List.filter_eq_nil_iff.mpr ?_
          intro item member
          simpa [headKeyed item member] using chosen
        simp [none, chosen]

/-- Selecting a condition that only one member satisfies. -/
theorem Ascending.filter_eq_singleton
    {select : Nat → Bool}
    {chosen : Nat}
    (ascending : Ascending indices)
    (member : chosen ∈ indices)
    (unique : ∀ index, select index = true ↔ index = chosen) :
    indices.filter select = [chosen] := by
  refine (ascending.filter select).eq_of_mem_iff (List.pairwise_singleton _ _) ?_
  intro index
  simp only [List.mem_filter, unique, List.mem_singleton]
  constructor
  · exact fun both => both.2
  · rintro rfl
    exact ⟨member, rfl⟩

/-- Keys at which a new group begins after a group of a given key. -/
def newKeys
    (key : Item → Nat)
    (back : Nat) :
    List Item → List Nat
  | [] => []
  | item :: rest =>
      if key item ≠ back then
        key item :: newKeys key (key item) rest
      else
        newKeys key back rest

/-- Values of neighbouring items of one key, after a group that has begun. -/
def groups
    (key : Item → Nat)
    (value : Item → Value)
    (back : Nat)
    (group : List Value) :
    List Item → List (List Value)
  | [] => [group]
  | item :: rest =>
      if key item ≠ back then
        group :: groups key value (key item) [value item] rest
      else
        groups key value back (group ++ [value item]) rest

/-- The keys never decrease, starting from a given one. -/
def KeysAscend
    (key : Item → Nat)
    (back : Nat)
    (items : List Item) :
    Prop :=
  (∀ item ∈ items, back ≤ key item) ∧
    items.Pairwise (fun first second => key first ≤ key second)

variable {back : Nat}

theorem KeysAscend.of_cons
    {item : Item}
    {rest : List Item}
    (ascend : KeysAscend key back (item :: rest)) :
    back ≤ key item ∧ KeysAscend key (key item) rest := by
  obtain ⟨above, pairwise⟩ := ascend
  obtain ⟨headBelow, restPairwise⟩ := List.pairwise_cons.mp pairwise
  exact ⟨above item List.mem_cons_self, headBelow, restPairwise⟩

variable {items : List Item}

/-- The new keys ascend strictly, and are those of the items beyond the first group. -/
theorem mem_newKeys
    (ascend : KeysAscend key back items)
    {number : Nat} :
    number ∈ newKeys key back items ↔
      back < number ∧ ∃ item ∈ items, key item = number := by
  induction items generalizing back with
  | nil => simp [newKeys]
  | cons item rest hypothesis =>
      obtain ⟨above, restAscend⟩ := ascend.of_cons
      by_cases same : key item = back
      · have restFact := hypothesis (same ▸ restAscend)
        rw [newKeys, if_neg (by simpa using same), restFact]
        constructor
        · rintro ⟨beyond, other, member, keyed⟩
          exact ⟨beyond, other, List.mem_cons_of_mem _ member, keyed⟩
        · rintro ⟨beyond, other, member, keyed⟩
          rcases List.mem_cons.mp member with atHead | inRest
          · subst atHead
            omega
          · exact ⟨beyond, other, inRest, keyed⟩
      · rw [newKeys, if_pos same, List.mem_cons, hypothesis restAscend]
        constructor
        · rintro (atHead | ⟨beyond, other, member, keyed⟩)
          · exact ⟨by omega, item, List.mem_cons_self, atHead.symm⟩
          · exact ⟨by omega, other, List.mem_cons_of_mem _ member, keyed⟩
        · rintro ⟨beyond, other, member, keyed⟩
          rcases List.mem_cons.mp member with atHead | inRest
          · subst atHead
            exact .inl keyed.symm
          · have notBelow := restAscend.1 other inRest
            by_cases first : number = key item
            · exact .inl first
            · exact .inr ⟨by omega, other, inRest, keyed⟩

/-- The keys of the groups ascend strictly. -/
theorem ascending_newKeys (ascend : KeysAscend key back items) :
    Ascending (back :: newKeys key back items) := by
  refine List.pairwise_cons.mpr ⟨fun number member => ((mem_newKeys ascend).mp member).1, ?_⟩
  induction items generalizing back with
  | nil => exact List.Pairwise.nil
  | cons item rest hypothesis =>
      obtain ⟨above, restAscend⟩ := ascend.of_cons
      by_cases same : key item = back
      · rw [newKeys, if_neg (by simpa using same)]
        exact hypothesis (same ▸ restAscend)
      · rw [newKeys, if_pos same]
        exact List.pairwise_cons.mpr
          ⟨fun number member => ((mem_newKeys restAscend).mp member).1,
            hypothesis restAscend⟩

/-- Groups of neighbours are the columns of their keys. -/
theorem groups_eq
    (value : Item → Value)
    {items : List Item}
    (ascend : KeysAscend key back items)
    (group : List Value) :
    groups key value back group items =
      (group ++ (items.filter (fun item => decide (key item = back))).map value) ::
        (newKeys key back items).map
          (fun number => (items.filter (fun item => decide (key item = number))).map value) := by
  induction items generalizing back group with
  | nil => simp [groups, newKeys]
  | cons item rest hypothesis =>
      obtain ⟨above, restAscend⟩ := ascend.of_cons
      by_cases same : key item = back
      · have backAscend : KeysAscend key back rest := same ▸ restAscend
        rw [groups, if_neg (by simpa using same), hypothesis backAscend,
          newKeys, if_neg (by simpa using same)]
        have later : ∀ number ∈ newKeys key back rest,
            (rest.filter (fun other => decide (key other = number))).map value =
              ((item :: rest).filter (fun other => decide (key other = number))).map value := by
          intro number member
          have beyond := ((mem_newKeys backAscend).mp member).1
          have different : key item ≠ number := by omega
          simp [different]
        rw [List.map_congr_left later]
        simp [same]
      · rw [groups, if_pos same, hypothesis restAscend, newKeys, if_pos same]
        have noneOfBack : ∀ other ∈ item :: rest, ¬ decide (key other = back) = true := by
          intro other member
          have notBelow : key item ≤ key other := by
            rcases List.mem_cons.mp member with rfl | inRest
            · exact Nat.le_refl _
            · exact restAscend.1 other inRest
          simpa using (show key other ≠ back by omega)
        have later : ∀ number ∈ newKeys key (key item) rest,
            (rest.filter (fun other => decide (key other = number))).map value =
              ((item :: rest).filter (fun other => decide (key other = number))).map value := by
          intro number member
          have beyond := ((mem_newKeys restAscend).mp member).1
          have different : key item ≠ number := by omega
          simp [different]
        rw [List.map_congr_left later, List.filter_eq_nil_iff.mpr noneOfBack]
        simp

/-- Grouping loses no item. -/
theorem sum_length_groups
    (key : Item → Nat)
    (value : Item → Value)
    (items : List Item)
    (back : Nat)
    (group : List Value) :
    ((groups key value back group items).map List.length).sum =
      group.length + items.length := by
  induction items generalizing back group with
  | nil => simp [groups]
  | cons item rest hypothesis =>
      unfold groups
      split
      · rw [List.map_cons, List.sum_cons, hypothesis]
        simp
        omega
      · rw [hypothesis]
        simp
        omega

/-- Distribute items into the rows of their keys. -/
def distribute
    (key : Item → Nat)
    (value : Item → Value)
    (rows : List (List Value))
    (items : List Item) :
    List (List Value) :=
  items.foldl (fun filled item => filled.modify (key item) (fun row => row ++ [value item])) rows

theorem getElem?_distribute
    (key : Item → Nat)
    (value : Item → Value)
    (items : List Item)
    (rows : List (List Value))
    (number : Nat) :
    (distribute key value rows items)[number]? =
      rows[number]?.map (fun row =>
        row ++ (items.filter (fun item => decide (key item = number))).map value) := by
  induction items generalizing rows with
  | nil => simp [distribute]
  | cons item rest hypothesis =>
      have later := hypothesis
        (rows.modify (key item) (fun row => row ++ [value item]))
      unfold distribute at later ⊢
      rw [List.foldl_cons, later, List.getElem?_modify]
      by_cases here : key item = number
      · simp [here, Function.comp_def]
      · simp [here]

theorem length_distribute
    (key : Item → Nat)
    (value : Item → Value)
    (items : List Item)
    (rows : List (List Value)) :
    (distribute key value rows items).length = rows.length := by
  induction items generalizing rows with
  | nil => rfl
  | cons item rest hypothesis =>
      have later := hypothesis
        (rows.modify (key item) (fun row => row ++ [value item]))
      rw [List.length_modify] at later
      exact later

/-- Where a table that repeats a period from a limit on holds an index. -/
def equivalentIndex
    (limit period index : Nat) :
    Nat :=
  if index ≤ limit then
    index
  else
    index - (index - limit) / period * period

/-- The equivalent index lies inside of the table. -/
theorem equivalentIndex_lt
    {limit period : Nat}
    (periodPositive : 0 < period)
    (index : Nat) :
    equivalentIndex limit period index < limit + period := by
  unfold equivalentIndex
  split
  · omega
  · have remainder := Nat.mod_lt (index - limit) periodPositive
    have division := Nat.div_add_mod' (index - limit) period
    omega

/-- A function with the period from the limit on is given by its table. -/
theorem apply_equivalentIndex
    {entry : Nat → Value}
    {limit period : Nat}
    (periodic : ∀ index, limit ≤ index → entry (index + period) = entry index)
    (index : Nat) :
    entry (equivalentIndex limit period index) = entry index := by
  unfold equivalentIndex
  split
  · rfl
  · have repeated :
        ∀ count start, limit ≤ start → entry (start + count * period) = entry start := by
      intro count
      induction count with
      | zero =>
          intro start _
          simp
      | succ count hypothesis =>
          intro start beyond
          have shifted := hypothesis (start + period) (by omega)
          rw [Nat.succ_mul, Nat.add_comm (count * period), ← Nat.add_assoc, shifted]
          exact periodic start beyond
    have division := Nat.div_add_mod' (index - limit) period
    have result := repeated ((index - limit) / period)
      (index - (index - limit) / period * period) (by omega)
    rw [← result]
    congr 1
    omega

variable
  {Problem Entry : Type}
  {create : Item → Except Problem Entry}

theorem mapM_getElem?
    {entries : List Entry}
    (created : items.mapM create = .ok entries)
    {index : Nat}
    {item : Item}
    (present : items[index]? = some item) :
    ∃ entry, create item = .ok entry ∧ entries[index]? = some entry := by
  induction items generalizing entries index with
  | nil => simp at present
  | cons head rest hypothesis =>
      rw [List.mapM_cons] at created
      cases headCreated : create head with
      | error problem =>
          rw [headCreated] at created
          cases created
      | ok entry =>
          rw [headCreated] at created
          cases restCreated : rest.mapM create with
          | error problem =>
              rw [restCreated] at created
              cases created
          | ok restEntries =>
              rw [restCreated] at created
              cases created
              cases index with
              | zero =>
                  cases present
                  exact ⟨entry, headCreated, rfl⟩
              | succ index => exact hypothesis restCreated present

/-- A table can be filled if each entry can. -/
theorem exists_mapM
    (creates : ∀ item ∈ items, ∃ entry, create item = .ok entry) :
    ∃ entries, items.mapM create = .ok entries := by
  induction items with
  | nil => exact ⟨[], rfl⟩
  | cons head rest hypothesis =>
      obtain ⟨entry, headCreated⟩ := creates head List.mem_cons_self
      obtain ⟨entries, restCreated⟩ := hypothesis
        (fun item member => creates item (List.mem_cons_of_mem _ member))
      refine ⟨entry :: entries, ?_⟩
      rw [List.mapM_cons, headCreated, restCreated]
      rfl

end ColumnTables

end DectNrp
