import Mathlib.Data.Finset.Card
import Mathlib.Data.List.Perm.Basic
import Mathlib.Order.Defs.LinearOrder

namespace DectNrp

/-!
# Sets ordered by a key

A set keeps its elements in the ascending order of their keys.  An element is
inserted unless another one with the same key is there already.  Inserting the
elements of a set one after the other gives the set again, and a sequence of
insertions keeps its length exactly if all of its keys are different.
-/

/-- Elements in the strictly ascending order of their keys. -/
structure KeyedSet
    {Element Key : Type}
    [LinearOrder Key]
    (key : Element → Key) where
  elements : List Element
  ascending :
    elements.Pairwise fun earlier later => key earlier < key later

namespace KeyedSet

variable
    {Element Key : Type}
    [LinearOrder Key]
    {key : Element → Key}

@[ext] theorem ext
    {first second : KeyedSet key}
    (same : first.elements = second.elements) :
    first = second := by
  cases first
  cases second
  cases same
  rfl

instance [DecidableEq Element] : DecidableEq (KeyedSet key) :=
  fun first second =>
    decidable_of_iff (first.elements = second.elements)
      ⟨ext, congrArg elements⟩

/-- Insert an element in front of the first one with a greater key. -/
def insertInto
    (key : Element → Key)
    (element : Element) :
    List Element → List Element
  | [] => [element]
  | first :: rest =>
      if key element < key first then element :: first :: rest
      else if key first < key element then
        first :: insertInto key element rest
      else first :: rest

variable {elements : List Element}

/-- The keys after an insertion are the earlier ones and the new one. -/
theorem mem_keys_insertInto
    {element : Element}
    {wanted : Key} :
    wanted ∈ (insertInto key element elements).map key ↔
      wanted = key element ∨ wanted ∈ elements.map key := by
  induction elements with
  | nil => simp [insertInto]
  | cons first rest hypothesis =>
      rw [insertInto]
      split_ifs with front behind
      · simp
      · rw [List.map_cons, List.mem_cons, hypothesis,
          List.map_cons, List.mem_cons]
        exact or_left_comm
      · have sameKey : key first = key element :=
          le_antisymm (not_lt.mp front) (not_lt.mp behind)
        rw [List.map_cons, List.mem_cons, sameKey]
        exact or_self_left.symm

theorem ascending_insertInto
    (element : Element)
    {elements : List Element}
    (ascending :
      elements.Pairwise fun earlier later => key earlier < key later) :
    (insertInto key element elements).Pairwise
      fun earlier later => key earlier < key later := by
  induction elements with
  | nil => exact List.pairwise_singleton _ _
  | cons first rest hypothesis =>
      obtain ⟨firstBelow, restAscending⟩ := List.pairwise_cons.mp ascending
      rw [insertInto]
      split_ifs with front behind
      · refine List.pairwise_cons.mpr ⟨?_, ascending⟩
        intro later member
        rcases List.mem_cons.mp member with rfl | inRest
        · exact front
        · exact lt_trans front (firstBelow later inRest)
      · refine List.pairwise_cons.mpr ⟨?_, hypothesis restAscending⟩
        intro later member
        rcases mem_keys_insertInto.mp (List.mem_map_of_mem member) with
          isNew | isOld
        · rw [isNew]
          exact behind
        · obtain ⟨old, oldMember, sameKey⟩ := List.mem_map.mp isOld
          rw [← sameKey]
          exact firstBelow old oldMember
      · exact ascending

theorem insertInto_last
    {element : Element}
    (greatest : ∀ earlier ∈ elements, key earlier < key element) :
    insertInto key element elements = elements ++ [element] := by
  induction elements with
  | nil => rfl
  | cons first rest hypothesis =>
      have above := greatest first List.mem_cons_self
      rw [insertInto, if_neg (lt_asymm above), if_pos above,
        hypothesis fun earlier member =>
          greatest earlier (List.mem_cons_of_mem _ member)]
      rfl

/-- The set without elements. -/
def empty : KeyedSet key :=
  ⟨[], List.Pairwise.nil⟩

/-- Insert an element unless its key is there already. -/
def insert
    (set : KeyedSet key)
    (element : Element) :
    KeyedSet key :=
  ⟨insertInto key element set.elements,
    ascending_insertInto element set.ascending⟩

/-- Insert elements one after the other into an empty set. -/
def ofList (elements : List Element) : KeyedSet key :=
  elements.foldl insert empty

variable {later : List Element}

theorem foldl_insert_elements
    {set : KeyedSet key}
    (ascending :
      (set.elements ++ later).Pairwise
        fun earlier later => key earlier < key later) :
    (later.foldl insert set).elements = set.elements ++ later := by
  induction later generalizing set with
  | nil =>
      rw [List.append_nil]
      rfl
  | cons element rest hypothesis =>
      have inserted :
          (set.insert element).elements = set.elements ++ [element] :=
        insertInto_last fun earlier member =>
          (List.pairwise_append.mp ascending).2.2 earlier member element
            List.mem_cons_self
      rw [List.foldl_cons, hypothesis, inserted, List.append_assoc]
      · rfl
      · rw [inserted, List.append_assoc]
        exact ascending

/-- Inserting the elements of a set gives the set. -/
@[simp] theorem ofList_elements (set : KeyedSet key) :
    ofList set.elements = set :=
  ext (foldl_insert_elements set.ascending)

/-- The keys of a set are all different. -/
theorem nodup_keys (set : KeyedSet key) :
    (set.elements.map key).Nodup := by
  rw [List.nodup_iff_pairwise_ne, List.pairwise_map]
  exact set.ascending.imp ne_of_lt

theorem mem_keys_foldl_insert
    {set : KeyedSet key}
    {wanted : Key} :
    wanted ∈ (later.foldl insert set).elements.map key ↔
      wanted ∈ set.elements.map key ∨ wanted ∈ later.map key := by
  induction later generalizing set with
  | nil => simp
  | cons element rest hypothesis =>
      rw [List.foldl_cons, hypothesis, insert,
        mem_keys_insertInto, List.map_cons, List.mem_cons]
      tauto

/-- The keys of a set are those of the elements that were inserted. -/
theorem mem_keys_ofList
    {wanted : Key} :
    wanted ∈ ((ofList elements : KeyedSet key).elements.map key) ↔
      wanted ∈ elements.map key := by
  rw [ofList, mem_keys_foldl_insert]
  simp [empty]

/-- No element is lost exactly if no key is repeated. -/
theorem length_ofList_eq_iff
    {elements : List Element} :
    (ofList elements : KeyedSet key).elements.length = elements.length ↔
      (elements.map key).Nodup := by
  have sameKeys :
      ((ofList elements : KeyedSet key).elements.map key).toFinset =
        (elements.map key).toFinset := by
    ext wanted
    rw [List.mem_toFinset, List.mem_toFinset, mem_keys_ofList]
  have card :=
    List.toFinset_card_of_nodup (nodup_keys (ofList elements : KeyedSet key))
  rw [sameKeys, List.length_map] at card
  rw [← card, ← @List.length_map _ _ elements key]
  exact Multiset.toFinset_card_eq_card_iff_nodup

/-- A set whose keys are below a bound has as many elements at most. -/
theorem length_le_of_keys
    (set : KeyedSet key)
    (keys : Finset Key)
    (bounded : ∀ element ∈ set.elements, key element ∈ keys) :
    set.elements.length ≤ keys.card := by
  rw [← List.length_map key, ← List.toFinset_card_of_nodup (nodup_keys set)]
  apply Finset.card_le_card
  intro wanted member
  obtain ⟨element, isElement, rfl⟩ :=
    List.mem_map.mp (List.mem_toFinset.mp member)
  exact bounded element isElement

end KeyedSet

end DectNrp
