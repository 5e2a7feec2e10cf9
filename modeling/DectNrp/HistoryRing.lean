import Mathlib.Data.List.Basic

namespace DectNrp.HistoryRing

/-!
# A ring of the latest values

Values are written to a ring one behind the other, so that a new value replaces
the oldest one.  The ring then holds the latest part of a history, whose latest
value comes first.
-/

/-- Position in front of an index. -/
def previous (capacity idx : Nat) : Nat :=
  if idx = 0 then capacity - 1 else idx - 1

/-- Position behind an index. -/
def next (capacity idx : Nat) : Nat :=
  if idx = capacity - 1 then 0 else idx + 1

/-- Position of a value that was written some values ago. -/
def slot (capacity idx age : Nat) : Nat :=
  if age < idx then idx - 1 - age else idx + capacity - 1 - age

variable {Value : Type}

/-- A ring holds the latest values of a history and a default for the others. -/
structure Represents
    (default : Value)
    (ring : List Value)
    (idx : Nat)
    (history : List Value) : Prop where
  inside : idx < ring.length
  entries :
    ∀ age < ring.length,
      ring[slot ring.length idx age]? = some (history.getD age default)

theorem next_lt
    {capacity idx : Nat}
    (inside : idx < capacity) :
    next capacity idx < capacity := by
  unfold next
  split <;> omega

theorem next_eq_slot
    {capacity idx : Nat}
    (inside : idx < capacity) :
    slot capacity (next capacity idx) (capacity - 1) = next capacity idx := by
  unfold slot next
  split <;> split <;> omega

variable {capacity idx age : Nat}

theorem slot_next_succ
    (inside : idx < capacity)
    (young : age + 1 < capacity) :
    slot capacity (next capacity idx) (age + 1) = slot capacity idx age := by
  unfold slot next
  by_cases last : idx = capacity - 1
  · rw [if_pos last, if_neg (Nat.not_lt_zero _), if_pos (by omega)]
    omega
  · rw [if_neg last]
    split <;> split <;> omega

/-- Values that are not replaced are elsewhere. -/
theorem slot_ne (young : age + 1 < capacity) :
    slot capacity idx age ≠ idx := by
  unfold slot
  split <;> omega

/-- A ring of defaults has no history. -/
theorem represents_replicate
    (default : Value)
    {capacity : Nat}
    (positive : 0 < capacity) :
    Represents default (List.replicate capacity default) 0 [] where
  inside := by
    rw [List.length_replicate]
    exact positive
  entries := by
    intro age young
    rw [List.length_replicate] at young ⊢
    have inside : slot capacity 0 age < capacity := by
      unfold slot
      rw [if_neg (Nat.not_lt_zero age)]
      omega
    rw [List.getElem?_replicate_of_lt inside]
    rfl

namespace Represents

variable
  {default : Value}
  {ring : List Value}
  {idx : Nat}
  {history : List Value}

/-- The previous position holds the latest value. -/
theorem latest (represents : Represents default ring idx history) :
    ring[previous ring.length idx]? = some (history.getD 0 default) := by
  have inside := represents.inside
  have isLatest : previous ring.length idx = slot ring.length idx 0 := by
    unfold previous slot
    split <;> split <;> omega
  rw [isLatest]
  exact represents.entries 0 (by omega)

/-- Writing a value and moving on extends the history. -/
theorem push
    (represents : Represents default ring idx history)
    (value : Value) :
    Represents default (ring.set idx value) (next ring.length idx)
      (value :: history) where
  inside := by
    rw [List.length_set]
    exact next_lt represents.inside
  entries := by
    intro age young
    rw [List.length_set] at young ⊢
    have inside := represents.inside
    cases age with
    | zero =>
        have isWritten : slot ring.length (next ring.length idx) 0 = idx := by
          unfold slot next
          split <;> split <;> omega
        rw [isWritten, List.getElem?_set_self inside]
        rfl
    | succ age =>
        rw [slot_next_succ inside young,
          List.getElem?_set_ne (slot_ne young).symm,
          represents.entries age (by omega)]
        rfl

/-- The position behind a written value holds the oldest value. -/
theorem oldest
    (represents : Represents default ring idx history)
    (value : Value) :
    (ring.set idx value)[next ring.length idx]? =
      some ((value :: history).getD (ring.length - 1) default) := by
  have inside := represents.inside
  have isOldest :=
    (represents.push value).entries (ring.length - 1) (by
      rw [List.length_set]
      omega)
  rw [List.length_set, next_eq_slot inside] at isOldest
  exact isOldest

end Represents

/-- Values that are apart, the latest one first. -/
def Spaced (distance : Int) (history : List Int) : Prop :=
  history.IsChain fun newer older => distance ≤ newer - older

/-- Values that are written some values apart are as many distances apart. -/
theorem Spaced.span
    {distance : Int}
    {history : List Int}
    (spaced : Spaced distance history)
    {age : Nat}
    {newest oldest : Int}
    (isNewest : history[0]? = some newest)
    (isOldest : history[age]? = some oldest) :
    age * distance ≤ newest - oldest := by
  induction age generalizing history newest with
  | zero =>
      rw [isNewest] at isOldest
      cases isOldest
      omega
  | succ age hypothesis =>
      rcases history with _ | ⟨first, _ | ⟨second, rest⟩⟩
      · cases isNewest
      · cases isOldest
      · obtain ⟨apart, spacedRest⟩ := List.isChain_cons_cons.mp spaced
        have fromSecond : age * distance ≤ second - oldest :=
          hypothesis spacedRest rfl isOldest
        cases isNewest
        rw [Int.natCast_succ, Int.add_mul, Int.one_mul]
        omega

end DectNrp.HistoryRing
