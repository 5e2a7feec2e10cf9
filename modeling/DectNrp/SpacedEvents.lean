import Mathlib.Algebra.Order.Group.Unbundled.Basic
import Mathlib.Algebra.Order.Monoid.Defs
import Mathlib.Data.List.Destutter

namespace SpacedEvents

/-!
# Events that lie apart

Events are offered one after the other, and an event is kept if it lies more
than a distance after the one that was kept last.  Of several events that lie
close to each other only the first one is kept.
-/

variable {Event Time : Type}
variable [AddCommGroup Time] [LinearOrder Time]

/-- The second time is later than the first one by more than the distance. -/
def Apart (distance first second : Time) : Prop :=
  distance < second - first

instance
    (distance first second : Time) :
    Decidable (Apart distance first second) :=
  inferInstanceAs (Decidable (distance < second - first))

/-- What is kept of the events after a time. -/
def keep
    (time : Event → Time)
    (distance : Time) :
    Time → List Event → List Event
  | _, [] => []
  | last, event :: events =>
      if Apart distance last (time event) then
        event :: keep time distance (time event) events
      else
        keep time distance last events

/-- The time of the event that was kept last. -/
def lastKept
    (time : Event → Time)
    (distance : Time) :
    Time → List Event → Time
  | last, [] => last
  | last, event :: events =>
      if Apart distance last (time event) then
        lastKept time distance (time event) events
      else
        lastKept time distance last events

variable {time : Event → Time} {distance : Time}

/-- Events that are offered later do not change what was kept before. -/
theorem keep_append
    (last : Time)
    (events others : List Event) :
    keep time distance last (events ++ others) =
      keep time distance last events ++
        keep time distance (lastKept time distance last events) others := by
  induction events generalizing last with
  | nil => rfl
  | cons event events hypothesis =>
      simp only [List.cons_append, keep, lastKept]
      split
      · rw [hypothesis, List.cons_append]
      · rw [hypothesis]

theorem lastKept_append
    (last : Time)
    (events others : List Event) :
    lastKept time distance last (events ++ others) =
      lastKept time distance (lastKept time distance last events) others := by
  induction events generalizing last with
  | nil => rfl
  | cons event events hypothesis =>
      simp only [List.cons_append, lastKept]
      split
      · rw [hypothesis]
      · rw [hypothesis]

theorem times_eq_destutter'
    (last : Time)
    (events : List Event) :
    last :: (keep time distance last events).map time =
      (events.map time).destutter' (Apart distance) last := by
  induction events generalizing last with
  | nil => rfl
  | cons event events hypothesis =>
      simp only [keep, List.map_cons, List.destutter'_cons]
      split
      · rw [List.map_cons, hypothesis]
      · rw [hypothesis]

variable [IsOrderedAddMonoid Time]

/-- Times that lie apart are strictly increasing. -/
theorem Apart.lt
    (notNegative : 0 ≤ distance)
    {first second : Time}
    (isApart : Apart distance first second) :
    first < second :=
  sub_pos.mp (lt_of_le_of_lt notNegative isApart)

/-- What lies apart of a later time lies apart of an earlier one. -/
theorem Apart.trans
    (notNegative : 0 ≤ distance)
    {first second third : Time}
    (before : Apart distance first second)
    (after : Apart distance second third) :
    Apart distance first third := by
  have earlier := before.lt notNegative
  exact lt_trans after (sub_lt_sub_left earlier third)

/-- Any two kept events lie apart, and all lie apart of the first time. -/
theorem keep_pairwise
    (notNegative : 0 ≤ distance)
    (last : Time)
    (events : List Event) :
    (last :: (keep time distance last events).map time).Pairwise
      (Apart distance) := by
  have : IsTrans Time (Apart distance) :=
    ⟨fun _ _ _ before after => before.trans notNegative after⟩
  rw [times_eq_destutter']
  exact (List.isChain_destutter' _ (events.map time) last).pairwise

end SpacedEvents
