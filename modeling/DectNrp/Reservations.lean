import Mathlib.Data.Int.ConditionallyCompleteOrder
import Mathlib.Order.CompletePartialOrder
import Mathlib.Order.ConditionallyCompleteLattice.Basic

namespace Reservations

/-!
# Reservations on a time axis

Intervals of a time axis are reserved one after the other, each of them not
before the end of all earlier ones.  Reservations of positive length then start
at strictly increasing times and are pairwise disjoint.
-/

/-- A reserved interval. -/
structure Reservation where
  start : Int
  length : Int
  deriving Repr, DecidableEq

namespace Reservation

/-- The first time behind the interval. -/
def finish (reservation : Reservation) : Int :=
  reservation.start + reservation.length

/-- All times of the interval. -/
def times (reservation : Reservation) : Set Int :=
  Set.Ico reservation.start reservation.finish

end Reservation

/-- Reservations in the order of the time axis. -/
def Ordered (reservations : List Reservation) : Prop :=
  reservations.Pairwise fun earlier later => earlier.finish ≤ later.start

variable {reservations : List Reservation}

/-- A reservation that starts late enough is appended. -/
theorem Ordered.concat
    {last : Reservation}
    (ordered : Ordered reservations)
    (late : ∀ earlier ∈ reservations, earlier.finish ≤ last.start) :
    Ordered (reservations ++ [last]) := by
  refine List.pairwise_append.mpr ⟨ordered, List.pairwise_singleton _ _, ?_⟩
  intro earlier earlierMember later laterMember
  rw [List.mem_singleton.mp laterMember]
  exact late earlier earlierMember

/-- Starts are strictly increasing. -/
theorem Ordered.increasing
    (ordered : Ordered reservations)
    (positive : ∀ reservation ∈ reservations, 0 < reservation.length) :
    (reservations.map Reservation.start).Pairwise (· < ·) := by
  rw [List.pairwise_map]
  refine ordered.imp_of_mem ?_
  intro earlier later earlierMember _ behind
  have long := positive earlier earlierMember
  unfold Reservation.finish at behind
  omega

/-- Reservations do not overlap. -/
theorem Ordered.disjoint (ordered : Ordered reservations) :
    reservations.Pairwise fun earlier later =>
      Disjoint earlier.times later.times := by
  refine ordered.imp ?_
  intro earlier later behind
  refine Set.disjoint_left.mpr ?_
  intro time inEarlier inLater
  exact absurd (lt_of_lt_of_le inEarlier.2 behind) (not_lt.mpr inLater.1)

end Reservations
