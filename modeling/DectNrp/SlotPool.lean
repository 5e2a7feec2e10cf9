import Mathlib.Logic.Function.Basic
import Mathlib.Logic.Relation

namespace SlotPool

/-!
# Pools of reusable slots

A pool consists of slots that users acquire, work with and give back.  A slot
that is given back either waits for somebody to resume it or is terminated, so
that it can be acquired anew.  Two locks in the content of every slot are meant
to tell these situations apart.

The discipline of a pool lists what its operations do to the content of one
slot, and which locks they find and leave.  From it follows for every run, with
any number of users, that the locks tell the truth and that no slot has two
users.
-/

/-- What the users of a pool know about a slot. -/
inductive Lease (User : Type) where
  /-- Nobody uses the slot. -/
  | terminated
  /-- The slot was given back to be resumed later. -/
  | waiting
  /-- A user works with the slot. -/
  | held (user : User)

/-- The locks in a slot agree with its lease. -/
def Lease.Agrees
    {User : Type}
    (lease : Lease User)
    (outer inner : Bool) :
    Prop :=
  match lease with
  | .terminated => outer = false ∧ inner = false
  | .waiting => outer = true ∧ inner = false
  | .held _ => outer = true ∧ inner = true

/--
Operations on the content of one slot.  `Clean` is what holds of the terminated
content of the slot with a given index, `Alive` what holds of all other
content.
-/
structure Discipline (Content : Type) where
  outer : Content → Bool
  inner : Content → Bool
  Clean : Nat → Content → Prop
  Alive : Nat → Content → Prop
  Acquire : Content → Content → Prop
  Resume : Content → Content → Prop
  Work : Content → Content → Prop
  Keep : Content → Content → Prop
  Terminate : Content → Content → Prop
  acquire_locks :
    ∀ {before after}, Acquire before after →
      outer before = false ∧ outer after = true ∧ inner after = true
  resume_locks :
    ∀ {before after}, Resume before after →
      outer before = true ∧ inner before = false ∧
        outer after = true ∧ inner after = true
  work_locks :
    ∀ {before after}, Work before after →
      outer after = outer before ∧ inner after = inner before
  keep_locks :
    ∀ {before after}, Keep before after →
      outer after = true ∧ inner after = false
  terminate_locks :
    ∀ {before after}, Terminate before after →
      outer after = false ∧ inner after = false
  acquire_alive :
    ∀ {index before after},
      Clean index before → Acquire before after → Alive index after
  resume_alive :
    ∀ {index before after},
      Alive index before → Resume before after → Alive index after
  work_alive :
    ∀ {index before after},
      Alive index before → Work before after → Alive index after
  keep_alive :
    ∀ {index before after},
      Alive index before → Keep before after → Alive index after
  terminate_clean :
    ∀ {index before after},
      Alive index before → Terminate before after → Clean index after

/-- Contents of all slots and what the users know about them. -/
structure Pool (Content User : Type) where
  content : Nat → Content
  lease : Nat → Lease User

namespace Pool

variable {Content User : Type}

/-- Replace content and lease of one slot. -/
def set
    (pool : Pool Content User)
    (index : Nat)
    (content : Content)
    (lease : Lease User) :
    Pool Content User where
  content := Function.update pool.content index content
  lease := Function.update pool.lease index lease

@[simp] theorem set_content_same
    (pool : Pool Content User)
    (index : Nat)
    (content : Content)
    (lease : Lease User) :
    (pool.set index content lease).content index = content :=
  Function.update_self _ _ _

@[simp] theorem set_lease_same
    (pool : Pool Content User)
    (index : Nat)
    (content : Content)
    (lease : Lease User) :
    (pool.set index content lease).lease index = lease :=
  Function.update_self _ _ _

theorem set_content_other
    (pool : Pool Content User)
    {index other : Nat}
    (content : Content)
    (lease : Lease User)
    (different : other ≠ index) :
    (pool.set index content lease).content other = pool.content other :=
  Function.update_of_ne different _ _

theorem set_lease_other
    (pool : Pool Content User)
    {index other : Nat}
    (content : Content)
    (lease : Lease User)
    (different : other ≠ index) :
    (pool.set index content lease).lease other = pool.lease other :=
  Function.update_of_ne different _ _

end Pool

section

variable {Content User : Type}
variable {discipline : Discipline Content}

/--
Steps of the users.  Acquiring and resuming look at the content of a slot only,
the other operations are for the user who holds the slot.
-/
inductive Step
    (discipline : Discipline Content) :
    Pool Content User → Pool Content User → Prop where
  | acquire
      (pool : Pool Content User)
      (index : Nat)
      (user : User)
      (content : Content)
      (acquired :
        discipline.Acquire (pool.content index) content) :
      Step discipline pool (pool.set index content (.held user))
  | resume
      (pool : Pool Content User)
      (index : Nat)
      (user : User)
      (content : Content)
      (resumed : discipline.Resume (pool.content index) content) :
      Step discipline pool (pool.set index content (.held user))
  | work
      (pool : Pool Content User)
      (index : Nat)
      (user : User)
      (content : Content)
      (holds : pool.lease index = .held user)
      (worked : discipline.Work (pool.content index) content) :
      Step discipline pool (pool.set index content (.held user))
  | keep
      (pool : Pool Content User)
      (index : Nat)
      (user : User)
      (content : Content)
      (holds : pool.lease index = .held user)
      (kept : discipline.Keep (pool.content index) content) :
      Step discipline pool (pool.set index content .waiting)
  | terminate
      (pool : Pool Content User)
      (index : Nat)
      (user : User)
      (content : Content)
      (holds : pool.lease index = .held user)
      (terminated :
        discipline.Terminate (pool.content index) content) :
      Step discipline pool (pool.set index content .terminated)

/-- Locks, lease and content of one slot fit together. -/
structure SlotInvariant
    (discipline : Discipline Content)
    (index : Nat)
    (content : Content)
    (lease : Lease User) :
    Prop where
  agrees :
    lease.Agrees (discipline.outer content) (discipline.inner content)
  clean :
    discipline.outer content = false → discipline.Clean index content
  alive :
    discipline.outer content = true → discipline.Alive index content

/-- Locks, lease and content of every slot fit together. -/
def Invariant
    (discipline : Discipline Content)
    (pool : Pool Content User) :
    Prop :=
  ∀ index,
    SlotInvariant discipline index (pool.content index)
      (pool.lease index)

variable {pool : Pool Content User}

variable
  {index : Nat}
  {content : Content}

/-- Changing one slot keeps the invariant if it holds of the changed slot. -/
theorem Invariant.set
    (invariant : Invariant discipline pool)
    {lease : Lease User}
    (changed : SlotInvariant discipline index content lease) :
    Invariant discipline (pool.set index content lease) := by
  intro other
  by_cases same : other = index
  · subst same
    simpa using changed
  · rw [pool.set_content_other _ _ same, pool.set_lease_other _ _ same]
    exact invariant other

/-- A slot with a user has both locks and is alive. -/
theorem SlotInvariant.alive_of_held
    {user : User}
    (invariant : SlotInvariant discipline index content (.held user)) :
    discipline.outer content = true ∧
      discipline.inner content = true ∧
      discipline.Alive index content :=
  ⟨invariant.agrees.1, invariant.agrees.2, invariant.alive invariant.agrees.1⟩

/-- Every step keeps the invariant. -/
theorem Invariant.step
    {before after : Pool Content User}
    (invariant : Invariant discipline before)
    (step : Step discipline before after) :
    Invariant discipline after := by
  cases step with
  | acquire index user content acquired =>
      obtain ⟨free, outer, inner⟩ := discipline.acquire_locks acquired
      refine invariant.set ⟨⟨outer, inner⟩, fun isFree => ?_, fun _ => ?_⟩
      · exact absurd (outer.symm.trans isFree) (by simp)
      · exact discipline.acquire_alive ((invariant index).clean free) acquired
  | resume index user content resumed =>
      obtain ⟨used, _, outer, inner⟩ := discipline.resume_locks resumed
      refine invariant.set ⟨⟨outer, inner⟩, fun isFree => ?_, fun _ => ?_⟩
      · exact absurd (outer.symm.trans isFree) (by simp)
      · exact discipline.resume_alive ((invariant index).alive used) resumed
  | work index user content holds worked =>
      have slot := invariant index
      rw [holds] at slot
      obtain ⟨outerBefore, innerBefore, alive⟩ := slot.alive_of_held
      obtain ⟨sameOuter, sameInner⟩ := discipline.work_locks worked
      have outer := sameOuter.trans outerBefore
      refine invariant.set
        ⟨⟨outer, sameInner.trans innerBefore⟩, fun isFree => ?_,
          fun _ => discipline.work_alive alive worked⟩
      exact absurd (outer.symm.trans isFree) (by simp)
  | keep index user content holds kept =>
      have slot := invariant index
      rw [holds] at slot
      obtain ⟨_, _, alive⟩ := slot.alive_of_held
      obtain ⟨outer, inner⟩ := discipline.keep_locks kept
      refine invariant.set ⟨⟨outer, inner⟩, fun isFree => ?_,
        fun _ => discipline.keep_alive alive kept⟩
      exact absurd (outer.symm.trans isFree) (by simp)
  | terminate index user content holds terminated =>
      have slot := invariant index
      rw [holds] at slot
      obtain ⟨_, _, alive⟩ := slot.alive_of_held
      obtain ⟨outer, inner⟩ := discipline.terminate_locks terminated
      refine invariant.set ⟨⟨outer, inner⟩,
        fun _ => discipline.terminate_clean alive terminated,
        fun isUsed => ?_⟩
      exact absurd (outer.symm.trans isUsed) (by simp)

/-- Every run keeps the invariant. -/
theorem Invariant.run
    {first last : Pool Content User}
    (invariant : Invariant discipline first)
    (run : Relation.ReflTransGen (Step discipline) first last) :
    Invariant discipline last := by
  induction run with
  | refl => exact invariant
  | tail _ step hypothesis => exact hypothesis.step step

/-- An acquired slot had no user and was clean. -/
theorem Invariant.acquired
    (invariant : Invariant discipline pool)
    (acquired : discipline.Acquire (pool.content index) content) :
    pool.lease index = .terminated ∧
      discipline.Clean index (pool.content index) := by
  have free := (discipline.acquire_locks acquired).1
  have slot := invariant index
  refine ⟨?_, slot.clean free⟩
  cases lease : pool.lease index with
  | terminated => rfl
  | waiting =>
      rw [lease] at slot
      exact absurd (free.symm.trans slot.agrees.1) (by simp)
  | held user =>
      rw [lease] at slot
      exact absurd (free.symm.trans slot.agrees.1) (by simp)

/-- A resumed slot had been given back by its last user. -/
theorem Invariant.resumed
    (invariant : Invariant discipline pool)
    (resumed : discipline.Resume (pool.content index) content) :
    pool.lease index = .waiting ∧
      discipline.Alive index (pool.content index) := by
  obtain ⟨used, idle, _⟩ := discipline.resume_locks resumed
  have slot := invariant index
  refine ⟨?_, slot.alive used⟩
  cases lease : pool.lease index with
  | terminated =>
      rw [lease] at slot
      exact absurd (used.symm.trans slot.agrees.1) (by simp)
  | waiting => rfl
  | held user =>
      rw [lease] at slot
      exact absurd (idle.symm.trans slot.agrees.2) (by simp)

end

end SlotPool
