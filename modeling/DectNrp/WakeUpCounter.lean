import Mathlib.Algebra.BigOperators.Fin
import Mathlib.Algebra.BigOperators.Group.Finset.Basic
import Mathlib.Algebra.Order.BigOperators.Group.Finset
import Mathlib.Tactic.Ring

/-!
# A wake-up counter

Producers offer items to a single consumer.  After an item has been offered its
producer raises a counter of 32 bits and then notifies the consumer.  The
consumer lowers the counter after it has taken an item.  Before it sleeps it
compares the counter with a reference, and the reference is the value at which
the consumer has last looked for an item in vain, or zero if it has not looked
yet.

Producers may be slow: an item may be taken before the counter was raised for
it, so that the counter drops below zero.  Nevertheless no wake-up is lost.
-/

namespace WakeUpCounter

section Population

variable
    {Index State : Type}
    [Fintype Index]

/-- Number of indices whose state has a property. -/
def population
    (property : State → Bool)
    (states : Index → State) :
    Nat :=
  ∑ index, (property (states index)).toNat

/-- A change of one state changes the population by this state. -/
theorem population_update
    [DecidableEq Index]
    (property : State → Bool)
    (states : Index → State)
    (index : Index)
    (state : State) :
    population property (Function.update states index state) +
        (property (states index)).toNat =
      population property states + (property state).toNat := by
  have others : ∀ other ∈ Finset.univ.erase index,
      (property (Function.update states index state other)).toNat =
        (property (states other)).toNat := by
    intro other member
    rw [Function.update_of_ne (Finset.ne_of_mem_erase member)]
  unfold population
  rw [← Finset.sum_erase_add _ _ (Finset.mem_univ index),
    ← Finset.sum_erase_add Finset.univ
      (fun other => (property (states other)).toNat)
      (Finset.mem_univ index),
    Finset.sum_congr rfl others, Function.update_self]
  ring

variable
  {property : State → Bool}
  {states : Index → State}
  {index : Index}
  {state : State}

/-- A state that gets the property adds to the population. -/
theorem population_update_true
    [DecidableEq Index]
    (before : property (states index) = false)
    (after : property state = true) :
    population property (Function.update states index state) =
      population property states + 1 := by
  have change := population_update property states index state
  rw [before, after] at change
  exact change

/-- A state that loses the property was part of the population. -/
theorem population_update_false
    [DecidableEq Index]
    (before : property (states index) = true)
    (after : property state = false) :
    population property states =
      population property (Function.update states index state) + 1 := by
  have change := population_update property states index state
  rw [before, after] at change
  exact change.symm

/-- A state that keeps the property leaves the population unchanged. -/
theorem population_update_same
    [DecidableEq Index]
    (same : property state = property (states index)) :
    population property (Function.update states index state) =
      population property states := by
  have change := population_update property states index state
  rw [same] at change
  exact Nat.add_right_cancel change

/-- A population has at most as many members as there are indices. -/
theorem population_le
    (property : State → Bool)
    (states : Index → State) :
    population property states ≤ Fintype.card Index := by
  unfold population
  calc
    ∑ index, (property (states index)).toNat ≤ ∑ _index : Index, 1 :=
      Finset.sum_le_sum fun _ _ => Bool.toNat_le _
    _ = Fintype.card Index := by
      rw [Finset.sum_const, Finset.card_univ, smul_eq_mul, Nat.mul_one]

variable
  {property : State → Bool}
  {states : Index → State}

/-- Whoever has the property is part of the population. -/
theorem population_pos (holds : property (states index) = true) :
    0 < population property states := by
  have included :
      (property (states index)).toNat ≤ population property states :=
    Finset.single_le_sum
      (f := fun other => (property (states other)).toNat)
      (fun _ _ => Nat.zero_le _) (Finset.mem_univ index)
  rw [holds] at included
  exact included

/-- Nobody has the property. -/
theorem population_eq_zero
    (nobody : ∀ index, property (states index) = false) :
    population property states = 0 := by
  refine Finset.sum_eq_zero fun index _ => ?_
  rw [nobody index]
  rfl

/-- A population that is not empty has a member. -/
theorem exists_of_population_pos (nonempty : 0 < population property states) :
    ∃ index, property (states index) = true := by
  by_contra nobody
  have isZero : population property states = 0 :=
    population_eq_zero fun index =>
      Bool.eq_false_iff.mpr fun holds => nobody ⟨index, holds⟩
  exact absurd isZero (Nat.ne_of_gt nonempty)

end Population

/-- What the consumer does about the counter. -/
inductive Consumer where
  /-- The consumer is not about to sleep. -/
  | away
  /-- The consumer is about to compare the counter with its reference. -/
  | comparing (reference : UInt32)
  | sleeping (reference : UInt32)
  /-- The consumer has been woken up. -/
  | waking (reference : UInt32)
  /-- The consumer is about to look for an item. -/
  | looking (reference : UInt32)

namespace Consumer

/-- The reference of a consumer that is about to sleep. -/
def reference? : Consumer → Option UInt32
  | away => none
  | comparing reference => some reference
  | sleeping reference => some reference
  | waking reference => some reference
  | looking reference => some reference

end Consumer

/-- The counter and how many items and parties are in which state. -/
@[ext]
structure Protocol where
  counter : UInt32
  /-- Items that have been offered and not taken. -/
  available : Nat
  /-- Producers that have offered an item and not raised the counter. -/
  raising : Nat
  /-- Producers that have raised the counter and not notified. -/
  notifying : Nat
  /-- Items that have been taken and for which the counter is not lowered. -/
  lowering : Nat
  consumer : Consumer
  /-- The item that the consumer waits for is available. -/
  wanted : Prop

namespace Protocol

/-- One step of a producer or of the consumer. -/
inductive Step : Protocol → Protocol → Prop where
  | offer
      {protocol : Protocol}
      (wanted : Prop) :
      Step protocol
        { protocol with
          available := protocol.available + 1
          raising := protocol.raising + 1
          wanted := wanted }
  | raise
      {protocol : Protocol}
      {raising : Nat}
      (some_ : protocol.raising = raising + 1) :
      Step protocol
        { protocol with
          counter := protocol.counter + 1
          raising := raising
          notifying := protocol.notifying + 1 }
  | notify
      {protocol : Protocol}
      {notifying : Nat}
      {consumer : Consumer}
      (some_ : protocol.notifying = notifying + 1)
      (awake : ∀ reference, consumer ≠ .sleeping reference)
      (same :
        consumer.reference? = protocol.consumer.reference?) :
      Step protocol
        { protocol with
          notifying := notifying
          consumer := consumer }
  | take
      {protocol : Protocol}
      {available : Nat}
      (isAway : protocol.consumer = .away)
      (some_ : protocol.available = available + 1)
      (wanted : Prop) :
      Step protocol
        { protocol with
          available := available
          lowering := protocol.lowering + 1
          wanted := wanted }
  | lower
      {protocol : Protocol}
      {lowering : Nat}
      (isAway : protocol.consumer = .away)
      (some_ : protocol.lowering = lowering + 1)
      (wanted : Prop) :
      Step protocol
        { protocol with
          counter := protocol.counter - 1
          lowering := lowering
          wanted := wanted }
  /-- The consumer does something else, or wants something else. -/
  | leave
      {protocol : Protocol}
      (wanted : Prop) :
      Step protocol
        { protocol with
          consumer := .away
          wanted := wanted }
  /-- The consumer has not looked yet. -/
  | first
      {protocol : Protocol}
      (settled : protocol.lowering = 0)
      (wanted : Prop) :
      Step protocol
        { protocol with
          consumer := .comparing 0
          wanted := wanted }
  | sleep
      {protocol : Protocol}
      {reference : UInt32}
      (comparing : protocol.consumer = .comparing reference)
      (same : protocol.counter = reference) :
      Step protocol { protocol with consumer := .sleeping reference }
  /-- The consumer goes on with its reference. -/
  | resume
      {protocol : Protocol}
      {consumer : Consumer}
      (awake : ∀ reference, consumer ≠ .sleeping reference)
      (same :
        consumer.reference? = protocol.consumer.reference?) :
      Step protocol { protocol with consumer := consumer }
  /-- The consumer has looked in vain. -/
  | missed
      {protocol : Protocol}
      {reference : UInt32}
      (looking : protocol.consumer = .looking reference)
      (notWanted : ¬ protocol.wanted) :
      Step protocol
        { protocol with consumer := .comparing protocol.counter }

/-- A step to a state that is described in another way. -/
theorem Step.of_eq
    {before after described : Protocol}
    (step : Step before described)
    (same : after = described) :
    Step before after :=
  same ▸ step

/-- How many items and producers there can be. -/
structure Bounded
    (items producers : Nat)
    (protocol : Protocol) :
    Prop where
  available : protocol.available ≤ items
  raising : protocol.raising ≤ producers
  notifying : protocol.notifying ≤ producers

/--
All that has been offered since a reference was taken: the counter was raised
for it, or it will be.
-/
def Missed
    (protocol : Protocol)
    (producers : Nat)
    (reference : UInt32) :
    Prop :=
  ∃ before offered raised,
    protocol.counter = reference + UInt32.ofNat raised ∧
    raised + protocol.raising = before + offered ∧
    before ≤ producers ∧
    offered ≤ protocol.available ∧
    (protocol.wanted → 1 ≤ offered)

/-- What the counter tells. -/
structure Invariant
    (producers : Nat)
    (protocol : Protocol) :
    Prop where
  balanced :
    protocol.counter + UInt32.ofNat protocol.raising =
      UInt32.ofNat (protocol.available + protocol.lowering)
  settled :
    ∀ reference, protocol.consumer.reference? = some reference →
      protocol.lowering = 0
  checked :
    ∀ reference, protocol.consumer.reference? = some reference →
      reference = 0 ∨ protocol.Missed producers reference
  asleep :
    ∀ reference, protocol.consumer = .sleeping reference →
      ∃ raised ≤ protocol.notifying,
        protocol.counter = reference + UInt32.ofNat raised

variable
  {producers : Nat}
  {protocol : Protocol}

/-- A consumer that is away has no reference. -/
theorem Invariant.ofAway
    (isAway : protocol.consumer = .away)
    (balanced :
      protocol.counter + UInt32.ofNat protocol.raising =
        UInt32.ofNat (protocol.available + protocol.lowering)) :
    Invariant producers protocol where
  balanced := balanced
  settled := by
    intro reference isReference
    rw [isAway] at isReference
    cases isReference
  checked := by
    intro reference isReference
    rw [isAway] at isReference
    cases isReference
  asleep := by
    intro reference sleeps
    rw [isAway] at sleeps
    cases sleeps

/-- The counter tells the truth before anything has been offered. -/
theorem Invariant.start
    {protocol : Protocol}
    (producers : Nat)
    (counter : protocol.counter = 0)
    (available : protocol.available = 0)
    (raising : protocol.raising = 0)
    (lowering : protocol.lowering = 0)
    (isAway : protocol.consumer = .away) :
    Invariant producers protocol := by
  apply Invariant.ofAway isAway
  rw [counter, available, raising, lowering]
  rfl

/-- What is missed does not depend on the consumer. -/
theorem Invariant.withConsumer
    (invariant : protocol.Invariant producers)
    {notifying : Nat}
    {consumer : Consumer}
    (awake : ∀ reference, consumer ≠ .sleeping reference)
    (same : consumer.reference? = protocol.consumer.reference?) :
    Invariant producers
      { protocol with
        notifying := notifying
        consumer := consumer } where
  balanced := invariant.balanced
  settled := by
    intro reference isReference
    exact invariant.settled reference (same.symm.trans isReference)
  checked := by
    intro reference isReference
    exact invariant.checked reference (same.symm.trans isReference)
  asleep := by
    intro reference sleeps
    exact absurd sleeps (awake reference)

theorem Invariant.offer
    (invariant : protocol.Invariant producers)
    (wanted : Prop) :
    Invariant producers
      { protocol with
        available := protocol.available + 1
        raising := protocol.raising + 1
        wanted := wanted } where
  balanced := by
    change protocol.counter + UInt32.ofNat (protocol.raising + 1) =
        UInt32.ofNat (protocol.available + 1 + protocol.lowering)
    rw [Nat.add_right_comm, UInt32.ofNat_add, UInt32.ofNat_add,
      ← UInt32.add_assoc, invariant.balanced]
  settled := invariant.settled
  checked := by
    intro reference isReference
    rcases invariant.checked reference isReference with isZero | missed
    · exact Or.inl isZero
    · obtain ⟨before, offered, raised, counter, total, bounded, some_,
        _⟩ := missed
      refine Or.inr ⟨before, offered + 1, raised, counter, ?_, bounded, ?_, ?_⟩
      · change raised + (protocol.raising + 1) = before + (offered + 1)
        rw [← Nat.add_assoc, total, Nat.add_assoc]
      · exact Nat.succ_le_succ some_
      · exact fun _ => Nat.succ_le_succ (Nat.zero_le offered)
  asleep := invariant.asleep

theorem Invariant.raise
    {producers : Nat}
    {protocol : Protocol}
    (invariant : protocol.Invariant producers)
    {raising : Nat}
    (some_ : protocol.raising = raising + 1) :
    Invariant producers
      { protocol with
        counter := protocol.counter + 1
        raising := raising
        notifying := protocol.notifying + 1 } where
  balanced := by
    have balanced := invariant.balanced
    rw [some_, Nat.add_comm raising, UInt32.ofNat_add,
      ← UInt32.add_assoc] at balanced
    exact balanced
  settled := invariant.settled
  checked := by
    intro reference isReference
    rcases invariant.checked reference isReference with isZero | missed
    · exact Or.inl isZero
    · obtain ⟨before, offered, raised, counter, total, bounded, few,
        wanted⟩ := missed
      refine Or.inr ⟨before, offered, raised + 1, ?_, ?_, bounded, few, wanted⟩
      · change protocol.counter + 1 = _
        rw [counter, UInt32.ofNat_add, UInt32.add_assoc]
        rfl
      · change raised + 1 + raising = before + offered
        rw [← total, some_, Nat.add_right_comm, Nat.add_assoc]
  asleep := by
    intro reference sleeps
    obtain ⟨raised, few, counter⟩ := invariant.asleep reference sleeps
    refine ⟨raised + 1, Nat.succ_le_succ few, ?_⟩
    change protocol.counter + 1 = _
    rw [counter, UInt32.ofNat_add, UInt32.add_assoc]
    rfl

/-- A consumer that has looked in vain has missed nothing. -/
theorem Invariant.missed
    {producers : Nat}
    {protocol : Protocol}
    (invariant : protocol.Invariant producers)
    (bounded : protocol.raising ≤ producers)
    {reference : UInt32}
    (looking : protocol.consumer = .looking reference)
    (notWanted : ¬ protocol.wanted) :
    Invariant producers
      { protocol with consumer := .comparing protocol.counter } where
  balanced := invariant.balanced
  settled := by
    intro _ _
    refine invariant.settled reference ?_
    rw [looking]
    rfl
  checked := by
    intro now isReference
    cases isReference
    refine Or.inr ⟨protocol.raising, 0, 0, ?_, Nat.zero_add _, bounded,
        Nat.zero_le _, fun wanted => absurd wanted notWanted⟩
    exact (UInt32.add_zero _).symm
  asleep := by
    intro _ sleeps
    cases sleeps

/-- Every step keeps the counter truthful. -/
theorem Step.invariant
    {before after : Protocol}
    (step : Step before after)
    (bounded : before.raising ≤ producers)
    (invariant : before.Invariant producers) :
    after.Invariant producers := by
  cases step with
  | offer wanted => exact invariant.offer wanted
  | raise some_ => exact invariant.raise some_
  | notify some_ awake same => exact invariant.withConsumer awake same
  | @take available isAway some_ wanted =>
      refine Invariant.ofAway isAway ?_
      have balanced := invariant.balanced
      rw [some_, Nat.add_right_comm, Nat.add_assoc] at balanced
      exact balanced
  | @lower lowering isAway some_ wanted =>
      refine Invariant.ofAway isAway ?_
      have balanced := invariant.balanced
      rw [some_, ← Nat.add_assoc, UInt32.ofNat_add] at balanced
      change before.counter - 1 + UInt32.ofNat before.raising =
          UInt32.ofNat (before.available + lowering)
      rw [UInt32.sub_eq_add_neg, UInt32.add_assoc,
        UInt32.add_comm (-1), ← UInt32.add_assoc, balanced,
        ← UInt32.sub_eq_add_neg]
      exact UInt32.add_sub_cancel _ _
  | leave wanted => exact Invariant.ofAway rfl invariant.balanced
  | first settled wanted =>
      exact {
        balanced := invariant.balanced
        settled := fun _ _ => settled
        checked := by
          intro reference isReference
          cases isReference
          exact Or.inl rfl
        asleep := by
          intro _ sleeps
          cases sleeps }
  | @sleep reference comparing same =>
      have isReference : before.consumer.reference? = some reference := by
        rw [comparing]
        rfl
      exact {
        balanced := invariant.balanced
        settled := fun _ _ => invariant.settled reference isReference
        checked := by
          intro other isOther
          cases isOther
          exact invariant.checked reference isReference
        asleep := by
          intro other sleeps
          cases sleeps
          exact ⟨0, Nat.zero_le _, same.trans (UInt32.add_zero _).symm⟩ }
  | resume awake same => exact invariant.withConsumer awake same
  | missed looking notWanted =>
      exact invariant.missed bounded looking notWanted

/-- A counter that was raised has changed unless it was raised very often. -/
theorem add_ofNat_ne
    (reference : UInt32)
    {raised : Nat}
    (some_ : 0 < raised)
    (few : raised < 2 ^ 32) :
    reference + UInt32.ofNat raised ≠ reference := by
  intro same
  have isZero : UInt32.ofNat raised = 0 := UInt32.add_eq_left.mp same
  have value := congrArg UInt32.toNat isZero
  rw [UInt32.toNat_ofNat_of_lt' few] at value
  exact absurd value (Nat.ne_of_gt some_)

/--
Somebody who raised the counter, or who is about to, wakes up a sleeping
consumer for the item it waits for, and the consumer then finds the counter
changed.
-/
def Rings
    (protocol : Protocol)
    (reference : UInt32) :
    Prop :=
  (0 < protocol.raising ∧ protocol.counter + 1 ≠ reference) ∨
    (0 < protocol.notifying ∧ protocol.counter ≠ reference)

/-- The counter has not been raised in vain. -/
theorem Invariant.notifying
    (invariant : protocol.Invariant producers)
    {reference : UInt32}
    (sleeps : protocol.consumer = .sleeping reference)
    (changed : protocol.counter ≠ reference) :
    0 < protocol.notifying := by
  obtain ⟨raised, few, counter⟩ := invariant.asleep reference sleeps
  refine Nat.pos_of_ne_zero fun nobody => changed ?_
  have nothing : raised = 0 := Nat.le_zero.mp (few.trans_eq nobody)
  rw [counter, nothing]
  exact UInt32.add_zero _

/-- No wake-up is lost. -/
theorem Invariant.rings
    {items producers : Nat}
    (invariant : protocol.Invariant producers)
    (bounded : protocol.Bounded items producers)
    (few : items + producers < 2 ^ 32)
    (present : protocol.wanted → 0 < protocol.available)
    {reference : UInt32}
    (sleeps : protocol.consumer = .sleeping reference)
    (wanted : protocol.wanted) :
    protocol.Rings reference := by
  have isReference : protocol.consumer.reference? = some reference := by
    rw [sleeps]
    rfl
  have isPresent := present wanted
  have itemsPos : 0 < items := isPresent.trans_le bounded.available
  by_cases nobody : protocol.raising = 0
  · -- Whatever was offered is counted already.
    have changed : protocol.counter ≠ reference := by
      rcases invariant.checked reference isReference with isZero | missed
      · have balanced := invariant.balanced
        rw [nobody, invariant.settled reference isReference] at balanced
        have counter :
            protocol.counter = 0 + UInt32.ofNat protocol.available := by
          rw [UInt32.zero_add]
          exact (UInt32.add_zero _).symm.trans balanced
        rw [counter, isZero]
        exact add_ofNat_ne 0 isPresent
          ((bounded.available.trans (Nat.le_add_right _ _)).trans_lt few)
      · obtain ⟨before, offered, raised, counter, total, fewBefore,
          fewOffered, someOffered⟩ := missed
        rw [nobody, Nat.add_zero] at total
        rw [counter, total]
        refine add_ofNat_ne reference ?_ ?_
        · exact Nat.add_pos_right before (someOffered wanted)
        · rw [Nat.add_comm]
          exact (Nat.add_le_add (fewOffered.trans bounded.available)
            fewBefore).trans_lt few
    exact Or.inr ⟨invariant.notifying sleeps changed, changed⟩
  · -- Somebody raises the counter for the first time or once more.
    refine Or.inl ⟨Nat.pos_of_ne_zero nobody, ?_⟩
    rcases invariant.checked reference isReference with isZero | missed
    · obtain ⟨raised, fewRaised, counter⟩ := invariant.asleep reference sleeps
      have next :
          protocol.counter + 1 = reference + UInt32.ofNat (raised + 1) := by
        rw [counter, UInt32.ofNat_add, UInt32.add_assoc]
        rfl
      rw [next]
      refine add_ofNat_ne reference (Nat.succ_pos raised) ?_
      rw [Nat.add_comm]
      exact (Nat.add_le_add itemsPos
        (fewRaised.trans bounded.notifying)).trans_lt few
    · obtain ⟨before, offered, raised, counter, total, fewBefore,
        fewOffered, _⟩ := missed
      have next :
          protocol.counter + 1 = reference + UInt32.ofNat (raised + 1) := by
        rw [counter, UInt32.ofNat_add, UInt32.add_assoc]
        rfl
      have fewRaised : raised + 1 ≤ before + offered := by
        rw [← total]
        exact Nat.add_le_add_left (Nat.pos_of_ne_zero nobody) raised
      rw [next]
      refine add_ofNat_ne reference (Nat.succ_pos raised)
        (fewRaised.trans_lt ?_)
      rw [Nat.add_comm]
      exact (Nat.add_le_add (fewOffered.trans bounded.available)
        fewBefore).trans_lt few

end Protocol

end WakeUpCounter
