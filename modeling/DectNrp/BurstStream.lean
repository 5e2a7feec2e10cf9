import Mathlib.Data.List.Basic

namespace BurstStream

/-!
# Samples that are sent in bursts

A device is given samples send by send.  The first send of a burst is marked and
says at what time the burst starts, the last one is marked as the end, and the
samples of a burst follow each other without a gap.
-/

variable {Time Sample : Type}

structure Metadata (Time : Type) where
  startOfBurst : Bool
  endOfBurst : Bool
  hasTimeSpec : Bool
  timeSpec : Time
  deriving Repr, DecidableEq

structure Send (Time Sample : Type) where
  samples : List Sample
  metadata : Metadata Time
  deriving Repr, DecidableEq

/-- What the device makes of a send: a new burst, or more of the last one. -/
def addSend
    (bursts : List (List (Send Time Sample)))
    (send : Send Time Sample) :
    List (List (Send Time Sample)) :=
  if send.metadata.startOfBurst then
    bursts ++ [[send]]
  else
    match bursts.getLast? with
    | none => [[send]]
    | some burst => bursts.dropLast ++ [burst ++ [send]]

/-- Bursts that have ended, and one that goes on unless it is empty. -/
def withOpen
    (ended : List (List (Send Time Sample)))
    (burst : List (Send Time Sample)) :
    List (List (Send Time Sample)) :=
  if burst.isEmpty then
    ended
  else
    ended ++ [burst]

/-- How the next send of a burst is to be marked. -/
def nextMetadata
    (start : Time)
    (burst : List (Send Time Sample))
    (isEnd : Bool) :
    Metadata Time where
  startOfBurst := burst.isEmpty
  endOfBurst := isEnd
  hasTimeSpec := burst.isEmpty
  timeSpec := start

/--
Exactly the first send is marked as the start and has the time, and exactly the
last send of a burst that has ended is marked as its end.
-/
structure Marked
    (start : Time)
    (isEnded : Bool)
    (burst : List (Send Time Sample)) :
    Prop where
  starts :
    ∀ position send, burst[position]? = some send →
      send.metadata.startOfBurst = decide (position = 0) ∧
        send.metadata.hasTimeSpec = decide (position = 0) ∧
        send.metadata.timeSpec = start
  ends :
    ∀ position send, burst[position]? = some send →
      send.metadata.endOfBurst =
        (isEnded && decide (position + 1 = burst.length))

/-- Samples of a burst, in the order in which they are sent. -/
def samplesOf (burst : List (Send Time Sample)) : List Sample :=
  burst.flatMap Send.samples

variable
  {start : Time}
  {ended : List (List (Send Time Sample))}
  {burst : List (Send Time Sample)}

theorem Marked.nil : Marked start false ([] : List (Send Time Sample)) := by
  constructor
  · intro position send isSend
    cases isSend
  · intro position send isSend
    cases isSend

/-- A send with the right marks continues a burst or ends it. -/
theorem Marked.send
    (marked : Marked start false burst)
    (samples : List Sample)
    (isEnd : Bool) :
    Marked start isEnd
      (burst ++ [⟨samples, nextMetadata start burst isEnd⟩]) := by
  have isEmpty_iff : burst.isEmpty = decide (burst.length = 0) := by
    cases burst with
    | nil => rfl
    | cons first rest => rfl
  constructor
  · intro position send isSend
    rcases Nat.lt_or_ge position burst.length with earlier | later
    · rw [List.getElem?_append_left earlier] at isSend
      exact marked.starts position send isSend
    · rw [List.getElem?_append_right later] at isSend
      obtain ⟨isLast, isNew⟩ := List.getElem?_eq_some_iff.mp isSend
      have isPosition : position = burst.length := by
        rw [List.length_singleton] at isLast
        omega
      subst isPosition
      simp only [Nat.sub_self, List.getElem_cons_zero] at isNew
      subst isNew
      exact ⟨isEmpty_iff, isEmpty_iff, rfl⟩
  · intro position send isSend
    rw [List.length_append, List.length_singleton]
    rcases Nat.lt_or_ge position burst.length with earlier | later
    · rw [List.getElem?_append_left earlier] at isSend
      have notLast : ¬position + 1 = burst.length + 1 := by omega
      rw [marked.ends position send isSend, decide_eq_false notLast,
        Bool.and_false, Bool.false_and]
    · rw [List.getElem?_append_right later] at isSend
      obtain ⟨isLast, isNew⟩ := List.getElem?_eq_some_iff.mp isSend
      have isPosition : position = burst.length := by
        rw [List.length_singleton] at isLast
        omega
      subst isPosition
      simp only [Nat.sub_self, List.getElem_cons_zero] at isNew
      subst isNew
      rw [decide_eq_true rfl, Bool.and_true]
      rfl

/-- A send with the right marks goes to the burst that goes on. -/
theorem addSend_withOpen
    (samples : List Sample)
    (isEnd : Bool) :
    addSend (withOpen ended burst)
        ⟨samples, nextMetadata start burst isEnd⟩ =
      ended ++ [burst ++ [⟨samples, nextMetadata start burst isEnd⟩]] := by
  cases burst with
  | nil => rfl
  | cons first rest =>
      unfold addSend withOpen nextMetadata
      simp

theorem samplesOf_append
    (burst : List (Send Time Sample))
    (send : Send Time Sample) :
    samplesOf (burst ++ [send]) = samplesOf burst ++ send.samples := by
  simp [samplesOf]

/--
A value is sent at a time: the samples of a burst follow each other from the
time of its first send on.
-/
def SentAt
    (bursts : List (List (Send Int Sample)))
    (time : Int)
    (value : Sample) :
    Prop :=
  ∃ burst ∈ bursts, ∃ first, burst.head? = some first ∧
    first.metadata.hasTimeSpec = true ∧
    ∃ position : Nat,
      first.metadata.timeSpec + position = time ∧
        (samplesOf burst)[position]? = some value

variable {bursts : List (List (Send Int Sample))}

/-- A burst with the right marks sends its samples from its start on. -/
theorem Marked.sentAt
    {start : Int}
    {isEnded : Bool}
    {burst : List (Send Int Sample)}
    {position : Nat}
    {value : Sample}
    (marked : Marked start isEnded burst)
    (isBurst : burst ∈ bursts)
    (isSample : (samplesOf burst)[position]? = some value) :
    SentAt bursts (start + position) value := by
  cases burst with
  | nil => cases isSample
  | cons first rest =>
      obtain ⟨-, hasTime, isTime⟩ := marked.starts 0 first rfl
      refine ⟨first :: rest, isBurst, first, rfl, hasTime, position, ?_,
        isSample⟩
      rw [isTime]

/-- More bursts do not change what was sent. -/
theorem SentAt.append
    {time : Int}
    {value : Sample}
    (sentAt : SentAt bursts time value)
    (more : List (List (Send Int Sample))) :
    SentAt (bursts ++ more) time value := by
  obtain ⟨burst, isBurst, rest⟩ := sentAt
  exact ⟨burst, List.mem_append_left more isBurst, rest⟩

end BurstStream
