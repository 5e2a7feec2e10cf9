import DectNrp.Allocation
import DectNrp.CheckedRuns
import DectNrp.SlotArray

namespace DectNrp

/-!
# Queue of irregular reports

A firmware asks to be called at irregular times.  The reports wait in slots; the
slot of the earliest one and its time are remembered.  A worker that holds the
baton turns the earliest report into a job once no synchronization can be
earlier, and in between other workers may push further reports.
-/

open Function (update update_of_ne update_self)

structure IrregularReport where
  timeOfRecognition : Int
  callAsapAfterThisTimeHasPassed64 : Int
  handle : UInt32
  deriving Repr, DecidableEq

namespace IrregularReport

def undefinedLate : Int := int64Max

/-- A report without a time. -/
def default : IrregularReport where
  timeOfRecognition := undefinedEarly64
  callAsapAfterThisTimeHasPassed64 := undefinedLate
  handle := 0

def hasFiniteTime (irregularReport : IrregularReport) : Bool :=
  irregularReport.callAsapAfterThisTimeHasPassed64 < undefinedLate

def getRecognitionDelay (irregularReport : IrregularReport) : Checked Int :=
  int64
    (irregularReport.timeOfRecognition -
      irregularReport.callAsapAfterThisTimeHasPassed64)

/-- What the firmware asked for. -/
def request (irregularReport : IrregularReport) : Int × UInt32 :=
  (irregularReport.callAsapAfterThisTimeHasPassed64, irregularReport.handle)

end IrregularReport

/-- Slots, and the time and the slot of the next report. -/
structure IrregularQueue (maxIrregularCallbackPending : Nat) where
  nextTime64 : Int
  irregularReportArr : Fin maxIrregularCallbackPending → IrregularReport
  itNext : Option (Fin maxIrregularCallbackPending)

namespace IrregularQueue

variable {n : Nat}

def new (n : Nat) : IrregularQueue n where
  nextTime64 := IrregularReport.undefinedLate
  irregularReportArr _ := .default
  itNext := none

def push
    (queue : IrregularQueue n)
    (irregularReport : IrregularReport) :
    Checked (IrregularQueue n) := do
  dectnrpAssert irregularReport.hasFiniteTime "invalid"
  match SlotArray.firstFree IrregularReport.hasFiniteTime
      queue.irregularReportArr with
  | none => .error (.assertion "no space left")
  | some itNextCandidate =>
      let irregularReportArr :=
        Function.update queue.irregularReportArr itNextCandidate
          irregularReport
      if irregularReport.callAsapAfterThisTimeHasPassed64 <
          queue.nextTime64 then
        .ok ⟨irregularReport.callAsapAfterThisTimeHasPassed64,
          irregularReportArr, some itNextCandidate⟩
      else
        .ok { queue with irregularReportArr := irregularReportArr }

def getNextTime (queue : IrregularQueue n) : Int :=
  if queue.nextTime64 < IrregularReport.undefinedLate then
    queue.nextTime64
  else
    IrregularReport.undefinedLate

def pop
    (queue : IrregularQueue n) :
    Checked (IrregularReport × IrregularQueue n) :=
  match queue.itNext with
  | none => .error (.assertion "pop value does not exist")
  | some itNext =>
      let ret := queue.irregularReportArr itNext
      let irregularReportArr :=
        Function.update queue.irregularReportArr itNext .default
      match SlotArray.smallest
          IrregularReport.callAsapAfterThisTimeHasPassed64
          irregularReportArr with
      | none => .error (.readBeyond n)
      | some it =>
          if (irregularReportArr it).hasFiniteTime then
            .ok (ret,
              ⟨(irregularReportArr it).callAsapAfterThisTimeHasPassed64,
                irregularReportArr, some it⟩)
          else
            .ok (ret,
              ⟨IrregularReport.undefinedLate, irregularReportArr, none⟩)

/-- The reports that were pushed and not yet popped. -/
def pending (queue : IrregularQueue n) : Multiset IrregularReport :=
  SlotArray.held IrregularReport.hasFiniteTime queue.irregularReportArr

/-- A report of a multiset that is not later than any other one. -/
def IsEarliest
    (reports : Multiset IrregularReport)
    (irregularReport : IrregularReport) :
    Prop :=
  irregularReport ∈ reports ∧
    ∀ other ∈ reports,
      irregularReport.callAsapAfterThisTimeHasPassed64 ≤
        other.callAsapAfterThisTimeHasPassed64

/-- The next time is the earliest one, or undefined if there is none. -/
structure KnowsNextTime (queue : IrregularQueue n) : Prop where
  empty :
    queue.pending = 0 → queue.getNextTime = IrregularReport.undefinedLate
  earliest :
    queue.pending ≠ 0 →
      ∃ irregularReport,
        IsEarliest queue.pending irregularReport ∧
          queue.getNextTime =
            irregularReport.callAsapAfterThisTimeHasPassed64

/-- The slot and the time that are remembered are those of the next report. -/
structure Invariant (queue : IrregularQueue n) : Prop where
  free :
    ∀ idx, (queue.irregularReportArr idx).hasFiniteTime = false →
      queue.irregularReportArr idx = .default
  empty :
    queue.itNext = none →
      queue.nextTime64 = IrregularReport.undefinedLate ∧
        ∀ idx, (queue.irregularReportArr idx).hasFiniteTime = false
  next :
    ∀ itNext, queue.itNext = some itNext →
      (queue.irregularReportArr itNext).hasFiniteTime = true ∧
        queue.nextTime64 =
          (queue.irregularReportArr
            itNext).callAsapAfterThisTimeHasPassed64 ∧
        ∀ idx,
          (queue.irregularReportArr
              itNext).callAsapAfterThisTimeHasPassed64 ≤
            (queue.irregularReportArr idx).callAsapAfterThisTimeHasPassed64

variable {queue after : IrregularQueue n}
variable {irregularReport : IrregularReport}

theorem hasFiniteTime_iff :
    irregularReport.hasFiniteTime = true ↔
      irregularReport.callAsapAfterThisTimeHasPassed64 <
        IrregularReport.undefinedLate := by
  simp [IrregularReport.hasFiniteTime]

theorem default_hasFiniteTime :
    IrregularReport.default.hasFiniteTime = false := by
  decide

/-- A pending report is found in a slot. -/
theorem mem_pending :
    irregularReport ∈ queue.pending ↔
      ∃ idx,
        queue.irregularReportArr idx = irregularReport ∧
          irregularReport.hasFiniteTime = true :=
  SlotArray.mem_held

theorem Invariant.time_of_free
    (invariant : queue.Invariant)
    {idx : Fin n}
    (isFree : (queue.irregularReportArr idx).hasFiniteTime = false) :
    (queue.irregularReportArr idx).callAsapAfterThisTimeHasPassed64 =
      IrregularReport.undefinedLate := by
  rw [invariant.free idx isFree]
  rfl

theorem new_pending (n : Nat) : (new n).pending = 0 := by
  refine Multiset.eq_zero_of_forall_notMem ?_
  intro irregularReport isPending
  obtain ⟨idx, rfl, isFinite⟩ := mem_pending.mp isPending
  cases isFinite

theorem new_invariant (n : Nat) : (new n).Invariant :=
  ⟨fun _ _ => rfl, fun _ => ⟨rfl, fun _ => rfl⟩, by
    intro itNext isNext
    cases isNext⟩

/-- No report is pending exactly if no slot is remembered. -/
theorem Invariant.itNext_eq_none_iff (invariant : queue.Invariant) :
    queue.itNext = none ↔ queue.pending = 0 := by
  constructor
  · intro isNone
    refine Multiset.eq_zero_of_forall_notMem ?_
    intro irregularReport isPending
    obtain ⟨idx, rfl, isFinite⟩ := mem_pending.mp isPending
    rw [(invariant.empty isNone).2 idx] at isFinite
    cases isFinite
  · intro isEmpty
    cases isNext : queue.itNext with
    | none => rfl
    | some itNext =>
        have isPending : queue.irregularReportArr itNext ∈ queue.pending :=
          mem_pending.mpr ⟨itNext, rfl, (invariant.next itNext isNext).1⟩
        rw [isEmpty] at isPending
        cases Multiset.notMem_zero _ isPending

/-- The report of the slot that is remembered is the earliest one. -/
theorem Invariant.isEarliest
    (invariant : queue.Invariant)
    {itNext : Fin n}
    (isNext : queue.itNext = some itNext) :
    IsEarliest queue.pending (queue.irregularReportArr itNext) := by
  obtain ⟨isFinite, -, least⟩ := invariant.next itNext isNext
  refine ⟨mem_pending.mpr ⟨itNext, rfl, isFinite⟩, ?_⟩
  intro other isPending
  obtain ⟨idx, rfl, -⟩ := mem_pending.mp isPending
  exact least idx

theorem Invariant.knowsNextTime (invariant : queue.Invariant) :
    queue.KnowsNextTime := by
  constructor
  · intro isEmpty
    have isNone := invariant.itNext_eq_none_iff.mpr isEmpty
    rw [getNextTime, (invariant.empty isNone).1, if_neg (lt_irrefl _)]
  · intro notEmpty
    cases isNext : queue.itNext with
    | none => exact absurd (invariant.itNext_eq_none_iff.mp isNext) notEmpty
    | some itNext =>
        obtain ⟨isFinite, isTime, -⟩ := invariant.next itNext isNext
        refine ⟨_, invariant.isEarliest isNext, ?_⟩
        rw [getNextTime, isTime, if_pos (hasFiniteTime_iff.mp isFinite)]

theorem exists_firstFree (room : queue.pending.card < n) :
    ∃ idx,
      SlotArray.firstFree IrregularReport.hasFiniteTime
          queue.irregularReportArr =
        some idx :=
  Option.isSome_iff_exists.mp (SlotArray.firstFree_isSome_iff.mpr room)

/-- The next slot is remembered when a report is pushed. -/
theorem Invariant.stored
    (invariant : queue.Invariant)
    {itNextCandidate : Fin n}
    (isFinite : irregularReport.hasFiniteTime = true)
    (isFree : (queue.irregularReportArr itNextCandidate).hasFiniteTime = false)
    (returned :
      (if irregularReport.callAsapAfterThisTimeHasPassed64 <
          queue.nextTime64 then
        ⟨irregularReport.callAsapAfterThisTimeHasPassed64,
          update queue.irregularReportArr itNextCandidate irregularReport,
          some itNextCandidate⟩
      else
        { queue with
          irregularReportArr :=
            update queue.irregularReportArr itNextCandidate
              irregularReport }) =
        after) :
    after.Invariant := by
  have free (idx : Fin n) (isFreeAfter :
      (update queue.irregularReportArr itNextCandidate
        irregularReport idx).hasFiniteTime = false) :
      update queue.irregularReportArr itNextCandidate irregularReport idx =
        .default := by
    by_cases isCandidate : idx = itNextCandidate
    · subst isCandidate
      rw [update_self, isFinite] at isFreeAfter
      cases isFreeAfter
    · rw [update_of_ne isCandidate] at isFreeAfter ⊢
      exact invariant.free idx isFreeAfter
  split at returned
  · rename_i earlier
    subst returned
    refine ⟨free, ?_, ?_⟩
    · intro isNone
      cases isNone
    · intro itNext isNext
      obtain rfl := Option.some.inj isNext
      dsimp only
      rw [update_self]
      refine ⟨isFinite, rfl, ?_⟩
      intro idx
      by_cases isCandidate : idx = itNextCandidate
      · subst isCandidate
        rw [update_self]
      · rw [update_of_ne isCandidate]
        cases isBefore : queue.itNext with
        | none =>
            have isTime :=
              invariant.time_of_free ((invariant.empty isBefore).2 idx)
            have isLess := hasFiniteTime_iff.mp isFinite
            omega
        | some before =>
            obtain ⟨-, isTime, least⟩ := invariant.next before isBefore
            have notLess := least idx
            omega
  · rename_i notEarlier
    subst returned
    have different
        {itNext : Fin n}
        (isNext : queue.itNext = some itNext) :
        itNext ≠ itNextCandidate := by
      rintro rfl
      rw [(invariant.next _ isNext).1] at isFree
      cases isFree
    refine ⟨free, ?_, ?_⟩
    · intro isNone
      have isTime := (invariant.empty isNone).1
      have isLess := hasFiniteTime_iff.mp isFinite
      omega
    · intro itNext isNext
      obtain ⟨wasFinite, isTime, least⟩ := invariant.next itNext isNext
      dsimp only
      rw [update_of_ne (different isNext)]
      refine ⟨wasFinite, isTime, ?_⟩
      intro idx
      by_cases isCandidate : idx = itNextCandidate
      · subst isCandidate
        rw [update_self]
        omega
      · rw [update_of_ne isCandidate]
        exact least idx

/-- A report is pushed exactly if it has a time and there is room. -/
theorem push_spec (invariant : queue.Invariant) :
    (irregularReport.hasFiniteTime = true ∧ queue.pending.card < n →
        ∃ after,
          queue.push irregularReport = .ok after ∧
            after.pending = irregularReport ::ₘ queue.pending ∧
            after.Invariant) ∧
      (¬(irregularReport.hasFiniteTime = true ∧
          queue.pending.card < n) →
        ∃ message,
          queue.push irregularReport = .error (.assertion message)) := by
  constructor
  · rintro ⟨isFinite, room⟩
    obtain ⟨idx, isFirst⟩ := exists_firstFree room
    have isFree := SlotArray.firstFree_isFree isFirst
    unfold push
    rw [isFinite, dectnrpAssert_true, Checked.ok_bind, isFirst]
    dsimp only
    have stored :=
      @Invariant.stored n queue _ irregularReport invariant idx isFinite
        isFree rfl
    have added := SlotArray.held_store isFree isFinite
    split
    · rename_i earlier
      rw [if_pos earlier] at stored
      exact ⟨_, rfl, added, stored⟩
    · rename_i notEarlier
      rw [if_neg notEarlier] at stored
      exact ⟨_, rfl, added, stored⟩
  · intro notPushed
    unfold push
    cases isFinite : irregularReport.hasFiniteTime with
    | false => exact ⟨_, rfl⟩
    | true =>
        cases isFirst : SlotArray.firstFree IrregularReport.hasFiniteTime
            queue.irregularReportArr with
        | none => exact ⟨_, rfl⟩
        | some idx =>
            exfalso
            refine notPushed ⟨isFinite, ?_⟩
            refine SlotArray.firstFree_isSome_iff.mp ?_
            rw [isFirst]
            rfl

/-- The earliest report is popped if there is one. -/
theorem pop_spec (invariant : queue.Invariant) :
    (queue.pending ≠ 0 →
        ∃ irregularReport after,
          queue.pop = .ok (irregularReport, after) ∧
            IsEarliest queue.pending irregularReport ∧
            queue.pending = irregularReport ::ₘ after.pending ∧
            after.Invariant) ∧
      (queue.pending = 0 →
        ∃ message, queue.pop = .error (.assertion message)) := by
  constructor
  · intro notEmpty
    unfold pop
    cases isNext : queue.itNext with
    | none => exact absurd (invariant.itNext_eq_none_iff.mp isNext) notEmpty
    | some itNext =>
        dsimp only
        have isEarliest := invariant.isEarliest isNext
        have isFinite := (invariant.next itNext isNext).1
        have taken := SlotArray.held_free isFinite default_hasFiniteTime
        have free (idx : Fin n) (isFree :
            (update queue.irregularReportArr itNext .default
              idx).hasFiniteTime = false) :
            update queue.irregularReportArr itNext .default idx =
              .default := by
          by_cases isPopped : idx = itNext
          · subst isPopped
            exact update_self _ _ _
          · rw [update_of_ne isPopped] at isFree ⊢
            exact invariant.free idx isFree
        obtain ⟨it, isSmallest, -⟩ :=
          SlotArray.exists_smallest
            IrregularReport.callAsapAfterThisTimeHasPassed64
            (update queue.irregularReportArr itNext .default)
            itNext
        have least := SlotArray.smallest_le isSmallest
        rw [isSmallest]
        dsimp only
        split
        · rename_i isFiniteNext
          refine ⟨_, _, rfl, isEarliest, taken, free, ?_, ?_⟩
          · intro isNone
            cases isNone
          · intro next isSome
            obtain rfl := Option.some.inj isSome
            exact ⟨isFiniteNext, rfl, least⟩
        · rename_i notFinite
          refine ⟨_, _, rfl, isEarliest, taken, free, ?_, ?_⟩
          · intro _
            refine ⟨rfl, ?_⟩
            intro idx
            rw [Bool.eq_false_iff]
            intro isFiniteOther
            have isLess := hasFiniteTime_iff.mp isFiniteOther
            exact notFinite
                (hasFiniteTime_iff.mpr (Int.lt_of_le_of_lt (least idx) isLess))
          · intro next isSome
            cases isSome
  · intro isEmpty
    unfold pop
    rw [invariant.itNext_eq_none_iff.mpr isEmpty]
    exact ⟨_, rfl⟩

end IrregularQueue

end DectNrp
