import DectNrp.Octets

namespace DectNrp

/-!
# Runs of checked steps

A run calls one step after the other and ends with the first fault.  What holds
along a run is derived from an invariant and from what holds at each call.
-/

variable {State Call : Type}

/-- The fault that a computation has stopped at. -/
def Checked.fault? : Checked State → Option Fault
  | .ok _ => none
  | .error fault => some fault

theorem Checked.eq_error_of_fault?
    {checked : Checked State}
    {fault : Fault}
    (isFault : Checked.fault? checked = some fault) :
    checked = .error fault := by
  cases checked with
  | ok state => cases isFault
  | error other => exact congrArg Except.error (Option.some.inj isFault)

/-- A loop completes if and only if it completes for every item. -/
theorem Checked.forM_eq_ok
    {Item : Type}
    {check : Item → Checked Unit}
    {items : List Item} :
    items.forM check = .ok () ↔ ∀ item ∈ items, check item = .ok () := by
  induction items with
  | nil => exact ⟨fun _ => List.forall_mem_nil _, fun _ => rfl⟩
  | cons first rest hypothesis =>
      have unfolded : (first :: rest).forM check =
          (check first >>= fun _ => rest.forM check) :=
        rfl
      rw [unfolded, Checked.bind_eq_ok, List.forall_mem_cons, hypothesis]
      exact ⟨fun ⟨_, isFirst, isRest⟩ => ⟨isFirst, isRest⟩,
          fun ⟨isFirst, isRest⟩ => ⟨(), isFirst, isRest⟩⟩

/-- A loop that completes for every item collects the values. -/
theorem Checked.mapM_eq_ok
    {Item Value : Type}
    {compute : Item → Checked Value}
    {value : Item → Value}
    {items : List Item}
    (computed : ∀ item ∈ items, compute item = .ok (value item)) :
    items.mapM compute = .ok (items.map value) := by
  induction items with
  | nil => rfl
  | cons first rest hypothesis =>
      rw [List.mapM_cons, computed first List.mem_cons_self,
        hypothesis fun item member =>
          computed item (List.mem_cons_of_mem first member)]
      rfl

/-- Something holds at every call of a run that gets that far. -/
def AlongRun
    (step : State → Call → Checked State)
    (holds : State → Call → Prop) :
    State → List Call → Prop
  | _, [] => True
  | state, call :: calls =>
      holds state call ∧
        ∀ after, step state call = .ok after →
          AlongRun step holds after calls

instance AlongRun.decidable
    {step : State → Call → Checked State}
    {holds : State → Call → Prop}
    [∀ state call, Decidable (holds state call)]
    (state : State)
    (calls : List Call) :
    Decidable (AlongRun step holds state calls) :=
  match calls with
  | [] => .isTrue trivial
  | call :: calls =>
      match isStep : step state call with
      | .error _ =>
          decidable_of_iff (holds state call)
            ⟨fun now => ⟨now, fun after returned => by
              rw [isStep] at returned
              cases returned⟩, And.left⟩
      | .ok after =>
          have : Decidable (AlongRun step holds after calls) :=
            AlongRun.decidable after calls
          decidable_of_iff
            (holds state call ∧ AlongRun step holds after calls)
            (and_congr_right fun _ =>
              ⟨fun later other returned => by
                rw [isStep] at returned
                cases returned
                exact later, fun later => later after isStep⟩)

/--
What is the same at each call of a run is the same along the run.  The invariant
has to be kept only as long as it holds.
-/
theorem alongRun_iff_while
    {step : State → Call → Checked State}
    {invariant : State → Prop}
    {given first second : State → Call → Prop}
    (kept :
      ∀ {state call after},
        invariant state → given state call → first state call →
          step state call = .ok after → invariant after)
    (same :
      ∀ {state call},
        invariant state → given state call →
          (first state call ↔ second state call))
    {state : State}
    {calls : List Call}
    (holds : invariant state)
    (along : AlongRun step given state calls) :
    AlongRun step first state calls ↔ AlongRun step second state calls := by
  induction calls generalizing state with
  | nil => exact Iff.rfl
  | cons call calls hypothesis =>
      obtain ⟨now, later⟩ := along
      have rest (isFirst : first state call) (after : State)
          (returned : step state call = .ok after) :=
        hypothesis (kept holds now isFirst returned) (later after returned)
      constructor
      · rintro ⟨isFirst, onFirst⟩
        exact ⟨(same holds now).mp isFirst, fun after returned =>
            (rest isFirst after returned).mp (onFirst after returned)⟩
      · rintro ⟨isSecond, onSecond⟩
        have isFirst := (same holds now).mpr isSecond
        exact ⟨isFirst, fun after returned =>
            (rest isFirst after returned).mpr (onSecond after returned)⟩

variable {step : State → Call → Checked State}

variable {invariant : State → Prop}

/-- What is the same at each call of a run is the same along the run. -/
theorem alongRun_iff
    {given first second : State → Call → Prop}
    (kept :
      ∀ {state call after},
        invariant state → given state call →
          step state call = .ok after → invariant after)
    (same :
      ∀ {state call},
        invariant state → given state call →
          (first state call ↔ second state call))
    {state : State}
    {calls : List Call}
    (holds : invariant state)
    (along : AlongRun step given state calls) :
    AlongRun step first state calls ↔ AlongRun step second state calls :=
  alongRun_iff_while
    (fun isInvariant now _ => kept isInvariant now) same holds along

/-- What follows at each call of a run holds along the run. -/
theorem alongRun_of_invariant
    {step : State → Call → Checked State}
    {invariant : State → Prop}
    {given holds : State → Call → Prop}
    (kept :
      ∀ {state call after},
        invariant state → given state call →
          step state call = .ok after → invariant after)
    (follows :
      ∀ {state call}, invariant state → given state call → holds state call)
    {state : State}
    {calls : List Call}
    (initially : invariant state)
    (along : AlongRun step given state calls) :
    AlongRun step holds state calls :=
  (alongRun_iff kept
    (fun isInvariant now => ⟨fun _ => now, fun _ => follows isInvariant now⟩)
    initially along).mpr along

/-- Nothing is asked of any call. -/
theorem alongRun_true
    {state : State}
    (calls : List Call) :
    AlongRun step (fun _ _ => True) state calls := by
  induction calls generalizing state with
  | nil => trivial
  | cons call calls hypothesis => exact ⟨trivial, fun _ _ => hypothesis⟩

/-- What all calls keep holds at the end of a run. -/
theorem invariant_of_run
    {given : State → Call → Prop}
    (kept :
      ∀ {state call after},
        invariant state → given state call →
          step state call = .ok after → invariant after)
    {state after : State}
    {calls : List Call}
    (initially : invariant state)
    (along : AlongRun step given state calls)
    (returned : calls.foldlM step state = .ok after) :
    invariant after := by
  induction calls generalizing state with
  | nil =>
      cases returned
      exact initially
  | cons call calls hypothesis =>
      rw [List.foldlM_cons] at returned
      obtain ⟨between, isBetween, returned⟩ := Checked.bind_eq_ok.mp returned
      exact hypothesis (kept initially along.1 isBetween)
          (along.2 between isBetween) returned

end DectNrp
