import DectNrp.FixedTerminationLog
import DectNrp.IrregularQueue

namespace DectNrp

/-!
# Life cycle of the firmware

A termination point moves through its states by the irregular calls that it
asks for itself.  The main thread stops the firmware: it waits until the last
state is reached and closes the job queue only then.

In the steady state the periodic callbacks are run.  What the fixed termination
point does about its beacons there is left out.
-/

open Checked (ok_bind)

/-- The same report at a later time. -/
def IrregularReport.getSameWithTimeIncrement
    (irregularReport : IrregularReport)
    (timeIncrement64 : Int) :
    Checked IrregularReport := do
  dectnrpAssert irregularReport.hasFiniteTime "has no finite time"
  dectnrpAssert (0 < timeIncrement64) "increment must be positive"
  dectnrpAssert (timeIncrement64 < undefinedLate)
    "increment must be finite"
  pure
    { irregularReport with
      timeOfRecognition := undefinedEarly64
      callAsapAfterThisTimeHasPassed64 :=
        irregularReport.callAsapAfterThisTimeHasPassed64 +
          timeIncrement64 }

namespace P2p

/-- Fixed or portable termination point. -/
inductive Role where
  | ft
  | pt
  deriving Repr, DecidableEq

/-- States of the fixed and of the portable termination point. -/
inductive TpointState where
  | resource
  | association
  | steady
  | dissociation
  | nop
  deriving Repr, DecidableEq

/-- State of a termination point that has been constructed. -/
def Role.first : Role → TpointState
  | .ft => .resource
  | .pt => .association

/-- Handle of the calls in the state of association. -/
def associationHandle : UInt32 := 123

/-- Handle of the calls in the state of dissociation. -/
def Role.dissociationHandle : Role → UInt32
  | .ft => 1234
  | .pt => 12345

/--
Durations in samples.  The fixed termination point is called ahead of the next
beacon, which is scheduled for some time after a call.
-/
structure Durations where
  sampRate : UInt32
  ms100 : UInt32
  ms500 : UInt32
  beaconPeriod : UInt32
  nextBeacon : Int → Int
  isRate : 1000 ≤ sampRate
  positive : 0 < beaconPeriod
  finite :
    ∀ now64 < 2 ^ 62, nextBeacon now64 < IrregularReport.undefinedLate

/-- What the states share, and whether the main thread is released. -/
structure TfwP2pRd where
  startTimeIqStreaming64 : Int
  tpointState : TpointState
  isShuttingDown : Bool
  stopReleased : Bool
  callbacks : Callbacks Unit Unit 4

/-- A report that has not been recognized. -/
def report (time64 : Int) (handle : UInt32) : IrregularReport where
  timeOfRecognition := undefinedEarly64
  callAsapAfterThisTimeHasPassed64 := time64
  handle := handle

variable (role : Role)
variable (durations : Durations)

/-- Time from a full second to the first log. -/
def Role.logDelay : Role → Int
  | .ft => getNSamplesFromDuration durations.sampRate .ms001 500
  | .pt => getNSamplesFromDuration durations.sampRate .s001 1

/-- Report that a state returns when it is entered. -/
def entry
    (now64 : Int)
    (rd : TfwP2pRd) :
    TpointState → Checked (IrregularReport × TfwP2pRd)
  | .resource =>
      pure
        (report (rd.startTimeIqStreaming64 + durations.ms500.toNat) 0, rd)
  | .association =>
      pure
        (report (rd.startTimeIqStreaming64 + durations.ms100.toNat)
          associationHandle, rd)
  | .steady => do
      let A ← getNSamplesAtNextFullSecond durations.sampRate now64
      let log64 ← int64 (A + role.logDelay durations)
      let (_, callbacks) ←
        rd.callbacks.addCallback worksubCallbackLog log64
          (getNSamplesFromDuration durations.sampRate .s001 2)
      let time64 :=
        match role with
        | .ft => durations.nextBeacon now64
        | .pt => now64 + durations.beaconPeriod.toNat
      pure (report time64 0, { rd with callbacks := callbacks })
  | .dissociation => do
      dectnrpAssert rd.isShuttingDown "not shutting down"
      pure
        (report (now64 + durations.ms100.toNat) role.dissociationHandle, rd)
  | .nop => pure (.default, rd)

/-- The active state asks for the next one. -/
def stateTransitions
    (now64 : Int)
    (rd : TfwP2pRd) :
    Checked (IrregularReport × TfwP2pRd) :=
  match rd.tpointState with
  | .resource | .association => do
      let (ret, rd) ← entry role durations now64 rd .steady
      if rd.isShuttingDown then do
        let (ret, rd) ← entry role durations now64 rd .dissociation
        pure (ret, { rd with tpointState := .dissociation })
      else
        pure (ret, { rd with tpointState := .steady })
  | .steady => do
      let (ret, rd) ← entry role durations now64 rd .dissociation
      pure (ret, { rd with tpointState := .dissociation })
  | .dissociation =>
      pure
        (.default, { rd with tpointState := .nop, stopReleased := true })
  | .nop => pure (.default, rd)

/-- An irregular call of the active state. -/
def workIrregular
    (irregularReport : IrregularReport)
    (now64 : Int)
    (rd : TfwP2pRd) :
    Checked (IrregularReport × TfwP2pRd) :=
  match rd.tpointState with
  | .resource => stateTransitions role durations now64 rd
  | .association => do
      dectnrpAssert (irregularReport.handle = associationHandle)
        "incorrect handle"
      stateTransitions role durations now64 rd
  | .steady =>
      if rd.isShuttingDown then
        stateTransitions role durations now64 rd
      else do
        let run ← rd.callbacks.run () now64
        let ret ←
          match role with
          | .ft => pure (report (durations.nextBeacon now64) 0)
          | .pt =>
              irregularReport.getSameWithTimeIncrement
                durations.beaconPeriod.toNat
        pure (ret, { rd with callbacks := run.callbacks })
  | .dissociation =>
      if irregularReport.handle = role.dissociationHandle then
        stateTransitions role durations now64 rd
      else
        pure (.default, rd)
  | .nop => pure (.default, rd)

/-- The firmware, its reports that wait to be handed over, and the job queue. -/
structure Firmware where
  started : Bool
  rd : TfwP2pRd
  outstanding : List IrregularReport
  permeable : Bool

/-- Calls of the workers, and what the main thread does to stop the firmware. -/
inductive FirmwareEvent where
  | workStart (startTime64 : Int)
  | workIrregular (irregularReport : IrregularReport) (now64 : Int)
  | workStop
  | setImpermeable
  deriving Repr, DecidableEq

namespace Firmware

/-- A termination point that has been constructed. -/
def new : Firmware where
  started := false
  rd :=
    { startTimeIqStreaming64 := undefinedEarly64
      tpointState := role.first
      isShuttingDown := false
      stopReleased := false
      callbacks := .new 4 }
  outstanding := []
  permeable := true

/-- Reports without a time are not pushed. -/
def push
    (outstanding : List IrregularReport)
    (irregularReport : IrregularReport) :
    List IrregularReport :=
  if irregularReport.hasFiniteTime then
    outstanding ++ [irregularReport]
  else
    outstanding

def step
    (firmware : Firmware) :
    FirmwareEvent → Checked Firmware
  | .workStart startTime64 => do
      let rd := { firmware.rd with startTimeIqStreaming64 := startTime64 }
      let (ret, rd) ← entry role durations startTime64 rd rd.tpointState
      if ret.hasFiniteTime then
        dectnrpAssert (startTime64 ≤ ret.callAsapAfterThisTimeHasPassed64)
          "first irregular callback must not occur before IQ streaming begins"
      pure { firmware with
        started := true
        rd := rd
        outstanding := push firmware.outstanding ret }
  | .workIrregular irregularReport now64 => do
      let (ret, rd) ←
        P2p.workIrregular role durations irregularReport now64 firmware.rd
      pure { firmware with
        rd := rd
        outstanding :=
          push (firmware.outstanding.erase irregularReport) ret }
  | .workStop =>
      pure { firmware with
        rd := { firmware.rd with isShuttingDown := true } }
  | .setImpermeable => pure { firmware with permeable := false }

/--
The firmware is started once, a report is handed over after its time has passed
and before a log is skipped, and the main thread goes on when it is released.
-/
def Permits
    (firmware : Firmware) :
    FirmwareEvent → Prop
  | .workStart startTime64 =>
      firmware.started = false ∧ startTime64 < 2 ^ 62
  | .workIrregular irregularReport now64 =>
      irregularReport ∈ firmware.outstanding ∧
        irregularReport.callAsapAfterThisTimeHasPassed64 ≤ now64 ∧
        (0 ≤ now64 ∧ now64 < 2 ^ 62) ∧
        (firmware.rd.tpointState = .steady →
          Callbacks.AllOneDueTime now64 firmware.rd.callbacks)
  | .workStop => True
  | .setImpermeable => firmware.rd.stopReleased = true

instance (firmware : Firmware) :
    (event : FirmwareEvent) → Decidable (firmware.Permits event)
  | .workStart _ => inferInstanceAs (Decidable (_ ∧ _))
  | .workIrregular _ _ =>
      inferInstanceAs (Decidable (_ ∧ _ ∧ (_ ∧ _) ∧ (_ → _)))
  | .workStop => inferInstanceAs (Decidable True)
  | .setImpermeable => inferInstanceAs (Decidable (_ = _))

end Firmware

/-- The state after an irregular call. -/
def TpointState.next (isShuttingDown : Bool) : TpointState → TpointState
  | .resource | .association | .steady =>
      if isShuttingDown then .dissociation else .steady
  | .dissociation | .nop => .nop

/-- Whether a state belongs to a role, and goes on with a handle. -/
def Role.Awaits (handle : UInt32) : TpointState → Prop
  | .resource => role = .ft
  | .association => role = .pt ∧ handle = associationHandle
  | .steady => True
  | .dissociation => handle = role.dissociationHandle
  | .nop => False

/-- The log is added when the steady state is entered. -/
def TfwP2pRd.CallbacksReady (rd : TfwP2pRd) : Prop :=
  match rd.tpointState with
  | .resource | .association => rd.callbacks = .new 4
  | .steady => rd.callbacks.Ready
  | .dissociation | .nop => True

/--
One report is outstanding until the last state is reached, which happens only
after the main thread asked for it, and the job queue is open until then.
-/
structure LifeCycle (firmware : Firmware) : Prop where
  new :
    firmware.started = false →
      firmware.rd.tpointState = role.first ∧ firmware.outstanding = []
  outstanding :
    firmware.started = true → firmware.rd.tpointState ≠ .nop →
      ∃ irregularReport,
        firmware.outstanding = [irregularReport] ∧
          role.Awaits irregularReport.handle firmware.rd.tpointState
  finished :
    firmware.rd.tpointState = .nop → firmware.outstanding = []
  leaves :
    firmware.rd.tpointState = .dissociation ∨
        firmware.rd.tpointState = .nop →
      firmware.rd.isShuttingDown = true
  released :
    firmware.rd.stopReleased = true ↔ firmware.rd.tpointState = .nop
  closed : firmware.permeable = false → firmware.rd.tpointState = .nop
  callbacks : firmware.rd.CallbacksReady

/-- A report leads to a call that the state waits for. -/
def Role.Expects
    (irregularReport : IrregularReport)
    (state : TpointState) :
    Prop :=
  if state = .nop then
    irregularReport.hasFiniteTime = false
  else
    irregularReport.hasFiniteTime = true ∧
      role.Awaits irregularReport.handle state

/-- Irregular calls that are left once the firmware shuts down. -/
def TpointState.remaining : TpointState → Nat
  | .resource | .association | .steady => 2
  | .dissociation => 1
  | .nop => 0

def FirmwareEvent.isWorkIrregular : FirmwareEvent → Bool
  | .workIrregular _ _ => true
  | _ => false

/-- Irregular calls from then on that the firmware shuts down. -/
def stopCalls : Bool → List FirmwareEvent → Nat
  | _, [] => 0
  | isShuttingDown, event :: events =>
      (isShuttingDown && event.isWorkIrregular).toNat +
        stopCalls (isShuttingDown || event == FirmwareEvent.workStop) events

variable {role : Role}
variable {durations : Durations}
variable {now64 time64 : Int}
variable {handle : UInt32}
variable {irregularReport : IrregularReport}
variable {rd : TfwP2pRd}
variable {firmware : Firmware}
variable {event : FirmwareEvent}

theorem report_hasFiniteTime (early : time64 < IrregularReport.undefinedLate) :
    (report time64 handle).hasFiniteTime = true :=
  IrregularQueue.hasFiniteTime_iff.mpr early

/-- A duration does not lead out of the range of times. -/
theorem add_lt_undefinedLate
    (early : now64 < 2 ^ 62)
    (duration : UInt32) :
    now64 + duration.toNat < IrregularReport.undefinedLate := by
  have := duration.toNat_lt
  unfold IrregularReport.undefinedLate int64Max
  omega

/-- A report whose time has passed can be asked for again. -/
theorem getSameWithTimeIncrement_spec
    (passed : irregularReport.callAsapAfterThisTimeHasPassed64 ≤ now64)
    (early : now64 < 2 ^ 62)
    {duration : UInt32}
    (positive : 0 < duration) :
    ∃ later,
      irregularReport.getSameWithTimeIncrement duration.toNat = .ok later ∧
        later.hasFiniteTime = true := by
  have bound := add_lt_undefinedLate early duration
  have later := add_lt_undefinedLate (lt_of_le_of_lt passed early) duration
  have isPositive : (0 : Int) < duration.toNat := by
    exact_mod_cast UInt32.lt_iff_toNat_lt.mp positive
  have isFinite : irregularReport.hasFiniteTime = true :=
    IrregularQueue.hasFiniteTime_iff.mpr (by omega)
  have isShort : (duration.toNat : Int) < IrregularReport.undefinedLate := by
    have := duration.toNat_lt
    unfold IrregularReport.undefinedLate int64Max
    omega
  unfold IrregularReport.getSameWithTimeIncrement
  rw [isFinite, decide_eq_true isPositive, decide_eq_true isShort]
  exact ⟨_, rfl, IrregularQueue.hasFiniteTime_iff.mpr later⟩

/-- The first report is due after the start. -/
theorem entry_first (early : rd.startTimeIqStreaming64 < 2 ^ 62) :
    ∃ ret,
      entry role durations now64 rd role.first = .ok (ret, rd) ∧
        role.Expects ret role.first ∧
          rd.startTimeIqStreaming64 ≤
            ret.callAsapAfterThisTimeHasPassed64 := by
  have isLater (duration : UInt32) :
      rd.startTimeIqStreaming64 ≤ rd.startTimeIqStreaming64 + duration.toNat :=
    Int.le_add_of_nonneg_right (Int.natCast_nonneg _)
  have isFinite := add_lt_undefinedLate early
  cases role with
  | ft => exact ⟨_, rfl, ⟨report_hasFiniteTime (isFinite _), rfl⟩, isLater _⟩
  | pt =>
      exact ⟨_, rfl, ⟨report_hasFiniteTime (isFinite _), rfl, rfl⟩, isLater _⟩

/-- The next full second is at most one second away. -/
theorem getNSamplesAtNextFullSecond_eq_ok
    {sampRate : UInt32}
    (isRate : 1000 ≤ sampRate)
    (notNegative : 0 ≤ now64)
    (early : now64 < 2 ^ 62) :
    ∃ A,
      getNSamplesAtNextFullSecond sampRate now64 = .ok A ∧
        0 ≤ A ∧ A ≤ now64 + sampRate.toNat := by
  have positive : 1000 ≤ sampRate.toNat := UInt32.le_iff_toNat_le.mp isRate
  have bounded := sampRate.toNat_lt
  have isRate : decide (1 ≤ sampRate) = true := by
    refine decide_eq_true (UInt32.le_iff_toNat_le.mpr ?_)
    exact le_trans (by decide : 1 ≤ 1000) positive
  have lower : 0 ≤ now64.tdiv sampRate.toNat * sampRate.toNat :=
    Int.mul_nonneg (Int.tdiv_nonneg notNegative (Int.natCast_nonneg _))
      (Int.natCast_nonneg _)
  have upper : now64.tdiv sampRate.toNat * sampRate.toNat ≤ now64 := by
    rw [Int.tdiv_eq_ediv_of_nonneg notNegative]
    exact Int.ediv_mul_le _ (by omega)
  unfold getNSamplesAtNextFullSecond
  rw [isRate, dectnrpAssert_true, ok_bind]
  dsimp only
  split
  · rw [int64_eq_ok (by omega) (by unfold int64Max; omega)]
    exact ⟨_, rfl, by omega, by omega⟩
  · exact ⟨_, rfl, lower, by omega⟩

/-- The log is first written within a second. -/
theorem logDelay_bounds
    (role : Role)
    (durations : Durations) :
    0 < role.logDelay durations ∧
      role.logDelay durations ≤ durations.sampRate.toNat := by
  have seconds := seconds_eq durations.sampRate 1
  have half := halfSecond_eq durations.sampRate
  have one : UInt32.toNat 1 = 1 := rfl
  have isRate : 1000 ≤ durations.sampRate.toNat :=
    UInt32.le_iff_toNat_le.mp durations.isRate
  rw [one] at seconds
  unfold Role.logDelay
  cases role with
  | ft =>
      dsimp only
      omega
  | pt =>
      dsimp only
      omega

/-- The steady state is entered with a report of its own, and a log. -/
theorem entry_steady
    (notNegative : 0 ≤ now64)
    (early : now64 < 2 ^ 62)
    (fresh : rd.callbacks = .new 4) :
    ∃ ret callbacks,
      entry role durations now64 rd .steady =
          .ok (ret, { rd with callbacks := callbacks }) ∧
        role.Expects ret .steady ∧ callbacks.Ready := by
  obtain ⟨A, isA, lower, upper⟩ :=
    getNSamplesAtNextFullSecond_eq_ok durations.isRate notNegative early
  obtain ⟨delayed, soon⟩ := logDelay_bounds role durations
  have bounded := durations.sampRate.toNat_lt
  have period := seconds_eq durations.sampRate 2
  have two : UInt32.toNat 2 = 2 := rfl
  rw [two] at period
  obtain ⟨callbacks, isAdded⟩ : ∃ callbacks,
        (Callbacks.new 4).addCallback worksubCallbackLog
            (A + role.logDelay durations)
            (getNSamplesFromDuration durations.sampRate .s001 2) =
          .ok (some 0, callbacks) :=
    ⟨_, rfl⟩
  unfold entry
  rw [isA, ok_bind,
    int64_eq_ok (by omega) (by unfold int64Max; omega), ok_bind, fresh,
    isAdded, ok_bind]
  refine ⟨_, callbacks, rfl, ⟨?_, trivial⟩,
      .of_added ⟨worksubCallbackLog_lawful, by omega, by omega⟩ isAdded⟩
  cases role with
  | ft => exact report_hasFiniteTime (durations.finite now64 early)
  | pt => exact report_hasFiniteTime (add_lt_undefinedLate early _)

/-- A firmware that shuts down enters the dissociation. -/
theorem entry_dissociation
    (early : now64 < 2 ^ 62)
    (isShuttingDown : rd.isShuttingDown = true) :
    ∃ ret,
      entry role durations now64 rd .dissociation = .ok (ret, rd) ∧
        role.Expects ret .dissociation := by
  unfold entry
  rw [isShuttingDown]
  exact ⟨_, rfl, report_hasFiniteTime (add_lt_undefinedLate early _), rfl⟩

/-- The active state, and whether the main thread is released. -/
def TfwP2pRd.next
    (rd : TfwP2pRd)
    (callbacks : Callbacks Unit Unit 4) :
    TfwP2pRd :=
  { rd with
    tpointState := rd.tpointState.next rd.isShuttingDown
    stopReleased :=
      rd.stopReleased || rd.tpointState == TpointState.dissociation
    callbacks := callbacks }

/-- The active state hands over to the next one. -/
theorem stateTransitions_spec
    (notNegative : 0 ≤ now64)
    (early : now64 < 2 ^ 62)
    (active : rd.tpointState ≠ .nop)
    (leaves : rd.tpointState = .steady → rd.isShuttingDown = true)
    (ready : rd.CallbacksReady) :
    ∃ ret callbacks,
      stateTransitions role durations now64 rd =
          .ok (ret, rd.next callbacks) ∧
        role.Expects ret (rd.next callbacks).tpointState ∧
          (rd.next callbacks).CallbacksReady := by
  have enter := @entry_steady role durations now64 rd notNegative early
  have leave (callbacks : Callbacks Unit Unit 4) :=
    @entry_dissociation role durations now64
      { rd with callbacks := callbacks } early
  obtain ⟨start64, state, isShuttingDown, stopReleased, callbacks⟩ := rd
  cases state with
  | resource | association =>
      obtain ⟨steadyRet, added, isSteady, expectsSteady, isReady⟩ :=
        enter ready
      unfold stateTransitions
      cases isShuttingDown with
      | false =>
          exact ⟨steadyRet, added,
              by simp [isSteady, TfwP2pRd.next, TpointState.next],
              expectsSteady, isReady⟩
      | true =>
          obtain ⟨ret, isDissociation, expects⟩ := leave added rfl
          exact ⟨ret, added, by
              simp [isSteady, isDissociation, TfwP2pRd.next, TpointState.next],
              expects, trivial⟩
  | steady =>
      cases leaves rfl
      obtain ⟨ret, isDissociation, expects⟩ := leave callbacks rfl
      unfold stateTransitions
      exact ⟨ret, callbacks,
          by simp [isDissociation, TfwP2pRd.next, TpointState.next],
          expects, trivial⟩
  | dissociation =>
      exact ⟨.default, callbacks,
          by simp [stateTransitions, TfwP2pRd.next, TpointState.next],
          IrregularQueue.default_hasFiniteTime, trivial⟩
  | nop => exact (active rfl).elim

/-- A call that was waited for is answered as the state says. -/
theorem workIrregular_spec
    (awaits : role.Awaits irregularReport.handle rd.tpointState)
    (passed : irregularReport.callAsapAfterThisTimeHasPassed64 ≤ now64)
    (notNegative : 0 ≤ now64)
    (early : now64 < 2 ^ 62)
    (ready : rd.CallbacksReady)
    (oneDueTime :
      rd.tpointState = .steady → Callbacks.AllOneDueTime now64 rd.callbacks) :
    ∃ ret callbacks,
      workIrregular role durations irregularReport now64 rd =
          .ok (ret, rd.next callbacks) ∧
        role.Expects ret (rd.next callbacks).tpointState ∧
          (rd.next callbacks).CallbacksReady := by
  have transitions :=
    @stateTransitions_spec role durations now64 rd notNegative early
  obtain ⟨start64, state, isShuttingDown, stopReleased, callbacks⟩ := rd
  unfold workIrregular
  cases state with
  | resource => exact transitions nofun nofun ready
  | association =>
      rw [awaits.2]
      exact transitions nofun nofun ready
  | steady =>
      cases isShuttingDown with
      | true => exact transitions nofun (fun _ => rfl) ready
      | false =>
          have isReady : callbacks.Ready := ready
          obtain ⟨run, isRun, -, stillReady⟩ :=
            @Callbacks.Ready.run _ _ _ _ _ isReady ()
              (by unfold int64Max; omega) (oneDueTime rfl)
          cases role with
          | ft =>
              exact ⟨_, run.callbacks,
                  by simp [isRun, TfwP2pRd.next, TpointState.next]; rfl,
                  ⟨report_hasFiniteTime (durations.finite now64 early),
                    trivial⟩, stillReady⟩
          | pt =>
              obtain ⟨ret, isRet, finite⟩ :=
                getSameWithTimeIncrement_spec passed early durations.positive
              exact ⟨ret, run.callbacks,
                  by simp [isRun, isRet, TfwP2pRd.next, TpointState.next],
                  ⟨finite, trivial⟩, stillReady⟩
  | dissociation =>
      have isHandle : irregularReport.handle = role.dissociationHandle :=
        awaits
      simp only [isHandle, if_true]
      exact transitions nofun nofun ready
  | nop => exact awaits.elim

namespace Firmware

/-- How a call brings the firmware closer to its end. -/
structure Moves
    (firmware : Firmware)
    (event : FirmwareEvent)
    (after : Firmware) :
    Prop where
  isShuttingDown :
    after.rd.isShuttingDown =
      (firmware.rd.isShuttingDown || event == FirmwareEvent.workStop)
  remaining :
    after.rd.tpointState.remaining +
        (firmware.rd.isShuttingDown && event.isWorkIrregular).toNat =
      firmware.rd.tpointState.remaining

theorem push_of_expects
    {state : TpointState}
    (expects : role.Expects irregularReport state)
    (active : state ≠ .nop) :
    push [] irregularReport = [irregularReport] ∧
      role.Awaits irregularReport.handle state := by
  rw [Role.Expects, if_neg active] at expects
  exact ⟨if_pos expects.1, expects.2⟩

end Firmware

/-- The first report is the only one that is outstanding. -/
theorem LifeCycle.of_workStart
    {startTime64 : Int}
    (lifeCycle : LifeCycle role firmware)
    (permits : firmware.Permits (.workStart startTime64)) :
    ∃ after,
      firmware.step role durations (.workStart startTime64) = .ok after ∧
        LifeCycle role after ∧
          firmware.Moves (.workStart startTime64) after := by
  obtain ⟨started, ⟨start64, state, isShuttingDown, stopReleased, callbacks⟩,
    outstanding, permeable⟩ := firmware
  obtain ⟨rfl, early⟩ := permits
  obtain ⟨rfl, rfl⟩ := lifeCycle.new rfl
  have active : role.first ≠ .nop := by cases role <;> decide
  obtain ⟨ret, isRet, expects, isLater⟩ :=
    @entry_first role durations startTime64
      ⟨startTime64, role.first, isShuttingDown, stopReleased, callbacks⟩
      early
  obtain ⟨isPushed, awaits⟩ := Firmware.push_of_expects expects active
  exact ⟨⟨true,
        ⟨startTime64, role.first, isShuttingDown, stopReleased, callbacks⟩,
        [ret], permeable⟩,
      by
        dsimp only at isLater
        simp [Firmware.step, isRet, isLater, isPushed],
      { new := nofun
        outstanding := fun _ _ => ⟨ret, rfl, awaits⟩
        finished := fun isNop => (active isNop).elim
        leaves := lifeCycle.leaves
        released := lifeCycle.released
        closed := lifeCycle.closed
        callbacks := lifeCycle.callbacks },
      (Bool.or_false _).symm, by simp [FirmwareEvent.isWorkIrregular]⟩

section

variable {isShuttingDown : Bool}
variable {state : TpointState}

theorem TpointState.next_eq_nop (active : state ≠ .nop) :
    state.next isShuttingDown = .nop ↔ state = .dissociation := by
  cases isShuttingDown <;> cases state <;> simp_all [TpointState.next]

variable
  (leaves : state = .dissociation ∨ state = .nop → isShuttingDown = true)

include leaves

/-- Only a firmware that shuts down leaves the steady state. -/
theorem TpointState.isShuttingDown_of_next
    (left :
      state.next isShuttingDown = .dissociation ∨
        state.next isShuttingDown = .nop) :
    isShuttingDown = true := by
  cases isShuttingDown with
  | true => rfl
  | false => cases state <;> simp_all [TpointState.next]

/-- A firmware that shuts down has one call less to come. -/
theorem TpointState.remaining_next (active : state ≠ .nop) :
    (state.next isShuttingDown).remaining + isShuttingDown.toNat =
      state.remaining := by
  cases isShuttingDown <;> cases state <;>
    simp_all [TpointState.next, TpointState.remaining]

end

/-- The report that is handed over was the only one, and is replaced or not. -/
theorem LifeCycle.of_workIrregular
    (lifeCycle : LifeCycle role firmware)
    (permits : firmware.Permits (.workIrregular irregularReport now64)) :
    ∃ after,
      firmware.step role durations (.workIrregular irregularReport now64) =
          .ok after ∧
        LifeCycle role after ∧
          firmware.Moves (.workIrregular irregularReport now64) after := by
  obtain ⟨member, passed, ⟨notNegative, early⟩, oneDueTime⟩ := permits
  have isStarted : firmware.started = true := by
    by_contra isNew
    rw [(lifeCycle.new (Bool.eq_false_iff.mpr isNew)).2] at member
    cases member
  have active : firmware.rd.tpointState ≠ .nop := by
    intro isNop
    rw [lifeCycle.finished isNop] at member
    cases member
  obtain ⟨only, isOnly, awaits⟩ := lifeCycle.outstanding isStarted active
  obtain rfl : irregularReport = only := by
    rw [isOnly] at member
    exact List.mem_singleton.mp member
  obtain ⟨ret, callbacks, isRet, expects, ready⟩ :=
    @workIrregular_spec role durations now64 irregularReport firmware.rd
      awaits passed notNegative early lifeCycle.callbacks oneDueTime
  refine ⟨_, by simp [Firmware.step, isRet, isOnly]; rfl, ?_, ?_⟩
  · exact
      { new := fun isNew => nomatch isStarted.symm.trans isNew
        outstanding := fun _ goesOn =>
          ⟨ret, Firmware.push_of_expects expects goesOn⟩
        finished := fun isNop => by
          rw [Role.Expects, if_pos isNop] at expects
          exact if_neg (Bool.eq_false_iff.mp expects)
        leaves := fun leaves =>
          TpointState.isShuttingDown_of_next lifeCycle.leaves leaves
        released := by
          rw [TfwP2pRd.next, TpointState.next_eq_nop active, Bool.or_eq_true,
            beq_iff_eq, lifeCycle.released]
          exact or_iff_right active
        closed := fun isClosed => (active (lifeCycle.closed isClosed)).elim
        callbacks := ready }
  · refine ⟨(Bool.or_false _).symm, ?_⟩
    rw [FirmwareEvent.isWorkIrregular, Bool.and_true]
    exact TpointState.remaining_next lifeCycle.leaves active

/-- A permitted call returns and leaves the life cycle intact. -/
theorem LifeCycle.step
    (lifeCycle : LifeCycle role firmware)
    (permits : firmware.Permits event) :
    ∃ after,
      firmware.step role durations event = .ok after ∧
        LifeCycle role after ∧ firmware.Moves event after := by
  cases event with
  | workStart startTime64 => exact lifeCycle.of_workStart permits
  | workIrregular irregularReport now64 =>
      exact lifeCycle.of_workIrregular permits
  | workStop =>
      exact ⟨_, rfl,
          { new := lifeCycle.new
            outstanding := lifeCycle.outstanding
            finished := lifeCycle.finished
            leaves := fun _ => rfl
            released := lifeCycle.released
            closed := lifeCycle.closed
            callbacks := lifeCycle.callbacks },
          (Bool.or_true _).symm, by simp [FirmwareEvent.isWorkIrregular]⟩
  | setImpermeable =>
      exact ⟨_, rfl,
          { lifeCycle with closed := fun _ => lifeCycle.released.mp permits },
          (Bool.or_false _).symm, by simp [FirmwareEvent.isWorkIrregular]⟩

theorem LifeCycle.stopReleased_iff (lifeCycle : LifeCycle role firmware) :
    firmware.rd.stopReleased = true ↔
      firmware.rd.tpointState.remaining = 0 := by
  rw [lifeCycle.released]
  cases firmware.rd.tpointState <;> simp [TpointState.remaining]

variable {events : List FirmwareEvent}

/-- Each irregular call after a request to stop leads closer to the end. -/
theorem LifeCycle.run
    (lifeCycle : LifeCycle role firmware)
    (permitted :
      AlongRun (Firmware.step role durations) Firmware.Permits firmware
        events) :
    ∃ after,
      events.foldlM (Firmware.step role durations) firmware = .ok after ∧
        LifeCycle role after ∧
          after.rd.tpointState.remaining +
              stopCalls firmware.rd.isShuttingDown events =
            firmware.rd.tpointState.remaining := by
  induction events generalizing firmware with
  | nil => exact ⟨firmware, rfl, lifeCycle, rfl⟩
  | cons event events hypothesis =>
      obtain ⟨between, isStep, kept, moves⟩ := lifeCycle.step permitted.1
      obtain ⟨after, isRun, intact, count⟩ :=
        hypothesis kept (permitted.2 between isStep)
      refine ⟨after, ?_, intact, ?_⟩
      · rw [List.foldlM_cons, isStep]
        exact isRun
      · rw [stopCalls, ← moves.remaining, ← count, moves.isShuttingDown]
        omega

/-- A termination point that has been constructed. -/
theorem LifeCycle.of_new : LifeCycle role (Firmware.new role) := by
  cases role <;> exact
      { new := fun _ => ⟨rfl, rfl⟩
        outstanding := nofun
        finished := nofun
        leaves := nofun
        released := ⟨nofun, nofun⟩
        closed := nofun
        callbacks := rfl }

/--
No run of a termination point faults, and a single report is outstanding until
the last state.  The main thread is released by the second irregular call after
it has asked for the firmware to stop.
-/
theorem run_releasesMainThread
    (permitted :
      AlongRun (Firmware.step role durations) Firmware.Permits
        (Firmware.new role) events) :
    ∃ after,
      events.foldlM (Firmware.step role durations) (Firmware.new role) =
          .ok after ∧
        LifeCycle role after ∧
          stopCalls false events ≤ 2 ∧
            (after.rd.stopReleased = true ↔ stopCalls false events = 2) := by
  obtain ⟨after, isRun, lifeCycle, count⟩ := LifeCycle.of_new.run permitted
  have isTwo : (Firmware.new role).rd.tpointState.remaining = 2 := by
    cases role <;> rfl
  have isNew : (Firmware.new role).rd.isShuttingDown = false := rfl
  rw [isTwo, isNew] at count
  exact ⟨after, isRun, lifeCycle, by omega,
      lifeCycle.stopReleased_iff.trans (by omega)⟩

/-- Durations at 1.728 MS/s, with a beacon every 10 ms. -/
def slowDurations : Durations where
  sampRate := 1728000
  ms100 := 172800
  ms500 := 864000
  beaconPeriod := 17280
  nextBeacon now64 := now64 + 17280
  isRate := by decide
  positive := by decide
  finite now64 early := by
    unfold IrregularReport.undefinedLate int64Max
    omega

/--
The main thread asks for the firmware to stop in the steady state, once the log
was written.
-/
def shortSession : List FirmwareEvent :=
  [.workStart 0, .workIrregular (report 864000 0) 864100,
    .workIrregular (report 881380 0) 2600000, .workStop,
    .workIrregular (report 2617280 0) 2617300,
    .workIrregular (report 2790100 1234) 2790200, .setImpermeable]

theorem run_releasesMainThread_shortSession :
    ∃ after,
      shortSession.foldlM (Firmware.step .ft slowDurations)
          (Firmware.new .ft) = .ok after ∧
        after.rd.stopReleased = true := by
  obtain ⟨after, isRun, _, _, released⟩ :=
    @run_releasesMainThread .ft slowDurations shortSession (by decide +kernel)
  exact ⟨after, isRun, released.mpr (by decide)⟩

end P2p

end DectNrp
