import DectNrp.CallbacksRuns
import DectNrp.FixedTermination

namespace DectNrp

/-!
# Log of the fixed termination point

The log is written every two seconds, and the callbacks are run behind every
beacon.  They are therefore never late by a whole period, and their assertions
hold.
-/

open Callbacks (AllOneDueTime Lawful)

namespace P2p

theorem worksubCallbackLog_lawful : Lawful worksubCallbackLog := by
  rintro environment now64 idx next64 period64 positiveNext positivePeriod
    ⟨-, later, fits⟩
  exact ⟨positiveNext, positivePeriod, later, fits⟩

/-- Next to the beacon the log is due, or it was written not long ago. -/
structure Logged
    (settings : Settings)
    (beaconTime64 : Int)
    (callbacks : Callbacks Unit Unit 4) :
    Prop where
  ready : callbacks.Ready
  isLog :
    ∀ idx callback, (callbacks.entries idx).cb = some callback →
      callback = worksubCallbackLog ∧
        (callbacks.entries idx).period64 =
          getNSamplesFromDuration settings.sampRate .s001 2
  recent :
    ∀ idx, callbacks.Registered idx →
      2 * beaconTime64 ≤
        2 * (callbacks.entries idx).next64 + 3 * settings.sampRate.toNat

variable {settings : Settings}

theorem seconds_eq (sampRate mult : UInt32) :
    getNSamplesFromDuration sampRate .s001 mult =
      sampRate.toNat * mult.toNat := by
  unfold getNSamplesFromDuration
  rw [UInt32.toNat_div]
  change ((sampRate.toNat / 1 : Nat) : Int) * _ = _
  rw [Nat.div_one]

theorem halfSecond_eq (sampRate : UInt32) :
    getNSamplesFromDuration sampRate .ms001 500 =
      (sampRate.toNat / 1000 * 500 : Nat) := by
  unfold getNSamplesFromDuration
  rw [UInt32.toNat_div]
  rfl

/-- The callbacks hold the log once it was added. -/
theorem logged_of_addCallback
    {A B : Int}
    {added : Option Nat}
    {callbacks : Callbacks Unit Unit 4}
    (notNegative : 0 ≤ A)
    (positive : 0 < settings.sampRate.toNat / 1000)
    (divides : settings.sampRate.toNat = settings.sampRate.toNat / 1000 * 1000)
    (near : B ≤ A + 2 * settings.sampRate.toNat)
    (returned :
      (Callbacks.new 4).addCallback worksubCallbackLog
          (A + getNSamplesFromDuration settings.sampRate .ms001 500)
          (getNSamplesFromDuration settings.sampRate .s001 2) =
        .ok (added, callbacks)) :
    Logged settings B callbacks := by
  rw [halfSecond_eq] at returned
  have period := seconds_eq settings.sampRate 2
  have two : UInt32.toNat 2 = 2 := rfl
  rw [two] at period
  refine
    ⟨.of_added ⟨worksubCallbackLog_lawful, by omega, by omega⟩ returned, ?_,
      ?_⟩
  · intro idx callback isCallback
    rcases Callbacks.entries_of_added returned idx with isDefault | isAdded
    · rw [isDefault] at isCallback
      cases isCallback
    · rw [isAdded] at isCallback ⊢
      cases isCallback
      exact ⟨rfl, rfl⟩
  · intro idx registered
    rcases Callbacks.entries_of_added returned idx with isDefault | isAdded
    · rw [Callbacks.Registered, isDefault] at registered
      cases registered
    · rw [isAdded]
      dsimp only
      omega

/-- No call of the log is skipped by a run next to the beacon. -/
theorem Logged.run
    {beaconTime64 now64 : Int}
    {beaconPeriod : UInt32}
    {callbacks : Callbacks Unit Unit 4}
    (logged : Logged settings beaconTime64 callbacks)
    (short : beaconPeriod.toNat ≤ settings.sampRate.toNat / 1000 * 500)
    (lower : beaconTime64 - beaconPeriod.toNat < now64)
    (upper :
      now64 <
        beaconTime64 + getNSamplesFromDuration settings.sampRate .ms001 500)
    (room :
      beaconTime64 + getNSamplesFromDuration settings.sampRate .s001 3 ≤
        int64Max) :
    ∃ run,
      callbacks.run () now64 = .ok run ∧
        Logged settings (beaconTime64 + beaconPeriod.toNat) run.callbacks := by
  have period := seconds_eq settings.sampRate 2
  have two : UInt32.toNat 2 = 2 := rfl
  have three : UInt32.toNat 3 = 3 := rfl
  rw [two] at period
  rw [seconds_eq, three] at room
  rw [halfSecond_eq] at upper
  have oneDueTime : AllOneDueTime now64 callbacks := by
    intro idx registered isDue
    have recent := logged.recent idx registered
    obtain ⟨callback, isCallback⟩ := Option.isSome_iff_exists.mp registered
    rw [(logged.isLog idx callback isCallback).2, period]
    exact ⟨isDue, by omega, by omega⟩
  obtain ⟨run, returned, callsDue, ready⟩ :=
    @Callbacks.Ready.run _ _ _ _ _ logged.ready () (by omega) oneDueTime
  refine ⟨run, returned, ready, ?_, ?_⟩
  · intro idx
    refine @Callbacks.run_entries _ _ _ _ _ (fun entry =>
        ∀ callback, entry.cb = some callback → callback = worksubCallbackLog ∧
            entry.period64 = getNSamplesFromDuration settings.sampRate .s001 2)
      ?_ _ _ logged.isLog returned idx
    intro entry callback _ _ _ isEntry isCallback result other isOther
    obtain ⟨rfl, isPeriod⟩ := isEntry callback isCallback
    cases isOther
    exact ⟨rfl, isPeriod⟩
  · intro idx registered
    have later := callsDue.later idx registered
    omega

end P2p

end DectNrp
