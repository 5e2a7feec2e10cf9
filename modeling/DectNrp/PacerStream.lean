import DectNrp.BufferRx
import DectNrp.RxPacerUnits

namespace DectNrp

/-!
# Pacing the receive stream

The radio writes samples into its ring and reports them, while a pacer copies
unit after unit out of the ring into two local buffers: one at the sample rate
of the hardware, and one behind the resampler.  Before a unit is copied, the
reported time must have reached its end.  Reports come at any moment, and the
hardware may be writing further samples while a unit is copied.
-/

open TransportBlockSize (ceilDivideInteger)

namespace RxPacer

variable {Value : Type} [CommSemiring Value]

/-- A pacer whose constructor has passed its assertions. -/
structure PacerSetup (Value : Type) [CommSemiring Value] where
  radio : Radio.BufferRxConfig
  nofAntennasLimited : Nat
  antStreamsUnitLengthSamples : Nat
  param : ResamplerParam
  lowPassFilterCoefficients : List Value
  resampler : Resampler Value
  filterLengthSamplesMax : Nat
  resampleLengthSamplesMax : Nat
  isAntenna : 0 < nofAntennasLimited
  isUnit : 0 < antStreamsUnitLengthSamples
  divides :
    radio.antStreamsLengthSamples % antStreamsUnitLengthSamples = 0
  created :
    Resampler.create param lowPassFilterCoefficients = .ok resampler
  decreases : param.l ≤ param.m
  isLong : resampler.historyLength ≤ antStreamsUnitLengthSamples

/-- Samples at one sample rate; a sample is that of all antennas. -/
structure Localbuffer (Sample : Type) where
  bufferVec : Nat → Sample
  nofSamples : Nat
  antStreamsTime64 : Int
  cntW : Nat

/-- Copy a number of samples. -/
def vecCfCopy
    {Sample : Type}
    (dst : Nat → Sample)
    (dstOffset : Nat)
    (src : Nat → Sample)
    (srcOffset len : Nat) :
    Nat → Sample :=
  fun index =>
    if dstOffset ≤ index ∧ index < dstOffset + len then
      src (srcOffset + (index - dstOffset))
    else
      dst index

/-- Samples are written behind those that were written before. -/
def Localbuffer.append
    {Sample : Type}
    (lb : Localbuffer Sample)
    (output : List Sample) :
    Localbuffer Sample :=
  { lb with
    bufferVec := fun index =>
      if lb.cntW ≤ index then
        output[index - lb.cntW]?.getD (lb.bufferVec index)
      else
        lb.bufferVec index
    cntW := lb.cntW + output.length }

namespace PacerSetup

/-- Most samples that the resampler puts out for a unit. -/
def resamplerNofSamplesPerUnitMax (setup : PacerSetup Value) : Nat :=
  ceilDivideInteger setup.antStreamsUnitLengthSamples
      setup.param.m *
    setup.param.l

/-- Length of the local buffer of the filter, in whole units. -/
def filterNofSamples (setup : PacerSetup Value) : Nat :=
  ceilDivideInteger setup.filterLengthSamplesMax
      setup.antStreamsUnitLengthSamples *
    setup.antStreamsUnitLengthSamples

/-- Length of the local buffer of the resampler, with one unit in addition. -/
def resampleNofSamples (setup : PacerSetup Value) : Nat :=
  setup.resamplerNofSamplesPerUnitMax *
    (1 +
      ceilDivideInteger setup.resampleLengthSamplesMax
        setup.resamplerNofSamplesPerUnitMax)

/-- Copy a unit, in two parts if it reaches over the end of the ring. -/
def filterSingleUnit
    {Sample : Type}
    (setup : PacerSetup Value)
    (antStreams : Nat → Sample)
    (lb : Localbuffer Sample) :
    Localbuffer Sample :=
  let unit := setup.antStreamsUnitLengthSamples
  let index := Radio.BufferRx.slot setup.radio lb.antStreamsTime64
  let right := setup.radio.antStreamsLengthSamples - index
  let rightOffset := lb.cntW
  if unit ≤ right then
    { lb with
      bufferVec := vecCfCopy lb.bufferVec rightOffset antStreams index unit
      cntW := lb.cntW + unit }
  else
    let left := unit - right
    let leftOffset := lb.cntW + right
    { lb with
      bufferVec :=
        vecCfCopy (vecCfCopy lb.bufferVec rightOffset antStreams index right)
          leftOffset antStreams 0 left
      cntW := lb.cntW + unit }

/-- What the resampler is given, through the edge at the end of the ring. -/
def unitInput
    (setup : PacerSetup Value)
    (antStreams : Nat → Nat → Value)
    (lb : Localbuffer (Nat → Value)) :
    ResamplerInput Value where
  input := fun antenna =>
    Resampler.singleUnitInput setup.radio.antStreamsLengthSamples
      setup.antStreamsUnitLengthSamples
      (Radio.BufferRx.slot setup.radio lb.antStreamsTime64)
      (fun index => antStreams index antenna)
  nNewInputSamples := setup.antStreamsUnitLengthSamples

/-- Output samples of all antennas. -/
def outputOf (call : Resampler.Call Value) : List (Nat → Value) :=
  (List.range (call.output 0).length).map fun k antenna =>
    (call.output antenna)[k]?.getD 0

/-- Resample a unit behind the samples that were written before. -/
def resampleSingleUnit
    (setup : PacerSetup Value)
    (antStreams : Nat → Nat → Value)
    (lb : Localbuffer (Nat → Value))
    (state : ResamplerState Value) :
    Checked
      (Localbuffer (Nat → Value) × ResamplerState Value ×
        List (Nat → Value)) := do
  let call ←
    setup.resampler.resample state setup.nofAntennasLimited
      (setup.unitInput antStreams lb)
  pure (lb.append (outputOf call), call.state, outputOf call)

end PacerSetup

/--
A local buffer with records that the program does not keep: the start, the
samples that were copied since then, those that the ring held at the slots of
their times, and what was written since the last rewind.
-/
structure Lane (Sample : Type) where
  lb : Localbuffer Sample
  start : Int
  copied : List Sample
  observed : List Sample
  written : List Sample
  /-- A unit was copied whose end had not been reported. -/
  early : Bool
  /-- A unit was copied that the radio had dropped or was about to overwrite. -/
  lost : Bool

/-- A call for samples that is in progress, with the time that it knows. -/
inductive Control where
  | idle
  | filtering (cntWMin : Nat) (now64 : Int)
  | resampling (cntWMin : Nat) (now64 : Int)
  deriving Repr, DecidableEq

/-- The radio with the stream that it has received, and the pacer. -/
structure System (Value : Type) where
  radio : Radio.BufferRx (Nat → Value)
  /-- Time since which the radio has dropped no samples. -/
  base : Int
  received : List (Nat → Value)
  stream : Int → Option (Nat → Value)
  filter : Lane (Nat → Value)
  resample : Lane (Nat → Value)
  resamplerState : ResamplerState Value
  control : Control

/-- Samples of a report become part of the stream. -/
def appendStream
    {Sample : Type}
    (stream : Int → Option Sample)
    (time : Int)
    (samples : List Sample) :
    Int → Option Sample :=
  fun moment =>
    if time ≤ moment ∧ moment < time + samples.length then
      samples[(moment - time).toNat]?
    else
      stream moment

namespace Lane

/-- A local buffer to which nothing was written. -/
def new (nofSamples : Nat) : Lane (Nat → Value) where
  lb := ⟨fun _ _ => 0, nofSamples, 0, 0⟩
  start := 0
  copied := []
  observed := []
  written := []
  early := false
  lost := false

variable {Sample : Type}

/-- Start over at a time. -/
def reset (lane : Lane Sample) (antStreamsTime64 : Int) : Lane Sample where
  lb := { lane.lb with antStreamsTime64 := antStreamsTime64, cntW := 0 }
  start := antStreamsTime64
  copied := []
  observed := []
  written := []
  early := false
  lost := false

/-- Write to the front of the local buffer again. -/
def rewind (lane : Lane Sample) : Lane Sample :=
  { lane with lb := { lane.lb with cntW := 0 }, written := [] }

/-- What a unit needs to be reached. -/
def target64
    (setup : PacerSetup Value)
    (lane : Lane Sample) :
    Int :=
  lane.lb.antStreamsTime64 + setup.antStreamsUnitLengthSamples

/-- Record a unit that was copied out of a ring, and go on to the next one. -/
def advance
    (setup : PacerSetup Value)
    (system : System Value)
    (antStreams : Nat → Sample)
    (lane : Lane Sample)
    (lb : Localbuffer Sample)
    (copied output : List Sample) :
    Lane Sample where
  lb := { lb with antStreamsTime64 := lane.target64 setup }
  start := lane.start
  copied := lane.copied ++ copied
  observed :=
    lane.observed ++
      (List.range setup.antStreamsUnitLengthSamples).map fun k : Nat =>
        antStreams
          (Radio.BufferRx.slot setup.radio (lane.lb.antStreamsTime64 + k))
  written := lane.written ++ output
  early :=
    lane.early ||
      decide (system.radio.rxTimePassed64 < lane.target64 setup)
  lost :=
    lane.lost ||
      decide
        (lane.lb.antStreamsTime64 < system.base ∨
          lane.lb.antStreamsTime64 + setup.radio.antStreamsLengthSamples <
            system.radio.timeAsSampleCnt64 + setup.radio.nofNewSamplesMax)

end Lane

namespace System

/-- A unit for the filter, while the hardware writes further samples. -/
def filterUnit
    (setup : PacerSetup Value)
    (system : System Value)
    (inFlight : List (Nat → Value)) :
    System Value :=
  let antStreams := (system.radio.write inFlight).antStreams
  let lb := setup.filterSingleUnit antStreams system.filter.lb
  let copied :=
    (List.range setup.antStreamsUnitLengthSamples).map fun k =>
      lb.bufferVec (system.filter.lb.cntW + k)
  { system with
    filter :=
      system.filter.advance setup system antStreams lb copied copied }

/-- A unit for the resampler, while the hardware writes further samples. -/
def resampleUnit
    (setup : PacerSetup Value)
    (system : System Value)
    (inFlight : List (Nat → Value)) :
    Checked (System Value) := do
  let antStreams := (system.radio.write inFlight).antStreams
  let (lb, state, output) ←
    setup.resampleSingleUnit antStreams system.resample.lb
      system.resamplerState
  let copied :=
    (List.range setup.antStreamsUnitLengthSamples).map fun k antenna =>
      (setup.unitInput antStreams system.resample.lb).input antenna k
  pure
    { system with
      resample :=
        system.resample.advance setup system antStreams lb copied output
      resamplerState := state }

end System

/-- One step of the radio or of the pacer. -/
inductive Step (setup : PacerSetup Value) :
    System Value → System Value → Prop where
  | report
      {system : System Value}
      {radio : Radio.BufferRx (Nat → Value)}
      {report : Radio.RxReport (Nat → Value)}
      (isSteady : system.radio.Steady report)
      (returned : system.radio.receive setup.radio report = .ok radio) :
      Step setup system
        { system with
          radio := radio
          received := system.received ++ report.samples
          stream :=
            appendStream system.stream system.radio.timeAsSampleCnt64
              report.samples }
  | jump
      {system : System Value}
      {radio : Radio.BufferRx (Nat → Value)}
      {report : Radio.RxReport (Nat → Value)}
      (jumps : system.radio.Jumps report)
      (returned : system.radio.receive setup.radio report = .ok radio) :
      Step setup system
        { system with
          radio := radio
          base := radio.timeAsSampleCnt64
          received := [] }
  | resetFilter
      {system : System Value}
      {antStreamsTime64 : Int}
      (idle : system.control = .idle)
      (notNegative : 0 ≤ antStreamsTime64) :
      Step setup system
        { system with filter := system.filter.reset antStreamsTime64 }
  | resetResample
      {system : System Value}
      {antStreamsTime64 : Int}
      (idle : system.control = .idle)
      (notNegative : 0 ≤ antStreamsTime64) :
      Step setup system
        { system with
          resample := system.resample.reset antStreamsTime64
          resamplerState := setup.resampler.reset system.resamplerState }
  | rewindLocalbufferResampleCntW
      {system : System Value}
      (idle : system.control = .idle) :
      Step setup system { system with resample := system.resample.rewind }
  | filterUntilNto
      {system : System Value}
      {cntWMin : Nat}
      (idle : system.control = .idle)
      (promised : cntWMin ≤ setup.filterLengthSamplesMax)
      (tooFew : system.filter.lb.cntW < cntWMin) :
      Step setup system
        { system with
          control := .filtering cntWMin system.radio.rxTimePassed64 }
  | filterWait
      {system : System Value}
      {cntWMin : Nat}
      {now64 : Int}
      (inLoop : system.control = .filtering cntWMin now64)
      (tooFew : system.filter.lb.cntW < cntWMin)
      (tooEarly : now64 < system.filter.target64 setup)
      (reached :
        system.filter.target64 setup ≤ system.radio.rxTimePassed64) :
      Step setup system
        { system with
          control := .filtering cntWMin system.radio.rxTimePassed64 }
  | filterSingleUnit
      {system : System Value}
      {cntWMin : Nat}
      {now64 : Int}
      {inFlight : List (Nat → Value)}
      (inLoop : system.control = .filtering cntWMin now64)
      (tooFew : system.filter.lb.cntW < cntWMin)
      (reached : system.filter.target64 setup ≤ now64)
      (isShort : inFlight.length ≤ setup.radio.nofNewSamplesMax) :
      Step setup system (system.filterUnit setup inFlight)
  | filterReturn
      {system : System Value}
      {cntWMin : Nat}
      {now64 : Int}
      (inLoop : system.control = .filtering cntWMin now64)
      (enough : cntWMin ≤ system.filter.lb.cntW) :
      Step setup system { system with control := .idle }
  | resampleUntilNto
      {system : System Value}
      {cntWMin : Nat}
      (idle : system.control = .idle)
      (promised : cntWMin ≤ setup.resampleLengthSamplesMax)
      (tooFew : system.resample.lb.cntW < cntWMin) :
      Step setup system
        { system with
          control := .resampling cntWMin system.radio.rxTimePassed64 }
  | resampleWait
      {system : System Value}
      {cntWMin : Nat}
      {now64 : Int}
      (inLoop : system.control = .resampling cntWMin now64)
      (tooFew : system.resample.lb.cntW < cntWMin)
      (tooEarly : now64 < system.resample.target64 setup)
      (reached :
        system.resample.target64 setup ≤ system.radio.rxTimePassed64) :
      Step setup system
        { system with
          control := .resampling cntWMin system.radio.rxTimePassed64 }
  | resampleSingleUnit
      {system : System Value}
      {cntWMin : Nat}
      {now64 : Int}
      {inFlight : List (Nat → Value)}
      {next : System Value}
      (inLoop : system.control = .resampling cntWMin now64)
      (tooFew : system.resample.lb.cntW < cntWMin)
      (reached : system.resample.target64 setup ≤ now64)
      (isShort : inFlight.length ≤ setup.radio.nofNewSamplesMax)
      (returned : system.resampleUnit setup inFlight = .ok next) :
      Step setup system next
  | resampleReturn
      {system : System Value}
      {cntWMin : Nat}
      {now64 : Int}
      (inLoop : system.control = .resampling cntWMin now64)
      (enough : cntWMin ≤ system.resample.lb.cntW) :
      Step setup system { system with control := .idle }

/-- A pacer that has copied nothing, next to a radio at time zero. -/
def System.new
    (setup : PacerSetup Value)
    (rxPrestream64 : Int)
    (state : ResamplerState Value) :
    System Value where
  radio := Radio.BufferRx.new (fun _ => 0) rxPrestream64
  base := 0
  received := []
  stream := fun _ => none
  filter := Lane.new setup.filterNofSamples
  resample := Lane.new setup.resampleNofSamples
  resamplerState := setup.resampler.reset state
  control := .idle

/-- Runs of radio and pacer. -/
inductive Reachable
    (setup : PacerSetup Value)
    (rxPrestream64 : Int) :
    System Value → Prop where
  | new (state : ResamplerState Value) :
      Reachable setup rxPrestream64 (System.new setup rxPrestream64 state)
  | step
      {system next : System Value}
      (run : Reachable setup rxPrestream64 system)
      (isStep : Step setup system next) :
      Reachable setup rxPrestream64 next

section Units

variable {setup : PacerSetup Value}

theorem unit_le (setup : PacerSetup Value) :
    setup.antStreamsUnitLengthSamples ≤ setup.radio.antStreamsLengthSamples :=
  Nat.le_of_dvd setup.radio.positive (Nat.dvd_of_mod_eq_zero setup.divides)

/-- A unit goes on behind the slot of its time, and at the front of the ring. -/
theorem slot_later
    {k : Nat}
    (inUnit : k < setup.antStreamsUnitLengthSamples)
    (time : Int) :
    Radio.BufferRx.slot setup.radio (time + k) =
      (Radio.BufferRx.slot setup.radio time + k) %
        setup.radio.antStreamsLengthSamples := by
  have inside := Radio.BufferRx.slot_lt setup.radio time
  have isShort := unit_le setup
  rw [Radio.BufferRx.slot_add (by omega)]
  split
  · rename_i noWrap
    exact (Nat.mod_eq_of_lt noWrap).symm
  · rw [Nat.mod_eq_sub_mod (by omega), Nat.mod_eq_of_lt (by omega)]

section Filter

variable {Sample : Type}

theorem vecCfCopy_inside
    (dst src : Nat → Sample)
    {dstOffset srcOffset len k : Nat}
    (inside : k < len) :
    vecCfCopy dst dstOffset src srcOffset len (dstOffset + k) =
      src (srcOffset + k) := by
  unfold vecCfCopy
  rw [if_pos (by omega), Nat.add_sub_cancel_left]

theorem vecCfCopy_before
    (dst src : Nat → Sample)
    {dstOffset srcOffset len index : Nat}
    (before : index < dstOffset) :
    vecCfCopy dst dstOffset src srcOffset len index = dst index := by
  unfold vecCfCopy
  rw [if_neg (by omega)]

/-- A unit has the samples at the slots of consecutive times. -/
theorem filterSingleUnit_copied
    (antStreams : Nat → Sample)
    (lb : Localbuffer Sample)
    {k : Nat}
    (inUnit : k < setup.antStreamsUnitLengthSamples) :
    (setup.filterSingleUnit antStreams lb).bufferVec (lb.cntW + k) =
      antStreams
        (Radio.BufferRx.slot setup.radio (lb.antStreamsTime64 + k)) := by
  have inside := Radio.BufferRx.slot_lt setup.radio lb.antStreamsTime64
  have isShort := unit_le setup
  rw [slot_later inUnit]
  unfold PacerSetup.filterSingleUnit
  dsimp only
  split
  · rename_i isWhole
    dsimp only
    rw [vecCfCopy_inside _ _ inUnit, Nat.mod_eq_of_lt (by omega)]
  · by_cases isRight : k < setup.radio.antStreamsLengthSamples -
        Radio.BufferRx.slot setup.radio lb.antStreamsTime64
    · dsimp only
      rw [vecCfCopy_before _ _ (by omega), vecCfCopy_inside _ _ isRight,
        Nat.mod_eq_of_lt (by omega)]
    · obtain ⟨left, isLeft⟩ := Nat.exists_eq_add_of_le (Nat.not_lt.mp isRight)
      dsimp only
      rw [isLeft, ← Nat.add_assoc, vecCfCopy_inside _ _ (by omega),
        Nat.mod_eq_sub_mod (by omega), Nat.mod_eq_of_lt (by omega)]
      congr 1
      omega

/-- Samples before a unit stay where they are. -/
theorem filterSingleUnit_before
    (antStreams : Nat → Sample)
    (lb : Localbuffer Sample)
    {index : Nat}
    (before : index < lb.cntW) :
    (setup.filterSingleUnit antStreams lb).bufferVec index =
      lb.bufferVec index := by
  unfold PacerSetup.filterSingleUnit
  dsimp only
  split
  · exact vecCfCopy_before _ _ before
  · dsimp only
    rw [vecCfCopy_before _ _ (by omega), vecCfCopy_before _ _ before]

theorem filterSingleUnit_counters
    (setup : PacerSetup Value)
    (antStreams : Nat → Sample)
    (lb : Localbuffer Sample) :
    (setup.filterSingleUnit antStreams lb).cntW =
        lb.cntW + setup.antStreamsUnitLengthSamples ∧
      (setup.filterSingleUnit antStreams lb).nofSamples = lb.nofSamples := by
  unfold PacerSetup.filterSingleUnit
  dsimp only
  split <;> exact ⟨rfl, rfl⟩

end Filter

/-- The resampler is given the samples at the slots of consecutive times. -/
theorem unitInput_eq
    (antStreams : Nat → Nat → Value)
    (lb : Localbuffer (Nat → Value))
    {k : Nat}
    (inUnit : k < setup.antStreamsUnitLengthSamples) :
    (fun antenna => (setup.unitInput antStreams lb).input antenna k) =
      antStreams
        (Radio.BufferRx.slot setup.radio (lb.antStreamsTime64 + k)) := by
  funext antenna
  rw [slot_later inUnit]
  exact Resampler.singleUnitInput_eq
      (Radio.BufferRx.slot_lt setup.radio lb.antStreamsTime64) (unit_le setup)
      inUnit fun index => antStreams index antenna

/-- Counters of the resampler with which it accepts a unit. -/
structure Accepts
    (setup : PacerSetup Value)
    (state : ResamplerState Value) :
    Prop where
  inSchedule :
    ¬(setup.resampler.l = 1 ∧ setup.resampler.m = 1) →
      state.inputSampleCnt < setup.resampler.m
  shortSkip :
    ¬(setup.resampler.l = 1 ∧ setup.resampler.m = 1) →
      state.nSkipInputSamplesCurrent ≤ setup.resampler.historyLength

/-- The resampler takes every unit, and puts out no more than it may. -/
theorem resample_accepts
    {state : ResamplerState Value}
    (accepts : Accepts setup state)
    {new : ResamplerInput Value}
    (isNew : new.nNewInputSamples = setup.antStreamsUnitLengthSamples) :
    ∃ call,
      setup.resampler.resample state setup.nofAntennasLimited new = .ok call ∧
      (call.output 0).length ≤ setup.resamplerNofSamplesPerUnitMax ∧
      Accepts setup call.state := by
  by_cases isTrivial : setup.param.l = 1 ∧ setup.param.m = 1
  · obtain ⟨isL, isM, -⟩ := Resampler.create_trivial isTrivial setup.created
    refine ⟨Resampler.resampleL1m1 state new, ?_, ?_, ?_, ?_⟩
    · unfold Resampler.resample
      rw [if_pos ⟨isL, isM⟩]
      rfl
    · unfold PacerSetup.resamplerNofSamplesPerUnitMax
        ceilDivideInteger
      dsimp only [Resampler.resampleL1m1]
      rw [List.length_map, List.length_range, isNew, isTrivial.1, isTrivial.2]
      omega
    · intro resamples
      exact absurd ⟨isL, isM⟩ resamples
    · intro resamples
      exact absurd ⟨isL, isM⟩ resamples
  · have spec := Resampler.create_spec isTrivial setup.created
    have resamples : ¬(setup.resampler.l = 1 ∧ setup.resampler.m = 1) := by
      rw [spec.isL, spec.isM]
      exact isTrivial
    have inSchedule := accepts.inSchedule resamples
    obtain ⟨call, isCall, noSkip, isNext, antennas⟩ :=
      @Resampler.resampleLxmx_spec Value _ setup.param
        setup.lowPassFilterCoefficients setup.resampler new spec state
        inSchedule (accepts.shortSkip resamples)
        (by rw [isNew]; exact setup.isLong) setup.nofAntennasLimited
    refine ⟨call, ?_, ?_, ?_, ?_⟩
    · unfold Resampler.resample
      rw [if_neg resamples, isCall]
    · rw [(antennas 0 setup.isAntenna).1]
      refine (Resampler.length_genericOutput_mono (Nat.sub_le _ _)).trans ?_
      rw [isNew]
      exact Resampler.length_genericOutput_le spec inSchedule
    · intro _
      rw [isNext setup.isAntenna]
      exact Nat.mod_lt _ (Nat.zero_lt_of_lt inSchedule)
    · intro _
      rw [noSkip]
      exact Nat.zero_le _

/-- A resampler that was reset accepts units. -/
theorem accepts_reset
    (setup : PacerSetup Value)
    (state : ResamplerState Value) :
    Accepts setup (setup.resampler.reset state) := by
  by_cases isTrivial : setup.param.l = 1 ∧ setup.param.m = 1
  · obtain ⟨isL, isM, -⟩ := Resampler.create_trivial isTrivial setup.created
    exact ⟨fun resamples => absurd ⟨isL, isM⟩ resamples,
        fun resamples => absurd ⟨isL, isM⟩ resamples⟩
  · have spec := Resampler.create_spec isTrivial setup.created
    refine ⟨fun _ => ?_, fun _ => spec.isShort⟩
    dsimp only [Resampler.reset]
    rw [spec.isM]
    exact setup.param.decimates

end Units

end RxPacer

end DectNrp
