import DectNrp.PacerStream

namespace DectNrp

/-!
# The receive stream in the local buffers

In every run of radio and pacer, what was copied since the start is what the
ring held at the slots of consecutive times.  No unit is copied before its end
was reported, and no index is beyond the local buffer.  As long as the radio
has neither dropped nor overwritten a unit, the samples are those of the stream.
-/

namespace RxPacer

variable {Value : Type} [CommSemiring Value]

/--
The samples that were copied since the start are consecutive, and those that
were written lie within the local buffer.
-/
structure Lane.CopiesStream
    {Sample : Type}
    (setup : PacerSetup Value)
    (stream : Int → Option Sample)
    (now64 : Int)
    (lane : Lane Sample) :
    Prop where
  notNegative : 0 ≤ lane.start
  /-- The next unit goes on where the last one ended. -/
  isTime : lane.lb.antStreamsTime64 = lane.start + lane.copied.length
  isUnits : setup.antStreamsUnitLengthSamples ∣ lane.copied.length
  /-- Each sample was in the ring at the slot of its time. -/
  isObserved : lane.copied = lane.observed
  notEarly : lane.early = false
  past : ∀ k < lane.copied.length, lane.start + k < now64
  /-- The samples are those of the stream, in order. -/
  inOrder :
    lane.lost = false →
      ∀ k < lane.copied.length,
        lane.copied[k]? = stream (lane.start + k)
  inside : lane.lb.cntW ≤ lane.lb.nofSamples
  isWritten : lane.written.length = lane.lb.cntW
  holds :
    ∀ index < lane.lb.cntW,
      lane.written[index]? = some (lane.lb.bufferVec index)

namespace Lane

variable
  {setup : PacerSetup Value}
  {lane : Lane (Nat → Value)}
  {now64 : Int}

/-- Later samples of the stream do not change what was copied. -/
theorem CopiesStream.later
    {stream stream' : Int → Option (Nat → Value)}
    {later64 : Int}
    (copies : lane.CopiesStream setup stream now64)
    (notEarlier : now64 ≤ later64)
    (same : ∀ moment < now64, stream' moment = stream moment) :
    lane.CopiesStream setup stream' later64 :=
  { copies with
    past := fun k inside =>
      Int.lt_of_lt_of_le (copies.past k inside) notEarlier
    inOrder := fun notLost k inside => by
      rw [same _ (copies.past k inside)]
      exact copies.inOrder notLost k inside }

theorem CopiesStream.new
    {stream : Int → Option (Nat → Value)}
    (nofSamples : Nat) :
    (Lane.new nofSamples : Lane (Nat → Value)).CopiesStream setup stream
      now64 where
  notNegative := le_rfl
  isTime := rfl
  isUnits := Nat.dvd_zero _
  isObserved := rfl
  notEarly := rfl
  past := fun _ inside => absurd inside (Nat.not_lt_zero _)
  inOrder := fun _ _ inside => absurd inside (Nat.not_lt_zero _)
  inside := Nat.zero_le _
  isWritten := rfl
  holds := fun _ inside => absurd inside (Nat.not_lt_zero _)

/-- Nothing was copied since a reset. -/
theorem CopiesStream.reset
    {stream : Int → Option (Nat → Value)}
    {antStreamsTime64 : Int}
    (notNegative : 0 ≤ antStreamsTime64)
    (lane : Lane (Nat → Value)) :
    (lane.reset antStreamsTime64).CopiesStream setup stream now64 where
  notNegative := notNegative
  isTime := (Int.add_zero _).symm
  isUnits := Nat.dvd_zero _
  isObserved := rfl
  notEarly := rfl
  past := fun _ inside => absurd inside (Nat.not_lt_zero _)
  inOrder := fun _ _ inside => absurd inside (Nat.not_lt_zero _)
  inside := Nat.zero_le _
  isWritten := rfl
  holds := fun _ inside => absurd inside (Nat.not_lt_zero _)

/-- A rewind keeps what was copied. -/
theorem CopiesStream.rewind
    {stream : Int → Option (Nat → Value)}
    (copies : lane.CopiesStream setup stream now64) :
    lane.rewind.CopiesStream setup stream now64 :=
  { copies with
    inside := Nat.zero_le _
    isWritten := rfl
    holds := fun _ inside => absurd inside (Nat.not_lt_zero _) }

/-- A unit that has been reported goes on with the stream. -/
theorem CopiesStream.advance
    {system : System Value}
    (copies :
      lane.CopiesStream setup system.stream system.radio.timeAsSampleCnt64)
    (holds :
      Radio.BufferRx.Holds setup.radio system.radio system.base system.received)
    (isStream :
      ∀ index < system.received.length,
        system.stream (system.base + index) = system.received[index]?)
    (reached : lane.target64 setup ≤ system.radio.rxTimePassed64)
    {inFlight : List (Nat → Value)}
    (isShort : inFlight.length ≤ setup.radio.nofNewSamplesMax)
    {unit : Nat → Nat → Value}
    (isUnit :
      ∀ k < setup.antStreamsUnitLengthSamples,
        unit k =
          (system.radio.write inFlight).antStreams
            (Radio.BufferRx.slot setup.radio (lane.lb.antStreamsTime64 + k)))
    (lb : Localbuffer (Nat → Value))
    (output : List (Nat → Value))
    (isCntW : lb.cntW = lane.lb.cntW + output.length)
    (inside : lb.cntW ≤ lb.nofSamples)
    (before :
      ∀ index < lane.lb.cntW, lb.bufferVec index = lane.lb.bufferVec index)
    (isOutput :
      ∀ k < output.length,
        output[k]? = some (lb.bufferVec (lane.lb.cntW + k))) :
    (lane.advance setup system (system.radio.write inFlight).antStreams lb
      ((List.range setup.antStreamsUnitLengthSamples).map unit)
      output).CopiesStream setup system.stream
        system.radio.timeAsSampleCnt64 := by
  have notAhead := holds.notAhead
  have isTime := copies.isTime
  have isWritten := copies.isWritten
  unfold target64 at reached
  constructor
  · exact copies.notNegative
  · dsimp only [Lane.advance, target64]
    rw [List.length_append, List.length_map, List.length_range]
    push_cast
    omega
  · dsimp only [Lane.advance]
    rw [List.length_append, List.length_map, List.length_range]
    exact Nat.dvd_add copies.isUnits (Nat.dvd_refl _)
  · dsimp only [Lane.advance]
    rw [copies.isObserved]
    refine congrArg (lane.observed ++ ·) (List.map_congr_left ?_)
    intro k inUnit
    exact isUnit k (List.mem_range.mp inUnit)
  · dsimp only [Lane.advance, target64]
    rw [copies.notEarly, Bool.false_or]
    exact decide_eq_false (by omega)
  · intro k isCopied
    dsimp only [Lane.advance] at isCopied ⊢
    rw [List.length_append, List.length_map, List.length_range] at isCopied
    omega
  · intro notLost k isCopied
    dsimp only [Lane.advance] at notLost isCopied ⊢
    rw [Bool.or_eq_false_iff, decide_eq_false_iff_not, not_or] at notLost
    obtain ⟨notLost, afterDrop, beforeWrite⟩ := notLost
    rw [List.length_append, List.length_map, List.length_range] at isCopied
    by_cases isOld : k < lane.copied.length
    · rw [List.getElem?_append_left isOld]
      exact copies.inOrder notLost k isOld
    · obtain ⟨later, rfl⟩ := Nat.exists_eq_add_of_le (Nat.not_lt.mp isOld)
      have inUnit : later < setup.antStreamsUnitLengthSamples := by omega
      have isMoment : lane.start + ((lane.copied.length + later : Nat) : Int) =
          lane.lb.antStreamsTime64 + later := by
        push_cast
        omega
      obtain ⟨isReceived, isKept⟩ :=
        holds.inRing
          (show system.base ≤ lane.lb.antStreamsTime64 + later by omega)
          (by omega) (by omega)
      obtain ⟨index, isIndex⟩ :=
        Int.eq_ofNat_of_zero_le
          (show 0 ≤ lane.lb.antStreamsTime64 + later - system.base by omega)
      have timeIs := holds.timeIs
      have fromBase :
          lane.lb.antStreamsTime64 + later = system.base + index := by
        omega
      rw [List.getElem?_append_right (Nat.le_add_right _ _),
        Nat.add_sub_cancel_left, List.getElem?_map,
        List.getElem?_range inUnit, Option.map_some, isUnit later inUnit,
        isKept inFlight isShort, ← isReceived, isMoment, fromBase,
        isStream index (by omega)]
      congr 1
      omega
  · exact inside
  · dsimp only [Lane.advance]
    rw [List.length_append, isCntW, isWritten]
  · intro index isIndex
    dsimp only [Lane.advance] at isIndex ⊢
    by_cases isOld : index < lane.lb.cntW
    · rw [List.getElem?_append_left (by omega), before index isOld]
      exact copies.holds index isOld
    · obtain ⟨k, rfl⟩ := Nat.exists_eq_add_of_le (Nat.not_lt.mp isOld)
      rw [List.getElem?_append_right (by omega), isWritten,
        Nat.add_sub_cancel_left]
      exact isOutput k (by omega)

end Lane

/-- A call in progress needs no more than was promised, and knows no future. -/
def Control.Within
    (setup : PacerSetup Value)
    (rxTimePassed64 : Int) :
    Control → Prop
  | .idle => True
  | .filtering cntWMin now64 =>
      cntWMin ≤ setup.filterLengthSamplesMax ∧ now64 ≤ rxTimePassed64
  | .resampling cntWMin now64 =>
      cntWMin ≤ setup.resampleLengthSamplesMax ∧ now64 ≤ rxTimePassed64

theorem Control.Within.later
    {setup : PacerSetup Value}
    {rxTimePassed64 later64 : Int}
    {control : Control}
    (within : control.Within setup rxTimePassed64)
    (notEarlier : rxTimePassed64 ≤ later64) :
    control.Within setup later64 := by
  cases control with
  | idle => trivial
  | filtering cntWMin now64 => exact ⟨within.1, within.2.trans notEarlier⟩
  | resampling cntWMin now64 => exact ⟨within.1, within.2.trans notEarlier⟩

/-- What holds between all steps of radio and pacer. -/
structure Invariant
    (setup : PacerSetup Value)
    (system : System Value) :
    Prop where
  holds :
    Radio.BufferRx.Holds setup.radio system.radio system.base system.received
  isStream :
    ∀ index < system.received.length,
      system.stream (system.base + index) = system.received[index]?
  filter :
    system.filter.CopiesStream setup system.stream
      system.radio.timeAsSampleCnt64
  filterNofSamples :
    system.filter.lb.nofSamples = setup.filterNofSamples
  filterUnits :
    setup.antStreamsUnitLengthSamples ∣ system.filter.lb.cntW
  sameFilter : system.filter.written = system.filter.copied
  resample :
    system.resample.CopiesStream setup system.stream
      system.radio.timeAsSampleCnt64
  resampleNofSamples :
    system.resample.lb.nofSamples = setup.resampleNofSamples
  accepts : Accepts setup system.resamplerState
  control : system.control.Within setup system.radio.rxTimePassed64

section Steps

variable
  {setup : PacerSetup Value}
  {system : System Value}

theorem appendStream_before
    {Sample : Type}
    (stream : Int → Option Sample)
    {time moment : Int}
    (samples : List Sample)
    (before : moment < time) :
    appendStream stream time samples moment = stream moment := by
  unfold appendStream
  rw [if_neg (by omega)]

theorem appendStream_new
    {Sample : Type}
    (stream : Int → Option Sample)
    (time : Int)
    (samples : List Sample)
    {index : Nat}
    (inside : index < samples.length) :
    appendStream stream time samples (time + index) = samples[index]? := by
  unfold appendStream
  rw [if_pos (by omega)]
  congr 1
  omega

/-- The samples of a report continue the stream. -/
theorem Invariant.report
    (invariant : Invariant setup system)
    {radio : Radio.BufferRx (Nat → Value)}
    {report : Radio.RxReport (Nat → Value)}
    (isSteady : system.radio.Steady report)
    (returned : system.radio.receive setup.radio report = .ok radio) :
    Invariant setup
      { system with
        radio := radio
        received := system.received ++ report.samples
        stream :=
          appendStream system.stream system.radio.timeAsSampleCnt64
            report.samples } := by
  obtain ⟨holds, isTime, published⟩ :=
    invariant.holds.afterSteady isSteady returned
  have timeIs := invariant.holds.timeIs
  have notEarlier :
      system.radio.timeAsSampleCnt64 ≤ radio.timeAsSampleCnt64 := by
    omega
  have same : ∀ moment < system.radio.timeAsSampleCnt64,
      appendStream system.stream system.radio.timeAsSampleCnt64
          report.samples moment =
        system.stream moment :=
    fun moment before =>
      appendStream_before system.stream report.samples before
  refine
    { invariant with
      holds := holds
      isStream := ?_
      filter := invariant.filter.later notEarlier same
      resample := invariant.resample.later notEarlier same
      control := invariant.control.later published }
  intro index inside
  dsimp only at inside ⊢
  rw [List.length_append] at inside
  by_cases isOld : index < system.received.length
  · rw [same _ (by omega), List.getElem?_append_left isOld]
    exact invariant.isStream index isOld
  · obtain ⟨later, rfl⟩ := Nat.exists_eq_add_of_le (Nat.not_lt.mp isOld)
    have isMoment :
        system.base + ((system.received.length + later : Nat) : Int) =
          system.radio.timeAsSampleCnt64 + later := by
      push_cast
      omega
    rw [isMoment, appendStream_new system.stream _ report.samples (by omega),
      List.getElem?_append_right (Nat.le_add_right _ _),
      Nat.add_sub_cancel_left]

/-- After a jump, the stream is known again from the new base on. -/
theorem Invariant.jump
    (invariant : Invariant setup system)
    {radio : Radio.BufferRx (Nat → Value)}
    {report : Radio.RxReport (Nat → Value)}
    (jumps : system.radio.Jumps report)
    (returned : system.radio.receive setup.radio report = .ok radio) :
    Invariant setup
      { system with
        radio := radio
        base := radio.timeAsSampleCnt64
        received := [] } := by
  obtain ⟨holds, notEarlier, published⟩ :=
    invariant.holds.afterJump jumps returned
  exact
    { invariant with
      holds := holds
      isStream := fun _ inside => absurd inside (Nat.not_lt_zero _)
      filter := invariant.filter.later notEarlier fun _ _ => rfl
      resample := invariant.resample.later notEarlier fun _ _ => rfl
      control := invariant.control.later published }

variable {cntWMin : Nat}

theorem Invariant.filterUnit_fits
    (invariant : Invariant setup system)
    (promised : cntWMin ≤ setup.filterLengthSamplesMax)
    (tooFew : system.filter.lb.cntW < cntWMin) :
    system.filter.lb.cntW + setup.antStreamsUnitLengthSamples ≤
      system.filter.lb.nofSamples := by
  have isUnit := setup.isUnit
  obtain ⟨units, isUnits⟩ := invariant.filterUnits
  rw [invariant.filterNofSamples]
  unfold PacerSetup.filterNofSamples TransportBlockSize.ceilDivideInteger
  have turns :=
    Nat.div_add_mod'
      (setup.filterLengthSamplesMax + setup.antStreamsUnitLengthSamples - 1)
      setup.antStreamsUnitLengthSamples
  have below :=
    Nat.mod_lt
      (setup.filterLengthSamplesMax + setup.antStreamsUnitLengthSamples - 1)
      isUnit
  have covered : units <
      (setup.filterLengthSamplesMax + setup.antStreamsUnitLengthSamples - 1) /
        setup.antStreamsUnitLengthSamples := by
    refine (Nat.lt_iff_add_one_le).mpr ?_
    rw [Nat.le_div_iff_mul_le isUnit, Nat.add_mul, Nat.one_mul,
      Nat.mul_comm units]
    omega
  calc
    _ = (units + 1) * setup.antStreamsUnitLengthSamples := by
        rw [isUnits, Nat.add_mul, Nat.one_mul, Nat.mul_comm]
    _ ≤ _ := Nat.mul_le_mul_right _ covered

/-- The filter gets another unit. -/
theorem Invariant.filterUnit
    (invariant : Invariant setup system)
    {now64 : Int}
    {inFlight : List (Nat → Value)}
    (inLoop : system.control = .filtering cntWMin now64)
    (tooFew : system.filter.lb.cntW < cntWMin)
    (reached : system.filter.target64 setup ≤ now64)
    (isShort : inFlight.length ≤ setup.radio.nofNewSamplesMax) :
    Invariant setup (system.filterUnit setup inFlight) := by
  have within := invariant.control
  rw [inLoop] at within
  have fits := invariant.filterUnit_fits within.1 tooFew
  obtain ⟨isCntW, isNofSamples⟩ :=
    filterSingleUnit_counters setup
      (system.radio.write inFlight).antStreams system.filter.lb
  have copies :=
    invariant.filter.advance invariant.holds invariant.isStream
      (reached.trans within.2) isShort
      (fun k inUnit =>
        filterSingleUnit_copied (system.radio.write inFlight).antStreams
          system.filter.lb inUnit)
      (setup.filterSingleUnit (system.radio.write inFlight).antStreams
        system.filter.lb)
      ((List.range setup.antStreamsUnitLengthSamples).map fun k =>
        (setup.filterSingleUnit (system.radio.write inFlight).antStreams
          system.filter.lb).bufferVec (system.filter.lb.cntW + k))
      (by rw [isCntW, List.length_map, List.length_range])
      (by rw [isCntW, isNofSamples]; exact fits)
      (fun index before => filterSingleUnit_before _ _ before)
      (fun k inOutput => by
        rw [List.length_map, List.length_range] at inOutput
        rw [List.getElem?_map, List.getElem?_range inOutput]
        rfl)
  exact
    { invariant with
      filter := copies
      filterNofSamples := isNofSamples.trans invariant.filterNofSamples
      filterUnits := by
        dsimp only [System.filterUnit, Lane.advance]
        rw [isCntW]
        exact Nat.dvd_add invariant.filterUnits (Nat.dvd_refl _)
      sameFilter := by
        dsimp only [System.filterUnit, Lane.advance]
        rw [invariant.sameFilter] }

theorem resampleNofSamples_room (setup : PacerSetup Value) :
    setup.resampleLengthSamplesMax + setup.resamplerNofSamplesPerUnitMax ≤
      setup.resampleNofSamples := by
  have isSome : 0 < setup.resamplerNofSamplesPerUnitMax := by
    have isUnit := setup.isUnit
    have decimates := setup.param.decimates
    refine Nat.mul_pos ?_ setup.param.interpolates
    exact Nat.div_pos (by omega) decimates
  unfold PacerSetup.resampleNofSamples
  generalize setup.resamplerNofSamplesPerUnitMax = perUnit at *
  have turns :=
    Nat.div_add_mod (setup.resampleLengthSamplesMax + perUnit - 1) perUnit
  have below :=
    Nat.mod_lt (setup.resampleLengthSamplesMax + perUnit - 1) isSome
  unfold TransportBlockSize.ceilDivideInteger
  rw [Nat.mul_add, Nat.mul_one]
  omega

/-- The resampler gets another unit, and accepts it. -/
theorem Invariant.resampleUnit
    (invariant : Invariant setup system)
    {now64 : Int}
    {inFlight : List (Nat → Value)}
    (inLoop : system.control = .resampling cntWMin now64)
    (tooFew : system.resample.lb.cntW < cntWMin)
    (reached : system.resample.target64 setup ≤ now64)
    (isShort : inFlight.length ≤ setup.radio.nofNewSamplesMax) :
    ∃ next,
      system.resampleUnit setup inFlight = .ok next ∧
      Invariant setup next := by
  have within := invariant.control
  rw [inLoop] at within
  obtain ⟨call, isCall, bounded, accepts⟩ :=
    @resample_accepts Value _ setup system.resamplerState invariant.accepts
      (setup.unitInput (system.radio.write inFlight).antStreams
        system.resample.lb)
      rfl
  have isLength :
      (PacerSetup.outputOf call).length = (call.output 0).length := by
    unfold PacerSetup.outputOf
    rw [List.length_map, List.length_range]
  have room := resampleNofSamples_room setup
  have fits : system.resample.lb.cntW + (PacerSetup.outputOf call).length ≤
      system.resample.lb.nofSamples := by
    rw [invariant.resampleNofSamples, isLength]
    have promised := within.1
    omega
  have copies :=
    invariant.resample.advance invariant.holds invariant.isStream
      (reached.trans within.2) isShort
      (fun k inUnit =>
        unitInput_eq (system.radio.write inFlight).antStreams
          system.resample.lb inUnit)
      (system.resample.lb.append (PacerSetup.outputOf call))
      (PacerSetup.outputOf call) rfl fits
      (fun index before => if_neg (Nat.not_le.mpr before))
      (fun k inOutput => by
        dsimp only [Localbuffer.append]
        rw [if_pos (Nat.le_add_right _ _), Nat.add_sub_cancel_left,
          List.getElem?_eq_getElem inOutput, Option.getD_some])
  have returned :
      setup.resampleSingleUnit (system.radio.write inFlight).antStreams
          system.resample.lb system.resamplerState =
        .ok (system.resample.lb.append (PacerSetup.outputOf call),
            call.state, PacerSetup.outputOf call) := by
    unfold PacerSetup.resampleSingleUnit
    rw [isCall]
    rfl
  unfold System.resampleUnit
  dsimp only
  rw [returned]
  exact ⟨_, rfl,
      { invariant with
        resample := copies
        resampleNofSamples := invariant.resampleNofSamples
        accepts := accepts }⟩

/-- Every step of radio or pacer keeps the invariant. -/
theorem Step.invariant
    {next : System Value}
    (isStep : Step setup system next)
    (invariant : Invariant setup system) :
    Invariant setup next := by
  cases isStep with
  | report isSteady returned => exact invariant.report isSteady returned
  | jump jumps returned => exact invariant.jump jumps returned
  | resetFilter idle notNegative =>
      exact
        { invariant with
          filter := .reset notNegative system.filter
          filterNofSamples := invariant.filterNofSamples
          filterUnits := Nat.dvd_zero _
          sameFilter := rfl }
  | resetResample idle notNegative =>
      exact
        { invariant with
          resample := .reset notNegative system.resample
          resampleNofSamples := invariant.resampleNofSamples
          accepts := accepts_reset setup system.resamplerState }
  | rewindLocalbufferResampleCntW idle =>
      exact
        { invariant with
          resample := invariant.resample.rewind
          resampleNofSamples := invariant.resampleNofSamples }
  | filterUntilNto idle promised tooFew =>
      exact { invariant with control := ⟨promised, le_rfl⟩ }
  | filterWait inLoop tooFew tooEarly reached =>
      have within := invariant.control
      rw [inLoop] at within
      exact { invariant with control := ⟨within.1, le_rfl⟩ }
  | filterSingleUnit inLoop tooFew reached isShort =>
      exact invariant.filterUnit inLoop tooFew reached isShort
  | filterReturn inLoop enough => exact { invariant with control := trivial }
  | resampleUntilNto idle promised tooFew =>
      exact { invariant with control := ⟨promised, le_rfl⟩ }
  | resampleWait inLoop tooFew tooEarly reached =>
      have within := invariant.control
      rw [inLoop] at within
      exact { invariant with control := ⟨within.1, le_rfl⟩ }
  | resampleSingleUnit inLoop tooFew reached isShort returned =>
      obtain ⟨other, isOther, kept⟩ :=
        invariant.resampleUnit inLoop tooFew reached isShort
      rw [returned] at isOther
      cases isOther
      exact kept
  | resampleReturn inLoop enough => exact { invariant with control := trivial }

/-- Every state of a run has the invariant. -/
theorem Reachable.invariant
    {rxPrestream64 : Int}
    (run : Reachable setup rxPrestream64 system) :
    Invariant setup system := by
  induction run with
  | new state =>
      exact
        { holds := Radio.BufferRx.Receives.start.holds
          isStream := fun _ inside => absurd inside (Nat.not_lt_zero _)
          filter := .new setup.filterNofSamples
          filterNofSamples := rfl
          filterUnits := Nat.dvd_zero _
          sameFilter := rfl
          resample := .new setup.resampleNofSamples
          resampleNofSamples := rfl
          accepts := accepts_reset setup state
          control := trivial }
  | step run isStep hypothesis => exact isStep.invariant hypothesis

/-- Another sample is reported in time. -/
def System.reportOne
    (setup : PacerSetup Value)
    (system : System Value)
    (sample : Nat → Value) :
    System Value :=
  { system with
    radio :=
      (system.radio.write [sample]).accounted setup.radio
        system.radio.timeAsSampleCnt64 1
    received := system.received ++ [sample]
    stream :=
      appendStream system.stream system.radio.timeAsSampleCnt64 [sample] }

/-- The radio can always report more samples, whatever the pacer does. -/
theorem Reachable.reportAll
    {rxPrestream64 : Int}
    (run : Reachable setup rxPrestream64 system)
    (room : 1 ≤ setup.radio.nofNewSamplesMax)
    (samples : List (Nat → Value)) :
    Reachable setup rxPrestream64
      (samples.foldl (System.reportOne setup) system) := by
  induction samples generalizing system with
  | nil => exact run
  | cons sample samples hypothesis =>
      have isSteady :
          system.radio.Steady ⟨system.radio.timeAsSampleCnt64, [sample]⟩ := by
        unfold Radio.BufferRx.Steady Radio.BufferRx.acceptableJitterRange64
        dsimp only
        omega
      have returned :=
        @Radio.BufferRx.receive_eq _ setup.radio system.radio
          ⟨system.radio.timeAsSampleCnt64, [sample]⟩ room
          run.invariant.holds.notNegative
      rw [Radio.BufferRx.firstTime_of_steady isSteady] at returned
      exact hypothesis (run.step (.report isSteady returned))

/--
In every run, both local buffers get consecutive samples from the start on, unit
by unit and also over the end of the ring.  No unit is copied before its end was
reported, no index is beyond the local buffer, and the samples are those of the
stream unless the radio was too far ahead or had dropped some.  The resampler
accepts every unit that is due.
-/
theorem reachable_copiesStream
    {rxPrestream64 : Int}
    (run : Reachable setup rxPrestream64 system) :
    system.filter.CopiesStream setup system.stream
        system.radio.timeAsSampleCnt64 ∧
      system.filter.lb.nofSamples = setup.filterNofSamples ∧
      system.filter.written = system.filter.copied ∧
      system.resample.CopiesStream setup system.stream
        system.radio.timeAsSampleCnt64 ∧
      system.resample.lb.nofSamples = setup.resampleNofSamples ∧
      ∀ (cntWMin : Nat) (now64 : Int) (inFlight : List (Nat → Value)),
        system.control = .resampling cntWMin now64 →
        system.resample.lb.cntW < cntWMin →
        system.resample.target64 setup ≤ now64 →
        inFlight.length ≤ setup.radio.nofNewSamplesMax →
          ∃ next, system.resampleUnit setup inFlight = .ok next := by
  have invariant := run.invariant
  refine
    ⟨invariant.filter, invariant.filterNofSamples, invariant.sameFilter,
      invariant.resample, invariant.resampleNofSamples, ?_⟩
  intro cntWMin now64 inFlight inLoop tooFew reached isShort
  obtain ⟨next, isNext, -⟩ :=
    invariant.resampleUnit inLoop tooFew reached isShort
  exact ⟨next, isNext⟩

end Steps

/-- Two samples in a ring of eight are copied as one unit. -/
theorem reachable_copiesStream_oneUnit :
    ∃ (setup : PacerSetup Int) (system : System Int),
      Reachable setup 0 system ∧
      setup.antStreamsUnitLengthSamples = 2 ∧
      system.filter.copied.map (fun sample => sample 0) = [7, 9] ∧
      system.filter.lost = false ∧
      system.filter.CopiesStream setup system.stream
        system.radio.timeAsSampleCnt64 := by
  let setup : PacerSetup Int :=
    { radio := ⟨8, 1, by decide, by decide⟩
      nofAntennasLimited := 1
      antStreamsUnitLengthSamples := 2
      param := ⟨1, 1, by decide, by decide⟩
      lowPassFilterCoefficients := []
      resampler := _
      filterLengthSamplesMax := 3
      resampleLengthSamplesMax := 3
      isAntenna := by decide
      isUnit := by decide
      divides := rfl
      created := rfl
      decreases := by decide
      isLong := by decide }
  have received :=
    (@Reachable.new Int _ setup 0 ⟨fun _ _ => 0, 0, 0⟩).reportAll
      (by decide) [fun _ => 7, fun _ => 9]
  have called :=
    received.step
      (@Step.filterUntilNto Int _ setup _ 2 rfl (by decide) (by decide))
  have copied :=
    called.step
      (@Step.filterSingleUnit Int _ setup _ 2 2 [] rfl (by decide)
        (by decide) (by decide))
  exact ⟨_, _, copied, rfl, rfl, rfl, (reachable_copiesStream copied).1⟩

/-- A ring of eight samples has been overwritten before a unit is copied. -/
theorem not_reachable_copiesStream :
    ¬∀ (setup : PacerSetup Int) (rxPrestream64 : Int) (system : System Int),
      Reachable setup rxPrestream64 system →
        ∀ k < system.filter.copied.length,
          system.filter.copied[k]? =
            system.stream (system.filter.start + k) := by
  intro always
  let setup : PacerSetup Int :=
    { radio := ⟨8, 1, by decide, by decide⟩
      nofAntennasLimited := 1
      antStreamsUnitLengthSamples := 2
      param := ⟨1, 1, by decide, by decide⟩
      lowPassFilterCoefficients := []
      resampler := _
      filterLengthSamplesMax := 3
      resampleLengthSamplesMax := 3
      isAntenna := by decide
      isUnit := by decide
      divides := rfl
      created := rfl
      decreases := by decide
      isLong := by decide }
  have received :=
    (@Reachable.new Int _ setup 0 ⟨fun _ _ => 0, 0, 0⟩).reportAll
      (by decide) ((List.range 10).map fun time _ => (time : Int))
  have called :=
    received.step
      (@Step.filterUntilNto Int _ setup _ 2 rfl (by decide) (by decide))
  have copied :=
    called.step
      (@Step.filterSingleUnit Int _ setup _ 2 10 [] rfl (by decide)
        (by decide) (by decide))
  have samples := always setup 0 _ copied 0 (by decide)
  have first :=
    congrArg (Option.map fun sample : Nat → Int => sample 0) samples
  -- the sample of time eight stands where that of time zero was
  exact absurd first (by decide)

end RxPacer

end DectNrp
