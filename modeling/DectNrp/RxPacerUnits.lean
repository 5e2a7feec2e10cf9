import DectNrp.RxPacer

namespace DectNrp

/-!
# Units of the receive buffer

A unit is read from the ring of the receive buffer, through a buffer of its own
when it reaches over the end of the ring, and given to the resampler.  The
resampler puts out at most as many samples for it as for whole schedules, and
over many units as many as one likes.
-/

open TransportBlockSize (ceilDivideInteger)

namespace Resampler

variable {Value : Type}

/-- Samples of a unit from an index of the ring on. -/
def singleUnitInput
    (antStreamsLengthSamples antStreamsUnitLengthSamples index : Nat)
    (antStreams : Nat → Value) :
    Nat → Value :=
  let right := antStreamsLengthSamples - index
  if antStreamsUnitLengthSamples ≤ right then
    fun k => antStreams (index + k)
  else
    -- the left part follows the right one at the edge
    fun k =>
      if k < right then antStreams (index + k) else antStreams (k - right)

/-- A unit has consecutive samples of the ring. -/
theorem singleUnitInput_eq
    {antStreamsLengthSamples antStreamsUnitLengthSamples index k : Nat}
    (inRing : index < antStreamsLengthSamples)
    (isShort : antStreamsUnitLengthSamples ≤ antStreamsLengthSamples)
    (inUnit : k < antStreamsUnitLengthSamples)
    (antStreams : Nat → Value) :
    singleUnitInput antStreamsLengthSamples antStreamsUnitLengthSamples
        index antStreams k =
      antStreams ((index + k) % antStreamsLengthSamples) := by
  unfold singleUnitInput
  by_cases isWhole :
      antStreamsUnitLengthSamples ≤ antStreamsLengthSamples - index
  · rw [if_pos isWhole, Nat.mod_eq_of_lt (by omega)]
  · rw [if_neg isWhole]
    by_cases isRight : k < antStreamsLengthSamples - index
    · rw [if_pos isRight, Nat.mod_eq_of_lt (by omega)]
    · have isLeft : index + k = k - (antStreamsLengthSamples - index) +
          antStreamsLengthSamples := by
        omega
      rw [if_neg isRight, isLeft, Nat.add_mod_right,
        Nat.mod_eq_of_lt (by omega)]

/-- The ring at the times at which units are read, and where they start. -/
structure UnitSource (Value : Type) where
  antStreamsLengthSamples : Nat
  antStreamsUnitLengthSamples : Nat
  isUnit : 0 < antStreamsUnitLengthSamples
  /-- The ring is a multiple of a unit. -/
  divides : antStreamsLengthSamples % antStreamsUnitLengthSamples = 0
  antStreams : Nat → Nat → Nat → Value
  antStreamsTime64 : Nat

/-- New samples of a unit. -/
def UnitSource.input
    (source : UnitSource Value)
    (unit : Nat) :
    ResamplerInput Value where
  input := fun antenna =>
    singleUnitInput source.antStreamsLengthSamples
      source.antStreamsUnitLengthSamples
      ((source.antStreamsTime64 +
          unit * source.antStreamsUnitLengthSamples) %
        source.antStreamsLengthSamples)
      (source.antStreams unit antenna)
  nNewInputSamples := source.antStreamsUnitLengthSamples

variable [CommSemiring Value]

/-- The resampler after some units. -/
def unitState
    (resampler : Resampler Value)
    (state : ResamplerState Value)
    (nAntennas : Nat)
    (source : UnitSource Value) :
    Nat → ResamplerState Value
  | 0 => resampler.reset state
  | unit + 1 =>
      match resampler.resample
        (unitState resampler state nAntennas source unit) nAntennas
        (source.input unit) with
      | .ok call => call.state
      | .error _ => unitState resampler state nAntennas source unit

/-- What the resampler puts out for a unit. -/
def unitOutput
    (resampler : Resampler Value)
    (state : ResamplerState Value)
    (nAntennas : Nat)
    (source : UnitSource Value)
    (antenna unit : Nat) :
    List Value :=
  match resampler.resample
    (resampler.unitState state nAntennas source unit) nAntennas
    (source.input unit) with
  | .ok call => call.output antenna
  | .error _ => []

section Count

variable
  {param : ResamplerParam}
  {lowPassFilterCoefficients : List Value}
  {resampler : Resampler Value}
  {input : Nat → Value}
  {nNewInputSamples inputSampleCnt : Nat}

/-- Whole schedules have the same number of samples from anywhere on. -/
theorem length_genericOutput_turns
    (created : Created param lowPassFilterCoefficients resampler)
    (inside : inputSampleCnt < resampler.m)
    (turns : Nat) :
    (resampler.genericOutput input (turns * resampler.m)
        inputSampleCnt).length =
      turns * resampler.l := by
  have isTable := created.length_subfilterIndices
  have isSum := created.isSum.trans created.isL.symm
  have before :=
    @genericOutput_add Value _ resampler (fun _ => 0) 0 inputSampleCnt
      (turns * resampler.m)
  have behind :=
    @genericOutput_add Value _ resampler (fun _ => 0) 0
      (turns * resampler.m) inputSampleCnt
  rw [Nat.add_comm, behind, Nat.zero_add, Nat.zero_add, Nat.mul_mod_left,
    Nat.mod_eq_of_lt inside] at before
  have lengths := congrArg List.length before
  rw [List.length_append, List.length_append,
    length_genericOutput_mul isTable isSum,
    @length_genericOutput Value _ resampler (fun _ => 0)] at lengths
  rw [length_genericOutput] at lengths ⊢
  omega

/-- More input samples never have fewer output samples. -/
theorem length_genericOutput_mono
    {fewer more : Nat}
    (ordered : fewer ≤ more) :
    (resampler.genericOutput input fewer inputSampleCnt).length ≤
      (resampler.genericOutput input more inputSampleCnt).length := by
  obtain ⟨others, rfl⟩ := Nat.exists_eq_add_of_le ordered
  rw [genericOutput_add, List.length_append]
  exact Nat.le_add_right _ _

/-- At most as many samples as for whole schedules. -/
theorem length_genericOutput_le
    (created : Created param lowPassFilterCoefficients resampler)
    (inside : inputSampleCnt < resampler.m) :
    (resampler.genericOutput input nNewInputSamples
        inputSampleCnt).length ≤
      ceilDivideInteger nNewInputSamples param.m *
        param.l := by
  have isM := created.isM
  have isEnough : nNewInputSamples ≤
      ceilDivideInteger nNewInputSamples param.m *
        resampler.m := by
    have turns := Nat.div_add_mod' (nNewInputSamples + param.m - 1) param.m
    have below := Nat.mod_lt (nNewInputSamples + param.m - 1) param.decimates
    unfold ceilDivideInteger
    rw [isM]
    omega
  calc
    (resampler.genericOutput input nNewInputSamples inputSampleCnt).length
      ≤ (resampler.genericOutput input
          (ceilDivideInteger nNewInputSamples param.m *
            resampler.m) inputSampleCnt).length :=
        length_genericOutput_mono isEnough
    _ = _ := by rw [length_genericOutput_turns created inside, created.isL]

end Count

section Units

variable
  {param : ResamplerParam}
  {lowPassFilterCoefficients : List Value}
  {resampler : Resampler Value}
  {state : ResamplerState Value}
  {nAntennas antenna : Nat}
  {source : UnitSource Value}

/-- A unit continues the schedule. -/
theorem unit_spec
    (created : Created param lowPassFilterCoefficients resampler)
    (resamples : ¬(resampler.l = 1 ∧ resampler.m = 1))
    (isAntenna : antenna < nAntennas)
    (isLong : resampler.historyLength ≤ source.antStreamsUnitLengthSamples)
    (unit : Nat) :
    let before := resampler.unitState state nAntennas source unit
    let after := resampler.unitState state nAntennas source (unit + 1)
    before.inputSampleCnt < resampler.m ∧
      before.nSkipInputSamplesCurrent ≤ resampler.historyLength ∧
      after.nSkipInputSamplesCurrent = 0 ∧
      after.inputSampleCnt =
        (before.inputSampleCnt +
            (source.antStreamsUnitLengthSamples -
              before.nSkipInputSamplesCurrent)) %
          resampler.m ∧
      ∃ input,
        resampler.unitOutput state nAntennas source antenna unit =
          resampler.genericOutput input
            (source.antStreamsUnitLengthSamples -
              before.nSkipInputSamplesCurrent)
            before.inputSampleCnt := by
  have positive : 0 < resampler.m := by
    rw [created.isM]
    exact param.decimates
  -- the next state is that of the call, which is accepted
  have step : ∀ unit, (resampler.unitState state nAntennas source
      unit).inputSampleCnt < resampler.m →
        (resampler.unitState state nAntennas source
            unit).nSkipInputSamplesCurrent ≤ resampler.historyLength →
        ∃ call, resampler.resample
            (resampler.unitState state nAntennas source unit) nAntennas
            (source.input unit) = .ok call ∧
            resampler.unitState state nAntennas source (unit + 1) =
              call.state ∧
            resampler.unitOutput state nAntennas source antenna unit =
              call.output antenna ∧
            resampler.resampleLxmx
              (resampler.unitState state nAntennas source unit) nAntennas
              (source.input unit) = .ok call := by
    intro unit inside isShort
    obtain ⟨call, isCall, -⟩ :=
      @resampleLxmx_spec Value _ param lowPassFilterCoefficients resampler
        (source.input unit) created _ inside isShort isLong nAntennas
    have isResample : resampler.resample
        (resampler.unitState state nAntennas source unit) nAntennas
        (source.input unit) = .ok call := by
      unfold resample
      rw [if_neg resamples, isCall]
    refine ⟨call, isResample, ?_, ?_, isCall⟩
    · rw [unitState, isResample]
    · rw [unitOutput, isResample]
  have conditions : ∀ unit, (resampler.unitState state nAntennas source
      unit).inputSampleCnt < resampler.m ∧
          (resampler.unitState state nAntennas source
            unit).nSkipInputSamplesCurrent ≤ resampler.historyLength := by
    intro unit
    induction unit with
    | zero => exact ⟨positive, created.isShort⟩
    | succ unit hypothesis =>
        obtain ⟨inside, isShort⟩ := hypothesis
        obtain ⟨call, -, isAfter, -, isLxmx⟩ := step unit inside isShort
        obtain ⟨same, isSame, noSkip, isNext, -⟩ :=
          @resampleLxmx_spec Value _ param lowPassFilterCoefficients
            resampler (source.input unit) created _ inside isShort isLong
            nAntennas
        obtain rfl := Except.ok.inj (isLxmx.symm.trans isSame)
        rw [isAfter, noSkip, isNext (Nat.zero_lt_of_lt isAntenna)]
        exact ⟨Nat.mod_lt _ positive, Nat.zero_le _⟩
  obtain ⟨inside, isShort⟩ := conditions unit
  obtain ⟨call, -, isAfter, isOutput, isLxmx⟩ := step unit inside isShort
  obtain ⟨same, isSame, noSkip, isNext, antennas⟩ :=
    @resampleLxmx_spec Value _ param lowPassFilterCoefficients resampler
      (source.input unit) created _ inside isShort isLong nAntennas
  obtain rfl := Except.ok.inj (isLxmx.symm.trans isSame)
  dsimp only
  rw [isAfter, isOutput]
  exact ⟨inside, isShort, noSkip,
    isNext (Nat.zero_lt_of_lt isAntenna), _, (antennas antenna isAntenna).1⟩

/-- Samples are taken over where the rates are the same. -/
theorem length_unitOutput_trivial
    (isTrivial : param.l = 1 ∧ param.m = 1)
    (created : create param lowPassFilterCoefficients = .ok resampler)
    (unit : Nat) :
    (resampler.unitOutput state nAntennas source antenna unit).length =
      source.antStreamsUnitLengthSamples := by
  have isSame := create_trivial isTrivial created
  unfold unitOutput resample
  rw [if_pos ⟨isSame.1, isSame.2.1⟩]
  change ((List.range source.antStreamsUnitLengthSamples).map _).length = _
  rw [List.length_map, List.length_range]

theorem length_units
    (created : Created param lowPassFilterCoefficients resampler)
    (resamples : ¬(resampler.l = 1 ∧ resampler.m = 1))
    (isAntenna : antenna < nAntennas)
    (isLong : resampler.historyLength ≤ source.antStreamsUnitLengthSamples)
    (first nofUnits : Nat) :
    ((List.range nofUnits).flatMap fun unit =>
        resampler.unitOutput state nAntennas source antenna
          (first + 1 + unit)).length =
        (resampler.genericOutput (fun _ => 0)
          (nofUnits * source.antStreamsUnitLengthSamples)
          (resampler.unitState state nAntennas source
            (first + 1)).inputSampleCnt).length ∧
      (resampler.unitState state nAntennas source
          (first + 1 + nofUnits)).inputSampleCnt =
        ((resampler.unitState state nAntennas source
            (first + 1)).inputSampleCnt +
            nofUnits * source.antStreamsUnitLengthSamples) %
          resampler.m := by
  have spec :=
    @unit_spec Value _ param lowPassFilterCoefficients resampler state
      nAntennas antenna source created resamples isAntenna isLong
  induction nofUnits with
  | zero =>
      rw [Nat.zero_mul]
      exact ⟨rfl, (Nat.mod_eq_of_lt (spec (first + 1)).1).symm⟩
  | succ nofUnits hypothesis =>
      obtain ⟨lengths, isCnt⟩ := hypothesis
      obtain ⟨-, -, -, isNext, input, isOutput⟩ := spec (first + 1 + nofUnits)
      have noSkip : (resampler.unitState state nAntennas source
          (first + 1 + nofUnits)).nSkipInputSamplesCurrent = 0 := by
        rw [Nat.add_right_comm]
        exact (spec (first + nofUnits)).2.2.1
      rw [noSkip, Nat.sub_zero, isCnt] at isNext isOutput
      refine ⟨?_, ?_⟩
      · rw [List.range_succ, List.flatMap_append, List.length_append,
          lengths, List.flatMap_singleton, isOutput, Nat.succ_mul,
          genericOutput_add, List.length_append, length_genericOutput,
          length_genericOutput, length_genericOutput]
      · rw [← Nat.add_assoc, isNext, Nat.mod_add_mod, Nat.succ_mul,
          Nat.add_assoc]

theorem length_unitOutput_le
    (created : create param lowPassFilterCoefficients = .ok resampler)
    (isAntenna : antenna < nAntennas)
    (isLong : resampler.historyLength ≤ source.antStreamsUnitLengthSamples)
    (unit : Nat) :
    (resampler.unitOutput state nAntennas source antenna unit).length ≤
      ceilDivideInteger
          source.antStreamsUnitLengthSamples param.m *
        param.l := by
  by_cases isTrivial : param.l = 1 ∧ param.m = 1
  · rw [length_unitOutput_trivial isTrivial created, isTrivial.1, isTrivial.2]
    unfold ceilDivideInteger
    omega
  · have spec := create_spec isTrivial created
    rw [← spec.isL, ← spec.isM] at isTrivial
    obtain ⟨inside, -, -, -, input, isOutput⟩ :=
      @unit_spec Value _ param lowPassFilterCoefficients resampler state
        nAntennas antenna source spec isTrivial isAntenna isLong unit
    rw [isOutput]
    exact le_trans (length_genericOutput_mono (Nat.sub_le _ _))
      (length_genericOutput_le spec inside)

theorem length_units_unbounded
    (created : create param lowPassFilterCoefficients = .ok resampler)
    (isAntenna : antenna < nAntennas)
    (isLong : resampler.historyLength ≤ source.antStreamsUnitLengthSamples)
    (first count : Nat) :
    ∃ nofUnits,
      count ≤
        ((List.range nofUnits).flatMap fun unit =>
          resampler.unitOutput state nAntennas source antenna
            (first + unit)).length := by
  have isUnit := source.isUnit
  by_cases isTrivial : param.l = 1 ∧ param.m = 1
  · refine ⟨count, ?_⟩
    rw [List.length_flatMap]
    simp only [length_unitOutput_trivial isTrivial created]
    rw [List.map_const', List.length_range, List.sum_replicate_nat]
    exact Nat.le_mul_of_pos_right count isUnit
  · have spec := create_spec isTrivial created
    rw [← spec.isL, ← spec.isM] at isTrivial
    have inside :=
      (@unit_spec Value _ param lowPassFilterCoefficients resampler state
        nAntennas antenna source spec isTrivial isAntenna isLong
        (first + 1)).1
    have isPositive : 0 < resampler.l := by
      rw [spec.isL]
      exact param.interpolates
    -- the delay of the filter is skipped in the first unit at most
    refine ⟨1 + count * resampler.m, ?_⟩
    rw [List.range_add, List.flatMap_append, List.length_append,
      List.flatMap_map]
    refine le_trans ?_ (Nat.le_add_left _ _)
    have isLength :=
      (@length_units Value _ param lowPassFilterCoefficients resampler
        state nAntennas antenna source spec isTrivial isAntenna isLong
        first (count * resampler.m)).1
    simp only [← Nat.add_assoc]
    rw [isLength]
    calc
      count ≤ count * resampler.l := Nat.le_mul_of_pos_right count isPositive
      _ = (resampler.genericOutput (fun _ => 0) (count * resampler.m)
          (resampler.unitState state nAntennas source
            (first + 1)).inputSampleCnt).length :=
        (length_genericOutput_turns spec inside count).symm
      _ ≤ _ := length_genericOutput_mono (Nat.le_mul_of_pos_right _ isUnit)

/-- Samples of all antennas at the same time, for one unit after another. -/
def resampledUnits
    (state : ResamplerState Value)
    (source : UnitSource Value)
    (created :
      create param lowPassFilterCoefficients = .ok resampler)
    (isAntenna : 0 < nAntennas)
    (isLong :
      resampler.historyLength ≤ source.antStreamsUnitLengthSamples) :
    ResampledUnits (Nat → Value) where
  unitLength := source.antStreamsUnitLengthSamples
  param := param
  isUnit := source.isUnit
  output := fun unit =>
    (List.range
        (resampler.unitOutput state nAntennas source 0 unit).length).map
      fun k antenna =>
        (resampler.unitOutput state nAntennas source antenna
          unit)[k]?.getD 0
  bounded := by
    intro unit
    rw [List.length_map, List.length_range]
    exact length_unitOutput_le created isAntenna isLong unit
  delivers := by
    intro first count
    obtain ⟨nofUnits, isEnough⟩ :=
      @length_units_unbounded Value _ param lowPassFilterCoefficients
        resampler state nAntennas 0 source created isAntenna isLong first
        count
    refine ⟨nofUnits, ?_⟩
    rw [List.length_flatMap] at isEnough ⊢
    simp only [List.length_map, List.length_range]
    exact isEnough

end Units

end Resampler

namespace RxSynced

variable {Sample : Type}

/--
Whatever the units put out, symbols are consecutive pieces of the resampled
stream from its first sample on, and no index is beyond the local buffer.  The
symbols of a packet are never longer than what the buffer must hold.
-/
theorem runSymbols_consecutive
    (units : ResampledUnits Sample)
    (state : RxSynced Sample)
    {localbufferLengthSamplesMax nBDftOs : Nat}
    (cpLengths : List Nat)
    (fit :
      ∀ nSamplesInCpOs, nSamplesInCpOs ∈ cpLengths →
        nSamplesInCpOs + nBDftOs ≤ localbufferLengthSamplesMax) :
    (∃ nofSamples after least,
      units.getInitializedLocalbuffer localbufferLengthSamplesMax =
          .ok nofSamples ∧
        (∀ fuel, least ≤ fuel →
          runSymbols units nofSamples fuel nBDftOs state.reset cpLengths =
            some after) ∧
        after.symbols.map List.length = cpLengths.map (· + nBDftOs) ∧
        after.symbols.flatten <+: units.stream after.nofUnits ∧
        after.localbufferCntR ≤ after.localbufferCntW ∧
        after.beyond = false) ∧
      ∀ (device : RxDevice) (b nDfSymb nSamplesInCpOs : Nat),
        nSamplesInCpOs ∈ device.cpLengths b nDfSymb →
        nSamplesInCpOs + device.nBDftOs ≤
          device.localbufferLengthSamplesMax := by
  refine ⟨?_, fun device _ _ _ isCp => device.cpLengths_le isCp⟩
  obtain ⟨nofSamples, isCreated, isRoom⟩ :=
    getInitializedLocalbuffer_spec units localbufferLengthSamplesMax
  obtain ⟨after, least, symbols, consumes, areSymbols, areLengths,
    isAfter⟩ :=
    (consumes_reset units nofSamples state).symbols cpLengths
      (fun nSamplesInCpOs isCp =>
        le_trans (Nat.add_le_add_right (fit nSamplesInCpOs isCp) _) isRoom)
  refine ⟨nofSamples, after, least, isCreated, isAfter, ?_, ?_,
    consumes.ordered, consumes.front.inside⟩
  · rw [areSymbols, ← areLengths]
    rfl
  · rw [consumes.isStart]
    exact List.take_prefix _ _

/-- Two symbols of a ring that is taken over as it is. -/
theorem runSymbols_consecutive_twoSymbols :
    ∃ (resampler : Resampler Int) (units : ResampledUnits (Nat → Int)),
      Resampler.create ⟨1, 1, by decide, by decide⟩ [] = .ok resampler ∧
        units.unitLength = 2 ∧
        ∃ nofSamples after least,
          units.getInitializedLocalbuffer 3 = .ok nofSamples ∧
            (∀ fuel, least ≤ fuel →
              runSymbols units nofSamples fuel 2
                (reset
                  { localbufferResample := fun _ _ => 0
                    cntW := 0
                    nofUnits := 0
                    localbufferCntW := 0
                    localbufferCntR := 0
                    mixerStage := []
                    beyond := false
                    symbols := [] })
                [1, 0] = some after) ∧
            after.symbols.map List.length = [3, 2] ∧
            after.symbols.flatten <+: units.stream after.nofUnits ∧
            after.localbufferCntR ≤ after.localbufferCntW ∧
            after.beyond = false := by
  refine ⟨_, @Resampler.resampledUnits Int _ ⟨1, 1, by decide, by decide⟩
      [] _ 1
      { historyVec := fun _ _ => 0
        nSkipInputSamplesCurrent := 0
        inputSampleCnt := 0 }
      { antStreamsLengthSamples := 4
        antStreamsUnitLengthSamples := 2
        isUnit := by decide
        divides := rfl
        antStreams := fun _ _ index => index
        antStreamsTime64 := 3 }
      rfl (by decide) (Nat.zero_le 2), rfl, rfl, ?_⟩
  exact (@runSymbols_consecutive _ _ _ 3 2 [1, 0] (by decide)).1

end RxSynced

end DectNrp
