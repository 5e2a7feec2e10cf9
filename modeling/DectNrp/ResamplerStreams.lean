import DectNrp.Resampler

namespace DectNrp

/-!
# Resampled streams

Whatever the calls between which the input samples are split, the outputs are
those of windows over the whole stream with zeros in front and behind.  A
window for a subfilter is one sample of the interpolated and filtered stream.
-/

open Polyphase (convolve decimate upsample)

/-- The samples of one antenna in a call. -/
def ResamplerInput.samples
    {Value : Type}
    (new : ResamplerInput Value)
    (antenna : Nat) :
    List Value :=
  (List.range new.nNewInputSamples).map (new.input antenna)

theorem ResamplerInput.length_samples
    {Value : Type}
    (new : ResamplerInput Value)
    (antenna : Nat) :
    (new.samples antenna).length = new.nNewInputSamples := by
  rw [samples, List.length_map, List.length_range]

namespace Resampler

variable {Value : Type}

/-- What the loop over the first antennas leaves. -/
structure Antennas
    (state : ResamplerState Value)
    (outputs : Nat → List Value)
    (nAntennas : Nat)
    (call : Call Value) : Prop where
  output : ∀ antenna, antenna < nAntennas →
    call.output antenna = outputs antenna
  outCnt : ∀ antenna, antenna < nAntennas →
    call.outCnt = (outputs antenna).length
  untouched : ∀ antenna, nAntennas ≤ antenna →
    call.state.historyVec antenna = state.historyVec antenna

/-- One more antenna. -/
theorem Antennas.next
    {state : ResamplerState Value}
    {outputs : Nat → List Value}
    {nAntennas : Nat}
    {call after : Call Value}
    (antennas : Antennas state outputs nAntennas call)
    (isOutput :
      after.output = Function.update call.output nAntennas (outputs nAntennas))
    (isOutCnt : after.outCnt = (outputs nAntennas).length)
    (others :
      ∀ other, other ≠ nAntennas →
        after.state.historyVec other = call.state.historyVec other)
    (sameLength :
      ∀ first second, (outputs first).length = (outputs second).length) :
    Antennas state outputs (nAntennas + 1) after := by
  refine ⟨?_, ?_, ?_⟩
  · intro antenna isDone
    rw [isOutput]
    by_cases isLast : antenna = nAntennas
    · rw [isLast, Function.update_self]
    · rw [Function.update_of_ne isLast]
      exact antennas.output antenna (by omega)
  · intro antenna _
    rw [isOutCnt]
    exact sameLength nAntennas antenna
  · intro antenna isOpen
    rw [others antenna (by omega)]
    exact antennas.untouched antenna (by omega)

variable [CommSemiring Value]

/-- A stream behind a history of zeros. -/
def padded
    (historyLength : Nat)
    (stream : List Value)
    (k : Nat) :
    Value :=
  if k < historyLength then 0 else stream[k - historyLength]?.getD 0

/-- New samples behind a history. -/
def joined
    (historyLength : Nat)
    (history input : Nat → Value)
    (k : Nat) :
    Value :=
  if k < historyLength then history k else input (k - historyLength)

section OneCall

variable
  {param : ResamplerParam}
  {lowPassFilterCoefficients : List Value}
  {resampler : Resampler Value}
  {new : ResamplerInput Value}
  {nSkip inputSampleCnt : Nat}

theorem resampleAntenna_spec
    (created : Created param lowPassFilterCoefficients resampler)
    (inside : inputSampleCnt < resampler.m)
    (isShort : nSkip ≤ resampler.historyLength)
    (isLong : resampler.historyLength ≤ new.nNewInputSamples)
    (call : Call Value)
    (i : Nat) :
    let after := resampler.resampleAntenna new nSkip inputSampleCnt call i
    let output :=
      resampler.genericOutput (fun k =>
          joined resampler.historyLength (call.state.historyVec i)
            (new.input i) (nSkip + k))
        (new.nNewInputSamples - nSkip) inputSampleCnt
    after.output = Function.update call.output i output ∧
      after.outCnt = output.length ∧
      after.state.inputSampleCnt =
        (inputSampleCnt + (new.nNewInputSamples - nSkip)) % resampler.m ∧
      (∀ k, k < resampler.historyLength → after.state.historyVec i k =
          new.input i (new.nNewInputSamples - resampler.historyLength + k)) ∧
      ∀ other, other ≠ i →
        after.state.historyVec other = call.state.historyVec other := by
  have positive : 0 < resampler.m := Nat.zero_lt_of_lt inside
  have isLength := created.subfilterLength_eq
  have parts : new.nNewInputSamples - nSkip = resampler.historyLength - nSkip +
      (new.nNewInputSamples - resampler.historyLength) := by
    omega
  intro after output
  have isOutput : output = resampler.genericOutput (fun k =>
      if resampler.historyLength ≤ nSkip + k ∧
          nSkip + k < 2 * resampler.historyLength then
        new.input i (nSkip + k - resampler.historyLength)
      else call.state.historyVec i (nSkip + k))
          (resampler.historyLength - nSkip) inputSampleCnt ++
          resampler.genericOutput (new.input i)
            (new.nNewInputSamples - resampler.historyLength)
            ((inputSampleCnt + (resampler.historyLength - nSkip)) %
              resampler.m) := by
    change resampler.genericOutput _ _ _ = _
    rw [parts, genericOutput_add]
    refine congrArg₂ _ (genericOutput_congr ?_) (genericOutput_congr ?_)
    · intro k isRead
      unfold joined
      by_cases isOld : nSkip + k < resampler.historyLength
      · rw [if_pos isOld, if_neg (by omega)]
      · rw [if_neg isOld, if_pos (by omega)]
    · intro k _
      have isIndex : nSkip + (resampler.historyLength - nSkip + k) -
          resampler.historyLength = k := by
        omega
      unfold joined
      rw [if_neg (by omega), isIndex]
  have isAfter :
      after = resampler.resampleAntenna new nSkip inputSampleCnt call i :=
    rfl
  unfold resampleAntenna at isAfter
  dsimp only at isAfter
  rw [created.dispatch_eq inside, resampleLxmxGenericImpl_eq inside,
    created.dispatch_eq (Nat.mod_lt _ positive),
    resampleLxmxGenericImpl_eq (Nat.mod_lt _ positive)] at isAfter
  dsimp only at isAfter
  rw [← isOutput] at isAfter
  rw [isAfter]
  refine ⟨rfl, ?_, ?_, ?_, ?_⟩
  · dsimp only
    rw [isOutput, List.length_append]
  · dsimp only
    rw [Nat.mod_add_mod, parts, Nat.add_assoc]
  · intro k isHistory
    dsimp only
    rw [Function.update_self, if_pos isHistory]
  · intro other different
    exact Function.update_of_ne different _ _

theorem flushAntenna_spec
    (created : Created param lowPassFilterCoefficients resampler)
    (inside : inputSampleCnt < resampler.m)
    (call : Call Value)
    (i : Nat) :
    let after := resampler.flushAntenna inputSampleCnt call i
    let output :=
      resampler.genericOutput
        (joined resampler.historyLength (call.state.historyVec i) fun _ => 0)
        resampler.historyLength inputSampleCnt
    after.output = Function.update call.output i output ∧
      after.outCnt = output.length ∧
      ∀ other, other ≠ i →
        after.state.historyVec other = call.state.historyVec other := by
  have isLength := created.subfilterLength_eq
  intro after output
  have isOutput : output = resampler.genericOutput (fun k =>
      if resampler.historyLength ≤ k ∧ k < 2 * resampler.historyLength then
        0
      else call.state.historyVec i k)
          resampler.historyLength inputSampleCnt := by
    refine genericOutput_congr ?_
    intro k isRead
    unfold joined
    by_cases isOld : k < resampler.historyLength
    · rw [if_pos isOld, if_neg (by omega)]
    · rw [if_neg isOld, if_pos (by omega)]
  have isAfter : after = resampler.flushAntenna inputSampleCnt call i := rfl
  unfold flushAntenna at isAfter
  dsimp only at isAfter
  rw [resampleLxmxGenericImpl_eq inside] at isAfter
  dsimp only at isAfter
  rw [← isOutput] at isAfter
  rw [isAfter]
  refine ⟨rfl, rfl, ?_⟩
  intro other different
  exact Function.update_of_ne different _ _

/-- A call returns as many samples for every antenna. -/
theorem resampleLxmx_spec
    (created : Created param lowPassFilterCoefficients resampler)
    {state : ResamplerState Value}
    (inside : state.inputSampleCnt < resampler.m)
    (isShort : state.nSkipInputSamplesCurrent ≤ resampler.historyLength)
    (isLong : resampler.historyLength ≤ new.nNewInputSamples)
    (nAntennas : Nat) :
    ∃ call,
      resampler.resampleLxmx state nAntennas new = .ok call ∧
        call.state.nSkipInputSamplesCurrent = 0 ∧
        (0 < nAntennas →
          call.state.inputSampleCnt =
            (state.inputSampleCnt +
                (new.nNewInputSamples - state.nSkipInputSamplesCurrent)) %
              resampler.m) ∧
        ∀ antenna, antenna < nAntennas →
          call.output antenna =
              resampler.genericOutput
                (fun k =>
                  joined resampler.historyLength
                    (state.historyVec antenna) (new.input antenna)
                    (state.nSkipInputSamplesCurrent + k))
                (new.nNewInputSamples - state.nSkipInputSamplesCurrent)
                state.inputSampleCnt ∧
            call.outCnt = (call.output antenna).length ∧
            ∀ k, k < resampler.historyLength →
              call.state.historyVec antenna k =
                new.input antenna
                  (new.nNewInputSamples - resampler.historyLength + k) := by
  -- the loop over antennas, with the histories of those that are done
  have loop : ∀ nDone,
      let call :=
        (List.range nDone).foldl
          (resampler.resampleAntenna new state.nSkipInputSamplesCurrent
            state.inputSampleCnt)
          { state := state, output := fun _ => [], outCnt := 0 }
      Antennas state (fun antenna =>
          resampler.genericOutput (fun k =>
              joined resampler.historyLength
                (state.historyVec antenna) (new.input antenna)
                (state.nSkipInputSamplesCurrent + k))
            (new.nNewInputSamples - state.nSkipInputSamplesCurrent)
            state.inputSampleCnt)
          nDone call ∧
        (0 < nDone → call.state.inputSampleCnt = (state.inputSampleCnt +
            (new.nNewInputSamples - state.nSkipInputSamplesCurrent)) %
              resampler.m) ∧
        ∀ antenna, antenna < nDone → ∀ k, k < resampler.historyLength →
            call.state.historyVec antenna k = new.input antenna
                (new.nNewInputSamples - resampler.historyLength + k) := by
    intro nDone
    induction nDone with
    | zero =>
        refine ⟨⟨?_, ?_, fun _ _ => rfl⟩, ?_, ?_⟩
        · intro antenna isDone
          exact absurd isDone (Nat.not_lt_zero antenna)
        · intro antenna isDone
          exact absurd isDone (Nat.not_lt_zero antenna)
        · intro isSome
          exact absurd isSome (lt_irrefl 0)
        · intro antenna isDone
          exact absurd isDone (Nat.not_lt_zero antenna)
    | succ nDone hypothesis =>
        rw [List.range_succ, List.foldl_append, List.foldl_cons,
          List.foldl_nil]
        obtain ⟨antennas, -, histories⟩ := hypothesis
        generalize (List.range nDone).foldl
            (resampler.resampleAntenna new state.nSkipInputSamplesCurrent
              state.inputSampleCnt)
            { state := state, output := fun _ => [], outCnt := 0 } =
          call at *
        obtain ⟨isOutput, isOutCnt, isNext, isHistory, others⟩ :=
          resampleAntenna_spec created inside isShort isLong call nDone
        rw [antennas.untouched nDone le_rfl] at isOutput isOutCnt
        refine ⟨antennas.next isOutput isOutCnt others ?_, ?_, ?_⟩
        · intro first second
          rw [length_genericOutput, length_genericOutput]
        · intro _
          exact isNext
        · intro antenna isDone k inHistory
          by_cases isLast : antenna = nDone
          · rw [isLast]
            exact isHistory k inHistory
          · rw [others antenna isLast]
            exact histories antenna (by omega) k inHistory
  obtain ⟨antennas, isNext, histories⟩ := loop nAntennas
  generalize isCall : (List.range nAntennas).foldl
      (resampler.resampleAntenna new state.nSkipInputSamplesCurrent
        state.inputSampleCnt)
      { state := state, output := fun _ => [], outCnt := 0 } = call at *
  refine ⟨{ call with
    state := { call.state with nSkipInputSamplesCurrent := 0 } },
    ?_, rfl, isNext, ?_⟩
  · unfold resampleLxmx
    rw [decide_eq_true isLong, isCall]
    rfl
  · intro antenna isAntenna
    refine ⟨antennas.output antenna isAntenna, ?_, histories antenna isAntenna⟩
    dsimp only
    rw [antennas.output antenna isAntenna]
    exact antennas.outCnt antenna isAntenna

theorem resampleFinalSamples_spec
    (created : Created param lowPassFilterCoefficients resampler)
    (resamples : ¬(resampler.l = 1 ∧ resampler.m = 1))
    {state : ResamplerState Value}
    (inside : state.inputSampleCnt < resampler.m)
    (nAntennas : Nat) :
    Antennas state
      (fun antenna =>
        resampler.genericOutput
          (joined resampler.historyLength (state.historyVec antenna)
            fun _ => 0)
          resampler.historyLength state.inputSampleCnt)
      nAntennas
      (resampler.resampleFinalSamples state nAntennas) := by
  unfold resampleFinalSamples
  rw [if_neg resamples]
  induction nAntennas with
  | zero =>
      refine ⟨?_, ?_, fun _ _ => rfl⟩
      · intro antenna isDone
        exact absurd isDone (Nat.not_lt_zero antenna)
      · intro antenna isDone
        exact absurd isDone (Nat.not_lt_zero antenna)
  | succ nDone hypothesis =>
      rw [List.range_succ, List.foldl_append, List.foldl_cons, List.foldl_nil]
      generalize (List.range nDone).foldl
          (resampler.flushAntenna state.inputSampleCnt)
          { state := state, output := fun _ => [], outCnt := 0 } =
        call at *
      obtain ⟨isOutput, isOutCnt, others⟩ :=
        flushAntenna_spec created inside call nDone
      rw [hypothesis.untouched nDone le_rfl] at isOutput isOutCnt
      refine hypothesis.next isOutput isOutCnt others ?_
      intro first second
      rw [length_genericOutput, length_genericOutput]

end OneCall

section Streams

variable
  {param : ResamplerParam}
  {lowPassFilterCoefficients : List Value}
  {resampler : Resampler Value}
  {new : ResamplerInput Value}

variable {k : Nat}

theorem samples_getD
    (antenna : Nat)
    (inside : k < new.nNewInputSamples) :
    (new.samples antenna)[k]?.getD 0 = new.input antenna k := by
  rw [ResamplerInput.samples, List.getElem?_map, List.getElem?_range inside]
  rfl

variable {stream : List Value}

/-- Samples that came before are not changed by those that follow. -/
theorem padded_append
    {historyLength : Nat}
    (later : List Value)
    (inside : k < historyLength + stream.length) :
    padded historyLength (stream ++ later) k =
      padded historyLength stream k := by
  unfold padded
  by_cases isHistory : k < historyLength
  · rw [if_pos isHistory, if_pos isHistory]
  · rw [if_neg isHistory, if_neg isHistory,
      List.getElem?_append_left (by omega)]

/-- Samples that follow. -/
theorem padded_new
    {historyLength : Nat}
    (stream : List Value)
    (antenna : Nat)
    (inside : k < new.nNewInputSamples) :
    padded historyLength (stream ++ new.samples antenna)
        (historyLength + stream.length + k) =
      new.input antenna k := by
  unfold padded
  rw [if_neg (by omega), List.getElem?_append_right (by omega)]
  have isIndex :
      historyLength + stream.length + k - historyLength - stream.length =
        k := by
    omega
  rw [isIndex, samples_getD antenna inside]

/--
After some calls the history of an antenna ends with its stream, and its
output samples are those of all windows that end in the stream.
-/
structure Follows
    (resampler : Resampler Value)
    (stream : List Value)
    (antenna : Nat)
    (call : Call Value) : Prop where
  isSkip :
    stream.length = 0 ∧
        call.state.nSkipInputSamplesCurrent =
          resampler.nSkipInputSamplesFront ∨
      resampler.nSkipInputSamplesFront ≤ stream.length ∧
        call.state.nSkipInputSamplesCurrent = 0
  isCnt :
    call.state.inputSampleCnt =
      (stream.length + call.state.nSkipInputSamplesCurrent -
          resampler.nSkipInputSamplesFront) %
        resampler.m
  history :
    ∀ k, k < resampler.historyLength →
      call.state.historyVec antenna k =
        padded resampler.historyLength stream (stream.length + k)
  output :
    call.output antenna =
      resampler.genericOutput
        (fun k =>
          padded resampler.historyLength stream
            (resampler.nSkipInputSamplesFront + k))
        (stream.length + call.state.nSkipInputSamplesCurrent -
          resampler.nSkipInputSamplesFront)
        0
  outCnt : call.outCnt = (call.output antenna).length

theorem follows_reset
    (state : ResamplerState Value)
    (antenna : Nat) :
    Follows resampler [] antenna
      { state := resampler.reset state
        output := fun _ => []
        outCnt := 0 } := by
  refine ⟨Or.inl ⟨rfl, rfl⟩, ?_, ?_, ?_, rfl⟩
  · change 0 = (0 + resampler.nSkipInputSamplesFront - _) % _
    rw [Nat.zero_add, Nat.sub_self, Nat.zero_mod]
  · intro k inHistory
    have isZero : 0 + k < resampler.historyLength := by omega
    unfold reset padded
    dsimp only [List.length_nil]
    rw [if_pos inHistory, if_pos isZero]
  · change [] = resampler.genericOutput _
      (0 + resampler.nSkipInputSamplesFront - _) 0
    rw [Nat.zero_add, Nat.sub_self]
    rfl

variable {call : Call Value}

theorem Follows.isShort
    (created : Created param lowPassFilterCoefficients resampler)
    {antenna : Nat}
    (follows : Follows resampler stream antenna call) :
    call.state.nSkipInputSamplesCurrent ≤ resampler.historyLength := by
  rcases follows.isSkip with ⟨-, isFront⟩ | ⟨-, isZero⟩
  · rw [isFront]
    exact created.isShort
  · rw [isZero]
    exact Nat.zero_le _

theorem Follows.output_append
    (created : Created param lowPassFilterCoefficients resampler)
    {antenna : Nat}
    (follows : Follows resampler stream antenna call)
    (later : List Value) :
    call.output antenna =
      resampler.genericOutput
        (fun k =>
          padded resampler.historyLength (stream ++ later)
            (resampler.nSkipInputSamplesFront + k))
        (stream.length + call.state.nSkipInputSamplesCurrent -
          resampler.nSkipInputSamplesFront)
        0 := by
  have isLength := created.subfilterLength_eq
  rw [follows.output]
  rcases follows.isSkip with ⟨isEmpty, isFront⟩ | ⟨isPassed, isZero⟩
  · rw [isEmpty, isFront, Nat.zero_add, Nat.sub_self]
    rfl
  · rw [isZero, Nat.add_zero]
    refine genericOutput_congr ?_
    intro k isRead
    exact (padded_append later (by omega)).symm

variable {antenna nAntennas : Nat}

/-- A call continues the stream. -/
theorem Follows.next
    (created : Created param lowPassFilterCoefficients resampler)
    {before : Call Value}
    (follows : Follows resampler stream antenna before)
    (isAntenna : antenna < nAntennas)
    (isLong : resampler.historyLength ≤ new.nNewInputSamples) :
    ∃ call,
      resampler.resampleLxmx before.state nAntennas new = .ok call ∧
        Follows resampler (stream ++ new.samples antenna) antenna
            (before.append call) ∧
        call.state.nSkipInputSamplesCurrent = 0 := by
  have isLength := created.subfilterLength_eq
  have isFrontShort := created.isShort
  have isShort := follows.isShort created
  have positive : 0 < resampler.m := by
    rw [created.isM]
    exact param.decimates
  have inside : before.state.inputSampleCnt < resampler.m := by
    rw [follows.isCnt]
    exact Nat.mod_lt _ positive
  obtain ⟨call, isCall, noSkip, isNext, antennas⟩ :=
    resampleLxmx_spec created inside isShort isLong nAntennas
  obtain ⟨isOutput, isOutCnt, isHistory⟩ := antennas antenna isAntenna
  have isNext := isNext (Nat.zero_lt_of_lt isAntenna)
  have notPassed : resampler.nSkipInputSamplesFront ≤
      stream.length + before.state.nSkipInputSamplesCurrent := by
    rcases follows.isSkip with ⟨-, isFront⟩ | ⟨isPassed, -⟩
    · omega
    · omega
  -- history and new samples are a part of the stream
  have isStream : ∀ k, k < resampler.historyLength + new.nNewInputSamples →
      joined resampler.historyLength (before.state.historyVec antenna)
          (new.input antenna) k =
        padded resampler.historyLength
          (stream ++ new.samples antenna) (stream.length + k) := by
    intro k inReach
    unfold joined
    by_cases isOld : k < resampler.historyLength
    · rw [if_pos isOld, follows.history k isOld, padded_append _ (by omega)]
    · have isIndex : stream.length + k =
          resampler.historyLength + stream.length +
            (k - resampler.historyLength) := by
        omega
      rw [if_neg isOld, isIndex, padded_new stream antenna (by omega)]
  have windows : stream.length + new.nNewInputSamples -
      resampler.nSkipInputSamplesFront =
        stream.length + before.state.nSkipInputSamplesCurrent -
            resampler.nSkipInputSamplesFront +
          (new.nNewInputSamples - before.state.nSkipInputSamplesCurrent) := by
    omega
  refine ⟨call, isCall, ⟨?_, ?_, ?_, ?_, ?_⟩, noSkip⟩
  · right
    rw [List.length_append, new.length_samples]
    exact ⟨by omega, noSkip⟩
  · change call.state.inputSampleCnt = _
    rw [List.length_append, new.length_samples]
    change _ = (_ + call.state.nSkipInputSamplesCurrent - _) % _
    rw [noSkip, Nat.add_zero, isNext, follows.isCnt, Nat.mod_add_mod, windows]
  · intro k inHistory
    change call.state.historyVec antenna k = _
    have isIndex : (stream ++ new.samples antenna).length + k =
        resampler.historyLength + stream.length +
          (new.nNewInputSamples - resampler.historyLength + k) := by
      rw [List.length_append, new.length_samples]
      omega
    rw [isHistory k inHistory, isIndex, padded_new stream antenna (by omega)]
  · change before.output antenna ++ call.output antenna = _
    change _ = resampler.genericOutput _
      (_ + call.state.nSkipInputSamplesCurrent - _) 0
    rw [noSkip, Nat.add_zero, List.length_append, new.length_samples, windows,
      genericOutput_add, follows.output_append created, isOutput,
      follows.isCnt, Nat.zero_add]
    refine congrArg _ (genericOutput_congr ?_)
    intro k isRead
    have isIndex : resampler.nSkipInputSamplesFront +
        (stream.length + before.state.nSkipInputSamplesCurrent -
            resampler.nSkipInputSamplesFront + k) =
          stream.length + (before.state.nSkipInputSamplesCurrent + k) := by
      omega
    rw [isIndex, isStream _ (by omega)]
  · change before.outCnt + call.outCnt =
      (before.output antenna ++ call.output antenna).length
    rw [List.length_append, follows.outCnt, isOutCnt]

theorem resampleCalls_follows
    (created : Created param lowPassFilterCoefficients resampler)
    (resamples : ¬(resampler.l = 1 ∧ resampler.m = 1))
    (isAntenna : antenna < nAntennas)
    (inputs : List (ResamplerInput Value))
    (areLong :
      ∀ new, new ∈ inputs → resampler.historyLength ≤ new.nNewInputSamples)
    {before : Call Value}
    (follows : Follows resampler stream antenna before) :
    ∃ call,
      resampler.resampleCalls nAntennas before inputs = .ok call ∧
        Follows resampler
            (stream ++ inputs.flatMap fun new => new.samples antenna)
            antenna call ∧
        (inputs ≠ [] → call.state.nSkipInputSamplesCurrent = 0) := by
  induction inputs generalizing stream before with
  | nil =>
      refine ⟨before, rfl, ?_, fun notEmpty => absurd rfl notEmpty⟩
      rw [List.flatMap_nil, List.append_nil]
      exact follows
  | cons new inputs hypothesis =>
      obtain ⟨first, isFirst, firstFollows, noSkip⟩ :=
        follows.next created isAntenna (areLong new List.mem_cons_self)
      obtain ⟨call, isCall, callFollows, stillNoSkip⟩ :=
        hypothesis
          (fun later isLater => areLong later (List.mem_cons_of_mem _ isLater))
          firstFollows
      refine ⟨call, ?_, ?_, ?_⟩
      · unfold resampleCalls at isCall ⊢
        rw [List.foldlM_cons]
        unfold resample
        rw [if_neg resamples, isFirst]
        exact isCall
      · rw [List.flatMap_cons, ← List.append_assoc]
        exact callFollows
      · intro _
        cases inputs with
        | nil =>
            cases isCall
            exact noSkip
        | cons later inputs =>
            exact stillNoSkip (List.cons_ne_nil later inputs)

/-- Flushing adds the windows that end behind the stream. -/
theorem Follows.flushed
    (created : Created param lowPassFilterCoefficients resampler)
    (resamples : ¬(resampler.l = 1 ∧ resampler.m = 1))
    (follows : Follows resampler stream antenna call)
    (isAntenna : antenna < nAntennas)
    (noSkip : call.state.nSkipInputSamplesCurrent = 0) :
    let whole :=
      call.append (resampler.resampleFinalSamples call.state nAntennas)
    whole.output antenna = resampler.genericOutput (fun k =>
        padded resampler.historyLength stream
          (resampler.nSkipInputSamplesFront + k))
          (resampler.historyLength + stream.length -
            resampler.nSkipInputSamplesFront)
          0 ∧
      whole.outCnt = (whole.output antenna).length := by
  have isLength := created.subfilterLength_eq
  have isFrontShort := created.isShort
  have positive : 0 < resampler.m := by
    rw [created.isM]
    exact param.decimates
  have inside : call.state.inputSampleCnt < resampler.m := by
    rw [follows.isCnt]
    exact Nat.mod_lt _ positive
  have antennas := resampleFinalSamples_spec created resamples inside nAntennas
  have isPassed : resampler.nSkipInputSamplesFront ≤ stream.length := by
    rcases follows.isSkip with ⟨_, isFront⟩ | ⟨isPassed, -⟩
    · rw [← isFront, noSkip]
      exact Nat.zero_le _
    · exact isPassed
  have windows : resampler.historyLength + stream.length -
      resampler.nSkipInputSamplesFront =
        stream.length - resampler.nSkipInputSamplesFront +
          resampler.historyLength := by
    omega
  have isOutput := follows.output
  have isCnt := follows.isCnt
  rw [noSkip, Nat.add_zero] at isOutput isCnt
  refine ⟨?_, ?_⟩
  · change call.output antenna ++
      (resampler.resampleFinalSamples call.state nAntennas).output antenna = _
    rw [antennas.output antenna isAntenna, isOutput, isCnt, windows,
      genericOutput_add, Nat.zero_add]
    refine congrArg _ (genericOutput_congr ?_)
    intro k isRead
    have isIndex : resampler.nSkipInputSamplesFront +
        (stream.length - resampler.nSkipInputSamplesFront + k) =
          stream.length + k := by
      omega
    rw [isIndex]
    unfold joined
    by_cases isOld : k < resampler.historyLength
    · rw [if_pos isOld, follows.history k isOld]
    · rw [if_neg isOld]
      unfold padded
      rw [if_neg (by omega), List.getElem?_eq_none (by omega)]
      rfl
  · change call.outCnt +
        (resampler.resampleFinalSamples call.state nAntennas).outCnt =
      (call.output antenna ++
        (resampler.resampleFinalSamples call.state nAntennas).output
          antenna).length
    rw [List.length_append, follows.outCnt, antennas.outCnt antenna isAntenna,
      antennas.output antenna isAntenna]

end Streams

/--
The stream with zeros inserted, filtered with the zero-padded filter, without
the delay of the filter, and with every sample kept that is due.
-/
def reference
    (param : ResamplerParam)
    (lowPassFilterCoefficients stream : List Value) :
    List Value :=
  if param.l = 1 ∧ param.m = 1 then
    stream
  else
    decimate param.m
      ((convolve (zeroPadded param.l lowPassFilterCoefficients)
          (upsample param.l stream)).drop
        ((lowPassFilterCoefficients.length - 1) / 2))

section Reference

variable
  {param : ResamplerParam}
  {lowPassFilterCoefficients : List Value}
  {resampler : Resampler Value}

theorem dotProd_eq_convolveAt
    (created : Created param lowPassFilterCoefficients resampler)
    (stream : List Value)
    (window : Nat)
    {branch : Nat}
    (isBranch : branch < param.l) :
    dotProd
        (fun k => padded resampler.historyLength stream (window + k))
        (resampler.subfilters branch) resampler.subfilterLength =
      Polyphase.convolveAt (zeroPadded param.l lowPassFilterCoefficients)
        (upsample param.l stream)
        (window * param.l + branch) := by
  have isLength := created.subfilterLength_eq
  rw [Polyphase.convolveAt_upsample _
    (by rw [length_zeroPadded param.interpolates,
      ← created.isSubfilterLength]) window isBranch]
  unfold dotProd
  rw [← Finset.sum_range_reflect]
  refine Finset.sum_congr rfl ?_
  intro turn isTurn
  have inside := Finset.mem_range.mp isTurn
  have isPosition : resampler.subfilterLength - 1 -
      (resampler.subfilterLength - 1 - turn) = turn := by
    omega
  rw [created.isSubfilter, isPosition, Nat.add_comm branch]
  dsimp only [padded]
  by_cases isBefore : turn ≤ window
  · have isIndex : window + (resampler.subfilterLength - 1 - turn) -
        resampler.historyLength = window - turn := by
      omega
    rw [if_pos isBefore, if_neg (by omega), isIndex, mul_comm]
  · rw [if_neg isBefore, if_pos (by omega), zero_mul]

theorem genericOutput_padded
    (created : Created param lowPassFilterCoefficients resampler)
    (stream : List Value)
    (periods : Nat) :
    resampler.genericOutput
        (fun k =>
          padded resampler.historyLength stream
            (resampler.nSkipInputSamplesFront + k))
        periods 0 =
      (List.range (stepsBelow (periods * param.l) param.m
          (Created.firstIndex param lowPassFilterCoefficients))).map
        fun step =>
          Polyphase.convolveAt
            (zeroPadded param.l lowPassFilterCoefficients)
            (upsample param.l stream)
            ((lowPassFilterCoefficients.length - 1) / 2 + param.m * step) := by
  have isDelay : resampler.nSkipInputSamplesFront * param.l +
      Created.firstIndex param lowPassFilterCoefficients =
        (lowPassFilterCoefficients.length - 1) / 2 := by
    rw [created.isSkip]
    exact Nat.div_add_mod' _ _
  have positions :=
    congrArg (List.map fun position =>
        Polyphase.convolveAt (zeroPadded param.l lowPassFilterCoefficients)
          (upsample param.l stream)
          (resampler.nSkipInputSamplesFront * param.l + position))
      (@flatMap_branches param.l param.m
        (Created.firstIndex param lowPassFilterCoefficients)
        param.decimates periods)
  rw [List.map_flatMap, List.map_map] at positions
  calc
    resampler.genericOutput _ periods 0 = _ := ?_
    _ = _ := positions
    _ = _ := ?_
  · unfold genericOutput
    refine List.flatMap_congr ?_
    intro period _
    unfold outputsAt
    rw [Nat.zero_add, created.subfilterIndices_getD, List.map_map]
    refine List.map_congr_left ?_
    intro branch isMember
    have isBranch : branch < param.l := by
      obtain ⟨step, isStep, rfl⟩ := List.mem_map.mp isMember
      exact step_lt param.decimates (List.mem_range.mp isStep)
    have isWindow :=
      dotProd_eq_convolveAt created stream
        (resampler.nSkipInputSamplesFront + period) isBranch
    dsimp only [Function.comp]
    rw [Nat.add_mul, Nat.add_assoc] at isWindow
    rw [← isWindow]
    simp only [Nat.add_assoc]
  · refine List.map_congr_left ?_
    intro step _
    dsimp only [Function.comp]
    rw [← Nat.add_assoc, isDelay]

theorem genericOutput_eq_reference
    (created : Created param lowPassFilterCoefficients resampler)
    (resamples : ¬(param.l = 1 ∧ param.m = 1))
    (stream : List Value)
    (isLong : resampler.historyLength ≤ stream.length) :
    resampler.genericOutput
        (fun k =>
          padded resampler.historyLength stream
            (resampler.nSkipInputSamplesFront + k))
        (resampler.historyLength + stream.length -
          resampler.nSkipInputSamplesFront)
        0 =
      reference param lowPassFilterCoefficients stream := by
  have isLength := created.subfilterLength_eq
  have isFrontShort := created.isShort
  unfold reference
  rw [if_neg resamples]
  by_cases isEmpty : stream = []
  · -- without a history nothing comes out
    subst isEmpty
    have noWindow : resampler.historyLength + ([] : List Value).length -
        resampler.nSkipInputSamplesFront = 0 := by
      rw [List.length_nil] at isLong ⊢
      omega
    rw [noWindow]
    unfold convolve upsample decimate
    rw [if_pos rfl, List.drop_nil, List.length_nil, Nat.zero_add,
      Nat.div_eq_of_lt (Nat.sub_lt param.decimates Nat.one_pos)]
    rfl
  · have isDelay : resampler.nSkipInputSamplesFront * param.l +
        Created.firstIndex param lowPassFilterCoefficients =
          (lowPassFilterCoefficients.length - 1) / 2 := by
      rw [created.isSkip]
      exact Nat.div_add_mod' _ _
    have positive : 0 < stream.length := List.length_pos_of_ne_nil isEmpty
    have isTotal : (upsample param.l stream).length +
        (zeroPadded param.l lowPassFilterCoefficients).length - 1 =
          (resampler.historyLength + stream.length) * param.l := by
      rw [Polyphase.length_upsample param.interpolates isEmpty,
        length_zeroPadded param.interpolates, ← created.isSubfilterLength,
        isLength, Nat.add_right_comm, Nat.add_sub_cancel, ← Nat.add_mul]
      congr 1
      omega
    have notEmpty : upsample param.l stream ≠ [] := by
      intro isNil
      have isLength := Polyphase.length_upsample param.interpolates isEmpty
      rw [isNil] at isLength
      exact Nat.succ_ne_zero _ isLength.symm
    have isPart : (resampler.historyLength + stream.length -
        resampler.nSkipInputSamplesFront) * param.l +
            resampler.nSkipInputSamplesFront * param.l =
          (resampler.historyLength + stream.length) * param.l := by
      rw [← Nat.add_mul]
      congr 1
      omega
    rw [genericOutput_padded created]
    unfold convolve decimate
    rw [if_neg notEmpty, isTotal, List.length_drop, List.length_map,
      List.length_range]
    have isCount : stepsBelow ((resampler.historyLength + stream.length -
        resampler.nSkipInputSamplesFront) * param.l) param.m
            (Created.firstIndex param lowPassFilterCoefficients) =
          ((resampler.historyLength + stream.length) * param.l -
            (lowPassFilterCoefficients.length - 1) / 2 + param.m - 1) /
            param.m := by
      unfold stepsBelow
      congr 3
      omega
    rw [← isCount]
    refine List.map_congr_left ?_
    intro step isStep
    have inside := step_lt param.decimates (List.mem_range.mp isStep)
    rw [List.getElem?_drop, List.getElem?_map, List.getElem?_range (by omega)]
    rfl

theorem length_genericOutput_total
    (created : Created param lowPassFilterCoefficients resampler)
    (input : Nat → Value)
    (nInputSamples : Nat) :
    (resampler.genericOutput input
        (resampler.historyLength + nInputSamples -
          resampler.nSkipInputSamplesFront)
        0).length =
      resampler.getNSamplesAfterResampling nInputSamples := by
  have positive : 0 < resampler.m := by
    rw [created.isM]
    exact param.decimates
  unfold getNSamplesAfterResampling
  dsimp only
  generalize resampler.historyLength + nInputSamples -
      resampler.nSkipInputSamplesFront = periods
  have turns := Nat.div_add_mod' periods resampler.m
  have isResidual : periods - periods / resampler.m * resampler.m =
      periods % resampler.m := by
    omega
  have residual : ∀ count, count ≤ resampler.m → (List.range count).foldl
      (fun nResampledSamples i =>
        nResampledSamples + (resampler.subfilterIndices[i]?.getD []).length)
      (periods / resampler.m * resampler.l) =
          periods / resampler.m * resampler.l +
            ((List.range count).map fun i =>
              (resampler.subfilterIndices[(0 + i) %
                resampler.m]?.getD []).length).sum := by
    intro count isPart
    induction count with
    | zero => rfl
    | succ count hypothesis =>
        rw [List.range_succ, List.foldl_append, List.map_append,
          List.sum_append, hypothesis (by omega),
          List.foldl_cons, List.foldl_nil, List.map_singleton,
          List.sum_singleton, Nat.zero_add count,
          Nat.mod_eq_of_lt (Nat.lt_of_succ_le isPart), Nat.add_assoc]
  rw [isResidual, residual _ (Nat.mod_lt _ positive).le]
  conv_lhs => rw [← turns]
  rw [genericOutput_add, List.length_append,
    length_genericOutput_mul created.length_subfilterIndices
      (created.isSum.trans created.isL.symm),
    Nat.zero_add, Nat.mul_mod_left, length_genericOutput]

end Reference

section AllCalls

variable
  {param : ResamplerParam}
  {lowPassFilterCoefficients : List Value}
  {resampler : Resampler Value}

theorem resampleCalls_passed
    (isTrivial : resampler.l = 1 ∧ resampler.m = 1)
    (nAntennas antenna : Nat)
    (inputs : List (ResamplerInput Value))
    (before : Call Value)
    (isCount : before.outCnt = (before.output antenna).length) :
    ∃ call,
      resampler.resampleCalls nAntennas before inputs = .ok call ∧
        call.output antenna =
            before.output antenna ++
              inputs.flatMap (fun new => new.samples antenna) ∧
        call.outCnt = (call.output antenna).length := by
  induction inputs generalizing before with
  | nil => exact ⟨before, rfl, (List.append_nil _).symm, isCount⟩
  | cons new inputs hypothesis =>
      have firstCount :
          (before.append (resampleL1m1 before.state new)).outCnt =
            ((before.append (resampleL1m1 before.state new)).output
              antenna).length := by
        change before.outCnt + new.nNewInputSamples =
          (before.output antenna ++ new.samples antenna).length
        rw [isCount, List.length_append, new.length_samples]
      obtain ⟨call, isCall, isOutput, callCount⟩ := hypothesis _ firstCount
      refine ⟨call, ?_, ?_, callCount⟩
      · unfold resampleCalls at isCall ⊢
        rw [List.foldlM_cons]
        unfold resample
        rw [if_pos isTrivial]
        exact isCall
      · rw [isOutput, List.flatMap_cons, ← List.append_assoc]
        rfl

theorem create_trivial
    (isTrivial : param.l = 1 ∧ param.m = 1)
    (created : create param lowPassFilterCoefficients = .ok resampler) :
    resampler.l = 1 ∧ resampler.m = 1 ∧
      resampler.historyLength = 0 ∧
      resampler.nSkipInputSamplesFront = 0 ∧
      resampler.dispatcherLxmx = .resampleLxmxGenericImpl := by
  unfold create at created
  dsimp only at created
  rw [if_pos isTrivial] at created
  rw [← Except.ok.inj created]
  exact ⟨isTrivial.1, isTrivial.2, rfl, rfl, rfl⟩

theorem resampleCalls_accepted
    (nAntennas : Nat)
    (inputs : List (ResamplerInput Value))
    (areLong :
      ∀ new, new ∈ inputs → resampler.historyLength ≤ new.nNewInputSamples)
    (before : Call Value) :
    ∃ call, resampler.resampleCalls nAntennas before inputs = .ok call := by
  induction inputs generalizing before with
  | nil => exact ⟨before, rfl⟩
  | cons new inputs hypothesis =>
      obtain ⟨first, isFirst⟩ : ∃ first,
          resampler.resample before.state nAntennas new = .ok first := by
        unfold resample
        by_cases isTrivial : resampler.l = 1 ∧ resampler.m = 1
        · exact ⟨_, if_pos isTrivial⟩
        · rw [if_neg isTrivial]
          unfold resampleLxmx
          rw [decide_eq_true (areLong new List.mem_cons_self)]
          exact ⟨_, rfl⟩
      obtain ⟨call, isCall⟩ :=
        hypothesis (fun later isLater =>
            areLong later (List.mem_cons_of_mem new isLater))
          (before.append first)
      refine ⟨call, ?_⟩
      unfold resampleCalls at isCall ⊢
      rw [List.foldlM_cons, isFirst]
      exact isCall

/--
However a stream is split into calls, all antennas get as many samples as are
returned, and with the last call they get the reference.  There is at least one
call, with which the delay of the filter is skipped.  Every loop that a
constructor chooses does what the generic one does.
-/
theorem resampleStream_reference
    (created : create param lowPassFilterCoefficients = .ok resampler)
    (state : ResamplerState Value)
    (nAntennas : Nat)
    (inputs : List (ResamplerInput Value))
    (notEmpty : inputs ≠ [])
    (areLong :
      ∀ new, new ∈ inputs →
        resampler.historyLength ≤ new.nNewInputSamples) :
    (∃ call whole,
      resampler.resampleCalls nAntennas
          { state := resampler.reset state
            output := fun _ => []
            outCnt := 0 }
          inputs = .ok call ∧
        resampler.resampleStream state nAntennas inputs = .ok whole ∧
        ∀ antenna, antenna < nAntennas →
          call.outCnt = (call.output antenna).length ∧
            whole.outCnt = (whole.output antenna).length ∧
            whole.output antenna =
              reference param lowPassFilterCoefficients
                (inputs.flatMap fun new => new.samples antenna) ∧
            (whole.output antenna).length =
              resampler.getNSamplesAfterResampling
                (inputs.flatMap fun new => new.samples antenna).length) ∧
      ∀ input nNewInputSamples inputSampleCnt,
        inputSampleCnt < resampler.m →
        resampler.dispatch input nNewInputSamples inputSampleCnt =
          resampler.resampleLxmxGenericImpl input nNewInputSamples
            inputSampleCnt := by
  obtain ⟨call, isCall⟩ :=
    resampleCalls_accepted nAntennas inputs areLong
      { state := resampler.reset state
        output := fun _ => []
        outCnt := 0 }
  have isWhole :
      resampler.resampleStream state nAntennas inputs =
        .ok (call.append
          (resampler.resampleFinalSamples call.state nAntennas)) := by
    unfold resampleStream
    rw [isCall]
    rfl
  by_cases isTrivial : param.l = 1 ∧ param.m = 1
  · obtain ⟨isL, isM, isHistory, isSkip, isDispatcher⟩ :=
      create_trivial isTrivial created
    refine ⟨⟨call, _, isCall, isWhole, ?_⟩, ?_⟩
    · intro antenna _
      obtain ⟨same, isSame, isOutput, isCount⟩ :=
        resampleCalls_passed ⟨isL, isM⟩ nAntennas antenna inputs
          { state := resampler.reset state
            output := fun _ => []
            outCnt := 0 } rfl
      obtain rfl := Except.ok.inj (isCall.symm.trans isSame)
      have final :
          resampler.resampleFinalSamples call.state nAntennas =
            { state := call.state, output := fun _ => [], outCnt := 0 } :=
        if_pos ⟨isL, isM⟩
      rw [List.nil_append] at isOutput
      rw [final]
      dsimp only [Call.append]
      rw [List.append_nil, Nat.add_zero]
      refine ⟨isCount, isCount, ?_, ?_⟩
      · unfold reference
        rw [if_pos isTrivial, isOutput]
      · unfold getNSamplesAfterResampling
        dsimp only
        rw [isL, isM, isHistory, isSkip, Nat.zero_add, Nat.sub_zero,
          Nat.div_one, Nat.mul_one, Nat.sub_self, isOutput]
        rfl
    · intro input nNewInputSamples inputSampleCnt _
      unfold dispatch
      rw [isDispatcher]
  · have accepted := create_spec isTrivial created
    have resamples : ¬(resampler.l = 1 ∧ resampler.m = 1) := by
      rw [accepted.isL, accepted.isM]
      exact isTrivial
    refine ⟨⟨call, _, isCall, isWhole, ?_⟩,
      fun _ _ _ inside => accepted.dispatch_eq inside⟩
    intro antenna isAntenna
    obtain ⟨same, isSame, follows, noSkip⟩ :=
      resampleCalls_follows accepted resamples isAntenna inputs areLong
        (follows_reset state antenna)
    obtain rfl := Except.ok.inj (isCall.symm.trans isSame)
    rw [List.nil_append] at follows
    obtain ⟨isOutput, isCount⟩ :=
      follows.flushed accepted resamples isAntenna (noSkip notEmpty)
    have isLong :
        resampler.historyLength ≤
          (inputs.flatMap fun new => new.samples antenna).length := by
      obtain ⟨new, rest, rfl⟩ := List.exists_cons_of_ne_nil notEmpty
      rw [List.flatMap_cons, List.length_append, new.length_samples]
      exact Nat.le_add_right_of_le (areLong new List.mem_cons_self)
    refine ⟨follows.outCnt, isCount, ?_, ?_⟩
    · rw [isOutput, genericOutput_eq_reference accepted isTrivial _ isLong]
    · rw [isOutput, length_genericOutput_total accepted]

/-- Two antennas and two calls, with two samples made of every three. -/
theorem resampleStream_reference_twoCalls :
    ∃ resampler,
      create ⟨2, 3, by decide, by decide⟩ [1, 2, 3, 2, 1] = .ok resampler ∧
        ∃ whole,
          resampler.resampleStream
              { historyVec := fun _ _ => 0
                nSkipInputSamplesCurrent := 0
                inputSampleCnt := 0 }
              2
              [{ input := fun antenna k => k + antenna, nNewInputSamples := 2 },
                { input := fun _ k => k + 5, nNewInputSamples := 3 }] =
            .ok whole ∧
          whole.output 1 =
            reference ⟨2, 3, by decide, by decide⟩ [1, 2, 3, 2, 1]
              [1, 2, 5, 6, 7] := by
  refine ⟨_, rfl, ?_⟩
  obtain ⟨⟨_, whole, -, isWhole, antennas⟩, -⟩ :=
    @resampleStream_reference Nat _ ⟨2, 3, by decide, by decide⟩
      [1, 2, 3, 2, 1] _ rfl
      { historyVec := fun _ _ => 0
        nSkipInputSamplesCurrent := 0
        inputSampleCnt := 0 }
      2
      [{ input := fun antenna k => k + antenna, nNewInputSamples := 2 },
        { input := fun _ k => k + 5, nNewInputSamples := 3 }]
      (List.cons_ne_nil _ _)
      (fun new isNew => by
        rcases List.mem_pair.mp isNew with rfl | rfl
        · exact Nat.le_refl 2
        · exact Nat.le_succ 2)
  exact ⟨whole, isWhole, (antennas 1 Nat.one_lt_two).2.2.1⟩

/--
Without a call to `resample` the delay of the filter is not skipped: flushing
returns three samples, where the reference has none and two are expected.
-/
theorem not_resampleStream_reference_noCalls :
    ∃ resampler whole,
      create ⟨2, 3, by decide, by decide⟩ [1, 2, 3, 4, 5, 4, 3, 2, 1] =
          .ok resampler ∧
        resampler.resampleStream
            { historyVec := fun _ _ => (0 : Nat)
              nSkipInputSamplesCurrent := 0
              inputSampleCnt := 0 }
            1 [] =
          .ok whole ∧
        whole.output 0 = [0, 0, 0] ∧
        reference ⟨2, 3, by decide, by decide⟩
            [1, 2, 3, 4, 5, 4, 3, 2, (1 : Nat)] [] =
          [] ∧
        resampler.getNSamplesAfterResampling 0 = 2 :=
  ⟨_, _, rfl, rfl, by decide, by decide, by decide⟩

end AllCalls

end Resampler

end DectNrp
