import DectNrp.Polyphase
import DectNrp.ResamplerSchedule
import DectNrp.TransportBlockSize

namespace DectNrp

/-!
# Resampler

The sample rate is changed by a rational factor with polyphase subfilters of a
low pass filter.  New samples are filtered together with the last ones of the
call before, which every antenna keeps as its history, and the delay of the
filter is skipped.  For four filters the loop over the schedule is unrolled.
Arithmetic is exact here.
-/

open TransportBlockSize (ceilDivideInteger)

/-- Factors of interpolation and decimation, asserted to be positive. -/
structure ResamplerParam where
  l : Nat
  m : Nat
  interpolates : 0 < l
  decimates : 0 < m

/-- Implementations of the loop over new samples. -/
inductive DispatcherLxmx where
  | resampleLxmxGenericImpl
  | resampleL10M9f223s23Impl
  | resampleL9M10f223s25Impl
  | resampleL10M9f45s5Impl
  | resampleL9M10f45s5Impl
  deriving Repr, DecidableEq

/-- What the constructor of a resampler decides. -/
structure Resampler (Value : Type) where
  l : Nat
  m : Nat
  subfilterLength : Nat
  subfilters : Nat → Nat → Value
  nSkipInputSamplesFront : Nat
  subfilterIndices : List (List Nat)
  historyLength : Nat
  dispatcherLxmx : DispatcherLxmx

/-- What changes with every call.  Antennas have a history each. -/
structure ResamplerState (Value : Type) where
  historyVec : Nat → Nat → Value
  nSkipInputSamplesCurrent : Nat
  inputSampleCnt : Nat

/-- Output samples, their number and the next position in the schedule. -/
structure Resampled (Value : Type) where
  output : List Value
  cntOut : Nat
  inputSampleCnt : Nat

/-- New samples of all antennas, as many for each. -/
structure ResamplerInput (Value : Type) where
  input : Nat → Nat → Value
  nNewInputSamples : Nat

namespace Resampler

variable {Value : Type} [CommSemiring Value]

/-- The filter with its amplitude adjusted, and zeros appended. -/
def zeroPadded
    (l : Nat)
    (lowPassFilterCoefficients : List Value) :
    List Value :=
  let filterLength := lowPassFilterCoefficients.length
  let nAppendZeros := ceilDivideInteger filterLength l * l - filterLength
  lowPassFilterCoefficients.map (fun elem => elem * (l : Value)) ++
    List.replicate nAppendZeros 0

/-- The loop for a filter. -/
def dispatcherOf (l m filterLength : Nat) : DispatcherLxmx :=
  if l = 10 ∧ m = 9 ∧ filterLength = 223 then
    .resampleL10M9f223s23Impl
  else if l = 9 ∧ m = 10 ∧ filterLength = 223 then
    .resampleL9M10f223s25Impl
  else if l = 10 ∧ m = 9 ∧ filterLength = 45 then
    .resampleL10M9f45s5Impl
  else if l = 9 ∧ m = 10 ∧ filterLength = 45 then
    .resampleL9M10f45s5Impl
  else
    .resampleLxmxGenericImpl

/-- A resampler with the coefficients of its low pass filter. -/
def create
    (param : ResamplerParam)
    (lowPassFilterCoefficients : List Value) :
    Checked (Resampler Value) :=
  let l := param.l
  let m := param.m
  if l = 1 ∧ m = 1 then
    pure
      { l := l
        m := m
        subfilterLength := 0
        subfilters := fun _ _ => 0
        nSkipInputSamplesFront := 0
        subfilterIndices := []
        historyLength := 0
        dispatcherLxmx := .resampleLxmxGenericImpl }
  else do
    let filterLength := lowPassFilterCoefficients.length
    dectnrpAssert (filterLength % 2 != 0) "filter length must be odd"
    let filterDelay := (filterLength - 1) / 2
    let coefficients := zeroPadded l lowPassFilterCoefficients
    let subfilterLength := coefficients.length / l
    let nSkipInputSamplesFront := filterDelay / l
    let subfilterIndices := (subfilterIndicesFrom l m m (filterDelay % l)).1
    dectnrpAssert (subfilterIndices.flatten.length == l)
      "incorrect number of output samples per M input samples"
    let historyLength := subfilterLength - 1
    dectnrpAssert (nSkipInputSamplesFront ≤ historyLength)
      "history shorter than number of skippable samples"
    pure
      { l := l
        m := m
        subfilterLength := subfilterLength
        -- every subfilter is mirrored
        subfilters := fun subfilter position =>
          coefficients[subfilter +
            (subfilterLength - 1 - position) * l]?.getD 0
        nSkipInputSamplesFront := nSkipInputSamplesFront
        subfilterIndices := subfilterIndices
        historyLength := historyLength
        dispatcherLxmx := dispatcherOf l m filterLength }

/-- Number of output samples for a number of input samples. -/
def getNSamplesAfterResampling
    (resampler : Resampler Value)
    (nInputSamples : Nat) :
    Nat :=
  let nInputSamplesEffective :=
    resampler.historyLength + nInputSamples -
      resampler.nSkipInputSamplesFront
  let mMultiples := nInputSamplesEffective / resampler.m
  let nResidualSamples := nInputSamplesEffective - mMultiples * resampler.m
  (List.range nResidualSamples).foldl
    (fun nResampledSamples i =>
      nResampledSamples +
        (resampler.subfilterIndices[i]?.getD []).length)
    (mMultiples * resampler.l)

def reset
    (resampler : Resampler Value)
    (state : ResamplerState Value) :
    ResamplerState Value where
  historyVec := fun i k =>
    if k < resampler.historyLength then 0 else state.historyVec i k
  nSkipInputSamplesCurrent := resampler.nSkipInputSamplesFront
  inputSampleCnt := 0

/-- Product of samples and coefficients. -/
def dotProd
    (input taps : Nat → Value)
    (nPoints : Nat) :
    Value :=
  ∑ k ∈ Finset.range nPoints, input k * taps k

def resampleLxmxGenericImpl
    (resampler : Resampler Value)
    (input : Nat → Value)
    (nNewInputSamples inputSampleCnt : Nat) :
    Resampled Value :=
  (List.range nNewInputSamples).foldl
    (fun resampled cntIn =>
      let indices :=
        resampler.subfilterIndices[resampled.inputSampleCnt]?.getD []
      { output :=
          resampled.output ++ indices.map fun index =>
            dotProd (fun k => input (cntIn + k))
              (resampler.subfilters index) resampler.subfilterLength
        cntOut := resampled.cntOut + indices.length
        inputSampleCnt := (resampled.inputSampleCnt + 1) % resampler.m })
    { output := [], cntOut := 0, inputSampleCnt := inputSampleCnt }

/-- One line of an unrolled loop. -/
inductive UnrolledLine where
  /-- An output sample, after which the next input sample is due. -/
  | productNext (subfilter : Nat)
  /-- An output sample, with another one of the same input sample. -/
  | product (subfilter : Nat)
  /-- An input sample without an output sample. -/
  | next
  deriving Repr, DecidableEq

/-- Output samples so far and the input sample that is due. -/
def unrolledLine
    (resampler : Resampler Value)
    (input : Nat → Value)
    (length : Nat)
    (pointers : List Value × Nat) :
    UnrolledLine → List Value × Nat
  | .productNext subfilter =>
      (pointers.1 ++ [dotProd (fun k => input (pointers.2 + k))
        (resampler.subfilters subfilter) length], pointers.2 + 1)
  | .product subfilter =>
      (pointers.1 ++ [dotProd (fun k => input (pointers.2 + k))
        (resampler.subfilters subfilter) length], pointers.2)
  | .next =>
      (pointers.1, pointers.2 + 1)

/--
The loop is completed up to the start of the schedule, then unrolled, and the
remaining samples follow.
-/
def manuallyUnrolled
    (resampler : Resampler Value)
    (lines : List UnrolledLine)
    (length : Nat)
    (input : Nat → Value)
    (nNewInputSamples inputSampleCnt : Nat) :
    Resampled Value :=
  let cntIn := min nNewInputSamples (resampler.m - inputSampleCnt)
  let front := resampler.resampleLxmxGenericImpl input cntIn inputSampleCnt
  let fullM := (nNewInputSamples - cntIn) / resampler.m
  let unrolled :=
    (List.range fullM).foldl
      (fun pointers _ =>
        lines.foldl (unrolledLine resampler input length) pointers)
      (front.output, cntIn)
  let cntIn := cntIn + fullM * resampler.m
  let cntOut := front.cntOut + fullM * resampler.l
  if cntIn < nNewInputSamples then
    let back :=
      resampler.resampleLxmxGenericImpl (fun k => input (cntIn + k))
        (nNewInputSamples - cntIn) front.inputSampleCnt
    { output := unrolled.1 ++ back.output
      cntOut := cntOut + back.cntOut
      inputSampleCnt := back.inputSampleCnt }
  else
    { output := unrolled.1
      cntOut := cntOut
      inputSampleCnt := front.inputSampleCnt }

def resampleL10M9f223s23Impl
    (resampler : Resampler Value) :
    (Nat → Value) → Nat → Nat → Resampled Value :=
  resampler.manuallyUnrolled
    [.productNext 1, .product 0, .productNext 9, .productNext 8,
      .productNext 7, .productNext 6, .productNext 5, .productNext 4,
      .productNext 3, .productNext 2]
    23

def resampleL9M10f223s25Impl
    (resampler : Resampler Value) :
    (Nat → Value) → Nat → Nat → Resampled Value :=
  resampler.manuallyUnrolled
    [.productNext 3, .productNext 4, .productNext 5, .productNext 6,
      .productNext 7, .productNext 8, .next, .productNext 0,
      .productNext 1, .productNext 2]
    25

def resampleL10M9f45s5Impl
    (resampler : Resampler Value) :
    (Nat → Value) → Nat → Nat → Resampled Value :=
  resampler.manuallyUnrolled
    [.productNext 2, .productNext 1, .product 0, .productNext 9,
      .productNext 8, .productNext 7, .productNext 6, .productNext 5,
      .productNext 4, .productNext 3]
    5

def resampleL9M10f45s5Impl
    (resampler : Resampler Value) :
    (Nat → Value) → Nat → Nat → Resampled Value :=
  resampler.manuallyUnrolled
    [.productNext 4, .productNext 5, .productNext 6, .productNext 7,
      .productNext 8, .next, .productNext 0, .productNext 1,
      .productNext 2, .productNext 3]
    5

/-- The loop that the constructor chose. -/
def dispatch
    (resampler : Resampler Value) :
    (Nat → Value) → Nat → Nat → Resampled Value :=
  match resampler.dispatcherLxmx with
  | .resampleLxmxGenericImpl => resampler.resampleLxmxGenericImpl
  | .resampleL10M9f223s23Impl => resampler.resampleL10M9f223s23Impl
  | .resampleL9M10f223s25Impl => resampler.resampleL9M10f223s25Impl
  | .resampleL10M9f45s5Impl => resampler.resampleL10M9f45s5Impl
  | .resampleL9M10f45s5Impl => resampler.resampleL9M10f45s5Impl

/-- State, output samples of the antennas and the returned number. -/
structure Call (Value : Type) where
  state : ResamplerState Value
  output : Nat → List Value
  outCnt : Nat

/-- New samples become output samples. -/
def resampleL1m1
    (state : ResamplerState Value)
    (new : ResamplerInput Value) :
    Call Value where
  state := state
  output := fun i => (List.range new.nNewInputSamples).map (new.input i)
  outCnt := new.nNewInputSamples

/-- New samples of one antenna, first together with its history. -/
def resampleAntenna
    (resampler : Resampler Value)
    (new : ResamplerInput Value)
    (nSkipInputSamplesCurrent inputSampleCnt : Nat)
    (call : Call Value)
    (i : Nat) :
    Call Value :=
  let historyLength := resampler.historyLength
  let history := fun k =>
    if historyLength ≤ k ∧ k < 2 * historyLength then
      new.input i (k - historyLength)
    else
      call.state.historyVec i k
  let first :=
    resampler.dispatch (fun k => history (nSkipInputSamplesCurrent + k))
      (historyLength - nSkipInputSamplesCurrent) inputSampleCnt
  let second :=
    resampler.dispatch (new.input i) (new.nNewInputSamples - historyLength)
      first.inputSampleCnt
  let history := fun k =>
    if k < historyLength then
      new.input i (new.nNewInputSamples - historyLength + k)
    else
      history k
  { state :=
      { call.state with
        historyVec := Function.update call.state.historyVec i history
        inputSampleCnt := second.inputSampleCnt }
    output := Function.update call.output i (first.output ++ second.output)
    outCnt := first.cntOut + second.cntOut }

def resampleLxmx
    (resampler : Resampler Value)
    (state : ResamplerState Value)
    (nAntennas : Nat)
    (new : ResamplerInput Value) :
    Checked (Call Value) := do
  dectnrpAssert (resampler.historyLength ≤ new.nNewInputSamples)
    "number of input samples smaller than history"
  let call :=
    (List.range nAntennas).foldl
      (resampler.resampleAntenna new state.nSkipInputSamplesCurrent
        state.inputSampleCnt)
      { state := state, output := fun _ => [], outCnt := 0 }
  pure
    { call with state := { call.state with nSkipInputSamplesCurrent := 0 } }

def resample
    (resampler : Resampler Value)
    (state : ResamplerState Value)
    (nAntennas : Nat)
    (new : ResamplerInput Value) :
    Checked (Call Value) :=
  if resampler.l = 1 ∧ resampler.m = 1 then
    pure (resampleL1m1 state new)
  else
    resampler.resampleLxmx state nAntennas new

/-- Zeros follow the history of one antenna. -/
def flushAntenna
    (resampler : Resampler Value)
    (inputSampleCnt : Nat)
    (call : Call Value)
    (i : Nat) :
    Call Value :=
  let historyLength := resampler.historyLength
  let history := fun k =>
    if historyLength ≤ k ∧ k < 2 * historyLength then
      0
    else
      call.state.historyVec i k
  let final :=
    resampler.resampleLxmxGenericImpl history historyLength inputSampleCnt
  { state :=
      { call.state with
        historyVec := Function.update call.state.historyVec i history
        inputSampleCnt := final.inputSampleCnt }
    output := Function.update call.output i final.output
    outCnt := final.cntOut }

def resampleFinalSamples
    (resampler : Resampler Value)
    (state : ResamplerState Value)
    (nAntennas : Nat) :
    Call Value :=
  if resampler.l = 1 ∧ resampler.m = 1 then
    { state := state, output := fun _ => [], outCnt := 0 }
  else
    (List.range nAntennas).foldl
      (resampler.flushAntenna state.inputSampleCnt)
      { state := state, output := fun _ => [], outCnt := 0 }

/-- Output samples of one call behind those of the calls before. -/
def Call.append (before after : Call Value) : Call Value where
  state := after.state
  output := fun i => before.output i ++ after.output i
  outCnt := before.outCnt + after.outCnt

/-- Calls one after the other. -/
def resampleCalls
    (resampler : Resampler Value)
    (nAntennas : Nat)
    (before : Call Value)
    (inputs : List (ResamplerInput Value)) :
    Checked (Call Value) :=
  inputs.foldlM
    (fun before new => do
      let call ← resampler.resample before.state nAntennas new
      pure (before.append call))
    before

/-- Everything that comes out for a sequence of calls, the last one flushing. -/
def resampleStream
    (resampler : Resampler Value)
    (state : ResamplerState Value)
    (nAntennas : Nat)
    (inputs : List (ResamplerInput Value)) :
    Checked (Call Value) := do
  let call ←
    resampler.resampleCalls nAntennas
      { state := resampler.reset state, output := fun _ => [], outCnt := 0 }
      inputs
  pure (call.append (resampler.resampleFinalSamples call.state nAntennas))

section Loops

variable
  {resampler : Resampler Value}
  {input : Nat → Value}
  {nNewInputSamples inputSampleCnt : Nat}

/-- Output samples of one input sample, some after the start. -/
def outputsAt
    (resampler : Resampler Value)
    (input : Nat → Value)
    (inputSampleCnt cntIn : Nat) :
    List Value :=
  (resampler.subfilterIndices[(inputSampleCnt + cntIn) %
      resampler.m]?.getD []).map fun index =>
    dotProd (fun k => input (cntIn + k)) (resampler.subfilters index)
      resampler.subfilterLength

/-- What the generic loop returns. -/
def genericOutput
    (resampler : Resampler Value)
    (input : Nat → Value)
    (nNewInputSamples inputSampleCnt : Nat) :
    List Value :=
  (List.range nNewInputSamples).flatMap
    (resampler.outputsAt input inputSampleCnt)

theorem resampleLxmxGenericImpl_eq (inside : inputSampleCnt < resampler.m) :
    resampler.resampleLxmxGenericImpl input nNewInputSamples
        inputSampleCnt =
      { output :=
          resampler.genericOutput input nNewInputSamples inputSampleCnt
        cntOut :=
          (resampler.genericOutput input nNewInputSamples
            inputSampleCnt).length
        inputSampleCnt :=
          (inputSampleCnt + nNewInputSamples) % resampler.m } := by
  induction nNewInputSamples with
  | zero =>
      change _ = (⟨[], 0, (inputSampleCnt + 0) % resampler.m⟩ :
        Resampled Value)
      rw [Nat.add_zero, Nat.mod_eq_of_lt inside]
      rfl
  | succ nNewInputSamples hypothesis =>
      unfold resampleLxmxGenericImpl genericOutput at *
      rw [List.range_succ, List.foldl_append, hypothesis,
        List.flatMap_append, List.flatMap_singleton, List.length_append]
      change Resampled.mk _ _ _ = Resampled.mk _ _ _
      congr 1
      · rw [outputsAt, List.length_map]
      · rw [Nat.mod_add_mod, Nat.add_assoc]

/-- New samples in two parts. -/
theorem genericOutput_add (first second : Nat) :
    resampler.genericOutput input (first + second) inputSampleCnt =
      resampler.genericOutput input first inputSampleCnt ++
        resampler.genericOutput (fun k => input (first + k)) second
          ((inputSampleCnt + first) % resampler.m) := by
  unfold genericOutput
  rw [List.range_add, List.flatMap_append, List.flatMap_map]
  refine congrArg _ (List.flatMap_congr ?_)
  intro cntIn _
  unfold outputsAt
  rw [Nat.mod_add_mod, Nat.add_assoc]
  simp only [Nat.add_assoc]

/-- Lines of one input sample. -/
def linesOf : List Nat → List UnrolledLine
  | [] => [.next]
  | [index] => [.productNext index]
  | index :: next :: rest => .product index :: linesOf (next :: rest)

theorem foldl_linesOf
    (indices : List Nat)
    (pointers : List Value × Nat) :
    (linesOf indices).foldl
        (unrolledLine resampler input resampler.subfilterLength)
        pointers =
      (pointers.1 ++ indices.map fun index =>
          dotProd (fun k => input (pointers.2 + k))
            (resampler.subfilters index) resampler.subfilterLength,
        pointers.2 + 1) := by
  induction indices generalizing pointers with
  | nil =>
      rw [List.map_nil, List.append_nil]
      rfl
  | cons index rest hypothesis =>
      cases rest with
      | nil => rfl
      | cons next rest =>
          rw [linesOf, List.foldl_cons, hypothesis]
          simp only [unrolledLine, List.append_assoc, List.map_cons,
            List.singleton_append]

theorem foldl_flatMap_linesOf
    (table : List (List Nat))
    (pointers : List Value × Nat) :
    (table.flatMap linesOf).foldl
        (unrolledLine resampler input resampler.subfilterLength)
        pointers =
      (pointers.1 ++ (List.range table.length).flatMap fun cntIn =>
          (table[cntIn]?.getD []).map fun index =>
            dotProd (fun k => input (pointers.2 + (cntIn + k)))
              (resampler.subfilters index) resampler.subfilterLength,
        pointers.2 + table.length) := by
  induction table generalizing pointers with
  | nil => exact Prod.ext (List.append_nil _).symm rfl
  | cons indices table hypothesis =>
      rw [List.flatMap_cons, List.foldl_append, foldl_linesOf,
        hypothesis, List.length_cons, List.range_succ_eq_map,
        List.flatMap_cons, List.flatMap_map]
      refine Prod.ext ?_ (by dsimp only; omega)
      dsimp only
      rw [List.append_assoc]
      refine congrArg _ (congrArg₂ _ ?_ (List.flatMap_congr ?_))
      · simp only [Nat.zero_add]
        rfl
      · intro cntIn _
        rw [List.getElem?_cons_succ]
        simp only [Nat.succ_eq_add_one, Nat.add_assoc, Nat.add_comm 1]

theorem foldl_unrolled
    (isTable : resampler.subfilterIndices.length = resampler.m)
    (pointers : List Value × Nat)
    (fullM : Nat) :
    (List.range fullM).foldl
        (fun pointers _ =>
          (resampler.subfilterIndices.flatMap linesOf).foldl
            (unrolledLine resampler input resampler.subfilterLength)
            pointers)
        pointers =
      (pointers.1 ++
          resampler.genericOutput (fun k => input (pointers.2 + k))
            (fullM * resampler.m) 0,
        pointers.2 + fullM * resampler.m) := by
  induction fullM with
  | zero =>
      rw [Nat.zero_mul]
      exact Prod.ext (List.append_nil _).symm rfl
  | succ fullM hypothesis =>
      rw [List.range_succ, List.foldl_append, hypothesis,
        List.foldl_cons, List.foldl_nil, foldl_flatMap_linesOf, isTable,
        Nat.succ_mul, genericOutput_add]
      refine Prod.ext ?_ (Nat.add_assoc _ _ _)
      dsimp only
      rw [List.append_assoc]
      refine congrArg _ (congrArg _ ?_)
      rw [Nat.zero_add, Nat.mul_mod_left, genericOutput]
      refine List.flatMap_congr ?_
      intro cntIn isCnt
      unfold outputsAt
      rw [Nat.zero_add, Nat.mod_eq_of_lt (List.mem_range.mp isCnt)]
      simp only [Nat.add_assoc]

/-- The number of output samples does not depend on the samples. -/
theorem length_genericOutput :
    (resampler.genericOutput input nNewInputSamples
        inputSampleCnt).length =
      ((List.range nNewInputSamples).map fun i =>
        (resampler.subfilterIndices[(inputSampleCnt + i) %
          resampler.m]?.getD []).length).sum := by
  unfold genericOutput outputsAt
  rw [List.length_flatMap]
  simp only [List.length_map]

/-- Only the samples within reach of the subfilters are read. -/
theorem genericOutput_congr
    {other : Nat → Value}
    (same :
      ∀ k,
        k + 1 < nNewInputSamples + resampler.subfilterLength →
        input k = other k) :
    resampler.genericOutput input nNewInputSamples inputSampleCnt =
      resampler.genericOutput other nNewInputSamples inputSampleCnt := by
  unfold genericOutput
  refine List.flatMap_congr ?_
  intro cntIn isCnt
  have inside := List.mem_range.mp isCnt
  unfold outputsAt
  refine List.map_congr_left ?_
  intro index _
  unfold dotProd
  refine Finset.sum_congr rfl ?_
  intro k isTap
  have inFilter := Finset.mem_range.mp isTap
  dsimp only
  rw [same (cntIn + k) (by omega)]

/-- Number of output samples of whole schedules. -/
theorem length_genericOutput_mul
    (isTable : resampler.subfilterIndices.length = resampler.m)
    (isSum : resampler.subfilterIndices.flatten.length = resampler.l)
    (input : Nat → Value)
    (fullM : Nat) :
    (resampler.genericOutput input (fullM * resampler.m) 0).length =
      fullM * resampler.l := by
  induction fullM generalizing input with
  | zero =>
      rw [Nat.zero_mul, Nat.zero_mul]
      rfl
  | succ fullM hypothesis =>
      have rows : ((List.range resampler.m).map fun i =>
          resampler.subfilterIndices[i]?.getD []) =
            resampler.subfilterIndices := by
        apply List.ext_getElem
        · rw [List.length_map, List.length_range, isTable]
        · intro i _ inside
          rw [List.getElem_map, List.getElem_range,
            List.getElem?_eq_getElem inside]
          rfl
      have once : ((List.range resampler.m).map fun i =>
          (resampler.subfilterIndices[(0 + i) %
            resampler.m]?.getD []).length).sum =
            resampler.l := by
        rw [← isSum, List.length_flatten]
        conv_rhs => rw [← rows]
        rw [List.map_map]
        refine congrArg List.sum (List.map_congr_left ?_)
        intro i isIndex
        rw [Nat.zero_add, Nat.mod_eq_of_lt (List.mem_range.mp isIndex)]
        rfl
      rw [Nat.succ_mul, genericOutput_add, List.length_append,
        hypothesis, Nat.zero_add, Nat.mul_mod_left,
        length_genericOutput, once, Nat.succ_mul]

theorem manuallyUnrolled_eq
    (isTable : resampler.subfilterIndices.length = resampler.m)
    (isSum : resampler.subfilterIndices.flatten.length = resampler.l)
    (inside : inputSampleCnt < resampler.m) :
    resampler.manuallyUnrolled
        (resampler.subfilterIndices.flatMap linesOf)
        resampler.subfilterLength input nNewInputSamples inputSampleCnt =
      resampler.resampleLxmxGenericImpl input nNewInputSamples
        inputSampleCnt := by
  have positive : 0 < resampler.m := Nat.zero_lt_of_lt inside
  unfold manuallyUnrolled
  dsimp only
  rw [resampleLxmxGenericImpl_eq inside, resampleLxmxGenericImpl_eq inside]
  dsimp only
  by_cases isShort : nNewInputSamples ≤ resampler.m - inputSampleCnt
  · -- the start of the schedule is not passed
    rw [Nat.min_eq_left isShort, Nat.sub_self, Nat.zero_div, Nat.zero_mul,
      Nat.add_zero, if_neg (lt_irrefl _), List.range_zero, List.foldl_nil,
      Nat.zero_mul, Nat.add_zero]
  · obtain ⟨later, isLater⟩ :=
      Nat.exists_eq_add_of_le (Nat.le_of_not_le isShort)
    have atStart :
        (inputSampleCnt + (resampler.m - inputSampleCnt)) % resampler.m =
          0 := by
      rw [Nat.add_sub_cancel' inside.le, Nat.mod_self]
    generalize isFront : resampler.m - inputSampleCnt = front at *
    have turns := Nat.div_add_mod' later resampler.m
    have isRest := Nat.mod_lt later positive
    rw [isLater, Nat.min_eq_right (Nat.le_add_right front later),
      Nat.add_sub_cancel_left, foldl_unrolled isTable, atStart]
    dsimp only
    -- the remaining samples start with the schedule
    have whole : resampler.genericOutput (fun k => input (front + k)) later 0 =
        resampler.genericOutput (fun k => input (front + k))
            (later / resampler.m * resampler.m) 0 ++
          resampler.genericOutput
            (fun k => input (front + later / resampler.m * resampler.m + k))
            (later % resampler.m) 0 := by
      conv_lhs => rw [← turns]
      rw [genericOutput_add, Nat.zero_add, Nat.mul_mod_left]
      simp only [Nat.add_assoc]
    have isNext : (inputSampleCnt + (front + later)) % resampler.m =
        later % resampler.m := by
      rw [← Nat.add_assoc, Nat.add_mod, atStart, Nat.zero_add, Nat.mod_mod]
    have isRemaining :
        front + later - (front + later / resampler.m * resampler.m) =
          later % resampler.m := by
      omega
    rw [genericOutput_add, atStart, whole, List.length_append,
      List.length_append, length_genericOutput_mul isTable isSum, isNext,
      isRemaining]
    by_cases isWhole : later % resampler.m = 0
    · rw [if_neg (by omega), isWhole]
      change Resampled.mk _ _ _ = Resampled.mk _ (_ + (_ + 0)) _
      rw [Nat.add_zero]
      refine congrArg₂ (fun output count => Resampled.mk output count 0) ?_ rfl
      exact congrArg _ (List.append_nil _).symm
    · rw [if_pos (by omega), resampleLxmxGenericImpl_eq positive]
      dsimp only
      rw [Nat.zero_add, Nat.mod_mod, List.append_assoc, Nat.add_assoc]

end Loops

/-- What holds of a resampler once its constructor returned. -/
structure Created
    (param : ResamplerParam)
    (lowPassFilterCoefficients : List Value)
    (resampler : Resampler Value) : Prop where
  isL : resampler.l = param.l
  isM : resampler.m = param.m
  isOdd : lowPassFilterCoefficients.length % 2 ≠ 0
  isSubfilterLength :
    resampler.subfilterLength =
      ceilDivideInteger
        lowPassFilterCoefficients.length param.l
  isHistoryLength :
    resampler.historyLength = resampler.subfilterLength - 1
  isSubfilter :
    ∀ subfilter position,
      resampler.subfilters subfilter position =
        (zeroPadded param.l lowPassFilterCoefficients)[subfilter +
          (resampler.subfilterLength - 1 - position) *
            param.l]?.getD 0
  isSkip :
    resampler.nSkipInputSamplesFront =
      (lowPassFilterCoefficients.length - 1) / 2 / param.l
  isShort : resampler.nSkipInputSamplesFront ≤ resampler.historyLength
  isTable :
    resampler.subfilterIndices =
      (subfilterIndicesFrom param.l param.m param.m
        ((lowPassFilterCoefficients.length - 1) / 2 % param.l)).1
  isSum : resampler.subfilterIndices.flatten.length = param.l
  isDispatcher :
    resampler.dispatcherLxmx =
      dispatcherOf param.l param.m lowPassFilterCoefficients.length

section Created

variable
  {param : ResamplerParam}
  {lowPassFilterCoefficients : List Value}
  {resampler : Resampler Value}

theorem length_zeroPadded
    {l : Nat}
    (positive : 0 < l) :
    (zeroPadded l lowPassFilterCoefficients).length =
      ceilDivideInteger
        lowPassFilterCoefficients.length l * l := by
  have isEnough : lowPassFilterCoefficients.length ≤
      ceilDivideInteger
        lowPassFilterCoefficients.length l * l := by
    have turns := Nat.div_add_mod' (lowPassFilterCoefficients.length + l - 1) l
    have below :=
      Nat.mod_lt (lowPassFilterCoefficients.length + l - 1) positive
    unfold ceilDivideInteger
    omega
  unfold zeroPadded
  dsimp only
  rw [List.length_append, List.length_map, List.length_replicate,
    Nat.add_sub_cancel' isEnough]

theorem create_spec
    (resamples : ¬(param.l = 1 ∧ param.m = 1))
    (created : create param lowPassFilterCoefficients = .ok resampler) :
    Created param lowPassFilterCoefficients resampler := by
  have isLength :
      (zeroPadded param.l lowPassFilterCoefficients).length / param.l =
        ceilDivideInteger
          lowPassFilterCoefficients.length param.l := by
    rw [length_zeroPadded param.interpolates,
      Nat.mul_div_cancel _ param.interpolates]
  unfold create at created
  dsimp only at created
  rw [if_neg resamples, isLength] at created
  obtain ⟨⟨⟩, isOdd, created⟩ := Checked.bind_eq_ok.mp created
  obtain ⟨⟨⟩, isSum, created⟩ := Checked.bind_eq_ok.mp created
  obtain ⟨⟨⟩, isShort, created⟩ := Checked.bind_eq_ok.mp created
  rw [← Except.ok.inj created]
  exact
    { isL := rfl
      isM := rfl
      isOdd := bne_iff_ne.mp (dectnrpAssert_eq_ok.mp isOdd)
      isSubfilterLength := rfl
      isHistoryLength := rfl
      isSubfilter := fun _ _ => rfl
      isSkip := rfl
      isShort := of_decide_eq_true (dectnrpAssert_eq_ok.mp isShort)
      isTable := rfl
      isSum := eq_of_beq (dectnrpAssert_eq_ok.mp isSum)
      isDispatcher := rfl }

namespace Created

/-- Subfilter of the first output sample. -/
def firstIndex
    (param : ResamplerParam)
    (lowPassFilterCoefficients : List Value) :
    Nat :=
  (lowPassFilterCoefficients.length - 1) / 2 % param.l

theorem subfilterLength_eq
    (created : Created param lowPassFilterCoefficients resampler) :
    resampler.subfilterLength = resampler.historyLength + 1 := by
  have isOdd := created.isOdd
  have isLong : 0 < resampler.subfilterLength := by
    rw [created.isSubfilterLength]
    have positive := param.interpolates
    exact Nat.div_pos (by omega) positive
  have isHistoryLength := created.isHistoryLength
  omega

theorem schedule
    (created : Created param lowPassFilterCoefficients resampler) :
    resampler.subfilterIndices =
        (List.range param.m).map (fun period =>
          branches param.l param.m
            (indexAt param.l param.m
              (firstIndex param lowPassFilterCoefficients) period)) ∧
      indexAt param.l param.m
          (firstIndex param lowPassFilterCoefficients) param.m =
        firstIndex param lowPassFilterCoefficients := by
  have isSum := created.isSum
  rw [created.isTable] at isSum ⊢
  exact subfilterIndicesFrom_accepted param.decimates
    (Nat.mod_lt _ param.interpolates) isSum

theorem length_subfilterIndices
    (created : Created param lowPassFilterCoefficients resampler) :
    resampler.subfilterIndices.length = resampler.m := by
  rw [created.schedule.1, List.length_map, List.length_range, created.isM]

/-- Subfilters some input samples after the first one that is not skipped. -/
theorem subfilterIndices_getD
    (created : Created param lowPassFilterCoefficients resampler)
    (period : Nat) :
    resampler.subfilterIndices[period % resampler.m]?.getD [] =
      branches param.l param.m
        (indexAt param.l param.m
          (firstIndex param lowPassFilterCoefficients) period) := by
  have inside : period % param.m < param.m := Nat.mod_lt period param.decimates
  rw [indexAt_mod created.schedule.2, created.isM, created.schedule.1,
    List.getElem?_map, List.getElem?_range inside]
  rfl

/-- Whatever loop was chosen, it returns what the generic one does. -/
theorem dispatch_eq
    (created : Created param lowPassFilterCoefficients resampler)
    {input : Nat → Value}
    {nNewInputSamples inputSampleCnt : Nat}
    (inside : inputSampleCnt < resampler.m) :
    resampler.dispatch input nNewInputSamples inputSampleCnt =
      resampler.resampleLxmxGenericImpl input nNewInputSamples
        inputSampleCnt := by
  have isTable := created.length_subfilterIndices
  have isSum := created.isSum.trans created.isL.symm
  -- the table of a filter is what was written down for it
  have unrolled
      {l m filterLength : Nat}
      (isFilter : param.l = l ∧ param.m = m ∧
          lowPassFilterCoefficients.length = filterLength) :
      resampler.manuallyUnrolled ((subfilterIndicesFrom l m m
          ((filterLength - 1) / 2 % l)).1.flatMap linesOf)
          (ceilDivideInteger filterLength l) input
          nNewInputSamples inputSampleCnt =
        resampler.resampleLxmxGenericImpl input nNewInputSamples
          inputSampleCnt := by
    obtain ⟨rfl, rfl, rfl⟩ := isFilter
    rw [← created.isTable, ← created.isSubfilterLength]
    exact manuallyUnrolled_eq isTable isSum inside
  unfold dispatch
  rw [created.isDispatcher]
  unfold dispatcherOf
  split_ifs with first second third fourth
  · exact (unrolled first :)
  · exact (unrolled second :)
  · exact (unrolled third :)
  · exact (unrolled fourth :)
  · rfl

end Created

end Created

end Resampler

end DectNrp
