import DectNrp.ResamplerStreams

namespace DectNrp

/-!
# Local buffer of a synchronized receiver

The receiver resamples the packet unit by unit into a local buffer and takes
OFDM symbols of different lengths out of it.  When a symbol is longer than
what is left, the rest is taken first, the buffer is written from its front
again, and the symbol is completed from there.

One sample stands for the samples of all antennas at the same time.
-/

open TransportBlockSize (ceilDivideInteger)

/--
What the resampler puts out for one unit of input samples after another: never
more than for whole schedules, and any number of samples after enough units.
-/
structure ResampledUnits (Sample : Type) where
  unitLength : Nat
  param : ResamplerParam
  isUnit : 0 < unitLength
  output : Nat → List Sample
  bounded :
    ∀ unit,
      (output unit).length ≤
        ceilDivideInteger unitLength param.m * param.l
  delivers :
    ∀ first count,
      ∃ nofUnits,
        count ≤
          ((List.range nofUnits).flatMap fun unit =>
            output (first + unit)).length

/--
Counters of the pacer and of the receiver, and the mixer stage.  Whether an
index beyond the buffer was used and the symbols so far are records that the
program does not keep.
-/
structure RxSynced (Sample : Type) where
  localbufferResample : Nat → Sample
  /-- Counter of the pacer. -/
  cntW : Nat
  nofUnits : Nat
  localbufferCntW : Nat
  localbufferCntR : Nat
  mixerStage : List Sample
  beyond : Bool
  symbols : List (List Sample)

namespace ResampledUnits

variable {Sample : Type}

/-- Number of output samples of a unit at most. -/
def resamplerNofSamplesPerUnitMax (units : ResampledUnits Sample) : Nat :=
  ceilDivideInteger units.unitLength units.param.m *
    units.param.l

/-- Length of the local buffer for the number of samples that it must hold. -/
def getInitializedLocalbuffer
    (units : ResampledUnits Sample)
    (localbufferLengthSamplesMax : Nat) :
    Checked Nat := do
  let resamplerMaxNofUnits :=
    1 + ceilDivideInteger localbufferLengthSamplesMax
      units.resamplerNofSamplesPerUnitMax
  let nofSamples := units.resamplerNofSamplesPerUnitMax * resamplerMaxNofUnits
  dectnrpAssert (localbufferLengthSamplesMax ≤ nofSamples)
    "localbuffer too short"
  pure nofSamples

/-- The resampled stream of the first units. -/
def stream
    (units : ResampledUnits Sample)
    (nofUnits : Nat) :
    List Sample :=
  (List.range nofUnits).flatMap units.output

end ResampledUnits

namespace RxSynced

variable {Sample : Type}

/-- A receiver before a packet. -/
def reset
    (state : RxSynced Sample) :
    RxSynced Sample :=
  { state with
    cntW := 0
    nofUnits := 0
    localbufferCntW := 0
    localbufferCntR := 0
    beyond := false
    symbols := [] }

/-- The output of one unit goes behind what was written before. -/
def resampleSingleUnit
    (units : ResampledUnits Sample)
    (nofSamples : Nat)
    (state : RxSynced Sample) :
    RxSynced Sample :=
  let output := units.output state.nofUnits
  { state with
    localbufferResample := fun index =>
      if state.cntW ≤ index then
        output[index - state.cntW]?.getD (state.localbufferResample index)
      else
        state.localbufferResample index
    cntW := state.cntW + output.length
    nofUnits := state.nofUnits + 1
    beyond :=
      state.beyond || decide (nofSamples < state.cntW + output.length) }

def rewindLocalbufferResampleCntW
    (state : RxSynced Sample) :
    RxSynced Sample :=
  { state with cntW := 0 }

/-- Resample units until there are enough samples. -/
def resampleUntilNto
    (units : ResampledUnits Sample)
    (nofSamples cntWMin : Nat) :
    Nat → RxSynced Sample → Option (RxSynced Sample)
  | 0, state =>
      if cntWMin ≤ state.cntW then some state else none
  | fuel + 1, state =>
      if cntWMin ≤ state.cntW then
        some state
      else
        resampleUntilNto units nofSamples cntWMin fuel
          (resampleSingleUnit units nofSamples state)

/-- Samples of the local buffer. -/
def samplesFrom
    (state : RxSynced Sample)
    (offset count : Nat) :
    List Sample :=
  (List.range count).map fun index =>
    state.localbufferResample (offset + index)

/-- Put the next symbol onto the mixer stage. -/
def runMixResample
    (units : ResampledUnits Sample)
    (nofSamples fuel nBDftOs : Nat)
    (state : RxSynced Sample)
    (nSamplesInCpOs : Nat) :
    Option (RxSynced Sample) :=
  let nSamplesOfdmSymbolOs := nSamplesInCpOs + nBDftOs
  let residualHave := state.localbufferCntW - state.localbufferCntR
  if nSamplesOfdmSymbolOs ≤ residualHave then
    let mixerStage :=
      state.samplesFrom state.localbufferCntR nSamplesOfdmSymbolOs
    some
      { state with
        mixerStage := mixerStage
        localbufferCntR := state.localbufferCntR + nSamplesOfdmSymbolOs
        beyond :=
          state.beyond ||
            decide (nofSamples <
              state.localbufferCntR + nSamplesOfdmSymbolOs)
        symbols := state.symbols ++ [mixerStage] }
  else do
    let first := state.samplesFrom state.localbufferCntR residualHave
    let beyond :=
      state.beyond ||
        decide (nofSamples < state.localbufferCntR + residualHave)
    let residualNeed := nSamplesOfdmSymbolOs - residualHave
    let state ←
      resampleUntilNto units nofSamples residualNeed fuel
        { rewindLocalbufferResampleCntW state with beyond := beyond }
    let mixerStage := first ++ state.samplesFrom 0 residualNeed
    some
      { state with
        localbufferCntW := state.cntW
        mixerStage := mixerStage
        localbufferCntR := residualNeed
        beyond := state.beyond || decide (nofSamples < residualNeed)
        symbols := state.symbols ++ [mixerStage] }

/-- Symbol after symbol, each with the length of its cyclic prefix. -/
def runSymbols
    (units : ResampledUnits Sample)
    (nofSamples fuel nBDftOs : Nat)
    (state : RxSynced Sample)
    (cpLengths : List Nat) :
    Option (RxSynced Sample) :=
  cpLengths.foldlM (runMixResample units nofSamples fuel nBDftOs) state

end RxSynced

/-- Numerology, largest bandwidth and oversampling of a device. -/
structure RxDevice where
  uMax : Nat
  bMax : Nat
  osMin : Nat
  isNumerology : uMax = 1 ∨ uMax = 2 ∨ uMax = 4 ∨ uMax = 8

namespace RxDevice

/-- Number of samples of the first symbol for the smallest bandwidth. -/
def getNSamplesStf (u : Nat) : Nat :=
  if u = 1 then 7 * 16 else 9 * 16

/-- Number of samples that the local buffer must hold. -/
def localbufferLengthSamplesMax (device : RxDevice) : Nat :=
  getNSamplesStf device.uMax * device.bMax * device.osMin

def dectSampRateOversampledMax (device : RxDevice) : Nat :=
  device.uMax * device.bMax * (64 * 27000) * device.osMin

/-- The numerology of packets is the largest one. -/
def nBDftOs (device : RxDevice) : Nat :=
  device.dectSampRateOversampledMax / (device.uMax * 27000)

def getNSamplesStfWithCp (u b : Nat) : Nat :=
  let nSamplesOfdmSymbol := 72 * b
  if u = 1 then
    nSamplesOfdmSymbol * 14 / 9
  else if u = 2 ∨ u = 4 ∨ u = 8 then
    nSamplesOfdmSymbol * 2
  else
    0

/-- Cyclic prefix of the first symbol. -/
def nSamplesStfCpOnlyOs (device : RxDevice) (b : Nat) : Nat :=
  (getNSamplesStfWithCp device.uMax b - 64 * b) *
    (device.nBDftOs / (64 * b))

/-- Cyclic prefix of a data field symbol. -/
def nBCpOs (device : RxDevice) (b : Nat) : Nat :=
  8 * b * (device.nBDftOs / (64 * b))

/-- Cyclic prefixes of a packet with a number of data field symbols. -/
def cpLengths (device : RxDevice) (b nDfSymb : Nat) : List Nat :=
  device.nSamplesStfCpOnlyOs b :: List.replicate nDfSymb (device.nBCpOs b)

theorem nBDftOs_eq (device : RxDevice) :
    device.nBDftOs = 64 * (device.bMax * device.osMin) := by
  have positive : 0 < device.uMax * 27000 := by
    rcases device.isNumerology with isU | isU | isU | isU <;> rw [isU] <;>
      decide
  unfold nBDftOs dectSampRateOversampledMax
  refine Nat.div_eq_of_eq_mul_left positive ?_
  ring

/-- No symbol of a packet is longer than what the local buffer must hold. -/
theorem cpLengths_le
    (device : RxDevice)
    {b nDfSymb nSamplesInCpOs : Nat}
    (isCp : nSamplesInCpOs ∈ device.cpLengths b nDfSymb) :
    nSamplesInCpOs + device.nBDftOs ≤ device.localbufferLengthSamplesMax := by
  have isDft := device.nBDftOs_eq
  have isMaximum : device.localbufferLengthSamplesMax =
      getNSamplesStf device.uMax * (device.bMax * device.osMin) :=
    Nat.mul_assoc _ _ _
  -- a whole number of oversampled bandwidths fits into the largest one
  have scaled :
      b * (device.nBDftOs / (64 * b)) ≤ device.bMax * device.osMin := by
    have turns := Nat.div_mul_le_self device.nBDftOs (64 * b)
    generalize device.nBDftOs / (64 * b) = turn at turns ⊢
    rw [isDft] at turns
    have bySixtyFour : turn * (64 * b) = 64 * (b * turn) := by ring
    omega
  have isScaled : ∀ factor, factor * b * (device.nBDftOs / (64 * b)) ≤
      factor * (device.bMax * device.osMin) := by
    intro factor
    rw [Nat.mul_assoc]
    exact Nat.mul_le_mul_left factor scaled
  rw [isMaximum, isDft]
  rcases List.mem_cons.mp isCp with isFirst | isLater
  · rw [isFirst]
    unfold nSamplesStfCpOnlyOs getNSamplesStfWithCp getNSamplesStf
    dsimp only
    by_cases isOne : device.uMax = 1
    · have isCp : 72 * b * 14 / 9 - 64 * b = 48 * b := by omega
      have bound := isScaled 48
      rw [if_pos isOne, if_pos isOne, isCp]
      omega
    · have isCp : 72 * b * 2 - 64 * b = 80 * b := by omega
      have isMore := device.isNumerology.resolve_left isOne
      have bound := isScaled 80
      rw [if_neg isOne, if_neg isOne, if_pos isMore, isCp]
      omega
  · have bound := isScaled 8
    have isLong : 16 * 7 ≤ getNSamplesStf device.uMax := by
      unfold getNSamplesStf
      split <;> omega
    have isLonger := Nat.mul_le_mul_right (device.bMax * device.osMin) isLong
    rw [List.eq_of_mem_replicate isLater]
    unfold nBCpOs
    omega

end RxDevice

namespace RxSynced

variable {Sample : Type}

section Units

variable
  {units : ResampledUnits Sample}
  {state after : RxSynced Sample}
  {nofSamples cntWMin base : Nat}

theorem stream_succ (nofUnits : Nat) :
    units.stream (nofUnits + 1) =
      units.stream nofUnits ++ units.output nofUnits := by
  unfold ResampledUnits.stream
  rw [List.range_succ, List.flatMap_append, List.flatMap_singleton]

/-- The stream from a position on is at the front of the local buffer. -/
structure Front
    (units : ResampledUnits Sample)
    (nofSamples base : Nat)
    (state : RxSynced Sample) : Prop where
  total : (units.stream state.nofUnits).length = base + state.cntW
  samples :
    ∀ index, index < state.cntW →
      (units.stream state.nofUnits)[base + index]? =
        some (state.localbufferResample index)
  inside : state.beyond = false

/-- Another unit, if there is room for the largest one. -/
theorem Front.unit
    (front : Front units nofSamples base state)
    (room : state.cntW + units.resamplerNofSamplesPerUnitMax ≤ nofSamples) :
    Front units nofSamples base
      (resampleSingleUnit units nofSamples state) := by
  have isShort : (units.output state.nofUnits).length ≤
      units.resamplerNofSamplesPerUnitMax :=
    units.bounded state.nofUnits
  refine ⟨?_, ?_, ?_⟩
  · change (units.stream (state.nofUnits + 1)).length =
      base + (state.cntW + (units.output state.nofUnits).length)
    rw [stream_succ, List.length_append, front.total, Nat.add_assoc]
  · intro index inUnit
    change index < state.cntW + (units.output state.nofUnits).length at inUnit
    unfold resampleSingleUnit
    dsimp only
    rw [stream_succ]
    by_cases isNew : state.cntW ≤ index
    · have offset : base + index - (units.stream state.nofUnits).length =
          index - state.cntW := by
        rw [front.total]
        omega
      rw [if_pos isNew,
        List.getElem?_append_right (by rw [front.total]; omega), offset,
        List.getElem?_eq_getElem (by omega)]
      rfl
    · rw [if_neg isNew, List.getElem?_append_left (by rw [front.total]; omega)]
      exact front.samples index (Nat.not_le.mp isNew)
  · change (state.beyond || decide (nofSamples < _)) = false
    rw [front.inside, Bool.false_or]
    exact decide_eq_false (by omega)

/-- What resampling until there are enough samples leaves. -/
structure Enough
    (units : ResampledUnits Sample)
    (nofSamples base cntWMin : Nat)
    (before after : RxSynced Sample) : Prop where
  front : Front units nofSamples base after
  isEnough : cntWMin ≤ after.cntW
  fits : after.cntW ≤ nofSamples
  sameSymbols : after.symbols = before.symbols
  isLater :
    ∃ later,
      units.stream after.nofUnits = units.stream before.nofUnits ++ later

/-- Nothing is left to do. -/
theorem Enough.here
    (front : Front units nofSamples base state)
    (fits : state.cntW ≤ nofSamples)
    (isEnough : cntWMin ≤ state.cntW) :
    Enough units nofSamples base cntWMin state state :=
  ⟨front, isEnough, fits, rfl, [], (List.append_nil _).symm⟩

theorem resampleUntilNto_enough
    (room : cntWMin + units.resamplerNofSamplesPerUnitMax ≤ nofSamples + 1)
    (nofUnits : Nat)
    (front : Front units nofSamples base state)
    (fits : state.cntW ≤ nofSamples)
    (delivers :
      cntWMin ≤
        state.cntW +
          ((List.range nofUnits).flatMap fun unit =>
            units.output (state.nofUnits + unit)).length) :
    ∃ after,
      Enough units nofSamples base cntWMin state after ∧
        ∀ fuel, nofUnits ≤ fuel →
          resampleUntilNto units nofSamples cntWMin fuel state =
            some after := by
  by_cases isEnough : cntWMin ≤ state.cntW
  · refine ⟨state, Enough.here front fits isEnough, ?_⟩
    intro fuel _
    cases fuel with
    | zero => exact if_pos isEnough
    | succ fuel => exact if_pos isEnough
  · induction nofUnits generalizing state with
    | zero => exact absurd delivers isEnough
    | succ nofUnits hypothesis =>
        have isShort : (units.output state.nofUnits).length ≤
            units.resamplerNofSamplesPerUnitMax :=
          units.bounded state.nofUnits
        have nextFront := front.unit (by omega)
        have nextFits :
            (resampleSingleUnit units nofSamples state).cntW ≤ nofSamples := by
          change state.cntW + (units.output state.nofUnits).length ≤ _
          omega
        have nextDelivers : cntWMin ≤
            (resampleSingleUnit units nofSamples state).cntW +
              ((List.range nofUnits).flatMap fun unit =>
                units.output ((resampleSingleUnit units nofSamples
                    state).nofUnits + unit)).length := by
          rw [List.range_succ_eq_map, List.flatMap_cons,
            List.length_append, List.flatMap_map] at delivers
          change cntWMin ≤ state.cntW + (units.output state.nofUnits).length +
              ((List.range nofUnits).flatMap fun unit =>
                units.output (state.nofUnits + 1 + unit)).length
          simp only [Nat.add_assoc, Nat.add_comm 1] at delivers ⊢
          exact delivers
        have continued : ∃ after, Enough units nofSamples base cntWMin
            (resampleSingleUnit units nofSamples state) after ∧
                ∀ fuel, nofUnits ≤ fuel →
                  resampleUntilNto units nofSamples cntWMin fuel
                      (resampleSingleUnit units nofSamples state) =
                    some after := by
          by_cases isNextEnough :
              cntWMin ≤ (resampleSingleUnit units nofSamples state).cntW
          · refine ⟨_, Enough.here nextFront nextFits isNextEnough, ?_⟩
            intro fuel _
            cases fuel with
            | zero => exact if_pos isNextEnough
            | succ fuel => exact if_pos isNextEnough
          · exact hypothesis nextFront nextFits nextDelivers isNextEnough
        obtain ⟨after, enough, isAfter⟩ := continued
        obtain ⟨later, isLater⟩ := enough.isLater
        refine ⟨after, ⟨enough.front, enough.isEnough, enough.fits,
          enough.sameSymbols, units.output state.nofUnits ++ later, ?_⟩,
          ?_⟩
        · rw [isLater, ← List.append_assoc, ← stream_succ]
          rfl
        · intro fuel isFuel
          obtain ⟨fuel, rfl⟩ :=
            Nat.exists_eq_succ_of_ne_zero
              (Nat.ne_of_gt (Nat.lt_of_lt_of_le (Nat.succ_pos _) isFuel))
          unfold resampleUntilNto
          rw [if_neg isEnough]
          exact isAfter fuel (Nat.le_of_succ_le_succ isFuel)

/-- Samples of the local buffer are a piece of the stream. -/
theorem Front.samplesFrom_eq
    (front : Front units nofSamples base state)
    {offset count : Nat}
    (inside : offset + count ≤ state.cntW) :
    state.samplesFrom offset count =
      ((units.stream state.nofUnits).drop (base + offset)).take count := by
  apply List.ext_getElem?
  intro index
  unfold samplesFrom
  rw [List.getElem?_map, List.getElem?_take, List.getElem?_drop]
  by_cases isPiece : index < count
  · rw [List.getElem?_range isPiece, if_pos isPiece, Nat.add_assoc,
      front.samples (offset + index) (by omega)]
    rfl
  · rw [List.getElem?_eq_none
        (by rw [List.length_range]; exact Nat.not_lt.mp isPiece),
      if_neg isPiece]
    rfl

end Units

section Symbols

variable
  {units : ResampledUnits Sample}
  {state : RxSynced Sample}
  {nofSamples consumed : Nat}

/--
The symbols so far are the start of the stream, and what follows it is in the
local buffer between the two counters.
-/
structure Consumes
    (units : ResampledUnits Sample)
    (nofSamples consumed : Nat)
    (state : RxSynced Sample) : Prop where
  front :
    Front units nofSamples (consumed - state.localbufferCntR) state
  isCntR : state.localbufferCntR ≤ consumed
  sameCntW : state.localbufferCntW = state.cntW
  ordered : state.localbufferCntR ≤ state.localbufferCntW
  fits : state.localbufferCntW ≤ nofSamples
  isStart :
    state.symbols.flatten = (units.stream state.nofUnits).take consumed

theorem consumes_reset
    (units : ResampledUnits Sample)
    (nofSamples : Nat)
    (state : RxSynced Sample) :
    Consumes units nofSamples 0 state.reset := by
  refine ⟨⟨rfl, ?_, rfl⟩, le_rfl, rfl, le_rfl, Nat.zero_le _, rfl⟩
  intro index inside
  exact absurd inside (Nat.not_lt_zero index)

variable {nBDftOs nSamplesInCpOs : Nat}

theorem Consumes.leftSymbol
    (consumes : Consumes units nofSamples consumed state)
    (isHave :
      nSamplesInCpOs + nBDftOs ≤
        state.localbufferCntW - state.localbufferCntR) :
    ∃ after symbol,
      Consumes units nofSamples (consumed + (nSamplesInCpOs + nBDftOs))
          after ∧
        after.symbols = state.symbols ++ [symbol] ∧
        symbol.length = nSamplesInCpOs + nBDftOs ∧
        after.mixerStage = symbol ∧
        ∀ fuel,
          runMixResample units nofSamples fuel nBDftOs state
            nSamplesInCpOs = some after := by
  have total := consumes.front.total
  have isCntR := consumes.isCntR
  have sameCntW := consumes.sameCntW
  have ordered := consumes.ordered
  have fits := consumes.fits
  have inside :
      state.localbufferCntR + (nSamplesInCpOs + nBDftOs) ≤ state.cntW := by
    omega
  have isPiece := consumes.front.samplesFrom_eq inside
  rw [Nat.sub_add_cancel isCntR] at isPiece
  have isInside : (state.beyond || decide (nofSamples <
      state.localbufferCntR + (nSamplesInCpOs + nBDftOs))) = false := by
    rw [consumes.front.inside, Bool.false_or]
    exact decide_eq_false (by omega)
  refine ⟨_, _, ?_, rfl, ?_, rfl, fun fuel => if_pos isHave⟩
  · refine ⟨⟨?_, ?_, isInside⟩, ?_, sameCntW, ?_, fits, ?_⟩
    · dsimp only
      omega
    · intro index inBuffer
      have isSameBase : consumed + (nSamplesInCpOs + nBDftOs) -
          (state.localbufferCntR + (nSamplesInCpOs + nBDftOs)) =
            consumed - state.localbufferCntR := by
        omega
      dsimp only
      rw [isSameBase]
      exact consumes.front.samples index inBuffer
    · dsimp only
      omega
    · dsimp only
      omega
    · dsimp only
      rw [List.flatten_append, List.flatten_singleton, consumes.isStart,
        isPiece, ← List.take_add]
  · rw [isPiece, List.length_take, List.length_drop]
    omega

theorem Consumes.rewoundSymbol
    (consumes : Consumes units nofSamples consumed state)
    (room :
      nSamplesInCpOs + nBDftOs + units.resamplerNofSamplesPerUnitMax ≤
        nofSamples)
    (notHave :
      ¬nSamplesInCpOs + nBDftOs ≤
        state.localbufferCntW - state.localbufferCntR) :
    ∃ after least symbol,
      Consumes units nofSamples (consumed + (nSamplesInCpOs + nBDftOs))
          after ∧
        after.symbols = state.symbols ++ [symbol] ∧
        symbol.length = nSamplesInCpOs + nBDftOs ∧
        after.mixerStage = symbol ∧
        ∀ fuel, least ≤ fuel →
          runMixResample units nofSamples fuel nBDftOs state
            nSamplesInCpOs = some after := by
  have total := consumes.front.total
  have isCntR := consumes.isCntR
  have sameCntW := consumes.sameCntW
  have ordered := consumes.ordered
  have fits := consumes.fits
  obtain ⟨residue, isResidue⟩ :
      ∃ residue, state.localbufferCntW - state.localbufferCntR = residue :=
    ⟨_, rfl⟩
  obtain ⟨need, isNeed⟩ :
      ∃ need, nSamplesInCpOs + nBDftOs - residue = need :=
    ⟨_, rfl⟩
  have inside : state.localbufferCntR + residue ≤ state.cntW := by omega
  have isFirst := consumes.front.samplesFrom_eq inside
  rw [Nat.sub_add_cancel isCntR, List.take_of_length_le
    (by rw [List.length_drop]; omega)] at isFirst
  have isInside : (state.beyond ||
      decide (nofSamples < state.localbufferCntR + residue)) = false := by
    rw [consumes.front.inside, Bool.false_or]
    exact decide_eq_false (by omega)
  -- the pacer writes from the front, where the stream goes on
  have rewound : Front units nofSamples (units.stream state.nofUnits).length
      { rewindLocalbufferResampleCntW state with beyond := false } := by
    refine ⟨rfl, ?_, rfl⟩
    intro index inBuffer
    exact absurd inBuffer (Nat.not_lt_zero index)
  obtain ⟨nofUnits, delivers⟩ := units.delivers state.nofUnits need
  rw [← Nat.zero_add ((List.range nofUnits).flatMap fun unit =>
      units.output (state.nofUnits + unit)).length] at delivers
  have needRoom :
      need + units.resamplerNofSamplesPerUnitMax ≤ nofSamples + 1 := by
    omega
  obtain ⟨filled, enough, isFilled⟩ :=
    resampleUntilNto_enough needRoom nofUnits rewound (Nat.zero_le _) delivers
  obtain ⟨later, isLater⟩ := enough.isLater
  have isStream :
      units.stream filled.nofUnits = units.stream state.nofUnits ++ later :=
    isLater
  have filledTotal := enough.front.total
  have isEnough := enough.isEnough
  have filledFits := enough.fits
  have inFilled : 0 + need ≤ filled.cntW := by omega
  have isSecond := enough.front.samplesFrom_eq inFilled
  rw [Nat.add_zero, isStream, List.drop_left] at isSecond
  have isLength : (state.samplesFrom state.localbufferCntR residue ++
      filled.samplesFrom 0 need).length = nSamplesInCpOs + nBDftOs := by
    unfold samplesFrom
    rw [List.length_append, List.length_map, List.length_map,
      List.length_range, List.length_range]
    omega
  refine ⟨{ filled with
      localbufferCntW := filled.cntW
      mixerStage :=
        state.samplesFrom state.localbufferCntR residue ++
          filled.samplesFrom 0 need
      localbufferCntR := need
      beyond := filled.beyond || decide (nofSamples < need)
      symbols :=
        filled.symbols ++ [state.samplesFrom state.localbufferCntR residue ++
            filled.samplesFrom 0 need] },
    nofUnits, _, ⟨⟨?_, ?_, ?_⟩, ?_, rfl, isEnough, filledFits, ?_⟩, ?_,
    isLength, rfl, ?_⟩
  · dsimp only
    omega
  · intro index inBuffer
    have isBase : consumed + (nSamplesInCpOs + nBDftOs) - need =
        (units.stream state.nofUnits).length := by
      omega
    dsimp only
    rw [isBase]
    exact enough.front.samples index inBuffer
  · dsimp only
    rw [enough.front.inside, Bool.false_or]
    exact decide_eq_false (by omega)
  · dsimp only
    omega
  · have isEnd : consumed + (nSamplesInCpOs + nBDftOs) =
        (units.stream state.nofUnits).length + need := by
      omega
    have sameSymbols : filled.symbols = state.symbols := enough.sameSymbols
    dsimp only
    rw [sameSymbols, List.flatten_append, List.flatten_singleton,
      consumes.isStart, isFirst, isSecond, ← List.append_assoc,
      List.take_append_drop, isStream, isEnd, List.take_length_add_append]
  · have sameSymbols : filled.symbols = state.symbols := enough.sameSymbols
    dsimp only
    rw [sameSymbols]
  · intro fuel isFuel
    unfold runMixResample
    dsimp only
    rw [if_neg notHave, isResidue, isNeed, isInside, isFilled fuel isFuel]
    rfl

/-- Another symbol continues where the last one ended. -/
theorem Consumes.symbol
    (consumes : Consumes units nofSamples consumed state)
    (room :
      nSamplesInCpOs + nBDftOs + units.resamplerNofSamplesPerUnitMax ≤
        nofSamples) :
    ∃ after least symbol,
      Consumes units nofSamples (consumed + (nSamplesInCpOs + nBDftOs))
          after ∧
        after.symbols = state.symbols ++ [symbol] ∧
        symbol.length = nSamplesInCpOs + nBDftOs ∧
        after.mixerStage = symbol ∧
        ∀ fuel, least ≤ fuel →
          runMixResample units nofSamples fuel nBDftOs state
            nSamplesInCpOs = some after := by
  by_cases isHave :
      nSamplesInCpOs + nBDftOs ≤ state.localbufferCntW - state.localbufferCntR
  · obtain ⟨after, symbol, continued, isSymbol, isLength, isStage,
      isAfter⟩ := consumes.leftSymbol isHave
    exact ⟨after, 0, symbol, continued, isSymbol, isLength, isStage,
      fun fuel _ => isAfter fuel⟩
  · exact consumes.rewoundSymbol room isHave

/-- Symbol after symbol. -/
theorem Consumes.symbols
    (consumes : Consumes units nofSamples consumed state)
    {nBDftOs : Nat}
    (cpLengths : List Nat)
    (room :
      ∀ nSamplesInCpOs, nSamplesInCpOs ∈ cpLengths →
        nSamplesInCpOs + nBDftOs + units.resamplerNofSamplesPerUnitMax ≤
          nofSamples) :
    ∃ after least symbols,
      Consumes units nofSamples
          (consumed + (cpLengths.map (· + nBDftOs)).sum) after ∧
        after.symbols = state.symbols ++ symbols ∧
        symbols.map List.length = cpLengths.map (· + nBDftOs) ∧
        ∀ fuel, least ≤ fuel →
          runSymbols units nofSamples fuel nBDftOs state cpLengths =
            some after := by
  induction cpLengths generalizing state consumed with
  | nil =>
      exact ⟨state, 0, [], consumes, (List.append_nil _).symm, rfl,
        fun _ _ => rfl⟩
  | cons nSamplesInCpOs cpLengths hypothesis =>
      obtain ⟨first, firstLeast, symbol, firstConsumes, isSymbol, isLength,
        -, isFirst⟩ :=
        consumes.symbol (room nSamplesInCpOs List.mem_cons_self)
      obtain ⟨after, least, symbols, continued, areSymbols, areLengths,
        isAfter⟩ :=
        hypothesis firstConsumes (fun later isLater =>
            room later (List.mem_cons_of_mem nSamplesInCpOs isLater))
      refine ⟨after, max firstLeast least, symbol :: symbols, ?_, ?_, ?_, ?_⟩
      · rw [List.map_cons, List.sum_cons, ← Nat.add_assoc]
        exact continued
      · rw [areSymbols, isSymbol, List.append_assoc]
        rfl
      · rw [List.map_cons, List.map_cons, isLength, areLengths]
      · intro fuel isFuel
        have isRest := isAfter fuel (le_of_max_le_right isFuel)
        unfold runSymbols at isRest ⊢
        rw [List.foldlM_cons, isFirst fuel (le_of_max_le_left isFuel)]
        exact isRest

/-- The local buffer has room for the longest symbol and another unit. -/
theorem getInitializedLocalbuffer_spec
    (units : ResampledUnits Sample)
    (localbufferLengthSamplesMax : Nat) :
    ∃ nofSamples,
      units.getInitializedLocalbuffer localbufferLengthSamplesMax =
          .ok nofSamples ∧
        localbufferLengthSamplesMax +
            units.resamplerNofSamplesPerUnitMax ≤
          nofSamples := by
  have isSome : 0 < units.resamplerNofSamplesPerUnitMax := by
    have isUnit := units.isUnit
    have decimates := units.param.decimates
    refine Nat.mul_pos ?_ units.param.interpolates
    exact Nat.div_pos (by omega) decimates
  unfold ResampledUnits.getInitializedLocalbuffer
  generalize units.resamplerNofSamplesPerUnitMax = perUnit at *
  have isEnough : localbufferLengthSamplesMax ≤ perUnit *
      ceilDivideInteger
        localbufferLengthSamplesMax perUnit := by
    have turns :=
      Nat.div_add_mod (localbufferLengthSamplesMax + perUnit - 1) perUnit
    have below := Nat.mod_lt (localbufferLengthSamplesMax + perUnit - 1) isSome
    unfold ceilDivideInteger
    omega
  have isTotal : localbufferLengthSamplesMax + perUnit ≤ perUnit *
      (1 + ceilDivideInteger
        localbufferLengthSamplesMax perUnit) := by
    rw [Nat.mul_add, Nat.mul_one]
    omega
  refine ⟨_, ?_, isTotal⟩
  dsimp only
  rw [decide_eq_true (le_trans (Nat.le_add_right _ _) isTotal)]
  rfl

end Symbols

end RxSynced

end DectNrp
