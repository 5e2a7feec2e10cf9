import DectNrp.Beamforming
import Mathlib.Algebra.QuadraticAlgebra.Basic
import Mathlib.Tactic.FieldSimp
import Mathlib.Tactic.LinearCombination
import Mathlib.Tactic.Ring

namespace DectNrp

/-!
# Transmit diversity

Two symbols are sent on two cells through two streams.  The second stream has
the symbols in the other order with signs changed.  The pair of streams follows
a table that is walked through over the whole packet.  A receiver that knows
the channel of both streams combines the two cells of a pair over all antennas.
Arithmetic is exact here.
-/

section Combining

variable
  {Number : Type}
  [CommRing Number]
  [StarRing Number]

theorem combine_first (h0 h1 s0 s1 : Number) :
    star h0 * (h0 * s0 + h1 * -star s1) +
        h1 * star (h0 * s1 + h1 * star s0) =
      (h0 * star h0 + h1 * star h1) * s0 := by
  rw [star_add, star_mul', star_mul', star_star]
  ring

theorem combine_second (h0 h1 s0 s1 : Number) :
    -h1 * star (h0 * s0 + h1 * -star s1) +
        star h0 * (h0 * s1 + h1 * star s0) =
      (h0 * star h0 + h1 * star h1) * s1 := by
  rw [star_add, star_mul', star_mul', star_neg, star_star]
  ring

end Combining

/-- Complex numbers with exact parts. -/
abbrev Cf (Value : Type) [CommRing Value] : Type :=
  QuadraticAlgebra Value (-1) 0

namespace TransmitDiversity

/-- Row of the table for a number of transmit streams. -/
def nTs248IdxVec : List Nat :=
  [0, 0, 0, 0, 1, 0, 0, 0, 2]

/-- Streams of consecutive pairs of cells for two, four and eight streams. -/
def indexNTsX : List (List (Nat × Nat)) :=
  [[(0, 1)],
    [(0, 1), (2, 3), (0, 2), (1, 3), (0, 3), (1, 2)],
    [(0, 1), (2, 3), (4, 5), (6, 7), (0, 4), (1, 5), (2, 6), (3, 7),
      (0, 2), (1, 3), (4, 6), (5, 7)]]

def getModulo (nTs : Nat) : Nat :=
  if nTs = 2 then 1 else if nTs = 4 then 6 else 12

def indexMatOf (nTs : Nat) : List (Nat × Nat) :=
  indexNTsX[nTs248IdxVec[nTs]?.getD 0]?.getD []

def getIndexMatNTsX (nTs : Nat) : Checked (List (Nat × Nat)) := do
  dectnrpAssert (2 ≤ nTs) "must be at least 2 transmit streams"
  pure (indexMatOf nTs)

/-- Both streams of the cell with an index over the packet. -/
def streamsAt
    (indexMatNTsX : List (Nat × Nat))
    (modulo pxxIdx : Nat) :
    Nat × Nat :=
  indexMatNTsX[pxxIdx / 2 % modulo]?.getD (0, 0)

/-- Every pair of cells has two different streams in use. -/
theorem streamsAt_spec
    {nTs : Nat}
    (isNTs : nTs = 2 ∨ nTs = 4 ∨ nTs = 8)
    (pxxIdx : Nat) :
    let tsIndex := streamsAt (indexMatOf nTs) (getModulo nTs) pxxIdx
    tsIndex.1 < nTs ∧ tsIndex.2 < nTs ∧ tsIndex.1 ≠ tsIndex.2 := by
  have isRow : getModulo nTs = (indexMatOf nTs).length ∧
      0 < (indexMatOf nTs).length ∧
      ∀ streams ∈ indexMatOf nTs,
        streams.1 < nTs ∧ streams.2 < nTs ∧ streams.1 ≠ streams.2 := by
    rcases isNTs with rfl | rfl | rfl
    · exact ⟨rfl, by decide, by decide⟩
    · exact ⟨rfl, by decide, by decide⟩
    · exact ⟨rfl, by decide, by decide⟩
  obtain ⟨isModulo, positive, different⟩ := isRow
  have inside : pxxIdx / 2 % getModulo nTs < (indexMatOf nTs).length := by
    rw [isModulo]
    exact Nat.mod_lt _ positive
  unfold streamsAt
  rw [List.getElem?_eq_getElem inside]
  exact different _ (List.getElem_mem inside)

/-- The table is there for every number of transmit streams in use. -/
theorem getIndexMatNTsX_eq
    {nTs : Nat}
    (isNTs : nTs = 2 ∨ nTs = 4 ∨ nTs = 8) :
    getIndexMatNTsX nTs = .ok (indexMatOf nTs) := by
  rcases isNTs with rfl | rfl | rfl <;> rfl

theorem streamsAt_succ
    {indexMatNTsX : List (Nat × Nat)}
    {modulo pxxIdx : Nat}
    (isEven : pxxIdx % 2 = 0) :
    streamsAt indexMatNTsX modulo (pxxIdx + 1) =
      streamsAt indexMatNTsX modulo pxxIdx := by
  have samePair : (pxxIdx + 1) / 2 = pxxIdx / 2 := by omega
  unfold streamsAt
  rw [samePair]

section Numbers

variable
  {Value : Type}
  [CommRing Value]

/-- Real and imaginary parts are multiplied with each other. -/
def vecProdFff
    (x y : Cf Value) :
    Cf Value :=
  ⟨x.re * y.re, x.im * y.im⟩

/-- Signs of the parts of flipped symbols. -/
def patternMinus1J1J (i : Nat) : Cf Value :=
  if i % 2 = 0 then ⟨-1, 1⟩ else ⟨1, -1⟩

/-- Pairs of symbols in the other order with signs changed. -/
def flipPairs
    (symbols : Nat → Cf Value)
    (length : Nat)
    (symbolsFlipped : Nat → Cf Value) :
    Nat → Cf Value :=
  fun i =>
    if i < length then
      vecProdFff (if i % 2 = 0 then symbols (i + 1) else symbols (i - 1))
        (patternMinus1J1J i)
    else
      symbolsFlipped i

/-- Transmit streams, the next symbol and the next cell of the packet. -/
structure TransmitStreams (Value : Type) [CommRing Value] where
  transmitStreamsStage : Nat → Nat → Cf Value
  cnt : Nat
  pxxIdx : Nat

def store
    (transmitStreamsStage : Nat → Nat → Cf Value)
    (tsIndex kI : Nat)
    (value : Cf Value) :
    Nat → Nat → Cf Value :=
  fun ts k =>
    if ts = tsIndex ∧ k = kI then value else transmitStreamsStage ts k

/-- One cell gets a symbol in one stream and a flipped one in another. -/
def copyCell
    (indexMatNTsX : List (Nat × Nat))
    (modulo : Nat)
    (symbols symbolsFlipped : Nat → Cf Value)
    (streams : TransmitStreams Value)
    (kI : Nat) :
    TransmitStreams Value :=
  let tsIndex := streamsAt indexMatNTsX modulo streams.pxxIdx
  { transmitStreamsStage :=
      store
        (store streams.transmitStreamsStage tsIndex.1 kI
          (symbols streams.cnt))
        tsIndex.2 kI (symbolsFlipped streams.cnt)
    cnt := streams.cnt + 1
    pxxIdx := streams.pxxIdx + 1 }

/-- Control channel of one OFDM symbol. -/
def runPcc
    (nTs : Nat)
    (pccQpskSymbols pccQpskSymbolsFlipped : Nat → Cf Value)
    (kIOneSymbol : List Nat)
    (transmitStreamsStage : Nat → Nat → Cf Value)
    (pccIdx : Nat) :
    Checked (TransmitStreams Value) :=
  if nTs = 1 then
    pure
      (kIOneSymbol.foldl
        (fun streams kI =>
          { transmitStreamsStage :=
              store streams.transmitStreamsStage 0 kI
                (pccQpskSymbols streams.cnt)
            cnt := streams.cnt + 1
            pxxIdx := streams.pxxIdx + 1 })
        ⟨transmitStreamsStage, pccIdx, pccIdx⟩)
  else do
    let indexMatNTsX ← getIndexMatNTsX nTs
    pure
      (kIOneSymbol.foldl
        (copyCell indexMatNTsX (getModulo nTs) pccQpskSymbols
          pccQpskSymbolsFlipped)
        ⟨transmitStreamsStage, pccIdx, pccIdx⟩)

/-- Data channel of one OFDM symbol, whose symbols are at the front. -/
def runPdcTransmitDiversity
    (nTs : Nat)
    (pdcCmplxSymbols pdcCmplxSymbolsFlipped : Nat → Cf Value)
    (kIOneSymbol : List Nat)
    (transmitStreamsStage : Nat → Nat → Cf Value)
    (pdcSubcIdx : Nat) :
    Checked (TransmitStreams Value) := do
  let pdcCmplxSymbolsFlipped :=
    flipPairs pdcCmplxSymbols kIOneSymbol.length pdcCmplxSymbolsFlipped
  let indexMatNTsX ← getIndexMatNTsX nTs
  pure
    (kIOneSymbol.foldl
      (copyCell indexMatNTsX (getModulo nTs) pdcCmplxSymbols
        pdcCmplxSymbolsFlipped)
      ⟨transmitStreamsStage, 0, pdcSubcIdx⟩)

end Numbers

section Receiver

variable
  {Value : Type}
  [Field Value]

/-- Numerators and denominators. -/
structure RxStages (Value : Type) [Field Value] where
  mixerStage : Nat → Cf Value
  fftStage : Nat → Cf Value

/-- Channel of a stream at the two cells of a pair. -/
def average
    (x y : Cf Value) :
    Cf Value :=
  (2 : Value)⁻¹ • (x + y)

def vecDivide
    (x y : Cf Value) :
    Cf Value :=
  (y.re * y.re + y.im * y.im)⁻¹ • (x * star y)

def accumulate
    (stage : Nat → Cf Value)
    (cnt : Nat)
    (value : Cf Value) :
    Nat → Cf Value :=
  Function.update stage cnt (stage cnt + value)

/-- Both products of a pair of cells at one antenna, and their weight. -/
def pairProducts
    (indexMatNTsX : List (Nat × Nat))
    (modulo : Nat)
    (yMrc : Nat → Cf Value)
    (chestim : Nat → Nat → Cf Value)
    (kIOneSymbol : List Nat)
    (pxxIdx cnt : Nat) :
    Cf Value × Cf Value × Cf Value :=
  let kI := kIOneSymbol[cnt]?.getD 0
  let kINext := kIOneSymbol[cnt + 1]?.getD 0
  let r0 := yMrc kI
  let r1 := yMrc kINext
  let tsIndex := streamsAt indexMatNTsX modulo (pxxIdx + cnt)
  let h0 := average (chestim tsIndex.1 kI) (chestim tsIndex.1 kINext)
  let h1 := average (chestim tsIndex.2 kI) (chestim tsIndex.2 kINext)
  (star h0 * r0 + h1 * star r1, -h1 * star r0 + star h0 * r1,
    h0 * star h0 + h1 * star h1)

/-- One pair of cells is added to numerators and denominators. -/
def collectPair
    (products : Nat → Cf Value × Cf Value × Cf Value)
    (stages : RxStages Value)
    (pair : Nat) :
    RxStages Value :=
  let cnt := 2 * pair
  let (numerator, numeratorNext, absHSquare) := products cnt
  { mixerStage :=
      accumulate (accumulate stages.mixerStage cnt numerator) (cnt + 1)
        numeratorNext
    fftStage :=
      accumulate (accumulate stages.fftStage cnt absHSquare) (cnt + 1)
        absHSquare }

/-- Symbols of the cells, combined over all antennas. -/
def runPxxModeTransmitDiversity
    (nEffTx nRx : Nat)
    (ofdmSymbolNow : Nat → Nat → Cf Value)
    (chestim : Nat → Nat → Nat → Cf Value)
    (kIOneSymbol : List Nat)
    (pxxIdx : Nat)
    (stages : RxStages Value) :
    Checked (RxStages Value) := do
  let indexMatNTsX ← getIndexMatNTsX nEffTx
  dectnrpAssert (kIOneSymbol.length % 2 == 0) "must be even"
  let stages :=
    (List.range nRx).foldl
      (fun stages antIdx =>
        (List.range (kIOneSymbol.length / 2)).foldl
          (collectPair
            (pairProducts indexMatNTsX (getModulo nEffTx)
              (ofdmSymbolNow antIdx) (chestim antIdx) kIOneSymbol pxxIdx))
          stages)
      stages
  pure
    { stages with
      mixerStage := fun cnt =>
        if cnt < kIOneSymbol.length then
          vecDivide (stages.mixerStage cnt) (stages.fftStage cnt)
        else
          stages.mixerStage cnt }

/-- What is demapped for one OFDM symbol. -/
def collect
    (nEffTx nRx : Nat)
    (ofdmSymbolNow : Nat → Nat → Cf Value)
    (chestim : Nat → Nat → Nat → Cf Value)
    (kIOneSymbol : List Nat)
    (pxxIdx : Nat)
    (stages : RxStages Value) :
    Checked (List (Cf Value)) := do
  let stages ←
    runPxxModeTransmitDiversity nEffTx nRx ofdmSymbolNow chestim
      kIOneSymbol pxxIdx
      { mixerStage :=
          Tx.vecCfZero stages.mixerStage kIOneSymbol.length
        fftStage := Tx.vecCfZero stages.fftStage kIOneSymbol.length }
  pure ((List.range kIOneSymbol.length).map stages.mixerStage)

end Receiver

section Cells

variable
  {Value : Type}
  [CommRing Value]

variable {symbols symbolsFlipped : Nat → Cf Value}

theorem flipPairs_even
    {length i : Nat}
    (inside : i < length)
    (isEven : i % 2 = 0) :
    flipPairs symbols length symbolsFlipped i = -star (symbols (i + 1)) := by
  unfold flipPairs patternMinus1J1J vecProdFff
  rw [if_pos inside, if_pos isEven, if_pos isEven]
  ext
  · simp
  · simp

theorem flipPairs_odd
    {length i : Nat}
    (inside : i + 1 < length)
    (isEven : i % 2 = 0) :
    flipPairs symbols length symbolsFlipped (i + 1) = star (symbols i) := by
  have isOdd : ¬(i + 1) % 2 = 0 := by omega
  unfold flipPairs patternMinus1J1J vecProdFff
  rw [if_pos inside, if_neg isOdd, if_neg isOdd, Nat.add_sub_cancel]
  ext
  · simp
  · simp

/-- Flipped symbols of a pair from an even index on. -/
theorem flipPairs_pair
    {length cnt pair : Nat}
    (isEven : cnt % 2 = 0)
    (inside : cnt + (2 * pair + 1) < length) :
    flipPairs symbols length symbolsFlipped (cnt + 2 * pair) =
        -star (symbols (cnt + (2 * pair + 1))) ∧
      flipPairs symbols length symbolsFlipped (cnt + (2 * pair + 1)) =
        star (symbols (cnt + 2 * pair)) := by
  have isEvenPair : (cnt + 2 * pair) % 2 = 0 := by omega
  exact ⟨flipPairs_even (Nat.lt_of_succ_lt inside) isEvenPair,
    flipPairs_odd inside isEvenPair⟩

/-- What cells of one OFDM symbol hold after symbols were copied. -/
structure Copied
    (indexMatNTsX : List (Nat × Nat))
    (modulo : Nat)
    (symbols symbolsFlipped : Nat → Cf Value)
    (kIOneSymbol : List Nat)
    (before after : TransmitStreams Value) : Prop where
  isCnt : after.cnt = before.cnt + kIOneSymbol.length
  isPxxIdx : after.pxxIdx = before.pxxIdx + kIOneSymbol.length
  others :
    ∀ ts k, k ∉ kIOneSymbol →
      after.transmitStreamsStage ts k = before.transmitStreamsStage ts k
  cells :
    ∀ position (inside : position < kIOneSymbol.length) ts,
      after.transmitStreamsStage ts kIOneSymbol[position] =
        let tsIndex := streamsAt indexMatNTsX modulo (before.pxxIdx + position)
        if ts = tsIndex.2 then
          symbolsFlipped (before.cnt + position)
        else if ts = tsIndex.1 then
          symbols (before.cnt + position)
        else
          before.transmitStreamsStage ts kIOneSymbol[position]

theorem foldl_copyCell
    {indexMatNTsX : List (Nat × Nat)}
    {modulo : Nat}
    {symbols symbolsFlipped : Nat → Cf Value}
    {kIOneSymbol : List Nat}
    (isCells : kIOneSymbol.Nodup)
    (streams : TransmitStreams Value) :
    Copied indexMatNTsX modulo symbols symbolsFlipped kIOneSymbol streams
      (kIOneSymbol.foldl
        (copyCell indexMatNTsX modulo symbols symbolsFlipped) streams) := by
  induction kIOneSymbol generalizing streams with
  | nil =>
      refine ⟨rfl, rfl, fun _ _ _ => rfl, ?_⟩
      intro position inside
      exact absurd inside (Nat.not_lt_zero position)
  | cons kI kIOneSymbol hypothesis =>
      obtain ⟨isNew, isRest⟩ := List.nodup_cons.mp isCells
      obtain ⟨isCnt, isPxxIdx, others, cells⟩ :=
        hypothesis isRest
          (copyCell indexMatNTsX modulo symbols symbolsFlipped streams kI)
      refine ⟨?_, ?_, ?_, ?_⟩
      · rw [List.foldl_cons, isCnt, List.length_cons, Nat.add_comm _ 1,
          ← Nat.add_assoc]
        rfl
      · rw [List.foldl_cons, isPxxIdx, List.length_cons, Nat.add_comm _ 1,
          ← Nat.add_assoc]
        rfl
      · intro ts k isOther
        obtain ⟨isOtherCell, isOtherRest⟩ :=
          not_or.mp (fun isMember => isOther (List.mem_cons.mpr isMember))
        rw [List.foldl_cons, others ts k isOtherRest]
        unfold copyCell store
        dsimp only
        rw [if_neg (fun both => isOtherCell both.2),
          if_neg (fun both => isOtherCell both.2)]
      · intro position inside ts
        cases position with
        | zero =>
            rw [List.foldl_cons, List.getElem_cons_zero, others ts kI isNew]
            unfold copyCell store
            simp only [and_true, Nat.add_zero]
        | succ position =>
            have inRest : position < kIOneSymbol.length :=
              Nat.lt_of_succ_lt_succ inside
            have isOther : kIOneSymbol[position] ≠ kI := by
              intro same
              exact isNew (same ▸ List.getElem_mem inRest)
            have before :
                (copyCell indexMatNTsX modulo symbols symbolsFlipped streams
                    kI).transmitStreamsStage ts kIOneSymbol[position] =
                  streams.transmitStreamsStage ts kIOneSymbol[position] := by
              unfold copyCell store
              dsimp only
              rw [if_neg (fun both => isOther both.2),
                if_neg (fun both => isOther both.2)]
            have isIdx : streams.pxxIdx + (position + 1) =
                streams.pxxIdx + 1 + position := by
              omega
            have isNext :
                streams.cnt + (position + 1) = streams.cnt + 1 + position := by
              omega
            rw [List.foldl_cons, List.getElem_cons_succ,
              cells position inRest ts, before, isIdx, isNext]
            rfl

end Cells

/--
The cells of one OFDM symbol, the transmit streams before they are written, in
which these cells are zero, and the channel from streams to antennas.
-/
structure OfdmSymbol (Value : Type) [CommRing Value] (nTs : Nat) where
  kIOneSymbol : List Nat
  isEven : kIOneSymbol.length % 2 = 0
  isCells : kIOneSymbol.Nodup
  transmitStreamsStage : Nat → Nat → Cf Value
  isZero :
    ∀ ts k, ts < nTs → k ∈ kIOneSymbol → transmitStreamsStage ts k = 0
  channel : Nat → Nat → Nat → Cf Value

section Symbol

variable
  {Value : Type}
  [Field Value]
  {nTs : Nat}

/-- All streams of an OFDM symbol at an antenna. -/
def OfdmSymbol.received
    (symbol : OfdmSymbol Value nTs)
    (transmitStreamsStage : Nat → Nat → Cf Value)
    (antIdx k : Nat) :
    Cf Value :=
  ∑ ts ∈ Finset.range nTs,
    symbol.channel antIdx ts k * transmitStreamsStage ts k

/-- Squared magnitude of both streams of a pair over all antennas. -/
def OfdmSymbol.magnitude
    (symbol : OfdmSymbol Value nTs)
    (nRx : Nat)
    (tsIndex : Nat × Nat)
    (k : Nat) :
    Cf Value :=
  ∑ antIdx ∈ Finset.range nRx,
    (symbol.channel antIdx tsIndex.1 k *
        star (symbol.channel antIdx tsIndex.1 k) +
      symbol.channel antIdx tsIndex.2 k *
        star (symbol.channel antIdx tsIndex.2 k))

/-- The channel of a pair is the same at both cells and does not vanish. -/
def OfdmSymbol.Flat
    (symbol : OfdmSymbol Value nTs)
    (nRx pxxIdx : Nat) : Prop :=
  ∀ pair (inside : 2 * pair + 1 < symbol.kIOneSymbol.length),
    let tsIndex :=
      streamsAt (indexMatOf nTs) (getModulo nTs) (pxxIdx + 2 * pair)
    (∀ antIdx, antIdx < nRx → ∀ ts, ts = tsIndex.1 ∨ ts = tsIndex.2 →
      symbol.channel antIdx ts symbol.kIOneSymbol[2 * pair] =
        symbol.channel antIdx ts symbol.kIOneSymbol[2 * pair + 1]) ∧
      symbol.magnitude nRx tsIndex symbol.kIOneSymbol[2 * pair] ≠ 0

theorem OfdmSymbol.received_eq
    (symbol : OfdmSymbol Value nTs)
    {stage : Nat → Nat → Cf Value}
    {first second antIdx k : Nat}
    {value valueFlipped : Cf Value}
    (isFirst : first < nTs)
    (isSecond : second < nTs)
    (different : first ≠ second)
    (isStage :
      ∀ ts, ts < nTs →
        stage ts k =
          if ts = second then valueFlipped
          else if ts = first then value
          else 0) :
    symbol.received stage antIdx k =
      symbol.channel antIdx first k * value +
        symbol.channel antIdx second k * valueFlipped := by
  unfold OfdmSymbol.received
  rw [Finset.sum_eq_add_of_mem first second
    (Finset.mem_range.mpr isFirst) (Finset.mem_range.mpr isSecond) different,
    isStage first isFirst, isStage second isSecond, if_neg different,
    if_pos rfl, if_pos rfl]
  intro ts isStream isOther
  rw [isStage ts (Finset.mem_range.mp isStream), if_neg isOther.2,
    if_neg isOther.1, mul_zero]

/-- Cells hold what an antenna needs to tell both symbols of a pair apart. -/
theorem OfdmSymbol.received_pair
    (symbol : OfdmSymbol Value nTs)
    (isNTs : nTs = 2 ∨ nTs = 4 ∨ nTs = 8)
    {before after : TransmitStreams Value}
    {symbols symbolsFlipped : Nat → Cf Value}
    (isBefore : before.transmitStreamsStage = symbol.transmitStreamsStage)
    (copied :
      Copied (indexMatOf nTs) (getModulo nTs) symbols symbolsFlipped
        symbol.kIOneSymbol before after)
    (antIdx : Nat)
    {position : Nat}
    (inside : position < symbol.kIOneSymbol.length) :
    let tsIndex :=
      streamsAt (indexMatOf nTs) (getModulo nTs) (before.pxxIdx + position)
    symbol.received after.transmitStreamsStage antIdx
        symbol.kIOneSymbol[position] =
      symbol.channel antIdx tsIndex.1 symbol.kIOneSymbol[position] *
          symbols (before.cnt + position) +
        symbol.channel antIdx tsIndex.2 symbol.kIOneSymbol[position] *
          symbolsFlipped (before.cnt + position) := by
  obtain ⟨isFirst, isSecond, different⟩ :=
    streamsAt_spec isNTs (before.pxxIdx + position)
  refine symbol.received_eq isFirst isSecond different ?_
  intro ts isStream
  rw [copied.cells position inside ts, isBefore,
    symbol.isZero ts _ isStream (List.getElem_mem inside)]

/-- A loop over pairs adds once at each index of a pair. -/
theorem foldl_accumulate
    (first second : Nat → Cf Value)
    (stage : Nat → Cf Value)
    (pairs : Nat) :
    let after :=
      (List.range pairs).foldl (fun stage pair =>
          accumulate (accumulate stage (2 * pair) (first pair))
            (2 * pair + 1) (second pair))
        stage
    (∀ pair, pair < pairs → after (2 * pair) = stage (2 * pair) + first pair ∧
        after (2 * pair + 1) = stage (2 * pair + 1) + second pair) ∧
      ∀ cnt, 2 * pairs ≤ cnt → after cnt = stage cnt := by
  induction pairs with
  | zero =>
      exact ⟨fun pair inside => absurd inside (Nat.not_lt_zero pair),
        fun _ _ => rfl⟩
  | succ pairs hypothesis =>
      obtain ⟨done, others⟩ := hypothesis
      dsimp only at done others ⊢
      rw [List.range_succ, List.foldl_append, List.foldl_cons, List.foldl_nil]
      generalize (List.range pairs).foldl _ stage = before at done others ⊢
      have isOther : ∀ cnt, cnt ≠ 2 * pairs → cnt ≠ 2 * pairs + 1 →
          accumulate (accumulate before (2 * pairs) (first pairs))
              (2 * pairs + 1) (second pairs) cnt =
            before cnt := by
        intro cnt notFirst notSecond
        unfold accumulate
        rw [Function.update_of_ne notSecond, Function.update_of_ne notFirst]
      refine ⟨?_, ?_⟩
      · intro pair inside
        by_cases isLast : pair = pairs
        · subst isLast
          have isFirst := others (2 * pair) le_rfl
          have isSecond := others (2 * pair + 1) (Nat.le_succ _)
          unfold accumulate
          rw [Function.update_self,
            Function.update_of_ne (Nat.succ_ne_self _).symm,
            Function.update_self,
            Function.update_of_ne (Nat.succ_ne_self _), isFirst, isSecond]
          exact ⟨rfl, rfl⟩
        · rw [isOther _ (by omega) (by omega), isOther _ (by omega) (by omega)]
          exact done pair (by omega)
      · intro cnt behind
        rw [isOther cnt (by omega) (by omega)]
        exact others cnt (by omega)

/-- Dividing undoes a product. -/
theorem vecDivide_mul
    {weight value : Cf Value}
    (isReal : weight.im = 0)
    (notZero : weight ≠ 0) :
    vecDivide (weight * value) weight = value := by
  have notZeroReal : weight.re ≠ 0 := by
    intro isZero
    exact notZero (QuadraticAlgebra.ext isZero isReal)
  unfold vecDivide
  ext
  · simp [isReal]
    field_simp
  · simp [isReal]
    field_simp

theorem OfdmSymbol.magnitude_im
    (symbol : OfdmSymbol Value nTs)
    (nRx : Nat)
    (tsIndex : Nat × Nat)
    (k : Nat) :
    (symbol.magnitude nRx tsIndex k).im = 0 := by
  unfold OfdmSymbol.magnitude
  refine Finset.sum_induction _ (fun z : Cf Value => z.im = 0) ?_ rfl ?_
  · intro x y isReal isRealToo
    rw [QuadraticAlgebra.im_add, isReal, isRealToo, add_zero]
  · intro antIdx _
    simp
    ring

theorem foldl_collectPair
    (products : Nat → Cf Value × Cf Value × Cf Value)
    (stages : RxStages Value)
    {pairs pair : Nat}
    (isPair : pair < pairs) :
    let after := (List.range pairs).foldl (collectPair products) stages
    (after.mixerStage (2 * pair) =
        stages.mixerStage (2 * pair) + (products (2 * pair)).1 ∧
        after.mixerStage (2 * pair + 1) =
          stages.mixerStage (2 * pair + 1) + (products (2 * pair)).2.1) ∧
      after.fftStage (2 * pair) =
          stages.fftStage (2 * pair) + (products (2 * pair)).2.2 ∧
        after.fftStage (2 * pair + 1) =
          stages.fftStage (2 * pair + 1) + (products (2 * pair)).2.2 := by
  have isMixer :=
    @List.foldl_hom _ _ _ RxStages.mixerStage (collectPair products)
      (fun stage pair =>
        accumulate (accumulate stage (2 * pair) (products (2 * pair)).1)
          (2 * pair + 1) (products (2 * pair)).2.1)
      (List.range pairs) stages (fun _ _ => rfl)
  have isFft :=
    @List.foldl_hom _ _ _ RxStages.fftStage (collectPair products)
      (fun stage pair =>
        accumulate (accumulate stage (2 * pair) (products (2 * pair)).2.2)
          (2 * pair + 1) (products (2 * pair)).2.2)
      (List.range pairs) stages (fun _ _ => rfl)
  dsimp only
  rw [← isMixer, ← isFft]
  exact ⟨(foldl_accumulate (fun pair => (products (2 * pair)).1)
      (fun pair => (products (2 * pair)).2.1) stages.mixerStage
      pairs).1 pair isPair,
    (foldl_accumulate (fun pair => (products (2 * pair)).2.2)
      (fun pair => (products (2 * pair)).2.2) stages.fftStage
      pairs).1 pair isPair⟩

theorem foldl_antennas
    (products : Nat → Nat → Cf Value × Cf Value × Cf Value)
    (stages : RxStages Value)
    (nRx : Nat)
    {pairs pair : Nat}
    (isPair : pair < pairs) :
    let after :=
      (List.range nRx).foldl (fun stages antIdx =>
          (List.range pairs).foldl (collectPair (products antIdx)) stages)
        stages
    let antennas := Finset.range nRx
    (after.mixerStage (2 * pair) = stages.mixerStage (2 * pair) +
        ∑ antIdx ∈ antennas, (products antIdx (2 * pair)).1 ∧
        after.mixerStage (2 * pair + 1) = stages.mixerStage (2 * pair + 1) +
            ∑ antIdx ∈ antennas, (products antIdx (2 * pair)).2.1) ∧
      after.fftStage (2 * pair) = stages.fftStage (2 * pair) +
          ∑ antIdx ∈ antennas, (products antIdx (2 * pair)).2.2 ∧
        after.fftStage (2 * pair + 1) = stages.fftStage (2 * pair + 1) +
            ∑ antIdx ∈ antennas, (products antIdx (2 * pair)).2.2 := by
  induction nRx with
  | zero =>
      dsimp only
      rw [Finset.range_zero, Finset.sum_empty, Finset.sum_empty,
        Finset.sum_empty, add_zero, add_zero, add_zero, add_zero]
      exact ⟨⟨rfl, rfl⟩, rfl, rfl⟩
  | succ nRx hypothesis =>
      obtain ⟨⟨isMixer, isMixerNext⟩, isFft, isFftNext⟩ := hypothesis
      dsimp only at isMixer isMixerNext isFft isFftNext ⊢
      rw [List.range_succ, List.foldl_append, List.foldl_cons, List.foldl_nil]
      generalize (List.range nRx).foldl _ stages = before at *
      obtain ⟨⟨added, addedNext⟩, addedFft, addedFftNext⟩ :=
        foldl_collectPair (products nRx) before isPair
      rw [added, addedNext, addedFft, addedFftNext, isMixer, isMixerNext,
        isFft, isFftNext, Finset.sum_range_succ, Finset.sum_range_succ,
        Finset.sum_range_succ, add_assoc, add_assoc, add_assoc, add_assoc]
      exact ⟨⟨rfl, rfl⟩, rfl, rfl⟩

variable [CharZero Value]

theorem average_self (x : Cf Value) :
    average x x = x := by
  unfold average
  ext
  · simp
    ring
  · simp
    ring

theorem OfdmSymbol.pairProducts_eq
    (symbol : OfdmSymbol Value nTs)
    {indexMatNTsX : List (Nat × Nat)}
    {modulo antIdx pxxIdx cnt : Nat}
    (inside : cnt + 1 < symbol.kIOneSymbol.length)
    {yMrc : Nat → Cf Value}
    {h0 h1 s0 s1 : Cf Value}
    (isChannel :
      let tsIndex := streamsAt indexMatNTsX modulo (pxxIdx + cnt)
      symbol.channel antIdx tsIndex.1 symbol.kIOneSymbol[cnt] = h0 ∧
        symbol.channel antIdx tsIndex.1 symbol.kIOneSymbol[cnt + 1] = h0 ∧
        symbol.channel antIdx tsIndex.2 symbol.kIOneSymbol[cnt] = h1 ∧
        symbol.channel antIdx tsIndex.2 symbol.kIOneSymbol[cnt + 1] = h1)
    (isR0 : yMrc symbol.kIOneSymbol[cnt] = h0 * s0 + h1 * -star s1)
    (isR1 : yMrc symbol.kIOneSymbol[cnt + 1] = h0 * s1 + h1 * star s0) :
    pairProducts indexMatNTsX modulo yMrc (symbol.channel antIdx)
        symbol.kIOneSymbol pxxIdx cnt =
      ((h0 * star h0 + h1 * star h1) * s0,
        (h0 * star h0 + h1 * star h1) * s1,
        h0 * star h0 + h1 * star h1) := by
  obtain ⟨isH0, isH0Next, isH1, isH1Next⟩ := isChannel
  unfold pairProducts
  rw [List.getElem?_eq_getElem inside,
    List.getElem?_eq_getElem (Nat.lt_of_succ_lt inside)]
  dsimp only [Option.getD_some]
  rw [isH0, isH0Next, isH1, isH1Next, average_self, average_self, isR0, isR1,
    combine_first, combine_second]

/-- Symbols of one OFDM symbol are received as they were sent. -/
theorem OfdmSymbol.collect_eq
    (symbol : OfdmSymbol Value nTs)
    (isNTs : nTs = 2 ∨ nTs = 4 ∨ nTs = 8)
    {nRx : Nat}
    {before after : TransmitStreams Value}
    {symbols symbolsFlipped : Nat → Cf Value}
    (isBefore : before.transmitStreamsStage = symbol.transmitStreamsStage)
    (isEvenIdx : before.pxxIdx % 2 = 0)
    (flat : symbol.Flat nRx before.pxxIdx)
    (isFlipped :
      ∀ pair, 2 * pair + 1 < symbol.kIOneSymbol.length →
        symbolsFlipped (before.cnt + 2 * pair) =
            -star (symbols (before.cnt + (2 * pair + 1))) ∧
          symbolsFlipped (before.cnt + (2 * pair + 1)) =
            star (symbols (before.cnt + 2 * pair)))
    (copied :
      Copied (indexMatOf nTs) (getModulo nTs) symbols symbolsFlipped
        symbol.kIOneSymbol before after)
    (stages : RxStages Value) :
    collect nTs nRx (symbol.received after.transmitStreamsStage)
        symbol.channel symbol.kIOneSymbol before.pxxIdx stages =
      .ok
        ((List.range symbol.kIOneSymbol.length).map fun position =>
          symbols (before.cnt + position)) := by
  have isEven := symbol.isEven
  -- every antenna adds the same two symbols with a weight of its own
  have products :
      ∀ pair (inside : 2 * pair + 1 < symbol.kIOneSymbol.length) antIdx,
        antIdx < nRx →
          let tsIndex :=
            streamsAt (indexMatOf nTs) (getModulo nTs)
              (before.pxxIdx + 2 * pair)
          let h0 :=
            symbol.channel antIdx tsIndex.1 symbol.kIOneSymbol[2 * pair]
          let h1 :=
            symbol.channel antIdx tsIndex.2 symbol.kIOneSymbol[2 * pair]
          pairProducts (indexMatOf nTs) (getModulo nTs)
              (symbol.received after.transmitStreamsStage antIdx)
              (symbol.channel antIdx) symbol.kIOneSymbol before.pxxIdx
              (2 * pair) =
            ((h0 * star h0 + h1 * star h1) * symbols (before.cnt + 2 * pair),
              (h0 * star h0 + h1 * star h1) *
                symbols (before.cnt + (2 * pair + 1)),
              h0 * star h0 + h1 * star h1) := by
    intro pair inside antIdx isAntenna
    obtain ⟨same, -⟩ := flat pair inside
    obtain ⟨isFirst, isSecond⟩ := isFlipped pair inside
    have r0 :=
      symbol.received_pair isNTs isBefore copied antIdx
        (Nat.lt_of_succ_lt inside)
    have r1 := symbol.received_pair isNTs isBefore copied antIdx inside
    have isPair : streamsAt (indexMatOf nTs) (getModulo nTs)
        (before.pxxIdx + (2 * pair + 1)) =
          streamsAt (indexMatOf nTs) (getModulo nTs)
            (before.pxxIdx + 2 * pair) := by
      rw [← Nat.add_assoc]
      exact streamsAt_succ (by omega)
    dsimp only at r0 r1
    rw [isFirst] at r0
    rw [isPair, isSecond, ← same antIdx isAntenna _ (Or.inl rfl),
      ← same antIdx isAntenna _ (Or.inr rfl)] at r1
    exact symbol.pairProducts_eq inside
      ⟨rfl, (same antIdx isAntenna _ (Or.inl rfl)).symm, rfl,
        (same antIdx isAntenna _ (Or.inr rfl)).symm⟩ r0 r1
  have isAsserted : (symbol.kIOneSymbol.length % 2 == 0) = true :=
    beq_iff_eq.mpr isEven
  unfold collect runPxxModeTransmitDiversity
  rw [getIndexMatNTsX_eq isNTs, isAsserted]
  simp only [Checked.ok_bind, dectnrpAssert_true, pure, Except.pure]
  refine congrArg Except.ok (List.map_congr_left ?_)
  intro position isPosition
  have isCell := List.mem_range.mp isPosition
  rw [if_pos isCell]
  obtain ⟨pair, isPosition⟩ :
      ∃ pair, position = 2 * pair ∨ position = 2 * pair + 1 :=
    ⟨position / 2, by omega⟩
  have isPair : pair < symbol.kIOneSymbol.length / 2 := by omega
  have inside : 2 * pair + 1 < symbol.kIOneSymbol.length := by omega
  obtain ⟨⟨isFirst, isSecond⟩, isFft, isFftNext⟩ :=
    foldl_antennas (fun antIdx =>
        pairProducts (indexMatOf nTs) (getModulo nTs)
          (symbol.received after.transmitStreamsStage antIdx)
          (symbol.channel antIdx) symbol.kIOneSymbol before.pxxIdx)
      { mixerStage :=
          Tx.vecCfZero stages.mixerStage symbol.kIOneSymbol.length
        fftStage := Tx.vecCfZero stages.fftStage symbol.kIOneSymbol.length }
      nRx isPair
  have isReal :=
    symbol.magnitude_im nRx
      (streamsAt (indexMatOf nTs) (getModulo nTs) (before.pxxIdx + 2 * pair))
      symbol.kIOneSymbol[2 * pair]
  have notZero := (flat pair inside).2
  dsimp only at isFirst isSecond isFft isFftNext
  rw [Finset.sum_congr rfl fun antIdx isAntenna => congrArg Prod.fst
      (products pair inside antIdx (Finset.mem_range.mp isAntenna)),
    ← Finset.sum_mul] at isFirst
  rw [Finset.sum_congr rfl fun antIdx isAntenna =>
      congrArg (fun product => product.2.1)
        (products pair inside antIdx (Finset.mem_range.mp isAntenna)),
    ← Finset.sum_mul] at isSecond
  rw [Finset.sum_congr rfl fun antIdx isAntenna =>
      congrArg (fun product => product.2.2)
        (products pair inside antIdx (Finset.mem_range.mp isAntenna))]
    at isFft isFftNext
  have isZero : ∀ (vec : Nat → Cf Value) cnt, cnt < symbol.kIOneSymbol.length →
      Tx.vecCfZero vec symbol.kIOneSymbol.length cnt = 0 :=
    fun _ _ isCell => if_pos isCell
  rw [isZero _ _ (Nat.lt_of_succ_lt inside), zero_add] at isFirst isFft
  rw [isZero _ _ inside, zero_add] at isSecond isFftNext
  rcases isPosition with rfl | rfl
  · rw [isFirst, isFft]
    exact vecDivide_mul isReal notZero
  · rw [isSecond, isFftNext]
    exact vecDivide_mul isReal notZero

end Symbol

/-- Running cell indices at both sides, and the symbols received so far. -/
structure Link (Value : Type) [CommRing Value] where
  txIdx : Nat
  rxIdx : Nat
  symbols : List (Cf Value)

section Packet

variable
  {Value : Type}
  [Field Value]
  {nTs : Nat}

/-- Control channel of one OFDM symbol, sent and received. -/
def linkPcc
    (nRx : Nat)
    (pccQpskSymbols : List (Cf Value))
    (pccQpskSymbolsFlipped : Nat → Cf Value)
    (stages : RxStages Value)
    (link : Link Value)
    (symbol : OfdmSymbol Value nTs) :
    Checked (Link Value) := do
  let qpskSymbols := fun i => pccQpskSymbols[i]?.getD 0
  let streams ←
    runPcc nTs qpskSymbols
      (flipPairs qpskSymbols pccQpskSymbols.length pccQpskSymbolsFlipped)
      symbol.kIOneSymbol symbol.transmitStreamsStage link.txIdx
  let symbols ←
    collect nTs nRx (symbol.received streams.transmitStreamsStage)
      symbol.channel symbol.kIOneSymbol link.rxIdx stages
  pure
    { txIdx := streams.pxxIdx
      rxIdx := link.rxIdx + symbol.kIOneSymbol.length
      symbols := link.symbols ++ symbols }

/-- Data channel of one OFDM symbol with its symbols, sent and received. -/
def linkPdc
    (nRx : Nat)
    (pdcCmplxSymbolsFlipped : Nat → Cf Value)
    (stages : RxStages Value)
    (link : Link Value)
    (sent : OfdmSymbol Value nTs × (Nat → Cf Value)) :
    Checked (Link Value) := do
  let (symbol, pdcCmplxSymbols) := sent
  let streams ←
    runPdcTransmitDiversity nTs pdcCmplxSymbols pdcCmplxSymbolsFlipped
      symbol.kIOneSymbol symbol.transmitStreamsStage link.txIdx
  let symbols ←
    collect nTs nRx (symbol.received streams.transmitStreamsStage)
      symbol.channel symbol.kIOneSymbol link.rxIdx stages
  pure
    { txIdx := streams.pxxIdx
      rxIdx := link.rxIdx + symbol.kIOneSymbol.length
      symbols := link.symbols ++ symbols }

/-- Number of cells of some OFDM symbols. -/
def nofCells (symbols : List (OfdmSymbol Value nTs)) : Nat :=
  (symbols.map fun symbol => symbol.kIOneSymbol.length).sum

/-- Every OFDM symbol has a flat channel for the streams of its pairs. -/
def FlatFrom (nRx : Nat) : Nat → List (OfdmSymbol Value nTs) → Prop
  | _, [] => True
  | pxxIdx, symbol :: symbols =>
      symbol.Flat nRx pxxIdx ∧
        FlatFrom nRx (pxxIdx + symbol.kIOneSymbol.length) symbols

variable [CharZero Value]

theorem linkPcc_spec
    (isNTs : nTs = 2 ∨ nTs = 4 ∨ nTs = 8)
    {nRx : Nat}
    {pccQpskSymbols : List (Cf Value)}
    {pccQpskSymbolsFlipped : Nat → Cf Value}
    {stages : RxStages Value}
    {symbol : OfdmSymbol Value nTs}
    {pccIdx : Nat}
    {symbols : List (Cf Value)}
    (isEvenIdx : pccIdx % 2 = 0)
    (flat : symbol.Flat nRx pccIdx)
    (fits : pccIdx + symbol.kIOneSymbol.length ≤ pccQpskSymbols.length) :
    linkPcc nRx pccQpskSymbols pccQpskSymbolsFlipped stages
        ⟨pccIdx, pccIdx, symbols⟩ symbol =
      .ok
        ⟨pccIdx + symbol.kIOneSymbol.length,
          pccIdx + symbol.kIOneSymbol.length,
          symbols ++
            (pccQpskSymbols.drop pccIdx).take symbol.kIOneSymbol.length⟩ := by
  have severalStreams : nTs ≠ 1 := by omega
  have copied :=
    @foldl_copyCell Value _ (indexMatOf nTs) (getModulo nTs)
      (fun i => pccQpskSymbols[i]?.getD 0)
      (flipPairs (fun i => pccQpskSymbols[i]?.getD 0)
        pccQpskSymbols.length pccQpskSymbolsFlipped)
      symbol.kIOneSymbol symbol.isCells
      ⟨symbol.transmitStreamsStage, pccIdx, pccIdx⟩
  have isCollected :=
    @OfdmSymbol.collect_eq Value _ nTs _ symbol isNTs nRx _ _ _ _ rfl
      isEvenIdx flat
      (fun _ inside =>
        flipPairs_pair isEvenIdx
          (lt_of_lt_of_le (Nat.add_lt_add_left inside pccIdx) fits))
      copied stages
  have isPiece : ((List.range symbol.kIOneSymbol.length).map fun position =>
      pccQpskSymbols[pccIdx + position]?.getD 0) =
        (pccQpskSymbols.drop pccIdx).take symbol.kIOneSymbol.length := by
    apply List.ext_getElem
    · rw [List.length_map, List.length_range, List.length_take,
        List.length_drop]
      omega
    · intro position isPosition _
      rw [List.length_map, List.length_range] at isPosition
      rw [List.getElem_map, List.getElem_range, List.getElem_take,
        List.getElem_drop, List.getElem?_eq_getElem (by omega)]
      rfl
  unfold linkPcc runPcc
  dsimp only
  rw [if_neg severalStreams, getIndexMatNTsX_eq isNTs]
  simp only [Checked.ok_bind, pure, Except.pure]
  rw [isCollected, copied.isPxxIdx, isPiece]
  rfl

theorem linkPdc_spec
    (isNTs : nTs = 2 ∨ nTs = 4 ∨ nTs = 8)
    {nRx : Nat}
    {pdcCmplxSymbols pdcCmplxSymbolsFlipped : Nat → Cf Value}
    {stages : RxStages Value}
    {symbol : OfdmSymbol Value nTs}
    {pdcSubcIdx : Nat}
    {symbols : List (Cf Value)}
    (isEvenIdx : pdcSubcIdx % 2 = 0)
    (flat : symbol.Flat nRx pdcSubcIdx) :
    linkPdc nRx pdcCmplxSymbolsFlipped stages
        ⟨pdcSubcIdx, pdcSubcIdx, symbols⟩ (symbol, pdcCmplxSymbols) =
      .ok
        ⟨pdcSubcIdx + symbol.kIOneSymbol.length,
          pdcSubcIdx + symbol.kIOneSymbol.length,
          symbols ++
            (List.range symbol.kIOneSymbol.length).map pdcCmplxSymbols⟩ := by
  have copied :=
    @foldl_copyCell Value _ (indexMatOf nTs) (getModulo nTs) pdcCmplxSymbols
      (flipPairs pdcCmplxSymbols symbol.kIOneSymbol.length
        pdcCmplxSymbolsFlipped)
      symbol.kIOneSymbol symbol.isCells
      ⟨symbol.transmitStreamsStage, 0, pdcSubcIdx⟩
  have isCollected :=
    @OfdmSymbol.collect_eq Value _ nTs _ symbol isNTs nRx _ _ _ _ rfl
      isEvenIdx flat
      (fun _ inside =>
        flipPairs_pair rfl (lt_of_eq_of_lt (Nat.zero_add _) inside))
      copied stages
  simp only [Nat.zero_add] at isCollected
  unfold linkPdc runPdcTransmitDiversity
  rw [getIndexMatNTsX_eq isNTs]
  simp only [Checked.ok_bind, pure, Except.pure]
  rw [isCollected, copied.isPxxIdx]
  rfl

variable
  {stages : RxStages Value}
  {symbols : List (Cf Value)}

theorem linkPcc_packet
    (isNTs : nTs = 2 ∨ nTs = 4 ∨ nTs = 8)
    {nRx : Nat}
    {pccQpskSymbols : List (Cf Value)}
    {pccQpskSymbolsFlipped : Nat → Cf Value}
    (ofdmSymbols : List (OfdmSymbol Value nTs))
    {pccIdx : Nat}
    (isEvenIdx : pccIdx % 2 = 0)
    (flat : FlatFrom nRx pccIdx ofdmSymbols)
    (fits : pccIdx + nofCells ofdmSymbols ≤ pccQpskSymbols.length) :
    ofdmSymbols.foldlM
        (linkPcc nRx pccQpskSymbols pccQpskSymbolsFlipped stages)
        ⟨pccIdx, pccIdx, symbols⟩ =
      .ok
        ⟨pccIdx + nofCells ofdmSymbols, pccIdx + nofCells ofdmSymbols,
          symbols ++
            (pccQpskSymbols.drop pccIdx).take (nofCells ofdmSymbols)⟩ := by
  induction ofdmSymbols generalizing pccIdx symbols with
  | nil =>
      have isNone : (pccQpskSymbols.drop pccIdx).take
          (nofCells ([] : List (OfdmSymbol Value nTs))) = [] :=
        List.take_zero
      rw [List.foldlM_nil, isNone, List.append_nil]
      rfl
  | cons symbol ofdmSymbols hypothesis =>
      have isEven := symbol.isEven
      have isSum : nofCells (symbol :: ofdmSymbols) =
          symbol.kIOneSymbol.length + nofCells ofdmSymbols :=
        rfl
      rw [isSum, ← Nat.add_assoc] at fits
      have isFirst :=
        @linkPcc_spec Value _ nTs _ isNTs nRx pccQpskSymbols
          pccQpskSymbolsFlipped stages symbol pccIdx symbols isEvenIdx
          flat.1 (le_trans (Nat.le_add_right _ _) fits)
      rw [List.foldlM_cons, isFirst, Checked.ok_bind,
        hypothesis (by omega) flat.2 fits, isSum, ← Nat.add_assoc,
        List.append_assoc, ← List.drop_drop, ← List.take_add]

theorem linkPdc_packet
    (isNTs : nTs = 2 ∨ nTs = 4 ∨ nTs = 8)
    {nRx : Nat}
    {pdcCmplxSymbolsFlipped : Nat → Cf Value}
    (sent : List (OfdmSymbol Value nTs × (Nat → Cf Value)))
    {pdcSubcIdx : Nat}
    (isEvenIdx : pdcSubcIdx % 2 = 0)
    (flat : FlatFrom nRx pdcSubcIdx (sent.map Prod.fst)) :
    sent.foldlM (linkPdc nRx pdcCmplxSymbolsFlipped stages)
        ⟨pdcSubcIdx, pdcSubcIdx, symbols⟩ =
      .ok
        ⟨pdcSubcIdx + nofCells (sent.map Prod.fst),
          pdcSubcIdx + nofCells (sent.map Prod.fst),
          symbols ++
            sent.flatMap fun (symbol, pdcCmplxSymbols) =>
              (List.range symbol.kIOneSymbol.length).map pdcCmplxSymbols⟩ := by
  induction sent generalizing pdcSubcIdx symbols with
  | nil =>
      rw [List.foldlM_nil, List.flatMap_nil, List.append_nil]
      rfl
  | cons symbolSent sent hypothesis =>
      obtain ⟨symbol, pdcCmplxSymbols⟩ := symbolSent
      have isEven := symbol.isEven
      have isSum :
          nofCells (((symbol, pdcCmplxSymbols) :: sent).map Prod.fst) =
            symbol.kIOneSymbol.length + nofCells (sent.map Prod.fst) :=
        rfl
      have isEvenNext : (pdcSubcIdx + symbol.kIOneSymbol.length) % 2 = 0 := by
        omega
      have isFirst :=
        @linkPdc_spec Value _ nTs _ isNTs nRx pdcCmplxSymbols
          pdcCmplxSymbolsFlipped stages symbol pdcSubcIdx symbols isEvenIdx
          flat.1
      rw [List.foldlM_cons, isFirst, Checked.ok_bind,
        hypothesis isEvenNext flat.2, isSum, ← Nat.add_assoc,
        List.append_assoc, List.flatMap_cons]

/--
Both channels are received as they were sent, whatever the number of antennas
and OFDM symbols, and both sides stay at the same cell of the packet.
-/
theorem transmitDiversity_inverts
    (isNTs : nTs = 2 ∨ nTs = 4 ∨ nTs = 8)
    {nRx : Nat}
    (stages : RxStages Value)
    (pccQpskSymbols : List (Cf Value))
    (pccQpskSymbolsFlipped : Nat → Cf Value)
    (pccSymbols : List (OfdmSymbol Value nTs))
    (pccFits : nofCells pccSymbols ≤ pccQpskSymbols.length)
    (pccFlat : FlatFrom nRx 0 pccSymbols)
    (pdcSent : List (OfdmSymbol Value nTs × (Nat → Cf Value)))
    (pdcCmplxSymbolsFlipped : Nat → Cf Value)
    (pdcFlat : FlatFrom nRx 0 (pdcSent.map Prod.fst)) :
    (∃ link,
      pccSymbols.foldlM
          (linkPcc nRx pccQpskSymbols pccQpskSymbolsFlipped stages)
          ⟨0, 0, []⟩ = .ok link ∧
        link.symbols = pccQpskSymbols.take (nofCells pccSymbols) ∧
        link.txIdx = nofCells pccSymbols ∧
        link.rxIdx = link.txIdx) ∧
      ∃ link,
        pdcSent.foldlM (linkPdc nRx pdcCmplxSymbolsFlipped stages)
            ⟨0, 0, []⟩ = .ok link ∧
          link.symbols =
            (pdcSent.flatMap fun (symbol, pdcCmplxSymbols) =>
              (List.range symbol.kIOneSymbol.length).map
                pdcCmplxSymbols) ∧
          link.txIdx = nofCells (pdcSent.map Prod.fst) ∧
          link.rxIdx = link.txIdx := by
  refine ⟨⟨_, linkPcc_packet isNTs pccSymbols rfl pccFlat ?_, ?_, ?_, rfl⟩,
    _, linkPdc_packet isNTs pdcSent rfl pdcFlat, ?_, ?_, rfl⟩
  · rw [Nat.zero_add]
    exact pccFits
  · rw [List.drop_zero, List.nil_append]
  · rw [Nat.zero_add]
  · rw [List.nil_append]
  · rw [Nat.zero_add]

/-- Two cells through four streams to one antenna. -/
def twoCells : OfdmSymbol Rat 4 where
  kIOneSymbol := [3, 7]
  isEven := rfl
  isCells := by decide
  transmitStreamsStage := fun _ _ => 0
  isZero := fun _ _ _ _ => rfl
  channel := fun _ ts _ => if ts % 2 = 0 then ⟨0, 2⟩ else ⟨3, ts⟩

/-- The second symbol is sent through the other two streams. -/
theorem twoCells_flat :
    FlatFrom 1 0 [twoCells, twoCells] := by
  have notZero : ∀ tsIndex ∈ [(0, 1), (2, 3)],
      (twoCells.magnitude 1 tsIndex 3).re ≠ 0 := by
    decide +kernel
  refine ⟨?_, ?_, trivial⟩
  all_goals
    intro pair inside
    have isFirst : pair = 0 := by
      change 2 * pair + 1 < 2 at inside
      omega
    subst isFirst
    refine ⟨fun _ _ _ _ => rfl, ?_⟩
    intro isZero
    exact notZero _ (by decide) (congrArg QuadraticAlgebra.re isZero)

theorem transmitDiversity_inverts_twoSymbols :
    ∃ pcc pdc : Link Rat,
      [twoCells, twoCells].foldlM
          (linkPcc 1 [⟨1, 1⟩, ⟨-1, 1⟩, ⟨1, -1⟩, ⟨-1, -1⟩] (fun _ => 0)
            ⟨fun _ => 0, fun _ => 0⟩) ⟨0, 0, []⟩ = .ok pcc ∧
        pcc.symbols = [⟨1, 1⟩, ⟨-1, 1⟩, ⟨1, -1⟩, ⟨-1, -1⟩] ∧
        [(twoCells, fun i : Nat => (⟨i, 5⟩ : Cf Rat)),
            (twoCells, fun i => ⟨i, 9⟩)].foldlM
          (linkPdc 1 (fun _ => 0) ⟨fun _ => 0, fun _ => 0⟩) ⟨0, 0, []⟩ =
            .ok pdc ∧
        pdc.symbols = [⟨0, 5⟩, ⟨1, 5⟩, ⟨0, 9⟩, ⟨1, 9⟩] := by
  obtain ⟨⟨pcc, isPcc, pccSymbols, -, -⟩, pdc, isPdc, pdcSymbols, -, -⟩ :=
    @transmitDiversity_inverts Rat _ 4 _ (.inr (.inl rfl)) 1
      ⟨fun _ => 0, fun _ => 0⟩ [⟨1, 1⟩, ⟨-1, 1⟩, ⟨1, -1⟩, ⟨-1, -1⟩]
      (fun _ => 0) [twoCells, twoCells] le_rfl twoCells_flat
      [(twoCells, fun i => ⟨i, 5⟩), (twoCells, fun i => ⟨i, 9⟩)]
      (fun _ => 0) twoCells_flat
  exact ⟨pcc, pdc, isPcc, pccSymbols, isPdc, pdcSymbols⟩

end Packet

end TransmitDiversity

end DectNrp
