import DectNrp.FetchAhead
import DectNrp.ModulateBytes
import DectNrp.PdcEncodeParts
import DectNrp.PdcRows
import DectNrp.TransmitDiversity

namespace DectNrp

open FetchAhead

/-!
# Mapping coded bits to data cells

Coded bits are fetched symbol by symbol in multiples of twenty-four, which are
whole octets and whole symbols of every modulation.  What a symbol does not
need is left for the next one, and the last bits of a packet are fetched as
they are.
-/

open TransportBlockSize (ceilDivideInteger)
open Checked (ok_bind pure_eq_ok)

/-- Octets of a memory as numbers. -/
def Memory.octets (memory : Memory) : Nat → Nat :=
  fun index => (memory index).toNat

theorem Memory.octets_lt
    (memory : Memory)
    (index : Nat) :
    memory.octets index < 256 :=
  (memory index).toNat_lt

/-- The same bits are packed in both views of a memory. -/
theorem Memory.bitAt_octets
    (memory : Memory)
    (index : Nat) :
    ModemTable.bitAt memory.octets index = (memory.bitAt index).toNat := by
  unfold ModemTable.bitAt Memory.bitAt octetBit Memory.octets
  rw [Nat.testBit_eq_decide_div_mod_eq]
  rcases Nat.mod_two_eq_zero_or_one
    ((memory (index / 8)).toNat / 2 ^ (7 - index % 8)) with isZero | isOne
  · rw [isZero]
    rfl
  · rw [isOne]
    rfl

namespace Tx

open TransmitDiversity

section

variable
  {Value : Type}
  [CommRing Value]
  {TxBuffer Parity : Type}

/-- Difference of two words of 32 bits. -/
def wordSub (x y : Nat) : Nat :=
  (x + 2 ^ 32 - y) % 2 ^ 32

theorem wordSub_eq
    {x y : Nat}
    (notLess : y ≤ x)
    (small : x < 2 ^ 32) :
    wordSub x y = x - y := by
  unfold wordSub
  omega

/-- Settings that stay the same for a packet. -/
structure PdcSettings
    (Value : Type)
    [CommRing Value]
    (TxBuffer Parity : Type) where
  srsranModemTableEffective : ModemTable (Cf Value)
  library : TurboEncoder TxBuffer Parity
  maxCb : Nat
  srsranCbsegm : CbSegm
  nSs : Nat
  nTs : Nat
  transmitDiversityMode : Bool
  nBps : Nat
  rv : Nat
  G : Nat
  /-- Octets of the transport block. -/
  a : Memory
  /-- Bound on the number of code blocks of one call. -/
  fuel : Nat

/-- Encoder, symbols that are left, and counters of a packet. -/
structure PdcMapper
    (Value : Type)
    [CommRing Value]
    (TxBuffer Parity : Type) where
  fec : PdcEncoderState TxBuffer Parity
  pdcCmplxSymbols : Nat → Cf Value
  pdcCmplxSymbolsFlipped : Nat → Cf Value
  pdcNofCmplxSubcResidual : Nat
  pdcBitsIdx : Nat
  pdcSubcIdx : Nat

/-- Symbols of one subcarrier are written to all spatial streams. -/
def demultiplexCell
    (nSs : Nat)
    (pdcCmplxSymbols : Nat → Cf Value)
    (streams : TransmitStreams Value)
    (kI : Nat) :
    TransmitStreams Value :=
  (List.range nSs).foldl
    (fun streams j =>
      { streams with
        transmitStreamsStage :=
          store streams.transmitStreamsStage j kI
            (pdcCmplxSymbols streams.cnt)
        cnt := streams.cnt + 1 })
    streams

/-- Spatial demultiplexing into the transmit streams. -/
def runPdcSpatialDemultiplexing
    (nSs : Nat)
    (pdcCmplxSymbols : Nat → Cf Value)
    (kIOneSymbol : List Nat)
    (transmitStreamsStage : Nat → Nat → Cf Value)
    (pdcSubcIdx : Nat) :
    Checked (TransmitStreams Value) := do
  let streams :=
    kIOneSymbol.foldl (demultiplexCell nSs pdcCmplxSymbols)
      ⟨transmitStreamsStage, 0, pdcSubcIdx⟩
  dectnrpAssert (streams.cnt % nSs == 0)
    "not a multiple of N_SS many complex symbols written"
  pure { streams with pxxIdx := pdcSubcIdx + streams.cnt }

/-- Place the symbols at the front of the buffer. -/
def placePdc
    (settings : PdcSettings Value TxBuffer Parity)
    (pdcCmplxSymbols pdcCmplxSymbolsFlipped : Nat → Cf Value)
    (kIOneSymbol : List Nat)
    (transmitStreamsStage : Nat → Nat → Cf Value)
    (pdcSubcIdx : Nat) :
    Checked (TransmitStreams Value) :=
  if settings.transmitDiversityMode then
    runPdcTransmitDiversity settings.nTs pdcCmplxSymbols
      pdcCmplxSymbolsFlipped kIOneSymbol transmitStreamsStage pdcSubcIdx
  else
    runPdcSpatialDemultiplexing settings.nSs pdcCmplxSymbols kIOneSymbol
      transmitStreamsStage pdcSubcIdx

/-- Symbols are written to the buffer behind those that were left. -/
def appendSymbols
    (pdcCmplxSymbols : Nat → Cf Value)
    (residual : Nat)
    (symbols : List (Cf Value)) :
    Nat → Cf Value :=
  fun index =>
    if residual ≤ index then
      symbols[index - residual]?.getD (pdcCmplxSymbols index)
    else
      pdcCmplxSymbols index

/-- Symbols that are left are moved to the front of the buffer. -/
def moveToFront
    (pdcCmplxSymbols : Nat → Cf Value)
    (nofCmplxSubc residual : Nat) :
    Nat → Cf Value :=
  fun index =>
    if index < residual then
      pdcCmplxSymbols (nofCmplxSubc + index)
    else
      pdcCmplxSymbols index

/-- A call for one symbol: what it read and wrote, and the states around it. -/
structure PdcCall
    (Value : Type)
    [CommRing Value]
    (TxBuffer Parity : Type) where
  before : PdcMapper Value TxBuffer Parity
  after : PdcMapper Value TxBuffer Parity
  kIOneSymbol : List Nat
  nofCmplxSubc : Nat
  nofBitsProcessable : Nat
  /-- Number of coded bits that the encoder was asked for. -/
  nofBitsMinimum : Nat
  nofNewComplexSubc : Nat
  transmitStreamsStage : Nat → Nat → Cf Value

/-- Fill the data cells of one symbol; `none` if the fuel runs out. -/
def runPdc
    (settings : PdcSettings Value TxBuffer Parity)
    (kIOneSymbol : List Nat)
    (transmitStreamsStage : Nat → Nat → Cf Value)
    (mapper : PdcMapper Value TxBuffer Parity) :
    Checked (Option (PdcCall Value TxBuffer Parity)) := do
  let nofCmplxSubc := settings.nSs * kIOneSymbol.length
  let nofCmplxSubcNew := wordSub nofCmplxSubc mapper.pdcNofCmplxSubcResidual
  let nofBitsNew := nofCmplxSubcNew * settings.nBps % 2 ^ 32
  let nofBitsNew24 := ceilDivideInteger nofBitsNew 24 * 24
  let nofBitsProcessable :=
    min nofBitsNew24 (wordSub settings.G mapper.pdcBitsIdx)
  dectnrpAssert (nofBitsProcessable % settings.nBps == 0)
    "nof processable bits is not a multiplex of N_bps"
  dectnrpAssert
    ((mapper.pdcBitsIdx < settings.G && mapper.pdcBitsIdx % 8 == 0) ||
      mapper.pdcBitsIdx == settings.G)
    "not processed all bits yet, but offset for new bits is not a full byte"
  let nofBitsMinimum := mapper.pdcBitsIdx + nofBitsProcessable
  match ← encodeTb settings.library settings.maxCb settings.srsranCbsegm
      settings.nBps settings.rv settings.G settings.a nofBitsMinimum
      settings.fuel mapper.fec with
  | none => pure none
  | some fec => do
      let symbols ←
        settings.srsranModemTableEffective.srsranModModulateBytesFix
          (fun index => fec.eBits.octets (mapper.pdcBitsIdx / 8 + index))
          nofBitsProcessable
      dectnrpAssert
        (nofBitsProcessable / settings.nBps == symbols.length)
        "nof generated complex symbols is not correct"
      let pdcCmplxSymbols :=
        appendSymbols mapper.pdcCmplxSymbols
          mapper.pdcNofCmplxSubcResidual symbols
      let streams ←
        placePdc settings pdcCmplxSymbols mapper.pdcCmplxSymbolsFlipped
          kIOneSymbol transmitStreamsStage mapper.pdcSubcIdx
      let residual :=
        wordSub (mapper.pdcNofCmplxSubcResidual + symbols.length)
          nofCmplxSubc
      dectnrpAssert (residual ≤ 23)
        "nof processable bits is not a multiplex of N_bps"
      pure
        (some
          { before := mapper
            after :=
              { fec := fec
                pdcCmplxSymbols :=
                  moveToFront pdcCmplxSymbols nofCmplxSubc residual
                pdcCmplxSymbolsFlipped := mapper.pdcCmplxSymbolsFlipped
                pdcNofCmplxSubcResidual := residual
                pdcBitsIdx := mapper.pdcBitsIdx + nofBitsProcessable
                pdcSubcIdx := streams.pxxIdx }
            kIOneSymbol := kIOneSymbol
            nofCmplxSubc := nofCmplxSubc
            nofBitsProcessable := nofBitsProcessable
            nofBitsMinimum := nofBitsMinimum
            nofNewComplexSubc := symbols.length
            transmitStreamsStage := streams.transmitStreamsStage })

/--
Symbols that stand in the data cells after a call, cell by cell and stream by
stream.  With transmit diversity, a cell carries its symbol in one stream and
a flipped one in another.
-/
def placedSymbols
    (transmitDiversityMode : Bool)
    (nSs nTs : Nat)
    (call : PdcCall Value TxBuffer Parity) :
    List (Cf Value) :=
  if transmitDiversityMode then
    call.kIOneSymbol.mapIdx fun position kI =>
      call.transmitStreamsStage
        (streamsAt (indexMatOf nTs) (getModulo nTs)
          (call.before.pdcSubcIdx + position)).1
        kI
  else
    call.kIOneSymbol.flatMap fun kI =>
      (List.range nSs).map fun j => call.transmitStreamsStage j kI

/-- Symbols in the cells under the settings of the packet. -/
def PdcSettings.placed
    (settings : PdcSettings Value TxBuffer Parity)
    (call : PdcCall Value TxBuffer Parity) :
    List (Cf Value) :=
  placedSymbols settings.transmitDiversityMode settings.nSs settings.nTs
    call

/-- What the streams hold after one subcarrier was written. -/
structure CellFilled
    (nSs : Nat)
    (pdcCmplxSymbols : Nat → Cf Value)
    (kI : Nat)
    (before after : TransmitStreams Value) :
    Prop where
  cnt : after.cnt = before.cnt + nSs
  pxxIdx : after.pxxIdx = before.pxxIdx
  filled :
    ∀ j < nSs,
      after.transmitStreamsStage j kI = pdcCmplxSymbols (before.cnt + j)
  others :
    ∀ ts k, k ≠ kI →
      after.transmitStreamsStage ts k = before.transmitStreamsStage ts k

theorem demultiplexCell_succ
    (nSs : Nat)
    (pdcCmplxSymbols : Nat → Cf Value)
    (streams : TransmitStreams Value)
    (kI : Nat) :
    demultiplexCell (nSs + 1) pdcCmplxSymbols streams kI =
      let written := demultiplexCell nSs pdcCmplxSymbols streams kI
      { written with
        transmitStreamsStage :=
          store written.transmitStreamsStage nSs kI
            (pdcCmplxSymbols written.cnt)
        cnt := written.cnt + 1 } := by
  unfold demultiplexCell
  rw [List.range_succ, List.foldl_append]
  rfl

theorem demultiplexCell_filled
    (nSs : Nat)
    (pdcCmplxSymbols : Nat → Cf Value)
    (streams : TransmitStreams Value)
    (kI : Nat) :
    CellFilled nSs pdcCmplxSymbols kI streams
      (demultiplexCell nSs pdcCmplxSymbols streams kI) := by
  induction nSs with
  | zero =>
      refine ⟨rfl, rfl, ?_, fun _ _ _ => rfl⟩
      intro j inside
      exact absurd inside (Nat.not_lt_zero j)
  | succ nSs hypothesis =>
      obtain ⟨cnt, pxxIdx, filled, others⟩ := hypothesis
      rw [demultiplexCell_succ]
      refine ⟨?_, pxxIdx, ?_, ?_⟩
      · dsimp only
        rw [cnt, Nat.add_assoc]
      · intro j inside
        dsimp only
        unfold store
        by_cases last : j = nSs
        · rw [if_pos ⟨last, rfl⟩, cnt, last]
        · rw [if_neg (fun both => last both.1), filled j (by omega)]
      · intro ts k isOther
        dsimp only
        unfold store
        rw [if_neg (fun both => isOther both.2), others ts k isOther]

variable {kIOneSymbol : List Nat}

theorem foldl_demultiplexCell
    (nSs : Nat)
    (pdcCmplxSymbols : Nat → Cf Value)
    (isCells : kIOneSymbol.Nodup)
    (streams : TransmitStreams Value) :
    let after :=
      kIOneSymbol.foldl (demultiplexCell nSs pdcCmplxSymbols) streams
    after.cnt = streams.cnt + nSs * kIOneSymbol.length ∧
    (∀ ts k, k ∉ kIOneSymbol →
      after.transmitStreamsStage ts k = streams.transmitStreamsStage ts k) ∧
    (kIOneSymbol.flatMap fun kI =>
        (List.range nSs).map fun j => after.transmitStreamsStage j kI) =
      (List.range (nSs * kIOneSymbol.length)).map fun index =>
        pdcCmplxSymbols (streams.cnt + index) := by
  induction kIOneSymbol generalizing streams with
  | nil => exact ⟨rfl, fun _ _ _ => rfl, rfl⟩
  | cons kI kIOneSymbol hypothesis =>
      obtain ⟨isNew, isRest⟩ := List.nodup_cons.mp isCells
      have cell := demultiplexCell_filled nSs pdcCmplxSymbols streams kI
      obtain ⟨cnt, others, placed⟩ :=
        hypothesis isRest (demultiplexCell nSs pdcCmplxSymbols streams kI)
      have isLength : nSs * (kI :: kIOneSymbol).length =
          nSs + nSs * kIOneSymbol.length := by
        rw [List.length_cons, Nat.mul_succ, Nat.add_comm]
      rw [List.foldl_cons]
      refine ⟨?_, ?_, ?_⟩
      · rw [cnt, cell.cnt, isLength, Nat.add_assoc]
      · intro ts k isOther
        obtain ⟨isOtherCell, isOtherRest⟩ :=
          not_or.mp (fun member => isOther (List.mem_cons.mpr member))
        rw [others ts k isOtherRest, cell.others ts k isOtherCell]
      · rw [List.flatMap_cons, placed, isLength, List.range_add,
          List.map_append, List.map_map, cell.cnt]
        congr 1
        · refine List.map_congr_left ?_
          intro j member
          rw [others j kI isNew, cell.filled j (List.mem_range.mp member)]
        · refine List.map_congr_left ?_
          intro index _
          rw [Function.comp_apply, Nat.add_assoc]

/-- Modes that are possible: transmit diversity has one spatial stream. -/
structure PdcSettings.HasMode
    (settings : PdcSettings Value TxBuffer Parity) :
    Prop where
  positive : 0 < settings.nSs
  diversity :
    settings.transmitDiversityMode = true →
      settings.nSs = 1 ∧
        (settings.nTs = 2 ∨ settings.nTs = 4 ∨ settings.nTs = 8)

variable {settings : PdcSettings Value TxBuffer Parity}

/-- The symbols fill the cells of all streams in order. -/
theorem placePdc_spec
    (mode : settings.HasMode)
    (pdcCmplxSymbols pdcCmplxSymbolsFlipped : Nat → Cf Value)
    (isCells : kIOneSymbol.Nodup)
    (transmitStreamsStage : Nat → Nat → Cf Value)
    (pdcSubcIdx : Nat) :
    ∃ streams,
      placePdc settings pdcCmplxSymbols pdcCmplxSymbolsFlipped
          kIOneSymbol transmitStreamsStage pdcSubcIdx =
        .ok streams ∧
      streams.pxxIdx = pdcSubcIdx + settings.nSs * kIOneSymbol.length ∧
      ∀ call : PdcCall Value TxBuffer Parity,
        call.before.pdcSubcIdx = pdcSubcIdx →
        call.kIOneSymbol = kIOneSymbol →
        call.transmitStreamsStage = streams.transmitStreamsStage →
        settings.placed call =
          (List.range (settings.nSs * kIOneSymbol.length)).map
            pdcCmplxSymbols := by
  unfold placePdc PdcSettings.placed placedSymbols
  cases isMode : settings.transmitDiversityMode with
  | true =>
      obtain ⟨single, isNTs⟩ := mode.diversity isMode
      have copied :=
        @foldl_copyCell Value _ (indexMatOf settings.nTs)
          (getModulo settings.nTs) pdcCmplxSymbols
          (flipPairs pdcCmplxSymbols kIOneSymbol.length pdcCmplxSymbolsFlipped)
          kIOneSymbol isCells ⟨transmitStreamsStage, 0, pdcSubcIdx⟩
      rw [if_pos rfl, runPdcTransmitDiversity, getIndexMatNTsX_eq isNTs,
        ok_bind, pure_eq_ok]
      refine ⟨_, rfl, ?_, ?_⟩
      · rw [copied.isPxxIdx, single, Nat.one_mul]
      · rintro call isSubcIdx isKI isStage
        rw [if_pos rfl, isKI, isSubcIdx, isStage, single, Nat.one_mul]
        refine List.ext_getElem (by simp) ?_
        intro position inside _
        rw [List.length_mapIdx] at inside
        have different := (streamsAt_spec isNTs (pdcSubcIdx + position)).2.2
        rw [List.getElem_mapIdx, copied.cells position inside]
        dsimp only
        rw [if_neg different, if_pos rfl, List.getElem_map,
          List.getElem_range, Nat.zero_add]
  | false =>
      obtain ⟨cnt, -, placed⟩ :=
        foldl_demultiplexCell settings.nSs pdcCmplxSymbols isCells
          ⟨transmitStreamsStage, 0, pdcSubcIdx⟩
      have whole : ((kIOneSymbol.foldl
          (demultiplexCell settings.nSs pdcCmplxSymbols)
          ⟨transmitStreamsStage, 0, pdcSubcIdx⟩).cnt %
            settings.nSs == 0) = true := by
        rw [cnt, Nat.zero_add, Nat.mul_mod_right]
        rfl
      rw [if_neg Bool.false_ne_true, runPdcSpatialDemultiplexing]
      rw [whole, dectnrpAssert_true, ok_bind, pure_eq_ok]
      refine ⟨_, rfl, ?_, ?_⟩
      · rw [cnt, Nat.zero_add]
      · rintro call - isKI isStage
        rw [if_neg Bool.false_ne_true, isKI, isStage, placed]
        simp only [Nat.zero_add]

/-- Numbers of one call that follow from what was fetched before. -/
structure Fetching
    (nBps G used nofCmplxSubc residual pdcBitsIdx nofBitsProcessable
      count : Nat) :
    Prop where
  demand : residual ≤ nofCmplxSubc
  processable : nofBitsProcessable = nBps * count
  aligned :
    pdcBitsIdx % 8 = 0 ∨ pdcBitsIdx = G ∧ nofBitsProcessable = 0
  fetched :
    pdcBitsIdx + nofBitsProcessable =
      fetched 24 G (nBps * (used + nofCmplxSubc))
  enough : nofCmplxSubc ≤ residual + count
  few : residual + count ≤ nofCmplxSubc + 23

/--
What is left covers no more than a symbol needs, and what is fetched for it is
less than twenty-four bits too much.
-/
theorem fetching
    {nBps G used nofCmplxSubc residual pdcBitsIdx : Nat}
    (isOrder : ModemTable.IsOrder nBps)
    (wholeSymbols : nBps ∣ G)
    (small : G < 2 ^ 31)
    (isFetched : pdcBitsIdx = fetched 24 G (nBps * used))
    (isLeft : nBps * (used + residual) = pdcBitsIdx)
    (inside : nBps * (used + nofCmplxSubc) ≤ G)
    (long : used = 0 ∨ 24 ≤ nofCmplxSubc) :
    ∃ count,
      Fetching nBps G used nofCmplxSubc residual pdcBitsIdx
        (min
          (ceilDivideInteger
            (wordSub nofCmplxSubc residual * nBps % 2 ^ 32) 24 * 24)
          (wordSub G pdcBitsIdx))
        count := by
  have positive := isOrder.pos
  have ofUnit : nBps ∣ 24 := by
    rcases isOrder with rfl | rfl | rfl | rfl | rfl <;> decide
  have unit : 0 < 24 := by decide
  have product (count : Nat) : count ≤ nBps * count :=
    Nat.le_mul_of_pos_left count positive
  rw [Nat.mul_add] at isLeft inside
  have notAll : pdcBitsIdx ≤ G := by
    rw [isFetched]
    exact fetched_le 24 G _
  have ahead : pdcBitsIdx < nBps * used + 24 := by
    rw [isFetched]
    exact fetched_lt unit G _
  have demand : residual ≤ nofCmplxSubc := by
    have few := product residual
    rcases long with isFirst | many
    · rw [isFirst, Nat.mul_zero] at isFetched isLeft
      rw [fetched_zero unit] at isFetched
      omega
    · omega
  have missing : wordSub nofCmplxSubc residual * nBps % 2 ^ 32 =
      nBps * used + nBps * nofCmplxSubc - pdcBitsIdx := by
    have few := product nofCmplxSubc
    rw [wordSub_eq demand (by omega), Nat.sub_mul,
      Nat.mul_comm nofCmplxSubc, Nat.mul_comm residual,
      Nat.mod_eq_of_lt (by omega)]
    omega
  have rest : wordSub G pdcBitsIdx = G - pdcBitsIdx :=
    wordSub_eq notAll (by omega)
  rw [missing, rest]
  have added := @fetched_add 24 G (nBps * used) (nBps * nofCmplxSubc) unit
  rw [← isFetched] at added
  have isUnits : ceilDivideInteger
      (nBps * used + nBps * nofCmplxSubc - pdcBitsIdx) 24 * 24 =
        wholeUnits 24 (nBps * used + nBps * nofCmplxSubc - pdcBitsIdx) :=
    rfl
  rw [isUnits]
  generalize isProcessable :
    min (wholeUnits 24 (nBps * used + nBps * nofCmplxSubc - pdcBitsIdx))
      (G - pdcBitsIdx) = nofBitsProcessable at added
  have dividesBefore : nBps ∣ pdcBitsIdx := by
    rw [isFetched]
    exact dvd_fetched ofUnit wholeSymbols _
  have dividesAfter : nBps ∣ pdcBitsIdx + nofBitsProcessable := by
    rw [added]
    exact dvd_fetched ofUnit wholeSymbols _
  obtain ⟨count, isCount⟩ := (Nat.dvd_add_right dividesBefore).mp dividesAfter
  have covered := le_fetched unit inside
  have bounded := fetched_lt unit G (nBps * used + nBps * nofCmplxSubc)
  rw [← added, ← isLeft, isCount] at covered bounded
  have enough : nofCmplxSubc ≤ residual + count := by
    refine Nat.le_of_mul_le_mul_left ?_ positive
    rw [Nat.mul_add]
    omega
  refine ⟨count, demand, isCount, ?_, ?_, enough, ?_⟩
  · have cases := fetched_cases 24 G (nBps * used)
    rw [← isFetched] at cases
    rcases cases with isWhole | isAll
    · left
      omega
    · right
      omega
  · rw [added, Nat.mul_add]
  · obtain ⟨further, isFurther⟩ := Nat.exists_eq_add_of_le enough
    have few := product further
    have split := congrArg (nBps * ·) isFurther
    simp only [Nat.mul_add] at split
    omega

/-- Settings under which all bits of a packet can be mapped. -/
structure PdcSettings.Suits
    (settings : PdcSettings Value TxBuffer Parity) :
    Prop where
  mode : settings.HasMode
  order : ModemTable.IsOrder settings.nBps
  table :
    settings.srsranModemTableEffective.nbitsXSymbol = settings.nBps
  /-- The library matches rates in place and scrambles bit by bit. -/
  library :
    ∃ (matching : TurboEncoder TxBuffer Parity) (routines : BitRoutines)
        (srsranSequence : ScramblingSequence),
      MatchesInPlace matching settings.rv ∧
        settings.library =
          matching.withScrambling routines srsranSequence
  noFiller : settings.srsranCbsegm.F = 0
  blocks : 0 < settings.srsranCbsegm.C
  capacity : settings.srsranCbsegm.C ≤ settings.maxCb
  enough : settings.srsranCbsegm.C < settings.fuel
  wholeSymbols : settings.nBps ∣ settings.G
  small : settings.G < 2 ^ 31

/-- Symbol of the coded bits with an index over the packet. -/
def symbolOf
    (settings : PdcSettings Value TxBuffer Parity)
    (eBits : Memory)
    (index : Nat) :
    Cf Value :=
  settings.srsranModemTableEffective.symbolTable
    (ModemTable.valueAt eBits.octets
      (index * settings.srsranModemTableEffective.nbitsXSymbol)
      settings.srsranModemTableEffective.nbitsXSymbol)

theorem symbolsFrom_eq
    (settings : PdcSettings Value TxBuffer Parity)
    (eBits : Memory)
    (first count : Nat) :
    settings.srsranModemTableEffective.symbolsFrom eBits.octets first
        count =
      (List.range count).map fun index =>
        symbolOf settings eBits (first + index) :=
  rfl

theorem symbolOf_congr
    {eBits later : Memory}
    {stop index : Nat}
    (same : Memory.SameBitsBefore stop eBits later)
    (inside :
      (index + 1) * settings.srsranModemTableEffective.nbitsXSymbol ≤ stop) :
    symbolOf settings later index = symbolOf settings eBits index := by
  have sameSymbols :=
    @ModemTable.symbolsFrom_congr _ settings.srsranModemTableEffective
      eBits.octets later.octets index 1 (by
        intro bit before
        rw [Memory.bitAt_octets, Memory.bitAt_octets,
          same bit (Nat.lt_of_lt_of_le before inside)])
  simpa [symbolsFrom_eq] using sameSymbols

/-- What holds after a number of symbols of a packet were placed. -/
structure Mapped
    (settings : PdcSettings Value TxBuffer Parity)
    (used : Nat)
    (mapper : PdcMapper Value TxBuffer Parity) :
    Prop where
  follows :
    EncoderFollows settings.srsranCbsegm settings.nBps settings.G
      mapper.fec
  fetched :
    mapper.pdcBitsIdx =
      fetched 24 settings.G (settings.nBps * used)
  left :
    settings.nBps * (used + mapper.pdcNofCmplxSubcResidual) =
      mapper.pdcBitsIdx
  cells : mapper.pdcSubcIdx = used
  encoded : mapper.pdcBitsIdx ≤ mapper.fec.wp
  front :
    ∀ index < mapper.pdcNofCmplxSubcResidual,
      mapper.pdcCmplxSymbols index =
        symbolOf settings mapper.fec.eBits (used + index)

/-- What is demanded of a call for one symbol. -/
structure PdcCall.InOrder
    (G capacity : Nat)
    (call : PdcCall Value TxBuffer Parity) :
    Prop where
  /-- No more symbols are left than are needed. -/
  demand : call.before.pdcNofCmplxSubcResidual ≤ call.nofCmplxSubc
  /-- Bits are read from the start of an octet, if any are left to be read. -/
  aligned :
    call.before.pdcBitsIdx % 8 = 0 ∨ call.before.pdcBitsIdx = G
  /-- The encoder is asked for all bits that are read, and writes them. -/
  asked :
    call.before.pdcBitsIdx + call.nofBitsProcessable ≤
      call.nofBitsMinimum
  encoded : call.nofBitsMinimum ≤ call.after.fec.wp
  residual : call.after.pdcNofCmplxSubcResidual ≤ 23
  /-- Symbols are written and moved within the buffer. -/
  written :
    call.before.pdcNofCmplxSubcResidual + call.nofNewComplexSubc ≤
      capacity
  moved :
    call.nofCmplxSubc + call.after.pdcNofCmplxSubcResidual ≤ capacity

theorem PdcSettings.Suits.encodeTb_spec
    (suits : settings.Suits)
    {before : PdcEncoderState TxBuffer Parity}
    (follows :
      EncoderFollows settings.srsranCbsegm settings.nBps settings.G before)
    {nofBitsMinimum : Nat}
    (inside : nofBitsMinimum ≤ settings.G) :
    ∃ after,
      encodeTb settings.library settings.maxCb settings.srsranCbsegm
          settings.nBps settings.rv settings.G settings.a
          nofBitsMinimum settings.fuel before =
        .ok (some after) ∧
      EncoderFollows settings.srsranCbsegm settings.nBps settings.G after ∧
      nofBitsMinimum ≤ after.wp ∧
      KeepsBits settings.G before after := by
  obtain ⟨matching, routines, srsranSequence, inPlace, isLibrary⟩ :=
    suits.library
  obtain ⟨afters, returned, calls⟩ :=
    @encodeCalls_returns _ _ matching settings.maxCb
      settings.srsranCbsegm settings.nBps settings.rv settings.G
      settings.a before routines srsranSequence inPlace suits.noFiller
      suits.blocks suits.capacity suits.order.pos suits.wholeSymbols
      settings.fuel suits.enough [nofBitsMinimum]
      (by simpa using inside) follows
  cases calls with
  | @cons _ after _ _ _ passes _ written rest =>
      cases rest
      rw [encodeCalls] at returned
      obtain ⟨encoded, isEncoded, returned⟩ := Checked.bind_eq_ok.mp returned
      cases encoded with
      | none => cases returned
      | some state =>
          cases returned
          rw [isLibrary, encodeTb, Nat.min_eq_left inside]
          exact ⟨after, isEncoded,
              follows.passes suits.blocks suits.wholeSymbols inside passes,
              written,
              passes.keepsBits inPlace follows suits.blocks
                suits.wholeSymbols inside⟩

/-- A call modulates the bits that come next. -/
theorem modulate_next
    (suits : settings.Suits)
    {first pdcBitsIdx count : Nat}
    (isNext : settings.nBps * first = pdcBitsIdx)
    (aligned :
      pdcBitsIdx % 8 = 0 ∨ pdcBitsIdx = settings.G ∧ settings.nBps * count = 0)
    (eBits : Memory) :
    settings.srsranModemTableEffective.srsranModModulateBytesFix
        (fun index => eBits.octets (pdcBitsIdx / 8 + index))
        (settings.nBps * count) =
      .ok
        (settings.srsranModemTableEffective.symbolsFrom eBits.octets
          first count) := by
  have isOrder := suits.order
  rw [← suits.table] at isOrder isNext aligned ⊢
  rcases aligned with isOctet | ⟨-, noBits⟩
  · exact ModemTable.srsranModModulateBytesFix_eq isOrder eBits.octets_lt
        (by rw [Nat.mul_comm, isNext]; omega) count
  · have noSymbols : count = 0 :=
      (Nat.mul_eq_zero.mp noBits).resolve_left isOrder.pos.ne'
    rw [noSymbols, Nat.mul_zero,
      ModemTable.srsranModModulateBytesFix_noBits isOrder]
    rfl

/-- The symbols that are left are followed by the new ones. -/
theorem appendSymbols_eq
    {eBits : Memory}
    {pdcCmplxSymbols : Nat → Cf Value}
    {first left count index : Nat}
    (front :
      ∀ index < left,
        pdcCmplxSymbols index = symbolOf settings eBits (first + index))
    (inside : index < left + count) :
    appendSymbols pdcCmplxSymbols left
        (settings.srsranModemTableEffective.symbolsFrom eBits.octets
          (first + left) count) index =
      symbolOf settings eBits (first + index) := by
  unfold appendSymbols
  by_cases isNew : left ≤ index
  · rw [if_pos isNew, ModemTable.symbolsFrom_getElem? _ _ _ (by omega),
      Option.getD_some]
    unfold symbolOf
    rw [show first + left + (index - left) = first + index by omega]
  · rw [if_neg isNew, front index (by omega)]

variable {mapper : PdcMapper Value TxBuffer Parity}

/-- Encoding keeps the bits of the symbols that are left. -/
theorem Mapped.front_kept
    (suits : settings.Suits)
    {used : Nat}
    (mapped : Mapped settings used mapper)
    {fec : PdcEncoderState TxBuffer Parity}
    (kept : KeepsBits settings.G mapper.fec fec)
    (index : Nat)
    (isLeft : index < mapper.pdcNofCmplxSubcResidual) :
    mapper.pdcCmplxSymbols index =
      symbolOf settings fec.eBits (used + index) := by
  rw [mapped.front index isLeft]
  refine (symbolOf_congr kept.earlier ?_).symm
  rw [suits.table, Nat.mul_comm]
  refine Nat.le_trans ?_ (mapped.left ▸ mapped.encoded)
  exact Nat.mul_le_mul_left _ (by omega)

/-- The assertions of a call hold for its numbers. -/
theorem Fetching.checks
    {nBps G used nofCmplxSubc residual pdcBitsIdx nofBitsProcessable
      count : Nat}
    (numbers :
      Fetching nBps G used nofCmplxSubc residual pdcBitsIdx
        nofBitsProcessable count)
    (positive : 0 < nBps)
    (total : pdcBitsIdx + nofBitsProcessable ≤ G) :
    (nofBitsProcessable % nBps == 0) = true ∧
      ((pdcBitsIdx < G && pdcBitsIdx % 8 == 0) || pdcBitsIdx == G) = true ∧
      (nofBitsProcessable / nBps == count) = true ∧
      decide (residual + count - nofCmplxSubc ≤ 23) = true := by
  obtain ⟨-, isCount, aligned, -, -, few⟩ := numbers
  refine ⟨?_, ?_, ?_, decide_eq_true (by omega)⟩
  · rw [isCount, Nat.mul_mod_right]
    rfl
  · simp only [Bool.or_eq_true, Bool.and_eq_true, decide_eq_true_eq,
      beq_iff_eq]
    omega
  · rw [isCount, Nat.mul_div_cancel_left _ positive]
    exact beq_self_eq_true count

/-- One symbol gets the next symbols of the packet into its cells. -/
theorem runPdc_spec
    (suits : settings.Suits)
    {used capacity : Nat}
    (mapped : Mapped settings used mapper)
    (isCells : kIOneSymbol.Nodup)
    (inside :
      settings.nBps * (used + settings.nSs * kIOneSymbol.length) ≤ settings.G)
    (long : used = 0 ∨ 24 ≤ settings.nSs * kIOneSymbol.length)
    (room : settings.nSs * kIOneSymbol.length + 23 ≤ capacity)
    (transmitStreamsStage : Nat → Nat → Cf Value) :
    ∃ call,
      runPdc settings kIOneSymbol transmitStreamsStage mapper =
        .ok (some call) ∧
      call.kIOneSymbol = kIOneSymbol ∧
      call.InOrder settings.G capacity ∧
      Mapped settings (used + settings.nSs * kIOneSymbol.length) call.after ∧
      KeepsBits settings.G mapper.fec call.after.fec ∧
      settings.placed call =
        settings.srsranModemTableEffective.symbolsFrom
          call.after.fec.eBits.octets used
          (settings.nSs * kIOneSymbol.length) := by
  obtain ⟨follows, isFetched, isLeft, isUsed, -, -⟩ := id mapped
  obtain ⟨count, numbers⟩ :=
    fetching suits.order suits.wholeSymbols suits.small isFetched isLeft
      inside long
  unfold runPdc
  generalize isN : settings.nSs * kIOneSymbol.length = nofCmplxSubc at *
  generalize isProcessable : min (ceilDivideInteger
      (wordSub nofCmplxSubc mapper.pdcNofCmplxSubcResidual *
        settings.nBps % 2 ^ 32) 24 * 24)
      (wordSub settings.G mapper.pdcBitsIdx) = nofBitsProcessable
    at numbers
  have positive := suits.order.pos
  have isCount := numbers.processable
  have total : mapper.pdcBitsIdx + nofBitsProcessable ≤ settings.G := by
    rw [numbers.fetched]
    exact fetched_le 24 settings.G _
  obtain ⟨fec, encoded, fecFollows, written, kept⟩ :=
    suits.encodeTb_spec follows total
  have aligned := numbers.aligned
  rw [isCount] at aligned
  have modulated := modulate_next suits isLeft aligned fec.eBits
  generalize isSymbols :
    settings.srsranModemTableEffective.symbolsFrom fec.eBits.octets
      (used + mapper.pdcNofCmplxSubcResidual) count = symbols
    at modulated
  have nofSymbols : symbols.length = count := by
    rw [← isSymbols, ModemTable.length_symbolsFrom]
  have buffer : ∀ index < mapper.pdcNofCmplxSubcResidual + count,
      appendSymbols mapper.pdcCmplxSymbols
          mapper.pdcNofCmplxSubcResidual symbols index =
        symbolOf settings fec.eBits (used + index) := by
    intro index early
    rw [← isSymbols]
    exact appendSymbols_eq (mapped.front_kept suits kept) early
  obtain ⟨streams, isPlaced, pxxIdx, cells⟩ :=
    placePdc_spec suits.mode (appendSymbols mapper.pdcCmplxSymbols
        mapper.pdcNofCmplxSubcResidual symbols)
      mapper.pdcCmplxSymbolsFlipped isCells transmitStreamsStage
      mapper.pdcSubcIdx
  rw [isN] at pxxIdx cells
  have residual : wordSub (mapper.pdcNofCmplxSubcResidual + symbols.length)
      nofCmplxSubc =
        mapper.pdcNofCmplxSubcResidual + count - nofCmplxSubc := by
    have product : nofCmplxSubc ≤ settings.nBps * nofCmplxSubc :=
      Nat.le_mul_of_pos_left _ positive
    have few := numbers.few
    have small := suits.small
    rw [Nat.mul_add] at inside
    rw [nofSymbols]
    exact wordSub_eq numbers.enough (by omega)
  obtain ⟨wholeBits, start, allSymbols, few⟩ := numbers.checks positive total
  rw [← nofSymbols] at allSymbols
  dsimp only
  rw [isProcessable, wholeBits, start, dectnrpAssert_true,
    ok_bind, dectnrpAssert_true, ok_bind, encoded,
    ok_bind]
  dsimp only
  rw [isCount, modulated, ok_bind, ← isCount, allSymbols,
    dectnrpAssert_true, ok_bind, isPlaced, ok_bind,
    residual, few, dectnrpAssert_true, ok_bind,
    pure_eq_ok]
  refine ⟨_, rfl, rfl, ?_, ?_, kept, ?_⟩
  · exact
      { demand := numbers.demand
        aligned := by
          rcases numbers.aligned with isOctet | ⟨isAll, -⟩
          · exact .inl isOctet
          · exact .inr isAll
        asked := Nat.le_refl _
        encoded := written
        residual := of_decide_eq_true few
        written := by
          dsimp only
          rw [nofSymbols]
          exact Nat.le_trans numbers.few room
        moved := by
          have enough := numbers.enough
          have bounded := numbers.few
          dsimp only
          omega }
  · exact
      { follows := fecFollows
        fetched := numbers.fetched
        left := by
          have enough := numbers.enough
          dsimp only
          rw [isCount, ← isLeft, ← Nat.mul_add]
          congr 1
          omega
        cells := by
          dsimp only
          rw [pxxIdx, isUsed]
        encoded := written
        front := by
          have enough := numbers.enough
          intro index left
          dsimp only at left ⊢
          unfold moveToFront
          rw [if_pos left, buffer _ (by omega), ← Nat.add_assoc] }
  · rw [cells _ rfl rfl rfl, symbolsFrom_eq]
    refine List.map_congr_left ?_
    intro index member
    have enough := numbers.enough
    have early := List.mem_range.mp member
    exact buffer index (by omega)

end

end Tx

end DectNrp
