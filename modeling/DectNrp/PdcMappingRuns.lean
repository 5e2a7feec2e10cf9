import DectNrp.PacketDominance
import DectNrp.PdcMapping

namespace DectNrp

open FetchAhead
open Phyres

/-!
# Data channel of a packet

The transmitter walks over the symbols of a packet and fills the data cells of
those that have any.  All cells together carry the symbols of all coded bits,
in order and each of them once.
-/

open Pdc (rowAt)
open Checked (bind_eq_ok ok_bind)

namespace Sp3

/-- What the sizes of a packet leave to be computed again by the encoder. -/
theorem getPacketSizes_segmentation
    {qq : PacketSizesDef}
    {q : PacketSizes}
    (returned : getPacketSizes qq = .ok (some q)) :
    q.numerology.nBOcc = qq.b * 56 ∧
    0 < q.nPdcSubc ∧
    ∃ cbSegm,
      srsranCbsegmFix q.nTbBits qq.Z = some cbSegm ∧
      cbSegm.F = 0 ∧
      0 < cbSegm.C ∧
      cbSegm.C = q.C := by
  obtain ⟨tmMode, -, mcs, -, isTmMode, isMcs, packetValid, -⟩ :=
    getPacketSizes_sizes returned
  have validZ := (valid_of_getPacketSizes returned).Z
  obtain ⟨numerology, nBOcc, isSizes⟩ :=
    (valid_of_getPacketSizes returned).getPacketSizes_eq isTmMode
  rw [isSizes] at returned
  split at returned
  · cases returned
  · split at returned
    · cases returned
    · unfold sizeDataChannel at returned
      obtain ⟨nPdcSubc, -, returned⟩ := bind_eq_ok.mp returned
      split at returned
      · cases returned
      · rename_i hasCells
        rw [isMcs, ok_bind] at returned
        dsimp only at returned
        split at returned
        · cases returned
        · rename_i hasBits
          split at returned
          · cases returned
          · rename_i cbSegm segmented
            split at returned
            · cases returned
            · rename_i noFiller
              obtain ⟨_, filled, returned⟩ := bind_eq_ok.mp returned
              cases returned
              unfold fillPacketSizes at filled
              obtain ⟨_, -, filled⟩ := bind_eq_ok.mp filled
              obtain ⟨_, -, filled⟩ := bind_eq_ok.mp filled
              obtain ⟨_, -, filled⟩ := bind_eq_ok.mp filled
              cases filled
              exact ⟨nBOcc, Nat.pos_of_ne_zero hasCells, cbSegm, segmented,
                  Nat.eq_zero_of_not_pos noFiller,
                  srsranCbsegmFix_C_pos hasBits validZ segmented, rfl⟩

theorem getMaximumPacketSizes_streams
    {name : String}
    {maximum : PacketSizes}
    (isMaximum : getMaximumPacketSizes name = .ok maximum) :
    ∃ psdef,
      getPacketSizes psdef = .ok (some maximum) ∧
      maximum.tmMode.nSs = maximum.tmMode.nTx ∧
      maximum.tmMode.nTs = maximum.tmMode.nTx := by
  have streams : ∀ index ∈ [0, 4, 9, 11], ∀ tmMode,
      getTmMode index = .ok tmMode →
        tmMode.nSs = tmMode.nTx ∧ tmMode.nTs = tmMode.nTx := by
    intro index member tmMode isTmMode
    simp only [List.mem_cons, List.not_mem_nil, or_false] at member
    rcases member with rfl | rfl | rfl | rfl <;> cases isTmMode <;>
      exact ⟨rfl, rfl⟩
  unfold getMaximumPacketSizes at isMaximum
  obtain ⟨radioDeviceClass, -, isMaximum⟩ := bind_eq_ok.mp isMaximum
  obtain ⟨index, isIndex, isMaximum⟩ := bind_eq_ok.mp isMaximum
  obtain ⟨q, isRequired, isMaximum⟩ := bind_eq_ok.mp isMaximum
  obtain ⟨_, -, isMaximum⟩ := bind_eq_ok.mp isMaximum
  cases isMaximum
  obtain ⟨sizes, returned, isSome⟩ := bind_eq_ok.mp isRequired
  cases sizes with
  | none => cases isSome
  | some sizes =>
      cases isSome
      obtain ⟨tmMode, -, mcs, -, isTmMode, -, -, isSizes⟩ :=
        getPacketSizes_sizes returned
      have isListed : index ∈ [0, 4, 9, 11] := by
        unfold getMaxTmModeIndexDependingOnNTx at isIndex
        obtain ⟨_, -, isIndex⟩ := bind_eq_ok.mp isIndex
        rw [← Except.ok.inj isIndex]
        split <;> decide
      rw [isSizes.isTmMode]
      exact ⟨_, returned, streams index isListed tmMode isTmMode⟩

end Sp3

namespace Tx

open TransmitDiversity

section

variable
  {Value : Type}
  [CommRing Value]
  {TxBuffer Parity : Type}

/--
Symbols from `l` on.  The streams of a symbol hold what was written to them
before the data channel; `none` if the fuel runs out.
-/
def runSymbols
    (settings : PdcSettings Value TxBuffer Parity)
    (transmitStreamsStages : Nat → Nat → Nat → Cf Value) :
    (pdc : Pdc) → (l count : Nat) → PdcMapper Value TxBuffer Parity →
      Checked
        (Option
          (List (PdcCall Value TxBuffer Parity) ×
            PdcMapper Value TxBuffer Parity))
  | _, _, 0, mapper => .ok (some ([], mapper))
  | pdc, l, count + 1, mapper => do
      let (found, pdc) ← pdc.isSymbolIndex l
      if found then do
        let kIOneSymbol ← pdc.getKIOneSymbol
        match ← runPdc settings kIOneSymbol (transmitStreamsStages l)
            mapper with
        | none => pure none
        | some call => do
            match ← runSymbols settings transmitStreamsStages pdc (l + 1)
                count call.after with
            | none => pure none
            | some (calls, final) => pure (some (call :: calls, final))
      else
        runSymbols settings transmitStreamsStages pdc (l + 1) count mapper

/-- Data cells of consecutive symbols. -/
def nofCells
    (b nTs : Nat)
    (pccLinear : List Nat)
    (l count : Nat) :
    Nat :=
  ((List.range' l count).map fun symbol =>
    (rowAt b nTs pccLinear symbol).length).sum

theorem nofCells_succ
    (b nTs : Nat)
    (pccLinear : List Nat)
    (l count : Nat) :
    nofCells b nTs pccLinear l (count + 1) =
      (rowAt b nTs pccLinear l).length +
        nofCells b nTs pccLinear (l + 1) count := by
  unfold nofCells
  rw [List.range'_succ, List.map_cons, List.sum_cons]

theorem nofCells_add
    (b nTs : Nat)
    (pccLinear : List Nat)
    (l first second : Nat) :
    nofCells b nTs pccLinear l (first + second) =
      nofCells b nTs pccLinear l first +
        nofCells b nTs pccLinear (l + first) second := by
  unfold nofCells
  rw [← List.range'_append_1, List.map_append, List.sum_append]

/-- What the calls for some symbols have done when they are finished. -/
structure Placed
    (settings : PdcSettings Value TxBuffer Parity)
    (capacity used : Nat)
    (rows : List (List Nat))
    (before : PdcMapper Value TxBuffer Parity)
    (calls : List (PdcCall Value TxBuffer Parity))
    (final : PdcMapper Value TxBuffer Parity) :
    Prop where
  /-- Symbols with data cells are served one after the other. -/
  served :
    calls.map PdcCall.kIOneSymbol = rows.filter fun row => !row.isEmpty
  inOrder : ∀ call ∈ calls, call.InOrder settings.G capacity
  mapped :
    Mapped settings (used + settings.nSs * (rows.map List.length).sum)
      final
  kept : KeepsBits settings.G before.fec final.fec
  /-- The cells carry the symbols of the coded bits. -/
  placed :
    calls.flatMap settings.placed =
      settings.srsranModemTableEffective.symbolsFrom
        final.fec.eBits.octets used
        (settings.nSs * (rows.map List.length).sum)

/-- A call in front of others. -/
theorem Placed.cons
    {settings : PdcSettings Value TxBuffer Parity}
    (suits : settings.Suits)
    {capacity used : Nat}
    {row : List Nat}
    {rows : List (List Nat)}
    {before final : PdcMapper Value TxBuffer Parity}
    {call : PdcCall Value TxBuffer Parity}
    {calls : List (PdcCall Value TxBuffer Parity)}
    (nonempty : row ≠ [])
    (isRow : call.kIOneSymbol = row)
    (inOrder : call.InOrder settings.G capacity)
    (inside : settings.nBps * (used + settings.nSs * row.length) ≤ settings.G)
    (mapped : Mapped settings (used + settings.nSs * row.length) call.after)
    (kept : KeepsBits settings.G before.fec call.after.fec)
    (placed :
      settings.placed call =
        settings.srsranModemTableEffective.symbolsFrom
          call.after.fec.eBits.octets used (settings.nSs * row.length))
    (rest :
      Placed settings capacity (used + settings.nSs * row.length) rows
        call.after calls final) :
    Placed settings capacity used (row :: rows) before (call :: calls)
      final := by
  have isSum : settings.nSs * ((row :: rows).map List.length).sum =
      settings.nSs * row.length +
        settings.nSs * (rows.map List.length).sum := by
    rw [List.map_cons, List.sum_cons, Nat.mul_add]
  have written : settings.nBps * (used + settings.nSs * row.length) ≤
      call.after.fec.wp := by
    refine Nat.le_trans ?_ mapped.encoded
    rw [mapped.fetched]
    exact le_fetched (by decide) inside
  -- the bits of these cells are not changed any more
  have final_ : settings.srsranModemTableEffective.symbolsFrom
      call.after.fec.eBits.octets used (settings.nSs * row.length) =
        settings.srsranModemTableEffective.symbolsFrom
          final.fec.eBits.octets used (settings.nSs * row.length) := by
    refine (ModemTable.symbolsFrom_congr ?_).symm
    intro bit early
    rw [suits.table, Nat.mul_comm] at early
    rw [Memory.bitAt_octets, Memory.bitAt_octets,
      rest.kept.earlier bit (Nat.lt_of_lt_of_le early written)]
  constructor
  · have notEmpty : (!row.isEmpty) = true := by simpa using nonempty
    rw [List.map_cons, isRow, rest.served, List.filter_cons, if_pos notEmpty]
  · intro other member
    rcases List.mem_cons.mp member with isFirst | later
    · rw [isFirst]
      exact inOrder
    · exact rest.inOrder other later
  · rw [isSum, ← Nat.add_assoc]
    exact rest.mapped
  · exact kept.trans rest.kept
  · rw [List.flatMap_cons, placed, final_, rest.placed, isSum,
      ModemTable.symbolsFrom_add]

/-- All symbols from `l` on get what is left of the packet. -/
theorem runSymbols_spec
    {settings : PdcSettings Value TxBuffer Parity}
    (suits : settings.Suits)
    {b nTs : Nat}
    {pccLinear : List Nat}
    (bValid : b ∈ bIdx2bLut)
    (nTsValid : nTs ∈ nTsIdx2NTsVec)
    (created : Pcc.getKILinear b nTs = .ok pccLinear)
    (allocation : Pcc.Allocation b nTs pccLinear)
    {capacity : Nat}
    (room : settings.nSs * (56 * b) + 23 ≤ capacity)
    (transmitStreamsStages : Nat → Nat → Nat → Cf Value)
    {pdc : Pdc}
    (holds : Pdc.HoldsTable pdc b nTs pccLinear)
    {l count used : Nat}
    (positive : 1 ≤ l)
    {mapper : PdcMapper Value TxBuffer Parity}
    (mapped : Mapped settings used mapper)
    (inside :
      settings.nBps *
          (used + settings.nSs * nofCells b nTs pccLinear l count) ≤
        settings.G)
    (first :
      used = 0 ∨
        ∃ earlier, 1 ≤ earlier ∧ earlier < l ∧
          rowAt b nTs pccLinear earlier ≠ []) :
    ∃ calls final,
      runSymbols settings transmitStreamsStages pdc l count mapper =
        .ok (some (calls, final)) ∧
      Placed settings capacity used
        ((List.range' l count).map (rowAt b nTs pccLinear)) mapper
        calls final := by
  induction count generalizing pdc l used mapper with
  | zero =>
      refine ⟨[], mapper, rfl, rfl, ?_, mapped, KeepsBits.refl _ _, rfl⟩
      intro call member
      cases member
  | succ count hypothesis =>
      obtain ⟨after, run, afterHolds⟩ :=
        Pdc.runSymbol_spec bValid nTsValid allocation holds positive
      obtain ⟨isFound, isKI⟩ := Pdc.isSymbolIndex_of_runSymbol run
      rw [nofCells_succ] at inside
      rw [List.range'_succ, List.map_cons, runSymbols, isFound, ok_bind]
      by_cases none : rowAt b nTs pccLinear l = []
      · rw [none] at inside ⊢
        rw [List.length_nil, Nat.zero_add] at inside
        obtain ⟨calls, final, returned, placed⟩ :=
          hypothesis afterHolds (by omega) mapped inside
            (first.imp_right (fun ⟨earlier, isPositive, before, hasData⟩ =>
                ⟨earlier, isPositive, by omega, hasData⟩))
        refine ⟨calls, final, ?_, ?_⟩
        · dsimp only
          rw [if_neg (by simp)]
          exact returned
        · obtain ⟨served, inOrder, finalMapped, kept, cells⟩ := placed
          refine ⟨?_, inOrder, ?_, kept, ?_⟩
          · rw [served, List.filter_cons, if_neg (by simp)]
          · simpa using finalMapped
          · simpa using cells
      · have long : used = 0 ∨
            24 ≤ settings.nSs * (rowAt b nTs pccLinear l).length := by
          refine first.imp_right ?_
          rintro ⟨earlier, isPositive, before, hasData⟩
          rcases Pdc.rowAt_eq_nil_or_long bValid nTsValid created
            allocation isPositive before hasData with isNil | many
          · exact absurd isNil none
          · have product : (rowAt b nTs pccLinear l).length ≤
                settings.nSs * (rowAt b nTs pccLinear l).length :=
              Nat.le_mul_of_pos_left _ suits.mode.positive
            omega
        have short : (rowAt b nTs pccLinear l).length ≤ 56 * b := by
          have sublist :
              (rowAt b nTs pccLinear l).Sublist (occupiedSubcarriers b) :=
            List.filter_sublist.trans List.filter_sublist
          have bounded := sublist.length_le
          rw [occupiedSubcarriers_eq bValid, List.length_map,
            List.length_range] at bounded
          exact bounded
        have now : settings.nBps *
            (used + settings.nSs * (rowAt b nTs pccLinear l).length) ≤
              settings.G := by
          refine Nat.le_trans (Nat.mul_le_mul_left _ ?_) inside
          rw [Nat.mul_add]
          omega
        rw [Nat.mul_add settings.nSs, ← Nat.add_assoc] at inside
        obtain ⟨call, isCall, isRow, inOrder, callMapped, kept, placed⟩ :=
          runPdc_spec suits mapped
            (Pdc.ascending_rowAt bValid pccLinear).nodup now long
            (Nat.le_trans (Nat.add_le_add_right
                (Nat.mul_le_mul_left settings.nSs short) 23)
              room)
            (transmitStreamsStages l)
        obtain ⟨calls, final, returned, rest⟩ :=
          hypothesis afterHolds (by omega) callMapped inside
            (.inr ⟨l, positive, by omega, none⟩)
        refine ⟨call :: calls, final, ?_,
            .cons suits none isRow inOrder now callMapped kept placed rest⟩
        dsimp only
        rw [if_pos (by simpa using none), isKI none, ok_bind, isCall, ok_bind]
        dsimp only
        rw [returned, ok_bind]
        rfl

/-- Tables of the modulations with one, two, four, six and eight bits. -/
structure ModemTables (Value : Type) [CommRing Value] where
  table : Nat → ModemTable (Cf Value)
  orders :
    ∀ index order,
      [1, 2, 4, 6, 8][index]? = some order →
        (table index).nbitsXSymbol = order

/--
The transmitter, its library and the state that the last packet left.  Tables
and buffers are made for the largest packet of a radio device class.
-/
structure Transmitter
    (Value : Type)
    [CommRing Value]
    (TxBuffer Parity : Type) where
  maximumPacketSizes : Sp3.PacketSizes
  srsranModemTable : ModemTables Value
  library : TurboEncoder TxBuffer Parity
  pdc : Pdc
  mapper : PdcMapper Value TxBuffer Parity
  isMaximum :
    ∃ name, Sp3.getMaximumPacketSizes name = .ok maximumPacketSizes
  isPdc :
    Pdc.create maximumPacketSizes.psdef.b maximumPacketSizes.tmMode.nTs =
      .ok pdc

/-- Largest index of a modulation that the library has. -/
def dectnrpMaxMcsIndex : Nat := 9

/-- Which table is in effect. -/
def modemTableIndex (mcsIndex : Nat) : Nat :=
  match mcsIndex with
  | 0 => 0
  | 1 | 2 => 1
  | 3 | 4 => 2
  | 5 | 6 | 7 => 3
  | _ => 4

/-- Modes with transmit diversity. -/
def isTransmitDiversityMode (index : Nat) : Bool :=
  index == 1 || index == 5 || index == 10

namespace Transmitter

/-- Number of symbols that the buffer between two calls has room for. -/
def nofPdcCmplxSymbols
    (tx : Transmitter Value TxBuffer Parity) :
    Nat :=
  tx.maximumPacketSizes.tmMode.nSs *
    tx.maximumPacketSizes.numerology.nBOcc + 23

/-- The packet must not be larger than the tables and buffers. -/
def runPacketDimensions
    (tx : Transmitter Value TxBuffer Parity)
    (q : Sp3.PacketSizes) :
    Checked (ModemTable (Cf Value)) := do
  dectnrpAssert (q.psdef.Z == tx.maximumPacketSizes.psdef.Z)
    "Z not the same as in RDC"
  dectnrpAssert (q.psdef.u ≤ tx.maximumPacketSizes.psdef.u)
    "Mu too large"
  dectnrpAssert (q.psdef.b ≤ tx.maximumPacketSizes.psdef.b)
    "Beta too large"
  dectnrpAssert (q.tmMode.nTx ≤ tx.maximumPacketSizes.tmMode.nTx)
    "nof antennas required larger than nof physical antennas"
  dectnrpAssert (q.psdef.mcsIndex ≤ tx.maximumPacketSizes.mcs.index)
    "MCS larger than allowed"
  dectnrpAssert (q.psdef.mcsIndex ≤ dectnrpMaxMcsIndex)
    "unable to set modem table for MCS index"
  pure (tx.srsranModemTable.table (modemTableIndex q.psdef.mcsIndex))

/-- Counters are reset before the symbols of a packet. -/
def startMapper
    (tx : Transmitter Value TxBuffer Parity) :
    PdcMapper Value TxBuffer Parity :=
  { tx.mapper with
    fec := tx.mapper.fec.fresh
    pdcNofCmplxSubcResidual := 0
    pdcBitsIdx := 0
    pdcSubcIdx := 0 }

/--
Data channel of a packet with its redundancy version, transport block and soft
buffer.  The streams of each symbol hold what was written to them before.
-/
def generateTxPacket
    (tx : Transmitter Value TxBuffer Parity)
    (q : Sp3.PacketSizes)
    (rv : Nat)
    (a : Memory)
    (maxCb fuel : Nat)
    (transmitStreamsStages : Nat → Nat → Nat → Cf Value) :
    Checked
      (Option
        (List (PdcCall Value TxBuffer Parity) ×
          PdcMapper Value TxBuffer Parity)) := do
  let srsranModemTableEffective ← tx.runPacketDimensions q
  match srsranCbsegmFix q.nTbBits q.psdef.Z with
  | none =>
      .error (.assertion "Error computing codeblock segmentation")
  | some srsranCbsegm => do
      let settings : PdcSettings Value TxBuffer Parity :=
        { srsranModemTableEffective := srsranModemTableEffective
          library := tx.library
          maxCb := maxCb
          srsranCbsegm := srsranCbsegm
          nSs := q.tmMode.nSs
          nTs := q.tmMode.nTs
          transmitDiversityMode := isTransmitDiversityMode q.tmMode.index
          nBps := q.mcs.nBps
          rv := rv
          G := q.G
          a := a
          fuel := fuel }
      match ← runSymbols settings transmitStreamsStages
          (tx.pdc.setConfiguration q.psdef.b q.tmMode.nTs) 1 q.nDfSymb
          tx.startMapper with
      | none => pure none
      | some (calls, final) => do
          dectnrpAssert (final.fec.wp == q.G)
            "incorrect position of FEC write pointer bits written"
          dectnrpAssert (final.pdcBitsIdx == q.G)
            "incorrect number of PDC bits written"
          dectnrpAssert (final.pdcSubcIdx == q.nPdcSubc * q.tmMode.nSs)
            "incorrect number of PDC subcarriers written across all transmit streams"
          dectnrpAssert (final.pdcNofCmplxSubcResidual == 0)
            "incorrect number of complex PDC symbols left and PDC_nof_cmplx_subc_residual"
          pure (some (calls, final))

end Transmitter

/-- The data cells of a packet carry its coded bits in order. -/
structure MapsInOrder
    (q : Sp3.PacketSizes)
    (table : ModemTable (Cf Value))
    (capacity : Nat)
    (rows : List (List Nat))
    (calls : List (PdcCall Value TxBuffer Parity))
    (final : PdcMapper Value TxBuffer Parity) :
    Prop where
  /-- One call is made for each symbol with data cells, in their order. -/
  served :
    calls.map PdcCall.kIOneSymbol = rows.filter fun row => !row.isEmpty
  inOrder : ∀ call ∈ calls, call.InOrder q.G capacity
  /-- The cells carry all bits from the first to the last one. -/
  placed :
    calls.flatMap
        (placedSymbols (isTransmitDiversityMode q.tmMode.index)
          q.tmMode.nSs q.tmMode.nTs) =
      table.symbolsFrom final.fec.eBits.octets 0
        (q.nPdcSubc * q.tmMode.nSs)
  allBits : q.nPdcSubc * q.tmMode.nSs * table.nbitsXSymbol = q.G
  bitsIdx : final.pdcBitsIdx = q.G
  subcIdx : final.pdcSubcIdx = q.nPdcSubc * q.tmMode.nSs
  residual : final.pdcNofCmplxSubcResidual = 0
  pointer : final.fec.wp = q.G

/-- What every transmission mode has in common. -/
theorem tmModes_spec :
    ∀ tmMode ∈ Sp3.tmModes,
      0 < tmMode.nSs ∧ tmMode.nSs ≤ 8 ∧ tmMode.nSs ≤ tmMode.nTs ∧
      tmMode.nTs = tmMode.nEffTx ∧ tmMode.nTs ≤ tmMode.nTx ∧
      tmMode.nTs ∈ nTsIdx2NTsVec ∧
      (isTransmitDiversityMode tmMode.index = true →
        tmMode.nSs = 1 ∧
          (tmMode.nTs = 2 ∨ tmMode.nTs = 4 ∨ tmMode.nTs = 8)) := by
  decide

theorem modemTableIndex_spec
    {index : Nat}
    (supported : index ≤ dectnrpMaxMcsIndex)
    {mcs : Sp3.Mcs}
    (isMcs : Sp3.getMcs index = .ok mcs) :
    ModemTable.IsOrder mcs.nBps ∧
      [1, 2, 4, 6, 8][modemTableIndex index]? = some mcs.nBps := by
  have listed : ∀ index ≤ 9, ∀ mcs ∈ Sp3.mcsTable[index]?,
      (mcs.nBps = 1 ∨ mcs.nBps = 2 ∨ mcs.nBps = 4 ∨ mcs.nBps = 6 ∨
          mcs.nBps = 8) ∧
        [1, 2, 4, 6, 8][modemTableIndex index]? = some mcs.nBps := by
    decide
  unfold Sp3.getMcs at isMcs
  split at isMcs
  · rename_i found
    cases isMcs
    exact listed index supported mcs found
  · cases isMcs

variable {qq : Sp3.PacketSizesDef}

variable {q : Sp3.PacketSizes}

theorem getPacketSizes_small
    (returned : Sp3.getPacketSizes qq = .ok (some q))
    {nBps : Nat}
    (isOrder : ModemTable.IsOrder nBps)
    (isG : q.G = q.tmMode.nSs * q.nPdcSubc * nBps) :
    q.G < 2 ^ 31 := by
  have valid := Sp3.valid_of_getPacketSizes returned
  obtain ⟨tmMode, modeMember, mcs, -, -, -, -, sizes⟩ :=
    Sp3.getPacketSizes_sizes returned
  have few := (tmModes_spec tmMode modeMember).2.1
  have narrow : ∀ b ∈ bIdx2bLut, b ≤ 16 := by decide
  have symbols := Sp3.getPacketSizes_nDfSymb_le returned
  rw [sizes.nDfSymb] at symbols
  have cells : Sp3.dataCells qq.u qq.nPacketSymb qq.b tmMode.nEffTx ≤
      1280 * (56 * 16) := by
    unfold Sp3.dataCells
    refine Nat.le_trans (Nat.sub_le _ _) ?_
    refine Nat.le_trans (Nat.sub_le _ _) ?_
    exact
      Nat.mul_le_mul symbols (Nat.mul_le_mul_left 56 (narrow qq.b valid.b_mem))
  have order : nBps ≤ 8 := by
    unfold ModemTable.IsOrder at isOrder
    omega
  rw [isG, sizes.isTmMode, sizes.nPdcSubc]
  calc
    _ ≤ 8 * (1280 * (56 * 16)) * 8 :=
      Nat.mul_le_mul (Nat.mul_le_mul few cells) order
    _ < 2 ^ 31 := by decide

/-- After all data cells are filled, everything is used up. -/
theorem Mapped.finished
    {settings : PdcSettings Value TxBuffer Parity}
    (suits : settings.Suits)
    {used : Nat}
    {mapper : PdcMapper Value TxBuffer Parity}
    (mapped : Mapped settings used mapper)
    (all : settings.nBps * used = settings.G) :
    mapper.fec.wp = settings.G ∧
      mapper.pdcBitsIdx = settings.G ∧
      mapper.pdcSubcIdx = used ∧
      mapper.pdcNofCmplxSubcResidual = 0 := by
  have bitsIdx : mapper.pdcBitsIdx = settings.G := by
    rw [mapped.fetched, all, fetched_all (by decide)]
  have written := mapped.encoded
  rw [bitsIdx] at written
  refine ⟨Nat.le_antisymm
      (mapped.follows.wp_le suits.blocks suits.wholeSymbols) written,
      bitsIdx, mapped.cells, ?_⟩
  have left := mapped.left
  rw [bitsIdx, ← all, Nat.mul_add] at left
  exact (Nat.mul_eq_zero.mp (Nat.add_left_cancel left)).resolve_left
    suits.order.pos.ne'

variable
  {tx : Transmitter Value TxBuffer Parity}
  {table : ModemTable (Cf Value)}

/-- A packet that passes the assertions fits the tables and has its own. -/
theorem Transmitter.runPacketDimensions_eq_ok
    (accepted : tx.runPacketDimensions q = .ok table) :
    q.psdef.b ≤ tx.maximumPacketSizes.psdef.b ∧
      q.tmMode.nTx ≤ tx.maximumPacketSizes.tmMode.nTx ∧
      q.psdef.mcsIndex ≤ dectnrpMaxMcsIndex ∧
      tx.srsranModemTable.table (modemTableIndex q.psdef.mcsIndex) =
        table := by
  unfold runPacketDimensions at accepted
  obtain ⟨_, -, accepted⟩ := bind_eq_ok.mp accepted
  obtain ⟨_, -, accepted⟩ := bind_eq_ok.mp accepted
  obtain ⟨_, narrow, accepted⟩ := bind_eq_ok.mp accepted
  obtain ⟨_, antennas, accepted⟩ := bind_eq_ok.mp accepted
  obtain ⟨_, -, accepted⟩ := bind_eq_ok.mp accepted
  obtain ⟨_, supported, accepted⟩ := bind_eq_ok.mp accepted
  exact ⟨of_decide_eq_true (dectnrpAssert_eq_ok.mp narrow),
      of_decide_eq_true (dectnrpAssert_eq_ok.mp antennas),
      of_decide_eq_true (dectnrpAssert_eq_ok.mp supported),
      Except.ok.inj accepted⟩

/-- The buffer has room for a symbol of a packet and what may be left. -/
theorem Transmitter.room
    (tx : Transmitter Value TxBuffer Parity)
    {b : Nat}
    (narrow : b ≤ tx.maximumPacketSizes.psdef.b)
    {tmMode : Sp3.TmMode}
    (modeMember : tmMode ∈ Sp3.tmModes)
    (antennas : tmMode.nTx ≤ tx.maximumPacketSizes.tmMode.nTx) :
    tmMode.nSs * (56 * b) + 23 ≤ tx.nofPdcCmplxSymbols := by
  obtain ⟨-, -, fewerSs, -, fewerTs, -⟩ := tmModes_spec tmMode modeMember
  obtain ⟨name, isMaximum⟩ := tx.isMaximum
  obtain ⟨psdef, maxReturned, maxSs, -⟩ :=
    Sp3.getMaximumPacketSizes_streams isMaximum
  obtain ⟨_, -, _, -, -, -, -, maxSizes⟩ :=
    Sp3.getPacketSizes_sizes maxReturned
  rw [maxSizes.psdef] at narrow
  unfold nofPdcCmplxSymbols
  rw [(Sp3.getPacketSizes_segmentation maxReturned).1]
  refine Nat.add_le_add_right (Nat.mul_le_mul ?_ (by omega)) 23
  rw [maxSs]
  omega

/-- The configured table has the rows of a packet that fits. -/
theorem Transmitter.holdsTable
    (tx : Transmitter Value TxBuffer Parity)
    {b : Nat}
    (bValid : b ∈ bIdx2bLut)
    (narrow : b ≤ tx.maximumPacketSizes.psdef.b)
    {tmMode : Sp3.TmMode}
    (modeMember : tmMode ∈ Sp3.tmModes)
    (antennas : tmMode.nTx ≤ tx.maximumPacketSizes.tmMode.nTx)
    {pccLinear : List Nat}
    (created : Pcc.getKILinear b tmMode.nTs = .ok pccLinear) :
    Pdc.HoldsTable (tx.pdc.setConfiguration b tmMode.nTs) b tmMode.nTs
      pccLinear := by
  obtain ⟨-, -, -, -, fewerTs, nTsValid, -⟩ := tmModes_spec tmMode modeMember
  obtain ⟨name, isMaximum⟩ := tx.isMaximum
  obtain ⟨psdef, maxReturned, -, maxTs⟩ :=
    Sp3.getMaximumPacketSizes_streams isMaximum
  have maxValid := Sp3.valid_of_getPacketSizes maxReturned
  obtain ⟨maxMode, maxMember, _, -, -, -, -, maxSizes⟩ :=
    Sp3.getPacketSizes_sizes maxReturned
  have maxTsValid := (tmModes_spec maxMode maxMember).2.2.2.2.2.1
  rw [maxSizes.psdef] at narrow
  rw [maxSizes.isTmMode] at maxTs antennas
  obtain ⟨pdc, isPdc, holds⟩ := Pdc.create_spec maxValid.b_mem maxTsValid
  have samePdc : tx.pdc = pdc := by
    have both := tx.isPdc
    rw [maxSizes.psdef, maxSizes.isTmMode, isPdc] at both
    exact (Except.ok.inj both).symm
  rw [samePdc]
  exact holds b bValid narrow _ nTsValid (by omega) pccLinear created

/-- What the symbols of a packet are mapped with. -/
def Transmitter.settings
    (tx : Transmitter Value TxBuffer Parity)
    (q : Sp3.PacketSizes)
    (table : ModemTable (Cf Value))
    (cbSegm : CbSegm)
    (rv : Nat)
    (a : Memory)
    (maxCb fuel : Nat) :
    PdcSettings Value TxBuffer Parity where
  srsranModemTableEffective := table
  library := tx.library
  maxCb := maxCb
  srsranCbsegm := cbSegm
  nSs := q.tmMode.nSs
  nTs := q.tmMode.nTs
  transmitDiversityMode := isTransmitDiversityMode q.tmMode.index
  nBps := q.mcs.nBps
  rv := rv
  G := q.G
  a := a
  fuel := fuel

/-- Nothing was fetched, encoded or placed when a packet starts. -/
theorem Transmitter.mapped_start
    (tx : Transmitter Value TxBuffer Parity)
    (settings : PdcSettings Value TxBuffer Parity) :
    Mapped settings 0 tx.startMapper where
  follows := encoderFollows_fresh _
  fetched := (fetched_zero (by decide) _).symm
  left := rfl
  cells := rfl
  encoded := Nat.zero_le _
  front index inside := absurd inside (Nat.not_lt_zero index)

/-- A packet is sent with nothing left over, and its cells are in order. -/
theorem generateTxPacket_spec
    {rv : Nat}
    {matching : TurboEncoder TxBuffer Parity}
    {routines : BitRoutines}
    {srsranSequence : ScramblingSequence}
    (isLibrary : tx.library = matching.withScrambling routines srsranSequence)
    (inPlace : MatchesInPlace matching rv)
    (returned : Sp3.getPacketSizes qq = .ok (some q))
    (accepted : tx.runPacketDimensions q = .ok table)
    {maxCb fuel : Nat}
    (capacity : q.C ≤ maxCb)
    (enough : q.C < fuel)
    (a : Memory)
    (transmitStreamsStages : Nat → Nat → Nat → Cf Value) :
    ∃ pccLinear calls final,
      Pcc.getKILinear q.psdef.b q.tmMode.nTs = .ok pccLinear ∧
      tx.generateTxPacket q rv a maxCb fuel transmitStreamsStages =
        .ok (some (calls, final)) ∧
      MapsInOrder q table tx.nofPdcCmplxSymbols
        ((List.range' 1 q.nDfSymb).map
          (rowAt q.psdef.b q.tmMode.nTs pccLinear))
        calls final := by
  have bValid := (Sp3.valid_of_getPacketSizes returned).b_mem
  obtain ⟨tmMode, modeMember, mcs, -, -, isMcs, packetValid, sizes⟩ :=
    Sp3.getPacketSizes_sizes returned
  obtain ⟨-, hasCells, cbSegm, segmented, noFiller, blocks, isC⟩ :=
    Sp3.getPacketSizes_segmentation returned
  obtain ⟨narrow, antennas, supported, isTable⟩ :=
    Transmitter.runPacketDimensions_eq_ok accepted
  have isTmMode := sizes.isTmMode
  rw [sizes.psdef] at narrow supported isTable ⊢
  subst isTmMode
  obtain ⟨positiveSs, -, -, isTs, -, nTsValid, diversity⟩ :=
    tmModes_spec q.tmMode modeMember
  obtain ⟨isOrder, isEntry⟩ := modemTableIndex_spec supported isMcs
  have nbits : table.nbitsXSymbol = mcs.nBps := by
    rw [← isTable]
    exact tx.srsranModemTable.orders _ _ isEntry
  have isG : q.G = q.tmMode.nSs * q.nPdcSubc * mcs.nBps := by
    rw [sizes.G, sizes.nPdcSubc]
    rfl
  obtain ⟨pccLinear, created, allocation⟩ :=
    Pcc.getKILinear_spec bValid nTsValid
  have isMcs := sizes.isMcs
  subst isMcs
  let settings := tx.settings q table cbSegm rv a maxCb fuel
  have suits : settings.Suits :=
    { mode := ⟨positiveSs, diversity⟩
      order := isOrder
      table := nbits
      library := ⟨matching, routines, srsranSequence, inPlace, isLibrary⟩
      noFiller := noFiller
      blocks := blocks
      capacity := isC.trans_le capacity
      enough := isC.trans_lt enough
      wholeSymbols := Dvd.intro_left _ isG.symm
      small := getPacketSizes_small returned isOrder isG }
  have cells :
      nofCells qq.b q.tmMode.nTs pccLinear 1 q.nDfSymb = q.nPdcSubc := by
    rw [isTs] at allocation ⊢
    rw [sizes.nPdcSubc] at hasCells ⊢
    rw [sizes.nDfSymb]
    exact Pdc.sum_length_rowAt bValid packetValid allocation hasCells
  have all : settings.nBps * (0 + settings.nSs * q.nPdcSubc) = q.G := by
    rw [isG, Nat.zero_add, Nat.mul_comm]
    rfl
  obtain ⟨calls, final, isRun, placed⟩ :=
    @runSymbols_spec _ _ _ _ settings suits qq.b q.tmMode.nTs pccLinear
      bValid nTsValid created allocation _
      (tx.room narrow modeMember antennas) transmitStreamsStages _
      (tx.holdsTable bValid narrow modeMember antennas created) 1 q.nDfSymb 0
      (Nat.le_refl 1) _ (tx.mapped_start settings)
      (by rw [cells]; exact Nat.le_of_eq all) (.inl rfl)
  have isSum : (((List.range' 1 q.nDfSymb).map
      (rowAt qq.b q.tmMode.nTs pccLinear)).map List.length).sum =
        q.nPdcSubc := by
    rw [← cells, nofCells, List.map_map]
    rfl
  have isOrdered := placed.placed
  have mapped := placed.mapped
  rw [isSum] at isOrdered mapped
  obtain ⟨pointer, bitsIdx, subcIdx, residual⟩ := mapped.finished suits all
  rw [Nat.zero_add, Nat.mul_comm] at subcIdx
  rw [Nat.mul_comm settings.nSs] at isOrdered
  refine ⟨pccLinear, calls, final, created, ?_, ?_⟩
  · rw [Transmitter.generateTxPacket, accepted, ok_bind, sizes.psdef,
      segmented]
    unfold settings Transmitter.settings at isRun pointer bitsIdx subcIdx
    dsimp only at pointer bitsIdx subcIdx
    dsimp only
    rw [isRun, ok_bind]
    dsimp only
    simp only [pointer, bitsIdx, subcIdx, residual, beq_self_eq_true,
      dectnrpAssert_true, ok_bind, Checked.pure_eq_ok]
  · exact
      { served := placed.served
        inOrder := placed.inOrder
        placed := isOrdered
        allBits := by
          rw [isG, nbits]
          ring
        bitsIdx := bitsIdx
        subcIdx := subcIdx
        residual := residual
        pointer := pointer }

/--
For every packet that passes the assertions on its dimensions, the data cells
carry the symbols of all coded bits in order.  No call needs fewer symbols than
are left, reads within an octet, reads a bit before it is encoded or leaves the
buffer, and nothing is left in the end.
-/
theorem generateTxPacket_mapsInOrder
    {tx : Transmitter Value TxBuffer Parity}
    {rv : Nat}
    {matching : TurboEncoder TxBuffer Parity}
    {routines : BitRoutines}
    {srsranSequence : ScramblingSequence}
    (isLibrary :
      tx.library = matching.withScrambling routines srsranSequence)
    (inPlace : MatchesInPlace matching rv)
    {qq : Sp3.PacketSizesDef}
    {q : Sp3.PacketSizes}
    (returned : Sp3.getPacketSizes qq = .ok (some q))
    {table : ModemTable (Cf Value)}
    (accepted : tx.runPacketDimensions q = .ok table)
    {maxCb fuel : Nat}
    (capacity : q.C ≤ maxCb)
    (enough : q.C < fuel)
    (a : Memory)
    (transmitStreamsStages : Nat → Nat → Nat → Cf Value) :
    ∃ pccLinear calls final,
      Pcc.getKILinear q.psdef.b q.tmMode.nTs = .ok pccLinear ∧
      tx.generateTxPacket q rv a maxCb fuel transmitStreamsStages =
        .ok (some (calls, final)) ∧
      MapsInOrder q table tx.nofPdcCmplxSymbols
        ((List.range' 1 q.nDfSymb).map
          (rowAt q.psdef.b q.tmMode.nTs pccLinear))
        calls final :=
  generateTxPacket_spec isLibrary inPlace returned accepted capacity enough a
    transmitStreamsStages

end

/-- Values of the bits are their own symbols. -/
def numberSymbol (value : Nat) : Cf Int := ⟨value, 0⟩

@[inherit_doc numberSymbol]
def numberTable (nbitsXSymbol : Nat) : ModemTable (Cf Int) where
  nbitsXSymbol := nbitsXSymbol
  symbolTable := numberSymbol
  symbolTableBpsk byte :=
    [numberSymbol (byte / 128 % 2), numberSymbol (byte / 64 % 2),
      numberSymbol (byte / 32 % 2), numberSymbol (byte / 16 % 2),
      numberSymbol (byte / 8 % 2), numberSymbol (byte / 4 % 2),
      numberSymbol (byte / 2 % 2), numberSymbol (byte % 2)]
  symbolTableQpsk byte :=
    [numberSymbol (byte / 64 % 4), numberSymbol (byte / 16 % 4),
      numberSymbol (byte / 4 % 4), numberSymbol (byte % 4)]
  symbolTable16qam byte :=
    [numberSymbol (byte / 16 % 16), numberSymbol (byte % 16)]
  isBpsk _ := rfl
  isQpsk _ := rfl
  is16qam _ := rfl

/-- Tables of all modulations. -/
def numberTables : ModemTables Int where
  table index := numberTable ([1, 2, 4, 6, 8][index]?.getD 0)
  orders index order found := by
    rw [found]
    rfl

/-- A transmitter of the smallest class sends a packet of one stream. -/
theorem generateTxPacket_mapsInOrder_oneStream :
    ∃ (tx : Transmitter Int Unit Unit) (q : Sp3.PacketSizes)
        (table : ModemTable (Cf Int)) (pccLinear : List Nat)
        (calls : List (PdcCall Int Unit Unit))
        (final : PdcMapper Int Unit Unit),
      Sp3.getPacketSizes ⟨1, 1, 0, 2, 0, 1, 2048⟩ = .ok (some q) ∧
      tx.runPacketDimensions q = .ok table ∧
      Pcc.getKILinear q.psdef.b q.tmMode.nTs = .ok pccLinear ∧
      tx.generateTxPacket q 0 (fun _ => 0) q.C (q.C + 1)
          (fun _ _ _ => 0) =
        .ok (some (calls, final)) ∧
      MapsInOrder q table tx.nofPdcCmplxSymbols
        ((List.range' 1 q.nDfSymb).map
          (rowAt q.psdef.b q.tmMode.nTs pccLinear))
        calls final := by
  have listed :
      (Sp3.getMaximumPacketSizes "1.1.1.A").toOption.any (fun maximum =>
        (Sp3.getPacketSizes ⟨1, 1, 0, 2, 0, 1, 2048⟩).toOption.join.any
          (fun q =>
            decide
              (q.psdef.Z = maximum.psdef.Z ∧
                q.psdef.u ≤ maximum.psdef.u ∧
                q.psdef.b ≤ maximum.psdef.b ∧
                q.tmMode.nTx ≤ maximum.tmMode.nTx ∧
                q.psdef.mcsIndex ≤ maximum.mcs.index ∧
                q.psdef.mcsIndex ≤ dectnrpMaxMcsIndex ∧
                maximum.psdef.b ∈ bIdx2bLut ∧
                maximum.tmMode.nTs ∈ nTsIdx2NTsVec))) = true := by
    decide +kernel
  obtain ⟨maximum, isMaximum, listed⟩ := (Option.any_eq_true _ _).mp listed
  obtain ⟨q, isQ, listed⟩ := (Option.any_eq_true _ _).mp listed
  obtain ⟨sameZ, sameU, sameB, antennas, allowed, supported, bValid,
    nTsValid⟩ := of_decide_eq_true listed
  have returned := Checked.eq_ok_of_toOption (Option.join_eq_some_iff.mp isQ)
  have created := Checked.eq_ok_of_toOption isMaximum
  obtain ⟨pdc, isPdc, -⟩ := Pdc.create_spec bValid nTsValid
  let tx : Transmitter Int Unit Unit :=
    { maximumPacketSizes := maximum
      srsranModemTable := numberTables
      library := zeroEncoder.withScrambling .padded .ones
      pdc := pdc
      mapper := ⟨filledTransmitter, fun _ => 0, fun _ => 0, 0, 0, 0⟩
      isMaximum := ⟨"1.1.1.A", created⟩
      isPdc := isPdc }
  have accepted :
      tx.runPacketDimensions q =
        .ok (numberTables.table (modemTableIndex q.psdef.mcsIndex)) := by
    simp only [Transmitter.runPacketDimensions, tx, sameZ, sameU, sameB,
      antennas, allowed, supported, beq_self_eq_true, decide_true,
      dectnrpAssert_true, Checked.ok_bind, Checked.pure_eq_ok]
  obtain ⟨pccLinear, calls, final, isPcc, sent, mapped⟩ :=
    @generateTxPacket_mapsInOrder _ _ _ _ tx 0 zeroEncoder .padded .ones
      rfl (zeroEncoder_matchesInPlace 0) _ q returned _ accepted q.C
      (q.C + 1) (Nat.le_refl _) (Nat.lt_succ_self _) (fun _ => 0)
      (fun _ _ _ => 0)
  exact
    ⟨tx, q, _, pccLinear, calls, final, returned, accepted, isPcc, sent,
      mapped⟩

/-- There are packets with ten bits per symbol, which no transmitter sends. -/
theorem generateTxPacket_refusesTenBits :
    ∃ q,
      Sp3.getPacketSizes ⟨1, 1, 0, 2, 0, 10, 2048⟩ = .ok (some q) ∧
      q.mcs.nBps = 10 ∧
      ∀ (tx : Transmitter Int Unit Unit) (rv : Nat) (a : Memory)
          (maxCb fuel : Nat)
          (transmitStreamsStages : Nat → Nat → Nat → Cf Int)
          (sent :
            Option (List (PdcCall Int Unit Unit) × PdcMapper Int Unit Unit)),
        tx.generateTxPacket q rv a maxCb fuel transmitStreamsStages ≠
          .ok sent := by
  have listed :
      (Sp3.getPacketSizes ⟨1, 1, 0, 2, 0, 10, 2048⟩).toOption.join.any
        (fun q => decide (q.mcs.nBps = 10 ∧ q.psdef.mcsIndex = 10)) =
          true := by
    decide +kernel
  obtain ⟨q, isQ, listed⟩ := (Option.any_eq_true _ _).mp listed
  obtain ⟨tenBits, isIndex⟩ := of_decide_eq_true listed
  refine ⟨q, ?_, tenBits, ?_⟩
  · exact Checked.eq_ok_of_toOption (Option.join_eq_some_iff.mp isQ)
  · intro tx rv a maxCb fuel transmitStreamsStages sent isSent
    rw [Transmitter.generateTxPacket] at isSent
    obtain ⟨_, accepted, -⟩ := Checked.bind_eq_ok.mp isSent
    unfold Transmitter.runPacketDimensions at accepted
    obtain ⟨_, -, accepted⟩ := Checked.bind_eq_ok.mp accepted
    obtain ⟨_, -, accepted⟩ := Checked.bind_eq_ok.mp accepted
    obtain ⟨_, -, accepted⟩ := Checked.bind_eq_ok.mp accepted
    obtain ⟨_, -, accepted⟩ := Checked.bind_eq_ok.mp accepted
    obtain ⟨_, -, accepted⟩ := Checked.bind_eq_ok.mp accepted
    obtain ⟨_, supported, -⟩ := Checked.bind_eq_ok.mp accepted
    have small := of_decide_eq_true (dectnrpAssert_eq_ok.mp supported)
    rw [isIndex] at small
    exact absurd small (by decide)

end Tx

end DectNrp
