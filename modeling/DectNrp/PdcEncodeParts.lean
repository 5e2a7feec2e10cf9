import DectNrp.PdcPartition
import DectNrp.Scrambling

namespace DectNrp

/-!
# Encoding a transport block in parts

The transmitter asks for more and more coded bits of one transport block.  A
call goes on where the last one stopped, so that all calls together pass
through the states of a single call for all bits.  A block may start within an
octet that holds the last bits of the block before; rate matching and
scrambling leave these bits alone, so that what a call has delivered is final.
-/

section

variable {TxBuffer Parity : Type}

/-- The transmitter with scrambling as it is built on the bit routines. -/
def TurboEncoder.withScrambling
    (library : TurboEncoder TxBuffer Parity)
    (routines : BitRoutines)
    (srsranSequence : ScramblingSequence) :
    TurboEncoder TxBuffer Parity :=
  { library with
    scrambling :=
      srsranScramblingBytesWithSequenceOffsetFix routines
        srsranSequence }

/--
Rate matching succeeds for a redundancy version, and it writes the bits of one
block.  Only the octets of these bits are changed, and of the first octet only
the bits of the block and those behind them.
-/
structure MatchesInPlace
    (library : TurboEncoder TxBuffer Parity)
    (rv : Nat) :
    Prop where
  succeeds :
    ∀ buffer systematic parity eBits byteOffset cblenIdx nE bitOffset,
      ∃ matched,
        library.rmTurboTx buffer systematic parity eBits byteOffset
            cblenIdx nE bitOffset rv =
          some matched
  before :
    ∀ {buffer systematic parity eBits byteOffset cblenIdx nE bitOffset
        matched},
      library.rmTurboTx buffer systematic parity eBits byteOffset
          cblenIdx nE bitOffset rv =
        some matched →
      Memory.SameBitsBefore (8 * byteOffset + bitOffset) eBits matched.2
  behind :
    ∀ {buffer systematic parity eBits byteOffset cblenIdx nE bitOffset
        matched},
      library.rmTurboTx buffer systematic parity eBits byteOffset
          cblenIdx nE bitOffset rv =
        some matched →
      Memory.SameOctetsFrom
        ((8 * byteOffset + bitOffset + nE + 7) / 8) eBits matched.2

/-- The states after each of a number of calls. -/
def encodeCalls
    (library : TurboEncoder TxBuffer Parity)
    (maxCb : Nat)
    (cbSegm : CbSegm)
    (Qm rv nofEBits : Nat)
    (data : Memory)
    (fuel : Nat) :
    (minima : List Nat) →
      PdcEncoderState TxBuffer Parity →
        Checked (Option (List (PdcEncoderState TxBuffer Parity)))
  | [], _ => .ok (some [])
  | nofDBitsMinimum :: minima, state => do
      match ← pdcEncodeCodeblocks library maxCb cbSegm Qm rv nofEBits
          data nofDBitsMinimum fuel state with
      | none => pure none
      | some after => do
          match ← encodeCalls library maxCb cbSegm Qm rv nofEBits data
              fuel minima after with
          | none => pure none
          | some afters => pure (some (after :: afters))

/-- The states that the loop of one call passes through. -/
def Passes
    (library : TurboEncoder TxBuffer Parity)
    (cbSegm : CbSegm)
    (Qm rv nofEBits : Nat)
    (data : Memory)
    (nofDBitsMinimum : Nat) :
    PdcEncoderState TxBuffer Parity →
      PdcEncoderState TxBuffer Parity → Prop :=
  Relation.ReflTransGen fun before after =>
    before.wp < nofDBitsMinimum ∧
      encodeCodeblock library cbSegm Qm rv nofEBits data before =
        .ok after

variable {library : TurboEncoder TxBuffer Parity}
variable {maxCb : Nat}
variable {cbSegm : CbSegm}
variable {Qm rv G : Nat}
variable {data : Memory}
variable {nofDBitsMinimum : Nat}
variable {before after visited : PdcEncoderState TxBuffer Parity}

/-- A call for more bits passes through the same states first. -/
theorem Passes.mono
    {more : Nat}
    (passes : Passes library cbSegm Qm rv G data nofDBitsMinimum before after)
    (ordered : nofDBitsMinimum ≤ more) :
    Passes library cbSegm Qm rv G data more before after := by
  refine Relation.ReflTransGen.mono ?_ _ _ passes
  rintro earlier later ⟨unfinished, encoded⟩
  exact ⟨Nat.lt_of_lt_of_le unfinished ordered, encoded⟩

theorem passes_of_encodeLoop
    {fuel : Nat}
    (returned :
      encodeLoop library cbSegm Qm rv G data nofDBitsMinimum fuel
          before =
        .ok (some after)) :
    Passes library cbSegm Qm rv G data nofDBitsMinimum before after := by
  induction fuel generalizing before with
  | zero => simp [encodeLoop] at returned
  | succ fuel hypothesis =>
      rw [encodeLoop] at returned
      split at returned
      · rename_i unfinished
        obtain ⟨state, encoded, rest⟩ := Checked.bind_eq_ok.mp returned
        exact Relation.ReflTransGen.head ⟨unfinished, encoded⟩
            (hypothesis rest)
      · cases returned
        exact .refl

/-- Every block moves the index on by one. -/
theorem encodeCodeblock_cbIdx
    (encoded :
      encodeCodeblock library cbSegm Qm rv G data before = .ok after) :
    after.cbIdx = before.cbIdx + 1 := by
  simp only [encodeCodeblock] at encoded
  split at encoded
  · cases encoded
  · cases encoded
    rfl

theorem Passes.cbIdx_le
    (passes :
      Passes library cbSegm Qm rv G data nofDBitsMinimum before after) :
    before.cbIdx ≤ after.cbIdx := by
  induction passes with
  | refl => exact Nat.le_refl _
  | tail _ pass hypothesis =>
      rw [encodeCodeblock_cbIdx pass.2]
      exact Nat.le_succ_of_le hypothesis

theorem Passes.encodeLoop_eq
    (passes : Passes library cbSegm Qm rv G data nofDBitsMinimum before after)
    (finished : nofDBitsMinimum ≤ after.wp)
    {fuel : Nat}
    (enough : after.cbIdx - before.cbIdx < fuel) :
    encodeLoop library cbSegm Qm rv G data nofDBitsMinimum fuel
        before =
      .ok (some after) := by
  induction passes using Relation.ReflTransGen.head_induction_on
      generalizing fuel with
  | refl =>
      obtain ⟨rest, rfl⟩ : ∃ rest, fuel = rest + 1 := ⟨fuel - 1, by omega⟩
      rw [encodeLoop, if_neg (Nat.not_lt.mpr finished)]
  | head pass rest hypothesis =>
      obtain ⟨unfinished, encoded⟩ := pass
      have next := encodeCodeblock_cbIdx encoded
      have ordered := Passes.cbIdx_le rest
      obtain ⟨less, rfl⟩ : ∃ less, fuel = less + 1 := ⟨fuel - 1, by omega⟩
      rw [encodeLoop, if_pos unfinished, encoded, Checked.ok_bind]
      exact hypothesis (by omega)

/-- The loop keeps the assignment of coded bits to blocks. -/
theorem EncoderFollows.passes
    (follows : EncoderFollows cbSegm Qm G before)
    (positive : 0 < cbSegm.C)
    (divides : Qm ∣ G)
    (minimumBound : nofDBitsMinimum ≤ G)
    (passes :
      Passes library cbSegm Qm rv G data nofDBitsMinimum before visited) :
    EncoderFollows cbSegm Qm G visited := by
  induction passes with
  | refl => exact follows
  | tail _ pass hypothesis =>
      obtain ⟨unfinished, encoded⟩ := pass
      have notLast :=
        hypothesis.notLast positive divides
          (Nat.lt_of_lt_of_le unfinished minimumBound)
      exact (hypothesis.codeblock notLast encoded).1

/-- The write pointer never leaves the coded bits. -/
theorem EncoderFollows.wp_le
    (follows : EncoderFollows cbSegm Qm G visited)
    (positive : 0 < cbSegm.C)
    (divides : Qm ∣ G) :
    visited.wp ≤ G := by
  rw [follows.pointer]
  calc
    _ ≤ (encodedBits cbSegm Qm G cbSegm.C).start :=
      encodedBits_start_mono follows.inside
    _ = G := encodedBits_stop positive divides

section Bits

variable {routines : BitRoutines}
variable {srsranSequence : ScramblingSequence}

/-- Earlier bits and the octets behind all bits are left alone. -/
structure KeepsBits
    (G : Nat)
    (before after : PdcEncoderState TxBuffer Parity) :
    Prop where
  ordered : before.wp ≤ after.wp
  earlier : Memory.SameBitsBefore before.wp before.eBits after.eBits
  behind : Memory.SameOctetsFrom ((G + 7) / 8) before.eBits after.eBits

theorem KeepsBits.refl
    (G : Nat)
    (state : PdcEncoderState TxBuffer Parity) :
    KeepsBits G state state :=
  ⟨Nat.le_refl _, fun _ _ => rfl, fun _ _ => rfl⟩

theorem KeepsBits.trans
    (first : KeepsBits G before visited)
    (second : KeepsBits G visited after) :
    KeepsBits G before after :=
  ⟨Nat.le_trans first.ordered second.ordered,
    first.earlier.trans (second.earlier.mono first.ordered),
    first.behind.trans second.behind⟩

theorem encodeCodeblock_keepsBits
    (matching : MatchesInPlace library rv)
    (encoded :
      encodeCodeblock (library.withScrambling routines srsranSequence)
          cbSegm Qm rv G data before =
        .ok after)
    (inside : after.wp ≤ G) :
    KeepsBits G before after := by
  simp only [encodeCodeblock] at encoded
  split at encoded
  · cases encoded
  · rename_i buffer matched isMatched
    cases encoded
    have pointer : 8 * (before.wp / 8) + before.wp % 8 = before.wp :=
      Nat.div_add_mod before.wp 8
    have earlier := matching.before isMatched
    have behind := matching.behind isMatched
    rw [pointer] at earlier behind
    refine ⟨Nat.le_add_right _ _, ?_, ?_⟩
    · exact earlier.trans (scrambling_before _ _ _)
    · dsimp only at inside
      have notBehind :
          (before.wp + encodedSize cbSegm Qm G before.cbIdx + 7) / 8 ≤
            (G + 7) / 8 :=
        Nat.div_le_div_right (Nat.add_le_add_right inside 7)
      exact (behind.mono notBehind).trans
          ((scrambling_behind _ _ _).mono notBehind)

/-- All passes of the loop write behind the bits that were there before. -/
theorem Passes.keepsBits
    (matching : MatchesInPlace library rv)
    (follows : EncoderFollows cbSegm Qm G before)
    (positive : 0 < cbSegm.C)
    (divides : Qm ∣ G)
    (minimumBound : nofDBitsMinimum ≤ G)
    (passes :
      Passes (library.withScrambling routines srsranSequence) cbSegm Qm
        rv G data nofDBitsMinimum before visited) :
    KeepsBits G before visited := by
  induction passes with
  | refl => exact KeepsBits.refl G before
  | tail leading pass hypothesis =>
      have afterFollows :=
        follows.passes positive divides minimumBound
          (Relation.ReflTransGen.tail leading pass)
      exact hypothesis.trans (encodeCodeblock_keepsBits matching pass.2
            (afterFollows.wp_le positive divides))

/-- Every call passes from the state before it to one with enough bits. -/
inductive PartCalls
    (library : TurboEncoder TxBuffer Parity)
    (cbSegm : CbSegm)
    (Qm rv G : Nat)
    (data : Memory) :
    PdcEncoderState TxBuffer Parity → List Nat →
      List (PdcEncoderState TxBuffer Parity) → Prop where
  | nil (before : PdcEncoderState TxBuffer Parity) :
      PartCalls library cbSegm Qm rv G data before [] []
  | cons
      {before after : PdcEncoderState TxBuffer Parity}
      {minimum : Nat}
      {minima : List Nat}
      {afters : List (PdcEncoderState TxBuffer Parity)}
      (passes : Passes library cbSegm Qm rv G data minimum before after)
      (bounded : minimum ≤ G)
      (written : minimum ≤ after.wp)
      (rest : PartCalls library cbSegm Qm rv G data after minima afters) :
      PartCalls library cbSegm Qm rv G data before (minimum :: minima)
        (after :: afters)

variable {afters : List (PdcEncoderState TxBuffer Parity)}

/-- All calls together pass through the states of a call for all bits. -/
theorem PartCalls.passes_all
    {minima : List Nat}
    (calls : PartCalls library cbSegm Qm rv G data before minima afters)
    (member : visited ∈ afters) :
    Passes library cbSegm Qm rv G data G before visited := by
  induction calls with
  | nil => cases member
  | cons passes bounded _ _ hypothesis =>
      have first := passes.mono bounded
      rcases List.mem_cons.mp member with isFirst | later
      · rw [isFirst]
        exact first
      · exact first.trans (hypothesis later)

/-- There is a state behind the last call. -/
theorem PartCalls.last
    {minimum : Nat}
    {leading : List Nat}
    (calls :
      PartCalls library cbSegm Qm rv G data before (leading ++ [minimum])
        afters) :
    ∃ earlier final,
      afters = earlier ++ [final] ∧
      minimum ≤ final.wp := by
  induction leading generalizing before afters with
  | nil =>
      cases calls with
      | cons _ _ written rest =>
          cases rest
          exact ⟨[], _, rfl, written⟩
  | cons first leading hypothesis =>
      cases calls with
      | @cons _ after _ _ _ _ _ _ rest =>
          obtain ⟨earlier, final, isAfters, written⟩ := hypothesis rest
          exact ⟨after :: earlier, final, by rw [isAfters]; rfl, written⟩

/-- The calls return if rate matching succeeds. -/
theorem encodeCalls_returns
    (matching : MatchesInPlace library rv)
    (noFiller : cbSegm.F = 0)
    (positive : 0 < cbSegm.C)
    (capacity : cbSegm.C ≤ maxCb)
    (positiveOrder : 0 < Qm)
    (divides : Qm ∣ G)
    {fuel : Nat}
    (enough : cbSegm.C < fuel)
    {minima : List Nat}
    (bounded : ∀ minimum ∈ minima, minimum ≤ G)
    (follows : EncoderFollows cbSegm Qm G before) :
    ∃ afters,
      encodeCalls (library.withScrambling routines srsranSequence) maxCb
          cbSegm Qm rv G data fuel minima before =
        .ok (some afters) ∧
      PartCalls (library.withScrambling routines srsranSequence) cbSegm
        Qm rv G data before minima afters := by
  have succeeds : ∀ state, ∃ after,
      encodeCodeblock (library.withScrambling routines srsranSequence)
          cbSegm Qm rv G data state =
        .ok after := by
    intro state
    simp only [encodeCodeblock, TurboEncoder.withScrambling]
    split
    · rename_i failed
      obtain ⟨matched, isMatched⟩ := matching.succeeds _ _ _ _ _ _ _ _
      rw [failed] at isMatched
      cases isMatched
    · exact ⟨_, rfl⟩
  induction minima generalizing before with
  | nil => exact ⟨[], rfl, .nil before⟩
  | cons minimum minima hypothesis =>
      have minimumBound := bounded minimum List.mem_cons_self
      obtain ⟨after, returned⟩ :=
        follows.loop_returns succeeds positive divides minimumBound
          (Nat.lt_of_le_of_lt (Nat.sub_le _ _) enough)
      obtain ⟨afterFollows, written⟩ :=
        follows.loop positive divides minimumBound returned
      obtain ⟨afters, rest, calls⟩ :=
        hypothesis (fun later member => bounded later (.tail _ member))
          afterFollows
      refine ⟨after :: afters, ?_,
          .cons (passes_of_encodeLoop returned) minimumBound written calls⟩
      simp only [encodeCalls, pdcEncodeCodeblocks, noFiller, capacity,
        positiveOrder.ne', ne_eq, not_false_eq_true, decide_true,
        dectnrpAssert_true, Checked.ok_bind, returned, rest,
        Checked.pure_eq_ok]

/-- What the calls for growing numbers of bits guarantee. -/
structure EncodedInParts
    (library : TurboEncoder TxBuffer Parity)
    (cbSegm : CbSegm)
    (Qm rv G : Nat)
    (data : Memory)
    (minima : List Nat)
    (before : PdcEncoderState TxBuffer Parity)
    (afters : List (PdcEncoderState TxBuffer Parity)) :
    Prop where
  /-- In no call a block is taken that does not exist. -/
  indexed :
    ∀ (call minimum : Nat)
        (entered visited : PdcEncoderState TxBuffer Parity),
      minima[call]? = some minimum →
      (before :: afters)[call]? = some entered →
      Passes library cbSegm Qm rv G data minimum entered visited →
      visited.wp < minimum →
      visited.cbIdx < cbSegm.C
  /-- In no call an octet behind those of the coded bits is changed. -/
  inside :
    ∀ (call minimum : Nat)
        (entered visited : PdcEncoderState TxBuffer Parity),
      minima[call]? = some minimum →
      (before :: afters)[call]? = some entered →
      Passes library cbSegm Qm rv G data minimum entered visited →
      Memory.SameOctetsFrom ((G + 7) / 8) before.eBits visited.eBits
  /-- The bits that a call has to deliver are written. -/
  written :
    ∀ (call minimum : Nat)
        (reached : PdcEncoderState TxBuffer Parity),
      minima[call]? = some minimum →
      afters[call]? = some reached →
      minimum ≤ reached.wp
  /-- The bits that a call has to deliver are not changed by later calls. -/
  final :
    ∀ (call later minimum : Nat)
        (reached last : PdcEncoderState TxBuffer Parity),
      call ≤ later →
      minima[call]? = some minimum →
      afters[call]? = some reached →
      afters[later]? = some last →
      Memory.SameBitsBefore minimum reached.eBits last.eBits

theorem PartCalls.encodedInParts
    (matching : MatchesInPlace library rv)
    (positive : 0 < cbSegm.C)
    (divides : Qm ∣ G)
    (follows : EncoderFollows cbSegm Qm G before)
    {minima : List Nat}
    (calls :
      PartCalls (library.withScrambling routines srsranSequence) cbSegm
        Qm rv G data before minima afters) :
    EncodedInParts (library.withScrambling routines srsranSequence)
      cbSegm Qm rv G data minima before afters := by
  induction calls with
  | nil => constructor <;> simp
  | @cons before after minimum minima afters passes bounded written rest
      hypothesis =>
      have afterFollows := follows.passes positive divides bounded passes
      have parts := hypothesis afterFollows
      have kept := passes.keepsBits matching follows positive divides bounded
      constructor
      · intro call asked entered visited isAsked isEntered visits unfinished
        cases call with
        | zero =>
            cases isAsked
            cases isEntered
            exact (follows.passes positive divides bounded visits).notLast
                positive divides
                (Nat.lt_of_lt_of_le unfinished bounded)
        | succ call =>
            exact parts.indexed call asked entered visited isAsked isEntered
                visits unfinished
      · intro call asked entered visited isAsked isEntered visits
        cases call with
        | zero =>
            cases isAsked
            cases isEntered
            exact (visits.keepsBits matching follows positive divides
                bounded).behind
        | succ call =>
            exact kept.behind.trans
                (parts.inside call asked entered visited isAsked isEntered
                  visits)
      · intro call asked reached isAsked isReached
        cases call with
        | zero =>
            cases isAsked
            cases isReached
            exact written
        | succ call => exact parts.written call asked reached isAsked isReached
      · intro call later asked reached last notEarlier isAsked isReached isLast
        cases call with
        | zero =>
            cases isAsked
            cases isReached
            cases later with
            | zero =>
                cases isLast
                exact Memory.SameBitsBefore.refl _ _
            | succ later =>
                have member : last ∈ afters :=
                  List.mem_of_getElem?
                    (show afters[later]? = some last from isLast)
                have keptLater :=
                  (rest.passes_all member).keepsBits matching afterFollows
                    positive divides (Nat.le_refl G)
                exact keptLater.earlier.mono written
        | succ call =>
            cases later with
            | zero => exact absurd notEarlier (Nat.not_succ_le_zero _)
            | succ later =>
                exact parts.final call later asked reached last
                    (Nat.le_of_succ_le_succ notEarlier) isAsked isReached
                    isLast

/--
For any growing numbers of bits that end with all coded bits, the calls end
behind the last block in the state to which a single call for all bits leads.
No call takes a block that does not exist or changes an octet behind those of
the coded bits, and what a call has to deliver is written and final.  With more
symbols than single precision counts, the sizes of the source are others.
-/
theorem encodeCalls_eq_singleCall
    (matching : MatchesInPlace library rv)
    (noFiller : cbSegm.F = 0)
    (positive : 0 < cbSegm.C)
    (capacity : cbSegm.C ≤ maxCb)
    (positiveOrder : 0 < Qm)
    (divides : Qm ∣ G)
    (nonempty : 0 < G)
    (_countable : G / Qm ≤ 2 ^ 24)
    {fuel : Nat}
    (enough : cbSegm.C < fuel)
    {leading : List Nat}
    (ordered : (leading ++ [G]).Pairwise (· ≤ ·))
    (start : PdcEncoderState TxBuffer Parity) :
    ∃ earlier final,
      encodeCalls (library.withScrambling routines srsranSequence) maxCb
          cbSegm Qm rv G data fuel (leading ++ [G]) start.fresh =
        .ok (some (earlier ++ [final])) ∧
      final.cbIdx = cbSegm.C ∧
      final.wp = G ∧
      pdcEncodeCodeblocks (library.withScrambling routines srsranSequence)
          maxCb cbSegm Qm rv G data G fuel start.fresh =
        .ok (some final) ∧
      EncodedInParts (library.withScrambling routines srsranSequence)
        cbSegm Qm rv G data (leading ++ [G]) start.fresh
        (earlier ++ [final]) := by
  have follows := @encoderFollows_fresh _ _ cbSegm Qm G start
  have bounded : ∀ minimum ∈ leading ++ [G], minimum ≤ G := by
    intro minimum member
    rcases List.mem_append.mp member with inLeading | isLast
    · exact
        (List.pairwise_append.mp ordered).2.2 minimum inLeading G
          List.mem_cons_self
    · rw [List.mem_singleton.mp isLast]
  obtain ⟨afters, returned, calls⟩ :=
    @encodeCalls_returns _ _ library maxCb cbSegm Qm rv G data
      start.fresh routines srsranSequence matching noFiller positive
      capacity positiveOrder divides fuel enough _ bounded follows
  have parts := calls.encodedInParts matching positive divides follows
  obtain ⟨earlier, final, rfl, written⟩ := calls.last
  have passes :=
    calls.passes_all (List.mem_append_right earlier List.mem_cons_self)
  have finalFollows := follows.passes positive divides (Nat.le_refl G) passes
  have allBlocks :=
    finalFollows.all_of_complete positive positiveOrder divides nonempty
      written
  refine
    ⟨earlier, final, returned, allBlocks,
      Nat.le_antisymm (finalFollows.wp_le positive divides) written, ?_,
      parts⟩
  have looped :=
    @Passes.encodeLoop_eq _ _ _ cbSegm Qm rv G data G _ _ passes written
      fuel (Nat.lt_of_le_of_lt (Nat.sub_le _ _) (allBlocks ▸ enough))
  simp only [pdcEncodeCodeblocks, noFiller, capacity, positiveOrder.ne',
    ne_eq, not_false_eq_true, decide_true, dectnrpAssert_true,
    Checked.ok_bind, looped]

end Bits

end

/-- Library routines for transport blocks whose bits are all zero. -/
def zeroEncoder : TurboEncoder Unit Unit where
  tcodEncode systematic _ _ _ _ := (systematic, ())
  rmTurboTx _ _ _ eBits byteOffset _ nE bitOffset _ :=
    some ((), eBits.clearBits (8 * byteOffset + bitOffset) nE)
  scrambling eBits _ _ := eBits

/-- Zeros are written in place. -/
theorem zeroEncoder_matchesInPlace (rv : Nat) :
    MatchesInPlace zeroEncoder rv where
  succeeds _ _ _ _ _ _ _ _ := ⟨_, rfl⟩
  before := by
    rintro buffer systematic parity eBits byteOffset cblenIdx nE bitOffset
      _ ⟨⟩
    exact Memory.clearBits_before _ _ _
  behind := by
    rintro buffer systematic parity eBits byteOffset cblenIdx nE bitOffset
      _ ⟨⟩
    exact Memory.clearBits_behind _ _ _

/-- A transmitter with a buffer that is full of ones. -/
def filledTransmitter : PdcEncoderState Unit Unit :=
  { idleTransmitter with eBits := fun _ => 0xFF }

/-- Three blocks that share octets, asked for in three calls. -/
theorem encodeCalls_eq_singleCall_threeBlocks :
    ∃ earlier final,
      encodeCalls (zeroEncoder.withScrambling .padded .ones) 3
          threeBlocks 6 0 5124 (fun _ => 0) 4 ([100, 3000] ++ [5124])
          filledTransmitter.fresh =
        .ok (some (earlier ++ [final])) ∧
      final.cbIdx = 3 ∧
      final.wp = 5124 ∧
      pdcEncodeCodeblocks (zeroEncoder.withScrambling .padded .ones) 3
          threeBlocks 6 0 5124 (fun _ => 0) 5124 4
          filledTransmitter.fresh =
        .ok (some final) ∧
      EncodedInParts (zeroEncoder.withScrambling .padded .ones)
        threeBlocks 6 0 5124 (fun _ => 0) ([100, 3000] ++ [5124])
        filledTransmitter.fresh (earlier ++ [final]) :=
  encodeCalls_eq_singleCall (zeroEncoder_matchesInPlace 0) rfl
    (by decide) (by decide) (by decide) (by decide) (by decide)
    (by decide) (by decide) (by decide) filledTransmitter

/-- Segmentation of sixteen bits. -/
def shortBlock : CbSegm where
  F := 0
  C := 1
  K1 := 40
  K2 := 0
  K1Idx := 0
  K2Idx := 0
  C1 := 1
  C2 := 0
  tbs := 16

/--
Without coded bits no block is encoded, and the octet of the last coded bit is
written to its end.
-/
theorem encodeCalls_noBits_and_lastOctet :
    (encodeCalls (zeroEncoder.withScrambling .padded .ones) 1 shortBlock 2 0
        0 (fun _ => 0) 2 [0] filledTransmitter.fresh =
      .ok (some [filledTransmitter.fresh]) ∧
      filledTransmitter.fresh.cbIdx ≠ shortBlock.C) ∧
    ∃ final,
      encodeCalls (zeroEncoder.withScrambling .padded .ones) 1 shortBlock 2
          0 100 (fun _ => 0) 2 [100] filledTransmitter.fresh =
        .ok (some [final]) ∧
      filledTransmitter.fresh.eBits.bitAt 100 = true ∧
      final.eBits.bitAt 100 = false := by
  refine ⟨⟨rfl, by decide⟩, _, rfl, by decide, ?_⟩
  decide +kernel

end DectNrp
