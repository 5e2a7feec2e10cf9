import DectNrp.MacPduSoundness

namespace DectNrp

/-!
# Receiving transport blocks in parts

While the code blocks of a transport block arrive, the decoder is called with a
growing number of octets.  A reception is the sequence of these calls.  However
the block is cut into parts, the decoder ends in the state that one call on the
whole block leads to, and nothing that an earlier block left behind in the
decoder or in its pool can be seen in what is retrieved.
-/

namespace MacPduDecoder

/--
The calls while one transport block arrives.  At each call the octets written
so far are those of the block, and the others may be anything.
-/
structure Reception where
  block : Memory
  size : Nat
  mu : Nat
  /-- The buffer and the write counter at each call. -/
  calls : List (Memory × Nat)
  nonempty : 0 < size
  /-- Holds for every block: it has an eighth of a 32-bit number of bits. -/
  small : size + 65535 < 2 ^ 32
  muValid : mu = 1 ∨ mu = 2 ∨ mu = 4 ∨ mu = 8
  ordered : calls.Pairwise fun first second => first.2 ≤ second.2
  known : ∀ call ∈ calls, call.2 ≤ size
  /-- No call follows the one with the whole block. -/
  once : ∀ call ∈ calls.dropLast, call.2 < size
  written : ∀ call ∈ calls, ∀ index < call.2, call.1 index = block index

/-- The last call of a reception has the whole block. -/
def Reception.Complete (reception : Reception) : Prop :=
  ∃ leading last,
    reception.calls = leading ++ [last] ∧ last.2 = reception.size

/-- An empty common header and padding, of which the header comes first. -/
def Reception.headerThenPadding : Reception where
  block := Memory.write 0 [0x04, 0x40, 0x01, 0x00] (fun _ => 0)
  size := 4
  mu := 1
  calls :=
    [(Memory.write 0 [0x04] (fun _ => 0xFF), 1),
      (Memory.write 0 [0x04, 0x40, 0x01, 0x00] (fun _ => 0), 4)]
  nonempty := by decide
  small := by decide
  muValid := Or.inl rfl
  ordered := by decide
  known := by decide
  once := by decide
  written := by decide

/-- Decode with one call after the other. -/
def decodeCalls
    (fuel : Nat) :
    List (Memory × Nat) → MacPduDecoder → Checked (Option MacPduDecoder)
  | [], decoder => .ok (some decoder)
  | (a, aCntW) :: calls, decoder => do
      match ← decoder.decode fuel a aCntW with
      | some decoder => decodeCalls fuel calls decoder
      | none => pure none

/-- Configure the decoder for a block and receive it. -/
def receive
    (decoder : MacPduDecoder)
    (fuel : Nat)
    (reception : Reception) :
    Checked (Option MacPduDecoder) := do
  let decoder ← decoder.setConfiguration reception.size reception.mu
  decodeCalls fuel reception.calls decoder

/-- Receive one block after the other. -/
def receiveAll
    (fuel : Nat) :
    List Reception → MacPduDecoder → Checked (Option MacPduDecoder)
  | [], decoder => .ok (some decoder)
  | reception :: receptions, decoder => do
      match ← decoder.receive fuel reception with
      | some decoder => receiveAll fuel receptions decoder
      | none => pure none

/-- A write counter with the octets of the block is all a call sees. -/
theorem decode_congr
    {first second : Memory}
    {limit : Nat}
    (same : ∀ index < limit, first index = second index)
    (decoder : MacPduDecoder)
    (fuel : Nat) :
    decoder.decode fuel first limit = decoder.decode fuel second limit := by
  have sameWindow : first.window 0 limit = second.window 0 limit := by
    refine List.map_congr_left fun index member => ?_
    rw [Nat.zero_add]
    exact same index (List.mem_range.mp member)
  rw [decode, decode, sameWindow]

/-- The decoder is on its way to a settled state, or has finished it. -/
inductive Pending
    (a : Memory)
    (size : Nat)
    (small : size + 65535 < 2 ^ 32)
    (settled : MacPduDecoder)
    (bound limit : Nat)
    (decoder : MacPduDecoder) :
    Prop where
  | underWay
      {steps : Nat}
      (few : steps ≤ bound)
      (trace : (machine a size small).Trace steps decoder settled)
      (reached : decoder.aCntR ≤ limit)
      (typed : decoder.WellTyped)
  | finished
      (isFinished : decoder = settled.finish limit)
      (inside : settled.aCntR ≤ limit)
      (partly : limit < size)
      (typed : decoder.WellTyped)

section Calls

variable
    {a : Memory}
    {size : Nat}
    {small : size + 65535 < 2 ^ 32}
    {settled decoder : MacPduDecoder}
    {bound limit : Nat}

theorem Pending.wellTyped
    (pending : Pending a size small settled bound limit decoder) :
    decoder.WellTyped := by
  cases pending <;> assumption

/-- The size does not change on the way to a settled state. -/
theorem located_of_trace
    {steps : Nat}
    (isSettled : Settled size settled)
    (trace : (machine a size small).Trace steps decoder settled) :
    decoder.aCntWTb = size := by
  cases trace with
  | refl => cases isSettled <;> assumption
  | cons step rest => exact Step.located step

/-- Entering `decode` with a legal write counter. -/
theorem decode_eq_loop
    (located : decoder.aCntWTb = size)
    (known : limit ≤ size)
    (reached : decoder.aCntR ≤ limit)
    (fuel : Nat) :
    decoder.decode fuel a limit =
      loop (a.window 0 limit) limit fuel decoder := by
  simp [decode, located, known, reached]

theorem Pending.decode_part
    (isSettled : Settled size settled)
    (pending : Pending a size small settled bound limit decoder)
    {later : Nat}
    (ordered : limit ≤ later)
    (partly : later < size)
    {fuel : Nat}
    (enough : bound < fuel) :
    ∃ after,
      decoder.decode fuel a later = .ok (some after) ∧
      Pending a size small settled bound later after := by
  have known : later ≤ size := Nat.le_of_lt partly
  cases pending with
  | @underWay steps few trace reached typed =>
      obtain ⟨rest, isFuel⟩ : ∃ rest, fuel = rest + 1 + steps :=
        ⟨fuel - 1 - steps, by omega⟩
      have located := located_of_trace isSettled trace
      have arrived : decoder.aCntR ≤ later := by omega
      have split := trace.call_part arrived known (rest + 1)
      rw [decode_eq_loop located known arrived, isFuel]
      rcases split with ⟨inside, call⟩ |
          ⟨between, made, remaining, leading, trailing, sum, inside, call⟩
      · refine ⟨settled.finish later, ?_, .finished rfl inside partly ?_⟩
        · exact call.trans (isSettled.loop_eq small inside known rest)
        · intro ref
          rw [(settled.finish_retrieval later).2.2.2]
          exact @ResumableMachine.Trace.preserves _ _
            (machine a size small) WellTyped
            (fun step => Step.typed step) _ _ _ trace typed ref
      · refine ⟨between, call, .underWay (by omega) trailing inside ?_⟩
        exact @ResumableMachine.Trace.preserves _ _
          (machine a size small) WellTyped
          (fun step => Step.typed step) _ _ _ leading typed
  | finished isFinished inside before typed =>
      subst isFinished
      obtain ⟨stillSettled, position, again⟩ :=
        isSettled.finish_settled inside before
      have located : (settled.finish limit).aCntWTb = size := by
        cases stillSettled <;> assumption
      have arrived : (settled.finish limit).aCntR ≤ later := by
        rw [position]
        exact ordered
      obtain ⟨rest, isFuel⟩ : ∃ rest, fuel = rest + 1 := ⟨fuel - 1, by omega⟩
      refine ⟨settled.finish later, ?_,
          .finished rfl (Nat.le_trans inside ordered) partly ?_⟩
      · rw [decode_eq_loop located known arrived, isFuel,
          stillSettled.loop_eq small arrived known rest, again later]
      · intro ref
        have samePool := (settled.finish_retrieval limit).2.2.2
        rw [(settled.finish_retrieval later).2.2.2, ← samePool]
        exact typed ref

/-- A call with the whole block finishes the decoder. -/
theorem Pending.decode_total
    (isSettled : Settled size settled)
    (pending : Pending a size small settled bound limit decoder)
    (known : limit ≤ size)
    {fuel : Nat}
    (enough : bound < fuel) :
    decoder.decode fuel a size = .ok (some (settled.finish size)) := by
  cases pending with
  | @underWay steps few trace reached typed =>
      obtain ⟨rest, isFuel⟩ : ∃ rest, fuel = rest + 1 + steps :=
        ⟨fuel - 1 - steps, by omega⟩
      have located := located_of_trace isSettled trace
      have inside : settled.aCntR ≤ size := by cases isSettled <;> omega
      rw [decode_eq_loop located (Nat.le_refl _)
        (Nat.le_trans reached known), isFuel]
      exact (trace.call_total (rest + 1)).trans
        (isSettled.loop_eq small inside (Nat.le_refl _) rest)
  | finished isFinished inside before typed =>
      subst isFinished
      obtain ⟨stillSettled, position, again⟩ :=
        isSettled.finish_settled inside before
      have located : (settled.finish limit).aCntWTb = size := by
        cases stillSettled <;> assumption
      have arrived : (settled.finish limit).aCntR ≤ size := by
        rw [position]
        exact known
      obtain ⟨rest, isFuel⟩ : ∃ rest, fuel = rest + 1 := ⟨fuel - 1, by omega⟩
      rw [decode_eq_loop located (Nat.le_refl _) arrived, isFuel,
        stillSettled.loop_eq small arrived (Nat.le_refl _) rest,
        again size]

end Calls

theorem decodeCalls_append
    (fuel : Nat)
    (first second : List (Memory × Nat))
    {decoder between : MacPduDecoder}
    (leading : decodeCalls fuel first decoder = .ok (some between)) :
    decodeCalls fuel (first ++ second) decoder =
      decodeCalls fuel second between := by
  induction first generalizing decoder with
  | nil =>
      cases leading
      rfl
  | cons call calls hypothesis =>
      obtain ⟨a, aCntW⟩ := call
      rw [decodeCalls] at leading
      rw [List.cons_append, decodeCalls]
      cases decoded : decoder.decode fuel a aCntW with
      | error fault =>
          rw [decoded] at leading
          cases leading
      | ok result =>
          rw [decoded] at leading
          cases result with
          | none => cases leading
          | some next => exact hypothesis leading

variable {fuel : Nat}

/-- Calls with parts of the block keep the decoder pending. -/
theorem Pending.decodeCalls_part
    {a : Memory}
    {size : Nat}
    {small : size + 65535 < 2 ^ 32}
    {settled decoder : MacPduDecoder}
    {bound limit : Nat}
    (isSettled : Settled size settled)
    (pending : Pending a size small settled bound limit decoder)
    (within : limit < size)
    (enough : bound < fuel)
    {calls : List (Memory × Nat)}
    (ordered : calls.Pairwise fun first second => first.2 ≤ second.2)
    (reached : ∀ call ∈ calls, limit ≤ call.2)
    (partly : ∀ call ∈ calls, call.2 < size)
    (written : ∀ call ∈ calls, ∀ index < call.2, call.1 index = a index) :
    ∃ after last,
      decodeCalls fuel calls decoder = .ok (some after) ∧
      Pending a size small settled bound last after ∧
      last < size := by
  induction calls generalizing decoder limit with
  | nil => exact ⟨decoder, limit, rfl, pending, within⟩
  | cons call calls hypothesis =>
      obtain ⟨buffer, aCntW⟩ := call
      have here : (buffer, aCntW) ∈ (buffer, aCntW) :: calls :=
        List.mem_cons_self
      obtain ⟨notBefore, orderedRest⟩ := List.pairwise_cons.mp ordered
      obtain ⟨between, decoded, stillPending⟩ :=
        pending.decode_part isSettled (reached _ here) (partly _ here) enough
      obtain ⟨after, last, rest, isPending, inside⟩ :=
        hypothesis stillPending (partly _ here) orderedRest notBefore
          (fun call member => partly call (.tail _ member))
          (fun call member => written call (.tail _ member))
      refine ⟨after, last, ?_, isPending, inside⟩
      rw [decodeCalls, decode_congr (written _ here), decoded]
      exact rest

variable {decoder : MacPduDecoder}

/-- What a reception starts with and where it leads. -/
theorem Reception.starts
    (reception : Reception)
    (typed : decoder.WellTyped) :
    ∃ settled,
      Settled reception.size settled ∧
      BlockDecoded reception.mu reception.block reception.size settled ∧
      settled.WellTyped ∧
      Pending reception.block reception.size reception.small settled
        (4 * reception.size + 4) 0
        (decoder.configured reception.size reception.mu) := by
  obtain ⟨steps, settled, few, trace, isSettled, decoded⟩ :=
    @configured_run reception.block reception.mu reception.size
      reception.small reception.nonempty
      (mu_hasSingleBit reception.muValid) decoder typed
  refine ⟨settled, isSettled, decoded, ?_,
      .underWay few trace (Nat.le_refl _) typed⟩
  exact @ResumableMachine.Trace.preserves _ _
    (machine reception.block reception.size reception.small) WellTyped
    (fun step => Step.typed step) _ _ _ trace typed

/-- A complete reception finishes the decoder with the whole block. -/
theorem Reception.decodes
    (reception : Reception)
    (complete : reception.Complete)
    {decoder : MacPduDecoder}
    (typed : decoder.WellTyped)
    {fuel : Nat}
    (enough : 4 * reception.size + 5 ≤ fuel) :
    ∃ settled,
      BlockDecoded reception.mu reception.block reception.size settled ∧
      settled.WellTyped ∧
      decodeCalls fuel reception.calls
          (decoder.configured reception.size reception.mu) =
        .ok (some (settled.finish reception.size)) ∧
      (decoder.configured reception.size reception.mu).decode fuel
          reception.block reception.size =
        .ok (some (settled.finish reception.size)) := by
  obtain ⟨leading, ⟨buffer, aCntW⟩, isCalls, isTotal⟩ := complete
  obtain ⟨settled, isSettled, decoded, settledTyped, pending⟩ :=
    reception.starts typed
  have ordered := reception.ordered
  have once := reception.once
  have written := reception.written
  rw [isCalls] at ordered written
  rw [isCalls, List.dropLast_concat] at once
  obtain ⟨between, last, calls, stillPending, inside⟩ :=
    pending.decodeCalls_part isSettled reception.nonempty
      (Nat.lt_of_lt_of_le (Nat.lt_succ_self _) enough)
      (List.pairwise_append.mp ordered).1
      (fun call _ => Nat.zero_le call.2) once
      (fun call member => written call (List.mem_append_left _ member))
  have finished :=
    stillPending.decode_total isSettled (Nat.le_of_lt inside)
      (Nat.lt_of_lt_of_le (Nat.lt_succ_self _) enough)
  refine ⟨settled, decoded, settledTyped, ?_, ?_⟩
  · have sameOctets :=
      written (buffer, aCntW) (List.mem_append_right _ List.mem_cons_self)
    rw [isCalls, decodeCalls_append fuel leading _ calls, decodeCalls,
      decode_congr sameOctets]
    simp only at isTotal
    rw [isTotal, finished]
    rfl
  · exact pending.decode_total isSettled (Nat.zero_le _)
      (Nat.lt_of_lt_of_le (Nat.lt_succ_self _) enough)

theorem receive_wellTyped
    (reception : Reception)
    (typed : decoder.WellTyped)
    (enough : 4 * reception.size + 5 ≤ fuel) :
    ∃ after,
      decoder.receive fuel reception = .ok (some after) ∧
      after.WellTyped := by
  rw [receive, setConfiguration_eq reception.nonempty, Checked.ok_bind]
  by_cases partly : ∀ call ∈ reception.calls, call.2 < reception.size
  · obtain ⟨settled, isSettled, -, -, pending⟩ := reception.starts typed
    obtain ⟨after, last, calls, stillPending, -⟩ :=
      pending.decodeCalls_part isSettled reception.nonempty
        (Nat.lt_of_lt_of_le (Nat.lt_succ_self _) enough)
        reception.ordered (fun call _ => Nat.zero_le call.2) partly
        reception.written
    exact ⟨after, calls, stillPending.wellTyped⟩
  · -- only the last call can have the whole block
    have complete : reception.Complete := by
      simp only [not_forall] at partly
      obtain ⟨call, member, notPartly⟩ := partly
      rcases List.eq_nil_or_concat' reception.calls with
          noCalls | ⟨leading, last, isCalls⟩
      · rw [noCalls] at member
        cases member
      · have isTotal := reception.known call member
        refine ⟨leading, last, isCalls, ?_⟩
        have once := reception.once
        rw [isCalls, List.dropLast_concat] at once
        rw [isCalls] at member
        rcases List.mem_append.mp member with inLeading | isLast
        · exact absurd (once call inLeading) notPartly
        · rw [List.mem_singleton] at isLast
          subst isLast
          omega
    obtain ⟨settled, -, settledTyped, calls, -⟩ :=
      reception.decodes complete typed enough
    refine ⟨_, calls, ?_⟩
    intro ref
    rw [(settled.finish_retrieval reception.size).2.2.2]
    exact settledTyped ref

/-- A number of receptions leaves a decoder for the next one. -/
theorem receiveAll_wellTyped
    {receptions : List Reception}
    (typed : decoder.WellTyped)
    (enough : ∀ reception ∈ receptions, 4 * reception.size + 5 ≤ fuel) :
    ∃ after,
      receiveAll fuel receptions decoder = .ok (some after) ∧
      after.WellTyped := by
  induction receptions generalizing decoder with
  | nil => exact ⟨decoder, rfl, typed⟩
  | cons reception receptions hypothesis =>
      obtain ⟨between, received, betweenTyped⟩ :=
        receive_wellTyped reception typed (enough reception List.mem_cons_self)
      obtain ⟨after, rest, afterTyped⟩ :=
        hypothesis betweenTyped
          (fun reception member => enough reception (.tail _ member))
      refine ⟨after, ?_, afterTyped⟩
      rw [receiveAll, received]
      exact rest

/--
Decoding while the octets arrive, cut anywhere and with anything in the octets
that are not yet written, leads to the decoder that one call on the whole block
leads to.  No call fails or reads an octet that is not yet written.
-/
theorem receive_eq_decode
    (reception : Reception)
    (complete : reception.Complete)
    {decoder : MacPduDecoder}
    (typed : decoder.WellTyped)
    {fuel : Nat}
    (enough : 4 * reception.size + 5 ≤ fuel) :
    ∃ final,
      decoder.receive fuel reception = .ok (some final) ∧
      (do
        let decoder ←
          decoder.setConfiguration reception.size reception.mu
        decoder.decode fuel reception.block reception.size) =
        .ok (some final) := by
  obtain ⟨settled, -, -, calls, oneCall⟩ :=
    reception.decodes complete typed enough
  refine ⟨settled.finish reception.size, ?_, ?_⟩
  · rw [receive, setConfiguration_eq reception.nonempty,
      Checked.ok_bind, calls]
  · rw [setConfiguration_eq reception.nonempty, Checked.ok_bind,
      oneCall]

theorem receive_eq_decode_headerThenPadding :
    ∃ final,
      construct.receive 21 .headerThenPadding = .ok (some final) ∧
      (do
        let decoder ← construct.setConfiguration 4 1
        decoder.decode 21 Reception.headerThenPadding.block 4) =
        .ok (some final) :=
  receive_eq_decode .headerThenPadding ⟨[_], _, rfl, rfl⟩
    construct_wellTyped (by decide)

/--
What is retrieved after a block does not depend on the blocks received before:
it is what a new decoder retrieves that is given this block only.
-/
theorem receive_stateless
    (earlier : List Reception)
    (reception : Reception)
    (complete : reception.Complete)
    {fuel : Nat}
    (enough :
      ∀ received ∈ reception :: earlier, 4 * received.size + 5 ≤ fuel) :
    ∃ before final fresh,
      receiveAll fuel earlier construct = .ok (some before) ∧
      before.receive fuel reception = .ok (some final) ∧
      (do
        let decoder ←
          construct.setConfiguration reception.size reception.mu
        decoder.decode fuel reception.block reception.size) =
        .ok (some fresh) ∧
      final.getMacHeaderType = fresh.getMacHeaderType ∧
      final.getMacCommonHeader = fresh.getMacCommonHeader ∧
      final.decodedMmies = fresh.decodedMmies := by
  have enoughHere := enough reception List.mem_cons_self
  obtain ⟨before, received, typed⟩ :=
    receiveAll_wellTyped construct_wellTyped
      (fun received member => enough received (.tail _ member))
  obtain ⟨settled, decoded, -, calls, -⟩ :=
    reception.decodes complete typed enoughHere
  obtain ⟨fresh, decodedFresh, -, -, oneCall⟩ :=
    reception.decodes complete construct_wellTyped enoughHere
  refine
    ⟨before, settled.finish reception.size, fresh.finish reception.size,
      received, ?_, ?_, ?_, ?_, ?_⟩
  · rw [receive, setConfiguration_eq reception.nonempty,
      Checked.ok_bind, calls]
  · rw [setConfiguration_eq reception.nonempty, Checked.ok_bind,
      oneCall]
  · rw [(settled.finish_retrieval _).1, (fresh.finish_retrieval _).1,
      decoded.headerType, decodedFresh.headerType]
  · rw [(settled.finish_retrieval _).2.1,
      (fresh.finish_retrieval _).2.1, decoded.commonHeader,
      decodedFresh.commonHeader]
  · rw [finish_decodedMmies, finish_decodedMmies]
    exact decoded.elements.unique decodedFresh.elements

theorem receive_stateless_headerThenPadding :
    ∃ before final fresh,
      receiveAll 21 [.headerThenPadding] construct =
        .ok (some before) ∧
      before.receive 21 .headerThenPadding = .ok (some final) ∧
      (do
        let decoder ← construct.setConfiguration 4 1
        decoder.decode 21 Reception.headerThenPadding.block 4) =
        .ok (some fresh) ∧
      final.getMacHeaderType = fresh.getMacHeaderType ∧
      final.getMacCommonHeader = fresh.getMacCommonHeader ∧
      final.decodedMmies = fresh.decodedMmies :=
  receive_stateless [.headerThenPadding] .headerThenPadding
    ⟨[_], _, rfl, rfl⟩ (by decide)

end MacPduDecoder

end DectNrp
