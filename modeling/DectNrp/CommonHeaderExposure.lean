import DectNrp.MacPduReception

namespace DectNrp

/-!
# Exposure of the common header

The decoder announces a common header as soon as the header type is known, and
withdraws it when unpacking fails.  A transport block that ends before its
common header ends is given up at the head of the loop, where nothing is
withdrawn.
-/

namespace MacPduDecoder

open MacPdu (commonHeaderLayout commonHeaderOf)

/-- The common header of the announced type lies within the block. -/
def ContainsCommonHeader
    (a : Memory)
    (size : Nat) :
    Prop :=
  ∀ layout,
    commonHeaderLayout a = some layout →
    1 + layout.getPackedSize ≤ size

/--
A header that is exposed was contained in the block, unpacking it succeeded,
and it is what was unpacked.
-/
def ExposesDecodedHeaderOnly
    (a : Memory)
    (size : Nat)
    (decoder : MacPduDecoder) :
    Prop :=
  ∀ header,
    decoder.getMacCommonHeader = some header →
    ∃ layout,
      commonHeaderLayout a = some layout ∧
      1 + layout.getPackedSize ≤ size ∧
      layout.unpack (a.window 0 size) 1 = .ok (true, header)

variable
  {a : Memory}
  {size : Nat}

theorem commonHeaderOf_contained
    {layout header : MacCommonHeader}
    (isLayout : commonHeaderLayout a = some layout)
    (headerFits : 1 + layout.getPackedSize ≤ size)
    (exposed : commonHeaderOf a size = some header) :
    layout.unpack (a.window 0 size) 1 = .ok (true, header) := by
  rw [commonHeaderOf, isLayout] at exposed
  simp only [if_neg (Nat.not_lt_of_le headerFits)] at exposed
  rw [MacCommonHeader.unpack_window _ headerFits]
  by_cases valid : (layout.decoded a 1).isValid = true
  · rw [if_pos valid, Option.some.injEq] at exposed
    rw [valid, exposed]
  · rw [if_neg valid] at exposed
    cases exposed

theorem commonHeaderOf_cutOff
    {layout : MacCommonHeader}
    (isLayout : commonHeaderLayout a = some layout)
    (cutOff : ¬1 + layout.getPackedSize ≤ size) :
    commonHeaderOf a size = some layout := by
  rw [commonHeaderOf, isLayout]
  simp only [if_pos (Nat.lt_of_not_le cutOff)]

theorem BlockDecoded.exposesDecodedHeaderOnly_iff
    {mu : Nat}
    {decoder : MacPduDecoder}
    (decoded : BlockDecoded mu a size decoder) :
    ExposesDecodedHeaderOnly a size decoder ↔ ContainsCommonHeader a size := by
  rw [ExposesDecodedHeaderOnly, decoded.commonHeader]
  constructor
  · intro exposes layout isLayout
    by_contra cutOff
    obtain ⟨contained, sameLayout, headerFits, -⟩ :=
      exposes layout (commonHeaderOf_cutOff isLayout cutOff)
    rw [isLayout, Option.some.injEq] at sameLayout
    exact cutOff (sameLayout ▸ headerFits)
  · intro contains header exposed
    cases isLayout : commonHeaderLayout a with
    | none =>
        rw [commonHeaderOf, isLayout] at exposed
        cases exposed
    | some layout =>
        have headerFits := contains layout isLayout
        exact ⟨layout, rfl, headerFits,
            commonHeaderOf_contained isLayout headerFits exposed⟩

/--
Whatever was received before and however a block is cut into parts, a common
header is exposed only after it was decoded if and only if the block is long
enough for the common header that its header type announces.
-/
theorem exposesDecodedHeaderOnly_iff_contained
    (earlier : List Reception)
    (reception : Reception)
    (complete : reception.Complete)
    {fuel : Nat}
    (enough :
      ∀ received ∈ reception :: earlier, 4 * received.size + 5 ≤ fuel) :
    ∃ before final,
      receiveAll fuel earlier construct = .ok (some before) ∧
      before.receive fuel reception = .ok (some final) ∧
      (ExposesDecodedHeaderOnly reception.block reception.size final ↔
        ContainsCommonHeader reception.block reception.size) := by
  obtain ⟨before, received, typed⟩ :=
    receiveAll_wellTyped construct_wellTyped
      (fun received member => enough received (.tail _ member))
  obtain ⟨settled, decoded, -, calls, -⟩ :=
    reception.decodes complete typed (enough reception List.mem_cons_self)
  refine ⟨before, settled.finish reception.size, received, ?_, ?_⟩
  · rw [receive, setConfiguration_eq reception.nonempty,
      Checked.ok_bind, calls]
  · rw [← decoded.exposesDecodedHeaderOnly_iff, ExposesDecodedHeaderOnly,
      ExposesDecodedHeaderOnly, (settled.finish_retrieval _).2.1]

theorem exposesDecodedHeaderOnly_iff_contained_headerThenPadding :
    ∃ before final,
      receiveAll 21 [] construct = .ok (some before) ∧
      before.receive 21 .headerThenPadding = .ok (some final) ∧
      (ExposesDecodedHeaderOnly Reception.headerThenPadding.block 4
          final ↔
        ContainsCommonHeader Reception.headerThenPadding.block 4) :=
  exposesDecodedHeaderOnly_iff_contained [] .headerThenPadding
    ⟨[_], _, rfl, rfl⟩ (by decide)

/-- A block that ends with the header type of a unicast MAC PDU. -/
def Reception.unicastCutOff : Reception where
  block := Memory.write 0 [0x02] (fun _ => 0)
  size := 1
  mu := 2
  calls := [(Memory.write 0 [0x02] (fun _ => 0), 1)]
  nonempty := by decide
  small := by decide
  muValid := Or.inr (Or.inl rfl)
  ordered := by decide
  known := by decide
  once := by decide
  written := by decide

/-- A unicast header with all its fields zero is exposed. -/
theorem unicastCutOff_exposesDefault :
    ∃ final,
      construct.receive 9 .unicastCutOff = .ok (some final) ∧
      final.getMacCommonHeader = some (.unicast ⟨.zero, 0, 0⟩) ∧
      ¬ExposesDecodedHeaderOnly Reception.unicastCutOff.block
        Reception.unicastCutOff.size final := by
  obtain ⟨settled, decoded, -, calls, -⟩ :=
    @Reception.decodes .unicastCutOff ⟨[], _, rfl, rfl⟩ construct
      construct_wellTyped 9 (by decide)
  have exposed :
      (settled.finish 1).getMacCommonHeader =
        some (.unicast ⟨.zero, 0, 0⟩) := by
    rw [(settled.finish_retrieval 1).2.1, decoded.commonHeader]
    decide
  refine ⟨settled.finish 1, ?_, exposed, ?_⟩
  · rw [receive, setConfiguration_eq Reception.unicastCutOff.nonempty,
      Checked.ok_bind, calls]
    rfl
  · intro exposes
    obtain ⟨layout, isLayout, headerFits, -⟩ := exposes _ exposed
    have sameLayout : layout = .unicast ⟨.zero, 0, 0⟩ := by
      rw [← Option.some.injEq, ← isLayout]
      decide
    rw [sameLayout] at headerFits
    exact absurd headerFits (by decide)

end MacPduDecoder

end DectNrp
