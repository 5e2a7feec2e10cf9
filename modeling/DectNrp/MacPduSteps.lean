import DectNrp.MacPduElements
import DectNrp.ResumableMachine

namespace DectNrp

/-!
# Steps of the MAC PDU decoder

In each working state the decoder demands the octets up to its read counter
plus the number of bytes required.  Once they are there, the next state depends
on these octets only.  This makes the decoder a resumable machine.

There is one lemma for each way to leave a working state.  It names the state
reached, so that later modules never unfold the decoder.
-/

open MacPdu (behind bodyAt bodyOffsetAt bodySizeAt headerAt mmieAt)
open Checked (ok_bind pure_eq_ok)
open MacMultiplexingHeader (announced packedSize unpackMacExtIeType_window)

namespace MacPduDecoder

/-- The pool holds under each type only elements of that type. -/
def WellTyped (decoder : MacPduDecoder) : Prop :=
  ∀ ref, (decoder.pool ref).body.type = ref.type

/-- A new decoder holds elements of the right types. -/
theorem construct_wellTyped :
    WellTyped construct := by
  intro ref
  rcases ref with ⟨type, index⟩
  cases type <;> rfl

theorem add32_of_lt
    {first second : Nat}
    (fits : first + second < 2 ^ 32) :
    add32 first second = first + second :=
  Nat.mod_eq_of_lt fits

theorem sub32_of_le
    {first second : Nat}
    (fits : first < 2 ^ 32)
    (ordered : second ≤ first) :
    sub32 first second = first - second := by
  rw [sub32, show first + 2 ^ 32 - second =
    (first - second) + 2 ^ 32 by omega, Nat.add_mod_right,
    Nat.mod_eq_of_lt (by omega)]

/-- A pass that needs the demanded octets only and goes on. -/
structure Step
    (a : Memory)
    (size : Nat)
    (before after : MacPduDecoder) :
    Prop where
  located : before.aCntWTb = size
  sameSize : after.aCntWTb = size
  fits : before.aCntR + before.nBytesRequired ≤ size
  advances : after.aCntR ≤ before.aCntR + before.nBytesRequired
  typed : before.WellTyped → after.WellTyped
  switches :
    ∀ limit,
      before.aCntR + before.nBytesRequired ≤ limit → limit ≤ size →
      before.switchState (a.window 0 limit) limit = .ok (.again after)

/-- The decoder on a transport block whose counters do not overflow. -/
def machine
    (a : Memory)
    (size : Nat)
    (small : size + 65535 < 2 ^ 32) :
    ResumableMachine MacPduDecoder (Checked (Option MacPduDecoder)) where
  Step := Step a size
  demand decoder := decoder.aCntR + decoder.nBytesRequired
  position decoder := decoder.aCntR
  total := size
  call limit fuel decoder := loop (a.window 0 limit) limit fuel decoder
  paused decoder := .ok (some decoder)
  position_le_demand step := step.advances
  demand_le_total step := step.fits
  call_step := by
    intro before after limit fuel step met known
    have sum :
        add32 before.aCntR before.nBytesRequired =
          before.aCntR + before.nBytesRequired :=
      add32_of_lt (by omega)
    have difference : sub32 limit before.aCntR = limit - before.aCntR :=
      sub32_of_le (by omega) (by omega)
    have enough : ¬ limit - before.aCntR < before.nBytesRequired := by
      omega
    rw [loop, pass, step.located, sum, if_neg (by omega), difference,
      if_neg enough, step.switches limit met known]
    rfl
  call_wait := by
    intro before after limit fuel step reached waits
    have fits := step.fits
    have sum :
        add32 before.aCntR before.nBytesRequired =
          before.aCntR + before.nBytesRequired :=
      add32_of_lt (by omega)
    have difference : sub32 limit before.aCntR = limit - before.aCntR :=
      sub32_of_le (by omega) reached
    have missing : limit - before.aCntR < before.nBytesRequired := by
      omega
    rw [loop, pass, step.located, sum, if_neg (by omega), difference,
      if_pos missing]
    rfl

/-- The rest of the transport block is not decoded any more. -/
inductive Settled
    (size : Nat)
    (decoder : MacPduDecoder) :
    Prop where
  /-- Decoding was given up. -/
  | aborted
      (located : decoder.aCntWTb = size)
      (isState : decoder.state = .macPduPrematureAbort)
      (required : decoder.nBytesRequired = 0)
      (inside : decoder.aCntR ≤ size)
  /-- The next header or element does not fit. -/
  | unfitting
      (located : decoder.aCntWTb = size)
      (isState : decoder.state ≠ .macPduCheckIfDone)
      (inside : decoder.aCntR ≤ size)
      (bounded : decoder.nBytesRequired ≤ 65535)
      (tooLong : size < decoder.aCntR + decoder.nBytesRequired)
  /-- The last element ended with the transport block. -/
  | complete
      (located : decoder.aCntWTb = size)
      (isState : decoder.state = .macPduCheckIfDone)
      (required : decoder.nBytesRequired = 0)
      (atEnd : decoder.aCntR = size)

/-- What a call makes of a settled state. -/
def finish
    (limit : Nat)
    (decoder : MacPduDecoder) :
    MacPduDecoder :=
  if decoder.state = .macPduCheckIfDone then
    { decoder with state := .macPduDone }
  else
    { decoder with
      state := .macPduPrematureAbort
      nBytesRequired := 0
      aCntR := limit }

/-- A call on a settled state returns in its first pass. -/
theorem Settled.loop_eq
    {a : Memory}
    {size limit : Nat}
    (small : size + 65535 < 2 ^ 32)
    {decoder : MacPduDecoder}
    (settled : Settled size decoder)
    (reached : decoder.aCntR ≤ limit)
    (known : limit ≤ size)
    (fuel : Nat) :
    loop (a.window 0 limit) limit (fuel + 1) decoder =
      .ok (some (decoder.finish limit)) := by
  have difference : sub32 limit decoder.aCntR = limit - decoder.aCntR :=
    sub32_of_le (by omega) reached
  cases settled with
  | aborted located isState required inside =>
      have sum :
          add32 decoder.aCntR decoder.nBytesRequired = decoder.aCntR := by
        rw [required, add32_of_lt (by omega), Nat.add_zero]
      rw [loop, pass, located, sum, if_neg (by omega), required,
        if_neg (Nat.not_lt_zero _), switchState, isState]
      simp [finish, isState, ← required]
  | unfitting located isState inside bounded tooLong =>
      have sum : add32 decoder.aCntR decoder.nBytesRequired =
          decoder.aCntR + decoder.nBytesRequired :=
        add32_of_lt (by omega)
      rw [loop, pass, located, sum, if_pos tooLong]
      simp [switchState, prepareMacPduPrematureAbort, finish, isState]
  | complete located isState required atEnd =>
      have sum :
          add32 decoder.aCntR decoder.nBytesRequired = decoder.aCntR := by
        rw [required, add32_of_lt (by omega), Nat.add_zero]
      rw [loop, pass, located, sum, if_neg (by omega), required,
        if_neg (Nat.not_lt_zero _), switchState, isState]
      simp [finish, isState, located, atEnd]

variable {decoder : MacPduDecoder}

/-- Before the end of the block a settled state stays settled. -/
theorem Settled.finish_settled
    {size limit : Nat}
    (settled : Settled size decoder)
    (reached : decoder.aCntR ≤ limit)
    (partly : limit < size) :
    Settled size (decoder.finish limit) ∧
      (decoder.finish limit).aCntR = limit ∧
      ∀ later, (decoder.finish limit).finish later = decoder.finish later := by
  have notComplete : decoder.state ≠ .macPduCheckIfDone := by
    intro isState
    cases settled with
    | aborted located isAborted required inside =>
        rw [isAborted] at isState
        cases isState
    | unfitting located notState inside bounded tooLong =>
        exact notState isState
    | complete located isComplete required atEnd => omega
  have sameSize : decoder.aCntWTb = size := by cases settled <;> assumption
  rw [finish, if_neg notComplete]
  refine ⟨.aborted sameSize rfl rfl ?_, rfl, ?_⟩
  · exact Nat.le_of_lt partly
  · intro later
    simp [finish, notComplete]

/-- At the end of the block a settled state becomes a final state. -/
theorem Settled.finish_total
    {size : Nat}
    (settled : Settled size decoder) :
    (decoder.finish size).aCntWTb = size ∧
      (decoder.finish size).aCntR = size ∧
      ((decoder.finish size).state = .macPduDone ∨
        (decoder.finish size).state = .macPduPrematureAbort) := by
  cases settled with
  | aborted located isState required inside => simp [finish, isState, located]
  | unfitting located isState inside bounded tooLong =>
      simp [finish, isState, located]
  | complete located isState required atEnd =>
      simp [finish, isState, located, atEnd]

/-- Finishing leaves everything alone that can be retrieved. -/
theorem finish_retrieval
    (limit : Nat)
    (decoder : MacPduDecoder) :
    (decoder.finish limit).getMacHeaderType =
        decoder.getMacHeaderType ∧
      (decoder.finish limit).getMacCommonHeader = decoder.getMacCommonHeader ∧
      (decoder.finish limit).mmieDecodedVec = decoder.mmieDecodedVec ∧
      (decoder.finish limit).pool = decoder.pool := by
  unfold finish
  split <;> exact ⟨rfl, rfl, rfl, rfl⟩

/-- Finishing leaves the listed elements alone. -/
theorem finish_decodedMmies
    (limit : Nat)
    (decoder : MacPduDecoder) :
    (decoder.finish limit).decodedMmies = decoder.decodedMmies := by
  obtain ⟨-, -, sameVec, samePool⟩ := decoder.finish_retrieval limit
  rw [decodedMmies, getMmieDecodedVec, sameVec, samePool]
  rfl

/-- The state behind a header type that was accepted. -/
def withHeaderType
    (decoder : MacPduDecoder)
    (mht : MacHeaderType)
    (mchVariant : MacCommonHeader) :
    MacPduDecoder :=
  { decoder with
    mht := mht
    mhtEffective := true
    aCntR := 1
    state := .macCommonHeader
    mchEffective := true
    mchVariant := mchVariant
    nBytesRequired := mchVariant.getPackedSize }

/-- The state behind a common header that was accepted. -/
def withCommonHeader
    (decoder : MacPduDecoder)
    (mchVariant : MacCommonHeader) :
    MacPduDecoder :=
  { decoder with
    mchVariant := mchVariant
    aCntR := decoder.aCntR + decoder.nBytesRequired
    state := .macMuxHeaderUnpackMacExtIeType
    nBytesRequired := MacMultiplexingHeader.packedSizeMinToPeek }

section Steps

variable
    {a : Memory}
    {size : Nat}
    {decoder : MacPduDecoder}

/-- A state that no longer decodes is settled. -/
theorem prepareMacPduPrematureAbort_settled
    (located : decoder.aCntWTb = size)
    (inside : decoder.aCntR ≤ size) :
    Settled size decoder.prepareMacPduPrematureAbort :=
  .aborted located rfl rfl inside

theorem step_headerType_refused
    (located : decoder.aCntWTb = size)
    (isState : decoder.state = .macHeaderType)
    (front : decoder.aCntR = 0)
    (required : decoder.nBytesRequired = 1)
    (nonempty : 0 < size)
    (invalid : (MacHeaderType.decoded (a 0)).isValid = false) :
    Step a size decoder
      { decoder with
        mht := MacHeaderType.decoded (a 0) }.prepareMacPduPrematureAbort where
  located := located
  sameSize := located
  fits := by omega
  advances := Nat.le_add_right _ _
  typed := id
  switches := by
    intro limit met known
    have first : 0 < limit := by omega
    simp [switchState, isState, unpackHeaderType, front, first,
      MacHeaderType.unpack_window _ first, invalid]

theorem step_headerType_accepted
    (located : decoder.aCntWTb = size)
    (isState : decoder.state = .macHeaderType)
    (front : decoder.aCntR = 0)
    (required : decoder.nBytesRequired = 1)
    (nonempty : 0 < size)
    (valid : (MacHeaderType.decoded (a 0)).isValid = true)
    {mchVariant : MacCommonHeader}
    (emplaced :
      MacCommonHeader.emplace
          (MacHeaderType.decoded (a 0)).macHeaderType =
        .ok mchVariant) :
    Step a size decoder
      (decoder.withHeaderType (MacHeaderType.decoded (a 0)) mchVariant) where
  located := located
  sameSize := located
  fits := by omega
  advances := by simp [withHeaderType, front, required]
  typed := id
  switches := by
    intro limit met known
    have first : 0 < limit := by omega
    simp [switchState, isState, unpackHeaderType, front, first,
      MacHeaderType.unpack_window _ first, valid, required, add32,
      emplaced, withHeaderType]

theorem step_commonHeader_refused
    (located : decoder.aCntWTb = size)
    (isState : decoder.state = .macCommonHeader)
    (required : decoder.nBytesRequired = decoder.mchVariant.getPackedSize)
    (fits : decoder.aCntR + decoder.nBytesRequired ≤ size)
    (invalid : (decoder.mchVariant.decoded a decoder.aCntR).isValid = false) :
    Step a size decoder
      { decoder with
        mchVariant := decoder.mchVariant.decoded a decoder.aCntR
        mchEffective := false }.prepareMacPduPrematureAbort where
  located := located
  sameSize := located
  fits := fits
  advances := Nat.le_add_right _ _
  typed := id
  switches := by
    intro limit met known
    rw [required] at met
    simp [switchState, isState, unpackCommonHeader,
      MacCommonHeader.unpack_window _ met, invalid]

theorem step_commonHeader_accepted
    (small : size + 65535 < 2 ^ 32)
    (located : decoder.aCntWTb = size)
    (isState : decoder.state = .macCommonHeader)
    (required : decoder.nBytesRequired = decoder.mchVariant.getPackedSize)
    (fits : decoder.aCntR + decoder.nBytesRequired ≤ size)
    (valid : (decoder.mchVariant.decoded a decoder.aCntR).isValid = true) :
    Step a size decoder
      (decoder.withCommonHeader
        (decoder.mchVariant.decoded a decoder.aCntR)) where
  located := located
  sameSize := located
  fits := fits
  advances := Nat.le_refl _
  typed := id
  switches := by
    intro limit met known
    have sum := @add32_of_lt decoder.aCntR decoder.nBytesRequired (by omega)
    rw [required] at met
    simp [switchState, isState, unpackCommonHeader,
      MacCommonHeader.unpack_window _ met, valid, sum,
      withCommonHeader]

/-- The state in which the rest of the header is waited for. -/
def awaitingLength
    (decoder : MacPduDecoder)
    (ref : MmieRef)
    (mmh : MacMultiplexingHeader) :
    MacPduDecoder :=
  { decoder with
    mmh := mmh
    mmie := some ref
    state := .aMacMuxHeaderUnpackLengthOrFixedSize
    nBytesRequired := MacMultiplexingHeader.packedSize mmh.macExt }

/-- The state in which the beginning of the body is waited for. -/
def awaitingPeek
    (decoder : MacPduDecoder)
    (ref : MmieRef)
    (mmh : MacMultiplexingHeader) :
    MacPduDecoder :=
  { decoder with
    mmh := mmh
    mmie := some ref
    pool := Function.update decoder.pool ref
      { decoder.pool ref with macMultiplexingHeader := mmh }
    aCntR := decoder.aCntR + 1
    state := .bMacMessageIePeek
    nBytesRequired := ClusterBeaconMessage.getPackedSizeMinToPeek }

/-- Replacing an element by one of its type keeps the pool typed. -/
theorem WellTyped.update
    {ref : MmieRef}
    {mmie : Mmie}
    {pool : MmieRef → Mmie}
    (typed : ∀ ref, (pool ref).body.type = ref.type)
    (sameType : mmie.body.type = ref.type) :
    ∀ other, (Function.update pool ref mmie other).body.type = other.type := by
  intro other
  by_cases same : other = ref
  · rw [same, Function.update_self, sameType]
  · rw [Function.update_of_ne same, typed other]

theorem step_mux_refused
    (located : decoder.aCntWTb = size)
    (isState : decoder.state = .macMuxHeaderUnpackMacExtIeType)
    (required : decoder.nBytesRequired = 1)
    (fits : decoder.aCntR < size)
    (refused :
      ∀ type ∈ (announced
          (a decoder.aCntR)).tinfo,
        type = .paddingIe ∨ nofElements type ≤ decoder.indexNextIe type) :
    ∃ mmie,
      Step a size decoder
        { decoder with
          mmh := announced (a decoder.aCntR)
          mmie := mmie }.prepareMacPduPrematureAbort := by
  have demand : decoder.aCntR + decoder.nBytesRequired ≤ size := by omega
  cases tinfoCase : (announced (a decoder.aCntR)).tinfo with
  | none =>
      refine ⟨decoder.mmie, located, located, demand,
        Nat.le_add_right _ _, id, ?_⟩
      intro limit met known
      have first : decoder.aCntR < limit := by omega
      simp [switchState, isState, unpackMacExtIeType,
        unpackMacExtIeType_window first,
        tinfoCase]
  | some type =>
      by_cases isPadding : type = .paddingIe
      · refine ⟨decoder.mmie, located, located, demand,
          Nat.le_add_right _ _, id, ?_⟩
        intro limit met known
        have first : decoder.aCntR < limit := by omega
        simp [switchState, isState, unpackMacExtIeType,
          unpackMacExtIeType_window first,
          tinfoCase, isPadding]
      · -- no element of this type is left
        have exhausted : ¬ decoder.indexNextIe type < nofElements type := by
          rcases refused type tinfoCase with padding | exhausted
          · exact absurd padding isPadding
          · omega
        refine ⟨none, located, located, demand, Nat.le_add_right _ _, id, ?_⟩
        intro limit met known
        have first : decoder.aCntR < limit := by omega
        simp [switchState, isState, unpackMacExtIeType,
          unpackMacExtIeType_window first,
          tinfoCase, isPadding, getMmieFromPool, exhausted]

theorem step_mux_awaitingLength
    (located : decoder.aCntWTb = size)
    (isState : decoder.state = .macMuxHeaderUnpackMacExtIeType)
    (required : decoder.nBytesRequired = 1)
    (fits : decoder.aCntR < size)
    (typed : decoder.WellTyped)
    {type : MmieType}
    (recognised : (announced (a decoder.aCntR)).tinfo = some type)
    (notPadding : type ≠ .paddingIe)
    (notPeeking : type ≠ .clusterBeaconMessage)
    (available : decoder.indexNextIe type < nofElements type) :
    Step a size decoder
      (decoder.awaitingLength ⟨type, decoder.indexNextIe type⟩
        (announced (a decoder.aCntR))) where
  located := located
  sameSize := located
  fits := by omega
  advances := Nat.le_add_right _ _
  typed := id
  switches := by
    intro limit met known
    have first : decoder.aCntR < limit := by omega
    have headerSize : (announced (a decoder.aCntR)).getPackedSize =
        .ok (packedSize (announced (a decoder.aCntR)).macExt) :=
      MacMultiplexingHeader.getPackedSize_announced _
    have bodyType := typed ⟨type, decoder.indexNextIe type⟩
    simp only [switchState, isState, unpackMacExtIeType,
      unpackMacExtIeType_window first,
      recognised, ok_bind, Option.isSome_some,
      if_neg notPadding, getMmieFromPool, if_pos available]
    cases bodyCase : (decoder.pool ⟨type, decoder.indexNextIe type⟩).body with
    | clusterBeaconMessage message =>
        rw [bodyCase] at bodyType
        exact absurd bodyType.symm notPeeking
    | _ => simp only [headerSize, ok_bind, pure_eq_ok, awaitingLength]

theorem step_mux_awaitingPeek
    (small : size + 65535 < 2 ^ 32)
    (located : decoder.aCntWTb = size)
    (isState : decoder.state = .macMuxHeaderUnpackMacExtIeType)
    (required : decoder.nBytesRequired = 1)
    (fits : decoder.aCntR < size)
    (typed : decoder.WellTyped)
    (recognised :
      (announced (a decoder.aCntR)).tinfo = some .clusterBeaconMessage)
    (available :
      decoder.indexNextIe .clusterBeaconMessage <
        nofElements .clusterBeaconMessage) :
    Step a size decoder
      (decoder.awaitingPeek
        ⟨.clusterBeaconMessage, decoder.indexNextIe .clusterBeaconMessage⟩
        (announced (a decoder.aCntR))) where
  located := located
  sameSize := located
  fits := by omega
  advances := by simp [awaitingPeek, required]
  typed := by
    intro typed
    exact WellTyped.update typed (typed _)
  switches := by
    intro limit met known
    have first : decoder.aCntR < limit := by omega
    have sum := @add32_of_lt decoder.aCntR 1 (by omega)
    have bodyType := typed
      ⟨.clusterBeaconMessage, decoder.indexNextIe .clusterBeaconMessage⟩
    simp only [switchState, isState, unpackMacExtIeType,
      unpackMacExtIeType_window first,
      recognised, ok_bind, Option.isSome_some,
      getMmieFromPool, if_pos available, reduceCtorEq, if_false]
    cases bodyCase : (decoder.pool ⟨.clusterBeaconMessage,
        decoder.indexNextIe .clusterBeaconMessage⟩).body with
    | clusterBeaconMessage message =>
        simp only [bodyCase, ok_bind, pure_eq_ok,
          awaitingPeek, updatePool, required, sum]
    | _ =>
        rw [bodyCase] at bodyType
        cases bodyType

/-- The state in which a body of a known size is waited for. -/
def awaitingBody
    (decoder : MacPduDecoder)
    (ref : MmieRef)
    (mmh : MacMultiplexingHeader)
    (mmie : Mmie)
    (bodyOffset bodySize : Nat) :
    MacPduDecoder :=
  { decoder with
    mmh := mmh
    pool := Function.update decoder.pool ref mmie
    aCntR := bodyOffset
    state := .macMessageIeUnpack
    nBytesRequired := bodySize }

/-- The state behind an element. -/
def behindElement
    (decoder : MacPduDecoder)
    (ref : MmieRef)
    (mmie : Mmie)
    (valid : Bool)
    (offset : Nat) :
    MacPduDecoder :=
  { decoder with
    pool := Function.update decoder.pool ref mmie
    indexNextIe :=
      if valid then
        Function.update decoder.indexNextIe ref.type
          (decoder.indexNextIe ref.type + 1)
      else
        decoder.indexNextIe
    mmieDecodedVec :=
      if valid then
        decoder.mmieDecodedVec ++ [ref]
      else
        decoder.mmieDecodedVec
    aCntR := offset
    state := .macPduCheckIfDone
    nBytesRequired := 0 }

/-- The element being decoded, with its whole header. -/
def withHeader
    (decoder : MacPduDecoder)
    (ref : MmieRef)
    (mmh : MacMultiplexingHeader) :
    Mmie :=
  { decoder.pool ref with macMultiplexingHeader := mmh }

theorem step_length
    (small : size + 65535 < 2 ^ 32)
    (located : decoder.aCntWTb = size)
    (isState : decoder.state = .aMacMuxHeaderUnpackLengthOrFixedSize)
    {ref : MmieRef}
    (current : decoder.mmie = some ref)
    (isHeader : decoder.mmh = announced (a decoder.aCntR))
    (required : decoder.nBytesRequired = packedSize decoder.mmh.macExt)
    (fits : bodyOffsetAt a decoder.aCntR ≤ size)
    {bodySize : Nat}
    (isBodySize :
      (if (headerAt a decoder.aCntR).length <
          undefinedNumeric32 then
        (headerAt a decoder.aCntR).length.toNat
      else
        (decoder.withHeader ref
          (headerAt a decoder.aCntR)).getPackedSizeOfSdu) =
        bodySize) :
    Step a size decoder
      (decoder.awaitingBody ref (headerAt a decoder.aCntR)
        (decoder.withHeader ref (headerAt a decoder.aCntR))
        (bodyOffsetAt a decoder.aCntR) bodySize) where
  located := located
  sameSize := located
  fits := by rwa [required, isHeader]
  advances := by
    rw [required, isHeader]
    rfl
  typed := by
    intro typed
    exact WellTyped.update typed (typed _)
  switches := by
    intro limit met known
    rw [required, isHeader] at met
    have layout := MacMultiplexingHeader.macExt_announced (a decoder.aCntR)
    have isOpen := MacMultiplexingHeader.length_announced (a decoder.aCntR)
    have sum : add32 decoder.aCntR decoder.nBytesRequired =
        bodyOffsetAt a decoder.aCntR := by
      rw [required, isHeader]
      exact add32_of_lt (by omega)
    simp only [switchState, isState, unpackLengthOrFixedSize, isHeader,
      MacMultiplexingHeader.unpackLength_window isOpen layout met,
      ok_bind, currentMmie, current, pure_eq_ok]
    simp only [updatePool, awaitingBody, current, sum, ← isBodySize]
    rfl

theorem step_peek
    (located : decoder.aCntWTb = size)
    (isState : decoder.state = .bMacMessageIePeek)
    (required : decoder.nBytesRequired = 2)
    (fits : decoder.aCntR + 2 ≤ size)
    (muValid :
      ClusterBeaconMessage.hasSingleBit decoder.mu = true ∧ decoder.mu ≤ 8)
    {ref : MmieRef}
    (current : decoder.mmie = some ref)
    {message : ClusterBeaconMessage}
    (isBody : (decoder.pool ref).body = .clusterBeaconMessage message) :
    Step a size decoder
      (decoder.awaitingBody ref decoder.mmh
        { decoder.pool ref with
          body := .clusterBeaconMessage { message with mu := decoder.mu } }
        decoder.aCntR
        (ClusterBeaconMessage.sizeByFlags decoder.mu
          (a (decoder.aCntR + 1)))) where
  located := located
  sameSize := located
  fits := by rwa [required]
  advances := Nat.le_add_right _ _
  typed := by
    intro typed
    have isType := typed ref
    rw [isBody] at isType
    exact WellTyped.update typed isType
  switches := by
    intro limit met known
    have second : decoder.aCntR + 1 < limit := by omega
    simp only [switchState, isState, peekMmie, currentMmie, current,
      ok_bind, isBody, ClusterBeaconMessage.setMu, muValid,
      decide_true, Bool.and_self, dectnrpAssert_true,
      pure_eq_ok, updatePool,
      ClusterBeaconMessage.getPackedSizeByPeeking,
      Memory.loadOctet_window second, awaitingBody]

theorem unpackContents_window
    {mu : Nat}
    {mmie : Mmie}
    {type : MmieType}
    (isType : mmie.body.type = type)
    (notPadding : type ≠ .paddingIe)
    (sameMu :
      ∀ message, mmie.body = .clusterBeaconMessage message → message.mu = mu)
    {offset limit : Nat}
    (inside : behind mu a offset type ≤ limit) :
    unpackContents mmie (a.window 0 limit)
        (bodyOffsetAt a offset) =
      .ok
        ((bodyAt mu a (bodyOffsetAt a offset)
            type).contentsValid,
          { mmie with
            body :=
              bodyAt mu a (bodyOffsetAt a offset) type }) := by
  subst isType
  cases bodyCase : mmie.body with
  | paddingIe =>
      rw [bodyCase] at notPadding
      exact absurd rfl notPadding
  | userPlaneData dataPtr =>
      simp only [unpackContents, bodyCase, MmieBody.type,
        bodyAt, MmieBody.contentsValid]
  | clusterBeaconMessage message =>
      have isMu := sameMu message bodyCase
      rw [bodyCase] at inside
      simp only [behind, MmieBody.type, bodySizeAt,
        ← isMu] at inside
      simp only [unpackContents, bodyCase,
        ClusterBeaconMessage.unpack_window _ inside, ok_bind,
        pure_eq_ok, MmieBody.type, bodyAt,
        MmieBody.contentsValid, isMu]
  | powerTargetIe ie =>
      rw [bodyCase] at inside
      simp only [behind, MmieBody.type, bodySizeAt] at inside
      simp only [unpackContents, bodyCase,
        PowerTargetIe.unpack_window _ inside, ok_bind,
        pure_eq_ok, MmieBody.type, bodyAt,
        MmieBody.contentsValid]
  | timeAnnounceIe ie =>
      rw [bodyCase] at inside
      simp only [behind, MmieBody.type, bodySizeAt] at inside
      simp only [unpackContents, bodyCase,
        TimeAnnounceIe.unpack_window _ inside, ok_bind,
        pure_eq_ok, MmieBody.type, bodyAt,
        MmieBody.contentsValid]

theorem bodyAt_type
    (mu : Nat)
    (a : Memory)
    (bodyOffset : Nat)
    (type : MmieType) :
    (bodyAt mu a bodyOffset type).type = type := by
  cases type <;> rfl

theorem step_unpack
    (small : size + 65535 < 2 ^ 32)
    (located : decoder.aCntWTb = size)
    (isState : decoder.state = .macMessageIeUnpack)
    {offset : Nat}
    {ref : MmieRef}
    (front : decoder.aCntR = bodyOffsetAt a offset)
    (required :
      decoder.nBytesRequired = bodySizeAt decoder.mu a offset ref.type)
    (fits : behind decoder.mu a offset ref.type ≤ size)
    (current : decoder.mmie = some ref)
    (notPadding : ref.type ≠ .paddingIe)
    (typed : decoder.WellTyped)
    (isHeader :
      (decoder.pool ref).macMultiplexingHeader = headerAt a offset)
    (isKnown : MacPdu.typeAt a offset = some ref.type)
    (sameMu :
      ∀ message,
        (decoder.pool ref).body = .clusterBeaconMessage message →
          message.mu = decoder.mu) :
    Step a size decoder
      (decoder.behindElement ref
        (mmieAt decoder.mu a offset ref.type)
        (mmieAt decoder.mu a offset ref.type).body.contentsValid
        (behind decoder.mu a offset ref.type)) where
  located := located
  sameSize := located
  fits := by rwa [front, required]
  advances := by
    rw [front, required]
    rfl
  typed := by
    intro typed
    exact WellTyped.update typed (bodyAt_type _ _ _ _)
  switches := by
    intro limit met known
    rw [front, required] at met
    have contents := unpackContents_window (typed ref) notPadding sameMu met
    have sum : add32 (bodyOffsetAt a offset)
        (bodySizeAt decoder.mu a offset ref.type) =
          behind decoder.mu a offset ref.type :=
      add32_of_lt (by
        unfold behind at fits
        omega)
    have element :
        { decoder.pool ref with
          body :=
            bodyAt decoder.mu a (bodyOffsetAt a offset)
              ref.type } =
        mmieAt decoder.mu a offset ref.type := by
      rw [mmieAt, ← isHeader]
    have isInfo : (mmieAt decoder.mu a offset
        ref.type).macMultiplexingHeader.tinfo = some ref.type :=
      isKnown
    have sameBody : bodyAt decoder.mu a (bodyOffsetAt a offset)
        ref.type = (mmieAt decoder.mu a offset ref.type).body :=
      rfl
    simp only [switchState, isState, unpackMmie, currentMmie, current,
      ok_bind, front, contents, element, isInfo]
    rw [sameBody]
    cases (mmieAt decoder.mu a offset ref.type).body.contentsValid with
    | false =>
        simp [updatePool, prepareMacPduCheckIfDone, behindElement,
          front, required, sum]
    | true =>
        simp [updatePool, prepareMacPduCheckIfDone, behindElement,
          front, required, sum]

theorem step_check
    (located : decoder.aCntWTb = size)
    (isState : decoder.state = .macPduCheckIfDone)
    (required : decoder.nBytesRequired = 0)
    (more : decoder.aCntR < size) :
    Step a size decoder
      { decoder with
        state := .macMuxHeaderUnpackMacExtIeType
        nBytesRequired := 1 } where
  located := located
  sameSize := located
  fits := by omega
  advances := Nat.le_add_right _ _
  typed := id
  switches := by
    intro limit met known
    rw [switchState, isState]
    simp [located, more, MacMultiplexingHeader.packedSizeMinToPeek]

end Steps

end MacPduDecoder

end DectNrp
