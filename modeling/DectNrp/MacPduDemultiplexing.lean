import DectNrp.MacPduSteps

namespace DectNrp

/-!
# Demultiplexing a transport block

Between two elements the decoder waits for the first octet of a multiplexing
header.  From there its steps lead over one element to the next, or to a state
in which nothing more is decoded.  By induction over the elements of the block
the decoder lists exactly these, each at its own place of the pool.
-/

open Function (update update_of_ne update_self)
open ClusterBeaconMessage (hasSingleBit)
open MacMultiplexingHeader (announced layouts lengthAt macExt_of_tinfo
  packedSize)

namespace MacPduDecoder

open MacPdu (typeAt headerAt bodyOffsetAt bodySizeAt mmieAt behind
  Stop Complete Elements)

/-- Each listed element has its own place, and no place is skipped. -/
structure Places (decoder : MacPduDecoder) : Prop where
  listed :
    ∀ ref,
      ref ∈ decoder.mmieDecodedVec ↔
        ref.index < decoder.indexNextIe ref.type
  distinct : decoder.mmieDecodedVec.Nodup
  bounded : ∀ type, decoder.indexNextIe type ≤ nofElements type

/-- The decoder waits for a multiplexing header. -/
structure Scanning
    (mu size offset : Nat)
    (used : MmieType → Nat)
    (decoder : MacPduDecoder) :
    Prop where
  located : decoder.aCntWTb = size
  isState : decoder.state = .macMuxHeaderUnpackMacExtIeType
  front : decoder.aCntR = offset
  required : decoder.nBytesRequired = 1
  inside : offset ≤ size
  sameMu : decoder.mu = mu
  typed : decoder.WellTyped
  sameUsed : decoder.indexNextIe = used
  places : decoder.Places

/-- The decoder has passed an element. -/
structure Checking
    (mu size offset : Nat)
    (used : MmieType → Nat)
    (decoder : MacPduDecoder) :
    Prop where
  located : decoder.aCntWTb = size
  isState : decoder.state = .macPduCheckIfDone
  front : decoder.aCntR = offset
  required : decoder.nBytesRequired = 0
  inside : offset ≤ size
  sameMu : decoder.mu = mu
  typed : decoder.WellTyped
  sameUsed : decoder.indexNextIe = used
  places : decoder.Places

/-- What is kept while the element at a place is decoded. -/
structure Keeps
    (ref : MmieRef)
    (before after : MacPduDecoder) :
    Prop where
  sameMu : after.mu = before.mu
  headerType : after.getMacHeaderType = before.getMacHeaderType
  commonHeader : after.getMacCommonHeader = before.getMacCommonHeader
  decodedVec : after.mmieDecodedVec = before.mmieDecodedVec
  used : after.indexNextIe = before.indexNextIe
  others :
    ∀ other, other ≠ ref → after.pool other = before.pool other

/-- The header of an element is known and its body is waited for. -/
structure Awaiting
    (a : Memory)
    (size offset : Nat)
    (ref : MmieRef)
    (decoder : MacPduDecoder) :
    Prop where
  located : decoder.aCntWTb = size
  isState : decoder.state = .macMessageIeUnpack
  front : decoder.aCntR = bodyOffsetAt a offset
  inside : bodyOffsetAt a offset ≤ size
  required :
    decoder.nBytesRequired = bodySizeAt decoder.mu a offset ref.type
  current : decoder.mmie = some ref
  typed : decoder.WellTyped
  isHeader :
    (decoder.pool ref).macMultiplexingHeader = headerAt a offset
  messageMu :
    ∀ message,
      (decoder.pool ref).body = .clusterBeaconMessage message →
        message.mu = decoder.mu

variable {decoder : MacPduDecoder}

/-- The next free place is not listed. -/
theorem Places.free
    (places : decoder.Places)
    (type : MmieType) :
    ⟨type, decoder.indexNextIe type⟩ ∉ decoder.mmieDecodedVec := by
  rw [places.listed]
  exact Nat.lt_irrefl _

variable {ref : MmieRef}

variable {before after : MacPduDecoder}

/-- What is kept keeps the places. -/
theorem Keeps.places
    (keeps : Keeps ref before after)
    (places : before.Places) :
    after.Places where
  listed := by
    intro other
    rw [keeps.decodedVec, keeps.used]
    exact places.listed other
  distinct := by
    rw [keeps.decodedVec]
    exact places.distinct
  bounded := by
    rw [keeps.used]
    exact places.bounded

/-- What is kept keeps the listed elements. -/
theorem Keeps.decodedMmies
    (keeps : Keeps ref before after)
    (notListed : ref ∉ before.mmieDecodedVec) :
    after.decodedMmies = before.decodedMmies := by
  unfold MacPduDecoder.decodedMmies getMmieDecodedVec
  rw [keeps.decodedVec]
  refine List.map_congr_left fun other member => ?_
  refine keeps.others other ?_
  rintro rfl
  exact notListed member

variable {type : MmieType}

/-- Listing the next free place of a type. -/
theorem Places.behindElement
    (places : decoder.Places)
    (available : decoder.indexNextIe type < nofElements type)
    (mmie : Mmie)
    (valid : Bool)
    (offset : Nat) :
    (decoder.behindElement ⟨type, decoder.indexNextIe type⟩ mmie valid
      offset).Places := by
  cases valid with
  | false => exact ⟨places.listed, places.distinct, places.bounded⟩
  | true =>
      refine ⟨?_, ?_, ?_⟩
      · rintro ⟨otherType, otherIndex⟩
        have listed := places.listed ⟨otherType, otherIndex⟩
        simp only [MacPduDecoder.behindElement, if_true,
          List.mem_append, List.mem_singleton, MmieRef.mk.injEq]
        by_cases sameType : otherType = type
        · subst sameType
          simp only [update_self, true_and]
          simp only at listed
          rw [listed]
          omega
        · rw [update_of_ne sameType]
          simp only [sameType, false_and, or_false]
          exact listed
      · simp only [MacPduDecoder.behindElement, if_true]
        refine List.nodup_append.mpr
          ⟨places.distinct, List.nodup_singleton _, ?_⟩
        rintro other member last isLast rfl
        rw [List.mem_singleton] at isLast
        subst isLast
        exact places.free type member
      · intro other
        simp only [MacPduDecoder.behindElement, if_true]
        by_cases same : other = type
        · subst same
          rw [update_self]
          omega
        · rw [update_of_ne same]
          exact places.bounded other

theorem behindElement_decodedMmies
    (notListed : ref ∉ decoder.mmieDecodedVec)
    (mmie : Mmie)
    (valid : Bool)
    (offset : Nat) :
    (decoder.behindElement ref mmie valid offset).decodedMmies =
      if valid then decoder.decodedMmies ++ [mmie]
      else decoder.decodedMmies := by
  have others : decoder.mmieDecodedVec.map
      (update decoder.pool ref mmie) =
        decoder.mmieDecodedVec.map decoder.pool := by
    refine List.map_congr_left fun other member => ?_
    refine update_of_ne ?_ _ _
    rintro rfl
    exact notListed member
  cases valid with
  | false =>
      simpa [MacPduDecoder.behindElement, decodedMmies,
        getMmieDecodedVec] using others
  | true =>
      simpa [MacPduDecoder.behindElement, decodedMmies,
        getMmieDecodedVec] using others

variable {offset : Nat}

variable {a : Memory}

/-- A flow has a length field. -/
theorem userPlaneData_length (isType : typeAt a offset = some .userPlaneData) :
    (headerAt a offset).length.toNat ≤ 65535 := by
  have layout := macExt_of_tinfo isType
  simp only [layouts, List.mem_cons, List.not_mem_nil, or_false] at layout
  rcases layout with isExt | isExt
  · have octet := (a (offset + 1)).toNat_lt
    simp only [headerAt, isExt, lengthAt, UInt8.toNat_toUInt32]
    omega
  · have octets := fromBigEndian_lt (a.window (offset + 1) 2)
    rw [Memory.window_length] at octets
    simp only [headerAt, isExt, lengthAt, UInt32.toNat_ofNat']
    omega

theorem bodySizeAt_le
    {mu : Nat}
    (isType : typeAt a offset = some type) :
    bodySizeAt mu a offset type ≤ 65535 := by
  cases type with
  | paddingIe => exact Nat.zero_le _
  | userPlaneData => exact userPlaneData_length isType
  | clusterBeaconMessage =>
      exact Nat.le_trans (ClusterBeaconMessage.sizeByFlags_le _ _) (by decide)
  | powerTargetIe => exact (by decide : PowerTargetIe.getPackedSize ≤ 65535)
  | timeAnnounceIe => exact (by decide : TimeAnnounceIe.getPackedSize ≤ 65535)

theorem bodySizeAt_eq
    {mu : Nat}
    (isType : typeAt a offset = some type)
    (notPadding : type ≠ .paddingIe)
    (notPeeking : type ≠ .clusterBeaconMessage)
    {decoder : MacPduDecoder}
    {ref : MmieRef}
    (sameType : (decoder.pool ref).body.type = type) :
    (if (headerAt a offset).length < undefinedNumeric32 then
      (headerAt a offset).length.toNat
    else (decoder.withHeader ref (headerAt a offset)).getPackedSizeOfSdu) =
    bodySizeAt mu a offset type := by
  have layout := macExt_of_tinfo isType
  have undefined (isExt : (headerAt a offset).macExt = .noLengthField) :
      (headerAt a offset).length = undefinedNumeric32 := by
    simp only [headerAt] at isExt
    simp only [headerAt, isExt, lengthAt]
  cases type with
  | paddingIe => exact absurd rfl notPadding
  | clusterBeaconMessage => exact absurd rfl notPeeking
  | userPlaneData =>
      have bound := userPlaneData_length isType
      have defined : (headerAt a offset).length < undefinedNumeric32 := by
        rw [UInt32.lt_iff_toNat_lt]
        exact Nat.lt_of_le_of_lt bound (by decide)
      rw [if_pos defined]
      rfl
  | powerTargetIe =>
      rw [undefined (List.mem_singleton.mp layout), if_neg (by decide)]
      cases bodyCase : (decoder.pool ref).body <;>
        rw [bodyCase] at sameType <;> cases sameType
      simp only [withHeader, Mmie.getPackedSizeOfSdu, bodyCase, bodySizeAt]
  | timeAnnounceIe =>
      rw [undefined (List.mem_singleton.mp layout), if_neg (by decide)]
      cases bodyCase : (decoder.pool ref).body <;>
        rw [bodyCase] at sameType <;> cases sameType
      simp only [withHeader, Mmie.getPackedSizeOfSdu, bodyCase, bodySizeAt]

section Runs

variable
    {a : Memory}
    {mu size offset : Nat}
    {used : MmieType → Nat}
    {decoder : MacPduDecoder}

/-- Only the current place of the pool differs behind a header. -/
private theorem keeps_of_update
    {ref : MmieRef}
    {after : MacPduDecoder}
    {mmie : Mmie}
    (pool : after.pool = update decoder.pool ref mmie)
    (sameMu : after.mu = decoder.mu)
    (headerType : after.getMacHeaderType = decoder.getMacHeaderType)
    (commonHeader : after.getMacCommonHeader = decoder.getMacCommonHeader)
    (decodedVec : after.mmieDecodedVec = decoder.mmieDecodedVec)
    (used : after.indexNextIe = decoder.indexNextIe) :
    Keeps ref decoder after where
  sameMu := sameMu
  headerType := headerType
  commonHeader := commonHeader
  decodedVec := decodedVec
  used := used
  others := by
    intro other different
    rw [pool, update_of_ne different]

variable {type : MmieType}

variable (small : size + 65535 < 2 ^ 32)

/--
From a header with a length field or a fixed size the decoder reaches the
body, or the block is too short for the header.
-/
theorem Scanning.reach_sized
    (scanning : Scanning mu size offset used decoder)
    (inside : offset < size)
    (isType : typeAt a offset = some type)
    (notPadding : type ≠ .paddingIe)
    (notPeeking : type ≠ .clusterBeaconMessage)
    (available : used type < nofElements type) :
    ∃ steps after,
      steps ≤ 2 ∧
      (machine a size small).Trace steps decoder after ∧
      Keeps ⟨type, used type⟩ decoder after ∧
      ((Settled size after ∧ size < behind mu a offset type) ∨
        Awaiting a size offset ⟨type, used type⟩ after) := by
  obtain ⟨located, isState, rfl, required, -, rfl, typed, rfl, -⟩ := scanning
  have toLength : Step a size decoder
      (decoder.awaitingLength ⟨type, decoder.indexNextIe type⟩
        (announced (a decoder.aCntR))) :=
    step_mux_awaitingLength located isState required inside typed isType
      notPadding notPeeking available
  by_cases headerFits : bodyOffsetAt a decoder.aCntR ≤ size
  · have sameType := typed ⟨type, decoder.indexNextIe type⟩
    have toBody :=
      @step_length a size
        (decoder.awaitingLength ⟨type, decoder.indexNextIe type⟩
          (announced (a decoder.aCntR)))
        small located rfl ⟨type, decoder.indexNextIe type⟩ rfl rfl rfl
        headerFits
        (bodySizeAt decoder.mu a decoder.aCntR type)
        (bodySizeAt_eq isType notPadding notPeeking sameType)
    refine ⟨2, _, Nat.le_refl _,
      .cons toLength (.single toBody), keeps_of_update rfl rfl rfl rfl
        rfl rfl, .inr ?_⟩
    exact
      { located := located
        isState := rfl
        front := rfl
        inside := headerFits
        required := rfl
        current := rfl
        typed := WellTyped.update typed (typed _)
        isHeader := by simp [awaitingBody, withHeader, awaitingLength]
        messageMu := by
          intro message isBody
          simp only [awaitingBody, update_self, withHeader,
            awaitingLength] at isBody
          rw [isBody] at sameType
          exact absurd sameType.symm notPeeking }
  · -- the length field lies behind the block
    have bounds := MacPdu.bodyOffsetAt_bounds a decoder.aCntR
    refine ⟨1, _, by omega, .single toLength, keeps_of_update
      (Function.update_eq_self _ _).symm rfl rfl rfl rfl rfl, .inl ⟨?_, ?_⟩⟩
    · refine .unfitting located (by simp [awaitingLength]) ?_ ?_ ?_
      · exact Nat.le_of_lt inside
      · simp only [awaitingLength]
        unfold bodyOffsetAt at bounds
        omega
      · simp only [awaitingLength]
        unfold bodyOffsetAt at headerFits
        omega
    · exact Nat.lt_of_lt_of_le (Nat.lt_of_not_le headerFits)
        (Nat.le_add_right _ _)

/--
From a header of a peeking element the decoder reaches the body, or the block
is too short for the octets to peek at.
-/
theorem Scanning.reach_peeked
    (muValid : hasSingleBit mu = true ∧ mu ≤ 8)
    (scanning : Scanning mu size offset used decoder)
    (inside : offset < size)
    (isType : typeAt a offset = some .clusterBeaconMessage)
    (available :
      used .clusterBeaconMessage < nofElements .clusterBeaconMessage) :
    ∃ steps after,
      steps ≤ 2 ∧
      (machine a size small).Trace steps decoder after ∧
      Keeps ⟨.clusterBeaconMessage, used .clusterBeaconMessage⟩ decoder after ∧
      ((Settled size after ∧
          size < behind mu a offset .clusterBeaconMessage) ∨
        Awaiting a size offset
          ⟨.clusterBeaconMessage, used .clusterBeaconMessage⟩ after) := by
  obtain ⟨located, isState, rfl, required, -, rfl, typed, rfl, -⟩ := scanning
  have toPeek : Step a size decoder (decoder.awaitingPeek
      ⟨.clusterBeaconMessage, decoder.indexNextIe .clusterBeaconMessage⟩
      (announced (a decoder.aCntR))) :=
    step_mux_awaitingPeek small located isState required inside typed
      isType available
  have isExt := List.mem_singleton.mp (macExt_of_tinfo isType)
  have bodyOffset : bodyOffsetAt a decoder.aCntR = decoder.aCntR + 1 := by
    simp only [bodyOffsetAt, isExt, packedSize,
      MacMultiplexingHeader.packedSizeMinToPeek]
  have wholeHeader :
      headerAt a decoder.aCntR = announced (a decoder.aCntR) := by
    have isLength : lengthAt (announced (a decoder.aCntR)).macExt a
        decoder.aCntR = (announced (a decoder.aCntR)).length := by
      rw [isExt, MacMultiplexingHeader.length_announced]
      rfl
    rw [headerAt, isLength]
  by_cases peekFits : decoder.aCntR + 1 + 2 ≤ size
  · have sameType := typed
      ⟨.clusterBeaconMessage, decoder.indexNextIe .clusterBeaconMessage⟩
    cases bodyCase : (decoder.pool ⟨.clusterBeaconMessage,
        decoder.indexNextIe .clusterBeaconMessage⟩).body with
    | clusterBeaconMessage message =>
        have toBody :=
          @step_peek a size (decoder.awaitingPeek ⟨.clusterBeaconMessage,
              decoder.indexNextIe .clusterBeaconMessage⟩
              (announced (a decoder.aCntR)))
            located rfl rfl peekFits muValid
            ⟨.clusterBeaconMessage, decoder.indexNextIe .clusterBeaconMessage⟩
            rfl message (by simp [awaitingPeek, bodyCase])
        refine ⟨2, _, Nat.le_refl _,
          .cons toPeek (.single toBody), keeps_of_update
            (Function.update_idem _ _ _) rfl rfl rfl rfl rfl, .inr ?_⟩
        exact
          { located := located
            isState := rfl
            front := bodyOffset.symm
            inside := by
              rw [bodyOffset]
              omega
            required := by
              simp only [awaitingBody, awaitingPeek, bodySizeAt, bodyOffset]
            current := rfl
            typed := toBody.typed (toPeek.typed typed)
            isHeader := by simp [awaitingBody, awaitingPeek, wholeHeader]
            messageMu := by
              intro other isBody
              simp only [awaitingBody, update_self,
                MmieBody.clusterBeaconMessage.injEq] at isBody
              rw [← isBody]
              rfl }
    | _ =>
        rw [bodyCase] at sameType
        cases sameType
  · -- the flags of the message may lie behind the block
    refine ⟨1, _, by omega, .single toPeek, keeps_of_update
      rfl rfl rfl rfl rfl rfl, .inl ⟨?_, ?_⟩⟩
    · refine .unfitting located (by simp [awaitingPeek]) ?_ ?_ ?_
      · exact inside
      · simp [awaitingPeek, ClusterBeaconMessage.getPackedSizeMinToPeek]
      · simp only [awaitingPeek, ClusterBeaconMessage.getPackedSizeMinToPeek]
        omega
    · have size :=
        ClusterBeaconMessage.four_le_sizeByFlags decoder.mu
          (a (bodyOffsetAt a decoder.aCntR + 1))
      simp only [behind, bodySizeAt]
      omega

/-- From the header of an available element the decoder reaches its body. -/
theorem Scanning.reach_body
    (muValid : hasSingleBit mu = true ∧ mu ≤ 8)
    (scanning : Scanning mu size offset used decoder)
    (inside : offset < size)
    (isType : typeAt a offset = some type)
    (notPadding : type ≠ .paddingIe)
    (available : used type < nofElements type) :
    ∃ steps after,
      steps ≤ 2 ∧
      (machine a size small).Trace steps decoder after ∧
      Keeps ⟨type, used type⟩ decoder after ∧
      ((Settled size after ∧ size < behind mu a offset type) ∨
        Awaiting a size offset ⟨type, used type⟩ after) := by
  by_cases peeking : type = .clusterBeaconMessage
  · subst peeking
    exact scanning.reach_peeked small muValid inside isType available
  · exact scanning.reach_sized small inside isType notPadding peeking available

/-- A body that does not fit into the block is not unpacked. -/
theorem Awaiting.settled
    {ref : MmieRef}
    (awaiting : Awaiting a size offset ref decoder)
    (isType : typeAt a offset = some ref.type)
    (tooLong : size < behind decoder.mu a offset ref.type) :
    Settled size decoder := by
  refine .unfitting awaiting.located ?_ ?_ ?_ ?_
  · rw [awaiting.isState]
    decide
  · rw [awaiting.front]
    exact awaiting.inside
  · rw [awaiting.required]
    exact bodySizeAt_le isType
  · rw [awaiting.front, awaiting.required]
    exact tooLong

/-- A header that is refused ends the decoding. -/
theorem Scanning.refused
    (scanning : Scanning mu size offset used decoder)
    (inside : offset < size)
    (refused :
      ∀ type ∈ typeAt a offset,
        type = .paddingIe ∨ nofElements type ≤ used type) :
    ∃ after,
      (machine a size small).Trace 1 decoder after ∧
      Settled size after ∧
      ∀ ref, Keeps ref decoder after := by
  obtain ⟨located, isState, rfl, required, within, rfl, -, rfl, -⟩ := scanning
  obtain ⟨mmie, step⟩ :=
    step_mux_refused located isState required inside refused
  exact ⟨_, .single step, prepareMacPduPrematureAbort_settled located within,
      fun ref => ⟨rfl, rfl, rfl, rfl, rfl, fun _ _ => rfl⟩⟩

theorem Scanning.settles
    (muValid : hasSingleBit mu = true ∧ mu ≤ 8)
    (scanning : Scanning mu size offset used decoder)
    (stop : Stop mu a size offset used) :
    ∃ steps after ref,
      steps ≤ 2 ∧
      (machine a size small).Trace steps decoder after ∧
      Settled size after ∧
      Keeps ref decoder after ∧
      ref ∉ decoder.mmieDecodedVec := by
  have sameUsed := scanning.sameUsed
  have free := scanning.places.free
  by_cases inside : offset < size
  · by_cases refused : ∀ type ∈ typeAt a offset,
        type = .paddingIe ∨ nofElements type ≤ used type
    · obtain ⟨after, trace, settled, keeps⟩ :=
        scanning.refused small inside refused
      exact ⟨1, after, _, by omega, trace, settled, keeps _, free .paddingIe⟩
    · -- a known element with a place, so it has to be too long
      simp only [not_forall, not_or, Nat.not_le] at refused
      obtain ⟨type, isType, notPadding, available⟩ := refused
      obtain ⟨steps, after, few, trace, keeps, reached⟩ :=
        scanning.reach_body small muValid inside isType notPadding available
      have tooLong : size < behind mu a offset type := by
        by_contra fits
        exact Complete.not_stop
          ⟨inside, isType, notPadding, available, by omega⟩ stop
      refine ⟨steps, after, _, few, trace, ?_, keeps, ?_⟩
      · rcases reached with ⟨settled, -⟩ | awaiting
        · exact settled
        · refine awaiting.settled isType ?_
          rw [keeps.sameMu, scanning.sameMu]
          exact tooLong
      · rw [← sameUsed]
        exact free type
  · -- the block ends in front of the header
    have front := scanning.front
    have required := scanning.required
    have within := scanning.inside
    refine ⟨0, decoder, _, by omega, .refl decoder, ?_,
        ⟨rfl, rfl, rfl, rfl, rfl, fun _ _ => rfl⟩, free .paddingIe⟩
    refine .unfitting scanning.located ?_ (by omega) (by omega) (by omega)
    rw [scanning.isState]
    decide

/-- The places taken behind an element. -/
def usedBehind
    (mu : Nat)
    (a : Memory)
    (offset : Nat)
    (used : MmieType → Nat)
    (type : MmieType) :
    MmieType → Nat :=
  if (mmieAt mu a offset type).body.contentsValid then
    update used type (used type + 1)
  else
    used

/-- The elements that one element contributes. -/
def contribution
    (mu : Nat)
    (a : Memory)
    (offset : Nat)
    (type : MmieType) :
    List Mmie :=
  if (mmieAt mu a offset type).body.contentsValid then
    [mmieAt mu a offset type]
  else
    []

/-- The decoder passes a complete element and lists it if it is valid. -/
theorem Scanning.passes
    (muValid : hasSingleBit mu = true ∧ mu ≤ 8)
    (scanning : Scanning mu size offset used decoder)
    (complete : Complete mu a size offset used type) :
    ∃ steps after,
      steps ≤ 3 ∧
      (machine a size small).Trace steps decoder after ∧
      Checking mu size (behind mu a offset type)
        (usedBehind mu a offset used type) after ∧
      after.getMacHeaderType = decoder.getMacHeaderType ∧
      after.getMacCommonHeader = decoder.getMacCommonHeader ∧
      after.decodedMmies =
        decoder.decodedMmies ++ contribution mu a offset type := by
  have free := scanning.places.free type
  rw [scanning.sameUsed] at free
  obtain ⟨steps, between, few, trace, keeps, reached⟩ :=
    scanning.reach_body small muValid complete.inside complete.isType
      complete.notPadding complete.available
  have sameMu : between.mu = mu := by rw [keeps.sameMu, scanning.sameMu]
  have sameUsed : between.indexNextIe = used := by
    rw [keeps.used, scanning.sameUsed]
  rcases reached with ⟨-, tooLong⟩ | awaiting
  · exact absurd complete.fits (Nat.not_le_of_lt tooLong)
  · have fits := complete.fits
    rw [← sameMu] at fits
    have unpacked :=
      step_unpack small awaiting.located awaiting.isState awaiting.front
        awaiting.required fits awaiting.current complete.notPadding
        awaiting.typed awaiting.isHeader complete.isType
        awaiting.messageMu
    have places := keeps.places scanning.places
    have notListed :
        (⟨type, used type⟩ : MmieRef) ∉ between.mmieDecodedVec := by
      rw [keeps.decodedVec]
      exact free
    rw [sameMu] at unpacked
    refine ⟨steps + 1, _, by omega, trace.trans (.single unpacked), ?_,
        keeps.headerType, keeps.commonHeader, ?_⟩
    · have available := complete.available
      refine
        { located := unpacked.sameSize
          isState := rfl
          front := rfl
          required := rfl
          inside := complete.fits
          sameMu := sameMu
          typed := unpacked.typed awaiting.typed
          sameUsed := by simp only [behindElement, sameUsed, usedBehind]
          places := ?_ }
      rw [← sameUsed] at available ⊢
      exact places.behindElement available _ _ _
    · rw [behindElement_decodedMmies notListed,
        keeps.decodedMmies free, contribution]
      split <;> simp

/-- The decoder has settled and listed further elements. -/
structure Demultiplexed
    (size : Nat)
    (elements : List Mmie)
    (before after : MacPduDecoder) :
    Prop where
  settled : Settled size after
  places : after.Places
  headerType : after.getMacHeaderType = before.getMacHeaderType
  commonHeader : after.getMacCommonHeader = before.getMacCommonHeader
  decodedMmies : after.decodedMmies = before.decodedMmies ++ elements

/-- Behind an element the decoder goes on, unless the block ends there. -/
theorem Checking.proceeds
    (checking : Checking mu size offset used decoder)
    {elements : List Mmie}
    (further : Elements mu a size offset used elements)
    (run :
      ∀ {decoder : MacPduDecoder},
        Scanning mu size offset used decoder →
        ∃ steps after,
          steps ≤ 4 * (size - offset) + 2 ∧
          (machine a size small).Trace steps decoder after ∧
          Demultiplexed size elements decoder after) :
    ∃ steps after,
      steps ≤ 4 * (size - offset) + 3 ∧
      (machine a size small).Trace steps decoder after ∧
      Demultiplexed size elements decoder after := by
  obtain ⟨located, isState, rfl, required, inside, sameMu, typed,
    sameUsed, places⟩ := checking
  by_cases more : decoder.aCntR < size
  · have step : Step a size decoder _ :=
      step_check located isState required more
    obtain ⟨steps, after, few, trace, demultiplexed⟩ :=
      run
        { located := step.sameSize
          isState := rfl
          front := rfl
          required := rfl
          inside := inside
          sameMu := sameMu
          typed := step.typed typed
          sameUsed := sameUsed
          places := ⟨places.listed, places.distinct, places.bounded⟩ }
    exact ⟨steps + 1, after, by omega, .cons step trace,
        demultiplexed.settled, demultiplexed.places,
        demultiplexed.headerType, demultiplexed.commonHeader,
        demultiplexed.decodedMmies⟩
  · -- the last element ended with the block
    have atEnd : decoder.aCntR = size := by omega
    have noMore : elements = [] :=
      further.unique (.stopped (.blockEnd (by omega)))
    refine ⟨0, decoder, by omega, .refl decoder,
        .complete located isState required atEnd, places, rfl, rfl, ?_⟩
    rw [noMore, List.append_nil]

/-- What an element contributes is listed in front of the rest. -/
theorem Scanning.proceeds
    (muValid : hasSingleBit mu = true ∧ mu ≤ 8)
    {decoder : MacPduDecoder}
    (scanning : Scanning mu size offset used decoder)
    (complete : Complete mu a size offset used type)
    {rest : List Mmie}
    (further :
      Elements mu a size (behind mu a offset type)
        (usedBehind mu a offset used type) rest)
    (run :
      ∀ {decoder : MacPduDecoder},
        Scanning mu size (behind mu a offset type)
            (usedBehind mu a offset used type) decoder →
          ∃ steps after,
            steps ≤ 4 * (size - behind mu a offset type) + 2 ∧
            (machine a size small).Trace steps decoder after ∧
            Demultiplexed size rest decoder after) :
    ∃ steps after,
      steps ≤ 4 * (size - offset) + 2 ∧
      (machine a size small).Trace steps decoder after ∧
      Demultiplexed size (contribution mu a offset type ++ rest) decoder
        after := by
  obtain ⟨first, between, fewFirst, toBetween, checking, headerType,
    commonHeader, decodedMmies⟩ :=
    scanning.passes small muValid complete
  obtain ⟨second, after, fewSecond, toAfter, demultiplexed⟩ :=
    checking.proceeds small further run
  have inside := complete.inside
  have fits := complete.fits
  have advanced := MacPdu.offset_lt_behind mu a offset type
  refine ⟨first + second, after, by omega, toBetween.trans toAfter,
      demultiplexed.settled, demultiplexed.places, ?_, ?_, ?_⟩
  · rw [demultiplexed.headerType, headerType]
  · rw [demultiplexed.commonHeader, commonHeader]
  · rw [demultiplexed.decodedMmies, decodedMmies, List.append_assoc]

/-- The decoder lists the elements of the rest of a block. -/
theorem Scanning.run
    (small : size + 65535 < 2 ^ 32)
    (muValid : hasSingleBit mu = true ∧ mu ≤ 8)
    {elements : List Mmie}
    (isElements : Elements mu a size offset used elements)
    {decoder : MacPduDecoder}
    (scanning : Scanning mu size offset used decoder) :
    ∃ steps after,
      steps ≤ 4 * (size - offset) + 2 ∧
      (machine a size small).Trace steps decoder after ∧
      Demultiplexed size elements decoder after := by
  induction isElements generalizing decoder with
  | stopped stop =>
      obtain ⟨steps, after, ref, few, trace, settled, keeps, free⟩ :=
        scanning.settles small muValid stop
      refine ⟨steps, after, by omega, trace, settled,
          keeps.places scanning.places, keeps.headerType,
          keeps.commonHeader, ?_⟩
      rw [keeps.decodedMmies free, List.append_nil]
  | @skipped offset used type rest complete invalid further
      hypothesis =>
      have isUsed : usedBehind mu a offset used type = used :=
        if_neg (by simp [invalid])
      have isNothing : contribution mu a offset type = [] :=
        if_neg (by simp [invalid])
      rw [← isUsed] at further hypothesis
      have proceeds :=
        scanning.proceeds small muValid complete further hypothesis
      rwa [isNothing, List.nil_append] at proceeds
  | @listed offset used type rest complete valid further
      hypothesis =>
      have isUsed : usedBehind mu a offset used type =
          update used type (used type + 1) :=
        if_pos valid
      have isElement :
          contribution mu a offset type = [mmieAt mu a offset type] :=
        if_pos valid
      rw [← isUsed] at further hypothesis
      have proceeds :=
        scanning.proceeds small muValid complete further hypothesis
      rwa [isElement, List.singleton_append] at proceeds

end Runs

end MacPduDecoder

end DectNrp
