import DectNrp.UnicastPdu

namespace DectNrp

/-!
# Assembled unicast packets

Which datagrams are attached depends on the reported sizes only.  While a block
is assembled, the queue begins with the reported datagrams that are left, since
other threads only append to it, so that header and payload of every element
belong together.  The octets of the whole block are known, and a receiver finds
the same datagrams in them.
-/

open Checked (ok_bind pure_eq_ok)

namespace SteadyRd

open MacPdu (flowHeader flowHeaderSize flowHeader_valid Sdu packedSizes
  sendAll multiplex Carries received countOf)

/-- Number of octets of a datagram with its multiplexing header. -/
def datagramSize (datagram : List UInt8) : Nat :=
  flowHeaderSize datagram.length + datagram.length

def datagramSizes (datagrams : List (List UInt8)) : Nat :=
  (datagrams.map datagramSize).sum

/-- The octets of a datagram behind its multiplexing header. -/
def datagramOctets (datagram : List UInt8) : List UInt8 :=
  (flowHeader 1 datagram.length).code ++ datagram

/-- Datagrams that are attached from a position of the block on. -/
def fitting
    (nTbByte : Nat) :
    Nat → List (List UInt8) → List (List UInt8)
  | _, [] => []
  | aCntW, datagram :: datagrams =>
      if nTbByte ≤ aCntW + datagramSize datagram then
        []
      else
        datagram ::
          fitting nTbByte (aCntW + datagramSize datagram) datagrams

theorem datagramSize_pos (datagram : List UInt8) :
    0 < datagramSize datagram := by
  unfold datagramSize flowHeaderSize
  split <;> omega

/-- A number of the first datagrams fits, and no larger number does. -/
structure LongestFitting
    (nTbByte aCntW : Nat)
    (datagrams : List (List UInt8))
    (nof : Nat) :
    Prop where
  inside : nof ≤ datagrams.length
  fits :
    0 < nof → aCntW + datagramSizes (datagrams.take nof) < nTbByte
  longest :
    ∀ more,
      nof < more →
      more ≤ datagrams.length →
      nTbByte ≤ aCntW + datagramSizes (datagrams.take more)

theorem fitting_longest
    (nTbByte aCntW : Nat)
    (datagrams : List (List UInt8)) :
    LongestFitting nTbByte aCntW datagrams
        (fitting nTbByte aCntW datagrams).length ∧
      fitting nTbByte aCntW datagrams =
        datagrams.take (fitting nTbByte aCntW datagrams).length := by
  induction datagrams generalizing aCntW with
  | nil =>
      refine ⟨⟨Nat.le_refl _, ?_, ?_⟩, rfl⟩
      · intro positive
        cases positive
      · intro more less inside
        exact absurd less (Nat.not_lt_of_le inside)
  | cons datagram datagrams hypothesis =>
      rw [fitting]
      by_cases full : nTbByte ≤ aCntW + datagramSize datagram
      · rw [if_pos full]
        refine ⟨⟨Nat.zero_le _, ?_, ?_⟩, rfl⟩
        · intro positive
          cases positive
        · intro more positive _
          obtain ⟨less, rfl⟩ : ∃ less, more = less + 1 := ⟨more - 1, by omega⟩
          rw [List.take_succ_cons, datagramSizes, List.map_cons, List.sum_cons]
          omega
      · rw [if_neg full]
        obtain ⟨⟨inside, fits, longest⟩, isTake⟩ :=
          hypothesis (aCntW + datagramSize datagram)
        generalize
          fitting nTbByte (aCntW + datagramSize datagram) datagrams = rest
          at *
        refine ⟨⟨Nat.succ_le_succ inside, ?_, ?_⟩, ?_⟩
        · intro _
          rw [List.length_cons, List.take_succ_cons, ← isTake,
            datagramSizes, List.map_cons, List.sum_cons]
          rw [← isTake] at fits
          cases rest with
          | nil =>
              simp only [List.map_nil, List.sum_nil]
              omega
          | cons first others =>
              have behind := fits (Nat.succ_pos _)
              rw [datagramSizes] at behind
              omega
        · intro more less more_le
          obtain ⟨fewer, rfl⟩ : ∃ fewer, more = fewer + 1 :=
            ⟨more - 1, by omega⟩
          have behind :=
            longest fewer (Nat.lt_of_succ_lt_succ less)
              (Nat.le_of_succ_le_succ more_le)
          rw [List.take_succ_cons, datagramSizes, List.map_cons, List.sum_cons]
          rw [datagramSizes] at behind
          omega
        · rw [List.length_cons, List.take_succ_cons, ← isTake]

/-- The element of the pool for a datagram of a given size. -/
def configured
    (upd : Mmie)
    (level : Nat) :
    Mmie :=
  { upd with
    macMultiplexingHeader := { flowHeader 1 level with
      tinfo := upd.macMultiplexingHeader.tinfo } }

/-- Whatever the element was used for before, its header is set up anew. -/
theorem configured_eq
    (upd : Mmie)
    {level : Nat}
    (positive : 0 < level)
    (small : level ≤ 65535) :
    (do
      let upd ← UserPlaneData.setFlowId upd 1
      UserPlaneData.setDataSize upd level) =
      .ok (configured upd level) := by
  simp [UserPlaneData.setFlowId, UserPlaneData.setDataSize, positive,
    small, configured, flowHeader, IeTypeMacExt000110.userPlaneDataFlow1]

/-- A configured element has a header of the right size. -/
theorem configured_size
    {upd : Mmie}
    (isFlow : upd.body.type = .userPlaneData)
    {level : Nat}
    (small : level ≤ 65535) :
    (configured upd level).getPackedSizeOfMmhSdu =
      .ok (flowHeaderSize level + level) := by
  obtain ⟨headerValid, headerSize⟩ := flowHeader_valid (Or.inl rfl) small
  have length : (UInt32.ofNat level).toNat = level := by
    rw [UInt32.toNat_ofNat']
    omega
  have isHeader : (configured upd level).macMultiplexingHeader.getPackedSize =
      .ok (flowHeaderSize level) :=
    (MacMultiplexingHeader.getPackedSize_valid headerValid).trans
      (congrArg _ headerSize)
  obtain ⟨header, body⟩ := upd
  cases body with
  | userPlaneData dataPtr =>
      rw [Mmie.getPackedSizeOfMmhSdu, isHeader, ok_bind]
      simp only [configured, Mmie.getPackedSizeOfSdu, flowHeader, length,
        pure_eq_ok]
  | _ => cases isFlow

/-- Packing a configured element writes its header only. -/
theorem configured_pack
    {upd : Mmie}
    (isFlow : upd.body.type = .userPlaneData)
    {level : Nat}
    (small : level ≤ 65535)
    (offset : Nat)
    (memory : Memory) :
    (configured upd level).packMmhSdu offset memory =
      .ok
        (configured
          { upd with
            body := .userPlaneData (some (offset + flowHeaderSize level)) }
          level,
        memory.write offset (flowHeader 1 level).code) := by
  obtain ⟨headerValid, headerSize⟩ := flowHeader_valid (Or.inl rfl) small
  have isHeader : (configured upd level).macMultiplexingHeader.getPackedSize =
      .ok (flowHeaderSize level) :=
    (MacMultiplexingHeader.getPackedSize_valid headerValid).trans
      (congrArg _ headerSize)
  have isPacked :
      (configured upd level).macMultiplexingHeader.pack offset memory =
        .ok (memory.write offset (flowHeader 1 level).code) :=
    MacMultiplexingHeader.pack_valid headerValid offset memory
  obtain ⟨header, body⟩ := upd
  cases body with
  | userPlaneData dataPtr =>
      rw [Mmie.packMmhSdu, isPacked, ok_bind, isHeader, ok_bind]
      rfl
  | _ => cases isFlow

variable {datagram : List UInt8}

theorem datagramOctets_length (small : datagram.length ≤ 65535) :
    (datagramOctets datagram).length = datagramSize datagram := by
  obtain ⟨headerValid, headerSize⟩ := @flowHeader_valid 1 _ (Or.inl rfl) small
  rw [datagramOctets, List.length_append,
    MacMultiplexingHeader.code_length headerValid, headerSize,
    datagramSize]

theorem readNto_front
    {assembly : Assembly}
    {datagram : List UInt8}
    {rest : List (List UInt8)}
    (front : assembly.queue.datagrams = datagram :: rest)
    (writers : Writers)
    (i dstPayload : Nat) :
    ∃ queue newly,
      assembly.readNto writers i dstPayload =
        (datagram.length, { assembly with
          queue := queue
          appended := assembly.appended ++ newly
          aTb := assembly.aTb.write dstPayload datagram }) ∧
      queue.datagrams = rest ++ newly := by
  obtain ⟨newly, isWritten⟩ := writers.appends i assembly.queue
  obtain ⟨isDatagram, isRest, -⟩ := (writers.write i assembly.queue).readNto_eq
  rw [isWritten, front] at isDatagram isRest
  refine ⟨(writers.write i assembly.queue).readNto.2, newly, ?_, isRest⟩
  have behind : (writers.write i assembly.queue).datagrams.drop
      assembly.queue.datagrams.length = newly := by
    rw [isWritten, List.drop_left]
  rw [Assembly.readNto]
  simp only [isDatagram, behind]
  rfl

/-- Header and payload are the octets of a datagram. -/
theorem write_datagram
    (small : datagram.length ≤ 65535)
    (offset : Nat)
    (memory : Memory) :
    (memory.write offset (flowHeader 1 datagram.length).code).write
        (offset + flowHeaderSize datagram.length) datagram =
      memory.write offset (datagramOctets datagram) := by
  obtain ⟨headerValid, headerSize⟩ := @flowHeader_valid 1 _ (Or.inl rfl) small
  rw [← headerSize, ← MacMultiplexingHeader.code_length headerValid]
  exact Memory.write_write _ _ _ _

variable {nTbByte : Nat}

variable {before : Assembly}

variable {datagram : List UInt8}

theorem attachUserPlaneData_fits
    (writers : Writers)
    {rest : List (List UInt8)}
    (positive : 0 < datagram.length)
    (small : datagram.length ≤ 65535)
    (isFlow : before.upd.body.type = .userPlaneData)
    (front : before.queue.datagrams = datagram :: rest)
    (fits : before.aCntW + datagramSize datagram < nTbByte)
    (i : Nat)
    (levels : List Nat) :
    ∃ next newly,
      attachUserPlaneData nTbByte writers i (datagram.length :: levels)
          before =
        attachUserPlaneData nTbByte writers (i + 1) levels next ∧
      next.upd.body.type = .userPlaneData ∧
      next.queue.datagrams = rest ++ newly ∧
      next.appended = before.appended ++ newly ∧
      next.aTb = before.aTb.write before.aCntW (datagramOctets datagram) ∧
      next.aCntW = before.aCntW + datagramSize datagram := by
  obtain ⟨flow, isFlowId, isData⟩ :=
    Checked.bind_eq_ok.mp (configured_eq before.upd positive small)
  have isSize := configured_size isFlow small
  have isPacked := configured_pack isFlow small before.aCntW before.aTb
  -- the element as it is left behind by packing its header
  generalize isPointing : configured
      { before.upd with
        body :=
          .userPlaneData
            (some (before.aCntW + flowHeaderSize datagram.length)) }
      datagram.length =
      pointing at isPacked
  have isPackedSize : pointing.getPackedSizeOfMmhSdu =
      .ok (flowHeaderSize datagram.length + datagram.length) := by
    rw [← isPointing]
    exact configured_size rfl small
  have isDataPtr : pointing.getDataPtr =
      .ok (before.aCntW + flowHeaderSize datagram.length) := by
    rw [← isPointing]
    rfl
  obtain ⟨queue, newly, isRead, isRest⟩ :=
    @readNto_front
      { before with
        upd := pointing
        aTb :=
          before.aTb.write before.aCntW (flowHeader 1 datagram.length).code }
      datagram rest front writers i
      (before.aCntW + flowHeaderSize datagram.length)
  refine
    ⟨{ upd := pointing
       queue := queue
       appended := before.appended ++ newly
       aTb := before.aTb.write before.aCntW (datagramOctets datagram)
       aCntW := before.aCntW + datagramSize datagram },
      newly, ?_, ?_, isRest, rfl, rfl, rfl⟩
  · have notFull : ¬nTbByte ≤
        before.aCntW + (flowHeaderSize datagram.length + datagram.length) :=
      Nat.not_le_of_lt fits
    have inside : before.aCntW + flowHeaderSize datagram.length +
        datagram.length ≤ nTbByte := by
      omega
    rw [attachUserPlaneData]
    simp only [isFlowId, isData, isSize, ok_bind, if_neg notFull,
      isPacked, isPackedSize, isDataPtr, inside, decide_true,
      dectnrpAssert_true, isRead, if_neg positive.ne',
      write_datagram small]
    rfl
  · rw [← isPointing]
    rfl

theorem attachUserPlaneData_full
    (writers : Writers)
    (positive : 0 < datagram.length)
    (small : datagram.length ≤ 65535)
    (isFlow : before.upd.body.type = .userPlaneData)
    (full : nTbByte ≤ before.aCntW + datagramSize datagram)
    (i : Nat)
    (levels : List Nat) :
    attachUserPlaneData nTbByte writers i (datagram.length :: levels)
        before =
      .ok { before with upd := configured before.upd datagram.length } := by
  obtain ⟨flow, isFlowId, isData⟩ :=
    Checked.bind_eq_ok.mp (configured_eq before.upd positive small)
  have isSize := configured_size isFlow small
  rw [datagramSize] at full
  rw [attachUserPlaneData]
  simp only [isFlowId, isData, isSize, ok_bind, if_pos full, pure_eq_ok]

/-- What attaching datagrams leaves behind. -/
structure Attached
    (nTbByte : Nat)
    (datagrams others : List (List UInt8))
    (before after : Assembly) :
    Prop where
  position :
    after.aCntW =
      before.aCntW +
        datagramSizes (fitting nTbByte before.aCntW datagrams)
  octets :
    after.aTb =
      before.aTb.write before.aCntW
        ((fitting nTbByte before.aCntW datagrams).flatMap datagramOctets)
  removed :
    ∃ newly,
      after.appended = before.appended ++ newly ∧
      after.queue.datagrams =
        datagrams.drop (fitting nTbByte before.aCntW datagrams).length ++
          (others ++ newly)
  untouched :
    fitting nTbByte before.aCntW datagrams = [] →
    after.queue = before.queue

/-- Nothing is left behind if no datagram fits. -/
theorem Attached.of_none
    {datagrams others : List (List UInt8)}
    (noDatagram : fitting nTbByte before.aCntW datagrams = [])
    (front : before.queue.datagrams = datagrams ++ others)
    (upd : Mmie) :
    Attached nTbByte datagrams others before { before with upd := upd } where
  position := by
    rw [noDatagram]
    rfl
  octets := by
    rw [noDatagram]
    exact (Memory.write_nil _ _).symm
  removed := by
    refine ⟨[], (List.append_nil _).symm, ?_⟩
    rw [noDatagram, List.append_nil]
    exact front
  untouched _ := rfl

/--
If the queue begins with datagrams of the reported sizes, those that fit are
attached and removed from the queue.
-/
theorem attachUserPlaneData_attached
    {nTbByte : Nat}
    (writers : Writers)
    {datagrams others : List (List UInt8)}
    (sized :
      ∀ datagram ∈ datagrams, 0 < datagram.length ∧ datagram.length ≤ 65535)
    {before : Assembly}
    (isFlow : before.upd.body.type = .userPlaneData)
    (front : before.queue.datagrams = datagrams ++ others)
    (i : Nat) :
    ∃ after,
      attachUserPlaneData nTbByte writers i (datagrams.map List.length)
          before =
        .ok after ∧
      Attached nTbByte datagrams others before after := by
  induction datagrams generalizing before others i with
  | nil => exact ⟨before, rfl, .of_none rfl front before.upd⟩
  | cons datagram datagrams hypothesis =>
      obtain ⟨positive, small⟩ := sized datagram List.mem_cons_self
      rw [List.map_cons]
      by_cases full : nTbByte ≤ before.aCntW + datagramSize datagram
      · refine
          ⟨_, attachUserPlaneData_full writers positive small isFlow full i
            _, .of_none ?_ front _⟩
        rw [fitting, if_pos full]
      · obtain ⟨next, newly, isNext, stillFlow, isRest, isAppended, isTb,
            isCntW⟩ :=
          attachUserPlaneData_fits writers positive small isFlow
            (front.trans (List.cons_append ..)) (Nat.lt_of_not_le full) i
            (datagrams.map List.length)
        rw [List.append_assoc] at isRest
        obtain ⟨after, returned, position, octets, ⟨later, alsoAppended,
            isLeft⟩, -⟩ :=
          hypothesis
            (fun other member => sized other (List.mem_cons_of_mem _ member))
            stillFlow isRest (i + 1)
        rw [isCntW] at position octets isLeft
        have fits : fitting nTbByte before.aCntW (datagram :: datagrams) =
            datagram :: fitting nTbByte (before.aCntW + datagramSize datagram)
                datagrams := by
          rw [fitting, if_neg full]
        refine
          ⟨after, isNext.trans returned, ?_, ?_, ⟨newly ++ later, ?_, ?_⟩, ?_⟩
        · rw [fits, position, datagramSizes, datagramSizes,
            List.map_cons, List.sum_cons, Nat.add_assoc]
        · rw [fits, octets, isTb, List.flatMap_cons,
            ← Memory.write_write, datagramOctets_length small]
        · rw [alsoAppended, isAppended, List.append_assoc]
        · rw [fits, isLeft, List.length_cons, List.drop_succ_cons,
            List.append_assoc others]
        · rw [fits]
          intro noDatagram
          cases noDatagram

/-- The octets of a transport block with some datagrams. -/
def unicastOctets
    (nTbByte : Nat)
    (datagrams : List (List UInt8)) :
    List UInt8 :=
  macHeaderType.code ::
    (datagrams.flatMap datagramOctets ++
      PaddingIe.octets
        (nTbByte - (getPackedSizeMhtMch + datagramSizes datagrams)))

/-- A datagram as an element of a sender. -/
def unicastSdu (datagram : List UInt8) : Sdu :=
  .userPlaneData 1 datagram.length datagram

variable {datagrams : List (List UInt8)}

theorem datagramsOctets_length
    (small : ∀ datagram ∈ datagrams, datagram.length ≤ 65535) :
    (datagrams.flatMap datagramOctets).length = datagramSizes datagrams := by
  induction datagrams with
  | nil => rfl
  | cons datagram datagrams hypothesis =>
      rw [List.flatMap_cons, List.length_append,
        datagramOctets_length (small _ List.mem_cons_self),
        hypothesis (fun other member => small other (.tail _ member)),
        datagramSizes, datagramSizes, List.map_cons, List.sum_cons]

theorem unicastOctets_length
    (small : ∀ datagram ∈ datagrams, datagram.length ≤ 65535)
    (fits : getPackedSizeMhtMch + datagramSizes datagrams ≤ nTbByte) :
    (unicastOctets nTbByte datagrams).length = nTbByte := by
  have oneOctet : getPackedSizeMhtMch = 1 := rfl
  rw [oneOctet] at fits
  rw [unicastOctets, List.length_cons, List.length_append,
    datagramsOctets_length small, PaddingIe.octets_length, oneOctet]
  omega

/-- Headers, datagrams and padding are written one behind the other. -/
theorem write_unicastOctets
    (nTbByte : Nat)
    {datagrams : List (List UInt8)}
    (small : ∀ datagram ∈ datagrams, datagram.length ≤ 65535)
    (memory : Memory) :
    (((memory.write 0 [macHeaderType.code]).write 1
        (datagrams.flatMap datagramOctets)).write
          (1 + datagramSizes datagrams)
          (PaddingIe.octets (nTbByte - (1 + datagramSizes datagrams)))) =
      memory.write 0 (unicastOctets nTbByte datagrams) := by
  have elements :=
    Memory.write_write 1 (datagrams.flatMap datagramOctets)
      (PaddingIe.octets (nTbByte - (1 + datagramSizes datagrams)))
      (memory.write 0 [macHeaderType.code])
  rw [datagramsOctets_length small] at elements
  rw [elements]
  exact Memory.write_write 0 [macHeaderType.code] _ memory

theorem send_unicastSdu
    (positive : 0 < datagram.length)
    (small : datagram.length ≤ 65535)
    (offset : Nat)
    (memory : Memory) :
    ∃ mmie,
      (unicastSdu datagram).send offset memory =
        .ok (mmie, offset + datagramSize datagram,
          memory.write offset (datagramOctets datagram)) := by
  have isPrepared : (unicastSdu datagram).prepare =
      .ok (configured (.construct .userPlaneData) datagram.length) :=
    configured_eq _ positive small
  have isPacked :=
    @configured_pack (.construct .userPlaneData) rfl _ small offset memory
  generalize isPointing : configured
      { Mmie.construct .userPlaneData with
        body :=
          .userPlaneData (some (offset + flowHeaderSize datagram.length)) }
      datagram.length =
      pointing at isPacked
  have isSize : pointing.getPackedSizeOfMmhSdu =
      .ok (flowHeaderSize datagram.length + datagram.length) := by
    rw [← isPointing]
    exact configured_size rfl small
  refine ⟨pointing, ?_⟩
  rw [Sdu.send, isPrepared, ok_bind, isPacked, ok_bind]
  simp only [isSize, ok_bind, pure_eq_ok]
  rw [← isPointing, ← write_datagram small]
  rfl

theorem sendAll_unicastSdus
    (sized :
      ∀ datagram ∈ datagrams, 0 < datagram.length ∧ datagram.length ≤ 65535)
    (offset : Nat)
    (memory : Memory) :
    ∃ mmies,
      sendAll (datagrams.map unicastSdu) offset memory =
        .ok (mmies, offset + datagramSizes datagrams,
          memory.write offset (datagrams.flatMap datagramOctets)) := by
  induction datagrams generalizing offset memory with
  | nil =>
      refine ⟨[], ?_⟩
      rw [List.flatMap_nil, Memory.write_nil]
      rfl
  | cons datagram datagrams hypothesis =>
      obtain ⟨positive, small⟩ := sized datagram List.mem_cons_self
      obtain ⟨mmie, sent⟩ := send_unicastSdu positive small offset memory
      obtain ⟨mmies, rest⟩ :=
        hypothesis (fun other member => sized other (.tail _ member))
          (offset + datagramSize datagram)
          (memory.write offset (datagramOctets datagram))
      refine ⟨mmie :: mmies, ?_⟩
      rw [List.map_cons, sendAll, sent, ok_bind]
      simp only [rest, ok_bind, pure_eq_ok]
      rw [List.flatMap_cons, ← Memory.write_write,
        datagramOctets_length small, datagramSizes, datagramSizes,
        List.map_cons, List.sum_cons, Nat.add_assoc]

theorem multiplex_unicastSdus
    {nTbByte : Nat}
    {datagrams : List (List UInt8)}
    (sized :
      ∀ datagram ∈ datagrams, 0 < datagram.length ∧ datagram.length ≤ 65535)
    (memory : Memory) :
    ∃ mmies,
      multiplex macHeaderType .mchEmpty (datagrams.map unicastSdu) nTbByte
          memory =
        .ok (mmies, memory.write 0 (unicastOctets nTbByte datagrams)) := by
  have small : ∀ datagram ∈ datagrams, datagram.length ≤ 65535 :=
    fun datagram member => (sized datagram member).2
  have headers :
      macHeaderType.getPackedSize + MacCommonHeader.mchEmpty.getPackedSize =
        1 :=
    rfl
  obtain ⟨mmies, sent⟩ :=
    sendAll_unicastSdus sized 1 (memory.write 0 [macHeaderType.code])
  refine ⟨mmies, ?_⟩
  have noOctets (between : Memory) :
      MacCommonHeader.mchEmpty.pack macHeaderType.getPackedSize between =
        .ok between :=
    rfl
  rw [multiplex, MacHeaderType.pack_valid rfl, ok_bind, noOctets,
    ok_bind, headers, sent, ok_bind]
  have filled :=
    @PaddingIe.fill_octets (.construct .paddingIe) rfl
      (1 + datagramSizes datagrams)
      (nTbByte - (1 + datagramSizes datagrams))
      ((memory.write 0 [macHeaderType.code]).write 1
        (datagrams.flatMap datagramOctets))
  simp only [PaddingIe.fillWithPaddingIes, filled, ok_bind,
    pure_eq_ok, write_unicastOctets nTbByte small]

theorem unicastOctets_decoded
    (sized :
      ∀ datagram ∈ datagrams, 0 < datagram.length ∧ datagram.length ≤ 65535)
    (few : datagrams.length ≤ MacPduDecoder.maxNofUserPlaneDataPerMacPdu)
    (fits : getPackedSizeMhtMch + datagramSizes datagrams ≤ nTbByte)
    (limited : nTbByte + 65535 < 2 ^ 32)
    (memory : Memory)
    {mu : Nat}
    (muValid : mu = 1 ∨ mu = 2 ∨ mu = 4 ∨ mu = 8)
    {decoder : MacPduDecoder}
    (typed : decoder.WellTyped)
    {fuel : Nat}
    (enough : 4 * nTbByte + 5 ≤ fuel) :
    ∃ final,
      (do
        let decoder ← decoder.setConfiguration nTbByte mu
        decoder.decode fuel
          (memory.write 0 (unicastOctets nTbByte datagrams)) nTbByte) =
        .ok (some final) ∧
      final.hasReachedValidFinalState = .ok true ∧
      final.getMacHeaderType = some macHeaderType ∧
      final.getMacCommonHeader = some .mchEmpty ∧
      List.Forall₂
        (Carries (memory.write 0 (unicastOctets nTbByte datagrams)))
        final.decodedMmies (datagrams.map unicastSdu) := by
  have valid : ∀ sdu ∈ datagrams.map unicastSdu, sdu.Valid mu := by
    intro sdu member
    obtain ⟨datagram, inDatagrams, rfl⟩ := List.mem_map.mp member
    obtain ⟨positive, small⟩ := sized datagram inDatagrams
    exact ⟨by decide, by decide, positive, small, Nat.le_refl _⟩
  have counted : ∀ type, countOf (datagrams.map unicastSdu) type ≤
      MacPduDecoder.nofElements type := by
    intro type
    rw [countOf, List.countP_map]
    cases type with
    | userPlaneData => exact Nat.le_trans List.countP_le_length few
    | _ =>
        rw [List.countP_eq_zero.mpr (fun _ _ => by simp [unicastSdu, Sdu.type])]
        exact Nat.zero_le _
  have sameSizes :
      packedSizes (datagrams.map unicastSdu) = datagramSizes datagrams := by
    rw [packedSizes, List.map_map]
    rfl
  obtain ⟨mmies, block, final, isBlock, decodes, isFinal, isType, isCommon,
      -, carried⟩ :=
    @MacPdu.multiplex_demultiplexed macHeaderType .mchEmpty rfl rfl
      (by decide) rfl mu muValid _ valid counted nTbByte
      (by
        rw [sameSizes]
        exact fits)
      limited memory decoder typed fuel enough
  obtain ⟨_, isWritten⟩ :=
    @multiplex_unicastSdus nTbByte datagrams sized memory
  have sameBlock : block = memory.write 0 (unicastOctets nTbByte datagrams) :=
    congrArg Prod.snd (Except.ok.inj (isBlock.symm.trans isWritten))
  rw [sameBlock] at decodes carried
  exact ⟨final, decodes, isFinal, isType, isCommon, carried⟩

/-- A transport block was assembled from the first datagrams of a queue. -/
structure Assembled
    (nTbByte : Nat)
    (queue : DatagramQueue)
    (aTb : Memory)
    (nof : Nat)
    (isWritten : Bool)
    (after : Assembly) :
    Prop where
  /-- These datagrams are removed from the queue, and no others. -/
  removed :
    after.queue.datagrams = queue.datagrams.drop nof ++ after.appended
  /-- No octet behind the transport block is written. -/
  inside : ∀ index, nTbByte ≤ index → after.aTb index = aTb index
  /-- Without a datagram the queue is not touched. -/
  unwritten : isWritten = false → nof = 0 ∧ after.queue = queue
  /-- Headers, datagrams and padding fill the transport block. -/
  filled :
    isWritten = true →
    0 < nof ∧
      after.aTb =
        aTb.write 0 (unicastOctets nTbByte (queue.datagrams.take nof)) ∧
      (unicastOctets nTbByte (queue.datagrams.take nof)).length = nTbByte
  /-- A receiver of the transport block lists these datagrams. -/
  decoded :
    isWritten = true →
    ∀ {mu : Nat},
      (mu = 1 ∨ mu = 2 ∨ mu = 4 ∨ mu = 8) →
      ∀ {decoder : MacPduDecoder},
        decoder.WellTyped →
        ∀ {fuel : Nat},
          4 * nTbByte + 5 ≤ fuel →
          ∃ final,
            (do
              let decoder ← decoder.setConfiguration nTbByte mu
              decoder.decode fuel after.aTb nTbByte) =
              .ok (some final) ∧
            final.hasReachedValidFinalState = .ok true ∧
            final.getMacHeaderType = some macHeaderType ∧
            final.getMacCommonHeader = some .mchEmpty ∧
            List.Forall₂ (Carries after.aTb) final.decodedMmies
              ((queue.datagrams.take nof).map unicastSdu)

/--
Whatever is in the queue and is appended to it meanwhile, the longest part of
the reported datagrams that fits is removed from the queue and put into the
transport block, or nothing is removed and nothing is sent.  The bound on the
size holds for every transport block, which has less than `2 ^ 29` octets.
-/
theorem worksubTxUnicastMacSdu_assembled
    {reported queue : DatagramQueue}
    {n : Nat}
    {levels : List Nat}
    (isReported : reported.getQueueLevelNto n = .ok levels)
    {others : List (List UInt8)}
    (appendedSince : queue.datagrams = reported.datagrams ++ others)
    (sized :
      ∀ datagram ∈ reported.datagrams,
        0 < datagram.length ∧ datagram.length ≤ 65535)
    {upd : Mmie}
    (isFlow : upd.body.type = .userPlaneData)
    {nTbByte : Nat}
    (holdsHeaders : getPackedSizeMhtMch ≤ nTbByte)
    (limited : nTbByte + 65535 < 2 ^ 32)
    (writers : Writers)
    (aTb : Memory) :
    ∃ isWritten after nof,
      worksubTxUnicastMacSdu nTbByte writers levels upd queue aTb =
        .ok (isWritten, after) ∧
      LongestFitting nTbByte getPackedSizeMhtMch
        (reported.datagrams.take n) nof ∧
      Assembled nTbByte queue aTb nof isWritten after := by
  obtain ⟨isLevels, few⟩ := DatagramQueue.getQueueLevelNto_eq_ok isReported
  have split :
      queue.datagrams =
        reported.datagrams.take n ++
          (reported.datagrams.drop n ++ others) := by
    rw [appendedSince, ← List.append_assoc, List.take_append_drop]
  have takenSized :
      ∀ datagram ∈ reported.datagrams.take n,
        0 < datagram.length ∧ datagram.length ≤ 65535 :=
    fun datagram member => sized datagram (List.mem_of_mem_take member)
  have noOctets (between : Memory) :
      MacCommonHeader.mchEmpty.pack macHeaderType.getPackedSize between =
        .ok between :=
    rfl
  obtain
      ⟨after, returned, position, octets, ⟨newly, isAppended, isLeft⟩,
        untouched⟩ :=
    @attachUserPlaneData_attached nTbByte writers _ _ takenSized
      { upd := upd
        queue := queue
        appended := []
        aTb := aTb.write 0 [macHeaderType.code]
        aCntW := getPackedSizeMhtMch }
      isFlow split 0
  rw [← isLevels] at returned
  dsimp only at position octets isAppended isLeft untouched
  obtain ⟨longest, isTake⟩ :=
    fitting_longest nTbByte getPackedSizeMhtMch
      (reported.datagrams.take n)
  generalize
    fitting nTbByte getPackedSizeMhtMch (reported.datagrams.take n) = taken
    at *
  have isTaken : queue.datagrams.take taken.length = taken := by
    rw [split, List.take_append_of_le_length longest.inside, ← isTake]
  have removed :
      after.queue.datagrams =
        queue.datagrams.drop taken.length ++ after.appended := by
    rw [isLeft, split, List.drop_append_of_le_length longest.inside,
      isAppended, List.nil_append]
    simp only [List.append_assoc]
  have sizedTaken :
      ∀ datagram ∈ taken,
        0 < datagram.length ∧ datagram.length ≤ 65535 := by
    intro datagram member
    rw [isTake] at member
    exact takenSized datagram (List.mem_of_mem_take member)
  have smallTaken : ∀ datagram ∈ taken, datagram.length ≤ 65535 :=
    fun datagram member => (sizedTaken datagram member).2
  rw [worksubTxUnicastMacSdu, MacHeaderType.pack_valid rfl,
    Checked.ok_bind, noOctets, Checked.ok_bind, returned,
    Checked.ok_bind]
  cases taken with
  | nil =>
      have notMoved : getPackedSizeMhtMch = after.aCntW := position.symm
      rw [if_pos notMoved]
      refine ⟨false, after, 0, rfl, longest, removed, ?_, ?_, ?_, ?_⟩
      · intro index behind
        rw [octets, List.flatMap_nil, Memory.write_nil]
        exact Memory.write_behind _ _ (Nat.le_trans holdsHeaders behind)
      · intro _
        exact ⟨rfl, untouched rfl⟩
      · intro isTrue
        cases isTrue
      · intro isTrue
        cases isTrue
  | cons first rest =>
      have someTaken : 0 < (first :: rest).length := Nat.succ_pos _
      have fits := longest.fits someTaken
      rw [← isTake] at fits
      have positive : 0 < datagramSizes (first :: rest) := by
        rw [datagramSizes, List.map_cons, List.sum_cons]
        exact Nat.add_pos_left (datagramSize_pos first) _
      have moved : getPackedSizeMhtMch ≠ after.aCntW := by
        rw [position]
        omega
      have filled :=
        @PaddingIe.fill_octets (.construct .paddingIe) rfl after.aCntW
          (nTbByte - after.aCntW) after.aTb
      have isBlock :
          after.aTb.write after.aCntW
              (PaddingIe.octets (nTbByte - after.aCntW)) =
            aTb.write 0 (unicastOctets nTbByte (first :: rest)) := by
        rw [octets, position]
        exact write_unicastOctets nTbByte smallTaken aTb
      rw [if_neg moved]
      simp only [PaddingIe.fillWithPaddingIes, filled, Checked.ok_bind,
        Checked.pure_eq_ok, isBlock]
      have length := unicastOctets_length smallTaken (Nat.le_of_lt fits)
      refine
        ⟨true, _, (first :: rest).length, rfl, longest, removed, ?_, ?_,
          ?_, ?_⟩
      · intro index behind
        dsimp only
        refine Memory.write_behind _ _ ?_
        rw [length, Nat.zero_add]
        exact behind
      · intro isFalse
        cases isFalse
      · intro _
        rw [isTaken]
        exact ⟨someTaken, rfl, length⟩
      · intro _ mu muValid decoder typed fuel enough
        rw [isTaken]
        have limit : (first :: rest).length ≤ n :=
          Nat.le_trans longest.inside (List.length_take_le _ _)
        exact
          unicastOctets_decoded sizedTaken (Nat.le_trans limit few)
            (Nat.le_of_lt fits) limited aTb muValid typed enough

/-- A queue with a datagram of two octets and one of one octet. -/
def twoDatagrams : DatagramQueue where
  nDatagram := 5
  nDatagramMaxByte := 1600
  wIdx := 2
  rIdx := 0
  datagramVec i := if i = 0 then [0xAA, 0xBB] else [0xCC]
  wIdx_lt := by decide
  rIdx_lt := by decide

/-- Another datagram is written while the first one is attached. -/
theorem worksubTxUnicastMacSdu_twoDatagrams :
    ∃ isWritten after nof,
      worksubTxUnicastMacSdu 12
          (.ofDatagrams fun i => if i = 0 then [[0xDD]] else []) [2, 1]
          (.construct .userPlaneData) twoDatagrams (fun _ => 0) =
        .ok (isWritten, after) ∧
      LongestFitting 12 getPackedSizeMhtMch
        (twoDatagrams.datagrams.take 8) nof ∧
      Assembled 12 twoDatagrams (fun _ => 0) nof isWritten after :=
  @worksubTxUnicastMacSdu_assembled twoDatagrams twoDatagrams 8 [2, 1] rfl
    [] (List.append_nil _).symm (by decide) (.construct .userPlaneData)
    rfl 12 (by decide) (by decide)
    (.ofDatagrams fun i => if i = 0 then [[0xDD]] else []) (fun _ => 0)

end SteadyRd

end DectNrp
