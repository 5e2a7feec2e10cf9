import DectNrp.DatagramQueue
import DectNrp.MacPduRoundTrip

namespace DectNrp

/-!
# Assembly of unicast packets

A transport block for one device starts with the header type and the empty
common header.  Datagrams are attached to it as long as they fit, each behind
a multiplexing header that is set up from the size that the queue reported
before, and padding fills the rest.  While a block is assembled, other threads
may write further datagrams to the queue.
-/

/-- Where the payload of a flow is copied to. -/
def Mmie.getDataPtr (mmie : Mmie) : Checked Nat :=
  match mmie.body with
  | .userPlaneData (some dataPtr) => .ok dataPtr
  | _ => .error (.assertion "nullptr")

namespace SteadyRd

/-- What other threads do to the queue before each of the reads. -/
structure Writers where
  write : Nat → DatagramQueue → DatagramQueue
  appends :
    ∀ i queue,
      ∃ newly,
        (write i queue).datagrams = queue.datagrams ++ newly

/-- A datagram is written, and the calling thread stops if it is too large. -/
def writeDatagram
    (queue : DatagramQueue)
    (datagram : List UInt8) :
    DatagramQueue :=
  match queue.writeNto datagram with
  | .ok (_, after) => after
  | .error _ => queue

/-- Other threads write some datagrams before each of the reads. -/
def Writers.ofDatagrams
    (written : Nat → List (List UInt8)) :
    Writers where
  write i queue := (written i).foldl writeDatagram queue
  appends := by
    intro i queue
    induction written i generalizing queue with
    | nil =>
        exact ⟨[], (List.append_nil _).symm⟩
    | cons datagram datagrams hypothesis =>
        obtain ⟨later, isLater⟩ := hypothesis (writeDatagram queue datagram)
        rw [List.foldl_cons, isLater, writeDatagram]
        split
        · rename_i written after returned
          rcases DatagramQueue.writeNto_eq_ok returned with
              ⟨-, -, isAfter⟩ | ⟨-, -, isAfter, -⟩
          · exact ⟨later, by rw [isAfter]⟩
          · exact
              ⟨[datagram] ++ later, by
                rw [isAfter, List.append_assoc]⟩
        · exact ⟨later, rfl⟩

/-- MAC header type of unicast packets. -/
def macHeaderType : MacHeaderType where
  version := .v00
  macSecurity := .macsecNotUsed
  macHeaderType := .mchEmpty

/-- Octets of header type and common header. -/
def getPackedSizeMhtMch : Nat :=
  macHeaderType.getPackedSize + MacCommonHeader.mchEmpty.getPackedSize

/-- What changes while a transport block is assembled. -/
structure Assembly where
  /-- The element for user plane data of the pool. -/
  upd : Mmie
  queue : DatagramQueue
  /-- Datagrams that other threads have written meanwhile. -/
  appended : List (List UInt8)
  aTb : Memory
  aCntW : Nat

/-- Read the next datagram to where the payload of an element begins. -/
def Assembly.readNto
    (assembly : Assembly)
    (writers : Writers)
    (i dstPayload : Nat) :
    Nat × Assembly :=
  let queue := writers.write i assembly.queue
  let newly := queue.datagrams.drop assembly.queue.datagrams.length
  let (datagram, queue) := queue.readNto
  (datagram.length, { assembly with
    queue := queue
    appended := assembly.appended ++ newly
    aTb := assembly.aTb.write dstPayload datagram })

/-- Attach as many user plane data elements as possible. -/
def attachUserPlaneData
    (nTbByte : Nat)
    (writers : Writers) :
    Nat → List Nat → Assembly → Checked Assembly
  | _, [], assembly => pure assembly
  | i, level :: levels, assembly => do
      let upd ← UserPlaneData.setFlowId assembly.upd 1
      let upd ← UserPlaneData.setDataSize upd level
      let size ← upd.getPackedSizeOfMmhSdu
      if nTbByte ≤ assembly.aCntW + size then
        pure { assembly with upd := upd }
      else do
        let (upd, aTb) ← upd.packMmhSdu assembly.aCntW assembly.aTb
        let aCntWInc ← upd.getPackedSizeOfMmhSdu
        let dstPayload ← upd.getDataPtr
        dectnrpAssert (dstPayload + level ≤ nTbByte) "MAC PDU too large"
        let (nRead, assembly) :=
          { assembly with upd := upd, aTb := aTb }.readNto writers i
            dstPayload
        if nRead = 0 then
          pure assembly
        else
          attachUserPlaneData nTbByte writers (i + 1) levels
            { assembly with aCntW := assembly.aCntW + aCntWInc }

/-- Assemble a transport block; it is not sent if it holds no datagram. -/
def worksubTxUnicastMacSdu
    (nTbByte : Nat)
    (writers : Writers)
    (levels : List Nat)
    (upd : Mmie)
    (queue : DatagramQueue)
    (aTb : Memory) :
    Checked (Bool × Assembly) := do
  let aTb ← macHeaderType.pack 0 aTb
  let aTb ← MacCommonHeader.mchEmpty.pack macHeaderType.getPackedSize aTb
  let assembly ←
    attachUserPlaneData nTbByte writers 0 levels
      { upd := upd
        queue := queue
        appended := []
        aTb := aTb
        aCntW := getPackedSizeMhtMch }
  if getPackedSizeMhtMch = assembly.aCntW then
    pure (false, assembly)
  else do
    let aTb ←
      PaddingIe.fillWithPaddingIes assembly.aCntW
        (nTbByte - assembly.aCntW) assembly.aTb
    pure (true, { assembly with aTb := aTb })

end SteadyRd

namespace PaddingIe

/-- The octets of one padding element. -/
def elementOctets : Nat → List UInt8
  | 0 => []
  | 1 => [0xC0]
  | 2 => [0xE0, 0]
  | nBytes + 3 =>
      0x40 :: UInt8.ofNat (nBytes + 1) :: List.replicate (nBytes + 1) 0

/-- The octets of as many padding elements as are needed. -/
def octets (nBytes : Nat) : List UInt8 :=
  if nBytes = 0 then
    []
  else
    elementOctets (chunk nBytes) ++ octets (nBytes - chunk nBytes)
termination_by nBytes
decreasing_by
  have positive := chunk_pos ‹¬ nBytes = 0›
  omega

theorem elementOctets_length (nBytes : Nat) :
    (elementOctets nBytes).length = nBytes := by
  match nBytes with
  | 0 => rfl
  | 1 => rfl
  | 2 => rfl
  | nBytes + 3 => simp [elementOctets]

/-- Padding is as long as it is asked to be. -/
theorem octets_length (nBytes : Nat) :
    (octets nBytes).length = nBytes := by
  induction nBytes using Nat.strong_induction_on with
  | _ nBytes hypothesis =>
      rw [octets]
      by_cases remaining : nBytes = 0
      · rw [if_pos remaining, remaining]
        rfl
      · have positive := chunk_pos remaining
        have bounded : chunk nBytes ≤ nBytes := by
          unfold chunk
          split <;> omega
        rw [if_neg remaining, List.length_append, elementOctets_length,
          hypothesis _ (by omega)]
        omega

theorem setNofPaddingBytes_octets
    {mmie next : Mmie}
    {nBytes : Nat}
    (lower : 1 ≤ nBytes)
    (upper : nBytes ≤ nPaddingBytesMax)
    (isSet : setNofPaddingBytes mmie nBytes = .ok next) :
    next.macMultiplexingHeader.code ++
        List.replicate next.macMultiplexingHeader.length.toNat 0 =
      elementOctets nBytes := by
  by_cases isOne : nBytes = 1
  · subst isOne
    have isNext : setNofPaddingBytes mmie 1 = .ok { mmie with
        macMultiplexingHeader := { mmie.macMultiplexingHeader with
          macExt := .lengthField1Bit
          ieType := IeTypeMacExt11Len0.paddingIe
          length := 0 } } :=
      rfl
    rw [← Except.ok.inj (isNext.symm.trans isSet)]
    simp only [MacMultiplexingHeader.code]
    decide
  · by_cases isTwo : nBytes = 2
    · subst isTwo
      have isNext : setNofPaddingBytes mmie 2 = .ok { mmie with
          macMultiplexingHeader := { mmie.macMultiplexingHeader with
            macExt := .lengthField1Bit
            ieType := IeTypeMacExt11Len1.paddingIe
            length := 1 } } :=
        rfl
      rw [← Except.ok.inj (isNext.symm.trans isSet)]
      simp only [MacMultiplexingHeader.code]
      decide
    · obtain ⟨more, rfl⟩ : ∃ more, nBytes = more + 3 := ⟨nBytes - 3, by omega⟩
      have few : more + 1 ≤ 255 := by
        unfold nPaddingBytesMax at upper
        omega
      have isNext := MacPdu.setNofPaddingBytes_long mmie (by omega) upper
      have length : (UInt32.ofNat (more + 1)).toNat = more + 1 := by
        rw [UInt32.toNat_ofNat']
        omega
      have octet : (UInt32.ofNat (more + 1) &&& 255).toUInt8 =
          UInt8.ofNat (more + 1) := by
        have masked : (UInt32.ofNat (more + 1) &&& 255).toNat = more + 1 := by
          rw [UInt32.toNat_and, length]
          exact (BitFields.and_eq_mod 8 (by rfl) _).trans
            (Nat.mod_eq_of_lt (by omega))
        apply UInt8.toNat_inj.mp
        rw [UInt32.toNat_toUInt8, masked, UInt8.toNat_ofNat']
      rw [← Except.ok.inj (isNext.symm.trans isSet)]
      simp only [MacMultiplexingHeader.code,
        Nat.reduceSubDiff, octet, length, elementOctets,
        MacMultiplexingHeader.firstOctet]
      rfl

theorem packMmhSdu_octets
    {mmie : Mmie}
    (isPadding : mmie.body = .paddingIe)
    {nBytes : Nat}
    (lower : 1 ≤ nBytes)
    (upper : nBytes ≤ nPaddingBytesMax)
    (offset : Nat)
    (memory : Memory) :
    ∃ next,
      setNofPaddingBytes mmie nBytes = .ok next ∧
      next.body = .paddingIe ∧
      next.packMmhSdu offset memory =
        .ok (next, memory.write offset (elementOctets nBytes)) := by
  obtain ⟨next, isSet, sameBody, headerValid, -⟩ :=
    MacPdu.setNofPaddingBytes_valid mmie lower upper
  have stillPadding := sameBody.trans isPadding
  have codeLength := MacMultiplexingHeader.code_length headerValid
  refine ⟨next, isSet, stillPadding, ?_⟩
  simp only [Mmie.packMmhSdu, MacMultiplexingHeader.pack_valid headerValid,
    MacMultiplexingHeader.getPackedSize_valid headerValid,
    Checked.ok_bind, stillPadding, Checked.pure_eq_ok]
  rw [← codeLength, Memory.write_write,
    setNofPaddingBytes_octets lower upper isSet]

/-- Filling writes padding and nothing behind it. -/
theorem fill_octets
    {mmie : Mmie}
    (isPadding : mmie.body = .paddingIe)
    (offset nBytes : Nat)
    (memory : Memory) :
    fill mmie offset nBytes memory =
      .ok (memory.write offset (octets nBytes)) := by
  induction nBytes using Nat.strong_induction_on
    generalizing mmie offset memory with
  | _ nBytes hypothesis =>
      rw [fill, octets]
      by_cases remaining : nBytes = 0
      · rw [if_pos remaining, if_pos remaining, Memory.write_nil]
      · have positive := chunk_pos remaining
        have bounds :
            chunk nBytes ≤ nPaddingBytesMax ∧ chunk nBytes ≤ nBytes := by
          unfold chunk
          split <;> omega
        obtain ⟨next, isSet, isNext, packed⟩ :=
          packMmhSdu_octets isPadding positive bounds.1 offset memory
        have rest :=
          hypothesis (nBytes - chunk nBytes) (by omega) isNext
            (offset + chunk nBytes)
            (memory.write offset (elementOctets (chunk nBytes)))
        have joined :=
          Memory.write_write offset (elementOctets (chunk nBytes))
            (octets (nBytes - chunk nBytes)) memory
        rw [elementOctets_length] at joined
        rw [if_neg remaining, if_neg remaining, ← joined]
        simp only [isSet, packed, Checked.ok_bind, rest]

end PaddingIe

end DectNrp
