import DectNrp.HwUsrpInvariant
import Mathlib.Logic.Relation

namespace DectNrp

/-!
# Runs of the transmit thread of a USRP

In every run in which each gap that is filled fits into 32 bits, each sample is
sent at its time and each packet is given back once and in order.  A larger gap
can be taken for a small one.
-/

namespace Radio

namespace HwUsrp

open BurstStream (SentAt withOpen)

variable {nofBufferTx : Nat} {Sample : Type}

section Runs

variable
    [Zero Sample]
    {config : TxConfig}
    {queue : TxQueue Sample config.sppMax}
    {system : HwUsrp nofBufferTx Sample}
    {transmission : Transmission nofBufferTx}

/-- A step of a run in which the gap fits where it is filled. -/
structure FavourableStep
    (config : TxConfig)
    (queue : TxQueue Sample config.sppMax)
    (system after : HwUsrp nofBufferTx Sample) :
    Prop where
  step : Step config queue system after
  favourable :
    system.step config = .ok after → system.Favourable config

/-- Every favourable step keeps the invariant. -/
theorem FavourableStep.invariant
    {after : HwUsrp nofBufferTx Sample}
    (favourableStep : FavourableStep config queue system after)
    (invariant : Invariant config queue system) :
    Invariant config queue after := by
  obtain ⟨step, favourable⟩ := favourableStep
  cases step with
  | workTx returned =>
      obtain ⟨same, isSame, preserved⟩ := invariant.step (favourable returned)
      rw [returned] at isSame
      cases isSame
      exact preserved
  | phy step => exact invariant.phy step

theorem reachable_invariant
    {antStreamsLengthSamples : Nat}
    {antStreams : Fin nofBufferTx → Nat → Sample}
    (reachable :
      Relation.ReflTransGen (FavourableStep config queue)
        (initial nofBufferTx antStreamsLengthSamples antStreams) system) :
    Invariant config queue system := by
  induction reachable with
  | refl => exact invariant_initial queue antStreamsLengthSamples antStreams
  | tail _ step hypothesis => exact step.invariant hypothesis

/--
The bursts carry the packets at their times, and each packet is given back in
order after its last sample was sent.
-/
structure SendsBursts
    (config : TxConfig)
    (queue : TxQueue Sample config.sppMax)
    (system : HwUsrp nofBufferTx Sample) :
    Prop where
  /-- Bursts have ended one after the other, and the last one may go on. -/
  bursts :
    ∃ first last ended burst,
      system.bursts = withOpen ended burst ∧
        Bursts config queue first ended ∧
        IsBurst config queue first last false burst
  /-- All samples of a packet that is given back were sent at their time. -/
  sent :
    ∀ k < system.transmitted.length,
      ∀ (index : Nat) sample,
        (queue.packet k).samples[index]? = some sample →
          SentAt system.bursts
            ((queue.packet k).txTime - config.txTimeAdvanceSamples + index)
            sample
  order :
    system.transmitted =
      (List.range system.transmitted.length).map queue.packet

theorem Bursts.sendsBursts
    {count : Nat}
    (bursts : Bursts config queue count system.bursts)
    (notBefore : system.transmitted.length ≤ count)
    (invariant : Invariant config queue system) :
    SendsBursts config queue system := by
  refine ⟨⟨count, count, system.bursts, [], rfl, bursts,
      (openBurst_start bursts).isBurst⟩, ?_, invariant.order⟩
  intro k inside index sample isSample
  exact bursts.sentAt (Nat.lt_of_lt_of_le inside notBefore) isSample

theorem Continues.sendsBursts
    {last : Nat}
    {time : Int}
    {isEnd : Bool}
    (continues :
      Continues config queue system.transmitted.length system.bursts
        system.txMd last time isEnd)
    (notBefore : system.transmitted.length ≤ last)
    (endsBy : queue.EndsBy system.transmitted.length time)
    (invariant : Invariant config queue system) :
    SendsBursts config queue system := by
  refine ⟨?_, ?_, invariant.order⟩
  · obtain ⟨first, ended, burst, openBurst⟩ := continues
    exact ⟨first, last, ended, burst, openBurst.isOpen, openBurst.earlier,
        openBurst.isBurst⟩
  · intro k inside index sample isSample
    exact continues.sentAt (Nat.lt_of_lt_of_le inside notBefore)
        (endsBy k inside) isSample

theorem Underway.sendsBursts
    {isEnd : Bool}
    (underway : Underway config queue system transmission isEnd)
    (invariant : Invariant config queue system) :
    SendsBursts config queue system :=
  underway.1.2.sendsBursts (Nat.le_succ _) ((queue.endsBy_txTime _).mono
      (Int.le_add_of_nonneg_right (Int.natCast_nonneg _)))
    invariant

theorem Invariant.sendsBursts (invariant : Invariant config queue system) :
    SendsBursts config queue system := by
  have located := invariant.located
  have endsBy := queue.endsBy_txTime system.transmitted.length
  unfold Located at located
  cases isHere : system.workTx with
  | waiting =>
      rw [isHere] at located
      exact located.2.sendsBursts (Nat.le_refl _) invariant
  | starting =>
      rw [isHere] at located
      exact located.1.2.sendsBursts (Nat.le_refl _) invariant
  | picking =>
      rw [isHere] at located
      exact located.2.2.sendsBursts (Nat.le_refl _) endsBy invariant
  | sendingFirst =>
      rw [isHere] at located
      exact located.1.2.sendsBursts (Nat.le_succ _) endsBy invariant
  | sendingChunks =>
      rw [isHere] at located
      exact Underway.sendsBursts located invariant
  | completing =>
      rw [isHere] at located
      exact Underway.sendsBursts located invariant
  | lookingAhead =>
      rw [isHere] at located
      exact Underway.sendsBursts located.1 invariant
  | sendingFinal =>
      rw [isHere] at located
      exact Underway.sendsBursts located.1 invariant
  | sendingGap =>
      rw [isHere] at located
      refine located.1.2.sendsBursts (Nat.le_succ _) (endsBy.mono ?_) invariant
      unfold Packet.endTime
      omega
  | releasing transmission nextBufferTx =>
      rw [isHere] at located
      obtain ⟨-, -, next⟩ := located
      cases nextBufferTx with
      | none => exact next.1.sendsBursts (Nat.le_succ _) invariant
      | some nextBufferTx =>
          exact next.1.sendsBursts (Nat.le_succ _)
              (endsBy.mono (queue.txTime_mono (Nat.le_succ _))) invariant

/-- The next packet is picked up once it is handed over. -/
theorem Invariant.picksUp
    (invariant : Invariant config queue system)
    (isHere : system.workTx = .waiting)
    {index : Fin nofBufferTx}
    (isCarried :
      system.handed.carried index = some system.transmitted.length) :
    system.step config = .ok { system with workTx := .starting index } := by
  have located := invariant.located
  unfold Located at located
  rw [isHere] at located
  unfold HwUsrp.step
  rw [isHere]
  dsimp only
  unfold HwUsrp.waitForPacket
  rw [located.1, invariant.carries.finds isCarried]

/--
In every run in which each gap that is filled fits into 32 bits, the packets are
sent in bursts at their times, all bursts have ended while the thread waits, it
does not fail, and it picks up what is handed over.
-/
theorem reachable_sendsBursts
    {antStreamsLengthSamples : Nat}
    {antStreams : Fin nofBufferTx → Nat → Sample}
    (reachable :
      Relation.ReflTransGen (FavourableStep config queue)
        (initial nofBufferTx antStreamsLengthSamples antStreams) system) :
    SendsBursts config queue system ∧
      (system.workTx = .waiting →
        Bursts config queue system.transmitted.length system.bursts) ∧
      (system.Favourable config →
        ∃ after, system.step config = .ok after) ∧
      (system.workTx = .waiting →
        ∀ index,
          system.handed.carried index = some system.transmitted.length →
            system.step config =
              .ok { system with workTx := .starting index }) := by
  have invariant := reachable_invariant reachable
  refine ⟨invariant.sendsBursts, ?_, ?_, ?_⟩
  · intro isHere
    have located := invariant.located
    unfold Located at located
    rw [isHere] at located
    exact located.2
  · intro favourable
    obtain ⟨after, returned, -⟩ := invariant.step favourable
    exact ⟨after, returned⟩
  · intro isHere index isCarried
    exact invariant.picksUp isHere isCarried

end Runs

section LargeGap

/-- One sample a send and one leading zero, and only gaps of zero are filled. -/
def gapConfig : TxConfig where
  sppMax := 1
  sppMax_pos := Nat.one_pos
  sampRate := 1000000
  txBurstLeadingZeroUs := 1
  notTooManyZeros := Nat.le_refl 1
  txTimeAdvanceSamples := 0
  usrpTxGapSamples := 0

/-- Packets of two samples, and the first gap has 2 ^ 32 samples. -/
def gapPacket : Nat → Packet Nat
  | 0 => ⟨{ txOrderId := 0, txTime64 := 0 }, [1, 1]⟩
  | k + 1 =>
      ⟨{ txOrderId := k + 1, txTime64 := 4294967298 + 2 * k }, [2, 2]⟩

theorem orderId_gapPacket (k : Nat) :
    orderId gapPacket k = k := by
  induction k with
  | zero => rfl
  | succ k hypothesis =>
      have increases : (gapPacket k).bufferTxMeta.txOrderIdExpectNext < 0 := by
        match k with
        | 0 => decide
        | k + 1 => exact Int.negSucc_lt_zero 0
      show nextOrderId _ _ = _
      unfold nextOrderId
      rw [if_pos increases, hypothesis]
      push_cast
      rfl

/-- The packets in their order. -/
def gapQueue : TxQueue Nat gapConfig.sppMax where
  packet := gapPacket
  numbered := by
    intro k
    rw [orderId_gapPacket]
    match k with
    | 0 => rfl
    | k + 1 =>
        show (k : Int) + 1 = ((k + 1 : Nat) : Int)
        push_cast
        rfl
  long := by
    intro k
    match k with
    | 0 => decide
    | k + 1 => exact Nat.lt_succ_self 1
  apart := by
    intro k
    match k with
    | 0 => decide
    | k + 1 =>
        show
          4294967298 + 2 * (k : Int) + (2 : Nat) ≤
            4294967298 + 2 * ((k + 1 : Nat) : Int)
        push_cast
        omega

/-- A buffer with a complete packet that is not transmittable yet. -/
def writtenBuffer (packet : Packet Nat) : BufferTx Nat where
  lock := ⟨true, false⟩
  antStreamsLengthSamples := 2
  antStreams := fun index => packet.samples.getD index 0
  txLengthSamples := packet.samples.length
  txLengthSamplesCnt := packet.samples.length
  bufferTxMeta := {}

/-- A packet is filled into a free buffer and handed over. -/
theorem handOver
    {system : HwUsrp nofBufferTx Nat}
    {index : Fin nofBufferTx}
    (k : Nat)
    (isFree : (system.handed.buffers index).lock.inner = false)
    (isNew : (system.handed.buffers index).bufferTxMeta = {})
    (pending : system.transmitted.length ≤ k)
    (once : ∀ other, system.handed.carried other ≠ some k)
    (quiet : system.workTx = .waiting) :
    Relation.ReflTransGen (FavourableStep gapConfig gapQueue) system
      { system with
        handed :=
          { buffers :=
              Function.update (Function.update system.handed.buffers index
                  (writtenBuffer (gapPacket k)))
                index
                { writtenBuffer (gapPacket k) with
                  lock := ⟨true, true⟩
                  bufferTxMeta := (gapPacket k).bufferTxMeta }
            carried :=
              Function.update system.handed.carried index (some k) } } := by
  have favourable : ∀ handed : Handed nofBufferTx Nat,
      ({ system with handed := handed } :
        HwUsrp nofBufferTx Nat).Favourable gapConfig := by
    intro handed
    unfold Favourable
    dsimp only
    rw [quiet]
    trivial
  have written : TxSystem.Holds (writtenBuffer (gapPacket k)) (gapPacket k)
      (writtenBuffer (gapPacket k)).txLengthSamplesCnt := by
    intro position inside
    rw [List.getElem?_eq_getElem inside]
    exact congrArg some (List.getD_eq_getElem _ 0 inside).symm
  have due : ∀ earlier, system.transmitted.length ≤ earlier → earlier < k →
      orderId gapQueue.packet earlier ≠ orderId gapQueue.packet k := by
    intro earlier _ before same
    have sameOrder : orderId gapPacket earlier = orderId gapPacket k := same
    rw [orderId_gapPacket, orderId_gapPacket] at sameOrder
    exact absurd (Int.ofNat.inj sameOrder) before.ne
  have steps :=
    Handed.phySteps_handOver k isFree isNew.symm rfl rfl written pending
      once due
  exact .tail (.single ⟨.phy steps.1, fun _ => favourable system.handed⟩)
      ⟨.phy steps.2, fun _ => favourable _⟩

/-- The thread takes some steps. -/
def stepTimes :
    Nat → HwUsrp nofBufferTx Nat → Checked (HwUsrp nofBufferTx Nat)
  | 0, system => .ok system
  | times + 1, system => do
      let system ← system.step gapConfig
      stepTimes times system

theorem reaches_stepTimes
    {times : Nat}
    {system after : HwUsrp nofBufferTx Nat}
    (returned : stepTimes times system = .ok after) :
    Relation.ReflTransGen (Step gapConfig gapQueue) system after := by
  induction times generalizing system with
  | zero =>
      cases returned
      exact .refl
  | succ times hypothesis =>
      obtain ⟨between, first, rest⟩ := Checked.bind_eq_ok.mp returned
      exact .head (.workTx first) (hypothesis rest)

/-- Two packets are sent in two bursts, and their buffers are given back. -/
theorem reachable_sendsBursts_twoBursts :
    ∃ system : HwUsrp 2 Nat,
      SendsBursts gapConfig gapQueue system ∧
        system.transmitted = [gapPacket 0, gapPacket 1] ∧
        system.bursts.length = 2 := by
  have quiet
      {system after : HwUsrp 2 Nat}
      (returned : system.step gapConfig = .ok after)
      (favourable : system.Favourable gapConfig) :
      FavourableStep gapConfig gapQueue system after :=
    ⟨.workTx returned, fun _ => favourable⟩
  have handed :=
    @handOver 2 (initial 2 2 (fun _ _ => 0)) 0 0 rfl rfl (Nat.le_refl 0)
      (fun _ => Option.some_ne_none 0 |>.symm) rfl
  have started :=
    ((handed.tail (quiet rfl trivial)).tail (quiet rfl trivial)).tail
      (quiet rfl trivial)
  have completed :=
    ((started.tail (quiet rfl trivial)).tail (quiet rfl trivial)).tail
      (quiet rfl trivial)
  have givenBack :=
    ((completed.tail (quiet rfl fun _ _ found => nomatch found)).tail
      (quiet rfl trivial)).tail (quiet rfl trivial)
  have handedSecond :=
    givenBack.trans
      (@handOver 2 _ 1 1 rfl rfl (Nat.le_refl 1) (by decide) rfl)
  have startedSecond :=
    ((handedSecond.tail (quiet rfl trivial)).tail
      (quiet rfl trivial)).tail (quiet rfl trivial)
  have completedSecond :=
    ((startedSecond.tail (quiet rfl trivial)).tail
      (quiet rfl trivial)).tail (quiet rfl trivial)
  have sent :=
    ((completedSecond.tail (quiet rfl fun _ _ found => nomatch found)).tail
      (quiet rfl trivial)).tail (quiet rfl trivial)
  exact ⟨_, (reachable_sendsBursts sent).1, rfl, rfl⟩

/-- The second packet is sent right behind the first one. -/
theorem not_sendsBursts_largeGap :
    ¬ ∀ (queue : TxQueue Nat gapConfig.sppMax) (system : HwUsrp 2 Nat),
        Relation.ReflTransGen (Step gapConfig queue)
            (initial 2 2 (fun _ _ => 0)) system →
          SendsBursts gapConfig queue system := by
  intro always
  have first :=
    @handOver 2 (initial 2 2 (fun _ _ => 0)) 0 0 rfl rfl (Nat.le_refl 0)
      (fun _ => Option.some_ne_none 0 |>.symm) rfl
  have both :=
    first.trans
      (@handOver 2 _ 1 1 rfl rfl (Nat.zero_le 1) (by decide) rfl)
  have weaker :
      ∀ before after : HwUsrp 2 Nat,
        FavourableStep gapConfig gapQueue before after →
        Step gapConfig gapQueue before after :=
    fun _ _ favourableStep => favourableStep.step
  have handed := Relation.ReflTransGen.mono weaker _ _ both
  have ran := handed.trans (@reaches_stepTimes 2 16 _ _ rfl)
  obtain ⟨burst, isBurst, start, isStart, -, position, isTime, isSample⟩ :=
    (always gapQueue _ ran).sent 1 Nat.one_lt_two 0 2 rfl
  have isOnly := List.mem_singleton.mp isBurst
  subst isOnly
  have isFirst := Option.some.inj isStart
  subst isFirst
  -- the burst starts before time zero and has five samples
  have inside : position < 5 := (List.getElem?_eq_some_iff.mp isSample).1
  have isLate : (-1 : Int) + position = 4294967298 := isTime
  omega

end LargeGap

end HwUsrp

end Radio

end DectNrp
