import DectNrp.HwUsrpSignal

namespace DectNrp

/-!
# Invariant of the transmit thread of a USRP

Wherever the thread is, the burst that goes on is at the time of the sample
that is sent next.  The gap to the next packet of a burst is narrowed to 32
bits, and this must lose nothing where the gap is filled.
-/

open Checked (ok_bind)

namespace Radio

namespace HwUsrp

variable {nofBufferTx : Nat} {Sample : Type}

/-- Gap between the current packet and one that is found behind it. -/
def usrpTxGap64
    (config : TxConfig)
    (system : HwUsrp nofBufferTx Sample)
    (transmission : Transmission nofBufferTx)
    (nextBufferTx : Fin nofBufferTx) :
    Int :=
  (system.handed.buffers nextBufferTx).bufferTxMeta.txTime64 -
    config.txTimeAdvanceSamples - transmission.txTimeTaEnd64

theorem uint32Cast_int32Cast
    {gap : Int}
    (notNegative : 0 ≤ gap)
    (fits : gap < 2 ^ 32) :
    (uint32Cast (int32Cast gap) : Int) = gap := by
  unfold uint32Cast int32Cast
  have same : Int.bmod gap (2 ^ 32) % 2 ^ 32 = gap :=
    Int.bmod_emod.trans (Int.emod_eq_of_lt notNegative fits)
  rw [same]
  exact Int.toNat_of_nonneg notNegative

/--
What is found behind the current packet is another one, and it either starts a
new burst, or the gap fits into 32 bits and nothing is to be adjusted before.
-/
def Favourable
    (config : TxConfig)
    (system : HwUsrp nofBufferTx Sample) :
    Prop :=
  match system.workTx with
  | .lookingAhead transmission =>
      0 ≤ config.usrpTxGapSamples →
        ∀ nextBufferTx,
          system.handed.buffers.getSpecificTxOrderIdIfAvailable
              system.txOrderIdExpected =
            some nextBufferTx →
          nextBufferTx ≠ transmission.currentBufferTx ∧
            (config.usrpTxGapSamples <
                int32Cast
                  (usrpTxGap64 config system transmission nextBufferTx) ∨
              usrpTxGap64 config system transmission nextBufferTx <
                  2 ^ 32 ∧
                (system.handed.buffers
                    transmission.currentBufferTx).bufferTxMeta.txPowerAdjDB =
                  false ∧
                (system.handed.buffers
                    transmission.currentBufferTx).bufferTxMeta.rxPowerAdjDB =
                  false)
  | _ => True

/-- The thread transmits the next packet, and expects the one behind it. -/
structure WorksOn
    (config : TxConfig)
    (queue : TxQueue Sample config.sppMax)
    (transmitted : Nat)
    (handed : Handed nofBufferTx Sample)
    (txOrderIdExpected : Int)
    (transmission : Transmission nofBufferTx) :
    Prop where
  carried :
    handed.carried transmission.currentBufferTx = some transmitted
  txLengthSamples :
    transmission.txLengthSamples = (queue.packet transmitted).samples.length
  txTimeTa64 :
    transmission.txTimeTa64 =
      (queue.packet transmitted).txTime - config.txTimeAdvanceSamples
  expects : txOrderIdExpected = orderId queue.packet (transmitted + 1)

/-- All samples of the packet are published. -/
def Published
    (config : TxConfig)
    (queue : TxQueue Sample config.sppMax)
    (transmitted : Nat)
    (handed : Handed nofBufferTx Sample)
    (transmission : Transmission nofBufferTx) :
    Prop :=
  (queue.packet transmitted).samples.length ≤
    (handed.buffers transmission.currentBufferTx).txLengthSamplesCnt

/-- A buffer carries the packet that continues the burst after a gap. -/
structure FollowedBy
    (config : TxConfig)
    (queue : TxQueue Sample config.sppMax)
    (transmitted : Nat)
    (handed : Handed nofBufferTx Sample)
    (nextBufferTx : Fin nofBufferTx)
    (usrpTxGapCurrentSamples : Nat) :
    Prop where
  carried : handed.carried nextBufferTx = some (transmitted + 1)
  bridges :
    (queue.packet transmitted).endTime + usrpTxGapCurrentSamples =
      (queue.packet (transmitted + 1)).txTime
  txPowerAdjDB :
    (queue.packet transmitted).bufferTxMeta.txPowerAdjDB = false
  rxPowerAdjDB :
    (queue.packet transmitted).bufferTxMeta.rxPowerAdjDB = false

section Phy

variable
    {config : TxConfig}
    {queue : TxQueue Sample config.sppMax}
    {transmitted : Nat}
    {handed after : Handed nofBufferTx Sample}
    {txOrderIdExpected : Int}
    {transmission : Transmission nofBufferTx}

theorem WorksOn.phy
    (worksOn :
      WorksOn config queue transmitted handed txOrderIdExpected transmission)
    (carries : handed.Carries queue transmitted)
    (step : Handed.PhyStep queue transmitted handed after) :
    WorksOn config queue transmitted after txOrderIdExpected transmission :=
  ⟨step.carried carries worksOn.carried, worksOn.txLengthSamples,
    worksOn.txTimeTa64, worksOn.expects⟩

theorem Published.phy
    (published : Published config queue transmitted handed transmission)
    (worksOn :
      WorksOn config queue transmitted handed txOrderIdExpected transmission)
    (carries : handed.Carries queue transmitted)
    (step : Handed.PhyStep queue transmitted handed after) :
    Published config queue transmitted after transmission :=
  Nat.le_trans published (step.published carries worksOn.carried)

theorem FollowedBy.phy
    {nextBufferTx : Fin nofBufferTx}
    {usrpTxGapCurrentSamples : Nat}
    (followedBy :
      FollowedBy config queue transmitted handed nextBufferTx
        usrpTxGapCurrentSamples)
    (carries : handed.Carries queue transmitted)
    (step : Handed.PhyStep queue transmitted handed after) :
    FollowedBy config queue transmitted after nextBufferTx
      usrpTxGapCurrentSamples :=
  ⟨step.carried carries followedBy.carried, followedBy.bridges,
    followedBy.txPowerAdjDB, followedBy.rxPowerAdjDB⟩

end Phy

section Invariant

variable [Zero Sample]

/-- The thread waits for the next packet, and the bursts have ended. -/
def Idle
    (config : TxConfig)
    (queue : TxQueue Sample config.sppMax)
    (system : HwUsrp nofBufferTx Sample) :
    Prop :=
  system.txOrderIdExpected =
      orderId queue.packet system.transmitted.length ∧
    Bursts config queue system.transmitted.length system.bursts

/-- The thread is at a packet, and the next sample is sent at a time. -/
def Sending
    (config : TxConfig)
    (queue : TxQueue Sample config.sppMax)
    (system : HwUsrp nofBufferTx Sample)
    (transmission : Transmission nofBufferTx)
    (time : Int)
    (isEnd : Bool) :
    Prop :=
  WorksOn config queue system.transmitted.length system.handed
      system.txOrderIdExpected transmission ∧
    Continues config queue system.transmitted.length system.bursts
      system.txMd (system.transmitted.length + 1) time isEnd

/-- Some samples of the packet were sent, but not all. -/
def Underway
    (config : TxConfig)
    (queue : TxQueue Sample config.sppMax)
    (system : HwUsrp nofBufferTx Sample)
    (transmission : Transmission nofBufferTx)
    (isEnd : Bool) :
    Prop :=
  Sending config queue system transmission
      ((queue.packet system.transmitted.length).txTime +
        transmission.txLengthSamplesCnt)
      isEnd ∧
    transmission.txLengthSamplesCnt < transmission.txLengthSamples ∧
    system.txMd.startOfBurst = false

/-- What holds where the thread is. -/
def Located
    (config : TxConfig)
    (queue : TxQueue Sample config.sppMax)
    (system : HwUsrp nofBufferTx Sample) :
    Prop :=
  match system.workTx with
  | .waiting => Idle config queue system
  | .starting nextBufferTx =>
      Idle config queue system ∧
        system.handed.carried nextBufferTx =
          some system.transmitted.length
  | .picking nextBufferTx =>
      system.txOrderIdExpected =
          orderId queue.packet system.transmitted.length ∧
        system.handed.carried nextBufferTx =
          some system.transmitted.length ∧
        Continues config queue system.transmitted.length system.bursts
          system.txMd system.transmitted.length
          (queue.packet system.transmitted.length).txTime false
  | .sendingFirst transmission =>
      Sending config queue system transmission
          (queue.packet system.transmitted.length).txTime false ∧
        transmission.txLengthSamplesCnt = 0
  | .sendingChunks transmission =>
      Underway config queue system transmission false
  | .completing transmission =>
      Underway config queue system transmission false
  | .lookingAhead transmission =>
      Underway config queue system transmission false ∧
        Published config queue system.transmitted.length system.handed
          transmission
  | .sendingFinal transmission nextBufferTx usrpTxGapCurrentSamples =>
      Underway config queue system transmission nextBufferTx.isNone ∧
        Published config queue system.transmitted.length system.handed
          transmission ∧
        match nextBufferTx with
        | none => usrpTxGapCurrentSamples = 0
        | some nextBufferTx =>
            FollowedBy config queue system.transmitted.length
              system.handed nextBufferTx usrpTxGapCurrentSamples
  | .sendingGap transmission nextBufferTx usrpTxGapCurrentSamples
      usrpTxGapCurrentSamplesCnt =>
      Sending config queue system transmission
          ((queue.packet system.transmitted.length).endTime +
            usrpTxGapCurrentSamplesCnt)
          false ∧
        system.txMd.startOfBurst = false ∧
        Published config queue system.transmitted.length system.handed
          transmission ∧
        usrpTxGapCurrentSamplesCnt ≤ usrpTxGapCurrentSamples ∧
        ∃ next,
          nextBufferTx = some next ∧
            FollowedBy config queue system.transmitted.length
              system.handed next usrpTxGapCurrentSamples
  | .releasing transmission nextBufferTx =>
      WorksOn config queue system.transmitted.length system.handed
          system.txOrderIdExpected transmission ∧
        Published config queue system.transmitted.length system.handed
          transmission ∧
        match nextBufferTx with
        | none =>
            Bursts config queue (system.transmitted.length + 1)
                system.bursts ∧
              system.txMd.endOfBurst = true
        | some nextBufferTx =>
            Continues config queue system.transmitted.length
                system.bursts system.txMd (system.transmitted.length + 1)
                (queue.packet (system.transmitted.length + 1)).txTime
                false ∧
              ∃ usrpTxGapCurrentSamples,
                FollowedBy config queue system.transmitted.length
                  system.handed nextBufferTx usrpTxGapCurrentSamples

/-- What holds in every state of a run. -/
structure Invariant
    (config : TxConfig)
    (queue : TxQueue Sample config.sppMax)
    (system : HwUsrp nofBufferTx Sample) :
    Prop where
  carries : system.handed.Carries queue system.transmitted.length
  order :
    system.transmitted =
      (List.range system.transmitted.length).map queue.packet
  located : Located config queue system

variable
    {config : TxConfig}
    {queue : TxQueue Sample config.sppMax}
    {system : HwUsrp nofBufferTx Sample}
    {transmission : Transmission nofBufferTx}

theorem invariant_initial
    (queue : TxQueue Sample config.sppMax)
    (antStreamsLengthSamples : Nat)
    (antStreams : Fin nofBufferTx → Nat → Sample) :
    Invariant config queue
      (initial nofBufferTx antStreamsLengthSamples antStreams) :=
  ⟨Handed.carries_initial queue antStreamsLengthSamples antStreams, rfl,
    rfl, .nil⟩

/-- The other threads do not change where the thread is. -/
theorem Invariant.phy
    {handed : Handed nofBufferTx Sample}
    (invariant : Invariant config queue system)
    (step :
      Handed.PhyStep queue system.transmitted.length system.handed handed) :
    Invariant config queue { system with handed := handed } := by
  have carries := invariant.carries
  refine ⟨step.carries carries, invariant.order, ?_⟩
  have located := invariant.located
  unfold Located at located ⊢
  dsimp only
  cases isHere : system.workTx with
  | waiting =>
      rw [isHere] at located
      exact located
  | starting nextBufferTx =>
      rw [isHere] at located
      exact ⟨located.1, step.carried carries located.2⟩
  | picking nextBufferTx =>
      rw [isHere] at located
      exact ⟨located.1, step.carried carries located.2.1, located.2.2⟩
  | sendingFirst transmission =>
      rw [isHere] at located
      obtain ⟨⟨worksOn, continues⟩, nothingSent⟩ := located
      exact ⟨⟨worksOn.phy carries step, continues⟩, nothingSent⟩
  | sendingChunks transmission =>
      rw [isHere] at located
      obtain ⟨⟨worksOn, continues⟩, rest⟩ := located
      exact ⟨⟨worksOn.phy carries step, continues⟩, rest⟩
  | completing transmission =>
      rw [isHere] at located
      obtain ⟨⟨worksOn, continues⟩, rest⟩ := located
      exact ⟨⟨worksOn.phy carries step, continues⟩, rest⟩
  | lookingAhead transmission =>
      rw [isHere] at located
      obtain ⟨⟨⟨worksOn, continues⟩, rest⟩, published⟩ := located
      exact ⟨⟨⟨worksOn.phy carries step, continues⟩, rest⟩,
          published.phy worksOn carries step⟩
  | sendingFinal transmission nextBufferTx =>
      rw [isHere] at located
      obtain ⟨⟨⟨worksOn, continues⟩, rest⟩, published, next⟩ := located
      refine ⟨⟨⟨worksOn.phy carries step, continues⟩, rest⟩,
          published.phy worksOn carries step, ?_⟩
      cases nextBufferTx with
      | none => exact next
      | some nextBufferTx => exact FollowedBy.phy next carries step
  | sendingGap transmission nextBufferTx =>
      rw [isHere] at located
      obtain ⟨⟨worksOn, continues⟩, started, published, inside, next, isNext,
          followedBy⟩ := located
      exact ⟨⟨worksOn.phy carries step, continues⟩, started,
          published.phy worksOn carries step, inside, next, isNext,
          followedBy.phy carries step⟩
  | releasing transmission nextBufferTx =>
      rw [isHere] at located
      obtain ⟨worksOn, published, next⟩ := located
      refine ⟨worksOn.phy carries step, published.phy worksOn carries step, ?_⟩
      cases nextBufferTx with
      | none => exact next
      | some nextBufferTx =>
          obtain ⟨continues, gap, followedBy⟩ := next
          exact ⟨continues, gap, followedBy.phy carries step⟩

/-- What is found under the expected order is the next packet. -/
theorem Invariant.waitForPacket
    (invariant : Invariant config queue system)
    (isHere : system.workTx = .waiting) :
    Invariant config queue system.waitForPacket := by
  have located := invariant.located
  unfold Located at located
  rw [isHere] at located
  have idle := located
  obtain ⟨expects, -⟩ := located
  unfold HwUsrp.waitForPacket
  cases found : system.handed.buffers.getSpecificTxOrderIdIfAvailable
      system.txOrderIdExpected with
  | none => exact invariant
  | some nextBufferTx =>
      rw [expects] at found
      exact ⟨invariant.carries, invariant.order, idle,
          invariant.carries.found found⟩

variable {nextBufferTx : Fin nofBufferTx}

/-- The burst starts so that the packet is sent at its time. -/
theorem Invariant.startBurst
    (invariant : Invariant config queue system)
    (isHere : system.workTx = .starting nextBufferTx) :
    Invariant config queue (system.startBurst config nextBufferTx) := by
  have located := invariant.located
  unfold Located at located
  rw [isHere] at located
  obtain ⟨⟨expects, bursts⟩, isCarried⟩ := located
  have isPacket := invariant.carries.packet _ _ isCarried
  have isStart : (system.handed.buffers nextBufferTx).bufferTxMeta.txTime64 -
      config.txTimeAdvanceSamples - config.nofPrefixZeros64 =
        config.burstStart (queue.packet system.transmitted.length) := by
    rw [isPacket.bufferTxMeta]
    rfl
  unfold HwUsrp.startBurst
  dsimp only
  rw [isStart]
  by_cases leading : config.nofPrefixZeros64 > 0
  · rw [if_pos leading]
    exact ⟨invariant.carries, invariant.order, expects, isCarried,
        continues_leading bursts⟩
  · rw [if_neg leading]
    exact ⟨invariant.carries, invariant.order, expects, isCarried,
        continues_start bursts (Nat.eq_zero_of_not_pos leading)⟩

/-- The next packet is picked up, and the one behind it is expected. -/
theorem Invariant.pickUp
    (invariant : Invariant config queue system)
    (isHere : system.workTx = .picking nextBufferTx) :
    ∃ after,
      system.pickUp config nextBufferTx = .ok after ∧
        Invariant config queue after := by
  have located := invariant.located
  unfold Located at located
  rw [isHere] at located
  obtain ⟨expects, isCarried, continues⟩ := located
  have isPacket := invariant.carries.packet _ _ isCarried
  have long := queue.long system.transmitted.length
  rw [← isPacket.announced] at long
  unfold HwUsrp.pickUp
  simp only [decide_eq_true long, dectnrpAssert_true, ok_bind,
    Checked.pure_eq_ok]
  refine ⟨_, rfl, invariant.carries, invariant.order, ⟨⟨isCarried, ?_, ?_,
    ?_⟩, continues.pickUp (Int.le_refl _)⟩, rfl⟩
  · exact isPacket.announced
  · rw [isPacket.bufferTxMeta]
    rfl
  · rw [isPacket.bufferTxMeta, expects]
    rfl

/-- Samples that are published are sent at their time. -/
theorem Invariant.sendSamples
    (invariant : Invariant config queue system)
    {time : Int}
    (sending : Sending config queue system transmission time false)
    (isTime :
      time =
        (queue.packet system.transmitted.length).txTime +
          transmission.txLengthSamplesCnt)
    (nofSamples : Nat)
    (inside :
      transmission.txLengthSamplesCnt + nofSamples ≤
        transmission.txLengthSamples)
    (next : Transmission nofBufferTx → WorkTx nofBufferTx) :
    system.sendSamples transmission nofSamples next = .ok system ∨
      ∃ samples : List Sample,
        system.sendSamples transmission nofSamples next =
            .ok
              { system.send samples with
                workTx :=
                  next { transmission with
                    txLengthSamplesCnt :=
                      transmission.txLengthSamplesCnt + nofSamples } } ∧
          Continues config queue system.transmitted.length
            (BurstStream.addSend system.bursts ⟨samples, system.txMd⟩)
            { system.txMd with
              startOfBurst := false
              hasTimeSpec := false }
            (system.transmitted.length + 1)
            ((queue.packet system.transmitted.length).txTime +
              (transmission.txLengthSamplesCnt + nofSamples : Nat))
            false := by
  obtain ⟨worksOn, continues⟩ := sending
  rw [worksOn.txLengthSamples] at inside
  obtain ⟨available, waited⟩ := invariant.carries.waits worksOn.carried inside
  unfold HwUsrp.sendSamples
  cases available with
  | false =>
      left
      simp only [waited, ok_bind]
      rfl
  | true =>
      right
      obtain ⟨antStreams, isRead, isSample⟩ :=
        invariant.carries.reads worksOn.carried waited
          transmission.txLengthSamplesCnt
      refine ⟨(List.range nofSamples).map antStreams, ?_, ?_⟩
      · simp only [waited, isRead, ok_bind]
        rfl
      · rw [isTime] at continues
        have sent :=
          continues.send (fitsBurst_samples fun position early =>
              isSample position (Nat.add_lt_add_left early _))
        rw [List.length_map, List.length_range, Int.add_assoc,
          ← Int.natCast_add] at sent
        exact sent

/-- The first samples of the packet are sent. -/
theorem Invariant.sendFirst
    (invariant : Invariant config queue system)
    (isHere : system.workTx = .sendingFirst transmission) :
    ∃ after,
      system.sendFirst config transmission = .ok after ∧
        Invariant config queue after := by
  have located := invariant.located
  unfold Located at located
  rw [isHere] at located
  obtain ⟨⟨worksOn, continues⟩, nothingSent⟩ := located
  have long := queue.long system.transmitted.length
  rw [← worksOn.txLengthSamples] at long
  unfold HwUsrp.sendFirst
  rcases invariant.sendSamples ⟨worksOn, continues⟩
      (by rw [nothingSent]; exact (Int.add_zero _).symm) config.sppMax
      (by omega) .sendingChunks with same | ⟨samples, sent, goesOn⟩
  · rw [same, ok_bind, isHere]
    exact ⟨_, rfl, invariant⟩
  · rw [sent, ok_bind]
    refine ⟨_, rfl, invariant.carries, invariant.order,
      ⟨⟨worksOn.carried, worksOn.txLengthSamples, worksOn.txTimeTa64,
        worksOn.expects⟩, goesOn⟩, ?_, rfl⟩
    show transmission.txLengthSamplesCnt + config.sppMax <
        transmission.txLengthSamples
    omega

/-- A chunk of the packet is sent, or the last one is left. -/
theorem Invariant.sendChunks
    (invariant : Invariant config queue system)
    (isHere : system.workTx = .sendingChunks transmission) :
    ∃ after,
      system.sendChunks config transmission = .ok after ∧
        Invariant config queue after := by
  have located := invariant.located
  unfold Located at located
  rw [isHere] at located
  have underway := located
  obtain ⟨⟨worksOn, continues⟩, unfinished, started⟩ := located
  unfold HwUsrp.sendChunks
  dsimp only
  by_cases more :
      transmission.txLengthSamples - transmission.txLengthSamplesCnt >
        config.sppMax
  · rw [if_pos more]
    rcases invariant.sendSamples ⟨worksOn, continues⟩ rfl config.sppMax
        (by omega) .sendingChunks with same | ⟨samples, sent, goesOn⟩
    · exact ⟨system, same, invariant⟩
    · rw [continues.sameMetadata started] at goesOn
      refine ⟨_, sent, invariant.carries, invariant.order,
        ⟨⟨worksOn.carried, worksOn.txLengthSamples, worksOn.txTimeTa64,
          worksOn.expects⟩, goesOn⟩, ?_, started⟩
      show transmission.txLengthSamplesCnt + config.sppMax <
          transmission.txLengthSamples
      omega
  · have isLast : (decide (transmission.txLengthSamples -
        transmission.txLengthSamplesCnt > 0) &&
          decide (transmission.txLengthSamples -
              transmission.txLengthSamplesCnt ≤ config.sppMax)) =
          true := by
      rw [Bool.and_eq_true, decide_eq_true_iff, decide_eq_true_iff]
      omega
    rw [if_neg more, isLast, dectnrpAssert_true]
    exact ⟨_, rfl, invariant.carries, invariant.order, underway⟩

/-- All samples of the packet are published. -/
theorem Invariant.complete
    (invariant : Invariant config queue system)
    (isHere : system.workTx = .completing transmission) :
    ∃ after,
      system.complete transmission = .ok after ∧
        Invariant config queue after := by
  have located := invariant.located
  unfold Located at located
  rw [isHere] at located
  have underway := located
  obtain ⟨⟨worksOn, -⟩, -, -⟩ := located
  obtain ⟨available, waited⟩ :=
    invariant.carries.waits worksOn.carried
      (Nat.le_of_eq worksOn.txLengthSamples)
  unfold HwUsrp.complete
  simp only [waited, ok_bind]
  cases available with
  | false => exact ⟨system, rfl, invariant⟩
  | true =>
      refine ⟨_, rfl, invariant.carries, invariant.order, underway, ?_⟩
      obtain ⟨-, published⟩ := BufferTx.waitForSamplesBusyNto_eq_ok waited
      rw [worksOn.txLengthSamples] at published
      exact published

/-- The packet is the last one of its burst. -/
theorem Invariant.endBurst
    (invariant : Invariant config queue system)
    (underway : Underway config queue system transmission false)
    (published :
      Published config queue system.transmitted.length system.handed
        transmission) :
    Invariant config queue (system.endBurst transmission) := by
  obtain ⟨⟨worksOn, continues⟩, unfinished, started⟩ := underway
  exact ⟨invariant.carries, invariant.order,
      ⟨⟨worksOn, continues.ending⟩, unfinished, started⟩, published, rfl⟩

theorem Invariant.foundNext
    (invariant : Invariant config queue system)
    (worksOn :
      WorksOn config queue system.transmitted.length system.handed
        system.txOrderIdExpected transmission)
    (found :
      system.handed.buffers.getSpecificTxOrderIdIfAvailable
        system.txOrderIdExpected = some nextBufferTx)
    (isOther : nextBufferTx ≠ transmission.currentBufferTx) :
    system.handed.carried nextBufferTx =
        some (system.transmitted.length + 1) ∧
      usrpTxGap64 config system transmission nextBufferTx =
        (queue.packet (system.transmitted.length + 1)).txTime -
          (queue.packet system.transmitted.length).endTime := by
  rw [worksOn.expects] at found
  have isNext : system.handed.carried nextBufferTx =
      some (system.transmitted.length + 1) := by
    refine invariant.carries.foundBehind found ?_
    intro isCurrent
    exact isOther (invariant.carries.once _ _ _ isCurrent worksOn.carried)
  have isCandidate :
      (system.handed.buffers nextBufferTx).bufferTxMeta.txTime64 =
        (queue.packet (system.transmitted.length + 1)).txTime := by
    rw [(invariant.carries.packet _ _ isNext).bufferTxMeta]
    rfl
  refine ⟨isNext, ?_⟩
  unfold usrpTxGap64 Transmission.txTimeTaEnd64 Packet.endTime
  rw [isCandidate, worksOn.txTimeTa64, worksOn.txLengthSamples]
  omega

/-- Whether the burst goes on is decided such that the gap is right. -/
theorem Invariant.lookAhead
    (invariant : Invariant config queue system)
    (favourable : system.Favourable config)
    (isHere : system.workTx = .lookingAhead transmission) :
    ∃ after,
      system.lookAhead config transmission = .ok after ∧
        Invariant config queue after := by
  have located := invariant.located
  unfold Located at located
  unfold Favourable at favourable
  rw [isHere] at located favourable
  obtain ⟨underway, published⟩ := located
  have worksOn := underway.1.1
  unfold HwUsrp.lookAhead
  by_cases mayGap : config.usrpTxGapSamples ≥ 0
  · rw [if_pos mayGap]
    have candidates := favourable mayGap
    cases found : system.handed.buffers.getSpecificTxOrderIdIfAvailable
        system.txOrderIdExpected with
    | none => exact ⟨_, rfl, invariant.endBurst underway published⟩
    | some nextBufferTx =>
        obtain ⟨isOther, fits⟩ := candidates nextBufferTx found
        obtain ⟨isNext, isGap⟩ := invariant.foundNext worksOn found isOther
        have apart := queue.apart system.transmitted.length
        have notNegative :
            0 ≤ usrpTxGap64 config system transmission nextBufferTx := by
          omega
        have inOrder : transmission.txTimeTaEnd64 ≤
            (system.handed.buffers nextBufferTx).bufferTxMeta.txTime64 -
              config.txTimeAdvanceSamples := by
          unfold usrpTxGap64 at notNegative
          omega
        simp only [decide_eq_true inOrder, dectnrpAssert_true, ok_bind]
        by_cases large : config.usrpTxGapSamples <
            int32Cast (usrpTxGap64 config system transmission nextBufferTx)
        · exact ⟨_, if_pos large, invariant.endBurst underway published⟩
        · rcases fits with tooLarge | ⟨narrow, txPowerAdjDB, rxPowerAdjDB⟩
          · exact absurd tooLarge large
          · have isPacket :=
              (invariant.carries.packet _ _ worksOn.carried).bufferTxMeta
            rw [isPacket] at txPowerAdjDB rxPowerAdjDB
            have bridges : (queue.packet system.transmitted.length).endTime +
                uint32Cast (int32Cast
                    (usrpTxGap64 config system transmission nextBufferTx)) =
                  (queue.packet (system.transmitted.length + 1)).txTime := by
              rw [uint32Cast_int32Cast notNegative narrow, isGap]
              omega
            exact ⟨_, if_neg large, invariant.carries, invariant.order,
                underway, published, isNext, bridges, txPowerAdjDB,
                rxPowerAdjDB⟩
  · rw [if_neg mayGap]
    exact ⟨_, rfl, invariant.endBurst underway published⟩

theorem Invariant.lastSamples
    (invariant : Invariant config queue system)
    {isEnd : Bool}
    (underway : Underway config queue system transmission isEnd)
    (published :
      Published config queue system.transmitted.length system.handed
        transmission) :
    ∃ antStreams,
      (system.handed.buffers
          transmission.currentBufferTx).getAntStreamsOffset
          transmission.txLengthSamplesCnt =
        .ok antStreams ∧
      ∃ samples,
        samples =
            (List.range
              (transmission.txLengthSamples -
                transmission.txLengthSamplesCnt)).map antStreams ∧
          FitsBurst config queue system.transmitted.length
            (system.transmitted.length + 1)
            ((queue.packet system.transmitted.length).txTime +
              transmission.txLengthSamplesCnt)
            samples ∧
          (queue.packet system.transmitted.length).txTime +
              transmission.txLengthSamplesCnt + samples.length =
            (queue.packet system.transmitted.length).endTime := by
  obtain ⟨⟨worksOn, -⟩, unfinished, -⟩ := underway
  have isPacket := invariant.carries.packet _ _ worksOn.carried
  have waited : (system.handed.buffers
      transmission.currentBufferTx).waitForSamplesBusyNto
      (queue.packet system.transmitted.length).samples.length = .ok true := by
    unfold Published at published
    unfold BufferTx.waitForSamplesBusyNto
    rw [isPacket.announced, decide_eq_true (Nat.le_refl _),
      decide_eq_true published]
    rfl
  obtain ⟨antStreams, isRead, isSample⟩ :=
    invariant.carries.reads worksOn.carried waited
      transmission.txLengthSamplesCnt
  refine ⟨antStreams, isRead, _, rfl, fitsBurst_samples ?_, ?_⟩
  · intro position inside
    refine isSample position ?_
    rw [← worksOn.txLengthSamples]
    omega
  · rw [List.length_map, List.length_range, worksOn.txLengthSamples]
    rw [worksOn.txLengthSamples] at unfinished
    unfold Packet.endTime
    omega

variable {nextBufferTx : Option (Fin nofBufferTx)}

/-- The last samples of the packet are sent. -/
theorem Invariant.sendFinal
    (invariant : Invariant config queue system)
    {usrpTxGapCurrentSamples : Nat}
    (isHere :
      system.workTx =
        .sendingFinal transmission nextBufferTx usrpTxGapCurrentSamples) :
    ∃ after,
      system.sendFinal transmission nextBufferTx usrpTxGapCurrentSamples =
          .ok after ∧
        Invariant config queue after := by
  have located := invariant.located
  unfold Located at located
  rw [isHere] at located
  obtain ⟨underway, published, next⟩ := located
  obtain ⟨antStreams, isRead, samples, isSamples, fits, ends⟩ :=
    invariant.lastSamples underway published
  obtain ⟨⟨worksOn, continues⟩, unfinished, started⟩ := underway
  have isWhole : transmission.txLengthSamples =
      transmission.txLengthSamplesCnt + (transmission.txLengthSamples -
          transmission.txLengthSamplesCnt) := by
    omega
  have worksOnLast :
      WorksOn config queue system.transmitted.length system.handed
        system.txOrderIdExpected
        { transmission with
          txLengthSamplesCnt :=
            transmission.txLengthSamplesCnt + (transmission.txLengthSamples -
                transmission.txLengthSamplesCnt) } :=
    ⟨worksOn.carried, worksOn.txLengthSamples, worksOn.txTimeTa64,
      worksOn.expects⟩
  unfold HwUsrp.sendFinal
  dsimp only
  rw [isRead, ok_bind, ← isSamples, decide_eq_true isWhole,
    dectnrpAssert_true, ok_bind]
  cases nextBufferTx with
  | none =>
      have noGap : ¬ 0 < usrpTxGapCurrentSamples := by
        rw [next]
        exact Nat.lt_irrefl 0
      rw [if_neg noGap]
      exact ⟨_, rfl, invariant.carries, invariant.order, worksOnLast,
          published, continues.sendLast rfl fits ends,
          continues.endOfBurst⟩
  | some nextBufferTx =>
      have sent := continues.send fits
      rw [continues.sameMetadata started, ends] at sent
      by_cases gap : 0 < usrpTxGapCurrentSamples
      · have endOfBurst : system.txMd.endOfBurst = false :=
          continues.endOfBurst
        have goesOn : (!(system.send samples).txMd.endOfBurst) = true := by
          show (!system.txMd.endOfBurst) = true
          rw [endOfBurst]
          rfl
        rw [if_pos gap, goesOn, dectnrpAssert_true, ok_bind,
          Option.isSome_some, dectnrpAssert_true, ok_bind]
        refine ⟨_, rfl, invariant.carries, invariant.order,
          ⟨worksOnLast, ?_⟩, started, published, Nat.zero_le _,
          nextBufferTx, rfl, next⟩
        rw [Int.natCast_zero, Int.add_zero]
        exact sent
      · have bridges := next.bridges
        rw [Nat.eq_zero_of_not_pos gap, Int.natCast_zero,
          Int.add_zero] at bridges
        rw [if_neg gap]
        rw [bridges] at sent
        exact ⟨_, rfl, invariant.carries, invariant.order, worksOnLast,
            published, sent, usrpTxGapCurrentSamples, next⟩

/-- Zeros are sent until the next packet starts. -/
theorem Invariant.sendGap
    (invariant : Invariant config queue system)
    {usrpTxGapCurrentSamples usrpTxGapCurrentSamplesCnt : Nat}
    (isHere :
      system.workTx =
        .sendingGap transmission nextBufferTx usrpTxGapCurrentSamples
          usrpTxGapCurrentSamplesCnt) :
    Invariant config queue
      (system.sendGap config transmission nextBufferTx
        usrpTxGapCurrentSamples usrpTxGapCurrentSamplesCnt) := by
  have located := invariant.located
  unfold Located at located
  rw [isHere] at located
  obtain ⟨⟨worksOn, continues⟩, started, published, inside, next, isNext,
      followedBy⟩ := located
  unfold HwUsrp.sendGap
  by_cases further : usrpTxGapCurrentSamplesCnt < usrpTxGapCurrentSamples
  · have endsBy : queue.EndsBy (system.transmitted.length + 1)
        ((queue.packet system.transmitted.length).endTime +
          usrpTxGapCurrentSamplesCnt) :=
      (queue.endsBy_endTime system.transmitted.length).mono
        (Int.le_add_of_nonneg_right (Int.natCast_nonneg _))
    have sent :=
      continues.send (fitsBurst_zero (min config.sppMax
          (usrpTxGapCurrentSamples - usrpTxGapCurrentSamplesCnt))
          endsBy)
    rw [continues.sameMetadata started, List.length_replicate,
      Int.add_assoc, ← Int.natCast_add] at sent
    rw [if_pos further]
    refine ⟨invariant.carries, invariant.order, ⟨worksOn, sent⟩, started,
        published, ?_, next, isNext, followedBy⟩
    omega
  · have filled :
        usrpTxGapCurrentSamplesCnt = usrpTxGapCurrentSamples := by
      omega
    rw [if_neg further]
    rw [filled, followedBy.bridges] at continues
    subst isNext
    exact ⟨invariant.carries, invariant.order, worksOn, published, continues,
        usrpTxGapCurrentSamples, followedBy⟩

/-- The buffer is given back after its last sample was sent. -/
theorem Invariant.release
    (invariant : Invariant config queue system)
    (isHere : system.workTx = .releasing transmission nextBufferTx) :
    ∃ after,
      system.release transmission nextBufferTx = .ok after ∧
        Invariant config queue after := by
  have located := invariant.located
  unfold Located at located
  rw [isHere] at located
  obtain ⟨worksOn, published, next⟩ := located
  have isPacket := invariant.carries.packet _ _ worksOn.carried
  obtain ⟨handed, released, carries, -, -⟩ :=
    invariant.carries.release worksOn.carried
  have content := invariant.carries.content worksOn.carried published
  have order : system.transmitted ++ [queue.packet system.transmitted.length] =
      (List.range (system.transmitted.length + 1)).map queue.packet := by
    rw [List.range_succ, List.map_append, ← invariant.order]
    rfl
  have grows : (system.transmitted ++
      [queue.packet system.transmitted.length]).length =
        system.transmitted.length + 1 :=
    List.length_append
  unfold HwUsrp.release
  dsimp only
  rw [content, isPacket.bufferTxMeta, released]
  cases nextBufferTx with
  | none =>
      obtain ⟨bursts, endOfBurst⟩ := next
      rw [endOfBurst]
      refine ⟨_, rfl, ?_, ?_, ?_⟩
      · dsimp only
        rw [grows]
        exact carries
      · dsimp only
        rw [grows]
        exact order
      · unfold Located Idle
        dsimp only
        rw [grows]
        exact ⟨worksOn.expects, bursts⟩
  | some nextBufferTx =>
      obtain ⟨continues, gap, followedBy⟩ := next
      have differs : nextBufferTx ≠ transmission.currentBufferTx := by
        rintro rfl
        have same :=
          Option.some.inj (followedBy.carried.symm.trans worksOn.carried)
        exact absurd same (Nat.succ_ne_self _)
      have isCarried := Handed.carried_release released differs
      rw [followedBy.carried] at isCarried
      rw [continues.endOfBurst, followedBy.txPowerAdjDB,
        followedBy.rxPowerAdjDB]
      refine ⟨_, rfl, ?_, ?_, ?_⟩
      · dsimp only
        rw [grows]
        exact carries
      · dsimp only
        rw [grows]
        exact order
      · unfold Located
        dsimp only
        rw [grows]
        exact ⟨worksOn.expects, isCarried, continues.later (Nat.le_succ _)⟩

/-- A favourable step of the thread does not fail. -/
theorem Invariant.step
    (invariant : Invariant config queue system)
    (favourable : system.Favourable config) :
    ∃ after,
      system.step config = .ok after ∧ Invariant config queue after := by
  unfold HwUsrp.step
  cases isHere : system.workTx with
  | waiting => exact ⟨_, rfl, invariant.waitForPacket isHere⟩
  | starting nextBufferTx => exact ⟨_, rfl, invariant.startBurst isHere⟩
  | picking nextBufferTx => exact invariant.pickUp isHere
  | sendingFirst transmission => exact invariant.sendFirst isHere
  | sendingChunks transmission => exact invariant.sendChunks isHere
  | completing transmission => exact invariant.complete isHere
  | lookingAhead transmission => exact invariant.lookAhead favourable isHere
  | sendingFinal transmission nextBufferTx usrpTxGapCurrentSamples =>
      exact invariant.sendFinal isHere
  | sendingGap transmission nextBufferTx usrpTxGapCurrentSamples
      usrpTxGapCurrentSamplesCnt =>
      exact ⟨_, rfl, invariant.sendGap isHere⟩
  | releasing transmission nextBufferTx => exact invariant.release isHere

end Invariant

end HwUsrp

end Radio

end DectNrp
