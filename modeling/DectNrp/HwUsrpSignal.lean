import DectNrp.HwUsrpTx

namespace DectNrp

/-!
# Signal of the bursts of a USRP

Each burst carries the packets of a range: a sample of a packet is sent at its
time, and zeros are sent elsewhere.  The bursts that have ended carry the
packets one range after the other.
-/

namespace Radio

namespace TxQueue

variable {Sample : Type} [Zero Sample] {minimum : Nat}

/--
Value at a time within a burst that carries the packets of a range: the sample
of the packet that covers the time, or zero.
-/
structure InBurst
    (queue : TxQueue Sample minimum)
    (first last : Nat)
    (time : Int)
    (value : Sample) :
    Prop where
  sample :
    ∀ k, first ≤ k → k < last → (queue.packet k).Covers time →
      (queue.packet k).samples[(time - (queue.packet k).txTime).toNat]? =
        some value
  zero :
    (∀ k, first ≤ k → k < last → ¬ (queue.packet k).Covers time) →
      value = 0

variable
    {queue : TxQueue Sample minimum}
    {first last : Nat}
    {time : Int}
    {value : Sample}

/-- What was sent before a packet starts does not change with it. -/
theorem InBurst.pickUp
    (inBurst : queue.InBurst first last time value)
    (before : time < (queue.packet last).txTime) :
    queue.InBurst first (last + 1) time value := by
  constructor
  · intro k notBefore inside covers
    rcases Nat.lt_succ_iff_lt_or_eq.mp inside with further | rfl
    · exact inBurst.sample k notBefore further covers
    · exact absurd (before.trans_le covers.1) (Int.lt_irrefl time)
  · intro uncovered
    exact inBurst.zero fun k notBefore inside =>
      uncovered k notBefore (Nat.lt_succ_of_lt inside)

theorem inBurst_of_sample
    {offset : Nat}
    (notBefore : first ≤ last)
    (isSample : (queue.packet last).samples[offset]? = some value) :
    queue.InBurst first (last + 1) ((queue.packet last).txTime + offset)
      value := by
  have inside : offset < (queue.packet last).samples.length :=
    (List.getElem?_eq_some_iff.mp isSample).1
  have covers :
      (queue.packet last).Covers ((queue.packet last).txTime + offset) := by
    unfold Packet.Covers Packet.endTime
    omega
  have isOffset : ((queue.packet last).txTime + offset -
      (queue.packet last).txTime).toNat = offset := by
    omega
  constructor
  · intro k _ _ alsoCovers
    rw [← queue.covers_unique covers alsoCovers, isOffset]
    exact isSample
  · intro uncovered
    exact absurd covers (uncovered last notBefore (Nat.lt_succ_self last))

theorem inBurst_zero (endsBy : queue.EndsBy last time) :
    queue.InBurst first last time 0 :=
  ⟨fun _ _ inside covers =>
    absurd covers (endsBy.uncovered (Int.le_refl time) inside), fun _ => rfl⟩

end TxQueue

namespace HwUsrp

open BurstStream (Metadata Send SentAt Marked withOpen nextMetadata samplesOf)

variable {Sample : Type}

section Bursts

variable (config : TxConfig)

/-- Time of the first sample of a burst that starts with a packet. -/
def TxConfig.burstStart
    (config : TxConfig)
    (packet : Packet Sample) :
    Int :=
  packet.txTime - config.txTimeAdvanceSamples - config.nofPrefixZeros64

/-- Time of the next sample of a burst, without the advance. -/
def TxConfig.nextTime
    (config : TxConfig)
    (packet : Packet Sample)
    (burst : List (Send Int Sample)) :
    Int :=
  packet.txTime - config.nofPrefixZeros64 + (samplesOf burst).length

variable [Zero Sample] (queue : TxQueue Sample config.sppMax)

/-- The burst is marked and carries the packets of a range. -/
structure IsBurst
    (first last : Nat)
    (isEnded : Bool)
    (burst : List (Send Int Sample)) :
    Prop where
  marked :
    Marked (config.burstStart (queue.packet first)) isEnded burst
  signal :
    ∀ (position : Nat) value,
      (samplesOf burst)[position]? = some value →
        queue.InBurst first last
          ((queue.packet first).txTime - config.nofPrefixZeros64 +
            position)
          value

/-- The bursts carry the first packets, and each ends with its last one. -/
inductive Bursts : Nat → List (List (Send Int Sample)) → Prop where
  | nil : Bursts 0 []
  | burst
      {first last : Nat}
      {bursts : List (List (Send Int Sample))}
      {burst : List (Send Int Sample)}
      (earlier : Bursts first bursts)
      (notEmpty : first ≤ last)
      (isBurst : IsBurst config queue first (last + 1) true burst)
      (ends :
        config.nextTime (queue.packet first) burst =
          (queue.packet last).endTime) :
      Bursts (last + 1) (bursts ++ [burst])

end Bursts

section Bursts

variable
    [Zero Sample]
    {config : TxConfig}
    {queue : TxQueue Sample config.sppMax}
    {first last : Nat}
    {burst : List (Send Int Sample)}
    {bursts : List (List (Send Int Sample))}

/-- A packet that has ended by the end of a burst was sent with it. -/
theorem IsBurst.sentAt
    {isEnded : Bool}
    (isBurst : IsBurst config queue first last isEnded burst)
    (member : burst ∈ bursts)
    {k : Nat}
    (notBefore : first ≤ k)
    (inside : k < last)
    (complete :
      (queue.packet k).endTime ≤ config.nextTime (queue.packet first) burst)
    {index : Nat}
    {sample : Sample}
    (isSample : (queue.packet k).samples[index]? = some sample) :
    SentAt bursts
      ((queue.packet k).txTime - config.txTimeAdvanceSamples + index)
      sample := by
  have isIndex : index < (queue.packet k).samples.length :=
    (List.getElem?_eq_some_iff.mp isSample).1
  have behind := queue.txTime_mono notBefore
  obtain ⟨position, isPosition⟩ : ∃ position : Nat,
      (queue.packet k).txTime + index =
        (queue.packet first).txTime - config.nofPrefixZeros64 + position :=
    ⟨((queue.packet k).txTime + index -
        ((queue.packet first).txTime - config.nofPrefixZeros64)).toNat,
      by omega⟩
  have sent : position < (samplesOf burst).length := by
    unfold Packet.endTime TxConfig.nextTime at complete
    omega
  have isValue :
      (samplesOf burst)[position]? = some ((samplesOf burst)[position]) :=
    List.getElem?_eq_getElem sent
  have covers : (queue.packet k).Covers ((queue.packet k).txTime + index) := by
    unfold Packet.Covers Packet.endTime
    omega
  have value := isBurst.signal position _ isValue
  rw [← isPosition] at value
  have isOffset : ((queue.packet k).txTime + index -
      (queue.packet k).txTime).toNat = index := by
    omega
  have same := value.sample k notBefore inside covers
  rw [isOffset, isSample] at same
  rw [← Option.some.inj same] at isValue
  have sentAt := isBurst.marked.sentAt member isValue
  have isTime : config.burstStart (queue.packet first) + position =
      (queue.packet k).txTime - config.txTimeAdvanceSamples + index := by
    unfold TxConfig.burstStart
    omega
  rw [isTime] at sentAt
  exact sentAt

/-- All packets of bursts that have ended were sent. -/
theorem Bursts.sentAt
    {count : Nat}
    (isBursts : Bursts config queue count bursts)
    {k : Nat}
    (inside : k < count)
    {index : Nat}
    {sample : Sample}
    (isSample : (queue.packet k).samples[index]? = some sample) :
    SentAt bursts
      ((queue.packet k).txTime - config.txTimeAdvanceSamples + index)
      sample := by
  induction isBursts with
  | nil => cases inside
  | @burst first last bursts burst earlier notEmpty isBurst ends
      hypothesis =>
      rcases Nat.lt_or_ge k first with before | notBefore
      · exact (hypothesis before).append [burst]
      · refine isBurst.sentAt (List.mem_append_right _
          (List.mem_singleton_self burst)) notBefore inside ?_ isSample
        rw [ends]
        exact queue.endsBy_endTime last k inside

end Bursts

section Continues

variable [Zero Sample] (config : TxConfig)

/-- The burst that goes on, behind the ones that have ended. -/
structure OpenBurst
    (queue : TxQueue Sample config.sppMax)
    (transmitted : Nat)
    (bursts : List (List (Send Int Sample)))
    (txMd : Metadata Int)
    (last : Nat)
    (time : Int)
    (isEnd : Bool)
    (first : Nat)
    (ended : List (List (Send Int Sample)))
    (burst : List (Send Int Sample)) :
    Prop where
  isOpen : bursts = withOpen ended burst
  earlier : Bursts config queue first ended
  begun : first ≤ transmitted
  isBurst : IsBurst config queue first last false burst
  isTime : config.nextTime (queue.packet first) burst = time
  isMetadata :
    txMd =
      nextMetadata (config.burstStart (queue.packet first)) burst isEnd

/--
A burst carries packets up to some, its next sample is sent at a time, and the
metadata is that of its next send.
-/
def Continues
    (queue : TxQueue Sample config.sppMax)
    (transmitted : Nat)
    (bursts : List (List (Send Int Sample)))
    (txMd : Metadata Int)
    (last : Nat)
    (time : Int)
    (isEnd : Bool) :
    Prop :=
  ∃ first ended burst,
    OpenBurst config queue transmitted bursts txMd last time isEnd first
      ended burst

/-- The samples are those of a burst from a time on. -/
def FitsBurst
    (queue : TxQueue Sample config.sppMax)
    (transmitted last : Nat)
    (time : Int)
    (samples : List Sample) :
    Prop :=
  ∀ first, first ≤ transmitted →
    ∀ (position : Nat) value, samples[position]? = some value →
      queue.InBurst first last (time + position) value

variable
    {config : TxConfig}
    {queue : TxQueue Sample config.sppMax}
    {transmitted last first : Nat}
    {bursts : List (List (Send Int Sample))}
    {txMd : Metadata Int}
    {time : Int}
    {isEnd : Bool}
    {ended : List (List (Send Int Sample))}
    {burst : List (Send Int Sample)}
    {samples : List Sample}

/-- The samples of the burst and the ones behind it. -/
theorem OpenBurst.signal_send
    (openBurst :
      OpenBurst config queue transmitted bursts txMd last time isEnd first
        ended burst)
    (fits :
      ∀ (position : Nat) value, samples[position]? = some value →
        queue.InBurst first last (time + position) value)
    (metadata : Metadata Int) :
    ∀ (position : Nat) value,
      (samplesOf (burst ++ [⟨samples, metadata⟩]))[position]? =
          some value →
        queue.InBurst first last
          ((queue.packet first).txTime - config.nofPrefixZeros64 + position)
          value := by
  intro position value isSample
  rw [BurstStream.samplesOf_append] at isSample
  rcases Nat.lt_or_ge position (samplesOf burst).length with before | behind
  · rw [List.getElem?_append_left before] at isSample
    exact openBurst.isBurst.signal position value isSample
  · rw [List.getElem?_append_right behind] at isSample
    have inBurst := fits _ value isSample
    have isTime := openBurst.isTime
    unfold TxConfig.nextTime at isTime
    have same : time + (position - (samplesOf burst).length : Nat) =
        (queue.packet first).txTime - config.nofPrefixZeros64 + position := by
      omega
    rw [same] at inBurst
    exact inBurst

theorem OpenBurst.nextTime_send
    (openBurst :
      OpenBurst config queue transmitted bursts txMd last time isEnd first
        ended burst)
    (metadata : Metadata Int) :
    config.nextTime (queue.packet first)
        (burst ++ [⟨samples, metadata⟩]) =
      time + samples.length := by
  have isTime := openBurst.isTime
  unfold TxConfig.nextTime at isTime ⊢
  rw [BurstStream.samplesOf_append, List.length_append]
  push_cast
  omega

/-- What the device makes of the next send. -/
theorem OpenBurst.bursts_send
    (openBurst :
      OpenBurst config queue transmitted bursts txMd last time isEnd first
        ended burst)
    (samples : List Sample) :
    BurstStream.addSend bursts ⟨samples, txMd⟩ =
      ended ++
        [burst ++
          [⟨samples,
            nextMetadata (config.burstStart (queue.packet first)) burst
              isEnd⟩]] := by
  rw [openBurst.isOpen, openBurst.isMetadata]
  exact BurstStream.addSend_withOpen samples isEnd

/-- A send in the middle of a burst. -/
theorem OpenBurst.send
    (openBurst :
      OpenBurst config queue transmitted bursts txMd last time false first
        ended burst)
    (fits :
      ∀ (position : Nat) value, samples[position]? = some value →
        queue.InBurst first last (time + position) value) :
    OpenBurst config queue transmitted
      (BurstStream.addSend bursts ⟨samples, txMd⟩)
      { txMd with
        startOfBurst := false
        hasTimeSpec := false }
      last (time + samples.length) false first ended
      (burst ++
        [⟨samples,
          nextMetadata (config.burstStart (queue.packet first)) burst
            false⟩]) := by
  have notEmpty :
      ∀ send : Send Int Sample, (burst ++ [send]).isEmpty = false := by
    intro send
    cases burst with
    | nil => rfl
    | cons _ _ => rfl
  refine ⟨?_, openBurst.earlier, openBurst.begun,
    ⟨openBurst.isBurst.marked.send samples false,
      openBurst.signal_send fits _⟩,
    openBurst.nextTime_send _, ?_⟩
  · refine (openBurst.bursts_send samples).trans ?_
    unfold withOpen
    rw [notEmpty, if_neg Bool.false_ne_true]
  · unfold nextMetadata
    rw [openBurst.isMetadata, notEmpty]
    rfl

theorem Continues.send
    (continues :
      Continues config queue transmitted bursts txMd last time false)
    (fits : FitsBurst config queue transmitted last time samples) :
    Continues config queue transmitted
      (BurstStream.addSend bursts ⟨samples, txMd⟩)
      { txMd with
        startOfBurst := false
        hasTimeSpec := false }
      last (time + samples.length) false := by
  obtain ⟨first, ended, burst, openBurst⟩ := continues
  exact ⟨first, ended, _, openBurst.send (fits first openBurst.begun)⟩

/-- Within a burst, the metadata stays the same. -/
theorem Continues.sameMetadata
    (continues :
      Continues config queue transmitted bursts txMd last time isEnd)
    (started : txMd.startOfBurst = false) :
    { txMd with
      startOfBurst := false
      hasTimeSpec := false } = txMd := by
  obtain ⟨first, ended, burst, openBurst⟩ := continues
  have isEmpty : burst.isEmpty = false := by
    rw [openBurst.isMetadata] at started
    exact started
  rw [openBurst.isMetadata]
  unfold nextMetadata
  rw [isEmpty]

/-- The last send of a burst ends it. -/
theorem Continues.sendLast
    (continues :
      Continues config queue transmitted bursts txMd (last + 1) time true)
    (isNext : last = transmitted)
    (fits : FitsBurst config queue transmitted (last + 1) time samples)
    (ends : time + samples.length = (queue.packet last).endTime) :
    Bursts config queue (last + 1)
      (BurstStream.addSend bursts ⟨samples, txMd⟩) := by
  obtain ⟨first, ended, burst, openBurst⟩ := continues
  rw [openBurst.bursts_send]
  refine .burst openBurst.earlier ?_
    ⟨openBurst.isBurst.marked.send samples true,
      openBurst.signal_send (fits first openBurst.begun) _⟩
    ((openBurst.nextTime_send _).trans ends)
  rw [isNext]
  exact openBurst.begun

/-- Metadata of a burst that starts with a packet. -/
def TxConfig.startMetadata
    (config : TxConfig)
    (packet : Packet Sample) :
    Metadata Int where
  startOfBurst := true
  endOfBurst := false
  hasTimeSpec := true
  timeSpec := config.burstStart packet

/-- A burst starts before the packet, if there are leading zeros. -/
theorem openBurst_start (earlier : Bursts config queue transmitted bursts) :
    OpenBurst config queue transmitted bursts
      (config.startMetadata (queue.packet transmitted)) transmitted
      ((queue.packet transmitted).txTime - config.nofPrefixZeros64) false
      transmitted bursts [] := by
  refine ⟨rfl, earlier, Nat.le_refl _, ⟨.nil, ?_⟩, Int.add_zero _, rfl⟩
  intro position value isSample
  cases isSample

/-- The burst is at the packet behind the leading zeros. -/
theorem continues_leading (earlier : Bursts config queue transmitted bursts) :
    Continues config queue transmitted
      (BurstStream.addSend bursts
        ⟨List.replicate config.nofPrefixZeros64 0,
          config.startMetadata (queue.packet transmitted)⟩)
      { config.startMetadata (queue.packet transmitted) with
        startOfBurst := false
        hasTimeSpec := false }
      transmitted (queue.packet transmitted).txTime false := by
  have fits : ∀ (position : Nat) value,
      (List.replicate config.nofPrefixZeros64 (0 : Sample))[position]? =
          some value →
        queue.InBurst transmitted transmitted
          ((queue.packet transmitted).txTime -
            config.nofPrefixZeros64 + position)
          value := by
    intro position value isSample
    rw [List.eq_of_mem_replicate (List.mem_of_getElem? isSample)]
    exact ⟨fun k notBefore inside =>
        absurd (Nat.lt_of_le_of_lt notBefore inside) (Nat.lt_irrefl _),
        fun _ => rfl⟩
  have sent := (openBurst_start earlier).send fits
  rw [List.length_replicate, Int.sub_add_cancel] at sent
  exact ⟨transmitted, bursts, _, sent⟩

/-- A burst without leading zeros starts with the packet. -/
theorem continues_start
    (earlier : Bursts config queue transmitted bursts)
    (nothing : config.nofPrefixZeros64 = 0) :
    Continues config queue transmitted bursts
      (config.startMetadata (queue.packet transmitted)) transmitted
      (queue.packet transmitted).txTime false := by
  have start := openBurst_start earlier
  rw [nothing] at start
  exact ⟨transmitted, bursts, [], by simpa using start⟩

/-- Samples of the packet fit behind the ones before them. -/
theorem fitsBurst_samples
    {offset count : Nat}
    {antStreams : Nat → Sample}
    (isSample :
      ∀ position, position < count →
        (queue.packet transmitted).samples[offset + position]? =
          some (antStreams position)) :
    FitsBurst config queue transmitted (transmitted + 1)
      ((queue.packet transmitted).txTime + offset)
      ((List.range count).map antStreams) := by
  intro first notBefore position value isValue
  have inside : position < count := by
    have bound := (List.getElem?_eq_some_iff.mp isValue).1
    rw [List.length_map, List.length_range] at bound
    exact bound
  rw [List.getElem?_map, List.getElem?_range inside] at isValue
  have inBurst :=
    TxQueue.inBurst_of_sample notBefore
      ((isSample position inside).trans isValue)
  rw [Int.natCast_add, ← Int.add_assoc] at inBurst
  exact inBurst

/-- Zeros fit behind the last packet. -/
theorem fitsBurst_zero
    (count : Nat)
    (endsBy : queue.EndsBy last time) :
    FitsBurst config queue transmitted last time (List.replicate count 0) := by
  intro first _ position value isSample
  rw [List.eq_of_mem_replicate (List.mem_of_getElem? isSample)]
  exact TxQueue.inBurst_zero
      (endsBy.mono (Int.le_add_of_nonneg_right (Int.natCast_nonneg position)))

/-- A packet is picked up before its time. -/
theorem Continues.pickUp
    (continues :
      Continues config queue transmitted bursts txMd last time isEnd)
    (before : time ≤ (queue.packet last).txTime) :
    Continues config queue transmitted bursts txMd (last + 1) time isEnd := by
  obtain ⟨first, ended, burst, openBurst⟩ := continues
  refine ⟨first, ended, burst, openBurst.isOpen, openBurst.earlier,
    openBurst.begun, ⟨openBurst.isBurst.marked, ?_⟩, openBurst.isTime,
    openBurst.isMetadata⟩
  intro position value isSample
  have inside := (List.getElem?_eq_some_iff.mp isSample).1
  have isTime := openBurst.isTime
  unfold TxConfig.nextTime at isTime
  refine (openBurst.isBurst.signal position value isSample).pickUp ?_
  omega

/-- Giving a buffer back does not change the bursts. -/
theorem Continues.later
    (continues :
      Continues config queue transmitted bursts txMd last time isEnd)
    {count : Nat}
    (notBefore : transmitted ≤ count) :
    Continues config queue count bursts txMd last time isEnd := by
  obtain ⟨first, ended, burst, openBurst⟩ := continues
  exact ⟨first, ended, burst, openBurst.isOpen, openBurst.earlier,
      openBurst.begun.trans notBefore, openBurst.isBurst,
      openBurst.isTime, openBurst.isMetadata⟩

/-- The next send ends the burst. -/
theorem Continues.ending
    (continues :
      Continues config queue transmitted bursts txMd last time false) :
    Continues config queue transmitted bursts
      { txMd with endOfBurst := true } last time true := by
  obtain ⟨first, ended, burst, openBurst⟩ := continues
  refine ⟨first, ended, burst, openBurst.isOpen, openBurst.earlier,
    openBurst.begun, openBurst.isBurst, openBurst.isTime, ?_⟩
  rw [openBurst.isMetadata]
  rfl

theorem Continues.endOfBurst
    (continues :
      Continues config queue transmitted bursts txMd last time isEnd) :
    txMd.endOfBurst = isEnd := by
  obtain ⟨first, ended, burst, openBurst⟩ := continues
  rw [openBurst.isMetadata]
  rfl

/-- A packet that has ended by now was sent. -/
theorem Continues.sentAt
    (continues :
      Continues config queue transmitted bursts txMd last time isEnd)
    {k : Nat}
    (inside : k < last)
    (complete : (queue.packet k).endTime ≤ time)
    {index : Nat}
    {sample : Sample}
    (isSample : (queue.packet k).samples[index]? = some sample) :
    SentAt bursts
      ((queue.packet k).txTime - config.txTimeAdvanceSamples + index)
      sample := by
  obtain ⟨first, ended, burst, openBurst⟩ := continues
  rw [openBurst.isOpen]
  unfold withOpen
  rcases Nat.lt_or_ge k first with before | notBefore
  · have sentAt := openBurst.earlier.sentAt before isSample
    by_cases isEmpty : burst.isEmpty = true
    · rw [if_pos isEmpty]
      exact sentAt
    · rw [if_neg isEmpty]
      exact sentAt.append [burst]
  · rw [← openBurst.isTime] at complete
    have isIndex := (List.getElem?_eq_some_iff.mp isSample).1
    have behind := queue.txTime_mono notBefore
    have notEmpty : ¬ burst.isEmpty = true := by
      intro isEmpty
      rw [List.isEmpty_iff.mp isEmpty] at complete
      unfold Packet.endTime TxConfig.nextTime at complete
      have nothing : (samplesOf ([] : List (Send Int Sample))).length = 0 :=
        rfl
      omega
    rw [if_neg notEmpty]
    exact openBurst.isBurst.sentAt
      (List.mem_append_right _ (List.mem_singleton_self burst)) notBefore
      inside complete isSample

end Continues

end HwUsrp

end Radio

end DectNrp
