import DectNrp.Holdings
import DectNrp.RadioTxWakeUp

namespace DectNrp

/-!
# Life cycle of transmit buffers

Two locks and two counters in a buffer tell what its packet has come to, and
every thread relies on them.  The stages of a buffer say which combinations of
locks, counters, knowledge of a filling thread and use by the radio occur, and
what has become of the packets that were filled into the buffer before.
-/

open Function (comp_apply comp_update update update_eq_self update_idem
  update_of_ne update_self)

namespace Radio

open Holdings

/-- What a thread knows about the buffer that it fills. -/
inductive Claim (Sample : Type) where
  | acquired
  | filling (packet : Packet Sample) (published : Nat)
  | streaming (packet : Packet Sample) (published : Nat)

/-- A thread has nothing to do with a complete packet any more. -/
def streamingClaim
    {Sample : Type}
    (packet : Packet Sample)
    (published : Nat) :
    Option (Claim Sample) :=
  if packet.samples.length ≤ published then
    none
  else
    some (.streaming packet published)

/-- What a thread knows about a buffer whose packet is transmittable. -/
def Fill.claim
    {nofBufferTx : Nat}
    {Sample : Type}
    (fill : Fill nofBufferTx Sample) :
    Option (Fin nofBufferTx × Claim Sample) :=
  (streamingClaim fill.packet fill.published).map
    fun known => (fill.buffer, known)

variable {Sample : Type}

theorem Fill.claim_of_incomplete
    {nofBufferTx : Nat}
    (fill : Fill nofBufferTx Sample)
    (incomplete : fill.complete = false) :
    fill.claim =
      some (fill.buffer, .streaming fill.packet fill.published) := by
  unfold Fill.claim streamingClaim
  rw [if_neg (of_decide_eq_false incomplete)]
  rfl

namespace Filler

variable {nofBufferTx : Nat} {Sample : Type}

/-- The buffer of a thread, and what the thread knows about it. -/
def claim :
    Filler nofBufferTx Sample → Option (Fin nofBufferTx × Claim Sample)
  | idle => none
  | acquired buffer => some (buffer, .acquired)
  | filling fill => some (fill.buffer, .filling fill.packet fill.published)
  | raising fill => fill.claim
  | notifying fill => fill.claim
  | streaming fill => fill.claim

/-- A thread is not done with a buffer. -/
def Owns
    (filler : Filler nofBufferTx Sample)
    (buffer : Fin nofBufferTx) :
    Prop :=
  ∃ known, filler.claim = some (buffer, known)

theorem claim_continue (fill : Fill nofBufferTx Sample) :
    (continue_ fill).claim = fill.claim := by
  unfold continue_
  by_cases complete : fill.complete
  · rw [if_pos complete, Fill.claim, streamingClaim,
      if_pos (of_decide_eq_true complete)]
    rfl
  · rw [if_neg complete]
    rfl

end Filler

/-- What the radio does with a buffer. -/
inductive Use (Sample : Type) where
  | sending (length : Nat) (sent : List Sample)
  | unlockingInner
  | unlockingOuter

namespace RadioTx

variable {nofBufferTx : Nat} {Sample : Type}

/-- What the radio does with which buffer. -/
def use :
    RadioTx nofBufferTx Sample → Fin nofBufferTx → Option (Use Sample)
  | sending buffer length _ sent _ =>
      Function.update (fun _ => none) buffer (some (.sending length sent))
  | unlockingInner buffer _ _ =>
      Function.update (fun _ => none) buffer (some .unlockingInner)
  | unlockingOuter buffer _ _ =>
      Function.update (fun _ => none) buffer (some .unlockingOuter)
  | _ => fun _ => none

/-- A buffer that the radio has found and does not use yet. -/
def found : RadioTx nofBufferTx Sample → Option (Fin nofBufferTx)
  | starting buffer => some buffer
  | sending _ _ _ _ next => next
  | unlockingInner _ _ next => next
  | unlockingOuter _ _ next => next
  | lowering _ _ next => next
  | _ => none

/-- The radio reads metadata or samples of a buffer. -/
def Reads
    (radio : RadioTx nofBufferTx Sample)
    (buffer : Fin nofBufferTx) :
    Prop :=
  radio.found = some buffer ∨
    (∃ length sent, radio.use buffer = some (.sending length sent)) ∨
    ∃ length again, radio = reading buffer length again

end RadioTx

namespace RadioTx

variable {nofBufferTx : Nat} {Sample : Type}

theorem use_sending
    (buffer : Fin nofBufferTx)
    (length skipped : Nat)
    (sent : List Sample)
    (next : Option (Fin nofBufferTx)) :
    (sending buffer length skipped sent next).use buffer =
      some (.sending length sent) :=
  update_self buffer _ fun _ => none

theorem use_sending_other
    {buffer other : Fin nofBufferTx}
    (different : other ≠ buffer)
    (length skipped : Nat)
    (sent : List Sample)
    (next : Option (Fin nofBufferTx)) :
    (sending buffer length skipped sent next).use other = none :=
  update_of_ne different _ fun _ => none

theorem use_unlockingInner
    (buffer : Fin nofBufferTx)
    (length : Nat)
    (next : Option (Fin nofBufferTx)) :
    (unlockingInner buffer length next : RadioTx nofBufferTx Sample).use
        buffer =
      some .unlockingInner :=
  update_self buffer _ fun _ => none

theorem use_unlockingOuter
    (buffer : Fin nofBufferTx)
    (length : Nat)
    (next : Option (Fin nofBufferTx)) :
    (unlockingOuter buffer length next : RadioTx nofBufferTx Sample).use
        buffer =
      some .unlockingOuter :=
  update_self buffer _ fun _ => none

theorem notified_use (radio : RadioTx nofBufferTx Sample) :
    radio.notified.use = radio.use := by
  cases radio <;> rfl

theorem notified_found (radio : RadioTx nofBufferTx Sample) :
    radio.notified.found = radio.found := by
  cases radio <;> rfl

end RadioTx

variable
  {buffer : BufferTx Sample}
  {packet : Packet Sample}

theorem TxSystem.Holds.lt_length
    {index published : Nat}
    (holds : TxSystem.Holds buffer packet published)
    (inside : index < published) :
    index < packet.samples.length :=
  (List.getElem?_eq_some_iff.mp (holds index inside)).1

/-- What is published is the beginning of the packet. -/
theorem TxSystem.Holds.take_eq
    {published count : Nat}
    (holds : TxSystem.Holds buffer packet published)
    (few : count ≤ published) :
    packet.samples.take count = (List.range count).map buffer.antStreams := by
  apply List.ext_getElem?
  intro index
  rw [List.getElem?_take, List.getElem?_map]
  by_cases inside : index < count
  · rw [if_pos inside, holds index (inside.trans_le few),
      List.getElem?_range inside]
    rfl
  · rw [if_neg inside, List.getElem?_eq_none]
    · rfl
    · rw [List.length_range]
      exact Nat.le_of_not_lt inside

/--
What is true of a buffer, given what a thread that fills it knows, what the
radio does with it, and which packets were offered in it and transmitted from
it.
-/
inductive Stage
    {Sample : Type}
    (buffer : BufferTx Sample) :
    Option (Claim Sample) →
    Option (Use Sample) →
    List (Packet Sample) →
    List (Packet Sample) →
    Prop where
  | free
      {packets : List (Packet Sample)}
      (lock : buffer.lock = ⟨false, false⟩)
      (length : buffer.txLengthSamples = 0)
      (count : buffer.txLengthSamplesCnt = 0) :
      Stage buffer none none packets packets
  | acquired
      {packets : List (Packet Sample)}
      (lock : buffer.lock = ⟨true, false⟩)
      (count : buffer.txLengthSamplesCnt = 0) :
      Stage buffer (some .acquired) none packets packets
  | filling
      {packets : List (Packet Sample)}
      {packet : Packet Sample}
      (lock : buffer.lock = ⟨true, false⟩)
      (length : buffer.txLengthSamples = packet.samples.length)
      (holds :
        TxSystem.Holds buffer packet buffer.txLengthSamplesCnt) :
      Stage buffer
        (some (.filling packet buffer.txLengthSamplesCnt))
        none packets packets
  | transmittable
      {packets : List (Packet Sample)}
      {packet : Packet Sample}
      {claim : Option (Claim Sample)}
      {use : Option (Use Sample)}
      (lock : buffer.lock = ⟨true, true⟩)
      (bufferTxMeta : buffer.bufferTxMeta = packet.bufferTxMeta)
      (length : buffer.txLengthSamples = packet.samples.length)
      (holds :
        TxSystem.Holds buffer packet buffer.txLengthSamplesCnt)
      (claims : claim = streamingClaim packet buffer.txLengthSamplesCnt)
      (uses :
        ∀ doing, use = some doing →
          ∃ sent,
            doing = .sending packet.samples.length sent ∧
              sent.length ≤ buffer.txLengthSamplesCnt ∧
              sent = packet.samples.take sent.length) :
      Stage buffer claim use (packets ++ [packet]) packets
  | reset
      {packets : List (Packet Sample)}
      (lock : buffer.lock = ⟨true, true⟩)
      (length : buffer.txLengthSamples = 0)
      (count : buffer.txLengthSamplesCnt = 0) :
      Stage buffer none (some .unlockingInner) packets packets
  | unlocked
      {packets : List (Packet Sample)}
      (lock : buffer.lock = ⟨true, false⟩)
      (length : buffer.txLengthSamples = 0)
      (count : buffer.txLengthSamplesCnt = 0) :
      Stage buffer none (some .unlockingOuter) packets packets

namespace Stage

variable
    {Sample : Type}
    {buffer : BufferTx Sample}
    {claim : Option (Claim Sample)}
    {use : Option (Use Sample)}
    {offered transmitted : List (Packet Sample)}

/-- The inner lock is only held inside of the outer one. -/
theorem nested
    (stage : Stage buffer claim use offered transmitted)
    (inner : buffer.lock.inner = true) :
    buffer.lock = ⟨true, true⟩ := by
  cases stage with
  | free lock _ _ =>
      rw [lock] at inner
      cases inner
  | acquired lock _ =>
      rw [lock] at inner
      cases inner
  | filling lock _ _ =>
      rw [lock] at inner
      cases inner
  | transmittable lock _ _ _ _ _ => exact lock
  | reset lock _ _ => exact lock
  | unlocked lock _ _ =>
      rw [lock] at inner
      cases inner

/-- A buffer without locks is free. -/
theorem ofUnlocked
    (stage : Stage buffer claim use offered transmitted)
    (lock : buffer.lock = ⟨false, false⟩) :
    claim = none ∧ use = none ∧ offered = transmitted ∧
      buffer.txLengthSamples = 0 ∧ buffer.txLengthSamplesCnt = 0 := by
  cases stage with
  | free _ length count => exact ⟨rfl, rfl, rfl, length, count⟩
  | acquired other _ => cases lock.symm.trans other
  | filling other _ _ => cases lock.symm.trans other
  | transmittable other _ _ _ _ _ => cases lock.symm.trans other
  | reset other _ _ => cases lock.symm.trans other
  | unlocked other _ _ => cases lock.symm.trans other

/-- Nothing is transmitted twice, and nothing is dropped. -/
theorem log (stage : Stage buffer claim use offered transmitted) :
    offered = transmitted ∨
      ∃ packet,
        offered = transmitted ++ [packet] ∧
          buffer.lock = ⟨true, true⟩ ∧
          buffer.bufferTxMeta = packet.bufferTxMeta := by
  cases stage with
  | @transmittable _ packet _ _ lock bufferTxMeta _ _ _ _ =>
      exact Or.inr ⟨packet, rfl, lock, bufferTxMeta⟩
  | _ => exact Or.inl rfl

theorem ofAcquired
    (stage : Stage buffer (some .acquired) use offered transmitted) :
    buffer.txLengthSamplesCnt = 0 ∧ use = none ∧ offered = transmitted := by
  cases stage with
  | acquired _ count => exact ⟨count, rfl, rfl⟩
  | transmittable _ _ _ _ claims _ =>
      unfold streamingClaim at claims
      split at claims <;> cases claims

/-- A buffer that is filled and not transmittable. -/
theorem ofFilling
    {packet : Packet Sample}
    {published : Nat}
    (stage :
      Stage buffer (some (.filling packet published)) use offered
        transmitted) :
    buffer.lock = ⟨true, false⟩ ∧
      buffer.txLengthSamples = packet.samples.length ∧
      buffer.txLengthSamplesCnt = published ∧
      TxSystem.Holds buffer packet published ∧
      use = none ∧ offered = transmitted := by
  cases stage with
  | filling lock length holds => exact ⟨lock, length, rfl, holds, rfl, rfl⟩
  | transmittable _ _ _ _ claims _ =>
      unfold streamingClaim at claims
      split at claims <;> cases claims

/-- The length of the packet is announced. -/
theorem getAntStreams
    (stage : Stage buffer (some .acquired) use offered transmitted)
    (lock : buffer.lock = ⟨true, false⟩)
    (packet : Packet Sample) :
    Stage { buffer with txLengthSamples := packet.samples.length }
      (some (.filling packet 0)) use offered transmitted := by
  obtain ⟨count, unused, log⟩ := stage.ofAcquired
  subst unused log
  rw [← count]
  refine .filling lock rfl ?_
  intro index inside
  rw [count] at inside
  exact absurd inside (Nat.not_lt_zero index)

/-- Samples that are written do not concern what is published. -/
theorem write
    {known : Claim Sample}
    {packet : Packet Sample}
    {published : Nat}
    (knows :
      known = .filling packet published ∨ known = .streaming packet published)
    (stage : Stage buffer (some known) use offered transmitted)
    {antStreams : Nat → Sample}
    (kept : ∀ index < published, antStreams index = buffer.antStreams index) :
    Stage { buffer with antStreams := antStreams } (some known) use
      offered transmitted := by
  have holds_of : ∀ {other : Packet Sample},
      TxSystem.Holds buffer other published →
        TxSystem.Holds { buffer with antStreams := antStreams } other
          published := by
    intro other holds index inside
    rw [holds index inside, ← kept index inside]
  cases stage with
  | acquired _ _ => rcases knows with same | same <;> cases same
  | filling lock length holds =>
      rcases knows with same | same
      · cases same
        exact .filling lock length (holds_of holds)
      · cases same
  | transmittable lock bufferTxMeta length holds claims uses =>
      have count : buffer.txLengthSamplesCnt = published := by
        unfold streamingClaim at claims
        split at claims
        · cases claims
        · rcases knows with same | same
          · rw [same] at claims
            cases claims
          · rw [same] at claims
            cases claims
            rfl
      rw [count] at holds
      refine .transmittable lock bufferTxMeta length ?_ claims uses
      change TxSystem.Holds _ _ buffer.txLengthSamplesCnt
      rw [count]
      exact holds_of holds

/-- More samples are published before the packet is transmittable. -/
theorem publishFilling
    {packet : Packet Sample}
    {published : Nat}
    (stage :
      Stage buffer (some (.filling packet published)) use offered transmitted)
    {count : Nat}
    (holds : TxSystem.Holds buffer packet count) :
    Stage { buffer with txLengthSamplesCnt := count }
      (some (.filling packet count)) use offered transmitted := by
  obtain ⟨lock, length, _, _, unused, log⟩ := stage.ofFilling
  subst unused log
  exact .filling lock length holds

/-- More samples are published while the packet is transmittable. -/
theorem publishStreaming
    {packet : Packet Sample}
    {published : Nat}
    (stage :
      Stage buffer (some (.streaming packet published)) use offered
        transmitted)
    {count : Nat}
    (grows : published < count)
    (holds : TxSystem.Holds buffer packet count) :
    Stage { buffer with txLengthSamplesCnt := count }
      (streamingClaim packet count) use offered transmitted := by
  cases stage with
  | @transmittable _ other _ _ lock bufferTxMeta length _ claims uses =>
      unfold streamingClaim at claims
      split at claims
      · cases claims
      · cases claims
        refine .transmittable lock bufferTxMeta length holds rfl ?_
        intro doing isDoing
        obtain ⟨sent, isSending, few, content⟩ := uses doing isDoing
        exact ⟨sent, isSending, few.trans (Nat.le_of_lt grows), content⟩

/-- The packet becomes transmittable. -/
theorem setTransmittable
    {packet : Packet Sample}
    {published : Nat}
    (stage :
      Stage buffer (some (.filling packet published)) use offered
        transmitted) :
    Stage
      { buffer with
        bufferTxMeta := packet.bufferTxMeta
        lock := ⟨true, true⟩ }
      (streamingClaim packet published) use
      (offered ++ [packet]) transmitted := by
  obtain ⟨_, length, count, holds, unused, log⟩ := stage.ofFilling
  subst unused log
  subst count
  refine .transmittable rfl rfl length holds rfl ?_
  intro doing isDoing
  cases isDoing

/-- The radio starts with a packet. -/
theorem start
    (stage : Stage buffer claim none offered transmitted)
    (inner : buffer.lock.inner = true) :
    Stage buffer claim (some (.sending buffer.txLengthSamples []))
      offered transmitted := by
  cases stage with
  | free lock _ _ =>
      rw [lock] at inner
      cases inner
  | acquired lock _ =>
      rw [lock] at inner
      cases inner
  | filling lock _ _ =>
      rw [lock] at inner
      cases inner
  | transmittable lock bufferTxMeta length holds claims uses =>
      refine .transmittable lock bufferTxMeta length holds claims ?_
      intro doing isDoing
      cases isDoing
      exact ⟨[], by rw [length], Nat.zero_le _, rfl⟩

/-- The radio sends some more of the published samples. -/
theorem send
    {length : Nat}
    {sent : List Sample}
    (stage :
      Stage buffer claim (some (.sending length sent)) offered transmitted)
    {count : Nat}
    (published : sent.length + count ≤ buffer.txLengthSamplesCnt) :
    Stage buffer claim
      (some
        (.sending length
          (sent ++
            (List.range count).map fun index =>
              buffer.antStreams (sent.length + index))))
      offered transmitted := by
  cases stage with
  | @transmittable _ packet _ _ lock bufferTxMeta isLength holds claims
      uses =>
      refine .transmittable lock bufferTxMeta isLength holds claims ?_
      intro doing isDoing
      cases isDoing
      obtain ⟨sentBefore, isSending, few, content⟩ := uses _ rfl
      cases isSending
      have isMap : sent ++ (List.range count).map
          (fun index => buffer.antStreams (sent.length + index)) =
            (List.range (sent.length + count)).map buffer.antStreams := by
        rw [List.range_add, List.map_append, List.map_map,
          ← holds.take_eq few, ← content]
        rfl
      refine ⟨_, rfl, ?_, ?_⟩
      · rw [List.length_append, List.length_map, List.length_range]
        exact published
      · rw [isMap, List.length_map, List.length_range, holds.take_eq published]

variable
  {length : Nat}
  {sent : List Sample}

/-- A packet that was sent completely is what was offered. -/
theorem finish
    (stage :
      Stage buffer claim (some (.sending length sent)) offered transmitted)
    (complete : sent.length = length)
    {after : BufferTx Sample}
    (lock : after.lock = buffer.lock)
    (noLength : after.txLengthSamples = 0)
    (noCount : after.txLengthSamplesCnt = 0) :
    Stage after claim (some .unlockingInner) offered
      (transmitted ++ [⟨buffer.bufferTxMeta, sent⟩]) := by
  cases stage with
  | @transmittable _ packet _ _ isLocked bufferTxMeta isLength holds
      claims uses =>
      obtain ⟨sentBefore, isSending, few, content⟩ := uses _ rfl
      cases isSending
      have isPacket : packet = ⟨buffer.bufferTxMeta, sent⟩ := by
        rw [content, complete, List.take_length, bufferTxMeta]
      rw [complete] at few
      rw [claims, streamingClaim, if_pos few, ← isPacket]
      exact .reset (lock.trans isLocked) noLength noCount

theorem locked_of_sending
    (stage :
      Stage buffer claim (some (.sending length sent)) offered transmitted) :
    buffer.lock = ⟨true, true⟩ := by
  cases stage with
  | transmittable lock _ _ _ _ _ => exact lock

theorem published_of_sending
    (stage :
      Stage buffer claim (some (.sending length sent)) offered transmitted) :
    length = buffer.txLengthSamples ∧
      sent.length ≤ buffer.txLengthSamplesCnt := by
  cases stage with
  | transmittable _ _ isLength _ _ uses =>
      obtain ⟨_, isSending, few, _⟩ := uses _ rfl
      cases isSending
      exact ⟨isLength.symm, few⟩

/-- The radio releases the inner lock. -/
theorem unlockInner
    (stage : Stage buffer claim (some .unlockingInner) offered transmitted) :
    Stage { buffer with lock := ⟨true, false⟩ } claim
      (some .unlockingOuter) offered transmitted := by
  cases stage with
  | reset _ length count => exact .unlocked rfl length count
  | transmittable _ _ _ _ _ uses =>
      obtain ⟨_, isSending, _⟩ := uses _ rfl
      cases isSending

/-- The radio releases the outer lock. -/
theorem unlockOuter
    (stage : Stage buffer claim (some .unlockingOuter) offered transmitted) :
    Stage { buffer with lock := ⟨false, false⟩ } claim none offered
      transmitted := by
  cases stage with
  | unlocked _ length count => exact .free rfl length count
  | transmittable _ _ _ _ _ uses =>
      obtain ⟨_, isSending, _⟩ := uses _ rfl
      cases isSending

end Stage

/--
Every buffer is in a stage that agrees with what the threads know about it, and
no two threads claim the same buffer.
-/
structure Ledger
    {nofBufferTx nofFillers : Nat}
    {Sample : Type}
    (buffers : BufferTxPool nofBufferTx Sample)
    (claims : Fin nofFillers → Option (Fin nofBufferTx × Claim Sample))
    (use : Fin nofBufferTx → Option (Use Sample))
    (found : Option (Fin nofBufferTx))
    (offered transmitted : Fin nofBufferTx → List (Packet Sample)) :
    Prop where
  stages :
    ∃ holder : Fin nofBufferTx → Option (Fin nofFillers × Claim Sample),
      Agree claims holder ∧
        ∀ index,
          Stage (buffers index) ((holder index).map Prod.snd) (use index)
            (offered index) (transmitted index)
  found :
    ∀ index, found = some index →
      (buffers index).lock.inner = true ∧ use index = none

namespace Ledger

variable
    {nofBufferTx nofFillers : Nat}
    {Sample : Type}
    {buffers : BufferTxPool nofBufferTx Sample}
    {claims : Fin nofFillers → Option (Fin nofBufferTx × Claim Sample)}
    {use : Fin nofBufferTx → Option (Use Sample)}
    {found : Option (Fin nofBufferTx)}
    {offered transmitted : Fin nofBufferTx → List (Packet Sample)}

/-- A buffer without locks is handed out. -/
theorem take
    (ledger : Ledger buffers claims use found offered transmitted)
    {filler : Fin nofFillers}
    (emptyHanded : claims filler = none)
    {index : Fin nofBufferTx}
    (unlocked : (buffers index).lock = ⟨false, false⟩) :
    Ledger
      (update buffers index { buffers index with lock := ⟨true, false⟩ })
      (update claims filler (some (index, .acquired)))
      use found offered transmitted := by
  obtain ⟨holder, agree, stages⟩ := ledger.stages
  obtain ⟨noClaim, noUse, log, _, count⟩ := (stages index).ofUnlocked unlocked
  have free : holder index = none := Option.map_eq_none_iff.mp noClaim
  refine ⟨⟨_, agree.take emptyHanded free .acquired, ?_⟩, ?_⟩
  · intro other
    by_cases same : other = index
    · subst same
      rw [update_self, update_self, noUse, log]
      exact .acquired rfl count
    · rw [update_of_ne same, update_of_ne same]
      exact stages other
  · intro other isFound
    have same : other ≠ index := by
      intro same
      subst same
      have inner := (ledger.found other isFound).1
      rw [unlocked] at inner
      cases inner
    rw [update_of_ne same]
    exact ledger.found other isFound

/-- A thread works with the buffer that it claims. -/
theorem fill
    (ledger : Ledger buffers claims use found offered transmitted)
    {filler : Fin nofFillers}
    {index : Fin nofBufferTx}
    {before : Claim Sample}
    (claimed : claims filler = some (index, before))
    {buffer : BufferTx Sample}
    {known : Option (Claim Sample)}
    {packets : List (Packet Sample)}
    (stage :
      Stage (buffers index) (some before) (use index) (offered index)
          (transmitted index) →
        Stage buffer known (use index) packets (transmitted index))
    (inner : (buffers index).lock.inner = true → buffer.lock.inner = true) :
    Ledger (update buffers index buffer)
      (update claims filler (known.map fun knows => (index, knows)))
      use found (update offered index packets) transmitted := by
  obtain ⟨holder, agree, stages⟩ := ledger.stages
  have isHolder : holder index = some (filler, before) :=
    (agree filler index before).mp claimed
  refine ⟨⟨_, agree.change claimed known, ?_⟩, ?_⟩
  · intro other
    by_cases same : other = index
    · subst same
      have now := stages other
      rw [isHolder] at now
      rw [update_self, update_self, update_self, Option.map_map]
      have isKnown :
          known.map (Prod.snd ∘ fun knows => (filler, knows)) = known := by
        cases known <;> rfl
      rw [isKnown]
      exact stage now
    · rw [update_of_ne same, update_of_ne same, update_of_ne same]
      exact stages other
  · intro other isFound
    obtain ⟨isLocked, unused⟩ := ledger.found other isFound
    refine ⟨?_, unused⟩
    by_cases same : other = index
    · subst same
      rw [update_self]
      exact inner isLocked
    · rw [update_of_ne same]
      exact isLocked

/-- The radio works with a buffer. -/
theorem transmit
    (ledger : Ledger buffers claims use found offered transmitted)
    {index : Fin nofBufferTx}
    {buffer : BufferTx Sample}
    {doing : Option (Use Sample)}
    {packets : List (Packet Sample)}
    (stage :
      ∀ {claim : Option (Claim Sample)},
        Stage (buffers index) claim (use index) (offered index)
            (transmitted index) →
          Stage buffer claim doing (offered index) packets)
    {next : Option (Fin nofBufferTx)}
    (isNext :
      ∀ other, next = some other →
        other ≠ index ∧ (buffers other).lock.inner = true ∧ use other = none) :
    Ledger (update buffers index buffer) claims
      (update use index doing) next offered
      (update transmitted index packets) := by
  obtain ⟨holder, agree, stages⟩ := ledger.stages
  refine ⟨⟨holder, agree, ?_⟩, ?_⟩
  · intro other
    by_cases same : other = index
    · subst same
      rw [update_self, update_self, update_self]
      exact stage (stages other)
    · rw [update_of_ne same, update_of_ne same, update_of_ne same]
      exact stages other
  · intro other isFound
    obtain ⟨different, isLocked, unused⟩ := isNext other isFound
    rw [update_of_ne different, update_of_ne different]
    exact ⟨isLocked, unused⟩

/-- The radio finds or forgets a buffer. -/
theorem look
    (ledger : Ledger buffers claims use found offered transmitted)
    {next : Option (Fin nofBufferTx)}
    (isNext :
      ∀ other, next = some other →
        (buffers other).lock.inner = true ∧ use other = none) :
    Ledger buffers claims use next offered transmitted :=
  ⟨ledger.stages, isNext⟩

end Ledger

namespace TxSystem

variable {nofBufferTx nofFillers : Nat} {Sample : Type}

/-- All buffers are accounted for. -/
def Accounted (system : TxSystem nofBufferTx nofFillers Sample) : Prop :=
  Ledger system.buffers (Filler.claim ∘ system.fillers) system.radio.use
    system.radio.found system.offered system.transmitted

theorem initial_accounted
    (antStreamsLengthSamples : Nat)
    (antStreams : Fin nofBufferTx → Nat → Sample) :
    (initial nofBufferTx nofFillers antStreamsLengthSamples
      antStreams).Accounted := by
  refine ⟨⟨fun _ => none, ?_, ?_⟩, ?_⟩
  · intro filler index known
    constructor
    · intro held
      cases held
    · intro held
      cases held
  · intro index
    exact .free rfl rfl rfl
  · intro index isFound
    cases isFound

variable {before after : TxSystem nofBufferTx nofFillers Sample}

/-- Threads that fill buffers keep the accounts. -/
theorem FillerStep.accounted
    {filler : Fin nofFillers}
    (step : FillerStep before filler after)
    (accounted : before.Accounted) :
    after.Accounted := by
  unfold Accounted at accounted ⊢
  cases step with
  | getBufferTxToFill idle returned =>
      obtain ⟨unlocked, isAfter⟩ :=
        BufferTxPool.getBufferTxToFill_eq_ok returned
      have emptyHanded : (Filler.claim ∘ before.fillers) filler = none := by
        rw [comp_apply, idle]
        rfl
      rw [isAfter, comp_update]
      exact accounted.take emptyHanded unlocked
  | @getAntStreams index buffer packet acquired returned =>
      obtain ⟨isOuter, _, isAfter⟩ := BufferTx.getAntStreams_eq_ok returned
      have claimed : (Filler.claim ∘ before.fillers) filler =
          some (index, .acquired) := by
        rw [comp_apply, acquired]
        rfl
      have filled :=
        accounted.fill claimed
          (fun stage => Stage.getAntStreams stage isOuter packet)
          (fun inner => inner)
      rw [update_eq_self] at filled
      rw [isAfter, comp_update]
      exact filled
  | @write fill antStreams writes incomplete kept =>
      obtain ⟨known, claimed, knows⟩ : ∃ known,
          (Filler.claim ∘ before.fillers) filler = some (fill.buffer, known) ∧
            (known = .filling fill.packet fill.published ∨
              known = .streaming fill.packet fill.published) := by
        rcases writes with filling | streaming
        · refine ⟨_, ?_, Or.inl rfl⟩
          rw [comp_apply, filling]
          rfl
        · refine ⟨_, ?_, Or.inr rfl⟩
          rw [comp_apply, streaming]
          exact fill.claim_of_incomplete incomplete
      have filled :=
        accounted.fill claimed (fun stage => Stage.write knows stage kept)
          (fun inner => inner)
      rw [update_eq_self, Option.map_some, ← claimed, update_eq_self] at filled
      exact filled
  | @publishFilling fill buffer published filling grows written
      returned =>
      have isAfter := BufferTx.setTxLengthSamplesCnt_eq_ok returned
      have claimed : (Filler.claim ∘ before.fillers) filler =
          some (fill.buffer, .filling fill.packet fill.published) := by
        rw [comp_apply, filling]
        rfl
      have filled :=
        accounted.fill claimed (fun stage => stage.publishFilling written)
          (fun inner => inner)
      rw [update_eq_self] at filled
      rw [isAfter, comp_update]
      exact filled
  | @publishStreaming fill buffer published streaming grows written
      returned =>
      have isAfter := BufferTx.setTxLengthSamplesCnt_eq_ok returned
      have incomplete : fill.complete = false :=
        decide_eq_false (Nat.not_le_of_lt (written.lt_length grows))
      have claimed : (Filler.claim ∘ before.fillers) filler =
          some (fill.buffer, .streaming fill.packet fill.published) := by
        rw [comp_apply, streaming]
        exact fill.claim_of_incomplete incomplete
      have filled :=
        accounted.fill claimed
          (fun stage => stage.publishStreaming grows written)
          (fun inner => inner)
      rw [update_eq_self] at filled
      rw [isAfter, comp_update, Filler.claim_continue]
      exact filled
  | @setTransmittable fill buffer filling returned =>
      obtain ⟨_, isAfter⟩ := BufferTx.setTransmittable_eq_ok returned
      have claimed : (Filler.claim ∘ before.fillers) filler =
          some (fill.buffer, .filling fill.packet fill.published) := by
        rw [comp_apply, filling]
        rfl
      rw [isAfter, comp_update]
      exact accounted.fill claimed
        (fun stage => stage.setTransmittable) (fun _ => rfl)
  | @raise fill raising mutex =>
      have same : (Filler.notifying fill).claim =
          (Filler.claim ∘ before.fillers) filler := by
        rw [comp_apply, raising]
        rfl
      rw [comp_update, same, update_eq_self]
      exact accounted
  | @notify fill notifying =>
      have same : (Filler.continue_ fill).claim =
          (Filler.claim ∘ before.fillers) filler := by
        rw [comp_apply, notifying, Filler.claim_continue]
        rfl
      rw [comp_update, same, update_eq_self,
        before.radio.notified_use, before.radio.notified_found]
      exact accounted

variable {system : TxSystem nofBufferTx nofFillers Sample}

variable {index : Fin nofBufferTx}

/-- The next buffer is not the one that the radio uses. -/
theorem Accounted.next
    (accounted : system.Accounted)
    {doing : Use Sample}
    (uses : system.radio.use index = some doing)
    (other : Fin nofBufferTx)
    (isFound : system.radio.found = some other) :
    other ≠ index ∧ (system.buffers other).lock.inner = true ∧
      system.radio.use other = none := by
  obtain ⟨isLocked, unused⟩ := Ledger.found accounted other isFound
  refine ⟨?_, isLocked, unused⟩
  intro same
  subst same
  rw [unused] at uses
  cases uses

/-- The radio uses no buffer, and it has found one that is transmittable. -/
theorem Accounted.away
    (accounted : before.Accounted)
    (unused : before.radio.use = fun _ => none)
    (stillUnused : after.radio.use = fun _ => none)
    (isFound :
      ∀ buffer, after.radio.found = some buffer →
        (before.buffers buffer).lock.inner = true)
    (same :
      after =
        { before with
          radio := after.radio
          txOrderIdExpected := after.txOrderIdExpected }) :
    after.Accounted := by
  rw [same]
  unfold Accounted at accounted ⊢
  rw [unused] at accounted
  change Ledger _ _ after.radio.use after.radio.found _ _
  rw [stillUnused]
  exact accounted.look fun buffer found => ⟨isFound buffer found, rfl⟩

/-- The radio begins to send the packet of a buffer that it has found. -/
theorem Accounted.start
    (accounted : before.Accounted)
    (unused : before.radio.use = fun _ => none)
    {buffer : Fin nofBufferTx}
    (inner : (before.buffers buffer).lock.inner = true)
    (same :
      after =
        { before with
          radio :=
            .sending buffer (before.buffers buffer).txLengthSamples 0 [] none
          txOrderIdExpected := after.txOrderIdExpected }) :
    after.Accounted := by
  rw [same]
  unfold Accounted at accounted ⊢
  rw [unused] at accounted
  have started :=
    @Ledger.transmit _ _ _ _ _ _ _ _ _ accounted _ _ _ _
      (fun stage => stage.start inner) none
      (fun _ isOther => nomatch isOther)
  rw [update_eq_self, update_eq_self] at started
  exact started

variable {hw : Hw}

/-- The transmit thread keeps the accounts unless it leaves out samples. -/
theorem RadioStep.accounted
    (step : RadioStep hw before after)
    (wholeBefore : before.radio.skipped = 0)
    (wholeAfter : after.radio.skipped = 0)
    (accounted : before.Accounted) :
    after.Accounted := by
  have found_of : ∀ {target : Int} {buffer : Fin nofBufferTx},
      before.buffers.getSpecificTxOrderIdIfAvailable target = some buffer →
        ∀ other, some buffer = some other →
          (before.buffers other).lock.inner = true := by
    intro target buffer found other isOther
    cases isOther
    exact (BufferTxPool.getSpecificTxOrderIdIfAvailable_eq_some found).1
  cases step with
  | search idle found =>
      exact accounted.away (by rw [idle]; rfl) rfl (found_of found) rfl
  | wait isUsrp idle missing =>
      exact accounted.away (by rw [idle]; rfl) rfl nofun rfl
  | lock locking => exact accounted.away (by rw [locking]; rfl) rfl nofun rfl
  | sleep comparing same =>
      exact accounted.away (by rw [comparing]; rfl) rfl nofun rfl
  | look comparing changed =>
      exact accounted.away (by rw [comparing]; rfl) rfl nofun rfl
  | timeout sleeping =>
      exact accounted.away (by rw [sleeping]; rfl) rfl nofun rfl
  | wakeUp sleeping =>
      exact accounted.away (by rw [sleeping]; rfl) rfl nofun rfl
  | relock waking => exact accounted.away (by rw [waking]; rfl) rfl nofun rfl
  | found looking found =>
      exact accounted.away (by rw [looking]; rfl) rfl (found_of found) rfl
  | missed looking missing =>
      exact accounted.away (by rw [looking]; rfl) rfl nofun rfl
  | @start buffer starting =>
      obtain ⟨inner, _⟩ :=
        Ledger.found accounted buffer (by rw [starting]; rfl)
      exact accounted.start (by rw [starting]; rfl) inner rfl
  | @send buffer length skipped sent next antStreamsOffset count sending
      waited returned =>
      obtain ⟨_, published⟩ := BufferTx.waitForSamplesBusyNto_eq_ok waited
      have isOffset := BufferTx.getAntStreamsOffset_eq_ok returned
      have uses : before.radio.use buffer = some (.sending length sent) := by
        rw [sending]
        exact RadioTx.use_sending buffer length skipped sent next
      have isNext := accounted.next uses
      have isWhole : skipped = 0 := by
        rw [sending] at wholeBefore
        exact wholeBefore
      subst isWhole
      rw [Nat.zero_add] at published isOffset
      unfold Accounted at accounted ⊢
      rw [sending] at accounted isNext
      have sends :=
        accounted.transmit (fun stage => by
            rw [RadioTx.use_sending] at stage
            exact stage.send published)
          isNext
      rw [update_eq_self, update_eq_self, RadioTx.use, update_idem] at sends
      rw [isOffset]
      exact sends
  | @lookAhead buffer length skipped sent isUsrp sending remaining inOrder =>
      unfold Accounted at accounted ⊢
      rw [sending] at accounted
      refine accounted.look ?_
      intro found isFound
      -- A packet does not start before its own end.
      have different : found ≠ buffer := by
        intro same
        subst same
        have ordered := inOrder found isFound
        omega
      exact ⟨found_of isFound found rfl,
          RadioTx.use_sending_other different _ _ _ _⟩
  | @endOfBurst buffer length skipped sent next isUsrp sending =>
      unfold Accounted at accounted ⊢
      rw [sending] at accounted
      exact accounted.look nofun
  | @reset buffer length skipped sent next after sending complete returned =>
      obtain ⟨sameLock, noLength, noCount⟩ := BufferTx.reset_eq_ok returned
      have uses : before.radio.use buffer = some (.sending length sent) := by
        rw [sending]
        exact RadioTx.use_sending buffer length skipped sent next
      have isNext := accounted.next uses
      have isWhole : skipped = 0 := by
        rw [sending] at wholeBefore
        exact wholeBefore
      rw [isWhole, Nat.zero_add] at complete
      unfold Accounted at accounted ⊢
      rw [sending] at accounted isNext
      have resets :=
        accounted.transmit (fun stage => by
            rw [RadioTx.use_sending] at stage
            exact stage.finish complete sameLock noLength noCount)
          isNext
      rw [RadioTx.use, update_idem] at resets
      exact resets
  | @unlockInner buffer length next after unlocking returned =>
      obtain ⟨_, isAfter⟩ := BufferTx.unlockInner_eq_ok returned
      have uses : before.radio.use buffer = some .unlockingInner := by
        rw [unlocking]
        exact RadioTx.use_unlockingInner buffer length next
      have isNext := accounted.next uses
      unfold Accounted at accounted ⊢
      rw [unlocking] at accounted isNext
      have unlocks :=
        accounted.transmit (fun stage => by
            rw [RadioTx.use_unlockingInner] at stage
            exact stage.unlockInner)
          isNext
      rw [update_eq_self, RadioTx.use, update_idem] at unlocks
      rw [isAfter]
      exact unlocks
  | @unlockOuter buffer length next after unlocking returned =>
      obtain ⟨_, isAfter⟩ := BufferTx.unlockOuter_eq_ok returned
      have uses : before.radio.use buffer = some .unlockingOuter := by
        rw [unlocking]
        exact RadioTx.use_unlockingOuter buffer length next
      have isNext := accounted.next uses
      unfold Accounted at accounted ⊢
      rw [unlocking] at accounted isNext
      have unlocks :=
        accounted.transmit (fun stage => by
            rw [RadioTx.use_unlockingOuter] at stage
            exact stage.unlockOuter)
          isNext
      rw [update_eq_self, RadioTx.use, update_idem, update_eq_self] at unlocks
      rw [isAfter]
      exact unlocks
  | @lower buffer length next lowering =>
      unfold Accounted at accounted ⊢
      rw [lowering] at accounted
      cases hw with
      | simulator => exact accounted.look nofun
      | usrp =>
          cases next with
          | none => exact accounted.look nofun
          | some index => exact accounted
  | readLate reading negative =>
      exact accounted.away (by rw [reading]; rfl) rfl nofun rfl
  | readFirst reading given =>
      exact accounted.away (by rw [reading]; rfl) rfl nofun rfl
  | readAgain reading =>
      exact accounted.away (by rw [reading]; rfl) rfl nofun rfl
  | leave behind => exact accounted.away (by rw [behind]; rfl) rfl nofun rfl
  | follow behind found =>
      exact accounted.away (by rw [behind]; rfl) rfl (found_of found) rfl
  | @skip length buffer behind found longer =>
      have isWhole : length = 0 := wholeAfter
      subst isWhole
      exact accounted.start (by rw [behind]; rfl) (found_of found buffer rfl) rfl

/-- `hw_usrp_t` never reads late, and it sends packets from their beginning. -/
def Plain (radio : RadioTx nofBufferTx Sample) : Prop :=
  radio.skipped = 0 ∧
    (∀ buffer length again, radio ≠ .reading buffer length again) ∧
    ∀ length, radio ≠ .behind length

theorem RadioStep.plain
    (step : RadioStep .usrp before after)
    (plain : Plain before.radio) :
    Plain after.radio := by
  obtain ⟨whole, notReading, notBehind⟩ := plain
  have sends : ∀ {buffer length skipped sent next},
      before.radio = .sending buffer length skipped sent next →
        ∀ (sent : List Sample) (next : Option (Fin nofBufferTx)),
          Plain (.sending buffer length skipped sent next) := by
    intro buffer length skipped _ _ sending sent next
    rw [sending] at whole
    exact ⟨whole, nofun, nofun⟩
  cases step with
  | send count sending waited returned => exact sends sending _ _
  | lookAhead isUsrp sending remaining inOrder => exact sends sending _ _
  | endOfBurst isUsrp sending => exact sends sending _ _
  | @lower buffer length next lowering =>
      cases next <;> exact ⟨rfl, nofun, nofun⟩
  | readLate reading negative => exact absurd reading (notReading _ _ _)
  | readFirst reading given => exact absurd reading (notReading _ _ _)
  | readAgain reading => exact absurd reading (notReading _ _ _)
  | leave behind => exact absurd behind (notBehind _)
  | follow behind found => exact absurd behind (notBehind _)
  | skip behind found longer => exact absurd behind (notBehind _)
  | _ => exact ⟨rfl, nofun, nofun⟩

/-- A thread that fills a buffer notifies the radio at most. -/
theorem FillerStep.radio
    {filler : Fin nofFillers}
    (step : FillerStep before filler after) :
    after.radio = before.radio ∨ after.radio = before.radio.notified := by
  cases step with
  | notify notifying => exact Or.inr rfl
  | _ => exact Or.inl rfl

theorem notified_plain
    {radio : RadioTx nofBufferTx Sample}
    (plain : Plain radio) :
    Plain radio.notified := by
  cases radio with
  | sleeping target reference => exact ⟨rfl, nofun, nofun⟩
  | _ => exact plain

/-- Every state that is reached without leaving out samples is reachable. -/
theorem ReachableWhole.reachable (reachable : system.ReachableWhole hw) :
    system.Reachable hw := by
  obtain ⟨antStreamsLengthSamples, antStreams, run⟩ := reachable
  exact ⟨_, _, Relation.ReflTransGen.mono (fun _ _ step => step.1) _ _ run⟩

theorem ReachableWhole.plain (reachable : system.ReachableWhole .usrp) :
    Plain system.radio := by
  obtain ⟨antStreamsLengthSamples, antStreams, run⟩ := reachable
  induction run with
  | refl => exact ⟨rfl, nofun, nofun⟩
  | tail _ step hypothesis =>
      cases step.1 with
      | filler filler step =>
          rcases step.radio with same | notified
          · rw [same]
            exact hypothesis
          · rw [notified]
            exact notified_plain hypothesis
      | radio step => exact step.plain hypothesis

theorem ReachableWhole.whole (reachable : system.ReachableWhole hw) :
    system.radio.skipped = 0 := by
  cases hw with
  | usrp => exact reachable.plain.1
  | simulator =>
      obtain ⟨_, _, run⟩ := reachable
      cases run with
      | refl => rfl
      | tail _ step => exact step.2 rfl

/-- All buffers are accounted for in every reachable state. -/
theorem ReachableWhole.accounted (reachable : system.ReachableWhole hw) :
    system.Accounted := by
  obtain ⟨antStreamsLengthSamples, antStreams, run⟩ := reachable
  induction run with
  | refl => exact initial_accounted antStreamsLengthSamples antStreams
  | tail run step hypothesis =>
      have wholeBefore := ReachableWhole.whole ⟨_, _, run⟩
      have wholeAfter := ReachableWhole.whole ⟨_, _, run.tail step⟩
      cases step.1 with
      | filler filler step => exact step.accounted hypothesis
      | radio step => exact step.accounted wholeBefore wholeAfter hypothesis

/-- What the threads may rely on. -/
structure LifeCycle
    (system : TxSystem nofBufferTx nofFillers Sample) :
    Prop where
  /-- A buffer belongs to at most one thread that fills it. -/
  exclusive :
    ∀ first second index,
      (system.fillers first).Owns index →
        (system.fillers second).Owns index → first = second
  /-- Only a buffer that nobody uses is handed out, with zero counters. -/
  handedOut :
    ∃ result,
      system.buffers.getBufferTxToFill = .ok result ∧
        ∀ index buffer, result = some (index, buffer) →
          (system.buffers index).lock = ⟨false, false⟩ ∧
            buffer.txLengthSamples = 0 ∧
            buffer.txLengthSamplesCnt = 0 ∧
            (∀ filler, ¬ (system.fillers filler).Owns index) ∧
            ¬ system.radio.Reads index
  /-- The radio reads only buffers with both locks. -/
  locked :
    ∀ index, system.radio.Reads index →
      (system.buffers index).lock = ⟨true, true⟩
  /-- A search looks at the order only behind both locks. -/
  nested :
    ∀ index, (system.buffers index).lock.inner = true →
      (system.buffers index).lock = ⟨true, true⟩
  /-- The radio has read published samples only. -/
  published :
    ∀ index length sent,
      system.radio.use index = some (.sending length sent) →
        length = (system.buffers index).txLengthSamples ∧
          sent.length ≤ (system.buffers index).txLengthSamplesCnt
  /-- Whatever was offered was transmitted once, or it is still there. -/
  once :
    ∀ index,
      system.offered index = system.transmitted index ∨
        ∃ packet,
          system.offered index =
              system.transmitted index ++ [packet] ∧
            (system.buffers index).lock = ⟨true, true⟩ ∧
            (system.buffers index).bufferTxMeta = packet.bufferTxMeta
  /-- A radio that sleeps misses nothing, or it is about to be woken up. -/
  awake :
    ∀ target reference,
      system.radio = .sleeping target reference →
        (∀ index, ¬ system.buffers.Available target index) ∨
          system.WakesUp reference

/-- The next order is read while both locks are held. -/
def ReadsLocked (system : TxSystem nofBufferTx nofFillers Sample) : Prop :=
  ∀ buffer length again,
    system.radio = .reading buffer length again →
      (system.buffers buffer).lock = ⟨true, true⟩

/-- The radio reads only buffers with both locks. -/
theorem Accounted.locked
    (accounted : system.Accounted)
    (readsLocked : system.ReadsLocked)
    (reads : system.radio.Reads index) :
    (system.buffers index).lock = ⟨true, true⟩ := by
  obtain ⟨holder, agree, stages⟩ := Ledger.stages accounted
  rcases reads with isFound | ⟨length, sent, uses⟩ | ⟨length, again, reading⟩
  · exact (stages index).nested (Ledger.found accounted index isFound).1
  · have stage := stages index
    rw [uses] at stage
    exact stage.locked_of_sending
  · exact readsLocked index length again reading

/-- The life cycle of transmit buffers. -/
theorem ReachableWhole.lifeCycle
    (few : nofBufferTx + nofFillers < 2 ^ 32)
    (reachable : system.ReachableWhole hw)
    (readsLocked : system.ReadsLocked) :
    system.LifeCycle := by
  have accounted := reachable.accounted
  obtain ⟨holder, agree, stages⟩ := Ledger.stages accounted
  have nested : ∀ index, (system.buffers index).lock.inner = true →
        (system.buffers index).lock = ⟨true, true⟩ :=
    fun index inner => (stages index).nested inner
  exact {
    exclusive := by
      intro first second index ⟨known, owns⟩ ⟨other, alsoOwns⟩
      exact agree.unique owns alsoOwns
    handedOut := by
      obtain ⟨result, returned⟩ :=
        BufferTxPool.getBufferTxToFill_ok
          (fun index inner => by rw [nested index inner])
      refine ⟨result, returned, ?_⟩
      intro index buffer isResult
      subst isResult
      obtain ⟨unlocked, isAfter⟩ :=
        BufferTxPool.getBufferTxToFill_eq_ok returned
      obtain ⟨noClaim, _, _, length, count⟩ :=
        (stages index).ofUnlocked unlocked
      refine ⟨unlocked, ?_, ?_, ?_, ?_⟩
      · rw [isAfter]
        exact length
      · rw [isAfter]
        exact count
      · rintro filler ⟨known, owns⟩
        exact agree.nobody (Option.map_eq_none_iff.mp noClaim) filler
          known owns
      · intro reads
        cases unlocked.symm.trans (accounted.locked readsLocked reads)
    locked := fun index reads => accounted.locked readsLocked reads
    nested := nested
    published := by
      intro index length sent uses
      have stage := stages index
      rw [uses] at stage
      exact stage.published_of_sending
    once := fun index => (stages index).log
    awake := by
      intro target reference sleeping
      by_cases wanted : ∃ index, system.buffers.Available target index
      · obtain ⟨index, available⟩ := wanted
        exact Or.inr (reachable.reachable.wakesUp few sleeping available)
      · exact Or.inl (not_exists.mp wanted) }

/--
The life cycle of transmit buffers with `hw_usrp_t`, and when it is kept by
`hw_simulator_t`, which reads the next order of a buffer that it has released.
-/
theorem reachable_lifeCycle_iff
    {hw : Hw}
    {system : TxSystem nofBufferTx nofFillers Sample}
    (few : nofBufferTx + nofFillers < 2 ^ 32)
    (reachable : system.ReachableWhole hw) :
    (hw = .usrp → system.LifeCycle) ∧
      (system.LifeCycle ↔ system.ReadsLocked) := by
  have kept := reachable.lifeCycle few
  refine ⟨?_, ?_, kept⟩
  · intro isUsrp
    subst isUsrp
    refine kept ?_
    intro buffer length again reading
    exact absurd reading (reachable.plain.2.1 buffer length again)
  · intro lifeCycle buffer length again reading
    exact lifeCycle.locked buffer (Or.inr (Or.inr ⟨length, again, reading⟩))

/--
The radio falls asleep, and then a packet becomes transmittable for which the
counter is not raised yet.
-/
theorem run_asleep :
    ∃ system : TxSystem 1 1 Nat,
      system.ReachableWhole .usrp ∧
        system.radio = .sleeping 0 0 ∧ system.buffers.Available 0 0 := by
  have start :=
    @Relation.ReflTransGen.refl (TxSystem 1 1 Nat) (WholeStep .usrp)
      (initial 1 1 4 fun _ _ => 0)
  have missing := start.tail ⟨.radio (.wait rfl rfl rfl), nofun⟩
  have locked := missing.tail ⟨.radio (.lock rfl), nofun⟩
  have asleep := locked.tail ⟨.radio (.sleep rfl rfl), nofun⟩
  have acquired := asleep.tail ⟨.filler 0 (.getBufferTxToFill rfl rfl), nofun⟩
  have filling :=
    acquired.tail
      ⟨.filler 0 (.getAntStreams ⟨{ txOrderId := 0 }, [7]⟩ rfl rfl), nofun⟩
  have transmittable :=
    filling.tail ⟨.filler 0 (.setTransmittable rfl rfl), nofun⟩
  exact ⟨_, ⟨_, _, transmittable⟩, rfl, rfl, rfl⟩

/-- The simulator sends a packet of two samples and releases its buffer. -/
theorem run_released :
    ∃ system : TxSystem 1 1 Nat,
      system.ReachableWhole .simulator ∧
        system.radio = .reading 0 2 false ∧
        (system.buffers 0).lock = ⟨false, false⟩ := by
  have start :=
    @Relation.ReflTransGen.refl (TxSystem 1 1 Nat) (WholeStep .simulator)
      (initial 1 1 4 fun _ _ => 7)
  have acquired :=
    start.tail ⟨.filler 0 (.getBufferTxToFill rfl rfl), fun _ => rfl⟩
  have filling :=
    acquired.tail
      ⟨.filler 0 (.getAntStreams ⟨{ txOrderId := 0 }, [7, 7]⟩ rfl rfl),
        fun _ => rfl⟩
  have published :=
    filling.tail ⟨.filler 0 (.publishFilling 2 rfl (by decide) (by
          intro index inside
          have cases : index = 0 ∨ index = 1 := by omega
          rcases cases with rfl | rfl <;> rfl) rfl), fun _ => rfl⟩
  have transmittable :=
    published.tail ⟨.filler 0 (.setTransmittable rfl rfl), fun _ => rfl⟩
  have raised := transmittable.tail ⟨.filler 0 (.raise rfl rfl), fun _ => rfl⟩
  have notified := raised.tail ⟨.filler 0 (.notify rfl), fun _ => rfl⟩
  have found := notified.tail ⟨.radio (.search rfl rfl), fun _ => rfl⟩
  have started := found.tail ⟨.radio (.start rfl), fun _ => rfl⟩
  have sent := started.tail ⟨.radio (.send 2 rfl rfl rfl), fun _ => rfl⟩
  have wasReset := sent.tail ⟨.radio (.reset rfl rfl rfl), fun _ => rfl⟩
  have unlocked := wasReset.tail ⟨.radio (.unlockInner rfl rfl), fun _ => rfl⟩
  have free := unlocked.tail ⟨.radio (.unlockOuter rfl rfl), fun _ => rfl⟩
  have released := free.tail ⟨.radio (.lower rfl), fun _ => rfl⟩
  exact ⟨_, ⟨_, _, released⟩, rfl, rfl⟩

/-- The life cycle is kept while a radio sleeps, but not by a late read. -/
theorem reachable_lifeCycle_iff_examples :
    (∃ system : TxSystem 1 1 Nat,
        system.buffers.Available 0 0 ∧ system.LifeCycle) ∧
      ∃ system : TxSystem 1 1 Nat,
        system.radio = .reading 0 2 false ∧ ¬ system.LifeCycle := by
  obtain ⟨asleep, isAsleep, _, available⟩ := run_asleep
  obtain ⟨released, isReleased, reading, unlocked⟩ := run_released
  refine ⟨⟨asleep, available, ?_⟩, released, reading, ?_⟩
  · exact (reachable_lifeCycle_iff (by decide) isAsleep).1 rfl
  · rw [(reachable_lifeCycle_iff (by decide) isReleased).2]
    intro readsLocked
    cases unlocked.symm.trans (readsLocked 0 2 false reading)

/-- The simulator reads the next order of a buffer without locks. -/
theorem not_lifeCycle_releasedBuffer :
    ¬ ∀ (hw : Hw) (system : TxSystem 1 1 Nat),
        system.Reachable hw → system.LifeCycle := by
  intro kept
  obtain ⟨system, reachable, reading, unlocked⟩ := run_released
  have lifeCycle := kept .simulator system reachable.reachable
  cases unlocked.symm.trans
    (lifeCycle.locked 0 (Or.inr (Or.inr ⟨2, false, reading⟩)))

end TxSystem

end Radio

end DectNrp
