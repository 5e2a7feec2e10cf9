import DectNrp.RadioTxSystem

namespace DectNrp

/-!
# Wake-ups of the transmit thread

The pool of transmit buffers follows the protocol of a wake-up counter.
Buffers with an inner lock are the items, the threads that fill them are the
producers, and the transmit thread is the consumer.
-/

open Function (update)

namespace Radio

open WakeUpCounter

namespace RadioTx

variable {nofBufferTx : Nat} {Sample : Type}

theorem notified_awake
    (radio : RadioTx nofBufferTx Sample)
    (reference : UInt32) :
    radio.notified.consumer ≠ .sleeping reference := by
  cases radio <;> intro sleeps <;> cases sleeps

theorem notified_reference (radio : RadioTx nofBufferTx Sample) :
    radio.notified.consumer.reference? = radio.consumer.reference? := by
  cases radio <;> rfl

theorem notified_nofLowering (radio : RadioTx nofBufferTx Sample) :
    radio.notified.nofLowering = radio.nofLowering := by
  cases radio <;> rfl

theorem notified_target (radio : RadioTx nofBufferTx Sample) :
    radio.notified.target? = radio.target? := by
  cases radio <;> rfl

/-- Neither state waits for a packet, and they are the same to the counter. -/
structure Alike (before after : RadioTx nofBufferTx Sample) : Prop where
  lowering : after.nofLowering = before.nofLowering
  consumer : after.consumer = before.consumer
  awaitsBefore : before.target? = none
  awaitsAfter : after.target? = none

theorem released_away
    (hw : Hw)
    (buffer : Fin nofBufferTx)
    (length : Nat)
    (next : Option (Fin nofBufferTx)) :
    let radio : RadioTx nofBufferTx Sample := released hw buffer length next
    radio.nofLowering = 0 ∧ radio.consumer = .away := by
  cases hw with
  | simulator => exact ⟨rfl, rfl⟩
  | usrp => cases next <;> exact ⟨rfl, rfl⟩

end RadioTx

namespace TxSystem

variable {nofBufferTx nofFillers : Nat} {Sample : Type}

/-- The inner lock of a buffer is held. -/
def isTransmittable (buffer : BufferTx Sample) : Bool :=
  buffer.lock.inner

/-- The transmit thread waits for an order that is available. -/
def Wanted (system : TxSystem nofBufferTx nofFillers Sample) : Prop :=
  ∃ target index,
    system.radio.target? = some target ∧
      system.buffers.Available target index

/-- What the pool and the threads are to the wake-up counter. -/
def protocol
    (system : TxSystem nofBufferTx nofFillers Sample) :
    Protocol where
  counter := system.txNewPacketCnt
  available := population isTransmittable system.buffers
  raising := population Filler.isRaising system.fillers
  notifying := population Filler.isNotifying system.fillers
  lowering := system.radio.nofLowering
  consumer := system.radio.consumer
  wanted := system.Wanted

variable {system : TxSystem nofBufferTx nofFillers Sample}

/-- Nothing is wanted as long as the thread does not wait. -/
theorem not_wanted (awaits : system.radio.target? = none) :
    system.Wanted = False := by
  apply eq_false
  rintro ⟨target, index, waits, _⟩
  rw [awaits] at waits
  cases waits

/-- A change of a buffer that does not concern the counter. -/
structure Silent (before after : BufferTx Sample) : Prop where
  inner : after.lock.inner = before.lock.inner
  bufferTxMeta : after.bufferTxMeta = before.bufferTxMeta

/-- A buffer changes silently, and a thread stays as it is to the counter. -/
theorem protocol_fill
    (system : TxSystem nofBufferTx nofFillers Sample)
    {index : Fin nofBufferTx}
    {buffer : BufferTx Sample}
    (silent : Silent (system.buffers index) buffer)
    {filler : Fin nofFillers}
    {state : Filler nofBufferTx Sample}
    (raising : state.isRaising = (system.fillers filler).isRaising)
    (notifying : state.isNotifying = (system.fillers filler).isNotifying) :
    protocol
        { system with
          buffers := update system.buffers index buffer
          fillers := update system.fillers filler state } =
      system.protocol := by
  have available : ∀ target other, BufferTxPool.Available
      (update system.buffers index buffer) target other ↔
          system.buffers.Available target other := by
    intro target other
    by_cases same : other = index
    · subst same
      unfold BufferTxPool.Available
      rw [Function.update_self, silent.inner, silent.bufferTxMeta]
    · unfold BufferTxPool.Available
      rw [Function.update_of_ne same]
  have wanted : Wanted
      { system with
        buffers := update system.buffers index buffer
        fillers := update system.fillers filler state } =
        system.Wanted := by
    apply propext
    unfold Wanted
    simp only [available]
  unfold protocol
  rw [Protocol.mk.injEq]
  exact ⟨rfl, population_update_same silent.inner,
      population_update_same raising, population_update_same notifying,
      rfl, rfl, wanted⟩

variable {before after : TxSystem nofBufferTx nofFillers Sample}

/-- A thread that fills a buffer follows the protocol. -/
theorem FillerStep.follows
    {filler : Fin nofFillers}
    (step : FillerStep before filler after) :
    after.protocol = before.protocol ∨
      Protocol.Step before.protocol after.protocol := by
  cases step with
  | @getBufferTxToFill index buffer idle returned =>
      left
      obtain ⟨isFree, isLocked⟩ :=
        BufferTxPool.getBufferTxToFill_eq_ok returned
      have silent : Silent (before.buffers index) buffer := by
        rw [isLocked]
        exact ⟨by rw [isFree], rfl⟩
      exact before.protocol_fill silent (by rw [idle]; rfl) (by rw [idle]; rfl)
  | @getAntStreams index buffer packet acquired returned =>
      left
      obtain ⟨_, _, isAfter⟩ := BufferTx.getAntStreams_eq_ok returned
      have silent : Silent (before.buffers index) buffer := by
        rw [isAfter]
        exact ⟨rfl, rfl⟩
      exact before.protocol_fill silent (by rw [acquired]; rfl)
        (by rw [acquired]; rfl)
  | @write fill antStreams writes incomplete kept =>
      left
      have silent : Silent (before.buffers fill.buffer)
          { before.buffers fill.buffer with antStreams := antStreams } :=
        ⟨rfl, rfl⟩
      have unchanged :=
        @protocol_fill _ _ _ before _ _ silent filler
          (before.fillers filler) rfl rfl
      rw [Function.update_eq_self] at unchanged
      exact unchanged
  | @publishFilling fill buffer published filling grows written
      returned =>
      left
      have isAfter := BufferTx.setTxLengthSamplesCnt_eq_ok returned
      have silent : Silent (before.buffers fill.buffer) buffer := by
        rw [isAfter]
        exact ⟨rfl, rfl⟩
      exact before.protocol_fill silent (by rw [filling]; rfl)
        (by rw [filling]; rfl)
  | @publishStreaming fill buffer published streaming grows written
      returned =>
      left
      have isAfter := BufferTx.setTxLengthSamplesCnt_eq_ok returned
      have silent : Silent (before.buffers fill.buffer) buffer := by
        rw [isAfter]
        exact ⟨rfl, rfl⟩
      refine before.protocol_fill silent ?_ ?_
      · rw [streaming]
        exact Filler.isRaising_continue _
      · rw [streaming]
        exact Filler.isNotifying_continue _
  | @setTransmittable fill buffer filling returned =>
      right
      obtain ⟨isOuter, isAfter⟩ := BufferTx.setTransmittable_eq_ok returned
      have available : population isTransmittable
          (update before.buffers fill.buffer buffer) =
            population isTransmittable before.buffers + 1 := by
        apply population_update_true
        · unfold isTransmittable
          rw [isOuter]
        · rw [isAfter]
          rfl
      have raising : population Filler.isRaising
          (update before.fillers filler (.raising fill)) =
            population Filler.isRaising before.fillers + 1 := by
        apply population_update_true
        · rw [filling]
          rfl
        · rfl
      have notifying : population Filler.isNotifying
          (update before.fillers filler (.raising fill)) =
            population Filler.isNotifying before.fillers := by
        apply population_update_same
        rw [filling]
        rfl
      exact Protocol.Step.of_eq (Protocol.Step.offer _)
        (Protocol.ext rfl available raising notifying rfl rfl rfl)
  | @raise fill raises mutex =>
      right
      have raising : population Filler.isRaising before.fillers =
          population Filler.isRaising
            (update before.fillers filler (.notifying fill)) + 1 := by
        apply population_update_false
        · rw [raises]
          rfl
        · rfl
      have notifying : population Filler.isNotifying
          (update before.fillers filler (.notifying fill)) =
            population Filler.isNotifying before.fillers + 1 := by
        apply population_update_true
        · rw [raises]
          rfl
        · rfl
      refine Protocol.Step.of_eq (Protocol.Step.raise raising) ?_
      exact Protocol.ext rfl rfl rfl notifying rfl rfl rfl
  | @notify fill notifies =>
      right
      have raising : population Filler.isRaising
          (update before.fillers filler (.continue_ fill)) =
            population Filler.isRaising before.fillers := by
        apply population_update_same
        rw [notifies]
        exact Filler.isRaising_continue fill
      have notifying : population Filler.isNotifying before.fillers =
          population Filler.isNotifying
            (update before.fillers filler (.continue_ fill)) + 1 := by
        apply population_update_false
        · rw [notifies]
          rfl
        · exact Filler.isNotifying_continue fill
      refine Protocol.Step.of_eq
        (Protocol.Step.notify notifying before.radio.notified_awake
          before.radio.notified_reference) ?_
      refine Protocol.ext rfl rfl raising rfl ?_ rfl ?_
      · exact before.radio.notified_nofLowering
      · unfold TxSystem.protocol Wanted
        rw [before.radio.notified_target]

variable {beforeRadio radio : RadioTx nofBufferTx Sample}

/-- A thread that does not wait keeps out of what concerns the counter. -/
theorem protocol_alike
    (isBefore : before.radio = beforeRadio)
    (alike : RadioTx.Alike beforeRadio after.radio)
    (counter : after.txNewPacketCnt = before.txNewPacketCnt)
    (available :
      population isTransmittable after.buffers =
        population isTransmittable before.buffers)
    (fillers : after.fillers = before.fillers) :
    after.protocol = before.protocol := by
  subst isBefore
  refine Protocol.ext counter available ?_ ?_ alike.lowering alike.consumer ?_
  · exact congrArg (population Filler.isRaising) fillers
  · exact congrArg (population Filler.isNotifying) fillers
  · exact (not_wanted alike.awaitsAfter).trans
      (not_wanted alike.awaitsBefore).symm

/-- The radio goes on with its reference. -/
theorem protocol_resume
    (system : TxSystem nofBufferTx nofFillers Sample)
    (isBefore : system.radio = beforeRadio)
    (awake : ∀ reference, radio.consumer ≠ .sleeping reference)
    (reference : radio.consumer.reference? = beforeRadio.consumer.reference?)
    (lowering : radio.nofLowering = beforeRadio.nofLowering)
    (target : radio.target? = beforeRadio.target?) :
    Protocol.Step system.protocol
      (protocol { system with radio := radio }) := by
  subst isBefore
  refine Protocol.Step.of_eq (Protocol.Step.resume awake reference) ?_
  refine Protocol.ext rfl rfl rfl rfl lowering rfl ?_
  unfold protocol Wanted
  rw [target]

/-- The radio stops waiting. -/
theorem protocol_leave
    (system : TxSystem nofBufferTx nofFillers Sample)
    (isBefore : system.radio = beforeRadio)
    (lowering : radio.nofLowering = beforeRadio.nofLowering)
    (consumer : radio.consumer = .away) :
    Protocol.Step system.protocol
      (protocol { system with radio := radio }) := by
  subst isBefore
  exact Protocol.Step.of_eq (Protocol.Step.leave _)
    (Protocol.ext rfl rfl rfl rfl lowering consumer rfl)

variable {hw : Hw}

/-- The transmit thread follows the protocol. -/
theorem RadioStep.follows (step : RadioStep hw before after) :
    after.protocol = before.protocol ∨
      Protocol.Step before.protocol after.protocol := by
  cases step with
  | search idle found =>
      exact Or.inl (protocol_alike idle ⟨rfl, rfl, rfl, rfl⟩ rfl rfl rfl)
  | wait isUsrp idle missing =>
      exact Or.inl (protocol_alike idle ⟨rfl, rfl, rfl, rfl⟩ rfl rfl rfl)
  | lock locking =>
      right
      have settled : before.protocol.lowering = 0 := by
        change before.radio.nofLowering = 0
        rw [locking]
        rfl
      exact Protocol.Step.of_eq (Protocol.Step.first settled _)
        (Protocol.ext rfl rfl rfl rfl settled.symm rfl rfl)
  | @sleep target reference comparing same =>
      right
      have compares : before.protocol.consumer = .comparing reference := by
        change before.radio.consumer = _
        rw [comparing]
        rfl
      refine Protocol.Step.of_eq (Protocol.Step.sleep compares same) ?_
      refine Protocol.ext rfl rfl rfl rfl ?_ rfl ?_
      · change _ = before.radio.nofLowering
        rw [comparing]
        rfl
      · unfold TxSystem.protocol Wanted
        rw [comparing]
        rfl
  | look comparing changed =>
      exact Or.inr (before.protocol_resume comparing nofun rfl rfl rfl)
  | timeout sleeping => exact Or.inr (before.protocol_leave sleeping rfl rfl)
  | wakeUp sleeping =>
      exact Or.inr (before.protocol_resume sleeping nofun rfl rfl rfl)
  | relock waking =>
      exact Or.inr (before.protocol_resume waking nofun rfl rfl rfl)
  | found looking found => exact Or.inr (before.protocol_leave looking rfl rfl)
  | @missed target reference looking missing =>
      right
      have looks : before.protocol.consumer = .looking reference := by
        change before.radio.consumer = _
        rw [looking]
        rfl
      have notWanted : ¬ before.protocol.wanted := by
        rintro ⟨other, index, waits, available⟩
        rw [looking] at waits
        cases waits
        exact BufferTxPool.getSpecificTxOrderIdIfAvailable_eq_none
            missing index available
      refine Protocol.Step.of_eq (Protocol.Step.missed looks notWanted) ?_
      refine Protocol.ext rfl rfl rfl rfl ?_ rfl ?_
      · change _ = before.radio.nofLowering
        rw [looking]
        rfl
      · unfold TxSystem.protocol Wanted
        rw [looking]
        rfl
  | start starting =>
      exact Or.inl (protocol_alike starting ⟨rfl, rfl, rfl, rfl⟩ rfl rfl rfl)
  | send count sending waited returned =>
      exact Or.inl (protocol_alike sending ⟨rfl, rfl, rfl, rfl⟩ rfl rfl rfl)
  | lookAhead isUsrp sending remaining inOrder =>
      exact Or.inl (protocol_alike sending ⟨rfl, rfl, rfl, rfl⟩ rfl rfl rfl)
  | endOfBurst isUsrp sending =>
      exact Or.inl (protocol_alike sending ⟨rfl, rfl, rfl, rfl⟩ rfl rfl rfl)
  | reset sending complete returned =>
      left
      obtain ⟨sameLock, _, _⟩ := BufferTx.reset_eq_ok returned
      refine protocol_alike sending ⟨rfl, rfl, rfl, rfl⟩ rfl ?_ rfl
      apply population_update_same
      unfold isTransmittable
      rw [sameLock]
  | @unlockInner buffer length next after unlocking returned =>
      right
      obtain ⟨isBoth, isAfter⟩ := BufferTx.unlockInner_eq_ok returned
      have isAway : before.protocol.consumer = .away := by
        change before.radio.consumer = _
        rw [unlocking]
        rfl
      have available : population isTransmittable before.buffers =
          population isTransmittable
            (update before.buffers buffer after) + 1 := by
        apply population_update_false
        · unfold isTransmittable
          rw [isBoth]
        · rw [isAfter]
          rfl
      refine Protocol.Step.of_eq (Protocol.Step.take isAway available _)
        (Protocol.ext rfl rfl rfl rfl ?_ ?_ rfl)
      · change 1 = before.radio.nofLowering + 1
        rw [unlocking]
        rfl
      · exact isAway.symm
  | unlockOuter unlocking returned =>
      left
      obtain ⟨isOuter, isAfter⟩ := BufferTx.unlockOuter_eq_ok returned
      refine protocol_alike unlocking ⟨rfl, rfl, rfl, rfl⟩ rfl ?_ rfl
      apply population_update_same
      unfold isTransmittable
      rw [isOuter, isAfter]
  | @lower buffer length next lowering =>
      right
      have isAway : before.protocol.consumer = .away := by
        change before.radio.consumer = _
        rw [lowering]
        rfl
      have one : before.protocol.lowering = 0 + 1 := by
        change before.radio.nofLowering = _
        rw [lowering]
        rfl
      obtain ⟨lowered, away⟩ :=
        @RadioTx.released_away _ Sample hw buffer length next
      exact Protocol.Step.of_eq (Protocol.Step.lower isAway one _)
        (Protocol.ext rfl rfl rfl rfl lowered (away.trans isAway.symm) rfl)
  | readLate reading negative =>
      exact Or.inl (protocol_alike reading ⟨rfl, rfl, rfl, rfl⟩ rfl rfl rfl)
  | readFirst reading given =>
      exact Or.inl (protocol_alike reading ⟨rfl, rfl, rfl, rfl⟩ rfl rfl rfl)
  | readAgain reading =>
      exact Or.inl (protocol_alike reading ⟨rfl, rfl, rfl, rfl⟩ rfl rfl rfl)
  | leave behind =>
      exact Or.inl (protocol_alike behind ⟨rfl, rfl, rfl, rfl⟩ rfl rfl rfl)
  | follow behind found =>
      exact Or.inl (protocol_alike behind ⟨rfl, rfl, rfl, rfl⟩ rfl rfl rfl)
  | skip behind found longer =>
      exact Or.inl (protocol_alike behind ⟨rfl, rfl, rfl, rfl⟩ rfl rfl rfl)

/-- Every step of any thread follows the protocol. -/
theorem Step.follows (step : Step hw before after) :
    after.protocol = before.protocol ∨
      Protocol.Step before.protocol after.protocol := by
  cases step with
  | filler filler step => exact step.follows
  | radio step => exact step.follows

/-- There are at most as many items and producers as buffers and threads. -/
theorem protocol_bounded (system : TxSystem nofBufferTx nofFillers Sample) :
    system.protocol.Bounded nofBufferTx nofFillers where
  available := (population_le _ _).trans_eq (Fintype.card_fin _)
  raising := (population_le _ _).trans_eq (Fintype.card_fin _)
  notifying := (population_le _ _).trans_eq (Fintype.card_fin _)

theorem initial_counter
    (nofBufferTx nofFillers : Nat)
    (antStreamsLengthSamples : Nat)
    (antStreams : Fin nofBufferTx → Nat → Sample) :
    Protocol.Invariant nofFillers
      (protocol
        (initial nofBufferTx nofFillers antStreamsLengthSamples
          antStreams)) := by
  have available : population isTransmittable (fun index =>
      BufferTx.new antStreamsLengthSamples (antStreams index)) = 0 :=
    population_eq_zero fun _ => rfl
  have raising : population Filler.isRaising
      (fun _ : Fin nofFillers => (.idle : Filler nofBufferTx Sample)) = 0 :=
    population_eq_zero fun _ => rfl
  exact Protocol.Invariant.start nofFillers rfl available raising rfl rfl

/-- The counter tells the truth in every reachable state. -/
theorem Reachable.counter (reachable : system.Reachable hw) :
    system.protocol.Invariant nofFillers := by
  obtain ⟨antStreamsLengthSamples, antStreams, run⟩ := reachable
  induction run with
  | refl =>
      exact initial_counter nofBufferTx nofFillers
        antStreamsLengthSamples antStreams
  | tail _ step hypothesis =>
      rcases step.follows with same | follows
      · rw [same]
        exact hypothesis
      · exact follows.invariant (protocol_bounded _).raising hypothesis

/-- A thread is about to wake up the radio, which then finds the counter changed. -/
def WakesUp
    (system : TxSystem nofBufferTx nofFillers Sample)
    (reference : UInt32) :
    Prop :=
  (∃ filler fill,
      system.fillers filler = .raising fill ∧
        system.txNewPacketCnt + 1 ≠ reference) ∨
    ∃ filler fill,
      system.fillers filler = .notifying fill ∧
        system.txNewPacketCnt ≠ reference

variable {filler : Filler nofBufferTx Sample}

theorem Filler.exists_of_isRaising (raises : filler.isRaising = true) :
    ∃ fill, filler = .raising fill := by
  cases filler with
  | raising fill => exact ⟨fill, rfl⟩
  | _ => cases raises

theorem Filler.exists_of_isNotifying (notifies : filler.isNotifying = true) :
    ∃ fill, filler = .notifying fill := by
  cases filler with
  | notifying fill => exact ⟨fill, rfl⟩
  | _ => cases notifies

/-- No wake-up of the radio is lost. -/
theorem Reachable.wakesUp
    (reachable : system.Reachable hw)
    (few : nofBufferTx + nofFillers < 2 ^ 32)
    {target : Int}
    {reference : UInt32}
    (sleeping : system.radio = .sleeping target reference)
    {index : Fin nofBufferTx}
    (available : system.buffers.Available target index) :
    system.WakesUp reference := by
  have sleeps : system.protocol.consumer = .sleeping reference := by
    change system.radio.consumer = _
    rw [sleeping]
    rfl
  have wanted : system.protocol.wanted := by
    refine ⟨target, index, ?_, available⟩
    rw [sleeping]
    rfl
  have present : system.protocol.wanted → 0 < system.protocol.available := by
    rintro ⟨_, other, _, isLocked, _⟩
    have transmittable : isTransmittable (system.buffers other) = true :=
      isLocked
    exact population_pos transmittable
  rcases reachable.counter.rings system.protocol_bounded few present
      sleeps wanted with ⟨some_, changes⟩ | ⟨some_, changed⟩
  · have raisers : 0 < population Filler.isRaising system.fillers := some_
    obtain ⟨filler, raises⟩ := exists_of_population_pos raisers
    obtain ⟨fill, isRaising⟩ := Filler.exists_of_isRaising raises
    exact Or.inl ⟨filler, fill, isRaising, changes⟩
  · have notifiers :
        0 < population Filler.isNotifying system.fillers :=
      some_
    obtain ⟨filler, notifies⟩ := exists_of_population_pos notifiers
    obtain ⟨fill, isNotifying⟩ := Filler.exists_of_isNotifying notifies
    exact Or.inr ⟨filler, fill, isNotifying, changed⟩

end TxSystem

end Radio

end DectNrp
