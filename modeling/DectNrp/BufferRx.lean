import DectNrp.PhysicalResources
import Mathlib.Tactic.Linarith

namespace DectNrp

/-!
# Receive buffer of the radio

The hardware writes new samples at pointers into a ring buffer and reports them
afterwards.  The memory is longer than the ring by the largest number of new
samples, and what was written beyond the end of the ring is copied to its front
with the report.

One sample stands for the samples of all antennas at the same time.
-/

namespace Radio

/--
Length of the ring and largest number of new samples.  A ring has at most 240
slots of 1/2400 s, so its indices fit 32 bits.
-/
structure BufferRxConfig where
  antStreamsLengthSamples : Nat
  nofNewSamplesMax : Nat
  positive : 0 < antStreamsLengthSamples
  large : nofNewSamplesMax * 8 ≤ antStreamsLengthSamples

/-- The buffer, and the index at which the hardware writes next. -/
structure BufferRx (Sample : Type) where
  antStreams : Nat → Sample
  timeAsSampleCnt64 : Int
  rxPrestream64 : Int
  rxTimePassed64 : Int
  antStreamsNext : Nat

/-- What the hardware reports. -/
structure RxReport (Sample : Type) where
  timeOfFirstSample64 : Int
  samples : List Sample

namespace BufferRx

variable {Sample : Type}

/-- An empty buffer at time zero. -/
def new (zero : Sample) (rxPrestream64 : Int) : BufferRx Sample where
  antStreams := fun _ => zero
  timeAsSampleCnt64 := 0
  rxPrestream64 := rxPrestream64
  rxTimePassed64 := 0
  antStreamsNext := 0

/-- Largest difference between the two times that is accepted. -/
def acceptableJitterRange64 : Int := 1

/-- The hardware writes samples at the pointers. -/
def write
    (buffer : BufferRx Sample)
    (samples : List Sample) :
    BufferRx Sample :=
  { buffer with
    antStreams := fun index =>
      if buffer.antStreamsNext ≤ index then
        samples[index - buffer.antStreamsNext]?.getD
          (buffer.antStreams index)
      else
        buffer.antStreams index }

/-- Copy what was written beyond the ring to its front. -/
def wrap
    (config : BufferRxConfig)
    (buffer : BufferRx Sample)
    (index nofNewSamples : Nat) :
    BufferRx Sample :=
  if config.antStreamsLengthSamples < index + nofNewSamples then
    let nofSamplesToWrap :=
      index + nofNewSamples - config.antStreamsLengthSamples
    { buffer with
      antStreams := fun index =>
        if index < nofSamplesToWrap then
          buffer.antStreams (config.antStreamsLengthSamples + index)
        else
          buffer.antStreams index }
  else
    buffer

/-- Index of a time in the ring.  Times are not negative here. -/
def slot (config : BufferRxConfig) (time : Int) : Nat :=
  (time % config.antStreamsLengthSamples).toNat

/-- Account for new samples, and find where the next ones are written. -/
def getAntStreamsNext
    (config : BufferRxConfig)
    (buffer : BufferRx Sample)
    (timeOfFirstSample64 : Int)
    (nofNewSamples : Nat) :
    Checked (BufferRx Sample) := do
  dectnrpAssert (nofNewSamples ≤ config.nofNewSamplesMax)
    "Number of newly written samples larger maximum."
  let timeError := buffer.timeAsSampleCnt64 - timeOfFirstSample64
  let buffer ←
    if timeError < -acceptableJitterRange64 ∨
        acceptableJitterRange64 < timeError then do
      dectnrpAssert (0 ≤ buffer.timeAsSampleCnt64) "time error"
      pure { buffer with timeAsSampleCnt64 := timeOfFirstSample64 }
    else
      pure buffer
  let buffer :=
    buffer.wrap config (slot config buffer.timeAsSampleCnt64)
      nofNewSamples
  let timeAsSampleCnt64 := buffer.timeAsSampleCnt64 + nofNewSamples
  let rxPrestream64 := buffer.rxPrestream64 - nofNewSamples
  pure
    { buffer with
      timeAsSampleCnt64 := timeAsSampleCnt64
      antStreamsNext := slot config timeAsSampleCnt64
      rxPrestream64 := rxPrestream64
      rxTimePassed64 :=
        if 0 ≤ rxPrestream64 then
          buffer.rxTimePassed64
        else
          timeAsSampleCnt64 }

/-- The hardware writes samples and reports them. -/
def receive
    (config : BufferRxConfig)
    (buffer : BufferRx Sample)
    (report : RxReport Sample) :
    Checked (BufferRx Sample) :=
  (buffer.write report.samples).getAntStreamsNext config
    report.timeOfFirstSample64 report.samples.length

/-- The reported time is that of the buffer, up to the jitter. -/
def Steady (buffer : BufferRx Sample) (report : RxReport Sample) : Prop :=
  -acceptableJitterRange64 ≤
      buffer.timeAsSampleCnt64 - report.timeOfFirstSample64 ∧
    buffer.timeAsSampleCnt64 - report.timeOfFirstSample64 ≤
      acceptableJitterRange64

/-- The reported time is further ahead than the jitter allows. -/
def Jumps (buffer : BufferRx Sample) (report : RxReport Sample) : Prop :=
  buffer.timeAsSampleCnt64 + acceptableJitterRange64 <
    report.timeOfFirstSample64

/--
Runs of the buffer.  The samples that were received since the start or since
the report with the last jump have consecutive times from a base on.
-/
inductive Receives
    (config : BufferRxConfig)
    (zero : Sample)
    (rxPrestream64 : Int) :
    BufferRx Sample → Int → List Sample → Prop where
  | start :
      Receives config zero rxPrestream64 (new zero rxPrestream64) 0 []
  | steady
      {buffer after : BufferRx Sample}
      {base : Int}
      {received : List Sample}
      {report : RxReport Sample}
      (run : Receives config zero rxPrestream64 buffer base received)
      (isSteady : buffer.Steady report)
      (returned : buffer.receive config report = .ok after) :
      Receives config zero rxPrestream64 after base
        (received ++ report.samples)
  | jump
      {buffer after : BufferRx Sample}
      {base : Int}
      {received : List Sample}
      {report : RxReport Sample}
      (run : Receives config zero rxPrestream64 buffer base received)
      (jumps : buffer.Jumps report)
      (returned : buffer.receive config report = .ok after) :
      Receives config zero rxPrestream64 after after.timeAsSampleCnt64 []

section Slots

variable {config : BufferRxConfig} {time : Int} {distance : Nat}

theorem slot_lt
    (config : BufferRxConfig)
    (time : Int) :
    slot config time < config.antStreamsLengthSamples := by
  have positive : (0 : Int) < config.antStreamsLengthSamples :=
    Int.ofNat_lt.mpr config.positive
  have below := Int.emod_lt_of_pos time positive
  have notNegative := Int.emod_nonneg time positive.ne'
  unfold slot
  omega

theorem slot_decompose
    (config : BufferRxConfig)
    (time : Int) :
    ∃ turns : Int,
      time = config.antStreamsLengthSamples * turns + slot config time := by
  have positive : (0 : Int) < config.antStreamsLengthSamples :=
    Int.ofNat_lt.mpr config.positive
  refine ⟨time / config.antStreamsLengthSamples, ?_⟩
  unfold slot
  rw [Int.toNat_of_nonneg (Int.emod_nonneg time positive.ne')]
  exact (Int.mul_ediv_add_emod _ _).symm

/-- A number below the length of the ring is the slot of its times. -/
theorem slot_eq
    {index : Nat}
    (inside : index < config.antStreamsLengthSamples)
    (turns : Int) :
    slot config (config.antStreamsLengthSamples * turns + index) = index := by
  unfold slot
  rw [Int.mul_add_emod_self_left,
    Int.emod_eq_of_lt (Int.natCast_nonneg _) (Int.ofNat_lt.mpr inside)]
  rfl

/-- Slot of a later time. -/
theorem slot_add (near : distance ≤ config.antStreamsLengthSamples) :
    slot config (time + distance) =
      if slot config time + distance < config.antStreamsLengthSamples then
        slot config time + distance
      else slot config time + distance - config.antStreamsLengthSamples := by
  obtain ⟨turns, isTime⟩ := slot_decompose config time
  have inside := slot_lt config time
  generalize slot config time = index at *
  by_cases wraps : index + distance < config.antStreamsLengthSamples
  · rw [if_pos wraps]
    have later : time + distance = config.antStreamsLengthSamples * turns +
        ((index + distance : Nat) : Int) := by
      rw [isTime]
      push_cast
      ring
    rw [later, slot_eq wraps]
  · rw [if_neg wraps]
    have once : index + distance - config.antStreamsLengthSamples <
        config.antStreamsLengthSamples := by
      omega
    have later : time + distance =
        config.antStreamsLengthSamples * (turns + 1) +
          ((index + distance - config.antStreamsLengthSamples : Nat) :
            Int) := by
      rw [isTime, Nat.cast_sub (Nat.not_lt.mp wraps)]
      push_cast
      ring
    rw [later, slot_eq once]

/-- Slot of an earlier time. -/
theorem slot_sub (near : distance ≤ config.antStreamsLengthSamples) :
    slot config (time - distance) =
      if distance ≤ slot config time then slot config time - distance
      else slot config time + config.antStreamsLengthSamples - distance := by
  have whole := @slot_add config (time - distance) distance near
  have inside := slot_lt config (time - distance)
  rw [Int.sub_add_cancel] at whole
  generalize slot config (time - distance) = index at *
  by_cases wraps : index + distance < config.antStreamsLengthSamples
  · rw [if_pos wraps] at whole
    rw [whole, if_pos (Nat.le_add_left _ _), Nat.add_sub_cancel]
  · rw [if_neg wraps] at whole
    rw [whole, if_neg (by omega)]
    omega

end Slots

section Report

variable
  {config : BufferRxConfig}
  {buffer after : BufferRx Sample}
  {report : RxReport Sample}
  {samples : List Sample}

section Wrap

variable {index nofNewSamples : Nat}

/-- Copying changes nothing but the samples. -/
@[simp] theorem wrap_timeAsSampleCnt64 :
    (buffer.wrap config index nofNewSamples).timeAsSampleCnt64 =
      buffer.timeAsSampleCnt64 := by
  unfold wrap
  split <;> rfl

@[simp] theorem wrap_rxPrestream64 :
    (buffer.wrap config index nofNewSamples).rxPrestream64 =
      buffer.rxPrestream64 := by
  unfold wrap
  split <;> rfl

@[simp] theorem wrap_rxTimePassed64 :
    (buffer.wrap config index nofNewSamples).rxTimePassed64 =
      buffer.rxTimePassed64 := by
  unfold wrap
  split <;> rfl

theorem wrap_antStreams :
    (buffer.wrap config index nofNewSamples).antStreams =
      if config.antStreamsLengthSamples < index + nofNewSamples then
        fun slot =>
          if slot < index + nofNewSamples - config.antStreamsLengthSamples then
            buffer.antStreams (config.antStreamsLengthSamples + slot)
          else buffer.antStreams slot
      else buffer.antStreams := by
  unfold wrap
  split <;> rfl

end Wrap

/-- A sample that is not further back than the ring allows stays. -/
theorem write_old
    (isNext : buffer.antStreamsNext = slot config buffer.timeAsSampleCnt64)
    {distance : Nat}
    (isBefore : 0 < distance)
    (near : distance + samples.length ≤ config.antStreamsLengthSamples) :
    (buffer.write samples).antStreams
        (slot config (buffer.timeAsSampleCnt64 - distance)) =
      buffer.antStreams
        (slot config (buffer.timeAsSampleCnt64 - distance)) := by
  have inside := slot_lt config buffer.timeAsSampleCnt64
  rw [slot_sub (by omega)]
  unfold write
  rw [isNext]
  by_cases behind : distance ≤ slot config buffer.timeAsSampleCnt64
  · rw [if_pos behind]
    exact if_neg (by omega)
  · rw [if_neg behind]
    dsimp only
    rw [if_pos (by omega), List.getElem?_eq_none (by omega)]
    rfl

theorem wrap_old
    (time : Int)
    {distance nofNewSamples : Nat}
    (near : distance + nofNewSamples ≤ config.antStreamsLengthSamples) :
    (buffer.wrap config (slot config time) nofNewSamples).antStreams
        (slot config (time - distance)) =
      buffer.antStreams (slot config (time - distance)) := by
  have inside := slot_lt config time
  unfold wrap
  by_cases spills :
      config.antStreamsLengthSamples < slot config time + nofNewSamples
  · rw [if_pos spills, slot_sub (by omega)]
    by_cases behind : distance ≤ slot config time
    · rw [if_pos behind]
      exact if_neg (by omega)
    · rw [if_neg behind]
      exact if_neg (by omega)
  · rw [if_neg spills]

theorem wrap_write_new
    (isNext : buffer.antStreamsNext = slot config buffer.timeAsSampleCnt64)
    {offset : Nat}
    {sample : Sample}
    (isSample : samples[offset]? = some sample)
    (fits : samples.length ≤ config.antStreamsLengthSamples) :
    ((buffer.write samples).wrap config
        (slot config buffer.timeAsSampleCnt64) samples.length).antStreams
        (slot config (buffer.timeAsSampleCnt64 + offset)) =
      sample := by
  obtain ⟨isNew, -⟩ := List.getElem?_eq_some_iff.mp isSample
  have inside := slot_lt config buffer.timeAsSampleCnt64
  have written : (buffer.write samples).antStreams
      (slot config buffer.timeAsSampleCnt64 + offset) = sample := by
    unfold write
    rw [isNext]
    dsimp only
    rw [if_pos (Nat.le_add_right _ _), Nat.add_sub_cancel_left, isSample]
    rfl
  rw [slot_add (by omega)]
  unfold wrap
  by_cases beyond : slot config buffer.timeAsSampleCnt64 + offset <
      config.antStreamsLengthSamples
  · rw [if_pos beyond]
    by_cases spills : config.antStreamsLengthSamples <
        slot config buffer.timeAsSampleCnt64 + samples.length
    · rw [if_pos spills]
      dsimp only
      rw [if_neg (by omega), written]
    · rw [if_neg spills, written]
  · rw [if_neg beyond, if_pos (by omega)]
    dsimp only
    rw [if_pos (by omega), Nat.add_sub_cancel' (Nat.not_lt.mp beyond), written]

/-- Time of the first sample of a report. -/
def firstTime (buffer : BufferRx Sample) (report : RxReport Sample) : Int :=
  if buffer.timeAsSampleCnt64 - report.timeOfFirstSample64 <
      -acceptableJitterRange64 ∨
      acceptableJitterRange64 <
        buffer.timeAsSampleCnt64 - report.timeOfFirstSample64 then
    report.timeOfFirstSample64
  else
    buffer.timeAsSampleCnt64

theorem firstTime_of_steady (isSteady : buffer.Steady report) :
    buffer.firstTime report = buffer.timeAsSampleCnt64 := by
  obtain ⟨notAhead, notBehind⟩ := isSteady
  refine if_neg ?_
  rintro (ahead | behind)
  · exact absurd ahead (Int.not_lt.mpr notAhead)
  · exact absurd behind (Int.not_lt.mpr notBehind)

theorem firstTime_of_jumps (jumps : buffer.Jumps report) :
    buffer.firstTime report = report.timeOfFirstSample64 := by
  unfold Jumps at jumps
  exact if_pos (Or.inl (by omega))

/-- The buffer after a report with the given time of its first sample. -/
def accounted
    (config : BufferRxConfig)
    (buffer : BufferRx Sample)
    (time : Int)
    (nofNewSamples : Nat) :
    BufferRx Sample :=
  { buffer.wrap config (slot config time) nofNewSamples with
    timeAsSampleCnt64 := time + nofNewSamples
    antStreamsNext := slot config (time + nofNewSamples)
    rxPrestream64 := buffer.rxPrestream64 - nofNewSamples
    rxTimePassed64 :=
      if 0 ≤ buffer.rxPrestream64 - nofNewSamples then
        buffer.rxTimePassed64
      else
        time + nofNewSamples }

/-- A report that is not too long is accepted. -/
theorem receive_eq
    (isShort : report.samples.length ≤ config.nofNewSamplesMax)
    (notNegative : 0 ≤ buffer.timeAsSampleCnt64) :
    buffer.receive config report =
      .ok ((buffer.write report.samples).accounted config
        (buffer.firstTime report) report.samples.length) := by
  unfold receive getAntStreamsNext accounted firstTime
  by_cases isOutside : buffer.timeAsSampleCnt64 - report.timeOfFirstSample64 <
      -acceptableJitterRange64 ∨ acceptableJitterRange64 <
          buffer.timeAsSampleCnt64 - report.timeOfFirstSample64
  · simp only [write, isShort, isOutside, notNegative, decide_true,
      dectnrpAssert_true, if_true, Bind.bind, Except.bind, Pure.pure,
      Except.pure, wrap_timeAsSampleCnt64, wrap_rxPrestream64,
      wrap_rxTimePassed64, wrap_antStreams]
  · simp only [write, isShort, isOutside, decide_true, dectnrpAssert_true,
      if_false, Bind.bind, Except.bind, Pure.pure, Except.pure,
      wrap_timeAsSampleCnt64, wrap_rxPrestream64, wrap_rxTimePassed64]

/-- A report that is too long is not. -/
theorem isShort_of_receive
    (returned : buffer.receive config report = .ok after) :
    report.samples.length ≤ config.nofNewSamplesMax := by
  by_contra isLong
  unfold receive getAntStreamsNext at returned
  simp only [isLong, decide_false, dectnrpAssert_false] at returned
  cases returned

end Report

section Runs

variable
  {config : BufferRxConfig}
  {zero : Sample}
  {rxPrestream64 base : Int}
  {buffer after : BufferRx Sample}
  {received samples : List Sample}
  {report : RxReport Sample}

/--
The ring ends with the samples received from the base on, and the next sample
is written at the slot of its time.
-/
structure Holds
    (config : BufferRxConfig)
    (buffer : BufferRx Sample)
    (base : Int)
    (received : List Sample) : Prop where
  baseNotNegative : 0 ≤ base
  timeIs : buffer.timeAsSampleCnt64 = base + received.length
  isNext : buffer.antStreamsNext = slot config buffer.timeAsSampleCnt64
  recent :
    ∀ distance : Nat,
      0 < distance →
      distance ≤ received.length →
      distance ≤ config.antStreamsLengthSamples →
      received[received.length - distance]? =
        some (buffer.antStreams
          (slot config (buffer.timeAsSampleCnt64 - distance)))
  notAhead : buffer.rxTimePassed64 ≤ buffer.timeAsSampleCnt64
  streaming :
    buffer.rxPrestream64 < 0 →
      buffer.rxTimePassed64 = buffer.timeAsSampleCnt64

namespace Holds

theorem notNegative (holds : Holds config buffer base received) :
    0 ≤ buffer.timeAsSampleCnt64 := by
  have timeIs := holds.timeIs
  have baseNotNegative := holds.baseNotNegative
  omega

/-- The published time after a report. -/
theorem accounted_rxTimePassed64
    (holds : Holds config buffer base received)
    {time : Int}
    (isLater : buffer.timeAsSampleCnt64 ≤ time)
    (samples : List Sample) :
    let after := (buffer.write samples).accounted config time samples.length
    buffer.rxTimePassed64 ≤ after.rxTimePassed64 ∧
      after.rxTimePassed64 ≤ after.timeAsSampleCnt64 ∧
      (after.rxPrestream64 < 0 →
        after.rxTimePassed64 = after.timeAsSampleCnt64) := by
  have notAhead := holds.notAhead
  unfold accounted write
  dsimp only
  by_cases prestream : 0 ≤ buffer.rxPrestream64 - samples.length
  · rw [if_pos prestream]
    refine ⟨le_rfl, by omega, ?_⟩
    intro isOver
    exact absurd prestream (Int.not_le.mpr isOver)
  · rw [if_neg prestream]
    exact ⟨by omega, le_rfl, fun _ => rfl⟩

/-- A steady report appends its samples. -/
theorem steady
    (holds : Holds config buffer base received)
    (isShort : samples.length ≤ config.nofNewSamplesMax) :
    Holds config
      ((buffer.write samples).accounted config buffer.timeAsSampleCnt64
        samples.length)
      base (received ++ samples) := by
  obtain ⟨-, notAhead, streaming⟩ :=
    holds.accounted_rxTimePassed64 le_rfl samples
  refine ⟨holds.baseNotNegative, ?_, rfl, ?_, notAhead, streaming⟩
  · change buffer.timeAsSampleCnt64 + samples.length = _
    rw [holds.timeIs, List.length_append]
    push_cast
    ring
  · intro distance isBefore inReceived inside
    change _ = some (((buffer.write samples).wrap config
      (slot config buffer.timeAsSampleCnt64) samples.length).antStreams
        (slot config (buffer.timeAsSampleCnt64 + samples.length - distance)))
    have large := config.large
    rw [List.length_append] at inReceived ⊢
    by_cases isNew : distance ≤ samples.length
    · -- the sample came with this report
      have isLater : buffer.timeAsSampleCnt64 + samples.length - distance =
          buffer.timeAsSampleCnt64 +
            ((samples.length - distance : Nat) : Int) := by
        omega
      have offset : received.length + samples.length - distance -
          received.length = samples.length - distance := by
        omega
      rw [List.getElem?_append_right (by omega), offset]
      obtain ⟨sample, isSample⟩ :
          ∃ sample, samples[samples.length - distance]? = some sample :=
        ⟨_, List.getElem?_eq_getElem (by omega)⟩
      rw [isSample, isLater, wrap_write_new holds.isNext isSample (by omega)]
    · -- the sample is older and keeps its slot
      obtain ⟨older, rfl⟩ := Nat.exists_eq_add_of_lt (Nat.not_le.mp isNew)
      have isEarlier : buffer.timeAsSampleCnt64 + samples.length -
          ((samples.length + older + 1 : Nat) : Int) =
            buffer.timeAsSampleCnt64 - ((older + 1 : Nat) : Int) := by
        push_cast
        ring
      have offset : received.length + samples.length -
          (samples.length + older + 1) = received.length - (older + 1) := by
        omega
      rw [isEarlier, wrap_old _ (by omega),
        write_old holds.isNext (Nat.succ_pos older) (by omega), offset,
        List.getElem?_append_left (by omega)]
      exact holds.recent (older + 1) (Nat.succ_pos older) (by omega) (by omega)

/-- After a report with a jump the ring starts anew. -/
theorem jump
    (holds : Holds config buffer base received)
    {time : Int}
    (isLater : buffer.timeAsSampleCnt64 ≤ time)
    (samples : List Sample) :
    Holds config
      ((buffer.write samples).accounted config time samples.length)
      (time + samples.length) [] := by
  obtain ⟨-, notAhead, streaming⟩ :=
    holds.accounted_rxTimePassed64 isLater samples
  have notNegative := holds.notNegative
  refine ⟨by omega, ?_, rfl, ?_, notAhead, streaming⟩
  · change time + samples.length = _
    rw [List.length_nil, Nat.cast_zero, add_zero]
  · intro distance isBefore inReceived
    exact absurd isBefore (Nat.not_lt.mpr inReceived)

end Holds

/-- The time of the first sample never lies behind the internal time. -/
theorem le_firstTime (accepted : buffer.Steady report ∨ buffer.Jumps report) :
    buffer.timeAsSampleCnt64 ≤ buffer.firstTime report := by
  rcases accepted with isSteady | jumps
  · rw [firstTime_of_steady isSteady]
  · rw [firstTime_of_jumps jumps]
    unfold Jumps acceptableJitterRange64 at jumps
    omega

/-- A steady report is appended, and the published time does not decrease. -/
theorem Holds.afterSteady
    (holds : Holds config buffer base received)
    (isSteady : buffer.Steady report)
    (returned : buffer.receive config report = .ok after) :
    Holds config after base (received ++ report.samples) ∧
      after.timeAsSampleCnt64 =
        buffer.timeAsSampleCnt64 + report.samples.length ∧
      buffer.rxTimePassed64 ≤ after.rxTimePassed64 := by
  have isShort := isShort_of_receive returned
  rw [receive_eq isShort holds.notNegative,
    firstTime_of_steady isSteady] at returned
  cases returned
  exact ⟨holds.steady isShort, rfl,
      (holds.accounted_rxTimePassed64 le_rfl report.samples).1⟩

/-- After a jump nothing is known of the ring, and no time decreases. -/
theorem Holds.afterJump
    (holds : Holds config buffer base received)
    (jumps : buffer.Jumps report)
    (returned : buffer.receive config report = .ok after) :
    Holds config after after.timeAsSampleCnt64 [] ∧
      buffer.timeAsSampleCnt64 ≤ after.timeAsSampleCnt64 ∧
      buffer.rxTimePassed64 ≤ after.rxTimePassed64 := by
  have isLater := le_firstTime (Or.inr jumps)
  rw [receive_eq (isShort_of_receive returned) holds.notNegative] at returned
  cases returned
  refine ⟨holds.jump isLater report.samples, ?_,
      (holds.accounted_rxTimePassed64 isLater report.samples).1⟩
  dsimp only [accounted]
  omega

/-- Every run keeps the latest samples in the ring. -/
theorem Receives.holds
    (run : Receives config zero rxPrestream64 buffer base received) :
    Holds config buffer base received := by
  induction run with
  | start =>
      refine ⟨le_rfl, rfl, ?_, ?_, le_rfl, fun _ => rfl⟩
      · change 0 = slot config 0
        unfold slot
        rw [Int.zero_emod]
        rfl
      · intro distance isBefore inReceived
        exact absurd isBefore (Nat.not_lt.mpr inReceived)
  | steady _ isSteady returned hypothesis =>
      exact (hypothesis.afterSteady isSteady returned).1
  | jump _ jumps returned hypothesis =>
      exact (hypothesis.afterJump jumps returned).1

/-- Samples that are not about to be overwritten are at the slots of their times. -/
theorem Holds.inRing
    (holds : Holds config buffer base received)
    {time : Int}
    (notBefore : base ≤ time)
    (recent :
      buffer.timeAsSampleCnt64 - config.antStreamsLengthSamples +
          config.nofNewSamplesMax ≤ time)
    (isPast : time < buffer.timeAsSampleCnt64) :
    received[(time - base).toNat]? =
        some (buffer.antStreams (slot config time)) ∧
      ∀ samples : List Sample,
        samples.length ≤ config.nofNewSamplesMax →
        (buffer.write samples).antStreams (slot config time) =
          buffer.antStreams (slot config time) := by
  obtain ⟨distance, isDistance⟩ :
      ∃ distance : Nat, buffer.timeAsSampleCnt64 - time = distance :=
    Int.eq_ofNat_of_zero_le (by omega)
  have timeIs := holds.timeIs
  obtain rfl : time = buffer.timeAsSampleCnt64 - distance := by omega
  have isIndex : (buffer.timeAsSampleCnt64 - distance - base).toNat =
      received.length - distance := by
    omega
  refine ⟨?_, ?_⟩
  · rw [isIndex]
    exact holds.recent distance (by omega) (by omega) (by omega)
  · intro samples isShort
    exact write_old holds.isNext (by omega) (by omega)

/--
The ring holds the latest samples, also while the hardware writes the next
ones, for which there is room.  The published time is the internal one after
the first samples, and the next report neither fails nor decreases it.
-/
theorem receives_recent
    (run : Receives config zero rxPrestream64 buffer base received) :
    buffer.timeAsSampleCnt64 = base + received.length ∧
      (∀ time,
        base ≤ time →
        buffer.timeAsSampleCnt64 - config.antStreamsLengthSamples +
            config.nofNewSamplesMax ≤ time →
        time < buffer.timeAsSampleCnt64 →
        received[(time - base).toNat]? =
            some (buffer.antStreams (slot config time)) ∧
          ∀ samples : List Sample,
            samples.length ≤ config.nofNewSamplesMax →
            (buffer.write samples).antStreams (slot config time) =
              buffer.antStreams (slot config time)) ∧
      buffer.antStreamsNext = slot config buffer.timeAsSampleCnt64 ∧
      buffer.antStreamsNext + config.nofNewSamplesMax ≤
        config.antStreamsLengthSamples + config.nofNewSamplesMax ∧
      (buffer.rxPrestream64 < 0 →
        buffer.rxTimePassed64 = buffer.timeAsSampleCnt64) ∧
      ∀ report : RxReport Sample,
        report.samples.length ≤ config.nofNewSamplesMax →
        buffer.Steady report ∨ buffer.Jumps report →
        ∃ after,
          buffer.receive config report = .ok after ∧
            buffer.rxTimePassed64 ≤ after.rxTimePassed64 := by
  have holds := run.holds
  refine ⟨holds.timeIs, ?_, holds.isNext, ?_, holds.streaming, ?_⟩
  · intro time notBefore recent isPast
    exact holds.inRing notBefore recent isPast
  · have inside := slot_lt config buffer.timeAsSampleCnt64
    rw [holds.isNext]
    exact Nat.add_le_add_right inside.le _
  · intro report isShort accepted
    refine ⟨_, receive_eq isShort holds.notNegative, ?_⟩
    exact (holds.accounted_rxTimePassed64 (le_firstTime accepted)
      report.samples).1

/-- After a jump, samples are read behind the end of the ring. -/
theorem receives_recent_jumpAndWrap :
    let config : BufferRxConfig := ⟨16, 2, by decide, by decide⟩
    ∃ first second after,
      (new 0 0).receive config ⟨0, [7, 8]⟩ = .ok first ∧
        first.receive config ⟨15, [9]⟩ = .ok second ∧
        second.receive config ⟨16, [5, 6]⟩ = .ok after ∧
        after.antStreams (slot config 17) = 6 := by
  intro config
  refine ⟨_, _, _, rfl, rfl, rfl, ?_⟩
  have first :=
    @Receives.steady Nat config 0 0 _ _ _ _ ⟨0, [7, 8]⟩ .start
      ⟨by decide, by decide⟩ rfl
  have second :=
    @Receives.jump Nat config 0 0 _ _ _ _ ⟨15, [9]⟩ first
      (show (2 : Int) + 1 < 15 by decide) rfl
  have run :=
    @Receives.steady Nat config 0 0 _ _ _ _ ⟨16, [5, 6]⟩ second
      ⟨by decide, by decide⟩ rfl
  have recent :=
    ((receives_recent run).2.1 17 (by decide) (by decide) (by decide)).1
  exact (Option.some.inj recent).symm

end Runs

end BufferRx

end Radio

end DectNrp
