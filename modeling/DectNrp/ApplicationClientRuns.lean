import DectNrp.ApplicationClient

namespace DectNrp

/-!
# Runs of an application client

The firmware writes datagrams and announces those that were stored, while the
client forwards.  Which datagrams were stored and announced so far is kept next
to the client.
-/

/-- A client, what the firmware counts, and what was stored and announced. -/
structure ClientSystem (Environment : Type) where
  client : ApplicationClient Environment
  datagramCnt : Nat
  stored : List (Nat × List UInt8)
  announced : List (Nat × List UInt8)

/-- Calls of the firmware and of the thread of the client. -/
inductive ClientCall where
  | writeNto (connIdx : Nat) (datagram : List UInt8)
  | triggerForwardNto
  | forwardUnderLock
  deriving Repr, DecidableEq

namespace ClientSystem

open ApplicationClient

variable {Environment : Type}

/-- Nothing was written to a new client. -/
def start
    (client : ApplicationClient Environment) :
    ClientSystem Environment where
  client := client
  datagramCnt := 0
  stored := []
  announced := []

/-- The firmware counts the writes that returned a positive number. -/
def step
    (filterEgressDatagram : EgressFilter Environment)
    (system : ClientSystem Environment) :
    ClientCall → Checked (ClientSystem Environment)
  | .writeNto connIdx datagram => do
      let (n, client) ← system.client.writeNto connIdx datagram
      pure { system with
        client := client
        datagramCnt := system.datagramCnt + if 0 < n then 1 else 0
        stored :=
          if (system.client.queueVec connIdx).getFree = 0 then
            system.stored
          else
            system.stored ++ [(connIdx, datagram)] }
  | .triggerForwardNto =>
      pure { system with
        client :=
          system.client.triggerForwardNto
            (UInt32.ofNat system.datagramCnt)
        datagramCnt := 0
        announced :=
          system.stored.filter fun entry => 0 < entry.2.length }
  | .forwardUnderLock => do
      let client ← system.client.forwardUnderLock filterEgressDatagram
      pure { system with client := client }

/--
Every stored datagram was forwarded or discarded once in the order of its
connection, or is still in the queue.
-/
def Conserves (system : ClientSystem Environment) : Prop :=
  ∀ i < system.client.nConnections,
    datagramsOn i system.client.handled ++
        (system.client.queueVec i).datagrams =
      datagramsOn i system.stored

/-- Nothing is indicated and no announced datagram is in a queue. -/
def Finished (system : ClientSystem Environment) : Prop :=
  system.client.indicatorCnt = 0 ∧
    ∀ i < system.client.nConnections,
      datagramsOn i system.announced <+:
        datagramsOn i system.client.handled

/--
A datagram that is stored is one that the filter accepts, and not empty.  When
datagrams are forwarded, the announced ones are those that some number of
passes over the connections takes.
-/
def Permits
    (filterEgressDatagram : EgressFilter Environment)
    (system : ClientSystem Environment) :
    ClientCall → Prop
  | .writeNto connIdx datagram =>
      Accepts filterEgressDatagram connIdx datagram ∨
        (system.client.queueVec connIdx).getFree = 0
  | .triggerForwardNto => True
  | .forwardUnderLock =>
      ∃ passes, ∀ i < system.client.nConnections,
        (datagramsOn i system.announced).length =
          (datagramsOn i system.client.handled).length +
            min (system.client.queueVec i).getUsed passes

/-- What is stored, announced, indicated and queued belongs together. -/
structure Consistent
    (filterEgressDatagram : EgressFilter Environment)
    (system : ClientSystem Environment) :
    Prop where
  conserves : system.Conserves
  announced : system.announced <+: system.stored
  counted :
    system.stored.length =
      system.announced.length + system.datagramCnt
  indicated :
    system.client.indicatorCnt.toNat + system.client.handled.length =
      system.announced.length
  inside :
    ∀ entry ∈ system.stored, entry.1 < system.client.nConnections
  insideHandled :
    ∀ entry ∈ system.client.handled,
      entry.1 < system.client.nConnections
  accepted :
    ∀ entry ∈ system.stored, Accepts filterEgressDatagram entry.1 entry.2
  few : system.client.nConnections ≤ applicationMaxConnections
  small :
    ∀ i,
      (system.client.queueVec i).nDatagram ≤ applicationMaxQueueDatagram

variable {filterEgressDatagram : EgressFilter Environment}

variable {system : ClientSystem Environment}

theorem Consistent.length_stored (consistent : system.Consistent filterEgressDatagram) :
    system.stored.length =
      system.client.handled.length + system.client.nQueued := by
  rw [← sum_length_datagramsOn consistent.inside,
    ← sum_length_datagramsOn consistent.insideHandled, nQueued,
    ← Finset.sum_add_distrib]
  apply Finset.sum_congr rfl
  intro i member
  rw [← consistent.conserves i (Finset.mem_range.mp member),
    List.length_append, DatagramQueue.length_datagrams]

theorem Consistent.nQueued_le (consistent : system.Consistent filterEgressDatagram) :
    system.client.nQueued ≤ 8192 := by
  have perConnection : ∀ i ∈ Finset.range system.client.nConnections,
      (system.client.queueVec i).getUsed ≤ 256 := by
    intro i _
    have slots := (system.client.queueVec i).getFree_add_getUsed
    have small := consistent.small i
    unfold applicationMaxQueueDatagram at small
    omega
  have bound : system.client.nQueued ≤ system.client.nConnections * 256 := by
    calc
      system.client.nQueued ≤
          ∑ _i ∈ Finset.range system.client.nConnections, 256 :=
        Finset.sum_le_sum perConnection
      _ = (Finset.range system.client.nConnections).card * 256 :=
        Finset.sum_const_nat fun _ _ => rfl
      _ = system.client.nConnections * 256 := by rw [Finset.card_range]
  have few := consistent.few
  unfold applicationMaxConnections at few
  omega

/-- The queues hold datagrams that were accepted when they were stored. -/
theorem Consistent.allAccepted
    (consistent : system.Consistent filterEgressDatagram) :
    system.client.AllAccepted filterEgressDatagram := by
  intro i inside datagram member
  have isStored : datagram ∈ datagramsOn i system.stored := by
    rw [← consistent.conserves i inside]
    exact List.mem_append_right _ member
  unfold datagramsOn at isStored
  obtain ⟨entry, isEntry, rfl⟩ := List.mem_map.mp isStored
  obtain ⟨member, isHere⟩ := List.mem_filter.mp isEntry
  rw [← of_decide_eq_true isHere]
  exact consistent.accepted entry member

variable {datagram : List UInt8}

theorem writeNto_spec
    {client after : ApplicationClient Environment}
    {connIdx n : Nat}
    (returned : client.writeNto connIdx datagram = .ok (n, after)) :
    connIdx < client.nConnections ∧
      after.nConnections = client.nConnections ∧
      after.handled = client.handled ∧
      after.indicatorCnt = client.indicatorCnt ∧
      (∀ i, (after.queueVec i).nDatagram = (client.queueVec i).nDatagram) ∧
      (((client.queueVec connIdx).getFree = 0 ∧ n = 0 ∧
          ∀ i, after.queueVec i = client.queueVec i) ∨
        ((client.queueVec connIdx).getFree ≠ 0 ∧
          n = datagram.length ∧
          ∀ i,
            (after.queueVec i).datagrams =
              (client.queueVec i).datagrams ++
                if connIdx = i then [datagram] else [])) := by
  unfold writeNto at returned
  by_cases inside : connIdx < client.nConnections
  · rw [if_pos inside] at returned
    obtain ⟨⟨written, queue⟩, writtenEq, returned⟩ :=
      Checked.bind_eq_ok.mp returned
    cases returned
    refine ⟨inside, rfl, rfl, rfl, ?_, ?_⟩
    · intro i
      dsimp only
      by_cases same : connIdx = i
      · subst same
        rcases DatagramQueue.writeNto_eq_ok writtenEq with
          ⟨-, -, rfl⟩ | ⟨-, -, -, sameSize⟩
        · rw [Function.update_self]
        · rw [Function.update_self, sameSize]
      · rw [Function.update_of_ne (Ne.symm same)]
    · rcases DatagramQueue.writeNto_eq_ok writtenEq with
        ⟨full, isZero, rfl⟩ | ⟨free, isLength, appended, -⟩
      · refine .inl ⟨full, isZero, ?_⟩
        intro i
        dsimp only
        rw [Function.update_eq_self]
      · refine .inr ⟨free, isLength, ?_⟩
        intro i
        dsimp only
        by_cases same : connIdx = i
        · subst same
          rw [if_pos rfl, Function.update_self]
          exact appended
        · rw [if_neg same, Function.update_of_ne (Ne.symm same),
            List.append_nil]
  · rw [if_neg inside] at returned
    cases returned

variable {system after : ClientSystem Environment}

/-- Writing a datagram that is not empty keeps what belongs together. -/
theorem Consistent.writeNto
    {connIdx : Nat}
    (consistent : system.Consistent filterEgressDatagram)
    (permitted : system.Permits filterEgressDatagram (.writeNto connIdx datagram))
    (returned :
      system.step filterEgressDatagram (.writeNto connIdx datagram) =
        .ok after) :
    after.Consistent filterEgressDatagram := by
  obtain ⟨conserves, announced, counted, indicated, inside,
    insideHandled, accepted, few, small⟩ := consistent
  obtain ⟨⟨n, client⟩, writtenEq, returned⟩ := Checked.bind_eq_ok.mp returned
  cases returned
  obtain ⟨isConnection, sameConnections, sameHandled, sameIndicator,
    sameSizes, outcome⟩ := writeNto_spec writtenEq
  rcases outcome with ⟨full, rfl, sameQueues⟩ | ⟨free, rfl, appended⟩
  · -- the datagram was dropped
    rw [if_pos full, if_neg (Nat.lt_irrefl 0), Nat.add_zero]
    exact
      { conserves := by
          intro i isInside
          rw [sameConnections] at isInside
          dsimp only
          rw [sameHandled, sameQueues]
          exact conserves i isInside
        announced := announced
        counted := counted
        indicated := by
          dsimp only
          rw [sameHandled, sameIndicator]
          exact indicated
        inside := by
          dsimp only
          rw [sameConnections]
          exact inside
        insideHandled := by
          dsimp only
          rw [sameHandled, sameConnections]
          exact insideHandled
        accepted := accepted
        few := by
          dsimp only
          rw [sameConnections]
          exact few
        small := by
          intro i
          dsimp only
          rw [sameQueues]
          exact small i }
  · have acceptedNow := permitted.resolve_right free
    rw [if_neg free, if_pos acceptedNow.1]
    exact
      { conserves := by
          intro i isInside
          rw [sameConnections] at isInside
          dsimp only
          rw [sameHandled, appended, datagramsOn_append,
            datagramsOn_singleton, ← List.append_assoc,
            conserves i isInside]
        announced := announced.trans (List.prefix_append _ _)
        counted := by
          dsimp only
          rw [List.length_append, counted]
          rfl
        indicated := by
          dsimp only
          rw [sameHandled, sameIndicator]
          exact indicated
        inside := by
          intro entry member
          dsimp only
          rw [sameConnections]
          rcases List.mem_append.mp member with before | now
          · exact inside entry before
          · rw [List.mem_singleton.mp now]
            exact isConnection
        insideHandled := by
          dsimp only
          rw [sameHandled, sameConnections]
          exact insideHandled
        accepted := by
          intro entry member
          rcases List.mem_append.mp member with before | now
          · exact accepted entry before
          · rw [List.mem_singleton.mp now]
            exact acceptedNow
        few := by
          dsimp only
          rw [sameConnections]
          exact few
        small := by
          intro i
          dsimp only
          rw [sameSizes]
          exact small i }

/-- Announcing makes all stored datagrams announced ones. -/
theorem Consistent.triggerForwardNto
    (consistent : system.Consistent filterEgressDatagram)
    (returned :
      system.step filterEgressDatagram .triggerForwardNto = .ok after) :
    after.Consistent filterEgressDatagram := by
  have isStored := consistent.length_stored
  have bound := consistent.nQueued_le
  obtain ⟨conserves, announced, counted, indicated, inside,
    insideHandled, accepted, few, small⟩ := consistent
  cases returned
  have allAnnounced : system.stored.filter (fun entry => 0 < entry.2.length) =
      system.stored := by
    apply List.filter_eq_self.mpr
    intro entry member
    exact decide_eq_true (accepted entry member).1
  rw [allAnnounced]
  exact
    { conserves := conserves
      announced := List.prefix_rfl
      counted := rfl
      indicated := by
        unfold ApplicationClient.triggerForwardNto
        dsimp only
        rw [UInt32.toNat_add, UInt32.toNat_ofNat']
        show _ + system.client.handled.length = _
        omega
      inside := inside
      insideHandled := insideHandled
      accepted := accepted
      few := few
      small := small }

/-- Forwarding what some passes take finishes and loses nothing. -/
theorem Consistent.forwardUnderLock
    {system : ClientSystem Environment}
    (consistent : system.Consistent filterEgressDatagram)
    (permitted : system.Permits filterEgressDatagram .forwardUnderLock) :
    ∃ after,
      system.step filterEgressDatagram .forwardUnderLock = .ok after ∧
        after.Consistent filterEgressDatagram ∧ after.Finished := by
  have allAccepted := consistent.allAccepted
  obtain ⟨conserves, announced, counted, indicated, inside,
    insideHandled, accepted, few, small⟩ := consistent
  obtain ⟨passes, takes⟩ := permitted
  have insideAnnounced :
      ∀ entry ∈ system.announced, entry.1 < system.client.nConnections :=
    fun entry member => inside entry (announced.subset member)
  -- as many are indicated as the passes take
  have allTaken : system.announced.length =
      system.client.handled.length + system.client.nPassed passes := by
    rw [← sum_length_datagramsOn insideAnnounced,
      ← sum_length_datagramsOn insideHandled, nPassed,
      ← Finset.sum_add_distrib]
    exact
      Finset.sum_congr rfl fun i member => takes i (Finset.mem_range.mp member)
  obtain ⟨after, returned, passed⟩ :=
    forwardUnderLock_passes passes allAccepted
      (show system.client.indicatorCnt.toNat = _ by omega)
  -- the announced datagrams are those that have been handled by now
  have isHandled : ∀ i < system.client.nConnections,
      datagramsOn i system.announced = datagramsOn i after.handled := by
    intro i isInside
    have isFront := datagramsOn_mono i announced
    rw [← conserves i isInside] at isFront
    rw [passed.handled i isInside, List.prefix_iff_eq_take.mp isFront,
      takes i isInside, List.take_length_add_append,
      ← DatagramQueue.length_datagrams, Nat.min_comm,
      ← List.take_eq_take_min]
  have isInsideAfter := passed.inside insideHandled
  rw [← passed.nConnections] at isInsideAfter insideAnnounced
  have sameLength : after.handled.length = system.announced.length := by
    rw [← sum_length_datagramsOn insideAnnounced,
      ← sum_length_datagramsOn isInsideAfter, passed.nConnections]
    refine Finset.sum_congr rfl fun i member => ?_
    rw [isHandled i (Finset.mem_range.mp member)]
  refine ⟨{ system with client := after }, ?_, ?_, passed.indicatorCnt, ?_⟩
  · unfold step
    rw [returned]
    rfl
  · exact
      { conserves := by
          intro i isInside
          dsimp only at isInside ⊢
          rw [passed.nConnections] at isInside
          rw [passed.handled i isInside, passed.left i isInside,
            List.append_assoc, List.take_append_drop,
            conserves i isInside]
        announced := announced
        counted := counted
        indicated := by
          dsimp only
          rw [passed.indicatorCnt, sameLength]
          exact Nat.zero_add _
        inside := by
          dsimp only
          rw [passed.nConnections]
          exact inside
        insideHandled := isInsideAfter
        accepted := accepted
        few := by
          dsimp only
          rw [passed.nConnections]
          exact few
        small := by
          intro i
          dsimp only
          rw [passed.nDatagram]
          exact small i }
  · intro i isInside
    dsimp only at isInside ⊢
    rw [passed.nConnections] at isInside
    rw [isHandled i isInside]

/-- A permitted call keeps what belongs together. -/
theorem Consistent.step
    {call : ClientCall}
    (consistent : system.Consistent filterEgressDatagram)
    (permitted : system.Permits filterEgressDatagram call)
    (returned : system.step filterEgressDatagram call = .ok after) :
    after.Consistent filterEgressDatagram := by
  cases call with
  | writeNto connIdx datagram => exact consistent.writeNto permitted returned
  | triggerForwardNto => exact consistent.triggerForwardNto returned
  | forwardUnderLock =>
      obtain ⟨forwarded, forwardedEq, consistentAfter, -⟩ :=
        consistent.forwardUnderLock permitted
      rw [forwardedEq] at returned
      cases returned
      exact consistentAfter

end ClientSystem

end DectNrp
