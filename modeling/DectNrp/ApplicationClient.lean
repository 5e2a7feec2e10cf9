import DectNrp.CheckedRuns
import DectNrp.DatagramQueue
import Mathlib.Algebra.BigOperators.Group.Finset.Piecewise
import Mathlib.Algebra.Order.BigOperators.Group.Finset

namespace DectNrp

/-!
# Application client

The firmware writes datagrams to the queues of an application client, one queue
for each connection, and then announces how many it has written.  The client
goes over its queues until it has forwarded as many datagrams as announced.

What a deriving class decides about a datagram may depend on anything it knows,
and a connection takes all octets that are written to it.
-/

open DatagramQueue (length_datagrams)

/-- A datagram that has left its queue and whether it was forwarded. -/
structure Egress where
  connIdx : Nat
  datagram : List UInt8
  forwarded : Bool
  deriving Repr, DecidableEq

/-- The queues, the signed counter of indicated datagrams as its bits. -/
structure ApplicationClient (Environment : Type) where
  nConnections : Nat
  indicatorCnt : UInt32
  queueVec : Nat → DatagramQueue
  environment : Environment
  egress : List Egress

namespace ApplicationClient

variable {Environment : Type}

/-- Decision of a deriving class about the datagram of a connection. -/
abbrev EgressFilter (Environment : Type) :=
  Environment → Nat → List UInt8 → Bool × Environment

def applicationMaxConnections : Nat := 32

def applicationMaxQueueDatagram : Nat := 256

def applicationMaxQueueDatagramByte : Nat := 1600

/-- Every connection gets an empty queue of the same size. -/
def construct
    (nQueue nDatagram nDatagramMaxByte : Nat)
    (environment : Environment) :
    Checked (ApplicationClient Environment) := do
  dectnrpAssert (0 < nQueue) "ill-defined"
  dectnrpAssert (nQueue ≤ applicationMaxConnections) "ill-defined"
  if valid : 0 < nDatagram ∧ nDatagram ≤ applicationMaxQueueDatagram ∧
      0 < nDatagramMaxByte ∧
      nDatagramMaxByte ≤ applicationMaxQueueDatagramByte then
    pure {
      nConnections := nQueue
      indicatorCnt := 0
      queueVec := fun _ =>
        DatagramQueue.new nDatagram nDatagramMaxByte valid.1
      environment := environment
      egress := []
    }
  else
    .error (.assertion "ill-defined")

def triggerForwardNto
    (client : ApplicationClient Environment)
    (datagramCnt : UInt32) :
    ApplicationClient Environment :=
  { client with indicatorCnt := client.indicatorCnt + datagramCnt }

/-- Write a datagram to the queue of a connection. -/
def writeNto
    (client : ApplicationClient Environment)
    (connIdx : Nat)
    (datagram : List UInt8) :
    Checked (Nat × ApplicationClient Environment) :=
  if connIdx < client.nConnections then do
    let (n, queue) ← (client.queueVec connIdx).writeNto datagram
    pure (n, { client with
      queueVec := Function.update client.queueVec connIdx queue })
  else
    .error (.readBeyond connIdx)

/-- Forward the oldest datagram of a connection, if there is one. -/
def forwardConnection
    (filterEgressDatagram : EgressFilter Environment)
    (state : ApplicationClient Environment × Bool)
    (i : Nat) :
    ApplicationClient Environment × Bool :=
  let (client, allQueuesEmpty) := state
  let (datagram, queue) := (client.queueVec i).readNto
  let client :=
    { client with queueVec := Function.update client.queueVec i queue }
  if 0 < datagram.length then
    let (accepted, environment) :=
      filterEgressDatagram client.environment i datagram
    let client :=
      { client with
        environment := environment
        egress := client.egress ++ [⟨i, datagram, accepted⟩]
      }
    if ! accepted then
      (client, allQueuesEmpty)
    else
      ({ client with indicatorCnt := client.indicatorCnt - 1 }, false)
  else
    (client, allQueuesEmpty)

/-- Check every connection once. -/
def forwardConnections
    (filterEgressDatagram : EgressFilter Environment)
    (client : ApplicationClient Environment) :
    ApplicationClient Environment × Bool :=
  (List.range client.nConnections).foldl
    (forwardConnection filterEgressDatagram) (client, true)

/-- Number of datagrams in all queues. -/
def nQueued (client : ApplicationClient Environment) : Nat :=
  ∑ i ∈ Finset.range client.nConnections, (client.queueVec i).getUsed

section Termination

variable {filterEgressDatagram : EgressFilter Environment}

/-- Reading a queue removes a datagram if there is one. -/
theorem getUsed_readNto (queue : DatagramQueue) :
    queue.readNto.2.getUsed = queue.getUsed - 1 := by
  rw [← length_datagrams,
    ← length_datagrams, queue.readNto_eq.2.1,
    List.length_tail]

/-- Only the queue of the connection is read. -/
theorem forwardConnection_queueVec
    (state : ApplicationClient Environment × Bool)
    (i : Nat) :
    (forwardConnection filterEgressDatagram state i).1.queueVec =
        Function.update state.1.queueVec i (state.1.queueVec i).readNto.2 ∧
      (forwardConnection filterEgressDatagram state
        i).1.nConnections = state.1.nConnections := by
  unfold forwardConnection
  dsimp only
  split
  · split <;> exact ⟨rfl, rfl⟩
  · exact ⟨rfl, rfl⟩

theorem forwardConnection_notEmpty
    {state : ApplicationClient Environment × Bool}
    {i : Nat}
    (notEmpty : (forwardConnection filterEgressDatagram state i).2 = false) :
    state.2 = false ∨ 0 < (state.1.queueVec i).getUsed := by
  by_cases used : 0 < (state.1.queueVec i).getUsed
  · exact .inr used
  · have nothing : (state.1.queueVec i).readNto.1 = [] := by
      rw [DatagramQueue.readNto, if_pos (by omega)]
    unfold forwardConnection at notEmpty
    dsimp only at notEmpty
    rw [nothing, if_neg (by decide)] at notEmpty
    exact .inl notEmpty

/-- A queue has not more datagrams than before, and some has less. -/
theorem foldl_forwardConnection_getUsed
    (connections : List Nat)
    (state : ApplicationClient Environment × Bool) :
    let after :=
      connections.foldl (forwardConnection filterEgressDatagram) state
    after.1.nConnections = state.1.nConnections ∧
      (∀ j, (after.1.queueVec j).getUsed ≤ (state.1.queueVec j).getUsed) ∧
      (after.2 = false → state.2 = false ∨ ∃ j ∈ connections,
          (after.1.queueVec j).getUsed < (state.1.queueVec j).getUsed) := by
  induction connections generalizing state with
  | nil => exact ⟨rfl, fun _ => Nat.le_refl _, fun notEmpty => .inl notEmpty⟩
  | cons i connections hypothesis =>
      obtain ⟨sameConnections, notMore, less⟩ :=
        hypothesis (forwardConnection filterEgressDatagram state i)
      obtain ⟨isUpdate, sameFirst⟩ :=
        @forwardConnection_queueVec _ filterEgressDatagram state i
      have usedFirst (j : Nat) : ((forwardConnection filterEgressDatagram state
          i).1.queueVec j).getUsed ≤ (state.1.queueVec j).getUsed := by
        rw [isUpdate]
        by_cases same : j = i
        · subst same
          rw [Function.update_self, getUsed_readNto]
          omega
        · rw [Function.update_of_ne same]
      refine ⟨sameConnections.trans sameFirst, ?_, ?_⟩
      · intro j
        exact (notMore j).trans (usedFirst j)
      · intro notEmpty
        rcases less notEmpty with notEmptyFirst | ⟨j, member, fewer⟩
        · rcases forwardConnection_notEmpty notEmptyFirst with
            notEmptyBefore | used
          · exact .inl notEmptyBefore
          · refine .inr ⟨i, List.mem_cons_self, ?_⟩
            refine Nat.lt_of_le_of_lt (notMore i) ?_
            rw [isUpdate, Function.update_self, getUsed_readNto]
            omega
        · exact .inr ⟨j, List.mem_cons_of_mem i member,
              Nat.lt_of_lt_of_le fewer (usedFirst j)⟩

theorem nQueued_forwardConnections
    {client : ApplicationClient Environment}
    (notEmpty : (client.forwardConnections filterEgressDatagram).2 = false) :
    (client.forwardConnections filterEgressDatagram).1.nQueued <
      client.nQueued := by
  obtain ⟨sameConnections, notMore, less⟩ :=
    @foldl_forwardConnection_getUsed _ filterEgressDatagram
      (List.range client.nConnections) (client, true)
  rcases less notEmpty with impossible | ⟨j, member, fewer⟩
  · cases impossible
  · unfold nQueued
    rw [forwardConnections, sameConnections]
    exact Finset.sum_lt_sum (fun i _ => notMore i)
        ⟨j, Finset.mem_range.mpr (List.mem_range.mp member), fewer⟩

end Termination

/-- Go over the connections until all indicated datagrams are processed. -/
def forwardUnderLock
    (filterEgressDatagram : EgressFilter Environment)
    (client : ApplicationClient Environment) :
    Checked (ApplicationClient Environment) :=
  if client.indicatorCnt = 0 then
    .ok client
  else if _ :
      (client.forwardConnections filterEgressDatagram).2 = false then
    forwardUnderLock filterEgressDatagram
      (client.forwardConnections filterEgressDatagram).1
  else
    .error (.assertion "went over all queues and non has data")
termination_by client.nQueued
decreasing_by exact nQueued_forwardConnections ‹_›

/-- Datagrams of a connection in their order. -/
def datagramsOn
    (i : Nat)
    (entries : List (Nat × List UInt8)) :
    List (List UInt8) :=
  (entries.filter fun entry => entry.1 = i).map Prod.snd

/-- Datagrams that were either forwarded or discarded. -/
def handled
    (client : ApplicationClient Environment) :
    List (Nat × List UInt8) :=
  client.egress.map fun egress => (egress.connIdx, egress.datagram)

theorem datagramsOn_append
    (i : Nat)
    (front behind : List (Nat × List UInt8)) :
    datagramsOn i (front ++ behind) =
      datagramsOn i front ++ datagramsOn i behind := by
  unfold datagramsOn
  rw [List.filter_append, List.map_append]

theorem datagramsOn_singleton
    (i j : Nat)
    (datagram : List UInt8) :
    datagramsOn i [(j, datagram)] = if j = i then [datagram] else [] := by
  unfold datagramsOn
  by_cases same : j = i
  · rw [if_pos same]
    simp [same]
  · rw [if_neg same]
    simp [same]

theorem datagramsOn_mono
    (i : Nat)
    {front whole : List (Nat × List UInt8)}
    (isPrefix : front <+: whole) :
    datagramsOn i front <+: datagramsOn i whole := by
  obtain ⟨behind, rfl⟩ := isPrefix
  rw [datagramsOn_append]
  exact List.prefix_append _ _

/-- All datagrams belong to one of the connections. -/
theorem sum_length_datagramsOn
    {nConnections : Nat}
    {entries : List (Nat × List UInt8)}
    (inside : ∀ entry ∈ entries, entry.1 < nConnections) :
    ∑ i ∈ Finset.range nConnections, (datagramsOn i entries).length =
      entries.length := by
  induction entries with
  | nil => exact Finset.sum_eq_zero fun _ _ => rfl
  | cons entry entries hypothesis =>
      have isFirst (i : Nat) : (datagramsOn i (entry :: entries)).length =
          (if entry.1 = i then 1 else 0) + (datagramsOn i entries).length := by
        rw [← List.singleton_append, datagramsOn_append,
          show entry = (entry.1, entry.2) from rfl,
          datagramsOn_singleton, List.length_append]
        split <;> rfl
      have one : ∑ i ∈ Finset.range nConnections,
          (if entry.1 = i then 1 else 0) = 1 := by
        rw [Finset.sum_ite_eq, if_pos]
        exact Finset.mem_range.mpr (inside entry List.mem_cons_self)
      simp only [isFirst]
      rw [Finset.sum_add_distrib, one, hypothesis fun other member =>
          inside other (List.mem_cons_of_mem entry member),
        List.length_cons, Nat.add_comm]

section Accepting

variable {filterEgressDatagram : EgressFilter Environment}

/-- The oldest datagrams of some connections. -/
def heads
    (client : ApplicationClient Environment)
    (connections : List Nat) :
    List (Nat × List UInt8) :=
  connections.filterMap fun i =>
    (client.queueVec i).datagrams.head?.map fun datagram => (i, datagram)

/-- A datagram that is not empty and that the filter accepts at any time. -/
def Accepts
    (filterEgressDatagram : EgressFilter Environment)
    (i : Nat)
    (datagram : List UInt8) :
    Prop :=
  0 < datagram.length ∧
    ∀ environment, (filterEgressDatagram environment i datagram).1 = true

/-- Every queue holds datagrams that the filter accepts. -/
def AllAccepted
    (filterEgressDatagram : EgressFilter Environment)
    (client : ApplicationClient Environment) :
    Prop :=
  ∀ i < client.nConnections,
    ∀ datagram ∈ (client.queueVec i).datagrams,
      Accepts filterEgressDatagram i datagram

theorem forwardConnection_accepts
    {state : ApplicationClient Environment × Bool}
    {i : Nat}
    (accepted :
      ∀ datagram ∈ (state.1.queueVec i).datagrams,
        Accepts filterEgressDatagram i datagram) :
    let after := forwardConnection filterEgressDatagram state i
    after.1.handled = state.1.handled ++ state.1.heads [i] ∧
      after.1.indicatorCnt +
          UInt32.ofNat (state.1.heads [i]).length =
        state.1.indicatorCnt ∧
      after.2 = (state.2 && (state.1.heads [i]).isEmpty) := by
  have isHead := (state.1.queueVec i).readNto_eq.1
  rcases contentsCase : (state.1.queueVec i).datagrams with
    _ | ⟨first, rest⟩
  · rw [contentsCase, List.headD_nil] at isHead
    have noHeads : state.1.heads [i] = [] := by simp [heads, contentsCase]
    rw [noHeads]
    unfold forwardConnection
    dsimp only
    rw [isHead, if_neg (by decide)]
    simp [handled]
  · rw [contentsCase, List.headD_cons] at isHead
    obtain ⟨positive, isAccepted⟩ :=
      accepted first (by
        rw [contentsCase]
        exact List.mem_cons_self)
    have oneHead : state.1.heads [i] = [(i, first)] := by
      simp [heads, contentsCase]
    rw [oneHead]
    unfold forwardConnection
    dsimp only
    rw [isHead, if_pos positive, isAccepted]
    simp [handled]

theorem foldl_forwardConnection_accepts
    (connections : List Nat)
    (distinct : connections.Nodup)
    (state : ApplicationClient Environment × Bool)
    (accepted :
      ∀ i ∈ connections,
        ∀ datagram ∈ (state.1.queueVec i).datagrams,
          Accepts filterEgressDatagram i datagram) :
    let after :=
      connections.foldl (forwardConnection filterEgressDatagram) state
    (∀ j, (after.1.queueVec j).datagrams =
        if j ∈ connections then (state.1.queueVec j).datagrams.tail
        else (state.1.queueVec j).datagrams) ∧
      (∀ j, (after.1.queueVec j).nDatagram = (state.1.queueVec j).nDatagram) ∧
      after.1.handled = state.1.handled ++ state.1.heads connections ∧
      after.1.indicatorCnt + UInt32.ofNat (state.1.heads connections).length =
        state.1.indicatorCnt ∧
      after.2 = (state.2 && (state.1.heads connections).isEmpty) := by
  induction connections generalizing state with
  | nil => simp [heads]
  | cons i connections hypothesis =>
      obtain ⟨isNew, distinctRest⟩ := List.nodup_cons.mp distinct
      obtain ⟨isUpdate, -⟩ :=
        @forwardConnection_queueVec _ filterEgressDatagram state i
      obtain ⟨handledFirst, counterFirst, flagFirst⟩ :=
        forwardConnection_accepts (accepted i List.mem_cons_self)
      -- the other connections are as before
      have sameQueue (j : Nat) (other : j ≠ i) :
          (forwardConnection filterEgressDatagram state i).1.queueVec j =
            state.1.queueVec j := by
        rw [isUpdate, Function.update_of_ne other]
      have notFirst {j : Nat} (member : j ∈ connections) : j ≠ i :=
        fun same => isNew (same ▸ member)
      have sameHeads : (forwardConnection filterEgressDatagram state i).1.heads
          connections = state.1.heads connections := by
        unfold heads
        apply List.filterMap_congr
        intro j member
        rw [sameQueue j (notFirst member)]
      have splitHeads : state.1.heads (i :: connections) =
          state.1.heads [i] ++ state.1.heads connections := by
        unfold heads
        rw [← List.singleton_append, List.filterMap_append]
      obtain ⟨contents, sizes, handledRest, counterRest, flagRest⟩ :=
        hypothesis distinctRest
          (forwardConnection filterEgressDatagram state i)
          (fun j member => by
            rw [sameQueue j (notFirst member)]
            exact accepted j (List.mem_cons_of_mem i member))
      rw [sameHeads] at handledRest counterRest flagRest
      rw [List.foldl_cons, splitHeads]
      refine ⟨?_, ?_, ?_, ?_, ?_⟩
      · intro j
        rw [contents]
        by_cases same : j = i
        · subst same
          rw [if_neg isNew, if_pos List.mem_cons_self, isUpdate,
            Function.update_self]
          exact (state.1.queueVec j).readNto_eq.2.1
        · rw [sameQueue j same]
          simp [same]
      · intro j
        rw [sizes]
        by_cases same : j = i
        · subst same
          rw [isUpdate, Function.update_self]
          exact (state.1.queueVec j).readNto_eq.2.2
        · rw [sameQueue j same]
      · rw [handledRest, handledFirst, List.append_assoc]
      · rw [List.length_append, UInt32.ofNat_add,
          UInt32.add_comm (UInt32.ofNat (state.1.heads [i]).length),
          ← UInt32.add_assoc, counterRest, counterFirst]
      · rw [flagRest, flagFirst, Bool.and_assoc]
        rcases state.1.heads [i] with _ | ⟨head, others⟩ <;> simp

variable {connections : List Nat}

/-- Every connection that has datagrams contributes its oldest one. -/
theorem datagramsOn_heads
    (client : ApplicationClient Environment)
    (distinct : connections.Nodup)
    (i : Nat) :
    datagramsOn i (client.heads connections) =
      if i ∈ connections then (client.queueVec i).datagrams.take 1
      else [] := by
  induction connections with
  | nil => rfl
  | cons j connections hypothesis =>
      obtain ⟨isNew, distinctRest⟩ := List.nodup_cons.mp distinct
      have splitHeads : client.heads (j :: connections) =
          client.heads [j] ++ client.heads connections := by
        unfold heads
        rw [← List.singleton_append, List.filterMap_append]
      have first : datagramsOn i (client.heads [j]) =
          if j = i then (client.queueVec j).datagrams.take 1
          else [] := by
        rcases contentsCase : (client.queueVec j).datagrams with
          _ | ⟨head, rest⟩
        · have noHeads : client.heads [j] = [] := by simp [heads, contentsCase]
          rw [noHeads, List.take_nil, ite_self]
          rfl
        · have oneHead : client.heads [j] = [(j, head)] := by
            simp [heads, contentsCase]
          rw [oneHead]
          exact datagramsOn_singleton i j head
      rw [splitHeads, datagramsOn_append, first, hypothesis distinctRest]
      by_cases same : j = i
      · subst same
        rw [if_pos rfl, if_neg isNew, if_pos List.mem_cons_self,
          List.append_nil]
      · rw [if_neg same, List.nil_append]
        simp [Ne.symm same]

variable {client : ApplicationClient Environment}

/-- The oldest datagrams belong to connections. -/
theorem heads_inside
    {entry : Nat × List UInt8}
    (member : entry ∈ client.heads connections) :
    entry.1 ∈ connections := by
  obtain ⟨i, isConnection, isEntry⟩ := List.mem_filterMap.mp member
  obtain ⟨datagram, -, rfl⟩ := Option.map_eq_some_iff.mp isEntry
  exact isConnection

/-- What some passes over all connections leave and what they handle. -/
structure Passed
    (passes : Nat)
    (client after : ApplicationClient Environment) : Prop where
  indicatorCnt : after.indicatorCnt = 0
  nConnections : after.nConnections = client.nConnections
  nDatagram :
    ∀ i, (after.queueVec i).nDatagram = (client.queueVec i).nDatagram
  left :
    ∀ i < client.nConnections,
      (after.queueVec i).datagrams =
        (client.queueVec i).datagrams.drop passes
  handled :
    ∀ i < client.nConnections,
      datagramsOn i after.handled =
        datagramsOn i client.handled ++
          (client.queueVec i).datagrams.take passes
  inside :
    (∀ entry ∈ client.handled, entry.1 < client.nConnections) →
      ∀ entry ∈ after.handled, entry.1 < client.nConnections

/-- Number of datagrams that some passes over all connections take. -/
def nPassed
    (client : ApplicationClient Environment)
    (passes : Nat) :
    Nat :=
  ∑ i ∈ Finset.range client.nConnections,
    min (client.queueVec i).getUsed passes

/-- Nothing is taken from queues that are empty. -/
theorem getUsed_of_nPassed
    {passes : Nat}
    (nothing : client.nPassed (passes + 1) = 0)
    {i : Nat}
    (inside : i < client.nConnections) :
    (client.queueVec i).datagrams = [] := by
  have isZero :=
    Finset.sum_eq_zero_iff.mp nothing i (Finset.mem_range.mpr inside)
  apply List.eq_nil_of_length_eq_zero
  rw [length_datagrams]
  omega

theorem nPassed_succ
    {client middle : ApplicationClient Environment}
    (sameConnections : middle.nConnections = client.nConnections)
    (left :
      ∀ i < client.nConnections,
        (middle.queueVec i).datagrams = (client.queueVec i).datagrams.tail)
    (passes : Nat) :
    client.nPassed (passes + 1) =
      middle.nPassed passes +
        (client.heads (List.range client.nConnections)).length := by
  have inside : ∀ entry ∈ client.heads (List.range client.nConnections),
      entry.1 < client.nConnections := by
    intro entry member
    exact List.mem_range.mp (heads_inside member)
  rw [← sum_length_datagramsOn inside, nPassed, nPassed,
    sameConnections, ← Finset.sum_add_distrib]
  apply Finset.sum_congr rfl
  intro i member
  have isConnection := Finset.mem_range.mp member
  have used := congrArg List.length (left i isConnection)
  rw [length_datagrams, List.length_tail,
    length_datagrams] at used
  rw [datagramsOn_heads client List.nodup_range i,
    if_pos (List.mem_range.mpr isConnection), List.length_take,
    length_datagrams, used]
  omega

/--
If all queued datagrams are accepted, forwarding as many as some passes
take ends after these passes.
-/
theorem forwardUnderLock_passes
    (passes : Nat)
    (accepted : client.AllAccepted filterEgressDatagram)
    (indicated : client.indicatorCnt.toNat = client.nPassed passes) :
    ∃ after,
      client.forwardUnderLock filterEgressDatagram = .ok after ∧
        Passed passes client after := by
  induction passes generalizing client with
  | zero =>
      have noneIndicated : client.indicatorCnt = 0 := by
        apply UInt32.toNat_inj.mp
        rw [indicated]
        exact Finset.sum_eq_zero fun _ _ => Nat.min_zero _
      refine ⟨client, ?_, noneIndicated, rfl, fun _ => rfl, ?_, ?_, ?_⟩
      · rw [forwardUnderLock, if_pos noneIndicated]
      · exact fun _ _ => rfl
      · intro i _
        rw [List.take_zero, List.append_nil]
      · exact fun inside => inside
  | succ passes hypothesis =>
      by_cases noneIndicated : client.indicatorCnt = 0
      · have nothing : client.nPassed (passes + 1) = 0 := by
          rw [← indicated, noneIndicated]
          rfl
        refine ⟨client, ?_, noneIndicated, rfl, fun _ => rfl, ?_, ?_, ?_⟩
        · rw [forwardUnderLock, if_pos noneIndicated]
        · intro i inside
          rw [getUsed_of_nPassed nothing inside, List.drop_nil]
        · intro i inside
          rw [getUsed_of_nPassed nothing inside, List.take_nil,
            List.append_nil]
        · exact fun inside => inside
      · obtain ⟨contents, sizes, handled, counter, flag⟩ :=
          foldl_forwardConnection_accepts
            (List.range client.nConnections) List.nodup_range
            (client, true)
            (fun i member => accepted i (List.mem_range.mp member))
        have sameConnections :=
          (@foldl_forwardConnection_getUsed _ filterEgressDatagram
            (List.range client.nConnections) (client, true)).1
        rw [← forwardConnections] at contents sizes handled counter flag
        rw [← forwardConnections] at sameConnections
        generalize isPass :
          client.forwardConnections filterEgressDatagram = pass at *
        obtain ⟨middle, allQueuesEmpty⟩ := pass
        dsimp only at contents sizes handled counter flag sameConnections
        have left : ∀ i < client.nConnections, (middle.queueVec i).datagrams =
            (client.queueVec i).datagrams.tail := by
          intro i inside
          rw [contents, if_pos (List.mem_range.mpr inside)]
        have split := nPassed_succ sameConnections left passes
        have counterBound := client.indicatorCnt.toNat_lt
        have counterNat := congrArg UInt32.toNat counter
        rw [UInt32.toNat_add, UInt32.toNat_ofNat'] at counterNat
        have middleBound := middle.indicatorCnt.toNat_lt
        have indicatedLeft :
            middle.indicatorCnt.toNat = middle.nPassed passes := by
          omega
        -- something is indicated, so that some queue has a datagram
        have notEmpty : allQueuesEmpty = false := by
          rw [flag, Bool.true_and]
          apply Bool.eq_false_iff.mpr
          intro isEmpty
          apply noneIndicated
          apply UInt32.toNat_inj.mp
          rw [indicated]
          apply Finset.sum_eq_zero
          intro i member
          have distinct : (List.range client.nConnections).Nodup :=
            List.nodup_range
          have noHead := datagramsOn_heads client distinct i
          rw [List.isEmpty_iff.mp isEmpty,
            if_pos (List.mem_range.mpr (Finset.mem_range.mp member))]
            at noHead
          have noneTaken := congrArg List.length noHead
          rw [List.length_take, length_datagrams] at noneTaken
          have isNil : (datagramsOn i []).length = 0 := rfl
          omega
        have acceptedLeft : middle.AllAccepted filterEgressDatagram := by
          intro i inside datagram member
          rw [sameConnections] at inside
          rw [left i inside] at member
          exact accepted i inside datagram (List.mem_of_mem_tail member)
        obtain ⟨after, returned, passed⟩ :=
          hypothesis acceptedLeft indicatedLeft
        refine ⟨after, ?_, passed.indicatorCnt, ?_, ?_, ?_, ?_, ?_⟩
        · rw [forwardUnderLock, if_neg noneIndicated, isPass, dif_pos notEmpty]
          exact returned
        · exact passed.nConnections.trans sameConnections
        · intro i
          rw [passed.nDatagram, sizes]
        · intro i inside
          rw [passed.left i (by omega), left i inside, List.drop_tail]
        · intro i inside
          rw [passed.handled i (by omega), handled, datagramsOn_append,
            datagramsOn_heads client List.nodup_range i,
            if_pos (List.mem_range.mpr inside), left i inside,
            List.append_assoc]
          rcases (client.queueVec i).datagrams with _ | ⟨head, rest⟩ <;> simp
        · intro isInside entry member
          have insideMiddle :
              ∀ entry ∈ middle.handled, entry.1 < middle.nConnections := by
            intro entry member
            rw [handled] at member
            rw [sameConnections]
            rcases List.mem_append.mp member with before | now
            · exact isInside entry before
            · exact List.mem_range.mp (heads_inside now)
          rw [← sameConnections]
          exact passed.inside insideMiddle entry member

end Accepting

end ApplicationClient

end DectNrp
