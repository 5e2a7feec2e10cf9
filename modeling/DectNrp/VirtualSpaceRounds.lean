import DectNrp.VirtualSpace

namespace DectNrp

/-!
# Rounds in the virtual space

Every simulator has a thread that writes to the virtual space and one that reads
from it.  After the registration the status flags make up a barrier of two
phases: the simulators write and read in lockstep.
-/

open Function (update update_of_ne update_self)

namespace Simulation

open LockstepBarrier

inductive TxPc where
  | registering
  | waitingForRx
  | idle
  | writable
  deriving Repr, DecidableEq

structure TxThread where
  pc : TxPc
  now64 : Int
  deriving Repr, DecidableEq

inductive RxPc where
  | waitingForTx
  | registering
  | waitingForRx
  | idle
  | readable
  | copying
  deriving Repr, DecidableEq

structure RxThread where
  pc : RxPc
  now64 : Int
  deriving Repr, DecidableEq

/-- What happened in the virtual space. -/
inductive Event (Signal : Type) where
  | wrote (id : Nat) (now64 : Int) (signal : Signal)
  | didRead (id : Nat) (now64 : Int) (superposition : Superposition Signal)

structure System (Signal : Type) where
  vspace : Vspace Signal
  tx : Nat → TxThread
  rx : Nat → RxThread
  rxTimePassed : Nat → Int
  trace : List (Event Signal)

section

variable {Signal : Type}
variable {setup : Setup}

def System.initial : System Signal where
  vspace := .create
  tx _ := ⟨.registering, 0⟩
  rx _ := ⟨.waitingForTx, 0⟩
  rxTimePassed _ := 0
  trace := []

/-- Steps of the thread that writes. -/
inductive TxStep
    (setup : Setup)
    (id : Nat)
    (system : System Signal) :
    System Signal → Prop where
  | register
      (vspace : Vspace Signal)
      (pc : (system.tx id).pc = .registering)
      (returned : system.vspace.hwRegisterTx setup id = .ok vspace) :
      TxStep setup id system
        { system with
          vspace := vspace
          tx :=
            Function.update system.tx id
              ⟨.waitingForRx, (system.tx id).now64⟩ }
  | start
      (pc : (system.tx id).pc = .waitingForRx)
      (done : system.vspace.allRxRegisteredAndInitsDone = true) :
      TxStep setup id system
        { system with
          tx :=
            Function.update system.tx id
              ⟨.idle, system.rxTimePassed id⟩ }
  | waitWritable
      (pc : (system.tx id).pc = .idle)
      (status : system.vspace.statusTxWritten id = false) :
      TxStep setup id system
        { system with
          tx :=
            Function.update system.tx id
              ⟨.writable, (system.tx id).now64⟩ }
  | write
      (signal : Signal)
      (vspace : Vspace Signal)
      (pc : (system.tx id).pc = .writable)
      (returned :
        system.vspace.write setup id (system.tx id).now64 signal =
          .ok vspace) :
      TxStep setup id system
        { system with
          vspace := vspace
          tx :=
            Function.update system.tx id
              ⟨.idle, (system.tx id).now64 + (setup.sppSize id : Int)⟩
          trace :=
            system.trace ++ [.wrote id (system.tx id).now64 signal] }

/-- Steps of the thread that reads. -/
inductive RxStep
    (setup : Setup)
    (id : Nat)
    (system : System Signal) :
    System Signal → Prop where
  | setTime
      (time : Int)
      (pc : (system.rx id).pc = .waitingForTx)
      (done : system.vspace.allTxRegisteredAndInitsDone = true) :
      RxStep setup id system
        { system with
          rx := Function.update system.rx id ⟨.registering, time⟩
          rxTimePassed := Function.update system.rxTimePassed id time }
  | register
      (vspace : Vspace Signal)
      (pc : (system.rx id).pc = .registering)
      (returned :
        system.vspace.hwRegisterRx setup id (system.rx id).now64 =
          .ok vspace) :
      RxStep setup id system
        { system with
          vspace := vspace
          rx :=
            Function.update system.rx id
              ⟨.waitingForRx, system.rxTimePassed id⟩ }
  | start
      (pc : (system.rx id).pc = .waitingForRx)
      (done : system.vspace.allRxRegisteredAndInitsDone = true) :
      RxStep setup id system
        { system with
          rx := Function.update system.rx id ⟨.idle, (system.rx id).now64⟩ }
  | waitReadable
      (pc : (system.rx id).pc = .idle)
      (status : system.vspace.statusRxRead id = false) :
      RxStep setup id system
        { system with
          rx :=
            Function.update system.rx id
              ⟨.readable, (system.rx id).now64⟩ }
  | read
      (superposition : Superposition Signal)
      (vspace : Vspace Signal)
      (pc : (system.rx id).pc = .readable)
      (returned :
        system.vspace.read setup id (system.rx id).now64 =
          .ok (superposition, vspace)) :
      RxStep setup id system
        { system with
          vspace := vspace
          rx :=
            Function.update system.rx id
              ⟨.copying, (system.rx id).now64⟩
          trace :=
            system.trace ++
              [.didRead id (system.rx id).now64 superposition] }
  | advance
      (pc : (system.rx id).pc = .copying) :
      RxStep setup id system
        { system with
          rx :=
            Function.update system.rx id
              ⟨.idle, (system.rx id).now64 + (setup.sppSize id : Int)⟩
          rxTimePassed :=
            Function.update system.rxTimePassed id
              ((system.rx id).now64 + (setup.sppSize id : Int)) }

/-- A thread makes a step, or gives up waiting and tries again. -/
inductive Step
    (setup : Setup)
    (system : System Signal) :
    System Signal → Prop where
  | tx
      (id : Nat)
      (after : System Signal)
      (bound : id < setup.n)
      (step : TxStep setup id system after) :
      Step setup system after
  | rx
      (id : Nat)
      (after : System Signal)
      (bound : id < setup.n)
      (step : RxStep setup id system after) :
      Step setup system after
  | timeout : Step setup system system

/-- States that the simulators reach from the beginning. -/
inductive Reachable (setup : Setup) : System Signal → Prop where
  | initial : Reachable setup .initial
  | step
      {before after : System Signal}
      (reached : Reachable setup before)
      (step : Step setup before after) :
      Reachable setup after

/-- The signals that a simulator wrote. -/
def signals
    (id : Nat)
    (trace : List (Event Signal)) :
    List Signal :=
  trace.filterMap fun
    | .wrote writer _ signal => if writer = id then some signal else none
    | .didRead .. => none

/-- What a simulator read. -/
def superpositions
    (id : Nat)
    (trace : List (Event Signal)) :
    List (Superposition Signal) :=
  trace.filterMap fun
    | .wrote .. => none
    | .didRead reader _ superposition =>
        if reader = id then some superposition else none

/--
All signals of a round superimposed at a simulator: those of all others in
order, each over the channel of the two vertices, and its own one.
-/
def superimposed
    (setup : Setup)
    (id : Nat)
    (signal : Nat → Signal) :
    Superposition Signal where
  inter :=
    ((List.range setup.n).filter fun i => i != id).map fun i =>
      (⟨min id i, max id i⟩, signal i)
  intra := (⟨id, id⟩, signal id)

/--
What an event finds.  Before somebody writes its signal of a round all have read
in all earlier rounds, and before somebody reads in a round all have written in
this round.
-/
def Event.InLockstep
    (setup : Setup)
    (nowStart64 : Int)
    (sppSize : Nat)
    (before : List (Event Signal)) :
    Event Signal → Prop
  | .wrote id now64 _ =>
      id < setup.n ∧
        (∀ other < setup.n,
          (superpositions other before).length =
            (signals id before).length) ∧
        now64 =
          nowStart64 + (sppSize : Int) * ((signals id before).length : Int)
  | .didRead id now64 superposition =>
      id < setup.n ∧
        (∀ other < setup.n,
          (signals other before).length =
            (superpositions id before).length + 1) ∧
        now64 =
          nowStart64 +
            (sppSize : Int) * ((superpositions id before).length : Int) ∧
        ∃ signal : Nat → Signal,
          (∀ other < setup.n,
            (signals other before)[(superpositions id before).length]? =
              some (signal other)) ∧
          superposition = superimposed setup id signal

/-- Status flags, and how often the simulators wrote and read. -/
def System.board (system : System Signal) : Board where
  firstDone := system.vspace.statusTxWritten
  secondDone := system.vspace.statusRxRead
  firstCnt id := (signals id system.trace).length
  secondCnt id := (superpositions id system.trace).length

/-- Time of the virtual space after some rounds. -/
def Vspace.timeAfter
    (vspace : Vspace Signal)
    (rounds : Nat) :
    Int :=
  vspace.nowStart64 + (vspace.sppSizeCommon : Int) * (rounds : Int)

/-- A writing thread knows the time of its next round. -/
def TxFits
    (system : System Signal)
    (id : Nat) :
    Prop :=
  match (system.tx id).pc with
  | .registering => False
  | .waitingForRx => system.board.firstCnt id = 0
  | .idle =>
      (system.tx id).now64 =
        system.vspace.timeAfter (system.board.firstCnt id)
  | .writable =>
      (system.tx id).now64 =
          system.vspace.timeAfter (system.board.firstCnt id) ∧
        system.board.firstDone id = false

/-- A reading thread knows the time of its next round. -/
def RxFits
    (system : System Signal)
    (id : Nat) :
    Prop :=
  system.rxTimePassed id = (system.rx id).now64 ∧
    match (system.rx id).pc with
    | .waitingForTx => False
    | .registering => False
    | .waitingForRx =>
        (system.rx id).now64 =
          system.vspace.timeAfter (system.board.secondCnt id)
    | .idle =>
        (system.rx id).now64 =
          system.vspace.timeAfter (system.board.secondCnt id)
    | .readable =>
        (system.rx id).now64 =
            system.vspace.timeAfter (system.board.secondCnt id) ∧
          system.board.secondDone id = false
    | .copying =>
        ∃ rounds,
          system.board.secondCnt id = rounds + 1 ∧
            (system.rx id).now64 = system.vspace.timeAfter rounds

/-- What holds after the registration. -/
structure InRound
    (setup : Setup)
    (system : System Signal)
    (round : Nat) :
    Prop where
  agreed :
    ∀ id < setup.n, setup.sppSize id = system.vspace.sppSizeCommon
  graph : system.vspace.GraphValid setup
  board : system.board.Invariant setup.n round
  now64 : system.vspace.now64 = system.vspace.timeAfter round
  latest :
    ∀ id < setup.n,
      ∃ vspptx, system.vspace.vspptxVec id = some vspptx ∧
        vspptx.signal = (signals id system.trace).getLast?
  tx : ∀ id < setup.n, TxFits system id
  rx : ∀ id < setup.n, RxFits system id
  lockstep :
    ∀ before event after,
      system.trace = before ++ event :: after →
        event.InLockstep setup system.vspace.nowStart64
          system.vspace.sppSizeCommon before

/-- A transmitter that waits is registered. -/
def TxRegisters
    (setup : Setup)
    (system : System Signal)
    (id : Nat) :
    Prop :=
  (system.tx id).pc = .registering ∧ system.vspace.vspptxVec id = none ∨
    (system.tx id).pc = .waitingForRx ∧
      ∃ vspptx, system.vspace.vspptxVec id = some vspptx ∧
        vspptx.sppSize = setup.sppSize id ∧ vspptx.signal = none

/-- A receiver that waits is registered with the time of the virtual space. -/
def RxRegisters
    (system : System Signal)
    (id : Nat) :
    Prop :=
  (system.rx id).pc = .waitingForTx ∧
      system.vspace.rxRegistered id = false ∨
    system.rxTimePassed id = (system.rx id).now64 ∧
      ((system.rx id).pc = .registering ∧
          system.vspace.rxRegistered id = false ∨
        (system.rx id).pc = .waitingForRx ∧
          system.vspace.rxRegistered id = true ∧
          (system.rx id).now64 = system.vspace.now64)

/-- What holds during the registration. -/
structure InRegistration
    (setup : Setup)
    (system : System Signal) :
    Prop where
  notAll : system.vspace.allRxRegisteredAndInitsDone = false
  nothing : system.trace = []
  tx : ∀ id < setup.n, TxRegisters setup system id
  rx : ∀ id < setup.n, RxRegisters system id
  order :
    ∀ id < setup.n, system.vspace.rxRegistered id = true →
      system.vspace.allTxRegisteredAndInitsDone = true
  inits :
    system.vspace.allTxRegisteredAndInitsDone = true →
      system.vspace.TxInitsDone setup

/-- A state during the registration or in some round. -/
inductive Invariant (setup : Setup) (system : System Signal) : Prop where
  | inRegistration (invariant : InRegistration setup system)
  | inRound
      (round : Nat)
      (all : system.vspace.allRxRegisteredAndInitsDone = true)
      (invariant : InRound setup system round)

variable {id : Nat}

variable {vspptx : Vspptx Signal}

/-- Registrations change for one simulator at a time. -/
theorem rxRegistered_update
    {vspace after : Vspace Signal}
    (isUpdate : after.vspptxVec = update vspace.vspptxVec id (some vspptx))
    (other : Nat) :
    after.rxRegistered other =
      if other = id then vspptx.vspprxCounterpartRegistered
      else vspace.rxRegistered other := by
  unfold Vspace.rxRegistered
  rw [isUpdate]
  by_cases same : other = id
  · rw [same, update_self, if_pos rfl]
    rfl
  · rw [update_of_ne same, if_neg same]

variable {before after : System Signal}

/-- The registration goes on when a transmitter makes a step. -/
theorem InRegistration.tx_step
    (invariant : InRegistration setup before)
    (bound : id < setup.n)
    (step : TxStep setup id before after) :
    InRegistration setup after := by
  have registers := invariant.tx id bound
  cases step with
  | register vspace pc returned =>
      obtain ⟨free, isUpdate, sameAll, inits⟩ :=
        Vspace.hwRegisterTx_eq_ok returned
      have notInits : ¬ before.vspace.allTxRegisteredAndInitsDone = true := by
        intro done
        obtain ⟨vspptx, present, -⟩ :=
          (invariant.inits done).registered id bound
        rw [free] at present
        cases present
      have noRx : ∀ other < setup.n, before.vspace.rxRegistered other = false ∧
          vspace.rxRegistered other = false := by
        intro other otherBound
        have notRegistered : before.vspace.rxRegistered other = false :=
          Bool.eq_false_iff.mpr fun registered =>
            notInits (invariant.order other otherBound registered)
        refine ⟨notRegistered, ?_⟩
        rw [rxRegistered_update isUpdate other, notRegistered, ite_self]
      constructor
      · exact sameAll.trans invariant.notAll
      · exact invariant.nothing
      · intro other otherBound
        unfold TxRegisters
        by_cases same : other = id
        · rw [same, isUpdate]
          simp only [update_self]
          exact Or.inr ⟨trivial, _, rfl, rfl, rfl⟩
        · rw [isUpdate]
          simp only [update_of_ne same]
          exact invariant.tx other otherBound
      · intro other otherBound
        obtain ⟨noRxBefore, noRxAfter⟩ := noRx other otherBound
        have timed := invariant.rx other otherBound
        unfold RxRegisters at timed ⊢
        rw [noRxBefore] at timed
        rw [noRxAfter]
        rcases timed with waiting | ⟨time, registering | ⟨-, no, -⟩⟩
        · exact Or.inl waiting
        · exact Or.inr ⟨time, Or.inl registering⟩
        · cases no
      · intro other otherBound registered
        rw [(noRx other otherBound).2] at registered
        cases registered
      · intro done
        rcases inits with same | inits
        · rw [same] at done
          exact absurd done notInits
        · exact inits
  | start pc done =>
      rw [invariant.notAll] at done
      cases done
  | waitWritable pc status =>
      rcases registers with ⟨other, -⟩ | ⟨other, -⟩
      · rw [pc] at other
        cases other
      · rw [pc] at other
        cases other
  | write signal vspace pc returned =>
      rcases registers with ⟨other, -⟩ | ⟨other, -⟩
      · rw [pc] at other
        cases other
      · rw [pc] at other
        cases other

variable {before : System Signal}

theorem InRegistration.registerRx
    {timed registered : Vspace Signal}
    (invariant : InRegistration setup before)
    (time : before.rxTimePassed id = (before.rx id).now64)
    (present : before.vspace.vspptxVec id = some vspptx)
    (done : before.vspace.allTxRegisteredAndInitsDone = true)
    (timedCases :
      (∀ other < setup.n, before.vspace.rxRegistered other = false) ∧
          timed =
            { before.vspace with
              nowStart64 := (before.rx id).now64
              now64 := (before.rx id).now64 } ∨
        timed = before.vspace)
    (now64 : timed.now64 = (before.rx id).now64)
    (isRegistered :
      registered =
        { timed with
          vspptxVec :=
            update before.vspace.vspptxVec id
              (some { vspptx with vspprxCounterpartRegistered := true }) }) :
    InRegistration setup
      { before with
        vspace := registered
        rx :=
          update before.rx id ⟨.waitingForRx, before.rxTimePassed id⟩ } := by
  have inits := invariant.inits done
  have isUpdate : registered.vspptxVec = update before.vspace.vspptxVec id
      (some { vspptx with vspprxCounterpartRegistered := true }) := by
    rw [isRegistered]
  have same : timed.nowStart64 = timed.now64 ∧ registered.now64 = timed.now64 ∧
      registered.nowStart64 = timed.nowStart64 ∧
      registered.allRxRegisteredAndInitsDone = false ∧
      registered.allTxRegisteredAndInitsDone = true ∧
      registered.sppSizeCommon = before.vspace.sppSizeCommon ∧
      registered.wchannelInterVec = before.vspace.wchannelInterVec ∧
      registered.wchannelIntraVec = before.vspace.wchannelIntraVec := by
    rw [isRegistered]
    rcases timedCases with ⟨-, isTimed⟩ | isTimed
    · rw [isTimed]
      exact ⟨rfl, rfl, rfl, invariant.notAll, done, rfl, rfl, rfl⟩
    · rw [isTimed]
      exact ⟨inits.now64.symm, rfl, rfl, invariant.notAll, done, rfl, rfl, rfl⟩
  obtain ⟨sameStart, sameNow, sameNowStart, notAll, stillDone, sameSpp,
    sameInter, sameIntra⟩ := same
  constructor
  · exact notAll
  · exact invariant.nothing
  · intro other otherBound
    have registers := invariant.tx other otherBound
    unfold TxRegisters at registers ⊢
    rw [isUpdate]
    by_cases same : other = id
    · rw [same, present] at registers
      rw [same, update_self]
      rcases registers with ⟨-, free⟩ | ⟨waiting, _, isVspptx, fits⟩
      · cases free
      · cases isVspptx
        exact Or.inr ⟨waiting, _, rfl, fits⟩
    · rw [update_of_ne same]
      exact registers
  · intro other otherBound
    unfold RxRegisters
    rw [rxRegistered_update isUpdate other]
    by_cases same : other = id
    · rw [same]
      simp only [update_self, if_true]
      refine Or.inr ⟨trivial, Or.inr ⟨trivial, trivial, ?_⟩⟩
      rw [sameNow, now64, time]
    · simp only [update_of_ne same, if_neg same]
      rcases invariant.rx other otherBound with
        waiting | ⟨otherTime, registering | ⟨waiting, isRegistered, isNow⟩⟩
      · exact Or.inl waiting
      · exact Or.inr ⟨otherTime, Or.inl registering⟩
      · refine Or.inr ⟨otherTime, Or.inr ⟨waiting, isRegistered, ?_⟩⟩
        rcases timedCases with ⟨nobody, -⟩ | isTimed
        · rw [nobody other otherBound] at isRegistered
          cases isRegistered
        · rw [sameNow, isTimed, isNow]
  · intro other otherBound isRegistered
    exact stillDone
  · intro _
    constructor
    · intro other otherBound
      obtain ⟨otherVspptx, otherPresent, otherSpp⟩ :=
        inits.registered other otherBound
      rw [isUpdate, sameSpp]
      by_cases same : other = id
      · rw [same, present] at otherPresent
        cases otherPresent
        rw [same, update_self]
        exact ⟨_, rfl, otherSpp⟩
      · rw [update_of_ne same]
        exact ⟨otherVspptx, otherPresent, otherSpp⟩
    · unfold Vspace.GraphValid
      rw [sameInter, sameIntra]
      exact inits.graph
    · rw [sameNow, sameNowStart, sameStart]

theorem InRegistration.allowTx
    (invariant : InRegistration setup before)
    (done : before.vspace.allTxRegisteredAndInitsDone = true)
    (registered : ∀ other < setup.n, before.vspace.rxRegistered other = true) :
    InRound setup
      { before with
        vspace :=
          { before.vspace with
            statusTxWritten := fun _ => false
            statusRxRead := fun _ => true
            allRxRegisteredAndInitsDone := true } }
      0 := by
  have inits := invariant.inits done
  have isStart : System.board
      { before with
        vspace :=
          { before.vspace with
            statusTxWritten := fun _ => false
            statusRxRead := fun _ => true
            allRxRegisteredAndInitsDone := true } } =
        Board.start := by
    unfold System.board
    simp only [invariant.nothing]
    rfl
  have atStart : before.vspace.now64 = before.vspace.timeAfter 0 := by
    unfold Vspace.timeAfter
    rw [inits.now64, Nat.cast_zero, mul_zero, add_zero]
  constructor
  · intro id bound
    obtain ⟨vspptx, present, isCommon⟩ := inits.registered id bound
    rcases invariant.tx id bound with ⟨-, free⟩ | ⟨-, _, other, isOwn, -⟩
    · rw [present] at free
      cases free
    · rw [present] at other
      cases other
      exact isOwn.symm.trans isCommon
  · exact inits.graph
  · rw [isStart]
    exact Board.start_invariant setup.positive
  · exact atStart
  · intro id bound
    obtain ⟨vspptx, present, -⟩ := inits.registered id bound
    rcases invariant.tx id bound with ⟨-, free⟩ | ⟨-, _, other, -, silent⟩
    · rw [present] at free
      cases free
    · refine ⟨_, other, ?_⟩
      rw [silent, invariant.nothing]
      rfl
  · intro id bound
    unfold TxFits
    rw [isStart]
    rcases invariant.tx id bound with ⟨-, free⟩ | ⟨waiting, -⟩
    · obtain ⟨vspptx, present, -⟩ := inits.registered id bound
      rw [present] at free
      cases free
    · simp only [waiting]
      rfl
  · intro id bound
    have isRegistered := registered id bound
    unfold RxFits
    rw [isStart]
    rcases invariant.rx id bound with
      ⟨-, no⟩ | ⟨time, ⟨-, no⟩ | ⟨waiting, -, isNow⟩⟩
    · rw [isRegistered] at no
      cases no
    · rw [isRegistered] at no
      cases no
    · simp only [waiting]
      exact ⟨time, isNow.trans atStart⟩
  · intro beforeEvent event afterEvent split
    simp [invariant.nothing] at split

/-- The registration goes on or ends when a receiver makes a step. -/
theorem InRegistration.rx_step
    (invariant : InRegistration setup before)
    (bound : id < setup.n)
    (step : RxStep setup id before after) :
    Invariant setup after := by
  have registers := invariant.rx id bound
  cases step with
  | setTime time pc done =>
      refine .inRegistration { invariant with rx := ?_ }
      intro other otherBound
      unfold RxRegisters
      by_cases same : other = id
      · rw [same]
        simp only [update_self]
        refine Or.inr ⟨trivial, Or.inl ⟨trivial, ?_⟩⟩
        rcases registers with ⟨-, no⟩ | ⟨-, ⟨-, no⟩ | ⟨waiting, -⟩⟩
        · exact no
        · exact no
        · rw [pc] at waiting
          cases waiting
      · simp only [update_of_ne same]
        exact invariant.rx other otherBound
  | register vspace pc returned =>
      have time : before.rxTimePassed id = (before.rx id).now64 := by
        rcases registers with ⟨waiting, -⟩ | ⟨time, -⟩
        · rw [pc] at waiting
          cases waiting
        · exact time
      obtain ⟨vspptx, timed, registered, present, -, done, timedCases,
        now64, isRegistered, last⟩ := Vspace.hwRegisterRx_eq_ok returned
      have registration :=
        invariant.registerRx time present done timedCases now64 isRegistered
      rcases last with ⟨allRegistered, isAfter⟩ | isAfter
      · have stillDone :
            registered.allTxRegisteredAndInitsDone = true :=
          registration.order id bound (allRegistered id bound)
        rw [isAfter]
        exact .inRound 0 rfl (registration.allowTx stillDone allRegistered)
      · rw [isAfter]
        exact .inRegistration registration
  | start pc done =>
      rw [invariant.notAll] at done
      cases done
  | waitReadable pc status =>
      rcases registers with ⟨other, -⟩ | ⟨-, ⟨other, -⟩ | ⟨other, -⟩⟩ <;>
        · rw [pc] at other
          cases other
  | read superposition vspace pc returned =>
      rcases registers with ⟨other, -⟩ | ⟨-, ⟨other, -⟩ | ⟨other, -⟩⟩ <;>
        · rw [pc] at other
          cases other
  | advance pc =>
      rcases registers with ⟨other, -⟩ | ⟨-, ⟨other, -⟩ | ⟨other, -⟩⟩ <;>
        · rw [pc] at other
          cases other

section Traces

variable {trace : List (Event Signal)}
variable {id : Nat}
variable {now64 : Int}

theorem signals_wrote
    {signal : Signal}
    (other : Nat) :
    signals other (trace ++ [.wrote id now64 signal]) =
      signals other trace ++ if id = other then [signal] else [] := by
  unfold signals
  rw [List.filterMap_append]
  split_ifs with same
  · simp [same]
  · simp [same]

variable {superposition : Superposition Signal}

theorem signals_didRead (other : Nat) :
    signals other (trace ++ [.didRead id now64 superposition]) =
      signals other trace := by
  simp [signals]

theorem superpositions_wrote
    {signal : Signal}
    (other : Nat) :
    superpositions other (trace ++ [.wrote id now64 signal]) =
      superpositions other trace := by
  simp [superpositions]

theorem superpositions_didRead (other : Nat) :
    superpositions other (trace ++ [.didRead id now64 superposition]) =
      superpositions other trace ++
        if id = other then [superposition] else [] := by
  unfold superpositions
  rw [List.filterMap_append]
  split_ifs with same
  · simp [same]
  · simp [same]

/-- A further event is in lockstep if all earlier ones are. -/
theorem inLockstep_concat
    {nowStart64 : Int}
    {sppSize : Nat}
    {last : Event Signal}
    (earlier :
      ∀ before event after, trace = before ++ event :: after →
        event.InLockstep setup nowStart64 sppSize before)
    (fits : last.InLockstep setup nowStart64 sppSize trace)
    (before : List (Event Signal))
    (event : Event Signal)
    (after : List (Event Signal))
    (split : trace ++ [last] = before ++ event :: after) :
    event.InLockstep setup nowStart64 sppSize before := by
  rcases List.eq_nil_or_concat after with isEmpty | ⟨rest, final, isConcat⟩
  · rw [isEmpty] at split
    obtain ⟨isTrace, isEvent⟩ := List.append_inj' split rfl
    cases isEvent
    rw [← isTrace]
    exact fits
  · rw [isConcat, List.concat_eq_append, ← List.cons_append,
      ← List.append_assoc] at split
    obtain ⟨isTrace, -⟩ := List.append_inj' split rfl
    exact earlier before event rest isTrace

end Traces

/-- Parts of the system that do not concern a writing thread may change. -/
theorem TxFits.congr
    (fits : TxFits before id)
    (sameThread : after.tx id = before.tx id)
    (sameTime : after.vspace.timeAfter = before.vspace.timeAfter)
    (sameCnt : after.board.firstCnt id = before.board.firstCnt id)
    (flag :
      before.board.firstDone id = false → after.board.firstDone id = false) :
    TxFits after id := by
  unfold TxFits at fits ⊢
  rw [sameThread, sameTime, sameCnt]
  cases pc : (before.tx id).pc with
  | registering =>
      rw [pc] at fits
      exact fits
  | waitingForRx =>
      rw [pc] at fits
      exact fits
  | idle =>
      rw [pc] at fits
      exact fits
  | writable =>
      rw [pc] at fits
      exact ⟨fits.1, flag fits.2⟩

/-- Parts of the system that do not concern a reading thread may change. -/
theorem RxFits.congr
    (fits : RxFits before id)
    (sameThread : after.rx id = before.rx id)
    (samePassed : after.rxTimePassed id = before.rxTimePassed id)
    (sameTime : after.vspace.timeAfter = before.vspace.timeAfter)
    (sameCnt : after.board.secondCnt id = before.board.secondCnt id)
    (flag :
      before.board.secondDone id = false → after.board.secondDone id = false) :
    RxFits after id := by
  unfold RxFits at fits ⊢
  rw [sameThread, samePassed, sameTime, sameCnt]
  refine ⟨fits.1, ?_⟩
  have fits := fits.2
  cases pc : (before.rx id).pc with
  | waitingForTx =>
      rw [pc] at fits
      exact fits
  | registering =>
      rw [pc] at fits
      exact fits
  | waitingForRx =>
      rw [pc] at fits
      exact fits
  | idle =>
      rw [pc] at fits
      exact fits
  | readable =>
      rw [pc] at fits
      exact ⟨fits.1, flag fits.2⟩
  | copying =>
      rw [pc] at fits
      exact fits

variable {system : System Signal}

theorem RxFits.rxTimePassed_eq
    (fits : RxFits system id)
    (none : system.board.secondCnt id = 0) :
    system.rxTimePassed id = system.vspace.timeAfter 0 := by
  obtain ⟨passed, fits⟩ := fits
  rw [passed]
  cases pc : (system.rx id).pc with
  | waitingForTx =>
      rw [pc] at fits
      exact fits.elim
  | registering =>
      rw [pc] at fits
      exact fits.elim
  | waitingForRx =>
      rw [pc] at fits
      rw [← none]
      exact fits
  | idle =>
      rw [pc] at fits
      rw [← none]
      exact fits
  | readable =>
      rw [pc] at fits
      rw [← none]
      exact fits.1
  | copying =>
      rw [pc] at fits
      obtain ⟨rounds, isSucc, -⟩ := fits
      rw [none] at isSucc
      cases isSucc

variable {round id : Nat}

/-- A thread that may write does not fail. -/
theorem InRound.write_eq_ok
    (invariant : InRound setup system round)
    (bound : id < setup.n)
    (pc : (system.tx id).pc = .writable)
    (signal : Signal) :
    ∃ vspptx,
      system.vspace.vspptxVec id = some vspptx ∧
      system.vspace.write setup id (system.tx id).now64 signal =
        .ok
          { system.vspace with
            vspptxVec :=
              update system.vspace.vspptxVec id (some
                  { vspptx with
                    vspprxCounterpartRegistered := false
                    signal := some signal })
            statusTxWritten := (system.board.actFirst setup.n id).firstDone
            statusRxRead :=
              (system.board.actFirst setup.n id).secondDone } := by
  obtain ⟨vspptx, present, -⟩ := invariant.latest id bound
  have fits := invariant.tx id bound
  unfold TxFits at fits
  rw [pc] at fits
  obtain ⟨isTime, notWritten⟩ := fits
  rw [invariant.board.round_of_first bound notWritten] at isTime
  exact ⟨vspptx, present, Vspace.write_eq_ok signal notWritten
      (isTime.trans invariant.now64.symm) present⟩

/-- A thread that may read finds the signals of the round. -/
theorem InRound.wchannelExecute_eq_ok
    (invariant : InRound setup system round)
    (bound : id < setup.n)
    (notRead : system.board.secondDone id = false) :
    ∃ signal : Nat → Signal,
      (∀ other < setup.n,
        (signals other system.trace)[
            (superpositions id system.trace).length]? =
          some (signal other)) ∧
      system.vspace.wchannelExecute setup id =
        .ok (superimposed setup id signal) := by
  have written : ∀ other < setup.n, ∃ signal, (signals other system.trace)[
      (superpositions id system.trace).length]? = some signal ∧
        system.vspace.signalOf other = .ok signal := by
    intro other otherBound
    have counted : (signals other system.trace).length =
        (superpositions id system.trace).length + 1 :=
      invariant.board.firstCnt_eq bound notRead otherBound
    obtain ⟨vspptx, present, isLatest⟩ := invariant.latest other otherBound
    rw [List.getLast?_eq_getElem?, counted, Nat.add_sub_cancel] at isLatest
    have inside : (superpositions id system.trace).length <
        (signals other system.trace).length := by
      rw [counted]
      exact Nat.lt_succ_self _
    refine ⟨_, List.getElem?_eq_getElem inside, ?_⟩
    rw [List.getElem?_eq_getElem inside] at isLatest
    unfold Vspace.signalOf
    rw [Vspace.deref_eq_ok.mpr present, Checked.ok_bind, isLatest]
  have nonempty : Nonempty Signal := (written id bound).nonempty
  choose! signal isSignal using written
  exact ⟨signal, fun other otherBound => (isSignal other otherBound).1,
      Vspace.wchannelExecute_eq_ok invariant.graph bound
        fun other otherBound => (isSignal other otherBound).2⟩

/-- A thread that may read does not fail. -/
theorem InRound.read_eq_ok
    {superposition : Superposition Signal}
    (invariant : InRound setup system round)
    (bound : id < setup.n)
    (pc : (system.rx id).pc = .readable)
    (executed : system.vspace.wchannelExecute setup id = .ok superposition) :
    system.vspace.read setup id (system.rx id).now64 =
      .ok
        (superposition,
          { system.vspace with
            statusRxRead := (system.board.actSecond setup.n id).secondDone
            statusTxWritten := (system.board.actSecond setup.n id).firstDone
            now64 :=
              system.vspace.timeAfter (round + (Board.allDone setup.n
                  (update system.board.secondDone id true)).toNat) }) := by
  have fits := (invariant.rx id bound).2
  rw [pc] at fits
  obtain ⟨isTime, notRead⟩ := fits
  rw [invariant.board.round_of_second bound notRead] at isTime
  have advanced : system.vspace.timeAfter (round + (Board.allDone setup.n
      (update system.board.secondDone id true)).toNat) =
        system.vspace.now64 + (system.vspace.sppSizeCommon : Int) *
            ((Board.allDone setup.n
              (update system.board.secondDone id true)).toNat :
              Int) := by
    rw [invariant.now64]
    unfold Vspace.timeAfter
    push_cast
    ring
  rw [advanced]
  exact Vspace.read_eq_ok notRead (isTime.trans invariant.now64.symm) executed

theorem board_wrote
    {before : System Signal}
    {vspace : Vspace Signal}
    {tx : Nat → TxThread}
    {id : Nat}
    {now64 : Int}
    {signal : Signal}
    (statusTxWritten :
      vspace.statusTxWritten = (before.board.actFirst setup.n id).firstDone)
    (statusRxRead :
      vspace.statusRxRead = (before.board.actFirst setup.n id).secondDone) :
    System.board
        { before with
          vspace := vspace
          tx := tx
          trace := before.trace ++ [.wrote id now64 signal] } =
      before.board.actFirst setup.n id := by
  unfold System.board
  simp only [statusTxWritten, statusRxRead, superpositions_wrote,
    signals_wrote]
  unfold Board.actFirst
  congr 1
  funext other
  by_cases same : other = id
  · rw [same, update_self, if_pos rfl]
    exact List.length_append
  · rw [update_of_ne same, if_neg (Ne.symm same), List.append_nil]

theorem board_didRead
    {before : System Signal}
    {vspace : Vspace Signal}
    {rx : Nat → RxThread}
    {id : Nat}
    {now64 : Int}
    {superposition : Superposition Signal}
    (statusTxWritten :
      vspace.statusTxWritten = (before.board.actSecond setup.n id).firstDone)
    (statusRxRead :
      vspace.statusRxRead = (before.board.actSecond setup.n id).secondDone) :
    System.board
        { before with
          vspace := vspace
          rx := rx
          trace := before.trace ++ [.didRead id now64 superposition] } =
      before.board.actSecond setup.n id := by
  unfold System.board
  simp only [statusTxWritten, statusRxRead, superpositions_didRead,
    signals_didRead]
  unfold Board.actSecond
  congr 1
  funext other
  by_cases same : other = id
  · rw [same, update_self, if_pos rfl]
    exact List.length_append
  · rw [update_of_ne same, if_neg (Ne.symm same), List.append_nil]

/-- The time after one more round. -/
theorem Vspace.timeAfter_succ
    (vspace : Vspace Signal)
    (rounds : Nat) :
    vspace.timeAfter (rounds + 1) =
      vspace.timeAfter rounds + (vspace.sppSizeCommon : Int) := by
  unfold Vspace.timeAfter
  push_cast
  ring

/-- Writing stays in the round. -/
theorem InRound.write
    {before : System Signal}
    {round id : Nat}
    {signal : Signal}
    {vspptx : Vspptx Signal}
    (invariant : InRound setup before round)
    (bound : id < setup.n)
    (isTime :
      (before.tx id).now64 =
        before.vspace.timeAfter (before.board.firstCnt id))
    (notWritten : before.board.firstDone id = false) :
    InRound setup
      { before with
        vspace :=
          { before.vspace with
            vspptxVec :=
              update before.vspace.vspptxVec id (some
                  { vspptx with
                    vspprxCounterpartRegistered := false
                    signal := some signal })
            statusTxWritten := (before.board.actFirst setup.n id).firstDone
            statusRxRead := (before.board.actFirst setup.n id).secondDone }
        tx :=
          update before.tx id
            ⟨.idle, (before.tx id).now64 + (setup.sppSize id : Int)⟩
        trace := before.trace ++ [.wrote id (before.tx id).now64 signal] }
      round := by
  have isBoard :=
    @board_wrote Signal setup before
      { before.vspace with
        vspptxVec :=
          update before.vspace.vspptxVec id (some
              { vspptx with
                vspprxCounterpartRegistered := false
                signal := some signal })
        statusTxWritten := (before.board.actFirst setup.n id).firstDone
        statusRxRead := (before.board.actFirst setup.n id).secondDone }
      (update before.tx id
        ⟨.idle, (before.tx id).now64 + (setup.sppSize id : Int)⟩)
      id (before.tx id).now64 signal rfl rfl
  constructor
  · exact invariant.agreed
  · exact invariant.graph
  · rw [isBoard]
    exact invariant.board.actFirst bound notWritten
  · exact invariant.now64
  · intro other otherBound
    simp only [signals_wrote]
    by_cases same : other = id
    · rw [same, update_self, if_pos rfl]
      refine ⟨_, rfl, ?_⟩
      rw [List.getLast?_concat]
    · rw [update_of_ne same, if_neg (Ne.symm same), List.append_nil]
      exact invariant.latest other otherBound
  · intro other otherBound
    by_cases same : other = id
    · rw [same]
      unfold TxFits
      rw [isBoard]
      simp only [update_self, Board.actFirst]
      rw [isTime, invariant.agreed id bound]
      exact (before.vspace.timeAfter_succ _).symm
    · refine (invariant.tx other otherBound).congr
        (update_of_ne same _ _) rfl ?_ ?_
      · rw [isBoard]
        exact update_of_ne same _ _
      · intro flag
        rw [isBoard]
        exact (update_of_ne same _ _).trans flag
  · intro other otherBound
    refine (invariant.rx other otherBound).congr rfl rfl rfl ?_ ?_
    · rw [isBoard]
      rfl
    · intro flag
      rw [isBoard]
      unfold Board.actFirst
      simp only
      split
      · rfl
      · exact flag
  · refine inLockstep_concat invariant.lockstep ⟨bound, ?_, isTime⟩
    intro other otherBound
    exact invariant.board.secondCnt_eq bound notWritten otherBound

/-- Reading stays in the round or completes it. -/
theorem InRound.read
    {signal : Nat → Signal}
    (invariant : InRound setup before round)
    (bound : id < setup.n)
    (passed : before.rxTimePassed id = (before.rx id).now64)
    (isTime :
      (before.rx id).now64 =
        before.vspace.timeAfter (before.board.secondCnt id))
    (notRead : before.board.secondDone id = false)
    (present :
      ∀ other < setup.n,
        (signals other before.trace)[
            (superpositions id before.trace).length]? =
          some (signal other)) :
    InRound setup
      { before with
        vspace :=
          { before.vspace with
            statusRxRead := (before.board.actSecond setup.n id).secondDone
            statusTxWritten := (before.board.actSecond setup.n id).firstDone
            now64 :=
              before.vspace.timeAfter (round + (Board.allDone setup.n
                  (update before.board.secondDone id true)).toNat) }
        rx := update before.rx id ⟨.copying, (before.rx id).now64⟩
        trace :=
          before.trace ++
            [.didRead id (before.rx id).now64 (superimposed setup id signal)] }
      (round + (Board.allDone setup.n
          (update before.board.secondDone id true)).toNat) := by
  have isBoard :=
    @board_didRead Signal setup before
      { before.vspace with
        statusRxRead := (before.board.actSecond setup.n id).secondDone
        statusTxWritten := (before.board.actSecond setup.n id).firstDone
        now64 :=
          before.vspace.timeAfter (round + (Board.allDone setup.n
              (update before.board.secondDone id true)).toNat) }
      (update before.rx id ⟨.copying, (before.rx id).now64⟩)
      id (before.rx id).now64 (superimposed setup id signal) rfl rfl
  constructor
  · exact invariant.agreed
  · exact invariant.graph
  · rw [isBoard]
    exact invariant.board.actSecond bound notRead
  · rfl
  · intro other otherBound
    simp only [signals_didRead]
    exact invariant.latest other otherBound
  · intro other otherBound
    refine (invariant.tx other otherBound).congr rfl rfl ?_ ?_
    · rw [isBoard]
      rfl
    · intro flag
      rw [isBoard]
      unfold Board.actSecond
      simp only
      split
      · rfl
      · exact flag
  · intro other otherBound
    by_cases same : other = id
    · rw [same]
      unfold RxFits
      rw [isBoard]
      simp only [update_self, Board.actSecond]
      exact ⟨passed, _, rfl, isTime⟩
    · refine (invariant.rx other otherBound).congr
        (update_of_ne same _ _) rfl rfl ?_ ?_
      · rw [isBoard]
        exact update_of_ne same _ _
      · intro flag
        rw [isBoard]
        exact (update_of_ne same _ _).trans flag
  · refine inLockstep_concat invariant.lockstep
      ⟨bound, ?_, isTime, signal, present, rfl⟩
    intro other otherBound
    exact invariant.board.firstCnt_eq bound notRead otherBound

/-- Steps of a writing thread stay in the round. -/
theorem InRound.tx_step
    (all : before.vspace.allRxRegisteredAndInitsDone = true)
    (invariant : InRound setup before round)
    (bound : id < setup.n)
    (step : TxStep setup id before after) :
    Invariant setup after := by
  have fits := invariant.tx id bound
  unfold TxFits at fits
  cases step with
  | register vspace pc returned =>
      rw [pc] at fits
      exact fits.elim
  | start pc done =>
      rw [pc] at fits
      have none : before.board.secondCnt id = 0 :=
        Nat.le_zero.mp (fits ▸ invariant.board.secondCnt_le bound)
      have passed := (invariant.rx id bound).rxTimePassed_eq none
      refine .inRound round all { invariant with tx := ?_ }
      intro other otherBound
      by_cases same : other = id
      · rw [same]
        unfold TxFits
        simp only [update_self]
        rw [passed, ← fits]
        rfl
      · exact (invariant.tx other otherBound).congr
          (update_of_ne same _ _) rfl rfl fun flag => flag
  | waitWritable pc status =>
      rw [pc] at fits
      refine .inRound round all { invariant with tx := ?_ }
      intro other otherBound
      by_cases same : other = id
      · rw [same]
        unfold TxFits
        simp only [update_self]
        exact ⟨fits, status⟩
      · exact (invariant.tx other otherBound).congr
          (update_of_ne same _ _) rfl rfl fun flag => flag
  | write signal vspace pc returned =>
      obtain ⟨vspptx, present, written⟩ :=
        invariant.write_eq_ok bound pc signal
      rw [written] at returned
      cases returned
      rw [pc] at fits
      exact .inRound round all (invariant.write bound fits.1 fits.2)

/-- Steps of a reading thread stay in the round or complete it. -/
theorem InRound.rx_step
    (all : before.vspace.allRxRegisteredAndInitsDone = true)
    (invariant : InRound setup before round)
    (bound : id < setup.n)
    (step : RxStep setup id before after) :
    Invariant setup after := by
  obtain ⟨passed, fits⟩ := invariant.rx id bound
  cases step with
  | setTime time pc done =>
      rw [pc] at fits
      exact fits.elim
  | register vspace pc returned =>
      rw [pc] at fits
      exact fits.elim
  | start pc done =>
      rw [pc] at fits
      refine .inRound round all { invariant with rx := ?_ }
      intro other otherBound
      by_cases same : other = id
      · rw [same]
        unfold RxFits
        simp only [update_self]
        exact ⟨passed, fits⟩
      · exact (invariant.rx other otherBound).congr
          (update_of_ne same _ _) rfl rfl rfl fun flag => flag
  | waitReadable pc status =>
      rw [pc] at fits
      refine .inRound round all { invariant with rx := ?_ }
      intro other otherBound
      by_cases same : other = id
      · rw [same]
        unfold RxFits
        simp only [update_self]
        exact ⟨passed, fits, status⟩
      · exact (invariant.rx other otherBound).congr
          (update_of_ne same _ _) rfl rfl rfl fun flag => flag
  | read superposition vspace pc returned =>
      rw [pc] at fits
      obtain ⟨signal, present, executed⟩ :=
        invariant.wchannelExecute_eq_ok bound fits.2
      rw [invariant.read_eq_ok bound pc executed] at returned
      cases returned
      exact .inRound _ all (invariant.read bound passed fits.1 fits.2 present)
  | advance pc =>
      rw [pc] at fits
      obtain ⟨rounds, isSucc, isTime⟩ := fits
      refine .inRound round all { invariant with rx := ?_ }
      intro other otherBound
      by_cases same : other = id
      · rw [same]
        unfold RxFits
        simp only [update_self]
        refine ⟨trivial, ?_⟩
        rw [isTime, invariant.agreed id bound, ← Vspace.timeAfter_succ,
          ← isSucc]
        rfl
      · exact (invariant.rx other otherBound).congr (update_of_ne same _ _)
          (update_of_ne same _ _) rfl rfl fun flag => flag

/-- Every reachable state is in the registration or in a round. -/
theorem Reachable.invariant (reachable : Reachable setup system) :
    Invariant setup system := by
  induction reachable with
  | initial =>
      refine .inRegistration ⟨rfl, rfl, ?_, ?_, ?_, ?_⟩
      · intro id bound
        exact Or.inl ⟨rfl, rfl⟩
      · intro id bound
        exact Or.inl ⟨rfl, rfl⟩
      · intro id bound registered
        cases registered
      · intro done
        cases done
  | step reached step hypothesis =>
      cases step with
      | timeout => exact hypothesis
      | tx id _ bound step =>
          cases hypothesis with
          | inRegistration invariant =>
              exact .inRegistration (invariant.tx_step bound step)
          | inRound round all invariant =>
              exact invariant.tx_step all bound step
      | rx id _ bound step =>
          cases hypothesis with
          | inRegistration invariant => exact invariant.rx_step bound step
          | inRound round all invariant =>
              exact invariant.rx_step all bound step

theorem InRound.enabled
    [Inhabited Signal]
    {system : System Signal}
    {round : Nat}
    (all : system.vspace.allRxRegisteredAndInitsDone = true)
    (invariant : InRound setup system round) :
    ∃ id < setup.n, ∃ after,
      TxStep setup id system after ∨ RxStep setup id system after := by
  obtain ⟨id, bound, first | second⟩ := invariant.board.canAct
  · refine ⟨id, bound, ?_⟩
    have fits := invariant.tx id bound
    unfold TxFits at fits
    cases pc : (system.tx id).pc with
    | registering =>
        rw [pc] at fits
        exact fits.elim
    | waitingForRx => exact ⟨_, Or.inl (.start pc all)⟩
    | idle => exact ⟨_, Or.inl (.waitWritable pc first)⟩
    | writable =>
        obtain ⟨_, -, written⟩ := invariant.write_eq_ok bound pc default
        exact ⟨_, Or.inl (.write default _ pc written)⟩
  · refine ⟨id, bound, ?_⟩
    have fits := (invariant.rx id bound).2
    cases pc : (system.rx id).pc with
    | waitingForTx =>
        rw [pc] at fits
        exact fits.elim
    | registering =>
        rw [pc] at fits
        exact fits.elim
    | waitingForRx => exact ⟨_, Or.inr (.start pc all)⟩
    | idle => exact ⟨_, Or.inr (.waitReadable pc second)⟩
    | readable =>
        obtain ⟨signal, -, executed⟩ :=
          invariant.wchannelExecute_eq_ok bound second
        exact
          ⟨_, Or.inr (.read _ _ pc (invariant.read_eq_ok bound pc executed))⟩
    | copying => exact ⟨_, Or.inr (.advance pc)⟩

/-- Nobody is allowed to write or read before the registration is done. -/
theorem InRegistration.notAllowed
    (invariant : InRegistration setup system)
    (bound : id < setup.n) :
    (system.tx id).pc ≠ .writable ∧ (system.rx id).pc ≠ .readable := by
  constructor
  · intro writable
    rcases invariant.tx id bound with ⟨pc, -⟩ | ⟨pc, -⟩
    · rw [writable] at pc
      cases pc
    · rw [writable] at pc
      cases pc
  · intro readable
    rcases invariant.rx id bound with ⟨pc, -⟩ | ⟨-, ⟨pc, -⟩ | ⟨pc, -⟩⟩
    · rw [readable] at pc
      cases pc
    · rw [readable] at pc
      cases pc
    · rw [readable] at pc
      cases pc

/--
The virtual space is a lockstep barrier.  Every event of every run finds all
simulators in its round, threads that may write or read do not fail, the time
has advanced once for every round that all have completed, and after the
registration there is always a thread that can make a step.
-/
theorem virtualSpace_lockstep
    [Inhabited Signal]
    {system : System Signal}
    (reachable : Reachable setup system) :
    (∀ before event after,
      system.trace = before ++ event :: after →
        event.InLockstep setup system.vspace.nowStart64
          system.vspace.sppSizeCommon before) ∧
    (∀ id < setup.n, (system.tx id).pc = .writable → ∀ signal,
      ∃ vspace,
        system.vspace.write setup id (system.tx id).now64 signal =
          .ok vspace) ∧
    (∀ id < setup.n, (system.rx id).pc = .readable →
      ∃ superposition vspace,
        system.vspace.read setup id (system.rx id).now64 =
          .ok (superposition, vspace)) ∧
    (system.vspace.allRxRegisteredAndInitsDone = true →
      (∃ rounds : Nat,
        (∀ id < setup.n,
          rounds ≤ (superpositions id system.trace).length) ∧
        (∃ id < setup.n,
          (superpositions id system.trace).length = rounds) ∧
        system.vspace.now64 =
          system.vspace.nowStart64 +
            (system.vspace.sppSizeCommon : Int) * (rounds : Int)) ∧
      ∃ id < setup.n, ∃ after,
        TxStep setup id system after ∨ RxStep setup id system after) := by
  cases reachable.invariant with
  | inRegistration invariant =>
      refine ⟨?_, ?_, ?_, ?_⟩
      · intro before event after split
        simp [invariant.nothing] at split
      · intro id bound writable
        exact absurd writable (invariant.notAllowed bound).1
      · intro id bound readable
        exact absurd readable (invariant.notAllowed bound).2
      · intro all
        rw [invariant.notAll] at all
        cases all
  | inRound round all invariant =>
      refine ⟨invariant.lockstep, ?_, ?_, ?_⟩
      · intro id bound writable signal
        obtain ⟨_, -, written⟩ := invariant.write_eq_ok bound writable signal
        exact ⟨_, written⟩
      · intro id bound readable
        have fits := (invariant.rx id bound).2
        rw [readable] at fits
        obtain ⟨signal, -, executed⟩ :=
          invariant.wchannelExecute_eq_ok bound fits.2
        exact ⟨_, _, invariant.read_eq_ok bound readable executed⟩
      · intro _
        obtain ⟨least, attained⟩ := invariant.board.round_least setup.positive
        exact
          ⟨⟨round, least, attained, invariant.now64⟩,
            invariant.enabled all⟩

end

/-- Two simulators with pieces of four samples. -/
def twoSimulators : Setup where
  nofHwSimulator := 2
  positive := by decide
  sampRate _ := 1728000
  sppSize _ := 4

/-- The second one of two simulators reads what both have written. -/
theorem virtualSpace_lockstep_twoSimulators :
    ∃ system : System Nat,
      Reachable twoSimulators system ∧
      system.trace =
        [.wrote 0 9 7, .wrote 1 9 8,
          .didRead 1 9 ⟨[(⟨0, 1⟩, 7)], (⟨1, 1⟩, 8)⟩] ∧
      Event.InLockstep twoSimulators 9 4 [.wrote 0 9 7, .wrote 1 9 8]
        (.didRead 1 9 ⟨[(⟨0, 1⟩, 7)], (⟨1, 1⟩, 8)⟩) ∧
      ∃ id < twoSimulators.n, ∃ after,
        TxStep twoSimulators id system after ∨
          RxStep twoSimulators id system after := by
  have zero : 0 < twoSimulators.n := by
    decide
  have one : 1 < twoSimulators.n := by
    decide
  have reached : Reachable twoSimulators (.initial : System Nat) := .initial
  have reached := reached.step (.tx 0 _ zero (.register _ rfl rfl))
  have reached := reached.step (.tx 1 _ one (.register _ rfl rfl))
  have reached := reached.step (.rx 0 _ zero (.setTime 9 rfl rfl))
  have reached := reached.step (.rx 0 _ zero (.register _ rfl rfl))
  have reached := reached.step (.rx 1 _ one (.setTime 9 rfl rfl))
  have reached := reached.step (.rx 1 _ one (.register _ rfl rfl))
  have reached := reached.step (.tx 0 _ zero (.start rfl rfl))
  have reached := reached.step (.tx 0 _ zero (.waitWritable rfl rfl))
  have reached := reached.step (.tx 0 _ zero (.write 7 _ rfl rfl))
  have reached := reached.step (.tx 1 _ one (.start rfl rfl))
  have reached := reached.step (.tx 1 _ one (.waitWritable rfl rfl))
  have reached := reached.step (.tx 1 _ one (.write 8 _ rfl rfl))
  have reached := reached.step (.rx 1 _ one (.start rfl rfl))
  have reached := reached.step (.rx 1 _ one (.waitReadable rfl rfl))
  have reached := reached.step (.rx 1 _ one (.read _ _ rfl rfl))
  obtain ⟨lockstep, -, -, rounds⟩ := virtualSpace_lockstep reached
  exact
    ⟨_, reached, rfl, lockstep [.wrote 0 9 7, .wrote 1 9 8] _ [] rfl,
      (rounds rfl).2⟩

end Simulation

end DectNrp
