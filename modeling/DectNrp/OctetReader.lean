import DectNrp.Octets

namespace DectNrp

/-!
# Programs that read octets

A reader of a received message loads one octet after the other and may choose
the next address by what it has loaded so far.  The same reader is evaluated
on a memory, where every address can be loaded, and run on a range of octets,
where loading beyond the end is a fault.  Both agree as long as the reader
stays within the range.
-/

/-- A program that loads octets and returns a value. -/
inductive OctetReader (Value : Type) where
  /-- Return a value. -/
  | done (value : Value)
  /-- Load the octet at an address and continue with it. -/
  | load (address : Nat) (next : UInt8 → OctetReader Value)

namespace OctetReader

/-- Continue a reader with what it returned. -/
protected def bind
    {First Second : Type}
    (first : OctetReader First)
    (next : First → OctetReader Second) :
    OctetReader Second :=
  match first with
  | done value => next value
  | load address continued =>
      load address fun octet => (continued octet).bind next

instance : Monad OctetReader where
  pure := done
  bind := OctetReader.bind

variable {Value First Second : Type}

/-- What a reader returns on a memory. -/
def eval (memory : Memory) : OctetReader Value → Value
  | done value => value
  | load address next => (next (memory address)).eval memory

/-- On a memory, a reader loads addresses below a limit only. -/
def Within
    (memory : Memory)
    (limit : Nat) :
    OctetReader Value → Prop
  | done _ => True
  | load address next =>
      address < limit ∧ (next (memory address)).Within memory limit

/-- Run a reader on a range of octets. -/
def run (octets : List UInt8) : OctetReader Value → Checked Value
  | done value => .ok value
  | load address next => do
      let octet ← loadOctet octets address
      (next octet).run octets

/-- Readers that follow each other may be grouped in any way. -/
theorem bind_assoc
    {Third : Type}
    (first : OctetReader First)
    (second : First → OctetReader Second)
    (third : Second → OctetReader Third) :
    (first >>= second) >>= third =
      first >>= fun value => second value >>= third := by
  induction first with
  | done value => rfl
  | load address continued hypothesis =>
      exact congrArg (load address) (funext hypothesis)

variable (memory : Memory)

@[simp] theorem eval_pure
    (value : Value) :
    (pure value : OctetReader Value).eval memory = value :=
  rfl

@[simp] theorem eval_bind
    (first : OctetReader First)
    (next : First → OctetReader Second) :
    (first >>= next).eval memory = (next (first.eval memory)).eval memory := by
  induction first with
  | done value => rfl
  | load address continued hypothesis => exact hypothesis (memory address)

@[simp] theorem within_pure
    (limit : Nat)
    (value : Value) :
    (pure value : OctetReader Value).Within memory limit :=
  trivial

/-- A sequence stays within a limit if both of its parts do. -/
@[simp] theorem within_bind
    (limit : Nat)
    (first : OctetReader First)
    (next : First → OctetReader Second) :
    (first >>= next).Within memory limit ↔
      first.Within memory limit ∧
        (next (first.eval memory)).Within memory limit := by
  induction first with
  | done value => exact (iff_of_eq (true_and _)).symm
  | load address continued hypothesis =>
      change address < limit ∧
          ((continued (memory address)) >>= next).Within memory limit ↔ _
      rw [hypothesis, ← and_assoc]
      rfl

variable
  {memory : Memory}
  {reader : OctetReader Value}

variable {limit : Nat}

/-- On a window, a reader returns its value exactly if it stays inside. -/
theorem run_window_eq_ok
    {value : Value} :
    reader.run (memory.window 0 limit) = .ok value ↔
      reader.Within memory limit ∧ reader.eval memory = value := by
  induction reader with
  | done returned => simp [run, Within, eval]
  | load address next hypothesis =>
      rw [run, Within, eval]
      by_cases inside : address < limit
      · rw [Memory.loadOctet_window inside, Checked.ok_bind,
          hypothesis, and_iff_right inside]
      · simp [loadOctet, inside]

/-- A reader that stays inside of a window returns its value. -/
theorem run_window (within : reader.Within memory limit) :
    reader.run (memory.window 0 limit) = .ok (reader.eval memory) :=
  run_window_eq_ok.mpr ⟨within, rfl⟩

/-- Run a reader that decides on its own whether it fails. -/
def check
    (reader : OctetReader (Checked Value))
    (octets : List UInt8) :
    Checked Value := do
  let returned ← reader.run octets
  returned

theorem check_window_eq_ok
    {reader : OctetReader (Checked Value)}
    {value : Value} :
    reader.check (memory.window 0 limit) = .ok value ↔
      reader.Within memory limit ∧ reader.eval memory = .ok value := by
  unfold check
  simp only [Checked.bind_eq_ok, run_window_eq_ok]
  constructor
  · rintro ⟨_, ⟨within, rfl⟩, returned⟩
    exact ⟨within, returned⟩
  · rintro ⟨within, returned⟩
    exact ⟨_, ⟨within, rfl⟩, returned⟩

/-- Load one octet. -/
def octet (address : Nat) : OctetReader UInt8 :=
  load address done

@[simp] theorem eval_octet
    (address : Nat) :
    (octet address).eval memory = memory address := by
  rw [octet, eval, eval]

@[simp] theorem within_octet
    (limit address : Nat) :
    (octet address).Within memory limit ↔ address < limit :=
  iff_of_eq (and_true _)

/-- Load consecutive octets. -/
def octets (start : Nat) : Nat → OctetReader (List UInt8)
  | 0 => pure []
  | size + 1 => do
      let first ← octet start
      let rest ← octets (start + 1) size
      pure (first :: rest)

@[simp] theorem eval_octets
    (start size : Nat) :
    (octets start size).eval memory = memory.window start size := by
  induction size generalizing start with
  | zero => rfl
  | succ size hypothesis =>
      rw [octets, eval_bind, eval_bind, hypothesis,
        Nat.add_comm size 1, Memory.window_add]
      rfl

/-- Consecutive octets are within a limit if their end is. -/
theorem within_octets
    {limit start size : Nat}
    (inside : start + size ≤ limit) :
    (octets start size).Within memory limit := by
  induction size generalizing start with
  | zero => trivial
  | succ size hypothesis =>
      rw [octets, within_bind, within_bind, within_octet]
      exact ⟨by omega, hypothesis (by omega), trivial⟩

/-- The value of consecutive octets, most significant octet first. -/
def b2lLower (start nByte : Nat) : OctetReader Nat := do
  let read ← octets start nByte
  pure (fromBigEndian read)

@[simp] theorem eval_b2lLower
    (start nByte : Nat) :
    (b2lLower start nByte).eval memory =
      fromBigEndian (memory.window start nByte) := by
  rw [b2lLower, eval_bind, eval_octets, eval_pure]

theorem within_b2lLower
    {limit start nByte : Nat}
    (inside : start + nByte ≤ limit) :
    (b2lLower start nByte).Within memory limit := by
  rw [b2lLower, within_bind]
  exact ⟨within_octets inside, trivial⟩

/-- A reader loads the octet in front of an address and none behind it. -/
def ReadsUpTo
    (reader : OctetReader Value)
    (memory : Memory)
    (address : Nat) :
    Prop :=
  ∀ limit, reader.Within memory limit ↔ address ≤ limit

/-- A reader reads up to one address only. -/
theorem ReadsUpTo.unique
    {first second : Nat}
    (readsFirst : reader.ReadsUpTo memory first)
    (readsSecond : reader.ReadsUpTo memory second) :
    first = second :=
  Nat.le_antisymm
    ((readsFirst second).mp ((readsSecond second).mpr (Nat.le_refl _)))
    ((readsSecond first).mp ((readsFirst first).mpr (Nat.le_refl _)))

/-- Some consecutive octets are within a limit exactly if their end is. -/
theorem within_octets_succ_iff
    {limit start size : Nat} :
    (octets start (size + 1)).Within memory limit ↔
      start + (size + 1) ≤ limit := by
  refine ⟨?_, within_octets⟩
  induction size generalizing start with
  | zero =>
      rintro ⟨inside, -⟩
      exact inside
  | succ size hypothesis =>
      intro within
      rw [octets, within_bind, within_bind] at within
      have rest := hypothesis within.2.1
      omega

end OctetReader

end DectNrp
