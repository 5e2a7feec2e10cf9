import DectNrp.Octets

namespace DectNrp

/-!
# Two-level lock

The outer lock says that an object is in use at all, the inner lock that
somebody is working with it.  The inner lock is only taken inside of the outer
one.
-/

/-- State of the two locks. -/
structure LockableOuterInner where
  outer : Bool
  inner : Bool
  deriving Repr, DecidableEq

namespace LockableOuterInner

/-- Neither lock is held. -/
def unlocked : LockableOuterInner where
  outer := false
  inner := false

/-- Take the outer lock unless it is held already. -/
def tryLockOuter
    (lock : LockableOuterInner) :
    Checked (Bool × LockableOuterInner) :=
  if ¬ lock.outer then do
    dectnrpAssert (¬ lock.inner) "incorrect lock state"
    pure (true, { lock with outer := true })
  else
    pure (false, lock)

/-- Take the inner lock. -/
def lockInner
    (lock : LockableOuterInner) :
    Checked LockableOuterInner := do
  dectnrpAssert lock.outer "incorrect lock state"
  dectnrpAssert (¬ lock.inner) "incorrect lock state"
  pure { lock with inner := true }

/-- Release the outer lock. -/
def unlockOuter
    (lock : LockableOuterInner) :
    Checked LockableOuterInner := do
  dectnrpAssert lock.outer "incorrect lock state"
  dectnrpAssert (¬ lock.inner) "incorrect lock state"
  pure { lock with outer := false }

/-- Release the inner lock. -/
def unlockInner
    (lock : LockableOuterInner) :
    Checked LockableOuterInner := do
  dectnrpAssert lock.outer "incorrect lock state"
  dectnrpAssert lock.inner "incorrect lock state"
  pure { lock with inner := false }

/-- Both locks are held. -/
def isOuterLockedInnerLocked (lock : LockableOuterInner) : Bool :=
  lock.outer && lock.inner

theorem tryLockOuter_eq_ok
    {lock after : LockableOuterInner}
    {locked : Bool}
    (returned : lock.tryLockOuter = .ok (locked, after)) :
    (locked = true ∧ lock = ⟨false, false⟩ ∧ after = ⟨true, false⟩) ∨
      (locked = false ∧ lock.outer = true ∧ after = lock) := by
  rcases lock with ⟨outer, inner⟩
  cases outer with
  | false =>
      cases inner with
      | false =>
          cases returned
          exact Or.inl ⟨rfl, rfl, rfl⟩
      | true => cases returned
  | true =>
      cases returned
      exact Or.inr ⟨rfl, rfl, rfl⟩

theorem lockInner_eq_ok
    {lock after : LockableOuterInner} :
    lock.lockInner = .ok after ↔
      lock = ⟨true, false⟩ ∧ after = ⟨true, true⟩ := by
  rcases lock with ⟨outer, inner⟩
  cases outer <;> cases inner <;> simp [lockInner, eq_comm]

theorem unlockOuter_eq_ok
    {lock after : LockableOuterInner} :
    lock.unlockOuter = .ok after ↔
      lock = ⟨true, false⟩ ∧ after = ⟨false, false⟩ := by
  rcases lock with ⟨outer, inner⟩
  cases outer <;> cases inner <;> simp [unlockOuter, eq_comm]

theorem unlockInner_eq_ok
    {lock after : LockableOuterInner} :
    lock.unlockInner = .ok after ↔
      lock = ⟨true, true⟩ ∧ after = ⟨true, false⟩ := by
  rcases lock with ⟨outer, inner⟩
  cases outer <;> cases inner <;> simp [unlockInner, eq_comm]

end LockableOuterInner

end DectNrp
