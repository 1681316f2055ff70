/-!
# The cast lock

At most one cast is under way at any time: who casts holds the lock.  A client
that may wait looks at the lock again and again, and a look at a free lock
always takes it, even at the deadline or after a stop.
-/

namespace Rotation

/-- The cast lock and who holds it. -/
structure CastLock where
  holder : Option String
  deriving DecidableEq, Repr, Inhabited

/-- Why the lock was not obtained. -/
inductive Contention where
  | busy (holder : String)
  | timedOut (holder : String)
  | cancelled
  deriving DecidableEq, Repr

/-- The code under which a contention is reported. -/
def Contention.reason : Contention → String
  | .busy _ => "lock_busy"
  | .timedOut _ => "lock_timeout"
  | .cancelled => "stopped"

/-- What a waiting client finds when it looks at the lock. -/
inductive LockLook where
  | taken (lock : CastLock)
  | refused (why : Contention)
  | wait (ms : Nat)
  deriving DecidableEq, Repr

namespace CastLock

/-- The lock that nobody holds. -/
def free : CastLock :=
  ⟨none⟩

/-- Take the lock for an owner, if it is free. -/
def tryAcquire (l : CastLock) (owner : String) : Except Contention CastLock :=
  match l.holder with
  | some holder => .error (.busy holder)
  | none => .ok ⟨some owner⟩

/-- One look of a client that waits for the lock until a deadline, and how long
it rests before the next one. -/
def look (l : CastLock) (owner : String) (deadline poll now : Nat) (cancelled : Bool) : LockLook :=
  match l.holder with
  | none => .taken ⟨some owner⟩
  | some holder =>
    if cancelled then .refused .cancelled
    else if deadline ≤ now then .refused (.timedOut holder)
    else .wait (max 1 (min poll (deadline - now)))

/-- The lock after its holder has let go of it. -/
def release (_ : CastLock) : CastLock :=
  free

theorem tryAcquire_eq_ok_iff {l l' : CastLock} {owner : String} :
    l.tryAcquire owner = .ok l' ↔ l.holder = none ∧ l' = ⟨some owner⟩ := by
  unfold tryAcquire
  cases l.holder <;> simp [eq_comm]

end CastLock

end Rotation
