import Mathlib.Logic.Function.Basic
import Rotation.Cast.Lock

/-!
# Mutual exclusion

Any number of clients share one lock.  Each tries to take it, waits for it until a
deadline or until it is cancelled, and drops the guard that it was given; they do so
in any order, while time passes.  Dropping a guard clears the lock without a look at
who holds it.  That this never takes the lock from somebody else rests on an
invariant: the guards that exist are exactly those of the holder.
-/

namespace Rotation

namespace CastLock

variable {l l' : CastLock} {owner : String} {deadline poll now : Nat} {cancelled : Bool}
  {why : Contention}

theorem tryAcquire_eq_error_iff :
    l.tryAcquire owner = .error why ↔ ∃ holder, l.holder = some holder ∧ why = .busy holder := by
  unfold tryAcquire
  cases l.holder <;> simp [eq_comm]

theorem look_eq_taken_iff :
    l.look owner deadline poll now cancelled = .taken l' ↔
      l.holder = none ∧ l' = ⟨some owner⟩ := by
  unfold look
  cases l.holder with
  | none => simp [eq_comm]
  | some holder =>
      dsimp only
      split
      · simp
      · split <;> simp

theorem look_eq_refused_iff :
    l.look owner deadline poll now cancelled = .refused why ↔
      ∃ holder, l.holder = some holder ∧
        (cancelled = true ∧ why = .cancelled ∨
          cancelled = false ∧ deadline ≤ now ∧ why = .timedOut holder) := by
  unfold look
  cases l.holder with
  | none => simp
  | some holder =>
      cases cancelled with
      | true => simp [eq_comm]
      | false => by_cases late : deadline ≤ now <;> simp [late, eq_comm]

end CastLock

/-- The right of a client to cast under the name of an owner. -/
structure CastGuard (ι : Type) where
  client : ι
  owner : String
  deriving DecidableEq

/-- How a client waits for the lock: for which owner, until when, how often it looks
and what cancels it. -/
structure LockWait (κ : Type) where
  owner : String
  deadline : Nat
  poll : Nat
  token : κ

/-- A lock among its clients: the time, the tokens that are cancelled, the clients
that wait, and the guards that exist. -/
structure Contest (ι κ : Type) where
  lock : CastLock
  now : Nat
  cancelled : κ → Bool
  waiting : ι → Option (LockWait κ)
  guards : List (CastGuard ι)

namespace Contest

/-- What may happen next: a client tries to take the lock, begins to wait for it or
looks at it while it waits, a guard is dropped, a token is cancelled, time passes. -/
inductive Move (ι κ : Type) where
  | tries (client : ι) (owner : String)
  | begins (client : ι) (owner : String) (timeout poll : Nat) (token : κ)
  | looks (client : ι)
  | drops (guard : CastGuard ι)
  | cancels (token : κ)
  | passes (ms : Nat)

/-- What a client that asked for the lock is told. -/
inductive Answer where
  | granted
  | refused (why : Contention)
  | waits (ms : Nat)
  deriving DecidableEq

/-- Nobody has asked for the lock. -/
def start {ι κ : Type} (now : Nat) (cancelled : κ → Bool) : Contest ι κ :=
  { lock := .free, now, cancelled, waiting := fun _ => none, guards := [] }

section

variable {ι κ : Type}

/-- A client is given a guard with the lock. -/
def grant (c : Contest ι κ) (client : ι) (owner : String) (lock : CastLock) : Contest ι κ :=
  { c with lock, guards := c.guards ++ [⟨client, owner⟩] }

/-- A client tries to take the lock. -/
def tryAcquire (c : Contest ι κ) (client : ι) (owner : String) : Answer × Contest ι κ :=
  match c.lock.tryAcquire owner with
  | .ok lock => (.granted, c.grant client owner lock)
  | .error why => (.refused why, c)

/-- The guards that exist are those of the holder. -/
def Settled (c : Contest ι κ) : Prop :=
  c.guards.map CastGuard.owner = c.lock.holder.toList

variable {c : Contest ι κ} {client : ι} {owner : String} {why : Contention}

/-- A client has asked for the lock and has been given the only guard, in the name of an
owner. -/
def Obtains (client : ι) (owner : String) (result : Answer × Contest ι κ) : Prop :=
  result.1 = .granted ∧ result.2.guards = [⟨client, owner⟩]

theorem settled_start (now : Nat) (cancelled : κ → Bool) :
    (start now cancelled : Contest ι κ).Settled :=
  rfl

theorem guards_of_free (settled : c.Settled) (free : c.lock.holder = none) : c.guards = [] := by
  rw [Settled, free] at settled
  exact List.map_eq_nil_iff.mp settled

/-- The only guard is that of the holder. -/
theorem exists_guards_of_held (settled : c.Settled) {holder : String}
    (held : c.lock.holder = some holder) : ∃ client, c.guards = [⟨client, holder⟩] := by
  rw [Settled, held] at settled
  obtain ⟨⟨client, owner⟩, guards_eq, rfl⟩ := List.map_eq_singleton_iff.mp settled
  exact ⟨client, guards_eq⟩

theorem guards_grant (settled : c.Settled) (free : c.lock.holder = none) (client : ι)
    (owner : String) (lock : CastLock) :
    (c.grant client owner lock).guards = [⟨client, owner⟩] := by
  rw [Contest.grant, guards_of_free settled free]
  rfl

theorem Settled.grant (settled : c.Settled) (free : c.lock.holder = none) (client : ι)
    (owner : String) : (c.grant client owner ⟨some owner⟩).Settled := by
  rw [Settled, guards_grant settled free]
  rfl

theorem tryAcquire_of_free (free : c.lock.holder = none) (client : ι) (owner : String) :
    c.tryAcquire client owner = (.granted, c.grant client owner ⟨some owner⟩) := by
  rw [tryAcquire, CastLock.tryAcquire_eq_ok_iff.mpr ⟨free, rfl⟩]

theorem obtains_of_tryAcquire (settled : c.Settled) (free : c.lock.holder = none) (client : ι)
    (owner : String) : Obtains client owner (c.tryAcquire client owner) := by
  rw [tryAcquire_of_free free]
  exact ⟨rfl, guards_grant settled free client owner _⟩

/-- Who is refused the lock at once is told the holder, and nothing changes. -/
theorem refused_of_tryAcquire (refused : (c.tryAcquire client owner).1 = .refused why) :
    (c.tryAcquire client owner).2 = c ∧
      ∃ holder, c.lock.holder = some holder ∧ why = .busy holder := by
  unfold tryAcquire at refused ⊢
  split at refused
  · contradiction
  · rename_i contention busy
    cases refused
    exact ⟨rfl, CastLock.tryAcquire_eq_error_iff.mp busy⟩

theorem Settled.tryAcquire (settled : c.Settled) (client : ι) (owner : String) :
    (c.tryAcquire client owner).2.Settled := by
  cases holder : c.lock.holder with
  | none =>
      rw [tryAcquire_of_free holder]
      exact settled.grant holder client owner
  | some other =>
      rw [Contest.tryAcquire, CastLock.tryAcquire_eq_error_iff.mpr ⟨other, holder, rfl⟩]
      exact settled

end

/-! ## Waiting and dropping -/

section

variable {ι κ : Type} [DecidableEq ι]

/-- A client begins to wait, unless it does so already. -/
def begin (c : Contest ι κ) (client : ι) (wait : LockWait κ) : Contest ι κ :=
  if (c.waiting client).isSome then c
  else { c with waiting := Function.update c.waiting client (some wait) }

/-- A client no longer waits. -/
def leave (c : Contest ι κ) (client : ι) : Contest ι κ :=
  { c with waiting := Function.update c.waiting client none }

/-- A client that waits looks at the lock. -/
def look (c : Contest ι κ) (client : ι) (wait : LockWait κ) : Answer × Contest ι κ :=
  match c.lock.look wait.owner wait.deadline wait.poll c.now (c.cancelled wait.token) with
  | .taken lock => (.granted, (c.grant client wait.owner lock).leave client)
  | .refused why => (.refused why, c.leave client)
  | .wait ms => (.waits ms, c)

/-- A guard is dropped, if it exists. -/
def drop (c : Contest ι κ) (guard : CastGuard ι) : Contest ι κ :=
  if guard ∈ c.guards then
    { c with lock := c.lock.release, guards := c.guards.erase guard }
  else c

variable {c : Contest ι κ} {client : ι} {wait : LockWait κ} {why : Contention}

theorem Settled.begin (settled : c.Settled) (client : ι) (wait : LockWait κ) :
    (c.begin client wait).Settled := by
  unfold Contest.begin
  split <;> exact settled

/-- Neither the deadline nor a cancelled token keeps a client from a free lock. -/
theorem look_of_free (free : c.lock.holder = none) (client : ι) (wait : LockWait κ) :
    c.look client wait =
      (.granted, (c.grant client wait.owner ⟨some wait.owner⟩).leave client) := by
  rw [look, CastLock.look_eq_taken_iff.mpr ⟨free, rfl⟩]

theorem obtains_of_look (settled : c.Settled) (free : c.lock.holder = none) (client : ι)
    (wait : LockWait κ) : Obtains client wait.owner (c.look client wait) := by
  rw [look_of_free free]
  exact ⟨rfl, guards_grant settled free client wait.owner ⟨some wait.owner⟩⟩

/-- Who has waited in vain is told the holder, unless its wait has been cancelled, and
nothing changes but that it no longer waits. -/
theorem refused_of_look (refused : (c.look client wait).1 = .refused why) :
    (c.look client wait).2 = c.leave client ∧
      ∃ holder, c.lock.holder = some holder ∧
        (c.cancelled wait.token = true ∧ why = .cancelled ∨
          wait.deadline ≤ c.now ∧ why = .timedOut holder) := by
  unfold look at refused ⊢
  split at refused
  · contradiction
  · rename_i contention found
    cases refused
    obtain ⟨holder, held, cancelled | ⟨_, late⟩⟩ := CastLock.look_eq_refused_iff.mp found
    · exact ⟨rfl, holder, held, .inl cancelled⟩
    · exact ⟨rfl, holder, held, .inr late⟩
  · contradiction

theorem Settled.look (settled : c.Settled) (client : ι) (wait : LockWait κ) :
    (c.look client wait).2.Settled := by
  unfold Contest.look
  split
  · rename_i lock taken
    obtain ⟨free, rfl⟩ := CastLock.look_eq_taken_iff.mp taken
    exact settled.grant free client wait.owner
  · exact settled
  · exact settled

/-- There is no other guard than the one that is dropped. -/
theorem drop_of_mem (settled : c.Settled) {guard : CastGuard ι} (mem : guard ∈ c.guards) :
    c.drop guard = { c with lock := .free, guards := [] } := by
  cases holder : c.lock.holder with
  | none =>
      rw [guards_of_free settled holder] at mem
      contradiction
  | some owner =>
      obtain ⟨client, guards_eq⟩ := exists_guards_of_held settled holder
      have same : guard = ⟨client, owner⟩ := by
        rw [guards_eq] at mem
        exact List.mem_singleton.mp mem
      rw [drop, if_pos mem, guards_eq, same, List.erase_cons_head]
      rfl

theorem Settled.drop (settled : c.Settled) (guard : CastGuard ι) : (c.drop guard).Settled := by
  by_cases mem : guard ∈ c.guards
  · rw [drop_of_mem settled mem]
    rfl
  · rw [Contest.drop, if_neg mem]
    exact settled

end

/-! ## Moves -/

variable {ι κ : Type} [DecidableEq ι] [DecidableEq κ]

/-- What a move is answered, if it asks for the lock, and what comes of it. -/
def move (c : Contest ι κ) : Move ι κ → Option Answer × Contest ι κ
  | .tries client owner => (c.tryAcquire client owner).map some id
  | .begins client owner timeout poll token =>
    (none, c.begin client ⟨owner, c.now + timeout, poll, token⟩)
  | .looks client =>
    match c.waiting client with
    | none => (none, c)
    | some wait => (c.look client wait).map some id
  | .drops guard => (none, c.drop guard)
  | .cancels token => (none, { c with cancelled := Function.update c.cancelled token true })
  | .passes ms => (none, { c with now := c.now + ms })

/-- What comes of moves one after the other. -/
def play (c : Contest ι κ) (moves : List (Move ι κ)) : Contest ι κ :=
  moves.foldl (fun c m => (c.move m).2) c

theorem Settled.move {c : Contest ι κ} (settled : c.Settled) (m : Move ι κ) :
    (c.move m).2.Settled := by
  cases m with
  | tries client owner => exact settled.tryAcquire client owner
  | begins client owner timeout poll token => exact settled.begin client _
  | looks client =>
      simp only [Contest.move]
      split
      · exact settled
      · exact settled.look client _
  | drops guard => exact settled.drop guard
  | cancels token => exact settled
  | passes ms => exact settled

theorem Settled.play {c : Contest ι κ} (settled : c.Settled) (moves : List (Move ι κ)) :
    (c.play moves).Settled := by
  induction moves generalizing c with
  | nil => exact settled
  | cons m rest ih => exact ih (settled.move m)

/-- The lock is mutually exclusive, whatever its clients do in whatever order.  There is
at most one guard, and the lock is held exactly by the owner of it.  A client that is
refused the lock changes nothing and is told the holder, if it was not cancelled.
A free lock is given to whoever asks: to who waits for it also at its deadline and when
it is cancelled.  It is free once a guard has been dropped. -/
theorem play_excludes (now : Nat) (cancelled : κ → Bool) (moves : List (Move ι κ)) :
    let c : Contest ι κ := (start now cancelled).play moves
    (c.guards.length ≤ 1 ∧
      ∀ owner, c.lock.holder = some owner ↔ ∃ client, c.guards = [⟨client, owner⟩]) ∧
    (∀ client owner why, (c.tryAcquire client owner).1 = .refused why →
      (c.tryAcquire client owner).2 = c ∧
        ∃ holder, c.lock.holder = some holder ∧ why = .busy holder) ∧
    (∀ client wait why, (c.look client wait).1 = .refused why →
      (c.look client wait).2 = c.leave client ∧
        ∃ holder, c.lock.holder = some holder ∧
          (c.cancelled wait.token = true ∧ why = .cancelled ∨
            wait.deadline ≤ c.now ∧ why = .timedOut holder)) ∧
    (c.lock.holder = none →
      (∀ client owner, Obtains client owner (c.tryAcquire client owner)) ∧
        ∀ client wait, Obtains client wait.owner (c.look client wait)) ∧
    ∀ guard ∈ c.guards, (c.drop guard).lock.holder = none ∧
      (∀ client owner, Obtains client owner ((c.drop guard).tryAcquire client owner)) ∧
        ∀ client wait, Obtains client wait.owner ((c.drop guard).look client wait) := by
  intro c
  have settled : c.Settled := (settled_start now cancelled).play moves
  refine ⟨⟨?_, ?_⟩, fun _ _ _ => refused_of_tryAcquire, fun _ _ _ => refused_of_look, ?_, ?_⟩
  · rw [← List.length_map CastGuard.owner, settled]
    exact Option.length_toList_le
  · intro owner
    constructor
    · exact exists_guards_of_held settled
    · rintro ⟨client, guards_eq⟩
      rw [Settled, guards_eq] at settled
      exact Option.toList_eq_singleton_iff.mp settled.symm
  · intro free
    exact ⟨obtains_of_tryAcquire settled free, obtains_of_look settled free⟩
  · intro guard mem
    have freed : (c.drop guard).lock.holder = none := by
      rw [drop_of_mem settled mem]
      rfl
    have still : (c.drop guard).Settled := settled.drop guard
    exact ⟨freed, obtains_of_tryAcquire still freed, obtains_of_look still freed⟩

/-- Client 1 still gets the lock when it looks too late and cancelled. -/
example : ((start 0 fun _ => false : Contest (Fin 2) Unit).play
    [.tries 0 "a", .begins 1 "b" 5 1 (), .looks 1, .passes 9, .cancels (), .drops ⟨0, "a"⟩,
      .looks 1]).guards = [⟨1, "b"⟩] := by
  rfl

end Contest

end Rotation
