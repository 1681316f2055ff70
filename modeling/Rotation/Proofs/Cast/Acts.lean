import Rotation.Proofs.Attempt.Replay
import Rotation.Proofs.Cast.Live
import Rotation.Proofs.Condition.Footprint

/-!
# What live computations do

A live computation does one thing to its session after the other: it looks at
the screen, presses a key, operates on the store, tells of an event.  None of
this depends on who listens: on another bus a computation does the same and
comes to the same result.  So what it tells can be heard on a new channel.
-/

namespace Rotation

/-- The session on another bus. -/
def Session.on {σ : Type} (s : Session σ) (bus : Bus) : Session σ :=
  { s with bus }

namespace Bus

/-- The bus of a single listener. -/
def recorder : Bus :=
  empty.openChannel.2

/-- What the single listener has heard. -/
def heard (b : Bus) : List Event :=
  (b.inbox? 1).getD []

theorem publishAll_append (b : Bus) (events more : List Event) :
    b.publishAll (events ++ more) = (b.publishAll events).publishAll more :=
  List.foldl_append

theorem publish_recorder (past : List Event) (event : Event) :
    publish ⟨[(1, .channel)], [(1, past)], 1, #[]⟩ event =
      ⟨[(1, .channel)], [(1, past ++ [event])], 1, #[]⟩ := by
  simp [publish, nestingLimit, publishNested, deliverAll, deliver, inbox?, put]

/-- A listener hears all that is published, in order. -/
theorem heard_publishAll_recorder (events : List Event) :
    (recorder.publishAll events).heard = events := by
  have after : ∀ past, publishAll ⟨[(1, .channel)], [(1, past)], 1, #[]⟩ events =
      ⟨[(1, .channel)], [(1, past ++ events)], 1, #[]⟩ := by
    induction events with
    | nil =>
        intro past
        rw [List.append_nil]
        rfl
    | cons event rest ih =>
        intro past
        rw [publishAll, List.foldl_cons, publish_recorder, ← publishAll, ih]
        simp
  have heard_eq := congrArg heard (after [])
  exact heard_eq

end Bus

/-- Whether an event tells of capturing. -/
def Event.isCapture : Event → Bool
  | .planChanged _ _ | .captureFailed _ _ _ | .captureRecovered _ => true
  | _ => false

/-- Equipment whose samples tell of nothing but capturing. -/
def Rig.Discreet {σ : Type} (rig : Rig σ) : Prop :=
  ∀ spot now equipment, ∀ event ∈ (rig.sample spot now equipment).2.1, event.isCapture = true

/-- One thing that is done to a session. -/
inductive Act (σ : Type) where
  | looks (spot : Spot)
  | presses (key : Chord)
  | equips (f : σ → σ)
  | operates (operation : Store.Operation)
  | remembers (f : Baselines → Baselines)
  | remarks (f : Journal → Journal)
  | locks (lock : CastLock)
  | tells (events : List Event)

namespace Act

variable {σ : Type}

/-- The events that an act tells of. -/
def told (rig : Rig σ) (s : Session σ) : Act σ → List Event
  | .looks spot => (rig.sample spot s.now s.equipment).2.1
  | .operates operation => (s.store.outcome operation).events
  | .tells events => events
  | _ => []

/-- The session after an act, before anything is told. -/
def change (rig : Rig σ) (s : Session σ) : Act σ → Session σ
  | .looks spot => { s with equipment := (rig.sample spot s.now s.equipment).2.2 }
  | .presses key => { s with equipment := (rig.press key s.equipment).2 }
  | .equips f => { s with equipment := f s.equipment }
  | .operates operation => { s with store := s.store.operate operation }
  | .remembers f => { s with baselines := f s.baselines }
  | .remarks f => { s with journal := f s.journal }
  | .locks lock => { s with lock }
  | .tells _ => s

/-- The session after an act. -/
def apply (rig : Rig σ) (s : Session σ) (act : Act σ) : Session σ :=
  (act.change rig s).on (s.bus.publishAll (act.told rig s))

/-- The session after acts one after the other. -/
def applyAll (rig : Rig σ) (s : Session σ) (acts : List (Act σ)) : Session σ :=
  acts.foldl (apply rig) s

/-- The events that acts tell of one after the other. -/
def toldAll (rig : Rig σ) (s : Session σ) : List (Act σ) → List Event
  | [] => []
  | act :: rest => act.told rig s ++ toldAll rig (act.apply rig s) rest

/-- The operation on the store that an act is. -/
def operation? : Act σ → Option Store.Operation
  | .operates operation => some operation
  | _ => none

/-- The lock that an act leaves behind. -/
def lock? : Act σ → Option CastLock
  | .locks lock => some lock
  | _ => none

/-- Whether an act is no more than a look at the screen. -/
def isLook : Act σ → Bool
  | .looks _ => true
  | _ => false

variable (rig : Rig σ) (s : Session σ)

theorem applyAll_cons (act : Act σ) (rest : List (Act σ)) :
    applyAll rig s (act :: rest) = applyAll rig (act.apply rig s) rest :=
  rfl

theorem apply_on (b : Bus) (act : Act σ) :
    act.apply rig (s.on b) = (act.apply rig s).on (b.publishAll (act.told rig s)) := by
  cases act <;> rfl

/-- Acts change a session in the same way on any bus, which they tell of the
same events. -/
theorem applyAll_on (b : Bus) (acts : List (Act σ)) :
    applyAll rig (s.on b) acts = (applyAll rig s acts).on (b.publishAll (toldAll rig s acts)) := by
  induction acts generalizing s b with
  | nil => rfl
  | cons act rest ih =>
      rw [applyAll_cons, applyAll_cons, apply_on, ih, toldAll, Bus.publishAll_append]

theorem applyAll_append (acts more : List (Act σ)) :
    applyAll rig s (acts ++ more) = applyAll rig (applyAll rig s acts) more :=
  List.foldl_append

theorem toldAll_append (acts more : List (Act σ)) :
    toldAll rig s (acts ++ more) =
      toldAll rig s acts ++ toldAll rig (applyAll rig s acts) more := by
  induction acts generalizing s with
  | nil => rfl
  | cons act rest ih =>
      rw [List.cons_append, toldAll, toldAll, ih, List.append_assoc]
      rfl

@[simp]
theorem now_applyAll (acts : List (Act σ)) : (applyAll rig s acts).now = s.now := by
  induction acts generalizing s with
  | nil => rfl
  | cons act rest ih =>
      rw [applyAll_cons, ih]
      cases act <;> rfl

@[simp]
theorem cancelled_applyAll (acts : List (Act σ)) :
    (applyAll rig s acts).cancelled = s.cancelled := by
  induction acts generalizing s with
  | nil => rfl
  | cons act rest ih =>
      rw [applyAll_cons, ih]
      cases act <;> rfl

theorem store_applyAll (acts : List (Act σ)) :
    (applyAll rig s acts).store = s.store.operateAll (acts.filterMap operation?) := by
  induction acts generalizing s with
  | nil => rfl
  | cons act rest ih =>
      rw [applyAll_cons, ih]
      cases act <;> rfl

/-- The lock is what the last act that touches it leaves behind. -/
theorem lock_applyAll (acts : List (Act σ)) :
    (applyAll rig s acts).lock = ((acts.filterMap lock?).getLast?).getD s.lock := by
  induction acts generalizing s with
  | nil => rfl
  | cons act rest ih =>
      rw [applyAll_cons, ih]
      cases act with
      | locks lock => simp [lock?, List.getLast?_cons, apply, change, Session.on]
      | looks | presses | equips | operates | remembers | remarks | tells => rfl

theorem store_applyAll_eq {acts : List (Act σ)} (none : ∀ act ∈ acts, act.operation? = none) :
    (applyAll rig s acts).store = s.store := by
  rw [store_applyAll, List.filterMap_eq_nil_iff.mpr none]
  rfl

theorem lock_applyAll_eq {acts : List (Act σ)} (none : ∀ act ∈ acts, act.lock? = none) :
    (applyAll rig s acts).lock = s.lock := by
  rw [lock_applyAll, List.filterMap_eq_nil_iff.mpr none]
  rfl

theorem operation?_of_isLook {act : Act σ} (look : act.isLook = true) : act.operation? = none := by
  cases act with
  | operates => contradiction
  | looks | presses | equips | remembers | remarks | locks | tells => rfl

theorem lock?_of_isLook {act : Act σ} (look : act.isLook = true) : act.lock? = none := by
  cases act with
  | locks => contradiction
  | looks | presses | equips | operates | remembers | remarks | tells => rfl

end Act

namespace Live

variable {σ α β : Type} {rig : Rig σ} {s : Session σ}

/-- What a computation tells of in a session: what is heard by a single
listener. -/
def told (x : Live σ α) (s : Session σ) : List Event :=
  (x.run.run (s.on .recorder)).2.bus.heard

/-- A computation does these acts in a session, whoever listens, and comes to a
result. -/
def Does (rig : Rig σ) (x : Live σ α) (s : Session σ) (acts : List (Act σ))
    (result : Except Crash α) : Prop :=
  ∀ b, x.run.run (s.on b) = (result, Act.applyAll rig (s.on b) acts)

theorem Does.run {x : Live σ α} {acts : List (Act σ)} {result : Except Crash α}
    (does : x.Does rig s acts result) :
    x.run.run s = (result, Act.applyAll rig s acts) :=
  does s.bus

theorem Does.told {x : Live σ α} {acts : List (Act σ)} {result : Except Crash α}
    (does : x.Does rig s acts result) : x.told s = Act.toldAll rig s acts := by
  rw [Live.told, does .recorder, Act.applyAll_on]
  exact Bus.heard_publishAll_recorder _

/-- All acts that a computation may do in a session and all results that it may
come to have a property. -/
def Acts (rig : Rig σ) (x : Live σ α) (s : Session σ)
    (Q : List (Act σ) → Except Crash α → Prop) : Prop :=
  ∃ acts result, x.Does rig s acts result ∧ Q acts result

theorem Acts.mono {x : Live σ α} {Q Q' : List (Act σ) → Except Crash α → Prop}
    (does : x.Acts rig s Q) (imp : ∀ acts result, Q acts result → Q' acts result) :
    x.Acts rig s Q' := by
  obtain ⟨acts, result, own, holds⟩ := does
  exact ⟨acts, result, own, imp acts result holds⟩

theorem Acts.with_does {x : Live σ α} {Q : List (Act σ) → Except Crash α → Prop}
    (does : x.Acts rig s Q) :
    x.Acts rig s fun acts result => Q acts result ∧ x.Does rig s acts result := by
  obtain ⟨acts, result, own, holds⟩ := does
  exact ⟨acts, result, own, holds, own⟩

theorem acts_pure {a : α} {Q : List (Act σ) → Except Crash α → Prop} (holds : Q [] (.ok a)) :
    (pure a : Live σ α).Acts rig s Q :=
  ⟨[], .ok a, fun _ => rfl, holds⟩

/-- A computation goes on after the acts of its first part, unless this has
crashed. -/
theorem acts_bind {x : Live σ α} {f : α → Live σ β} {P : List (Act σ) → Except Crash α → Prop}
    {Q : List (Act σ) → Except Crash β → Prop} (first : x.Acts rig s P)
    (rest : ∀ acts a, P acts (.ok a) →
      (f a).Acts rig (Act.applyAll rig s acts) fun more result => Q (acts ++ more) result)
    (crashed : ∀ acts crash, P acts (.error crash) → Q acts (.error crash)) :
    (x >>= f).Acts rig s Q := by
  obtain ⟨acts, result, does, holds⟩ := first
  cases result with
  | error crash =>
      refine ⟨acts, .error crash, ?_, crashed acts crash holds⟩
      intro b
      rw [run_bind, does b]
  | ok a =>
      obtain ⟨more, result, later, holds⟩ := rest acts a holds
      refine ⟨acts ++ more, result, ?_, holds⟩
      intro b
      rw [run_bind, does b, Act.applyAll_append, Act.applyAll_on]
      exact later _

/-- A computation may read all of its session but the bus. -/
theorem acts_session_bind {f : Session σ → Live σ β} {Q : List (Act σ) → Except Crash β → Prop}
    (deaf : ∀ b, f (s.on b) = f s) (does : (f s).Acts rig s Q) : (session >>= f).Acts rig s Q := by
  obtain ⟨acts, result, does, holds⟩ := does
  refine ⟨acts, result, ?_, holds⟩
  intro b
  have read : (session >>= f).run.run (s.on b) = (f (s.on b)).run.run (s.on b) := rfl
  rw [read, deaf]
  exact does b

/-- A single act without a result of its own comes first. -/
theorem acts_act_bind {x : Live σ α} {f : α → Live σ β} {act : Act σ} {a : α}
    {Q : List (Act σ) → Except Crash β → Prop} (does : x.Does rig s [act] (.ok a))
    (rest : (f a).Acts rig (act.apply rig s) fun more result => Q (act :: more) result) :
    (x >>= f).Acts rig s Q := by
  refine acts_bind (P := fun acts result => acts = [act] ∧ result = .ok a)
    ⟨[act], .ok a, does, rfl, rfl⟩ ?_ ?_
  · rintro _ _ ⟨rfl, ⟨⟩⟩
    exact rest
  · rintro _ _ ⟨_, ⟨⟩⟩

theorem does_publish (events : List Event) :
    (publish events).Does rig s [.tells events] (.ok ()) :=
  fun _ => rfl

theorem does_remark (f : Journal → Journal) :
    (remark f).Does rig s [.remarks f] (.ok ()) :=
  fun _ => rfl

theorem does_release : (release : Live σ Unit).Does rig s [.locks .free] (.ok ()) :=
  fun _ => rfl

/-- A change of the store is one of its operations. -/
theorem does_change {f : Store → Nat → Store.Change α} (operation : Store.Operation)
    (store_eq : (f s.store s.now).store = s.store.operate operation)
    (events_eq : (f s.store s.now).events = (s.store.outcome operation).events) :
    (change f).Does rig s [.operates operation] (.ok (f s.store s.now).result) := by
  intro b
  have run : (change f).run.run (s.on b) =
      (.ok (f s.store s.now).result,
        { s with store := (f s.store s.now).store
                 bus := b.publishAll (f s.store s.now).events }) := rfl
  rw [run, store_eq, events_eq]
  rfl

theorem does_sample (spot : Spot) :
    (sample rig spot).Does rig s [.looks spot] (rig.sample spot s.now s.equipment).1 := by
  intro b
  rw [run_sample]
  rfl

theorem does_press (key : Chord) :
    (press rig key).Does rig s [.presses key] (rig.press key s.equipment).1 := by
  intro b
  rw [run_press]
  rfl

/-- The lock is released after the acts of a computation that holds it and
crashes. -/
theorem acts_holding {x : Live σ α} {P Q : List (Act σ) → Except Crash α → Prop}
    (does : x.Acts rig s P) (done : ∀ acts a, P acts (.ok a) → Q acts (.ok a))
    (crashed : ∀ acts crash, P acts (.error crash) →
      Q (acts ++ [.locks .free]) (.error crash)) :
    (holding x).Acts rig s Q := by
  obtain ⟨acts, result, does, holds⟩ := does
  cases result with
  | ok a =>
      refine ⟨acts, .ok a, ?_, done acts a holds⟩
      intro b
      rw [run_holding, does b]
  | error crash =>
      refine ⟨acts ++ [.locks .free], .error crash, ?_, crashed acts crash holds⟩
      intro b
      rw [run_holding, does b, Act.applyAll_append]
      rfl

/-- The promises of computations that do nothing but certain acts. -/
def acting (rig : Rig σ) (A : Act σ → Prop) : Postcondition (Live σ) where
  Holds P x := ∀ s, x.Acts rig s fun acts result =>
    (∀ act ∈ acts, A act) ∧ ∀ a, result = .ok a → P a
  pure holds s := by
    refine acts_pure ⟨by simp, ?_⟩
    rintro _ ⟨⟩
    exact holds
  bind first rest s := by
    refine acts_bind (first s) ?_ ?_
    · rintro acts a ⟨own, holds⟩
      refine (rest a (holds a rfl) _).mono ?_
      rintro more result ⟨later, holds⟩
      refine ⟨?_, holds⟩
      intro act mem
      exact (List.mem_append.mp mem).elim (own act) (later act)
    · rintro acts crash ⟨own, _⟩
      exact ⟨own, fun _ done => by contradiction⟩

variable {A : Act σ → Prop}

/-- A computation may be a single act, and come to any result. -/
theorem acting_of_does {x : Live σ α}
    (does : ∀ s, ∃ act result, x.Does rig s [act] result ∧ A act) :
    (acting rig A).Holds (fun _ => True) x := by
  intro s
  obtain ⟨act, result, own, holds⟩ := does s
  exact ⟨[act], result, own, by simpa using holds, fun _ _ => trivial⟩

/-- What comes first may return anything. -/
theorem acting_after {x : Live σ α} {f : α → Live σ β} {P : β → Prop}
    (first : (acting rig A).Holds (fun _ => True) x) (rest : ∀ a, (acting rig A).Holds P (f a)) :
    (acting rig A).Holds P (x >>= f) :=
  (acting rig A).bind first fun a _ => rest a

/-- An evaluation does no more than look at the screen. -/
theorem acts_eval (rig : Rig σ) (s : Session σ) (catalogue : Catalogue) (condition : Condition) :
    (eval rig catalogue condition).Acts rig s fun acts _ => ∀ act ∈ acts, act.isLook = true := by
  refine acts_session_bind (fun _ => rfl) ?_
  have looks : (acting rig fun act => act.isLook = true).Holds (Evaluation.OnlyFor fun _ => True)
      (condition.eval catalogue (sample rig) ⟨some s.store.lookup, some s.baselines.lookup⟩) := by
    apply Condition.holds_eval
    intro atom mem
    apply Condition.holds_eval_of_isAtom _ (Condition.isAtom_of_mem_atoms mem)
    exact fun spot _ => acting_of_does fun _ => ⟨_, _, does_sample spot, rfl⟩
  exact (looks s).mono fun _ _ holds => holds.1

end Live

/-! ## What others do -/

/-- What others do to a session between the steps of a run: time passes, a stop
is asked for, the equipment is changed, somebody begins or ceases to listen,
the lock is taken or let go of. -/
inductive Stir (σ : Type) where
  | elapse (ms : Nat)
  | cancel
  | equip (equipment : σ)
  | rewire (bus : Bus)
  | take (owner : String)
  | letGo

/-- A session and who of the others holds its lock. -/
abbrev Shared (σ : Type) :=
  Session σ × Option String

/-- The session after others have done something.  They take the lock only if it
is free, and let go of it only if they hold it. -/
def Shared.stir {σ : Type} (shared : Shared σ) : Stir σ → Shared σ
  | .elapse ms => ({ shared.1 with now := shared.1.now + ms }, shared.2)
  | .cancel => ({ shared.1 with cancelled := true }, shared.2)
  | .equip equipment => ({ shared.1 with equipment }, shared.2)
  | .rewire bus => ({ shared.1 with bus }, shared.2)
  | .take owner =>
    match shared.1.lock.tryAcquire owner with
    | .ok lock => ({ shared.1 with lock }, some owner)
    | .error _ => shared
  | .letGo =>
    if shared.2.isSome then ({ shared.1 with lock := shared.1.lock.release }, none) else shared

namespace Shared

variable {σ : Type} {shared : Shared σ}

/-- The lock is held by a run under its own name, or by one of the others. -/
structure Splits (shared : Shared σ) (own : Option String) : Prop where
  holder : shared.1.lock.holder = own.or shared.2
  apart : own = none ∨ shared.2 = none

theorem store_stir (shared : Shared σ) (stir : Stir σ) :
    (shared.stir stir).1.store = shared.1.store := by
  cases stir with
  | take owner =>
      rw [Shared.stir]
      split <;> rfl
  | letGo =>
      rw [Shared.stir]
      split <;> rfl
  | elapse | cancel | equip | rewire => rfl

theorem Splits.stir {own : Option String} (splits : shared.Splits own) (stir : Stir σ) :
    (shared.stir stir).Splits own := by
  obtain ⟨holder, apart⟩ := splits
  cases stir with
  | take owner =>
      rw [Shared.stir]
      cases taken : shared.1.lock.tryAcquire owner with
      | error why => exact ⟨holder, apart⟩
      | ok lock =>
          obtain ⟨free, rfl⟩ := CastLock.tryAcquire_eq_ok_iff.mp taken
          obtain rfl : own = none := by
            rw [free] at holder
            exact (Option.or_eq_none_iff.mp holder.symm).1
          exact ⟨rfl, .inl rfl⟩
  | letGo =>
      rw [Shared.stir]
      split
      · rename_i held
        obtain rfl : own = none := by
          rcases apart with none_own | none_theirs
          · exact none_own
          · simp [none_theirs] at held
        exact ⟨rfl, .inl rfl⟩
      · exact ⟨holder, apart⟩
  | elapse | cancel | equip | rewire => exact ⟨holder, apart⟩

theorem Splits.of_lock_eq {own : Option String} (splits : shared.Splits own) {s : Session σ}
    (lock_eq : s.lock = shared.1.lock) : Splits (s, shared.2) own where
  holder := by
    rw [lock_eq]
    exact splits.holder
  apart := splits.apart

/-- A run that lets go of the lock leaves it to the others. -/
theorem Splits.release {owner : String} (splits : shared.Splits (some owner)) {s : Session σ}
    (lock_eq : s.lock = .free) : Splits (s, shared.2) none where
  holder := by
    rw [lock_eq]
    rcases splits.apart with own | theirs
    · contradiction
    · rw [theirs]
      rfl
  apart := .inl rfl

/-- A run that takes a lock that nobody has held has it for itself. -/
theorem Splits.acquire (splits : shared.Splits none) (free : shared.1.lock.holder = none)
    {s : Session σ} {owner : String} (lock_eq : s.lock = ⟨some owner⟩) :
    Splits (s, shared.2) (some owner) where
  holder := by
    rw [lock_eq]
    rfl
  apart := .inr (splits.holder.symm.trans free)

end Shared

end Rotation
