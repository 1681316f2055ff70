import Rotation.Cast.Session
import Rotation.Proofs.Condition.Evaluation

/-!
# Live computations

A live computation that comes to an end has done all its parts one after the
other: from its result and the session after it, those of every part can be
told.  What samples promise, the computations that take them promise as well,
up to a crash of the equipment.
-/

namespace Rotation.Live

variable {σ α β : Type}

/-- A computation on a session returns a result and leaves the session as
another. -/
def Ends (x : Live σ α) (s : Session σ) (a : α) (s' : Session σ) : Prop :=
  x.run.run s = (.ok a, s')

theorem ends_pure_iff {s s' : Session σ} {a b : α} :
    (pure a : Live σ α).Ends s b s' ↔ a = b ∧ s = s' := by
  constructor
  · rintro ⟨⟩
    exact ⟨rfl, rfl⟩
  · rintro ⟨rfl, rfl⟩
    rfl

theorem run_bind (x : Live σ α) (f : α → Live σ β) (s : Session σ) :
    (x >>= f).run.run s =
      match x.run.run s with
      | (.ok a, s') => (f a).run.run s'
      | (.error crash, s') => (.error crash, s') := by
  rw [ExceptT.run_bind, StateT.run_bind]
  rcases x.run.run s with ⟨crash | a, s'⟩ <;> rfl

theorem ends_bind_iff {x : Live σ α} {f : α → Live σ β} {s s'' : Session σ} {b : β} :
    (x >>= f).Ends s b s'' ↔ ∃ a s', x.Ends s a s' ∧ (f a).Ends s' b s'' := by
  unfold Ends
  rw [run_bind]
  rcases x.run.run s with ⟨crash | a, s'⟩
  · constructor
    · intro ends
      cases ends
    · rintro ⟨a, s', first, _⟩
      cases first
  · constructor
    · intro ends
      exact ⟨a, s', rfl, ends⟩
    · rintro ⟨_, _, ⟨⟩, ends⟩
      exact ends

theorem ends_session_bind_iff {f : Session σ → Live σ β} {s s' : Session σ} {b : β} :
    (session >>= f).Ends s b s' ↔ (f s).Ends s b s' := by
  rw [ends_bind_iff]
  constructor
  · rintro ⟨_, _, ⟨⟩, ends⟩
    exact ends
  · intro ends
    exact ⟨s, s, rfl, ends⟩

/-- The lock is released when a computation that holds it crashes, and only then. -/
theorem run_holding (x : Live σ α) (s : Session σ) :
    (holding x).run.run s =
      match x.run.run s with
      | (.ok a, s') => (.ok a, s')
      | (.error crash, s') => (.error crash, { s' with lock := s'.lock.release }) := by
  have inner : StateT.run x s = x.run.run s := rfl
  simp only [holding, tryCatch, tryCatchThe, MonadExceptOf.tryCatch, ExceptT.tryCatch,
    ExceptT.run_mk, StateT.run_bind, inner]
  rcases x.run.run s with ⟨crash | a, s'⟩ <;> rfl

theorem ends_of_holding {x : Live σ α} {s s' : Session σ} {a : α}
    (ends : (holding x).Ends s a s') : x.Ends s a s' := by
  unfold Ends at ends ⊢
  rw [run_holding] at ends
  generalize x.run.run s = result at ends ⊢
  rcases result with ⟨crash | b, t⟩
  · cases ends
  · exact ends

/-- A sample changes the equipment and tells of events, whether it crashes or
not. -/
theorem run_sample (rig : Rig σ) (spot : Spot) (s : Session σ) :
    (sample rig spot).run.run s =
      let (result, events, equipment) := rig.sample spot s.now s.equipment
      (result, { s with equipment, bus := s.bus.publishAll events }) := by
  unfold sample
  rw [run_bind]
  change (match rig.sample spot s.now s.equipment with | (result, events, equipment) => _) = _
  rcases rig.sample spot s.now s.equipment with ⟨crash | found, events, equipment⟩ <;> rfl

/-- A press changes the equipment, whether it crashes or not. -/
theorem run_press (rig : Rig σ) (chord : Chord) (s : Session σ) :
    (press rig chord).run.run s =
      let (result, equipment) := rig.press chord s.equipment
      (result, { s with equipment }) := by
  unfold press
  rw [run_bind]
  change (match rig.press chord s.equipment with | (result, equipment) => _) = _
  rcases rig.press chord s.equipment with ⟨crash | sent, equipment⟩ <;> rfl

/-- The promises of all results, however computations may crash. -/
def returning : Postcondition (Live σ) where
  Holds P x := ∀ s a s', x.Ends s a s' → P a
  pure holds s b s' ends := (ends_pure_iff.mp ends).1 ▸ holds
  bind holds rest s b s'' ends := by
    obtain ⟨a, s', first, second⟩ := ends_bind_iff.mp ends
    exact rest a (holds s a s' first) s' b s'' second

/-- What comes first may return anything. -/
theorem returning_after {x : Live σ α} {f : α → Live σ β} {P : β → Prop}
    (rest : ∀ a, returning.Holds P (f a)) : returning.Holds P (x >>= f) :=
  returning.bind (P := fun _ => True) (fun _ _ _ _ => trivial) fun a _ => rest a

theorem returning_holding {x : Live σ α} {P : α → Prop} (holds : returning.Holds P x) :
    returning.Holds P (holding x) :=
  fun s a s' ends => holds s a s' (ends_of_holding ends)

/-- The promises of all results, if computations may only crash in certain
ways. -/
def upTo (breaks : Crash → Prop) : Postcondition (Live σ) where
  Holds P x := ∀ s, (∃ a s', x.Ends s a s' ∧ P a) ∨
    ∃ crash, (x.run.run s).1 = .error crash ∧ breaks crash
  pure {_ _ a} holds s := .inl ⟨a, s, rfl, holds⟩
  bind := by
    intro α β P Q x f holds rest s
    rcases holds s with ⟨a, s', ends, first⟩ | ⟨crash, crashed, broken⟩
    · rcases rest a first s' with ⟨b, s'', later, second⟩ | ⟨crash, crashed, broken⟩
      · exact .inl ⟨b, s'', ends_bind_iff.mpr ⟨a, s', ends, later⟩, second⟩
      · refine .inr ⟨crash, ?_, broken⟩
        rw [run_bind, ends]
        exact crashed
    · refine .inr ⟨crash, ?_, broken⟩
      rw [run_bind]
      generalize x.run.run s = result at crashed ⊢
      rcases result with ⟨_ | a, s'⟩
      · cases crashed
        rfl
      · cases crashed

end Rotation.Live
