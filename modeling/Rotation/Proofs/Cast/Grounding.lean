import Rotation.Proofs.Cast.Course
import Rotation.Proofs.Preset.Grounding

/-!
# Attempts whose names are known

An attempt that ends for a reason takes it from the conditions it has evaluated,
from the key of its skill, from the lock, or from its equipment.  When the node
is grounded and the equipment blames no name by itself, no reason is a name that
stands for nothing.  What carries this from step to step is that the skill of a
phase has a key.
-/

namespace Rotation

/-- Equipment that blames no name by itself.  What it cannot see is missing for
other reasons.  A keyboard is handed a chord and has no name to look up, so that
a press fails in the backend or not at all. -/
structure Rig.BlamesNoName {σ : Type} (rig : Rig σ) : Prop where
  sample : ∀ spot now equipment answer,
    (rig.sample spot now equipment).1 = .ok answer → Blameless answer
  press : ∀ chord equipment e, (rig.press chord equipment).1 = .ok (.error e) →
    ∃ message, e = .backend message

/-- What is counted, and what is recorded before a press, blames no name. -/
theorem Sources.blamesNoName_of_store (store : Store) (baselines : Option Baselines) :
    Sources.BlamesNoName ⟨some store.lookup, baselines.map Baselines.lookup⟩ where
  metric skill metric answer found := by
    cases found
    rintro _ ⟨⟩
  baseline point answer found := by
    obtain ⟨lookup, recorded, rfl⟩ := Option.map_eq_some_iff.mp found
    obtain ⟨b, _, rfl⟩ := Option.map_eq_some_iff.mp recorded
    unfold Baselines.lookup
    intro u missing
    split at missing
    · contradiction
    · cases missing
      change ¬Dangling "baseline_missing"
      decide

namespace Live

variable {σ : Type} {rig : Rig σ}

theorem blameless_sample (plain : rig.BlamesNoName) (spot : Spot) :
    returning.Holds Blameless (sample rig spot) := by
  intro s answer s' ends
  have run_eq := run_sample rig spot s
  rw [ends] at run_eq
  exact plain.sample spot s.now s.equipment answer (Prod.mk.inj run_eq).1.symm

theorem backend_of_press (plain : rig.BlamesNoName) (chord : Chord) :
    returning.Holds (fun sent => ∀ e, sent = .error e → ∃ message, e = .backend message)
      (press rig chord) := by
  rintro s _ s' ends e rfl
  have run_eq := run_press rig chord s
  rw [ends] at run_eq
  exact plain.press chord s.equipment e (Prod.mk.inj run_eq).1.symm

theorem blamesNoName_eval (plain : rig.BlamesNoName) {catalogue : Catalogue} {c : Condition}
    (grounded : c.Grounded catalogue) :
    returning.Holds Evaluation.BlamesNoName (eval rig catalogue c) := by
  refine returning_after fun s => ?_
  exact grounded.holds_eval returning (blameless_sample plain)
    (Sources.blamesNoName_of_store s.store (some s.baselines))

end Live

namespace Cast

/-! ## What a step leads to -/

/-- The skill that an attempt is at. -/
def Phase.skill? : Phase → Option Skill
  | .opening => none
  | .awaitingLock skill _ => some skill
  | .launching opened | .starting opened _ _ _ _ | .resting opened | .completing opened _ _ _ =>
    some opened.skill

/-- The skill of a phase has a key. -/
def Phase.HasKey (phase : Phase) : Prop :=
  ∀ skill, phase.skill? = some skill → ∃ key, Caster.keyOf skill = .ok key

/-- An outcome whose reason blames no name. -/
def Outcome.BlamesNoName (outcome : Outcome) : Prop :=
  ∀ reason, outcome.reason = some reason → ¬Dangling reason

/-- A way to go on that blames no name, nor leads to a step that does. -/
def Next.BlamesNoName : Next → Prop
  | .proceed phase | .sleep _ phase | .await _ phase => phase.HasKey
  | .finished outcome => outcome.BlamesNoName

theorem Next.hasKey_of_phase? {next : Next} {later : Phase} (plain : next.BlamesNoName)
    (on : next.phase? = some later) : later.HasKey := by
  cases next with
  | proceed phase | sleep ms phase | await ms phase =>
      cases on
      exact plain
  | finished outcome => contradiction

namespace Caster

open Live

variable {σ : Type} {c : Caster σ} {node : SkillNode} {skill : Skill} {opened : Opened}

/-! ## Ends of attempts -/

theorem blamesNoName_skip {reason : String} (plain : ¬Dangling reason) (advance : Bool) :
    returning.Holds Next.BlamesNoName (c.skip node reason advance) := by
  refine returning_after fun s => ?_
  refine returning_after fun _ => ?_
  refine returning.pure ?_
  rintro _ ⟨⟩
  exact plain

theorem blamesNoName_refused (why : Contention) :
    returning.Holds Next.BlamesNoName (c.refused node why) := by
  cases why with
  | cancelled =>
      refine returning.pure ?_
      rintro _ ⟨⟩
      decide
  | busy holder | timedOut holder => exact blamesNoName_skip (by simp [Contention.reason, Dangling]) _

theorem blamesNoName_close {stage : Stage} {reason : Option String}
    (plain : ∀ r, reason = some r → ¬Dangling r) :
    returning.Holds Next.BlamesNoName (close (σ := σ) node opened stage reason) := by
  refine returning_after fun _ => ?_
  refine returning_after fun _ => ?_
  cases stage
  all_goals
    refine returning_after fun _ => ?_
    exact returning.pure plain

theorem blamesNoName_closeStopped :
    returning.Holds Next.BlamesNoName (closeStopped (σ := σ) node opened) := by
  apply blamesNoName_close
  rintro _ ⟨⟩
  decide

theorem blamesNoName_closeFailed {reason : String} (plain : ¬Dangling reason) :
    returning.Holds Next.BlamesNoName (closeFailed (σ := σ) node opened reason) := by
  apply blamesNoName_close
  rintro _ ⟨⟩
  exact plain

theorem blamesNoName_succeed :
    returning.Holds Next.BlamesNoName (close (σ := σ) node opened .success none) := by
  apply blamesNoName_close
  rintro _ ⟨⟩

/-! ## Steps without the lock -/

theorem blamesNoName_openAttempt {key : Chord} (bound : keyOf skill = .ok key) (lock : CastLock) :
    returning.Holds Next.BlamesNoName (openAttempt (σ := σ) node skill lock) := by
  refine returning_after fun _ => ?_
  refine returning_after fun id => ?_
  refine returning.pure ?_
  rintro _ ⟨⟩
  exact ⟨key, bound⟩

theorem blamesNoName_enter {key : Chord} (bound : keyOf skill = .ok key) :
    returning.Holds Next.BlamesNoName (c.enter node skill) := by
  refine returning_after fun s => ?_
  split
  · refine returning.pure ?_
    rintro _ ⟨⟩
    exact ⟨key, bound⟩
  · split
    · exact blamesNoName_openAttempt bound _
    · exact blamesNoName_refused _

theorem blamesNoName_begin (plain : c.rig.BlamesNoName)
    (grounded : (Node.skill node).Grounded c.catalogue) :
    returning.Holds Next.BlamesNoName (c.begin node) := by
  obtain ⟨own, key, found, bound⟩ := grounded.casts node.skill rfl
  unfold begin
  rw [found]
  dsimp only
  split
  · exact blamesNoName_skip (by decide) _
  · have ready := grounded.conditions node.ready List.mem_cons_self
    refine returning.bind (blamesNoName_eval plain ready) ?_
    rintro (value | reason) evaluated
    · cases value
      · exact blamesNoName_skip (by decide) _
      · exact blamesNoName_enter bound
    · exact blamesNoName_skip (evaluated reason rfl) _

theorem blamesNoName_awaitLock {key : Chord} (bound : keyOf skill = .ok key) (deadline : Nat) :
    returning.Holds Next.BlamesNoName (c.awaitLock node skill deadline) := by
  refine returning_after fun s => ?_
  split
  · exact blamesNoName_openAttempt bound _
  · exact blamesNoName_refused _
  · refine returning.pure ?_
    rintro _ ⟨⟩
    exact ⟨key, bound⟩

/-! ## Steps under the lock -/

/-- A chord that was not pressed fails in the backend. -/
theorem blamesNoName_send (plain : c.rig.BlamesNoName) (key : Chord) :
    returning.Holds (fun sent => ∀ e, sent = .error e → ¬Dangling e.code)
      (c.send node opened key) := by
  refine returning_after fun _ => ?_
  refine returning.bind (backend_of_press plain key) ?_
  rintro (e | _) failed
  · refine returning.pure ?_
    rintro _ ⟨⟩
    obtain ⟨message, rfl⟩ := failed e rfl
    simp [PressError.code, Dangling]
  · refine returning_after fun _ => ?_
    refine returning.pure ?_
    rintro _ ⟨⟩

section

variable {key : Chord} (bound : keyOf opened.skill = .ok key)

include bound

theorem blamesNoName_enterCasting :
    returning.Holds Next.BlamesNoName (c.enterCasting node opened) := by
  have going_on : ∀ phase : Phase, phase.skill? = some opened.skill → phase.HasKey := by
    intro phase own skill same
    cases own.symm.trans same
    exact ⟨key, bound⟩
  refine returning_after fun _ => ?_
  refine returning_after fun _ => ?_
  split
  · exact returning.pure (going_on _ rfl)
  · exact returning.pure (going_on _ rfl)
  · refine returning_after fun s => ?_
    exact returning.pure (going_on _ rfl)

theorem blamesNoName_launch (plain : c.rig.BlamesNoName) :
    returning.Holds Next.BlamesNoName (c.launch node opened) := by
  refine returning_after fun s => ?_
  split
  · exact blamesNoName_closeStopped
  · rw [bound]
    refine returning.bind (blamesNoName_send plain key) ?_
    rintro (e | _) sent
    · refine returning_after fun _ => ?_
      exact blamesNoName_closeFailed (sent e rfl)
    · refine returning_after fun _ => ?_
      split
      · exact blamesNoName_enterCasting bound
      · refine returning_after fun t => ?_
        refine returning.pure ?_
        rintro _ ⟨⟩
        exact ⟨key, bound⟩

theorem blamesNoName_pressAgain (plain : c.rig.BlamesNoName) (chord : Chord) (signal : Condition)
    (retries : Nat) :
    returning.Holds Next.BlamesNoName (c.pressAgain node opened chord signal retries) := by
  unfold pressAgain
  split
  · exact blamesNoName_closeFailed (by decide)
  · refine returning_after fun _ => ?_
    refine returning.bind (blamesNoName_send plain chord) ?_
    rintro (e | _) sent
    · exact blamesNoName_closeFailed (sent e rfl)
    · refine returning_after fun t => ?_
      refine returning.pure ?_
      rintro _ ⟨⟩
      exact ⟨key, bound⟩

theorem blamesNoName_awaitStart (plain : c.rig.BlamesNoName) (chord : Chord) (signal : Condition)
    (deadline retries : Nat) :
    returning.Holds Next.BlamesNoName
      (c.awaitStart node opened chord signal deadline retries) := by
  refine returning_after fun s => ?_
  split
  · exact blamesNoName_closeStopped
  · refine returning_after fun found => ?_
    split
    · exact blamesNoName_enterCasting bound
    · refine returning_after fun t => ?_
      dsimp only
      split
      · exact blamesNoName_pressAgain bound plain chord signal retries
      · refine returning.pure ?_
        rintro _ ⟨⟩
        exact ⟨key, bound⟩

theorem blamesNoName_awaitCompletion (signal : Condition) (deadline : Nat) (observed : Bool) :
    returning.Holds Next.BlamesNoName
      (c.awaitCompletion node opened signal deadline observed) := by
  refine returning_after fun s => ?_
  split
  · exact blamesNoName_closeStopped
  · refine returning_after fun found => ?_
    split
    · exact blamesNoName_succeed
    · refine returning_after fun t => ?_
      dsimp only
      split
      · rw [finishUnseen_eq]
        split
        · exact blamesNoName_closeFailed (by decide)
        · refine returning_after fun _ => ?_
          exact blamesNoName_succeed
      · refine returning.pure ?_
        rintro _ ⟨⟩
        exact ⟨key, bound⟩

end

theorem blamesNoName_finishResting :
    returning.Holds Next.BlamesNoName (finishResting (σ := σ) node opened) := by
  refine returning_after fun s => ?_
  split
  · exact blamesNoName_closeStopped
  · exact blamesNoName_succeed

/-- A step from a phase whose skill has a key blames no name. -/
theorem blamesNoName_step (plain : c.rig.BlamesNoName)
    (grounded : (Node.skill node).Grounded c.catalogue) {phase : Phase} (hasKey : phase.HasKey) :
    returning.Holds Next.BlamesNoName (c.step node phase) := by
  cases phase with
  | opening => exact blamesNoName_begin plain grounded
  | awaitingLock skill deadline =>
      obtain ⟨key, bound⟩ := hasKey skill rfl
      exact blamesNoName_awaitLock bound deadline
  | launching opened =>
      obtain ⟨key, bound⟩ := hasKey opened.skill rfl
      exact returning_holding (blamesNoName_launch bound plain)
  | starting opened chord signal deadline retries =>
      obtain ⟨key, bound⟩ := hasKey opened.skill rfl
      exact returning_holding (blamesNoName_awaitStart bound plain chord signal deadline retries)
  | resting opened => exact returning_holding blamesNoName_finishResting
  | completing opened signal deadline observed =>
      obtain ⟨key, bound⟩ := hasKey opened.skill rfl
      exact returning_holding (blamesNoName_awaitCompletion bound signal deadline observed)

/-! ## Courses -/

theorem Comes.hasKey (plain : c.rig.BlamesNoName)
    (grounded : (Node.skill node).Grounded c.catalogue) {past : List (Phase × Session σ)}
    {phase : Phase} (comes : c.Comes node past phase) : phase.HasKey := by
  induction comes with
  | opening =>
      rintro _ ⟨⟩
  | step comes ends on ih =>
      exact Next.hasKey_of_phase? (blamesNoName_step plain grounded ih _ _ _ ends) on

end Caster

end Cast

end Rotation
