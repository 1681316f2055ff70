import Rotation.Proofs.Cast.Course

/-!
# The pace of attempts

An outcome tells how long the track of its node waits.  That depends on nothing
but the verdict: after a success or a failure the track waits for the gap of the
node, a node that has been passed over is tried again after a fixed delay, and a
stop holds the track back without any delay.
-/

namespace Rotation.Cast

/-- The verdict of an outcome tells whether the track moves on and how long it
waits; only a node that is passed over may either hold its track or move it
on. -/
def Outcome.Paced (settings : EngineSettings) (node : SkillNode) (outcome : Outcome) : Prop :=
  match outcome.verdict with
  | .success | .failed => outcome.advance = true ∧ outcome.delayMs = node.gapMs
  | .skipped => outcome.delayMs = settings.skipRetryMs.toNat
  | .stopped => outcome.advance = false ∧ outcome.delayMs = 0

/-- A way to go on, or an end with a paced outcome. -/
def Next.Paced (settings : EngineSettings) (node : SkillNode) (next : Next) : Prop :=
  ∀ outcome, next = .finished outcome → outcome.Paced settings node

theorem Next.paced_of_phase? {settings : EngineSettings} {node : SkillNode} {next : Next}
    {later : Phase} (on : next.phase? = some later) : next.Paced settings node := by
  rintro outcome rfl
  contradiction

namespace Caster

open Live

variable {σ : Type} {c : Caster σ} {node : SkillNode} {opened : Opened}

/-! ## Ends of attempts -/

theorem paced_skip (reason : String) (advance : Bool) :
    returning.Holds (Next.Paced c.settings node) (c.skip node reason advance) := by
  refine returning_after fun s => ?_
  refine returning_after fun _ => ?_
  refine returning.pure ?_
  rintro _ ⟨⟩
  rfl

theorem paced_refused (why : Contention) :
    returning.Holds (Next.Paced c.settings node) (c.refused node why) := by
  cases why with
  | cancelled =>
      refine returning.pure ?_
      rintro _ ⟨⟩
      exact ⟨rfl, rfl⟩
  | busy holder | timedOut holder => exact paced_skip _ _

theorem paced_close (settings : EngineSettings) (stage : Stage) (reason : Option String) :
    returning.Holds (Next.Paced settings node) (close (σ := σ) node opened stage reason) := by
  refine returning_after fun _ => ?_
  refine returning_after fun _ => ?_
  cases stage
  all_goals
    refine returning_after fun _ => ?_
    refine returning.pure ?_
    rintro _ ⟨⟩
    exact ⟨rfl, rfl⟩

/-! ## Steps without the lock -/

theorem paced_openAttempt (settings : EngineSettings) (skill : Skill) (lock : CastLock) :
    returning.Holds (Next.Paced settings node) (openAttempt (σ := σ) node skill lock) := by
  refine returning_after fun _ => ?_
  refine returning_after fun id => ?_
  exact returning.pure (Next.paced_of_phase? rfl)

theorem paced_enter (skill : Skill) :
    returning.Holds (Next.Paced c.settings node) (c.enter node skill) := by
  refine returning_after fun s => ?_
  split
  · exact returning.pure (Next.paced_of_phase? rfl)
  · split
    · exact paced_openAttempt _ _ _
    · exact paced_refused _

theorem paced_begin : returning.Holds (Next.Paced c.settings node) (c.begin node) := by
  unfold begin
  split
  · exact paced_skip _ _
  · split
    · exact paced_skip _ _
    · refine returning_after fun found => ?_
      split
      · exact paced_enter _
      · exact paced_skip _ _
      · exact paced_skip _ _

theorem paced_awaitLock (skill : Skill) (deadline : Nat) :
    returning.Holds (Next.Paced c.settings node) (c.awaitLock node skill deadline) := by
  refine returning_after fun s => ?_
  split
  · exact paced_openAttempt _ _ _
  · exact paced_refused _
  · exact returning.pure (Next.paced_of_phase? rfl)

/-! ## Steps under the lock -/

theorem paced_enterCasting (settings : EngineSettings) :
    returning.Holds (Next.Paced settings node) (c.enterCasting node opened) := by
  refine returning_after fun _ => ?_
  refine returning_after fun _ => ?_
  split
  · exact returning.pure (Next.paced_of_phase? rfl)
  · exact returning.pure (Next.paced_of_phase? rfl)
  · refine returning_after fun s => ?_
    exact returning.pure (Next.paced_of_phase? rfl)

theorem paced_launch (settings : EngineSettings) :
    returning.Holds (Next.Paced settings node) (c.launch node opened) := by
  refine returning_after fun s => ?_
  split
  · exact paced_close _ _ _
  · split
    · exact paced_close _ _ _
    · refine returning_after fun sent => ?_
      cases sent with
      | error e =>
          refine returning_after fun _ => ?_
          exact paced_close _ _ _
      | ok _ =>
          refine returning_after fun _ => ?_
          split
          · exact paced_enterCasting _
          · refine returning_after fun t => ?_
            exact returning.pure (Next.paced_of_phase? rfl)

theorem paced_pressAgain (settings : EngineSettings) (key : Chord) (signal : Condition)
    (retries : Nat) :
    returning.Holds (Next.Paced settings node) (c.pressAgain node opened key signal retries) := by
  unfold pressAgain
  split
  · exact paced_close _ _ _
  · refine returning_after fun _ => ?_
    refine returning_after fun sent => ?_
    cases sent with
    | error e => exact paced_close _ _ _
    | ok _ =>
        refine returning_after fun t => ?_
        exact returning.pure (Next.paced_of_phase? rfl)

theorem paced_awaitStart (settings : EngineSettings) (key : Chord) (signal : Condition)
    (deadline retries : Nat) :
    returning.Holds (Next.Paced settings node)
      (c.awaitStart node opened key signal deadline retries) := by
  refine returning_after fun s => ?_
  split
  · exact paced_close _ _ _
  · refine returning_after fun found => ?_
    split
    · exact paced_enterCasting _
    · refine returning_after fun t => ?_
      dsimp only
      split
      · exact paced_pressAgain _ key signal retries
      · exact returning.pure (Next.paced_of_phase? rfl)

theorem paced_finishResting (settings : EngineSettings) :
    returning.Holds (Next.Paced settings node) (finishResting (σ := σ) node opened) := by
  refine returning_after fun s => ?_
  split
  · exact paced_close _ _ _
  · exact paced_close _ _ _

theorem paced_awaitCompletion (settings : EngineSettings) (signal : Condition) (deadline : Nat)
    (observed : Bool) :
    returning.Holds (Next.Paced settings node)
      (c.awaitCompletion node opened signal deadline observed) := by
  refine returning_after fun s => ?_
  split
  · exact paced_close _ _ _
  · refine returning_after fun found => ?_
    split
    · exact paced_close _ _ _
    · refine returning_after fun t => ?_
      dsimp only
      split
      · rw [finishUnseen_eq]
        split
        · exact paced_close _ _ _
        · refine returning_after fun _ => ?_
          exact paced_close _ _ _
      · exact returning.pure (Next.paced_of_phase? rfl)

/-- Every outcome of an attempt is paced. -/
theorem paced_step (c : Caster σ) (node : SkillNode) (phase : Phase) :
    returning.Holds (Next.Paced c.settings node) (c.step node phase) := by
  cases phase with
  | opening => exact paced_begin
  | awaitingLock skill deadline => exact paced_awaitLock skill deadline
  | launching opened => exact returning_holding (paced_launch _)
  | starting opened key signal deadline retries =>
      exact returning_holding (paced_awaitStart _ key signal deadline retries)
  | resting opened => exact returning_holding (paced_finishResting _)
  | completing opened signal deadline observed =>
      exact returning_holding (paced_awaitCompletion _ signal deadline observed)

end Caster

end Rotation.Cast
