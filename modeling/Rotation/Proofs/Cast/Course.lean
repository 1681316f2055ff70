import Rotation.Cast.Attempt
import Rotation.Proofs.Cast.Live

/-!
# The course of an attempt

An attempt goes on in steps, between which anybody may change the session: time
passes, others take and release the lock, a stop is asked for.  Here it is told
what a step can lead to and what it has done on the way: a key was pressed, or a
signal was seen.  From that follows what has happened before an attempt reaches
a phase.
-/

namespace Rotation.Cast

/-- An end that is no success. -/
def Next.Unsuccessful (next : Next) : Prop :=
  ∃ outcome, next = .finished outcome ∧ outcome.verdict ≠ .success

/-- The phase that an attempt goes on with. -/
def Next.phase? : Next → Option Phase
  | .proceed phase | .sleep _ phase | .await _ phase => some phase
  | .finished _ => none

namespace Caster

variable {σ : Type}

/-! ## Ways to go on -/

/-- How an attempt goes on when the action has started. -/
inductive Casts (node : SkillNode) (opened : Opened) : Next → Prop
  | rests (ms : Nat)
      (unwatched : node.completion.policy = .assumeSuccess ∨ node.completion.condition = none) :
      Casts node opened (.sleep ms (.resting opened))
  | watches {signal : Condition} (deadline : Nat)
      (required : node.completion.policy ≠ .assumeSuccess)
      (given : node.completion.condition = some signal) :
      Casts node opened (.proceed (.completing opened signal deadline false))

/-- How a step from a phase goes on in a session. -/
inductive Goes (c : Caster σ) (node : SkillNode) (s : Session σ) : Phase → Next → Prop
  | fails {phase : Phase} {next : Next} (unsuccessful : next.Unsuccessful) :
      Goes c node s phase next
  | queues (skill : Skill) (deadline : Nat) :
      Goes c node s .opening (.proceed (.awaitingLock skill deadline))
  | waits (skill : Skill) (deadline ms : Nat) :
      Goes c node s (.awaitingLock skill deadline) (.await ms (.awaitingLock skill deadline))
  | opens {phase : Phase} (opened : Opened) (lockless : phase.holdsLock = false) :
      Goes c node s phase (.proceed (.launching opened))
  | presses {opened : Opened} {key : Chord} {signal : Condition} {t : Session σ} (deadline : Nat)
      (bound : keyOf opened.skill = .ok key)
      (sent : (c.send node opened key).Ends s (.ok ()) t)
      (given : node.start.condition = some signal) :
      Goes c node s (.launching opened) (.proceed (.starting opened key signal deadline 0))
  | begins {opened : Opened} {key : Chord} {t : Session σ} {next : Next}
      (bound : keyOf opened.skill = .ok key)
      (sent : (c.send node opened key).Ends s (.ok ()) t)
      (immediate : node.start.condition = none) (casts : Casts node opened next) :
      Goes c node s (.launching opened) next
  | starts {opened : Opened} {key : Chord} {signal : Condition} {deadline retries : Nat}
      {t : Session σ} {next : Next} (seen : (c.eval signal).Ends s (.known true) t)
      (casts : Casts node opened next) :
      Goes c node s (.starting opened key signal deadline retries) next
  | retries {opened : Opened} {key : Chord} {signal : Condition} {deadline retries : Nat}
      (later : Nat) (left : retries < node.start.retries) :
      Goes c node s (.starting opened key signal deadline retries)
        (.proceed (.starting opened key signal later (retries + 1)))
  | looksAgain {opened : Opened} {key : Chord} {signal : Condition} {deadline retries : Nat}
      (ms : Nat) :
      Goes c node s (.starting opened key signal deadline retries)
        (.sleep ms (.starting opened key signal deadline retries))
  | rested {opened : Opened} (outcome : Outcome) :
      Goes c node s (.resting opened) (.finished outcome)
  | completes {opened : Opened} {signal : Condition} {deadline : Nat} {observed : Bool}
      {t : Session σ} (outcome : Outcome) (seen : (c.eval signal).Ends s (.known true) t) :
      Goes c node s (.completing opened signal deadline observed) (.finished outcome)
  | assumes {opened : Opened} {signal : Condition} {deadline : Nat} {observed : Bool}
      (outcome : Outcome) (lenient : node.completion.policy ≠ .requireSignal) :
      Goes c node s (.completing opened signal deadline observed) (.finished outcome)
  | watchesOn {opened : Opened} {signal : Condition} {deadline : Nat} {observed : Bool}
      (ms : Nat) (known : Bool) :
      Goes c node s (.completing opened signal deadline observed)
        (.sleep ms (.completing opened signal deadline known))

open Live

variable {c : Caster σ} {node : SkillNode} {s s' : Session σ} {next : Next}

/-! ## Ends of attempts -/

theorem skip_unsuccessful {reason : String} {advance : Bool}
    (ends : (c.skip node reason advance).Ends s next s') : next.Unsuccessful := by
  unfold skip at ends
  obtain ⟨t, _, _, ends⟩ := ends_bind_iff.mp ends
  obtain ⟨_, _, _, ends⟩ := ends_bind_iff.mp ends
  obtain ⟨rfl, _⟩ := ends_pure_iff.mp ends
  exact ⟨_, rfl, by simp⟩

theorem refused_unsuccessful {why : Contention} (ends : (c.refused node why).Ends s next s') :
    next.Unsuccessful := by
  unfold refused at ends
  split at ends
  · obtain ⟨rfl, _⟩ := ends_pure_iff.mp ends
    exact ⟨_, rfl, by simp⟩
  · exact skip_unsuccessful ends

theorem finished_of_close {opened : Opened} {stage : Stage} {reason : Option String}
    (ends : (close node opened stage reason).Ends s next s') :
    ∃ outcome, next = .finished outcome ∧ (outcome.verdict = .success → stage = .success) := by
  unfold close at ends
  obtain ⟨_, _, _, ends⟩ := ends_bind_iff.mp ends
  obtain ⟨_, _, _, ends⟩ := ends_bind_iff.mp ends
  cases stage
  all_goals
    obtain ⟨_, _, _, ends⟩ := ends_bind_iff.mp ends
    obtain ⟨rfl, _⟩ := ends_pure_iff.mp ends
    exact ⟨_, rfl, by simp⟩

theorem close_unsuccessful {opened : Opened} {stage : Stage} {reason : Option String}
    (failed : stage ≠ .success) (ends : (close node opened stage reason).Ends s next s') :
    next.Unsuccessful := by
  obtain ⟨outcome, rfl, success⟩ := finished_of_close ends
  exact ⟨outcome, rfl, fun verdict => failed (success verdict)⟩

/-! ## Steps without the lock -/

theorem launching_of_openAttempt {skill : Skill} {lock : CastLock}
    (ends : (openAttempt node skill lock).Ends s next s') :
    ∃ opened, next = .proceed (.launching opened) := by
  unfold openAttempt at ends
  obtain ⟨_, _, _, ends⟩ := ends_bind_iff.mp ends
  obtain ⟨id, _, _, ends⟩ := ends_bind_iff.mp ends
  obtain ⟨rfl, _⟩ := ends_pure_iff.mp ends
  exact ⟨_, rfl⟩

theorem goes_of_enter {skill : Skill} (t : Session σ) (ends : (c.enter node skill).Ends s next s') :
    c.Goes node t .opening next := by
  unfold enter at ends
  obtain ⟨_, _, _, ends⟩ := ends_bind_iff.mp ends
  split at ends
  · obtain ⟨rfl, _⟩ := ends_pure_iff.mp ends
    exact .queues skill _
  · split at ends
    · obtain ⟨opened, rfl⟩ := launching_of_openAttempt ends
      exact .opens opened rfl
    · exact .fails (refused_unsuccessful ends)

theorem goes_of_begin (ends : (c.begin node).Ends s next s') : c.Goes node s .opening next := by
  unfold begin at ends
  split at ends
  · exact .fails (skip_unsuccessful ends)
  · split at ends
    · exact .fails (skip_unsuccessful ends)
    · obtain ⟨found, t, _, ends⟩ := ends_bind_iff.mp ends
      split at ends
      · exact goes_of_enter s ends
      · exact .fails (skip_unsuccessful ends)
      · exact .fails (skip_unsuccessful ends)

theorem goes_of_awaitLock {skill : Skill} {deadline : Nat}
    (ends : (c.awaitLock node skill deadline).Ends s next s') :
    c.Goes node s (.awaitingLock skill deadline) next := by
  unfold awaitLock at ends
  obtain ⟨_, _, _, ends⟩ := ends_bind_iff.mp ends
  split at ends
  · obtain ⟨opened, rfl⟩ := launching_of_openAttempt ends
    exact .opens opened rfl
  · exact .fails (refused_unsuccessful ends)
  · obtain ⟨rfl, _⟩ := ends_pure_iff.mp ends
    exact .waits skill deadline _

/-! ## Steps under the lock -/

theorem casts_of_enterCasting {opened : Opened}
    (ends : (c.enterCasting node opened).Ends s next s') : Casts node opened next := by
  unfold enterCasting at ends
  obtain ⟨_, _, _, ends⟩ := ends_bind_iff.mp ends
  obtain ⟨_, _, _, ends⟩ := ends_bind_iff.mp ends
  split at ends
  · rename_i assumed
    obtain ⟨rfl, _⟩ := ends_pure_iff.mp ends
    exact .rests _ (.inl assumed)
  · rename_i missing _
    obtain ⟨rfl, _⟩ := ends_pure_iff.mp ends
    exact .rests _ (.inr missing)
  · rename_i signal given required
    obtain ⟨_, _, _, ends⟩ := ends_bind_iff.mp ends
    obtain ⟨rfl, _⟩ := ends_pure_iff.mp ends
    exact .watches _ required given

theorem goes_of_launch {opened : Opened} (ends : (c.launch node opened).Ends s next s') :
    c.Goes node s (.launching opened) next := by
  unfold launch at ends
  replace ends := ends_session_bind_iff.mp ends
  split at ends
  · exact .fails (close_unsuccessful (by simp) ends)
  · split at ends
    · exact .fails (close_unsuccessful (by simp) ends)
    · rename_i key bound
      obtain ⟨result, t, sent, ends⟩ := ends_bind_iff.mp ends
      cases result with
      | error e =>
          obtain ⟨_, _, _, ends⟩ := ends_bind_iff.mp ends
          exact .fails (close_unsuccessful (by simp) ends)
      | ok _ =>
          obtain ⟨_, _, _, ends⟩ := ends_bind_iff.mp ends
          split at ends
          · rename_i immediate
            exact .begins bound sent immediate (casts_of_enterCasting ends)
          · rename_i signal given
            obtain ⟨_, _, _, ends⟩ := ends_bind_iff.mp ends
            obtain ⟨rfl, _⟩ := ends_pure_iff.mp ends
            exact .presses _ bound sent given

theorem goes_of_pressAgain {opened : Opened} {key : Chord} {signal : Condition}
    {deadline retries : Nat} (t : Session σ)
    (ends : (c.pressAgain node opened key signal retries).Ends s next s') :
    c.Goes node t (.starting opened key signal deadline retries) next := by
  unfold pressAgain at ends
  split at ends
  · exact .fails (close_unsuccessful (by simp) ends)
  · rename_i left
    obtain ⟨_, _, _, ends⟩ := ends_bind_iff.mp ends
    obtain ⟨result, _, _, ends⟩ := ends_bind_iff.mp ends
    cases result with
    | error e => exact .fails (close_unsuccessful (by simp) ends)
    | ok _ =>
        obtain ⟨_, _, _, ends⟩ := ends_bind_iff.mp ends
        obtain ⟨rfl, _⟩ := ends_pure_iff.mp ends
        exact .retries _ (Nat.lt_of_not_le left)

theorem goes_of_awaitStart {opened : Opened} {key : Chord} {signal : Condition}
    {deadline retries : Nat}
    (ends : (c.awaitStart node opened key signal deadline retries).Ends s next s') :
    c.Goes node s (.starting opened key signal deadline retries) next := by
  unfold awaitStart at ends
  replace ends := ends_session_bind_iff.mp ends
  split at ends
  · exact .fails (close_unsuccessful (by simp) ends)
  · obtain ⟨found, _, seen, ends⟩ := ends_bind_iff.mp ends
    split at ends
    · rename_i is_true
      obtain rfl : found = .known true := by simpa [Evaluation.isTrue] using is_true
      exact .starts seen (casts_of_enterCasting ends)
    · replace ends := ends_session_bind_iff.mp ends
      dsimp only at ends
      split at ends
      · exact goes_of_pressAgain _ ends
      · obtain ⟨rfl, _⟩ := ends_pure_iff.mp ends
        exact .looksAgain _

theorem goes_of_finishResting {opened : Opened}
    (ends : (finishResting node opened).Ends s next s') :
    c.Goes node s (.resting opened) next := by
  unfold finishResting at ends
  obtain ⟨_, _, _, ends⟩ := ends_bind_iff.mp ends
  split at ends
  · exact .fails (close_unsuccessful (by simp) ends)
  · obtain ⟨outcome, rfl, _⟩ := finished_of_close ends
    exact .rested outcome

/-- Whether a completion that has not been seen fails the attempt. -/
theorem finishUnseen_eq (node : SkillNode) (opened : Opened) (observed : Bool) :
    (finishUnseen node opened observed : Live σ Next) =
      if node.completion.policy = .requireSignal ∨
          node.completion.policy = .hybridIfObservable ∧ observed = true then
        closeFailed node opened "completion_timeout"
      else (do
        let _ ← Live.change fun s now => s.note opened.attempt "COMPLETION_ASSUMED" none now
        close node opened .success none) := by
  unfold finishUnseen
  cases node.completion.policy <;> cases observed <;> rfl

theorem goes_of_finishUnseen {opened : Opened} {signal : Condition} {deadline : Nat}
    {seen observed : Bool} (t : Session σ)
    (ends : (finishUnseen node opened observed).Ends s next s') :
    c.Goes node t (.completing opened signal deadline seen) next := by
  rw [finishUnseen_eq] at ends
  split at ends
  · exact .fails (close_unsuccessful (by simp) ends)
  · rename_i lenient
    obtain ⟨_, _, _, ends⟩ := ends_bind_iff.mp ends
    obtain ⟨outcome, rfl, _⟩ := finished_of_close ends
    exact .assumes outcome fun required => lenient (.inl required)

theorem goes_of_awaitCompletion {opened : Opened} {signal : Condition} {deadline : Nat}
    {observed : Bool}
    (ends : (c.awaitCompletion node opened signal deadline observed).Ends s next s') :
    c.Goes node s (.completing opened signal deadline observed) next := by
  unfold awaitCompletion at ends
  replace ends := ends_session_bind_iff.mp ends
  split at ends
  · exact .fails (close_unsuccessful (by simp) ends)
  · obtain ⟨found, _, seen, ends⟩ := ends_bind_iff.mp ends
    split at ends
    · rename_i is_true
      obtain rfl : found = .known true := by simpa [Evaluation.isTrue] using is_true
      obtain ⟨outcome, rfl, _⟩ := finished_of_close ends
      exact .completes outcome seen
    · replace ends := ends_session_bind_iff.mp ends
      dsimp only at ends
      split at ends
      · exact goes_of_finishUnseen _ ends
      · obtain ⟨rfl, _⟩ := ends_pure_iff.mp ends
        exact .watchesOn _ _

/-- A step that comes to an end goes on in one of the ways. -/
theorem goes_of_step {phase : Phase} (ends : (c.step node phase).Ends s next s') :
    c.Goes node s phase next := by
  cases phase with
  | opening => exact goes_of_begin ends
  | awaitingLock skill deadline => exact goes_of_awaitLock ends
  | launching opened => exact goes_of_launch (ends_of_holding ends)
  | starting opened key signal deadline retries =>
      exact goes_of_awaitStart (ends_of_holding ends)
  | resting opened => exact goes_of_finishResting (ends_of_holding ends)
  | completing opened signal deadline observed =>
      exact goes_of_awaitCompletion (ends_of_holding ends)

/-! ## Courses -/

/-- An attempt has come to a phase by the listed steps, each of which began in a
phase and a session.  What the session has become between two steps is up to
others. -/
inductive Comes (c : Caster σ) (node : SkillNode) : List (Phase × Session σ) → Phase → Prop
  | opening : Comes c node [] .opening
  | step {past : List (Phase × Session σ)} {phase later : Phase} {s s' : Session σ} {next : Next}
      (comes : Comes c node past phase) (ends : (c.step node phase).Ends s next s')
      (on : next.phase? = some later) : Comes c node (past ++ [(phase, s)]) later

/-- The key of an attempt was pressed in a step. -/
def Pressed (c : Caster σ) (node : SkillNode) (past : List (Phase × Session σ))
    (opened : Opened) : Prop :=
  ∃ key s s', (.launching opened, s) ∈ past ∧ keyOf opened.skill = .ok key ∧
    (c.send node opened key).Ends s (.ok ()) s'

/-- What has to be before a phase is reached. -/
def Prepared (c : Caster σ) (node : SkillNode) (past : List (Phase × Session σ)) : Phase → Prop
  | .starting opened _ _ _ _ => c.Pressed node past opened
  | .resting opened => c.Pressed node past opened ∧
      (node.completion.policy = .assumeSuccess ∨ node.completion.condition = none)
  | .completing opened signal _ _ =>
      c.Pressed node past opened ∧ node.completion.condition = some signal
  | _ => True

variable {past : List (Phase × Session σ)} {phase later : Phase} {opened : Opened}

theorem Pressed.append (pressed : c.Pressed node past opened) (more : List (Phase × Session σ)) :
    c.Pressed node (past ++ more) opened := by
  obtain ⟨key, s, s', mem, bound, sent⟩ := pressed
  exact ⟨key, s, s', List.mem_append_left more mem, bound, sent⟩

theorem Casts.prepared (casts : Casts node opened next) (pressed : c.Pressed node past opened)
    (on : next.phase? = some later) : c.Prepared node past later := by
  cases casts with
  | rests ms unwatched =>
      cases on
      exact ⟨pressed, unwatched⟩
  | watches deadline required given =>
      cases on
      exact ⟨pressed, given⟩

/-- A step prepares the phase that it leads to. -/
theorem Goes.prepared (goes : c.Goes node s phase next) (prepared : c.Prepared node past phase)
    (on : next.phase? = some later) : c.Prepared node (past ++ [(phase, s)]) later := by
  have last : (phase, s) ∈ past ++ [(phase, s)] := by simp
  cases goes with
  | fails unsuccessful =>
      obtain ⟨outcome, rfl, _⟩ := unsuccessful
      contradiction
  | queues skill deadline | waits skill deadline ms | opens opened lockless =>
      cases on
      trivial
  | presses deadline bound sent given =>
      cases on
      exact ⟨_, s, _, last, bound, sent⟩
  | begins bound sent immediate casts =>
      exact casts.prepared ⟨_, s, _, last, bound, sent⟩ on
  | starts seen casts => exact casts.prepared (Pressed.append prepared _) on
  | retries _ left | looksAgain _ =>
      cases on
      exact Pressed.append prepared _
  | rested outcome | completes outcome seen | assumes outcome lenient => contradiction
  | watchesOn ms known =>
      cases on
      exact ⟨prepared.1.append _, prepared.2⟩

theorem Comes.prepared (comes : c.Comes node past phase) : c.Prepared node past phase := by
  induction comes with
  | opening => trivial
  | step comes ends on ih => exact (goes_of_step ends).prepared ih on

/-- On a virtual clock an attempt takes such a course, whatever the environment
does. -/
theorem Comes.exists_of_runFrom {after : Session σ → Session σ} {fuel : Nat} {outcome : Outcome}
    (comes : c.Comes node past phase)
    (ran : (c.runFrom after node fuel phase s).1 = some (.ok outcome)) :
    ∃ past phase t t', c.Comes node past phase ∧
      (c.step node phase).Ends t (.finished outcome) t' := by
  induction fuel generalizing past phase s with
  | zero => contradiction
  | succ fuel ih =>
      unfold runFrom at ran
      rcases result : (c.step node phase).run.run s with ⟨crash | next, t⟩
      · simp only [result] at ran
        cases ran
      · simp only [result] at ran
        cases next with
        | finished ended =>
            cases ran
            exact ⟨past, phase, s, t, comes, result⟩
        | proceed later | sleep ms later | await ms later =>
            exact ih (comes.step result rfl) ran

end Caster

end Rotation.Cast
