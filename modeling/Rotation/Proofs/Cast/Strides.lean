import Rotation.Proofs.Attempt.UnderWay
import Rotation.Proofs.Cast.Acts
import Rotation.Proofs.Cast.Course

/-!
# The strides of an attempt

What one step of an attempt does and how it goes on.  Before the attempt is
opened, a step looks at the screen and passes the node, waits, or takes the lock
and opens the attempt.  Afterwards all that it does to the store goes on with
this attempt, and when it closes the attempt it releases the lock.
-/

namespace Rotation

/-- The verdict on an attempt that has ended by a stage. -/
def Stage.verdict : Stage → Cast.Verdict
  | .success => .success
  | .stopped => .stopped
  | _ => .failed

namespace Act

variable {σ : Type}

/-- An act of an attempt under way. -/
def GoesOn (id : String) : Act σ → Prop
  | .looks _ | .presses _ | .remembers _ | .remarks _ => True
  | .operates operation => operation.GoesOn id
  | _ => False

/-- An act of a node that is not attempted. -/
def Passes : Act σ → Prop
  | .looks _ => True
  | .tells events => ∀ event ∈ events, ∃ skill node reason time,
      event = .skillSkipped skill node reason time
  | _ => False

/-- The stage that an act moves an attempt to. -/
def stage? (act : Act σ) : Option Stage :=
  act.operation?.bind Store.Operation.stage?

/-- An act of an attempt under way that leaves its stage as it is. -/
def Stays (id : String) (act : Act σ) : Prop :=
  act.GoesOn id ∧ act.stage? = none

theorem passes_of_isLook {act : Act σ} (look : act.isLook = true) : act.Passes := by
  cases act with
  | looks spot => trivial
  | presses | equips | operates | remembers | remarks | locks | tells => contradiction

theorem stays_of_isLook {act : Act σ} (id : String) (look : act.isLook = true) : act.Stays id := by
  cases act with
  | looks spot => exact ⟨trivial, rfl⟩
  | presses | equips | operates | remembers | remarks | locks | tells => contradiction

end Act

namespace Cast

/-- The attempt that has been opened before a phase. -/
def Phase.opened? : Phase → Option Opened
  | .opening | .awaitingLock _ _ => none
  | .launching opened | .starting opened _ _ _ _ | .resting opened
  | .completing opened _ _ _ => some opened

/-- The stages that an attempt has passed before a phase. -/
def Phase.passed : Phase → List Stage
  | .opening | .awaitingLock _ _ => []
  | .launching _ => [.preparing]
  | .starting _ _ _ _ _ => [.preparing, .startWait]
  | .resting _ | .completing _ _ _ _ => Stage.ordinary

namespace Caster

variable {σ : Type}

/-- Who waits for the lock does so for the skill of the node, and because the
node asks for it. -/
def Fits (c : Caster σ) (node : SkillNode) : Phase → Prop
  | .awaitingLock skill _ =>
    c.catalogue.skill? node.skill = some skill ∧ node.lock.policy = .wait
  | _ => True

theorem fits_of_opened {c : Caster σ} {node : SkillNode} {phase : Phase} {opened : Opened}
    (under_way : phase.opened? = some opened) : c.Fits node phase := by
  cases phase with
  | opening | awaitingLock => contradiction
  | launching | starting | resting | completing => trivial

/-- A node is refused the lock at once: its skill is ready, and somebody holds
the lock. -/
def Contends (c : Caster σ) (node : SkillNode) (s : Session σ) (phase : Phase) : Prop :=
  phase = .opening ∧ ∃ skill s' holder, c.catalogue.skill? node.skill = some skill ∧
    skill.enabled = true ∧ (c.eval node.ready).Ends s (.known true) s' ∧
    s'.lock.holder = some holder

/-- How an attempt under way, which has passed some stages, goes on at a time. -/
inductive Proceeds (opened : Opened) (now : Nat) (passed : List Stage) :
    List (Act σ) → Except Crash Next → Prop
  | on {acts : List (Act σ)} {next : Next} {later : Phase}
      (own : ∀ act ∈ acts, act.GoesOn opened.attempt) (on : next.phase? = some later)
      (same : later.opened? = some opened)
      (passed_eq : later.passed = passed ++ acts.filterMap Act.stage?) :
      Proceeds opened now passed acts (.ok next)
  | closes {acts : List (Act σ)} {stage : Stage} {outcome : Outcome} (reason : Option String)
      (f : Journal → Journal) (own : ∀ act ∈ acts, act.GoesOn opened.attempt)
      (terminal : stage.isTerminal = true)
      (in_order : passed ++ acts.filterMap Act.stage? <+: Stage.ordinary)
      (complete : stage = .success → passed ++ acts.filterMap Act.stage? = Stage.ordinary)
      (attempt : outcome.attempt = some opened.attempt) (verdict : outcome.verdict = stage.verdict)
      (held : outcome.advance = false ↔ stage = .stopped) :
      Proceeds opened now passed
        (acts ++ [.operates (.finish opened.attempt stage reason now), .locks .free, .remarks f])
        (.ok (.finished outcome))
  | crashes {acts : List (Act σ)} {crash : Crash}
      (own : ∀ act ∈ acts, act.GoesOn opened.attempt) :
      Proceeds opened now passed acts (.error crash)

/-- What a step from a phase does in a session and how it goes on. -/
inductive Strides (c : Caster σ) (node : SkillNode) (s : Session σ) :
    Phase → List (Act σ) → Except Crash Next → Prop
  | waits {phase later : Phase} {acts : List (Act σ)} {next : Next}
      (unopened : phase.opened? = none) (looks : ∀ act ∈ acts, act.isLook = true)
      (on : next.phase? = some later) (still : later.opened? = none) (fits : c.Fits node later) :
      Strides c node s phase acts (.ok next)
  | passes {phase : Phase} {acts : List (Act σ)} {outcome : Outcome}
      (unopened : phase.opened? = none) (quiet : ∀ act ∈ acts, act.Passes)
      (attempt : outcome.attempt = none)
      (verdict : outcome.verdict = .skipped ∨
        outcome.verdict = .stopped ∧ ∃ skill deadline, phase = .awaitingLock skill deadline)
      (held : outcome.advance = false ↔ outcome.verdict = .stopped ∨
        node.lock.policy = .skipButHold ∧ c.Contends node s phase) :
      Strides c node s phase acts (.ok (.finished outcome))
  | opens {phase : Phase} {looks : List (Act σ)} {skill : Skill} (unopened : phase.opened? = none)
      (looking : ∀ act ∈ looks, act.isLook = true)
      (known : c.catalogue.skill? node.skill = some skill) (free : s.lock.holder = none) :
      Strides c node s phase
        (looks ++ [.locks ⟨some (owner node)⟩, .operates (.begin skill.id node.id s.now)])
        (.ok (.proceed (.launching ⟨(s.store.begin skill.id node.id s.now).result, skill⟩)))
  | breaks {phase : Phase} {acts : List (Act σ)} (crash : Crash) (unopened : phase.opened? = none)
      (looks : ∀ act ∈ acts, act.isLook = true) :
      Strides c node s phase acts (.error crash)
  | proceeds {phase : Phase} {opened : Opened} {acts : List (Act σ)} {next : Next}
      (under_way : phase.opened? = some opened)
      (proceeds : Proceeds opened s.now phase.passed acts (.ok next)) :
      Strides c node s phase acts (.ok next)
  | crashes {phase : Phase} {opened : Opened} {acts : List (Act σ)} (crash : Crash)
      (under_way : phase.opened? = some opened)
      (own : ∀ act ∈ acts, act.GoesOn opened.attempt) :
      Strides c node s phase (acts ++ [.locks .free]) (.error crash)

/-- What goes before a part of a step belongs to the step. -/
theorem Proceeds.after {opened : Opened} {now : Nat} {passed : List Stage}
    {acts more : List (Act σ)} {result : Except Crash Next}
    (own : ∀ act ∈ acts, act.GoesOn opened.attempt)
    (proceeds : Proceeds opened now (passed ++ acts.filterMap Act.stage?) more result) :
    Proceeds opened now passed (acts ++ more) result := by
  have all_own : ∀ {later : List (Act σ)}, (∀ act ∈ later, act.GoesOn opened.attempt) →
      ∀ act ∈ acts ++ later, act.GoesOn opened.attempt :=
    fun later_own act mem => (List.mem_append.mp mem).elim (own act) (later_own act)
  cases proceeds with
  | on later_own on same passed_eq =>
      refine .on (all_own later_own) on same ?_
      rw [passed_eq, List.filterMap_append, List.append_assoc]
  | closes reason f later_own terminal in_order complete attempt verdict held =>
      rw [List.append_assoc, ← List.filterMap_append] at in_order complete
      rw [← List.append_assoc]
      exact .closes reason f (all_own later_own) terminal in_order complete attempt verdict held
  | crashes later_own => exact .crashes (all_own later_own)

/-- What leaves the stage as it is may go before a part of a step. -/
theorem Proceeds.after_stays {opened : Opened} {now : Nat} {passed : List Stage}
    {acts more : List (Act σ)} {result : Except Crash Next}
    (own : ∀ act ∈ acts, act.Stays opened.attempt)
    (proceeds : Proceeds opened now passed more result) :
    Proceeds opened now passed (acts ++ more) result := by
  have no_stage : acts.filterMap Act.stage? = [] :=
    List.filterMap_eq_nil_iff.mpr fun act mem => (own act mem).2
  refine .after (fun act mem => (own act mem).1) ?_
  rwa [no_stage, List.append_nil]

open Live

variable {c : Caster σ} {node : SkillNode} {s : Session σ}

/-! ## Steps before the attempt is opened -/

theorem acts_skip (reason : String) (advance : Bool) :
    (c.skip node reason advance).Acts c.rig s fun acts result =>
      (∀ act ∈ acts, act.Passes) ∧ ∃ delay, result =
        .ok (.finished ⟨.skipped, advance, delay, none, some reason⟩) := by
  unfold skip
  refine acts_session_bind (fun _ => rfl) ?_
  refine acts_act_bind (does_publish _) (acts_pure ⟨?_, _, rfl⟩)
  simp [Act.Passes]

/-- A node that has looked is passed. -/
theorem strides_skip {phase : Phase} {reason : String} {advance : Bool} (looks : List (Act σ))
    (unopened : phase.opened? = none) (looking : ∀ act ∈ looks, act.isLook = true)
    (held : advance = false ↔ node.lock.policy = .skipButHold ∧ c.Contends node s phase) :
    (c.skip node reason advance).Acts c.rig (Act.applyAll c.rig s looks)
      fun more result => c.Strides node s phase (looks ++ more) result := by
  refine (acts_skip reason advance).mono ?_
  rintro more _ ⟨quiet, delay, rfl⟩
  refine .passes unopened ?_ rfl (.inl rfl) (by simpa using held)
  intro act mem
  exact (List.mem_append.mp mem).elim (fun own => Act.passes_of_isLook (looking act own))
    (quiet act)

theorem acts_openAttempt (skill : Skill) (lock : CastLock) :
    (openAttempt node skill lock).Acts c.rig s fun acts result =>
      acts = [.locks lock, .operates (.begin skill.id node.id s.now)] ∧ result =
        .ok (.proceed (.launching ⟨(s.store.begin skill.id node.id s.now).result, skill⟩)) := by
  unfold openAttempt
  have locks : (modify fun s => { s with lock } : Live σ Unit).Does c.rig s [.locks lock]
      (.ok ()) :=
    fun _ => rfl
  refine acts_act_bind locks ?_
  refine acts_act_bind (does_change (.begin skill.id node.id s.now) rfl rfl) ?_
  exact acts_pure ⟨rfl, rfl⟩

/-- A node that has looked takes the lock, which nobody has held. -/
theorem strides_openAttempt {phase : Phase} {skill : Skill} (looks : List (Act σ))
    (unopened : phase.opened? = none) (looking : ∀ act ∈ looks, act.isLook = true)
    (known : c.catalogue.skill? node.skill = some skill) (free : s.lock.holder = none) :
    (openAttempt node skill ⟨some (owner node)⟩).Acts c.rig (Act.applyAll c.rig s looks)
      fun more result => c.Strides node s phase (looks ++ more) result := by
  have store_eq : (Act.applyAll c.rig s looks).store = s.store :=
    Act.store_applyAll_eq _ _ fun act mem => Act.operation?_of_isLook (looking act mem)
  refine (acts_openAttempt skill _).mono ?_
  rintro _ _ ⟨rfl, rfl⟩
  rw [store_eq, Act.now_applyAll]
  exact .opens unopened looking known free

theorem strides_enter {skill : Skill} {looks : List (Act σ)}
    (known : c.catalogue.skill? node.skill = some skill) (enabled : skill.enabled = true)
    (looking : ∀ act ∈ looks, act.isLook = true)
    (seen : (c.eval node.ready).Ends s (.known true) (Act.applyAll c.rig s looks)) :
    (c.enter node skill).Acts c.rig (Act.applyAll c.rig s looks)
      fun more result => c.Strides node s .opening (looks ++ more) result := by
  have lock_eq : (Act.applyAll c.rig s looks).lock = s.lock :=
    Act.lock_applyAll_eq _ _ fun act mem => Act.lock?_of_isLook (looking act mem)
  unfold enter
  refine acts_session_bind (fun _ => rfl) ?_
  rw [lock_eq]
  split
  · rename_i waiting
    refine acts_pure ?_
    rw [List.append_nil]
    exact .waits rfl looking rfl rfl ⟨known, waiting⟩
  · cases holder : s.lock.holder with
    | none =>
        have taken : s.lock.tryAcquire (owner node) = .ok ⟨some (owner node)⟩ :=
          CastLock.tryAcquire_eq_ok_iff.mpr ⟨holder, rfl⟩
        rw [taken]
        exact strides_openAttempt _ rfl looking known holder
    | some other =>
        have busy : s.lock.tryAcquire (owner node) = .error (.busy other) := by
          simp [CastLock.tryAcquire, holder]
        have contends : c.Contends node s .opening :=
          ⟨rfl, skill, _, other, known, enabled, seen, by rw [lock_eq, holder]⟩
        rw [busy]
        exact strides_skip _ rfl looking (by simp [contends])

theorem strides_begin : (c.begin node).Acts c.rig s (c.Strides node s .opening) := by
  have passed : ∀ reason, ¬c.Contends node s .opening →
      (c.skip node reason true).Acts c.rig s (c.Strides node s .opening) :=
    fun reason uncontended => strides_skip [] rfl (by simp) (by simp [uncontended])
  unfold begin
  split
  · rename_i missing
    refine passed _ ?_
    rintro ⟨_, skill, _, _, known, _⟩
    rw [missing] at known
    contradiction
  rename_i skill known
  split
  · rename_i disabled
    refine passed _ ?_
    rintro ⟨_, _, _, _, other, enabled, _⟩
    obtain rfl := Option.some.inj (known.symm.trans other)
    simp [enabled] at disabled
  rename_i enabled
  refine acts_bind (acts_eval _ _ c.catalogue node.ready).with_does ?_ ?_
  · rintro looks found ⟨looking, does⟩
    have seen : (c.eval node.ready).Ends s found (Act.applyAll c.rig s looks) := does.run
    have uncontended : found ≠ .known true → ¬c.Contends node s .opening := by
      rintro differs ⟨_, _, _, _, _, _, ready, _⟩
      exact differs (Except.ok.inj (Prod.mk.inj (seen.symm.trans ready)).1)
    split
    · exact strides_enter known (by simpa using enabled) looking seen
    · exact strides_skip _ rfl looking (by simp [uncontended])
    · exact strides_skip _ rfl looking (by simp [uncontended])
  · rintro acts crash ⟨looking, _⟩
    exact .breaks crash rfl looking

theorem strides_awaitLock {skill : Skill} {deadline : Nat}
    (fits : c.Fits node (.awaitingLock skill deadline)) :
    (c.awaitLock node skill deadline).Acts c.rig s
      (c.Strides node s (.awaitingLock skill deadline)) := by
  obtain ⟨known, waiting⟩ := fits
  unfold awaitLock
  refine acts_session_bind (fun _ => rfl) ?_
  unfold CastLock.look
  cases holder : s.lock.holder with
  | none => exact strides_openAttempt [] rfl (by simp) known holder
  | some other =>
      dsimp only
      by_cases stopped : s.cancelled = true
      · rw [if_pos stopped]
        exact acts_pure (.passes rfl (by simp) rfl (.inr ⟨rfl, _, _, rfl⟩) (by simp))
      · rw [if_neg stopped]
        by_cases late : deadline ≤ s.now
        · rw [if_pos late]
          exact strides_skip [] rfl (by simp) (by simp [waiting])
        · rw [if_neg late]
          exact acts_pure (.waits rfl (by simp) rfl rfl ⟨known, waiting⟩)

/-! ## Steps of an attempt under way -/

theorem stays_note (id kind : String) (detail : Option String) (time : Nat) :
    (Act.operates (.note id kind detail time) : Act σ).Stays id :=
  ⟨rfl, rfl⟩

theorem acting_recordBaseline (c : Caster σ) (opened : Opened) (id : String) :
    (acting c.rig (Act.Stays opened.attempt)).Holds (fun _ => True)
      (c.recordBaseline opened id) := by
  unfold recordBaseline
  split
  · exact (acting _ _).pure trivial
  · refine acting_after (acting_of_does fun _ => ⟨_, _, does_sample _, trivial, rfl⟩) ?_
    rintro (u | color)
    · refine acting_after (acting_of_does fun _ => ⟨.remembers _, _, fun _ => rfl, trivial, rfl⟩) ?_
      intro _
      refine acting_after (acting_of_does fun s => ⟨_, _, does_change (.note _ _ _ s.now) rfl rfl,
        stays_note ..⟩) ?_
      exact fun _ => (acting _ _).pure trivial
    · exact acting_of_does fun _ => ⟨.remembers _, _, fun _ => rfl, trivial, rfl⟩

theorem acting_recordBaselines (c : Caster σ) (opened : Opened) (ids : List String) :
    (acting c.rig (Act.Stays opened.attempt)).Holds (fun _ => True)
      (c.recordBaselines opened ids) := by
  induction ids with
  | nil => exact (acting _ _).pure trivial
  | cons id rest ih => exact acting_after (acting_recordBaseline c opened id) fun _ => ih

theorem acting_send (c : Caster σ) (node : SkillNode) (opened : Opened) (key : Chord) :
    (acting c.rig (Act.Stays opened.attempt)).Holds (fun _ => True) (c.send node opened key) := by
  unfold send
  refine acting_after (acting_recordBaselines c opened _) fun _ => ?_
  refine acting_after (acting_of_does fun _ => ⟨_, _, does_press key, trivial, rfl⟩) ?_
  rintro (e | _)
  · exact (acting _ _).pure trivial
  · refine acting_after (acting_of_does fun s => ⟨_, _, does_change (.keySent _ s.now) rfl rfl,
      rfl, rfl⟩) ?_
    exact fun _ => (acting _ _).pure trivial

variable {opened : Opened} {passed : List Stage}

/-- What an attempt does when it is closed. -/
theorem acts_close (stage : Stage) (reason : Option String) :
    (close node opened stage reason : Live σ Next).Acts c.rig s fun acts result =>
      ∃ f outcome, acts = [.operates (.finish opened.attempt stage reason s.now), .locks .free,
          .remarks f] ∧ result = .ok (.finished outcome) ∧
        outcome.attempt = some opened.attempt ∧ outcome.verdict = stage.verdict ∧
        (outcome.advance = false ↔ stage = .stopped) := by
  unfold close
  refine acts_act_bind (does_change (.finish opened.attempt stage reason s.now) rfl rfl) ?_
  refine acts_act_bind does_release ?_
  cases stage
  all_goals
    refine acts_act_bind (does_remark _) ?_
    exact acts_pure ⟨_, _, rfl, rfl, rfl, rfl, by simp⟩

/-- An attempt may be closed by any end that its stages allow. -/
theorem proceeds_close {stage : Stage} (reason : Option String) (terminal : stage.isTerminal = true)
    (in_order : passed <+: Stage.ordinary) (complete : stage = .success → passed = Stage.ordinary) :
    (close node opened stage reason : Live σ Next).Acts c.rig s
      (Proceeds opened s.now passed) := by
  refine (acts_close stage reason).mono ?_
  rintro _ _ ⟨f, outcome, rfl, rfl, attempt, verdict, held⟩
  rw [← List.nil_append [_, _, _]]
  exact .closes reason f (by simp) terminal (by simpa using in_order)
    (by simpa using complete) attempt verdict held

theorem proceeds_closeStopped (in_order : passed <+: Stage.ordinary) :
    (closeStopped node opened : Live σ Next).Acts c.rig s (Proceeds opened s.now passed) :=
  proceeds_close (some "stopped") rfl in_order (by simp)

theorem proceeds_closeFailed (reason : String) (in_order : passed <+: Stage.ordinary) :
    (closeFailed node opened reason : Live σ Next).Acts c.rig s (Proceeds opened s.now passed) :=
  proceeds_close (some reason) rfl in_order (by simp)

/-- A part of a step that leaves the stage of the attempt as it is comes first. -/
theorem proceeds_bind {α : Type} {x : Live σ α} {f : α → Live σ Next}
    (first : ∀ s, x.Acts c.rig s fun acts _ => ∀ act ∈ acts, act.Stays opened.attempt)
    (rest : ∀ a s, (f a).Acts c.rig s (Proceeds opened s.now passed)) :
    (x >>= f).Acts c.rig s (Proceeds opened s.now passed) := by
  refine acts_bind (first s) ?_ ?_
  · intro acts a own
    refine (rest a _).mono ?_
    intro more result proceeds
    rw [Act.now_applyAll] at proceeds
    exact proceeds.after_stays own
  · exact fun acts crash own => .crashes fun act mem => (own act mem).1

/-- An attempt is moved to the next stage first. -/
theorem proceeds_transition_bind {stage : Stage} {f : Bool → Live σ Next}
    (ongoing : stage.isTerminal = false)
    (rest : ∀ done s, (f done).Acts c.rig s (Proceeds opened s.now (passed ++ [stage]))) :
    ((Live.change fun s now => s.transition opened.attempt stage now) >>= f).Acts c.rig s
      (Proceeds opened s.now passed) := by
  refine acts_act_bind (does_change (.transition opened.attempt stage s.now) rfl rfl) ?_
  refine (rest _ _).mono ?_
  intro more result proceeds
  have own : ∀ act ∈ ([.operates (.transition opened.attempt stage s.now)] : List (Act σ)),
      act.GoesOn opened.attempt := by
    simpa using ⟨rfl, ongoing⟩
  exact .after own proceeds

theorem proceeds_enterCasting :
    (c.enterCasting node opened).Acts c.rig s
      (Proceeds opened s.now [.preparing, .startWait]) := by
  unfold enterCasting
  refine proceeds_transition_bind rfl fun _ s => proceeds_transition_bind rfl fun _ s => ?_
  split
  · exact acts_pure (.on (by simp) rfl rfl rfl)
  · exact acts_pure (.on (by simp) rfl rfl rfl)
  · exact acts_session_bind (fun _ => rfl) (acts_pure (.on (by simp) rfl rfl rfl))

theorem acts_send (key : Chord) (s : Session σ) :
    (c.send node opened key).Acts c.rig s fun acts _ =>
      ∀ act ∈ acts, act.Stays opened.attempt :=
  (acting_send c node opened key s).mono fun _ _ holds => holds.1

theorem proceeds_launch :
    (c.launch node opened).Acts c.rig s (Proceeds opened s.now [.preparing]) := by
  have in_order : [Stage.preparing] <+: Stage.ordinary := by decide
  unfold launch
  refine acts_session_bind (fun _ => rfl) ?_
  split
  · exact proceeds_closeStopped in_order
  split
  · exact proceeds_closeFailed _ in_order
  refine proceeds_bind (acts_send _) fun sent s => ?_
  cases sent with
  | error e =>
      refine proceeds_bind (fun s => ⟨_, _, does_remark _,
        List.forall_mem_singleton.mpr ⟨trivial, rfl⟩⟩) ?_
      exact fun _ s => proceeds_closeFailed _ in_order
  | ok _ =>
      refine proceeds_transition_bind rfl fun _ s => ?_
      split
      · exact proceeds_enterCasting
      · exact acts_session_bind (fun _ => rfl) (acts_pure (.on (by simp) rfl rfl rfl))

theorem proceeds_pressAgain {key : Chord} {signal : Condition} {retries : Nat} :
    (c.pressAgain node opened key signal retries).Acts c.rig s
      (Proceeds opened s.now [.preparing, .startWait]) := by
  have in_order : [Stage.preparing, .startWait] <+: Stage.ordinary := by decide
  unfold pressAgain
  split
  · exact proceeds_closeFailed _ in_order
  refine proceeds_bind (fun s => ⟨_, _, does_change (.retry opened.attempt s.now) rfl rfl,
    List.forall_mem_singleton.mpr ⟨rfl, rfl⟩⟩) fun _ s => ?_
  refine proceeds_bind (acts_send _) fun sent s => ?_
  cases sent with
  | error e => exact proceeds_closeFailed _ in_order
  | ok _ => exact acts_session_bind (fun _ => rfl) (acts_pure (.on (by simp) rfl rfl rfl))

theorem acts_look (condition : Condition) (s : Session σ) :
    (c.eval condition).Acts c.rig s fun acts _ => ∀ act ∈ acts, act.Stays opened.attempt :=
  (acts_eval _ _ c.catalogue condition).mono fun _ _ looks act mem =>
    Act.stays_of_isLook _ (looks act mem)

theorem proceeds_awaitStart {key : Chord} {signal : Condition} {deadline retries : Nat} :
    (c.awaitStart node opened key signal deadline retries).Acts c.rig s
      (Proceeds opened s.now [.preparing, .startWait]) := by
  unfold awaitStart
  refine acts_session_bind (fun _ => rfl) ?_
  split
  · exact proceeds_closeStopped (by decide)
  refine proceeds_bind (acts_look signal) fun found s => ?_
  split
  · exact proceeds_enterCasting
  refine acts_session_bind (fun _ => rfl) ?_
  dsimp only
  split
  · exact proceeds_pressAgain
  · exact acts_pure (.on (by simp) rfl rfl rfl)

theorem proceeds_finishResting :
    (finishResting node opened : Live σ Next).Acts c.rig s
      (Proceeds opened s.now Stage.ordinary) := by
  unfold finishResting
  refine acts_session_bind (fun _ => rfl) ?_
  split
  · exact proceeds_closeStopped (List.prefix_refl _)
  · exact proceeds_close none rfl (List.prefix_refl _) fun _ => rfl

theorem proceeds_finishUnseen {observed : Bool} :
    (finishUnseen node opened observed : Live σ Next).Acts c.rig s
      (Proceeds opened s.now Stage.ordinary) := by
  rw [finishUnseen_eq]
  split
  · exact proceeds_closeFailed _ (List.prefix_refl _)
  · refine proceeds_bind (fun s => ⟨_, _, does_change (.note opened.attempt _ _ s.now) rfl rfl,
      List.forall_mem_singleton.mpr (stays_note ..)⟩) ?_
    exact fun _ s => proceeds_close none rfl (List.prefix_refl _) fun _ => rfl

theorem proceeds_awaitCompletion {signal : Condition} {deadline : Nat} {observed : Bool} :
    (c.awaitCompletion node opened signal deadline observed).Acts c.rig s
      (Proceeds opened s.now Stage.ordinary) := by
  unfold awaitCompletion
  refine acts_session_bind (fun _ => rfl) ?_
  split
  · exact proceeds_closeStopped (List.prefix_refl _)
  refine proceeds_bind (acts_look signal) fun found s => ?_
  split
  · exact proceeds_close none rfl (List.prefix_refl _) fun _ => rfl
  refine acts_session_bind (fun _ => rfl) ?_
  dsimp only
  split
  · exact proceeds_finishUnseen
  · exact acts_pure (.on (by simp) rfl rfl rfl)

/-- A step under the lock goes on with the attempt, or crashes and releases the
lock. -/
theorem strides_holding {phase : Phase} {x : Live σ Next} (under_way : phase.opened? = some opened)
    (proceeds : x.Acts c.rig s (Proceeds opened s.now phase.passed)) :
    (holding x).Acts c.rig s (c.Strides node s phase) := by
  refine acts_holding proceeds ?_ ?_
  · exact fun acts next proceeds => .proceeds under_way proceeds
  · rintro acts crash ⟨⟩
    rename_i own
    exact .crashes crash under_way own

/-- Every step of an attempt goes in one of the strides. -/
theorem acts_step {phase : Phase} (fits : c.Fits node phase) :
    (c.step node phase).Acts c.rig s (c.Strides node s phase) := by
  cases phase with
  | opening => exact strides_begin
  | awaitingLock skill deadline => exact strides_awaitLock fits
  | launching opened => exact strides_holding rfl proceeds_launch
  | starting opened key signal deadline retries => exact strides_holding rfl proceeds_awaitStart
  | resting opened => exact strides_holding rfl proceeds_finishResting
  | completing opened signal deadline observed =>
      exact strides_holding rfl proceeds_awaitCompletion

/-- An attempt goes on in a phase that fits its node. -/
theorem Strides.fits {phase later : Phase} {acts : List (Act σ)} {next : Next}
    (strides : c.Strides node s phase acts (.ok next)) (on : next.phase? = some later) :
    c.Fits node later := by
  cases strides with
  | waits unopened looks own_on still fits =>
      rw [on] at own_on
      cases own_on
      exact fits
  | passes => contradiction
  | opens =>
      cases on
      trivial
  | proceeds under_way proceeds =>
      cases proceeds with
      | on own own_on same passed_eq =>
          rw [on] at own_on
          cases own_on
          exact fits_of_opened same
      | closes => contradiction

/-! ## The lock -/

/-- Under which name an attempt holds the lock in a phase. -/
def held (node : SkillNode) (phase : Phase) : Option String :=
  phase.opened?.map fun _ => owner node

/-- Under which name an attempt holds the lock after a step. -/
def heldAfter (node : SkillNode) : Except Crash Next → Option String
  | .ok next => next.phase?.bind (held node)
  | .error _ => none

theorem lock?_of_goesOn {act : Act σ} {id : String} (own : act.GoesOn id) : act.lock? = none := by
  cases act with
  | locks => contradiction
  | looks | presses | equips | operates | remembers | remarks | tells => rfl

theorem lock?_of_passes {act : Act σ} (quiet : act.Passes) : act.lock? = none := by
  cases act with
  | locks => contradiction
  | looks | presses | equips | operates | remembers | remarks | tells => rfl

/-- A step takes the lock when it opens the attempt, lets go of it when it closes
the attempt or crashes, and leaves it alone otherwise. -/
theorem Strides.splits {phase : Phase} {acts : List (Act σ)} {result : Except Crash Next}
    {theirs : Option String} (strides : c.Strides node s phase acts result)
    (splits : Shared.Splits (s, theirs) (held node phase)) :
    Shared.Splits (Act.applyAll c.rig s acts, theirs) (heldAfter node result) := by
  cases strides with
  | waits unopened looks on still fits =>
      have lock_eq := Act.lock_applyAll_eq c.rig s fun act mem =>
        Act.lock?_of_isLook (looks act mem)
      have kept := splits.of_lock_eq lock_eq
      rw [held, unopened] at kept
      rw [heldAfter, on, Option.bind_some, held, still]
      exact kept
  | passes unopened quiet attempt verdict advance =>
      have lock_eq := Act.lock_applyAll_eq c.rig s fun act mem =>
        lock?_of_passes (quiet act mem)
      have kept := splits.of_lock_eq lock_eq
      rw [held, unopened] at kept
      exact kept
  | opens unopened looking known free =>
      rw [held, unopened] at splits
      refine splits.acquire free ?_
      rw [Act.applyAll_append]
      rfl
  | breaks crash unopened looks =>
      have lock_eq := Act.lock_applyAll_eq c.rig s fun act mem =>
        Act.lock?_of_isLook (looks act mem)
      have kept := splits.of_lock_eq lock_eq
      rw [held, unopened] at kept
      exact kept
  | proceeds under_way proceeds =>
      cases proceeds with
      | on own on same passed_eq =>
          have lock_eq := Act.lock_applyAll_eq c.rig s fun act mem =>
            lock?_of_goesOn (own act mem)
          have kept := splits.of_lock_eq lock_eq
          rw [held, under_way] at kept
          rw [heldAfter, on, Option.bind_some, held, same]
          exact kept
      | closes =>
          rw [held, under_way] at splits
          refine splits.release ?_
          rw [Act.applyAll_append]
          rfl
  | crashes crash under_way own =>
      rw [held, under_way] at splits
      refine splits.release ?_
      rw [Act.applyAll_append]
      rfl

end Caster

end Cast

end Rotation
