import Rotation.Cast.Session
import Rotation.Preset.Basic

/-!
# One attempt at a skill node

An attempt goes through phases: the skill has to be ready, the cast lock has to
be obtained, the key is pressed, and the signals of the start and the
completion are waited for.  A step of an attempt is atomic; every wait is a
rest between two steps, and every step after a rest looks first whether the run
has been stopped.

Baselines are recorded anew just before each press.  An attempt that has been
opened is always closed, by the stage that its outcome reports, and the lock is
released with it.

On a virtual clock a step takes no time and a rest lasts exactly as long as
asked, unless what it waits for has already come about.
-/

namespace Rotation.Cast

/-- How an attempt has gone. -/
inductive Verdict where
  | success
  | failed
  | skipped
  | stopped
  deriving DecidableEq, Repr

/-- The name of a verdict. -/
def Verdict.name : Verdict → String
  | .success => "success"
  | .failed => "failed"
  | .skipped => "skipped"
  | .stopped => "stopped"

/-- What an attempt has come to, and what that means for its node: whether the
track moves on and after which delay. -/
structure Outcome where
  verdict : Verdict
  advance : Bool
  delayMs : Nat
  attempt : Option String
  reason : Option String
  deriving DecidableEq, Repr

/-- An open attempt and its skill. -/
structure Opened where
  attempt : String
  skill : Skill

/-- Where an attempt is. -/
inductive Phase where
  | opening
  | awaitingLock (skill : Skill) (deadline : Nat)
  | launching (opened : Opened)
  | starting (opened : Opened) (key : Chord) (signal : Condition) (deadline retries : Nat)
  | resting (opened : Opened)
  | completing (opened : Opened) (signal : Condition) (deadline : Nat) (observed : Bool)

/-- Whether an attempt in this phase holds the cast lock. -/
def Phase.holdsLock : Phase → Bool
  | .opening | .awaitingLock _ _ => false
  | _ => true

/-- How an attempt goes on after a step: at once, after a rest that a stop
ends, after a rest that a release of the lock ends, or not at all. -/
inductive Next where
  | proceed (phase : Phase)
  | sleep (ms : Nat) (phase : Phase)
  | await (ms : Nat) (phase : Phase)
  | finished (outcome : Outcome)

/-- Who casts: what he knows, his equipment and his pace. -/
structure Caster (σ : Type) where
  catalogue : Catalogue
  rig : Rig σ
  settings : EngineSettings

namespace Caster

variable {σ : Type}

/-- The journal's name for this part. -/
def part : String :=
  "executor"

/-- Evaluate a condition. -/
def eval (c : Caster σ) (condition : Condition) : Live σ Evaluation :=
  Live.eval c.rig c.catalogue condition

/-- The name under which a node holds the lock. -/
def owner (node : SkillNode) : String :=
  node.id ++ ":" ++ node.skill

/-- The outcome of a node that is passed over. -/
def skip (c : Caster σ) (node : SkillNode) (reason : String) (advance : Bool) : Live σ Next := do
  Live.publish [.skillSkipped node.skill node.id reason (← Live.session).now]
  return .finished ⟨.skipped, advance, c.settings.skipRetryMs.toNat, none, some reason⟩

/-- Close an open attempt and release the lock. -/
def close (node : SkillNode) (opened : Opened) (stage : Stage) (reason : Option String) :
    Live σ Next := do
  let id := opened.attempt
  let _ ← Live.change fun s now => s.finish id stage reason now
  Live.release
  let arrow := id ++ " -> " ++ stage.name
  match stage with
  | .success => do
    Live.remark (·.info part arrow)
    return .finished ⟨.success, true, node.gapMs, some id, reason⟩
  | .stopped => do
    Live.remark (·.info part arrow)
    return .finished ⟨.stopped, false, 0, some id, reason⟩
  | _ => do
    Live.remark (·.warn part (arrow ++ " (" ++ reason.getD "-" ++ ")"))
    return .finished ⟨.failed, true, node.gapMs, some id, reason⟩

/-- Close an attempt because the run has been stopped. -/
def closeStopped (node : SkillNode) (opened : Opened) : Live σ Next :=
  close node opened .stopped (some "stopped")

/-- Close an attempt that has failed. -/
def closeFailed (node : SkillNode) (opened : Opened) (reason : String) : Live σ Next :=
  close node opened .failed (some reason)

/-- The outcome of a node that has not obtained the lock. -/
def refused (c : Caster σ) (node : SkillNode) : Contention → Live σ Next
  | .cancelled => return .finished ⟨.stopped, false, 0, none, some Contention.cancelled.reason⟩
  | why => c.skip node why.reason (node.lock.policy != .skipButHold)

/-- Open an attempt under the lock that has been obtained. -/
def openAttempt (node : SkillNode) (skill : Skill) (lock : CastLock) : Live σ Next := do
  modify fun s => { s with lock }
  let id ← Live.change fun s now => s.begin skill.id node.id now
  return .proceed (.launching ⟨id, skill⟩)

/-- Try the lock once, or begin to wait for it. -/
def enter (c : Caster σ) (node : SkillNode) (skill : Skill) : Live σ Next := do
  let s ← Live.session
  match node.lock.policy with
  | .wait => return .proceed (.awaitingLock skill (s.now + node.lock.timeoutMs.toNat))
  | _ =>
    match s.lock.tryAcquire (owner node) with
    | .ok lock => openAttempt node skill lock
    | .error why => c.refused node why

/-- The first step: the skill has to be known, enabled and ready. -/
def begin (c : Caster σ) (node : SkillNode) : Live σ Next :=
  match c.catalogue.skill? node.skill with
  | none => c.skip node "skill_not_found" true
  | some skill =>
    if !skill.enabled then c.skip node "skill_disabled" true
    else do
      match ← c.eval node.ready with
      | .known true => c.enter node skill
      | .known false => c.skip node "not_ready" true
      | .unknown reason => c.skip node reason true

/-- Look at the lock while waiting for it. -/
def awaitLock (c : Caster σ) (node : SkillNode) (skill : Skill) (deadline : Nat) :
    Live σ Next := do
  let s ← Live.session
  match s.lock.look (owner node) deadline c.settings.pollMs.toNat s.now s.cancelled with
  | .taken lock => openAttempt node skill lock
  | .refused why => c.refused node why
  | .wait ms => return .await ms (.awaitingLock skill deadline)

/-- The points whose colours are recorded before each press: the cast bar of the
skill, and those that the signals compare with a baseline. -/
def baselinePoints (node : SkillNode) (skill : Skill) : List String :=
  let bar := if node.start.mode = .castBar then skill.castBar.toList else []
  let signals := node.start.condition.toList ++ node.completion.condition.toList
  (signals.flatMap Condition.barPoints).foldl
    (fun points p => if points.contains p then points else points ++ [p]) bar

/-- Record the colour of a point, or forget the old one if it cannot be seen. -/
def recordBaseline (c : Caster σ) (opened : Opened) (id : String) : Live σ Unit :=
  match c.catalogue.point? id with
  | none => return ()
  | some point => do
    match ← Live.sample c.rig point.indicator.spot with
    | .ok color => modify fun s => { s with baselines := s.baselines.insert id color }
    | .error u => do
      modify fun s => { s with baselines := s.baselines.erase id }
      let _ ← Live.change fun s now =>
        s.note opened.attempt "BASELINE_UNAVAILABLE" (some u.text) now

/-- Record the baselines of an attempt one after the other. -/
def recordBaselines (c : Caster σ) (opened : Opened) : List String → Live σ Unit
  | [] => return ()
  | id :: rest => do
    c.recordBaseline opened id
    c.recordBaselines opened rest

/-- Record the baselines and press the key. -/
def send (c : Caster σ) (node : SkillNode) (opened : Opened) (key : Chord) :
    Live σ (Except PressError Unit) := do
  c.recordBaselines opened (baselinePoints node opened.skill)
  match ← Live.press c.rig key with
  | .ok () => do
    let _ ← Live.change fun s now => s.keySent opened.attempt now
    return .ok ()
  | .error e => return .error e

/-- The chord bound to a skill. -/
def keyOf (skill : Skill) : Except PressError Chord :=
  match skill.key with
  | none => .error .unbound
  | some text =>
    if text.isEmpty then .error .unbound
    else (Chord.parse text).mapError .badChord

/-- How long the completion of a skill is waited for. -/
def completionBudget (c : Caster σ) (node : SkillNode) (skill : Skill) : Nat :=
  max (skill.castMs.toFloat * node.completion.factor).ceil.toUInt64.toNat c.settings.pollMs.toNat

/-- The action has started: wait for its completion. -/
def enterCasting (c : Caster σ) (node : SkillNode) (opened : Opened) : Live σ Next := do
  let _ ← Live.change fun s now => s.transition opened.attempt .casting now
  let _ ← Live.change fun s now => s.transition opened.attempt .completeWait now
  match node.completion.policy, node.completion.condition with
  | .assumeSuccess, _ | _, none => return .sleep opened.skill.castMs.toNat (.resting opened)
  | _, some signal =>
    let deadline := (← Live.session).now + c.completionBudget node opened.skill
    return .proceed (.completing opened signal deadline false)

/-- Press the key of an opened attempt. -/
def launch (c : Caster σ) (node : SkillNode) (opened : Opened) : Live σ Next := do
  if (← Live.session).cancelled then
    closeStopped node opened
  else
    match keyOf opened.skill with
    | .error e => closeFailed node opened e.code
    | .ok key =>
      match ← c.send node opened key with
      | .error e => do
        Live.remark (·.warn part
          (opened.attempt ++ ": key `" ++ key.text ++ "` failed: " ++ e.message))
        closeFailed node opened e.code
      | .ok () => do
        let _ ← Live.change fun s now => s.transition opened.attempt .startWait now
        match node.start.condition with
        | none => c.enterCasting node opened
        | some signal =>
          let deadline := (← Live.session).now + node.start.timeoutMs
          return .proceed (.starting opened key signal deadline 0)

/-- How long to rest before the next look at a signal. -/
def pollRest (c : Caster σ) (deadline now : Nat) : Nat :=
  min (max c.settings.pollMs.toNat 1) (deadline - now)

/-- Press the key again after a start that has not been seen. -/
def pressAgain (c : Caster σ) (node : SkillNode) (opened : Opened) (key : Chord)
    (signal : Condition) (retries : Nat) : Live σ Next := do
  if node.start.retries ≤ retries then
    closeFailed node opened "start_timeout"
  else
    let _ ← Live.change fun s now => s.retry opened.attempt now
    match ← c.send node opened key with
    | .error e => closeFailed node opened e.code
    | .ok () =>
      let deadline := (← Live.session).now + node.start.timeoutMs
      return .proceed (.starting opened key signal deadline (retries + 1))

/-- Look for the signal of the start. -/
def awaitStart (c : Caster σ) (node : SkillNode) (opened : Opened) (key : Chord)
    (signal : Condition) (deadline retries : Nat) : Live σ Next := do
  if (← Live.session).cancelled then
    closeStopped node opened
  else if (← c.eval signal).isTrue then
    c.enterCasting node opened
  else
    let now := (← Live.session).now
    if deadline ≤ now then
      c.pressAgain node opened key signal retries
    else
      return .sleep (c.pollRest deadline now) (.starting opened key signal deadline retries)

/-- The end of a cast whose completion is not looked for. -/
def finishResting (node : SkillNode) (opened : Opened) : Live σ Next := do
  if (← Live.session).cancelled then
    closeStopped node opened
  else
    close node opened .success none

/-- The end of a cast whose completion has been looked for in vain. -/
def finishUnseen (node : SkillNode) (opened : Opened) (observed : Bool) : Live σ Next := do
  let strict :=
    match node.completion.policy with
    | .requireSignal => true
    | .hybridIfObservable => observed
    | _ => false
  if strict then
    closeFailed node opened "completion_timeout"
  else
    let _ ← Live.change fun s now => s.note opened.attempt "COMPLETION_ASSUMED" none now
    close node opened .success none

/-- Look for the signal of the completion. -/
def awaitCompletion (c : Caster σ) (node : SkillNode) (opened : Opened) (signal : Condition)
    (deadline : Nat) (observed : Bool) : Live σ Next := do
  if (← Live.session).cancelled then
    closeStopped node opened
  else
    let found ← c.eval signal
    if found.isTrue then
      close node opened .success none
    else
      let observed := observed || found.truth.isKnown
      let now := (← Live.session).now
      if deadline ≤ now then
        finishUnseen node opened observed
      else
        return .sleep (c.pollRest deadline now) (.completing opened signal deadline observed)

/-- One step of an attempt.  A crash under the lock releases it and leaves the
attempt open. -/
def step (c : Caster σ) (node : SkillNode) : Phase → Live σ Next
  | .opening => c.begin node
  | .awaitingLock skill deadline => c.awaitLock node skill deadline
  | .launching opened => Live.holding (c.launch node opened)
  | .starting opened key signal deadline retries =>
    Live.holding (c.awaitStart node opened key signal deadline retries)
  | .resting opened => Live.holding (finishResting node opened)
  | .completing opened signal deadline observed =>
    Live.holding (c.awaitCompletion node opened signal deadline observed)

/-- The node that casts a skill outside of any track: it asks for the skill's
indicator, if there is one, and assumes success. -/
def extraNode (c : Caster σ) (skill : String) : SkillNode :=
  let indicator := (c.catalogue.skill? skill).bind Skill.indicator
  { id := "exec:" ++ skill, skill, step := 0, gapMs := 0
    ready := if indicator.isSome then .skillShows skill none else .const true
    start := ⟨.none, none, 0, 0⟩
    completion := ⟨.assumeSuccess, none, 1⟩
    lock := .standard }

/-! ## Attempts on a virtual clock -/

/-- The session after a rest that a stop ends. -/
def afterSleep (s : Session σ) (ms : Nat) : Session σ :=
  if s.cancelled then s else { s with now := s.now + ms }

/-- The session after a rest that a release of the lock ends. -/
def afterAwait (s : Session σ) (ms : Nat) : Session σ :=
  if s.lock.holder.isNone then s else { s with now := s.now + ms }

/-- Run an attempt from a phase to its end, in at most `fuel` steps; `after` is
what the environment does to the session after each step. -/
def runFrom (c : Caster σ) (after : Session σ → Session σ) (node : SkillNode) :
    Nat → Phase → Session σ → Option (Except Crash Outcome) × Session σ
  | 0, _, s => (none, s)
  | fuel + 1, phase, s =>
    let (next, s) := (c.step node phase).run.run s
    let s := after s
    match next with
    | .error crash => (some (.error crash), s)
    | .ok (.finished outcome) => (some (.ok outcome), s)
    | .ok (.proceed phase) => runFrom c after node fuel phase s
    | .ok (.sleep ms phase) => runFrom c after node fuel phase (afterSleep s ms)
    | .ok (.await ms phase) => runFrom c after node fuel phase (afterAwait s ms)

end Caster

end Rotation.Cast
