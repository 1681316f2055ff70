import Rotation.Proofs.Engine.Acts

/-!
# The strides of a run

What one step of a run does: it applies a command, turns to another phase, runs
a node, goes on with an attempt, or ends.  Commands alone pause the run and give
it steps, and only its last step tells that it has ended.
-/

namespace Rotation

/-- What a command makes of the pause, the pending steps and the phase of a run. -/
def Command.effect (paused : Bool) (steps : Nat) : Command → Bool × Nat × RunPhase
  | .pause => (true, 0, .draining)
  | .resume => (false, 0, .draining)
  | .step =>
    match Unsigned.add 32 steps 1 with
    | .ok more => (true, more, .draining)
    | .error f => (true, steps, .ending (.fault f.message))
  | .stop reason => (paused, steps, .ending (.requested reason))

namespace RunPhase

/-- Whether a run in this phase reads commands. -/
def reads : RunPhase → Bool
  | .draining | .listening _ => true
  | _ => false

/-- A run that reads commands has neither ended nor is it about to end. -/
theorem going_of_reads {phase : RunPhase} (reads : phase.reads = true) :
    phase ≠ .ended ∧ ∀ reason, phase ≠ .ending reason := by
  cases phase with
  | draining | listening => simp
  | checking | choosing | casting | resting | ending | ended => contradiction

/-- The attempt that is under way in this phase, and for which errand. -/
def attempt? : RunPhase → Option (Errand × Cast.Phase)
  | .casting errand phase | .resting _ _ errand phase => some (errand, phase)
  | _ => none

end RunPhase

namespace Run

/-- A run that has applied a command. -/
def applied (r : Run) (command : Command) (rest : List Command) : Run :=
  let (paused, steps, phase) := command.effect r.paused r.steps
  { r with queue := rest, paused, steps, phase }

end Run

namespace Engine

variable {τ : Type}

/-- What is told when a run is paused or goes on. -/
def flips (now : Nat) (before after : Bool) : List (Act (Watch τ)) :=
  if before = after then []
  else if after then [.remarks (·.info part "paused"), .tells [.enginePaused now]]
  else [.remarks (·.info part "resumed"), .tells [.engineResumed now]]

/-- The status when a run is paused or goes on. -/
def flipped (status : EngineStatus) (before after : Bool) : EngineStatus :=
  if before = after then status
  else { status with state := if after then .paused else .running }

/-- How a run turns from one phase to another. -/
inductive Turns (e : Engine τ) (r : Run) : RunPhase → RunPhase → Prop
  | looks (empty : r.queue = []) (connected : r.connected = true) :
      Turns e r .draining .checking
  | hangsUp {phase : RunPhase} (reads : phase.reads = true) (empty : r.queue = [])
      (disconnected : r.connected = false) : Turns e r phase (.ending .disconnected)
  | chooses (going : e.session.cancelled = false) : Turns e r .checking .choosing
  | obeys (cancelled : e.session.cancelled = true) :
      Turns e r .checking (.ending (.requested "cancelled"))
  | waits (deadline : Nat)
      (idle : r.paused = true ∧ r.steps = 0 ∨ r.schedule.pick e.session.now = none) :
      Turns e r .choosing (.listening deadline)
  | wakes {deadline : Nat} (empty : r.queue = []) (connected : r.connected = true)
      (due : deadline ≤ e.session.now) : Turns e r (.listening deadline) .draining
  | listens {deadline : Nat} (empty : r.queue = []) (connected : r.connected = true)
      (early : e.session.now < deadline) :
      Turns e r (.listening deadline) (.listening deadline)
  | rises {deadline : Nat} {waker : Waker} {errand : Errand} {phase : Cast.Phase}
      (awake : e.isAwake deadline waker = true) :
      Turns e r (.resting deadline waker errand phase) (.casting errand phase)
  | rests {deadline : Nat} {waker : Waker} {errand : Errand} {phase : Cast.Phase}
      (asleep : e.isAwake deadline waker = false) :
      Turns e r (.resting deadline waker errand phase) (.resting deadline waker errand phase)
  | stands : Turns e r .ended .ended

/-- What a step of a run does, and what it makes of the status and the run. -/
inductive Strides (d : Devices τ) (e : Engine τ) (r : Run) :
    List (Act (Watch τ)) → EngineStatus → Run → Prop
  | applies {command : Command} {rest : List Command} (reads : r.phase.reads = true)
      (first : r.queue = command :: rest) :
      Strides d e r (flips e.session.now r.paused (r.applied command rest).paused)
        (flipped e.status r.paused (r.applied command rest).paused) (r.applied command rest)
  | turns {phase : RunPhase} (turns : e.Turns r r.phase phase) :
      Strides d e r [] e.status { r with phase }
  | executes {acts : List (Act (Watch τ))} {status : EngineStatus} {r' : Run} (c : Candidate)
      (choosing : r.phase = .choosing) (allowed : r.paused = true → 0 < r.steps)
      (picked : r.schedule.pick e.session.now = some c)
      (works : Works (EndsAt r c) e.status
        { r with steps := if r.paused then r.steps - 1 else r.steps } acts status r') :
      Strides d e r acts status r'
  | casts {errand : Errand} {phase later : Cast.Phase} {acts : List (Act (Watch τ))}
      {next : Cast.Next} {phase' : RunPhase} (casting : r.phase = .casting errand phase)
      (strides : (e.caster d).Strides errand.attempted e.session phase acts (.ok next))
      (on : next.phase? = some later) (phase'_eq : phase'.attempt? = some (errand, later)) :
      Strides d e r acts e.status { r with phase := phase' }
  | concludes {errand : Errand} {phase : Cast.Phase} {acts more : List (Act (Watch τ))}
      {outcome : Cast.Outcome} {status : EngineStatus} {r' : Run}
      (casting : r.phase = .casting errand phase)
      (strides : (e.caster d).Strides errand.attempted e.session phase acts
        (.ok (.finished outcome)))
      (finished : (e.perform ((e.caster d).step errand.attempted phase)).1 =
        .ok (.finished outcome))
      (works : Works IsFault e.status r more status r') :
      Strides d e r (acts ++ more) status r'
  | crashes {errand : Errand} {phase : Cast.Phase} {acts : List (Act (Watch τ))} {crash : Crash}
      (casting : r.phase = .casting errand phase)
      (strides : (e.caster d).Strides errand.attempted e.session phase acts (.error crash))
      (crashed : (e.perform ((e.caster d).step errand.attempted phase)).1 = .error crash) :
      Strides d e r acts e.status { r with phase := .ending (.fault crash.message) }
  | finishes {reason : StopReason} (f : Journal → Journal) (ending : r.phase = .ending reason) :
      Strides d e r [.remarks f, .operates (.stopAll reason.code e.session.now),
          .tells [.engineStopped reason.text e.session.now]]
        { e.status with
          state := .idle
          lastError := reason.fault?.or e.status.lastError
          lastStop := some reason }
        { r with phase := .ended }

variable {d : Devices τ} {e : Engine τ} {r : Run}

theorem applyFirst_eq (e : Engine τ) (d : Devices τ) (r : Run) (command : Command)
    (rest : List Command) (b : Bus) :
    (e.on b).applyFirst r command rest =
      { (e.on b).after d (flips e.session.now r.paused (r.applied command rest).paused) with
        status := flipped e.status r.paused (r.applied command rest).paused
        run := some (r.applied command rest) } := by
  obtain ⟨preset, schedule, phase, paused, steps, queue, connected, joined⟩ := r
  cases command with
  | pause => cases paused <;> rfl
  | resume => cases paused <;> rfl
  | stop reason => cases paused <;> rfl
  | step =>
      cases added : Unsigned.add 32 steps 1 with
      | ok more | error f =>
          cases paused
          all_goals
            simp only [applyFirst, apply, setPaused, Run.applied, Command.effect, added,
              Bool.false_eq_true, if_true, if_false]
            rfl

theorem acts_applyFirst {command : Command} {rest : List Command} (reads : r.phase.reads = true)
    (first : r.queue = command :: rest) :
    Acts d (fun e => e.applyFirst r command rest) e (Strides d e r) :=
  ⟨_, _, _, fun b => applyFirst_eq e d r command rest b, .applies reads first⟩

/-- A step that only turns to another phase. -/
theorem acts_turn {f : Engine τ → Engine τ} (phase : RunPhase)
    (eq : ∀ b, f (e.on b) = (e.on b).put { r with phase }) (turns : e.Turns r r.phase phase) :
    Acts d f e (Strides d e r) :=
  acts_of_eq e.status _ eq (.turns turns)

/-- An engine that stays as it is. -/
theorem on_eq_put (run : e.run = some r) (b : Bus) : e.on b = (e.on b).put r := by
  simp only [put, ← run]
  rfl

theorem acts_drain (draining : r.phase = .draining) :
    Acts d (fun e => e.drain r) e (Strides d e r) := by
  have reads : r.phase.reads = true := draining ▸ rfl
  cases queue : r.queue with
  | cons command rest =>
      exact acts_congr (fun b => by simp only [drain, queue]) (acts_applyFirst reads queue)
  | nil =>
      cases connected : r.connected with
      | true =>
          refine acts_turn .checking (fun b => ?_) ?_
          · simp only [drain, queue, connected, if_true]
          · rw [draining]
            exact .looks queue connected
      | false =>
          refine acts_turn (.ending .disconnected) (fun b => ?_)
            (.hangsUp reads queue connected)
          simp only [drain, queue, connected, Bool.false_eq_true, if_false]

theorem acts_listen {deadline : Nat} (run : e.run = some r)
    (listening : r.phase = .listening deadline) :
    Acts d (fun e => e.listen r deadline) e (Strides d e r) := by
  have reads : r.phase.reads = true := listening ▸ rfl
  cases queue : r.queue with
  | cons command rest =>
      exact acts_congr (fun b => by simp only [listen, queue]) (acts_applyFirst reads queue)
  | nil =>
      cases connected : r.connected with
      | false =>
          refine acts_turn (.ending .disconnected) (fun b => ?_)
            (.hangsUp reads queue connected)
          simp only [listen, queue, connected, Bool.not_false, if_true]
      | true =>
          have listen_eq : ∀ b, (e.on b).listen r deadline =
              if deadline ≤ e.session.now then (e.on b).put { r with phase := .draining }
              else e.on b := by
            intro b
            simp only [listen, queue, connected, Bool.not_true, Bool.false_eq_true, if_false]
            rfl
          by_cases due : deadline ≤ e.session.now
          · refine acts_turn .draining (fun b => (listen_eq b).trans (if_pos due)) ?_
            rw [listening]
            exact .wakes queue connected due
          · refine acts_turn r.phase
              (fun b => (listen_eq b).trans ((if_neg due).trans (on_eq_put run b))) ?_
            rw [listening]
            exact .listens queue connected (Nat.lt_of_not_le due)

theorem acts_check (checking : r.phase = .checking) :
    Acts d (fun e => e.check r) e (Strides d e r) := by
  cases cancelled : e.session.cancelled with
  | true =>
      refine acts_turn (.ending (.requested "cancelled")) (fun b => ?_)
        (checking ▸ .obeys cancelled)
      have eq : (e.on b).session.cancelled = true := cancelled
      simp only [check, eq, if_true]
  | false =>
      refine acts_turn .choosing (fun b => ?_) (checking ▸ .chooses cancelled)
      have eq : (e.on b).session.cancelled = false := cancelled
      simp only [check, eq, Bool.false_eq_true, if_false]

theorem acts_choose (choosing : r.phase = .choosing) :
    Acts d (fun e => e.choose d r) e (Strides d e r) := by
  by_cases idle : (r.paused && r.steps == 0) = true
  · refine acts_turn (.listening (e.session.now + e.idleWait)) (fun b => if_pos idle) ?_
    rw [choosing]
    exact .waits _ (.inl (by simpa using idle))
  · cases picked : r.schedule.pick e.session.now with
    | none =>
        refine acts_turn (.listening (e.session.now + e.waitMs r)) (fun b => ?_) ?_
        · simp only [choose, now_on, if_neg idle, picked]
          rfl
        · rw [choosing]
          exact .waits _ (.inr picked)
    | some c =>
        have run_eq : (if r.paused then { r with steps := r.steps - 1 } else r) =
            { r with steps := if r.paused then r.steps - 1 else r.steps } := by
          split <;> rfl
        have allowed : r.paused = true → 0 < r.steps := by
          intro paused
          simp [paused] at idle
          omega
        have executes := acts_execute (d := d) (e := e) (c := c)
          (r := { r with steps := if r.paused then r.steps - 1 else r.steps })
        refine acts_congr (fun b => ?_) (executes.mono fun acts status r' works =>
          .executes c choosing allowed picked works)
        simp only [choose, now_on, if_neg idle, picked, run_eq]

theorem acts_cast {errand : Errand} {phase : Cast.Phase} (casting : r.phase = .casting errand phase)
    (fits : (e.caster d).Fits errand.attempted phase) :
    Acts d (fun e => e.cast d r errand phase) e (Strides d e r) := by
  obtain ⟨acts, result, does, strides⟩ := Cast.Caster.acts_step (s := e.session) fits
  have performs : ∀ b, (e.on b).perform (((e.on b).caster d).step errand.attempted phase) =
      (result, (e.on b).after d acts) := perform_of_does does
  -- The attempt goes on, at once or after a rest.
  have goes_on : ∀ {next : Cast.Next} {later : Cast.Phase} (phase' : RunPhase),
      result = .ok next → next.phase? = some later →
      phase'.attempt? = some (errand, later) →
      (∀ b, (e.on b).cast d r errand phase =
        ((e.on b).after d acts).put { r with phase := phase' }) →
      Acts d (fun e => e.cast d r errand phase) e (Strides d e r) := by
    rintro next later phase' rfl on phase'_eq eq
    exact ⟨acts, e.status, { r with phase := phase' }, fun b => eq b,
      .casts casting strides on phase'_eq⟩
  rcases result with crash | next
  · refine ⟨acts, e.status, { r with phase := .ending (.fault crash.message) }, fun b => ?_,
      .crashes casting strides (congrArg Prod.fst (performs e.session.bus))⟩
    simp only [cast, performs]
    rfl
  cases next with
  | finished outcome =>
      obtain ⟨more, status, r', concludes, works⟩ := acts_conclude (d := d) (e := e.after d acts)
        (r := r) (fun _ fault => fault) outcome errand
      refine ⟨acts ++ more, status, r', fun b => ?_, .concludes casting strides
        (congrArg Prod.fst (performs e.session.bus)) works⟩
      simp only [cast, performs]
      rw [after_append, on_after]
      exact concludes _
  | proceed later =>
      refine goes_on (.casting errand later) rfl rfl rfl fun b => ?_
      simp only [cast, performs]
  | sleep ms later =>
      refine goes_on (.resting (e.session.now + ms) .stop errand later) rfl rfl rfl fun b => ?_
      simp only [cast, performs, now_after, now_on]
  | await ms later =>
      refine goes_on (.resting (e.session.now + ms) .release errand later) rfl rfl rfl fun b => ?_
      simp only [cast, performs, now_after, now_on]

theorem acts_wake {deadline : Nat} {waker : Waker} {errand : Errand} {phase : Cast.Phase}
    (run : e.run = some r) (resting : r.phase = .resting deadline waker errand phase) :
    Acts d (fun e => e.wake r deadline waker errand phase) e (Strides d e r) := by
  have wake_eq : ∀ b, (e.on b).wake r deadline waker errand phase =
      if e.isAwake deadline waker = true then (e.on b).put { r with phase := .casting errand phase }
      else e.on b := fun b => rfl
  cases awake : e.isAwake deadline waker with
  | true =>
      refine acts_turn (.casting errand phase)
        (fun b => (wake_eq b).trans (if_pos awake)) ?_
      rw [resting]
      exact .rises awake
  | false =>
      refine acts_turn r.phase
        (fun b => (wake_eq b).trans ((if_neg (by simp [awake])).trans (on_eq_put run b))) ?_
      rw [resting]
      exact .rests awake

theorem acts_finish {reason : StopReason} (ending : r.phase = .ending reason) :
    Acts d (fun e => e.finish r reason) e (Strides d e r) := by
  cases reason with
  | fault message =>
      exact ⟨_, _, _, fun _ => rfl, .finishes (·.error part ("engine fault: " ++ message)) ending⟩
  | requested | ended | disconnected =>
      exact ⟨_, _, _, fun _ => rfl,
        .finishes (·.info part ("engine stopped: " ++ StopReason.text _)) ending⟩

/-- Every step of a run goes in one of the strides, whoever listens. -/
theorem acts_step (run : e.run = some r) (fits : ∀ errand phase,
      r.phase.attempt? = some (errand, phase) → (e.caster d).Fits errand.attempted phase) :
    Acts d (fun e => e.step d) e (Strides d e r) := by
  have on_run : ∀ b, (e.on b).run = some r := fun _ => run
  cases phase : r.phase with
  | draining => exact acts_congr (fun b => by simp only [step, on_run, phase]) (acts_drain phase)
  | checking => exact acts_congr (fun b => by simp only [step, on_run, phase]) (acts_check phase)
  | choosing => exact acts_congr (fun b => by simp only [step, on_run, phase]) (acts_choose phase)
  | listening deadline =>
      exact acts_congr (fun b => by simp only [step, on_run, phase]) (acts_listen run phase)
  | casting errand attempt =>
      exact acts_congr (fun b => by simp only [step, on_run, phase])
        (acts_cast phase (fits errand attempt (by rw [phase]; rfl)))
  | resting deadline waker errand attempt =>
      exact acts_congr (fun b => by simp only [step, on_run, phase]) (acts_wake run phase)
  | ending reason =>
      exact acts_congr (fun b => by simp only [step, on_run, phase]) (acts_finish phase)
  | ended =>
      refine acts_turn r.phase (fun b => ?_) (by rw [phase]; exact .stands)
      refine Eq.trans ?_ (on_eq_put run b)
      simp only [step, on_run, phase]

end Engine

end Rotation
