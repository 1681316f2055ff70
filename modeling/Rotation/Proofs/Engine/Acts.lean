import Rotation.Engine.Control
import Rotation.Proofs.Capture.Rounds
import Rotation.Proofs.Cast.Strides
import Rotation.Proofs.Schedule.Dispatch

/-!
# What an engine does

An engine acts on its session as attempts do, and besides it changes its status
and its run.  None of this depends on who listens, so that it can be told by the
acts alone.  The work at a node, apart from attempts, leaves the lock alone, tells
nothing of the run as a whole, and neither pauses the run nor reads a command.
-/

namespace Rotation

/-- Whether an event tells of the run as a whole: that it begins or ends, is
paused or goes on. -/
def Event.isControl : Event → Bool
  | .engineStarted _ _ | .engineStopped _ _ | .enginePaused _ | .engineResumed _ => true
  | _ => false

theorem Event.isControl_of_isCapture {event : Event} (capture : event.isCapture = true) :
    event.isControl = false := by
  cases event <;> first | rfl | contradiction

theorem Event.isControl_of_skill? {event : Event} (about : event.skill?.isSome = true) :
    event.isControl = false := by
  cases event <;> first | rfl | contradiction

namespace Store

theorem skill?_of_finish {s : Store} {id : String} {stage : Stage} {reason : Option String}
    {time : Nat} :
    ∀ event ∈ (s.finish id stage reason time).events, event.skill?.isSome = true := by
  rcases finish_told_cases s id stage reason time with refused | ⟨a, _, told, _⟩
  · rw [refused]
    simp [refuse]
  · rw [told]
    simp [Event.skill?]

theorem skill?_of_stopEach {s : Store} {reason : String} {time : Nat} {ids : List String} :
    ∀ event ∈ (s.stopEach reason time ids).events, event.skill?.isSome = true := by
  induction ids generalizing s with
  | nil => simp [stopEach]
  | cons id rest ih =>
      intro event mem
      exact (List.mem_append.mp mem).elim (skill?_of_finish event) (ih event)

/-- All that the store tells of is about skills. -/
theorem skill?_of_outcome {s : Store} (operation : Operation) :
    ∀ event ∈ (s.outcome operation).events, event.skill?.isSome = true := by
  cases operation with
  | begin skill node time =>
      have superseded : ∀ event ∈ (s.supersede skill time).events,
          event.skill?.isSome = true := by
        unfold supersede
        split
        · simp
        · exact skill?_of_finish
      intro event mem
      rcases List.mem_append.mp mem with before | own
      · exact superseded event before
      · rw [List.mem_singleton.mp own]
        rfl
  | transition id stage time =>
      rcases transition_cases s id stage time with refused | ⟨a, _, done⟩
      · simp [outcome, refused, refuse]
      · simp [outcome, done, Event.skill?]
  | keySent id time => simp [outcome, keySent_events]
  | retry id time =>
      rcases retry_cases s id time with refused | ⟨a, _, done⟩
      · simp [outcome, refused, refuse]
      · simp [outcome, done, Event.skill?]
  | note id kind detail time =>
      rcases note_cases s id kind detail time with refused | ⟨a, _, done⟩
      · simp [outcome, refused, refuse]
      · simp [outcome, done]
  | finish id stage reason time => exact skill?_of_finish
  | resetMetric skill metric time => simp [outcome, resetMetric, Event.skill?]
  | stopAll reason time => exact skill?_of_stopEach

end Store

/-- The samples of devices tell of nothing but capturing. -/
theorem Devices.discreet_rig {τ : Type} (d : Devices τ) : d.rig.Discreet := by
  intro spot now w event mem
  have captures : ∀ observed events capture devices,
      w.capture.snapshot d.source w.devices now = .ok (observed, events, capture, devices) →
      event ∈ events → event.isCapture = true := by
    intro observed events capture devices done mem
    cases Capture.turns_of_snapshot done with
    | reuses | waits | idles => contradiction
    | fails =>
        rw [List.mem_singleton.mp mem]
        rfl
    | succeeds =>
        simp only [Capture.recordSuccess] at mem
        split at mem
        · rw [List.mem_singleton.mp mem]
          rfl
        · contradiction
  simp only [Devices.rig] at mem
  split at mem
  · contradiction
  · rename_i done
    exact captures _ _ _ _ done mem
  · rename_i done
    split at mem
    · exact captures _ _ _ _ done mem
    · exact captures _ _ _ _ done mem

namespace Act

variable {σ : Type}

/-- An act that tells nothing of the run as a whole. -/
def IsMute (act : Act σ) : Prop :=
  ∀ events, act = .tells events → ∀ event ∈ events, event.isControl = false

/-- An act of the work at a node, apart from attempts. -/
structure IsPlain (act : Act σ) : Prop where
  mute : act.IsMute
  lockless : act.lock? = none

theorem isMute_of_goesOn {act : Act σ} {id : String} (own : act.GoesOn id) : act.IsMute := by
  rintro events rfl
  contradiction

theorem isMute_of_passes {act : Act σ} (quiet : act.Passes) : act.IsMute := by
  rintro events rfl event mem
  obtain ⟨_, _, _, _, rfl⟩ := quiet event mem
  rfl

/-- Mute acts tell nothing of the run as a whole, if samples do not. -/
theorem isControl_toldAll {rig : Rig σ} {s : Session σ} (discreet : rig.Discreet)
    {acts : List (Act σ)} (mute : ∀ act ∈ acts, act.IsMute) :
    ∀ event ∈ toldAll rig s acts, event.isControl = false := by
  induction acts generalizing s with
  | nil => simp [toldAll]
  | cons act rest ih =>
      obtain ⟨first, later⟩ := List.forall_mem_cons.mp mute
      intro event mem
      rcases List.mem_append.mp mem with own | others
      · cases act with
        | looks spot => exact Event.isControl_of_isCapture (discreet _ _ _ event own)
        | operates operation =>
            exact Event.isControl_of_skill? (Store.skill?_of_outcome operation event own)
        | tells events => exact first events rfl event own
        | presses | equips | remembers | remarks | locks => contradiction
      · exact ih later event others

end Act

/-- No act of an attempt tells anything of the run as a whole. -/
theorem Cast.Caster.Strides.mute {σ : Type} {c : Caster σ} {node : SkillNode} {s : Session σ}
    {phase : Phase} {acts : List (Act σ)} {result : Except Crash Next}
    (strides : c.Strides node s phase acts result) : ∀ act ∈ acts, act.IsMute := by
  have of_looks : ∀ {acts : List (Act σ)}, (∀ act ∈ acts, act.isLook = true) →
      ∀ act ∈ acts, act.IsMute :=
    fun looks act mem => Act.isMute_of_passes (Act.passes_of_isLook (looks act mem))
  have of_goesOn : ∀ {acts : List (Act σ)} {id : String}, (∀ act ∈ acts, act.GoesOn id) →
      ∀ act ∈ acts, act.IsMute :=
    fun own act mem => Act.isMute_of_goesOn (own act mem)
  cases strides with
  | waits unopened looks => exact of_looks looks
  | passes unopened quiet => exact fun act mem => Act.isMute_of_passes (quiet act mem)
  | opens unopened looking =>
      refine List.forall_mem_append.mpr ⟨of_looks looking, ?_⟩
      simp [Act.IsMute]
  | breaks crash unopened looks => exact of_looks looks
  | proceeds under_way proceeds =>
      cases proceeds with
      | on own => exact of_goesOn own
      | closes reason f own =>
          refine List.forall_mem_append.mpr ⟨of_goesOn own, ?_⟩
          simp [Act.IsMute]
  | crashes crash under_way own =>
      refine List.forall_mem_append.mpr ⟨of_goesOn own, ?_⟩
      simp [Act.IsMute]

namespace Engine

variable {τ : Type}

/-- The engine on another bus. -/
def on (e : Engine τ) (bus : Bus) : Engine τ :=
  { e with session := e.session.on bus }

@[simp]
theorem now_on (e : Engine τ) (bus : Bus) : (e.on bus).session.now = e.session.now :=
  rfl

/-- The engine after acts on its session. -/
def after (e : Engine τ) (d : Devices τ) (acts : List (Act (Watch τ))) : Engine τ :=
  { e with session := Act.applyAll d.rig e.session acts }

theorem after_append (e : Engine τ) (d : Devices τ) (acts more : List (Act (Watch τ))) :
    e.after d (acts ++ more) = (e.after d acts).after d more := by
  simp only [after, Act.applyAll_append]

@[simp]
theorem now_after (e : Engine τ) (d : Devices τ) (acts : List (Act (Watch τ))) :
    (e.after d acts).session.now = e.session.now :=
  Act.now_applyAll d.rig e.session acts

theorem on_after (e : Engine τ) (d : Devices τ) (acts : List (Act (Watch τ))) (b : Bus) :
    (e.on b).after d acts =
      (e.after d acts).on (b.publishAll (Act.toldAll d.rig e.session acts)) := by
  simp only [after, on, Act.applyAll_on]

/-- A function of engines does these acts in an engine, whoever listens. -/
def Plays (d : Devices τ) (f : Engine τ → Engine τ) (e : Engine τ)
    (acts : List (Act (Watch τ))) : Prop :=
  ∀ b, f (e.on b) = (e.on b).after d acts

/-- A function of engines does acts in an engine, whoever listens, and leaves it
with a status and a run; these have a property. -/
def Acts (d : Devices τ) (f : Engine τ → Engine τ) (e : Engine τ)
    (Q : List (Act (Watch τ)) → EngineStatus → Run → Prop) : Prop :=
  ∃ acts status r, (∀ b, f (e.on b) = { (e.on b).after d acts with status, run := some r }) ∧
    Q acts status r

variable {d : Devices τ} {e : Engine τ} {f g : Engine τ → Engine τ} {r : Run}
  {Q Q' : List (Act (Watch τ)) → EngineStatus → Run → Prop}

theorem Acts.mono (does : Acts d f e Q)
    (imp : ∀ acts status r, Q acts status r → Q' acts status r) : Acts d f e Q' := by
  obtain ⟨acts, status, r, own, holds⟩ := does
  exact ⟨acts, status, r, own, imp acts status r holds⟩

/-- A function that does nothing but change the status and the run. -/
theorem acts_of_eq (status : EngineStatus) (r : Run)
    (eq : ∀ b, f (e.on b) = { e.on b with status, run := some r }) (holds : Q [] status r) :
    Acts d f e Q :=
  ⟨[], status, r, eq, holds⟩

theorem acts_congr (eq : ∀ b, f (e.on b) = g (e.on b)) (does : Acts d g e Q) : Acts d f e Q := by
  obtain ⟨acts, status, r, own, holds⟩ := does
  exact ⟨acts, status, r, fun b => (eq b).trans (own b), holds⟩

/-- A function goes on as another one after some acts. -/
theorem acts_after {acts : List (Act (Watch τ))}
    (eq : ∀ b, f (e.on b) = g ((e.on b).after d acts))
    (rest : Acts d g (e.after d acts) fun more status r => Q (acts ++ more) status r) :
    Acts d f e Q := by
  obtain ⟨more, status, r, does, holds⟩ := rest
  refine ⟨acts ++ more, status, r, ?_, holds⟩
  intro b
  rw [eq, after_append, on_after, does]

/-! ## The work at a node -/

/-- What the work at a node leaves as it is, and for which reasons it may end the
run. -/
structure Works (ends : StopReason → Prop) (status : EngineStatus) (r : Run)
    (acts : List (Act (Watch τ))) (status' : EngineStatus) (r' : Run) : Prop where
  plain : ∀ act ∈ acts, act.IsPlain
  state : status'.state = status.state
  lastStop : status'.lastStop = status.lastStop
  lastError : status'.lastError = status.lastError
  paused : r'.paused = r.paused
  steps : r'.steps = r.steps
  queue : r'.queue = r.queue
  connected : r'.connected = r.connected
  phase : r'.phase = .draining ∨ (∃ errand, r'.phase = .casting errand .opening) ∨
    ∃ reason, r'.phase = .ending reason ∧ ends reason

/-- A fault ends a run. -/
def IsFault (reason : StopReason) : Prop :=
  ∃ message, reason = .fault message

theorem Works.mono {ends ends' : StopReason → Prop} {status status' : EngineStatus} {r r' : Run}
    {acts : List (Act (Watch τ))} (works : Works ends status r acts status' r')
    (imp : ∀ reason, ends reason → ends' reason) : Works ends' status r acts status' r' := by
  refine { works with phase := works.phase.imp_right fun later => later.imp_right ?_ }
  rintro ⟨reason, phase, holds⟩
  exact ⟨reason, phase, imp reason holds⟩

/-- The work at a node leads to no phase but back to the commands, to an attempt or to
the end. -/
theorem Works.phase_ne {ends : StopReason → Prop} {status status' : EngineStatus} {r r' : Run}
    {acts : List (Act (Watch τ))} {phase : RunPhase} (works : Works ends status r acts status' r')
    (undrained : phase ≠ .draining) (unattempted : ∀ errand, phase ≠ .casting errand .opening)
    (going : ∀ reason, phase ≠ .ending reason) : r'.phase ≠ phase := by
  rintro rfl
  rcases works.phase with draining | ⟨errand, casting⟩ | ⟨reason, ending, _⟩
  · exact undrained draining
  · exact unattempted errand casting
  · exact going reason ending

/-- Plain acts may come before the rest of the work, which may begin with another
schedule. -/
theorem Works.after {ends : StopReason → Prop} {status status' : EngineStatus} {r r' : Run}
    {acts more : List (Act (Watch τ))} {schedule : Schedule} (plain : ∀ act ∈ acts, act.IsPlain)
    (works : Works ends status { r with schedule } more status' r') :
    Works ends status r (acts ++ more) status' r' :=
  { works with
    plain := fun act mem => (List.mem_append.mp mem).elim (plain act) (works.plain act) }

theorem acts_failWith {ends : StopReason → Prop} (message : String)
    (faults : ∀ reason, IsFault reason → ends reason) :
    Acts d (fun e => e.failWith r message) e (Works ends e.status r) :=
  acts_of_eq _ _ (fun _ => rfl) ⟨by simp, rfl, rfl, rfl, rfl, rfl, rfl, rfl,
    .inr (.inr ⟨_, rfl, faults _ ⟨_, rfl⟩⟩)⟩

theorem acts_nodeDone {ends : StopReason → Prop} :
    Acts d (fun e => e.nodeDone r) e (Works ends e.status r) :=
  acts_of_eq
    { e.status with
      mode := r.schedule.modeId, step := r.schedule.step, nodes := e.status.nodes + 1 }
    { r with phase := .draining } (fun _ => rfl)
    ⟨by simp, rfl, rfl, rfl, rfl, rfl, rfl, rfl, .inl rfl⟩

theorem isPlain_tells {events : List Event} (mute : ∀ event ∈ events, event.isControl = false) :
    (Act.tells events : Act (Watch τ)).IsPlain := by
  refine ⟨?_, rfl⟩
  rintro _ ⟨⟩
  exact mute

theorem isPlain_remarks (f : Journal → Journal) : (Act.remarks f : Act (Watch τ)).IsPlain :=
  ⟨by rintro _ ⟨⟩, rfl⟩

theorem isPlain_operates (operation : Store.Operation) :
    (Act.operates operation : Act (Watch τ)).IsPlain :=
  ⟨by rintro _ ⟨⟩, rfl⟩

theorem isPlain_equips (f : Watch τ → Watch τ) : (Act.equips f).IsPlain :=
  ⟨by rintro _ ⟨⟩, rfl⟩

theorem isPlain_concat {acts : List (Act (Watch τ))} {last : Act (Watch τ)}
    (before : ∀ act ∈ acts, act.IsPlain) (own : last.IsPlain) :
    ∀ act ∈ acts ++ [last], act.IsPlain := by
  intro act mem
  rcases List.mem_append.mp mem with early | late
  · exact before act early
  · rw [List.mem_singleton.mp late]
    exact own

theorem isPlain_of_isLook {act : Act (Watch τ)} (look : act.isLook = true) : act.IsPlain :=
  ⟨Act.isMute_of_passes (Act.passes_of_isLook look), Act.lock?_of_isLook look⟩

theorem plays_looped (mode : Option String) :
    ∃ acts : List (Act (Watch τ)), Plays d (fun e => e.looped mode) e acts ∧
      ∀ act ∈ acts, act.IsPlain := by
  cases mode with
  | none => exact ⟨[], fun _ => rfl, by simp⟩
  | some mode =>
      refine ⟨[.tells [.modeLooped mode e.session.now]], fun _ => rfl, ?_⟩
      exact List.forall_mem_singleton.mpr (isPlain_tells (by simp [Event.isControl]))

/-- Plain acts and another schedule come before the rest of the work. -/
theorem works_after {ends : StopReason → Prop} (schedule : Schedule)
    (first : ∃ acts : List (Act (Watch τ)),
      (∀ b, f (e.on b) = g ((e.on b).after d acts)) ∧ ∀ act ∈ acts, act.IsPlain)
    (rest : ∀ e, Acts d g e (Works ends e.status { r with schedule })) :
    Acts d f e (Works ends e.status r) := by
  obtain ⟨acts, eq, plain⟩ := first
  exact acts_after eq ((rest _).mono fun _ _ _ works => works.after plain)

section

variable {ends : StopReason → Prop} (faults : ∀ reason, IsFault reason → ends reason)
include faults

theorem acts_advanceAfter (place : Place) (delay : Nat) :
    Acts d (fun e => e.advanceAfter r place delay) e (Works ends e.status r) := by
  cases due : Unsigned.add 64 e.session.now delay with
  | error f =>
      refine acts_congr (fun b => ?_) (acts_failWith (Crash.fault f).message faults)
      simp only [advanceAfter, now_on, due]
      rfl
  | ok time =>
      rcases moved : r.schedule.advance place time with ⟨mode, schedule⟩
      obtain ⟨acts, plays, plain⟩ := plays_looped (d := d) (e := e) mode
      refine works_after schedule ⟨acts, fun b => ?_, plain⟩ fun e => acts_nodeDone
      rw [← plays b]
      simp only [advanceAfter, now_on, due, advance, moved]

theorem acts_holdAfter (place : Place) (delay : Nat) :
    Acts d (fun e => e.holdAfter r place delay) e (Works ends e.status r) := by
  cases due : Unsigned.add 64 e.session.now delay with
  | error f =>
      refine acts_congr (fun b => ?_) (acts_failWith (Crash.fault f).message faults)
      simp only [holdAfter, now_on, due]
      rfl
  | ok time =>
      refine works_after (r.schedule.hold place time) ⟨[], fun b => ?_, by simp⟩
        fun e => acts_nodeDone
      simp only [holdAfter, now_on, due]
      rfl

theorem acts_conclude (outcome : Cast.Outcome) (errand : Errand) :
    Acts d (fun e => e.conclude r outcome errand) e (Works ends e.status r) := by
  cases errand with
  | node c skill =>
      unfold conclude
      dsimp only
      split
      · exact acts_nodeDone
      · split
        · exact acts_advanceAfter faults _ _
        · exact acts_holdAfter faults _ _
  | extra c skill delay =>
      unfold conclude
      dsimp only
      split
      · exact acts_nodeDone
      · exact acts_advanceAfter faults _ _

/-! ## Gateways -/

omit faults in
/-- Watching for a mode fails, or acts on the equipment. -/
theorem watch_cases (e : Engine τ) (d : Devices τ) (preset : Preset) (mode : Option Nat) :
    (∃ f, ∀ b, (e.on b).watch d preset mode = .error f) ∨
      ∃ acts, (∀ b, (e.on b).watch d preset mode = .ok ((e.on b).after d acts)) ∧
        ∀ act ∈ acts, act.IsPlain := by
  rcases done : e.session.equipment.capture.updateRequirements e.catalogue
      (d.source.screens e.session.equipment.devices) (preset.requirements e.catalogue mode) with
    f | ⟨changed, events, capture⟩
  · refine .inl ⟨f, fun b => ?_⟩
    change (e.session.equipment.capture.updateRequirements e.catalogue
      (d.source.screens e.session.equipment.devices)
      (preset.requirements e.catalogue mode) >>= _) = _
    rw [done]
    rfl
  · refine .inr ⟨[.equips fun w => { w with capture }, .tells events], fun b => ?_, ?_⟩
    · change (e.session.equipment.capture.updateRequirements e.catalogue
        (d.source.screens e.session.equipment.devices) (preset.requirements e.catalogue mode) >>=
          _) = _
      rw [done]
      rfl
    · have captures : ∀ event ∈ events, event.isCapture = true := by
        unfold Capture.updateRequirements at done
        split at done
        · obtain ⟨plan, _, made⟩ := Checked.bind_eq_ok_iff.mp done
          cases made
          simp [Event.isCapture]
        · cases done
          simp
      have told := isPlain_tells (τ := τ) fun event mem =>
        Event.isControl_of_isCapture (captures event mem)
      exact List.forall_mem_cons.mpr ⟨isPlain_equips _, List.forall_mem_singleton.mpr told⟩

theorem acts_carryOut (c : Candidate) (gateway : Gateway) (delay now : Nat) (effect : Effect)
    (ended : effect = .ended → ends (.ended gateway.id)) :
    Acts d (fun e => e.carryOut d r c gateway delay now effect) e (Works ends e.status r) := by
  cases effect with
  | ended =>
      exact acts_of_eq e.status { r with phase := .ending (.ended gateway.id) } (fun _ => rfl)
        ⟨by simp, rfl, rfl, rfl, rfl, rfl, rfl, rfl, .inr (.inr ⟨_, rfl, ended rfl⟩)⟩
  | switched source target =>
      rcases watch_cases e d r.preset r.schedule.modeIndex with ⟨f, failed⟩ | ⟨acts, done, plain⟩
      · refine acts_congr (fun b => ?_) (acts_failWith (Crash.fault f).message faults)
        simp only [carryOut, failed]
        rfl
      · refine works_after r.schedule
          ⟨acts ++ [.tells [.modeSwitched source target now]], fun b => ?_, ?_⟩
          fun e => acts_nodeDone
        · simp only [carryOut, done, after_append]
          rfl
        · exact isPlain_concat plain (isPlain_tells (List.forall_mem_singleton.mpr rfl))
  | jumped target node => exact acts_nodeDone
  | cast skill =>
      let errand : Errand := .extra c ((e.caster d).extraNode skill) delay
      exact acts_of_eq e.status { r with phase := .casting errand .opening } (fun _ => rfl)
        ⟨by simp, rfl, rfl, rfl, rfl, rfl, rfl, rfl, .inr (.inl ⟨_, rfl⟩)⟩

omit faults in
/-- Resetting metrics acts on the store. -/
theorem plays_resetMetrics (gateway : Gateway) (now : Nat) :
    ∃ acts : List (Act (Watch τ)), Plays d (fun e => e.resetMetrics gateway now) e acts ∧
      ∀ act ∈ acts, act.IsPlain := by
  unfold resetMetrics
  split
  · exact ⟨[], fun _ => rfl, by simp⟩
  refine ⟨gateway.condition.metricAtoms.map fun atom =>
    .operates (.resetMetric atom.1 atom.2 now), fun b => ?_, ?_⟩
  · dsimp only
    generalize gateway.condition.metricAtoms = atoms
    generalize e.on b = e
    induction atoms generalizing e with
    | nil => rfl
    | cons atom rest ih =>
        rw [List.foldl_cons, ih, List.map_cons, ← List.singleton_append, after_append]
        rfl
  · intro act mem
    obtain ⟨atom, _, rfl⟩ := List.mem_map.mp mem
    exact isPlain_operates _

omit faults in
/-- Remarks come before metrics are reset. -/
theorem acts_remark_resetMetrics (e : Engine τ) (d : Devices τ) (line : Journal → Journal)
    (gateway : Gateway) (now : Nat) :
    ∃ acts : List (Act (Watch τ)),
      (∀ b, ((e.on b).remark line).resetMetrics gateway now = (e.on b).after d acts) ∧
        ∀ act ∈ acts, act.IsPlain := by
  obtain ⟨resets, plays, plain⟩ :=
    plays_resetMetrics (d := d) (e := e.after d [.remarks line]) gateway now
  refine ⟨[.remarks line] ++ resets, fun b => ?_, ?_⟩
  · rw [after_append, on_after]
    exact plays _
  · exact List.forall_mem_cons.mpr ⟨isPlain_remarks _, plain⟩

/-- A gateway that fires may end the run if it is to. -/
theorem acts_fire (c : Candidate) (gateway : Gateway) (delay : Nat)
    (ended : gateway.action = .finish → ends (.ended gateway.id)) :
    Acts d (fun e => e.fire d r c gateway delay) e (Works ends e.status r) := by
  obtain ⟨acts, before_eq, plain⟩ := acts_remark_resetMetrics e d
    (·.info part ("gateway fired: " ++ gateway.action.name ++ " node=" ++ gateway.id ++
      " track=" ++ c.track)) gateway e.session.now
  rcases dispatched : r.schedule.dispatch r.preset c.place gateway e.session.now delay with
    f | ⟨f | done, schedule⟩
  · refine works_after r.schedule ⟨acts, fun b => ?_, plain⟩ fun e =>
      acts_failWith (Crash.fault f).message faults
    simp only [fire, now_on, before_eq, dispatched]
    rfl
  · refine works_after schedule ⟨acts, fun b => ?_, plain⟩ fun e =>
      acts_failWith (EngineError.internal f.message).message faults
    simp only [fire, now_on, before_eq, dispatched]
  · let now := e.session.now
    refine works_after schedule
      (g := fun e => (e.looped done.looped).carryOut d { r with schedule } c gateway delay now
        done.effect) ⟨acts, fun b => ?_, plain⟩ fun e => ?_
    · simp only [fire, now_on, before_eq, dispatched, now]
    obtain ⟨looped, plays, plain⟩ := plays_looped (d := d) (e := e) done.looped
    refine works_after schedule ⟨looped, fun b => ?_, plain⟩ fun e =>
      acts_carryOut faults c gateway delay now done.effect ?_
    · rw [← plays b]
    · exact fun effect => ended (Schedule.finish_of_dispatch dispatched effect)

omit faults in
theorem perform_of_does {α : Type} {x : Live (Watch τ) α} {acts : List (Act (Watch τ))}
    {result : Except Crash α} (does : x.Does d.rig e.session acts result) (b : Bus) :
    (e.on b).perform x = (result, (e.on b).after d acts) := by
  have run_eq : x.run.run (e.on b).session =
      (result, Act.applyAll d.rig (e.on b).session acts) := does b
  simp only [perform, run_eq, after]

theorem acts_gateway {c : Candidate} {gateway : Gateway}
    (ended : gateway.action = .finish → ends (.ended gateway.id)) :
    Acts d (fun e => e.gateway d r c gateway) e (Works ends e.status r) := by
  obtain ⟨looks, result, does, looking⟩ :=
    Live.acts_eval d.rig e.session e.catalogue gateway.condition
  have plain : ∀ act ∈ looks, act.IsPlain := fun act mem => isPlain_of_isLook (looking act mem)
  have performs : ∀ b, (e.on b).perform (((e.on b).caster d).eval gateway.condition) =
      (result, (e.on b).after d looks) := perform_of_does does
  cases result with
  | error x =>
      refine works_after r.schedule ⟨looks, fun b => ?_, plain⟩ fun e =>
        acts_failWith x.message faults
      simp only [Engine.gateway, performs]
      rfl
  | ok found =>
      let told : Act (Watch τ) := .tells [.gateway gateway.id c.track gateway.action.name
        found.isTrue found.reason e.session.now]
      let delay := gateway.gapMs.getD e.settings.engine.gatewayDelayMs.toNat
      have plain_told : ∀ act ∈ looks ++ [told], act.IsPlain :=
        isPlain_concat plain (isPlain_tells (List.forall_mem_singleton.mpr rfl))
      by_cases fires : found.isTrue = true
      · refine works_after r.schedule ⟨looks ++ [told], fun b => ?_, plain_told⟩
          fun e => acts_fire faults c gateway delay ended
        simp only [Engine.gateway, performs, now_after, now_on, after_append]
        exact if_pos fires
      · refine works_after r.schedule ⟨looks ++ [told], fun b => ?_, plain_told⟩
          fun e => acts_advanceAfter faults c.place delay
        simp only [Engine.gateway, performs, now_after, now_on, after_append]
        exact if_neg fires

end

/-- The node of a candidate. -/
def nodeOf? (r : Run) (c : Candidate) : Option Node :=
  (r.preset.track? c.place).bind fun track => track.nodes[c.node]?

/-- Why the node of a candidate may end the run: because of a fault, or because
it is a gateway that is to end it. -/
def EndsAt (r : Run) (c : Candidate) (reason : StopReason) : Prop :=
  IsFault reason ∨ ∃ gateway, nodeOf? r c = some (.gateway gateway) ∧
    gateway.action = .finish ∧ reason = .ended gateway.id

theorem acts_execute {c : Candidate} :
    Acts d (fun e => e.execute d r c) e (Works (EndsAt r c) e.status r) := by
  unfold execute
  split
  · exact acts_failWith _ fun _ => .inl
  · rename_i skill found
    exact acts_of_eq e.status { r with phase := .casting (.node c skill) .opening } (fun _ => rfl)
      ⟨by simp, rfl, rfl, rfl, rfl, rfl, rfl, rfl, .inr (.inl ⟨_, rfl⟩)⟩
  · rename_i gateway found
    exact acts_gateway (fun _ => .inl) fun finish => .inr ⟨gateway, found, finish, rfl⟩

end Engine

end Rotation
