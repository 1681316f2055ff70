import Rotation.Capture.Manager
import Rotation.Cast.Attempt
import Rotation.Preset.Validation
import Rotation.Schedule.Dispatch

/-!
# The engine

The engine runs one preset at a time.  The bus, the cast lock and the journal
live as long as the engine; the clock, the attempts, the baselines and the
capturing begin anew with each run.

A run is a machine whose steps are atomic.  Commands wait in a queue that the
run reads between nodes, and a stop also sets the stop flag of the session.
-/

namespace Rotation

/-- What a run is asked to do. -/
inductive Command where
  | pause
  | resume
  | step
  | stop (reason : String)
  deriving DecidableEq, Repr

/-- Whether a preset is running. -/
inductive RunState where
  | idle
  | running
  | paused
  deriving DecidableEq, Repr, Inhabited

/-- The name of a state. -/
def RunState.name : RunState → String
  | .idle => "IDLE"
  | .running => "RUNNING"
  | .paused => "PAUSED"

/-- Why a run has ended. -/
inductive StopReason where
  | requested (reason : String)
  | ended (node : String)
  | fault (message : String)
  | disconnected
  deriving DecidableEq, Repr

namespace StopReason

/-- The code of a reason. -/
def code : StopReason → String
  | .requested _ => "stopped"
  | .ended _ => "ended"
  | .fault _ => "fault"
  | .disconnected => "disconnected"

/-- The reason on one line. -/
def text : StopReason → String
  | .requested reason => "stopped (" ++ reason ++ ")"
  | .ended node => "ended by gateway `" ++ node ++ "`"
  | .fault message => "fault: " ++ message
  | .disconnected => "control handle dropped"

/-- The message of a fault. -/
def fault? : StopReason → Option String
  | .fault message => some message
  | _ => none

end StopReason

/-- Why the engine does not do what it is asked to. -/
inductive EngineError where
  | alreadyRunning (preset : String)
  | invalid (diagnostics : Diagnostics)
  | notRunning
  | internal (message : String)
  deriving DecidableEq, Repr

/-- The error on one line. -/
def EngineError.message : EngineError → String
  | .alreadyRunning preset => "engine is already running preset `" ++ preset ++ "`"
  | .invalid ds => "preset failed validation with " ++ toString ds.errors.length ++ " error(s)"
  | .notRunning => "engine is not running"
  | .internal message => "internal fault: " ++ message

/-- What can be told about the engine. -/
structure EngineStatus where
  state : RunState
  preset : Option String
  mode : Option String
  step : Option Int
  nodes : Nat
  lastStop : Option StopReason
  lastError : Option String
  startedAt : Option String
  deriving DecidableEq, Repr, Inhabited

/-- The status of an engine that has run nothing. -/
def EngineStatus.initial : EngineStatus :=
  ⟨.idle, none, none, none, 0, none, none, none⟩

/-- What a run has to do with the outcome of an attempt: move the track of a
skill node, or move the track of a gateway that casts, after its own delay. -/
inductive Errand where
  | node (candidate : Candidate) (skill : SkillNode)
  | extra (candidate : Candidate) (skill : SkillNode) (delay : Nat)

namespace Errand

/-- The node that is attempted. -/
def attempted : Errand → SkillNode
  | .node _ skill | .extra _ skill _ => skill

end Errand

/-- What ends a rest before its time. -/
inductive Waker where
  | stop
  | release
  deriving DecidableEq, Repr

/-- Where a run is: reading its commands, looking at the stop flag, choosing a
node, waiting for a command or a due node, at an attempt, resting inside one,
or at its end. -/
inductive RunPhase where
  | draining
  | checking
  | choosing
  | listening (deadline : Nat)
  | casting (errand : Errand) (phase : Cast.Phase)
  | resting (deadline : Nat) (waker : Waker) (errand : Errand) (phase : Cast.Phase)
  | ending (reason : StopReason)
  | ended

/-- A run of a preset.  `steps` is how many nodes may still run while paused,
`connected` tells whether somebody can still give commands, and `joined` whether
its end has been waited for. -/
structure Run where
  preset : Preset
  schedule : Schedule
  phase : RunPhase
  paused : Bool
  steps : Nat
  queue : List Command
  connected : Bool
  joined : Bool

/-- A screen and a keyboard. -/
structure Devices (τ : Type) where
  source : ScreenSource τ
  press : Chord → τ → Except Crash (Except PressError Unit) × τ

/-- Devices with the capturing that looks at them. -/
structure Watch (τ : Type) where
  capture : Capture
  devices : τ

/-- Devices as the equipment of attempts: samples are taken of captured
snapshots. -/
def Devices.rig {τ : Type} (d : Devices τ) : Rig (Watch τ) where
  sample spot now w :=
    match w.capture.snapshot d.source w.devices now with
    | .error f => (.error (.fault f), [], w)
    | .ok (.error u, events, capture, devices) => (.ok (.error u), events, ⟨capture, devices⟩)
    | .ok (.ok s, events, capture, devices) =>
      match s.sample spot.monitor spot.x.toInt spot.y.toInt spot.radius.toNat with
      | .error f => (.error (.fault f), events, ⟨capture, devices⟩)
      | .ok found => (.ok found, events, ⟨capture, devices⟩)
  press chord w :=
    let (result, devices) := d.press chord w.devices
    (result, { w with devices })

/-- An engine. -/
structure Engine (τ : Type) where
  catalogue : Catalogue
  settings : Settings
  status : EngineStatus
  session : Session (Watch τ)
  run : Option Run

namespace Engine

variable {τ : Type}

/-- A session at the beginning of a run. -/
def freshSession (settings : Settings) (bus : Bus) (lock : CastLock) (journal : Journal)
    (devices : τ) : Session (Watch τ) :=
  { now := 0
    cancelled := false
    lock
    store := .empty settings.engine.limits
    baselines := []
    bus
    journal
    equipment := ⟨.start settings.capture, devices⟩ }

/-- An engine that has run nothing. -/
def start (catalogue : Catalogue) (settings : Settings) (devices : τ) : Engine τ :=
  { catalogue
    settings
    status := .initial
    session := freshSession settings .empty .free #[] devices
    run := none }

/-- Who casts for this engine. -/
def caster (e : Engine τ) (d : Devices τ) : Cast.Caster (Watch τ) :=
  ⟨e.catalogue, d.rig, e.settings.engine⟩

/-- Whether a preset is running or paused. -/
def isRunning (e : Engine τ) : Bool :=
  e.status.state != .idle

/-- What can be told about capturing, once something has been run. -/
def captureStatus (e : Engine τ) : Option CaptureStatus :=
  e.run.map fun _ => e.session.equipment.capture.status

/-- The attempts at a skill in the current or last run. -/
def skill (e : Engine τ) (id : String) : Option SkillRecord :=
  e.run.map fun _ => e.session.store.skill id

/-- The skills attempted in the current or last run. -/
def skills (e : Engine τ) : List SkillRecord :=
  if e.run.isSome then e.session.store.skills else []

/-- An attempt of the current or last run. -/
def attempt? (e : Engine τ) (id : String) : Option Attempt :=
  e.run.bind fun _ => e.session.store.attempt? id

/-- Publish an event. -/
def publish (e : Engine τ) (event : Event) : Engine τ :=
  { e with session := { e.session with bus := e.session.bus.publish event } }

/-- Publish events. -/
def publishAll (e : Engine τ) (events : List Event) : Engine τ :=
  { e with session := { e.session with bus := e.session.bus.publishAll events } }

/-- Add to the journal. -/
def remark (e : Engine τ) (f : Journal → Journal) : Engine τ :=
  { e with session := { e.session with journal := f e.session.journal } }

/-- Carry out a live computation on the session. -/
def perform {α : Type} (e : Engine τ) (x : Live (Watch τ) α) : Except Crash α × Engine τ :=
  let (result, session) := x.run.run e.session
  (result, { e with session })

/-- The engine with its run in another state. -/
def put (e : Engine τ) (r : Run) : Engine τ :=
  { e with run := some r }

/-- Ask the capturing for what the nodes of a mode look at. -/
def watch (e : Engine τ) (d : Devices τ) (preset : Preset) (mode : Option Nat) :
    Checked (Engine τ) := do
  let w := e.session.equipment
  let (_, events, capture) ← w.capture.updateRequirements e.catalogue (d.source.screens w.devices)
    (preset.requirements e.catalogue mode)
  let watched := { e with session := { e.session with equipment := { w with capture } } }
  return watched.publishAll events

end Engine

end Rotation
