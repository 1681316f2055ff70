import Rotation.Engine.Run

/-!
# Controlling the engine

What a client may ask of an engine.  Starting and giving commands never wait;
who stops a run lets it go on by steps until it has ended.
-/

namespace Rotation.Engine

variable {τ : Type}

/-- The journal's name for this part. -/
def controlPart : String :=
  "engine"

/-- Start a checked preset; `time` tells people when. -/
def launch (e : Engine τ) (d : Devices τ) (preset : Preset) (time : String) :
    Checked (Engine τ) := do
  let fresh := { e with
    session := freshSession e.settings e.session.bus e.session.lock e.session.journal
      e.session.equipment.devices
    status := { EngineStatus.initial with
      state := .running
      preset := some preset.id
      mode := (preset.entryMode.bind fun m => preset.modes[m]?).map Mode.id
      startedAt := some time } }
  let watched ← (fresh.publish (.engineStarted preset.id 0)).watch d preset preset.entryMode
  let told := watched.remark (·.info controlPart
    ("started preset `" ++ preset.id ++ "` (" ++ toString preset.nodeCount ++ " nodes)"))
  return told.put {
    preset
    schedule := .start preset 0
    phase := .draining
    paused := false
    steps := 0
    queue := []
    connected := true
    joined := false }

/-- Wait for the end of the run from now on; only one client can. -/
def join (e : Engine τ) : Bool × Engine τ :=
  match e.run with
  | none => (false, e)
  | some r => (!r.joined, e.put { r with joined := true })

/-- Check a draft and start it.  The end of the run before is waited for, even
when the draft turns out to be invalid. -/
def startDraft (e : Engine τ) (d : Devices τ) (draft : Draft) (time : String) :
    Checked (Except EngineError Validation × Engine τ) :=
  if e.isRunning then
    return (.error (.alreadyRunning (e.status.preset.getD "")), e)
  else
    let e := e.join.2
    let report := draft.validate e.catalogue
    match report.preset with
    | none =>
      let told := report.diagnostics.errors.foldl
        (fun e found => e.remark (·.warn controlPart found.line)) e
      return (.error (.invalid report.diagnostics), told)
    | some preset => do
      let started ← e.launch d preset time
      return (.ok report, started)

/-- Whether commands reach a run. -/
def listens (e : Engine τ) : Option Run :=
  if e.isRunning then e.run else none

/-- Give a command to the run. -/
def send (e : Engine τ) (command : Command) : Except EngineError Unit × Engine τ :=
  match e.listens with
  | none => (.error .notRunning, e)
  | some r => (.ok (), e.put { r with queue := r.queue ++ [command] })

/-- Put a stop into the queue of a run, which is the first half of stopping
it. -/
def sendStop (e : Engine τ) (reason : String) : Engine τ :=
  match e.run with
  | none => e
  | some r => e.put { r with queue := r.queue ++ [.stop reason] }

/-- Set the stop flag, which is the second half of stopping a run. -/
def cancel (e : Engine τ) : Engine τ :=
  { e with session := { e.session with cancelled := true } }

/-- Ask the run to stop.  The client then waits for its end. -/
def stop (e : Engine τ) (reason : String) : Except EngineError Unit × Engine τ :=
  match e.run with
  | none => (.error .notRunning, e)
  | some _ =>
    let (joins, e) := (e.sendStop reason).cancel.join
    (if joins then .ok () else .error .notRunning, e)

/-- What a toggle of the pause asks for in a state, and the state after it. -/
def toggleCommand? : RunState → Option (Command × RunState)
  | .idle => none
  | .running => some (.pause, .paused)
  | .paused => some (.resume, .running)

/-- Pause a running preset, or let a paused one go on. -/
def togglePause (e : Engine τ) : Except EngineError RunState × Engine τ :=
  match toggleCommand? e.status.state with
  | none => (.error .notRunning, e)
  | some (command, after) =>
    let (sent, e) := e.send command
    (sent.map fun _ => after, e)

/-- Nobody gives commands any more. -/
def disconnect (e : Engine τ) : Engine τ :=
  { e with run := e.run.map fun r => { r with connected := false } }

end Rotation.Engine
