import Rotation.Attempt.Wire
import Rotation.Engine.Wire
import Rotation.Rehearsal.CaptureScript
import Rotation.Rehearsal.Report
import Rotation.Rehearsal.Scene

/-!
# Scripts of runs

Presets are run by an engine on a scene.  Steps that only ask the engine for
something are answered at once; all others let the run go on first, and report
what has happened since the last report.
-/

namespace Rotation

namespace Script

/-- A command by its name. -/
def command? : Source → Option Command
  | .text "pause" => some .pause
  | .text "resume" => some .resume
  | .text "step" => some .step
  | _ => none

/-- The crash of a cue, if it has one. -/
def crashOf (s : Source) : Reading (Option Crash) := do
  match ← may s "panic_kind" Source.text? with
  | some "static" => return some (.raised "static text")
  | some "other" => return some .unnamed
  | some _ => bad
  | none => return (← may s "panic" Source.text?).map .raised

/-- What happens after a press. -/
def cueOf (s : Source) : Reading Rehearsal.Cue :=
  return {
    count := ← need s "n" Source.natural?
    paint := ← listOf s "paint" brushOf
    failGrabs := ← may s "fail_grabs" Source.smallNatural?
    failKeys := ← may s "fail_keys" Source.bool?
    commands := ← mayOr s "commands" [] (Source.list? command?)
    crash := ← crashOf s }

end Script

namespace Rehearsal

open Script

/-- An engine on a scene. -/
abbrev Play := Engine Scene

namespace Play

/-- The result of a wait, unless it never ends. -/
def waited (e : Option Play) : Reading Play :=
  orFail "timeout" e

/-- Whether a run is in a state, or there is none. -/
def stands (state : RunState) (e : Play) : Bool :=
  e.status.state == state || !e.isRunning

/-- A wait for a state of the run; no result when the step is not a wait. -/
def waiting (e : Play) (what : String) (o : Source) : Reading (Option Play) := do
  match what with
  | "wait_paused" => return some (← waited (e.waitFor (stands .paused)))
  | "wait_running" => return some (← waited (e.waitFor (stands .running)))
  | "wait_idle" => return some (← waited e.toEnd)
  | "wait_nodes" =>
    let n ← need o "n" Source.natural?
    return some (← waited (e.waitFor fun e => n ≤ e.status.nodes || !e.isRunning))
  | "wait_stage" =>
    let skill ← need o "skill_id" Source.text?
    let stage ← need o "stage" Source.stage?
    return some (← waited (e.waitFor (Engine.isAt skill stage)))
  | _ => return none

/-- The written form of a granted or refused request. -/
def granted : Except EngineError Unit → Document
  | .ok () => .null
  | .error e => e.toDocument

/-- A request to the engine.  The answer says whether the step is reported:
requests to a live run are not. -/
def requesting (e : Play) (what : String) (o : Source) :
    Reading (Option (Document × Bool × Play)) := do
  let idle := !e.isRunning
  let sent := fun command =>
    let (result, e) := e.send command
    some (granted result, idle, e)
  match what with
  | "start" =>
    match ← orPanic (e.startDraft Scene.devices (← draftOf o) "now") with
    | (.ok report, e) =>
      let answer := .record [("diagnostics", report.diagnostics.toDocument), ("ok", .bool true)]
      return some (answer, false, e)
    | (.error refusal, e) => return some (refusal.toDocument, idle, e)
  | "pause" => return sent .pause
  | "resume" => return sent .resume
  | "toggle" =>
    match e.togglePause with
    | (.ok state, e) => return some (.text state.name, idle, e)
    | (.error refusal, e) => return some (refusal.toDocument, idle, e)
  | "release" => return some (.null, false, e.setLock e.session.lock.release)
  | _ => return none

/-- A step that waits for the run. -/
def directing (e : Play) (what : String) (o : Source) : Reading (Option (Document × Play)) := do
  match what with
  | "join" => return some (.null, (← waited e.toEnd).join.2)
  | "step" =>
    match e.send .step with
    | (.error refusal, e) => return some (refusal.toDocument, e)
    | (.ok (), e) =>
      let n := e.status.nodes
      return some (.null, ← waited (e.waitFor fun e => n < e.status.nodes || !e.isRunning))
  | "stop" =>
    let (result, e) := e.stop (← need o "reason" Source.text?)
    return some (granted result, ← waited e.toEnd)
  | _ => return none

/-- A step that looks at something or changes the surroundings of the run. -/
def looking (e : Play) (what : String) (o : Source) : Reading (Document × Play) := do
  let bus := e.session.bus
  match what with
  | "skill" =>
    return (.option SkillRecord.toDocument (e.skill (← need o "skill_id" Source.text?)), e)
  | "skills" => return (.list (e.skills.map SkillRecord.toDocument), e)
  | "attempt" =>
    return (.option Attempt.toDocument (e.attempt? (← need o "id" Source.text?)), e)
  | "validate" => return (.bool ((← draftOf o).validate e.catalogue).preset.isSome, e)
  | "paint" => return (.null, e.setScene (← orPanic (e.scene.paint (← brushOf o))))
  | "hold" =>
    match e.session.lock.tryAcquire (← need o "owner" Source.text?) with
    | .ok lock => return (.text "held", e.setLock lock)
    | .error why => return (.record [("contended", .text why.reason)], e)
  | "known_skills" => return (.texts (e.catalogue.skills.map Skill.id), e)
  | "on" =>
    let (id, bus) := bus.addCallback fun _ => .none
    return (.nat id, e.setBus bus)
  | "unsubscribe" => return (.null, e.setBus (bus.unsubscribe (← need o "id" Source.natural?)))
  | "hits" => return (.texts (bus.calls.toList.filterMap fun call => call.2.skill?), e)
  | _ => bad

/-- Follow a step; the answer says whether it is reported. -/
def follow (e : Play) (what : String) (o : Source) : Reading (Document × Bool × Play) := do
  if let some done ← requesting e what o then
    return done
  if let some e ← waiting e what o then
    return (.null, what != "wait_stage", e)
  if let some (result, e) ← directing e what o then
    return (result, true, e)
  let (result, e) ← looking e what o
  return (result, true, e)

/-- The events since the last report. -/
def drain (e : Play) : List Event × Play :=
  let (events, bus) := e.session.bus.drain 1
  (events, e.setBus bus)

/-- The report of a step. -/
def report (e : Play) (result : Document) : Document × Play :=
  let e := if e.isRunning then e else e.join.2
  let (events, e) := drain e
  (.record [("result", result), ("status", e.status.toDocument e.captureStatus),
    ("events", .list (events.map Event.toDocument)), ("keys", .texts e.scene.keyboard.sent),
    ("lock", .option .text e.session.lock.holder)], e)

/-- Follow a script of runs. -/
def play (s : Source) : Reading Document := do
  let cues ← listOf s "on_key" cueOf
  let first : Play :=
    Engine.start (← catalogueOf s) (← settingsOf s) (.start (← screensOf s) cues)
  let heard := first.setBus first.session.bus.openChannel.2
  let (answers, e) ← Script.follow (fun e what o => do
    let (result, reported, e) ← Play.follow e what o
    let (answer, e) := if reported then report e result else (.record [("result", result)], e)
    return (answer.untimed, e)) heard (← steps s "steps")
  if ← mayOr s "drop" false Source.bool? then
    let e ← if e.isRunning then waited (e.stop "engine dropped").2.toEnd else pure e
    let last : Document := .record [("dropped", .list ((drain e).1.map Event.toDocument))]
    return .list (answers ++ [last.untimed])
  return .list answers

end Play

end Rehearsal

end Rotation
