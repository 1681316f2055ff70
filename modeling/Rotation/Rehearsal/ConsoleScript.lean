import Rotation.Console.Control
import Rotation.Console.View
import Rotation.Rehearsal.RunScript

/-!
# Scripts of the console

A console is worked by hand: steps call its operations, put log lines and
events into its inbox, let its run go on, and look at what it shows.
-/

namespace Rotation

namespace Terminal.Canvas

/-- The written form of a canvas, with or without the looks of its cells. -/
def toDocument (c : Canvas) (looks : Bool) : Document :=
  .record (("lines", .texts c.texts) ::
    if looks then
      [("styles", .list (c.allRuns.map fun row =>
        .list (row.map fun (column, width, look) =>
          .list [.nat column, .nat width, .text look])))]
    else [])

end Terminal.Canvas

namespace Rehearsal.ConsoleScript

open Script

/-- A preset with its name; one that is only named has a format that nobody
knows. -/
def entryOf (s : Source) : Reading PresetEntry := do
  let name ← need s "name" Source.text?
  match got s "preset" with
  | none => return ⟨name, .error (.unsupported name)⟩
  | some p => return ⟨name, .ok (← orFail "preset" (Source.draft? p))⟩

/-- The name of the preset that was started last in a text of settings. -/
def savedPreset (text : Option String) : Option String := do
  match ← Source.read? (← text) with
  | .record fields => (Source.get? fields "last_preset").bind Source.text?
  | _ => none

/-- A grab of the headless scene. -/
def grabbed (o : Source) : Reading Document := do
  let monitor ← need o "monitor" Source.word32?
  let rect ← need o "rect" Source.rect?
  let scene ← orPanic Scene.headless
  match (← orPanic (Scene.source.grab scene monitor rect)).1 with
  | .error e => return .record [("error", .text e.code), ("message", .text e.message)]
  | .ok frame =>
    let r := frame.origin
    let first ← orPanic (frame.pixel r.x r.y)
    return .list ([r.x, r.y, r.w, r.h].map Document.integer ++
      [.nat frame.data.size, .option Color.toDocument first])

/-- The headless scene. -/
def headless : Reading Document := do
  let screens := Scene.source.screens (← orPanic Scene.headless)
  let shown := fun (s : Screen) =>
    Document.list (.nat s.id.toNat :: [s.rect.x, s.rect.y, s.rect.w, s.rect.h].map .integer)
  return .record [("name", .text "stub"), ("screens", .list (screens.map shown))]

/-- A step that works the console. -/
def working (c : Console) (what : String) (o : Source) : Reading (Option Console) := do
  let count := need o "n" Source.natural?
  match what with
  | "up" => return some c.up
  | "down" => return some c.down
  | "scroll_up" => return some (c.scrollUp (← count))
  | "scroll_down" => return some (c.scrollDown (← count))
  | "toggle_log" => return some c.toggleLog
  | "log" => return some (c.receiveLine (← need o "line" Source.text?))
  | "drain" => return some c.drain
  | "validate" => return some c.validate
  | "start_stop" => return some (← orPanic (c.startOrStop "now"))
  | "quit" => return some c.quit
  | "request_quit" => return some c.requestQuit
  | "toggle_pause" => return some c.togglePause
  | "step" => return some c.step
  | "confirm_toggle" => return some c.toggleAnswer
  | "confirm_close" => return some c.closeDialog
  | "publish" =>
    let event ← orFail "bad_input" (Source.event? o)
    let times ← mayOr o "times" 1 Source.natural?
    return some (c.receiveEvents (List.replicate times event))
  | _ => return none

/-- Make grabs fail, where the screens are painted ones. -/
def failGrabs (c : Console) (painted : Bool) (count : Nat) : Console :=
  if painted then
    let scene := c.engine.scene
    { c with engine :=
        c.engine.setScene { scene with screens := { scene.screens with failNext := count } } }
  else c

/-- Follow a step; the answer is what the step shows beside the state of the
console. -/
def follow (painted : Bool) (c : Console) (what : String) (o : Source) :
    Reading (Document × Console) := do
  if let some c ← working c what o then
    return (.null, c)
  if let some engine ← Play.waiting c.engine what o then
    return (.null, { c with engine })
  match what with
  | "fail_grabs" => return (.null, failGrabs c painted (← need o "n" Source.smallNatural?))
  | "grab" => return (← grabbed o, c)
  | "stub" => return (← headless, c)
  | "events" => return (.list (c.events.map Event.toDocument), c)
  | "draw" =>
    let drawn := c.draw (← need o "w" Source.natural?) (← need o "h" Source.natural?)
    let canvas ← orPanic drawn
    return (canvas.shown.toDocument (← mayOr o "styles" false Source.bool?), c)
  | _ => bad

/-- The report of a step. -/
def report (c : Console) (shown : Document) : Document :=
  .record [("selected", .nat c.selected), ("entry", .option .text (c.entry?.map PresetEntry.name)),
    ("log_visible", .bool c.logVisible), ("log_scroll", .nat c.logScroll),
    ("logs", .texts c.log.toList), ("diagnostics", .texts c.findings),
    ("confirm", .option (fun d => .list [.text d.question, .bool d.yes]) c.dialog),
    ("should_quit", .bool c.finished), ("running", .bool c.engine.isRunning),
    ("saved_preset", .option .text (savedPreset c.shelf.text)), ("extra", shown)]

/-- Follow a script of the console. -/
def play (s : Source) : Reading Document := do
  let catalogue ← catalogueOf s
  let settings ← settingsOf s
  let painted := (got s "screens").isSome
  let scene ← if painted then pure (Scene.start (← screensOf s) []) else orPanic Scene.headless
  let presets ← listOf s "presets" entryOf
  let first := Console.opened (.start catalogue settings scene) presets settings .empty
  let (answers, _) ← Script.follow (fun c what o => do
    let (shown, c) ← follow painted c what o
    let answer := if ← mayOr o "quiet" false Source.bool? then .null else report c shown
    return (answer, c)) first (← steps s "steps")
  return .list answers

/-- A dialog over a screen full of dots. -/
def dialog (s : Source) : Reading Document := do
  let asked := Console.Dialog.ask (← need s "message" Source.text?)
  let odd := (← mayOr s "toggles" 0 Source.natural?) % 2 == 1
  let toggled := if odd then asked.toggle else asked
  let screen :=
    Terminal.Canvas.filled (← need s "w" Source.natural?) (← need s "h" Source.natural?) "."
  return (← orPanic (toggled.draw screen)).shown.toDocument true

end Rehearsal.ConsoleScript

end Rotation
