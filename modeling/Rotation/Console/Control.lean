import Rotation.Console.Basic
import Rotation.Settings.Wire

/-!
# Running presets from the console

What the console asks of the engine.  Stopping a run waits for its end, and a
preset that has been started is remembered in the settings.
-/

namespace Rotation

/-- Stop a run and wait for its end. -/
def Engine.halt (e : Engine Rehearsal.Scene) (reason : String) :
    Except EngineError Unit × Engine Rehearsal.Scene :=
  let (result, stopping) := e.stop reason
  (result, stopping.toEnd.getD stopping)

namespace Console

/-- The journal's name for this part. -/
def part : String :=
  "app"

/-- Add to the journal. -/
def remark (c : Console) (f : Journal → Journal) : Console :=
  { c with engine := c.engine.remark f }

/-- Look at the selected preset without starting it. -/
def validate (c : Console) : Console :=
  match c.entry? with
  | none => c
  | some entry =>
    match entry.draft with
    | .error e => { c with findings := [e.message] }
    | .ok draft =>
      let report := draft.validate c.engine.catalogue
      let told := { c with findings := report.diagnostics.map Diagnostic.line }
      if report.preset.isSome then
        told.remark (·.info part (entry.name ++ ": valid (" ++
          toString report.diagnostics.length ++ " finding(s))"))
      else
        told.remark (·.warn part (entry.name ++ ": " ++
          toString report.diagnostics.errors.length ++ " error(s)"))

/-- Keep the settings. -/
def save (c : Console) : Console :=
  match c.shelf.refusal with
  | none => { c with shelf := { c.shelf with text := some c.settings.toText } }
  | some e => c.remark (·.warn part ("failed to save settings: " ++ e.message))

/-- Start the selected preset; `time` tells people when. -/
def start (c : Console) (time : String) : Checked Console :=
  match c.entry? with
  | none => return c
  | some entry =>
    match entry.draft with
    | .error e => return { c with findings := [e.message] }
    | .ok draft => do
      let (result, engine) ← c.engine.startDraft Rehearsal.Scene.devices draft time
      let c := { c with engine, findings := [] }
      match result with
      | .ok report =>
        return ({ c with
          findings := report.diagnostics.map Diagnostic.line
          events := []
          settings := { c.settings with lastPreset := some entry.name } } : Console).save
      | .error (.invalid ds) =>
        return ({ c with findings := ds.map Diagnostic.line } : Console).remark
          (·.error part (entry.name ++ " did not pass validation"))
      | .error e => return c.remark (·.error part ("start " ++ entry.name ++ ": " ++ e.message))

/-- Stop the run and wait for its end. -/
def stop (c : Console) (reason : String) : Console :=
  match c.engine.halt reason with
  | (.ok (), engine) => { c with engine }
  | (.error e, engine) => ({ c with engine } : Console).remark (·.warn part ("stop: " ++ e.message))

/-- Start the selected preset, or stop the one that runs. -/
def startOrStop (c : Console) (time : String) : Checked Console :=
  if c.engine.isRunning then return c.stop "stopped from TUI" else c.start time

/-- Pause the run, or let it go on. -/
def togglePause (c : Console) : Console :=
  match c.engine.togglePause with
  | (.ok .paused, engine) => ({ c with engine } : Console).remark (·.info part "paused")
  | (.ok _, engine) => ({ c with engine } : Console).remark (·.info part "resumed")
  | (.error _, engine) => { c with engine }

/-- Let a paused run do one node. -/
def step (c : Console) : Console :=
  { c with engine := (c.engine.send .step).2 }

/-- Quit; a run is stopped first. -/
def quit (c : Console) : Console :=
  let engine := if c.engine.isRunning then (c.engine.halt "quit").2 else c.engine
  { c with engine, finished := true }

/-- Quit, but ask first while a preset runs. -/
def requestQuit (c : Console) : Console :=
  if c.engine.isRunning then { c with dialog := some (.ask "Stop the engine and quit?") }
  else c.quit

end Console

end Rotation
