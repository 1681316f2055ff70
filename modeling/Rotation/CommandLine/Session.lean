import Rotation.CommandLine.Run
import Rotation.Console.Keys
import Rotation.Console.View

/-!
# Interactive sessions

A session opens a console on the presets that the options name and goes on
until the user quits.  Its screen is a black monitor, and its keyboard takes
every key.
-/

namespace Rotation

namespace Engine

open Rehearsal

/-- Let the run go on up to a moment, in at most so many steps. -/
def passIn (target : Nat) : Nat → Engine Scene → Engine Scene
  | 0, e => e
  | fuel + 1, e =>
    if e.isReady then passIn target fuel e.tick
    else
      match e.wakeTime with
      | some time =>
        if time ≤ target then passIn target fuel (e.passTo time) else e.passTo target
      | none => e.passTo target

/-- Let the run go on for a time. -/
def pass (e : Engine Scene) (ms : Nat) : Engine Scene :=
  passIn (e.session.now + ms) stepLimit e

end Engine

namespace CommandLine

/-- The name of the devices of a session. -/
def deviceName : String :=
  "stub"

/-- Remarks about the devices; they are told when nobody has asked for them. -/
def reportDevices (o : Options) (j : Journal) : Journal :=
  let j :=
    if o.stub then j
    else j.warn deviceName "no native backend for this OS, using the stub platform"
  j.info programName ("platform: " ++ deviceName)

/-- An interactive session: the console, the channel on which events arrive, how
many remarks of the journal have been shown, the characters of a sequence that
is not complete, and the fault that has ended the session, if there was one. -/
structure Sitting where
  console : Console
  channel : Nat
  shown : Nat
  pending : List Char
  fault : Option Fault

namespace Sitting

/-- Open a session; the shelf holds the settings. -/
def opened (o : Options) (m : Materials) (journal : Journal) (shelf : Console.Shelf) :
    Checked Sitting := do
  let silent := Engine.start m.catalogue m.settings (← Rehearsal.Scene.headless)
  let (channel, bus) := silent.session.bus.openChannel
  let engine := (silent.setBus bus).remark fun _ => reportDevices o journal
  return ⟨.opened engine m.presets m.settings shelf, channel, engine.session.journal.size, [], none⟩

/-- A remark as the log of the console takes it. -/
def logLine (time : String) (l : JournalLine) : String :=
  let color := if l.part = deviceName then "1" else "0"
  Console.LogLine.separator.toString.intercalate [l.level.name, l.part, color, time, l.text]

/-- Let remarks and events reach the console. -/
def hear (s : Sitting) (time : String) : Sitting :=
  let e := s.console.engine
  let journal := e.session.journal
  let (events, bus) := e.session.bus.drain s.channel
  let told := (journal.extract s.shown journal.size).toList.map (logLine time)
  let heard := told.foldl Console.receiveLine { s.console with engine := e.setBus bus }
  { s with console := (heard.receiveEvents events).drain, shown := journal.size }

/-- Let time pass. -/
def pass (s : Sitting) (ms : Nat) : Sitting :=
  { s with console := { s.console with engine := s.console.engine.pass ms } }

/-- Whether a session has come to its end. -/
def isOver (s : Sitting) : Bool :=
  s.console.finished || s.fault.isSome

/-- Do what an input asks for. -/
def follow (time : String) (s : Sitting) (input : Console.Input) : Sitting :=
  match s.console.receive time input with
  | .ok console => ({ s with console } : Sitting).pass 0
  | .error fault => { s with fault := some fault }

/-- Read a character; `more` tells whether others have come with it. -/
def read (time : String) (s : Sitting) (more : Bool) (c : Char) : Sitting :=
  if s.isOver then s
  else
    match Console.Input.read s.pending more c with
    | .error fault => { s with fault := some fault }
    | .ok (pending, none) => { s with pending }
    | .ok (pending, some input) => ({ s with pending } : Sitting).follow time input

/-- Receive characters that come together. -/
def receive (time : String) (s : Sitting) : List Char → Sitting
  | [] => s
  | c :: rest => receive time (s.read time (!rest.isEmpty) c) rest

/-- Close a session. -/
def close (s : Sitting) : Sitting :=
  let c := s.console
  if c.engine.isRunning then { s with console := { c with engine := (c.engine.halt "exit").2 } }
  else s

end Sitting

end CommandLine

end Rotation
