import Rotation.Engine.Control
import Rotation.Rehearsal.Equipment

/-!
# A scene for whole runs

Scripted devices: painted monitors and a keyboard whose presses may paint, make
grabs or keys fail, give commands to the engine, or crash.
-/

namespace Rotation

namespace Rehearsal

/-- What happens after a press, in this order. -/
structure Cue where
  count : Nat
  paint : List Brush
  failGrabs : Option Nat
  failKeys : Option Bool
  commands : List Command
  crash : Option Crash

/-- Scripted devices; `requested` are commands that the script has given and
that have not reached the engine yet. -/
structure Scene where
  screens : Screens
  keyboard : Keyboard
  cues : List Cue
  requested : List Command

namespace Scene

/-- A scene with painted monitors. -/
def start (screens : Screens) (cues : List Cue) : Scene :=
  ⟨screens, .start, cues, []⟩

/-- The scene without a screen and with a keyboard that works. -/
def headless : Checked Scene := do
  return start (← Screens.ofList [(⟨0, ⟨0, 0, 1920, 1080⟩⟩, ⟨0, 0, 0⟩)]) []

/-- Paint a square. -/
def paint (s : Scene) (b : Brush) : Checked Scene := do
  return { s with screens := ← s.screens.stroke b }

/-- Follow a cue. -/
def follow (s : Scene) (cue : Cue) : Except Crash Unit × Scene :=
  match cue.paint.foldlM paint s with
  | .error f => (.error (.fault f), s)
  | .ok s =>
    let s := { s with
      screens := { s.screens with failNext := cue.failGrabs.getD s.screens.failNext }
      keyboard := { s.keyboard with failing := cue.failKeys.getD s.keyboard.failing }
      requested := s.requested ++ cue.commands }
    match cue.crash with
    | some crash => (.error crash, s)
    | none => (.ok (), s)

/-- Follow cues one after the other until one crashes. -/
def followAll (s : Scene) : List Cue → Except Crash Unit × Scene
  | [] => (.ok (), s)
  | cue :: rest =>
    match s.follow cue with
    | (.error crash, s) => (.error crash, s)
    | (.ok (), s) => s.followAll rest

/-- Press a chord. -/
def press (chord : Chord) (s : Scene) : Except Crash (Except PressError Unit) × Scene :=
  match s.keyboard.press chord with
  | (.error e, keyboard) => (.ok (.error e), { s with keyboard })
  | (.ok (), keyboard) =>
    let due := s.cues.filter fun cue => cue.count = keyboard.count
    let (result, s) := { s with keyboard }.followAll due
    (result.map fun _ => .ok (), s)

/-- The painted monitors as a source. -/
def source : ScreenSource Scene where
  screens s := s.screens.list
  grab s monitor rect := do
    let (result, screens) ← s.screens.grab monitor rect
    return (result, { s with screens })

/-- The scene as devices of an engine. -/
def devices : Devices Scene :=
  ⟨source, press⟩

end Scene

end Rehearsal

/-! ## Runs on a virtual clock -/

namespace Engine

open Rehearsal

/-- The engine with another state of the cast lock. -/
def setLock {τ : Type} (e : Engine τ) (lock : CastLock) : Engine τ :=
  { e with session := { e.session with lock } }

/-- The engine with another state of the bus. -/
def setBus {τ : Type} (e : Engine τ) (bus : Bus) : Engine τ :=
  { e with session := { e.session with bus } }

/-- The scene of an engine. -/
def scene (e : Engine Scene) : Scene :=
  e.session.equipment.devices

/-- Put the scene into another state. -/
def setScene (e : Engine Scene) (s : Scene) : Engine Scene :=
  { e with session := { e.session with
    equipment := { e.session.equipment with devices := s } } }

/-- Let the commands of the script reach the engine. -/
def relay (e : Engine Scene) : Engine Scene :=
  let requested := e.scene.requested
  let cleared := e.setScene { e.scene with requested := [] }
  requested.foldl (fun e command => (e.send command).2) cleared

/-- One step of the run. -/
def tick (e : Engine Scene) : Engine Scene :=
  (e.step Scene.devices).relay

/-- Bound of the steps of one wait. -/
def stepLimit : Nat :=
  1000000

/-- Let the run go on as long as it needs no time. -/
def settleIn : Nat → Engine Scene → Engine Scene
  | 0, e => e
  | fuel + 1, e => if e.isReady then settleIn fuel e.tick else e

/-- Let the run go on as long as it needs no time. -/
def settle (e : Engine Scene) : Engine Scene :=
  settleIn stepLimit e

/-- Let time pass up to a moment. -/
def passTo (e : Engine Scene) (time : Nat) : Engine Scene :=
  { e with session := { e.session with now := max e.session.now time } }

/-- Let the run go on, and time pass, until a condition holds; there is no
result if it never does. -/
def waitIn (done : Engine Scene → Bool) : Nat → Engine Scene → Option (Engine Scene)
  | 0, _ => none
  | fuel + 1, e =>
    if done e then some e
    else if e.isReady then waitIn done fuel e.tick
    else
      match e.wakeTime with
      | none => none
      | some time => waitIn done fuel (e.passTo time)

/-- Let the run go on until a condition holds, and then as long as it needs no
more time. -/
def waitFor (e : Engine Scene) (done : Engine Scene → Bool) : Option (Engine Scene) :=
  (waitIn done stepLimit e).map settle

/-- Let the run go on to its end. -/
def toEnd (e : Engine Scene) : Option (Engine Scene) :=
  e.waitFor fun e => !e.isRunning

/-- Whether the last attempt at a skill is in a scene. -/
def isAt (skill : String) (stage : Stage) (e : Engine Scene) : Bool :=
  (e.session.store.countersOf skill).lastStage == some stage

end Engine

end Rotation
