import Rotation.Cast.Session
import Rotation.Catalogue.Basic
import Rotation.Document.Record
import Rotation.Screen.Grab
import Rotation.Screen.Observation
import Rotation.Screen.Wire

/-!
# Equipment for rehearsals

A keyboard that notes what is pressed on it, unless it is made to fail.  Single
pixels: a screen of which only some pixels are known, each with its colour or
with the reason why it cannot be seen.  Whole screens: monitors that show what
has been painted on them, whose grabs are counted and can be made to fail.
-/

/-! ## Keyboards -/

namespace Rotation.Rehearsal

/-- The chords pressed so far, in their normal form. -/
structure Keyboard where
  sent : List String
  failing : Bool

namespace Keyboard

/-- A keyboard that works. -/
def start : Keyboard :=
  ⟨[], false⟩

/-- Number of successful presses. -/
def count (k : Keyboard) : Nat :=
  k.sent.length

/-- Press a chord. -/
def press (k : Keyboard) (chord : Chord) : Except PressError Unit × Keyboard :=
  if k.failing then (.error (.backend "scripted failure"), k)
  else (.ok (), { k with sent := k.sent ++ [chord.text] })

end Keyboard

end Rotation.Rehearsal

/-! ## Single pixels -/

namespace Rotation.Rehearsal

/-- What is seen at single coordinates; the first entry for a coordinate
counts. -/
abbrev Pixels := List ((MonitorId × Int32 × Int32) × Observed Color)

namespace Pixels

/-- What is seen at a spot. -/
def look (pixels : Pixels) (spot : Spot) : Observed Color :=
  match pixels.lookup (spot.monitor, spot.x, spot.y) with
  | some found => found
  | none =>
    .error (.because "no_pixel"
      ("(" ++ toString spot.x.toInt ++ ", " ++ toString spot.y.toInt ++ ")"))

/-- Put pixels in place of those known before; later ones replace earlier
ones. -/
def put (pixels new : Pixels) : Pixels :=
  new.reverse ++ pixels

end Pixels

end Rotation.Rehearsal

namespace Rotation.Source

/-- Read a pixel: a colour, or the code of a failure. -/
def pixel? : Source → Option ((MonitorId × Int32 × Int32) × Observed Color)
  | .record fields => do
    let place := ((← optional fields "monitor" word32?).getD 0, ← required fields "x" signed32?,
      ← required fields "y" signed32?)
    match ← optional fields "code" text? with
    | some code => return (place, .error (.because code ""))
    | none => return (place, .ok (← required fields "color" color?))
  | _ => none

/-- Read a list of pixels. -/
def pixels? : Source → Option Rehearsal.Pixels :=
  list? pixel?

end Rotation.Source

/-! ## Screens -/

namespace Rotation.Rehearsal

/-- A square to paint. -/
structure Brush where
  monitor : MonitorId
  x : Int
  y : Int
  radius : Nat
  color : Color

/-- Painted monitors. -/
structure Screens where
  frames : List (MonitorId × Frame)
  grabs : Nat
  failNext : Nat

namespace Screens

/-- Add a monitor of one colour; it takes the place of one with the same number. -/
def add (frames : List (MonitorId × Frame)) (screen : Screen) (fill : Color) :
    Checked (List (MonitorId × Frame)) := do
  let frame ← Frame.solid screen.rect fill
  return (frames.filter fun entry => entry.1 != screen.id) ++ [(screen.id, frame)]

/-- Monitors of one colour each. -/
def ofList (list : List (Screen × Color)) : Checked Screens := do
  return ⟨← list.foldlM (fun frames (screen, fill) => add frames screen fill) [], 0, 0⟩

/-- The monitors. -/
def list (s : Screens) : List Screen :=
  s.frames.map fun (id, frame) => ⟨id, frame.origin⟩

/-- Grab the part of a monitor inside a rectangle. -/
def grab (s : Screens) (monitor : MonitorId) (rect : Rect) :
    Checked (Except GrabError Frame × Screens) :=
  let counted := { s with grabs := s.grabs + 1 }
  if 0 < s.failNext then
    return (.error (.backend "scripted failure"), { counted with failNext := s.failNext - 1 })
  else
    match s.frames.lookup monitor with
    | none => return (.error (.noMonitor monitor), counted)
    | some frame => do
      match ← frame.origin.intersect rect with
      | none => return (.error .emptyRegion, counted)
      | some part => return (.ok (frame.crop part), counted)

/-- Paint a square on a monitor, as far as it lies on it. -/
def paint (s : Screens) (monitor : MonitorId) (x y : Int) (radius : Nat) (color : Color) :
    Checked Screens := do
  let square := fun (centre origin : Int) (size : Nat) =>
    Frame.interval (max (centre - radius) origin) (min (centre + radius) (origin + size - 1))
  let frames ← s.frames.mapM fun (id, frame) => do
    if id ≠ monitor then
      return (id, frame)
    let painted ← (square y frame.origin.y frame.height).foldlM (fun f row =>
      (square x frame.origin.x frame.width).foldlM (fun f column => f.put column row color) f) frame
    return (id, painted)
  return { s with frames }

/-- Paint the square of a brush. -/
def stroke (s : Screens) (b : Brush) : Checked Screens :=
  s.paint b.monitor b.x b.y b.radius b.color

/-- Take a monitor away. -/
def unplug (s : Screens) (monitor : MonitorId) : Screens :=
  { s with frames := s.frames.filter fun entry => entry.1 != monitor }

/-- Painted monitors as a source. -/
def source : ScreenSource Screens :=
  ⟨list, grab⟩

end Screens

end Rotation.Rehearsal
