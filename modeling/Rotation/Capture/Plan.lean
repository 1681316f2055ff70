import Rotation.Condition.Requirements
import Rotation.Word.Checked

/-!
# Capture plans

A plan says which rectangle of which monitor is grabbed so that all required
spots can be sampled: the smallest rectangle around the spots of a monitor, cut
off at the screen, or the whole screen when that rectangle covers much of it.
-/

namespace Rotation

/-- Whether a region is a part of a screen or all of it. -/
inductive RegionKind where
  | part
  | whole
  deriving DecidableEq, Repr

/-- What is grabbed of one monitor. -/
structure Region where
  monitor : MonitorId
  kind : RegionKind
  rect : Rect
  deriving DecidableEq, Repr

/-- The regions to grab, and the names of what could not be placed.  Plans are
numbered from one; number zero is no plan. -/
structure Plan where
  version : Nat
  regions : List Region
  unresolved : List String
  deriving DecidableEq, Repr

namespace Plan

/-- No plan. -/
def absent : Plan :=
  ⟨0, [], []⟩

/-- The region of a monitor. -/
def region? (p : Plan) (monitor : MonitorId) : Option Region :=
  p.regions.find? fun r => r.monitor == monitor

end Plan

namespace Spot

/-- The square of pixels that a sample looks at; the radius is taken as a
signed word. -/
def bounds (s : Spot) : Checked Rect := do
  let r := Signed.wrap 32 s.radius.toNat
  let x ← Signed.sub 32 s.x.toInt r
  let y ← Signed.sub 32 s.y.toInt r
  let side ← Signed.add 32 (← Signed.mul 32 2 r) 1
  return ⟨x, y, side, side⟩

end Spot

namespace Plan

/-- The smallest rectangle around the spots of each monitor, in the order of
the monitors. -/
abbrev Boxes :=
  List (MonitorId × Rect)

/-- Extend the rectangle of a monitor. -/
def extend (monitor : MonitorId) (rect : Rect) : Boxes → Checked Boxes
  | [] => return [(monitor, rect)]
  | (m, box) :: rest =>
    if monitor = m then return (m, ← box.union rect) :: rest
    else if monitor < m then return (monitor, rect) :: (m, box) :: rest
    else return (m, box) :: (← extend monitor rect rest)

/-- The rectangles around all spots. -/
def boxes (spots : List Spot) : Checked Boxes :=
  spots.foldlM (fun boxes s => do extend s.monitor (← s.bounds) boxes) []

/-- The share of a screen that a rectangle covers. -/
def share (part whole : Rect) : Float :=
  Float.ofInt part.area / Float.ofInt (max whole.area 1)

/-- The region for a rectangle on a monitor, or the name of what is missing. -/
def place (screens : List Screen) (threshold : Float) (monitor : MonitorId) (box : Rect) :
    Checked (Except String Region) := do
  let name := "monitor:" ++ toString monitor.toNat
  match screens.find? fun s => s.id == monitor with
  | none => return .error name
  | some screen =>
    match ← box.intersect screen.rect with
    | none => return .error (name ++ ":offscreen")
    | some clipped =>
      if share clipped screen.rect ≥ threshold then return .ok ⟨monitor, .whole, screen.rect⟩
      else return .ok ⟨monitor, .part, clipped⟩

/-- The plan for a set of requirements. -/
def build (requirements : Requirements) (catalogue : Catalogue) (screens : List Screen)
    (threshold : Float) (version : Nat) : Checked Plan := do
  let placed ← (← boxes (requirements.spots catalogue)).mapM fun (monitor, box) =>
    place screens threshold monitor box
  return {
    version
    regions := placed.filterMap Except.toOption
    unresolved := requirements.missing catalogue ++ placed.filterMap fun
      | .ok _ => none
      | .error name => some name }

end Plan

end Rotation
