import Rotation.Screen.Frame
import Rotation.Screen.Observation

/-!
# Grabbing the screen

A screen source shows which monitors there are and grabs rectangles of them.
Its state may change with every grab.  A grab may be refused, and a source may
fault.
-/

namespace Rotation

/-- Why a rectangle could not be grabbed. -/
inductive GrabError where
  | noMonitor (monitor : MonitorId)
  | emptyRegion
  | backend (message : String)
  deriving DecidableEq, Repr

namespace GrabError

/-- The code of an error. -/
def code : GrabError → String
  | .noMonitor _ => "capture_no_monitor"
  | .emptyRegion => "capture_empty_region"
  | .backend _ => "capture_failed"

/-- The error on one line. -/
def message : GrabError → String
  | .noMonitor monitor => "monitor " ++ toString monitor.toNat ++ " not found"
  | .emptyRegion => "capture region is empty"
  | .backend message => "capture backend failed: " ++ message

end GrabError

/-- The monitors of a machine and how they are grabbed. -/
structure ScreenSource (σ : Type) where
  screens : σ → List Screen
  grab : σ → MonitorId → Rect → Checked (Except GrabError Frame × σ)

namespace Frame

/-- The part of a frame inside a rectangle that lies in the frame. -/
def crop (f : Frame) (r : Rect) : Frame :=
  let width := r.w.toNat
  let height := r.h.toNat
  let column := (r.x - f.origin.x).toNat
  let row := (r.y - f.origin.y).toNat
  { origin := r, width, height
    bytesPerRow := 4 * width
    data := Array.ofFn fun i : Fin (4 * (width * height)) =>
      let line := i.val / (4 * width)
      f.data.getD ((row + line) * f.bytesPerRow + 4 * column + i.val % (4 * width)) 0 }

end Frame

end Rotation
