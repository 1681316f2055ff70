import Rotation.Capture.Manager
import Rotation.Diagnostic.Wire
import Rotation.Screen.Wire

/-!
# Capturing in documents

The written forms of plans, snapshots, observed colours and the state of
capturing.
-/

namespace Rotation

/-- A monitor as a number. -/
def MonitorId.toDocument (m : MonitorId) : Document :=
  .nat m.toNat

/-- The written form of a spot. -/
def Spot.toDocument (s : Spot) : Document :=
  .list [MonitorId.toDocument s.monitor, .integer s.x.toInt, .integer s.y.toInt,
    .nat s.radius.toNat]

/-- The written form of a region. -/
def Region.toDocument (r : Region) : Document :=
  .record [("monitor", MonitorId.toDocument r.monitor),
    ("mode", .text (if r.kind = .part then "roi" else "full")), ("rect", r.rect.toDocument)]

/-- The fields of a plan. -/
def Plan.fields (p : Plan) : List (String × Document) :=
  [("version", .nat p.version), ("unresolved", .texts p.unresolved),
    ("regions", .list (p.regions.map Region.toDocument))]

/-- The written form of an observed colour. -/
def Color.observed : Observed Color → Document
  | .ok c => c.toDocument
  | .error u => u.toDocument

/-- The written form of a frame: its monitor and its rectangle. -/
def Frame.place (monitor : MonitorId) (f : Frame) : Document :=
  .list (MonitorId.toDocument monitor ::
    [f.origin.x, f.origin.y, f.origin.w, f.origin.h].map .integer)

/-- The written form of a snapshot; `last` is the number of the one before. -/
def Snapshot.toDocument (last : Option Nat) (s : Snapshot) : Document :=
  .record [("reused", .bool (last == some s.number)), ("version", .nat s.planVersion),
    ("frames", .list (s.frames.map fun (m, f) => f.place m))]

/-- The written form of the state of capturing. -/
def CaptureStatus.toDocument (s : CaptureStatus) : Document :=
  .record [("plan_version", .nat s.planVersion), ("regions", .nat s.regions),
    ("failures", .nat s.failures), ("backoff_ms", .nat s.backoffMs),
    ("last_error", .option .text s.lastError), ("captures", .nat s.captures)]

end Rotation
