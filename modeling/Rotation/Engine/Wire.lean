import Rotation.Diagnostic.Wire
import Rotation.Engine.Basic

/-!
# The engine in documents

The written forms of the state of an engine and of its refusals.
-/

namespace Rotation

/-- The written form of a reason. -/
def StopReason.toDocument (r : StopReason) : Document :=
  .texts [r.code, r.text]

/-- The written form of a status, with the plan of the capturing. -/
def EngineStatus.toDocument (s : EngineStatus) (capture : Option CaptureStatus) : Document :=
  .record [("state", .text s.state.name), ("preset_id", .option .text s.preset),
    ("mode_id", .option .text s.mode), ("step", .option .integer s.step), ("nodes", .nat s.nodes),
    ("last_error", .option .text s.lastError), ("started", .bool s.startedAt.isSome),
    ("last_stop", .option StopReason.toDocument s.lastStop),
    ("plan", .option (fun c => .list [.nat c.planVersion, .nat c.regions]) capture)]

namespace EngineError

/-- The name of the kind of an error. -/
def kind : EngineError → String
  | .alreadyRunning _ => "already_running"
  | .invalid _ => "invalid"
  | .notRunning => "not_running"
  | .internal _ => "internal"

/-- The written form of an error. -/
def toDocument (e : EngineError) : Document :=
  .record ([("error", .text e.kind), ("message", .text e.message)] ++
    match e with
    | .invalid ds => [("diagnostics", ds.toDocument)]
    | _ => [])

end EngineError

end Rotation
