import Rotation.Diagnostic.Basic
import Rotation.Document.Basic
import Rotation.Screen.Observation

/-!
# Findings in documents

The written forms of diagnostics and of failed observations.
-/

namespace Rotation

/-- The written form of a finding. -/
def Diagnostic.toDocument (d : Diagnostic) : Document :=
  .record [("severity", .text d.severity.name), ("code", .text d.code), ("path", .text d.path),
    ("message", .text d.message)]

/-- The written form of findings: the items, their lines, and whether one of
them is an error. -/
def Diagnostics.toDocument (ds : Diagnostics) : Document :=
  .record [("items", .list (ds.map Diagnostic.toDocument)),
    ("lines", .texts (ds.map Diagnostic.line)), ("has_errors", .bool ds.hasErrors)]

/-- The written form of a failed observation. -/
def Unavailable.toDocument (u : Unavailable) : Document :=
  .record [("unavailable", .text u.code), ("detail", .text u.detail), ("text", .text u.text),
    ("retry_after", .bool u.retryAfter.isSome)]

end Rotation
