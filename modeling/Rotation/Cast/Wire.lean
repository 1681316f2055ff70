import Rotation.Cast.Attempt
import Rotation.Document.Basic

/-!
# Outcomes in documents

The written form of what an attempt has come to.
-/

namespace Rotation.Cast

/-- The written form of an outcome. -/
def Outcome.toDocument (o : Outcome) : Document :=
  .record [("result", .text o.verdict.name), ("advance", .bool o.advance),
    ("delay_ms", .nat o.delayMs), ("attempt_id", .option .text o.attempt),
    ("reason", .option .text o.reason)]

end Rotation.Cast
