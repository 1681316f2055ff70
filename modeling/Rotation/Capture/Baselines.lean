import Rotation.Order.Keyed
import Rotation.Screen.Color
import Rotation.Screen.Observation

/-!
# Baselines

The colours that points showed just before a key press.
-/

namespace Rotation

/-- Recorded colours under the identifiers of their points. -/
abbrev Baselines :=
  Order.Table Color

namespace Baselines

/-- The baseline of a point. -/
def lookup (b : Baselines) (point : String) : Observed Color :=
  match Order.Table.find? point b with
  | some color => .ok color
  | none => .error (.because "baseline_missing" point)

end Baselines

end Rotation
