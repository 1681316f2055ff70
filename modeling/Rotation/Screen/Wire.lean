import Rotation.Document.Record
import Rotation.Screen.Color
import Rotation.Screen.Rect

/-!
# Colours and rectangles in documents

A colour is the list of its channels and a rectangle the list of its four
numbers.
-/

namespace Rotation

/-- Read a colour. -/
def Source.color? : Source → Option Color
  | .list [red, green, blue] =>
    return { red := ← word8? red, green := ← word8? green, blue := ← word8? blue }
  | _ => none

/-- Read a coordinate. -/
def Source.coordinate? : Source → Option Int :=
  integerIn? Int32.minValue.toInt Int32.maxValue.toInt

/-- Read a rectangle. -/
def Source.rect? : Source → Option Rect
  | .list [x, y, w, h] =>
    return ⟨← coordinate? x, ← coordinate? y, ← coordinate? w, ← coordinate? h⟩
  | _ => none

/-- The written form of a colour. -/
def Color.toDocument (c : Color) : Document :=
  .list [.nat c.red.toNat, .nat c.green.toNat, .nat c.blue.toNat]

/-- The written form of a rectangle. -/
def Rect.toDocument (r : Rect) : Document :=
  .list [.integer r.x, .integer r.y, .integer r.w, .integer r.h]

end Rotation
