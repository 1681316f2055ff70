import Rotation.Word.Checked

/-!
# Screen rectangles

Rectangles are half open: `(x, y)` is the upper left corner that belongs to
the rectangle, `right` and `bottom` are the first coordinates outside it.  A
rectangle whose width or height is not positive is empty.  Coordinates are
32-bit words, so each corner that has to be computed may fault.
-/

namespace Rotation

/-- A rectangle in the coordinates of one monitor. -/
structure Rect where
  x : Int
  y : Int
  w : Int
  h : Int
  deriving DecidableEq, Repr, Inhabited

namespace Rect

/-- First column to the right of the rectangle. -/
def right (r : Rect) : Checked Int :=
  Signed.add 32 r.x r.w

/-- First row below the rectangle. -/
def bottom (r : Rect) : Checked Int :=
  Signed.add 32 r.y r.h

/-- Whether the rectangle has no points. -/
def isEmpty (r : Rect) : Bool :=
  r.w ≤ 0 || r.h ≤ 0

/-- Number of points of the rectangle. -/
def area (r : Rect) : Int :=
  if r.isEmpty then 0 else r.w * r.h

/-- Whether the point belongs to the rectangle.  A corner is computed only
once the point is known not to lie before it. -/
def contains (r : Rect) (x y : Int) : Checked Bool := do
  if x < r.x then
    return false
  if (← r.right) ≤ x then
    return false
  if y < r.y then
    return false
  return y < (← r.bottom)

/-- Smallest rectangle that covers both; an empty one contributes nothing. -/
def union (a b : Rect) : Checked Rect := do
  if a.isEmpty then
    return b
  if b.isEmpty then
    return a
  let x := min a.x b.x
  let y := min a.y b.y
  let right := max (← a.right) (← b.right)
  let bottom := max (← a.bottom) (← b.bottom)
  return ⟨x, y, ← Signed.sub 32 right x, ← Signed.sub 32 bottom y⟩

/-- The common part of both, if it has a point. -/
def intersect (a b : Rect) : Checked (Option Rect) := do
  let x := max a.x b.x
  let y := max a.y b.y
  let right := min (← a.right) (← b.right)
  let bottom := min (← a.bottom) (← b.bottom)
  if right ≤ x || bottom ≤ y then
    return none
  return some ⟨x, y, ← Signed.sub 32 right x, ← Signed.sub 32 bottom y⟩

end Rect

/-- Number under which a monitor is known; `0` is the primary one. -/
abbrev MonitorId := UInt32

/-- One physical display. -/
structure Screen where
  id : MonitorId
  rect : Rect
  deriving DecidableEq, Repr, Inhabited

end Rotation
