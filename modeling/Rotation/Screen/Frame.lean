import Rotation.Screen.Color
import Rotation.Screen.Rect

/-!
# Frames

A frame is the pixel data of one grabbed rectangle: rows of four bytes a
pixel in the order blue, green, red, alpha, where a row may be longer than
its pixels.  A coordinate has a pixel when it lies in the rectangle, in the
declared size and inside the data.
-/

namespace Rotation

/-- Pixel data that covers `origin` on one monitor. -/
structure Frame where
  origin : Rect
  width : Nat
  height : Nat
  bytesPerRow : Nat
  data : Array UInt8
  deriving DecidableEq, Repr, Inhabited

namespace Frame

/-- Byte `i` of a pixel of the given colour. -/
def channelByte (c : Color) (i : Nat) : UInt8 :=
  match i with
  | 0 => c.blue
  | 1 => c.green
  | 2 => c.red
  | _ => 255

/-- A frame of one colour.  The row length and the data size are 32-bit
words. -/
def solid (origin : Rect) (fill : Color) : Checked Frame := do
  let width := origin.w.toNat
  let height := origin.h.toNat
  let bytesPerRow ← Unsigned.mul 32 width 4
  let _ ← Unsigned.mul 32 bytesPerRow height
  return {
    origin, width, height, bytesPerRow
    data := Array.ofFn fun i : Fin (4 * (width * height)) => channelByte fill (i.val % 4) }

/-- Position in the data of the pixel at a coordinate. -/
def index (f : Frame) (x y : Int) : Checked (Option Nat) := do
  if !(← f.origin.contains x y) then
    return none
  let column := (x - f.origin.x).toNat
  let row := (y - f.origin.y).toNat
  if f.width ≤ column || f.height ≤ row then
    return none
  let start ← Unsigned.add 32 (← Unsigned.mul 32 row f.bytesPerRow) (← Unsigned.mul 32 column 4)
  return if f.data.size ≤ start + 3 then none else some start

/-- Colour at a coordinate. -/
def pixel (f : Frame) (x y : Int) : Checked (Option Color) := do
  match ← f.index x y with
  | none => return none
  | some i =>
    return some {
      red := f.data.getD (i + 2) 0
      green := f.data.getD (i + 1) 0
      blue := f.data.getD i 0 }

/-- The data with the three colour bytes at `i` replaced. -/
def write (data : Array UInt8) (i : Nat) (c : Color) : Array UInt8 :=
  ((data.setIfInBounds i c.blue).setIfInBounds (i + 1) c.green).setIfInBounds (i + 2) c.red

/-- Overwrite one pixel; a coordinate without a pixel is ignored. -/
def put (f : Frame) (x y : Int) (c : Color) : Checked Frame := do
  match ← f.index x y with
  | none => return f
  | some i => return { f with data := write f.data i c }

/-- The integers from `lo` to `hi`, both included. -/
def interval (lo hi : Int) : List Int :=
  (List.range (hi + 1 - lo).toNat).map fun k : Nat => lo + (k : Int)

/-- The colours of the pixels among `columns × rows`, row by row. -/
def colorsOn (f : Frame) (columns rows : List Int) : Checked (List Color) := do
  let found ← rows.mapM fun y => columns.filterMapM fun x => f.pixel x y
  return found.flatten

/-- Floor of the mean of a channel; the mean of nothing is a fault. -/
def channelMean (channel : Color → UInt8) (colors : List Color) : Checked UInt8 :=
  if colors.isEmpty then .error .divideByZero
  else .ok (UInt8.ofNat (colors.foldl (fun n c => n + (channel c).toNat) 0 / colors.length))

/-- Mean colour of the square of `2 * radius + 1` pixels a side around a
coordinate, over those of its pixels that exist; nothing when the centre has
no pixel.  The radius is taken as a signed word, and a square without a pixel
has no mean.  Only the part of the square inside the frame is visited. -/
def average (f : Frame) (x y : Int) (radius : Nat) : Checked (Option Color) := do
  if (← f.pixel x y).isNone then
    return none
  let r := Signed.wrap 32 radius
  let top ← Signed.sub 32 y r
  let bottom ← Signed.add 32 y r
  let colors ←
    if bottom < top then
      pure []
    else do
      let left ← Signed.sub 32 x r
      let right ← Signed.add 32 x r
      f.colorsOn
        (interval (max left f.origin.x) (min right (f.origin.x + f.width - 1)))
        (interval (max top f.origin.y) (min bottom (f.origin.y + f.height - 1)))
  return some {
    red := ← channelMean Color.red colors
    green := ← channelMean Color.green colors
    blue := ← channelMean Color.blue colors }

end Frame

end Rotation
