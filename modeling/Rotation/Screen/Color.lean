/-!
# Colours

An 8-bit colour in three channels.  Two colours are compared by the largest
difference over the channels.
-/

namespace Rotation

/-- A colour; each channel is below 256. -/
structure Color where
  red : UInt8
  green : UInt8
  blue : UInt8
  deriving DecidableEq, Repr, Inhabited

namespace Color

/-- Distance of two channel values. -/
def channelDelta (a b : UInt8) : UInt8 :=
  if a ≤ b then b - a else a - b

/-- Largest distance over the three channels. -/
def maxDelta (a b : Color) : UInt8 :=
  max (max (channelDelta a.red b.red) (channelDelta a.green b.green))
    (channelDelta a.blue b.blue)

/-- Whether no channel differs by more than `tolerance`. -/
def within (a b : Color) (tolerance : UInt8) : Bool :=
  a.maxDelta b ≤ tolerance

/-- The two lower-case hexadecimal digits of a channel. -/
def channelHex (c : UInt8) : String :=
  String.ofList [Nat.digitChar (c.toNat / 16), Nat.digitChar (c.toNat % 16)]

/-- The colour as `#rrggbb`. -/
def hex (c : Color) : String :=
  "#" ++ channelHex c.red ++ channelHex c.green ++ channelHex c.blue

end Color

end Rotation
