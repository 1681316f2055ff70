/-!
# The pause after a press

A press is followed by a pause, so that the keyboard settles.  A part of the
pause is random: it may be longer or shorter by a share of its length, but
never shorter than a millisecond.
-/

namespace Rotation.Settle

/-- Whether a pause has no random part. -/
def isFixed (ms : UInt64) (share : Float) : Bool :=
  ms == 0 || share ≤ 0

/-- How far a pause may be from its length: not further than the whole of
it. -/
def reach (ms : UInt64) (share : Float) : Float :=
  ms.toFloat * min share 1

/-- The pause for a draw between -1 and 1, in milliseconds. -/
def pause (ms : UInt64) (share draw : Float) : Float :=
  if isFixed ms share then ms.toFloat
  else max (ms.toFloat + reach ms share * draw) 1

/-- Whether a pause is in reach. -/
def inReach (ms : UInt64) (share length : Float) : Bool :=
  max (ms.toFloat - reach ms share) 1 ≤ length && length ≤ max (ms.toFloat + reach ms share) 1

end Rotation.Settle
