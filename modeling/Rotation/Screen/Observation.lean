/-!
# Observations

Looking at something may fail for a reason that the looker can name.  A
failure carries a code for programs and a detail for people.
-/

namespace Rotation

/-- Why something could not be observed; `retryAfter` is the time before which
a further look is in vain. -/
structure Unavailable where
  code : String
  detail : String
  retryAfter : Option Nat
  deriving DecidableEq, Repr

namespace Unavailable

/-- A failure without a waiting time. -/
def because (code detail : String) : Unavailable :=
  ⟨code, detail, none⟩

/-- The failure on one line. -/
def text (u : Unavailable) : String :=
  if u.detail.isEmpty then u.code else u.code ++ ": " ++ u.detail

end Unavailable

/-- What was observed, or why nothing was. -/
abbrev Observed (α : Type) := Except Unavailable α

end Rotation
