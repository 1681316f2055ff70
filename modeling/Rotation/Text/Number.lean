/-!
# Numbers in texts

A number is written with decimal digits, perhaps after a plus, and has to stay
below a bound.  A text is read from its beginning, so the first fault counts.
-/

namespace Rotation.Text

/-- Why a text is no number. -/
inductive NumberError where
  | empty
  | notDigit
  | tooLarge
  deriving DecidableEq, Repr

/-- The error in words. -/
def NumberError.message : NumberError → String
  | .empty => "cannot parse integer from empty string"
  | .notDigit => "invalid digit found in string"
  | .tooLarge => "number too large to fit in target type"

/-- The number with further digits. -/
def numberFrom (bound value : Nat) : List Char → Except NumberError Nat
  | [] => .ok value
  | c :: rest =>
    let next := 10 * value + (c.toNat - '0'.toNat)
    if !c.isDigit then .error .notDigit
    else if bound ≤ next then .error .tooLarge
    else numberFrom bound next rest

/-- The number that a text writes. -/
def number (bound : Nat) : List Char → Except NumberError Nat
  | [] => .error .empty
  | ['+'] => .error .notDigit
  | '+' :: digits => numberFrom bound 0 digits
  | digits => numberFrom bound 0 digits

/-- The number that a text writes, if it is one. -/
def number? (bound : Nat) (cs : List Char) : Option Nat :=
  (number bound cs).toOption

theorem lt_of_numberFrom {bound value n : Nat} {cs : List Char} (below : value < bound)
    (h : numberFrom bound value cs = .ok n) : n < bound := by
  induction cs generalizing value with
  | nil => simp_all [numberFrom]
  | cons c rest ih =>
    unfold numberFrom at h
    simp only at h
    split at h
    · simp at h
    · split at h
      · simp at h
      · exact ih (by omega) h

/-- What has been read stays below the bound. -/
theorem lt_of_number {bound n : Nat} {cs : List Char} (positive : 0 < bound)
    (h : number bound cs = .ok n) : n < bound := by
  unfold number at h
  split at h
  · simp at h
  · simp at h
  · exact lt_of_numberFrom positive h
  · exact lt_of_numberFrom positive h

end Rotation.Text
