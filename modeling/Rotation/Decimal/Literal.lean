/-!
# Decimal literals

A literal has a whole part without a leading zero, then perhaps a fraction
and an exponent.  Its value is an integer when it has neither and fits a
64-bit word, and a double otherwise.

A double is computed from a 64-bit significand: digits enter it as long as
the next one still fits, and each further digit only counts as a power of
ten.  Then the significand is multiplied or divided by that power.
-/

namespace Rotation.Decimal

/-- The parts of a literal; digits are values from 0 to 9. -/
structure Literal where
  negative : Bool
  whole : List Nat
  fraction : List Nat
  exponent : Option (Bool × List Nat)
  hasFraction : Bool
  deriving Repr

/-- The leading digits and what follows them. -/
def spanDigits (cs : List Char) : List Nat × List Char :=
  ((cs.takeWhile Char.isDigit).map fun c => c.toNat - '0'.toNat, cs.dropWhile Char.isDigit)

/-- The sign of an exponent and what follows it. -/
def exponentSign : List Char → Bool × List Char
  | '-' :: rest => (true, rest)
  | '+' :: rest => (false, rest)
  | rest => (false, rest)

/-- The exponent part, which has to be the end of the literal. -/
def exponentPart : List Char → Option (Option (Bool × List Nat))
  | [] => some none
  | c :: rest =>
    if c = 'e' ∨ c = 'E' then
      let (negative, rest) := exponentSign rest
      let (digits, rest) := spanDigits rest
      if digits.isEmpty || !rest.isEmpty then none else some (some (negative, digits))
    else none

namespace Literal

/-- Read a whole literal. -/
def ofChars? (cs : List Char) : Option Literal := do
  let (negative, cs) := match cs with
    | '-' :: rest => (true, rest)
    | _ => (false, cs)
  let (whole, cs) := spanDigits cs
  if whole.isEmpty || (whole.length > 1 && whole.head? == some 0) then
    none
  let (fraction, hasFraction, cs) := match cs with
    | '.' :: rest => ((spanDigits rest).1, true, (spanDigits rest).2)
    | _ => ([], false, cs)
  if hasFraction && fraction.isEmpty then
    none
  let exponent ← exponentPart cs
  return { negative, whole, fraction, exponent, hasFraction }

end Literal

/-! ## The value of a literal -/

/-- The value of a literal; a double can be too large to have one. -/
inductive Number where
  | integer (value : Int)
  | real (value : Float)
  | outOfRange

/-- The number that digits spell. -/
def ofDigits (digits : List Nat) : Nat :=
  digits.foldl (fun n d => 10 * n + d) 0

/-- Largest value of a significand. -/
def significandMax : Nat :=
  UInt64.size - 1

/-- Take digits into a significand while they fit; the second component
counts those that did not. -/
def absorb (significand : Nat) : List Nat → Nat × Nat
  | [] => (significand, 0)
  | d :: rest =>
    if 10 * significand + d ≤ significandMax then absorb (10 * significand + d) rest
    else (significand, rest.length + 1)

/-- Significand and power of ten of the digits before the exponent part. -/
def Literal.scaled (l : Literal) : Nat × Int :=
  let (significand, dropped) := absorb 0 l.whole
  let (significand, unused) := absorb significand l.fraction
  (significand, (dropped : Int) - (l.fraction.length - unused : Nat))

/-- The given power of ten, correctly rounded. -/
def powerOfTen (n : Nat) : Float :=
  Float.ofScientific 1 false n

/-- Divide by ten to the power `308 * steps + rest`, a power of at most 308 at a
time, until the value vanishes. -/
def scaleDown (x : Float) (rest : Nat) : Nat → Float
  | 0 => x / powerOfTen rest
  | steps + 1 => if x == 0 then x else scaleDown (x / powerOfTen 308) rest steps

/-- A significand times a power of ten; nothing if that is too large for a
double. -/
def scale (significand : Nat) (power : Int) : Option Float :=
  let x := (UInt64.ofNat significand).toFloat
  if 0 ≤ power then
    if power ≤ 308 then
      let y := x * powerOfTen power.toNat
      if y.isInf then none else some y
    else if x == 0 then some x
    else none
  else
    let n := (-power).toNat
    if n ≤ 308 then some (x / powerOfTen n)
    else
      let steps := (n - 308 + 307) / 308
      some (scaleDown x (n - 308 * steps) steps)

/-- Largest exponent that is computed with; a greater one decides at once. -/
def exponentMax : Int :=
  Int32.maxValue.toInt

/-- The sum cut off at the ends of the exponent range. -/
def clampExponent (n : Int) : Int :=
  max Int32.minValue.toInt (min n exponentMax)

/-- The double that a literal denotes. -/
def Literal.toFloat? (l : Literal) : Option Float :=
  let (significand, power) := l.scaled
  let magnitude :=
    match l.exponent with
    | none => scale significand power
    | some (down, digits) =>
      let n := ofDigits digits
      if exponentMax < n then
        if significand ≠ 0 ∧ !down then none else some 0
      else scale significand (clampExponent (if down then power - n else power + n))
  magnitude.map fun x => if l.negative then -x else x

/-- The value of a literal.  Minus zero is a double. -/
def Literal.value (l : Literal) : Number :=
  let n := ofDigits l.whole
  let isWhole := !l.hasFraction && l.exponent.isNone
  if isWhole && !l.negative && n ≤ significandMax then .integer n
  else if isWhole && l.negative && 0 < n && Int64.minValue.toInt ≤ -(n : Int) then .integer (-(n : Int))
  else
    match l.toFloat? with
    | some x => .real x
    | none => .outOfRange

end Rotation.Decimal
