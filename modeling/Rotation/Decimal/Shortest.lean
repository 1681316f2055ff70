/-!
# Shortest decimals

The shortest decimal that reads back as a given double, and of several the
one nearest to it.  A positive double is `m * 2 ^ q`; the reals that round to
it form an interval around it, ends included when `m` is even.  For one, two,
… seventeen digits the two neighbours of the double on that decimal grid are
tested against the interval, in exact arithmetic.
-/

namespace Rotation.Decimal

/-- A decimal `digits * 10 ^ exponent`. -/
structure Scientific where
  digits : Nat
  exponent : Int
  deriving DecidableEq, Repr, Inhabited

/-- The value of a positive double and the interval that rounds to it, as
numerators over one denominator. -/
structure Rounding where
  low : Nat
  value : Nat
  high : Nat
  denominator : Nat
  endsIncluded : Bool

namespace Rounding

/-- The interval of the double `m * 2 ^ q`; `narrow` says that the next
smaller double lies at half the distance. -/
def ofBinary (m : Nat) (q : Int) (narrow : Bool) : Rounding :=
  let up := Nat.pow 2 q.toNat
  { low := (if narrow then 4 * m - 1 else 4 * m - 2) * up
    value := 4 * m * up
    high := (4 * m + 2) * up
    denominator := 4 * Nat.pow 2 (-q).toNat
    endsIncluded := m % 2 == 0 }

/-- Whether the decimal `digits * 10 ^ exponent` rounds to the double. -/
def admits (r : Rounding) (digits : Nat) (exponent : Int) : Bool :=
  let d := digits * Nat.pow 10 exponent.toNat * r.denominator
  let s := Nat.pow 10 (-exponent).toNat
  if r.endsIncluded then r.low * s ≤ d && d ≤ r.high * s
  else r.low * s < d && d < r.high * s

/-- Floor of the value on the grid of multiples of `10 ^ exponent`. -/
def floorOn (r : Rounding) (exponent : Int) : Nat :=
  r.value * Nat.pow 10 (-exponent).toNat / (r.denominator * Nat.pow 10 exponent.toNat)

/-- Twice the distance from the floor, compared with one unit of the grid. -/
def compareHalf (r : Rounding) (exponent : Int) : Ordering :=
  let unit := r.denominator * Nat.pow 10 exponent.toNat
  compare (2 * (r.value * Nat.pow 10 (-exponent).toNat % unit)) unit

/-- The admitted neighbour of the value on one grid, the nearer one if both
are, and of two equally near ones the even one. -/
def onGrid (r : Rounding) (exponent : Int) : Option Scientific :=
  let below := r.floorOn exponent
  let lower := r.admits below exponent && 0 < below
  let upper := r.admits (below + 1) exponent
  let preferUpper :=
    match r.compareHalf exponent with
    | .lt => false
    | .gt => true
    | .eq => below % 2 == 1
  if lower && upper then some ⟨if preferUpper then below + 1 else below, exponent⟩
  else if lower then some ⟨below, exponent⟩
  else if upper then some ⟨below + 1, exponent⟩
  else none

/-- The number of digits of a number. -/
def digitCount (n : Nat) : Nat :=
  (toString n).length

/-- The exponent of the grid on which the value has one digit. -/
def leadingExponent (r : Rounding) : Int :=
  let whole := r.value / r.denominator
  if 0 < whole then (digitCount whole : Int) - 1
  else -(digitCount ((r.denominator - 1) / r.value) : Int)

/-- The first hit on finer and finer grids. -/
def search (r : Rounding) (exponent : Int) : Nat → Option Scientific
  | 0 => none
  | fuel + 1 => (r.onGrid exponent).or (search r (exponent - 1) fuel)

end Rounding

/-- The same decimal without trailing zeros among its digits. -/
def Scientific.stripZeros (s : Scientific) : Nat → Scientific
  | 0 => s
  | fuel + 1 =>
    if s.digits ≠ 0 ∧ s.digits % 10 = 0 then stripZeros ⟨s.digits / 10, s.exponent + 1⟩ fuel else s

/-- The highest bit of a double, set when it is negative. -/
def signBit : Nat :=
  Nat.pow 2 63

/-- How many doubles share an exponent and a sign. -/
def fractionCount : Nat :=
  Nat.pow 2 52

/-- The shortest decimal of the magnitude of a finite double. -/
def shortest (x : Float) : Scientific :=
  let bits : Nat := x.toBits.toNat % signBit
  let field : Nat := bits / fractionCount
  let fraction : Nat := bits % fractionCount
  if bits = 0 then ⟨0, 0⟩
  else
    let r :=
      if field = 0 then Rounding.ofBinary fraction (-1074) false
      else Rounding.ofBinary (fractionCount + fraction) ((field : Int) - 1075) (fraction = 0 ∧ 1 < field)
    ((r.search (r.leadingExponent + 1) 19).getD ⟨0, 0⟩).stripZeros 20

/-! ## How doubles are written -/

/-- The digits and zeros of a positive number: positional between `10 ^ -5` and
`10 ^ 16`, in scientific form with a signed exponent outside. -/
def layout (digits : String) (exponent : Int) : String :=
  let n : Int := digits.length
  let point := n + exponent
  if 0 ≤ exponent ∧ point ≤ 16 then
    digits ++ String.ofList (List.replicate exponent.toNat '0') ++ ".0"
  else if 0 < point ∧ point ≤ 16 then
    (digits.take point.toNat).toString ++ "." ++ (digits.drop point.toNat).toString
  else if -5 < point ∧ point ≤ 0 then
    "0." ++ String.ofList (List.replicate (-point).toNat '0') ++ digits
  else
    let tail := (digits.drop 1).toString
    (digits.take 1).toString ++ (if tail.isEmpty then "" else "." ++ tail) ++ "e" ++
      (if 0 < point then "+" else "") ++ toString (point - 1)

/-- A double as its shortest decimal; one that is not finite has no text. -/
def render (x : Float) : Option String :=
  if x.isNaN || x.isInf then none
  else
    let mark := if signBit ≤ x.toBits.toNat then "-" else ""
    let s := shortest x
    if s.digits = 0 then some (mark ++ "0.0")
    else some (mark ++ layout (toString s.digits) s.exponent)

end Rotation.Decimal
