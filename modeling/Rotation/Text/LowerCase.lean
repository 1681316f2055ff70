import Rotation.Text.CaseTable
import Rotation.Text.Character

/-!
# Lower case

A text in lower case, by the full case mapping: a dotted capital I becomes two
characters, and a capital sigma becomes the final form at the end of a word,
that is, after a cased character and not before one.
-/

namespace Rotation.Text

/-- Whether a character is passed over when case is determined. -/
def isCaseIgnorable (c : Char) : Bool :=
  inIntervals ignorableIntervals c.toNat

/-- Whether the first character that counts is cased. -/
def facesCased (cs : List Char) : Bool :=
  match cs.dropWhile isCaseIgnorable with
  | [] => false
  | c :: _ => inIntervals casedIntervals c.toNat

/-- The lower-case form of a character that has one of a single character. -/
def lowerChar (c : Char) : Char :=
  let n := c.toNat
  match caseRuns.find? fun run =>
    run.first ≤ n && n ≤ run.last && (n - run.first) % run.stride == 0 with
  | some run => Char.ofNat ((n : Int) + run.offset).toNat
  | none => c

/-- The lower-case form of a character between what stands before it, in
reverse, and what follows it. -/
def lowerAt (before : List Char) (c : Char) (after : List Char) : List Char :=
  if c = 'Σ' then [if facesCased before && !facesCased after then 'ς' else 'σ']
  else if c = 'İ' then ['i', '\u0307']
  else [lowerChar c]

/-- The lower-case form of a text; `before` is what stands before it, in
reverse. -/
def lowerFrom (before : List Char) : List Char → List Char
  | [] => []
  | c :: rest => lowerAt before c rest ++ lowerFrom (c :: before) rest

/-- The lower-case form of a list of characters. -/
def lowerChars (cs : List Char) : List Char :=
  lowerFrom [] cs

/-- The lower-case form of a text. -/
def lowerCase (s : String) : String :=
  String.ofList (lowerChars s.toList)

end Rotation.Text
