import Rotation.Text.Character
import Rotation.Text.Line
import Rotation.Text.LowerCase

/-!
# Key chords

A chord is a main key with a set of modifiers.  Its text names the modifiers
and the key with a plus sign between them; the plus sign is also a key, which
is meant by a lone plus and by two at the end.  Letter case, blanks around the
text, the order of modifiers and the choice among their names do not matter,
and empty names between plus signs are passed over.
-/

namespace Rotation

/-- A key that modifies others while it is held. -/
inductive Modifier where
  | ctrl
  | alt
  | shift
  | cmd
  deriving DecidableEq, Repr

namespace Modifier

/-- All modifiers in the order in which a chord lists them. -/
def all : List Modifier :=
  [.ctrl, .alt, .shift, .cmd]

/-- The name under which a modifier is written. -/
def name : Modifier → String
  | .ctrl => "ctrl"
  | .alt => "alt"
  | .shift => "shift"
  | .cmd => "cmd"

/-- The names under which a modifier is read. -/
def names : Modifier → List String
  | .ctrl => ["ctrl", "control"]
  | .alt => ["alt", "option"]
  | .shift => ["shift"]
  | .cmd => ["cmd", "command", "super", "win"]

/-- The modifier with a name. -/
def ofName? (s : String) : Option Modifier :=
  all.find? fun m => m.names.contains s

end Modifier

/-- A main key and modifiers, each at most once and in listed order. -/
structure Chord where
  modifiers : List Modifier
  key : String
  deriving DecidableEq, Repr

/-- Why a text names no chord. -/
inductive ChordError where
  | empty
  | unknownModifier (name : String)
  | unknownKey (name : String)
  | duplicateModifier (name : String)
  deriving DecidableEq, Repr

/-- The error on one line. -/
def ChordError.message : ChordError → String
  | .empty => "empty key"
  | .unknownModifier name => "unknown modifier `" ++ name ++ "`"
  | .unknownKey name => "unknown key `" ++ name ++ "`"
  | .duplicateModifier name => "modifier `" ++ name ++ "` given twice"

namespace Chord

/-- Keys named by a word. -/
def keyWords : List String :=
  ["space", "enter", "return", "tab", "escape", "esc", "backspace", "delete", "up", "down",
    "left", "right", "home", "end", "pageup", "pagedown", "insert"]

/-- Keys named by a letter or word and a number. -/
def numberedKeys : List String :=
  ((List.range 24).map fun i => "f" ++ toString (i + 1)) ++
    (List.range 10).map fun i => "num" ++ toString i

/-- The marks that are keys by themselves, the plus sign apart. -/
def markKeys : List Char :=
  ['`', '-', '=', '[', ']', ';', '\'', ',', '.', '/', '\\']

/-- Whether a lower-case text other than the plus sign names a key. -/
def isKey (cs : List Char) : Bool :=
  match cs with
  | [c] => c.isLower || c.isDigit || markKeys.contains c
  | _ => (keyWords ++ numberedKeys).contains (String.ofList cs)

/-- The modifier part and the key part of a text that is given in reverse. -/
def splitReversed : List Char → List Char × List Char
  | '+' :: '+' :: rest => (rest.reverse, ['+'])
  | ['+'] => ([], ['+'])
  | cs => (((cs.dropWhile (· != '+')).drop 1).reverse, (cs.takeWhile (· != '+')).reverse)

/-- Add the modifier of a name to those read so far. -/
def addModifier (seen : List Modifier) (name : String) : Except ChordError (List Modifier) :=
  match Modifier.ofName? name with
  | none => .error (.unknownModifier name)
  | some m => if m ∈ seen then .error (.duplicateModifier name) else .ok (seen ++ [m])

/-- The modifiers of a list in listed order. -/
def sortModifiers (given : List Modifier) : List Modifier :=
  Modifier.all.filter fun m => given.contains m

/-- Read a chord from a text in lower case without blanks around it. -/
def ofNormalized (cs : List Char) : Except ChordError Chord := do
  if cs.isEmpty then
    .error .empty
  let (head, key) := splitReversed cs.reverse
  if key.isEmpty then
    .error .empty
  if key ≠ ['+'] && !isKey key then
    .error (.unknownKey (String.ofList key))
  let names := ((Text.pieces '+' head).filter fun piece => !piece.isEmpty).map String.ofList
  let modifiers ← names.foldlM addModifier []
  return { modifiers := sortModifiers modifiers, key := String.ofList key }

/-- Read a chord. -/
def parse (s : String) : Except ChordError Chord :=
  ofNormalized (Text.lowerChars (Text.trimChars s.toList))

/-- The normal form of a chord's text. -/
def text (c : Chord) : String :=
  String.join (c.modifiers.map fun m => m.name ++ "+") ++ c.key

/-- Whether a modifier belongs to the chord. -/
def has (c : Chord) (m : Modifier) : Bool :=
  c.modifiers.contains m

end Chord

end Rotation
