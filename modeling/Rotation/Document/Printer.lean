import Rotation.Decimal.Shortest
import Rotation.Document.Basic

/-!
# Writing documents

The compact form has no blanks.  The pretty form gives each item a line and
indents by two columns; empty records and lists stay on one line.
-/

namespace Rotation.Document

/-- The two lower-case hexadecimal digits of a number below 256. -/
def hexPair (n : Nat) : List Char :=
  [Nat.digitChar (n / 16), Nat.digitChar (n % 16)]

/-- A character inside quotes. -/
def quotedChar (c : Char) : List Char :=
  if c = '"' then ['\\', '"']
  else if c = '\\' then ['\\', '\\']
  else if c = '\x08' then ['\\', 'b']
  else if c = '\x0c' then ['\\', 'f']
  else if c = '\n' then ['\\', 'n']
  else if c = '\r' then ['\\', 'r']
  else if c = '\t' then ['\\', 't']
  else if c.toNat < 0x20 then ['\\', 'u', '0', '0'] ++ hexPair c.toNat
  else [c]

/-- A text in quotes. -/
def quoted (s : String) : String :=
  "\"" ++ String.ofList (s.toList.flatMap quotedChar) ++ "\""

/-- A double; one that is not finite is written as null. -/
def realText (x : Float) : String :=
  (Decimal.render x).getD "null"

mutual

/-- The compact form. -/
def compact : Document → String
  | .null => "null"
  | .bool value => if value then "true" else "false"
  | .integer value => toString value
  | .real value => realText value
  | .text value => quoted value
  | .list items => "[" ++ ",".intercalate (compactItems items) ++ "]"
  | .record fields => "\x7b" ++ ",".intercalate (compactFields fields) ++ "\x7d"

/-- The compact forms of the items of a list. -/
def compactItems : List Document → List String
  | [] => []
  | item :: rest => compact item :: compactItems rest

/-- The compact forms of the fields of a record. -/
def compactFields : List (String × Document) → List String
  | [] => []
  | (key, value) :: rest => (quoted key ++ ":" ++ compact value) :: compactFields rest

end

/-- The end of a line and the indentation of the next one. -/
def newline (depth : Nat) : String :=
  "\n" ++ String.ofList (List.replicate (2 * depth) ' ')

/-- Lines between two brackets. -/
def block (opening closing : String) (lines : List String) (depth : Nat) : String :=
  if lines.isEmpty then opening ++ closing
  else
    opening ++ newline (depth + 1) ++ ("," ++ newline (depth + 1)).intercalate lines ++
      newline depth ++ closing

mutual

/-- The pretty form at an indentation depth. -/
def prettyAt (depth : Nat) : Document → String
  | .list items => block "[" "]" (prettyItems (depth + 1) items) depth
  | .record fields => block "\x7b" "\x7d" (prettyFields (depth + 1) fields) depth
  | .null => "null"
  | .bool value => if value then "true" else "false"
  | .integer value => toString value
  | .real value => realText value
  | .text value => quoted value

/-- The pretty forms of the items of a list. -/
def prettyItems (depth : Nat) : List Document → List String
  | [] => []
  | item :: rest => prettyAt depth item :: prettyItems depth rest

/-- The pretty forms of the fields of a record. -/
def prettyFields (depth : Nat) : List (String × Document) → List String
  | [] => []
  | (key, value) :: rest =>
    (quoted key ++ ": " ++ prettyAt depth value) :: prettyFields depth rest

end

/-- The pretty form. -/
def pretty (d : Document) : String :=
  prettyAt 0 d

/-- The sixteen hexadecimal digits of the bits of a double. -/
def realBits (x : Float) : Document :=
  let digits := Nat.toDigits 16 x.toBits.toNat
  .text (String.ofList (List.replicate (16 - digits.length) '0' ++ digits))

end Rotation.Document
