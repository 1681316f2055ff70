import Rotation.Text.Character
import Rotation.Text.UnseenTable

/-!
# Quoted text

A text between quotation marks, in which everything that cannot be seen by
itself stands as an escape.
-/

namespace Rotation.Text

/-- Whether a character cannot be seen by itself. -/
def isUnseen (c : Char) : Bool :=
  inIntervals unseenIntervals c.toNat

/-- The escape of a character that cannot be seen. -/
def unseenEscape (c : Char) : String :=
  "\\u\x7b" ++ String.ofList (Nat.toDigits 16 c.toNat) ++ "\x7d"

/-- A character inside quotation marks. -/
def quotedChar (c : Char) : String :=
  match c with
  | '"' => "\\\""
  | '\\' => "\\\\"
  | '\n' => "\\n"
  | '\r' => "\\r"
  | '\t' => "\\t"
  | '\x00' => "\\0"
  | c => if isUnseen c then unseenEscape c else c.toString

/-- The text between quotation marks. -/
def quoted (s : String) : String :=
  "\"" ++ String.join (s.toList.map quotedChar) ++ "\""

end Rotation.Text
