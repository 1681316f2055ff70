/-!
# Documents

The value of a structured document.  A number is an integer when it is
written as one and fits a 64-bit word, signed or unsigned, and a real
otherwise; the two are never equal.  The fields of a record stand in the order
in which they are written; reading a text puts them in ascending order of
their names, each once.
-/

namespace Rotation

/-- A structured value. -/
inductive Document where
  | null
  | bool (value : Bool)
  | integer (value : Int)
  | real (value : Float)
  | text (value : String)
  | list (items : List Document)
  | record (fields : List (String × Document))
  deriving BEq, Repr, Inhabited

namespace Document

/-- The kind of a value in words. -/
def kind : Document → String
  | .null => "null"
  | .bool _ => "boolean"
  | .integer _ | .real _ => "number"
  | .text _ => "string"
  | .list _ => "array"
  | .record _ => "object"

/-- The value of a field. -/
def field? (fields : List (String × Document)) (name : String) : Option Document :=
  (fields.find? fun entry => entry.1 == name).map Prod.snd

/-- A list of texts. -/
def texts (items : List String) : Document :=
  .list (items.map .text)

/-- A natural number. -/
def nat (n : Nat) : Document :=
  .integer n

/-- A value that may be missing. -/
def option {α : Type} (f : α → Document) : Option α → Document
  | none => .null
  | some a => f a

end Document

end Rotation
