import Rotation.Document.Source

/-!
# Reading records

A record type is read from a record or from a list of its fields in declared
order.  Unknown fields are passed over without a look at their values, a
declared field must not repeat, and a list must not be longer than the
declaration.  A name out of a fixed choice is read from a text, or from a
record with that name as its only field and null as the value; inside a tagged
value an empty record does for null.
-/

namespace Rotation.Source

/-- The declared fields that a value holds. -/
def fields? (names : List String) : Source → Option (List (String × Source))
  | .record entries =>
    let known := entries.filter fun entry => names.contains entry.1
    if (known.map Prod.fst).Nodup then some known else none
  | .list items => if items.length ≤ names.length then some (names.zip items) else none
  | _ => none

/-- The value of a field. -/
def get? (fields : List (String × Source)) (name : String) : Option Source :=
  (fields.find? fun entry => entry.1 == name).map Prod.snd

variable {α : Type}

/-- A field that has to be there. -/
def required (fields : List (String × Source)) (name : String) (read : Source → Option α) :
    Option α :=
  (get? fields name).bind read

/-- A field with a default for its absence. -/
def withDefault (fields : List (String × Source)) (name : String) (default : α)
    (read : Source → Option α) : Option α :=
  match get? fields name with
  | none => some default
  | some value => read value

/-- A value or null. -/
def nullable (read : Source → Option α) : Source → Option (Option α)
  | .null => some none
  | value => (read value).map some

/-- A field that may be absent or null. -/
def optional (fields : List (String × Source)) (name : String) (read : Source → Option α) :
    Option (Option α) :=
  withDefault fields name none (nullable read)

/-- A truth value. -/
def bool? : Source → Option Bool
  | .bool value => some value
  | _ => none

/-- A text. -/
def text? : Source → Option String
  | .text value => some value
  | _ => none

/-- An integer from a range, both ends included. -/
def integerIn? (low high : Int) : Source → Option Int
  | .integer value => if low ≤ value ∧ value ≤ high then some value else none
  | _ => none

/-- An unsigned word of 8 bits. -/
def word8? (s : Source) : Option UInt8 :=
  (integerIn? 0 (UInt8.size - 1) s).map fun n => UInt8.ofNat n.toNat

/-- An unsigned word of 32 bits. -/
def word32? (s : Source) : Option UInt32 :=
  (integerIn? 0 (UInt32.size - 1) s).map fun n => UInt32.ofNat n.toNat

/-- An unsigned word of 64 bits. -/
def word64? (s : Source) : Option UInt64 :=
  (integerIn? 0 (UInt64.size - 1) s).map fun n => UInt64.ofNat n.toNat

/-- A signed word of 32 bits. -/
def signed32? (s : Source) : Option Int32 :=
  (integerIn? Int32.minValue.toInt Int32.maxValue.toInt s).map Int32.ofInt

/-- A double; an integer is rounded to one. -/
def real? : Source → Option Float
  | .real value => some value
  | .integer value => some (if 0 ≤ value then value.toNat.toFloat else -(-value).toNat.toFloat)
  | _ => none

/-- A list of values. -/
def list? (read : Source → Option α) : Source → Option (List α)
  | .list items => items.mapM read
  | _ => none

/-- A name out of a fixed choice, perhaps inside a tagged value. -/
def choice? (tagged : Bool) (ofName? : String → Option α) : Source → Option α
  | .text name | .record [(name, .null)] => ofName? name
  | .record [(name, .record [])] => if tagged then ofName? name else none
  | _ => none

end Rotation.Source
