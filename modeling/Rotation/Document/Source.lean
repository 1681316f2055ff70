import Rotation.Decimal.Literal
import Rotation.Document.Basic
import Rotation.Document.Token
import Rotation.Order.Keyed

/-!
# Documents as written

A source is a document as it stands in a text: fields keep their order and
may repeat, and a part can be well formed and still have no value.  Such an
unreadable part is a number too large for a double, a text with half of a
surrogate pair, a record with such a field name, or a value nested too deeply.
It does no harm where nothing looks at it.

Tokens are assembled by a machine with a stack of open records and lists.
-/

namespace Rotation

/-- A document as written. -/
inductive Source where
  | null
  | bool (value : Bool)
  | integer (value : Int)
  | real (value : Float)
  | text (value : String)
  | list (items : List Source)
  | record (fields : List (String × Source))
  | unreadable
  deriving Inhabited

namespace Source

/-! ## Assembling tokens -/

/-- Depth from which on nothing is readable. -/
def depthLimit : Nat :=
  128

/-- A record or list whose end has not been reached; contents are in
reverse. -/
inductive Enclosure where
  | items (done : List Source)
  | fields (done : List (Option String × Source)) (key : Option String)

/-- What may come next. -/
inductive Expected where
  | value
  | itemOrEnd
  | key
  | keyOrEnd
  | colon
  | separator

/-- The state of the assembly; `result` is the value that was completed last
outside all enclosures. -/
structure Assembly where
  stack : List Enclosure
  expected : Expected
  result : Option Source

namespace Assembly

/-- Nothing read yet. -/
def start : Assembly :=
  ⟨[], .value, none⟩

/-- Put a complete value where it belongs. -/
def place (value : Source) : List Enclosure → Assembly
  | [] => ⟨[], .separator, some value⟩
  | .items done :: rest => ⟨.items (value :: done) :: rest, .separator, none⟩
  | .fields done key :: rest => ⟨.fields ((key, value) :: done) key :: rest, .separator, none⟩

/-- The record with the given fields, if all their names are readable. -/
def recordOf (fields : List (Option String × Source)) : Source :=
  match fields.mapM fun entry => entry.1.map fun key => (key, entry.2) with
  | some named => .record named
  | none => .unreadable

/-- The value of an enclosure that ends at the given depth. -/
def close (enclosure : Enclosure) (depth : Nat) : Source :=
  if depthLimit ≤ depth then .unreadable
  else
    match enclosure with
    | .items done => .list done.reverse
    | .fields done _ => recordOf done.reverse

/-- The value of a token that is a value by itself. -/
def scalar? : Document.Token → Option Source
  | .null => some .null
  | .bool value => some (.bool value)
  | .number literal =>
    (Decimal.Literal.ofChars? literal).map fun l =>
      match l.value with
      | .integer n => .integer n
      | .real x => .real x
      | .outOfRange => .unreadable
  | .text (some content) => some (.text content)
  | .text none => some .unreadable
  | _ => none

/-- Begin a value. -/
def openValue (stack : List Enclosure) : Document.Token → Option Assembly
  | .openList => some ⟨.items [] :: stack, .itemOrEnd, none⟩
  | .openRecord => some ⟨.fields [] none :: stack, .keyOrEnd, none⟩
  | token => (scalar? token).map fun value => place value stack

/-- Read the name of a field. -/
def readKey (stack : List Enclosure) : Document.Token → Option Assembly
  | .text content =>
    match stack with
    | .fields done _ :: rest => some ⟨.fields done content :: rest, .colon, none⟩
    | _ => none
  | _ => none

/-- End the innermost enclosure if the token closes it. -/
def closeWith (stack : List Enclosure) (token : Document.Token) : Option Assembly :=
  match stack, token with
  | .items done :: rest, .closeList => some (place (close (.items done) stack.length) rest)
  | .fields done key :: rest, .closeRecord =>
    some (place (close (.fields done key) stack.length) rest)
  | _, _ => none

/-- Read one token. -/
def step (a : Assembly) (token : Document.Token) : Option Assembly :=
  match a.expected with
  | .value => openValue a.stack token
  | .itemOrEnd => (closeWith a.stack token).or (openValue a.stack token)
  | .key => readKey a.stack token
  | .keyOrEnd => (closeWith a.stack token).or (readKey a.stack token)
  | .colon => if token = .colon then some { a with expected := .value } else none
  | .separator =>
    match a.stack, token with
    | .items _ :: _, .comma => some { a with expected := .value }
    | .fields _ _ :: _, .comma => some { a with expected := .key }
    | _, _ => closeWith a.stack token

end Assembly

/-- Read a text that holds exactly one document. -/
def read? (text : String) : Option Source := do
  let tokens ← Document.tokens? text
  (← tokens.foldlM Assembly.step Assembly.start).result

/-! ## Sources and documents -/

mutual

/-- The document that is written; of repeated fields the last one counts. -/
def toDocument? : Source → Option Document
  | .null => some .null
  | .bool value => some (.bool value)
  | .integer value => some (.integer value)
  | .real value => some (.real value)
  | .text value => some (.text value)
  | .list items => (toDocuments? items).map .list
  | .record fields => (toFields? fields).map fun entries => .record (Order.Table.ofList entries)
  | .unreadable => none

/-- The documents of a list of items. -/
def toDocuments? : List Source → Option (List Document)
  | [] => some []
  | item :: rest => do
    let first ← toDocument? item
    let others ← toDocuments? rest
    return first :: others

/-- The documents of a list of fields. -/
def toFields? : List (String × Source) → Option (List (String × Document))
  | [] => some []
  | (key, value) :: rest => do
    let first ← toDocument? value
    let others ← toFields? rest
    return (key, first) :: others

end

mutual

/-- A document as a source. -/
def ofDocument : Document → Source
  | .null => .null
  | .bool value => .bool value
  | .integer value => .integer value
  | .real value => .real value
  | .text value => .text value
  | .list items => .list (ofDocuments items)
  | .record fields => .record (ofFields fields)

/-- A list of documents as sources. -/
def ofDocuments : List Document → List Source
  | [] => []
  | item :: rest => ofDocument item :: ofDocuments rest

/-- A list of fields as sources. -/
def ofFields : List (String × Document) → List (String × Source)
  | [] => []
  | (key, value) :: rest => (key, ofDocument value) :: ofFields rest

end

end Source

namespace Document

/-- Read a text that holds exactly one document. -/
def read? (text : String) : Option Document :=
  (Source.read? text).bind Source.toDocument?

end Document

end Rotation
