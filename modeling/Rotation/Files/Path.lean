import Rotation.Text.Line

/-!
# Path texts

A path text is a sequence of parts between slashes.  Empty parts, and a lone
dot anywhere but at the beginning, do not count.  The functions here work on
the text itself, so that what they leave of it stays as it was written.
-/

namespace Rotation.Path

/-- A part of a path. -/
inductive Part where
  | root
  | here
  | up
  | name (text : List Char)
  deriving DecidableEq, Repr

/-- Whether a text begins with a dot that stands for the current place. -/
def beginsHere : List Char → Bool
  | ['.'] | '.' :: '/' :: _ => true
  | _ => false

/-- A part inside a path, if it counts. -/
def part? (piece : List Char) : Option Part :=
  if piece = [] ∨ piece = ['.'] then none
  else if piece = ['.', '.'] then some .up
  else some (.name piece)

/-- The parts of a path. -/
def parts (cs : List Char) : List Part :=
  match cs with
  | '/' :: rest => .root :: (Text.pieces '/' rest).filterMap part?
  | _ =>
    if beginsHere cs then .here :: (Text.pieces '/' (cs.drop 1)).filterMap part?
    else (Text.pieces '/' cs).filterMap part?

/-- A text without what does not count at its beginning. -/
def dropUncounted : List Char → List Char
  | '/' :: rest => dropUncounted rest
  | '.' :: '/' :: rest => dropUncounted rest
  | ['.'] => []
  | cs => cs

/-- The rest of a text after its first part. -/
def dropPart (cs : List Char) : List Char :=
  ((dropUncounted cs).dropWhile (· != '/')).drop 1

/-- The rest of a path after some parts from its beginning. -/
def dropParts (cs : List Char) : Nat → List Char
  | 0 => cs
  | 1 => if cs.head? = some '/' || beginsHere cs then cs.drop 1 else dropPart cs
  | n + 2 => dropPart (dropParts cs (n + 1))

/-- A reversed text without what does not count at its end. -/
def dropUncountedEnd : List Char → List Char
  | '/' :: rest => dropUncountedEnd rest
  | '.' :: '/' :: rest => dropUncountedEnd rest
  | ['.'] => []
  | cs => cs

/-- Length of a beginning that stands for the root or the current place. -/
def anchorLength (cs : List Char) : Nat :=
  if cs.head? = some '/' || beginsHere cs then 1 else 0

/-- A text without what does not count at its end; the first `kept` characters
always stay. -/
def trimEnd (kept : Nat) (cs : List Char) : List Char :=
  cs.take kept ++ (dropUncountedEnd (cs.drop kept).reverse).reverse

/-- What remains of a path below another one. -/
def below? (path root : List Char) : Option (List Char) :=
  if (parts root).isPrefixOf (parts path) then
    match (parts root).length with
    | 0 => some (trimEnd (anchorLength path) path)
    | n => some (trimEnd 0 (dropUncounted (dropParts path n)))
  else none

/-- The stem and the extension of a name: what stands before and after its last
dot, unless the dot is its first character. -/
def splitName (name : List Char) : List Char × Option (List Char) :=
  let after := name.reverse.takeWhile (· != '.')
  let before := (name.reverse.drop after.length).drop 1
  if name = ['.', '.'] ∨ before = [] then (name, none)
  else (before.reverse, some after.reverse)

/-- The text before the last part of a path, and that part, if it is a name. -/
def splitLast? (cs : List Char) : Option (List Char × List Char) :=
  match (parts cs).getLast? with
  | some (.name name) =>
    let trimmed := trimEnd (anchorLength cs) cs
    some (trimmed.take (trimmed.length - name.length), name)
  | _ => none

/-- The extension of the last part of a path. -/
def extension? (cs : List Char) : Option (List Char) :=
  (splitLast? cs).bind fun split => (splitName split.2).2

/-- A path up to the stem of its last part. -/
def toStem (cs : List Char) : List Char :=
  match splitLast? cs with
  | none => cs
  | some (front, name) => front ++ (splitName name).1

/-- A path without its extension: the characters of the extension are cut off
the end first, and then everything after the stem of what is left. -/
def withoutExtension (cs : List Char) : List Char :=
  toStem (cs.take (cs.length - ((extension? cs).getD []).length))

/-- The name of a file below a root: its path from there, without the
extension and with slashes only. -/
def derivedName (path root : String) : String :=
  let rest := (below? path.toList root.toList).getD path.toList
  String.ofList ((withoutExtension rest).map fun c => if c = '\\' then '/' else c)

/-- The path of something inside a folder. -/
def join (folder : String) (names : List String) : String :=
  let tail := "/".intercalate names
  if folder.isEmpty || folder.endsWith "/" then folder ++ tail else folder ++ "/" ++ tail

end Rotation.Path
