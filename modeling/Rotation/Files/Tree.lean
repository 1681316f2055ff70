import Rotation.Files.Path

/-!
# Trees of files

A file is a sequence of bytes, and a folder has named entries.  Places in a
tree are given by path texts that start at its root.
-/

namespace Rotation

/-- A file or a folder. -/
inductive FileTree where
  | file (bytes : ByteArray)
  | folder (entries : List (String × FileTree))
  deriving Inhabited

/-- Why a file cannot be read as a text. -/
inductive ReadError where
  | missing
  | isFolder
  | notText
  deriving DecidableEq, Repr

/-- The error on one line. -/
def ReadError.message : ReadError → String
  | .missing => "No such file or directory (os error 2)"
  | .isFolder => "Is a directory (os error 21)"
  | .notText => "stream did not contain valid UTF-8"

/-- Why a file cannot be written. -/
inductive WriteError where
  | missing
  | isFolder
  | notFolder
  deriving DecidableEq, Repr

/-- The error on one line. -/
def WriteError.message : WriteError → String
  | .missing => "No such file or directory (os error 2)"
  | .isFolder => "Is a directory (os error 21)"
  | .notFolder => "Not a directory (os error 20)"

namespace FileTree

/-- The folder without entries. -/
def empty : FileTree :=
  .folder []

/-- The entries of a folder; a file has none. -/
def entries : FileTree → List (String × FileTree)
  | .file _ => []
  | .folder entries => entries

/-- The entries with one of them replaced or added. -/
def setEntry (name : String) (tree : FileTree) : List (String × FileTree) → List (String × FileTree)
  | [] => [(name, tree)]
  | (n, t) :: rest => if n = name then (name, tree) :: rest else (n, t) :: setEntry name tree rest

/-- Put a file or an empty folder into a tree, with the folders above it.  A
folder that is there already stays as it is. -/
def put (new : FileTree) (tree : FileTree) : List String → FileTree
  | [] =>
    match new, tree with
    | .folder [], .folder entries => .folder entries
    | _, _ => new
  | name :: rest =>
    let old := (tree.entries.lookup name).getD empty
    .folder (setEntry name (put new old rest) tree.entries)

/-- The names on the way to a place. -/
def names (path : String) : List String :=
  (Path.parts path.toList).filterMap fun
    | .name text => some (String.ofList text)
    | _ => none

/-- Go from the innermost of a list of nested folders along the parts of a
path. -/
def walk (above : List FileTree) (here : FileTree) : List Path.Part → Option FileTree
  | [] => some here
  | .root :: _ => none
  | .here :: rest => walk above here rest
  | .up :: rest =>
    match here, above with
    | .folder _, parent :: others => walk others parent rest
    | _, _ => none
  | .name text :: rest =>
    match here.entries.lookup (String.ofList text) with
    | some inner => walk (here :: above) inner rest
    | none => none

/-- Whether a path can only lead to a folder. -/
def leadsIntoFolder (path : String) : Bool :=
  path.endsWith "/" || path.endsWith "/."

/-- What is at a place, if there is anything; only a folder may be followed by
a slash. -/
def at? (tree : FileTree) (path : String) : Option FileTree :=
  match walk [] tree (Path.parts path.toList) with
  | some (.file bytes) => if leadsIntoFolder path then none else some (.file bytes)
  | found => found

/-- The names on the way to where a file can be written: all parts but the last
lead to folders.  `above` are the names and folders that have been passed. -/
def wayFrom (above : List (String × FileTree)) (here : FileTree) :
    List Path.Part → Except WriteError (List String)
  | [] => .error .isFolder
  | .root :: _ => .error .missing
  | .here :: rest => wayFrom above here rest
  | .up :: rest =>
    match here, above with
    | .folder _, (_, parent) :: others => wayFrom others parent rest
    | .folder _, [] => .error .missing
    | .file _, _ => .error .notFolder
  | .name text :: rest =>
    let name := String.ofList text
    match here, here.entries.lookup name, rest with
    | .file _, _, _ => .error .notFolder
    | .folder _, some (.folder _), [] => .error .isFolder
    | .folder _, _, [] => .ok ((name :: above.map Prod.fst).reverse)
    | .folder _, none, _ :: _ => .error .missing
    | .folder _, some inner, _ :: _ => wayFrom ((name, here) :: above) inner rest

/-- Why no file can be written at a path, if so. -/
def refusal? (tree : FileTree) (path : String) : Option WriteError :=
  match wayFrom [] tree (Path.parts path.toList) with
  | .error e => some e
  | .ok _ => if path.endsWith "/" then some .isFolder else none

/-- The text of a file. -/
def text : Option FileTree → Except ReadError String
  | none => .error .missing
  | some (.folder _) => .error .isFolder
  | some (.file bytes) =>
    match String.fromUTF8? bytes with
    | some text => .ok text
    | none => .error .notText

end FileTree

end Rotation
