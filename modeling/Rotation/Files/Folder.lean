import Rotation.Files.Tree

/-!
# Making folders

A folder is made with all folders above it that are missing.  A place outside
of the tree is not looked at.
-/

namespace Rotation

/-- Why a folder, or a file in it, cannot be made. -/
inductive FolderError where
  | taken
  | notFolder
  | isFolder
  deriving DecidableEq, Repr

/-- The error on one line. -/
def FolderError.message : FolderError → String
  | .taken => "File exists (os error 17)"
  | .notFolder => "Not a directory (os error 20)"
  | .isFolder => "Is a directory (os error 21)"

namespace FileTree

/-- What is below some names. -/
def below? (tree : FileTree) : List String → Option FileTree
  | [] => some tree
  | name :: rest => (tree.entries.lookup name).bind fun inner => inner.below? rest

/-- The names that lead to a folder that is to be made, unless it is outside of
the tree; `passed` are those on the way so far, in reverse. -/
def folderWay (tree : FileTree) (passed : List String) :
    List Path.Part → Except FolderError (Option (List String))
  | [] => .ok (some passed.reverse)
  | .root :: _ => .ok none
  | .here :: rest => folderWay tree passed rest
  | .up :: rest =>
    match passed with
    | [] => .ok none
    | _ :: before => folderWay tree before rest
  | .name text :: rest =>
    let passed := String.ofList text :: passed
    match tree.below? passed.reverse with
    | some (.file _) => .error (if rest.isEmpty then .taken else .notFolder)
    | _ => folderWay tree passed rest

/-- The tree with a folder and an empty file in it. -/
def withFile (tree : FileTree) (folder name : String) : Except FolderError FileTree := do
  match tree.folderWay [] (Path.parts folder.toList) with
  | .error e => throw (if folder.endsWith "/." then .notFolder else e)
  | .ok none => return tree
  | .ok (some way) =>
    match tree.below? (way ++ [name]) with
    | some (.folder _) => throw .isFolder
    | _ => return put (.file .empty) (put .empty tree way) (way ++ [name])

end FileTree

end Rotation
