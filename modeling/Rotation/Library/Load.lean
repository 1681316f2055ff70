import Rotation.Catalogue.Wire
import Rotation.Files.Tree
import Rotation.Journal.Basic
import Rotation.Preset.Wire

/-!
# Loading presets and catalogues

A preset is a file with one of two extensions.  Files and folders whose names
begin with a dot are passed over, and so are folders of foreign modules.

Every preset that is found is kept, with its draft or with the reason why it
could not be loaded, so that a user can be told.  A catalogue that does not
exist is empty.
-/

/-! ## Finding presets -/

namespace Rotation.Library

/-- The formats of presets. -/
inductive Format where
  | json
  | lua
  deriving DecidableEq, Repr

/-- The format of a file by its name or path. -/
def format? (path : String) : Option Format :=
  match Path.extension? path.toList with
  | some ext =>
    if ext = "json".toList then some .json
    else if ext = "lua".toList then some .lua
    else none
  | none => none

/-- Whether a name is passed over. -/
def isHidden (name : String) : Bool :=
  name.startsWith "."

/-- The folder of foreign modules. -/
def foreignFolder : String :=
  "node_modules"

/-- Whether one path does not come after another: paths are compared name by
name. -/
def pathLe : List String → List String → Bool
  | [], _ => true
  | _ :: _, [] => false
  | a :: as, b :: bs => if a = b then pathLe as bs else a < b

mutual

/-- The presets in a folder, as paths from there, in ascending order. -/
def presetFiles : FileTree → List (List String)
  | .file _ => []
  | .folder entries => (presetFilesAmong entries).mergeSort pathLe

/-- The presets among entries, in no particular order. -/
def presetFilesAmong : List (String × FileTree) → List (List String)
  | [] => []
  | (name, .file _) :: rest =>
    let others := presetFilesAmong rest
    if !isHidden name && (format? name).isSome then [name] :: others else others
  | (name, .folder entries) :: rest =>
    let others := presetFilesAmong rest
    if isHidden name || name == foreignFolder then others
    else (presetFiles (.folder entries)).map (fun path => name :: path) ++ others

end

end Rotation.Library

/-! ## Loading -/

namespace Rotation

/-- Why a preset or a catalogue could not be loaded. -/
inductive LoadError where
  | io (path : String) (error : ReadError)
  | document (path : String)
  | script (path message : String)
  | unsupported (path : String)
  deriving DecidableEq, Repr

namespace LoadError

/-- The name of the kind of an error. -/
def kind : LoadError → String
  | .io _ _ => "io"
  | .document _ => "json"
  | .script _ _ => "lua"
  | .unsupported _ => "unsupported"

/-- What is wrong with a text that is no document. -/
def unreadable : String :=
  "the text is not a document of the expected form"

/-- The error on one line. -/
def message : LoadError → String
  | .io path e => "failed to read " ++ path ++ ": " ++ e.message
  | .document path => "invalid document " ++ path ++ ": " ++ unreadable
  | .script path message => "lua error in " ++ path ++ ": " ++ message
  | .unsupported path => "unsupported preset file " ++ path

/-- The error and what has caused it. -/
def chain : LoadError → List String
  | .io path e => [message (.io path e), e.message]
  | .document path => [message (.document path), unreadable]
  | e => [e.message]

end LoadError

/-- A preset that has been found. -/
structure PresetEntry where
  name : String
  draft : Except LoadError Draft

/-- The identifier of a preset that could be loaded. -/
def PresetEntry.id? (e : PresetEntry) : Option String :=
  e.draft.toOption.map Draft.id

namespace Library

/-- The journal's name for this part. -/
def part : String :=
  "loader"

/-- Load a preset from the file at a path.  Scripts are named but not run. -/
def loadPreset (path : String) (file : Option FileTree) : Except LoadError Draft :=
  match format? path with
  | none => .error (.unsupported path)
  | some format => do
    let text ← (FileTree.text file).mapError (.io path)
    match format with
    | .lua => .error (.script path "scripts are not run")
    | .json =>
      match (Source.read? text).bind Source.draft? with
      | some draft => return draft
      | none => .error (.document path)

/-- The file at names that lead into a tree. -/
def fileAt (tree : FileTree) : List String → Option FileTree
  | [] => some tree
  | name :: rest => (tree.entries.lookup name).bind fun inner => fileAt inner rest

/-- Load the preset at names that lead into a folder, whose own path is
given. -/
def loadEntry (folder : String) (tree : FileTree) (names : List String) : PresetEntry :=
  let path := Path.join folder names
  ⟨Path.derivedName path folder, loadPreset path (fileAt tree names)⟩

/-- Load all presets in a folder. -/
def loadPresets (folder : String) (tree : Option FileTree) : List PresetEntry :=
  match tree with
  | none => []
  | some tree => (presetFiles tree).map (loadEntry folder tree)

/-- What the journal says about presets that could not be loaded. -/
def reportFailures (j : Journal) (entries : List PresetEntry) : Journal :=
  entries.foldl (fun j entry =>
    match entry.draft with
    | .ok _ => j
    | .error e => j.error part ("failed to load preset " ++ entry.name ++ ": " ++ e.message)) j

/-- Load the catalogue at a path. -/
def loadCatalogue (path : String) (file : Option FileTree) : Except LoadError Catalogue :=
  match file with
  | none => return .empty
  | some _ => do
    let text ← (FileTree.text file).mapError (.io path)
    match (Source.read? text).bind Source.catalogue? with
    | some catalogue => return catalogue
    | none => .error (.document path)

/-- What the journal says about a catalogue that does not exist. -/
def reportMissing (j : Journal) (path : String) (file : Option FileTree) : Journal :=
  if file.isSome then j
  else j.warn part ("catalogue " ++ path ++ " not found, starting empty")

end Library

end Rotation
