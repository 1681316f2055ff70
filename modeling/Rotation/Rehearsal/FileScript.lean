import Rotation.Library.Load
import Rotation.Rehearsal.Script

/-!
# Scripts with files

A script may describe the files of a folder, each by its path and its text or
bytes.
-/

namespace Rotation.Script

/-- The content of a file, or an empty folder. -/
def contentOf (s : Source) : Reading FileTree := do
  if ← mayOr s "dir" false Source.bool? then
    return .empty
  match ← may s "text" Source.text? with
  | some text => return .file text.toUTF8
  | none => return .file ⟨(← need s "bytes" (Source.list? Source.word8?)).toArray⟩

/-- The files of a script. -/
def filesOf (s : Source) : Reading FileTree := do
  let list ← listOf s "files" fun f =>
    return (FileTree.names (← need f "path" Source.text?), ← contentOf f)
  return list.foldl (fun tree file => FileTree.put file.2 tree file.1) .empty

/-- What is found and loaded under a path. -/
def load (s : Source) : Reading Document := do
  let tree ← filesOf s
  let root ← need s "root" Source.text?
  let orError := fun {α : Type} (result : Except LoadError α) =>
    (result.mapError fun e => (⟨e.kind, none⟩ : Complaint) : Reading α)
  match ← need s "what" Source.text? with
  | "preset" =>
    return (← orError (Library.loadPreset root (tree.at? root))).toDocument Document.realBits
  | "catalogue" => return (← orError (Library.loadCatalogue root (tree.at? root))).toDocument
  | "presets" =>
    return .list ((Library.loadPresets root (tree.at? root)).map fun entry =>
      .record [("name", .text entry.name), ("id", .option .text entry.id?),
        ("doc", match entry.draft with
          | .ok draft => draft.toDocument Document.realBits
          | .error e => Complaint.toDocument ⟨e.kind, none⟩)])
  | _ => bad

/-- A path without what does not count at its beginning. -/
def trimmed (path : String) : String :=
  String.ofList (Path.dropUncounted path.toList)

/-- The presets that are found under a path, and their names. -/
def discover (s : Source) : Reading Document := do
  let tree ← filesOf s
  let root ← need s "root" Source.text?
  let paths := ((tree.at? root).map Library.presetFiles).getD []
  let files := paths.map (Path.join root)
  let extra ← listOf s "names" fun
    | .list [.text path, .text below] => return Path.derivedName path below
    | _ => bad
  return .record [("files", .texts (files.map trimmed)),
    ("names", .texts (files.map fun path => Path.derivedName path root)), ("extra", .texts extra)]

end Rotation.Script
