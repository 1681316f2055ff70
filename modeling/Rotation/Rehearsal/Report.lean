import Rotation.Document.Basic

/-!
# Reports of rehearsals

A rehearsal runs on a clock of its own, so its reports leave out all times.
-/

namespace Rotation.Document

/-- The names of fields that hold times. -/
def timeFields : List String :=
  ["at_ms", "started_at_ms", "finished_at_ms"]

mutual

/-- A document without its times, at every depth. -/
def untimed : Document → Document
  | .list items => .list (untimedItems items)
  | .record fields => .record (untimedFields fields)
  | other => other

/-- A list of documents without times. -/
def untimedItems : List Document → List Document
  | [] => []
  | item :: rest => untimed item :: untimedItems rest

/-- Fields without times. -/
def untimedFields : List (String × Document) → List (String × Document)
  | [] => []
  | (name, value) :: rest =>
    if timeFields.contains name then untimedFields rest
    else (name, untimed value) :: untimedFields rest

end

end Rotation.Document
