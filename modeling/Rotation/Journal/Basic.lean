/-!
# The journal

What the parts of the program remark about their work, for people who want to
follow it.  A line names the part that made it.  Remarks of less weight than
information are not kept.
-/

namespace Rotation

/-- How grave a remark is. -/
inductive Level where
  | info
  | warn
  | error
  deriving DecidableEq, Repr

/-- The word for a level. -/
def Level.name : Level → String
  | .info => "INFO"
  | .warn => "WARN"
  | .error => "ERROR"

/-- A remark of a part of the program. -/
structure JournalLine where
  level : Level
  part : String
  text : String
  deriving DecidableEq, Repr

/-- The remark as it stands in the journal, the time apart. -/
def JournalLine.line (l : JournalLine) : String :=
  "[" ++ l.level.name ++ "] [" ++ l.part ++ "] " ++ l.text

/-- Remarks in the order in which they were made. -/
abbrev Journal := Array JournalLine

namespace Journal

/-- Add information. -/
def info (j : Journal) (part text : String) : Journal :=
  j.push ⟨.info, part, text⟩

/-- Add a warning. -/
def warn (j : Journal) (part text : String) : Journal :=
  j.push ⟨.warn, part, text⟩

/-- Add an error. -/
def error (j : Journal) (part text : String) : Journal :=
  j.push ⟨.error, part, text⟩

end Journal

end Rotation
