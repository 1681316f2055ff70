import Rotation.Cast.Session
import Rotation.Catalogue.Wire
import Rotation.Condition.Wire
import Rotation.Preset.Wire
import Rotation.Screen.Wire
import Rotation.Settings.Wire

/-!
# Scripts

A rehearsal is described by a script: a document that holds the equipment and
a list of steps, each with its name under `do`.  Every step is answered by a
document.  A script that cannot be followed is answered by a complaint alone.
-/

namespace Rotation

/-- Why a script cannot be followed. -/
structure Complaint where
  kind : String
  message : Option String
  deriving DecidableEq, Repr

/-- The written form of a complaint. -/
def Complaint.toDocument (c : Complaint) : Document :=
  .record (("error", .text c.kind) :: (c.message.map fun m => ("message", Document.text m)).toList)

/-- What is read from a script, or done for it. -/
abbrev Reading (α : Type) := Except Complaint α

namespace Script

variable {α σ : Type}

/-- Complain. -/
def fail (kind : String) : Reading α :=
  .error ⟨kind, none⟩

/-- The complaint about a field that is missing or of the wrong kind. -/
def bad : Reading α :=
  fail "bad_input"

/-- A value, or a complaint when there is none. -/
def orFail (kind : String) : Option α → Reading α
  | some a => .ok a
  | none => fail kind

/-- The result of an arithmetic step, or a complaint. -/
def orPanic : Checked α → Reading α
  | .ok a => .ok a
  | .error _ => fail "panic"

/-- The result of a live computation, or a complaint. -/
def orCrash : Except Crash α → Reading α
  | .ok a => .ok a
  | .error _ => fail "panic"

/-- A field; null counts as absent. -/
def got (s : Source) (name : String) : Option Source :=
  match s with
  | .record fields =>
    match Source.get? fields name with
    | some .null => none
    | found => found
  | _ => none

/-- A field that has to be there. -/
def need (s : Source) (name : String) (read : Source → Option α) : Reading α :=
  orFail "bad_input" ((got s name).bind read)

/-- A field that may be absent. -/
def may (s : Source) (name : String) (read : Source → Option α) : Reading (Option α) :=
  match got s name with
  | none => return none
  | some value => return some (← orFail "bad_input" (read value))

/-- A field with a value for its absence. -/
def mayOr (s : Source) (name : String) (absent : α) (read : Source → Option α) : Reading α :=
  return (← may s name read).getD absent

/-- Read a list as it stands. -/
def items? : Source → Option (List Source) :=
  Source.list? some

/-- Read a list of texts. -/
def texts? : Source → Option (List String) :=
  Source.list? Source.text?

/-- A list of items that has to be there. -/
def steps (s : Source) (name : String) : Reading (List Source) :=
  need s name items?

/-- A list of items that may be absent. -/
def listOf (s : Source) (name : String) (read : Source → Reading α) : Reading (List α) := do
  (← mayOr s name [] items?).mapM read

/-- Follow steps one after the other and collect their answers. -/
def follow (step : σ → String → Source → Reading (Document × σ)) (state : σ) :
    List Source → Reading (List Document × σ)
  | [] => return ([], state)
  | item :: rest => do
    let (answer, state) ← step state (← need item "do" Source.text?) item
    let (answers, state) ← follow step state rest
    return (answer :: answers, state)

/-! ## Pieces of scripts -/

/-- A field of a record; null counts as a value. -/
def raw? (s : Source) (name : String) : Reading (Option Source) :=
  match s with
  | .record fields => return Source.get? fields name
  | _ => bad

/-- A catalogue; an absent one is empty. -/
def catalogueAt (s : Source) (name : String) : Reading Catalogue := do
  match ← raw? s name with
  | none => return .empty
  | some value => orFail "catalogue" (Source.catalogue? value)

/-- The catalogue of a script. -/
def catalogueOf (s : Source) : Reading Catalogue :=
  catalogueAt s "catalogue"

/-- A document as it stands. -/
def rawOf (s : Source) (name : String) : Reading Document := do
  orFail "bad_input" ((← raw? s name).bind Source.toDocument?)

/-- A condition; findings about it do not matter. -/
def conditionOf (s : Source) (name : String) : Reading Condition := do
  orFail "expr" (Condition.decode (← rawOf s name)).1

/-- The draft of a preset. -/
def draftOf (s : Source) : Reading Draft := do
  orFail "preset" (Source.draft? (← orFail "bad_input" (← raw? s "preset")))

/-- Settings; those not given are the standard ones. -/
def settingsOf (s : Source) : Reading Settings :=
  mayOr s "settings" .standard Source.settings?

/-- The monitor of a step; the first one when none is named. -/
def monitorOf (s : Source) : Reading MonitorId :=
  mayOr s "monitor" 0 Source.word32?

end Script

end Rotation
