import Rotation.Catalogue.Basic
import Rotation.Condition.Basic
import Rotation.Diagnostic.Basic
import Rotation.Text.Character

/-!
# Conditions against a catalogue

An identifier in a condition has to be in the catalogue and a threshold has to
be positive.  Groups whose value does not depend on the screen and skills
without an indicator are worth a warning.
-/

namespace Rotation.Condition

/-- The error of a blank identifier. -/
def blankId (id name path : String) : Diagnostics :=
  if Text.allBlank id then
    Diagnostics.error "expr.blank_id" (Pointer.push path name)
      ("`" ++ name ++ "` must not be empty")
  else []

/-- The error of a skill that the catalogue does not have. -/
def unknownSkill (skill path : String) : Diagnostics :=
  Diagnostics.error "ref.unknown_skill" (Pointer.push path "skill_id")
    ("skill `" ++ skill ++ "` is not defined")

/-- Check a reference to a point. -/
def checkPoint (point : String) (catalogue : Catalogue) (path : String) : Diagnostics :=
  if Text.allBlank point then blankId point "point_id" path
  else if (catalogue.point? point).isNone then
    Diagnostics.error "ref.unknown_point" (Pointer.push path "point_id")
      ("point `" ++ point ++ "` is not defined")
  else []

/-- Check a reference to the indicator of a skill. -/
def checkIndicator (skill : String) (catalogue : Catalogue) (path : String) : Diagnostics :=
  if Text.allBlank skill then blankId skill "skill_id" path
  else
    match catalogue.skill? skill with
    | none => unknownSkill skill path
    | some found =>
      if found.indicator.isNone then
        Diagnostics.warning "expr.skill_pixel_missing" (Pointer.push path "skill_id")
          ("skill `" ++ skill ++ "` has no pixel definition; this atom is always unknown")
      else []

/-- Check a threshold. -/
def checkMetric (skill : String) (count : UInt32) (catalogue : Catalogue) (path : String) :
    Diagnostics :=
  (if Text.allBlank skill then blankId skill "skill_id" path
    else if (catalogue.skill? skill).isNone then unknownSkill skill path
    else []) ++
  (if count < 1 then
    Diagnostics.error "expr.count_range" (Pointer.push path "count") "count must be at least 1"
  else [])

mutual

/-- Check a condition at `path`. -/
def check (c : Condition) (catalogue : Catalogue) (path : String) : Diagnostics :=
  match c with
  | .all children =>
    (if children.any (isConst false) then
      Diagnostics.warning "expr.unsatisfiable" path
        "`and` contains `const false`; it can never be true"
    else []) ++ checkList children catalogue (Pointer.push path "children") 0
  | .any children =>
    (if children.any (isConst true) then
      Diagnostics.warning "expr.tautology" path "`or` contains `const true`; it is always true"
    else []) ++ checkList children catalogue (Pointer.push path "children") 0
  | .not child => check child catalogue (Pointer.push path "child")
  | .const _ => []
  | .pointShows point _ | .barChanged point _ => checkPoint point catalogue path
  | .skillShows skill _ => checkIndicator skill catalogue path
  | .metricAtLeast skill _ count => checkMetric skill count catalogue path

/-- Check the conditions of a list from position `i` on. -/
def checkList (children : List Condition) (catalogue : Catalogue) (base : String) (i : Nat) :
    Diagnostics :=
  match children with
  | [] => []
  | child :: rest =>
    check child catalogue (Pointer.pushIndex base i) ++ checkList rest catalogue base (i + 1)

end

end Rotation.Condition
