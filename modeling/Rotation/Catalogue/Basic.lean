import Rotation.Order.Keyed
import Rotation.Screen.Color
import Rotation.Screen.Rect

/-!
# The catalogue

The skills that can be cast and the named points of the screen, each under its
identifier.  A later entry with the same identifier replaces the earlier one.
-/

namespace Rotation

/-- Where on the screen a colour is sampled: the square of `2 * radius + 1`
pixels a side around a coordinate. -/
structure Spot where
  monitor : MonitorId
  x : Int32
  y : Int32
  radius : UInt32
  deriving DecidableEq, Repr, Inhabited

/-- A spot with the colour expected there. -/
structure Indicator where
  spot : Spot
  color : Color
  tolerance : UInt8
  deriving DecidableEq, Repr, Inhabited

/-- A named point of the screen. -/
structure Point where
  id : String
  indicator : Indicator
  deriving DecidableEq, Repr, Inhabited

/-- A skill: the chord that triggers it, how long it takes and rests, and
where the screen shows that it is ready and being cast. -/
structure Skill where
  id : String
  name : String
  enabled : Bool
  key : Option String
  castMs : UInt64
  cooldownMs : UInt64
  indicator : Option Indicator
  castBar : Option String
  deriving DecidableEq, Repr, Inhabited

namespace Skill

/-- A skill of which nothing but the identifier is known. -/
def named (id : String) : Skill :=
  { id, name := id, enabled := true, key := none, castMs := 0, cooldownMs := 0
    indicator := none, castBar := none }

/-- The name under which a skill is shown. -/
def label (s : Skill) : String :=
  if s.name.isEmpty then s.id else s.name

end Skill

/-- Skills and points under their identifiers. -/
structure Catalogue where
  skillTable : Order.Table Skill
  pointTable : Order.Table Point
  deriving DecidableEq, Repr, Inhabited

namespace Catalogue

/-- The catalogue without entries. -/
def empty : Catalogue :=
  ⟨[], []⟩

/-- Add a skill. -/
def addSkill (c : Catalogue) (s : Skill) : Catalogue :=
  { c with skillTable := c.skillTable.insert s.id s }

/-- Add a point. -/
def addPoint (c : Catalogue) (p : Point) : Catalogue :=
  { c with pointTable := c.pointTable.insert p.id p }

/-- The skill with an identifier. -/
def skill? (c : Catalogue) (id : String) : Option Skill :=
  c.skillTable.find? id

/-- The point with an identifier. -/
def point? (c : Catalogue) (id : String) : Option Point :=
  c.pointTable.find? id

/-- All skills in the order of their identifiers. -/
def skills (c : Catalogue) : List Skill :=
  c.skillTable.values

/-- All points in the order of their identifiers. -/
def points (c : Catalogue) : List Point :=
  c.pointTable.values

/-- The catalogue of a list of skills and a list of points. -/
def ofLists (skills : List Skill) (points : List Point) : Catalogue :=
  points.foldl addPoint (skills.foldl addSkill empty)

end Catalogue

end Rotation
