import Rotation.Catalogue.Basic
import Rotation.Screen.Wire

/-!
# Catalogues in documents

The written form of a catalogue and its reading, with the defaults of absent
fields.
-/

namespace Rotation

/-- Tolerance of an indicator that does not give one. -/
def Indicator.defaultTolerance : UInt8 :=
  12

namespace Source

/-- The field names of an indicator, in declared order. -/
def indicatorFields : List String :=
  ["monitor", "x", "y", "color", "tolerance", "sample_radius"]

/-- An indicator from the fields of a record. -/
def indicatorOf (fields : List (String × Source)) : Option Indicator :=
  return {
    spot := {
      monitor := ← withDefault fields "monitor" 0 word32?
      x := ← required fields "x" signed32?
      y := ← required fields "y" signed32?
      radius := ← withDefault fields "sample_radius" 0 word32? }
    color := ← required fields "color" color?
    tolerance := ← withDefault fields "tolerance" Indicator.defaultTolerance word8? }

/-- Read an indicator. -/
def indicator? (s : Source) : Option Indicator :=
  (fields? indicatorFields s).bind indicatorOf

/-- Read a point. -/
def point? (s : Source) : Option Point := do
  let fields ← fields? ("id" :: indicatorFields) s
  return { id := ← required fields "id" text?, indicator := ← indicatorOf fields }

/-- Read a skill. -/
def skill? (s : Source) : Option Skill := do
  let fields ← fields?
    ["id", "name", "enabled", "key", "cast_ms", "cooldown_ms", "pixel", "cast_bar_point"] s
  return {
    id := ← required fields "id" text?
    name := ← withDefault fields "name" "" text?
    enabled := ← withDefault fields "enabled" true bool?
    key := ← optional fields "key" text?
    castMs := ← withDefault fields "cast_ms" 0 word64?
    cooldownMs := ← withDefault fields "cooldown_ms" 0 word64?
    indicator := ← optional fields "pixel" indicator?
    castBar := ← optional fields "cast_bar_point" text? }

/-- Read a catalogue. -/
def catalogue? (s : Source) : Option Catalogue := do
  let fields ← fields? ["skills", "points"] s
  let skills ← withDefault fields "skills" [] (list? skill?)
  let points ← withDefault fields "points" [] (list? point?)
  return .ofLists skills points

end Source

/-- The fields of an indicator. -/
def Indicator.fields (i : Indicator) : List (String × Document) :=
  [("monitor", .nat i.spot.monitor.toNat), ("x", .integer i.spot.x.toInt),
    ("y", .integer i.spot.y.toInt), ("color", i.color.toDocument),
    ("tolerance", .nat i.tolerance.toNat), ("sample_radius", .nat i.spot.radius.toNat)]

/-- The written form of a point. -/
def Point.toDocument (p : Point) : Document :=
  .record (("id", .text p.id) :: p.indicator.fields)

/-- The written form of a skill. -/
def Skill.toDocument (s : Skill) : Document :=
  .record [("id", .text s.id), ("name", .text s.name), ("enabled", .bool s.enabled),
    ("key", .option .text s.key), ("cast_ms", .nat s.castMs.toNat),
    ("cooldown_ms", .nat s.cooldownMs.toNat),
    ("pixel", .option (fun i => .record i.fields) s.indicator),
    ("cast_bar_point", .option .text s.castBar)]

/-- The written form of a catalogue. -/
def Catalogue.toDocument (c : Catalogue) : Document :=
  .record [("skills", .list (c.skills.map Skill.toDocument)),
    ("points", .list (c.points.map Point.toDocument))]

end Rotation
