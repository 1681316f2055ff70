import Rotation.Catalogue.Basic
import Rotation.Condition.Basic

/-!
# What a condition looks at

The points, skill indicators and metrics that conditions depend on.  The
first two decide what has to be captured; metrics are only recorded.
-/

namespace Rotation

open Rotation.Order

/-- Identifiers that conditions depend on. -/
structure Requirements where
  points : IdSet
  indicators : IdSet
  metrics : IdSet
  deriving DecidableEq, Repr

namespace Requirements

/-- Nothing is required. -/
def empty : Requirements :=
  ⟨[], [], []⟩

/-- Also require a point. -/
def addPoint (r : Requirements) (id : String) : Requirements :=
  { r with points := r.points.insert id }

/-- Also require the indicator of a skill. -/
def addIndicator (r : Requirements) (id : String) : Requirements :=
  { r with indicators := r.indicators.insert id }

/-- Also require a metric of a skill. -/
def addMetric (r : Requirements) (id : String) : Requirements :=
  { r with metrics := r.metrics.insert id }

/-- Also require what an atom looks at. -/
def addAtom (r : Requirements) : Condition → Requirements
  | .pointShows point _ | .barChanged point _ => r.addPoint point
  | .skillShows skill _ => r.addIndicator skill
  | .metricAtLeast skill _ _ => r.addMetric skill
  | _ => r

/-- Also require what a condition looks at. -/
def add (r : Requirements) (c : Condition) : Requirements :=
  c.atoms.foldl addAtom r

/-- What a condition looks at. -/
def ofCondition (c : Condition) : Requirements :=
  empty.add c

/-- The requirements of both. -/
def merge (a b : Requirements) : Requirements :=
  { points := a.points.union b.points
    indicators := a.indicators.union b.indicators
    metrics := a.metrics.union b.metrics }

/-- Whether nothing is required. -/
def isEmpty (r : Requirements) : Bool :=
  r.points.isEmpty && r.indicators.isEmpty && r.metrics.isEmpty

/-- Whether both need the same samples; metrics need none. -/
def samePixels (a b : Requirements) : Bool :=
  a.points == b.points && a.indicators == b.indicators

/-- The spots of the required points and indicators, each group in the order
of its identifiers. -/
def spots (r : Requirements) (catalogue : Catalogue) : List Spot :=
  (r.points.filterMap fun id => (catalogue.point? id).map fun p => p.indicator.spot) ++
    r.indicators.filterMap fun id =>
      ((catalogue.skill? id).bind Skill.indicator).map Indicator.spot

/-- The required identifiers that have no spot. -/
def missing (r : Requirements) (catalogue : Catalogue) : List String :=
  ((r.points.filter fun id => (catalogue.point? id).isNone).map fun id => "point:" ++ id) ++
    (r.indicators.filter fun id => ((catalogue.skill? id).bind Skill.indicator).isNone).map
      fun id => "skill:" ++ id

end Requirements

end Rotation
