import Rotation.Catalogue.Basic
import Rotation.Condition.Basic
import Rotation.Screen.Observation

/-!
# Evaluating conditions

A condition is evaluated against three sources: samples of the screen, the
metrics of skills, and recorded baselines.  Sampling is an effect of some
monad; the other two are look-ups, and either may be missing.  A group stops
at the first child that decides it.  An unknown value carries the reason of
the first unknown atom.

Truth has three values, as in Kleene's strong logic: a condition whose inputs
cannot be observed is unknown, and unknown spreads unless the other operand
decides the connective.
-/

namespace Rotation

/-! ## Three-valued truth -/

/-- Truth, falsity, or neither. -/
inductive Tri where
  | true
  | false
  | unknown
  deriving DecidableEq, Repr

namespace Tri

/-- A known truth value. -/
def ofBool (b : Bool) : Tri :=
  if b then .true else .false

/-- Conjunction: falsity decides, then the unknown spreads. -/
def and : Tri → Tri → Tri
  | .false, _ => .false
  | _, .false => .false
  | .unknown, _ => .unknown
  | _, .unknown => .unknown
  | _, _ => .true

/-- Disjunction: truth decides, then the unknown spreads. -/
def or : Tri → Tri → Tri
  | .true, _ => .true
  | _, .true => .true
  | .unknown, _ => .unknown
  | _, .unknown => .unknown
  | _, _ => .false

/-- Negation keeps the unknown. -/
def not : Tri → Tri
  | .true => .false
  | .false => .true
  | .unknown => .unknown

/-- Whether the value is truth. -/
def isTrue (t : Tri) : Bool :=
  t == .true

/-- Whether the value is truth or falsity. -/
def isKnown (t : Tri) : Bool :=
  t != .unknown

/-- The word for a truth value. -/
def name : Tri → String
  | .true => "true"
  | .false => "false"
  | .unknown => "unknown"

/-- The truth value with the given name. -/
def ofName? : String → Option Tri
  | "true" => some .true
  | "false" => some .false
  | "unknown" => some .unknown
  | _ => none

end Tri

/-! ## Evaluation -/

/-- The value of a condition, or the reason why it has none. -/
inductive Evaluation where
  | known (value : Bool)
  | unknown (reason : String)
  deriving DecidableEq, Repr

namespace Evaluation

/-- The three-valued truth of an evaluation. -/
def truth : Evaluation → Tri
  | .known value => .ofBool value
  | .unknown _ => .unknown

/-- The reason of an unknown value. -/
def reason : Evaluation → Option String
  | .known _ => none
  | .unknown reason => some reason

/-- Whether the value is truth. -/
def isTrue (e : Evaluation) : Bool :=
  e == .known true

/-- Negation keeps the unknown. -/
def not : Evaluation → Evaluation
  | .known value => .known (!value)
  | .unknown reason => .unknown reason

/-- What a test of an observation yields. -/
def ofObserved {α : Type} (observed : Observed α) (test : α → Bool) : Evaluation :=
  match observed with
  | .ok found => .known (test found)
  | .error u => .unknown u.code

end Evaluation

/-- Where the metrics and baselines that a condition reads come from. -/
structure Sources where
  metric : Option (String → Metric → Observed Nat)
  baseline : Option (String → Observed Color)

/-- No metrics and no baselines. -/
def Sources.none : Sources :=
  ⟨.none, .none⟩

/-- How the screen is sampled. -/
abbrev Sampler (m : Type → Type) := Spot → m (Observed Color)

/-- The sampler that never sees anything. -/
def Sampler.blind {m : Type → Type} [Monad m] : Sampler m :=
  fun _ => pure (.error (.because "sampler_offline" "no pixel source attached"))

namespace Condition

variable {m : Type → Type} [Monad m]

/-- Whether a sample shows the colour of an indicator. -/
def evalShows (sample : Sampler m) (indicator : Indicator) (tolerance : Option UInt8) :
    m Evaluation := do
  let found ← sample indicator.spot
  return .ofObserved found fun c =>
    c.within indicator.color (tolerance.getD indicator.tolerance)

/-- Whether a point has left its baseline. -/
def evalChanged (sample : Sampler m) (sources : Sources) (point : String)
    (indicator : Indicator) (tolerance : Option UInt8) : m Evaluation :=
  match sources.baseline with
  | none => return .unknown "baseline_provider_missing"
  | some baseline =>
    match baseline point with
    | .error u => return .unknown u.code
    | .ok base => do
      let found ← sample indicator.spot
      return .ofObserved found fun c => !c.within base (tolerance.getD indicator.tolerance)

/-- Whether a metric has reached a threshold. -/
def evalMetric (sources : Sources) (skill : String) (metric : Metric) (count : UInt32) :
    Evaluation :=
  match sources.metric with
  | none => .unknown "metric_provider_missing"
  | some lookup => .ofObserved (lookup skill metric) fun n => count.toNat ≤ n

mutual

/-- The value of a condition. -/
def eval (catalogue : Catalogue) (sample : Sampler m) (sources : Sources) :
    Condition → m Evaluation
  | .const value => return .known value
  | .not child => do
    let inner ← eval catalogue sample sources child
    return inner.not
  | .all children => evalGroup catalogue sample sources false none children
  | .any children => evalGroup catalogue sample sources true none children
  | .pointShows point tolerance =>
    match catalogue.point? point with
    | none => return .unknown "point_not_found"
    | some found => evalShows sample found.indicator tolerance
  | .skillShows skill tolerance =>
    match catalogue.skill? skill with
    | none => return .unknown "skill_not_found"
    | some found =>
      match found.indicator with
      | none => return .unknown "skill_pixel_missing"
      | some indicator => evalShows sample indicator tolerance
  | .barChanged point tolerance =>
    match catalogue.point? point with
    | none => return .unknown "point_not_found"
    | some found => evalChanged sample sources point found.indicator tolerance
  | .metricAtLeast skill metric count => return evalMetric sources skill metric count

/-- The value of a group.  A child of the value `dominant` decides it; `pending`
is the reason of the first unknown child so far. -/
def evalGroup (catalogue : Catalogue) (sample : Sampler m) (sources : Sources) (dominant : Bool)
    (pending : Option String) : List Condition → m Evaluation
  | [] =>
    match pending with
    | some reason => return .unknown reason
    | none => return .known (!dominant)
  | child :: rest => do
    match ← eval catalogue sample sources child with
    | .known value =>
      if value = dominant then return .known dominant
      else evalGroup catalogue sample sources dominant pending rest
    | .unknown reason =>
      evalGroup catalogue sample sources dominant (pending.or (some reason)) rest

end

end Condition

end Rotation
