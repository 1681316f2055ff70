
/-!
# Conditions

A condition is a tree of connectives over four kinds of atoms: a point shows
its colour, a skill's indicator shows its colour, a point has left its
recorded baseline, and a skill's metric has reached a threshold.  The
colour of an atom and, unless it brings its own, the tolerance come from the
catalogue.  The metrics are the counters kept for each skill.
-/

namespace Rotation

/-! ## Metrics -/

/-- What is counted about a skill. -/
inductive Metric where
  | attemptStarted
  | keySent
  | castStarted
  | success
  | fail
  deriving DecidableEq, Repr

namespace Metric

/-- All metrics in their listed order. -/
def all : List Metric :=
  [.attemptStarted, .keySent, .castStarted, .success, .fail]

/-- The name of a metric in documents. -/
def name : Metric → String
  | .attemptStarted => "attempt_started"
  | .keySent => "key_sent_ok"
  | .castStarted => "cast_started"
  | .success => "success"
  | .fail => "fail"

/-- The metric with exactly this name. -/
def ofName? (s : String) : Option Metric :=
  all.find? fun m => m.name == s

@[simp]
theorem ofName?_name (m : Metric) : ofName? m.name = some m := by
  cases m <;> decide

end Metric

/-! ## Conditions -/

/-- A condition over screen pixels and execution metrics. -/
inductive Condition where
  | all (children : List Condition)
  | any (children : List Condition)
  | not (child : Condition)
  | const (value : Bool)
  | pointShows (point : String) (tolerance : Option UInt8)
  | skillShows (skill : String) (tolerance : Option UInt8)
  | barChanged (point : String) (tolerance : Option UInt8)
  | metricAtLeast (skill : String) (metric : Metric) (count : UInt32)
  deriving BEq, Repr, Inhabited

namespace Condition

/-- Whether the condition looks at one observable directly. -/
def isAtom : Condition → Bool
  | .all _ | .any _ | .not _ | .const _ => false
  | .pointShows _ _ | .skillShows _ _ | .barChanged _ _ | .metricAtLeast _ _ _ => true

/-- Whether the condition is the given constant. -/
def isConst (value : Bool) : Condition → Bool
  | .const v => v == value
  | _ => false

mutual

/-- The atoms of a condition from left to right. -/
def atoms : Condition → List Condition
  | .all children | .any children => atomsOf children
  | .not child => atoms child
  | .const _ => []
  | .pointShows point tolerance => [.pointShows point tolerance]
  | .skillShows skill tolerance => [.skillShows skill tolerance]
  | .barChanged point tolerance => [.barChanged point tolerance]
  | .metricAtLeast skill metric count => [.metricAtLeast skill metric count]

/-- The atoms of a list of conditions from left to right. -/
def atomsOf : List Condition → List Condition
  | [] => []
  | child :: rest => atoms child ++ atomsOf rest

end

/-- The pairs of skill and metric that a condition sets thresholds on, in the
order in which they first occur. -/
def metricAtoms (c : Condition) : List (String × Metric) :=
  c.atoms.foldl (fun seen atom =>
    match atom with
    | .metricAtLeast skill metric _ =>
      if (skill, metric) ∈ seen then seen else seen ++ [(skill, metric)]
    | _ => seen) []

/-- The points whose baseline a condition reads, in the order in which they
first occur. -/
def barPoints (c : Condition) : List String :=
  c.atoms.foldl (fun seen atom =>
    match atom with
    | .barChanged point _ => if point ∈ seen then seen else seen ++ [point]
    | _ => seen) []

end Condition

end Rotation
