import Rotation.Attempt.Stage
import Rotation.Condition.Basic
import Rotation.Document.Record

/-!
# Events

What happens during a run, as it is told to those who watch it, and the
written form of it.
-/

namespace Rotation

/-- Something that happened during a run. -/
inductive Event where
  | engineStarted (preset : String) (time : Nat)
  | engineStopped (reason : String) (time : Nat)
  | enginePaused (time : Nat)
  | engineResumed (time : Nat)
  | attemptStarted (attempt skill node : String) (time : Nat)
  | attemptStage (attempt skill : String) (stage : Stage) (time : Nat)
  | attemptRetry (attempt skill : String) (retry : Nat) (time : Nat)
  | attemptFinished (attempt skill : String) (stage : Stage) (reason : Option String) (time : Nat)
  | skillSkipped (skill node reason : String) (time : Nat)
  | gateway (node track action : String) (fired : Bool) (reason : Option String) (time : Nat)
  | modeSwitched (source : Option String) (target : String) (time : Nat)
  | modeLooped (mode : String) (time : Nat)
  | metricReset (skill : String) (metric : Metric) (time : Nat)
  | planChanged (version regions : Nat)
  | captureFailed (code detail : String) (backoffMs : Nat)
  | captureRecovered (afterFailures : Nat)
  deriving DecidableEq, Repr, Inhabited

namespace Event

/-- The skill that an event is about. -/
def skill? : Event → Option String
  | .attemptStarted _ skill _ _ | .attemptStage _ skill _ _ | .attemptRetry _ skill _ _
  | .attemptFinished _ skill _ _ _ | .skillSkipped skill _ _ _ | .metricReset skill _ _ =>
    some skill
  | _ => none

/-- The name of an event in documents. -/
def name : Event → String
  | .engineStarted _ _ => "engine_started"
  | .engineStopped _ _ => "engine_stopped"
  | .enginePaused _ => "engine_paused"
  | .engineResumed _ => "engine_resumed"
  | .attemptStarted _ _ _ _ => "attempt_started"
  | .attemptStage _ _ _ _ => "attempt_stage"
  | .attemptRetry _ _ _ _ => "attempt_retry"
  | .attemptFinished _ _ _ _ _ => "attempt_finished"
  | .skillSkipped _ _ _ _ => "skill_skipped"
  | .gateway _ _ _ _ _ _ => "gateway"
  | .modeSwitched _ _ _ => "mode_switched"
  | .modeLooped _ _ => "mode_looped"
  | .metricReset _ _ _ => "metric_reset"
  | .planChanged _ _ => "capture_plan_changed"
  | .captureFailed _ _ _ => "capture_failed"
  | .captureRecovered _ => "capture_recovered"

/-- The fields of an event apart from its name and time. -/
def fields : Event → List (String × Document)
  | .engineStarted preset _ => [("preset_id", .text preset)]
  | .engineStopped reason _ => [("reason", .text reason)]
  | .enginePaused _ | .engineResumed _ => []
  | .attemptStarted attempt skill node _ =>
    [("attempt_id", .text attempt), ("skill_id", .text skill), ("node_id", .text node)]
  | .attemptStage attempt skill stage _ =>
    [("attempt_id", .text attempt), ("skill_id", .text skill), ("stage", .text stage.name)]
  | .attemptRetry attempt skill retry _ =>
    [("attempt_id", .text attempt), ("skill_id", .text skill), ("retry", .nat retry)]
  | .attemptFinished attempt skill stage reason _ =>
    [("attempt_id", .text attempt), ("skill_id", .text skill), ("stage", .text stage.name),
      ("reason", .option .text reason)]
  | .skillSkipped skill node reason _ =>
    [("skill_id", .text skill), ("node_id", .text node), ("reason", .text reason)]
  | .gateway node track action fired reason _ =>
    [("node_id", .text node), ("track_id", .text track), ("action", .text action),
      ("fired", .bool fired), ("reason", .option .text reason)]
  | .modeSwitched source target _ => [("from", .option .text source), ("to", .text target)]
  | .modeLooped mode _ => [("mode_id", .text mode)]
  | .metricReset skill metric _ => [("skill_id", .text skill), ("metric", .text metric.name)]
  | .planChanged version regions => [("version", .nat version), ("regions", .nat regions)]
  | .captureFailed code detail backoffMs =>
    [("code", .text code), ("detail", .text detail), ("backoff_ms", .nat backoffMs)]
  | .captureRecovered afterFailures => [("after_failures", .nat afterFailures)]

/-- When an event happened; events of capturing do not say it. -/
def time? : Event → Option Nat
  | .engineStarted _ t | .engineStopped _ t | .enginePaused t | .engineResumed t
  | .attemptStarted _ _ _ t | .attemptStage _ _ _ t | .attemptRetry _ _ _ t
  | .attemptFinished _ _ _ _ t | .skillSkipped _ _ _ t | .gateway _ _ _ _ _ t
  | .modeSwitched _ _ t | .modeLooped _ t | .metricReset _ _ t => some t
  | .planChanged _ _ | .captureFailed _ _ _ | .captureRecovered _ => none

/-- The written form of an event. -/
def toDocument (e : Event) : Document :=
  .record (("event", .text e.name) :: e.fields ++
    (e.time?.map fun t => ("at_ms", Document.nat t)).toList)

end Event

namespace Source

/-- Read a stage by its name. -/
def stage? (s : Source) : Option Stage :=
  (text? s).bind Stage.ofName?

/-- Read a metric. -/
def metric? : Source → Option Metric :=
  choice? false Metric.ofName?

/-- Read an unsigned number of at most 64 bits. -/
def natural? (s : Source) : Option Nat :=
  (word64? s).map UInt64.toNat

/-- Read an unsigned number of at most 32 bits. -/
def smallNatural? (s : Source) : Option Nat :=
  (word32? s).map UInt32.toNat

/-- Read an event from the fields of a record. -/
def eventOf (fields : List (String × Source)) (name : String) : Option Event := do
  let text := fun key => required fields key text?
  let optionalText := fun key => optional fields key text?
  let time := required fields "at_ms" natural?
  match name with
  | "engine_started" => return .engineStarted (← text "preset_id") (← time)
  | "engine_stopped" => return .engineStopped (← text "reason") (← time)
  | "engine_paused" => return .enginePaused (← time)
  | "engine_resumed" => return .engineResumed (← time)
  | "attempt_started" =>
    return .attemptStarted (← text "attempt_id") (← text "skill_id") (← text "node_id") (← time)
  | "attempt_stage" =>
    return .attemptStage (← text "attempt_id") (← text "skill_id")
      (← required fields "stage" stage?) (← time)
  | "attempt_retry" =>
    return .attemptRetry (← text "attempt_id") (← text "skill_id")
      (← required fields "retry" smallNatural?) (← time)
  | "attempt_finished" =>
    return .attemptFinished (← text "attempt_id") (← text "skill_id")
      (← required fields "stage" stage?) (← optionalText "reason") (← time)
  | "skill_skipped" =>
    return .skillSkipped (← text "skill_id") (← text "node_id") (← text "reason") (← time)
  | "gateway" =>
    return .gateway (← text "node_id") (← text "track_id") (← text "action")
      (← required fields "fired" bool?) (← optionalText "reason") (← time)
  | "mode_switched" => return .modeSwitched (← optionalText "from") (← text "to") (← time)
  | "mode_looped" => return .modeLooped (← text "mode_id") (← time)
  | "metric_reset" =>
    return .metricReset (← text "skill_id") (← required fields "metric" metric?) (← time)
  | "capture_plan_changed" =>
    return .planChanged (← required fields "version" natural?)
      (← required fields "regions" natural?)
  | "capture_failed" =>
    return .captureFailed (← text "code") (← text "detail")
      (← required fields "backoff_ms" natural?)
  | "capture_recovered" =>
    return .captureRecovered (← required fields "after_failures" smallNatural?)
  | _ => none

/-- Read an event. -/
def event? : Source → Option Event
  | .record fields => do eventOf fields (← required fields "event" text?)
  | _ => none

end Source

end Rotation
