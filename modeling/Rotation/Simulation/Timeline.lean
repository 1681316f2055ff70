import Rotation.Attempt.Wire
import Rotation.Text.Line

/-!
# Timelines

What a simulation records, and the written form of it.
-/

namespace Rotation.Simulation

/-- What happened to a node. -/
inductive Outcome where
  | cast
  | skippedCooldown
  | skippedDisabled
  | passed
  | ended
  | switchedMode
  | jumpedNode
  | jumpedTrack
  | castSkill
  | looped
  deriving DecidableEq, Repr

/-- The name of an outcome. -/
def Outcome.name : Outcome → String
  | .cast => "CAST"
  | .skippedCooldown => "SKIPPED_CD"
  | .skippedDisabled => "SKIPPED_DISABLED"
  | .passed => "GW_PASS"
  | .ended => "GW_END"
  | .switchedMode => "GW_SWITCH_MODE"
  | .jumpedNode => "GW_JUMP_NODE"
  | .jumpedTrack => "GW_JUMP_TRACK"
  | .castSkill => "GW_EXEC_SKILL"
  | .looped => "MODE_LOOP"

/-- One line of a timeline. -/
structure Entry where
  index : Nat
  time : Nat
  track : String
  node : String
  skill : Option String
  outcome : Outcome
  reason : Option String
  deriving DecidableEq, Repr

namespace Entry

/-- The entry as a line of text. -/
def line (e : Entry) : String :=
  "#" ++ Text.alignLeft 4 (toString e.index) ++ " " ++ Text.alignRight 8 (toString e.time) ++
    "ms  " ++ e.outcome.name ++ " " ++ Text.alignLeft 12 e.track ++ " " ++
    Text.alignLeft 16 e.node ++ (e.skill.map fun s => " " ++ s).getD "" ++
    (e.reason.map fun r => " (" ++ r ++ ")").getD ""

/-- The written form of an entry. -/
def toDocument (e : Entry) : Document :=
  .record [("index", .nat e.index), ("at_ms", .nat e.time), ("track_id", .text e.track),
    ("node_id", .text e.node), ("skill_id", .option .text e.skill),
    ("outcome", .text e.outcome.name), ("reason", .option .text e.reason)]

end Entry

/-- Why a simulation ended. -/
inductive End where
  | gateway (node : String)
  | maxDuration
  | maxNodes
  | idle
  deriving DecidableEq, Repr

namespace End

/-- The written form of an end. -/
def toDocument : End → Document
  | .gateway node => .record [("kind", .text "gateway"), ("node_id", .text node)]
  | .maxDuration => .record [("kind", .text "max_duration")]
  | .maxNodes => .record [("kind", .text "max_nodes")]
  | .idle => .record [("kind", .text "idle")]

end End

/-- The result of a simulation. -/
structure Report where
  preset : String
  timeline : List Entry
  ending : End
  finalMs : Nat
  readyAt : Order.Table Nat
  metrics : Order.Table SkillCounters
  deriving Repr

namespace Report

/-- Number of entries with an outcome. -/
def count (r : Report) (outcome : Outcome) : Nat :=
  (r.timeline.filter fun e => e.outcome == outcome).length

/-- The written form of a report. -/
def toDocument (r : Report) : Document :=
  .record [("preset_id", .text r.preset), ("events", .list (r.timeline.map Entry.toDocument)),
    ("end", r.ending.toDocument), ("final_ms", .nat r.finalMs),
    ("ready_at", .record (r.readyAt.map fun (skill, t) => (skill, .nat t))),
    ("metrics", .record (r.metrics.map fun (skill, c) => (skill, c.toDocument)))]

end Report

end Rotation.Simulation
