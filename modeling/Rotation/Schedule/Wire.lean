import Rotation.Preset.Report
import Rotation.Schedule.Dispatch

/-!
# Schedules in documents

The written forms of cursors, candidates and schedules, and of what a fired
gateway has done.
-/

namespace Rotation

/-- The written form of a global cursor. -/
def GlobalCursor.toDocument (c : GlobalCursor) : Document :=
  .record [("current", .option .nat c.current?), ("next_at", .nat c.nextAt)]

/-- The written form of a mode cursor. -/
def ModeCursor.toDocument (c : ModeCursor) : Document :=
  .record [("current", .option .nat c.current?), ("step", .option .integer c.step?),
    ("done", .bool c.isDone), ("empty", .bool c.isEmpty), ("next_at", .nat c.nextAt)]

/-- The written form of a candidate of a preset. -/
def Candidate.toDocument (p : Preset) (c : Candidate) : Document :=
  let node := ((p.track? c.place).bind fun t => t.nodes[c.node]?).map Node.id
  .record [("loc", c.place.toDocument), ("track_id", .text c.track), ("node", .nat c.node),
    ("node_id", .option .text node), ("due_at", .nat c.dueAt)]

/-- The written form of the schedule of a preset. -/
def Schedule.toDocument (p : Preset) (s : Schedule) : Document :=
  .record [("mode", .option .text s.modeId), ("mode_index", .option .nat s.modeIndex),
    ("step", .option .integer s.step), ("next_wakeup", .option .nat s.nextWakeup),
    ("candidates", .list (s.candidates.map (Candidate.toDocument p)))]

/-- The written form of an effect. -/
def Effect.toDocument : Effect → Document
  | .ended => .text "ended"
  | .switched source target => .record [("switched", .list [.option .text source, .text target])]
  | .jumped target node => .record [("jumped", target.toDocument), ("node", .nat node)]
  | .cast skill => .record [("exec", .text skill)]

/-- The written form of what a fired gateway has done. -/
def Dispatched.toDocument (d : Dispatched) : Document :=
  .record [("effect", d.effect.toDocument), ("looped", .option .text d.looped)]

end Rotation
