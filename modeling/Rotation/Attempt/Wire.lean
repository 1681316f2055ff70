import Rotation.Attempt.Store

/-!
# Attempts in documents

The written forms of attempts and counters.
-/

namespace Rotation

/-- The written form of a note. -/
def AttemptNote.toDocument (n : AttemptNote) : Document :=
  .record [("at_ms", .nat n.time), ("kind", .text n.kind), ("detail", .option .text n.detail)]

/-- The written form of an attempt. -/
def Attempt.toDocument (a : Attempt) : Document :=
  .record [("id", .text a.id), ("skill_id", .text a.skill), ("node_id", .text a.node),
    ("stage", .text a.stage.name), ("retries", .nat a.retries), ("started_at_ms", .nat a.startedAt),
    ("finished_at_ms", .option .nat a.finishedAt), ("reason", .option .text a.reason),
    ("events", .list (a.notes.map AttemptNote.toDocument)), ("dropped_events", .nat a.droppedNotes)]

/-- The written form of counters. -/
def SkillCounters.toDocument (c : SkillCounters) : Document :=
  .record [("attempt_started", .nat c.attemptStarted), ("key_sent_ok", .nat c.keySent),
    ("cast_started", .nat c.castStarted), ("success", .nat c.success), ("fail", .nat c.fail),
    ("fail_reasons", .record (c.failReasons.map fun (reason, n) => (reason, .nat n))),
    ("last_stage", .option (fun stage => .text stage.name) c.lastStage),
    ("in_flight", .option .text c.inFlight)]

/-- The written form of what is known about a skill. -/
def SkillRecord.toDocument (r : SkillRecord) : Document :=
  .record [("skill_id", .text r.skill), ("counters", r.counters.toDocument),
    ("recent", .list (r.recent.map Attempt.toDocument))]

end Rotation
