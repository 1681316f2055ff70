import Rotation.Event.Basic
import Rotation.Order.Keyed
import Rotation.Screen.Observation

/-!
# The store of attempts

The store keeps counters for each skill, the attempts under way, and the most
recent finished ones.  Each operation returns the events that tell about it.
Histories are bounded: only the newest entries are kept.
-/

namespace Rotation

open Rotation.Order

/-- A remark in the history of an attempt. -/
structure AttemptNote where
  time : Nat
  kind : String
  detail : Option String
  deriving DecidableEq, Repr

/-- One attempt to cast a skill. -/
structure Attempt where
  id : String
  skill : String
  node : String
  stage : Stage
  retries : Nat
  startedAt : Nat
  finishedAt : Option Nat
  reason : Option String
  notes : List AttemptNote
  droppedNotes : Nat
  deriving DecidableEq, Repr

/-- The newest `cap` items of a history. -/
def keepNewest {α : Type} (cap : Nat) (items : List α) : List α :=
  items.drop (items.length - cap)

/-- Add a note to an attempt, dropping the oldest ones over the bound. -/
def Attempt.addNote (a : Attempt) (cap : Nat) (note : AttemptNote) : Attempt :=
  let all := a.notes ++ [note]
  { a with
    notes := keepNewest cap all
    droppedNotes := a.droppedNotes + (all.length - cap) }

/-- Counters of one skill and the state of its last attempt. -/
structure SkillCounters where
  attemptStarted : Nat
  keySent : Nat
  castStarted : Nat
  success : Nat
  fail : Nat
  failReasons : Table Nat
  lastStage : Option Stage
  inFlight : Option String
  deriving DecidableEq, Repr

namespace SkillCounters

/-- Nothing counted yet. -/
def zero : SkillCounters :=
  ⟨0, 0, 0, 0, 0, [], none, none⟩

/-- The value of a metric. -/
def get (c : SkillCounters) : Metric → Nat
  | .attemptStarted => c.attemptStarted
  | .keySent => c.keySent
  | .castStarted => c.castStarted
  | .success => c.success
  | .fail => c.fail

/-- Set a metric back to zero. -/
def reset (c : SkillCounters) : Metric → SkillCounters
  | .attemptStarted => { c with attemptStarted := 0 }
  | .keySent => { c with keySent := 0 }
  | .castStarted => { c with castStarted := 0 }
  | .success => { c with success := 0 }
  | .fail => { c with fail := 0 }

/-- Count a new attempt. -/
def started (c : SkillCounters) (attempt : String) : SkillCounters :=
  { c with
    attemptStarted := c.attemptStarted + 1
    inFlight := some attempt
    lastStage := some .preparing }

/-- Count a stage that does not end the attempt. -/
def entered (c : SkillCounters) (stage : Stage) : SkillCounters :=
  { c with
    lastStage := some stage
    castStarted := if stage = .casting then c.castStarted + 1 else c.castStarted }

/-- Count the end of an attempt. -/
def finished (c : SkillCounters) (attempt : String) (stage : Stage) (reason : Option String) :
    SkillCounters :=
  let counted :=
    match stage with
    | .success => { c with success := c.success + 1 }
    | .failed =>
      { c with
        fail := c.fail + 1
        failReasons := c.failReasons.modify (reason.getD "unknown") 0 (· + 1) }
    | _ => c
  { counted with
    lastStage := some stage
    inFlight := if c.inFlight = some attempt then none else c.inFlight }

end SkillCounters

/-- How long histories may grow. -/
structure StoreLimits where
  recentAttempts : Nat
  attemptNotes : Nat
  deriving DecidableEq, Repr

/-- The attempts of one run. -/
structure Store where
  limits : StoreLimits
  counters : Table SkillCounters
  live : Table Attempt
  recent : Table (List Attempt)
  lastNumber : Nat
  deriving DecidableEq, Repr

/-- What is known about one skill. -/
structure SkillRecord where
  skill : String
  counters : SkillCounters
  recent : List Attempt
  deriving DecidableEq, Repr

namespace Store

/-- A store in which nothing has happened. -/
def empty (limits : StoreLimits) : Store :=
  ⟨limits, [], [], [], 0⟩

/-- The counters of a skill. -/
def countersOf (s : Store) (skill : String) : SkillCounters :=
  (s.counters.find? skill).getD .zero

/-- Change the counters of a skill. -/
def count (s : Store) (skill : String) (f : SkillCounters → SkillCounters) : Store :=
  { s with counters := s.counters.modify skill .zero f }

/-- The value of a metric. -/
def metric (s : Store) (skill : String) (metric : Metric) : Nat :=
  (s.countersOf skill).get metric

/-- Metrics as conditions read them: a skill without attempts has zeros. -/
def lookup (s : Store) (skill : String) (metric : Metric) : Observed Nat :=
  .ok (s.metric skill metric)

/-- The identifier of the attempt with a number. -/
def attemptId (skill : String) (number : Nat) : String :=
  skill ++ "#" ++ toString number

/-- What an operation returns: its result, the events that tell about it, and
the store after it. -/
structure Change (α : Type) where
  result : α
  events : List Event
  store : Store

/-- The change of an operation that was refused. -/
def refuse (s : Store) : Change Bool :=
  ⟨false, [], s⟩

/-- Change a live attempt by adding a note. -/
def annotate (s : Store) (attempt : Attempt) (note : AttemptNote) : Store :=
  { s with live := s.live.insert attempt.id (attempt.addNote s.limits.attemptNotes note) }

/-- End a live attempt by a terminal stage.  An attempt ends once; a later try
is refused. -/
def finish (s : Store) (id : String) (stage : Stage) (reason : Option String) (time : Nat) :
    Change Bool :=
  if !stage.isTerminal then s.refuse
  else
    match s.live.find? id with
    | none => s.refuse
    | some attempt =>
      let ended :=
        { attempt with stage, finishedAt := some time, reason }.addNote s.limits.attemptNotes
          ⟨time, stage.name, reason⟩
      let counted := s.count attempt.skill fun c => c.finished id stage reason
      { result := true
        events := [.attemptFinished id attempt.skill stage reason time]
        store := { counted with
          live := counted.live.erase id
          recent := counted.recent.modify attempt.skill [] fun ring =>
            keepNewest s.limits.recentAttempts (ring ++ [ended]) } }

/-- End the attempt of a skill that is still under way. -/
def supersede (s : Store) (skill : String) (time : Nat) : Change Unit :=
  match (s.countersOf skill).inFlight with
  | none => ⟨(), [], s⟩
  | some old =>
    let ended := s.finish old .stopped (some "superseded") time
    ⟨(), ended.events, ended.store⟩

/-- Begin an attempt; one of the same skill that is under way is stopped. -/
def begin (s : Store) (skill node : String) (time : Nat) : Change String :=
  let cleared := s.supersede skill time
  let s := cleared.store
  let number := s.lastNumber + 1
  let id := attemptId skill number
  let attempt : Attempt := {
    id, skill, node
    stage := .preparing
    retries := 0
    startedAt := time
    finishedAt := none
    reason := none
    notes := []
    droppedNotes := 0 }
  let opened := { s.annotate attempt ⟨time, Stage.preparing.name, none⟩ with lastNumber := number }
  { result := id
    events := cleared.events ++ [.attemptStarted id skill node time]
    store := opened.count skill fun c => c.started id }

/-- Move a live attempt to a stage that does not end it. -/
def transition (s : Store) (id : String) (stage : Stage) (time : Nat) : Change Bool :=
  if stage.isTerminal then s.refuse
  else
    match s.live.find? id with
    | none => s.refuse
    | some attempt =>
      { result := true
        events := [.attemptStage id attempt.skill stage time]
        store := (s.annotate { attempt with stage } ⟨time, stage.name, none⟩).count attempt.skill
          fun c => c.entered stage }

/-- Count a key press of a live attempt. -/
def keySent (s : Store) (id : String) (time : Nat) : Change Bool :=
  match s.live.find? id with
  | none => s.refuse
  | some attempt =>
    { result := true
      events := []
      store := (s.annotate attempt ⟨time, "KEY_SENT", none⟩).count attempt.skill
        fun c => { c with keySent := c.keySent + 1 } }

/-- Count a retry of a live attempt. -/
def retry (s : Store) (id : String) (time : Nat) : Change Bool :=
  match s.live.find? id with
  | none => s.refuse
  | some attempt =>
    let retries := attempt.retries + 1
    { result := true
      events := [.attemptRetry id attempt.skill retries time]
      store := s.annotate { attempt with retries } ⟨time, "RETRY", some (toString retries)⟩ }

/-- Add a remark to a live attempt. -/
def note (s : Store) (id kind : String) (detail : Option String) (time : Nat) : Change Bool :=
  match s.live.find? id with
  | none => s.refuse
  | some attempt => ⟨true, [], s.annotate attempt ⟨time, kind, detail⟩⟩

/-- Set a metric back to zero; nothing else lowers one. -/
def resetMetric (s : Store) (skill : String) (metric : Metric) (time : Nat) : Change Unit :=
  { result := ()
    events := [.metricReset skill metric time]
    store :=
      match s.counters.find? skill with
      | none => s
      | some c => { s with counters := s.counters.insert skill (c.reset metric) } }

/-- Stop the attempts with the given identifiers. -/
def stopEach (s : Store) (reason : String) (time : Nat) : List String → Change Unit
  | [] => ⟨(), [], s⟩
  | id :: rest =>
    let ended := s.finish id .stopped (some reason) time
    let others := ended.store.stopEach reason time rest
    ⟨(), ended.events ++ others.events, others.store⟩

/-- Stop all live attempts. -/
def stopAll (s : Store) (reason : String) (time : Nat) : Change Unit :=
  s.stopEach reason time s.live.keys

/-- What is known about a skill. -/
def skill (s : Store) (id : String) : SkillRecord :=
  ⟨id, s.countersOf id, (s.recent.find? id).getD []⟩

/-- What is known about all skills that have been attempted. -/
def skills (s : Store) : List SkillRecord :=
  s.counters.keys.map s.skill

/-- An attempt that is live or among the recent ones. -/
def attempt? (s : Store) (id : String) : Option Attempt :=
  (s.live.find? id).or (s.recent.values.flatten.find? fun a => a.id == id)

end Store

end Rotation
