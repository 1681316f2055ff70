import Rotation.Condition.Eval
import Rotation.Schedule.Dispatch
import Rotation.Settings.Basic
import Rotation.Simulation.Timeline

/-!
# Simulation

A simulation runs a preset on a clock of its own.  A skill that is enabled and
off cooldown is cast and takes exactly its cast time; any other is skipped.
Nothing is seen of the screen, so a condition over pixels is unknown; metrics
are counted as in a live run.

Each node that runs leaves at least one entry in the timeline, so the limit on
entries bounds the number of nodes.
-/

namespace Rotation.Simulation

/-- How far a simulation goes and how long skipped nodes and gateways wait. -/
structure Options where
  maxMs : Nat
  maxNodes : Nat
  skipRetryMs : Nat
  gatewayDelayMs : Nat
  deriving DecidableEq, Repr

/-- The options that settings ask for. -/
def Options.ofSettings (s : Settings) : Options :=
  ⟨s.simulation.maxMs.toNat, s.simulation.maxNodes.toNat, s.engine.skipRetryMs.toNat,
    s.engine.gatewayDelayMs.toNat⟩

/-- Where a simulation stands. -/
structure State where
  schedule : Schedule
  store : Store
  readyAt : Order.Table Nat
  timeline : Array Entry
  now : Nat

/-- The beginning of a simulation. -/
def State.start (preset : Preset) : State :=
  { schedule := Schedule.start preset 0
    store := Store.empty EngineSettings.standard.limits
    readyAt := []
    timeline := #[]
    now := 0 }

/-- Why a simulation cannot go on. -/
inductive Error where
  | cursorOutside (place : Place) (node : Nat)
  | dispatch (fault : DispatchFault)
  deriving DecidableEq, Repr

/-- The error on one line. -/
def Error.message : Error → String
  | .cursorOutside place node => "cursor " ++ place.text ++ "/" ++ toString node ++ " out of range"
  | .dispatch fault => fault.message

namespace State

/-- Add an entry about a candidate. -/
def record (s : State) (c : Candidate) (node : String) (skill : Option String) (outcome : Outcome)
    (reason : Option String) : State :=
  { s with timeline :=
      s.timeline.push ⟨s.timeline.size, s.now, c.track, node, skill, outcome, reason⟩ }

/-- Record that a mode began again. -/
def recordLoop (s : State) (c : Candidate) : Option String → State
  | none => s
  | some mode => s.record c "" none .looped (some mode)

/-- Move the track of a candidate on. -/
def advance (s : State) (c : Candidate) (time : Nat) : State :=
  let (looped, schedule) := s.schedule.advance c.place time
  { s with schedule }.recordLoop c looped

/-- Count an ideal attempt that begins now and succeeds when it is done. -/
def attempt (s : State) (skill node : String) (done : Nat) : State :=
  let begun := s.store.begin skill node s.now
  let id := begun.result
  let pressed := (begun.store.keySent id s.now).store
  let through := [Stage.startWait, .casting, .completeWait].foldl
    (fun store stage => (store.transition id stage s.now).store) pressed
  { s with store := (through.finish id .success none done).store }

/-- Cast a skill, if it can be; the result is its cast time. -/
def cast (s : State) (catalogue : Catalogue) (c : Candidate) (node id : String) :
    Checked (Option Nat × State) :=
  match catalogue.skill? id with
  | none => return (none, s.record c node (some id) .skippedDisabled (some "skill_not_found"))
  | some skill =>
    if !skill.enabled then
      return (none, s.record c node (some id) .skippedDisabled (some "skill_disabled"))
    else if (s.readyAt.find? id).any fun t => s.now < t then
      return (none, s.record c node (some id) .skippedCooldown (some "cd_not_ready"))
    else do
      let castMs := skill.castMs.toNat
      let done ← Unsigned.add 64 s.now castMs
      let counted := s.attempt id node done
      let ready ← Unsigned.add 64 done skill.cooldownMs.toNat
      let s := { counted with readyAt := counted.readyAt.insert id ready }
      return (some castMs, s.record c node (some id) .cast none)

/-- Run a skill node. -/
def runSkill (s : State) (catalogue : Catalogue) (options : Options) (c : Candidate)
    (node : SkillNode) : Checked State := do
  let (castMs, s) ← s.cast catalogue c node.id node.skill
  let next ← match castMs with
    | some t => do Unsigned.add 64 (← Unsigned.add 64 s.now t) node.gapMs
    | none => Unsigned.add 64 s.now options.skipRetryMs
  return s.advance c next

/-- The value of a gateway's condition. -/
def evaluate (s : State) (catalogue : Catalogue) (condition : Condition) : Evaluation :=
  Id.run (condition.eval catalogue Sampler.blind ⟨some s.store.lookup, none⟩)

/-- Reset the metrics that a gateway's condition reads. -/
def resetMetrics (s : State) (gateway : Gateway) : State :=
  if gateway.resetsMetrics then
    let reset := fun (store : Store) (atom : String × Metric) =>
      (store.resetMetric atom.1 atom.2 s.now).store
    { s with store := gateway.condition.metricAtoms.foldl reset s.store }
  else s

/-- Outcome and reason under which a fired gateway is recorded. -/
def effectOutcome (preset : Preset) (c : Candidate) : Effect → Outcome × Option String
  | .ended => (.ended, none)
  | .switched _ target => (.switchedMode, some target)
  | .jumped target node =>
    (if target = c.place then .jumpedNode else .jumpedTrack,
      ((preset.track? target).bind fun t => t.nodes[node]?).map Node.id)
  | .cast skill => (.castSkill, some skill)

/-- A step of a simulation: it may fault, fail, or end the simulation. -/
abbrev Outcome? :=
  Checked (Except Error (Option End × State))

/-- Finish a gateway that has fired. -/
def settle (s : State) (catalogue : Catalogue) (c : Candidate) (gateway : Gateway) (delay : Nat) :
    Effect → Checked (Option End × State)
  | .ended => return (some (.gateway gateway.id), s)
  | .cast skill => do
    let (castMs, s) ← s.cast catalogue c ("exec:" ++ skill) skill
    let next ← Unsigned.add 64 (← Unsigned.add 64 s.now (castMs.getD 0)) delay
    return (none, s.advance c next)
  | _ => return (none, s)

/-- Run a gateway. -/
def runGateway (s : State) (preset : Preset) (catalogue : Catalogue) (options : Options)
    (c : Candidate) (gateway : Gateway) : Outcome? := do
  let value := s.evaluate catalogue gateway.condition
  let delay := gateway.gapMs.getD options.gatewayDelayMs
  if !value.isTrue then
    let s := s.record c gateway.id none .passed (some (value.reason.getD value.truth.name))
    let next ← Unsigned.add 64 s.now delay
    return .ok (none, s.advance c next)
  let s := s.resetMetrics gateway
  let (result, schedule) ← s.schedule.dispatch preset c.place gateway s.now delay
  match result with
  | .error fault => return .error (.dispatch fault)
  | .ok done =>
    let (outcome, reason) := effectOutcome preset c done.effect
    let s := ({ s with schedule }.record c gateway.id none outcome reason).recordLoop c done.looped
    return .ok (← s.settle catalogue c gateway delay done.effect)

/-- Run the node of a candidate. -/
def step (s : State) (preset : Preset) (catalogue : Catalogue) (options : Options)
    (c : Candidate) : Outcome? :=
  match (preset.track? c.place).bind fun t => t.nodes[c.node]? with
  | none => return .error (.cursorOutside c.place c.node)
  | some (.skill node) => do return .ok (none, ← s.runSkill catalogue options c node)
  | some (.gateway gateway) => s.runGateway preset catalogue options c gateway

/-- The report of a simulation that has ended. -/
def report (s : State) (preset : Preset) (ending : End) : Report :=
  { preset := preset.id
    timeline := s.timeline.toList
    ending
    finalMs := s.now
    readyAt := s.readyAt
    metrics := s.store.skills.map fun r => (r.skill, r.counters) }

/-- Run nodes until something ends the simulation; `budget` is the number of
entries that may still be added. -/
def run (preset : Preset) (catalogue : Catalogue) (options : Options) :
    Nat → State → Checked (Except Error Report)
  | 0, s => return .ok (s.report preset .maxNodes)
  | budget + 1, s =>
    if options.maxNodes ≤ s.timeline.size then return .ok (s.report preset .maxNodes)
    else
      match s.schedule.nextWakeup with
      | none => return .ok (s.report preset .idle)
      | some due =>
        let s := { s with now := max s.now due }
        if options.maxMs < s.now then return .ok (s.report preset .maxDuration)
        else
          match s.schedule.pick s.now with
          | none => return .ok (s.report preset .idle)
          | some c => do
            match ← s.step preset catalogue options c with
            | .error e => return .error e
            | .ok (some ending, s) => return .ok (s.report preset ending)
            | .ok (none, s) => run preset catalogue options budget s

end State

/-- Simulate a preset. -/
def simulate (preset : Preset) (catalogue : Catalogue) (options : Options) :
    Checked (Except Error Report) :=
  State.run preset catalogue options options.maxNodes (.start preset)

/-- The skills of skill nodes that a simulation never came to, in the order of
the tracks. -/
def unreachedSkills (preset : Preset) (report : Report) : List String :=
  let nodes := (preset.globalTracks ++ preset.modes.flatMap Mode.tracks).flatMap Track.nodes
  let skills := nodes.filterMap fun
    | .skill node => some node.skill
    | .gateway _ => none
  (skills.filter fun id => !report.timeline.any fun e => e.skill == some id).foldl
    (fun seen id => if seen.contains id then seen else seen ++ [id]) []

end Rotation.Simulation
