import Rotation.Engine.Basic

/-!
# Steps of a run

A run reads all commands, looks at the stop flag, and then lets the next due
node run.  While paused it only does so for a step that has been asked for.
However a run ends, all attempts are closed, the engine is idle again, and one
last event tells about it.
-/

namespace Rotation.Engine

variable {τ : Type}

/-- The journal's name for this part. -/
def part : String :=
  "runner"

/-! ## Commands -/

/-- Pause or go on, and tell about it if this changes anything. -/
def setPaused (e : Engine τ) (r : Run) (paused : Bool) : Engine τ × Run :=
  if r.paused = paused then (e, r)
  else
    let now := e.session.now
    let told :=
      if paused then (e.remark (·.info part "paused")).publish (.enginePaused now)
      else (e.remark (·.info part "resumed")).publish (.engineResumed now)
    ({ told with status := { told.status with state := if paused then .paused else .running } },
      { r with paused })

/-- Apply a command; a stop yields the reason for which the run ends, and so
does a step that cannot be counted. -/
def apply (e : Engine τ) (r : Run) : Command → Option StopReason × Engine τ × Run
  | .pause => (none, e.setPaused { r with steps := 0 } true)
  | .resume => (none, e.setPaused { r with steps := 0 } false)
  | .step =>
    let (e, r) := e.setPaused r true
    match Unsigned.add 32 r.steps 1 with
    | .error f => (some (.fault f.message), e, r)
    | .ok steps => (none, e, { r with steps })
  | .stop reason => (some (.requested reason), e, r)

/-- Apply the first of the waiting commands. -/
def applyFirst (e : Engine τ) (r : Run) (command : Command) (rest : List Command) : Engine τ :=
  match e.apply { r with queue := rest } command with
  | (some reason, e, r) => e.put { r with phase := .ending reason }
  | (none, e, r) => e.put { r with phase := .draining }

/-- Read a command; when there is none, go on to the stop flag. -/
def drain (e : Engine τ) (r : Run) : Engine τ :=
  match r.queue with
  | command :: rest => e.applyFirst r command rest
  | [] => e.put { r with phase := if r.connected then .checking else .ending .disconnected }

/-- Wait for a command until a deadline. -/
def listen (e : Engine τ) (r : Run) (deadline : Nat) : Engine τ :=
  match r.queue with
  | command :: rest => e.applyFirst r command rest
  | [] =>
    if !r.connected then e.put { r with phase := .ending .disconnected }
    else if deadline ≤ e.session.now then e.put { r with phase := .draining }
    else e

/-- Look at the stop flag. -/
def check (e : Engine τ) (r : Run) : Engine τ :=
  e.put { r with
    phase := if e.session.cancelled then .ending (.requested "cancelled") else .choosing }

/-! ## Nodes -/

/-- End a run because of a fault. -/
def failWith (e : Engine τ) (r : Run) (message : String) : Engine τ :=
  e.put { r with phase := .ending (.fault message) }

/-- End a run because of a crash. -/
def crash (e : Engine τ) (r : Run) (c : Crash) : Engine τ :=
  e.failWith r c.message

/-- The node has run: count it, and read the commands again. -/
def nodeDone (e : Engine τ) (r : Run) : Engine τ :=
  let counted := { e with status := { e.status with
    mode := r.schedule.modeId
    step := r.schedule.step
    nodes := e.status.nodes + 1 } }
  counted.put { r with phase := .draining }

/-- Tell that a mode has begun again. -/
def looped (e : Engine τ) : Option String → Engine τ
  | none => e
  | some mode => e.publish (.modeLooped mode e.session.now)

/-- Move the track of a candidate on; its next node is due after a delay. -/
def advance (e : Engine τ) (r : Run) (place : Place) (time : Nat) : Engine τ × Run :=
  let (mode, schedule) := r.schedule.advance place time
  (e.looped mode, { r with schedule })

/-- Move the track of a candidate on and finish its node. -/
def advanceAfter (e : Engine τ) (r : Run) (place : Place) (delay : Nat) : Engine τ :=
  match Unsigned.add 64 e.session.now delay with
  | .error f => e.crash r (.fault f)
  | .ok time =>
    let (e, r) := e.advance r place time
    e.nodeDone r

/-- Stay on a node and finish it for this time. -/
def holdAfter (e : Engine τ) (r : Run) (place : Place) (delay : Nat) : Engine τ :=
  match Unsigned.add 64 e.session.now delay with
  | .error f => e.crash r (.fault f)
  | .ok time => e.nodeDone { r with schedule := r.schedule.hold place time }

/-- Do what an outcome means for the schedule. -/
def conclude (e : Engine τ) (r : Run) (outcome : Cast.Outcome) : Errand → Engine τ
  | .node c _ =>
    if outcome.verdict = .stopped then e.nodeDone r
    else if outcome.advance then e.advanceAfter r c.place outcome.delayMs
    else e.holdAfter r c.place outcome.delayMs
  | .extra c _ delay =>
    if outcome.verdict = .stopped then e.nodeDone r
    else e.advanceAfter r c.place delay

/-- One step of an attempt. -/
def cast (e : Engine τ) (d : Devices τ) (r : Run) (errand : Errand) (phase : Cast.Phase) :
    Engine τ :=
  match e.perform ((e.caster d).step errand.attempted phase) with
  | (.error c, e) => e.crash r c
  | (.ok (.finished outcome), e) => e.conclude r outcome errand
  | (.ok (.proceed phase), e) => e.put { r with phase := .casting errand phase }
  | (.ok (.sleep ms phase), e) =>
    e.put { r with phase := .resting (e.session.now + ms) .stop errand phase }
  | (.ok (.await ms phase), e) =>
    e.put { r with phase := .resting (e.session.now + ms) .release errand phase }

/-- Whether a rest is over. -/
def isAwake (e : Engine τ) (deadline : Nat) (waker : Waker) : Bool :=
  decide (deadline ≤ e.session.now) ||
    match waker with
    | .stop => e.session.cancelled
    | .release => e.session.lock.holder.isNone

/-- Go on with an attempt after a rest. -/
def wake (e : Engine τ) (r : Run) (deadline : Nat) (waker : Waker) (errand : Errand)
    (phase : Cast.Phase) : Engine τ :=
  if e.isAwake deadline waker then e.put { r with phase := .casting errand phase } else e

/-- Carry out what a fired gateway has asked for. -/
def carryOut (e : Engine τ) (d : Devices τ) (r : Run) (c : Candidate) (g : Gateway)
    (delay now : Nat) : Effect → Engine τ
  | .ended => e.put { r with phase := .ending (.ended g.id) }
  | .switched source target =>
    match e.watch d r.preset r.schedule.modeIndex with
    | .error f => e.crash r (.fault f)
    | .ok e => (e.publish (.modeSwitched source target now)).nodeDone r
  | .jumped _ _ => e.nodeDone r
  | .cast skill =>
    e.put { r with phase := .casting (.extra c ((e.caster d).extraNode skill) delay) .opening }

/-- Reset the metrics that the condition of a gateway reads. -/
def resetMetrics (e : Engine τ) (g : Gateway) (now : Nat) : Engine τ :=
  if !g.resetsMetrics then e
  else
    g.condition.metricAtoms.foldl (fun e (skill, metric) =>
      let c := e.session.store.resetMetric skill metric now
      { e with session := { e.session with store := c.store } }.publishAll c.events) e

/-- Fire a gateway. -/
def fire (e : Engine τ) (d : Devices τ) (r : Run) (c : Candidate) (g : Gateway) (delay : Nat) :
    Engine τ :=
  let now := e.session.now
  let e := (e.remark (·.info part ("gateway fired: " ++ g.action.name ++ " node=" ++ g.id ++
    " track=" ++ c.track))).resetMetrics g now
  match r.schedule.dispatch r.preset c.place g now delay with
  | .error f => e.crash r (.fault f)
  | .ok (.error f, schedule) =>
    e.failWith { r with schedule } (EngineError.internal f.message).message
  | .ok (.ok done, schedule) =>
    (e.looped done.looped).carryOut d { r with schedule } c g delay now done.effect

/-- Run a gateway: it fires when its condition is true, and is passed
otherwise. -/
def gateway (e : Engine τ) (d : Devices τ) (r : Run) (c : Candidate) (g : Gateway) : Engine τ :=
  match e.perform ((e.caster d).eval g.condition) with
  | (.error x, e) => e.crash r x
  | (.ok found, e) =>
    let delay := g.gapMs.getD e.settings.engine.gatewayDelayMs.toNat
    let e := e.publish
      (.gateway g.id c.track g.action.name found.isTrue found.reason e.session.now)
    if found.isTrue then e.fire d r c g delay else e.advanceAfter r c.place delay

/-- Run the node of a candidate. -/
def execute (e : Engine τ) (d : Devices τ) (r : Run) (c : Candidate) : Engine τ :=
  match (r.preset.track? c.place).bind fun t => t.nodes[c.node]? with
  | none =>
    e.failWith r (EngineError.internal
      ("cursor " ++ c.place.text ++ "/" ++ toString c.node ++ " out of range")).message
  | some (.skill node) => e.put { r with phase := .casting (.node c node) .opening }
  | some (.gateway g) => e.gateway d r c g

/-- The longest wait without a look at anything. -/
def idleWait (e : Engine τ) : Nat :=
  max e.settings.engine.idleWaitMs.toNat 1

/-- How long to wait when no node is due. -/
def waitMs (e : Engine τ) (r : Run) : Nat :=
  match r.schedule.nextWakeup with
  | none => e.idleWait
  | some due => min (max (due - e.session.now) 1) e.idleWait

/-- Choose the node that runs next, or wait. -/
def choose (e : Engine τ) (d : Devices τ) (r : Run) : Engine τ :=
  let now := e.session.now
  if r.paused && r.steps == 0 then e.put { r with phase := .listening (now + e.idleWait) }
  else
    match r.schedule.pick now with
    | some c => e.execute d (if r.paused then { r with steps := r.steps - 1 } else r) c
    | none => e.put { r with phase := .listening (now + e.waitMs r) }

/-! ## The end -/

/-- End a run: close its attempts, become idle, and tell about it. -/
def finish (e : Engine τ) (r : Run) (reason : StopReason) : Engine τ :=
  let now := e.session.now
  let e := e.remark fun j =>
    match reason with
    | .fault message => j.error part ("engine fault: " ++ message)
    | _ => j.info part ("engine stopped: " ++ reason.text)
  let closed := e.session.store.stopAll reason.code now
  let e := { e with session := { e.session with store := closed.store } }.publishAll closed.events
  let idle := { e with status := { e.status with
    state := .idle
    lastError := reason.fault?.or e.status.lastError
    lastStop := some reason } }
  (idle.publish (.engineStopped reason.text now)).put { r with phase := .ended }

/-! ## Steps -/

/-- One atomic step of the run; a run that waits for something stays as it
is. -/
def step (e : Engine τ) (d : Devices τ) : Engine τ :=
  match e.run with
  | none => e
  | some r =>
    match r.phase with
    | .draining => e.drain r
    | .checking => e.check r
    | .choosing => e.choose d r
    | .listening deadline => e.listen r deadline
    | .casting errand phase => e.cast d r errand phase
    | .resting deadline waker errand phase => e.wake r deadline waker errand phase
    | .ending reason => e.finish r reason
    | .ended => e

/-- Whether a step would do something. -/
def isReady (e : Engine τ) : Bool :=
  match e.run with
  | none => false
  | some r =>
    match r.phase with
    | .listening deadline =>
      !r.queue.isEmpty || !r.connected || decide (deadline ≤ e.session.now)
    | .resting deadline waker _ _ => e.isAwake deadline waker
    | .ended => false
    | _ => true

/-- The time at which a waiting run goes on by itself. -/
def wakeTime (e : Engine τ) : Option Nat :=
  e.run.bind fun r =>
    match r.phase with
    | .listening deadline | .resting deadline _ _ _ => some deadline
    | _ => none

end Rotation.Engine
