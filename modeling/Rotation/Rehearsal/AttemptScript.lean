import Rotation.Attempt.Wire
import Rotation.Cast.Attempt
import Rotation.Cast.Wire
import Rotation.Rehearsal.Equipment
import Rotation.Rehearsal.Report
import Rotation.Rehearsal.Script

/-!
# Scripts of attempts

Attempts at skill nodes are run one after the other on a bench: scripted
equipment, with pixels that change when a number of samples has been taken or a
number of keys has been pressed.  The nodes are not checked first; only their
conditions have to be readable.
-/

namespace Rotation

namespace Rehearsal

/-- What happens after a press. -/
structure PressScript where
  count : Nat
  set : Pixels
  stop : Bool
  failKeys : Option Bool

/-- Scripted equipment; `stopped` is set when the script asks for a stop. -/
structure Bench where
  pixels : Pixels
  samples : Nat
  beforeSample : List (Nat × Pixels)
  keyboard : Keyboard
  afterPress : List PressScript
  stopped : Bool

namespace Bench

/-- Take a sample. -/
def sample (b : Bench) (spot : Spot) : Observed Color × Bench :=
  let due := b.beforeSample.filter fun change => change.1 = b.samples
  let pixels := due.foldl (fun pixels change => pixels.put change.2) b.pixels
  (pixels.look spot, { b with pixels, samples := b.samples + 1 })

/-- Follow the script after a press. -/
def follow (b : Bench) (script : PressScript) : Bench :=
  { b with
    pixels := b.pixels.put script.set
    stopped := b.stopped || script.stop
    keyboard := { b.keyboard with failing := script.failKeys.getD b.keyboard.failing } }

/-- Press a chord. -/
def press (b : Bench) (chord : Chord) : Except PressError Unit × Bench :=
  match b.keyboard.press chord with
  | (.error e, keyboard) => (.error e, { b with keyboard })
  | (.ok (), keyboard) =>
    let due := b.afterPress.filter fun script => script.count = keyboard.count
    (.ok (), due.foldl follow { b with keyboard })

/-- The bench as equipment. -/
def rig : Rig Bench where
  sample spot _ b :=
    let (found, b) := b.sample spot
    (.ok found, [], b)
  press chord b :=
    let (sent, b) := b.press chord
    (.ok sent, b)

/-- Carry a stop of the script over to the session. -/
def settle (s : Session Bench) : Session Bench :=
  { s with cancelled := s.cancelled || s.equipment.stopped }

/-- A session on a bench, with one channel on its bus. -/
def session (b : Bench) (limits : StoreLimits) : Session Bench :=
  { now := 0, cancelled := false, lock := .free, store := .empty limits, baselines := []
    bus := Bus.empty.openChannel.2, journal := #[], equipment := b }

/-- Bound of the steps of one attempt. -/
def stepLimit : Nat :=
  10000000

/-- Run an attempt at a node from its beginning to its end. -/
def run (c : Cast.Caster Bench) (node : SkillNode) (s : Session Bench) :
    Option (Except Crash Cast.Outcome) × Session Bench :=
  c.runFrom settle node stepLimit .opening s

end Bench

end Rehearsal

namespace Script

/-- A skill node without a check of its references. -/
def nodeOf (s : Source) : Reading SkillNode := do
  let d ← orFail "node" ((got s "node").bind (Source.skillNode? false))
  let condition := fun (e : Option Document) =>
    e.mapM fun e => orFail "expr" (Condition.decode e).1
  return {
    id := d.id
    skill := d.skill
    step := d.step.toInt
    gapMs := (d.gapMs.getD 0).toNat
    ready := (← condition d.ready).getD (.const true)
    start := ⟨d.start.mode, ← condition d.start.condition, d.start.timeoutMs.toNat,
      d.start.retries.toNat⟩
    completion := ⟨d.completion.policy, ← condition d.completion.condition, d.completion.factor⟩
    lock := d.lock }

/-- Pixels; later ones of a list count. -/
def pixelsOf (s : Source) (name : String) : Reading Rehearsal.Pixels :=
  mayOr s name [] Source.pixels?

/-- A bench and what happens on it. -/
def benchOf (s : Source) : Reading Rehearsal.Bench := do
  let pixels ← pixelsOf s "pixels"
  let beforeSample ← listOf s "after_samples" fun c =>
    return (← need c "n" Source.natural?, ← pixelsOf c "set")
  let afterPress ← listOf s "on_key" fun c =>
    return ⟨← need c "n" Source.natural?, ← pixelsOf c "set", ← mayOr c "cancel" false Source.bool?,
      ← may c "fail_keys" Source.bool?⟩
  return {
    pixels := Rehearsal.Pixels.put [] pixels
    samples := 0
    beforeSample
    keyboard := .start
    afterPress
    stopped := false }

end Script

namespace Rehearsal.Bench

open Script

/-- Run an attempt and report its outcome. -/
def attempt (c : Cast.Caster Bench) (node : SkillNode) (s : Session Bench) :
    Reading (Document × Session Bench) := do
  let (outcome, s) := run c node s
  return ((← orCrash (← orFail "timeout" outcome)).toDocument, s)

/-- Follow a step. -/
def step (c : Cast.Caster Bench) (s : Session Bench) (what : String) (o : Source) :
    Reading (Document × Session Bench) := do
  let b := s.equipment
  match what with
  | "run" => attempt c (← nodeOf o) s
  | "fire" => attempt c (c.extraNode (← need o "skill_id" Source.text?)) s
  | "hold" =>
    match s.lock.tryAcquire (← need o "owner" Source.text?) with
    | .ok lock => return (.text "held", { s with lock })
    | .error why => return (.record [("contended", .text why.reason)], s)
  | "release" => return (.null, { s with lock := s.lock.release })
  | "cancel" => return (.null, { s with cancelled := true })
  | "set" =>
    let pixels := b.pixels.put (← need o "pixels" Source.pixels?)
    return (.null, { s with equipment := { b with pixels } })
  | "fail_keys" =>
    let keyboard := { b.keyboard with failing := ← need o "on" Source.bool? }
    return (.null, { s with equipment := { b with keyboard } })
  | "eval" =>
    let (found, s) := (c.eval (← conditionOf o "expr")).run.run s
    let found ← orCrash found
    return (.record [("value", .text found.truth.name), ("reason", .option .text found.reason)], s)
  | "metric_reset" =>
    let change := s.store.resetMetric (← need o "skill_id" Source.text?)
      (← need o "metric" Source.metric?) s.now
    return (.null, { s with store := change.store, bus := s.bus.publishAll change.events })
  | _ => bad

/-- What is reported after a step. -/
def report (catalogue : Catalogue) (s : Session Bench) (result : Document) (events : List Event) :
    Document :=
  Document.untimed (.record [("result", result), ("events", .list (events.map Event.toDocument)),
    ("keys", .texts s.equipment.keyboard.sent), ("holder", .option .text s.lock.holder),
    ("baselines", .record (catalogue.points.filterMap fun p =>
      (Order.Table.find? p.id s.baselines).map fun c => (p.id, c.toDocument))),
    ("skills", .list (s.store.skills.map SkillRecord.toDocument)),
    ("cancelled", .bool s.cancelled)])

/-- Follow a script of attempts. -/
def play (s : Source) : Reading Document := do
  let catalogue ← catalogueOf s
  let settings ← mayOr s "settings" .standard Source.engineSettings?
  let caster : Cast.Caster Bench := ⟨catalogue, rig, settings⟩
  let (answers, _) ← Script.follow (fun s what o => do
    let (result, s) ← step caster s what o
    let (events, bus) := s.bus.drain 1
    let s := { s with bus }
    return (report catalogue s result events, s))
    (session (← benchOf s) settings.limits) (← steps s "steps")
  return .list answers

end Rehearsal.Bench

end Rotation
