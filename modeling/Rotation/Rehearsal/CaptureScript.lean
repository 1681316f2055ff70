import Rotation.Capture.Baselines
import Rotation.Capture.Wire
import Rotation.Event.Basic
import Rotation.Rehearsal.Equipment
import Rotation.Rehearsal.Script

/-!
# Scripts of capturing

Requirements are given to a capture manager on painted monitors, snapshots are
taken and sampled, and the monitors change, fail or disappear.
-/

namespace Rotation

namespace Script

/-- What has to be observed. -/
def requirementsOf (s : Source) : Reading Requirements := do
  let set := fun name => return Order.IdSet.ofList (← mayOr s name [] texts?)
  return ⟨← set "points", ← set "skill_pixels", ← set "skill_metrics"⟩

/-- A monitor. -/
def screenOf (s : Source) : Reading Screen :=
  return ⟨← need s "id" Source.word32?, ← need s "rect" Source.rect?⟩

/-- Painted monitors. -/
def screensOf (s : Source) : Reading Rehearsal.Screens := do
  let list ← (← steps s "screens").mapM fun m =>
    return (← screenOf m, ← need m "fill" Source.color?)
  orPanic (Rehearsal.Screens.ofList list)

/-- A square to paint. -/
def brushOf (s : Source) : Reading Rehearsal.Brush :=
  return ⟨← monitorOf s, ← need s "x" Source.coordinate?, ← need s "y" Source.coordinate?,
    ← mayOr s "radius" 0 Source.smallNatural?, ← need s "color" Source.color?⟩

end Script

namespace Rehearsal

open Script

/-- The state of a rehearsal of capturing. -/
structure CaptureRun where
  capture : Capture
  screens : Screens
  baselines : Baselines
  last : Option Snapshot

namespace CaptureRun

/-- A step that asks the capture manager for something. -/
def capturing (catalogue : Catalogue) (r : CaptureRun) (what : String) (o : Source) :
    Reading (Option (Document × List Event × CaptureRun)) := do
  match what with
  | "update" =>
    let (changed, events, capture) ← orPanic
      (r.capture.updateRequirements catalogue r.screens.list (← requirementsOf o))
    return some (.bool changed, events, { r with capture })
  | "snapshot" =>
    let (result, events, capture, screens) ← orPanic
      (r.capture.snapshot Screens.source r.screens 0)
    let r := { r with capture, screens }
    match result with
    | .error u => return some (u.toDocument, events, r)
    | .ok s =>
      return some (s.toDocument (r.last.map Snapshot.number), events, { r with last := some s })
  | "sample" =>
    let spot : Spot := ⟨← monitorOf o, ← need o "x" Source.signed32?, ← need o "y" Source.signed32?,
      ← mayOr o "radius" 0 Source.word32?⟩
    let (result, events, capture, screens) ← orPanic
      (r.capture.sample Screens.source r.screens 0 spot)
    return some (Color.observed result, events, { r with capture, screens })
  | _ => return none

/-- A step that changes or shows something without capturing. -/
def preparing (r : CaptureRun) (what : String) (o : Source) : Reading (Document × CaptureRun) := do
  let point := need o "point_id" Source.text?
  match what with
  | "sample_last" =>
    match r.last with
    | none => return (.null, r)
    | some s =>
      let found ← orPanic (s.sample (← monitorOf o) (← need o "x" Source.coordinate?)
        (← need o "y" Source.coordinate?) (← mayOr o "radius" 0 Source.smallNatural?))
      return (Color.observed found, r)
  | "invalidate" => return (.null, { r with capture := r.capture.invalidate })
  | "plan" => return (.record r.capture.plan.fields, r)
  | "fail_next" =>
    let n ← need o "n" Source.smallNatural?
    return (.null, { r with screens := { r.screens with failNext := n } })
  | "paint" => return (.null, { r with screens := ← orPanic (r.screens.stroke (← brushOf o)) })
  | "unplug" =>
    return (.null, { r with screens := r.screens.unplug (← need o "monitor" Source.word32?) })
  | "record" =>
    return (.null,
      { r with baselines := r.baselines.insert (← point) (← need o "color" Source.color?) })
  | "clear" => return (.null, { r with baselines := r.baselines.erase (← point) })
  | "baseline" => return (Color.observed (r.baselines.lookup (← point)), r)
  | _ => bad

/-- Follow a step. -/
def step (catalogue : Catalogue) (r : CaptureRun) (what : String) (o : Source) :
    Reading (Document × List Event × CaptureRun) := do
  match ← r.capturing catalogue what o with
  | some done => return done
  | none =>
    let (result, r) ← r.preparing what o
    return (result, [], r)

/-- Follow a script of capturing. -/
def play (s : Source) : Reading Document := do
  let catalogue ← catalogueOf s
  let settings ← mayOr s "settings" .standard Source.captureSettings?
  let attached ← mayOr s "events" true Source.bool?
  let first : CaptureRun := ⟨.start settings, ← screensOf s, [], none⟩
  let (answers, _) ← follow (fun r what o => do
    let (result, events, r) ← r.step catalogue what o
    return (.record [("result", result),
      ("events", .list (if attached then events.map Event.toDocument else [])),
      ("grabs", .nat r.screens.grabs), ("status", r.capture.status.toDocument)], r))
    first (← steps s "steps")
  return .list answers

end CaptureRun

end Rehearsal

end Rotation
