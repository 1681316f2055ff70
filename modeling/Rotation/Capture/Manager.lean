import Rotation.Capture.Plan
import Rotation.Event.Basic
import Rotation.Screen.Grab
import Rotation.Settings.Basic
import Rotation.Word.Checked

/-!
# Capturing

The capture manager keeps the current plan and the last snapshot, and spaces
its tries after failures.  A snapshot is reused while it is younger than its
time to live and made under the current plan.  All times are those of the
caller's clock.

After failures in a row the next try waits: the base after the first failure,
twice as long after each further one, up to a cap.  All are 64-bit words.
-/

namespace Rotation.Backoff

/-- The power of two of a shift, or the largest word when it does not fit. -/
def factor (shift : Nat) : Nat :=
  if shift < 64 then Nat.pow 2 shift else UInt64.size - 1

/-- The product cut off at the largest word. -/
def saturatingMul (a b : Nat) : Nat :=
  min (a * b) (UInt64.size - 1)

/-- The waiting time after a number of failures. -/
def delay (failures base cap : Nat) : Nat :=
  if failures = 0 then 0 else min (saturatingMul base (factor (failures - 1))) cap

end Rotation.Backoff

namespace Rotation

/-- Frames grabbed together.  Snapshots are told apart by their number. -/
structure Snapshot where
  number : Nat
  frames : List (MonitorId × Frame)
  takenAt : Nat
  planVersion : Nat
  deriving DecidableEq, Repr

namespace Snapshot

/-- The mean colour around a coordinate. -/
def sample (s : Snapshot) (monitor : MonitorId) (x y : Int) (radius : Nat) :
    Checked (Observed Color) :=
  let name := "monitor " ++ toString monitor.toNat
  match s.frames.lookup monitor with
  | none => return .error (.because "monitor_not_captured" name)
  | some frame => do
    match ← frame.average x y radius with
    | some color => return .ok color
    | none =>
      return .error (.because "outside_capture"
        ("(" ++ toString x ++ ", " ++ toString y ++ ") on " ++ name))

end Snapshot

/-- The state of capturing. -/
structure Capture where
  settings : CaptureSettings
  requirements : Requirements
  plan : Plan
  cache : Option Snapshot
  failures : Nat
  backoffUntil : Option Nat
  lastError : Option Unavailable
  captures : Nat

/-- What can be told about capturing. -/
structure CaptureStatus where
  planVersion : Nat
  regions : Nat
  failures : Nat
  backoffMs : Nat
  lastError : Option String
  captures : Nat
  deriving DecidableEq, Repr

namespace Capture

/-- Nothing planned and nothing captured. -/
def start (settings : CaptureSettings) : Capture :=
  { settings, requirements := .empty, plan := .absent, cache := none, failures := 0
    backoffUntil := none, lastError := none, captures := 0 }

/-- The waiting time after the failures so far. -/
def backoffMs (c : Capture) : Nat :=
  Backoff.delay c.failures c.settings.backoffBaseMs.toNat c.settings.backoffCapMs.toNat

/-- What can be told about capturing. -/
def status (c : Capture) : CaptureStatus :=
  { planVersion := c.plan.version
    regions := c.plan.regions.length
    failures := c.failures
    backoffMs := c.backoffMs
    lastError := c.lastError.map Unavailable.text
    captures := c.captures }

/-- Whether requirements ask for another plan than the current one. -/
def needsPlan (c : Capture) (requirements : Requirements) : Bool :=
  c.plan.version == 0 || !c.requirements.samePixels requirements

/-- Take over requirements.  If they need other samples than before, a new plan
is made and the last snapshot is dropped; the result tells whether it was. -/
def updateRequirements (c : Capture) (catalogue : Catalogue) (screens : List Screen)
    (requirements : Requirements) : Checked (Bool × List Event × Capture) :=
  if c.needsPlan requirements then do
    let plan ← Plan.build requirements catalogue screens c.settings.roiThreshold
      (c.plan.version + 1)
    return (true, [.planChanged plan.version plan.regions.length],
      { c with requirements, plan, cache := none })
  else return (false, [], { c with requirements })

/-- Drop the last snapshot. -/
def invalidate (c : Capture) : Capture :=
  { c with cache := none }

/-- The last snapshot, if it may still be used. -/
def cached? (c : Capture) (now : Nat) : Option Snapshot :=
  c.cache.filter fun s =>
    now - s.takenAt < c.settings.ttlMs.toNat && s.planVersion == c.plan.version

/-- Whether a try has to wait. -/
def isBackingOff (c : Capture) (now : Nat) : Bool :=
  c.backoffUntil.any fun t => now < t

/-- Grab regions one after the other until one fails. -/
def grabAll {σ : Type} (source : ScreenSource σ) (state : σ) :
    List Region → Checked (Except GrabError (List (MonitorId × Frame)) × σ)
  | [] => return (.ok [], state)
  | region :: rest => do
    match ← source.grab state region.monitor region.rect with
    | (.error e, state) => return (.error e, state)
    | (.ok frame, state) =>
      let (others, state) ← grabAll source state rest
      return (others.map fun frames => (region.monitor, frame) :: frames, state)

/-- Count a failed round and set the time of the next one. -/
def recordFailure (c : Capture) (e : GrabError) (now : Nat) : Unavailable × List Event × Capture :=
  let failed := { c with failures := min (c.failures + 1) (UInt32.size - 1) }
  let delay := failed.backoffMs
  let unavailable := Unavailable.because e.code e.message
  ({ unavailable with retryAfter := some (now + delay) },
    [.captureFailed e.code e.message delay],
    { failed with backoffUntil := some (now + delay), lastError := some unavailable })

/-- Count a successful round and keep its snapshot. -/
def recordSuccess (c : Capture) (frames : List (MonitorId × Frame)) (now : Nat) :
    Snapshot × List Event × Capture :=
  let snapshot : Snapshot := ⟨c.captures + 1, frames, now, c.plan.version⟩
  (snapshot, if 0 < c.failures then [.captureRecovered c.failures] else [],
    { c with
      captures := c.captures + 1
      failures := 0
      backoffUntil := none
      lastError := none
      cache := some snapshot })

/-- A snapshot that is fresh, or why there is none. -/
def snapshot {σ : Type} (c : Capture) (source : ScreenSource σ) (state : σ) (now : Nat) :
    Checked (Observed Snapshot × List Event × Capture × σ) :=
  match c.cached? now with
  | some snapshot => return (.ok snapshot, [], c, state)
  | none =>
    if c.isBackingOff now then
      let detail := toString c.failures ++ " consecutive failure(s)"
      return (.error ⟨"capture_backoff", detail, c.backoffUntil⟩, [], c, state)
    else if c.plan.regions.isEmpty then
      return (.error (.because "capture_no_plan" "no probes to capture"), [], c, state)
    else do
      match ← grabAll source state c.plan.regions with
      | (.error e, state) =>
        let (unavailable, events, c) := c.recordFailure e now
        return (.error unavailable, events, c, state)
      | (.ok frames, state) =>
        let (snapshot, events, c) := c.recordSuccess frames now
        return (.ok snapshot, events, c, state)

/-- Sample a fresh snapshot. -/
def sample {σ : Type} (c : Capture) (source : ScreenSource σ) (state : σ) (now : Nat)
    (spot : Spot) : Checked (Observed Color × List Event × Capture × σ) := do
  match ← c.snapshot source state now with
  | (.error unavailable, events, c, state) => return (.error unavailable, events, c, state)
  | (.ok snapshot, events, c, state) =>
    let color ← snapshot.sample spot.monitor spot.x.toInt spot.y.toInt spot.radius.toNat
    return (color, events, c, state)

end Capture

end Rotation
