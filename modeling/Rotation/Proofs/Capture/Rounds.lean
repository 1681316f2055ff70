import Rotation.Capture.Manager

/-!
# Rounds of grabs

A snapshot that cannot be reused is made by a round of grabs, one for each
region of the plan.  What is grabbed is seen by a source that writes down all
that it is asked for.  A round stops at its first failure, so that it fails with
its last grab or succeeds with all of them; and without a round, nothing is
grabbed and nothing changes.
-/

namespace Rotation

/-- A grab that a source was asked for, and whether it was granted. -/
structure Grab where
  monitor : MonitorId
  rect : Rect
  granted : Bool
  deriving DecidableEq

/-- The grab of a region. -/
def Region.grab (r : Region) (granted : Bool) : Grab :=
  ⟨r.monitor, r.rect, granted⟩

/-- A source that writes down what it is asked for. -/
def ScreenSource.logged {σ : Type} (source : ScreenSource σ) : ScreenSource (σ × List Grab) where
  screens s := source.screens s.1
  grab s monitor rect := do
    let (result, state) ← source.grab s.1 monitor rect
    return (result, state, s.2 ++ [⟨monitor, rect, result.isOk⟩])

namespace Capture

variable {σ : Type} {c c' : Capture} {source : ScreenSource σ} {state state' : σ} {now : Nat}

/-- The grabs of a snapshot, one after the other; none if it faults. -/
def grabs (c : Capture) (source : ScreenSource σ) (state : σ) (now : Nat) : List Grab :=
  match c.snapshot source.logged (state, []) now with
  | .ok (_, _, _, _, log) => log
  | .error _ => []

/-! ## Grabbing regions -/

/-- How regions have been grabbed: all of them, or up to the first failure. -/
inductive Grabs : List Region → Except GrabError (List (MonitorId × Frame)) → List Grab → Prop
  | all (regions : List Region) (frames : List (MonitorId × Frame)) :
      Grabs regions (.ok frames) (regions.map fun r => r.grab true)
  | upTo (before : List Region) (region : Region) (after : List Region) (e : GrabError) :
      Grabs (before ++ region :: after) (.error e)
        ((before.map fun r => r.grab true) ++ [region.grab false])

theorem Grabs.cons {regions : List Region} {result : Except GrabError (List (MonitorId × Frame))}
    {log : List Grab} (grabs : Grabs regions result log) (region : Region) (frame : Frame) :
    Grabs (region :: regions) (result.map fun frames => (region.monitor, frame) :: frames)
      (region.grab true :: log) := by
  cases grabs with
  | all regions frames => exact .all (region :: regions) _
  | upTo before refused after e => exact .upTo (region :: before) refused after e

/-- A source that writes down what it is asked for gives the same answers. -/
theorem grabAll_logged {regions : List Region}
    {result : Except GrabError (List (MonitorId × Frame))}
    (done : grabAll source state regions = .ok (result, state')) (past : List Grab) :
    ∃ log, grabAll source.logged (state, past) regions = .ok (result, state', past ++ log) ∧
      Grabs regions result log := by
  induction regions generalizing state past result with
  | nil =>
      cases done
      exact ⟨[], by simp [grabAll, pure, Except.pure], .all [] []⟩
  | cons region rest ih =>
      rw [grabAll] at done
      obtain ⟨⟨answer, next⟩, grabbed, rest_done⟩ := Checked.bind_eq_ok_iff.mp done
      have logged : source.logged.grab (state, past) region.monitor region.rect =
          .ok (answer, next, past ++ [⟨region.monitor, region.rect, answer.isOk⟩]) := by
        simp [ScreenSource.logged, grabbed, bind, Except.bind, pure, Except.pure]
      rw [grabAll, logged]
      cases answer with
      | error e =>
          cases rest_done
          exact ⟨[region.grab false], rfl, .upTo [] region rest e⟩
      | ok frame =>
          obtain ⟨⟨others, last⟩, rest_grabbed, same⟩ := Checked.bind_eq_ok_iff.mp rest_done
          cases same
          obtain ⟨log, rest_logged, grabs⟩ :=
            ih rest_grabbed (past ++ [region.grab true])
          refine ⟨region.grab true :: log, ?_, grabs.cons region frame⟩
          change (grabAll source.logged (next, past ++ [region.grab true]) rest >>= _) = _
          rw [rest_logged]
          simp [bind, Except.bind, pure, Except.pure]

/-! ## Snapshots -/

/-- How a snapshot comes about, or why there is none. -/
inductive Turns (c : Capture) (source : ScreenSource σ) (state : σ) (now : Nat) :
    Observed Snapshot → List Event → Capture → σ → Prop
  | reuses {s : Snapshot} (cached : c.cached? now = some s)
      (silent : c.grabs source state now = []) : Turns c source state now (.ok s) [] c state
  | waits (uncached : c.cached? now = none) (backing : c.isBackingOff now = true)
      (silent : c.grabs source state now = []) :
      Turns c source state now (.error ⟨"capture_backoff",
        toString c.failures ++ " consecutive failure(s)", c.backoffUntil⟩) [] c state
  | idles (uncached : c.cached? now = none) (free : c.isBackingOff now = false)
      (silent : c.grabs source state now = []) :
      Turns c source state now (.error (.because "capture_no_plan" "no probes to capture")) [] c
        state
  | fails {before after : List Region} {region : Region} {state' : σ} (e : GrabError)
      (uncached : c.cached? now = none) (free : c.isBackingOff now = false)
      (regions_eq : c.plan.regions = before ++ region :: after)
      (grabs_eq : c.grabs source state now =
        (before.map fun r => r.grab true) ++ [region.grab false]) :
      Turns c source state now (.error (c.recordFailure e now).1) (c.recordFailure e now).2.1
        (c.recordFailure e now).2.2 state'
  | succeeds {state' : σ} (frames : List (MonitorId × Frame)) (uncached : c.cached? now = none)
      (free : c.isBackingOff now = false) (nonempty : c.plan.regions ≠ [])
      (grabs_eq : c.grabs source state now = c.plan.regions.map fun r => r.grab true) :
      Turns c source state now (.ok (c.recordSuccess frames now).1)
        (c.recordSuccess frames now).2.1 (c.recordSuccess frames now).2.2 state'

/-- Without a round the state of the source is not even looked at. -/
theorem snapshot_of_cached {s : Snapshot} (cached : c.cached? now = some s)
    (source : ScreenSource σ) (state : σ) :
    c.snapshot source state now = .ok (.ok s, [], c, state) := by
  rw [snapshot, cached]
  rfl

theorem snapshot_of_isBackingOff (uncached : c.cached? now = none)
    (backing : c.isBackingOff now = true) (source : ScreenSource σ) (state : σ) :
    c.snapshot source state now = .ok (.error ⟨"capture_backoff",
      toString c.failures ++ " consecutive failure(s)", c.backoffUntil⟩, [], c, state) := by
  rw [snapshot, uncached]
  dsimp only
  rw [if_pos backing]
  rfl

theorem snapshot_of_no_plan (uncached : c.cached? now = none) (free : c.isBackingOff now = false)
    (empty : c.plan.regions.isEmpty = true) (source : ScreenSource σ) (state : σ) :
    c.snapshot source state now =
      .ok (.error (.because "capture_no_plan" "no probes to capture"), [], c, state) := by
  rw [snapshot, uncached]
  simp [free, empty, pure, Except.pure]

/-- What a round of grabs comes to. -/
def conclude (c : Capture) (now : Nat) :
    Except GrabError (List (MonitorId × Frame)) × σ → Observed Snapshot × List Event × Capture × σ
  | (.error e, state) =>
    (.error (c.recordFailure e now).1, (c.recordFailure e now).2.1, (c.recordFailure e now).2.2,
      state)
  | (.ok frames, state) =>
    (.ok (c.recordSuccess frames now).1, (c.recordSuccess frames now).2.1,
      (c.recordSuccess frames now).2.2, state)

theorem snapshot_of_round (uncached : c.cached? now = none) (free : c.isBackingOff now = false)
    (planned : c.plan.regions.isEmpty = false) (source : ScreenSource σ) (state : σ) :
    c.snapshot source state now =
      (grabAll source state c.plan.regions).map (c.conclude now) := by
  rw [snapshot, uncached]
  simp only [free, planned, Bool.false_eq_true, if_false]
  rcases grabAll source state c.plan.regions with fault | ⟨_ | _, _⟩ <;> rfl

theorem turns_of_snapshot {observed : Observed Snapshot} {events : List Event}
    (done : c.snapshot source state now = .ok (observed, events, c', state')) :
    c.Turns source state now observed events c' state' := by
  cases cached : c.cached? now with
  | some s =>
      cases (snapshot_of_cached cached source state).symm.trans done
      exact .reuses cached (by rw [grabs, snapshot_of_cached cached])
  | none =>
      cases backing : c.isBackingOff now with
      | true =>
          cases (snapshot_of_isBackingOff cached backing source state).symm.trans done
          exact .waits cached backing (by rw [grabs, snapshot_of_isBackingOff cached backing])
      | false =>
          cases empty : c.plan.regions.isEmpty with
          | true =>
              cases (snapshot_of_no_plan cached backing empty source state).symm.trans done
              exact .idles cached backing
                (by rw [grabs, snapshot_of_no_plan cached backing empty])
          | false =>
              rw [snapshot_of_round cached backing empty] at done
              rcases grabbed : grabAll source state c.plan.regions with fault | ⟨result, last⟩
              · rw [grabbed] at done
                contradiction
              · rw [grabbed] at done
                obtain ⟨log, logged, how⟩ := grabAll_logged grabbed []
                have grabs_eq : c.grabs source state now = log := by
                  rw [grabs, snapshot_of_round cached backing empty, logged]
                  cases result <;> rfl
                generalize regions_eq : c.plan.regions = regions at how
                cases how with
                | all _ frames =>
                    cases done
                    have nonempty : c.plan.regions ≠ [] := by simpa using empty
                    exact .succeeds frames cached backing nonempty (regions_eq ▸ grabs_eq)
                | upTo before region after e =>
                    cases done
                    exact .fails e cached backing regions_eq grabs_eq

end Capture

end Rotation
