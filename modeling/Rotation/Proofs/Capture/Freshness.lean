import Rotation.Proofs.Capture.Backoff

/-!
# Fresh snapshots

Requirements are given, the last snapshot is invalidated and snapshots are asked for, in
any order and at any times.  What is written down of these calls tells which plan is in
force and whether the last snapshot may still be shown: it was grabbed under this plan,
nothing has dropped it since, and it is younger than its time to live.
-/

namespace Rotation

/-- A call to capturing.  Any screens may be there when requirements are given, and a
snapshot may be asked for of any source in any state. -/
inductive CaptureCall : Type 1 where
  | update (screens : List Screen) (requirements : Requirements)
  | invalidate
  | look {σ : Type} (source : ScreenSource σ) (state : σ) (now : Nat)

/-- What is written down of a call. -/
inductive CaptureEntry where
  | given (requirements : Requirements) (changed : Bool)
  | invalidated
  | looked (now : Nat) (grabs : List Grab) (observed : Observed Snapshot)
  | faulted

namespace CaptureEntry

/-- The requirements that were given. -/
def given? : CaptureEntry → Option Requirements
  | .given requirements _ => some requirements
  | _ => none

/-- Whether a new plan was made. -/
def installs : CaptureEntry → Bool
  | .given _ changed => changed
  | _ => false

/-- Whether earlier snapshots must not be shown any more. -/
def drops : CaptureEntry → Bool
  | .given _ changed => changed
  | .invalidated => true
  | _ => false

/-- Whether a snapshot was shown. -/
def shows : CaptureEntry → Bool
  | .looked _ _ (.ok _) => true
  | _ => false

end CaptureEntry

namespace Capture

/-- What is written down of a call, and what comes of it.  A call that faults changes
nothing. -/
def answer (catalogue : Catalogue) (c : Capture) : CaptureCall → CaptureEntry × Capture
  | .update screens requirements =>
    match c.updateRequirements catalogue screens requirements with
    | .ok (changed, _, c') => (.given requirements changed, c')
    | .error _ => (.faulted, c)
  | .invalidate => (.invalidated, c.invalidate)
  | .look source state now =>
    match c.snapshot source state now with
    | .ok (observed, _, c', _) => (.looked now (c.grabs source state now) observed, c')
    | .error _ => (.faulted, c)

/-- A snapshot is grabbed anew: all regions of the plan, now. -/
structure GrabsAnew {σ : Type} (c : Capture) (source : ScreenSource σ) (state : σ) (now : Nat)
    (s : Snapshot) : Prop where
  takenAt : s.takenAt = now
  planned : c.plan.regions ≠ []
  grabs : c.grabs source state now = c.plan.regions.map fun r => r.grab true
  frames : ∃ state', grabAll source state c.plan.regions = .ok (.ok s.frames, state')

end Capture

/-- Capturing, and what was written down of the calls so far. -/
structure Chronicle where
  capture : Capture
  entries : List CaptureEntry

namespace Chronicle

/-- Go on with a call. -/
def call (catalogue : Catalogue) (past : Chronicle) (call : CaptureCall) : Chronicle :=
  let (entry, capture) := past.capture.answer catalogue call
  ⟨capture, past.entries ++ [entry]⟩

/-- How many plans have been made. -/
def plans (past : Chronicle) : Nat :=
  past.entries.countP CaptureEntry.installs

/-- The requirements that were given last. -/
def lastGiven (past : Chronicle) : Option Requirements :=
  (past.entries.filterMap CaptureEntry.given?).getLast?

/-- A snapshot was grabbed and shown at its time, and nothing has dropped it since. -/
def Keeps (past : Chronicle) (s : Snapshot) : Prop :=
  ∃ before grabs after, past.entries = before ++ .looked s.takenAt grabs (.ok s) :: after ∧
    grabs ≠ [] ∧ ∀ entry ∈ after, entry.drops = false

/-- What is kept agrees with what was written down. -/
structure Sound (settings : CaptureSettings) (past : Chronicle) : Prop where
  settings : past.capture.settings = settings
  version : past.capture.plan.version = past.plans
  lastGiven : past.lastGiven =
    if past.plans = 0 then none else some past.capture.requirements
  cache : ∀ s, past.capture.cache = some s →
    s.planVersion = past.capture.plan.version ∧ past.Keeps s

end Chronicle

theorem Plan.version_of_build {requirements : Requirements} {catalogue : Catalogue}
    {screens : List Screen} {threshold : Float} {version : Nat} {plan : Plan}
    (built : build requirements catalogue screens threshold version = .ok plan) :
    plan.version = version := by
  obtain ⟨boxes, _, placing⟩ := Checked.bind_eq_ok_iff.mp built
  obtain ⟨placed, _, same⟩ := Checked.bind_eq_ok_iff.mp placing
  cases same
  rfl

namespace Capture

variable {σ : Type} {catalogue : Catalogue} {c c' : Capture} {source : ScreenSource σ}
  {state state' : σ} {now : Nat} {s : Snapshot} {events : List Event}

/-! ## Single calls -/

theorem needsPlan_eq_true_iff {requirements : Requirements} :
    c.needsPlan requirements = true ↔ c.plan.version = 0 ∨
      requirements.points ≠ c.requirements.points ∨
      requirements.indicators ≠ c.requirements.indicators := by
  rw [needsPlan, Requirements.samePixels, Bool.or_eq_true, beq_iff_eq, Bool.not_eq_true',
    Bool.and_eq_false_iff, beq_eq_false_iff_ne, beq_eq_false_iff_ne]
  exact or_congr_right (or_congr ne_comm ne_comm)

/-- Requirements are taken over with a new plan if they need one, and without one
otherwise. -/
theorem eq_of_updateRequirements {screens : List Screen} {requirements : Requirements}
    {changed : Bool}
    (done : c.updateRequirements catalogue screens requirements = .ok (changed, events, c')) :
    changed = c.needsPlan requirements ∧
      if changed then
        ∃ plan, plan.version = c.plan.version + 1 ∧
          c' = { c with requirements, plan, cache := none }
      else c' = { c with requirements } := by
  cases needs : c.needsPlan requirements with
  | true =>
      rw [updateRequirements, if_pos needs] at done
      obtain ⟨plan, built, same⟩ := Checked.bind_eq_ok_iff.mp done
      cases same
      exact ⟨rfl, plan, Plan.version_of_build built, rfl⟩
  | false =>
      rw [updateRequirements, if_neg (by simp [needs])] at done
      cases done
      exact ⟨rfl, rfl⟩

/-- A snapshot that is shown is the last one, or grabbed anew and kept. -/
theorem shown_of_snapshot (done : c.snapshot source state now = .ok (.ok s, events, c', state')) :
    (c.cached? now = some s ∧ c' = c ∧ c.grabs source state now = []) ∨
      (c.GrabsAnew source state now s ∧ s.planVersion = c.plan.version ∧
        c' = (c.recordSuccess s.frames now).2.2 ∧ c'.cache = some s) := by
  have turns := turns_of_snapshot done
  generalize observed_eq : (Except.ok s : Observed Snapshot) = observed at turns
  cases turns with
  | reuses cached silent =>
      cases observed_eq
      exact .inl ⟨cached, rfl, silent⟩
  | waits | idles | fails => contradiction
  | succeeds frames uncached free nonempty grabs_eq =>
      cases observed_eq
      refine .inr ⟨⟨rfl, nonempty, grabs_eq, ?_⟩, rfl, rfl, rfl⟩
      rw [snapshot_of_round uncached free (by simpa using nonempty)] at done
      rcases grabbed : grabAll source state c.plan.regions with fault | ⟨_ | frames', last⟩ <;>
        rw [grabbed] at done <;> cases done
      exact ⟨_, rfl⟩

/-- A snapshot concerns neither the plan nor the requirements, and if none is shown the
last one stays. -/
theorem kept_of_snapshot {observed : Observed Snapshot}
    (done : c.snapshot source state now = .ok (observed, events, c', state')) :
    c'.plan = c.plan ∧ c'.requirements = c.requirements ∧
      (observed.isOk = false → c'.cache = c.cache) := by
  cases turns_of_snapshot done with
  | reuses | waits | idles | fails => exact ⟨rfl, rfl, fun _ => rfl⟩
  | succeeds => exact ⟨rfl, rfl, nofun⟩

end Capture

namespace Chronicle

variable {catalogue : Catalogue} {settings : CaptureSettings} {past : Chronicle}
  {c : Capture} {entry : CaptureEntry} {s : Snapshot}

/-! ## Entries -/

theorem plans_concat (past : Chronicle) (c : Capture) (entry : CaptureEntry) :
    plans ⟨c, past.entries ++ [entry]⟩ = past.plans + if entry.installs then 1 else 0 := by
  rw [plans, List.countP_append, List.countP_singleton]
  rfl

theorem lastGiven_concat (past : Chronicle) (c : Capture) (entry : CaptureEntry) :
    lastGiven ⟨c, past.entries ++ [entry]⟩ = entry.given?.or past.lastGiven := by
  rw [lastGiven, List.filterMap_append, List.getLast?_append, lastGiven]
  cases given : entry.given? <;> simp [given]

theorem Keeps.concat (keeps : past.Keeps s) (c : Capture) (stays : entry.drops = false) :
    Keeps ⟨c, past.entries ++ [entry]⟩ s := by
  obtain ⟨before, grabs, after, entries_eq, nonempty, none_drops⟩ := keeps
  refine ⟨before, grabs, after ++ [entry], ?_, nonempty, ?_⟩
  · simp [entries_eq]
  · rw [List.forall_mem_append, List.forall_mem_singleton]
    exact ⟨none_drops, stays⟩

/-- An entry that neither gives requirements nor drops a snapshot, with plan,
requirements and last snapshot left alone. -/
theorem Sound.concat_of_silent (sound : past.Sound settings) (settings_eq : c.settings = settings)
    (plan_eq : c.plan = past.capture.plan)
    (requirements_eq : c.requirements = past.capture.requirements)
    (ungiven : entry.given? = none) (uninstalled : entry.installs = false)
    (cache : ∀ s, c.cache = some s →
      s.planVersion = c.plan.version ∧ Keeps ⟨c, past.entries ++ [entry]⟩ s) :
    Sound settings ⟨c, past.entries ++ [entry]⟩ where
  settings := settings_eq
  version := by
    rw [plans_concat, uninstalled, plan_eq, sound.version]
    rfl
  lastGiven := by
    rw [plans_concat, lastGiven_concat, ungiven, uninstalled, requirements_eq]
    exact sound.lastGiven
  cache := cache

theorem Sound.call (sound : past.Sound settings) (call : CaptureCall) :
    (past.call catalogue call).Sound settings := by
  have silent {entry : CaptureEntry} (ungiven : entry.given? = none)
      (stays : entry.drops = false) (uninstalled : entry.installs = false) :
      Sound settings ⟨past.capture, past.entries ++ [entry]⟩ :=
    sound.concat_of_silent sound.settings rfl rfl ungiven uninstalled fun s cached =>
      ⟨(sound.cache s cached).1, (sound.cache s cached).2.concat _ stays⟩
  cases call with
  | update screens requirements =>
      rw [Chronicle.call, Capture.answer]
      rcases done : past.capture.updateRequirements catalogue screens requirements with
        fault | ⟨changed, events, c'⟩
      · exact silent rfl rfl rfl
      · obtain ⟨changed_eq, outcome⟩ := Capture.eq_of_updateRequirements done
        cases changed with
        | true =>
            obtain ⟨plan, version_eq, rfl⟩ := outcome
            refine ⟨sound.settings, ?_, ?_, nofun⟩
            · rw [plans_concat, ← sound.version]
              exact version_eq
            · rw [plans_concat, lastGiven_concat]
              rfl
        | false =>
            obtain rfl := outcome
            have planned : past.plans ≠ 0 := by
              intro unplanned
              have needs : past.capture.needsPlan requirements = true :=
                Capture.needsPlan_eq_true_iff.mpr (.inl (sound.version.trans unplanned))
              exact Bool.false_ne_true (changed_eq.trans needs)
            refine ⟨sound.settings, ?_, ?_, fun s cached => ?_⟩
            · rw [plans_concat]
              exact sound.version
            · rw [plans_concat, lastGiven_concat]
              exact (if_neg planned).symm
            · obtain ⟨version_eq, keeps⟩ := sound.cache s cached
              exact ⟨version_eq, keeps.concat _ rfl⟩
  | invalidate =>
      exact sound.concat_of_silent sound.settings rfl rfl rfl rfl nofun
  | look source state now =>
      rw [Chronicle.call, Capture.answer]
      rcases done : past.capture.snapshot source state now with
        fault | ⟨observed, events, c', state'⟩
      · exact silent rfl rfl rfl
      · obtain ⟨plan_eq, requirements_eq, cache_eq⟩ := Capture.kept_of_snapshot done
        have settings_eq := (Capture.settings_of_snapshot done).trans sound.settings
        refine sound.concat_of_silent settings_eq plan_eq requirements_eq rfl rfl ?_
        intro s cached
        have still (unchanged : c'.cache = past.capture.cache) :
            s.planVersion = c'.plan.version ∧
              Keeps ⟨c', past.entries ++
                [.looked now (past.capture.grabs source state now) observed]⟩ s := by
          obtain ⟨version_eq, keeps⟩ := sound.cache s (unchanged.symm.trans cached)
          exact ⟨version_eq.trans (congrArg Plan.version plan_eq).symm, keeps.concat _ rfl⟩
        cases observed with
        | error => exact still (cache_eq rfl)
        | ok shown =>
            rcases Capture.shown_of_snapshot done with
              ⟨_, rfl, _⟩ | ⟨anew, version_eq, _, cached_eq⟩
            · exact still rfl
            · obtain rfl := Option.some.inj (cached.symm.trans cached_eq)
              refine ⟨version_eq.trans (congrArg Plan.version plan_eq).symm,
                past.entries, _, [], by rw [anew.takenAt], ?_, nofun⟩
              rw [anew.grabs]
              simpa using anew.planned

end Chronicle

end Rotation
