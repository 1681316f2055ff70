import Rotation.Proofs.Attempt.Replay
import Rotation.Proofs.Simulation.Cooldown
import Rotation.Simulation.Run

/-!
# Simulated metrics

The attempts of a simulation are ideal: each is begun, pressed and seen through
to its success at once, while no other is under way.  All that it leaves behind
are counts of one skill, and the store is as idle as before.

A simulation counts its casts in the same store that a live run uses, and its
gateways read and reset the counts there.  The counts can be read off the
timeline: each metric but that of failures is the number of casts since a
gateway last fired that resets it.
-/

namespace Rotation

open Rotation.Order

/-! ## Ideal attempts -/

/-- The counters after an ideal attempt. -/
def SkillCounters.succeeded (c : SkillCounters) : SkillCounters :=
  { c with
    attemptStarted := c.attemptStarted + 1
    keySent := c.keySent + 1
    castStarted := c.castStarted + 1
    success := c.success + 1
    lastStage := some .success
    inFlight := none }

/-- Each metric but that of failures is counted once. -/
theorem SkillCounters.get_succeeded (c : SkillCounters) (metric : Metric) :
    c.succeeded.get metric = c.get metric + if metric = .fail then 0 else 1 := by
  cases metric <;> rfl

/-- That is what the stages of the attempt come to. -/
theorem SkillCounters.succeeded_of_stages (c : SkillCounters) (id : String) :
    ((({ c.started id with keySent := (c.started id).keySent + 1 }.entered .startWait).entered
      .casting).entered .completeWait).finished id .success none = c.succeeded := by
  simp [started, entered, finished, succeeded]

namespace Store

/-- No attempt is under way. -/
structure Idle (s : Store) : Prop where
  live : s.live = []
  inFlight : ∀ skill, (s.countersOf skill).inFlight = none

/-- One attempt at a skill is under way, which has changed the counters of the
skill since the store was as before. -/
structure Busy (before s : Store) (id skill : String) (f : SkillCounters → SkillCounters) :
    Prop where
  live : ∃ a, s.live = [(id, a)] ∧ a.id = id ∧ a.skill = skill
  counters : s.counters = before.counters.modify skill .zero f

variable {before s : Store} {id skill : String} {f : SkillCounters → SkillCounters}

theorem Idle.begin (idle : before.Idle) (skill node : String) (time : Nat) :
    let begun := before.begin skill node time
    before.Busy begun.store begun.result skill fun c => c.started begun.result := by
  have clear : before.supersede skill time = ⟨(), [], before⟩ := by
    simp [supersede, idle.inFlight skill]
  unfold Store.begin
  rw [clear]
  constructor
  · simp [annotate, count, idle.live, Attempt.addNote, Table.insert]
  · rfl

/-- What is counted while the attempt changes is counted for its skill. -/
theorem Busy.count (busy : before.Busy s id skill f) {a b : Attempt}
    (found : s.live.find? id = some a) (id_eq : b.id = a.id) (skill_eq : b.skill = a.skill)
    (note : AttemptNote) (g : SkillCounters → SkillCounters) :
    before.Busy ((s.annotate b note).count a.skill g) id skill fun c => g (f c) := by
  obtain ⟨own, live_eq, rfl, rfl⟩ := busy.live
  obtain rfl : own = a := by simpa [live_eq, Table.find?] using found
  constructor
  · refine ⟨b.addNote s.limits.attemptNotes note, ?_, id_eq, skill_eq⟩
    simp [Store.count, annotate, live_eq, Table.insert, id_eq]
  · change s.counters.modify own.skill .zero g = _
    rw [busy.counters, Table.modify_modify]

theorem Busy.exists_found (busy : before.Busy s id skill f) :
    ∃ a, s.live.find? id = some a ∧ a.skill = skill := by
  obtain ⟨a, live_eq, _, skill_eq⟩ := busy.live
  exact ⟨a, by simp [live_eq, Table.find?], skill_eq⟩

theorem Busy.keySent (busy : before.Busy s id skill f) (time : Nat) :
    before.Busy (s.keySent id time).store id skill fun c =>
      { f c with keySent := (f c).keySent + 1 } := by
  obtain ⟨a, found, _⟩ := busy.exists_found
  unfold Store.keySent
  rw [found]
  exact busy.count found rfl rfl _ fun c => { c with keySent := c.keySent + 1 }

theorem Busy.transition (busy : before.Busy s id skill f) (stage : Stage)
    (ongoing : stage.isTerminal = false) (time : Nat) :
    before.Busy (s.transition id stage time).store id skill fun c => (f c).entered stage := by
  obtain ⟨a, found, _⟩ := busy.exists_found
  unfold Store.transition
  rw [ongoing, found]
  exact busy.count (b := { a with stage }) found rfl rfl _ fun c => c.entered stage

/-- The end of the attempt leaves nothing but its counts. -/
theorem Busy.finish (busy : before.Busy s id skill f) (stage : Stage)
    (ends : stage.isTerminal = true) (reason : Option String) (time : Nat) :
    (s.finish id stage reason time).store.live = [] ∧
      (s.finish id stage reason time).store.counters =
        before.counters.modify skill .zero fun c => (f c).finished id stage reason := by
  obtain ⟨a, live_eq, _, rfl⟩ := busy.live
  have found : s.live.find? id = some a := by simp [live_eq, Table.find?]
  have accepted : ¬(!stage.isTerminal) = true := by simp [ends]
  unfold Store.finish
  rw [if_neg accepted, found]
  constructor
  · simp [Store.count, live_eq, Table.erase]
  · change (s.counters.modify a.skill .zero fun c => c.finished id stage reason) = _
    rw [busy.counters, Table.modify_modify]

theorem countersOf_of_modify (counted : s.counters = before.counters.modify skill .zero f)
    (other : String) :
    s.countersOf other = if other = skill then f (before.countersOf skill)
      else before.countersOf other := by
  unfold countersOf
  rw [counted, Table.find?_modify]
  split <;> rfl

end Store

namespace Simulation.State

variable {s : State}

/-- An ideal attempt leaves an idle store idle and counts a success. -/
theorem attempt_of_idle (idle : s.store.Idle) (skill node : String) (done : Nat) :
    (s.attempt skill node done).store.Idle ∧
      (s.attempt skill node done).store.counters =
        s.store.counters.modify skill .zero SkillCounters.succeeded := by
  have begun := idle.begin skill node s.now
  have pressed := begun.keySent s.now
  have waiting := pressed.transition .startWait rfl s.now
  have casting := waiting.transition .casting rfl s.now
  have completing := casting.transition .completeWait rfl s.now
  obtain ⟨live_eq, counters_eq⟩ := completing.finish .success rfl none done
  have counted : (s.attempt skill node done).store.counters =
      s.store.counters.modify skill .zero SkillCounters.succeeded := by
    simp only [attempt, List.foldl_cons, List.foldl_nil]
    simp only [counters_eq, SkillCounters.succeeded_of_stages]
  have live : (s.attempt skill node done).store.live = [] := by
    simp only [attempt, List.foldl_cons, List.foldl_nil]
    exact live_eq
  refine ⟨⟨live, ?_⟩, counted⟩
  intro other
  rw [Store.countersOf_of_modify counted]
  split
  · rfl
  · exact idle.inFlight other

end Simulation.State

/-! ## Gateways by name -/

/-- The gateway with a name in the track with a name. -/
def Preset.gateway? (p : Preset) (track node : String) : Option Gateway :=
  match (p.locate? track).bind fun place =>
      (p.track? place).bind fun t => t.nodes.find? fun n => n.id == node with
  | some (.gateway gateway) => some gateway
  | _ => none

/-- A name stands for one track, and in a track for one node. -/
structure Preset.HasDistinctNames (p : Preset) : Prop where
  tracks : p.HasDistinctTracks
  nodes : ∀ place track, p.track? place = some track → (track.nodes.map Node.id).Nodup

theorem Draft.Compiles.hasDistinctNames {d : Draft} {catalogue : Catalogue} {p : Preset}
    (compiles : d.Compiles catalogue p) : p.HasDistinctNames where
  tracks := compiles.hasDistinctTracks
  nodes _ _ there := compiles.hasDistinctNodes there

theorem find?_id_eq_of_nodup {nodes : List Node} (distinct : (nodes.map Node.id).Nodup) {n : Node}
    (mem : n ∈ nodes) : (nodes.find? fun other => other.id == n.id) = some n := by
  cases found : nodes.find? fun other => other.id == n.id with
  | none => exact absurd (List.find?_eq_none.mp found n mem) (by simp)
  | some other =>
      have same : other.id = n.id := by simpa using List.find?_some found
      rw [List.inj_on_of_nodup_map distinct (List.mem_of_find?_eq_some found) mem same]

/-- The gateway that a candidate stands for is the one of its names. -/
theorem Preset.StandsFor.gateway?_eq {p : Preset} (distinct : p.HasDistinctNames) {c : Candidate}
    {gateway : Gateway} (stands : p.StandsFor c (.gateway gateway)) :
    p.gateway? c.track gateway.id = some gateway := by
  obtain ⟨track, there, at_node, named⟩ := stands
  have located : p.locate? c.track = some c.place := by
    rw [Preset.locate?_eq_some_iff distinct.tracks]
    exact ⟨track, there, named.symm⟩
  have found : (track.nodes.find? fun n => n.id == gateway.id) = some (.gateway gateway) :=
    find?_id_eq_of_nodup (distinct.nodes c.place track there) (List.mem_of_getElem? at_node)
  simp [gateway?, located, there, found]

/-! ## Resets -/

/-- Whether a condition has a threshold on a metric of a skill. -/
def Condition.readsMetric (c : Condition) (skill : String) (metric : Metric) : Bool :=
  c.atoms.any fun
    | .metricAtLeast own kind _ => own == skill && kind == metric
    | _ => false

theorem Condition.readsMetric_iff {c : Condition} {skill : String} {metric : Metric} :
    c.readsMetric skill metric = true ↔ (skill, metric) ∈ c.metricAtoms := by
  rw [mem_metricAtoms_iff, readsMetric, List.any_eq_true]
  constructor
  · rintro ⟨atom, mem, same⟩
    cases atom with
    | metricAtLeast own kind count =>
        obtain ⟨rfl, rfl⟩ : own = skill ∧ kind = metric := by simpa using same
        exact ⟨count, mem⟩
    | _ => contradiction
  · rintro ⟨count, mem⟩
    exact ⟨_, mem, by simp⟩

theorem SkillCounters.get_reset (c : SkillCounters) (metric other : Metric) :
    (c.reset metric).get other = if other = metric then 0 else c.get other := by
  cases metric <;> cases other <;> rfl

namespace Store

/-- A store has become another by the reset of some metrics and nothing else. -/
structure Forgets (s s' : Store) (metrics : List (String × Metric)) : Prop where
  live : s'.live = s.live
  inFlight : ∀ skill, (s'.countersOf skill).inFlight = (s.countersOf skill).inFlight
  ascending : s.counters.Ascending → s'.counters.Ascending
  known : ∀ skill, s'.counters.find? skill = none ↔ s.counters.find? skill = none
  metric : ∀ skill metric, s'.metric skill metric =
    if (skill, metric) ∈ metrics then 0 else s.metric skill metric

theorem forgets_nil (s : Store) : s.Forgets s [] where
  live := rfl
  inFlight _ := rfl
  ascending ascending := ascending
  known _ := .rfl
  metric _ _ := rfl

theorem forgets_resetMetric (s : Store) (skill : String) (metric : Metric) (time : Nat) :
    s.Forgets (s.resetMetric skill metric time).store [(skill, metric)] where
  live := live_resetMetric s skill metric time
  inFlight other := by
    rw [countersOf_resetMetric]
    split
    · rename_i same
      rw [same]
      cases metric <;> rfl
    · rfl
  ascending ascending := by
    unfold Store.resetMetric
    cases s.counters.find? skill with
    | none => exact ascending
    | some c => exact Table.ascending_insert ascending skill _
  known other := by
    unfold Store.resetMetric
    cases found : s.counters.find? skill with
    | none => rfl
    | some c =>
        rw [Table.find?_insert]
        split
        · rename_i same
          simp [same, found]
        · rfl
  metric other kind := by
    unfold Store.metric
    rw [countersOf_resetMetric]
    by_cases same : other = skill
    · simp [same, SkillCounters.get_reset]
    · simp [same]

theorem Forgets.trans {s t u : Store} {first second : List (String × Metric)}
    (forgets : s.Forgets t first) (then_forgets : t.Forgets u second) :
    s.Forgets u (first ++ second) where
  live := then_forgets.live.trans forgets.live
  inFlight skill := (then_forgets.inFlight skill).trans (forgets.inFlight skill)
  ascending ascending := then_forgets.ascending (forgets.ascending ascending)
  known skill := (then_forgets.known skill).trans (forgets.known skill)
  metric skill metric := by
    rw [then_forgets.metric, forgets.metric]
    simp only [List.mem_append]
    split <;> simp_all

theorem forgets_foldl (s : Store) (metrics : List (String × Metric)) (time : Nat) :
    s.Forgets (metrics.foldl
      (fun store atom => (store.resetMetric atom.1 atom.2 time).store) s) metrics := by
  induction metrics generalizing s with
  | nil => exact forgets_nil s
  | cons atom rest ih => exact (forgets_resetMetric s atom.1 atom.2 time).trans (ih _)

end Store

namespace Simulation

/-- Whether an outcome tells that a gateway has fired. -/
def Outcome.isFired : Outcome → Bool
  | .ended | .switchedMode | .jumpedNode | .jumpedTrack | .castSkill => true
  | _ => false

/-- Whether an entry tells that a gateway has fired that resets a metric. -/
def Entry.resets (p : Preset) (skill : String) (metric : Metric) (e : Entry) : Bool :=
  e.outcome.isFired && (p.gateway? e.track e.node).any fun gateway =>
    gateway.resetsMetrics && gateway.condition.readsMetric skill metric

/-- How often a skill has been cast since a metric of it was last reset. -/
def castsSinceReset (p : Preset) (skill : String) (metric : Metric) (timeline : List Entry) : Nat :=
  tallySince (Entry.resets p skill metric) (Entry.casts skill) timeline

namespace State

/-- The store of a simulation counts what the timeline tells. -/
structure Counted (p : Preset) (s : State) : Prop where
  idle : s.store.Idle
  ascending : s.store.counters.Ascending
  unfailed : ∀ skill, s.store.metric skill .fail = 0
  metric : ∀ skill metric, metric ≠ .fail →
    s.store.metric skill metric = castsSinceReset p skill metric s.timeline.toList
  unknown_iff : ∀ skill, s.store.counters.find? skill = none ↔
    ∀ e ∈ s.timeline.toList, e.casts skill = false

variable {p : Preset} {catalogue : Catalogue} {s s' : State} {c : Candidate} {node id : String}

theorem counted_start (p : Preset) : (start p).Counted p where
  idle := ⟨rfl, fun _ => rfl⟩
  ascending := Table.ascending_nil
  unfailed _ := rfl
  metric _ metric _ := by cases metric <;> rfl
  unknown_iff skill := by simp [start, Store.empty, Table.find?]

/-- Another entry is counted when the store counts what it tells: a gateway that
fires resets, and a cast counts once. -/
theorem Counted.concat (counted : s.Counted p) {e : Entry}
    (timeline_eq : s'.timeline = s.timeline.push e) (idle : s'.store.Idle)
    (ascending : s'.store.counters.Ascending)
    (metric_eq : ∀ skill metric, s'.store.metric skill metric =
      if e.resets p skill metric then 0
      else s.store.metric skill metric + if e.casts skill ∧ metric ≠ .fail then 1 else 0)
    (unknown_iff : ∀ skill, s'.store.counters.find? skill = none ↔
      s.store.counters.find? skill = none ∧ e.casts skill = false) : s'.Counted p where
  idle := idle
  ascending := ascending
  unfailed skill := by simp [metric_eq, counted.unfailed]
  metric skill metric counts := by
    rw [metric_eq, timeline_eq, Array.toList_push, castsSinceReset, tallySince_concat,
      counted.metric skill metric counts]
    cases e.casts skill <;> simp [counts, castsSinceReset]
  unknown_iff skill := by
    rw [unknown_iff, timeline_eq, Array.toList_push, counted.unknown_iff skill]
    simp [or_imp, forall_and]

/-- An entry that tells neither of a cast nor of a fired gateway counts for
nothing. -/
theorem Counted.record (counted : s.Counted p) (c : Candidate) (node : String)
    (skill : Option String) {outcome : Outcome} (reason : Option String)
    (uncast : outcome ≠ .cast) (unfired : outcome.isFired = false) :
    (s.record c node skill outcome reason).Counted p := by
  refine counted.concat rfl counted.idle counted.ascending ?_ ?_
  · intro other metric
    simp [Entry.resets, unfired, Entry.casts, uncast, State.record]
  · intro other
    simp [Entry.casts, uncast, State.record]

/-- A gateway that fires resets what its entry says. -/
theorem Counted.fires (counted : s.Counted p) (distinct : p.HasDistinctNames) {gateway : Gateway}
    (stands : p.StandsFor c (.gateway gateway)) {outcome : Outcome} (reason : Option String)
    (fired : outcome.isFired = true) :
    ((s.resetMetrics gateway).record c gateway.id none outcome reason).Counted p := by
  let metrics := if gateway.resetsMetrics then gateway.condition.metricAtoms else []
  have forgets : s.store.Forgets (s.resetMetrics gateway).store metrics := by
    unfold resetMetrics
    by_cases resets : gateway.resetsMetrics = true
    · simpa [metrics, resets] using Store.forgets_foldl s.store gateway.condition.metricAtoms s.now
    · simpa [metrics, resets] using Store.forgets_nil s.store
  have resets_iff : ∀ skill metric, ((p.gateway? c.track gateway.id).any fun g =>
      g.resetsMetrics && g.condition.readsMetric skill metric) = true ↔
        (skill, metric) ∈ metrics := by
    intro skill metric
    rw [stands.gateway?_eq distinct, Option.any_some, Bool.and_eq_true,
      Condition.readsMetric_iff]
    by_cases resets : gateway.resetsMetrics = true <;> simp [metrics, resets]
  have idle : (s.resetMetrics gateway).store.Idle :=
    ⟨forgets.live.trans counted.idle.live,
      fun skill => (forgets.inFlight skill).trans (counted.idle.inFlight skill)⟩
  have timeline_eq : (s.resetMetrics gateway).timeline = s.timeline := by
    unfold resetMetrics
    split <;> rfl
  refine counted.concat (congrArg (Array.push · _) timeline_eq) idle
    (forgets.ascending counted.ascending) ?_ ?_
  · intro skill metric
    refine (forgets.metric skill metric).trans ?_
    simp only [Entry.resets, fired, Bool.true_and, resets_iff]
    simp [Entry.casts]
  · intro skill
    refine (forgets.known skill).trans ?_
    simp [Entry.casts]

/-- A cast counts for its skill. -/
theorem Counted.casts (counted : s.Counted p) (c : Candidate) (own : Skill) (node id : String) :
    ((s.afterCast own id node).record c node (some id) .cast none).Counted p := by
  obtain ⟨idle, counters_eq⟩ := attempt_of_idle counted.idle id node (s.now + own.castMs.toNat)
  rw [← store_afterCast, ← store_record _ c node (some id) .cast none] at idle counters_eq
  have ascending := Table.ascending_modify counted.ascending id .zero SkillCounters.succeeded
  rw [← counters_eq] at ascending
  refine counted.concat (timeline_record_afterCast ..) idle ascending ?_ ?_
  · intro skill metric
    unfold Store.metric
    rw [Store.countersOf_of_modify counters_eq]
    by_cases same : skill = id
    · cases metric <;>
        simp [same, SkillCounters.get_succeeded, Entry.resets, Outcome.isFired, Entry.casts]
    · simp [same, Ne.symm same, Entry.resets, Outcome.isFired, Entry.casts]
  · intro skill
    rw [counters_eq, Table.find?_modify]
    by_cases same : skill = id
    · simp [same, Entry.casts]
    · simp [same, Ne.symm same, Entry.casts]

theorem Counted.tries (counted : s.Counted p) (tried : s.Tries catalogue c node id s') :
    s'.Counted p := by
  cases tried with
  | unknown | disabled | cooling => exact counted.record c node _ _ (by simp) rfl
  | casts => exact counted.casts c _ node id

theorem isFired_effectOutcome (p : Preset) (c : Candidate) (effect : Effect) :
    (effectOutcome p c effect).1.isFired = true := by
  cases effect with
  | jumped target node =>
      simp only [effectOutcome]
      split <;> rfl
  | _ => rfl

/-- Every move counts what it tells. -/
theorem Counted.does (distinct : p.HasDistinctNames) (counted : s.Counted p)
    (move : Does p catalogue s s') : s'.Counted p := by
  cases move with
  | waits | moves =>
      exact ⟨counted.idle, counted.ascending, counted.unfailed, counted.metric,
        counted.unknown_iff⟩
  | loops c mode => exact counted.record c "" none _ (by simp) rfl
  | passes stands found untrue => exact counted.record _ _ none _ (by simp) rfl
  | @fires c gateway effect stands =>
      exact counted.fires distinct stands _ (isFired_effectOutcome p c effect)
  | tries node stands casts tried => exact counted.tries tried

theorem Counted.reaches (distinct : p.HasDistinctNames) (counted : s.Counted p)
    (reached : Reaches p catalogue s s') : s'.Counted p := by
  induction reached with
  | refl => exact counted
  | tail _ move ih => exact ih.does distinct move

/-- A report shows the counters as they are. -/
theorem metrics_report (ascending : s.store.counters.Ascending) (p : Preset) (ending : End) :
    (s.report p ending).metrics = s.store.counters := by
  have own : ∀ entry ∈ s.store.counters, (entry.1, s.store.countersOf entry.1) = entry := by
    rintro ⟨skill, counters⟩ mem
    have found := (Table.find?_eq_some_iff ascending).mpr mem
    simp [Store.countersOf, found]
  simp only [report, Store.skills, Table.keys, List.map_map, Function.comp_def, Store.skill]
  exact (List.map_congr_left own).trans (List.map_id' _)

end State

/-- The metrics of a report are those that its timeline tells of. -/
structure Report.CountsCasts (r : Report) (p : Preset) : Prop where
  ascending : r.metrics.Ascending
  mem_keys_iff : ∀ skill, skill ∈ r.metrics.keys ↔ ∃ e ∈ r.timeline, e.casts skill = true
  metric : ∀ skill counters, (skill, counters) ∈ r.metrics → ∀ metric, metric ≠ .fail →
    counters.get metric = castsSinceReset p skill metric r.timeline
  unfailed : ∀ skill counters, (skill, counters) ∈ r.metrics → counters.fail = 0
  landed : ∀ skill counters, (skill, counters) ∈ r.metrics → counters.inFlight = none

theorem State.Counted.countsCasts {p : Preset} {s : State} (counted : s.Counted p) (ending : End) :
    (s.report p ending).CountsCasts p := by
  have metrics_eq := metrics_report counted.ascending p ending
  have own : ∀ skill counters, (skill, counters) ∈ (s.report p ending).metrics →
      s.store.countersOf skill = counters := by
    intro skill counters mem
    rw [metrics_eq, ← Table.find?_eq_some_iff counted.ascending] at mem
    simp [Store.countersOf, mem]
  constructor
  · rw [metrics_eq]
    exact counted.ascending
  · intro skill
    rw [metrics_eq]
    have known_iff : skill ∈ s.store.counters.keys ↔ s.store.counters.find? skill ≠ none := by
      rw [Option.ne_none_iff_exists']
      simp only [Table.find?_eq_some_iff counted.ascending, Table.keys, List.mem_map,
        Prod.exists, exists_and_right, exists_eq_right]
    rw [known_iff, ne_eq, counted.unknown_iff skill]
    simp [report]
  · intro skill counters mem metric counts
    rw [← own skill counters mem]
    exact counted.metric skill metric counts
  · intro skill counters mem
    rw [← own skill counters mem]
    exact counted.unfailed skill
  · intro skill counters mem
    rw [← own skill counters mem]
    exact counted.idle.inFlight skill

end Simulation

open Simulation

/-- The metrics of a simulation agree with its timeline, whatever validated
preset it runs and however far it goes: exactly the skills that have been cast
have metrics; each of these is the number of casts since a gateway has last
fired that resets it; nothing has failed, and nothing is left in flight. -/
theorem Draft.countsCasts_of_validate {d : Draft} {catalogue : Catalogue} {p : Preset}
    (valid : (d.validate catalogue).preset = some p) {used : Catalogue} {options : Options}
    {report : Report} (simulated : simulate p used options = .ok (.ok report)) :
    report.CountsCasts p := by
  have distinct := (compiles_of_validate valid).hasDistinctNames
  obtain ⟨s, ending, reached, same⟩ :=
    (simulate_meets_of_validate valid used options).of_eq_ok simulated
  cases same
  exact ((State.counted_start p).reaches distinct reached).countsCasts ending

/-- In a drill all attempts are counted, but only the successes since the last
time that two of them have been made up for. -/
theorem Draft.drill_countsCasts :
    ∃ p report counters, (drill.validate (.ofLists [.slash] [])).preset = some p ∧
      drilled? = some report ∧ report.CountsCasts p ∧ report.metrics = [("slash", counters)] ∧
      counters.attemptStarted = 3 ∧ counters.success = 1 := by
  have checked : (drilled?.map fun report => report.metrics.map fun entry =>
      (entry.1, entry.2.attemptStarted, entry.2.success)) = some [("slash", 3, 1)] := by
    decide +kernel
  obtain ⟨report, drilled, same⟩ := Option.map_eq_some_iff.mp checked
  obtain ⟨entry, metrics_eq, entry_eq⟩ := List.map_eq_singleton_iff.mp same
  obtain ⟨skill, counters⟩ := entry
  simp only [Prod.mk.injEq] at entry_eq
  obtain ⟨rfl, started, succeeded⟩ := entry_eq
  have ran := drilled
  unfold drilled? at ran
  split at ran
  · rename_i own simulation
    cases ran
    obtain ⟨p, valid, simulated⟩ := Option.map_eq_some_iff.mp simulation
    exact ⟨p, report, counters, valid, drilled, countsCasts_of_validate valid simulated,
      metrics_eq, started, succeeded⟩
  · contradiction

end Rotation
