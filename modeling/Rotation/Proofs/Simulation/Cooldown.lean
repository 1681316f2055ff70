import Rotation.Proofs.Order.Table
import Rotation.Proofs.Simulation.Course

/-!
# Simulated cooldowns

The cooldowns of a simulation are kept in a table, which all tracks and gateways
share.  The table always agrees with the timeline: a skill is ready again when
its last cast and its cooldown are over.  So it can be read off the timeline
whether a skill could be cast, and whenever it could, it was.
-/

namespace Rotation.Simulation

/-! ## The last cast -/

/-- Whether an entry tells of a cast of a skill. -/
def Entry.casts (id : String) (e : Entry) : Bool :=
  e.outcome == .cast && e.skill == some id

/-- When a skill was last cast. -/
def lastCast? (id : String) (timeline : List Entry) : Option Nat :=
  (timeline.filter (Entry.casts id)).getLast?.map Entry.time

theorem lastCast?_concat (id : String) (timeline : List Entry) (e : Entry) :
    lastCast? id (timeline ++ [e]) = if e.casts id then some e.time else lastCast? id timeline := by
  unfold lastCast?
  rw [List.filter_append]
  cases own : e.casts id <;> simp [own]

theorem lastCast?_eq_none_iff {id : String} {timeline : List Entry} :
    lastCast? id timeline = none ↔ ∀ e ∈ timeline, e.casts id = false := by
  simp [lastCast?]

/-- When a skill is ready again after it has been cast. -/
def readyAfter (own : Skill) (cast : Nat) : Nat :=
  cast + own.castMs.toNat + own.cooldownMs.toNat

/-- An entry about a skill tells that it was cast if it was ready, and else that
it was cooling down. -/
structure Entry.KeepsCooldown (own : Skill) (id : String) (before : List Entry) (e : Entry) :
    Prop where
  outcome : e.outcome = .cast ∨ e.outcome = .skippedCooldown
  cast_iff : e.outcome = .cast ↔ ∀ last, lastCast? id before = some last →
    readyAfter own last ≤ e.time

/-! ## Cooldowns and casts -/

namespace State

/-- The cooldowns are those that the timeline tells of, and have been kept. -/
structure Clocked (catalogue : Catalogue) (s : State) : Prop where
  readyAt : ∀ id own, catalogue.skill? id = some own →
    s.readyAt.find? id = (lastCast? id s.timeline.toList).map (readyAfter own)
  exact : ∀ id own, catalogue.skill? id = some own → own.enabled = true →
    ∀ before e, before ++ [e] <+: s.timeline.toList → e.skill = some id →
      e.KeepsCooldown own id before

variable {p : Preset} {catalogue : Catalogue} {s s' : State} {c : Candidate} {node id : String}

theorem clocked_start (p : Preset) (catalogue : Catalogue) : (start p).Clocked catalogue where
  readyAt id own found := rfl
  exact id own found on before e before_start := by
    have nothing := List.prefix_nil.mp before_start
    simp at nothing

/-- Another entry keeps the cooldowns, if they are set by casts alone and the
entry is right about them. -/
theorem Clocked.concat (clocked : s.Clocked catalogue) {e : Entry}
    (timeline_eq : s'.timeline = s.timeline.push e)
    (readyAt_eq : ∀ id own, catalogue.skill? id = some own → s'.readyAt.find? id =
      if e.casts id then some (readyAfter own e.time) else s.readyAt.find? id)
    (right : ∀ id own, catalogue.skill? id = some own → own.enabled = true → e.skill = some id →
      e.KeepsCooldown own id s.timeline.toList) : s'.Clocked catalogue where
  readyAt id own found := by
    rw [readyAt_eq id own found, timeline_eq, Array.toList_push, lastCast?_concat,
      clocked.readyAt id own found]
    split <;> rfl
  exact id own found on before last shorter about := by
    rw [timeline_eq, Array.toList_push, List.prefix_concat_iff] at shorter
    rcases shorter with whole | earlier
    · obtain ⟨rfl, rfl⟩ := List.append_singleton_inj.mp whole
      exact right id own found on about
    · exact clocked.exact id own found on before last earlier about

/-- An entry that is about no skill changes no cooldown. -/
theorem Clocked.record (clocked : s.Clocked catalogue) (c : Candidate) (node : String)
    (outcome : Outcome) (reason : Option String) :
    (s.record c node none outcome reason).Clocked catalogue := by
  apply clocked.concat rfl
  · intro id own found
    simp [Entry.casts, State.record]
  · rintro id own found on ⟨⟩

/-- A skill cools down exactly until its cooldown after the last cast is over. -/
theorem Clocked.due_iff (clocked : s.Clocked catalogue) {own : Skill}
    (found : catalogue.skill? id = some own) :
    (∀ ready, s.readyAt.find? id = some ready → ready ≤ s.now) ↔
      ∀ last, lastCast? id s.timeline.toList = some last → readyAfter own last ≤ s.now := by
  rw [clocked.readyAt id own found]
  simp

/-- A cast that is tried leaves one entry, which is about its skill at the
present time. -/
theorem Tries.exists_entry (tried : s.Tries catalogue c node id s') :
    ∃ e, s'.timeline = s.timeline.push e ∧ e.time = s.now ∧ e.skill = some id := by
  cases tried with
  | unknown | disabled | cooling => exact ⟨_, rfl, rfl, rfl⟩
  | casts => exact ⟨_, timeline_record_afterCast .., rfl, rfl⟩

/-- Whatever becomes of a cast, the cooldowns have been kept. -/
theorem Clocked.tries (clocked : s.Clocked catalogue) (tried : s.Tries catalogue c node id s') :
    s'.Clocked catalogue := by
  cases tried with
  | unknown missing =>
      apply clocked.concat rfl
      · intro other own found
        simp [Entry.casts, State.record]
      · rintro other own found on ⟨⟩
        rw [found] at missing
        contradiction
  | disabled found off =>
      apply clocked.concat rfl
      · intro other own found
        simp [Entry.casts, State.record]
      · rintro other own other_found on ⟨⟩
        cases found.symm.trans other_found
        rw [off] at on
        contradiction
  | cooling found on cools early =>
      apply clocked.concat rfl
      · intro other own found
        simp [Entry.casts, State.record]
      · rintro other own other_found _ ⟨⟩
        cases found.symm.trans other_found
        refine ⟨.inr rfl, ?_⟩
        have not_due := (clocked.due_iff found).not.mp fun due =>
          Nat.not_le_of_lt early (due _ cools)
        simpa using not_due
  | casts found on due =>
      apply clocked.concat (timeline_record_afterCast ..)
      · intro other own other_found
        rw [readyAt_record, readyAt_afterCast, Order.Table.find?_insert]
        by_cases same : other = id
        · cases same
          cases found.symm.trans other_found
          simp only [Entry.casts, beq_self_eq_true, Bool.and_self, if_true]
          rfl
        · simp [Entry.casts, same, Ne.symm same]
      · rintro other own other_found _ ⟨⟩
        cases found.symm.trans other_found
        exact ⟨.inl rfl, iff_of_true rfl ((clocked.due_iff found).mp due)⟩

/-- Every move keeps the cooldowns. -/
theorem Clocked.does (clocked : s.Clocked catalogue) (move : Does p catalogue s s') :
    s'.Clocked catalogue := by
  cases move with
  | waits later => exact ⟨clocked.readyAt, clocked.exact⟩
  | moves schedule => exact ⟨clocked.readyAt, clocked.exact⟩
  | loops c mode => exact clocked.record c _ _ _
  | passes stands found untrue => exact clocked.record _ _ _ _
  | @fires c gateway effect stands =>
      have reset : (s.resetMetrics gateway).Clocked catalogue := by
        unfold resetMetrics
        split
        · exact ⟨clocked.readyAt, clocked.exact⟩
        · exact clocked
      exact reset.record _ _ _ _
  | tries node stands casts tried => exact clocked.tries tried

theorem Clocked.reaches (clocked : s.Clocked catalogue) (reached : Reaches p catalogue s s') :
    s'.Clocked catalogue := by
  induction reached with
  | refl => exact clocked
  | tail _ move ih => exact ih.does move

end State

/-- The cooldown of a skill is kept over a whole timeline, and the report tells
when it is ready again. -/
structure Report.KeepsCooldown (r : Report) (own : Skill) (id : String) : Prop where
  exact : ∀ before e, before ++ [e] <+: r.timeline → e.skill = some id →
    e.KeepsCooldown own id before
  readyAt : r.readyAt.find? id = (lastCast? id r.timeline).map (readyAfter own)
  absent_iff : r.readyAt.find? id = none ↔ ∀ e ∈ r.timeline, e.casts id = false

theorem State.Clocked.keepsCooldown {catalogue : Catalogue} {s : State}
    (clocked : s.Clocked catalogue) (p : Preset) (ending : End) {id : String} {own : Skill}
    (found : catalogue.skill? id = some own) (on : own.enabled = true) :
    (s.report p ending).KeepsCooldown own id where
  exact := clocked.exact id own found on
  readyAt := clocked.readyAt id own found
  absent_iff := by
    rw [← lastCast?_eq_none_iff]
    change s.readyAt.find? id = none ↔ _
    rw [clocked.readyAt id own found, Option.map_eq_none_iff]
    rfl

end Rotation.Simulation

namespace Rotation

open Simulation

/-- Simulated cooldowns are exact.  Every execution of a skill leaves one entry
at its time; and in every simulation of a validated preset, unless a sum of
times overflows, the entries of an enabled skill tell of a cast exactly when no
cast before has to be waited for, while all others tell of a cooldown. -/
theorem Draft.keepsCooldowns_of_validate {d : Draft} {catalogue : Catalogue} {p : Preset}
    (valid : (d.validate catalogue).preset = some p) (used : Catalogue) (options : Options) :
    (∀ (s : State) c node id castMs s', s.cast used c node id = .ok (castMs, s') →
        ∃ e, s'.timeline = s.timeline.push e ∧ e.time = s.now ∧ e.skill = some id) ∧
      (simulate p used options).Meets fun result => ∃ report, result = .ok report ∧
        ∀ id own, used.skill? id = some own → own.enabled = true →
          report.KeepsCooldown own id := by
  constructor
  · intro s c node id castMs s' done
    exact (State.tries_of_cast done).exists_entry
  · rcases simulate_meets_of_validate valid used options with
      ⟨_, simulated, s, ending, reached, rfl⟩ | overflow
    · have clocked := (State.clocked_start p used).reaches reached
      exact .inl ⟨_, simulated, _, rfl, fun id own found on => clocked.keepsCooldown p ending found on⟩
    · exact .inr overflow

/-! ## A drill -/

/-- A draft in which a slash is tried again and again, and once more after every
second success. -/
def Draft.drill : Draft :=
  { id := "drill"
    name := ""
    entryMode := none
    defaultGapMs := 0
    globalTracks := [⟨"yard",
      [.skill ⟨"hit", "slash", 0, none, none, .standard, .standard, .standard⟩,
        .gateway ⟨"twice", 0, none, .record
          [("type", .text "skill_metric_ge"), ("skill_id", .text "slash"),
            ("metric", .text "success"), ("count", .integer 2)], .castSkill "slash", true⟩]⟩]
    modes := [] }

/-- A slash takes a tenth of a second, and has to rest for longer. -/
def Skill.slash : Skill :=
  { Skill.named "slash" with key := some "1", castMs := 100, cooldownMs := 150 }

/-- What a drill comes to within ten entries. -/
def Draft.drilled? : Option Report :=
  match (drill.validate (.ofLists [.slash] [])).preset.map fun p =>
      simulate p (.ofLists [.slash] []) ⟨10000, 10, 50, 50⟩ with
  | some (.ok (.ok report)) => some report
  | _ => none

/-- A slash is not cast again before it is ready, by whichever node. -/
theorem Draft.drill_keepsCooldowns :
    ∃ report, drilled? = some report ∧ report.KeepsCooldown .slash "slash" ∧
      (report.timeline.filter fun e => e.skill == some "slash").map
          (fun e => (e.time, e.node, e.outcome)) =
        [(0, "hit", .cast), (150, "hit", .skippedCooldown), (250, "hit", .cast),
          (350, "exec:slash", .skippedCooldown), (400, "hit", .skippedCooldown),
          (500, "hit", .cast)] ∧
      report.readyAt.find? "slash" = some 750 := by
  have checked : (drilled?.map fun report =>
      ((report.timeline.filter fun e => e.skill == some "slash").map
        (fun e => (e.time, e.node, e.outcome)), report.readyAt.find? "slash")) =
      some ([(0, "hit", .cast), (150, "hit", .skippedCooldown), (250, "hit", .cast),
        (350, "exec:slash", .skippedCooldown), (400, "hit", .skippedCooldown),
        (500, "hit", .cast)], some 750) := by decide +kernel
  obtain ⟨report, drilled, same⟩ := Option.map_eq_some_iff.mp checked
  obtain ⟨timeline_eq, ready_eq⟩ := Prod.mk.inj same
  refine ⟨report, drilled, ?_, timeline_eq, ready_eq⟩
  unfold drilled? at drilled
  split at drilled
  · rename_i own ran
    cases drilled
    obtain ⟨p, valid, simulated⟩ := Option.map_eq_some_iff.mp ran
    obtain ⟨_, same, kept⟩ :=
      (keepsCooldowns_of_validate valid (.ofLists [.slash] [])
        ⟨10000, 10, 50, 50⟩).2.of_eq_ok simulated
    cases same
    exact kept "slash" .slash (by decide) rfl
  · contradiction

end Rotation
