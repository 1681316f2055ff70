import Mathlib.Data.List.Basic
import Rotation.Attempt.Store
import Rotation.Proofs.Order.Table

/-!
# Live attempts and counters

The store knows an attempt under way twice: among the live ones, and as the
attempt in flight of its skill.  The two agree after every operation, whatever
its arguments: a skill points to an attempt exactly when this is live and of
the skill, the last stage of the skill is that of the attempt, and no live
attempt has ended.
-/

namespace Rotation.Store

open Rotation.Order

/-! ## Identifiers -/

/-- The number that ends an identifier, after the last number sign. -/
def numberOf (id : String) : Nat :=
  Nat.ofDigitChars 10 (id.toList.reverse.takeWhile fun c => c != '#').reverse 0

/-- The number of an attempt can be read off its identifier, whatever the name
of the skill. -/
theorem numberOf_attemptId (skill : String) (n : Nat) : numberOf (attemptId skill n) = n := by
  have digits_pass : ∀ c ∈ (Nat.toDigits 10 n).reverse, (c != '#') = true := by
    intro c mem
    have digit : c.isDigit = true :=
      Nat.isDigit_of_mem_toDigits (by decide) (by decide) (List.mem_reverse.mp mem)
    rw [bne_iff_ne]
    rintro rfl
    contradiction
  have reversed_eq : (attemptId skill n).toList.reverse =
      (Nat.toDigits 10 n).reverse ++ '#' :: skill.toList.reverse := by
    simp [attemptId]
  rw [numberOf, reversed_eq, List.takeWhile_append_of_pos digits_pass]
  simp

/-! ## Views of the store -/

theorem countersOf_count (s : Store) (skill other : String) (f : SkillCounters → SkillCounters) :
    (s.count skill f).countersOf other =
      if other = skill then f (s.countersOf skill) else s.countersOf other := by
  unfold countersOf count Table.modify
  rw [Table.find?_insert]
  split <;> rfl

@[simp]
theorem countersOf_annotate (s : Store) (a : Attempt) (note : AttemptNote) (skill : String) :
    (s.annotate a note).countersOf skill = s.countersOf skill :=
  rfl

/-- The attempts under way and what their skills point to. -/
structure Linked (s : Store) : Prop where
  ascending : s.live.Ascending
  named : ∀ id a, s.live.find? id = some a →
    a.id = id ∧ ∃ n, n ≤ s.lastNumber ∧ id = attemptId a.skill n
  inFlight_iff : ∀ skill id, (s.countersOf skill).inFlight = some id ↔
    ∃ a, s.live.find? id = some a ∧ a.skill = skill
  lastStage : ∀ id a, s.live.find? id = some a →
    (s.countersOf a.skill).lastStage = some a.stage ∧ a.stage.isTerminal = false

theorem linked_empty (limits : StoreLimits) : (empty limits).Linked where
  ascending := Table.ascending_nil
  named _ _ found := by contradiction
  inFlight_iff skill id := by
    constructor
    · intro pointed
      contradiction
    · rintro ⟨a, found, _⟩
      contradiction
  lastStage _ _ found := by contradiction

/-- Two live attempts of one skill would both be the one in flight. -/
theorem Linked.eq_of_skill_eq {s : Store} (linked : s.Linked) {id other : String} {a b : Attempt}
    (found : s.live.find? id = some a) (other_found : s.live.find? other = some b)
    (skill_eq : a.skill = b.skill) : id = other := by
  have own := (linked.inFlight_iff a.skill id).mpr ⟨a, found, rfl⟩
  have theirs := (linked.inFlight_iff a.skill other).mpr ⟨b, other_found, skill_eq.symm⟩
  exact Option.some.inj (own.symm.trans theirs)

/-- Counting keeps the store linked if it moves neither the pointer nor the
last stage of the skill. -/
theorem Linked.count {s : Store} (linked : s.Linked) (skill : String)
    {f : SkillCounters → SkillCounters} (inFlight_eq : ∀ c, (f c).inFlight = c.inFlight)
    (lastStage_eq : ∀ c, (f c).lastStage = c.lastStage) : (s.count skill f).Linked where
  ascending := linked.ascending
  named := linked.named
  inFlight_iff k id := by
    rw [countersOf_count]
    split
    · rename_i same
      rw [same, inFlight_eq]
      exact linked.inFlight_iff skill id
    · exact linked.inFlight_iff k id
  lastStage id a found := by
    rw [countersOf_count]
    split
    · rename_i same
      rw [lastStage_eq, ← same]
      exact linked.lastStage id a found
    · exact linked.lastStage id a found

/-- A live attempt may change in all but its identifier and skill, if the skill
takes note of its stage. -/
theorem Linked.rewrite {s moved : Store} (linked : s.Linked) {id : String} {a b : Attempt}
    (found : s.live.find? id = some a) (live_eq : moved.live = s.live.insert id b)
    (id_eq : b.id = a.id) (skill_eq : b.skill = a.skill) (stage : b.stage.isTerminal = false)
    (number_eq : moved.lastNumber = s.lastNumber)
    (inFlight_eq : ∀ k, (moved.countersOf k).inFlight = (s.countersOf k).inFlight)
    (lastStage_eq : ∀ k, (moved.countersOf k).lastStage =
      if k = a.skill then some b.stage else (s.countersOf k).lastStage) :
    moved.Linked where
  ascending := live_eq ▸ Table.ascending_insert linked.ascending id b
  named other c c_found := by
    rw [live_eq, Table.find?_insert] at c_found
    rw [number_eq]
    split at c_found
    · rename_i same
      cases c_found
      rw [id_eq, skill_eq, same]
      exact linked.named id a found
    · exact linked.named other c c_found
  inFlight_iff skill other := by
    rw [inFlight_eq, linked.inFlight_iff, live_eq, Table.find?_insert]
    split
    · rename_i same
      simp [same, found, skill_eq]
    · rfl
  lastStage other c c_found := by
    rw [live_eq, Table.find?_insert] at c_found
    rw [lastStage_eq]
    split at c_found
    · cases c_found
      rw [if_pos skill_eq]
      exact ⟨rfl, stage⟩
    · rename_i differs
      have skill_ne : c.skill ≠ a.skill :=
        fun skill_eq => differs (linked.eq_of_skill_eq c_found found skill_eq)
      rw [if_neg skill_ne]
      exact linked.lastStage other c c_found

/-! ## Operations on a live attempt -/

theorem Linked.transition {s : Store} (linked : s.Linked) (id : String) (stage : Stage)
    (time : Nat) : (s.transition id stage time).store.Linked := by
  unfold Store.transition
  split
  · exact linked
  · rename_i ongoing
    cases found : s.live.find? id with
    | none => exact linked
    | some a =>
        obtain ⟨rfl, _⟩ := linked.named id a found
        let changed := { a with stage }.addNote s.limits.attemptNotes ⟨time, stage.name, none⟩
        refine linked.rewrite found (b := changed) rfl rfl rfl
          (Bool.eq_false_of_not_eq_true ongoing) rfl ?_ ?_
        · intro k
          rw [countersOf_count, countersOf_annotate, countersOf_annotate]
          split
          · rename_i same
            rw [same]
            rfl
          · rfl
        · intro k
          rw [countersOf_count, countersOf_annotate, countersOf_annotate]
          split <;> rfl

/-- A remark on a live attempt keeps the store linked. -/
theorem Linked.annotate {s : Store} (linked : s.Linked) {id : String} {a b : Attempt}
    (found : s.live.find? id = some a) (id_eq : b.id = a.id) (skill_eq : b.skill = a.skill)
    (stage_eq : b.stage = a.stage) (note : AttemptNote) : (s.annotate b note).Linked := by
  obtain ⟨own_id, _⟩ := linked.named id a found
  obtain ⟨own_stage, ongoing⟩ := linked.lastStage id a found
  have live_eq : (s.annotate b note).live =
      s.live.insert id (b.addNote s.limits.attemptNotes note) := by
    rw [Store.annotate, id_eq, own_id]
  apply linked.rewrite found live_eq id_eq skill_eq (stage_eq ▸ ongoing) rfl
  · intro k
    rfl
  · intro k
    rw [countersOf_annotate]
    split
    · rename_i same
      rw [same, own_stage, ← stage_eq]
      rfl
    · rfl

theorem Linked.keySent {s : Store} (linked : s.Linked) (id : String) (time : Nat) :
    (s.keySent id time).store.Linked := by
  unfold Store.keySent
  cases found : s.live.find? id with
  | none => exact linked
  | some a =>
      exact (linked.annotate found rfl rfl rfl _).count a.skill (fun c => rfl) (fun c => rfl)

theorem Linked.retry {s : Store} (linked : s.Linked) (id : String) (time : Nat) :
    (s.retry id time).store.Linked := by
  unfold Store.retry
  cases found : s.live.find? id with
  | none => exact linked
  | some a =>
      exact linked.annotate found (b := { a with retries := a.retries + 1 }) rfl rfl rfl _

theorem Linked.note {s : Store} (linked : s.Linked) (id kind : String) (detail : Option String)
    (time : Nat) : (s.note id kind detail time).store.Linked := by
  unfold Store.note
  cases found : s.live.find? id with
  | none => exact linked
  | some a => exact linked.annotate found rfl rfl rfl _

theorem Linked.resetMetric {s : Store} (linked : s.Linked) (skill : String) (metric : Metric)
    (time : Nat) : (s.resetMetric skill metric time).store.Linked := by
  unfold Store.resetMetric
  cases found : s.counters.find? skill with
  | none => exact linked
  | some c =>
      have store_eq : { s with counters := s.counters.insert skill (c.reset metric) } =
          s.count skill fun c => c.reset metric := by
        simp only [Store.count, Table.modify, found, Option.getD_some]
      simp only [store_eq]
      apply linked.count skill
      · intro c
        cases metric <;> rfl
      · intro c
        cases metric <;> rfl

/-! ## The end of attempts -/

theorem inFlight_finished (c : SkillCounters) (attempt : String) (stage : Stage)
    (reason : Option String) :
    (c.finished attempt stage reason).inFlight =
      if c.inFlight = some attempt then none else c.inFlight := by
  cases stage <;> rfl

/-- Finishing takes a live attempt off the live ones and counts its end, or it
is refused. -/
theorem finish_cases (s : Store) (id : String) (stage : Stage) (reason : Option String)
    (time : Nat) :
    (s.finish id stage reason time).store = s ∧
        (stage.isTerminal = true → s.live.find? id = none) ∨
      ∃ a, s.live.find? id = some a ∧
        (s.finish id stage reason time).store.live = s.live.erase id ∧
        (s.finish id stage reason time).store.lastNumber = s.lastNumber ∧
        ∀ k, (s.finish id stage reason time).store.countersOf k =
          if k = a.skill then (s.countersOf a.skill).finished id stage reason
          else s.countersOf k := by
  unfold finish
  split
  · rename_i ongoing
    left
    refine ⟨rfl, fun terminal => ?_⟩
    simp [terminal] at ongoing
  · cases found : s.live.find? id with
    | none => exact .inl ⟨rfl, fun _ => rfl⟩
    | some a =>
        refine .inr ⟨a, rfl, rfl, rfl, ?_⟩
        intro k
        exact countersOf_count s a.skill k fun c => c.finished id stage reason

theorem Linked.finish {s : Store} (linked : s.Linked) (id : String) (stage : Stage)
    (reason : Option String) (time : Nat) : (s.finish id stage reason time).store.Linked := by
  rcases finish_cases s id stage reason time with
    ⟨same, _⟩ | ⟨a, found, live_eq, number_eq, counters_eq⟩
  · rw [same]
    exact linked
  have pointed : (s.countersOf a.skill).inFlight = some id :=
    (linked.inFlight_iff a.skill id).mpr ⟨a, found, rfl⟩
  have find_eq : ∀ other, (s.finish id stage reason time).store.live.find? other =
      if other = id then none else s.live.find? other := by
    intro other
    rw [live_eq, Table.find?_erase linked.ascending]
  have skill_ne : ∀ other b, other ≠ id → s.live.find? other = some b → b.skill ≠ a.skill :=
    fun other b differs b_found skill_eq =>
      differs (linked.eq_of_skill_eq b_found found skill_eq)
  constructor
  · exact live_eq ▸ Table.ascending_erase linked.ascending id
  · intro other b b_found
    rw [find_eq] at b_found
    split at b_found
    · contradiction
    · exact number_eq ▸ linked.named other b b_found
  · intro skill other
    rw [counters_eq]
    split
    · rename_i same
      rw [inFlight_finished, if_pos pointed]
      constructor
      · intro none_pointed
        contradiction
      · rintro ⟨b, b_found, skill_eq⟩
        rw [find_eq] at b_found
        split at b_found
        · contradiction
        · rename_i differs
          exact absurd (skill_eq.trans same) (skill_ne other b differs b_found)
    · rename_i skill_differs
      rw [linked.inFlight_iff, find_eq]
      split
      · rename_i same
        rw [same, found]
        simp [Ne.symm skill_differs]
      · rfl
  · intro other b b_found
    rw [find_eq] at b_found
    split at b_found
    · contradiction
    · rename_i differs
      rw [counters_eq, if_neg (skill_ne other b differs b_found)]
      exact linked.lastStage other b b_found

theorem Linked.supersede {s : Store} (linked : s.Linked) (skill : String) (time : Nat) :
    (s.supersede skill time).store.Linked := by
  unfold Store.supersede
  split
  · exact linked
  · exact linked.finish _ .stopped (some "superseded") time

/-- After the attempt of a skill has been superseded, none is in flight. -/
theorem Linked.inFlight_supersede {s : Store} (linked : s.Linked) (skill : String) (time : Nat) :
    ((s.supersede skill time).store.countersOf skill).inFlight = none := by
  unfold Store.supersede
  split
  · assumption
  · rename_i old pointed
    obtain ⟨a, found, rfl⟩ := (linked.inFlight_iff skill old).mp pointed
    rcases finish_cases s old .stopped (some "superseded") time with
      ⟨_, missing⟩ | ⟨b, b_found, _, _, counters_eq⟩
    · rw [missing rfl] at found
      contradiction
    · obtain rfl := Option.some.inj (b_found.symm.trans found)
      simp only [counters_eq, if_true, inFlight_finished, pointed]

/-! ## The beginning of attempts -/

/-- An attempt with a new number may join the live ones if no other is in
flight for its skill. -/
theorem Linked.join {s moved : Store} (linked : s.Linked) {b : Attempt}
    (id_eq : b.id = attemptId b.skill (s.lastNumber + 1))
    (idle : (s.countersOf b.skill).inFlight = none) (ongoing : b.stage.isTerminal = false)
    (live_eq : moved.live = s.live.insert b.id b) (number_eq : moved.lastNumber = s.lastNumber + 1)
    (inFlight_eq : ∀ k, (moved.countersOf k).inFlight =
      if k = b.skill then some b.id else (s.countersOf k).inFlight)
    (lastStage_eq : ∀ k, (moved.countersOf k).lastStage =
      if k = b.skill then some b.stage else (s.countersOf k).lastStage) :
    moved.Linked := by
  have fresh : s.live.find? b.id = none := by
    rw [Option.eq_none_iff_forall_ne_some]
    intro a found
    obtain ⟨_, n, n_le, named⟩ := linked.named b.id a found
    have numbers_eq := congrArg numberOf (id_eq.symm.trans named)
    rw [numberOf_attemptId, numberOf_attemptId] at numbers_eq
    omega
  have find_eq : ∀ other, moved.live.find? other =
      if other = b.id then some b else s.live.find? other := by
    intro other
    rw [live_eq, Table.find?_insert]
  constructor
  · exact live_eq ▸ Table.ascending_insert linked.ascending b.id b
  · intro other a found
    rw [find_eq] at found
    rw [number_eq]
    split at found
    · rename_i same
      cases found
      exact ⟨same.symm, s.lastNumber + 1, Nat.le_refl _, same.trans id_eq⟩
    · obtain ⟨own, n, n_le, named⟩ := linked.named other a found
      exact ⟨own, n, Nat.le_succ_of_le n_le, named⟩
  · intro skill other
    rw [inFlight_eq, find_eq]
    by_cases own : skill = b.skill
    · rw [if_pos own, own]
      split
      · rename_i same
        simp [same]
      · rename_i differs
        constructor
        · intro pointed
          exact absurd (Option.some.inj pointed).symm differs
        · intro alive
          have pointed := (linked.inFlight_iff b.skill other).mpr alive
          rw [idle] at pointed
          contradiction
    · rw [if_neg own, linked.inFlight_iff]
      split
      · rename_i same
        simp [same, fresh, Ne.symm own]
      · rfl
  · intro other a found
    rw [find_eq] at found
    rw [lastStage_eq]
    split at found
    · cases found
      rw [if_pos rfl]
      exact ⟨rfl, ongoing⟩
    · have skill_ne : a.skill ≠ b.skill := by
        intro same
        have pointed := (linked.inFlight_iff b.skill other).mpr ⟨a, found, same⟩
        rw [idle] at pointed
        contradiction
      rw [if_neg skill_ne]
      exact linked.lastStage other a found

theorem Linked.begin {s : Store} (linked : s.Linked) (skill node : String) (time : Nat) :
    (s.begin skill node time).store.Linked := by
  let cleared := (s.supersede skill time).store
  let id := attemptId skill (cleared.lastNumber + 1)
  let opened : Attempt :=
    Attempt.addNote ⟨id, skill, node, .preparing, 0, time, none, none, [], 0⟩
      cleared.limits.attemptNotes ⟨time, Stage.preparing.name, none⟩
  have counters_eq : ∀ k, (s.begin skill node time).store.countersOf k =
      if k = skill then (cleared.countersOf skill).started id else cleared.countersOf k :=
    fun k => countersOf_count _ skill k fun c => c.started id
  have cleared_linked : cleared.Linked := linked.supersede skill time
  refine cleared_linked.join (b := opened) rfl (linked.inFlight_supersede skill time) rfl rfl rfl
    ?_ ?_
  · intro k
    rw [counters_eq]
    exact apply_ite SkillCounters.inFlight (k = skill) _ _
  · intro k
    rw [counters_eq]
    exact apply_ite SkillCounters.lastStage (k = skill) _ _

/-! ## Stopping everything -/

theorem Linked.stopEach {s : Store} (linked : s.Linked) (reason : String) (time : Nat)
    (ids : List String) : (s.stopEach reason time ids).store.Linked := by
  induction ids generalizing s with
  | nil => exact linked
  | cons id rest ih => exact ih (linked.finish id .stopped (some reason) time)

/-- Only attempts that are not named stay live. -/
theorem Linked.find?_stopEach {s : Store} (linked : s.Linked) (reason : String) (time : Nat)
    (ids : List String) {id : String} {a : Attempt}
    (found : (s.stopEach reason time ids).store.live.find? id = some a) :
    id ∉ ids ∧ s.live.find? id = some a := by
  induction ids generalizing s with
  | nil => exact ⟨by simp, found⟩
  | cons first rest ih =>
      obtain ⟨later, survived⟩ := ih (linked.finish first .stopped (some reason) time) found
      have kept : id ≠ first ∧ s.live.find? id = some a := by
        rcases finish_cases s first .stopped (some reason) time with
          ⟨same, missing⟩ | ⟨b, b_found, live_eq, _⟩
        · rw [same] at survived
          refine ⟨?_, survived⟩
          rintro rfl
          rw [missing rfl] at survived
          contradiction
        · rw [live_eq, Table.find?_erase linked.ascending] at survived
          split at survived
          · contradiction
          · rename_i differs
            exact ⟨differs, survived⟩
      exact ⟨by simp [kept.1, later], kept.2⟩

theorem Linked.stopAll {s : Store} (linked : s.Linked) (reason : String) (time : Nat) :
    (s.stopAll reason time).store.Linked :=
  linked.stopEach reason time s.live.keys

/-- Nothing is live after everything has been stopped. -/
theorem Linked.live_stopAll {s : Store} (linked : s.Linked) (reason : String) (time : Nat) :
    (s.stopAll reason time).store.live = [] := by
  apply Table.eq_nil_of_find?_eq_none
  intro id
  rw [Option.eq_none_iff_forall_ne_some]
  intro a found
  obtain ⟨unnamed, alive⟩ := linked.find?_stopEach reason time s.live.keys found
  have mem := (Table.find?_eq_some_iff linked.ascending).mp alive
  exact unnamed (List.mem_map_of_mem mem)

/-! ## Any operations -/

/-- An operation on the store with its arguments. -/
inductive Operation where
  | begin (skill node : String) (time : Nat)
  | transition (id : String) (stage : Stage) (time : Nat)
  | keySent (id : String) (time : Nat)
  | retry (id : String) (time : Nat)
  | note (id kind : String) (detail : Option String) (time : Nat)
  | finish (id : String) (stage : Stage) (reason : Option String) (time : Nat)
  | resetMetric (skill : String) (metric : Metric) (time : Nat)
  | stopAll (reason : String) (time : Nat)

/-- The store after an operation, whether this is refused or not. -/
def operate (s : Store) : Operation → Store
  | .begin skill node time => (s.begin skill node time).store
  | .transition id stage time => (s.transition id stage time).store
  | .keySent id time => (s.keySent id time).store
  | .retry id time => (s.retry id time).store
  | .note id kind detail time => (s.note id kind detail time).store
  | .finish id stage reason time => (s.finish id stage reason time).store
  | .resetMetric skill metric time => (s.resetMetric skill metric time).store
  | .stopAll reason time => (s.stopAll reason time).store

/-- Operations one after the other. -/
def operateAll (s : Store) (operations : List Operation) : Store :=
  operations.foldl operate s

theorem Linked.operate {s : Store} (linked : s.Linked) (operation : Operation) :
    (s.operate operation).Linked := by
  cases operation with
  | begin skill node time => exact linked.begin skill node time
  | transition id stage time => exact linked.transition id stage time
  | keySent id time => exact linked.keySent id time
  | retry id time => exact linked.retry id time
  | note id kind detail time => exact linked.note id kind detail time
  | finish id stage reason time => exact linked.finish id stage reason time
  | resetMetric skill metric time => exact linked.resetMetric skill metric time
  | stopAll reason time => exact linked.stopAll reason time

theorem Linked.operateAll {s : Store} (linked : s.Linked) (operations : List Operation) :
    (s.operateAll operations).Linked := by
  induction operations generalizing s with
  | nil => exact linked
  | cons operation rest ih => exact ih (linked.operate operation)

/-- After any operations on an empty store, whatever their arguments: a skill
points to an attempt exactly when this is live and of the skill; so no two live
attempts are of one skill, and each is the one in flight of its skill, has the
last stage of it, and has not ended.  When everything is stopped then, nothing
is live and nothing in flight. -/
theorem operateAll_empty_agrees (limits : StoreLimits) (operations : List Operation) :
    let s := (empty limits).operateAll operations
    (∀ skill id, (s.countersOf skill).inFlight = some id ↔
        ∃ a, s.live.find? id = some a ∧ a.skill = skill) ∧
      (s.live.values.map Attempt.skill).Nodup ∧
      (∀ id a, (id, a) ∈ s.live → s.live.find? id = some a ∧ a.id = id ∧
        (s.countersOf a.skill).inFlight = some id ∧
        (s.countersOf a.skill).lastStage = some a.stage ∧ a.stage.isTerminal = false) ∧
      ∀ reason time, (s.stopAll reason time).store.live = [] ∧
        ∀ skill, ((s.stopAll reason time).store.countersOf skill).inFlight = none := by
  intro s
  have linked : s.Linked := (linked_empty limits).operateAll operations
  have live_found : ∀ id a, (id, a) ∈ s.live → s.live.find? id = some a :=
    fun id a => (Table.find?_eq_some_iff linked.ascending).mpr
  refine ⟨linked.inFlight_iff, ?_, ?_, ?_⟩
  · rw [Table.values, List.map_map, List.nodup_iff_pairwise_ne, List.pairwise_map]
    apply linked.ascending.imp_of_mem
    rintro ⟨id, a⟩ ⟨other, b⟩ a_mem b_mem less skills_eq
    have ids_eq : id = other :=
      linked.eq_of_skill_eq (live_found id a a_mem) (live_found other b b_mem) skills_eq
    exact lt_irrefl other (ids_eq ▸ less)
  · intro id a mem
    have found := live_found id a mem
    have pointed := (linked.inFlight_iff a.skill id).mpr ⟨a, found, rfl⟩
    exact ⟨found, (linked.named id a found).1, pointed, linked.lastStage id a found⟩
  · intro reason time
    have nothing := linked.live_stopAll reason time
    refine ⟨nothing, ?_⟩
    intro skill
    rw [Option.eq_none_iff_forall_ne_some]
    intro id in_flight
    obtain ⟨a, found, _⟩ := ((linked.stopAll reason time).inFlight_iff skill id).mp in_flight
    rw [nothing] at found
    contradiction

end Rotation.Store
