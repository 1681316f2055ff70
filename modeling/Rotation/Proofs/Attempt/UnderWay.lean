import Rotation.Proofs.Attempt.Replay

/-!
# An attempt under way

From its beginning to its end an attempt is live, and every operation on it is
told of as an event with its identifier.  So the stages that the events tell of
are those that the operations have moved it to.

Meanwhile the store keeps its number of retries, and for every skill the number of
keys that have been sent.  Each operation changes these in one way only.
-/

namespace Rotation

open Rotation.Order

namespace Stage

/-- The stages that an attempt passes before it ends, in order. -/
def ordinary : List Stage :=
  [.preparing, .startWait, .casting, .completeWait]

end Stage

namespace Event

/-- The attempt that an event tells of. -/
def attempt? : Event → Option String
  | .attemptStarted attempt _ _ _ | .attemptStage attempt _ _ _ | .attemptRetry attempt _ _ _
  | .attemptFinished attempt _ _ _ _ => some attempt
  | _ => none

/-- Whether an event tells that an attempt has begun. -/
def begins : Event → Bool
  | .attemptStarted _ _ _ _ => true
  | _ => false

/-- The stage that an event tells of an attempt. -/
def stageOf? (id : String) : Event → Option Stage
  | .attemptStarted other _ _ _ => if other = id then some .preparing else none
  | .attemptStage other _ stage _ | .attemptFinished other _ stage _ _ =>
    if other = id then some stage else none
  | _ => none

theorem begins_of_attempt?_eq_none {event : Event} (other : event.attempt? = none) :
    event.begins = false := by
  cases event <;> first | rfl | contradiction

theorem stageOf?_of_attempt?_eq_none {event : Event} (id : String)
    (other : event.attempt? = none) : event.stageOf? id = none := by
  cases event <;> first | rfl | contradiction

end Event

namespace Store

/-- An attempt of a skill is under way. -/
def Runs (s : Store) (id skill : String) : Prop :=
  ∃ a, s.live.find? id = some a ∧ a.skill = skill

/-- An operation that goes on with an attempt and does not end it. -/
def Operation.GoesOn (id : String) : Operation → Prop
  | .transition other stage _ => other = id ∧ stage.isTerminal = false
  | .keySent other _ | .retry other _ | .note other _ _ _ => other = id
  | _ => False

/-- The stage that an operation moves an attempt to. -/
def Operation.stage? : Operation → Option Stage
  | .transition _ stage _ => some stage
  | _ => none

theorem operateAll_append (s : Store) (operations more : List Operation) :
    s.operateAll (operations ++ more) = (s.operateAll operations).operateAll more :=
  List.foldl_append

variable {s : Store} {id skill : String}

theorem runs_annotate {a : Attempt} (id_eq : a.id = id) (skill_eq : a.skill = skill)
    (note : AttemptNote) : (s.annotate a note).Runs id skill := by
  refine ⟨a.addNote s.limits.attemptNotes note, ?_, skill_eq⟩
  rw [annotate, Table.find?_insert, if_pos id_eq.symm]

/-- An operation that goes on with an attempt leaves it under way, and tells of
the stage that it moves it to. -/
theorem Runs.goesOn (linked : s.Linked) (runs : s.Runs id skill) {operation : Operation}
    (own : operation.GoesOn id) :
    (s.operate operation).Runs id skill ∧
      (s.outcome operation).events.filter Event.begins = [] ∧
      (s.outcome operation).events.filterMap (Event.stageOf? id) = operation.stage?.toList := by
  obtain ⟨a, found, rfl⟩ := runs
  have named : a.id = id := (linked.named id a found).1
  cases operation with
  | transition other stage time =>
      obtain ⟨rfl, ongoing⟩ := own
      have done : s.transition other stage time = ⟨true, [.attemptStage other a.skill stage time],
          (s.annotate { a with stage } ⟨time, stage.name, none⟩).count a.skill
            fun c => c.entered stage⟩ := by
        simp [transition, ongoing, found]
      rw [operate, outcome, done]
      refine ⟨runs_annotate (a := { a with stage }) named rfl _, rfl, ?_⟩
      simp [Event.stageOf?, Operation.stage?]
  | keySent other time =>
      obtain rfl : other = id := own
      have done : s.keySent other time = ⟨true, [],
          (s.annotate a ⟨time, "KEY_SENT", none⟩).count a.skill
            fun c => { c with keySent := c.keySent + 1 }⟩ := by
        simp [keySent, found]
      rw [operate, outcome, done]
      exact ⟨runs_annotate named rfl _, rfl, rfl⟩
  | retry other time =>
      obtain rfl : other = id := own
      have done : s.retry other time = ⟨true, [.attemptRetry other a.skill (a.retries + 1) time],
          s.annotate { a with retries := a.retries + 1 }
            ⟨time, "RETRY", some (toString (a.retries + 1))⟩⟩ := by
        simp [retry, found]
      rw [operate, outcome, done]
      exact ⟨runs_annotate (a := { a with retries := a.retries + 1 }) named rfl _, rfl, rfl⟩
  | note other kind detail time =>
      obtain rfl : other = id := own
      have done : s.note other kind detail time =
          ⟨true, [], s.annotate a ⟨time, kind, detail⟩⟩ := by
        simp [note, found]
      rw [operate, outcome, done]
      exact ⟨runs_annotate named rfl _, rfl, rfl⟩
  | begin | finish | resetMetric | stopAll => contradiction

theorem lastNumber_finish (s : Store) (id : String) (stage : Stage) (reason : Option String)
    (time : Nat) : (s.finish id stage reason time).store.lastNumber = s.lastNumber := by
  rcases finish_cases s id stage reason time with ⟨same, _⟩ | ⟨a, _, _, number_eq, _⟩
  · rw [same]
  · exact number_eq

theorem lastNumber_supersede (s : Store) (skill : String) (time : Nat) :
    (s.supersede skill time).store.lastNumber = s.lastNumber := by
  unfold supersede
  split
  · rfl
  · exact lastNumber_finish s _ .stopped _ time

/-- What is superseded is no beginning, and not of the attempt that begins. -/
theorem Linked.supersede_told (linked : s.Linked) (skill other : String) (time : Nat) :
    (s.supersede skill time).events.filter Event.begins = [] ∧
      (s.supersede skill time).events.filterMap
        (Event.stageOf? (attemptId other (s.lastNumber + 1))) = [] := by
  unfold Store.supersede
  split
  · exact ⟨rfl, rfl⟩
  rename_i old pointed
  obtain ⟨a, found, _⟩ := (linked.inFlight_iff skill old).mp pointed
  obtain ⟨_, n, n_le, named⟩ := linked.named old a found
  have differs : old ≠ attemptId other (s.lastNumber + 1) := by
    intro same
    have numbers_eq := congrArg numberOf (named.symm.trans same)
    rw [numberOf_attemptId, numberOf_attemptId] at numbers_eq
    omega
  rcases finish_told_cases s old .stopped (some "superseded") time with refused | ⟨b, _, told, _⟩
  · rw [refused]
    exact ⟨rfl, rfl⟩
  · dsimp only
    rw [told]
    exact ⟨rfl, by simp [Event.stageOf?, differs]⟩

/-- An attempt that has begun is under way, and its beginning is told of. -/
theorem Linked.runs_begin (linked : s.Linked) (skill node : String) (time : Nat) :
    (s.begin skill node time).store.Runs (s.begin skill node time).result skill ∧
      (s.begin skill node time).store.lastNumber = s.lastNumber + 1 ∧
      (s.begin skill node time).events.filter Event.begins =
        [.attemptStarted (s.begin skill node time).result skill node time] ∧
      (s.begin skill node time).events.filterMap
        (Event.stageOf? (s.begin skill node time).result) = [.preparing] := by
  have named : (s.begin skill node time).result = attemptId skill (s.lastNumber + 1) := by
    rw [Store.begin, lastNumber_supersede]
  have events_eq : (s.begin skill node time).events = (s.supersede skill time).events ++
      [.attemptStarted (s.begin skill node time).result skill node time] := rfl
  obtain ⟨no_beginning, no_stage⟩ := linked.supersede_told skill skill time
  refine ⟨?_, ?_, ?_, ?_⟩
  · exact runs_annotate (s := (s.supersede skill time).store)
      (a := ⟨(s.begin skill node time).result, skill, node, .preparing, 0, time, none, none, [], 0⟩)
      rfl rfl ⟨time, Stage.preparing.name, none⟩
  · exact congrArg (· + 1) (lastNumber_supersede s skill time)
  · rw [events_eq, List.filter_append, no_beginning]
    rfl
  · rw [events_eq, List.filterMap_append, named, no_stage]
    simp [Event.stageOf?]

/-- An attempt under way that is finished is over, its skill is free again, and
its end is told of. -/
theorem Runs.finish (linked : s.Linked) (runs : s.Runs id skill) {stage : Stage}
    (terminal : stage.isTerminal = true) (reason : Option String) (time : Nat) :
    (s.finish id stage reason time).events = [.attemptFinished id skill stage reason time] ∧
      (s.finish id stage reason time).store.live.find? id = none ∧
      ((s.finish id stage reason time).store.countersOf skill).inFlight = none := by
  obtain ⟨a, found, rfl⟩ := runs
  have pointed := (linked.inFlight_iff a.skill id).mpr ⟨a, found, rfl⟩
  have told : (s.finish id stage reason time).events =
      [.attemptFinished id a.skill stage reason time] := by
    simp [Store.finish, terminal, found]
  rcases finish_cases s id stage reason time with
    ⟨_, missing⟩ | ⟨b, b_found, live_eq, _, counters_eq⟩
  · rw [missing terminal] at found
    contradiction
  obtain rfl := Option.some.inj (b_found.symm.trans found)
  refine ⟨told, ?_, ?_⟩
  · rw [live_eq, Table.find?_erase linked.ascending, if_pos rfl]
  · rw [counters_eq, if_pos rfl, inFlight_finished, if_pos pointed]

/-! ## Presses and retries -/

theorem metric_count (s : Store) (skill k : String) (f : SkillCounters → SkillCounters)
    (metric : Metric) :
    (s.count skill f).metric k metric =
      if k = skill then (f (s.countersOf skill)).get metric else s.metric k metric := by
  unfold Store.metric
  rw [countersOf_count]
  split <;> rfl

/-- Who counts something else leaves the number of keys as it is. -/
theorem metric_count_eq (s : Store) (skill k : String) {f : SkillCounters → SkillCounters}
    {metric : Metric} (same : ∀ c, (f c).get metric = c.get metric) :
    (s.count skill f).metric k metric = s.metric k metric := by
  rw [metric_count]
  split
  · rename_i own
    rw [same, own]
    rfl
  · rfl

theorem find?_annotate (s : Store) (a : Attempt) (note : AttemptNote) :
    (s.annotate a note).live.find? a.id = some (a.addNote s.limits.attemptNotes note) :=
  Table.find?_insert_self ..

/-- The end of an attempt sends no key. -/
theorem keySent_finish (s : Store) (id : String) (stage : Stage) (reason : Option String)
    (time : Nat) (k : String) :
    (s.finish id stage reason time).store.metric k .keySent = s.metric k .keySent := by
  rcases finish_cases s id stage reason time with ⟨same, _⟩ | ⟨a, _, _, _, counters_eq⟩
  · rw [same]
  · unfold Store.metric
    rw [counters_eq]
    split
    · rename_i own
      rw [own]
      cases stage <;> rfl
    · rfl

theorem keySent_supersede (s : Store) (skill : String) (time : Nat) (k : String) :
    (s.supersede skill time).store.metric k .keySent = s.metric k .keySent := by
  unfold supersede
  split
  · rfl
  · exact keySent_finish ..

/-- An attempt of a skill is live at a stage and after some retries.  Since an
earlier state of the store some keys have been sent for the skill, and none for
any other. -/
structure Totals (first s : Store) (id skill : String) (stage : Stage) (retries keys : Nat) :
    Prop where
  linked : s.Linked
  live : ∃ a, s.live.find? id = some a ∧ a.skill = skill ∧ a.stage = stage ∧ a.retries = retries
  counted : ∀ k, s.metric k .keySent = first.metric k .keySent + if k = skill then keys else 0

variable {first : Store} {stage : Stage} {retries keys : Nat}

/-- An attempt that has begun is being prepared, and no key has been sent. -/
theorem Linked.totals_begin (linked : s.Linked) (skill node : String) (time : Nat) :
    Totals s (s.begin skill node time).store (s.begin skill node time).result skill .preparing
      0 0 where
  linked := linked.begin skill node time
  live := ⟨_, find?_annotate (s.supersede skill time).store
    ⟨(s.begin skill node time).result, skill, node, .preparing, 0, time, none, none, [], 0⟩
    ⟨time, Stage.preparing.name, none⟩, rfl, rfl, rfl⟩
  counted k := by
    rw [ite_self, Nat.add_zero, ← keySent_supersede s skill time k]
    exact metric_count_eq _ skill k fun _ => rfl

theorem Totals.note (totals : Totals first s id skill stage retries keys) (kind : String)
    (detail : Option String) (time : Nat) :
    Totals first (s.note id kind detail time).store id skill stage retries keys := by
  obtain ⟨a, found, rfl, rfl, rfl⟩ := totals.live
  obtain ⟨rfl, _⟩ := totals.linked.named id a found
  have noted : (s.note a.id kind detail time).store = s.annotate a ⟨time, kind, detail⟩ := by
    simp [Store.note, found]
  have linked := totals.linked.note a.id kind detail time
  rw [noted] at linked ⊢
  exact ⟨linked, ⟨_, find?_annotate s a _, rfl, rfl, rfl⟩, totals.counted⟩

theorem Totals.keySent (totals : Totals first s id skill stage retries keys) (time : Nat) :
    Totals first (s.keySent id time).store id skill stage retries (keys + 1) := by
  obtain ⟨a, found, rfl, rfl, rfl⟩ := totals.live
  obtain ⟨rfl, _⟩ := totals.linked.named id a found
  have sent : (s.keySent a.id time).store = (s.annotate a ⟨time, "KEY_SENT", none⟩).count a.skill
      fun c => { c with keySent := c.keySent + 1 } := by
    simp [Store.keySent, found]
  have linked := totals.linked.keySent a.id time
  rw [sent] at linked ⊢
  refine ⟨linked, ⟨_, find?_annotate s a _, rfl, rfl, rfl⟩, ?_⟩
  intro k
  have before := totals.counted k
  rw [metric_count]
  by_cases own : k = a.skill
  · simp only [if_pos own] at before ⊢
    rw [← Nat.add_assoc, ← before, own]
    rfl
  · simp only [if_neg own] at before ⊢
    exact before

theorem Totals.retry (totals : Totals first s id skill stage retries keys) (time : Nat) :
    Totals first (s.retry id time).store id skill stage (retries + 1) keys := by
  obtain ⟨a, found, rfl, rfl, rfl⟩ := totals.live
  obtain ⟨rfl, _⟩ := totals.linked.named id a found
  have retried : (s.retry a.id time).store = s.annotate { a with retries := a.retries + 1 }
      ⟨time, "RETRY", some (toString (a.retries + 1))⟩ := by
    simp [Store.retry, found]
  have linked := totals.linked.retry a.id time
  rw [retried] at linked ⊢
  exact ⟨linked, ⟨_, find?_annotate s { a with retries := a.retries + 1 } _, rfl, rfl, rfl⟩,
    totals.counted⟩

theorem Totals.transition (totals : Totals first s id skill stage retries keys) {next : Stage}
    (ongoing : next.isTerminal = false) (time : Nat) :
    Totals first (s.transition id next time).store id skill next retries keys := by
  obtain ⟨a, found, rfl, rfl, rfl⟩ := totals.live
  obtain ⟨rfl, _⟩ := totals.linked.named id a found
  have moved : (s.transition a.id next time).store =
      (s.annotate { a with stage := next } ⟨time, next.name, none⟩).count a.skill
        fun c => c.entered next := by
    simp [Store.transition, ongoing, found]
  have linked := totals.linked.transition a.id next time
  rw [moved] at linked ⊢
  refine ⟨linked, ⟨_, find?_annotate s { a with stage := next } _, rfl, rfl, rfl⟩, ?_⟩
  intro k
  rw [metric_count_eq _ a.skill k (f := fun c => c.entered next) fun _ => rfl]
  exact totals.counted k

end Store

end Rotation
