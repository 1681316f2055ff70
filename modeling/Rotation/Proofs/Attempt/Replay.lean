import Rotation.Proofs.Attempt.Linked
import Rotation.Proofs.Order.Table

/-!
# Counters and the history behind them

Gateways read the counters of a store, while those who watch a run see only its
events.  The history of a store holds the events that it has published and the
key presses that it has counted, of which no event tells.  Whatever operations
are asked for, the history accounts for the counters: a metric is the number of
marks that count for it since it was last reset.
-/

namespace Rotation

open Rotation.Order

/-- Whether an event says that a metric of a skill has grown. -/
@[simp]
def Event.counts (skill : String) (metric : Metric) : Event → Bool
  | .attemptStarted _ own _ _ => own = skill ∧ metric = .attemptStarted
  | .attemptStage _ own stage _ => own = skill ∧ stage = .casting ∧ metric = .castStarted
  | .attemptFinished _ own stage _ _ =>
    own = skill ∧ (stage = .success ∧ metric = .success ∨ stage = .failed ∧ metric = .fail)
  | _ => false

namespace Store

/-! ## Histories -/

/-- What is noted about a store: an event that it has published, or a key press
that it has counted for an attempt at a skill. -/
inductive Mark where
  | told (event : Event)
  | pressed (attempt skill : String)

namespace Mark

/-- Whether a mark counts for a metric of a skill. -/
@[simp]
def counts (skill : String) (metric : Metric) : Mark → Bool
  | .told event => event.counts skill metric
  | .pressed _ own => own = skill ∧ metric = .keySent

/-- Whether a mark tells that a metric of a skill has been reset. -/
@[simp]
def resets (skill : String) (metric : Metric) : Mark → Bool
  | .told (.metricReset own reset _) => own = skill ∧ reset = metric
  | _ => false

end Mark

/-- The part of a history that comes after the last reset of a metric. -/
def sinceReset (skill : String) (metric : Metric) (history : List Mark) : List Mark :=
  history.rtakeWhile fun mark => !mark.resets skill metric

/-- How often a metric has been counted since its last reset. -/
def tally (skill : String) (metric : Metric) (history : List Mark) : Nat :=
  (sinceReset skill metric history).countP (Mark.counts skill metric)

theorem tally_concat (skill : String) (metric : Metric) (history : List Mark) (mark : Mark) :
    tally skill metric (history ++ [mark]) =
      if mark.resets skill metric then 0
      else tally skill metric history + (mark.counts skill metric).toNat :=
  tallySince_concat history mark

/-- An event of the history tells that the attempt was begun for the skill. -/
def IsBegun (history : List Mark) (attempt skill : String) : Prop :=
  ∃ node time, .told (.attemptStarted attempt skill node time) ∈ history

theorem IsBegun.append {history : List Mark} {attempt skill : String}
    (begun : IsBegun history attempt skill) (later : List Mark) :
    IsBegun (history ++ later) attempt skill := by
  obtain ⟨node, time, mem⟩ := begun
  exact ⟨node, time, List.mem_append_left later mem⟩

/-! ## What a mark says -/

/-- A change of the counters of a skill is the one that a mark tells of: the
mark concerns no other skill, and the change moves the metrics as it says. -/
structure Mark.Tells (mark : Mark) (skill : String) (f : SkillCounters → SkillCounters) : Prop where
  others : ∀ other metric, other ≠ skill →
    mark.counts other metric = false ∧ mark.resets other metric = false
  metric : ∀ c metric, (f c).get metric =
    if mark.resets skill metric then 0 else c.get metric + (mark.counts skill metric).toNat
  reasons : ∀ c, c.failReasons.Ascending →
    (f c).failReasons.Ascending ∧
      (f c).failReasons.values.sum = c.failReasons.values.sum + (mark.counts skill .fail).toNat

theorem tells_started (id skill node : String) (time : Nat) :
    Mark.Tells (.told (.attemptStarted id skill node time)) skill fun c => c.started id where
  others other metric differs := by simp [differs.symm]
  metric c metric := by cases metric <;> simp [SkillCounters.started, SkillCounters.get]
  reasons c ascending := by simpa [SkillCounters.started] using ascending

theorem tells_entered (id skill : String) (stage : Stage) (time : Nat) :
    Mark.Tells (.told (.attemptStage id skill stage time)) skill fun c => c.entered stage where
  others other metric differs := by simp [differs.symm]
  metric c metric := by
    by_cases casting : stage = .casting <;>
      cases metric <;> simp [SkillCounters.entered, SkillCounters.get, casting]
  reasons c ascending := by simpa [SkillCounters.entered] using ascending

theorem tells_pressed (attempt skill : String) :
    Mark.Tells (.pressed attempt skill) skill fun c => { c with keySent := c.keySent + 1 } where
  others other metric differs := by simp [differs.symm]
  metric c metric := by cases metric <;> simp [SkillCounters.get]
  reasons c ascending := by simpa using ascending

theorem tells_retried (attempt skill : String) (retry time : Nat) :
    Mark.Tells (.told (.attemptRetry attempt skill retry time)) skill id where
  others other metric differs := by simp
  metric c metric := by simp
  reasons c ascending := by simpa using ascending

theorem tells_finished (id skill : String) (stage : Stage) (reason : Option String) (time : Nat) :
    Mark.Tells (.told (.attemptFinished id skill stage reason time)) skill
      fun c => c.finished id stage reason where
  others other metric differs := by simp [differs.symm]
  metric c metric := by
    cases stage <;> cases metric <;> simp [SkillCounters.finished, SkillCounters.get]
  reasons c ascending := by
    cases stage with
    | failed =>
        have counted := Table.sum_values_modify_succ ascending (reason.getD "unknown")
        exact ⟨Table.ascending_insert ascending _ _,
          by simpa [SkillCounters.finished] using counted⟩
    | _ => simpa [SkillCounters.finished] using ascending

theorem tells_reset (skill : String) (metric : Metric) (time : Nat) :
    Mark.Tells (.told (.metricReset skill metric time)) skill fun c => c.reset metric where
  others other metric differs := by simp [differs.symm]
  metric c other := by
    cases metric <;> cases other <;> simp [SkillCounters.reset, SkillCounters.get]
  reasons c ascending := by
    cases metric <;> simpa [SkillCounters.reset] using ascending

/-! ## Histories that account for a store -/

/-- A history accounts for the counters of a store: it tells when the live
attempts and those that had keys pressed were begun, and holds what every metric
and the reasons of failures have counted. -/
structure Accounts (s : Store) (history : List Mark) : Prop where
  linked : s.Linked
  begun : ∀ id a, s.live.find? id = some a → IsBegun history id a.skill
  pressed : ∀ id skill, .pressed id skill ∈ history → IsBegun history id skill
  metric : ∀ skill metric, s.metric skill metric = tally skill metric history
  ascending : ∀ skill, (s.countersOf skill).failReasons.Ascending
  reasons : ∀ skill,
    (s.countersOf skill).failReasons.values.sum = history.countP (Mark.counts skill .fail)

theorem accounts_empty (limits : StoreLimits) : (empty limits).Accounts [] where
  linked := linked_empty limits
  begun id a found := by contradiction
  pressed id skill mem := by contradiction
  metric skill metric := by cases metric <;> rfl
  ascending skill := Table.ascending_nil
  reasons skill := rfl

/-- A history accounts for what the counters have become when it is continued
by the mark that tells of the change. -/
theorem Accounts.concat {s moved : Store} {history : List Mark} (accounts : s.Accounts history)
    {mark : Mark} {skill : String} {f : SkillCounters → SkillCounters}
    (tells : mark.Tells skill f) (linked : moved.Linked)
    (counters_eq : ∀ k, moved.countersOf k =
      if k = skill then f (s.countersOf skill) else s.countersOf k)
    (begun : ∀ id a, moved.live.find? id = some a → IsBegun (history ++ [mark]) id a.skill)
    (pressed : ∀ id own, mark = .pressed id own → IsBegun history id own) :
    moved.Accounts (history ++ [mark]) where
  linked := linked
  begun := begun
  pressed id own mem := by
    rcases List.mem_append.mp mem with old | new
    · exact (accounts.pressed id own old).append [mark]
    · exact (pressed id own (List.mem_singleton.mp new).symm).append [mark]
  metric k metric := by
    rw [tally_concat, ← accounts.metric, Store.metric, counters_eq]
    by_cases own : k = skill
    · rw [if_pos own, tells.metric, own]
      rfl
    · obtain ⟨uncounted, kept⟩ := tells.others k metric own
      rw [if_neg own, uncounted, kept]
      rfl
  ascending k := by
    rw [counters_eq]
    split
    · exact (tells.reasons _ (accounts.ascending skill)).1
    · exact accounts.ascending k
  reasons k := by
    rw [List.countP_append, List.countP_singleton, ← accounts.reasons, counters_eq]
    by_cases own : k = skill
    · rw [if_pos own, (tells.reasons _ (accounts.ascending skill)).2, own]
      cases mark.counts skill .fail <;> rfl
    · rw [if_neg own, (tells.others k .fail own).1]
      rfl

/-- Nothing has to be told while the counters and the live attempts stay as they
are, remarks on the latter apart. -/
theorem Accounts.of_counters_eq {s moved : Store} {history : List Mark}
    (accounts : s.Accounts history) (linked : moved.Linked)
    (counters_eq : ∀ k, moved.countersOf k = s.countersOf k)
    (begun : ∀ id a, moved.live.find? id = some a → IsBegun history id a.skill) :
    moved.Accounts history where
  linked := linked
  begun := begun
  pressed := accounts.pressed
  metric k metric := by rw [Store.metric, counters_eq, ← accounts.metric, Store.metric]
  ascending k := by rw [counters_eq]; exact accounts.ascending k
  reasons k := by rw [counters_eq]; exact accounts.reasons k

/-- A live attempt may change in all but its identifier and skill: its beginning
has been told. -/
theorem Accounts.begun_annotate {s : Store} {history : List Mark} (accounts : s.Accounts history)
    {id : String} {a b : Attempt} (found : s.live.find? id = some a) (id_eq : b.id = a.id)
    (skill_eq : b.skill = a.skill) (note : AttemptNote) (other : String) (c : Attempt)
    (c_found : (s.annotate b note).live.find? other = some c) :
    IsBegun history other c.skill := by
  obtain ⟨rfl, _⟩ := accounts.linked.named id a found
  rw [annotate, Table.find?_insert, id_eq] at c_found
  split at c_found
  · rename_i same
    cases c_found
    rw [same]
    exact skill_eq ▸ accounts.begun a.id a found
  · exact accounts.begun other c c_found

/-- A mark may tell of what is counted while a live attempt changes. -/
theorem Accounts.concat_count {s : Store} {history : List Mark} (accounts : s.Accounts history)
    {id : String} {a b : Attempt} (found : s.live.find? id = some a) (id_eq : b.id = a.id)
    (skill_eq : b.skill = a.skill) {note : AttemptNote} {mark : Mark}
    {f : SkillCounters → SkillCounters} (tells : mark.Tells a.skill f)
    (linked : ((s.annotate b note).count a.skill f).Linked)
    (pressed : ∀ own skill, mark = .pressed own skill → own = id ∧ skill = a.skill) :
    ((s.annotate b note).count a.skill f).Accounts (history ++ [mark]) := by
  apply accounts.concat tells linked
  · intro k
    exact countersOf_count _ a.skill k f
  · intro other c c_found
    exact (accounts.begun_annotate found id_eq skill_eq note other c c_found).append _
  · intro own skill is_press
    obtain ⟨rfl, rfl⟩ := pressed own skill is_press
    exact accounts.begun own a found

/-! ## Operations on a live attempt -/

theorem transition_cases (s : Store) (id : String) (stage : Stage) (time : Nat) :
    s.transition id stage time = s.refuse ∨
      ∃ a, s.live.find? id = some a ∧
        s.transition id stage time = ⟨true, [.attemptStage id a.skill stage time],
          (s.annotate { a with stage } ⟨time, stage.name, none⟩).count a.skill
            fun c => c.entered stage⟩ := by
  unfold Store.transition
  split
  · exact .inl rfl
  · cases found : s.live.find? id with
    | none => exact .inl rfl
    | some a => exact .inr ⟨a, rfl, rfl⟩

theorem keySent_cases (s : Store) (id : String) (time : Nat) :
    s.keySent id time = s.refuse ∨
      ∃ a, s.live.find? id = some a ∧
        s.keySent id time = ⟨true, [], (s.annotate a ⟨time, "KEY_SENT", none⟩).count a.skill
          fun c => { c with keySent := c.keySent + 1 }⟩ := by
  unfold Store.keySent
  cases found : s.live.find? id with
  | none => exact .inl rfl
  | some a => exact .inr ⟨a, rfl, rfl⟩

theorem retry_cases (s : Store) (id : String) (time : Nat) :
    s.retry id time = s.refuse ∨
      ∃ a, s.live.find? id = some a ∧
        s.retry id time = ⟨true, [.attemptRetry id a.skill (a.retries + 1) time],
          s.annotate { a with retries := a.retries + 1 }
            ⟨time, "RETRY", some (toString (a.retries + 1))⟩⟩ := by
  unfold Store.retry
  cases found : s.live.find? id with
  | none => exact .inl rfl
  | some a => exact .inr ⟨a, rfl, rfl⟩

theorem note_cases (s : Store) (id kind : String) (detail : Option String) (time : Nat) :
    s.note id kind detail time = s.refuse ∨
      ∃ a, s.live.find? id = some a ∧
        s.note id kind detail time = ⟨true, [], s.annotate a ⟨time, kind, detail⟩⟩ := by
  unfold Store.note
  cases found : s.live.find? id with
  | none => exact .inl rfl
  | some a => exact .inr ⟨a, rfl, rfl⟩

theorem finish_told_cases (s : Store) (id : String) (stage : Stage) (reason : Option String)
    (time : Nat) :
    s.finish id stage reason time = s.refuse ∨
      ∃ a : Attempt, (s.finish id stage reason time).result = true ∧
        (s.finish id stage reason time).events =
          [.attemptFinished id a.skill stage reason time] ∧
        (s.finish id stage reason time).store.live = s.live.erase id ∧
        ∀ k, (s.finish id stage reason time).store.countersOf k =
          if k = a.skill then (s.countersOf a.skill).finished id stage reason
          else s.countersOf k := by
  unfold Store.finish
  split
  · exact .inl rfl
  · cases found : s.live.find? id with
    | none => exact .inl rfl
    | some a =>
        refine .inr ⟨a, rfl, rfl, rfl, ?_⟩
        intro k
        exact countersOf_count s a.skill k fun c => c.finished id stage reason

/-- The marks that tell of what an operation has published. -/
def Change.marks {α : Type} (c : Change α) : List Mark :=
  c.events.map .told

/-- The mark of an accepted key press. -/
def press (s : Store) (id : String) (time : Nat) : List Mark :=
  if (s.keySent id time).result then
    ((s.live.find? id).map fun a => Mark.pressed id a.skill).toList
  else []

theorem Accounts.refuse {s : Store} {history : List Mark} (accounts : s.Accounts history) :
    s.refuse.store.Accounts (history ++ s.refuse.marks) := by
  rwa [Store.refuse, Change.marks, List.map_nil, List.append_nil]

theorem Accounts.transition {s : Store} {history : List Mark} (accounts : s.Accounts history)
    (id : String) (stage : Stage) (time : Nat) :
    (s.transition id stage time).store.Accounts
      (history ++ (s.transition id stage time).marks) := by
  have linked := accounts.linked.transition id stage time
  rcases transition_cases s id stage time with refused | ⟨a, found, done⟩
  · rw [refused]
    exact accounts.refuse
  · rw [done] at linked ⊢
    exact accounts.concat_count (b := { a with stage }) found rfl rfl
      (tells_entered id a.skill stage time) linked fun _ _ differs => by contradiction

theorem Accounts.keySent {s : Store} {history : List Mark} (accounts : s.Accounts history)
    (id : String) (time : Nat) :
    (s.keySent id time).store.Accounts (history ++ s.press id time) := by
  have linked := accounts.linked.keySent id time
  rcases keySent_cases s id time with refused | ⟨a, found, done⟩
  · have unpressed : s.press id time = [] := by simp [press, refused, Store.refuse]
    rw [refused, unpressed]
    exact accounts.refuse
  · have pressed : s.press id time = [.pressed id a.skill] := by simp [press, done, found]
    rw [pressed]
    rw [done] at linked ⊢
    apply accounts.concat_count found rfl rfl (tells_pressed id a.skill) linked
    rintro _ _ ⟨⟩
    exact ⟨rfl, rfl⟩

theorem Accounts.retry {s : Store} {history : List Mark} (accounts : s.Accounts history)
    (id : String) (time : Nat) :
    (s.retry id time).store.Accounts (history ++ (s.retry id time).marks) := by
  have linked := accounts.linked.retry id time
  rcases retry_cases s id time with refused | ⟨a, found, done⟩
  · rw [refused]
    exact accounts.refuse
  · rw [done] at linked ⊢
    apply accounts.concat (tells_retried id a.skill (a.retries + 1) time) linked
    · intro k
      rw [countersOf_annotate]
      split
      · rename_i same
        rw [same]
        rfl
      · rfl
    · intro other c c_found
      have begun := accounts.begun_annotate (b := { a with retries := a.retries + 1 })
        found rfl rfl _ other c c_found
      exact begun.append _
    · intro _ _ differs
      contradiction

theorem Accounts.note {s : Store} {history : List Mark} (accounts : s.Accounts history)
    (id kind : String) (detail : Option String) (time : Nat) :
    (s.note id kind detail time).store.Accounts
      (history ++ (s.note id kind detail time).marks) := by
  have linked := accounts.linked.note id kind detail time
  rcases note_cases s id kind detail time with refused | ⟨a, found, done⟩
  · rw [refused]
    exact accounts.refuse
  · rw [done] at linked ⊢
    rw [Change.marks, List.map_nil, List.append_nil]
    exact accounts.of_counters_eq linked (countersOf_annotate s a _)
      (accounts.begun_annotate found rfl rfl _)

theorem Accounts.finish {s : Store} {history : List Mark} (accounts : s.Accounts history)
    (id : String) (stage : Stage) (reason : Option String) (time : Nat) :
    (s.finish id stage reason time).store.Accounts
      (history ++ (s.finish id stage reason time).marks) := by
  have linked := accounts.linked.finish id stage reason time
  rcases finish_told_cases s id stage reason time with refused | ⟨a, _, told, live_eq, counters_eq⟩
  · rw [refused]
    exact accounts.refuse
  · rw [Change.marks, told]
    apply accounts.concat (tells_finished id a.skill stage reason time) linked counters_eq
    · intro other c c_found
      rw [live_eq, Table.find?_erase accounts.linked.ascending] at c_found
      split at c_found
      · contradiction
      · exact (accounts.begun other c c_found).append _
    · intro _ _ differs
      contradiction

/-! ## Operations that are never refused -/

theorem Accounts.supersede {s : Store} {history : List Mark} (accounts : s.Accounts history)
    (skill : String) (time : Nat) :
    (s.supersede skill time).store.Accounts (history ++ (s.supersede skill time).marks) := by
  unfold Store.supersede
  split
  · exact accounts.refuse
  · exact accounts.finish _ .stopped (some "superseded") time

theorem Accounts.begin {s : Store} {history : List Mark} (accounts : s.Accounts history)
    (skill node : String) (time : Nat) :
    (s.begin skill node time).store.Accounts (history ++ (s.begin skill node time).marks) := by
  have cleared := accounts.supersede skill time
  let started : Mark := .told (.attemptStarted (s.begin skill node time).result skill node time)
  have marks_eq :
      history ++ (s.begin skill node time).marks =
        history ++ (s.supersede skill time).marks ++ [started] := by
    simp [started, Change.marks, Store.begin]
  rw [marks_eq]
  apply cleared.concat (tells_started _ skill node time) (accounts.linked.begin skill node time)
  · intro k
    exact countersOf_count _ skill k _
  · intro other c c_found
    have c_found := (Table.find?_insert ..).symm.trans c_found
    split at c_found
    · rename_i same
      cases c_found
      rw [same]
      exact ⟨node, time, by simp [Store.begin, Attempt.addNote]⟩
    · exact (cleared.begun other c c_found).append _
  · intro _ _ differs
    contradiction

/-- The metrics of a skill that has not been seen are zero anyway. -/
theorem countersOf_resetMetric (s : Store) (skill : String) (metric : Metric) (time : Nat)
    (other : String) :
    (s.resetMetric skill metric time).store.countersOf other =
      if other = skill then (s.countersOf skill).reset metric else s.countersOf other := by
  unfold Store.resetMetric
  cases found : s.counters.find? skill with
  | none =>
      simp only
      split
      · rename_i same
        rw [same, countersOf, found]
        cases metric <;> rfl
      · rfl
  | some c =>
      simp only [countersOf, Table.find?_insert, found]
      split <;> rfl

theorem live_resetMetric (s : Store) (skill : String) (metric : Metric) (time : Nat) :
    (s.resetMetric skill metric time).store.live = s.live := by
  unfold Store.resetMetric
  cases s.counters.find? skill <;> rfl

theorem Accounts.resetMetric {s : Store} {history : List Mark} (accounts : s.Accounts history)
    (skill : String) (metric : Metric) (time : Nat) :
    (s.resetMetric skill metric time).store.Accounts
      (history ++ (s.resetMetric skill metric time).marks) := by
  apply accounts.concat (tells_reset skill metric time)
    (accounts.linked.resetMetric skill metric time)
  · intro k
    exact countersOf_resetMetric s skill metric time k
  · intro id a found
    rw [live_resetMetric] at found
    exact (accounts.begun id a found).append _
  · intro _ _ differs
    contradiction

theorem Accounts.stopEach {s : Store} {history : List Mark} (accounts : s.Accounts history)
    (reason : String) (time : Nat) (ids : List String) :
    (s.stopEach reason time ids).store.Accounts
      (history ++ (s.stopEach reason time ids).marks) := by
  induction ids generalizing s history with
  | nil => exact accounts.refuse
  | cons id rest ih =>
      have ended := accounts.finish id .stopped (some reason) time
      have others := ih ended
      rw [List.append_assoc] at others
      simpa only [Change.marks, Store.stopEach, List.map_append] using others

/-! ## Any operations -/

/-- What an operation returns.  Those that cannot be refused are accepted. -/
def outcome (s : Store) : Operation → Change Bool
  | .begin skill node time => { s.begin skill node time with result := true }
  | .transition id stage time => s.transition id stage time
  | .keySent id time => s.keySent id time
  | .retry id time => s.retry id time
  | .note id kind detail time => s.note id kind detail time
  | .finish id stage reason time => s.finish id stage reason time
  | .resetMetric skill metric time => { s.resetMetric skill metric time with result := true }
  | .stopAll reason time => { s.stopAll reason time with result := true }

/-- The marks that an operation leaves: one for each of its events, and one for
a key press that it has accepted. -/
def marks (s : Store) (operation : Operation) : List Mark :=
  (s.outcome operation).marks ++
    match operation with
    | .keySent id time => s.press id time
    | _ => []

/-- The history of a store under operations one after the other. -/
def history (s : Store) : List Operation → List Mark
  | [] => []
  | operation :: rest => s.marks operation ++ (s.operate operation).history rest

/-- The store that an operation returns is the one that it leads to. -/
theorem store_outcome (s : Store) (operation : Operation) :
    (s.outcome operation).store = s.operate operation := by
  cases operation <;> rfl

theorem keySent_events (s : Store) (id : String) (time : Nat) :
    (s.keySent id time).events = [] := by
  rcases keySent_cases s id time with refused | ⟨_, _, done⟩
  · rw [refused]
    rfl
  · rw [done]

/-- An operation that is refused changes nothing and tells nothing. -/
theorem outcome_eq_refuse {s : Store} {operation : Operation}
    (refused : (s.outcome operation).result = false) : s.outcome operation = s.refuse := by
  cases operation with
  | begin skill node time => contradiction
  | transition id stage time =>
      rcases transition_cases s id stage time with eq | ⟨_, _, done⟩
      · exact eq
      · rw [outcome, done] at refused
        contradiction
  | keySent id time =>
      rcases keySent_cases s id time with eq | ⟨_, _, done⟩
      · exact eq
      · rw [outcome, done] at refused
        contradiction
  | retry id time =>
      rcases retry_cases s id time with eq | ⟨_, _, done⟩
      · exact eq
      · rw [outcome, done] at refused
        contradiction
  | note id kind detail time =>
      rcases note_cases s id kind detail time with eq | ⟨_, _, done⟩
      · exact eq
      · rw [outcome, done] at refused
        contradiction
  | finish id stage reason time =>
      rcases finish_told_cases s id stage reason time with eq | ⟨_, accepted, _⟩
      · exact eq
      · rw [outcome, accepted] at refused
        contradiction
  | resetMetric skill metric time => contradiction
  | stopAll reason time => contradiction

theorem Accounts.operate {s : Store} {history : List Mark} (accounts : s.Accounts history)
    (operation : Operation) :
    (s.operate operation).Accounts (history ++ s.marks operation) := by
  unfold marks
  cases operation with
  | keySent id time =>
      simp only [outcome, Change.marks, keySent_events, List.map_nil, List.nil_append]
      exact accounts.keySent id time
  | begin skill node time =>
      rw [List.append_nil]
      exact accounts.begin skill node time
  | transition id stage time =>
      rw [List.append_nil]
      exact accounts.transition id stage time
  | retry id time =>
      rw [List.append_nil]
      exact accounts.retry id time
  | note id kind detail time =>
      rw [List.append_nil]
      exact accounts.note id kind detail time
  | finish id stage reason time =>
      rw [List.append_nil]
      exact accounts.finish id stage reason time
  | resetMetric skill metric time =>
      rw [List.append_nil]
      exact accounts.resetMetric skill metric time
  | stopAll reason time =>
      rw [List.append_nil]
      exact accounts.stopEach reason time s.live.keys

theorem Accounts.operateAll {s : Store} {past : List Mark} (accounts : s.Accounts past)
    (operations : List Operation) :
    (s.operateAll operations).Accounts (past ++ s.history operations) := by
  induction operations generalizing s past with
  | nil => rwa [history, List.append_nil]
  | cons operation rest ih =>
      rw [history, ← List.append_assoc]
      exact ih (accounts.operate operation)

/-- After any operations on an empty store, whatever their arguments, its
counters replay its history: a metric of a skill is the number of marks that
count for it since it was last reset, where a key press is one of an attempt
that was begun for the skill; and the reasons of failures add up to all failures
of the skill, resets notwithstanding.  An operation that is refused then tells
nothing and changes nothing. -/
theorem operateAll_empty_replays (limits : StoreLimits) (operations : List Operation) :
    let s := (empty limits).operateAll operations
    let history := (empty limits).history operations
    (∀ skill metric, s.metric skill metric =
        (sinceReset skill metric history).countP (Mark.counts skill metric)) ∧
      (∀ id skill, .pressed id skill ∈ history → IsBegun history id skill) ∧
      (∀ skill, (s.countersOf skill).failReasons.values.sum =
        history.countP (Mark.counts skill .fail)) ∧
      ∀ operation, (s.outcome operation).result = false →
        (s.outcome operation).events = [] ∧ (s.outcome operation).store = s := by
  intro s history
  have accounts : s.Accounts history := (accounts_empty limits).operateAll operations
  refine ⟨accounts.metric, accounts.pressed, accounts.reasons, ?_⟩
  intro operation refused
  rw [outcome_eq_refuse refused]
  exact ⟨rfl, rfl⟩

end Store

end Rotation
