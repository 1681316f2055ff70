import Mathlib.Data.List.Nodup
import Rotation.Proofs.Attempt.UnderWay

/-!
# Attempts end once

An attempt takes its identifier from the name of its skill, which may be any
text, and from a number that the store counts up.  The number alone tells
attempts apart.  So each attempt is told of once when it begins and at most once
when it ends, whichever of the operations ends it; and of an attempt that has
ended the store knows no more than what it keeps for reading: whatever is asked
of it is refused.
-/

namespace Rotation

open Rotation.Order

namespace Event

/-- The attempt that an event says has begun. -/
def begun? : Event → Option String
  | .attemptStarted attempt _ _ _ => some attempt
  | _ => none

/-- The attempt that an event says has ended. -/
def ended? : Event → Option String
  | .attemptFinished attempt _ _ _ _ => some attempt
  | _ => none

end Event

/-- A live attempt as it is when it has ended. -/
def Attempt.closed (a : Attempt) (cap : Nat) (stage : Stage) (reason : Option String)
    (time : Nat) : Attempt :=
  { a with stage, finishedAt := some time, reason }.addNote cap ⟨time, stage.name, reason⟩

namespace Store

/-- The events that operations publish one after the other. -/
def published (s : Store) : List Operation → List Event
  | [] => []
  | operation :: rest => (s.outcome operation).events ++ (s.operate operation).published rest

/-- The identifier that an operation returns, if it begins an attempt. -/
def newId? (s : Store) : Operation → Option String
  | .begin skill node time => some (s.begin skill node time).result
  | _ => none

/-- The identifiers that operations return one after the other. -/
def newIds (s : Store) : List Operation → List String
  | [] => []
  | operation :: rest => (s.newId? operation).toList ++ (s.operate operation).newIds rest

/-- An operation on the attempt with an identifier. -/
def Operation.IsOn (id : String) : Operation → Prop
  | .transition other _ _ | .keySent other _ | .retry other _ | .note other _ _ _
  | .finish other _ _ _ => other = id
  | .begin _ _ _ | .resetMetric _ _ _ | .stopAll _ _ => False

/-! ## Refusals -/

/-- Whatever is asked of an attempt that is not live is refused. -/
theorem outcome_of_gone {s : Store} {id : String} (gone : s.live.find? id = none)
    {operation : Operation} (own : operation.IsOn id) : s.outcome operation = s.refuse := by
  cases operation with
  | transition other stage time =>
      obtain rfl : other = id := own
      simp [outcome, transition, gone]
  | keySent other time =>
      obtain rfl : other = id := own
      simp [outcome, keySent, gone]
  | retry other time =>
      obtain rfl : other = id := own
      simp [outcome, retry, gone]
  | note other kind detail time =>
      obtain rfl : other = id := own
      simp [outcome, note, gone]
  | finish other stage reason time =>
      obtain rfl : other = id := own
      simp [outcome, finish, gone]
  | begin | resetMetric | stopAll => contradiction

theorem transition_of_terminal (s : Store) (id : String) {stage : Stage}
    (terminal : stage.isTerminal = true) (time : Nat) :
    s.transition id stage time = s.refuse := by
  simp [transition, terminal]

theorem finish_of_ongoing (s : Store) (id : String) {stage : Stage}
    (ongoing : stage.isTerminal = false) (reason : Option String) (time : Nat) :
    s.finish id stage reason time = s.refuse := by
  simp [finish, ongoing]

/-- A live attempt is closed when it is finished by a stage that ends it. -/
theorem finish_of_found {s : Store} {id : String} {a : Attempt} (found : s.live.find? id = some a)
    {stage : Stage} (terminal : stage.isTerminal = true) (reason : Option String) (time : Nat) :
    s.finish id stage reason time =
      ⟨true, [.attemptFinished id a.skill stage reason time],
        { s.count a.skill fun c => c.finished id stage reason with
          live := s.live.erase id
          recent := s.recent.modify a.skill [] fun ring => keepNewest s.limits.recentAttempts
            (ring ++ [a.closed s.limits.attemptNotes stage reason time]) }⟩ := by
  simp only [finish, terminal, found]
  rfl

/-! ## What has been told of attempts -/

/-- The store is as it has to be when attempts with the identifiers have begun
and the events have been published. -/
structure Tracks (s : Store) (ids : List String) (events : List Event) : Prop where
  linked : s.Linked
  numbered : ∀ id ∈ ids, numberOf id ≤ s.lastNumber
  distinct : ids.Nodup
  begun : events.filterMap Event.begun? = ids
  endsOnce : (events.filterMap Event.ended?).Nodup
  gone : ∀ id ∈ events.filterMap Event.ended?, id ∈ ids ∧ s.live.find? id = none
  live : ∀ id a, s.live.find? id = some a → id ∈ ids

theorem tracks_empty (limits : StoreLimits) : (empty limits).Tracks [] [] where
  linked := linked_empty limits
  numbered := by simp
  distinct := .nil
  begun := rfl
  endsOnce := .nil
  gone := by simp
  live id a found := by contradiction

variable {s moved : Store} {ids : List String} {events more : List Event}

/-- While no attempt begins or ends, the same ones stay live. -/
theorem Tracks.pass (tracks : s.Tracks ids events) (linked : moved.Linked)
    (number_eq : moved.lastNumber = s.lastNumber)
    (live_iff : ∀ id, moved.live.find? id = none ↔ s.live.find? id = none)
    (none_begun : more.filterMap Event.begun? = [])
    (none_ended : more.filterMap Event.ended? = []) :
    moved.Tracks ids (events ++ more) where
  linked := linked
  numbered id mem := number_eq ▸ tracks.numbered id mem
  distinct := tracks.distinct
  begun := by rw [List.filterMap_append, none_begun, List.append_nil, tracks.begun]
  endsOnce := by
    rw [List.filterMap_append, none_ended, List.append_nil]
    exact tracks.endsOnce
  gone id mem := by
    rw [List.filterMap_append, none_ended, List.append_nil] at mem
    rw [live_iff]
    exact tracks.gone id mem
  live id a found := by
    obtain ⟨b, b_found⟩ := Option.ne_none_iff_exists'.mp
      (mt (live_iff id).mpr (Option.ne_none_iff_exists'.mpr ⟨a, found⟩))
    exact tracks.live id b b_found

theorem Tracks.refuse (tracks : s.Tracks ids events) :
    s.refuse.store.Tracks ids (events ++ s.refuse.events) := by
  rwa [Store.refuse, List.append_nil]

/-- Only the live attempts that are there can be annotated. -/
theorem find?_annotate_eq_none_iff {id : String} {a b : Attempt} (linked : s.Linked)
    (found : s.live.find? id = some a) (id_eq : b.id = a.id) (note : AttemptNote)
    (other : String) :
    (s.annotate b note).live.find? other = none ↔ s.live.find? other = none := by
  obtain ⟨rfl, _⟩ := linked.named id a found
  rw [annotate, Table.find?_insert, id_eq]
  split
  · rename_i same
    simp [same, found]
  · rfl

theorem Tracks.finish (tracks : s.Tracks ids events) (id : String) (stage : Stage)
    (reason : Option String) (time : Nat) :
    (s.finish id stage reason time).store.Tracks ids
      (events ++ (s.finish id stage reason time).events) := by
  cases terminal : stage.isTerminal with
  | false =>
      rw [finish_of_ongoing s id terminal]
      exact tracks.refuse
  | true =>
      cases found : s.live.find? id with
      | none =>
          rw [show s.finish id stage reason time = s.refuse from
            @outcome_of_gone s id found (.finish id stage reason time) rfl]
          exact tracks.refuse
      | some a =>
          have linked := tracks.linked.finish id stage reason time
          rw [finish_of_found found terminal] at linked ⊢
          have unended : id ∉ events.filterMap Event.ended? := by
            intro ended
            rw [(tracks.gone id ended).2] at found
            contradiction
          have find_eq : ∀ other, (s.live.erase id).find? other =
              if other = id then none else s.live.find? other :=
            Table.find?_erase tracks.linked.ascending id
          constructor
          · exact linked
          · exact tracks.numbered
          · exact tracks.distinct
          · rw [List.filterMap_append, tracks.begun]
            exact List.append_nil ids
          · rw [List.filterMap_append]
            exact List.concat_eq_append ▸ tracks.endsOnce.concat unended
          · intro other mem
            rw [List.filterMap_append] at mem
            dsimp only
            rw [find_eq]
            rcases List.mem_append.mp mem with before | now
            · obtain ⟨known, gone⟩ := tracks.gone other before
              exact ⟨known, by simp [gone]⟩
            · obtain rfl : other = id := by simpa [Event.ended?] using now
              exact ⟨tracks.live other a found, if_pos rfl⟩
          · intro other b b_found
            dsimp only at b_found
            rw [find_eq] at b_found
            split at b_found
            · contradiction
            · exact tracks.live other b b_found

theorem Tracks.supersede (tracks : s.Tracks ids events) (skill : String) (time : Nat) :
    (s.supersede skill time).store.Tracks ids (events ++ (s.supersede skill time).events) := by
  unfold Store.supersede
  split
  · exact tracks.refuse
  · exact tracks.finish _ .stopped (some "superseded") time

/-- The number of an attempt that begins is higher than that of any other. -/
theorem Tracks.begin (tracks : s.Tracks ids events) (skill node : String) (time : Nat) :
    (s.begin skill node time).store.Tracks (ids ++ [(s.begin skill node time).result])
      (events ++ (s.begin skill node time).events) := by
  have cleared := tracks.supersede skill time
  set t := (s.supersede skill time).store
  have id_eq : (s.begin skill node time).result = attemptId skill (t.lastNumber + 1) := rfl
  have number_eq : (s.begin skill node time).store.lastNumber = t.lastNumber + 1 := rfl
  have find_eq : ∀ other, (s.begin skill node time).store.live.find? other =
      if other = (s.begin skill node time).result then
        some (Attempt.addNote ⟨(s.begin skill node time).result, skill, node, .preparing, 0, time,
          none, none, [], 0⟩ t.limits.attemptNotes ⟨time, Stage.preparing.name, none⟩)
      else t.live.find? other :=
    fun other => Table.find?_insert ..
  have events_eq : (s.begin skill node time).events = (s.supersede skill time).events ++
      [.attemptStarted (s.begin skill node time).result skill node time] := rfl
  have fresh : (s.begin skill node time).result ∉ ids := by
    intro known
    have bound := cleared.numbered _ known
    rw [id_eq, numberOf_attemptId] at bound
    omega
  rw [events_eq, ← List.append_assoc]
  constructor
  · exact tracks.linked.begin skill node time
  · intro id mem
    rw [number_eq]
    rcases List.mem_append.mp mem with old | new
    · exact Nat.le_succ_of_le (cleared.numbered id old)
    · rw [List.mem_singleton.mp new, id_eq, numberOf_attemptId]
  · exact List.concat_eq_append ▸ tracks.distinct.concat fresh
  · rw [List.filterMap_append, cleared.begun]
    rfl
  · rw [List.filterMap_append]
    exact (List.append_nil _).symm ▸ cleared.endsOnce
  · intro id mem
    rw [List.filterMap_append] at mem
    obtain ⟨known, gone⟩ := cleared.gone id
      ((List.mem_append.mp mem).resolve_right (by simp [Event.ended?]))
    refine ⟨List.mem_append_left _ known, ?_⟩
    rw [find_eq, if_neg (ne_of_mem_of_not_mem known fresh)]
    exact gone
  · intro id a found
    rw [find_eq] at found
    split at found
    · rename_i same
      rw [same]
      exact List.mem_append_right ids (List.mem_singleton_self _)
    · exact List.mem_append_left _ (cleared.live id a found)

theorem Tracks.stopEach (tracks : s.Tracks ids events) (reason : String) (time : Nat)
    (named : List String) :
    (s.stopEach reason time named).store.Tracks ids
      (events ++ (s.stopEach reason time named).events) := by
  induction named generalizing s events with
  | nil => exact tracks.refuse
  | cons id rest ih =>
      have others := ih (tracks.finish id .stopped (some reason) time)
      rwa [List.append_assoc] at others

/-- A live attempt that changes stays live. -/
theorem Tracks.annotate (tracks : s.Tracks ids events) (linked : moved.Linked) {id : String}
    {a b : Attempt} (found : s.live.find? id = some a) (id_eq : b.id = a.id) {note : AttemptNote}
    (live_eq : moved.live = (s.annotate b note).live) (number_eq : moved.lastNumber = s.lastNumber)
    (none_begun : more.filterMap Event.begun? = [])
    (none_ended : more.filterMap Event.ended? = []) :
    moved.Tracks ids (events ++ more) := by
  refine tracks.pass linked number_eq ?_ none_begun none_ended
  intro other
  rw [live_eq]
  exact find?_annotate_eq_none_iff tracks.linked found id_eq note other

theorem Tracks.transition (tracks : s.Tracks ids events) (id : String) (stage : Stage)
    (time : Nat) :
    (s.transition id stage time).store.Tracks ids
      (events ++ (s.transition id stage time).events) := by
  have linked := tracks.linked.transition id stage time
  rcases transition_cases s id stage time with refused | ⟨a, found, done⟩
  · rw [refused]
    exact tracks.refuse
  · rw [done] at linked ⊢
    exact tracks.annotate (b := { a with stage }) linked found rfl rfl rfl rfl rfl

theorem Tracks.keySent (tracks : s.Tracks ids events) (id : String) (time : Nat) :
    (s.keySent id time).store.Tracks ids (events ++ (s.keySent id time).events) := by
  have linked := tracks.linked.keySent id time
  rcases keySent_cases s id time with refused | ⟨a, found, done⟩
  · rw [refused]
    exact tracks.refuse
  · rw [done] at linked ⊢
    exact tracks.annotate linked found rfl rfl rfl rfl rfl

theorem Tracks.retry (tracks : s.Tracks ids events) (id : String) (time : Nat) :
    (s.retry id time).store.Tracks ids (events ++ (s.retry id time).events) := by
  have linked := tracks.linked.retry id time
  rcases retry_cases s id time with refused | ⟨a, found, done⟩
  · rw [refused]
    exact tracks.refuse
  · rw [done] at linked ⊢
    exact tracks.annotate (b := { a with retries := a.retries + 1 }) linked found rfl rfl rfl rfl
      rfl

theorem Tracks.note (tracks : s.Tracks ids events) (id kind : String) (detail : Option String)
    (time : Nat) :
    (s.note id kind detail time).store.Tracks ids
      (events ++ (s.note id kind detail time).events) := by
  have linked := tracks.linked.note id kind detail time
  rcases note_cases s id kind detail time with refused | ⟨a, found, done⟩
  · rw [refused]
    exact tracks.refuse
  · rw [done] at linked ⊢
    exact tracks.annotate linked found rfl rfl rfl rfl rfl

theorem Tracks.resetMetric (tracks : s.Tracks ids events) (skill : String) (metric : Metric)
    (time : Nat) :
    (s.resetMetric skill metric time).store.Tracks ids
      (events ++ (s.resetMetric skill metric time).events) := by
  refine tracks.pass (tracks.linked.resetMetric skill metric time) ?_ ?_ rfl rfl
  · rw [Store.resetMetric]
    cases s.counters.find? skill <;> rfl
  · intro id
    rw [live_resetMetric]

theorem Tracks.operate (tracks : s.Tracks ids events) (operation : Operation) :
    (s.operate operation).Tracks (ids ++ (s.newId? operation).toList)
      (events ++ (s.outcome operation).events) := by
  cases operation with
  | begin skill node time => exact tracks.begin skill node time
  | transition id stage time =>
      simp only [newId?, Option.toList_none, List.append_nil]
      exact tracks.transition id stage time
  | keySent id time =>
      simp only [newId?, Option.toList_none, List.append_nil]
      exact tracks.keySent id time
  | retry id time =>
      simp only [newId?, Option.toList_none, List.append_nil]
      exact tracks.retry id time
  | note id kind detail time =>
      simp only [newId?, Option.toList_none, List.append_nil]
      exact tracks.note id kind detail time
  | finish id stage reason time =>
      simp only [newId?, Option.toList_none, List.append_nil]
      exact tracks.finish id stage reason time
  | resetMetric skill metric time =>
      simp only [newId?, Option.toList_none, List.append_nil]
      exact tracks.resetMetric skill metric time
  | stopAll reason time =>
      simp only [newId?, Option.toList_none, List.append_nil]
      exact tracks.stopEach reason time s.live.keys

theorem Tracks.operateAll (tracks : s.Tracks ids events) (operations : List Operation) :
    (s.operateAll operations).Tracks (ids ++ s.newIds operations)
      (events ++ s.published operations) := by
  induction operations generalizing s ids events with
  | nil => rwa [newIds, published, List.append_nil, List.append_nil]
  | cons operation rest ih =>
      rw [newIds, published, ← List.append_assoc, ← List.append_assoc]
      exact ih (tracks.operate operation)

/-- After any operations on an empty store, whatever their arguments: the
identifiers that were returned for new attempts are distinct, the events tell of
the beginning of each once and in order, and of the end of each at most once and
of no other.  When the end of an attempt has been told, every operation on it is
refused: it returns false, publishes nothing and leaves the store as it is.  So
is, of any attempt, an end by a stage that does not end it and a change to one
that does. -/
theorem operateAll_empty_ends_once (limits : StoreLimits) (operations : List Operation) :
    let s := (empty limits).operateAll operations
    let events := (empty limits).published operations
    let ids := (empty limits).newIds operations
    ids.Nodup ∧ events.filterMap Event.begun? = ids ∧
      (events.filterMap Event.ended?).Nodup ∧
      (∀ id ∈ events.filterMap Event.ended?, id ∈ ids ∧
        ∀ operation, operation.IsOn id → s.outcome operation = ⟨false, [], s⟩) ∧
      (∀ id stage reason time, stage.isTerminal = false →
        s.finish id stage reason time = ⟨false, [], s⟩) ∧
      ∀ id stage time, stage.isTerminal = true → s.transition id stage time = ⟨false, [], s⟩ := by
  intro s events ids
  have tracks : s.Tracks ids events := (tracks_empty limits).operateAll operations
  refine ⟨tracks.distinct, tracks.begun, tracks.endsOnce, ?_, ?_, ?_⟩
  · intro id ended
    obtain ⟨known, gone⟩ := tracks.gone id ended
    exact ⟨known, fun operation own => outcome_of_gone gone own⟩
  · intro id stage reason time ongoing
    exact finish_of_ongoing s id ongoing reason time
  · intro id stage time terminal
    exact transition_of_terminal s id terminal time

end Store

end Rotation
