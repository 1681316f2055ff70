import Mathlib.Data.List.DropRight
import Rotation.Proofs.Attempt.Finality

/-!
# What bounded histories keep

The store keeps only the newest notes of an attempt, and only the newest
attempts of a skill that have ended.  Beside it stands, for each skill, a log
that keeps everything.  It is written by the same operations and knows of no
bound.  What the store shows of a skill is what the bounds leave of its log:
the newest entries, in the order in which they came.
-/

namespace Rotation

open Rotation.Order

/-- The newest items of a history are found among its newest items so far. -/
theorem keepNewest_rtake {α : Type} (cap : Nat) (items : List α) (item : α) :
    keepNewest cap (items.rtake cap ++ [item]) = (items ++ [item]).rtake cap := by
  have joined : items.rtake cap ++ [item] = (items ++ [item]).drop (items.length - cap) :=
    (List.drop_append_of_le_length (Nat.sub_le items.length cap)).symm
  rw [keepNewest, joined, List.drop_drop, List.rtake]
  congr 1
  simp only [List.length_drop, List.length_append, List.length_singleton]
  omega

theorem keepNewest_map_rtake {α β : Type} (f : α → β) (cap : Nat) (items : List α) (item : α) :
    keepNewest cap ((items.rtake cap).map f ++ [f item]) =
      ((items ++ [item]).rtake cap).map f := by
  rw [← keepNewest_rtake, keepNewest, keepNewest, List.map_drop, List.map_append,
    List.map_singleton, ← List.length_map f, List.map_append, List.map_singleton]

namespace Attempt

/-- Add a note and drop none. -/
def write (a : Attempt) (note : AttemptNote) : Attempt :=
  { a with notes := a.notes ++ [note] }

/-- A live attempt as it is when it has ended, with all its notes. -/
def concluded (a : Attempt) (stage : Stage) (reason : Option String) (time : Nat) : Attempt :=
  { a with stage, finishedAt := some time, reason }.write ⟨time, stage.name, reason⟩

/-- The attempt with its newest notes only, and the number of the others. -/
def trimmed (a : Attempt) (cap : Nat) : Attempt :=
  { a with
    notes := a.notes.rtake cap
    droppedNotes := a.notes.length - (a.notes.rtake cap).length }

/-- What the bound drops early it would have dropped in the end. -/
theorem addNote_trimmed (a : Attempt) (cap : Nat) (note : AttemptNote) :
    (a.trimmed cap).addNote cap note = (a.write note).trimmed cap := by
  have dropped_eq : a.notes.length - (a.notes.rtake cap).length +
      ((a.notes.rtake cap ++ [note]).length - cap) =
        (a.notes ++ [note]).length - ((a.notes ++ [note]).rtake cap).length := by
    simp only [List.rtake, List.length_append, List.length_singleton, List.length_drop]
    omega
  simp only [trimmed, addNote, write, keepNewest_rtake, dropped_eq]

theorem closed_trimmed (a : Attempt) (cap : Nat) (stage : Stage) (reason : Option String)
    (time : Nat) :
    (a.trimmed cap).closed cap stage reason time = (a.concluded stage reason time).trimmed cap :=
  addNote_trimmed { a with stage, finishedAt := some time, reason } cap _

end Attempt

/-! ## The log of a skill -/

/-- All that is known about the attempts at one skill, and how many attempts at
any skill have begun. -/
structure SkillLog where
  begun : Nat
  live : Option Attempt
  ended : List Attempt

namespace SkillLog

/-- A log in which nothing is written. -/
def empty : SkillLog :=
  ⟨0, none, []⟩

/-- Change the live attempt if it has the identifier. -/
def change (log : SkillLog) (id : String) (f : Attempt → Attempt) : SkillLog :=
  { log with live := log.live.map fun a => if a.id = id then f a else a }

/-- Take note that the live attempt has ended. -/
def conclude (log : SkillLog) (last : Attempt) : SkillLog :=
  { log with live := none, ended := log.ended ++ [last] }

/-- End the live attempt if it is one of those meant. -/
def close (log : SkillLog) (meant : Attempt → Bool) (stage : Stage) (reason : Option String)
    (time : Nat) : SkillLog :=
  match log.live with
  | none => log
  | some a => if meant a then log.conclude (a.concluded stage reason time) else log

/-- Take note of an attempt that begins; it is live in the log of its skill. -/
def join (skill : String) (log : SkillLog) (fresh : Attempt) : SkillLog :=
  { log with
    begun := log.begun + 1
    live := if fresh.skill = skill then some fresh else log.live }

/-- What an operation on the store writes into the log of a skill. -/
def record (skill : String) (log : SkillLog) : Store.Operation → SkillLog
  | .begin other node time =>
    (log.close (fun _ => other = skill) .stopped (some "superseded") time).join skill
      ⟨Store.attemptId other (log.begun + 1), other, node, .preparing, 0, time, none, none,
        [⟨time, Stage.preparing.name, none⟩], 0⟩
  | .transition id stage time =>
    if stage.isTerminal then log
    else log.change id fun a => { a with stage }.write ⟨time, stage.name, none⟩
  | .keySent id time => log.change id fun a => a.write ⟨time, "KEY_SENT", none⟩
  | .retry id time =>
    log.change id fun a =>
      { a with retries := a.retries + 1 }.write ⟨time, "RETRY", some (toString (a.retries + 1))⟩
  | .note id kind detail time => log.change id fun a => a.write ⟨time, kind, detail⟩
  | .finish id stage reason time =>
    if stage.isTerminal then log.close (fun a => a.id = id) stage reason time else log
  | .resetMetric _ _ _ => log
  | .stopAll reason time => log.close (fun _ => true) .stopped (some reason) time

/-- The log of a skill after some operations. -/
def ofOperations (skill : String) (operations : List Store.Operation) : SkillLog :=
  operations.foldl (record skill) empty

variable {log : SkillLog} {id : String}

theorem change_of_differs (differs : ∀ a, log.live = some a → a.id ≠ id)
    (f : Attempt → Attempt) : log.change id f = log := by
  cases log with
  | mk begun live ended =>
      cases live with
      | none => rfl
      | some a => simp [change, differs a rfl]

theorem close_of_differs {meant : Attempt → Bool}
    (differs : ∀ a, log.live = some a → meant a = false) (stage : Stage) (reason : Option String)
    (time : Nat) : log.close meant stage reason time = log := by
  unfold close
  split
  · rfl
  · rename_i a found
    simp [differs a found]

theorem close_of_meant {meant : Attempt → Bool} {a : Attempt} (found : log.live = some a)
    (own : meant a = true) (stage : Stage) (reason : Option String) (time : Nat) :
    log.close meant stage reason time = log.conclude (a.concluded stage reason time) := by
  simp [close, found, own]

@[simp]
theorem begun_close (log : SkillLog) (meant : Attempt → Bool) (stage : Stage)
    (reason : Option String) (time : Nat) :
    (log.close meant stage reason time).begun = log.begun := by
  unfold close
  split
  · rfl
  · split <;> rfl

/-- When all attempts are meant, none stays live. -/
theorem live_close {meant : Attempt → Bool} (all : ∀ a, meant a = true) (log : SkillLog)
    (stage : Stage) (reason : Option String) (time : Nat) :
    (log.close meant stage reason time).live = none := by
  unfold close
  split
  · assumption
  · rw [if_pos (all _)]
    rfl

/-- Only of a live attempt does it matter whether it is meant. -/
theorem close_congr {first second : Attempt → Bool}
    (agree : ∀ a, log.live = some a → first a = second a) (stage : Stage)
    (reason : Option String) (time : Nat) :
    log.close first stage reason time = log.close second stage reason time := by
  unfold close
  split
  · rfl
  · rename_i a found
    rw [agree a found]

/-- To end some attempts and then others is to end all of them. -/
theorem close_close (log : SkillLog) (first second : Attempt → Bool) (stage : Stage)
    (reason : Option String) (time : Nat) :
    (log.close first stage reason time).close second stage reason time =
      log.close (fun a => first a || second a) stage reason time := by
  cases log with
  | mk begun live ended =>
      cases live with
      | none => rfl
      | some a =>
          cases first_eq : first a with
          | true => simp [close, conclude, first_eq]
          | false => simp [close, first_eq]

end SkillLog

/-! ## The store beside the logs -/

namespace Store

/-- The store shows what the bounds leave of the logs. -/
structure Keeps (limits : StoreLimits) (s : Store) (log : String → SkillLog) : Prop where
  linked : s.Linked
  limits_eq : s.limits = limits
  ascending : s.recent.Ascending
  begun : ∀ skill, (log skill).begun = s.lastNumber
  live_iff : ∀ skill id a, s.live.find? id = some a ∧ a.skill = skill ↔
    ∃ whole, (log skill).live = some whole ∧ whole.id = id ∧ whole.trimmed limits.attemptNotes = a
  recent : ∀ skill, (s.recent.find? skill).getD [] =
    ((log skill).ended.rtake limits.recentAttempts).map (·.trimmed limits.attemptNotes)
  ended : ∀ skill, ∀ a ∈ (log skill).ended,
    a.skill = skill ∧ numberOf a.id ≤ s.lastNumber ∧ s.live.find? a.id = none
  distinct : ∀ skill other, ∀ a ∈ (log skill).ended, ∀ b ∈ (log other).ended, a.id = b.id → a = b

theorem keeps_empty (limits : StoreLimits) :
    Keeps limits (empty limits) fun _ => SkillLog.empty where
  linked := linked_empty limits
  limits_eq := rfl
  ascending := Table.ascending_nil
  begun _ := rfl
  live_iff skill id a := by
    constructor
    · rintro ⟨found, _⟩
      contradiction
    · rintro ⟨whole, found, _⟩
      contradiction
  recent skill := by simp [Store.empty, SkillLog.empty, Table.find?, List.rtake]
  ended skill a mem := by contradiction
  distinct skill other a mem := by contradiction

variable {limits : StoreLimits} {s moved : Store} {log : String → SkillLog} {id : String}

/-- The log of an attempt that is not live has another one, or none. -/
theorem Keeps.differs_of_gone (keeps : Keeps limits s log) (gone : s.live.find? id = none)
    (skill : String) (whole : Attempt) (whole_live : (log skill).live = some whole) :
    whole.id ≠ id := by
  intro same
  have found := ((keeps.live_iff skill id _).mpr ⟨whole, whole_live, same, rfl⟩).1
  rw [gone] at found
  contradiction

/-- A live attempt stands in the log of its skill. -/
theorem Keeps.exists_whole (keeps : Keeps limits s log) {a : Attempt}
    (found : s.live.find? id = some a) :
    ∃ whole, (log a.skill).live = some whole ∧ whole.id = id ∧
      whole.trimmed limits.attemptNotes = a :=
  (keeps.live_iff a.skill id a).mp ⟨found, rfl⟩

/-- A live attempt stands in no other log. -/
theorem Keeps.differs_of_skill_ne (keeps : Keeps limits s log) {a : Attempt}
    (found : s.live.find? id = some a) {skill : String} (skill_ne : skill ≠ a.skill)
    (whole : Attempt) (whole_live : (log skill).live = some whole) : whole.id ≠ id := by
  intro same
  obtain ⟨other_found, skill_eq⟩ := (keeps.live_iff skill id _).mpr ⟨whole, whole_live, same, rfl⟩
  obtain rfl := Option.some.inj (other_found.symm.trans found)
  exact skill_ne skill_eq.symm

/-! ## Notes -/

/-- A live attempt changes in the store as it does in its log. -/
theorem Keeps.change (keeps : Keeps limits s log) {a b : Attempt}
    (found : s.live.find? id = some a) (linked : moved.Linked)
    (live_eq : moved.live = s.live.insert id b) (recent_eq : moved.recent = s.recent)
    (number_eq : moved.lastNumber = s.lastNumber) (limits_eq : moved.limits = s.limits)
    (skill_eq : b.skill = a.skill) {f : Attempt → Attempt} (f_id : ∀ whole, (f whole).id = whole.id)
    (f_trimmed : ∀ whole, whole.trimmed limits.attemptNotes = a →
      (f whole).trimmed limits.attemptNotes = b) :
    Keeps limits moved fun skill => (log skill).change id f where
  linked := linked
  limits_eq := limits_eq.trans keeps.limits_eq
  ascending := recent_eq ▸ keeps.ascending
  begun skill := number_eq ▸ keeps.begun skill
  recent skill := recent_eq ▸ keeps.recent skill
  ended skill c mem := by
    obtain ⟨own, numbered, gone⟩ := keeps.ended skill c mem
    refine ⟨own, number_eq ▸ numbered, ?_⟩
    have differs : c.id ≠ id := by
      rintro rfl
      rw [gone] at found
      contradiction
    rw [live_eq, Table.find?_insert, if_neg differs]
    exact gone
  distinct := keeps.distinct
  live_iff skill other c := by
    rw [live_eq, Table.find?_insert]
    by_cases same : other = id
    · subst same
      rw [if_pos rfl]
      constructor
      · rintro ⟨⟨⟩, rfl⟩
        obtain ⟨whole, whole_live, named, whole_eq⟩ := keeps.exists_whole found
        refine ⟨f whole, ?_, (f_id whole).trans named, f_trimmed whole whole_eq⟩
        simp [SkillLog.change, skill_eq, whole_live, named]
      · rintro ⟨changed, changed_live, named, rfl⟩
        obtain ⟨whole, whole_live, rfl⟩ := Option.map_eq_some_iff.mp changed_live
        have whole_named : whole.id = other := by
          by_contra differs
          rw [if_neg differs] at named
          exact differs named
        obtain ⟨whole_found, own⟩ :=
          (keeps.live_iff skill other _).mpr ⟨whole, whole_live, whole_named, rfl⟩
        have whole_eq := Option.some.inj (whole_found.symm.trans found)
        rw [if_pos whole_named, f_trimmed whole whole_eq]
        rw [whole_eq] at own
        exact ⟨rfl, skill_eq.trans own⟩
    · rw [if_neg same, keeps.live_iff]
      constructor
      · rintro ⟨whole, whole_live, rfl, rfl⟩
        exact ⟨whole, by simp [SkillLog.change, whole_live, same], rfl, rfl⟩
      · rintro ⟨changed, changed_live, rfl, rfl⟩
        obtain ⟨whole, whole_live, rfl⟩ := Option.map_eq_some_iff.mp changed_live
        have differs : whole.id ≠ id := by
          intro named
          rw [if_pos named, f_id] at same
          exact same named
        rw [if_neg differs]
        exact ⟨whole, whole_live, rfl, rfl⟩

/-- What is asked of an attempt that is not live changes no log. -/
theorem Keeps.change_of_gone (keeps : Keeps limits s log) (gone : s.live.find? id = none)
    (f : Attempt → Attempt) : Keeps limits s fun skill => (log skill).change id f := by
  have logs_eq : (fun skill => (log skill).change id f) = log :=
    funext fun skill => SkillLog.change_of_differs (keeps.differs_of_gone gone skill) f
  rw [logs_eq]
  exact keeps

/-- A live attempt that changes and is given a note. -/
theorem Keeps.annotate (keeps : Keeps limits s log) {a b : Attempt} {note : AttemptNote}
    (found : s.live.find? id = some a) (linked : moved.Linked)
    (live_eq : moved.live = (s.annotate b note).live) (recent_eq : moved.recent = s.recent)
    (number_eq : moved.lastNumber = s.lastNumber) (limits_eq : moved.limits = s.limits)
    (id_eq : b.id = a.id) (skill_eq : b.skill = a.skill) {f : Attempt → Attempt}
    (f_id : ∀ whole, (f whole).id = whole.id)
    (f_trimmed : ∀ whole, whole.trimmed limits.attemptNotes = a →
      (f whole).trimmed limits.attemptNotes = b.addNote limits.attemptNotes note) :
    Keeps limits moved fun skill => (log skill).change id f := by
  obtain ⟨named, _⟩ := keeps.linked.named id a found
  apply keeps.change (b := b.addNote limits.attemptNotes note) found linked ?_ recent_eq number_eq
    limits_eq skill_eq f_id f_trimmed
  rw [live_eq, Store.annotate, id_eq, named, keeps.limits_eq]

theorem Keeps.transition (keeps : Keeps limits s log) (id : String) (stage : Stage)
    (time : Nat) :
    Keeps limits (s.transition id stage time).store fun skill =>
      (log skill).record skill (.transition id stage time) := by
  cases terminal : stage.isTerminal with
  | true =>
      rw [transition_of_terminal s id terminal]
      simp only [SkillLog.record, terminal, if_true]
      exact keeps
  | false =>
      simp only [SkillLog.record, terminal, Bool.false_eq_true, if_false]
      cases found : s.live.find? id with
      | none =>
          simp only [Store.transition, terminal, found]
          exact keeps.change_of_gone found _
      | some a =>
          have linked := keeps.linked.transition id stage time
          simp only [Store.transition, terminal, found] at linked ⊢
          apply keeps.annotate (b := { a with stage }) found linked rfl rfl rfl rfl rfl rfl
          · exact fun _ => rfl
          · rintro whole rfl
            exact (Attempt.addNote_trimmed { whole with stage } _ _).symm

theorem Keeps.keySent (keeps : Keeps limits s log) (id : String) (time : Nat) :
    Keeps limits (s.keySent id time).store fun skill =>
      (log skill).record skill (.keySent id time) := by
  cases found : s.live.find? id with
  | none =>
      simp only [Store.keySent, found]
      exact keeps.change_of_gone found _
  | some a =>
      have linked := keeps.linked.keySent id time
      simp only [Store.keySent, found] at linked ⊢
      apply keeps.annotate found linked rfl rfl rfl rfl rfl rfl
      · exact fun _ => rfl
      · rintro whole rfl
        exact (Attempt.addNote_trimmed whole _ _).symm

theorem Keeps.retry (keeps : Keeps limits s log) (id : String) (time : Nat) :
    Keeps limits (s.retry id time).store fun skill =>
      (log skill).record skill (.retry id time) := by
  cases found : s.live.find? id with
  | none =>
      simp only [Store.retry, found]
      exact keeps.change_of_gone found _
  | some a =>
      have linked := keeps.linked.retry id time
      simp only [Store.retry, found] at linked ⊢
      apply keeps.annotate (b := { a with retries := a.retries + 1 }) found linked rfl rfl rfl rfl
        rfl rfl
      · exact fun _ => rfl
      · rintro whole rfl
        exact (Attempt.addNote_trimmed { whole with retries := whole.retries + 1 } _ _).symm

theorem Keeps.note (keeps : Keeps limits s log) (id kind : String) (detail : Option String)
    (time : Nat) :
    Keeps limits (s.note id kind detail time).store fun skill =>
      (log skill).record skill (.note id kind detail time) := by
  cases found : s.live.find? id with
  | none =>
      simp only [Store.note, found]
      exact keeps.change_of_gone found _
  | some a =>
      have linked := keeps.linked.note id kind detail time
      simp only [Store.note, found] at linked ⊢
      apply keeps.annotate found linked rfl rfl rfl rfl rfl rfl
      · exact fun _ => rfl
      · rintro whole rfl
        exact (Attempt.addNote_trimmed whole _ _).symm

theorem Keeps.resetMetric (keeps : Keeps limits s log) (skill : String) (metric : Metric)
    (time : Nat) : Keeps limits (s.resetMetric skill metric time).store log := by
  have linked := keeps.linked.resetMetric skill metric time
  unfold Store.resetMetric at linked ⊢
  cases found : s.counters.find? skill with
  | none => exact keeps
  | some c =>
      simp only [found] at linked ⊢
      exact ⟨linked, keeps.limits_eq, keeps.ascending, keeps.begun, keeps.live_iff, keeps.recent,
        keeps.ended, keeps.distinct⟩

/-! ## Ends -/

/-- Of all logs, only that of its skill tells of the end of an attempt. -/
theorem Keeps.close_eq (keeps : Keeps limits s log) {a whole : Attempt}
    (found : s.live.find? id = some a) (whole_live : (log a.skill).live = some whole)
    (named : whole.id = id) (stage : Stage) (reason : Option String) (time : Nat)
    (skill : String) :
    (log skill).close (fun a => a.id = id) stage reason time =
      if skill = a.skill then (log skill).conclude (whole.concluded stage reason time)
      else log skill := by
  split
  · rename_i same
    subst same
    exact SkillLog.close_of_meant whole_live (decide_eq_true named) stage reason time
  · rename_i skill_ne
    apply SkillLog.close_of_differs
    intro other other_live
    exact decide_eq_false (keeps.differs_of_skill_ne found skill_ne other other_live)

/-- The attempt that ends is the newest of its skill that has ended. -/
theorem Keeps.conclude (keeps : Keeps limits s log) {a last : Attempt}
    (found : s.live.find? id = some a) (id_eq : last.id = id) (skill_eq : last.skill = a.skill)
    (linked : moved.Linked) (live_eq : moved.live = s.live.erase id)
    (recent_eq : moved.recent = s.recent.modify a.skill [] fun ring =>
      keepNewest limits.recentAttempts (ring ++ [last.trimmed limits.attemptNotes]))
    (number_eq : moved.lastNumber = s.lastNumber) (limits_eq : moved.limits = s.limits) :
    Keeps limits moved fun skill =>
      if skill = a.skill then (log skill).conclude last else log skill := by
  have find_eq : ∀ other, moved.live.find? other =
      if other = id then none else s.live.find? other := by
    intro other
    rw [live_eq, Table.find?_erase keeps.linked.ascending]
  have ended_cases : ∀ skill b,
      b ∈ (if skill = a.skill then (log skill).conclude last else log skill).ended →
        b ∈ (log skill).ended ∨ skill = a.skill ∧ b = last := by
    intro skill b mem
    split at mem
    · rename_i same
      exact (List.mem_append.mp mem).imp_right fun newest => ⟨same, List.mem_singleton.mp newest⟩
    · exact .inl mem
  have old_ne : ∀ skill, ∀ b ∈ (log skill).ended, b.id ≠ last.id := by
    intro skill b mem same
    have gone := (keeps.ended skill b mem).2.2
    rw [same, id_eq, found] at gone
    contradiction
  constructor
  · exact linked
  · exact limits_eq.trans keeps.limits_eq
  · exact recent_eq ▸ Table.ascending_modify keeps.ascending a.skill [] _
  · intro skill
    rw [number_eq, ← keeps.begun skill]
    split <;> rfl
  · intro skill other b
    rw [find_eq]
    by_cases own : skill = a.skill
    · rw [if_pos own]
      constructor
      · rintro ⟨b_found, b_skill⟩
        split at b_found
        · contradiction
        · rename_i differs
          have ids_eq := keeps.linked.eq_of_skill_eq b_found found (b_skill.trans own)
          exact absurd ids_eq differs
      · rintro ⟨_, none_live, _⟩
        contradiction
    · rw [if_neg own, ← keeps.live_iff]
      split
      · rename_i same
        rw [same, found]
        constructor
        · rintro ⟨_, _⟩
          contradiction
        · rintro ⟨⟨⟩, b_skill⟩
          exact absurd b_skill.symm own
      · rfl
  · intro skill
    rw [recent_eq, Table.find?_modify]
    split
    · rename_i same
      rw [Option.getD_some, keeps.recent, ← same]
      exact keepNewest_map_rtake _ limits.recentAttempts (log skill).ended last
    · exact keeps.recent skill
  · intro skill b mem
    rw [number_eq, find_eq]
    rcases ended_cases skill b mem with old | ⟨rfl, rfl⟩
    · obtain ⟨own, numbered, gone⟩ := keeps.ended skill b old
      exact ⟨own, numbered, by simp [gone]⟩
    · obtain ⟨_, n, n_le, named⟩ := keeps.linked.named id a found
      rw [id_eq]
      refine ⟨skill_eq, ?_, if_pos rfl⟩
      rw [named, numberOf_attemptId]
      exact n_le
  · intro skill other b b_mem c c_mem ids_eq
    rcases ended_cases skill b b_mem with b_old | ⟨_, rfl⟩
    · rcases ended_cases other c c_mem with c_old | ⟨_, rfl⟩
      · exact keeps.distinct skill other b b_old c c_old ids_eq
      · exact absurd ids_eq (old_ne skill b b_old)
    · rcases ended_cases other c c_mem with c_old | ⟨_, rfl⟩
      · exact absurd ids_eq.symm (old_ne other c c_old)
      · rfl

theorem Keeps.finish (keeps : Keeps limits s log) (id : String) (stage : Stage)
    (terminal : stage.isTerminal = true) (reason : Option String) (time : Nat) :
    Keeps limits (s.finish id stage reason time).store fun skill =>
      (log skill).close (fun a => a.id = id) stage reason time := by
  cases found : s.live.find? id with
  | none =>
      have logs_eq :
          (fun skill => (log skill).close (fun a => a.id = id) stage reason time) = log := by
        funext skill
        apply SkillLog.close_of_differs
        intro whole whole_live
        exact decide_eq_false (keeps.differs_of_gone found skill whole whole_live)
      rw [logs_eq, show s.finish id stage reason time = s.refuse from
        @outcome_of_gone s id found (.finish id stage reason time) rfl]
      exact keeps
  | some a =>
      obtain ⟨whole, whole_live, whole_id, whole_eq⟩ := keeps.exists_whole found
      let last := whole.concluded stage reason time
      have last_id : last.id = id := whole_id
      have closed_eq : a.closed limits.attemptNotes stage reason time =
          last.trimmed limits.attemptNotes := by
        rw [← whole_eq, Attempt.closed_trimmed]
      have linked := keeps.linked.finish id stage reason time
      simp only [keeps.close_eq found whole_live whole_id]
      rw [finish_of_found found terminal, keeps.limits_eq, closed_eq] at linked ⊢
      apply keeps.conclude found last_id _ linked rfl rfl rfl rfl
      rw [← whole_eq]
      rfl

theorem Keeps.stopEach (keeps : Keeps limits s log) (reason : String) (time : Nat)
    (named : List String) :
    Keeps limits (s.stopEach reason time named).store fun skill =>
      (log skill).close (fun a => a.id ∈ named) .stopped (some reason) time := by
  induction named generalizing s log with
  | nil =>
      have logs_eq : (fun skill =>
          (log skill).close (fun a => a.id ∈ []) .stopped (some reason) time) = log :=
        funext fun skill => SkillLog.close_of_differs (fun _ _ => rfl) _ _ _
      rw [logs_eq]
      exact keeps
  | cons id rest ih =>
      have logs_eq : ∀ skill,
          ((log skill).close (fun a => a.id = id) .stopped (some reason) time).close
              (fun a => a.id ∈ rest) .stopped (some reason) time =
            (log skill).close (fun a => a.id ∈ id :: rest) .stopped (some reason) time := by
        intro skill
        rw [SkillLog.close_close]
        simp only [List.mem_cons, Bool.decide_or]
      have others := ih (keeps.finish id .stopped rfl (some reason) time)
      simp only [logs_eq] at others
      exact others

/-- Every live attempt is named by its key. -/
theorem Keeps.stopAll (keeps : Keeps limits s log) (reason : String) (time : Nat) :
    Keeps limits (s.stopAll reason time).store fun skill =>
      (log skill).record skill (.stopAll reason time) := by
  have stopped := keeps.stopEach reason time s.live.keys
  have logs_eq : ∀ skill,
      (log skill).close (fun a => a.id ∈ s.live.keys) .stopped (some reason) time =
        (log skill).record skill (.stopAll reason time) := by
    intro skill
    apply SkillLog.close_congr
    intro whole whole_live
    obtain ⟨found, _⟩ := (keeps.live_iff skill whole.id _).mpr ⟨whole, whole_live, rfl, rfl⟩
    have mem := (Table.find?_eq_some_iff keeps.linked.ascending).mp found
    exact decide_eq_true (List.mem_map_of_mem mem)
  simp only [logs_eq] at stopped
  exact stopped

/-! ## Beginnings -/

/-- What is superseded is the live attempt of the skill. -/
theorem Keeps.supersede (keeps : Keeps limits s log) (skill : String) (time : Nat) :
    Keeps limits (s.supersede skill time).store fun other =>
      (log other).close (fun _ => skill = other) .stopped (some "superseded") time := by
  unfold Store.supersede
  split
  · rename_i idle
    have logs_eq : (fun other =>
        (log other).close (fun _ => skill = other) .stopped (some "superseded") time) = log := by
      funext other
      apply SkillLog.close_of_differs
      intro whole whole_live
      apply decide_eq_false
      rintro rfl
      have pointed := (keeps.linked.inFlight_iff skill whole.id).mpr
        ⟨_, (keeps.live_iff skill whole.id _).mpr ⟨whole, whole_live, rfl, rfl⟩⟩
      rw [idle] at pointed
      contradiction
    rw [logs_eq]
    exact keeps
  · rename_i old pointed
    have logs_eq : ∀ other,
        (log other).close (fun a => a.id = old) .stopped (some "superseded") time =
          (log other).close (fun _ => skill = other) .stopped (some "superseded") time := by
      intro other
      apply SkillLog.close_congr
      intro whole whole_live
      obtain ⟨found, own⟩ := (keeps.live_iff other whole.id _).mpr ⟨whole, whole_live, rfl, rfl⟩
      apply decide_eq_decide.mpr
      constructor
      · rintro rfl
        obtain ⟨a, a_found, skill_eq⟩ := (keeps.linked.inFlight_iff skill whole.id).mp pointed
        obtain rfl := Option.some.inj (a_found.symm.trans found)
        exact skill_eq.symm.trans own
      · rintro rfl
        have own_pointed := (keeps.linked.inFlight_iff skill whole.id).mpr ⟨_, found, own⟩
        exact Option.some.inj (own_pointed.symm.trans pointed)
    have ended := keeps.finish old .stopped rfl (some "superseded") time
    simp only [logs_eq] at ended
    exact ended

/-- An attempt with a new number may join a log in which none is live. -/
theorem Keeps.join (keeps : Keeps limits s log) (fresh : Attempt)
    (named : fresh.id = attemptId fresh.skill (s.lastNumber + 1)) (linked : moved.Linked)
    (idle : (log fresh.skill).live = none) (number_eq : moved.lastNumber = s.lastNumber + 1)
    (live_eq : moved.live = s.live.insert fresh.id (fresh.trimmed limits.attemptNotes))
    (recent_eq : moved.recent = s.recent) (limits_eq : moved.limits = s.limits) :
    Keeps limits moved fun skill => (log skill).join skill fresh := by
  have new : numberOf fresh.id = s.lastNumber + 1 := by
    rw [named, numberOf_attemptId]
  have absent : s.live.find? fresh.id = none := by
    rw [Option.eq_none_iff_forall_ne_some]
    intro a found
    obtain ⟨_, n, n_le, old⟩ := keeps.linked.named fresh.id a found
    rw [old, numberOf_attemptId] at new
    omega
  have find_eq : ∀ id, moved.live.find? id =
      if id = fresh.id then some (fresh.trimmed limits.attemptNotes) else s.live.find? id := by
    intro id
    rw [live_eq, Table.find?_insert]
  constructor
  · exact linked
  · exact limits_eq.trans keeps.limits_eq
  · exact recent_eq ▸ keeps.ascending
  · intro skill
    rw [number_eq, ← keeps.begun skill]
    rfl
  · intro skill id a
    rw [find_eq, SkillLog.join]
    by_cases own : fresh.skill = skill
    · subst own
      rw [if_pos rfl]
      constructor
      · rintro ⟨found, skill_eq⟩
        split at found
        · rename_i same
          cases found
          exact ⟨fresh, rfl, same.symm, rfl⟩
        · obtain ⟨whole, whole_live, _⟩ := (keeps.live_iff _ id a).mp ⟨found, skill_eq⟩
          rw [idle] at whole_live
          contradiction
      · rintro ⟨_, ⟨⟩, rfl, rfl⟩
        exact ⟨if_pos rfl, rfl⟩
    · rw [if_neg own, ← keeps.live_iff]
      split
      · rename_i same
        rw [same, absent]
        constructor
        · rintro ⟨⟨⟩, skill_eq⟩
          exact absurd skill_eq own
        · rintro ⟨_, _⟩
          contradiction
      · rfl
  · exact recent_eq ▸ keeps.recent
  · intro skill a mem
    obtain ⟨own, numbered, gone⟩ := keeps.ended skill a mem
    refine ⟨own, number_eq ▸ Nat.le_succ_of_le numbered, ?_⟩
    rw [find_eq, if_neg]
    · exact gone
    · intro same
      rw [same, new] at numbered
      omega
  · exact keeps.distinct

theorem Keeps.begin (keeps : Keeps limits s log) (skill node : String) (time : Nat) :
    Keeps limits (s.begin skill node time).store fun other =>
      (log other).record other (.begin skill node time) := by
  have cleared := keeps.supersede skill time
  set t := (s.supersede skill time).store
  let unnoted : Attempt :=
    ⟨attemptId skill (t.lastNumber + 1), skill, node, .preparing, 0, time, none, none, [], 0⟩
  let first : AttemptNote := ⟨time, Stage.preparing.name, none⟩
  have opened_eq : unnoted.addNote t.limits.attemptNotes first =
      (unnoted.write first).trimmed limits.attemptNotes := by
    rw [← Attempt.addNote_trimmed, cleared.limits_eq]
    simp [Attempt.trimmed, unnoted]
  have logs_eq : ∀ other, (log other).record other (.begin skill node time) =
      ((log other).close (fun _ => skill = other) .stopped (some "superseded") time).join other
        (unnoted.write first) := by
    intro other
    have begun_eq := cleared.begun other
    rw [SkillLog.begun_close] at begun_eq
    rw [SkillLog.record, begun_eq]
    rfl
  simp only [logs_eq]
  apply cleared.join (unnoted.write first)
  · rfl
  · exact keeps.linked.begin skill node time
  · exact SkillLog.live_close (fun _ => decide_eq_true rfl) _ _ _ _
  · rfl
  · rw [← opened_eq]
    rfl
  · rfl
  · rfl

theorem Keeps.operate (keeps : Keeps limits s log) (operation : Operation) :
    Keeps limits (s.operate operation) fun skill => (log skill).record skill operation := by
  cases operation with
  | begin skill node time => exact keeps.begin skill node time
  | transition id stage time => exact keeps.transition id stage time
  | keySent id time => exact keeps.keySent id time
  | retry id time => exact keeps.retry id time
  | note id kind detail time => exact keeps.note id kind detail time
  | finish id stage reason time =>
      cases terminal : stage.isTerminal with
      | true =>
          simp only [SkillLog.record, terminal, if_true]
          exact keeps.finish id stage terminal reason time
      | false =>
          simp only [SkillLog.record, terminal, Bool.false_eq_true, if_false]
          rw [Store.operate, finish_of_ongoing s id terminal]
          exact keeps
  | resetMetric skill metric time => exact keeps.resetMetric skill metric time
  | stopAll reason time => exact keeps.stopAll reason time

theorem Keeps.operateAll (keeps : Keeps limits s log) (operations : List Operation) :
    Keeps limits (s.operateAll operations) fun skill =>
      operations.foldl (SkillLog.record skill) (log skill) := by
  induction operations generalizing s log with
  | nil => exact keeps
  | cons operation rest ih => exact ih (keeps.operate operation)

/-! ## Reading attempts -/

/-- A recent attempt of a skill has ended in the log of the skill. -/
theorem Keeps.exists_ended (keeps : Keeps limits s log) {skill : String} {a : Attempt}
    (mem : a ∈ (s.skill skill).recent) :
    a.skill = skill ∧ ∃ whole ∈ (log skill).ended, whole.trimmed limits.attemptNotes = a := by
  have shown : (s.skill skill).recent =
      ((log skill).ended.rtake limits.recentAttempts).map (·.trimmed limits.attemptNotes) :=
    keeps.recent skill
  rw [shown] at mem
  obtain ⟨whole, whole_mem, rfl⟩ := List.mem_map.mp mem
  have ended : whole ∈ (log skill).ended := List.mem_of_mem_drop whole_mem
  exact ⟨(keeps.ended skill whole ended).1, whole, ended, rfl⟩

/-- The attempts that have ended can be told apart by their identifiers. -/
theorem Keeps.eq_of_recent (keeps : Keeps limits s log) {skill other : String} {a b : Attempt}
    (a_mem : a ∈ (s.skill skill).recent) (b_mem : b ∈ (s.skill other).recent)
    (ids_eq : a.id = b.id) : a = b := by
  obtain ⟨_, first, first_mem, rfl⟩ := keeps.exists_ended a_mem
  obtain ⟨_, second, second_mem, rfl⟩ := keeps.exists_ended b_mem
  rw [keeps.distinct skill other first first_mem second second_mem ids_eq]

/-- The recent attempts are those in the table of them. -/
theorem Keeps.mem_recent_iff (keeps : Keeps limits s log) (a : Attempt) :
    a ∈ s.recent.values.flatten ↔ a ∈ (s.skill a.skill).recent := by
  constructor
  · intro mem
    obtain ⟨ring, ring_mem, a_mem⟩ := List.mem_flatten.mp mem
    obtain ⟨⟨skill, _⟩, entry_mem, rfl⟩ := List.mem_map.mp ring_mem
    have found := (Table.find?_eq_some_iff keeps.ascending).mpr entry_mem
    have own : a ∈ (s.skill skill).recent := by
      rw [Store.skill, found]
      exact a_mem
    rwa [(keeps.exists_ended own).1]
  · intro mem
    rw [Store.skill] at mem
    cases found : s.recent.find? a.skill with
    | none =>
        rw [found] at mem
        contradiction
    | some ring =>
        rw [found] at mem
        have entry_mem := (Table.find?_eq_some_iff keeps.ascending).mp found
        exact List.mem_flatten.mpr ⟨ring, List.mem_map_of_mem entry_mem, mem⟩

/-- An attempt that is read by its identifier is live or among the recent ones
of its skill. -/
theorem Keeps.attempt?_eq_some_iff (keeps : Keeps limits s log) (id : String) (a : Attempt) :
    s.attempt? id = some a ↔
      s.live.find? id = some a ∨ a.id = id ∧ a ∈ (s.skill a.skill).recent := by
  constructor
  · intro read
    rcases Option.or_eq_some_iff.mp read with found | ⟨_, kept⟩
    · exact .inl found
    · have named := List.find?_some kept
      exact .inr ⟨beq_iff_eq.mp named, (keeps.mem_recent_iff a).mp (List.mem_of_find?_eq_some kept)⟩
  · rintro (found | ⟨rfl, mem⟩)
    · rw [Store.attempt?, found]
      rfl
    · obtain ⟨_, whole, whole_mem, whole_eq⟩ := keeps.exists_ended mem
      have gone : s.live.find? a.id = none := by
        rw [← whole_eq]
        exact (keeps.ended a.skill whole whole_mem).2.2
      rw [Store.attempt?, gone, Option.none_or]
      have some_named : (s.recent.values.flatten.find? fun b => b.id == a.id).isSome :=
        List.find?_isSome.mpr ⟨a, (keeps.mem_recent_iff a).mpr mem, beq_self_eq_true a.id⟩
      obtain ⟨b, b_found⟩ := Option.isSome_iff_exists.mp some_named
      have named := List.find?_some b_found
      have b_mem := (keeps.mem_recent_iff b).mp (List.mem_of_find?_eq_some b_found)
      rw [b_found, keeps.eq_of_recent b_mem mem (beq_iff_eq.mp named)]

/-- After any operations on an empty store, whatever their arguments and the
bounds: beside the log of each skill, which the same operations have written,
an attempt is live in the store exactly when it is live in the log, and it has
the newest of its notes there, in their order, and counts the others; the recent
attempts of the skill are the newest that have ended in the log, in their order,
each with as many notes; and an identifier reads exactly the attempts that are
live or among the recent ones of their skill. -/
theorem operateAll_empty_keeps_newest (limits : StoreLimits) (operations : List Operation) :
    let s := (empty limits).operateAll operations
    let log := fun skill => SkillLog.ofOperations skill operations
    (∀ skill id a, s.live.find? id = some a ∧ a.skill = skill ↔
        ∃ whole, (log skill).live = some whole ∧ whole.id = id ∧
          whole.trimmed limits.attemptNotes = a) ∧
      (∀ skill, (s.skill skill).recent =
        ((log skill).ended.rtake limits.recentAttempts).map (·.trimmed limits.attemptNotes)) ∧
      ∀ id a, s.attempt? id = some a ↔
        s.live.find? id = some a ∨ a.id = id ∧ a ∈ (s.skill a.skill).recent := by
  intro s log
  have keeps : Keeps limits s log := (keeps_empty limits).operateAll operations
  exact ⟨keeps.live_iff, keeps.recent, keeps.attempt?_eq_some_iff⟩

end Store

end Rotation
