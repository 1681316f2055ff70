import Mathlib.Order.Bounds.Basic
import Rotation.Proofs.Schedule.Call

/-!
# Candidates

Which nodes may run: the one under each global cursor whose track has a node,
and the one under each cursor of the active mode that stands on the floor.
They are sorted, so that the node that runs comes before all others that are
due, and the time to wait for is the least one.
-/

namespace Rotation

/-- The candidates of a mode are the slots under its cursors that are on the
floor. -/
theorem ActiveMode.mem_candidates_iff {m : ActiveMode} {c : Candidate} :
    c ∈ m.candidates ↔
      ∃ t cursor slot, m.tracks[t]? = some cursor ∧ cursor.slot? = some slot ∧
        m.floor = some slot.step ∧
        c = ⟨.mode m.index t, cursor.id, slot.node, cursor.nextAt⟩ := by
  simp only [candidates, List.mem_filterMap, List.mem_mapIdx, candidate?]
  constructor
  · rintro ⟨_, ⟨t, inside, rfl⟩, chosen⟩
    split at chosen
    · rename_i on_floor
      obtain ⟨node, current, rfl⟩ := Option.map_eq_some_iff.mp chosen
      obtain ⟨slot, under, rfl⟩ := Option.map_eq_some_iff.mp current
      have step_eq : m.tracks[t].step? = some slot.step := by simp [ModeCursor.step?, under]
      exact ⟨t, m.tracks[t], slot, List.getElem?_eq_getElem inside, under,
        on_floor.symm.trans step_eq, rfl⟩
    · contradiction
  · rintro ⟨t, cursor, slot, found, under, on_floor, rfl⟩
    obtain ⟨inside, rfl⟩ := List.getElem?_eq_some_iff.mp found
    refine ⟨_, ⟨t, inside, rfl⟩, ?_⟩
    rw [if_pos (by simp [ModeCursor.step?, under, on_floor])]
    simp [ModeCursor.current?, under]

/-! ## The order of candidates -/

namespace Candidate

theorem le_iff {a b : Candidate} :
    a.le b = true ↔ a.dueAt < b.dueAt ∨
      a.dueAt = b.dueAt ∧ (a.scope < b.scope ∨ a.scope = b.scope ∧ a.track ≤ b.track) := by
  unfold le
  by_cases due_eq : a.dueAt = b.dueAt
  · by_cases scope_eq : a.scope = b.scope
    · simp [due_eq, scope_eq]
    · simp [due_eq, scope_eq]
  · simp [due_eq]

theorem le_trans (a b c : Candidate) (first : a.le b = true) (second : b.le c = true) :
    a.le c = true := by
  rw [le_iff] at *
  have track_le : a.track ≤ b.track → b.track ≤ c.track → a.track ≤ c.track := String.le_trans
  grind

theorem le_total (a b : Candidate) : (a.le b || b.le a) = true := by
  rw [Bool.or_eq_true, le_iff, le_iff]
  have track_le := String.le_total a.track b.track
  grind

/-- Candidates that do not run after each other are due at the same time, and
their tracks have one name. -/
theorem le_antisymm {a b : Candidate} (first : a.le b = true) (second : b.le a = true) :
    a.dueAt = b.dueAt ∧ a.track = b.track := by
  rw [le_iff] at first second
  have track_eq : a.track ≤ b.track → b.track ≤ a.track → a.track = b.track := String.le_antisymm
  grind

theorem dueAt_le_of_le {a b : Candidate} (before : a.le b = true) : a.dueAt ≤ b.dueAt := by
  rw [le_iff] at before
  omega

end Candidate

namespace Schedule

variable {s : Schedule} {c : Candidate}

theorem mem_globalCandidates_iff :
    c ∈ s.globalCandidates ↔
      ∃ i g, s.globals[i]? = some g ∧ 0 < g.length ∧
        c = ⟨.global i, g.id, g.position, g.nextAt⟩ := by
  simp only [globalCandidates, List.mem_filterMap, List.mem_mapIdx, GlobalCursor.current?]
  constructor
  · rintro ⟨_, ⟨i, inside, rfl⟩, chosen⟩
    split at chosen
    · rename_i nonempty
      cases chosen
      exact ⟨i, s.globals[i], List.getElem?_eq_getElem inside, nonempty, rfl⟩
    · contradiction
  · rintro ⟨i, g, found, nonempty, rfl⟩
    obtain ⟨inside, rfl⟩ := List.getElem?_eq_some_iff.mp found
    exact ⟨_, ⟨i, inside, rfl⟩, by simp [nonempty]⟩

/-- The candidates of a schedule, whatever their order. -/
theorem mem_candidates_iff :
    c ∈ s.candidates ↔ c ∈ s.globalCandidates ∨ ∃ m, s.mode = some m ∧ c ∈ m.candidates := by
  simp only [candidates, List.mem_mergeSort, List.mem_append]
  cases s.mode <;> simp

/-- A candidate at a place of a mode is the node under the cursor there, and
the mode is active. -/
theorem mem_candidates_mode {m t : Nat} (mem : c ∈ s.candidates) (at_place : c.place = .mode m t) :
    ∃ active cursor slot, s.mode = some active ∧ active.index = m ∧
      active.tracks[t]? = some cursor ∧ cursor.slot? = some slot ∧
      active.floor = some slot.step ∧ c.node = slot.node := by
  rcases mem_candidates_iff.mp mem with global | ⟨active, held, own⟩
  · obtain ⟨i, g, _, _, rfl⟩ := mem_globalCandidates_iff.mp global
    contradiction
  · obtain ⟨u, cursor, slot, found, under, on_floor, rfl⟩ := ActiveMode.mem_candidates_iff.mp own
    cases at_place
    exact ⟨active, cursor, slot, held, rfl, found, under, on_floor, rfl⟩

/-- The slot under a cursor of the active mode is a candidate if it is on the
floor. -/
theorem mem_candidates_of_slot? {active : ActiveMode} {cursor : ModeCursor} (t : Nat) (slot : Slot)
    (held : s.mode = some active) (found : active.tracks[t]? = some cursor)
    (under : cursor.slot? = some slot) (on_floor : active.floor = some slot.step)
    (c_eq : c = ⟨.mode active.index t, cursor.id, slot.node, cursor.nextAt⟩) :
    c ∈ s.candidates :=
  mem_candidates_iff.mpr (.inr ⟨active, held, ActiveMode.mem_candidates_iff.mpr
    ⟨t, cursor, slot, found, under, on_floor, c_eq⟩⟩)

/-- No two candidates are at one place. -/
theorem eq_of_mem_candidates {d : Candidate} (c_mem : c ∈ s.candidates) (d_mem : d ∈ s.candidates)
    (place_eq : c.place = d.place) : c = d := by
  rcases mem_candidates_iff.mp c_mem with global | ⟨m, held, own⟩
  · obtain ⟨i, g, found, _, rfl⟩ := mem_globalCandidates_iff.mp global
    rcases mem_candidates_iff.mp d_mem with other | ⟨n, _, other⟩
    · obtain ⟨j, h, also_found, _, rfl⟩ := mem_globalCandidates_iff.mp other
      cases place_eq
      obtain rfl := Option.some.inj (found.symm.trans also_found)
      rfl
    · obtain ⟨_, _, _, _, _, _, rfl⟩ := ActiveMode.mem_candidates_iff.mp other
      contradiction
  · obtain ⟨t, cursor, slot, found, under, _, rfl⟩ := ActiveMode.mem_candidates_iff.mp own
    rcases mem_candidates_iff.mp d_mem with other | ⟨n, also_held, other⟩
    · obtain ⟨_, _, _, _, rfl⟩ := mem_globalCandidates_iff.mp other
      contradiction
    · obtain rfl := Option.some.inj (held.symm.trans also_held)
      obtain ⟨u, other_cursor, other_slot, also_found, also_under, _, rfl⟩ :=
        ActiveMode.mem_candidates_iff.mp other
      cases place_eq
      obtain rfl := Option.some.inj (found.symm.trans also_found)
      obtain rfl := Option.some.inj (under.symm.trans also_under)
      rfl

/-- The candidates stand in the order in which they run. -/
theorem pairwise_candidates (s : Schedule) : s.candidates.Pairwise fun a b => a.le b = true :=
  List.pairwise_mergeSort Candidate.le_trans Candidate.le_total _

/-- The node that runs is due, and comes before all others that are. -/
theorem le_of_pick {now : Nat} (picked : s.pick now = some c) :
    c ∈ s.candidates ∧ c.dueAt ≤ now ∧
      ∀ d ∈ s.candidates, d.dueAt ≤ now → c.le d = true := by
  obtain ⟨due, earlier, later, split_eq, none_due⟩ := List.find?_eq_some_iff_append.mp picked
  have sorted := s.pairwise_candidates
  rw [split_eq, List.pairwise_append, List.pairwise_cons] at sorted
  obtain ⟨_, ⟨before_later, _⟩, _⟩ := sorted
  refine ⟨List.mem_of_find?_eq_some picked, by simpa using due, ?_⟩
  intro d mem d_due
  rw [split_eq, List.mem_append, List.mem_cons] at mem
  rcases mem with passed | rfl | after
  · have late := none_due d passed
    simp [d_due] at late
  · simpa using Candidate.le_total d d
  · exact before_later d after

theorem exists_pick_of_mem {now : Nat} (mem : c ∈ s.candidates) (due : c.dueAt ≤ now) :
    ∃ d, s.pick now = some d := by
  apply Option.ne_none_iff_exists'.mp
  intro nothing
  have late := List.find?_eq_none.mp nothing c mem
  simp [due] at late

/-- What a schedule waits for is the least time at which a node is due. -/
theorem nextWakeup_eq_some_iff {time : Nat} :
    s.nextWakeup = some time ↔ IsLeast {t | ∃ c ∈ s.candidates, c.dueAt = t} time := by
  have sorted := s.pairwise_candidates
  unfold nextWakeup
  cases split_eq : s.candidates with
  | nil => simp [IsLeast]
  | cons first rest =>
      rw [split_eq, List.pairwise_cons] at sorted
      have least : IsLeast {t | ∃ c ∈ first :: rest, c.dueAt = t} first.dueAt := by
        refine ⟨⟨first, List.mem_cons_self, rfl⟩, ?_⟩
        rintro _ ⟨c, mem, rfl⟩
        rcases List.mem_cons.mp mem with rfl | later
        · exact Nat.le_refl _
        · exact Candidate.dueAt_le_of_le (sorted.1 c later)
      simp only [List.head?_cons, Option.map_some, Option.some.injEq]
      constructor
      · rintro rfl
        exact least
      · exact least.unique

theorem nextWakeup_eq_none_iff : s.nextWakeup = none ↔ ∀ c, c ∉ s.candidates := by
  rw [nextWakeup, Option.map_eq_none_iff, List.head?_eq_none_iff, List.eq_nil_iff_forall_not_mem]

end Schedule

end Rotation
