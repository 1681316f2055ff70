import Mathlib.Order.Bounds.Basic
import Rotation.Proofs.Schedule.Candidates

/-!
# Coherence of schedules

The floor of the active mode is kept beside its cursors, and a mode whose
tracks are all done begins again inside the call that ends the last one.  A
schedule is coherent when the floor is the one that the cursors ask for, the
mode has something left to do, and each global cursor stands on a node.  Every
call keeps this, so a schedule never runs out of candidates while there are
nodes to run.
-/

namespace Rotation

/-! ## The floor -/

/-- Where a cursor stands, whenever it is due. -/
def ModeCursor.standing (c : ModeCursor) : List Slot × Nat :=
  (c.order, c.position)

@[simp]
theorem ModeCursor.standing_hold (c : ModeCursor) (time : Nat) :
    (c.hold time).standing = c.standing :=
  rfl

namespace ActiveMode

/-- The steps under the unfinished cursors. -/
def pendingSteps (m : ActiveMode) : Set Int :=
  {x | ∃ c ∈ m.tracks, c.isDone = false ∧ c.step? = some x}

theorem mem_pendingSteps_iff {m : ActiveMode} {x : Int} :
    x ∈ m.pendingSteps ↔ x ∈ m.tracks.filterMap ModeCursor.step? := by
  rw [List.mem_filterMap]
  constructor
  · rintro ⟨c, mem, _, step_eq⟩
    exact ⟨c, mem, step_eq⟩
  · rintro ⟨c, mem, step_eq⟩
    obtain ⟨slot, under, _⟩ := ModeCursor.step?_eq_some_iff.mp step_eq
    exact ⟨c, mem, ModeCursor.isDone_eq_false_iff.mpr ⟨slot, under⟩, step_eq⟩

/-- The lowest step is the least of those that are pending. -/
theorem lowestStep_eq_some_iff {m : ActiveMode} {x : Int} :
    lowestStep m.tracks = some x ↔ IsLeast m.pendingSteps x := by
  rw [lowestStep, List.min?_eq_some_iff]
  simp only [IsLeast, lowerBounds, Set.mem_ofPred_eq, mem_pendingSteps_iff]

/-- There is no lowest step exactly when every track is done. -/
theorem lowestStep_eq_none_iff {tracks : List ModeCursor} :
    lowestStep tracks = none ↔ ∀ c ∈ tracks, c.isDone = true := by
  simp [lowestStep, ModeCursor.step?_eq_none_iff]

theorem exists_standing_congr {first second : List ModeCursor}
    (standings_eq : first.map ModeCursor.standing = second.map ModeCursor.standing)
    (P : List Slot × Nat → Prop) :
    (∃ c ∈ first, P c.standing) ↔ ∃ c ∈ second, P c.standing := by
  have mapped := congrArg (fun l => ∃ x ∈ l, P x) standings_eq
  simpa using mapped

/-- The lowest step does not depend on when the cursors are due. -/
theorem lowestStep_congr {first second : List ModeCursor}
    (standings_eq : first.map ModeCursor.standing = second.map ModeCursor.standing) :
    lowestStep first = lowestStep second := by
  have of_standings : ∀ tracks : List ModeCursor, lowestStep tracks =
      ((tracks.map ModeCursor.standing).filterMap fun x => x.1[x.2]?.map Slot.step).min? := by
    intro tracks
    rw [lowestStep, List.filterMap_map]
    rfl
  rw [of_standings, standings_eq, of_standings]

/-- What is not exhausted has no node at all or an unfinished track. -/
theorem isExhausted_eq_false_iff {m : ActiveMode} :
    m.isExhausted = false ↔
      ((∃ c ∈ m.tracks, c.isEmpty = false) → ∃ c ∈ m.tracks, c.isDone = false) := by
  simp [isExhausted]

/-! ## Coherent modes -/

/-- The floor is the one that the cursors ask for, and there is something left
to do if there is anything to do at all. -/
structure Coherent (m : ActiveMode) : Prop where
  floor_eq : m.floor = lowestStep m.tracks
  unfinished : (∃ c ∈ m.tracks, c.isEmpty = false) → ∃ c ∈ m.tracks, c.isDone = false

theorem coherent_refreshFloor {m : ActiveMode} (left : m.isExhausted = false) :
    m.refreshFloor.Coherent :=
  ⟨rfl, isExhausted_eq_false_iff.mp left⟩

/-- A cursor at its beginning is done only if its track is empty. -/
theorem unfinished_of_position_eq_zero {tracks : List ModeCursor}
    (beginning : ∀ c ∈ tracks, c.position = 0) (nonempty : ∃ c ∈ tracks, c.isEmpty = false) :
    ∃ c ∈ tracks, c.isDone = false := by
  obtain ⟨c, mem, c_nonempty⟩ := nonempty
  refine ⟨c, mem, ?_⟩
  have length_pos : 0 < c.order.length := by
    rw [List.length_pos_iff]
    simpa [ModeCursor.isEmpty] using c_nonempty
  simpa [ModeCursor.isDone, beginning c mem, List.length_pos_iff] using length_pos

theorem coherent_reset (m : ActiveMode) (time : Nat) : (m.reset time).Coherent where
  floor_eq := rfl
  unfinished := by
    apply unfinished_of_position_eq_zero
    intro c mem
    obtain ⟨d, _, rfl⟩ := List.mem_map.mp mem
    rfl

theorem coherent_start? {preset : Preset} {index time : Nat} {m : ActiveMode}
    (started : start? preset index time = some m) : m.Coherent := by
  obtain ⟨mode, _, rfl⟩ := Option.map_eq_some_iff.mp started
  refine ⟨rfl, unfinished_of_position_eq_zero ?_⟩
  intro c mem
  obtain ⟨track, _, rfl⟩ := List.mem_map.mp mem
  rfl

/-- An advance repairs what it exhausts. -/
theorem coherent_advance {m : ActiveMode} (coherent : m.Coherent) (t time : Nat) :
    (m.advance t time).2.Coherent := by
  unfold advance
  split
  · dsimp only
    split
    · exact coherent_reset _ time
    · rename_i left
      exact coherent_refreshFloor (Bool.not_eq_true _ ▸ left)
  · exact coherent

/-- Cursors that wait longer stand where they stood. -/
theorem coherent_hold {m : ActiveMode} (coherent : m.Coherent) (t time : Nat) :
    (m.hold t time).Coherent := by
  have standings_eq : (m.hold t time).tracks.map ModeCursor.standing =
      m.tracks.map ModeCursor.standing :=
    map_modify_eq_map (fun c => c.standing_hold time) m.tracks t
  constructor
  · rw [lowestStep_congr standings_eq]
    exact coherent.floor_eq
  · have nonempty_iff := exists_standing_congr standings_eq fun x => x.1.isEmpty = false
    have unfinished_iff := exists_standing_congr standings_eq fun x =>
      decide (x.1.length ≤ x.2) = false
    exact fun nonempty => unfinished_iff.mpr (coherent.unfinished (nonempty_iff.mp nonempty))

/-- A cursor that has jumped stands on a node, so its track is unfinished. -/
theorem coherent_jump? {m moved : ActiveMode} {t node time : Nat}
    (jumped : m.jump? t node time = some moved) : moved.Coherent := by
  obtain ⟨c, landed, found, track_jumped, rfl⟩ := jump?_eq_some_iff.mp jumped
  refine ⟨rfl, fun _ => ⟨landed, ?_, ?_⟩⟩
  · obtain ⟨inside, _⟩ := List.getElem?_eq_some_iff.mp found
    exact List.mem_set inside landed
  · obtain ⟨i, position, rfl⟩ := Option.map_eq_some_iff.mp track_jumped
    obtain ⟨inside, _⟩ := List.findIdx?_eq_some_iff_getElem.mp position
    simpa [ModeCursor.isDone] using inside

theorem Moved.coherent {m moved : ActiveMode} (step : m.Moved moved) (coherent : m.Coherent) :
    moved.Coherent := by
  cases step with
  | advance t time => exact coherent_advance coherent t time
  | hold t time => exact coherent_hold coherent t time
  | jump jumped => exact coherent_jump? jumped
  | refreshFloor => exact coherent_refreshFloor (isExhausted_eq_false_iff.mpr coherent.unfinished)

/-- A coherent mode offers a node exactly when it has one. -/
theorem exists_mem_candidates_iff {m : ActiveMode} (coherent : m.Coherent) :
    (∃ c, c ∈ m.candidates) ↔ ∃ c ∈ m.tracks, c.isEmpty = false := by
  constructor
  · rintro ⟨_, mem⟩
    obtain ⟨t, cursor, slot, found, under, _⟩ := mem_candidates_iff.mp mem
    refine ⟨cursor, List.mem_of_getElem? found, ?_⟩
    have order_ne : cursor.order ≠ [] := by
      intro empty
      simp [ModeCursor.slot?, empty] at under
    simpa [ModeCursor.isEmpty] using order_ne
  · intro nonempty
    have some_left : lowestStep m.tracks ≠ none := by
      intro all_done
      obtain ⟨c, mem, left⟩ := coherent.unfinished nonempty
      rw [lowestStep_eq_none_iff.mp all_done c mem] at left
      contradiction
    obtain ⟨x, lowest⟩ := Option.ne_none_iff_exists'.mp some_left
    obtain ⟨⟨c, mem, _, step_eq⟩, _⟩ := lowestStep_eq_some_iff.mp lowest
    obtain ⟨slot, under, rfl⟩ := ModeCursor.step?_eq_some_iff.mp step_eq
    obtain ⟨t, found⟩ := List.getElem?_of_mem mem
    exact ⟨_, mem_candidates_iff.mpr
      ⟨t, c, slot, found, under, coherent.floor_eq.trans lowest, rfl⟩⟩

end ActiveMode

/-! ## Global cursors -/

/-- The cursor stands on a node, unless its track has none. -/
def GlobalCursor.Inside (c : GlobalCursor) : Prop :=
  c.position < c.length ∨ c.length = 0 ∧ c.current? = none

theorem GlobalCursor.inside_start (track : Track) (time : Nat) : (start track time).Inside := by
  unfold Inside current? start
  cases track.nodes <;> simp

theorem GlobalCursor.Moved.inside {c moved : GlobalCursor} (step : c.Moved moved)
    (inside : c.Inside) : moved.Inside := by
  cases step with
  | advance time =>
      rcases inside with below | ⟨empty, _⟩
      · left
        have nonempty : 0 < c.length := by omega
        simpa [GlobalCursor.advance, nonempty] using Nat.mod_lt _ nonempty
      · right
        simp [GlobalCursor.advance, current?, empty]
  | hold time => exact inside
  | jump jumped =>
      unfold jump? at jumped
      split at jumped
      · rename_i node_lt
        cases jumped
        exact .inl node_lt
      · contradiction

/-! ## Coherent schedules -/

namespace Schedule

/-- Each global cursor stands on a node, and the active mode is coherent. -/
structure Coherent (s : Schedule) : Prop where
  globals : ∀ g ∈ s.globals, g.Inside
  mode : ∀ m, s.mode = some m → m.Coherent

theorem coherent_start (preset : Preset) (time : Nat) : (start preset time).Coherent where
  globals := by
    intro g mem
    obtain ⟨track, _, rfl⟩ := List.mem_map.mp mem
    exact GlobalCursor.inside_start track time
  mode := by
    intro m held
    obtain ⟨index, _, started⟩ := Option.bind_eq_some_iff.mp held
    exact ActiveMode.coherent_start? started

theorem coherent_call {s : Schedule} (coherent : s.Coherent) (c : Call) : (s.call c).Coherent where
  globals := by
    intro g mem
    rcases globals_call s c with same | ⟨i, before, moved, found, step, set_eq⟩
    · exact coherent.globals g (same ▸ mem)
    · rw [set_eq] at mem
      rcases List.mem_or_eq_of_mem_set mem with old | rfl
      · exact coherent.globals g old
      · exact step.inside (coherent.globals before (List.mem_of_getElem? found))
  mode := by
    intro m held
    rcases mode_call s c with
      same | ⟨before, moved, was, step, moved_eq⟩ | ⟨_, _, _, n, _, started, n_eq⟩
    · exact coherent.mode m (same ▸ held)
    · obtain rfl := Option.some.inj (moved_eq.symm.trans held)
      exact step.coherent (coherent.mode before was)
    · obtain rfl := Option.some.inj (n_eq.symm.trans held)
      exact ActiveMode.coherent_start? started

theorem coherent_callAll {s : Schedule} (coherent : s.Coherent) (calls : List Call) :
    (s.callAll calls).Coherent := by
  induction calls generalizing s with
  | nil => exact coherent
  | cons c rest ih => exact ih (coherent_call coherent c)

/-- A coherent schedule has nothing to wait for exactly when there is no node
at all. -/
theorem nextWakeup_eq_none_iff_of_coherent {s : Schedule} (coherent : s.Coherent) :
    s.nextWakeup = none ↔
      (∀ g ∈ s.globals, g.length = 0) ∧
        ∀ m, s.mode = some m → ∀ c ∈ m.tracks, c.isEmpty = true := by
  rw [nextWakeup_eq_none_iff]
  constructor
  · intro nothing
    constructor
    · intro g mem
      obtain ⟨i, found⟩ := List.getElem?_of_mem mem
      by_contra length_ne
      exact nothing _ (mem_candidates_iff.mpr (.inl (mem_globalCandidates_iff.mpr
        ⟨i, g, found, Nat.pos_of_ne_zero length_ne, rfl⟩)))
    · intro m held c mem
      by_contra nonempty
      obtain ⟨candidate, own⟩ := (ActiveMode.exists_mem_candidates_iff (coherent.mode m held)).mpr
        ⟨c, mem, Bool.eq_false_of_not_eq_true nonempty⟩
      exact nothing candidate (mem_candidates_iff.mpr (.inr ⟨m, held, own⟩))
  · rintro ⟨globals_empty, mode_empty⟩ c mem
    rcases mem_candidates_iff.mp mem with global | ⟨m, held, own⟩
    · obtain ⟨i, g, found, nonempty, _⟩ := mem_globalCandidates_iff.mp global
      rw [globals_empty g (List.mem_of_getElem? found)] at nonempty
      contradiction
    · obtain ⟨d, d_mem, d_nonempty⟩ :=
        (ActiveMode.exists_mem_candidates_iff (coherent.mode m held)).mp ⟨c, own⟩
      rw [mode_empty m held d d_mem] at d_nonempty
      contradiction

end Schedule

end Rotation
