import Rotation.Proofs.Preset.Scope
import Rotation.Proofs.Schedule.Due
import Rotation.Proofs.Schedule.Lap

/-!
# Where tracks stand

A track that is active has a cursor, which stands on a node and knows when the
node is due.  Each call is described by what it does to the cursor of its own
track and by the cursors that it leaves as they are.  Only one call on a track
reaches other tracks: an advance that ends the last track of a mode puts all of
them back.

The order in which a mode track is gone through is told by the steps of its
nodes alone, so that a cursor can be described without its list of slots.
-/

namespace Rotation

/-! ## The order of nodes -/

namespace Track

/-- In the track of a mode one node comes before another: its step is lower, or
it is declared earlier in the same step. -/
def Precedes (track : Track) (i j : Nat) : Prop :=
  ∃ a b, track.nodes[i]? = some a ∧ track.nodes[j]? = some b ∧
    (a.step < b.step ∨ a.step = b.step ∧ i < j)

/-- The node that comes before all others, if the track has nodes. -/
def IsFirst (track : Track) : Option Nat → Prop
  | none => track.nodes = []
  | some i => i < track.nodes.length ∧ ∀ j < track.nodes.length, j ≠ i → track.Precedes i j

/-- The node that comes right after another one, unless that is the last. -/
def IsNext (track : Track) (i : Nat) : Option Nat → Prop
  | none => ∀ j, ¬ track.Precedes i j
  | some j => track.Precedes i j ∧ ∀ k, track.Precedes i k → k ≠ j → track.Precedes j k

/-- The node that a jump into the track asks for: the one that it names, or the
one declared first. -/
def Requested (track : Track) : Option String → Nat → Prop
  | none, i => i = 0
  | some id, i => ∃ node, track.nodes[i]? = some node ∧ node.id = id

variable {track : Track} {i : Nat}

theorem Requested.lt {entry : Option String} (requested : track.Requested entry i)
    (nonempty : track.nodes ≠ []) : i < track.nodes.length := by
  cases entry with
  | none =>
      obtain rfl : i = 0 := requested
      exact List.length_pos_iff.mpr nonempty
  | some id =>
      obtain ⟨node, found, _⟩ := requested
      exact (List.getElem?_eq_some_iff.mp found).1

end Track

theorem Slot.Before.asymm {a b : Slot} (before : a.Before b) : ¬ b.Before a := by
  unfold Slot.Before at *
  omega

namespace ModeCursor

variable {track : Track} {c : ModeCursor} {i j k l : Nat} {a b : Slot}

theorem length_slots (track : Track) : (slots track).length = track.nodes.length := by
  simp [slots]

/-- Slots come one before the other as they stand in the order. -/
theorem before_iff_lt (a_at : (slots track)[k]? = some a) (b_at : (slots track)[l]? = some b) :
    a.Before b ↔ k < l := by
  obtain ⟨k_lt, rfl⟩ := List.getElem?_eq_some_iff.mp a_at
  obtain ⟨l_lt, rfl⟩ := List.getElem?_eq_some_iff.mp b_at
  have sorted := List.pairwise_iff_getElem.mp (pairwise_slots track)
  constructor
  · intro before
    rcases Nat.lt_trichotomy k l with less | rfl | greater
    · exact less
    · exact absurd before before.asymm
    · exact absurd (sorted l k l_lt k_lt greater) before.asymm
  · exact sorted k l k_lt l_lt

/-- Every node has a slot. -/
theorem exists_slot (inside : i < track.nodes.length) :
    ∃ (k : Nat) (slot : Slot), (slots track)[k]? = some slot ∧ slot.node = i := by
  have mem : (⟨i, track.nodes[i].step⟩ : Slot) ∈ slots track :=
    mem_slots_iff.mpr ⟨track.nodes[i], List.getElem?_eq_getElem inside, rfl⟩
  obtain ⟨k, at_k⟩ := List.getElem?_of_mem mem
  exact ⟨k, _, at_k, rfl⟩

/-- A node has no more than one slot. -/
theorem slot_eq_of_node_eq (a_mem : a ∈ slots track) (b_mem : b ∈ slots track)
    (node_eq : a.node = b.node) : a = b := by
  obtain ⟨first, first_at, a_step⟩ := mem_slots_iff.mp a_mem
  obtain ⟨second, second_at, b_step⟩ := mem_slots_iff.mp b_mem
  rw [node_eq, second_at] at first_at
  cases first_at
  obtain ⟨_, _⟩ := a
  obtain ⟨_, _⟩ := b
  exact Slot.mk.injEq .. ▸ ⟨node_eq, a_step.trans b_step.symm⟩

/-- Nodes come one before the other as their slots do. -/
theorem precedes_iff :
    track.Precedes i j ↔ ∃ a ∈ slots track, ∃ b ∈ slots track,
      a.node = i ∧ b.node = j ∧ a.Before b := by
  constructor
  · rintro ⟨first, second, first_at, second_at, before⟩
    exact ⟨⟨i, first.step⟩, mem_slots_iff.mpr ⟨first, first_at, rfl⟩,
      ⟨j, second.step⟩, mem_slots_iff.mpr ⟨second, second_at, rfl⟩, rfl, rfl, before⟩
  · rintro ⟨a, a_mem, b, b_mem, rfl, rfl, before⟩
    obtain ⟨first, first_at, a_step⟩ := mem_slots_iff.mp a_mem
    obtain ⟨second, second_at, b_step⟩ := mem_slots_iff.mp b_mem
    exact ⟨first, second, first_at, second_at, a_step ▸ b_step ▸ before⟩

/-- What comes after a slot stands behind it. -/
theorem exists_slot_of_precedes (a_at : (slots track)[k]? = some a)
    (precedes : track.Precedes a.node j) :
    ∃ l b, (slots track)[l]? = some b ∧ b.node = j ∧ k < l := by
  obtain ⟨a', a'_mem, b, b_mem, node_eq, rfl, before⟩ := precedes_iff.mp precedes
  obtain rfl := slot_eq_of_node_eq a'_mem (List.mem_of_getElem? a_at) node_eq
  obtain ⟨l, b_at⟩ := List.getElem?_of_mem b_mem
  exact ⟨l, b, b_at, rfl, (before_iff_lt a_at b_at).mp before⟩

theorem precedes_of_lt (a_at : (slots track)[k]? = some a) (b_at : (slots track)[l]? = some b)
    (less : k < l) : track.Precedes a.node b.node :=
  precedes_iff.mpr ⟨a, List.mem_of_getElem? a_at, b, List.mem_of_getElem? b_at, rfl, rfl,
    (before_iff_lt a_at b_at).mpr less⟩

/-- A cursor at its beginning stands on the first node. -/
theorem isFirst_current? (order_eq : c.order = slots track) (beginning : c.position = 0) :
    track.IsFirst c.current? := by
  rw [current?, slot?, order_eq, beginning]
  cases first : (slots track)[0]? with
  | none =>
      have empty : (slots track).length = 0 := Nat.le_zero.mp (List.getElem?_eq_none_iff.mp first)
      rw [length_slots] at empty
      exact List.eq_nil_of_length_eq_zero empty
  | some slot =>
      obtain ⟨node, at_node, _⟩ := mem_slots_iff.mp (List.mem_of_getElem? first)
      refine ⟨(List.getElem?_eq_some_iff.mp at_node).1, ?_⟩
      intro j inside other
      obtain ⟨k, b, b_at, rfl⟩ := exists_slot inside
      apply precedes_of_lt first b_at
      apply Nat.pos_of_ne_zero
      rintro rfl
      obtain rfl := Option.some.inj (first.symm.trans b_at)
      exact other rfl

/-- A cursor that has been advanced stands on the next node, or is done. -/
theorem isNext_advance (order_eq : c.order = slots track) (under : c.slot? = some a) (time : Nat) :
    track.IsNext a.node (c.advance time).current? := by
  have a_at : (slots track)[c.position]? = some a := order_eq ▸ under
  rw [current?, slot?, ActiveMode.position_advance under]
  change track.IsNext a.node (c.order[c.position + 1]?.map Slot.node)
  rw [order_eq]
  cases next : (slots track)[c.position + 1]? with
  | none =>
      intro j precedes
      obtain ⟨l, b, b_at, _, less⟩ := exists_slot_of_precedes a_at precedes
      have l_lt := (List.getElem?_eq_some_iff.mp b_at).1
      have length_le := List.getElem?_eq_none_iff.mp next
      omega
  | some b =>
      refine ⟨precedes_of_lt a_at next (Nat.lt_succ_self _), ?_⟩
      intro j precedes other
      obtain ⟨l, d, d_at, rfl, less⟩ := exists_slot_of_precedes a_at precedes
      apply precedes_of_lt next d_at
      apply Nat.lt_of_le_of_ne less
      rintro rfl
      obtain rfl := Option.some.inj (next.symm.trans d_at)
      exact other rfl

theorem current?_eq_none_iff : c.current? = none ↔ c.isDone = true := by
  rw [current?, Option.map_eq_none_iff, slot?_eq_none_iff]

/-- After an advance a cursor is done exactly if nothing came after its node. -/
theorem isDone_advance_iff (order_eq : c.order = slots track) (under : c.slot? = some a)
    (time : Nat) : (c.advance time).isDone = true ↔ track.IsNext a.node none := by
  rw [← current?_eq_none_iff]
  have next := isNext_advance order_eq under time
  constructor
  · intro done
    exact done ▸ next
  · intro last
    cases current : (c.advance time).current? with
    | none => rfl
    | some j =>
        rw [current] at next
        exact absurd next.1 (last j)

/-- A cursor that jumps to a node of its track stands on it. -/
theorem exists_jump? (order_eq : c.order = slots track) (inside : i < track.nodes.length)
    (time : Nat) :
    ∃ landed, c.jump? i time = some landed ∧ landed.current? = some i ∧ landed.nextAt = time := by
  obtain ⟨k, slot, at_k, rfl⟩ := exists_slot inside
  have has_slot : (c.order.findIdx? fun s => s.node == slot.node).isSome = true := by
    rw [List.findIdx?_isSome, List.any_eq_true, order_eq]
    exact ⟨slot, List.mem_of_getElem? at_k, by simp⟩
  obtain ⟨l, position⟩ := Option.isSome_iff_exists.mp has_slot
  obtain ⟨l_lt, node_eq, _⟩ := List.findIdx?_eq_some_iff_getElem.mp position
  refine ⟨{ c with position := l, nextAt := time }, by simp [jump?, position], ?_, rfl⟩
  rw [current?, slot?, List.getElem?_eq_getElem l_lt, Option.map_some]
  simpa using node_eq

end ModeCursor

/-! ## Modes -/

namespace ActiveMode

variable {m : ActiveMode} {t time : Nat}

/-- An advance passes a node; and if that leaves nothing to do, all tracks are
put back. -/
theorem advance_cases (m : ActiveMode) (t time : Nat) :
    (t < m.tracks.length → (m.pass t time).isExhausted = false) ∧
        (m.advance t time).1 = none ∧ (m.advance t time).2.tracks = (m.pass t time).tracks ∨
      (m.pass t time).isExhausted = true ∧ (m.advance t time).1 = some m.id ∧
        (m.advance t time).2.tracks = m.tracks.map fun c => c.reset time := by
  unfold advance
  split
  · dsimp only
    split
    · rename_i lapped
      refine .inr ⟨lapped, rfl, ?_⟩
      -- where a cursor stood before does not matter once it is put back
      have same : ∀ c : ModeCursor, (c.advance time).reset time = c.reset time := fun _ => rfl
      exact map_modify_eq_map same m.tracks t
    · rename_i left
      exact .inl ⟨fun _ => Bool.not_eq_true _ ▸ left, rfl, rfl⟩
  · rename_i outside
    refine .inl ⟨fun inside => absurd inside outside, rfl, ?_⟩
    simp only [pass, refreshFloor]
    rw [List.modify_eq_self (Nat.le_of_not_lt outside)]

/-- Passing a node leaves nothing to do exactly if its track and all others are
done then. -/
theorem isExhausted_pass_iff {c : ModeCursor} {slot : Slot} (found : m.tracks[t]? = some c)
    (under : c.slot? = some slot) (time : Nat) :
    (m.pass t time).isExhausted = true ↔
      (c.advance time).isDone = true ∧
        ∀ u d, u ≠ t → m.tracks[u]? = some d → d.isDone = true := by
  have own : c.advance time ∈ (m.pass t time).tracks :=
    List.mem_of_getElem? (i := t) (by simp [getElem?_pass, found])
  simp only [isExhausted, Bool.and_eq_true, List.any_eq_true, List.all_eq_true]
  constructor
  · rintro ⟨_, done⟩
    refine ⟨done _ own, ?_⟩
    intro u d other at_u
    apply done d
    exact List.mem_of_getElem? (i := u) (by simp [getElem?_pass, at_u, Ne.symm other])
  · rintro ⟨own_done, others_done⟩
    constructor
    · refine ⟨_, own, ?_⟩
      have order_ne : c.order ≠ [] := by
        intro empty
        simp [ModeCursor.slot?, empty] at under
      simpa [ModeCursor.isEmpty, ModeCursor.advance] using order_ne
    · intro d mem
      obtain ⟨u, at_u⟩ := List.getElem?_of_mem mem
      rw [getElem?_pass] at at_u
      obtain ⟨e, e_at, rfl⟩ := Option.map_eq_some_iff.mp at_u
      by_cases same : t = u
      · subst same
        obtain rfl := Option.some.inj (found.symm.trans e_at)
        rwa [if_pos rfl]
      · rw [if_neg same]
        exact others_done u e (Ne.symm same) e_at

end ActiveMode

/-! ## Cursors -/

namespace Schedule

/-- The cursor at a place stands on a node, or is done, and is due at a time. -/
def Stands (s : Schedule) (place : Place) (node : Option Nat) (dueAt : Nat) : Prop :=
  ∃ cursor, s.cursor? place = some cursor ∧ cursor.current? = node ∧ cursor.nextAt = dueAt

variable {s moved : Schedule} {p : Preset} {place other : Place} {track : Track} {c : Candidate}
  {node time : Nat}

theorem Stands.of_cursor?_eq {current : Option Nat} {dueAt : Nat}
    (stands : s.Stands place current dueAt) (same : moved.cursor? place = s.cursor? place) :
    moved.Stands place current dueAt := by
  rwa [Stands, same]

theorem Stands.due?_eq {current : Option Nat} {dueAt : Nat}
    (stands : s.Stands place current dueAt) : s.due? place = some dueAt := by
  obtain ⟨cursor, found, _, rfl⟩ := stands
  rw [due?_eq_map_cursor?, found, Option.map_some]

/-- A jump leaves the cursors of all other tracks as they are. -/
theorem cursor?_relocate_of_ne (ne : other ≠ place) (node time : Nat) :
    (s.relocate place node time).cursor? other = s.cursor? other := by
  unfold relocate
  cases landed : s.relocate? place node time with
  | none => rw [Option.getD_none, cursor?_refreshFloor]
  | some moved => exact cursor?_relocate?_of_ne landed ne

/-- An advance leaves the cursors of all other tracks as they are, unless it
lets the mode begin again. -/
theorem cursor?_advance_of_ne (ne : other ≠ place) (unlooped : (s.advance place time).1 = none) :
    (s.advance place time).2.cursor? other = s.cursor? other := by
  cases place with
  | global i =>
      cases other with
      | mode n u => rfl
      | global j =>
          have apart : i ≠ j := fun same => ne (same ▸ rfl)
          simp only [advance, cursor?, List.getElem?_modify_ne _ _ apart]
  | mode m t =>
      cases found : s.activeAt? m with
      | none => rw [advance_inactive found]
      | some active =>
          obtain ⟨held, rfl⟩ := activeAt?_eq_some_iff.mp found
          rw [advance_active held] at unlooped ⊢
          cases other with
          | global j => rfl
          | mode n u =>
              apply cursor?_mode_congr held rfl (congrArg Prod.fst (active.outline_advance t time))
              rintro rfl
              have apart : t ≠ u := fun same => ne (same ▸ rfl)
              rcases active.advance_cases t time with ⟨_, _, tracks_eq⟩ | ⟨_, looped, _⟩
              · simp [tracks_eq, ActiveMode.getElem?_pass, apart]
              · rw [looped] at unlooped
                contradiction

/-! ## The own track -/

/-- A track that is active has a cursor, which runs over its nodes. -/
theorem Fits.exists_cursor (fits : s.Fits p) (active : place.ActiveIn s.modeIndex)
    (there : p.track? place = some track) :
    ∃ cursor, s.cursor? place = some cursor ∧ cursor.RunsOver track := by
  cases place with
  | global i =>
      obtain ⟨g, found, outline_eq⟩ := exists_getElem?_of_map_eq fits.globals.symm there
      exact ⟨.global g, by simp [cursor?, found], congrArg Prod.snd outline_eq⟩
  | mode m t =>
      obtain ⟨own, held, rfl⟩ := Option.map_eq_some_iff.mp active
      obtain ⟨mode, runs⟩ := fits.mode own held
      obtain ⟨same, mode_found, track_found⟩ := Preset.track?_mode_eq_some_iff.mp there
      obtain rfl := Option.some.inj (mode_found.symm.trans runs.1)
      obtain ⟨cursor, found, outline_eq⟩ := exists_getElem?_of_map_eq runs.2.2.symm track_found
      exact ⟨.mode cursor, by simp [cursor?_mode held, found], congrArg Prod.snd outline_eq⟩

/-- A jump puts the cursor of an active track on the node. -/
theorem Fits.stands_relocate (fits : s.Fits p) (active : place.ActiveIn s.modeIndex)
    (there : p.track? place = some track) (inside : node < track.nodes.length) (time : Nat) :
    (s.relocate place node time).Stands place (some node) time := by
  obtain ⟨cursor, found, runs⟩ := fits.exists_cursor active there
  cases place with
  | global i =>
      obtain ⟨g, at_i, rfl⟩ := Option.map_eq_some_iff.mp found
      have length_eq : g.length = track.nodes.length := runs
      have below : node < g.length := length_eq ▸ inside
      let landed : GlobalCursor := { g with position := node, nextAt := time }
      have after : (s.relocate (.global i) node time).globals = s.globals.set i landed := by
        simp [relocate, relocate?, at_i, GlobalCursor.jump?, below, landed]
      have i_lt := (List.getElem?_eq_some_iff.mp at_i).1
      refine ⟨.global landed, by simp [cursor?, after, i_lt], ?_, rfl⟩
      simp [Cursor.current?, GlobalCursor.current?, landed, Nat.zero_lt_of_lt below]
  | mode m t =>
      obtain ⟨own, held, rfl⟩ := Option.map_eq_some_iff.mp active
      rw [cursor?_mode held] at found
      obtain ⟨c, at_t, rfl⟩ := Option.map_eq_some_iff.mp found
      obtain ⟨landed, jumped, current_eq, due_eq⟩ := ModeCursor.exists_jump? runs inside time
      refine ⟨.mode landed, ?_, current_eq, due_eq⟩
      have t_lt := (List.getElem?_eq_some_iff.mp at_t).1
      have found : s.activeAt? own.index = some own := activeAt?_eq_some_iff.mpr ⟨held, rfl⟩
      have after : (s.relocate (.mode own.index t) node time).mode =
          some (ActiveMode.refreshFloor { own with tracks := own.tracks.set t landed }) := by
        simp [relocate, relocate?, found, ActiveMode.jump?, at_t, jumped]
      have at_after := cursor?_mode after t
      exact at_after.trans (by simp [ActiveMode.refreshFloor, t_lt])

/-- The tracks alongside that of a candidate are active. -/
theorem activeIn_of_alongside (mem : c ∈ s.candidates) (alongside : other.Alongside c.place) :
    other.ActiveIn s.modeIndex := by
  cases other with
  | global i => trivial
  | mode m t =>
      cases at_place : c.place with
      | global i =>
          rw [at_place] at alongside
          contradiction
      | mode n u =>
          rw [at_place] at alongside
          obtain rfl : m = n := alongside
          obtain ⟨active, _, _, held, rfl, _⟩ := mem_candidates_mode mem at_place
          exact congrArg (Option.map ActiveMode.index) held

section Candidate

variable (fits : s.Fits p) (mem : c ∈ s.candidates) (there : p.track? c.place = some track)

include fits mem there

/-- The global track of a candidate goes on to the node that is declared next,
after the last one to the first. -/
theorem stands_advance_global {i : Nat} (at_place : c.place = .global i) (time : Nat) :
    (s.advance c.place time).2.Stands c.place (some ((c.node + 1) % track.nodes.length)) time := by
  rcases mem_candidates_iff.mp mem with global | ⟨active, _, own⟩
  · obtain ⟨j, g, found, nonempty, rfl⟩ := mem_globalCandidates_iff.mp global
    obtain ⟨same, track_found, _, length_eq⟩ := fits.global_track found
    obtain rfl := Option.some.inj (there.symm.trans track_found)
    refine ⟨.global (g.advance time), by simp [advance, cursor?, found], ?_, rfl⟩
    rw [← length_eq]
    simp [Cursor.current?, GlobalCursor.current?, GlobalCursor.advance, nonempty]
  · obtain ⟨t, _, _, _, _, _, rfl⟩ := ActiveMode.mem_candidates_iff.mp own
    contradiction

/-- The track of a candidate inside a mode has a cursor that runs over it and
stands on the candidate. -/
theorem exists_modeCursor {m t : Nat} (at_place : c.place = .mode m t) :
    ∃ active cursor slot, s.mode = some active ∧ active.index = m ∧
      active.tracks[t]? = some cursor ∧ cursor.order = ModeCursor.slots track ∧
      cursor.slot? = some slot ∧ slot.node = c.node := by
  obtain ⟨active, cursor, slot, held, rfl, found, under, _, node_eq⟩ :=
    mem_candidates_mode mem at_place
  obtain ⟨mode, runs⟩ := fits.mode active held
  obtain ⟨own, own_found, _, order_eq⟩ := runs.track found
  rw [at_place, Preset.track?_mode_eq_some_iff] at there
  obtain ⟨same, mode_found, track_found⟩ := there
  obtain rfl := Option.some.inj (mode_found.symm.trans runs.1)
  obtain rfl := Option.some.inj (track_found.symm.trans own_found)
  exact ⟨active, cursor, slot, held, rfl, found, order_eq, under, node_eq.symm⟩

end Candidate

/-- The node of a candidate is the last one that is left of its mode. -/
def EndsLap (s : Schedule) (p : Preset) (c : Candidate) : Prop :=
  ∃ m t track, c.place = .mode m t ∧ p.track? c.place = some track ∧
    track.IsNext c.node none ∧
    ∀ u cursor, u ≠ t → s.cursor? (.mode m u) = some cursor → cursor.current? = none

theorem cursor?_advance_mode {active : ActiveMode} (held : s.mode = some active) (t u time : Nat) :
    (s.advance (.mode active.index t) time).2.cursor? (.mode active.index u) =
      (active.advance t time).2.tracks[u]?.map .mode := by
  have index_eq : (active.advance t time).2.index = active.index :=
    congrArg Prod.fst (active.outline_advance t time)
  have moved_held : (s.advance (.mode active.index t) time).2.mode =
      some (active.advance t time).2 := by
    rw [advance_active held]
  have at_moved := cursor?_mode moved_held u
  rwa [index_eq] at at_moved

section Candidate

variable (fits : s.Fits p) (mem : c ∈ s.candidates) (there : p.track? c.place = some track)
  {m t : Nat} (at_place : c.place = .mode m t)

include fits mem there at_place

/-- An advance past a candidate in a mode goes on to the next node of its track,
unless the candidate is the last one that is left; then the mode begins again. -/
theorem advance_mode_cases (time : Nat) :
    ¬ s.EndsLap p c ∧ (s.advance c.place time).1 = none ∧
        (∃ next, track.IsNext c.node next ∧
          (s.advance c.place time).2.Stands c.place next time) ∨
      s.EndsLap p c ∧
        (∃ mode, p.modes[m]? = some mode ∧ (s.advance c.place time).1 = some mode.id) ∧
        (∀ i, (s.advance c.place time).2.cursor? (.global i) = s.cursor? (.global i)) ∧
        ∀ u own, p.track? (.mode m u) = some own → ∃ first, own.IsFirst first ∧
          (s.advance c.place time).2.Stands (.mode m u) first time := by
  obtain ⟨active, cursor, slot, held, rfl, found, order_eq, under, node_eq⟩ :=
    exists_modeCursor fits mem there at_place
  have ends_iff : (active.pass t time).isExhausted = true ↔ s.EndsLap p c := by
    rw [ActiveMode.isExhausted_pass_iff found under,
      ModeCursor.isDone_advance_iff order_eq under, node_eq]
    constructor
    · rintro ⟨last, others_done⟩
      refine ⟨active.index, t, track, at_place, there, last, ?_⟩
      intro u other ne at_u
      rw [cursor?_mode held] at at_u
      obtain ⟨d, d_at, rfl⟩ := Option.map_eq_some_iff.mp at_u
      exact ModeCursor.current?_eq_none_iff.mpr (others_done u d ne d_at)
    · rintro ⟨n, u, own, place_eq, own_there, last, others⟩
      cases at_place.symm.trans place_eq
      obtain rfl := Option.some.inj (there.symm.trans own_there)
      refine ⟨last, fun v d ne d_at => ?_⟩
      have at_v : s.cursor? (.mode active.index v) = some (.mode d) := by
        rw [cursor?_mode held, d_at, Option.map_some]
      exact ModeCursor.current?_eq_none_iff.mp (others v _ ne at_v)
  have looped_eq := congrArg Prod.fst (advance_active held t time)
  rw [at_place]
  rcases active.advance_cases t time with ⟨left, unlooped, tracks_eq⟩ | ⟨done, looped, tracks_eq⟩
  · left
    have going : (active.pass t time).isExhausted = false :=
      left (List.getElem?_eq_some_iff.mp found).1
    refine ⟨fun ends => ?_, looped_eq.trans unlooped, (cursor.advance time).current?, ?_,
      .mode (cursor.advance time), ?_, rfl, rfl⟩
    · rw [ends_iff.mpr ends] at going
      contradiction
    · exact node_eq ▸ ModeCursor.isNext_advance order_eq under time
    · rw [cursor?_advance_mode held, tracks_eq, ActiveMode.getElem?_pass, found]
      simp
  · right
    obtain ⟨mode, at_index, id_eq, _⟩ := fits.mode active held
    refine ⟨ends_iff.mp done, ⟨mode, at_index, looped_eq.trans (id_eq ▸ looped)⟩, fun i => ?_, ?_⟩
    · rw [advance_active held]
      rfl
    · intro u own own_there
      have active_in : (Place.mode active.index u).ActiveIn s.modeIndex :=
        congrArg (Option.map ActiveMode.index) held
      obtain ⟨other, at_u, runs⟩ := fits.exists_cursor active_in own_there
      rw [cursor?_mode held] at at_u
      obtain ⟨d, d_at, rfl⟩ := Option.map_eq_some_iff.mp at_u
      refine ⟨(d.reset time).current?, ModeCursor.isFirst_current? runs rfl,
        .mode (d.reset time), ?_, rfl, rfl⟩
      rw [cursor?_advance_mode held, tracks_eq, List.getElem?_map, d_at]
      rfl

end Candidate

end Schedule

end Rotation
