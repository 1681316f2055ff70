import Rotation.Proofs.Schedule.Call
import Rotation.Proofs.Schedule.Run

/-!
# When tracks are due

A track that is active has a cursor at its place.  Places of modes see the cursors
of the active mode alone.  What a call does to the cursors is told place by place:
a jump changes none but that of its own track.

A candidate is only seen while it may run, but its cursor knows at any time when
it is due.  What calls and fired gateways do to these times is said here, so that
it can be told which of them make a track due at once.
-/

namespace Rotation

/-! ## Cursors of tracks -/

/-- The cursor of a global track or of a track of a mode. -/
inductive Cursor where
  | global (cursor : GlobalCursor)
  | mode (cursor : ModeCursor)

namespace Cursor

/-- The node under the cursor. -/
def current? : Cursor → Option Nat
  | .global c => c.current?
  | .mode c => c.current?

/-- When the cursor is due. -/
def nextAt : Cursor → Nat
  | .global c => c.nextAt
  | .mode c => c.nextAt

/-- The cursor runs over the nodes of a track. -/
def RunsOver (track : Track) : Cursor → Prop
  | .global c => c.length = track.nodes.length
  | .mode c => c.order = ModeCursor.slots track

end Cursor

namespace Schedule

/-- The cursor at a place, if the track there is active. -/
def cursor? (s : Schedule) : Place → Option Cursor
  | .global i => s.globals[i]?.map .global
  | .mode m t => (s.activeAt? m).bind fun active => active.tracks[t]?.map .mode

variable {s moved : Schedule} {place other : Place} {node time : Nat}

theorem cursor?_mode {active : ActiveMode} (held : s.mode = some active) (t : Nat) :
    s.cursor? (.mode active.index t) = active.tracks[t]?.map .mode := by
  have found : s.activeAt? active.index = some active := activeAt?_eq_some_iff.mpr ⟨held, rfl⟩
  simp only [cursor?, found, Option.bind_some]

theorem cursor?_mode_of_ne {active : ActiveMode} {m : Nat} (held : s.mode = some active)
    (ne : active.index ≠ m) (t : Nat) : s.cursor? (.mode m t) = none := by
  have missing : s.activeAt? m = none := by simp [activeAt?, held, Option.filter, ne]
  simp only [cursor?, missing, Option.bind_none]

/-- The cursors at places of modes are those of the active mode. -/
theorem cursor?_mode_congr {before after : ActiveMode} {m t : Nat} (held : s.mode = some before)
    (now_held : moved.mode = some after) (index_eq : after.index = before.index)
    (same : before.index = m → after.tracks[t]? = before.tracks[t]?) :
    moved.cursor? (.mode m t) = s.cursor? (.mode m t) := by
  by_cases own : before.index = m
  · have at_moved := cursor?_mode now_held t
    have at_s := cursor?_mode held t
    rw [index_eq, own] at at_moved
    rw [own] at at_s
    rw [at_moved, at_s, same own]
  · rw [cursor?_mode_of_ne held own, cursor?_mode_of_ne now_held (index_eq ▸ own)]

@[simp]
theorem cursor?_refreshFloor (s : Schedule) (place other : Place) :
    (s.refreshFloor place).cursor? other = s.cursor? other := by
  cases place with
  | global i => rfl
  | mode m t =>
      cases found : s.activeAt? m with
      | none => simp only [refreshFloor, found]
      | some active =>
          obtain ⟨held, rfl⟩ := activeAt?_eq_some_iff.mp found
          simp only [refreshFloor, found]
          cases other with
          | global j => rfl
          | mode n u => exact cursor?_mode_congr held rfl rfl fun _ => rfl

theorem cursor?_relocate?_of_ne (landed : s.relocate? place node time = some moved)
    (ne : other ≠ place) : moved.cursor? other = s.cursor? other := by
  cases place with
  | global i =>
      simp only [relocate?, Option.bind_eq_bind, Option.bind_eq_some_iff, Option.pure_def,
        Option.some.injEq] at landed
      obtain ⟨g, _, after, _, rfl⟩ := landed
      cases other with
      | mode n u => rfl
      | global j =>
          have apart : i ≠ j := fun same => ne (same ▸ rfl)
          simp only [cursor?, List.getElem?_set_ne apart]
  | mode m t =>
      simp only [relocate?, Option.bind_eq_bind, Option.bind_eq_some_iff, Option.pure_def,
        Option.some.injEq] at landed
      obtain ⟨active, found, after, jumped, rfl⟩ := landed
      obtain ⟨held, rfl⟩ := activeAt?_eq_some_iff.mp found
      cases other with
      | global j => rfl
      | mode n u =>
          apply cursor?_mode_congr held rfl (congrArg Prod.fst (ActiveMode.outline_jump? jumped))
          rintro rfl
          have apart : t ≠ u := fun same => ne (same ▸ rfl)
          obtain ⟨_, _, _, _, rfl⟩ := ActiveMode.jump?_eq_some_iff.mp jumped
          exact List.getElem?_set_ne apart

/-- A jump that lands makes its own track due at its time. -/
theorem nextAt_relocate? {cursor : Cursor} (landed : s.relocate? place node time = some moved)
    (found : moved.cursor? place = some cursor) : cursor.nextAt = time := by
  cases place with
  | global i =>
      simp only [relocate?, Option.bind_eq_bind, Option.bind_eq_some_iff, Option.pure_def,
        Option.some.injEq] at landed
      obtain ⟨g, at_i, after, jumped, rfl⟩ := landed
      have i_lt := (List.getElem?_eq_some_iff.mp at_i).1
      simp only [cursor?, List.getElem?_set_self i_lt, Option.map_some, Option.some.injEq] at found
      subst found
      unfold GlobalCursor.jump? at jumped
      split at jumped
      · cases jumped
        rfl
      · contradiction
  | mode m t =>
      simp only [relocate?, Option.bind_eq_bind, Option.bind_eq_some_iff, Option.pure_def,
        Option.some.injEq] at landed
      obtain ⟨active, at_m, after, jumped, rfl⟩ := landed
      obtain ⟨held, rfl⟩ := activeAt?_eq_some_iff.mp at_m
      obtain ⟨before, own, at_t, track_jumped, rfl⟩ := ActiveMode.jump?_eq_some_iff.mp jumped
      have t_lt := (List.getElem?_eq_some_iff.mp at_t).1
      have own_eq := (cursor?_mode (s := { s with mode := some (ActiveMode.refreshFloor
        { active with tracks := active.tracks.set t own }) }) rfl t).symm.trans found
      simp only [ActiveMode.refreshFloor, List.getElem?_set_self t_lt, Option.map_some,
        Option.some.injEq] at own_eq
      subst own_eq
      obtain ⟨_, _, rfl⟩ := Option.map_eq_some_iff.mp track_jumped
      rfl

theorem advance_active {active : ActiveMode} (held : s.mode = some active) (t time : Nat) :
    s.advance (.mode active.index t) time =
      ((active.advance t time).1, { s with mode := some (active.advance t time).2 }) := by
  have found : s.activeAt? active.index = some active := activeAt?_eq_some_iff.mpr ⟨held, rfl⟩
  simp only [advance, found]

theorem advance_inactive {m : Nat} (inactive : s.activeAt? m = none) (t time : Nat) :
    s.advance (.mode m t) time = (none, s) := by
  simp only [advance, inactive]

end Schedule

/-! ## When cursors are due -/

/-- An item after one item has been changed. -/
theorem getElem?_modify_cases {α : Type} {l : List α} {f : α → α} {i j : Nat} {b : α}
    (found : (l.modify i f)[j]? = some b) :
    j = i ∧ (∃ a, l[i]? = some a ∧ f a = b) ∨ j ≠ i ∧ l[j]? = some b := by
  by_cases own : j = i
  · subst own
    rw [List.getElem?_modify_eq] at found
    exact .inl ⟨rfl, Option.map_eq_some_iff.mp found⟩
  · rw [List.getElem?_modify_ne _ _ (Ne.symm own)] at found
    exact .inr ⟨own, found⟩

namespace ActiveMode

variable {m : ActiveMode} {t u time : Nat} {c : ModeCursor}

/-- A cursor that is not due when the advance says has not been touched by it. -/
theorem nextAt_advance (found : (m.advance t time).2.tracks[u]? = some c) :
    c.nextAt = time ∧ (u = t ∨ (m.advance t time).1 = some m.id) ∨
      u ≠ t ∧ m.tracks[u]? = some c := by
  unfold advance at found ⊢
  by_cases inside : t < m.tracks.length
  · rw [if_pos inside] at found ⊢
    dsimp only at found ⊢
    by_cases lapped : (m.pass t time).isExhausted = true
    · rw [if_pos lapped] at found ⊢
      simp only [reset, refreshFloor, List.getElem?_map] at found
      obtain ⟨before, _, rfl⟩ := Option.map_eq_some_iff.mp found
      exact .inl ⟨rfl, .inr rfl⟩
    · rw [if_neg lapped] at found ⊢
      rcases getElem?_modify_cases found with ⟨own, before, _, rfl⟩ | untouched
      · exact .inl ⟨rfl, .inl own⟩
      · exact .inr untouched
  · rw [if_neg inside] at found
    refine .inr ⟨?_, found⟩
    rintro rfl
    exact inside (List.getElem?_eq_some_iff.mp found).1

end ActiveMode

namespace Schedule

/-- When the cursor at a place is due, if there is one. -/
def due? (s : Schedule) : Place → Option Nat
  | .global i => s.globals[i]?.map GlobalCursor.nextAt
  | .mode m t => (s.activeAt? m).bind fun active => active.tracks[t]?.map ModeCursor.nextAt

variable {s : Schedule} {p : Preset} {place other : Place} {c : Candidate} {x time : Nat}

theorem due?_eq_map_cursor? (s : Schedule) (place : Place) :
    s.due? place = (s.cursor? place).map Cursor.nextAt := by
  cases place with
  | global i => simp [due?, cursor?, Function.comp_def, Cursor.nextAt]
  | mode m t =>
      cases found : s.activeAt? m <;>
        simp [due?, cursor?, found, Function.comp_def, Cursor.nextAt]

theorem due?_mode_eq_some_iff {m t : Nat} :
    s.due? (.mode m t) = some x ↔ ∃ active cursor, s.mode = some active ∧ active.index = m ∧
      active.tracks[t]? = some cursor ∧ cursor.nextAt = x := by
  simp only [due?, Option.bind_eq_some_iff, Option.map_eq_some_iff, activeAt?_eq_some_iff]
  constructor
  · rintro ⟨active, ⟨held, index_eq⟩, cursor, found, due⟩
    exact ⟨active, cursor, held, index_eq, found, due⟩
  · rintro ⟨active, cursor, held, index_eq, found, due⟩
    exact ⟨active, ⟨held, index_eq⟩, cursor, found, due⟩

/-- A candidate is due when its cursor is. -/
theorem due?_of_mem (mem : c ∈ s.candidates) : s.due? c.place = some c.dueAt := by
  rcases mem_candidates_iff.mp mem with global | ⟨active, held, own⟩
  · obtain ⟨i, g, found, _, rfl⟩ := mem_globalCandidates_iff.mp global
    simp [due?, found]
  · obtain ⟨t, cursor, _, found, _, _, rfl⟩ := ActiveMode.mem_candidates_iff.mp own
    exact due?_mode_eq_some_iff.mpr ⟨active, cursor, held, rfl, found, rfl⟩

/-- An advance sets the time of its own track, and of all tracks of a mode that
it lets begin again. -/
theorem due?_advance (due : (s.advance place time).2.due? other = some x) :
    x = time ∧ (other = place ∨ ∃ active t, s.mode = some active ∧
        (s.advance place time).1 = some active.id ∧ other = .mode active.index t) ∨
      other ≠ place ∧ s.due? other = some x := by
  cases place with
  | global i =>
      cases other with
      | mode n u => exact .inr ⟨by simp, due⟩
      | global j =>
          obtain ⟨g, found, rfl⟩ := Option.map_eq_some_iff.mp due
          rcases getElem?_modify_cases found with ⟨rfl, before, _, rfl⟩ | ⟨ne, same⟩
          · exact .inl ⟨rfl, .inl rfl⟩
          · exact .inr ⟨by simpa using ne, by simp [due?, same]⟩
  | mode m t =>
      cases found : s.activeAt? m with
      | none =>
          rw [advance_inactive found] at due
          refine .inr ⟨?_, due⟩
          rintro rfl
          simp [due?, found] at due
      | some active =>
          obtain ⟨held, rfl⟩ := activeAt?_eq_some_iff.mp found
          rw [advance_active held] at due ⊢
          cases other with
          | global j => exact .inr ⟨by simp, due⟩
          | mode n u =>
              obtain ⟨moved, cursor, moved_eq, index_eq, at_u, rfl⟩ := due?_mode_eq_some_iff.mp due
              cases moved_eq
              have same_index : (active.advance t time).2.index = active.index :=
                congrArg Prod.fst (active.outline_advance t time)
              obtain rfl : active.index = n := same_index.symm.trans index_eq
              rcases ActiveMode.nextAt_advance at_u with ⟨time_eq, rfl | looped⟩ | ⟨ne, same⟩
              · exact .inl ⟨time_eq, .inl rfl⟩
              · exact .inl ⟨time_eq, .inr ⟨active, u, held, looped, rfl⟩⟩
              · refine .inr ⟨by simpa using ne, ?_⟩
                exact due?_mode_eq_some_iff.mpr ⟨active, cursor, held, rfl, same, rfl⟩

/-- A jump that lands sets the time of the track that it goes to, and of no
other. -/
theorem due?_relocate? {node : Nat} {moved : Schedule}
    (landed : s.relocate? place node time = some moved) (due : moved.due? other = some x) :
    other = place ∧ x = time ∨ other ≠ place ∧ s.due? other = some x := by
  rw [due?_eq_map_cursor?] at due ⊢
  by_cases own : other = place
  · subst own
    obtain ⟨cursor, found, rfl⟩ := Option.map_eq_some_iff.mp due
    exact .inl ⟨rfl, nextAt_relocate? landed found⟩
  · rw [cursor?_relocate?_of_ne landed own] at due
    exact .inr ⟨own, due⟩

@[simp]
theorem due?_refreshFloor (s : Schedule) (place other : Place) :
    (s.refreshFloor place).due? other = s.due? other := by
  rw [due?_eq_map_cursor?, cursor?_refreshFloor, due?_eq_map_cursor?]

theorem due?_relocate {node : Nat} (due : (s.relocate place node time).due? other = some x) :
    other = place ∧ x = time ∨ s.due? other = some x := by
  unfold relocate at due
  cases landed : s.relocate? place node time with
  | none =>
      rw [landed, Option.getD_none, due?_refreshFloor] at due
      exact .inr due
  | some moved =>
      rw [landed] at due
      exact (due?_relocate? landed due).imp_right And.right

/-- A candidate that jumps to its own node lands. -/
theorem exists_relocate?_of_mem (coherent : s.Coherent) (mem : c ∈ s.candidates) (time : Nat) :
    ∃ moved, s.relocate? c.place c.node time = some moved := by
  rcases mem_candidates_iff.mp mem with global | ⟨active, held, own⟩
  · obtain ⟨i, g, found, nonempty, rfl⟩ := mem_globalCandidates_iff.mp global
    have below : g.position < g.length := by
      rcases coherent.globals g (List.mem_of_getElem? found) with below | ⟨empty, _⟩
      · exact below
      · omega
    simp [relocate?, found, GlobalCursor.jump?, below]
  · obtain ⟨t, cursor, slot, found, under, _, rfl⟩ := ActiveMode.mem_candidates_iff.mp own
    have at_index : s.activeAt? active.index = some active :=
      activeAt?_eq_some_iff.mpr ⟨held, rfl⟩
    have has_slot : (cursor.order.findIdx? fun other => other.node == slot.node).isSome = true := by
      rw [List.findIdx?_isSome, List.any_eq_true]
      exact ⟨slot, List.mem_of_getElem? under, by simp⟩
    obtain ⟨i, position⟩ := Option.isSome_iff_exists.mp has_slot
    simp [relocate?, at_index, ActiveMode.jump?, found, ModeCursor.jump?, position]

/-- A candidate that jumps to its own node is due when the jump says. -/
theorem due?_relocate_own (coherent : s.Coherent) (mem : c ∈ s.candidates)
    (due : (s.relocate c.place c.node time).due? c.place = some x) : x = time := by
  obtain ⟨moved, landed⟩ := exists_relocate?_of_mem coherent mem time
  rw [relocate, landed] at due
  rcases due?_relocate? landed due with ⟨_, time_eq⟩ | ⟨ne, _⟩
  · exact time_eq
  · exact absurd rfl ne

/-- A switch leaves global tracks alone, and no track of another mode active. -/
theorem due?_switchMode {m : Nat} {mode : Mode} (there : p.modes[m]? = some mode)
    (due : (s.call (.switchMode p m time)).due? other = some x) :
    (∃ t, other = .mode m t) ∨ (∃ i, other = .global i) ∧ s.due? other = some x := by
  simp only [call, switchMode?, ActiveMode.start?, there, Option.map_some, Option.getD_some] at due
  cases other with
  | global i => exact .inr ⟨⟨i, rfl⟩, due⟩
  | mode n u =>
      obtain ⟨_, cursor, started, index_eq, _⟩ := due?_mode_eq_some_iff.mp due
      cases started
      exact .inl ⟨u, by rw [← index_eq]; rfl⟩

theorem due?_enter {entered : Schedule} {mode : Nat} {modeId track : String}
    {node : Option String} {now : Nat}
    (done : s.enter p mode modeId track node now = .ok entered)
    (due : entered.due? other = some x) :
    (∃ t, other = .mode mode t) ∨ s.due? other = some x := by
  unfold enter at done
  split at done
  · split at done
    · rename_i m t _ same
      subst same
      cases landed : landingNode p (.mode m t) node with
      | error fault =>
          rw [landed] at done
          contradiction
      | ok i =>
          rw [landed] at done
          cases done
          rcases due?_relocate due with ⟨rfl, _⟩ | before
          · exact .inl ⟨t, rfl⟩
          · exact .inr before
    · contradiction
  · contradiction

theorem due?_beginMode {moved : Schedule} {result : Except DispatchFault Dispatched} {m : Nat}
    {mode : Mode} {modeId : String} {track node : Option String} {now : Nat} {asked : Dispatched}
    (there : p.modes[m]? = some mode)
    (begun : s.beginMode p m modeId track node now asked = (result, moved))
    (due : moved.due? other = some x) :
    (∃ t, other = .mode m t) ∨ (∃ i, other = .global i) ∧ s.due? other = some x := by
  have switched : ∀ {y}, (s.call (.switchMode p m now)).due? other = some y →
      (∃ t, other = .mode m t) ∨ (∃ i, other = .global i) ∧ s.due? other = some y :=
    due?_switchMode there
  unfold beginMode at begun
  dsimp only at begun
  split at begun
  · cases begun
    exact switched due
  · split at begun
    · rename_i entered done
      cases begun
      rcases due?_enter done due with own | before
      · exact .inl own
      · exact switched before
    · cases begun
      exact switched due

/-! ## Tracks that rest -/

/-- Nothing at the place is due yet. -/
def Rests (s : Schedule) (now : Nat) (place : Place) : Prop :=
  ∀ due, s.due? place = some due → now < due

variable {now delay : Nat}

/-- What rests does not run. -/
theorem Rests.lt_dueAt (rests : s.Rests now c.place) (mem : c ∈ s.candidates) : now < c.dueAt :=
  rests _ (due?_of_mem mem)

/-- A track that is moved on to a later time rests, and so does what has rested
before. -/
theorem rests_advance (before : s.Rests now other ∨ other = place) (later : now < time) :
    (s.advance place time).2.Rests now other := by
  intro due due_eq
  rcases due?_advance due_eq with ⟨rfl, _⟩ | ⟨ne, same⟩
  · exact later
  · rcases before with rests | own
    · exact rests due same
    · exact absurd own ne

/-- A track that rests goes on to when another one is moved on, unless its mode
begins again. -/
theorem Rests.advance (rests : s.Rests now other) (ne : other ≠ place) :
    (s.advance place time).2.Rests now other ∨ ∃ active t, s.mode = some active ∧
      (s.advance place time).1 = some active.id ∧ other = .mode active.index t := by
  by_cases looped : ∃ active t, s.mode = some active ∧
      (s.advance place time).1 = some active.id ∧ other = .mode active.index t
  · exact .inr looped
  · left
    intro due due_eq
    rcases due?_advance due_eq with ⟨_, own | loops⟩ | ⟨_, same⟩
    · exact absurd own ne
    · exact absurd loops looped
    · exact rests due same

theorem Rests.relocate {node : Nat} (rests : s.Rests now other)
    (later : other = place → now < time) : (s.relocate place node time).Rests now other := by
  intro due due_eq
  rcases due?_relocate due_eq with ⟨own, rfl⟩ | same
  · exact later own
  · exact rests due same

/-- Where a jump of a gateway finds the gateway itself. -/
def landsOnItself (p : Preset) (target : Place) (gateway : Gateway) (node : Nat) : Prop :=
  ((p.track? target).bind fun track => track.position? gateway.id) = some node

variable {gateway : Gateway} {target : Place} {node : Nat}

/-- A jump finds the gateway itself where it lands on a node of its name. -/
theorem landsOnItself_iff {track : Track} (there : p.track? target = some track)
    (distinct : (track.nodes.map Node.id).Nodup) :
    landsOnItself p target gateway node ↔
      ∃ n, track.nodes[node]? = some n ∧ n.id = gateway.id := by
  rw [landsOnItself, there, Option.bind_some, Preset.position?_eq_some_iff distinct]

/-- A jump is due at once unless it finds the gateway itself. -/
theorem landingTime_eq_ok (landed : landingTime p target node gateway now delay = .ok time) :
    landsOnItself p target gateway node ∧ time = now + delay ∨
      ¬ landsOnItself p target gateway node ∧ time = now := by
  unfold landingTime at landed
  split at landed
  · rename_i own
    exact .inl ⟨own, (Unsigned.add_eq_ok_iff.mp landed).2⟩
  · rename_i other
    exact .inr ⟨other, (Except.ok.inj landed).symm⟩

/-- A fired gateway makes a track due at once: it switches to the mode of the
track, or it jumps into the track and does not find itself there. -/
inductive PutsBack (p : Preset) (gateway : Gateway) (other : Place) : Effect → Prop
  | switched {source : Option String} {m t : Nat} {mode : Mode} (at_place : other = .mode m t)
      (there : p.modes[m]? = some mode) : PutsBack p gateway other (.switched source mode.id)
  | jumped {node : Nat} (elsewhere : ¬ landsOnItself p other gateway node) :
      PutsBack p gateway other (.jumped other node)

/-- What rests before a jump rests after it, unless the jump puts it back. -/
theorem Rests.land (rests : s.Rests now other) (waits : 0 < delay)
    (landed : landingTime p target node gateway now delay = .ok time) :
    (s.relocate target node time).Rests now other ∨
      PutsBack p gateway other (.jumped target node) := by
  rcases landingTime_eq_ok landed with ⟨_, rfl⟩ | ⟨elsewhere, _⟩
  · exact .inl (rests.relocate fun _ => by omega)
  · by_cases own : other = target
    · subst own
      exact .inr (.jumped elsewhere)
    · exact .inl (rests.relocate fun same => absurd same own)

/-! ## Fired gateways -/

variable {effect : Effect} {looped : Option String} {moved : Schedule}

theorem rests_of_dispatchSwitch {modeId : String} {track entry : Option String}
    (fired : s.dispatchSwitch p place modeId track entry now delay =
      .ok (.ok ⟨effect, looped⟩, moved))
    (waits : 0 < delay) (before : s.Rests now other ∨ other = place) :
    moved.Rests now other ∨ PutsBack p gateway other effect := by
  have effect_eq := effect_of_dispatchSwitch fired
  dsimp only at effect_eq
  subst effect_eq
  unfold dispatchSwitch at fired
  split at fired
  · cases fired
  · rename_i m indexed
    obtain ⟨mode, there, rfl⟩ := Preset.modeIndex?_eq_some indexed
    by_cases own : ∃ t, other = .mode m t
    · obtain ⟨t, at_place⟩ := own
      exact .inr (.switched at_place there)
    · left
      intro due due_eq
      cases place with
      | global i =>
          obtain ⟨later, added, begun⟩ := Checked.bind_eq_ok_iff.mp fired
          obtain ⟨_, rfl⟩ := Unsigned.add_eq_ok_iff.mp added
          rcases due?_beginMode there (Except.ok.inj begun) due_eq with in_mode | ⟨_, same⟩
          · exact absurd in_mode own
          · exact rests_advance before (by omega) due same
      | mode n t =>
          rcases due?_beginMode there (Except.ok.inj fired) due_eq with in_mode | ⟨⟨i, rfl⟩, same⟩
          · exact absurd in_mode own
          · rcases before with rests | at_place
            · exact rests due same
            · contradiction

/-- A jump to another track has named it. -/
theorem jumpTrack_of_dispatch
    (fired : s.dispatch p place gateway now delay = .ok (.ok ⟨.jumped target node, looped⟩, moved))
    (elsewhere : target ≠ place) :
    ∃ id entry, gateway.action = .jumpTrack id entry ∧ p.locate? id = some target := by
  unfold dispatch at fired
  split at fired
  · cases fired
  · cases effect_of_dispatchSwitch fired
  · rcases dispatchJumpNode_cases fired with ⟨⟨_, failed⟩, _⟩ | ⟨_, _, landed, _⟩
    · cases failed
    · cases landed
      exact absurd rfl elsewhere
  · rename_i id entry action_eq
    rcases dispatchJumpTrack_cases fired with ⟨⟨_, failed⟩, _⟩ | ⟨_, _, _, _, located, landed, _⟩
    · cases failed
    · cases landed
      exact ⟨id, entry, action_eq, located⟩
  · cases fired

section

variable {track : Track} (coherent : s.Coherent) (mem : c ∈ s.candidates)
  (there : p.track? c.place = some track)
  (at_node : track.nodes[c.node]? = some (.gateway gateway))
  (distinct : (track.nodes.map Node.id).Nodup)

include coherent mem there at_node distinct

/-- A jump of a gateway inside its own track, which need not have rested before:
it does after, if the gateway finds itself. -/
theorem rests_land_own (before : s.Rests now other ∨ other = c.place) (waits : 0 < delay)
    (landed : landingTime p c.place node gateway now delay = .ok time) :
    (s.relocate c.place node time).Rests now other ∨
      PutsBack p gateway other (.jumped c.place node) := by
  rcases before with rests | rfl
  · exact rests.land waits landed
  · rcases landingTime_eq_ok landed with ⟨own, rfl⟩ | ⟨elsewhere, _⟩
    · left
      obtain ⟨n, at_landing, id_eq⟩ := (landsOnItself_iff there distinct).mp own
      obtain rfl : node = c.node :=
        Preset.index_eq_of_nodup_map distinct at_landing at_node id_eq
      intro due due_eq
      rw [due?_relocate_own coherent mem due_eq]
      omega
    · exact .inr (.jumped elsewhere)

theorem rests_of_dispatchJumpNode {id : String}
    (fired : s.dispatchJumpNode p c.place gateway id now delay = .ok (.ok ⟨effect, looped⟩, moved))
    (waits : 0 < delay) (before : s.Rests now other ∨ other = c.place) :
    moved.Rests now other ∨ PutsBack p gateway other effect := by
  rcases dispatchJumpNode_cases fired with ⟨⟨_, failed⟩, _⟩ | ⟨i, time, done, landed, rfl⟩
  · cases failed
  · cases done
    exact rests_land_own coherent mem there at_node distinct before waits landed

theorem rests_of_dispatchJumpTrack {id : String} {entry : Option String}
    (fired : s.dispatchJumpTrack p c.place gateway id entry now delay =
      .ok (.ok ⟨effect, looped⟩, moved))
    (waits : 0 < delay) (before : s.Rests now other ∨ other = c.place) :
    moved.Rests now other ∨ PutsBack p gateway other effect := by
  rcases dispatchJumpTrack_cases fired with
    ⟨⟨_, failed⟩, _⟩ | ⟨target, i, _, time, _, done, landed, ⟨rfl, rfl⟩ | rfl⟩
  · cases failed
  · cases done
    exact rests_land_own coherent mem there at_node distinct before waits landed
  · cases done
    have rests : (s.advance c.place (now + delay)).2.Rests now other :=
      rests_advance before (by omega)
    exact rests.land waits landed

/-- After a gateway has fired that neither ends the run nor casts, its own track
rests, and what has rested before goes on to; except for the tracks that it puts
back. -/
theorem rests_of_dispatch
    (fired : s.dispatch p c.place gateway now delay = .ok (.ok ⟨effect, looped⟩, moved))
    (goes_on : effect ≠ .ended) (uncast : ∀ skill, effect ≠ .cast skill)
    (waits : 0 < delay) (before : s.Rests now other ∨ other = c.place) :
    moved.Rests now other ∨ PutsBack p gateway other effect := by
  unfold dispatch at fired
  split at fired
  · cases fired
    exact absurd rfl goes_on
  · exact rests_of_dispatchSwitch fired waits before
  · exact rests_of_dispatchJumpNode coherent mem there at_node distinct fired waits before
  · exact rests_of_dispatchJumpTrack coherent mem there at_node distinct fired waits before
  · cases fired
    exact absurd rfl (uncast _)

end

end Schedule

end Rotation
