import Mathlib.Data.List.Basic
import Mathlib.Data.List.Induction
import Rotation.Schedule.Basic

/-!
# Calls on a schedule

A schedule is changed by four kinds of calls.  What a call can do is said once,
for the global cursors by `globals_call` and for the active mode by `mode_call`;
what all calls keep follows from these two.

The first thing that is kept is the outline of a schedule: what its cursors run
over.  Only a switch of mode replaces the part of it that belongs to the mode.
-/

namespace Rotation

/-- Changing one item leaves a projection of all items alone if the change
does. -/
theorem map_modify_eq_map {α β : Type} {g : α → β} {f : α → α} (same : ∀ a, g (f a) = g a)
    (l : List α) (i : Nat) : (l.modify i f).map g = l.map g := by
  apply List.ext_getElem?
  intro j
  simp only [List.getElem?_map, List.getElem?_modify]
  cases l[j]? with
  | none => rfl
  | some a => split <;> simp [same]

/-- Replacing an item leaves a projection of all items alone if both have the
same one. -/
theorem map_set_eq_map {α β : Type} {g : α → β} {l : List α} {i : Nat} {a b : α}
    (found : l[i]? = some a) (same : g b = g a) : (l.set i b).map g = l.map g := by
  apply List.ext_getElem?
  intro j
  simp only [List.getElem?_map, List.getElem?_set]
  split
  · rename_i index_eq
    subst index_eq
    split <;> simp_all
  · rfl

/-- What two lists have in common, their items at one position have in
common. -/
theorem exists_getElem?_of_map_eq {α β γ : Type} {f : α → γ} {g : β → γ} {first : List α}
    {second : List β} (maps_eq : first.map f = second.map g) {i : Nat} {a : α}
    (found : first[i]? = some a) : ∃ b, second[i]? = some b ∧ g b = f a := by
  have items_eq := congrArg (fun l => l[i]?) maps_eq
  simp only [List.getElem?_map, found, Option.map_some] at items_eq
  exact Option.map_eq_some_iff.mp items_eq.symm

/-! ## Outlines -/

/-- What a global cursor runs over. -/
def GlobalCursor.outline (c : GlobalCursor) : String × Nat :=
  (c.id, c.length)

/-- What the cursor of a mode track runs over. -/
def ModeCursor.outline (c : ModeCursor) : String × List Slot :=
  (c.id, c.order)

namespace ModeCursor

@[simp]
theorem outline_advance (c : ModeCursor) (time : Nat) : (c.advance time).outline = c.outline :=
  rfl

@[simp]
theorem outline_hold (c : ModeCursor) (time : Nat) : (c.hold time).outline = c.outline :=
  rfl

@[simp]
theorem outline_reset (c : ModeCursor) (time : Nat) : (c.reset time).outline = c.outline :=
  rfl

theorem outline_jump? {c moved : ModeCursor} {node time : Nat}
    (jumped : c.jump? node time = some moved) : moved.outline = c.outline := by
  obtain ⟨i, _, rfl⟩ := Option.map_eq_some_iff.mp jumped
  rfl

end ModeCursor

namespace ActiveMode

/-- The mode and what its cursors run over. -/
def outline (m : ActiveMode) : Nat × String × List (String × List Slot) :=
  (m.index, m.id, m.tracks.map ModeCursor.outline)

@[simp]
theorem outline_refreshFloor (m : ActiveMode) : m.refreshFloor.outline = m.outline :=
  rfl

@[simp]
theorem outline_reset (m : ActiveMode) (time : Nat) : (m.reset time).outline = m.outline := by
  simp [reset, outline, refreshFloor, Function.comp_def]

@[simp]
theorem outline_hold (m : ActiveMode) (t time : Nat) : (m.hold t time).outline = m.outline := by
  simp only [hold, outline]
  rw [map_modify_eq_map fun c => c.outline_hold time]

@[simp]
theorem outline_pass (m : ActiveMode) (t time : Nat) : (m.pass t time).outline = m.outline := by
  simp only [pass, refreshFloor, outline]
  rw [map_modify_eq_map fun c => c.outline_advance time]

@[simp]
theorem outline_advance (m : ActiveMode) (t time : Nat) :
    (m.advance t time).2.outline = m.outline := by
  unfold advance
  split
  · dsimp only
    split
    · rw [outline_reset, outline_pass]
    · exact m.outline_pass t time
  · rfl

/-- A jump puts the cursor of one track on a node of it. -/
theorem jump?_eq_some_iff {m moved : ActiveMode} {t node time : Nat} :
    m.jump? t node time = some moved ↔
      ∃ c landed, m.tracks[t]? = some c ∧ c.jump? node time = some landed ∧
        moved = refreshFloor { m with tracks := m.tracks.set t landed } := by
  simp only [jump?, Option.bind_eq_bind, Option.bind_eq_some_iff, Option.pure_def,
    Option.some.injEq]
  constructor
  · rintro ⟨c, found, landed, jumped, rfl⟩
    exact ⟨c, landed, found, jumped, rfl⟩
  · rintro ⟨c, landed, found, jumped, rfl⟩
    exact ⟨c, found, landed, jumped, rfl⟩

theorem outline_jump? {m moved : ActiveMode} {t node time : Nat}
    (jumped : m.jump? t node time = some moved) : moved.outline = m.outline := by
  obtain ⟨c, landed, found, track_jumped, rfl⟩ := jump?_eq_some_iff.mp jumped
  simp only [outline, refreshFloor]
  rw [map_set_eq_map found (ModeCursor.outline_jump? track_jumped)]

/-- The cursors run over the tracks of a mode of the preset. -/
def RunsOver (m : ActiveMode) (preset : Preset) (mode : Mode) : Prop :=
  preset.modes[m.index]? = some mode ∧ m.id = mode.id ∧
    m.tracks.map ModeCursor.outline = mode.tracks.map fun t => (t.id, ModeCursor.slots t)

theorem RunsOver.of_outline_eq {m moved : ActiveMode} {preset : Preset} {mode : Mode}
    (runs : m.RunsOver preset mode) (outline_eq : moved.outline = m.outline) :
    moved.RunsOver preset mode := by
  obtain ⟨found, id_eq, tracks_eq⟩ := runs
  simp only [outline, Prod.mk.injEq] at outline_eq
  obtain ⟨index_eq, same_id, same_tracks⟩ := outline_eq
  exact ⟨index_eq ▸ found, same_id.trans id_eq, same_tracks.trans tracks_eq⟩

/-- A cursor runs over the track at its place. -/
theorem RunsOver.track {m : ActiveMode} {preset : Preset} {mode : Mode}
    (runs : m.RunsOver preset mode) {t : Nat} {c : ModeCursor} (found : m.tracks[t]? = some c) :
    ∃ track, mode.tracks[t]? = some track ∧ c.id = track.id ∧
      c.order = ModeCursor.slots track := by
  obtain ⟨track, track_found, outline_eq⟩ := exists_getElem?_of_map_eq runs.2.2 found
  obtain ⟨id_eq, order_eq⟩ := Prod.mk.inj outline_eq
  exact ⟨track, track_found, id_eq.symm, order_eq.symm⟩

theorem RunsOver.tracks_length {m : ActiveMode} {preset : Preset} {mode : Mode}
    (runs : m.RunsOver preset mode) : m.tracks.length = mode.tracks.length := by
  simpa using congrArg List.length runs.2.2

/-- A mode at its beginning runs over the tracks of the mode with its index. -/
theorem runsOver_start? {preset : Preset} {index time : Nat} {m : ActiveMode}
    (started : start? preset index time = some m) :
    m.index = index ∧ ∃ mode, m.RunsOver preset mode := by
  obtain ⟨mode, found, rfl⟩ := Option.map_eq_some_iff.mp started
  refine ⟨rfl, mode, found, rfl, ?_⟩
  simp [refreshFloor, Function.comp_def, ModeCursor.outline, ModeCursor.start]

end ActiveMode

namespace Schedule

/-- What the global cursors run over. -/
def globalOutline (s : Schedule) : List (String × Nat) :=
  s.globals.map GlobalCursor.outline

theorem activeAt?_eq_some_iff {s : Schedule} {m : Nat} {active : ActiveMode} :
    s.activeAt? m = some active ↔ s.mode = some active ∧ active.index = m := by
  simp [activeAt?, Option.filter_eq_some_iff]

end Schedule

/-! ## Calls -/

/-- A call on a schedule.  A switch of mode brings the preset in which the mode
is looked up. -/
inductive Call where
  | advance (place : Place) (time : Nat)
  | hold (place : Place) (time : Nat)
  | relocate (place : Place) (node time : Nat)
  | switchMode (preset : Preset) (mode time : Nat)

/-- What a call can do to a global cursor. -/
inductive GlobalCursor.Moved (c : GlobalCursor) : GlobalCursor → Prop
  | advance (time : Nat) : Moved c (c.advance time)
  | hold (time : Nat) : Moved c (c.hold time)
  | jump {node time : Nat} {landed : GlobalCursor} (jumped : c.jump? node time = some landed) :
      Moved c landed

/-- What a call can do to the active mode, apart from replacing it. -/
inductive ActiveMode.Moved (m : ActiveMode) : ActiveMode → Prop
  | advance (t time : Nat) : Moved m (m.advance t time).2
  | hold (t time : Nat) : Moved m (m.hold t time)
  | jump {t node time : Nat} {landed : ActiveMode} (jumped : m.jump? t node time = some landed) :
      Moved m landed
  | refreshFloor : Moved m m.refreshFloor

theorem GlobalCursor.Moved.outline {c moved : GlobalCursor} (step : c.Moved moved) :
    moved.outline = c.outline := by
  cases step with
  | advance time => rfl
  | hold time => rfl
  | jump jumped =>
      unfold jump? at jumped
      split at jumped
      · cases jumped
        rfl
      · contradiction

theorem ActiveMode.Moved.outline {m moved : ActiveMode} (step : m.Moved moved) :
    moved.outline = m.outline := by
  cases step with
  | advance t time => exact m.outline_advance t time
  | hold t time => exact m.outline_hold t time
  | jump jumped => exact outline_jump? jumped
  | refreshFloor => rfl

namespace Schedule

/-- Carry out a call. -/
def call (s : Schedule) : Call → Schedule
  | .advance place time => (s.advance place time).2
  | .hold place time => s.hold place time
  | .relocate place node time => s.relocate place node time
  | .switchMode preset mode time => (s.switchMode? preset mode time).getD s

/-- Carry out calls one after the other. -/
def callAll (s : Schedule) (calls : List Call) : Schedule :=
  calls.foldl call s

@[simp]
theorem callAll_nil (s : Schedule) : s.callAll [] = s :=
  rfl

@[simp]
theorem callAll_cons (s : Schedule) (c : Call) (rest : List Call) :
    s.callAll (c :: rest) = (s.call c).callAll rest :=
  rfl

theorem callAll_append (s : Schedule) (first second : List Call) :
    s.callAll (first ++ second) = (s.callAll first).callAll second :=
  List.foldl_append

private theorem globals_modify {s : Schedule} {i : Nat} {f : GlobalCursor → GlobalCursor}
    (step : ∀ g : GlobalCursor, g.Moved (f g)) :
    s.globals.modify i f = s.globals ∨
      ∃ j g moved, s.globals[j]? = some g ∧ g.Moved moved ∧
        s.globals.modify i f = s.globals.set j moved := by
  rw [List.modify_eq_set_getElem?]
  cases found : s.globals[i]? with
  | none => exact .inl rfl
  | some g => exact .inr ⟨i, g, f g, found, step g, rfl⟩

/-- A call moves at most one global cursor. -/
theorem globals_call (s : Schedule) (c : Call) :
    (s.call c).globals = s.globals ∨
      ∃ i g moved, s.globals[i]? = some g ∧ g.Moved moved ∧
        (s.call c).globals = s.globals.set i moved := by
  cases c with
  | advance place time =>
      cases place with
      | global i => exact globals_modify fun g => .advance time
      | mode m t =>
          left
          simp only [call, advance]
          split <;> rfl
  | hold place time =>
      cases place with
      | global i => exact globals_modify fun g => .hold time
      | mode m t =>
          left
          simp only [call, hold]
          split <;> rfl
  | relocate place node time =>
      cases place with
      | global i =>
          simp only [call, relocate, relocate?, refreshFloor]
          cases found : s.globals[i]? with
          | none => exact .inl rfl
          | some g =>
              cases jumped : g.jump? node time with
              | none => simp [jumped]
              | some landed =>
                  exact .inr ⟨i, g, landed, found, .jump jumped, by simp [jumped]⟩
      | mode m t =>
          left
          simp only [call, relocate, relocate?, refreshFloor]
          cases s.activeAt? m with
          | none => rfl
          | some active => cases jumped : active.jump? t node time <;> simp [jumped]
  | switchMode preset mode time =>
      left
      simp only [call, switchMode?]
      cases ActiveMode.start? preset mode time <;> rfl

/-- A call leaves the active mode alone, moves it, or has begun a mode. -/
theorem mode_call (s : Schedule) (c : Call) :
    (s.call c).mode = s.mode ∨
      (∃ m moved, s.mode = some m ∧ m.Moved moved ∧ (s.call c).mode = some moved) ∨
      ∃ preset mode time m, c = .switchMode preset mode time ∧
        ActiveMode.start? preset mode time = some m ∧ (s.call c).mode = some m := by
  cases c with
  | advance place time =>
      cases place with
      | global i => exact .inl rfl
      | mode m t =>
          simp only [call, advance]
          split
          · exact .inl rfl
          · rename_i active found
            obtain ⟨held, _⟩ := activeAt?_eq_some_iff.mp found
            exact .inr (.inl ⟨active, _, held, .advance t time, rfl⟩)
  | hold place time =>
      cases place with
      | global i => exact .inl rfl
      | mode m t =>
          simp only [call, hold]
          split
          · exact .inl rfl
          · rename_i active found
            obtain ⟨held, _⟩ := activeAt?_eq_some_iff.mp found
            exact .inr (.inl ⟨active, _, held, .hold t time, rfl⟩)
  | relocate place node time =>
      cases place with
      | global i =>
          left
          simp only [call, relocate, relocate?, refreshFloor]
          cases found : s.globals[i]? with
          | none => rfl
          | some g => cases jumped : g.jump? node time <;> simp [jumped]
      | mode m t =>
          simp only [call, relocate, relocate?, refreshFloor]
          cases found : s.activeAt? m with
          | none => exact .inl rfl
          | some active =>
              obtain ⟨held, _⟩ := activeAt?_eq_some_iff.mp found
              cases jumped : active.jump? t node time with
              | none =>
                  exact .inr (.inl ⟨active, _, held, .refreshFloor, by simp [jumped]⟩)
              | some landed =>
                  exact .inr (.inl ⟨active, landed, held, .jump jumped, by simp [jumped]⟩)
  | switchMode preset mode time =>
      simp only [call, switchMode?]
      cases started : ActiveMode.start? preset mode time with
      | none => exact .inl rfl
      | some m => exact .inr (.inr ⟨preset, mode, time, m, rfl, started, rfl⟩)

@[simp]
theorem globalOutline_call (s : Schedule) (c : Call) :
    (s.call c).globalOutline = s.globalOutline := by
  unfold globalOutline
  rcases globals_call s c with same | ⟨i, g, moved, found, step, set_eq⟩
  · rw [same]
  · rw [set_eq, map_set_eq_map found step.outline]

/-- The active mode is one of the preset at the start or of a preset that some
call has looked at. -/
theorem runsOver_callAll {s : Schedule} {preset : Preset} {calls : List Call}
    (first : ∀ m, s.mode = some m → ∃ mode, m.RunsOver preset mode) {m : ActiveMode}
    (held : (s.callAll calls).mode = some m) :
    ∃ used mode, (used = preset ∨ ∃ index time, Call.switchMode used index time ∈ calls) ∧
      m.RunsOver used mode := by
  induction calls using List.reverseRecOn generalizing m with
  | nil =>
      obtain ⟨mode, runs⟩ := first m held
      exact ⟨preset, mode, .inl rfl, runs⟩
  | append_singleton calls c ih =>
      rw [callAll_append, callAll_cons, callAll_nil] at held
      have earlier : ∀ before, (s.callAll calls).mode = some before → m.outline = before.outline →
          ∃ used mode, (used = preset ∨ ∃ index time,
            Call.switchMode used index time ∈ calls ++ [c]) ∧ m.RunsOver used mode := by
        intro before was outline_eq
        obtain ⟨used, mode, source, runs⟩ := ih was
        refine ⟨used, mode, ?_, runs.of_outline_eq outline_eq⟩
        rcases source with same | ⟨index, time, mem⟩
        · exact .inl same
        · exact .inr ⟨index, time, List.mem_append_left [c] mem⟩
      rcases mode_call (s.callAll calls) c with
        same | ⟨before, moved, was, step, moved_eq⟩ | ⟨used, index, time, n, c_eq, started, n_eq⟩
      · exact earlier m (same ▸ held) rfl
      · obtain rfl := Option.some.inj (moved_eq.symm.trans held)
        exact earlier before was step.outline
      · obtain rfl := Option.some.inj (n_eq.symm.trans held)
        obtain ⟨_, mode, runs⟩ := ActiveMode.runsOver_start? started
        exact ⟨used, mode, .inr ⟨index, time, by simp [c_eq]⟩, runs⟩

theorem globalOutline_callAll (s : Schedule) (calls : List Call) :
    (s.callAll calls).globalOutline = s.globalOutline := by
  induction calls generalizing s with
  | nil => rfl
  | cons c rest ih => rw [callAll_cons, ih, globalOutline_call]

theorem globalOutline_start (preset : Preset) (time : Nat) :
    (start preset time).globalOutline =
      preset.globalTracks.map fun t => (t.id, t.nodes.length) := by
  simp [start, globalOutline, GlobalCursor.outline, GlobalCursor.start, Function.comp_def]

theorem runsOver_start {preset : Preset} {time : Nat} {m : ActiveMode}
    (held : (start preset time).mode = some m) : ∃ mode, m.RunsOver preset mode := by
  obtain ⟨index, _, started⟩ := Option.bind_eq_some_iff.mp held
  exact (ActiveMode.runsOver_start? started).2

end Schedule

end Rotation
