import Rotation.Proofs.Schedule.Jumping

/-!
# Switches and other actions

A gateway that ends a run or asks for a cast leaves the schedule alone, and one
that jumps inside its track leaves all other tracks alone.  A gateway that
switches to a mode lets the mode begin, at the track and node that it names, and
whatever was left of the mode before is dropped.  Global tracks do not notice,
apart from the one that the gateway stands on, which goes on to its next node.
-/

namespace Rotation

namespace Schedule

/-- A mode has begun: every track of it stands on its first node, except for a
track that is named and has nodes, which stands on the node that is asked for. -/
structure Begins (p : Preset) (moved : Schedule) (name : String) (track entry : Option String)
    (now : Nat) : Prop where
  fits : moved.Fits p
  named : moved.modeId = some name
  tracks : ∃ m mode, p.modes[m]? = some mode ∧ mode.id = name ∧ moved.modeIndex = some m ∧
    ∀ t own, mode.tracks[t]? = some own →
      (track = some own.id ∧ own.nodes ≠ [] → ∃ node, own.Requested entry node ∧
        moved.Stands (.mode m t) (some node) now) ∧
      (track ≠ some own.id ∨ own.nodes = [] → ∃ first, own.IsFirst first ∧
        moved.Stands (.mode m t) first now)

variable {s moved : Schedule} {p : Preset} {place : Place} {gateway : Gateway} {mode : Mode}
  {own : Track} {c : Candidate} {m t node now delay : Nat}

/-! ## Modes that begin -/

@[simp]
theorem cursor?_switchMode (s : Schedule) (p : Preset) (m time i : Nat) :
    (s.call (.switchMode p m time)).cursor? (.global i) = s.cursor? (.global i) := by
  simp only [call, switchMode?]
  cases ActiveMode.start? p m time <;> rfl

theorem Fits.switchMode (fits : s.Fits p) (m time : Nat) :
    (s.call (.switchMode p m time)).Fits p :=
  fits.callAll [.switchMode p m time] (by simp [Call.Within])

theorem mode_switchMode (there : p.modes[m]? = some mode) (s : Schedule) (time : Nat) :
    ∃ active, (s.call (.switchMode p m time)).mode = some active ∧ active.index = m ∧
      active.id = mode.id ∧
      active.tracks = mode.tracks.map fun track => ModeCursor.start track time := by
  simp only [call, switchMode?, ActiveMode.start?, there, Option.map_some, Option.getD_some]
  exact ⟨_, rfl, rfl, rfl, rfl⟩

/-- Every track of a mode that has been switched to stands on its first node. -/
theorem stands_switchMode (there : p.modes[m]? = some mode) (at_t : mode.tracks[t]? = some own)
    (s : Schedule) (time : Nat) :
    ∃ first, own.IsFirst first ∧
      (s.call (.switchMode p m time)).Stands (.mode m t) first time := by
  obtain ⟨active, held, rfl, _, tracks_eq⟩ := mode_switchMode there s time
  refine ⟨(ModeCursor.start own time).current?, ModeCursor.isFirst_current? rfl rfl,
    .mode (ModeCursor.start own time), ?_, rfl, rfl⟩
  rw [cursor?_mode held, tracks_eq, List.getElem?_map, at_t]
  rfl

/-- A jump into a track without nodes leaves its cursor as it is. -/
theorem cursor?_relocate_of_nil (fits : s.Fits p) (active : (Place.mode m t).ActiveIn s.modeIndex)
    (there : p.track? (.mode m t) = some own) (empty : own.nodes = []) (node time : Nat) :
    (s.relocate (.mode m t) node time).cursor? (.mode m t) = s.cursor? (.mode m t) := by
  obtain ⟨cursor, found, runs⟩ := fits.exists_cursor active there
  obtain ⟨mode, held, rfl⟩ := Option.map_eq_some_iff.mp active
  rw [cursor?_mode held] at found
  obtain ⟨c, at_t, rfl⟩ := Option.map_eq_some_iff.mp found
  have no_slots : c.order = [] := by
    rw [show c.order = ModeCursor.slots own from runs, ← List.length_eq_zero_iff,
      ModeCursor.length_slots, empty, List.length_nil]
  have at_index : s.activeAt? mode.index = some mode := activeAt?_eq_some_iff.mpr ⟨held, rfl⟩
  have stuck : s.relocate? (.mode mode.index t) node time = none := by
    simp [relocate?, at_index, ActiveMode.jump?, at_t, ModeCursor.jump?, no_slots]
  rw [relocate, stuck, Option.getD_none, cursor?_refreshFloor]

theorem Fits.modeId_eq (fits : s.Fits p) (at_index : s.modeIndex = some m)
    (there : p.modes[m]? = some mode) : s.modeId = some mode.id := by
  obtain ⟨active, held, rfl⟩ := Option.map_eq_some_iff.mp at_index
  obtain ⟨own, own_there, id_eq, _⟩ := fits.mode active held
  obtain rfl := Option.some.inj (there.symm.trans own_there)
  rw [modeId, held, Option.map_some, id_eq]

/-- A switch that names what is there begins its mode there, and leaves global
tracks alone. -/
theorem begins_of_resolves (fits : s.Fits p) (distinct : p.HasDistinctTracks) {name : String}
    {track entry : Option String} (indexed : p.modeIndex? name = some m)
    (lands : ∀ id, track = some id →
      ∃ t, p.locate? id = some (.mode m t) ∧ p.HasLanding (.mode m t) entry)
    (now : Nat) (done : Dispatched) :
    ∃ moved, s.beginMode p m name track entry now done = (.ok done, moved) ∧
      Begins p moved name track entry now ∧
      ∀ i, moved.cursor? (.global i) = s.cursor? (.global i) := by
  obtain ⟨mode, there, rfl⟩ := Preset.modeIndex?_eq_some indexed
  let switched := s.call (.switchMode p m now)
  have switched_fits : switched.Fits p := fits.switchMode m now
  have at_index : switched.modeIndex = some m := by
    obtain ⟨active, held, index_eq, _⟩ := mode_switchMode there s now
    rw [modeIndex, held, Option.map_some, index_eq]
  cases track with
  | none =>
      refine ⟨switched, rfl, ⟨switched_fits, switched_fits.modeId_eq at_index there, m, mode, there,
        rfl, at_index, fun t own at_t => ⟨?_, fun _ => stands_switchMode there at_t s now⟩⟩,
        cursor?_switchMode s p m now⟩
      rintro ⟨named, _⟩
      contradiction
  | some id =>
      obtain ⟨t, located, landing⟩ := lands id rfl
      obtain ⟨node, node_eq⟩ := landingNode_of_hasLanding landing
      obtain ⟨entered, entered_there, rfl⟩ := Preset.track?_of_locate? located
      have entered_eq := enter_of_landingNode switched mode.id now located node_eq
      have moved_fits : (switched.relocate (.mode m t) node now).Fits p :=
        switched_fits.callAll [.relocate (.mode m t) node now] (by simp [Call.Within])
      have moved_index : (switched.relocate (.mode m t) node now).modeIndex = some m :=
        (modeIndex_call (c := .relocate (.mode m t) node now) trivial).trans at_index
      refine ⟨switched.relocate (.mode m t) node now, ?_, ⟨moved_fits,
        moved_fits.modeId_eq moved_index there, m, mode, there, rfl, moved_index, ?_⟩, fun i => ?_⟩
      · simp only [switched, call] at entered_eq
        simp only [beginMode, entered_eq]
        rfl
      · intro u own at_u
        have own_there : p.track? (.mode m u) = some own :=
          Preset.track?_mode_eq_some_iff.mpr ⟨mode, there, at_u⟩
        by_cases same : u = t
        · subst same
          obtain rfl := Option.some.inj (own_there.symm.trans entered_there)
          have active : (Place.mode m u).ActiveIn switched.modeIndex := at_index
          refine ⟨?_, ?_⟩
          · rintro ⟨_, nonempty⟩
            have requested := requested_of_landingNode own_there node_eq
            exact ⟨node, requested, switched_fits.stands_relocate active own_there
              (requested.lt nonempty) now⟩
          · rintro (other | empty)
            · exact absurd rfl other
            · obtain ⟨first, is_first, stands⟩ := stands_switchMode there at_u s now
              exact ⟨first, is_first, stands.of_cursor?_eq
                (cursor?_relocate_of_nil switched_fits active own_there empty node now)⟩
        · have other : Place.mode m u ≠ .mode m t := by simpa using same
          refine ⟨?_, fun _ => ?_⟩
          · rintro ⟨named, _⟩
            exact absurd (distinct own_there entered_there (Option.some.inj named).symm) other
          · obtain ⟨first, is_first, stands⟩ := stands_switchMode there at_u s now
            exact ⟨first, is_first, stands.of_cursor?_eq (cursor?_relocate_of_ne other node now)⟩
      · rw [cursor?_relocate_of_ne (by simp), cursor?_switchMode]

/-- A switch lets its mode begin, after the gateway's own track has gone on to
its next node if it is a global one. -/
theorem dispatchSwitch_cases (fits : s.Fits p) (distinct : p.HasDistinctTracks) {name : String}
    {track entry : Option String} (resolves : p.Resolves c.place (.switchMode name track entry))
    (mem : c ∈ s.candidates) (there : p.track? c.place = some own) (now delay : Nat) :
    (∃ moved, s.dispatchSwitch p c.place name track entry now delay =
        .ok (.ok ⟨.switched s.modeId name, none⟩, moved) ∧
      Begins p moved name track entry now ∧
      (∀ i, c.place ≠ .global i → moved.cursor? (.global i) = s.cursor? (.global i)) ∧
      ∀ i, c.place = .global i →
        moved.Stands c.place (some ((c.node + 1) % own.nodes.length)) (now + delay)) ∨
    (∃ i, c.place = .global i) ∧ ¬ Unsigned.Fits 64 (now + delay) ∧
      s.dispatchSwitch p c.place name track entry now delay = .error .addOverflow := by
  obtain ⟨m, indexed, lands⟩ := resolves
  rw [dispatchSwitch, indexed]
  cases at_place : c.place with
  | mode n t =>
      obtain ⟨moved, begun, begins, globals⟩ :=
        begins_of_resolves fits distinct indexed lands now ⟨.switched s.modeId name, none⟩
      exact .inl ⟨moved, congrArg Except.ok begun, begins, fun i _ => globals i, by simp⟩
  | global i =>
      rcases Unsigned.add_cases 64 now delay with ⟨_, sum_eq⟩ | ⟨overflow, sum_eq⟩
      · obtain ⟨moved, begun, begins, globals⟩ := begins_of_resolves
          (fits.advance (.global i) (now + delay)) distinct indexed lands now
          ⟨.switched s.modeId name, none⟩
        refine .inl ⟨moved, ?_, begins, fun j other => ?_, fun j same => ?_⟩
        · simp only [sum_eq]
          exact congrArg Except.ok begun
        · rw [globals, cursor?_advance_of_ne (Ne.symm other) rfl]
        · have stands := stands_advance_global fits mem there at_place (now + delay)
          rw [at_place] at stands
          exact stands.of_cursor?_eq (globals i)
      · refine .inr ⟨⟨i, rfl⟩, overflow, ?_⟩
        simp only [sum_eq]
        rfl

/-! ## All actions but jumps to tracks -/

/-- What a gateway of a validated preset does that does not jump to a track, in
every state that a run can come to.  To end the run or to ask for a cast changes
nothing.  A jump to a node changes where the own track stands and when it is
due, and no other track.  A switch reports the mode before and the one that it
lets begin; of the global tracks it changes only the one of the gateway, which
goes on to its next node after the gateway's delay.  Nothing else happens unless
the delay is added and the sum does not fit a word. -/
theorem dispatch_keeps_other_tracks {d : Draft} {catalogue : Catalogue}
    (valid : (d.validate catalogue).preset = some p) {time : Nat}
    (reached : Reachable p time s) (mem : c ∈ s.candidates)
    (found : p.node? c = some (.gateway gateway)) (there : p.track? c.place = some own)
    (now delay : Nat) :
    (gateway.action = .finish →
      s.dispatch p c.place gateway now delay = .ok (.ok ⟨.ended, none⟩, s)) ∧
    (∀ skill, gateway.action = .castSkill skill →
      s.dispatch p c.place gateway now delay = .ok (.ok ⟨.cast skill, none⟩, s)) ∧
    (∀ id, gateway.action = .jumpNode id →
      (∃ node due moved,
        s.dispatch p c.place gateway now delay = .ok (.ok ⟨.jumped c.place node, none⟩, moved) ∧
        moved.Fits p ∧ moved.modeIndex = s.modeIndex ∧
        moved.Stands c.place (some node) due ∧
        ∀ other, other ≠ c.place → moved.cursor? other = s.cursor? other) ∨
      ¬ Unsigned.Fits 64 (now + delay) ∧
        s.dispatch p c.place gateway now delay = .error .addOverflow) ∧
    ∀ name track entry, gateway.action = .switchMode name track entry →
      (∃ moved,
        s.dispatch p c.place gateway now delay = .ok (.ok ⟨.switched s.modeId name, none⟩, moved) ∧
        Begins p moved name track entry now ∧
        (∀ i, c.place ≠ .global i → moved.cursor? (.global i) = s.cursor? (.global i)) ∧
        ∀ i, c.place = .global i →
          moved.Stands c.place (some ((c.node + 1) % own.nodes.length)) (now + delay)) ∨
      (∃ i, c.place = .global i) ∧ ¬ Unsigned.Fits 64 (now + delay) ∧
        s.dispatch p c.place gateway now delay = .error .addOverflow := by
  have compiles := Draft.compiles_of_validate valid
  have sound : p.Sound := fun _ _ _ there mem => compiles.resolves_of_mem there mem
  have fits := reached.fits sound
  obtain ⟨same, own_there, at_node⟩ := Option.bind_eq_some_iff.mp found
  obtain rfl := Option.some.inj (there.symm.trans own_there)
  have node_mem := List.mem_of_getElem? at_node
  refine ⟨fun action_eq => ?_, fun skill action_eq => ?_, fun id action_eq => ?_,
    fun name track entry action_eq => ?_⟩
  · rw [dispatch, action_eq]
  · rw [dispatch, action_eq]
  · have jumps : p.jumpTarget? c.place gateway.action = some (c.place, some id) := by
      rw [action_eq, Preset.jumpTarget?]
    have nonempty : own.nodes ≠ [] := List.ne_nil_of_mem node_mem
    obtain ⟨node, _, jumped | ⟨overflow, _, failed⟩⟩ :=
      fits.jump_cases sound mem found jumps there nonempty now delay
    · obtain ⟨due, moved, looped, _, fired, stands, ⟨_, rfl, rfl⟩ | ⟨other, _⟩⟩ := jumped
      · refine .inl ⟨node, due, _, fired, ?_, ?_, stands, ?_⟩
        · exact fits.callAll [.relocate c.place node due] (by simp [Call.Within])
        · exact modeIndex_call (c := .relocate c.place node due) trivial
        · exact fun other ne => cursor?_relocate_of_ne ne node due
      · exact absurd rfl other
    · exact .inr ⟨overflow, failed⟩
  · have resolves := sound there node_mem
    rw [action_eq] at resolves
    rw [dispatch, action_eq]
    exact dispatchSwitch_cases fits compiles.hasDistinctTracks resolves mem there now delay

end Schedule

/-- Owls wake at night, and a gate lets night fall with their hoot. -/
def Draft.dusk : Draft :=
  { id := "dusk"
    name := ""
    entryMode := some "day"
    defaultGapMs := 0
    globalTracks :=
      [⟨"gate", [bell "close" 0 (.switchMode "night" (some "owls") (some "hoot"))]⟩]
    modes :=
      [⟨"day", [⟨"larks", [bell "sing" 0 .finish]⟩]⟩,
        ⟨"night", [⟨"owls", [bell "wake" 0 .finish, bell "hoot" 1 .finish]⟩,
          ⟨"bats", [bell "fly" 0 .finish]⟩]⟩] }

theorem Draft.dusk_meets : dusk.Meets fun _ _ c gateway =>
    gateway.action = .switchMode "night" (some "owls") (some "hoot") ∧ c.place = .global 0 :=
  have checked : ∀ (p : Preset) (s : Schedule) (c : Candidate) (gateway : Rotation.Gateway),
      decide (gateway.action = .switchMode "night" (some "owls") (some "hoot") ∧
        c.place = .global 0) = true →
      gateway.action = .switchMode "night" (some "owls") (some "hoot") ∧ c.place = .global 0 :=
    fun _ _ _ _ => of_decide_eq_true
  meets_of_check (n := 0) checked (by decide +kernel)

/-- At dusk night begins with a hoot, and the gate is opened again later. -/
theorem Draft.dusk_falls : dusk.Meets fun p s c gateway => ∃ own moved,
    p.track? c.place = some own ∧
      s.dispatch p c.place gateway 0 20 = .ok (.ok ⟨.switched s.modeId "night", none⟩, moved) ∧
      Schedule.Begins p moved "night" (some "owls") (some "hoot") 0 ∧
      moved.Stands c.place (some ((c.node + 1) % own.nodes.length)) 20 := by
  obtain ⟨p, s, c, gateway, valid, reached, mem, found, action_eq, at_place⟩ := dusk_meets
  refine ⟨p, s, c, gateway, valid, reached, mem, found, ?_⟩
  obtain ⟨own, there, _⟩ := Option.bind_eq_some_iff.mp found
  obtain ⟨_, _, _, switches⟩ :=
    Schedule.dispatch_keeps_other_tracks valid reached mem found there 0 20
  rcases switches "night" _ _ action_eq with
    ⟨moved, fired, begins, _, goes_on⟩ | ⟨_, overflow, _⟩
  · exact ⟨own, moved, there, fired, begins, by simpa using goes_on 0 at_place⟩
  · exact absurd (by decide) overflow

end Rotation
