import Mathlib.Data.List.Nodup
import Rotation.Preset.Basic

/-!
# References inside a preset

A track is looked up by its identifier and found at a place.  While no
identifier repeats among all tracks of a preset, the look-up finds the one
place whose track has the identifier, in whatever order the places are gone
through.  An action of a gateway resolves when all that it names is there and
can be reached from the place of the gateway.
-/

namespace Rotation

/-- A place whose track is active whenever that of another place is: a global
one, or one of the same mode. -/
def Place.Alongside : Place → Place → Prop
  | .global _, _ => True
  | .mode _ _, .global _ => False
  | .mode m _, .mode n _ => m = n

namespace Preset

/-- All tracks of a preset. -/
def tracks (p : Preset) : List Track :=
  p.globalTracks ++ p.modes.flatMap Mode.tracks

/-- No two places have tracks of one identifier. -/
def HasDistinctTracks (p : Preset) : Prop :=
  ∀ ⦃first second : Place⦄ ⦃a b : Track⦄, p.track? first = some a → p.track? second = some b →
    a.id = b.id → first = second

/-- No two positions have modes of one identifier. -/
def HasDistinctModes (p : Preset) : Prop :=
  ∀ ⦃m n : Nat⦄ ⦃a b : Mode⦄, p.modes[m]? = some a → p.modes[n]? = some b → a.id = b.id → m = n

theorem track?_mode_eq_some_iff {p : Preset} {m t : Nat} {track : Track} :
    p.track? (.mode m t) = some track ↔
      ∃ mode, p.modes[m]? = some mode ∧ mode.tracks[t]? = some track :=
  Option.bind_eq_some_iff

private theorem mode_eq_of_common {p : Preset} {m n t u : Nat} {a b : Track}
    (pairwise : p.modes.Pairwise
      (Function.onFun List.Disjoint fun mode => mode.tracks.map Track.id))
    (first : p.track? (.mode m t) = some a) (second : p.track? (.mode n u) = some b)
    (id_eq : a.id = b.id) : m = n := by
  obtain ⟨mode, mode_found, a_found⟩ := track?_mode_eq_some_iff.mp first
  obtain ⟨other, other_found, b_found⟩ := track?_mode_eq_some_iff.mp second
  obtain ⟨m_lt, rfl⟩ := List.getElem?_eq_some_iff.mp mode_found
  obtain ⟨n_lt, rfl⟩ := List.getElem?_eq_some_iff.mp other_found
  have a_mem : a.id ∈ p.modes[m].tracks.map Track.id :=
    List.mem_map_of_mem (List.mem_of_getElem? a_found)
  have b_mem : a.id ∈ p.modes[n].tracks.map Track.id :=
    id_eq ▸ List.mem_map_of_mem (List.mem_of_getElem? b_found)
  rw [List.pairwise_iff_getElem] at pairwise
  rcases Nat.lt_trichotomy m n with less | same | greater
  · exact (pairwise m n m_lt n_lt less a_mem b_mem).elim
  · exact same
  · exact (pairwise n m n_lt m_lt greater b_mem a_mem).elim

/-- Items of one name stand at one position if no name repeats. -/
theorem index_eq_of_nodup_map {α : Type} {name : α → String} {l : List α} {i j : Nat} {a b : α}
    (nodup : (l.map name).Nodup) (first : l[i]? = some a) (second : l[j]? = some b)
    (name_eq : name a = name b) : i = j := by
  have i_lt : i < (l.map name).length := by
    simpa using (List.getElem?_eq_some_iff.mp first).1
  apply (List.getElem?_inj i_lt nodup).mp
  rw [List.getElem?_map, List.getElem?_map, first, second, Option.map_some, Option.map_some,
    name_eq]

/-- Identifiers that do not repeat in the list of all tracks belong to one
place each. -/
theorem hasDistinctTracks_of_nodup {p : Preset} (nodup : (p.tracks.map Track.id).Nodup) :
    p.HasDistinctTracks := by
  rw [tracks, List.map_append, List.nodup_append', List.map_flatMap, List.nodup_flatMap] at nodup
  obtain ⟨globals_nodup, ⟨mode_nodup, modes_disjoint⟩, apart⟩ := nodup
  have mem_modes : ∀ {m t : Nat} {x : Track}, p.track? (.mode m t) = some x →
      x.id ∈ p.modes.flatMap fun mode => mode.tracks.map Track.id := by
    intro m t x found
    obtain ⟨mode, mode_found, x_found⟩ := track?_mode_eq_some_iff.mp found
    exact List.mem_flatMap.mpr ⟨mode, List.mem_of_getElem? mode_found,
      List.mem_map_of_mem (List.mem_of_getElem? x_found)⟩
  intro first second a b a_found b_found id_eq
  cases first with
  | global i =>
      have a_mem : a.id ∈ p.globalTracks.map Track.id :=
        List.mem_map_of_mem (List.mem_of_getElem? a_found)
      cases second with
      | global j => rw [index_eq_of_nodup_map globals_nodup a_found b_found id_eq]
      | mode n u => exact (apart a_mem (id_eq ▸ mem_modes b_found)).elim
  | mode m t =>
      cases second with
      | global j =>
          have b_mem : b.id ∈ p.globalTracks.map Track.id :=
            List.mem_map_of_mem (List.mem_of_getElem? b_found)
          exact (apart b_mem (id_eq ▸ mem_modes a_found)).elim
      | mode n u =>
          obtain rfl := mode_eq_of_common modes_disjoint a_found b_found id_eq
          obtain ⟨mode, mode_found, a_at⟩ := track?_mode_eq_some_iff.mp a_found
          obtain ⟨other, other_found, b_at⟩ := track?_mode_eq_some_iff.mp b_found
          obtain rfl := Option.some.inj (mode_found.symm.trans other_found)
          have own_nodup := mode_nodup mode (List.mem_of_getElem? mode_found)
          rw [index_eq_of_nodup_map own_nodup a_at b_at id_eq]

/-- What is found by its name has it. -/
theorem findIdx?_eq_some {α : Type} {name : α → String} {l : List α} {id : String} {i : Nat}
    (found : l.findIdx? (fun a => name a == id) = some i) :
    ∃ a, l[i]? = some a ∧ name a = id := by
  obtain ⟨i_lt, name_eq, _⟩ := List.findIdx?_eq_some_iff_getElem.mp found
  exact ⟨l[i], List.getElem?_eq_getElem i_lt, by simpa using name_eq⟩

/-- Something is found by the name of what is there. -/
theorem findIdx?_ne_none {α : Type} {name : α → String} {l : List α} {a : α} (mem : a ∈ l) :
    l.findIdx? (fun b => name b == name a) ≠ none := by
  intro missing
  have differs := List.findIdx?_eq_none_iff.mp missing a mem
  simp at differs

/-- What is found among modes is a track of one of them. -/
theorem locateInModes_eq_some {id : String} {modes : List Mode} {m : Nat} {place : Place}
    (found : locateInModes id modes m = some place) :
    ∃ i mode t track, place = .mode (m + i) t ∧ modes[i]? = some mode ∧
      mode.tracks[t]? = some track ∧ track.id = id := by
  induction modes generalizing m with
  | nil => contradiction
  | cons mode rest ih =>
      unfold locateInModes at found
      split at found
      · rename_i t inside
        cases found
        obtain ⟨track, at_t, id_eq⟩ := findIdx?_eq_some inside
        exact ⟨0, mode, t, track, rfl, rfl, at_t, id_eq⟩
      · obtain ⟨i, other, t, track, rfl, other_found, at_t, id_eq⟩ := ih found
        refine ⟨i + 1, other, t, track, ?_, other_found, at_t, id_eq⟩
        rw [Nat.add_assoc, Nat.add_comm 1 i]

/-- Nothing is found among modes only if no track has the identifier. -/
theorem locateInModes_ne_none {id : String} {modes : List Mode} {m : Nat} {mode : Mode}
    {track : Track} (mode_mem : mode ∈ modes) (track_mem : track ∈ mode.tracks)
    (id_eq : track.id = id) : locateInModes id modes m ≠ none := by
  induction modes generalizing m with
  | nil => contradiction
  | cons first rest ih =>
      unfold locateInModes
      split
      · simp
      · rename_i missing
        rcases List.mem_cons.mp mode_mem with rfl | later
        · exact absurd (id_eq ▸ missing) (findIdx?_ne_none track_mem)
        · exact ih later

/-- What is found has the identifier that was looked up. -/
theorem track?_of_locate? {p : Preset} {id : String} {place : Place}
    (found : p.locate? id = some place) : ∃ track, p.track? place = some track ∧ track.id = id := by
  unfold locate? at found
  split at found
  · rename_i i global
    cases found
    exact findIdx?_eq_some global
  · obtain ⟨i, mode, t, track, rfl, mode_found, at_t, id_eq⟩ := locateInModes_eq_some found
    exact ⟨track, track?_mode_eq_some_iff.mpr ⟨mode, by simpa using mode_found, at_t⟩, id_eq⟩

/-- A track that is there is found somewhere. -/
theorem locate?_ne_none {p : Preset} {place : Place} {track : Track}
    (there : p.track? place = some track) : p.locate? track.id ≠ none := by
  unfold locate?
  split
  · simp
  · rename_i missing
    cases place with
    | global i => exact absurd missing (findIdx?_ne_none (List.mem_of_getElem? there))
    | mode m t =>
        obtain ⟨mode, mode_found, at_t⟩ := track?_mode_eq_some_iff.mp there
        have mode_mem := List.mem_of_getElem? mode_found
        exact locateInModes_ne_none mode_mem (List.mem_of_getElem? at_t) rfl

/-- The look-up of an identifier finds the place whose track has it. -/
theorem locate?_eq_some_iff {p : Preset} (distinct : p.HasDistinctTracks) {id : String}
    {place : Place} :
    p.locate? id = some place ↔ ∃ track, p.track? place = some track ∧ track.id = id := by
  constructor
  · exact track?_of_locate?
  · rintro ⟨track, there, rfl⟩
    obtain ⟨found, locate_eq⟩ := Option.ne_none_iff_exists'.mp (locate?_ne_none there)
    obtain ⟨other, other_there, id_eq⟩ := track?_of_locate? locate_eq
    rw [locate_eq, distinct other_there there id_eq]

/-- The look-up of an identifier finds the first mode that has it. -/
theorem modeIndex?_eq_some {p : Preset} {id : String} {m : Nat}
    (found : p.modeIndex? id = some m) : ∃ mode, p.modes[m]? = some mode ∧ mode.id = id :=
  findIdx?_eq_some found

/-- The look-up of an identifier finds the position whose mode has it. -/
theorem modeIndex?_eq_some_iff {p : Preset} (distinct : p.HasDistinctModes) {id : String}
    {m : Nat} :
    p.modeIndex? id = some m ↔ ∃ mode, p.modes[m]? = some mode ∧ mode.id = id := by
  constructor
  · exact modeIndex?_eq_some
  · rintro ⟨mode, there, rfl⟩
    have known : p.modeIndex? mode.id ≠ none := findIdx?_ne_none (List.mem_of_getElem? there)
    obtain ⟨n, found⟩ := Option.ne_none_iff_exists'.mp known
    obtain ⟨other, other_there, id_eq⟩ := modeIndex?_eq_some found
    rw [found, distinct other_there there id_eq]

/-- The look-up of an identifier finds a node of the track that has it. -/
theorem exists_of_position? {track : Track} {id : String} {i : Nat}
    (found : track.position? id = some i) : ∃ n, track.nodes[i]? = some n ∧ n.id = id :=
  findIdx?_eq_some found

/-- The look-up of an identifier finds the position whose node has it. -/
theorem position?_eq_some_iff {track : Track} (distinct : (track.nodes.map Node.id).Nodup)
    {id : String} {i : Nat} :
    track.position? id = some i ↔ ∃ n, track.nodes[i]? = some n ∧ n.id = id := by
  constructor
  · exact exists_of_position?
  · rintro ⟨n, at_i, rfl⟩
    have known : track.position? n.id ≠ none := findIdx?_ne_none (List.mem_of_getElem? at_i)
    obtain ⟨j, found⟩ := Option.ne_none_iff_exists'.mp known
    obtain ⟨other, at_j, id_eq⟩ := exists_of_position? found
    rw [found, index_eq_of_nodup_map distinct at_j at_i id_eq]

/-! ## Actions that resolve -/

/-- There is a track at the place, and it has the node, if one is named. -/
def HasLanding (p : Preset) (place : Place) (node : Option String) : Prop :=
  ∃ track, p.track? place = some track ∧ ∀ id, node = some id → track.position? id ≠ none

/-- What the action of a gateway at a place names is there and can be
reached. -/
def Resolves (p : Preset) (place : Place) : Action → Prop
  | .finish => True
  | .switchMode mode track node =>
      ∃ m, p.modeIndex? mode = some m ∧
        ∀ id, track = some id →
          ∃ t, p.locate? id = some (.mode m t) ∧ p.HasLanding (.mode m t) node
  | .jumpNode node => p.HasLanding place (some node)
  | .jumpTrack track node =>
      ∃ target, p.locate? track = some target ∧ target.Alongside place ∧ p.HasLanding target node
  | .castSkill _ => True

end Preset

end Rotation
