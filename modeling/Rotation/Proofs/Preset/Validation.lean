import Rotation.Preset.Validation
import Rotation.Proofs.Preset.References

/-!
# What validation promises

A draft that becomes a preset has passed every check of the validation.  The
checks are stated about names in the draft; here they are turned into facts
about the preset: no identifier of a track repeats, and every action of a
gateway resolves from the place of the gateway.
-/

namespace Rotation

namespace Draft

/-! ## Identifiers -/

/-- The identifiers of all tracks of a list of modes. -/
def trackIds (modes : List Mode) : List String :=
  modes.flatMap fun m => m.tracks.map Track.id

/-- A track without errors has an identifier that was not met before. -/
theorem checkTrackIds_clean {seen : List String} {track : Track} {path : String}
    (clean : (checkTrackIds seen track path).diagnostics.hasErrors = false) :
    track.id ∉ seen ∧ (checkTrackIds seen track path).value = track.id :: seen := by
  simp only [checkTrackIds, Diagnostics.hasErrors_append, Bool.or_eq_false_iff] at clean
  obtain ⟨⟨own_clean, _⟩, _⟩ := clean
  split at own_clean
  · simp at own_clean
  · rename_i not_blank
    split at own_clean
    · simp at own_clean
    · rename_i fresh
      exact ⟨by simpa using fresh, by simp_all [checkTrackIds]⟩

/-- Tracks without errors add distinct identifiers to those met before. -/
theorem checkTracks_clean {base : String} {seen : List String} {tracks : List Track} {i : Nat}
    (clean : (checkTracks base seen tracks i).diagnostics.hasErrors = false)
    (distinct : seen.Nodup) :
    (checkTracks base seen tracks i).value = (tracks.map Track.id).reverse ++ seen ∧
      ((tracks.map Track.id).reverse ++ seen).Nodup := by
  induction tracks generalizing seen i with
  | nil => exact ⟨rfl, distinct⟩
  | cons track rest ih =>
      simp only [checkTracks, Diagnostics.hasErrors_append, Bool.or_eq_false_iff] at clean
      obtain ⟨first_clean, rest_clean⟩ := clean
      obtain ⟨fresh, value_eq⟩ := checkTrackIds_clean first_clean
      rw [value_eq] at rest_clean
      have rest_distinct := ih rest_clean (List.nodup_cons.mpr ⟨fresh, distinct⟩)
      simpa [checkTracks, value_eq] using rest_distinct

/-- So do the tracks of modes. -/
theorem checkModes_clean {seenModes seen : List String} {modes : List Mode} {m : Nat}
    (clean : (checkModes seenModes seen modes m).hasErrors = false) (distinct : seen.Nodup) :
    ((trackIds modes).reverse ++ seen).Nodup := by
  induction modes generalizing seenModes seen m with
  | nil => exact distinct
  | cons mode rest ih =>
      simp only [checkModes, Diagnostics.hasErrors_append, Bool.or_eq_false_iff] at clean
      obtain ⟨⟨_, tracks_clean⟩, rest_clean⟩ := clean
      obtain ⟨value_eq, tracks_distinct⟩ := checkTracks_clean tracks_clean distinct
      rw [value_eq] at rest_clean
      simpa [trackIds] using ih rest_clean tracks_distinct

/-- Modes without errors have distinct identifiers that were not met before. -/
theorem nodup_of_checkModes {seenModes seen : List String} {modes : List Mode} {m : Nat}
    (clean : (checkModes seenModes seen modes m).hasErrors = false) :
    (modes.map Mode.id).Nodup ∧ ∀ id ∈ modes.map Mode.id, id ∉ seenModes := by
  induction modes generalizing seenModes seen m with
  | nil => simp
  | cons mode rest ih =>
      simp only [checkModes, Diagnostics.hasErrors_append, Bool.or_eq_false_iff] at clean
      obtain ⟨⟨⟨own_clean, _⟩, _⟩, rest_clean⟩ := clean
      obtain ⟨distinct, later_fresh⟩ := ih rest_clean
      have own_fresh : mode.id ∉ rest.map Mode.id := by
        intro repeated
        exact later_fresh mode.id repeated List.mem_cons_self
      refine ⟨List.nodup_cons.mpr ⟨own_fresh, distinct⟩, ?_⟩
      intro id mem
      rcases List.mem_cons.mp mem with rfl | later
      · split at own_clean
        · simp at own_clean
        · rename_i fresh
          simpa using fresh
      · exact fun met => later_fresh id later (List.mem_cons_of_mem _ met)

/-- A draft without errors in its identifiers repeats no identifier of a
track. -/
theorem nodup_of_checkIds {d : Draft} (clean : d.checkIds.hasErrors = false) :
    (d.globalTracks.map Track.id ++ trackIds d.modes).Nodup := by
  simp only [checkIds, Diagnostics.hasErrors_append, Bool.or_eq_false_iff] at clean
  obtain ⟨⟨_, globals_clean⟩, modes_clean⟩ := clean
  obtain ⟨value_eq, globals_distinct⟩ := checkTracks_clean globals_clean List.nodup_nil
  rw [value_eq] at modes_clean
  have distinct := checkModes_clean modes_clean globals_distinct
  rw [List.append_nil, ← List.reverse_append] at distinct
  exact List.nodup_reverse.mp distinct

/-- Nodes without errors have distinct identifiers that were not met before. -/
theorem checkNodeIds_clean {track path : String} {seen : List String} {nodes : List Node} {i : Nat}
    (clean : (checkNodeIds track path seen nodes i).hasErrors = false) :
    (nodes.map Node.id).Nodup ∧ ∀ id ∈ nodes.map Node.id, id ∉ seen := by
  induction nodes generalizing seen i with
  | nil => simp
  | cons node rest ih =>
      simp only [checkNodeIds] at clean
      split at clean
      · simp at clean
      · split at clean
        · simp at clean
        · rename_i fresh
          obtain ⟨distinct, later_fresh⟩ := ih clean
          have own_fresh : node.id ∉ rest.map Node.id := by
            intro repeated
            exact later_fresh node.id repeated List.mem_cons_self
          refine ⟨List.nodup_cons.mpr ⟨own_fresh, distinct⟩, ?_⟩
          intro id mem
          rcases List.mem_cons.mp mem with rfl | later
          · simpa using fresh
          · exact fun met => later_fresh id later (List.mem_cons_of_mem _ met)

/-- A track repeats no identifier of a node. -/
def Track.HasDistinctNodes (t : Track) : Prop :=
  (t.nodes.map Node.id).Nodup

theorem hasDistinctNodes_of_checkTracks {base : String} {seen : List String} {tracks : List Track}
    {i : Nat} (clean : (checkTracks base seen tracks i).diagnostics.hasErrors = false) :
    ∀ t ∈ tracks, t.HasDistinctNodes := by
  induction tracks generalizing seen i with
  | nil => simp
  | cons track rest ih =>
      simp only [checkTracks, checkTrackIds, Diagnostics.hasErrors_append,
        Bool.or_eq_false_iff] at clean
      obtain ⟨⟨_, own_clean⟩, rest_clean⟩ := clean
      exact List.forall_mem_cons.mpr ⟨(checkNodeIds_clean own_clean).1, ih rest_clean⟩

theorem hasDistinctNodes_of_checkModes {seenModes seen : List String} {modes : List Mode} {m : Nat}
    (clean : (checkModes seenModes seen modes m).hasErrors = false) :
    ∀ mode ∈ modes, ∀ t ∈ mode.tracks, t.HasDistinctNodes := by
  induction modes generalizing seenModes seen m with
  | nil => simp
  | cons mode rest ih =>
      simp only [checkModes, Diagnostics.hasErrors_append, Bool.or_eq_false_iff] at clean
      obtain ⟨⟨_, tracks_clean⟩, rest_clean⟩ := clean
      exact List.forall_mem_cons.mpr
        ⟨hasDistinctNodes_of_checkTracks tracks_clean, ih rest_clean⟩

/-! ## Tracks of a draft and of its preset -/

theorem gather_clean {α β : Type} {l : List β} {f : Nat → β → Finding α}
    (clean : (gather (l.mapIdx f)).diagnostics.hasErrors = false) {i : Nat} {b : β}
    (found : l[i]? = some b) : (f i b).diagnostics.hasErrors = false := by
  rw [gather, Diagnostics.hasErrors_flatMap, List.any_eq_false] at clean
  obtain ⟨i_lt, rfl⟩ := List.getElem?_eq_some_iff.mp found
  have own_clean := clean (f i l[i]) (List.mem_mapIdx.mpr ⟨i, i_lt, rfl⟩)
  simpa using own_clean

theorem getElem?_gather {α β : Type} (l : List β) (f : Nat → β → Finding α) (i : Nat) :
    (gather (l.mapIdx f)).value[i]? = l[i]?.map fun b => (f i b).value := by
  simp [gather, Function.comp_def]

/-- What all results have in common can be read off what they were made
from. -/
theorem map_gather {α β γ : Type} {f : Nat → β → Finding α} {g : α → γ} {h : β → γ}
    (same : ∀ i b, g (f i b).value = h b) (l : List β) :
    (gather (l.mapIdx f)).value.map g = l.map h := by
  apply List.ext_getElem?
  intro i
  simp only [List.getElem?_map, getElem?_gather, Option.map_map, Function.comp_def, same]

/-- The track at a place of a draft. -/
def track? (d : Draft) : Place → Option Track
  | .global i => d.globalTracks[i]?
  | .mode m t => d.modes[m]?.bind fun mode => mode.tracks[t]?

/-- The mode of a place. -/
def ownMode? (d : Draft) : Place → Option Mode
  | .global _ => none
  | .mode m _ => d.modes[m]?

/-- Where in the document the track of a place is. -/
def pathOf : Place → String
  | .global i => Pointer.pushIndex "/global_tracks" i
  | .mode m t => Pointer.pushIndex (Pointer.push (Pointer.pushIndex "/modes" m) "tracks") t

/-- What validation makes of the track at a place. -/
def compile (d : Draft) (catalogue : Catalogue) (place : Place) (t : Track) :
    Finding Rotation.Track :=
  track d catalogue (d.ownMode? place) t (pathOf place)

theorem map_id_compile (d : Draft) (catalogue : Catalogue) (own : Option Mode) (t : Track)
    (path : String) :
    (track d catalogue own t path).value.nodes.map Rotation.Node.id = t.nodes.map Node.id := by
  apply map_gather
  intro i n
  cases n <;> rfl

/-- A node that a track of a draft has is found in the track of the preset. -/
theorem position?_compile {d : Draft} {catalogue : Catalogue} {own : Option Mode} {t : Track}
    {path id : String} (has : t.hasNode id = true) :
    (track d catalogue own t path).value.position? id ≠ none := by
  have same : (track d catalogue own t path).value.position? id =
      (t.nodes.map Node.id).findIdx? fun n => n == id := by
    rw [← map_id_compile d catalogue own t path, List.findIdx?_map]
    rfl
  rw [same, ← Option.isSome_iff_ne_none, List.findIdx?_isSome, List.any_map]
  exact has

/-! ## The compiled preset -/

/-- A preset is what validation makes of a draft, and the checks of the draft
have found no error. -/
structure Compiles (d : Draft) (catalogue : Catalogue) (p : Preset) : Prop where
  ids_clean : d.checkIds.hasErrors = false
  globals_eq : p.globalTracks =
    (gather (d.globalTracks.mapIdx fun i t => d.compile catalogue (.global i) t)).value
  modes_eq : p.modes = (gather (d.modes.mapIdx fun i m => d.mode catalogue m i)).value
  clean : ∀ place t, d.track? place = some t →
    (d.compile catalogue place t).diagnostics.hasErrors = false

theorem compiles_of_validate {d : Draft} {catalogue : Catalogue} {p : Preset}
    (valid : (d.validate catalogue).preset = some p) : d.Compiles catalogue p := by
  simp only [validate] at valid
  split at valid
  · contradiction
  · rename_i no_errors
    cases valid
    simp only [Diagnostics.hasErrors_append, Bool.not_eq_true, Bool.or_eq_false_iff] at no_errors
    obtain ⟨⟨⟨ids_clean, _⟩, globals_clean⟩, modes_clean⟩ := no_errors
    constructor
    · exact ids_clean
    · rfl
    · rfl
    · intro place t there
      cases place with
      | global i => exact gather_clean globals_clean there
      | mode m j =>
          obtain ⟨own, own_found, t_found⟩ := Option.bind_eq_some_iff.mp there
          have tracks_clean := gather_clean modes_clean own_found
          have t_clean := gather_clean tracks_clean t_found
          rw [compile, ownMode?, own_found]
          exact t_clean

namespace Compiles

variable {d : Draft} {catalogue : Catalogue} {p : Preset}

/-- The preset has its tracks at the places of the draft. -/
theorem track?_eq (compiles : d.Compiles catalogue p) (place : Place) :
    p.track? place = (d.track? place).map fun t => (d.compile catalogue place t).value := by
  cases place with
  | global i => rw [Preset.track?, compiles.globals_eq, getElem?_gather, track?]
  | mode m t =>
      rw [Preset.track?, compiles.modes_eq, getElem?_gather, track?]
      cases own_found : d.modes[m]? with
      | none => rfl
      | some own => simp [mode, getElem?_gather, compile, ownMode?, own_found, pathOf]

theorem hasDistinctTracks (compiles : d.Compiles catalogue p) : p.HasDistinctTracks := by
  apply Preset.hasDistinctTracks_of_nodup
  have ids_eq : p.tracks.map Rotation.Track.id =
      d.globalTracks.map Track.id ++ trackIds d.modes := by
    rw [Preset.tracks, List.map_append, List.map_flatMap]
    congr 1
    · rw [compiles.globals_eq]
      apply map_gather
      intro i t
      rfl
    · rw [compiles.modes_eq, trackIds, List.flatMap_def, List.flatMap_def]
      congr 1
      apply map_gather
      intro i m
      apply map_gather
      intro j t
      rfl
  rw [ids_eq]
  exact nodup_of_checkIds compiles.ids_clean

/-- No track of the preset repeats an identifier of a node. -/
theorem hasDistinctNodes (compiles : d.Compiles catalogue p) {place : Place}
    {track : Rotation.Track} (there : p.track? place = some track) :
    (track.nodes.map Rotation.Node.id).Nodup := by
  have ids_clean := compiles.ids_clean
  simp only [checkIds, Diagnostics.hasErrors_append, Bool.or_eq_false_iff] at ids_clean
  obtain ⟨⟨_, globals_clean⟩, modes_clean⟩ := ids_clean
  rw [compiles.track?_eq] at there
  obtain ⟨t, t_there, rfl⟩ := Option.map_eq_some_iff.mp there
  rw [compile, map_id_compile]
  cases place with
  | global i => exact hasDistinctNodes_of_checkTracks globals_clean t (List.mem_of_getElem? t_there)
  | mode m j =>
      obtain ⟨own, own_found, t_found⟩ := Option.bind_eq_some_iff.mp t_there
      exact hasDistinctNodes_of_checkModes modes_clean own (List.mem_of_getElem? own_found) t
        (List.mem_of_getElem? t_found)

theorem locate?_eq (compiles : d.Compiles catalogue p) {place : Place} {t : Track}
    (there : d.track? place = some t) : p.locate? t.id = some place := by
  rw [Preset.locate?_eq_some_iff compiles.hasDistinctTracks, compiles.track?_eq, there]
  exact ⟨_, rfl, rfl⟩

theorem map_id_modes (compiles : d.Compiles catalogue p) :
    p.modes.map Rotation.Mode.id = d.modes.map Mode.id := by
  rw [compiles.modes_eq]
  apply map_gather
  intro i m
  rfl

theorem hasDistinctModes (compiles : d.Compiles catalogue p) : p.HasDistinctModes := by
  have ids_clean := compiles.ids_clean
  simp only [checkIds, Diagnostics.hasErrors_append, Bool.or_eq_false_iff] at ids_clean
  obtain ⟨_, modes_clean⟩ := ids_clean
  have nodup : (p.modes.map Rotation.Mode.id).Nodup :=
    compiles.map_id_modes ▸ (nodup_of_checkModes modes_clean).1
  intro m n a b a_found b_found id_eq
  exact Preset.index_eq_of_nodup_map nodup a_found b_found id_eq

/-- The mode that a name stands for in the draft is the one it stands for in
the preset. -/
theorem modeIndex?_eq_some (compiles : d.Compiles catalogue p) {id : String} {m : Mode}
    (found : (d.modes.find? fun m => m.id == id) = some m) :
    ∃ i, p.modeIndex? id = some i ∧ d.modes[i]? = some m := by
  obtain ⟨id_eq, i, i_lt, rfl, earlier⟩ := List.find?_eq_some_iff_getElem.mp found
  have index_eq : p.modeIndex? id = d.modes.findIdx? fun m => m.id == id := by
    calc p.modeIndex? id = (p.modes.map Rotation.Mode.id).findIdx? (· == id) := by
          rw [List.findIdx?_map]
          rfl
      _ = (d.modes.map Mode.id).findIdx? (· == id) := by rw [compiles.map_id_modes]
      _ = d.modes.findIdx? fun m => m.id == id := by
          rw [List.findIdx?_map]
          rfl
  refine ⟨i, ?_, List.getElem?_eq_getElem i_lt⟩
  rw [index_eq, List.findIdx?_eq_some_iff_getElem]
  exact ⟨i_lt, id_eq, fun j before => by simpa using earlier j before⟩

/-! ## References -/

theorem hasLanding (compiles : d.Compiles catalogue p) {place : Place} {t : Track}
    {node : Option String} (there : d.track? place = some t)
    (has : ∀ id, node = some id → t.hasNode id = true) : p.HasLanding place node := by
  refine ⟨(d.compile catalogue place t).value, ?_, fun id named => position?_compile (has id named)⟩
  rw [compiles.track?_eq, there, Option.map_some]

end Compiles

theorem hasNode_of_nodeOf {t : Track} {id path : String}
    (clean : (nodeOf t id path).hasErrors = false) : t.hasNode id = true := by
  unfold nodeOf at clean
  split at clean
  · assumption
  · simp at clean

/-- A switch without errors enters a track of its mode. -/
theorem switchEntry_clean {target : Mode} {node : Option String} {id path : String}
    (clean : (switchEntry target (some id) node path).hasErrors = false) :
    ∃ (i : Nat) (t : Track), target.tracks[i]? = some t ∧ t.id = id ∧
      ∀ n, node = some n → t.hasNode n = true := by
  simp only [switchEntry] at clean
  split at clean
  · simp at clean
  · rename_i t found
    obtain ⟨i, at_index⟩ := List.getElem?_of_mem (List.mem_of_find?_eq_some found)
    refine ⟨i, t, at_index, by simpa using List.find?_some found, ?_⟩
    rintro n rfl
    exact hasNode_of_nodeOf clean

/-- A track that a jump can reach is active whenever the gateway is. -/
theorem reachable_eq_some {d : Draft} {place : Place} {id : String} {t : Track}
    (reached : reachable d (d.ownMode? place) id = some t) :
    ∃ target, d.track? target = some t ∧ target.Alongside place ∧ t.id = id := by
  rcases Option.or_eq_some_iff.mp reached with global | ⟨_, own⟩
  · obtain ⟨i, at_index⟩ := List.getElem?_of_mem (List.mem_of_find?_eq_some global)
    exact ⟨.global i, at_index, trivial, by simpa using List.find?_some global⟩
  · obtain ⟨mode, own_mode, found⟩ := Option.bind_eq_some_iff.mp own
    obtain ⟨u, at_index⟩ := List.getElem?_of_mem (List.mem_of_find?_eq_some found)
    cases place with
    | global i => contradiction
    | mode m i =>
        refine ⟨.mode m u, ?_, rfl, by simpa using List.find?_some found⟩
        exact Option.bind_eq_some_iff.mpr ⟨mode, own_mode, at_index⟩

/-- An action without errors resolves in the preset. -/
theorem Compiles.resolves {d : Draft} {catalogue : Catalogue} {p : Preset}
    (compiles : d.Compiles catalogue p) {place : Place} {t : Track} {g : Gateway} {path : String}
    (there : d.track? place = some t)
    (clean : (action d catalogue (d.ownMode? place) t g path).hasErrors = false) :
    p.Resolves place g.action := by
  unfold action at clean
  cases action_eq : g.action with
  | finish => trivial
  | castSkill skill => trivial
  | jumpNode node =>
      simp only [action_eq, jumpNode, Diagnostics.hasErrors_append, Bool.or_eq_false_iff] at clean
      apply compiles.hasLanding there
      rintro id ⟨⟩
      exact hasNode_of_nodeOf clean.1
  | jumpTrack track node =>
      simp only [action_eq, jumpTrack] at clean
      split at clean
      · rename_i found reached
        obtain ⟨target, target_there, alongside, rfl⟩ := reachable_eq_some reached
        refine ⟨target, compiles.locate?_eq target_there, alongside, ?_⟩
        apply compiles.hasLanding target_there
        rintro id rfl
        exact hasNode_of_nodeOf clean
      · split at clean <;> simp at clean
  | switchMode mode track node =>
      simp only [action_eq, switchMode, Diagnostics.hasErrors_append, Bool.or_eq_false_iff] at clean
      obtain ⟨target_clean, _⟩ := clean
      split at target_clean
      · simp at target_clean
      · rename_i target found
        obtain ⟨m, index_eq, at_index⟩ := compiles.modeIndex?_eq_some found
        refine ⟨m, index_eq, ?_⟩
        rintro id rfl
        obtain ⟨i, entered, entered_at, rfl, has⟩ := switchEntry_clean target_clean
        have entered_there : d.track? (.mode m i) = some entered :=
          Option.bind_eq_some_iff.mpr ⟨target, at_index, entered_at⟩
        exact ⟨i, compiles.locate?_eq entered_there, compiles.hasLanding entered_there has⟩

/-- Every node of a validated preset has been drafted at its place, and there
was no error in it. -/
theorem Compiles.node_of_getElem? {d : Draft} {catalogue : Catalogue} {p : Preset}
    (compiles : d.Compiles catalogue p) {place : Place} {track : Rotation.Track} {i : Nat}
    {n : Rotation.Node} (there : p.track? place = some track) (found : track.nodes[i]? = some n) :
    ∃ (t : Track) (drafted : Node) (path : String), d.track? place = some t ∧
      t.nodes[i]? = some drafted ∧
      (node d catalogue (d.ownMode? place) t path drafted i).diagnostics.hasErrors = false ∧
      n = (node d catalogue (d.ownMode? place) t path drafted i).value := by
  rw [compiles.track?_eq] at there
  obtain ⟨t, t_there, rfl⟩ := Option.map_eq_some_iff.mp there
  rw [compile, Draft.track, getElem?_gather] at found
  obtain ⟨drafted, drafted_at, rfl⟩ := Option.map_eq_some_iff.mp found
  have clean := gather_clean (compiles.clean place t t_there) drafted_at
  exact ⟨t, drafted, _, t_there, drafted_at, clean, rfl⟩

theorem Compiles.node_of_mem {d : Draft} {catalogue : Catalogue} {p : Preset}
    (compiles : d.Compiles catalogue p) {place : Place} {track : Rotation.Track}
    {n : Rotation.Node} (there : p.track? place = some track) (mem : n ∈ track.nodes) :
    ∃ (t : Track) (drafted : Node) (path : String) (i : Nat), d.track? place = some t ∧
      t.nodes[i]? = some drafted ∧
      (node d catalogue (d.ownMode? place) t path drafted i).diagnostics.hasErrors = false ∧
      n = (node d catalogue (d.ownMode? place) t path drafted i).value := by
  obtain ⟨i, found⟩ := List.getElem?_of_mem mem
  obtain ⟨t, drafted, path, drafted_there⟩ := compiles.node_of_getElem? there found
  exact ⟨t, drafted, path, i, drafted_there⟩

/-- Every gateway of a validated preset resolves from its place. -/
theorem Compiles.resolves_of_mem {d : Draft} {catalogue : Catalogue} {p : Preset}
    (compiles : d.Compiles catalogue p) {place : Place} {track : Rotation.Track}
    {g : Rotation.Gateway} (there : p.track? place = some track)
    (mem : Rotation.Node.gateway g ∈ track.nodes) : p.Resolves place g.action := by
  obtain ⟨t, drafted, _, _, t_there, _, clean, g_eq⟩ := compiles.node_of_mem there mem
  cases drafted with
  | skill s => contradiction
  | gateway written =>
      cases g_eq
      simp only [node, gateway, Diagnostics.hasErrors_append, Bool.or_eq_false_iff] at clean
      exact compiles.resolves t_there clean.1.2

end Draft

end Rotation
