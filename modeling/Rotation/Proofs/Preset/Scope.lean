import Rotation.Proofs.Condition.Footprint
import Rotation.Proofs.Preset.References

/-!
# What is required while a mode is active

While a mode is active the nodes of its tracks and of the global tracks can run.
Their conditions are the scope of the mode; what is required for the mode is
what the atoms of these conditions look at, and nothing else.
-/

namespace Rotation

open Rotation.Order

/-- Points that are looked at directly. -/
def Condition.point? : Condition → Option String
  | .pointShows point _ | .barChanged point _ => some point
  | _ => none

/-- A condition depends on the colour of a point. -/
def Condition.LooksAt (c : Condition) (point : String) : Prop :=
  ∃ atom ∈ c.atoms, atom.point? = some point

theorem Condition.looksAt_of_mem_barPoints {c : Condition} {point : String}
    (mem : point ∈ c.barPoints) : c.LooksAt point := by
  obtain ⟨tolerance, atom_mem⟩ := Condition.mem_barPoints_iff.mp mem
  exact ⟨_, atom_mem, rfl⟩

theorem Requirements.mem_points_addAtom_iff {r : Requirements} {atom : Condition}
    {point : String} :
    point ∈ (r.addAtom atom).points ↔ point ∈ r.points ∨ atom.point? = some point := by
  cases atom with
  | pointShows other _ | barChanged other _ =>
      rw [addAtom, addPoint, IdSet.mem_insert, or_comm, eq_comm, Condition.point?,
        Option.some_inj]
  | _ => simp [addAtom, addIndicator, addMetric, Condition.point?]

/-- The tracks at a place run while a mode is active: the global ones always,
those of a mode only while it is. -/
def Place.ActiveIn (mode : Option Nat) : Place → Prop
  | .global _ => True
  | .mode m _ => mode = some m

namespace Preset

variable {p : Preset} {catalogue : Catalogue} {mode : Option Nat}

theorem mem_tracks_of_activeIn {place : Place} {track : Track} (active : place.ActiveIn mode)
    (there : p.track? place = some track) : track ∈ p.globalTracks ++ p.modeTracks mode := by
  cases place with
  | global i => exact List.mem_append_left _ (List.mem_of_getElem? there)
  | mode m t =>
      cases active
      obtain ⟨own, own_found, at_t⟩ := track?_mode_eq_some_iff.mp there
      apply List.mem_append_right
      simpa [modeTracks, own_found] using List.mem_of_getElem? at_t

/-- The conditions of all nodes that can run while a mode is active. -/
def scope (p : Preset) (catalogue : Catalogue) (mode : Option Nat) : List Condition :=
  (p.globalTracks ++ p.modeTracks mode).flatMap fun track =>
    track.nodes.flatMap (Node.conditions catalogue)

theorem mem_scope_of_mem {track : Track} {node : Node} {c : Condition}
    (track_mem : track ∈ p.globalTracks ++ p.modeTracks mode) (node_mem : node ∈ track.nodes)
    (mem : c ∈ node.conditions catalogue) : c ∈ p.scope catalogue mode :=
  List.mem_flatMap.mpr ⟨track, track_mem, List.mem_flatMap.mpr ⟨node, node_mem, mem⟩⟩

theorem requirements_eq_foldl :
    p.requirements catalogue mode =
      (p.scope catalogue mode).foldl Requirements.add .empty := by
  simp only [requirements, scope, List.foldl_flatMap]

/-- What single atoms add to requirements, all atoms of the scope have added
to those of the mode. -/
theorem requirements_iff {P : Requirements → Prop} {R : Condition → Prop}
    (step : ∀ r atom, P (r.addAtom atom) ↔ P r ∨ R atom) :
    P (p.requirements catalogue mode) ↔
      P .empty ∨ ∃ c ∈ p.scope catalogue mode, ∃ atom ∈ c.atoms, R atom := by
  rw [requirements_eq_foldl]
  apply foldl_iff
  intro r c
  exact foldl_iff step c.atoms r

/-- The required points are those that a condition of the scope looks at. -/
theorem mem_points_iff {point : String} :
    point ∈ (p.requirements catalogue mode).points ↔
      ∃ c ∈ p.scope catalogue mode, c.LooksAt point := by
  rw [requirements_iff (P := fun r => point ∈ r.points)
    fun _ _ => Requirements.mem_points_addAtom_iff]
  simp [Requirements.empty, Condition.LooksAt]

/-- The required spots are those that the conditions of the scope require. -/
theorem mem_spots_iff {spot : Spot} :
    spot ∈ (p.requirements catalogue mode).spots catalogue ↔
      ∃ c ∈ p.scope catalogue mode, spot ∈ (Requirements.ofCondition c).spots catalogue := by
  rw [requirements_iff (P := fun r => spot ∈ r.spots catalogue)
    fun _ _ => Requirements.mem_spots_addAtom_iff]
  simp only [Requirements.mem_spots_ofCondition_iff]
  simp [Requirements.empty, Requirements.spots]

/-- Whatever is sampled to evaluate a condition of the scope is required. -/
theorem samples_subset_spots {c : Condition} (mem : c ∈ p.scope catalogue mode)
    (answer : List Spot → Spot → Observed Color) (sources : Sources) :
    c.samples catalogue answer sources ⊆ (p.requirements catalogue mode).spots catalogue := by
  intro spot sampled
  exact mem_spots_iff.mpr ⟨c, mem, Condition.samples_subset catalogue answer sources c sampled⟩

end Preset

end Rotation
