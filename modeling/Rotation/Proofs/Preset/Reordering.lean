import Mathlib.Data.List.Forall2
import Mathlib.Data.Option.Basic
import Mathlib.Logic.Equiv.Basic
import Rotation.Proofs.Preset.References

/-!
# Presets declared in another order

The global tracks of a preset, the tracks of its modes and the modes themselves
can be declared in any order.  The order decides at which places the tracks are;
a renaming of places carries each of them to where the same track is in the
other preset.  Whatever is looked up by an identifier is found at places that
correspond.
-/

namespace Rotation

/-! ## Rearranged lists -/

/-- Related optional values are both absent, or both there. -/
theorem cases_of_rel {α β : Type} {R : α → β → Prop} {x : Option α} {y : Option β}
    (related : Option.Rel R x y) :
    x = none ∧ y = none ∨ ∃ a b, x = some a ∧ y = some b ∧ R a b := by
  cases related with
  | none => exact .inl ⟨rfl, rfl⟩
  | some holds => exact .inr ⟨_, _, rfl, rfl, holds⟩

/-- Each item of a list stands in another one where a permutation of positions
takes it. -/
def Rearranges {α : Type} (σ : Equiv.Perm Nat) (l moved : List α) : Prop :=
  ∀ i, moved[σ i]? = l[i]?

/-- The permutation that leaves the first position alone and permutes those
after it. -/
def Rearranges.shift (σ : Equiv.Perm Nat) : Equiv.Perm Nat where
  toFun
    | 0 => 0
    | i + 1 => σ i + 1
  invFun
    | 0 => 0
    | i + 1 => σ.symm i + 1
  left_inv := by
    rintro (_ | i)
    · rfl
    · simp
  right_inv := by
    rintro (_ | i)
    · rfl
    · simp

/-- A permuted list is a rearranged one. -/
theorem exists_rearranges_of_perm {α : Type} {l moved : List α} (perm : l.Perm moved) :
    ∃ σ, Rearranges σ l moved := by
  induction perm with
  | nil => exact ⟨Equiv.refl Nat, fun _ => rfl⟩
  | cons a _ ih =>
      obtain ⟨σ, rearranges⟩ := ih
      refine ⟨Rearranges.shift σ, ?_⟩
      rintro (_ | i)
      · rfl
      · exact rearranges i
  | swap a b l =>
      refine ⟨Equiv.swap 0 1, ?_⟩
      rintro (_ | _ | i)
      · rfl
      · rfl
      · rw [Equiv.swap_apply_of_ne_of_ne (by omega) (by omega)]
        rfl
  | trans _ _ first second =>
      obtain ⟨σ, first⟩ := first
      obtain ⟨τ, second⟩ := second
      refine ⟨σ.trans τ, fun i => ?_⟩
      rw [Equiv.trans_apply, second, first]

namespace Rearranges

variable {α β : Type} {σ : Equiv.Perm Nat} {l moved : List α}

theorem lt_length_iff (rearranges : Rearranges σ l moved) (i : Nat) :
    σ i < moved.length ↔ i < l.length := by
  rw [← Nat.not_le, ← Nat.not_le, ← List.getElem?_eq_none_iff, ← List.getElem?_eq_none_iff,
    rearranges i]

theorem mem_iff (rearranges : Rearranges σ l moved) {a : α} : a ∈ moved ↔ a ∈ l := by
  rw [List.mem_iff_getElem?, List.mem_iff_getElem?]
  exact (σ.exists_congr fun i => by rw [rearranges i]).symm

theorem map (rearranges : Rearranges σ l moved) (f : α → β) :
    Rearranges σ (l.map f) (moved.map f) := by
  intro i
  rw [List.getElem?_map, List.getElem?_map, rearranges i]

theorem modify (rearranges : Rearranges σ l moved) (i : Nat) (f : α → α) :
    Rearranges σ (l.modify i f) (moved.modify (σ i) f) := by
  intro j
  simp only [List.getElem?_modify, rearranges j, σ.injective.eq_iff]

theorem set (rearranges : Rearranges σ l moved) (i : Nat) (a : α) :
    Rearranges σ (l.set i a) (moved.set (σ i) a) := by
  intro j
  simp only [List.getElem?_set, rearranges j, σ.injective.eq_iff, rearranges.lt_length_iff]

end Rearranges

/-- Items of related lists at one position are related. -/
theorem rel_getElem?_of_forall₂ {α β : Type} {R : α → β → Prop} {l : List α} {moved : List β}
    (related : List.Forall₂ R l moved) (i : Nat) : Option.Rel R l[i]? moved[i]? := by
  induction related generalizing i with
  | nil => exact .none
  | cons holds _ ih =>
      cases i with
      | zero => exact .some holds
      | succ i => exact ih i

/-! ## Declarations in another order -/

/-- A mode whose tracks are declared in another order. -/
structure Mode.Reorders (m reordered : Mode) : Prop where
  id_eq : reordered.id = m.id
  tracks : m.tracks.Perm reordered.tracks

/-- A preset whose global tracks, modes, and tracks of modes are declared in
another order, and that starts in the same mode. -/
structure Preset.Reorders (p q : Preset) : Prop where
  id_eq : q.id = p.id
  name_eq : q.name = p.name
  globalTracks : p.globalTracks.Perm q.globalTracks
  modes : ∃ modes, List.Forall₂ Mode.Reorders p.modes modes ∧ modes.Perm q.modes
  entry : Option.Rel Mode.Reorders (p.entryMode.bind fun m => p.modes[m]?)
    (q.entryMode.bind fun m => q.modes[m]?)

/-- A mode whose tracks are declared in the opposite order. -/
def Mode.reversed (m : Mode) : Mode :=
  { m with tracks := m.tracks.reverse }

/-- A preset with all declarations in the opposite order. -/
def Preset.reversed (p : Preset) : Preset :=
  { p with
    entryMode := (p.entryMode.filter fun m => m < p.modes.length).map fun m =>
      p.modes.length - 1 - m
    globalTracks := p.globalTracks.reverse
    modes := (p.modes.map Mode.reversed).reverse }

theorem Mode.reorders_reversed (m : Mode) : m.Reorders m.reversed :=
  ⟨rfl, (List.reverse_perm m.tracks).symm⟩

theorem Preset.reorders_reversed (p : Preset) : p.Reorders p.reversed where
  id_eq := rfl
  name_eq := rfl
  globalTracks := (List.reverse_perm _).symm
  modes := by
    refine ⟨p.modes.map Mode.reversed, ?_, (List.reverse_perm _).symm⟩
    exact List.forall₂_map_right_iff.mpr (List.forall₂_same.mpr fun m _ => m.reorders_reversed)
  entry := by
    cases entered : p.entryMode with
    | none => simp [reversed, entered]
    | some m =>
        by_cases inside : m < p.modes.length
        · have opposite : p.modes.length - 1 - (p.modes.length - 1 - m) = m := by omega
          have found : (p.modes.map Mode.reversed).reverse[p.modes.length - 1 - m]? =
              some p.modes[m].reversed := by
            rw [List.getElem?_reverse (by rw [List.length_map]; omega), List.length_map, opposite,
              List.getElem?_map, List.getElem?_eq_getElem inside, Option.map_some]
          simp only [reversed, entered, Option.filter_some, inside, decide_true, if_true,
            Option.map_some, Option.bind_some, found, List.getElem?_eq_getElem inside]
          exact .some (Mode.reorders_reversed _)
        · simp only [reversed, entered, Option.filter_some, inside, decide_false,
            Bool.false_eq_true, if_false, Option.map_none, Option.bind_none, Option.bind_some,
            List.getElem?_eq_none (Nat.le_of_not_lt inside)]
          exact .none

/-! ## Renamings of places -/

/-- Where the tracks and modes at each position are after a change of order. -/
structure Renaming where
  global : Equiv.Perm Nat
  mode : Equiv.Perm Nat
  track : Nat → Equiv.Perm Nat

namespace Renaming

/-- The place to which a renaming takes another. -/
def place (ρ : Renaming) : Place → Place
  | .global i => .global (ρ.global i)
  | .mode m t => .mode (ρ.mode m) (ρ.track m t)

variable {ρ : Renaming}

theorem place_inj {first second : Place} : ρ.place first = ρ.place second ↔ first = second := by
  constructor
  · intro same
    cases first <;> cases second
    all_goals simp only [place, Place.global.injEq, Place.mode.injEq, ρ.global.injective.eq_iff,
      ρ.mode.injective.eq_iff, reduceCtorEq] at same
    · rw [same]
    · obtain ⟨rfl, same⟩ := same
      rw [(ρ.track _).injective same]
  · exact congrArg ρ.place

theorem place_surjective (ρ : Renaming) (place : Place) : ∃ source, ρ.place source = place := by
  cases place with
  | global i => exact ⟨.global (ρ.global.symm i), by simp [Renaming.place]⟩
  | mode m t =>
      exact ⟨.mode (ρ.mode.symm m) ((ρ.track (ρ.mode.symm m)).symm t), by simp [Renaming.place]⟩

end Renaming

/-- The modes have one identifier, and their tracks correspond. -/
structure Mode.Rearranged (σ : Equiv.Perm Nat) (m moved : Mode) : Prop where
  id_eq : moved.id = m.id
  tracks : Rearranges σ m.tracks moved.tracks

/-- A renaming carries the tracks and modes of one preset to those of another.
All of them can be told from each other by their identifiers. -/
structure Renaming.Carries (ρ : Renaming) (p q : Preset) : Prop where
  id_eq : q.id = p.id
  globalTracks : Rearranges ρ.global p.globalTracks q.globalTracks
  modes : ∀ m, Option.Rel (Mode.Rearranged (ρ.track m)) p.modes[m]? q.modes[ρ.mode m]?
  distinctTracks : p.HasDistinctTracks
  distinctModes : p.HasDistinctModes

/-- What is declared in another order is carried there by a renaming. -/
theorem Preset.Reorders.exists_carries {p q : Preset} (reorders : p.Reorders q)
    (distinctTracks : p.HasDistinctTracks) (distinctModes : p.HasDistinctModes) :
    ∃ ρ : Renaming, ρ.Carries p q := by
  obtain ⟨global, globalTracks⟩ := exists_rearranges_of_perm reorders.globalTracks
  obtain ⟨between, each, perm⟩ := reorders.modes
  obtain ⟨mode, moved⟩ := exists_rearranges_of_perm perm
  have tracks : ∀ m, ∃ σ, Option.Rel (Mode.Rearranged σ) p.modes[m]? q.modes[mode m]? := by
    intro m
    rw [moved m]
    rcases cases_of_rel (rel_getElem?_of_forall₂ each m) with
      ⟨missing, gone⟩ | ⟨own, reordered, own_eq, reordered_eq, id_eq, tracks_perm⟩
    · rw [missing, gone]
      exact ⟨Equiv.refl Nat, .none⟩
    · obtain ⟨σ, rearranges⟩ := exists_rearranges_of_perm tracks_perm
      rw [own_eq, reordered_eq]
      exact ⟨σ, .some ⟨id_eq, rearranges⟩⟩
  choose track modes using tracks
  exact ⟨⟨global, mode, track⟩, reorders.id_eq, globalTracks, modes, distinctTracks, distinctModes⟩

namespace Renaming.Carries

variable {ρ : Renaming} {p q : Preset}

/-- The same track is at places that correspond. -/
theorem track?_place (carries : ρ.Carries p q) (place : Place) :
    q.track? (ρ.place place) = p.track? place := by
  cases place with
  | global i => exact carries.globalTracks i
  | mode m t =>
      rw [Renaming.place, Preset.track?, Preset.track?]
      rcases cases_of_rel (carries.modes m) with
        ⟨missing, gone⟩ | ⟨own, moved, own_eq, moved_eq, rearranged⟩
      · rw [missing, gone]
        rfl
      · rw [own_eq, moved_eq]
        exact rearranged.tracks t

theorem distinctTracks_right (carries : ρ.Carries p q) : q.HasDistinctTracks := by
  intro first second a b a_there b_there id_eq
  obtain ⟨first, rfl⟩ := ρ.place_surjective first
  obtain ⟨second, rfl⟩ := ρ.place_surjective second
  rw [carries.track?_place] at a_there b_there
  rw [carries.distinctTracks a_there b_there id_eq]

/-- A mode of the other preset is where the one with its identifier has been
taken. -/
theorem mode_eq (carries : ρ.Carries p q) {m n : Nat} {own other : Mode}
    (own_found : p.modes[m]? = some own) (other_found : q.modes[n]? = some other)
    (id_eq : other.id = own.id) : n = ρ.mode m := by
  obtain ⟨source, rfl⟩ := ρ.mode.surjective n
  rcases cases_of_rel (carries.modes source) with
    ⟨_, gone⟩ | ⟨origin, moved, origin_eq, moved_eq, rearranged⟩
  · rw [gone] at other_found
    contradiction
  · obtain rfl := Option.some.inj (moved_eq.symm.trans other_found)
    rw [carries.distinctModes origin_eq own_found (rearranged.id_eq.symm.trans id_eq)]

theorem distinctModes_right (carries : ρ.Carries p q) : q.HasDistinctModes := by
  intro m n a b a_found b_found id_eq
  obtain ⟨m, rfl⟩ := ρ.mode.surjective m
  rcases cases_of_rel (carries.modes m) with
    ⟨_, gone⟩ | ⟨own, moved, own_eq, moved_eq, rearranged⟩
  · rw [gone] at a_found
    contradiction
  · obtain rfl := Option.some.inj (moved_eq.symm.trans a_found)
    exact (carries.mode_eq own_eq b_found (id_eq.symm.trans rearranged.id_eq)).symm

/-- An identifier of a track is found at places that correspond. -/
theorem locate?_eq (carries : ρ.Carries p q) (id : String) :
    q.locate? id = (p.locate? id).map ρ.place := by
  ext place
  obtain ⟨place, rfl⟩ := ρ.place_surjective place
  simp only [Option.map_eq_some_iff, place_inj, exists_eq_right,
    Preset.locate?_eq_some_iff carries.distinctTracks,
    Preset.locate?_eq_some_iff carries.distinctTracks_right, carries.track?_place]

/-- An identifier of a mode is found at positions that correspond. -/
theorem modeIndex?_eq (carries : ρ.Carries p q) (id : String) :
    q.modeIndex? id = (p.modeIndex? id).map ρ.mode := by
  ext m
  obtain ⟨m, rfl⟩ := ρ.mode.surjective m
  simp only [Option.map_eq_some_iff, ρ.mode.injective.eq_iff, exists_eq_right,
    Preset.modeIndex?_eq_some_iff carries.distinctModes,
    Preset.modeIndex?_eq_some_iff carries.distinctModes_right]
  rcases cases_of_rel (carries.modes m) with
    ⟨missing, gone⟩ | ⟨own, moved, own_eq, moved_eq, rearranged⟩
  · simp [missing, gone]
  · simp [own_eq, moved_eq, rearranged.id_eq]

end Renaming.Carries

end Rotation
