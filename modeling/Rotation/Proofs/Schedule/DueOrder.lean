import Rotation.Proofs.Preset.Validation
import Rotation.Proofs.Schedule.Run

/-!
# The order in which nodes are due

Of the nodes that may run, the one that is due first comes first; among those due
at the same time a global one does, and then the one whose track has the smaller
name.  No two tracks of a preset have one name, so there is exactly one node that
comes before all others.  It is this node that a schedule waits for, and no other
that it picks.
-/

namespace Rotation

/-! ## Before all others -/

/-- A candidate comes before another one: it is due earlier, or it is global and
the other is not, or its track has the smaller name. -/
def Candidate.Before (a b : Candidate) : Prop :=
  a.dueAt < b.dueAt ∨
    a.dueAt = b.dueAt ∧ (a.scope < b.scope ∨ a.scope = b.scope ∧ a.track < b.track)

theorem Candidate.before_iff {a b : Candidate} : a.Before b ↔ ¬ b.le a = true := by
  rw [le_iff, Before, ← String.not_le]
  grind

theorem Candidate.Before.asymm {a b : Candidate} (before : a.Before b) : ¬ b.Before a := by
  intro after
  have either := le_total a b
  rw [Bool.or_eq_true] at either
  exact either.elim (before_iff.mp after) (before_iff.mp before)

namespace Schedule

/-- A node may run: it is under the cursor of a global track, or under that of an
unfinished track of the active mode whose step is the least of all that are
pending. -/
inductive Eligible (s : Schedule) : Candidate → Prop
  | global {i : Nat} {g : GlobalCursor} (found : s.globals[i]? = some g)
      (nonempty : 0 < g.length) : Eligible s ⟨.global i, g.id, g.position, g.nextAt⟩
  | mode {m : ActiveMode} {t : Nat} {cursor : ModeCursor} {slot : Slot} (held : s.mode = some m)
      (found : m.tracks[t]? = some cursor) (under : cursor.slot? = some slot)
      (least : IsLeast m.pendingSteps slot.step) :
      Eligible s ⟨.mode m.index t, cursor.id, slot.node, cursor.nextAt⟩

/-- A node may run and comes before all others that may. -/
structure IsForemost (s : Schedule) (c : Candidate) : Prop where
  eligible : s.Eligible c
  before : ∀ other, s.Eligible other → other ≠ c → c.Before other

/-- A schedule waits for the foremost node, and picks it once it is due; the
step it has stored is the least of all that are pending. -/
structure PicksForemost (s : Schedule) (now : Nat) : Prop where
  picks_iff : (∃ c, s.pick now = some c) ↔ ∃ due, s.nextWakeup = some due ∧ due ≤ now
  pick_iff : ∀ c, s.pick now = some c ↔ s.IsForemost c ∧ c.dueAt ≤ now
  waits_iff : ∀ due, s.nextWakeup = some due ↔ ∃ c, s.IsForemost c ∧ c.dueAt = due
  floor_iff : ∀ m, s.mode = some m → ∀ x, m.floor = some x ↔ IsLeast m.pendingSteps x

/-- No node may run, as the tracks that have a cursor are all without nodes. -/
structure HasNothingLeft (s : Schedule) (p : Preset) : Prop where
  ineligible : ∀ c, ¬ s.Eligible c
  nodes : ∀ place track, p.track? place = some track → s.isActive place = true → track.nodes = []

variable {s : Schedule} {p : Preset} {c : Candidate} {now : Nat}

/-- The candidates are the nodes that may run. -/
theorem Coherent.eligible_iff (coherent : s.Coherent) : s.Eligible c ↔ c ∈ s.candidates := by
  constructor
  · intro eligible
    cases eligible with
    | global found nonempty =>
        exact mem_candidates_iff.mpr (.inl (mem_globalCandidates_iff.mpr
          ⟨_, _, found, nonempty, rfl⟩))
    | mode held found under least =>
        have on_floor := ActiveMode.lowestStep_eq_some_iff.mpr least
        rw [← (coherent.mode _ held).floor_eq] at on_floor
        exact mem_candidates_of_slot? _ _ held found under on_floor rfl
  · intro mem
    rcases mem_candidates_iff.mp mem with global | ⟨m, held, own⟩
    · obtain ⟨i, g, found, nonempty, rfl⟩ := mem_globalCandidates_iff.mp global
      exact .global found nonempty
    · obtain ⟨t, cursor, slot, found, under, on_floor, rfl⟩ := ActiveMode.mem_candidates_iff.mp own
      rw [(coherent.mode m held).floor_eq] at on_floor
      exact .mode held found under (ActiveMode.lowestStep_eq_some_iff.mp on_floor)

/-- What is picked is the first candidate, if it is due: those behind it are not
due earlier. -/
theorem pick_eq_some_iff_head? :
    s.pick now = some c ↔ s.candidates.head? = some c ∧ c.dueAt ≤ now := by
  have sorted := s.pairwise_candidates
  unfold pick
  cases split_eq : s.candidates with
  | nil => simp
  | cons first rest =>
      rw [split_eq, List.pairwise_cons] at sorted
      rw [List.find?_cons, List.head?_cons, Option.some.injEq]
      by_cases due : first.dueAt ≤ now
      · simp only [due, decide_true, Option.some.injEq]
        constructor
        · rintro rfl
          exact ⟨rfl, due⟩
        · exact And.left
      · simp only [due, decide_false]
        constructor
        · intro found
          have later := Candidate.dueAt_le_of_le (sorted.1 c (List.mem_of_find?_eq_some found))
          have found_due := List.find?_some found
          rw [decide_eq_true_eq] at found_due
          omega
        · rintro ⟨rfl, first_due⟩
          exact absurd first_due due

/-- There is only one node that comes before all others. -/
theorem IsForemost.unique {d : Candidate} (foremost : s.IsForemost c) (also : s.IsForemost d) :
    d = c := by
  by_contra ne
  exact (foremost.before d also.eligible ne).asymm (also.before c foremost.eligible (Ne.symm ne))

/-- The first candidate comes before all others, as no other one has its key. -/
theorem Fits.isForemost_of_head? (fits : s.Fits p) (distinct : p.HasDistinctTracks)
    (first : s.candidates.head? = some c) : s.IsForemost c := by
  have sorted := s.pairwise_candidates
  have mem := List.mem_of_head? first
  refine ⟨fits.coherent.eligible_iff.mpr mem, ?_⟩
  intro other eligible ne
  have other_mem := fits.coherent.eligible_iff.mp eligible
  rw [Candidate.before_iff]
  intro after
  obtain ⟨rest, split_eq⟩ := List.head?_eq_some_iff.mp first
  rw [split_eq, List.pairwise_cons] at sorted
  have before : c.le other = true := by
    rcases List.mem_cons.mp (split_eq ▸ other_mem) with same | behind
    · exact absurd same ne
    · exact sorted.1 other behind
  exact ne (fits.eq_of_le distinct other_mem mem after before)

theorem Fits.head?_eq_some_iff (fits : s.Fits p) (distinct : p.HasDistinctTracks) :
    s.candidates.head? = some c ↔ s.IsForemost c := by
  constructor
  · exact fits.isForemost_of_head? distinct
  · intro foremost
    have mem := fits.coherent.eligible_iff.mp foremost.eligible
    obtain ⟨first, head_eq⟩ : ∃ first, s.candidates.head? = some first :=
      ⟨_, List.head?_eq_some_head (List.ne_nil_of_mem mem)⟩
    rw [head_eq, (fits.isForemost_of_head? distinct head_eq).unique foremost]

/-- What a schedule waits for is the foremost node. -/
theorem Fits.nextWakeup_eq_some_iff (fits : s.Fits p) (distinct : p.HasDistinctTracks) {due : Nat} :
    s.nextWakeup = some due ↔ ∃ c, s.IsForemost c ∧ c.dueAt = due := by
  simp [nextWakeup, fits.head?_eq_some_iff distinct]

/-- A schedule that fits a preset goes by the foremost node. -/
theorem Fits.picksForemost (fits : s.Fits p) (distinct : p.HasDistinctTracks) (now : Nat) :
    s.PicksForemost now where
  picks_iff := by
    simp [pick_eq_some_iff_head?, nextWakeup]
  pick_iff c := by
    rw [pick_eq_some_iff_head?, fits.head?_eq_some_iff distinct]
  waits_iff _ := fits.nextWakeup_eq_some_iff distinct
  floor_iff m held x := by
    rw [(fits.coherent.mode m held).floor_eq, ActiveMode.lowestStep_eq_some_iff]

/-- A schedule that waits for nothing has nothing left. -/
theorem Fits.hasNothingLeft (fits : s.Fits p) (nothing : s.nextWakeup = none) :
    s.HasNothingLeft p where
  ineligible c eligible :=
    nextWakeup_eq_none_iff.mp nothing c (fits.coherent.eligible_iff.mp eligible)
  nodes place track there active := by
    obtain ⟨globals_empty, mode_empty⟩ :=
      (nextWakeup_eq_none_iff_of_coherent fits.coherent).mp nothing
    cases place with
    | global i =>
        have below : i < s.globals.length := by simpa [isActive] using active
        have found := List.getElem?_eq_getElem below
        obtain ⟨own, own_there, _, length_eq⟩ := fits.global_track found
        obtain rfl : own = track := Option.some.inj (own_there.symm.trans there)
        rw [globals_empty _ (List.mem_of_getElem? found)] at length_eq
        exact List.eq_nil_of_length_eq_zero length_eq.symm
    | mode i t =>
        obtain ⟨m, active_m, below⟩ := (Option.any_eq_true _ _).mp active
        obtain ⟨held, rfl⟩ := activeAt?_eq_some_iff.mp active_m
        have found := List.getElem?_eq_getElem (of_decide_eq_true below)
        obtain ⟨mode, runs⟩ := fits.mode m held
        obtain ⟨own, own_there, _, order_eq⟩ := runs.track found
        obtain rfl : own = track := Option.some.inj
          ((Preset.track?_mode_eq_some_iff.mpr ⟨mode, runs.1, own_there⟩).symm.trans there)
        have empty := mode_empty m held _ (List.mem_of_getElem? found)
        rw [ModeCursor.isEmpty, order_eq, List.isEmpty_iff] at empty
        cases nodes_eq : own.nodes with
        | nil => rfl
        | cons first rest =>
            have listed : (⟨0, first.step⟩ : Slot) ∈ ModeCursor.slots own :=
              ModeCursor.mem_slots_iff.mpr ⟨first, by rw [nodes_eq]; rfl, rfl⟩
            rw [empty] at listed
            contradiction

end Schedule

end Rotation
