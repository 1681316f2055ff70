import Rotation.Proofs.Preset.Reordering
import Rotation.Proofs.Schedule.Run

/-!
# Schedules of presets declared in another order

Two schedules correspond under a renaming of places when each cursor of one is
the cursor at the renamed place of the other.  Whatever is done to both at
places that correspond, they still correspond afterwards.  The candidates are
the same up to their places, and those that are due at the same time are told
apart by their tracks, so the same one runs first.
-/

namespace Rotation

/-! ## Results that are alike -/

/-- Both computations come to related results or to related failures. -/
inductive Alike {ε δ α β : Type} (E : ε → δ → Prop) (R : α → β → Prop) :
    Except ε α → Except δ β → Prop
  | error {e : ε} {f : δ} (failures : E e f) : Alike E R (.error e) (.error f)
  | ok {a : α} {b : β} (results : R a b) : Alike E R (.ok a) (.ok b)

namespace Alike

variable {ε δ α β α' β' : Type} {E : ε → δ → Prop} {R : α → β → Prop} {S : α' → β' → Prop}
  {x : Except ε α} {y : Except δ β}

theorem cases (alike : Alike E R x y) :
    (∃ e f, x = .error e ∧ y = .error f ∧ E e f) ∨ ∃ a b, x = .ok a ∧ y = .ok b ∧ R a b := by
  cases alike with
  | error failures => exact .inl ⟨_, _, rfl, rfl, failures⟩
  | ok results => exact .inr ⟨_, _, rfl, rfl, results⟩

theorem bind (first : Alike E R x y) {f : α → Except ε α'} {g : β → Except δ β'}
    (next : ∀ a b, R a b → Alike E S (f a) (g b)) : Alike E S (x >>= f) (y >>= g) := by
  cases first with
  | error failures => exact .error failures
  | ok results => exact next _ _ results

/-- After the same computation it is enough to go on alike. -/
theorem bind_same (x : Except ε α) {f : α → Except ε α'} {g : α → Except ε β'}
    (next : ∀ a, Alike Eq S (f a) (g a)) : Alike Eq S (x >>= f) (x >>= g) := by
  cases x with
  | error e => exact .error rfl
  | ok a => exact next a

end Alike

/-- The candidate at the renamed place. -/
def Candidate.rename (ρ : Renaming) (c : Candidate) : Candidate :=
  { c with place := ρ.place c.place }

theorem Candidate.rename_surjective (ρ : Renaming) (c : Candidate) :
    ∃ d : Candidate, d.rename ρ = c := by
  obtain ⟨place, renamed⟩ := ρ.place_surjective c.place
  exact ⟨{ c with place }, by rw [Candidate.rename, renamed]⟩

/-! ## Modes that correspond -/

namespace ActiveMode

variable {ρ : Renaming} {m moved : ActiveMode}

/-- The cursors of one active mode are those of another at renamed places. -/
structure Corresponds (ρ : Renaming) (m moved : ActiveMode) : Prop where
  index_eq : moved.index = ρ.mode m.index
  id_eq : moved.id = m.id
  tracks : Rearranges (ρ.track m.index) m.tracks moved.tracks
  floor_eq : moved.floor = m.floor

/-- The lowest step does not depend on the order of the cursors. -/
theorem lowestStep_rearranged {σ : Equiv.Perm Nat} {tracks rearranged : List ModeCursor}
    (rearranges : Rearranges σ tracks rearranged) :
    lowestStep rearranged = lowestStep tracks := by
  ext x
  simp only [lowestStep, List.min?_eq_some_iff, List.mem_filterMap, rearranges.mem_iff]

theorem isExhausted_eq (corresponds : m.Corresponds ρ moved) :
    moved.isExhausted = m.isExhausted := by
  rw [Bool.eq_iff_iff]
  simp only [isExhausted, Bool.and_eq_true, List.any_eq_true, List.all_eq_true,
    corresponds.tracks.mem_iff]

namespace Corresponds

theorem refreshFloor_tracks (corresponds : m.Corresponds ρ moved)
    {tracks rearranged : List ModeCursor}
    (rearranges : Rearranges (ρ.track m.index) tracks rearranged) :
    (refreshFloor { m with tracks }).Corresponds ρ
      (refreshFloor { moved with tracks := rearranged }) where
  index_eq := corresponds.index_eq
  id_eq := corresponds.id_eq
  tracks := rearranges
  floor_eq := lowestStep_rearranged rearranges

theorem reset (corresponds : m.Corresponds ρ moved) (time : Nat) :
    (m.reset time).Corresponds ρ (moved.reset time) :=
  corresponds.refreshFloor_tracks (corresponds.tracks.map fun t => t.reset time)

theorem pass (corresponds : m.Corresponds ρ moved) (t time : Nat) :
    (m.pass t time).Corresponds ρ (moved.pass (ρ.track m.index t) time) :=
  corresponds.refreshFloor_tracks (corresponds.tracks.modify t fun c => c.advance time)

theorem advance (corresponds : m.Corresponds ρ moved) (t time : Nat) :
    (moved.advance (ρ.track m.index t) time).1 = (m.advance t time).1 ∧
      (m.advance t time).2.Corresponds ρ (moved.advance (ρ.track m.index t) time).2 := by
  have passed := corresponds.pass t time
  simp only [ActiveMode.advance, corresponds.tracks.lt_length_iff, isExhausted_eq passed]
  split
  · split
    · exact ⟨congrArg some corresponds.id_eq, passed.reset time⟩
    · exact ⟨rfl, passed⟩
  · exact ⟨rfl, corresponds⟩

theorem jump? (corresponds : m.Corresponds ρ moved) (t node time : Nat) :
    Option.Rel (Corresponds ρ) (m.jump? t node time)
      (moved.jump? (ρ.track m.index t) node time) := by
  unfold ActiveMode.jump?
  rw [corresponds.tracks t]
  cases m.tracks[t]? with
  | none => exact .none
  | some c =>
      simp only [Option.bind_eq_bind, Option.bind_some]
      cases c.jump? node time with
      | none => exact .none
      | some landed =>
          exact .some (corresponds.refreshFloor_tracks (corresponds.tracks.set t landed))

/-- Modes that correspond offer the same nodes at places that correspond. -/
theorem mem_candidates_iff (corresponds : m.Corresponds ρ moved) {c : Candidate} :
    c.rename ρ ∈ moved.candidates ↔ c ∈ m.candidates := by
  obtain ⟨place, track, node, due⟩ := c
  simp only [ActiveMode.mem_candidates_iff, Candidate.rename, corresponds.floor_eq,
    corresponds.index_eq]
  cases place with
  | global i => simp [Renaming.place]
  | mode k t =>
      constructor
      · rintro ⟨_, cursor, slot, found, under, on_floor, same⟩
        obtain ⟨place_eq, rfl, rfl, rfl⟩ := Candidate.mk.inj same
        obtain ⟨index_eq, rfl⟩ := Place.mode.inj place_eq
        obtain rfl := ρ.mode.injective index_eq
        exact ⟨t, cursor, slot, corresponds.tracks t ▸ found, under, on_floor, rfl⟩
      · rintro ⟨_, cursor, slot, found, under, on_floor, same⟩
        cases same
        exact ⟨_, cursor, slot, (corresponds.tracks t).trans found, under, on_floor, rfl⟩

end Corresponds

/-- Modes that correspond begin alike. -/
theorem rel_start? {p q : Preset} (carries : ρ.Carries p q) (m time : Nat) :
    Option.Rel (Corresponds ρ) (start? p m time) (start? q (ρ.mode m) time) := by
  unfold start?
  rcases cases_of_rel (carries.modes m) with
    ⟨missing, gone⟩ | ⟨own, rearranged, own_eq, rearranged_eq, id_eq, tracks⟩
  · rw [missing, gone]
    exact .none
  · rw [own_eq, rearranged_eq]
    have cursors := tracks.map fun t => ModeCursor.start t time
    exact .some ⟨rfl, id_eq, cursors, lowestStep_rearranged cursors⟩

end ActiveMode

/-! ## Schedules that correspond -/

namespace Schedule

/-- The cursors of one schedule are those of another at renamed places. -/
structure Corresponds (ρ : Renaming) (s moved : Schedule) : Prop where
  globals : Rearranges ρ.global s.globals moved.globals
  mode : Option.Rel (ActiveMode.Corresponds ρ) s.mode moved.mode

variable {ρ : Renaming} {p q : Preset} {s moved : Schedule}

namespace Corresponds

theorem modeId_eq (corresponds : s.Corresponds ρ moved) : moved.modeId = s.modeId := by
  unfold modeId
  rcases cases_of_rel corresponds.mode with ⟨none_held, none_moved⟩ | ⟨m, n, held, now_held, same⟩
  · rw [none_held, none_moved]
  · rw [held, now_held, Option.map_some, Option.map_some, same.id_eq]

theorem activeAt? (corresponds : s.Corresponds ρ moved) (m : Nat) :
    Option.Rel (ActiveMode.Corresponds ρ) (s.activeAt? m) (moved.activeAt? (ρ.mode m)) := by
  unfold Schedule.activeAt?
  rcases cases_of_rel corresponds.mode with ⟨none_held, none_moved⟩ | ⟨n, o, held, now_held, same⟩
  · rw [none_held, none_moved]
    exact .none
  · rw [held, now_held]
    simp only [Option.filter_some, same.index_eq, beq_iff_eq, ρ.mode.injective.eq_iff]
    split
    · exact .some same
    · exact .none

/-- What is active at positions that correspond. -/
theorem active_cases (corresponds : s.Corresponds ρ moved) (m : Nat) :
    s.activeAt? m = none ∧ moved.activeAt? (ρ.mode m) = none ∨
      ∃ active other, s.activeAt? m = some active ∧ moved.activeAt? (ρ.mode m) = some other ∧
        active.index = m ∧ active.Corresponds ρ other := by
  rcases cases_of_rel (corresponds.activeAt? m) with
    absent | ⟨active, other, found, other_found, same⟩
  · exact .inl absent
  · exact .inr ⟨active, other, found, other_found, (activeAt?_eq_some_iff.mp found).2, same⟩

theorem advance (corresponds : s.Corresponds ρ moved) (place : Place) (time : Nat) :
    (moved.advance (ρ.place place) time).1 = (s.advance place time).1 ∧
      (s.advance place time).2.Corresponds ρ (moved.advance (ρ.place place) time).2 := by
  cases place with
  | global i => exact ⟨rfl, corresponds.globals.modify i _, corresponds.mode⟩
  | mode m t =>
      simp only [Schedule.advance, Renaming.place]
      rcases corresponds.active_cases m with
        ⟨absent, other_absent⟩ | ⟨active, other, found, other_found, rfl, same⟩
      · simp only [absent, other_absent]
        exact ⟨trivial, corresponds⟩
      · obtain ⟨looped_eq, after⟩ := same.advance t time
        simp only [found, other_found]
        exact ⟨looped_eq, corresponds.globals, .some after⟩

theorem relocate? (corresponds : s.Corresponds ρ moved) (place : Place) (node time : Nat) :
    Option.Rel (Corresponds ρ) (s.relocate? place node time)
      (moved.relocate? (ρ.place place) node time) := by
  cases place with
  | global i =>
      simp only [Schedule.relocate?, Renaming.place, corresponds.globals i]
      cases s.globals[i]? with
      | none => exact .none
      | some g =>
          simp only [Option.bind_eq_bind, Option.bind_some]
          cases g.jump? node time with
          | none => exact .none
          | some landed => exact .some ⟨corresponds.globals.set i landed, corresponds.mode⟩
  | mode m t =>
      simp only [Schedule.relocate?, Renaming.place]
      rcases corresponds.active_cases m with
        ⟨absent, other_absent⟩ | ⟨active, other, found, other_found, rfl, same⟩
      · simp only [absent, other_absent]
        exact .none
      · simp only [found, other_found, Option.bind_eq_bind, Option.bind_some]
        rcases cases_of_rel (same.jump? t node time) with
          ⟨refused, also_refused⟩ | ⟨landed, also_landed, jumped, also_jumped, after⟩
        · rw [refused, also_refused]
          exact .none
        · rw [jumped, also_jumped]
          exact .some ⟨corresponds.globals, .some after⟩

theorem refreshFloor (corresponds : s.Corresponds ρ moved) (place : Place) :
    (s.refreshFloor place).Corresponds ρ (moved.refreshFloor (ρ.place place)) := by
  cases place with
  | global i => exact corresponds
  | mode m t =>
      simp only [Schedule.refreshFloor, Renaming.place]
      rcases corresponds.active_cases m with
        ⟨absent, other_absent⟩ | ⟨active, other, found, other_found, rfl, same⟩
      · simp only [absent, other_absent]
        exact corresponds
      · simp only [found, other_found]
        exact ⟨corresponds.globals, .some (same.refreshFloor_tracks same.tracks)⟩

theorem relocate (corresponds : s.Corresponds ρ moved) (place : Place) (node time : Nat) :
    (s.relocate place node time).Corresponds ρ (moved.relocate (ρ.place place) node time) := by
  unfold Schedule.relocate
  rcases cases_of_rel (corresponds.relocate? place node time) with
    ⟨refused, also_refused⟩ | ⟨landed, also_landed, jumped, also_jumped, after⟩
  · rw [refused, also_refused]
    exact corresponds.refreshFloor place
  · rw [jumped, also_jumped]
    exact after

/-- Modes that correspond are switched to alike. -/
theorem switchMode (corresponds : s.Corresponds ρ moved) (carries : ρ.Carries p q)
    (m time : Nat) :
    ((s.switchMode? p m time).getD s).Corresponds ρ
      ((moved.switchMode? q (ρ.mode m) time).getD moved) := by
  unfold switchMode?
  rcases cases_of_rel (ActiveMode.rel_start? carries m time) with
    ⟨missing, gone⟩ | ⟨active, other, started, other_started, same⟩
  · rw [missing, gone]
    exact corresponds
  · rw [started, other_started]
    exact ⟨corresponds.globals, .some same⟩

theorem isActive_eq (corresponds : s.Corresponds ρ moved) (place : Place) :
    moved.isActive (ρ.place place) = s.isActive place := by
  cases place with
  | global i => simp only [isActive, Renaming.place, corresponds.globals.lt_length_iff]
  | mode m t =>
      simp only [isActive, Renaming.place]
      rcases corresponds.active_cases m with
        ⟨absent, other_absent⟩ | ⟨active, other, found, other_found, rfl, same⟩
      · rw [absent, other_absent]
        rfl
      · simp only [found, other_found, Option.any_some, same.tracks.lt_length_iff]

end Corresponds

/-- Presets declared in another order begin alike, if they begin in the same
mode. -/
theorem corresponds_start (carries : ρ.Carries p q) (time : Nat)
    (entry : Option.Rel Mode.Reorders (p.entryMode.bind fun m => p.modes[m]?)
      (q.entryMode.bind fun m => q.modes[m]?)) :
    (start p time).Corresponds ρ (start q time) := by
  refine ⟨carries.globalTracks.map fun t => GlobalCursor.start t time, ?_⟩
  rcases cases_of_rel entry with ⟨absent, gone⟩ | ⟨own, other, own_eq, other_eq, same⟩
  · have nothing : ∀ r : Preset, (r.entryMode.bind fun m => r.modes[m]?) = none →
        (start r time).mode = none := by
      intro r absent
      rw [Option.bind_eq_none_iff] at absent
      simp only [start, ActiveMode.start?, Option.bind_eq_none_iff, Option.map_eq_none_iff]
      exact absent
    rw [nothing p absent, nothing q gone]
    exact .none
  · obtain ⟨m, entered, own_found⟩ := Option.bind_eq_some_iff.mp own_eq
    obtain ⟨n, other_entered, other_found⟩ := Option.bind_eq_some_iff.mp other_eq
    obtain rfl := carries.mode_eq own_found other_found same.id_eq
    simp only [start, entered, other_entered, Option.bind_some]
    exact ActiveMode.rel_start? carries m time

/-! ## Candidates that correspond -/

namespace Corresponds

theorem mem_globalCandidates_iff (corresponds : s.Corresponds ρ moved) {c : Candidate} :
    c.rename ρ ∈ moved.globalCandidates ↔ c ∈ s.globalCandidates := by
  obtain ⟨place, track, node, due⟩ := c
  simp only [Schedule.mem_globalCandidates_iff, Candidate.rename]
  cases place with
  | global i =>
      constructor
      · rintro ⟨_, g, found, nonempty, same⟩
        cases same
        exact ⟨i, g, corresponds.globals i ▸ found, nonempty, rfl⟩
      · rintro ⟨_, g, found, nonempty, same⟩
        cases same
        exact ⟨_, g, (corresponds.globals i).trans found, nonempty, rfl⟩
  | mode m t => simp [Renaming.place]

/-- The candidates are the same up to their places. -/
theorem mem_candidates_iff (corresponds : s.Corresponds ρ moved) {c : Candidate} :
    c.rename ρ ∈ moved.candidates ↔ c ∈ s.candidates := by
  rw [Schedule.mem_candidates_iff, Schedule.mem_candidates_iff,
    corresponds.mem_globalCandidates_iff]
  rcases cases_of_rel corresponds.mode with ⟨none_held, none_moved⟩ | ⟨m, n, held, now_held, same⟩
  · simp [none_held, none_moved]
  · simp [held, now_held, same.mem_candidates_iff]

/-- Both schedules wait for the same time. -/
theorem nextWakeup_eq (corresponds : s.Corresponds ρ moved) : moved.nextWakeup = s.nextWakeup := by
  have dues_eq : {t | ∃ c ∈ moved.candidates, c.dueAt = t} =
      {t | ∃ c ∈ s.candidates, c.dueAt = t} := by
    ext t
    constructor
    · rintro ⟨c, mem, rfl⟩
      obtain ⟨d, rfl⟩ := c.rename_surjective ρ
      exact ⟨d, corresponds.mem_candidates_iff.mp mem, rfl⟩
    · rintro ⟨c, mem, rfl⟩
      exact ⟨c.rename ρ, corresponds.mem_candidates_iff.mpr mem, rfl⟩
  ext time
  rw [nextWakeup_eq_some_iff, nextWakeup_eq_some_iff, dues_eq]

end Corresponds

theorem scope_rename (ρ : Renaming) (c : Candidate) : (c.rename ρ).scope = c.scope := by
  unfold Candidate.scope Candidate.rename Renaming.place
  cases c.place <;> rfl

/-- Renaming does not change the order of candidates. -/
theorem le_rename (ρ : Renaming) (a b : Candidate) : (a.rename ρ).le (b.rename ρ) = a.le b := by
  simp only [Candidate.le, scope_rename]
  rfl

/-- The same candidate runs first in both schedules. -/
theorem Corresponds.pick_eq (corresponds : s.Corresponds ρ moved) (fits : s.Fits p)
    (distinct : p.HasDistinctTracks) (now : Nat) :
    moved.pick now = (s.pick now).map (Candidate.rename ρ) := by
  cases picked : s.pick now with
  | none =>
      rw [Option.map_none]
      apply List.find?_eq_none.mpr
      intro c mem
      obtain ⟨d, rfl⟩ := c.rename_surjective ρ
      exact List.find?_eq_none.mp picked d (corresponds.mem_candidates_iff.mp mem)
  | some c =>
      obtain ⟨mem, due, first⟩ := le_of_pick picked
      have renamed_mem : c.rename ρ ∈ moved.candidates := corresponds.mem_candidates_iff.mpr mem
      obtain ⟨other, other_picked⟩ := exists_pick_of_mem renamed_mem due
      obtain ⟨other_mem, other_due, other_first⟩ := le_of_pick other_picked
      obtain ⟨d, rfl⟩ := other.rename_surjective ρ
      have d_mem := corresponds.mem_candidates_iff.mp other_mem
      have before := first d d_mem other_due
      have after := other_first (c.rename ρ) renamed_mem due
      rw [le_rename] at after
      rw [other_picked, fits.eq_of_le distinct mem d_mem before after, Option.map_some]

end Schedule

/-! ## Fired gateways -/

/-- The fault about the renamed place. -/
def DispatchFault.rename (ρ : Renaming) : DispatchFault → DispatchFault
  | .noTrackAt place => .noTrackAt (ρ.place place)
  | fault => fault

/-- The effect at the renamed place. -/
def Effect.rename (ρ : Renaming) : Effect → Effect
  | .jumped target node => .jumped (ρ.place target) node
  | effect => effect

namespace Schedule

variable {ρ : Renaming} {p q : Preset} {s moved : Schedule} {place : Place} {gateway : Gateway}

/-- Dispatches fail alike, or do alike, and leave schedules that correspond. -/
structure Outcome.Corresponds (ρ : Renaming) (outcome other : Outcome) : Prop where
  result : Alike (fun fault renamed => renamed = fault.rename ρ)
    (fun done renamed => renamed = { done with effect := done.effect.rename ρ }) outcome.1 other.1
  schedule : outcome.2.Corresponds ρ other.2

theorem alike_landingNode (carries : ρ.Carries p q) (place : Place) (node : Option String) :
    Alike (fun fault renamed => renamed = fault.rename ρ) Eq (landingNode p place node)
      (landingNode q (ρ.place place) node) := by
  unfold landingNode
  rw [carries.track?_place]
  cases p.track? place with
  | none => exact .error rfl
  | some track =>
      cases node with
      | none => exact .ok rfl
      | some id =>
          dsimp only
          cases track.position? id with
          | none => exact .error rfl
          | some i => exact .ok rfl

namespace Corresponds

theorem alike_enter (corresponds : s.Corresponds ρ moved) (carries : ρ.Carries p q) (mode : Nat)
    (modeId track : String) (node : Option String) (now : Nat) :
    Alike (fun fault renamed => renamed = fault.rename ρ) (Corresponds ρ)
      (s.enter p mode modeId track node now)
      (moved.enter q (ρ.mode mode) modeId track node now) := by
  unfold enter
  rw [carries.locate?_eq]
  cases p.locate? track with
  | none => exact .error rfl
  | some place =>
      cases place with
      | global i => exact .error rfl
      | mode m t =>
          simp only [Option.map_some, Renaming.place, ρ.mode.injective.eq_iff]
          split
          · apply (alike_landingNode carries (.mode m t) node).bind
            rintro i _ rfl
            exact .ok (corresponds.relocate (.mode m t) i now)
          · exact .error rfl

theorem beginMode (corresponds : s.Corresponds ρ moved) (carries : ρ.Carries p q) (mode : Nat)
    (modeId : String) (track node : Option String) (now : Nat) {done : Dispatched}
    (unplaced : done.effect.rename ρ = done.effect) :
    (s.beginMode p mode modeId track node now done).Corresponds ρ
      (moved.beginMode q (ρ.mode mode) modeId track node now done) := by
  have switched := corresponds.switchMode carries mode now
  have same : done = { done with effect := done.effect.rename ρ } := by rw [unplaced]
  unfold Schedule.beginMode
  cases track with
  | none => exact ⟨.ok same, switched⟩
  | some id =>
      dsimp only
      rcases (switched.alike_enter carries mode modeId id node now).cases with
        ⟨fault, renamed, refused, also_refused, fault_eq⟩ |
          ⟨entered, other, went, also_went, after⟩
      · rw [refused, also_refused]
        exact ⟨.error fault_eq, switched⟩
      · rw [went, also_went]
        exact ⟨.ok same, after⟩

theorem alike_dispatchSwitch (corresponds : s.Corresponds ρ moved) (carries : ρ.Carries p q)
    (place : Place) (modeId : String) (track node : Option String) (now delay : Nat) :
    Alike Eq (Outcome.Corresponds ρ) (s.dispatchSwitch p place modeId track node now delay)
      (moved.dispatchSwitch q (ρ.place place) modeId track node now delay) := by
  unfold dispatchSwitch
  rw [carries.modeIndex?_eq, corresponds.modeId_eq]
  cases p.modeIndex? modeId with
  | none => exact .ok ⟨.error rfl, corresponds⟩
  | some mode =>
      cases place with
      | global i =>
          apply Alike.bind_same (Unsigned.add 64 now delay)
          intro later
          obtain ⟨_, after⟩ := corresponds.advance (.global i) later
          exact .ok (after.beginMode carries mode modeId track node now rfl)
      | mode m t => exact .ok (corresponds.beginMode carries mode modeId track node now rfl)

/-- A jump lands on the same node of the same track. -/
theorem alike_land (corresponds : s.Corresponds ρ moved) (carries : ρ.Carries p q)
    (target : Place) (i : Nat) (gateway : Gateway) (now delay : Nat) (looped : Option String) :
    Alike Eq (Outcome.Corresponds ρ)
      (do
        let time ← landingTime p target i gateway now delay
        return (.ok ⟨.jumped target i, looped⟩, s.relocate target i time))
      (do
        let time ← landingTime q (ρ.place target) i gateway now delay
        return (.ok ⟨.jumped (ρ.place target) i, looped⟩,
          moved.relocate (ρ.place target) i time)) := by
  rw [landingTime, landingTime, carries.track?_place]
  apply Alike.bind_same
  intro time
  exact .ok ⟨.ok rfl, corresponds.relocate target i time⟩

theorem alike_dispatchJumpNode (corresponds : s.Corresponds ρ moved) (carries : ρ.Carries p q)
    (place : Place) (gateway : Gateway) (node : String) (now delay : Nat) :
    Alike Eq (Outcome.Corresponds ρ) (s.dispatchJumpNode p place gateway node now delay)
      (moved.dispatchJumpNode q (ρ.place place) gateway node now delay) := by
  unfold dispatchJumpNode
  rcases (alike_landingNode carries place (some node)).cases with
    ⟨fault, renamed, refused, also_refused, fault_eq⟩ | ⟨i, _, found, also_found, rfl⟩
  · rw [refused, also_refused]
    exact .ok ⟨.error fault_eq, corresponds⟩
  · rw [found, also_found]
    exact corresponds.alike_land carries place i gateway now delay none

theorem alike_dispatchJumpTrack (corresponds : s.Corresponds ρ moved) (carries : ρ.Carries p q)
    (place : Place) (gateway : Gateway) (track : String) (node : Option String)
    (now delay : Nat) :
    Alike Eq (Outcome.Corresponds ρ) (s.dispatchJumpTrack p place gateway track node now delay)
      (moved.dispatchJumpTrack q (ρ.place place) gateway track node now delay) := by
  unfold dispatchJumpTrack
  rw [carries.locate?_eq]
  cases p.locate? track with
  | none => exact .ok ⟨.error rfl, corresponds⟩
  | some target =>
      simp only [Option.map_some, corresponds.isActive_eq]
      split
      · exact .ok ⟨.error rfl, corresponds⟩
      · rcases (alike_landingNode carries target node).cases with
          ⟨fault, renamed, refused, also_refused, fault_eq⟩ | ⟨i, _, found, also_found, rfl⟩
        · rw [refused, also_refused]
          exact .ok ⟨.error fault_eq, corresponds⟩
        · rw [found, also_found]
          simp only [Renaming.place_inj]
          split
          · exact corresponds.alike_land carries target i gateway now delay none
          · apply Alike.bind_same (Unsigned.add 64 now delay)
            intro later
            obtain ⟨looped_eq, after⟩ := corresponds.advance place later
            simp only [pure_bind, looped_eq]
            exact after.alike_land carries target i gateway now delay _

/-- A gateway that fires at places that correspond does alike. -/
theorem alike_dispatch (corresponds : s.Corresponds ρ moved) (carries : ρ.Carries p q)
    (place : Place) (gateway : Gateway) (now delay : Nat) :
    Alike Eq (Outcome.Corresponds ρ) (s.dispatch p place gateway now delay)
      (moved.dispatch q (ρ.place place) gateway now delay) := by
  unfold dispatch
  cases gateway.action with
  | finish => exact .ok ⟨.ok rfl, corresponds⟩
  | castSkill skill => exact .ok ⟨.ok rfl, corresponds⟩
  | switchMode mode track node =>
      exact corresponds.alike_dispatchSwitch carries place mode track node now delay
  | jumpNode node => exact corresponds.alike_dispatchJumpNode carries place gateway node now delay
  | jumpTrack track node =>
      exact corresponds.alike_dispatchJumpTrack carries place gateway track node now delay

end Corresponds

end Schedule

end Rotation
