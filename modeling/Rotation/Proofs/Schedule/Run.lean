import Mathlib.Logic.Relation
import Rotation.Proofs.Schedule.Coherence
import Rotation.Proofs.Schedule.Dispatch

/-!
# Runs of a preset

Whoever runs a preset takes one of the candidates of the schedule, carries out
its node and moves on.  A schedule that fits its preset stays so, as long as
the actions of all gateways resolve: each candidate is a node of the preset,
and no gateway fails when it fires.
-/

namespace Rotation

namespace Preset

/-- The node of a candidate. -/
def node? (p : Preset) (c : Candidate) : Option Node :=
  (p.track? c.place).bind fun track => track.nodes[c.node]?

/-- The action of every gateway resolves from its place. -/
def Sound (p : Preset) : Prop :=
  ∀ ⦃place : Place⦄ ⦃track : Track⦄ ⦃gateway : Gateway⦄, p.track? place = some track →
    .gateway gateway ∈ track.nodes → p.Resolves place gateway.action

end Preset

namespace Schedule

/-- What is done with a candidate.  A skill is cast, and its track advances or
waits; a gateway passes, or it fires and, if it asks for a cast, its track
advances after that. -/
inductive Runs (p : Preset) (s : Schedule) : Schedule → Prop
  | cast {c : Candidate} {node : SkillNode} (mem : c ∈ s.candidates)
      (found : p.node? c = some (.skill node)) (time : Nat) : Runs p s (s.advance c.place time).2
  | wait {c : Candidate} {node : SkillNode} (mem : c ∈ s.candidates)
      (found : p.node? c = some (.skill node)) (time : Nat) : Runs p s (s.hold c.place time)
  | pass {c : Candidate} {gateway : Gateway} (mem : c ∈ s.candidates)
      (found : p.node? c = some (.gateway gateway)) (time : Nat) :
      Runs p s (s.advance c.place time).2
  | fire {c : Candidate} {gateway : Gateway} (mem : c ∈ s.candidates)
      (found : p.node? c = some (.gateway gateway)) {now delay : Nat} {outcome : Outcome}
      (fired : s.dispatch p c.place gateway now delay = .ok outcome) : Runs p s outcome.2
  | fireCast {c : Candidate} {gateway : Gateway} (mem : c ∈ s.candidates)
      (found : p.node? c = some (.gateway gateway)) {now delay : Nat} {skill : String}
      {looped : Option String} {moved : Schedule}
      (fired : s.dispatch p c.place gateway now delay = .ok (.ok ⟨.cast skill, looped⟩, moved))
      (time : Nat) : Runs p s (moved.advance c.place time).2

/-- A schedule to which a preset can be run. -/
def Reachable (p : Preset) (time : Nat) (s : Schedule) : Prop :=
  Relation.ReflTransGen (Runs p) (start p time) s

/-- The cursors run over the tracks of a preset, and the schedule is
coherent. -/
structure Fits (s : Schedule) (p : Preset) : Prop where
  globals : s.globalOutline = p.globalTracks.map fun t => (t.id, t.nodes.length)
  mode : ∀ m, s.mode = some m → ∃ mode, m.RunsOver p mode
  coherent : s.Coherent

theorem fits_start (p : Preset) (time : Nat) : (start p time).Fits p where
  globals := globalOutline_start p time
  mode _ held := runsOver_start held
  coherent := coherent_start p time

variable {s moved : Schedule} {p : Preset}

theorem Fits.callAll (fits : s.Fits p) (calls : List Call)
    (within : ∀ c ∈ calls, Call.Within p c) : (s.callAll calls).Fits p where
  globals := (globalOutline_callAll s calls).trans fits.globals
  mode := by
    intro m held
    obtain ⟨used, mode, source, runs⟩ := runsOver_callAll fits.mode held
    rcases source with rfl | ⟨index, time, mem⟩
    · exact ⟨mode, runs⟩
    · obtain rfl : used = p := within _ mem
      exact ⟨mode, runs⟩
  coherent := coherent_callAll fits.coherent calls

/-! ## Candidates are nodes -/

theorem Fits.global_track (fits : s.Fits p) {i : Nat} {g : GlobalCursor}
    (found : s.globals[i]? = some g) :
    ∃ track, p.globalTracks[i]? = some track ∧ g.id = track.id ∧ g.length = track.nodes.length := by
  obtain ⟨track, track_found, outline_eq⟩ := exists_getElem?_of_map_eq fits.globals found
  obtain ⟨id_eq, length_eq⟩ := Prod.mk.inj outline_eq
  exact ⟨track, track_found, id_eq.symm, length_eq.symm⟩

/-- A candidate is a node of the preset, and its track is named rightly. -/
theorem Fits.node_of_mem (fits : s.Fits p) {c : Candidate} (mem : c ∈ s.candidates) :
    ∃ track node, p.track? c.place = some track ∧ track.nodes[c.node]? = some node ∧
      c.track = track.id := by
  rcases mem_candidates_iff.mp mem with global | ⟨m, held, own⟩
  · obtain ⟨i, g, found, nonempty, rfl⟩ := mem_globalCandidates_iff.mp global
    obtain ⟨track, track_found, id_eq, length_eq⟩ := fits.global_track found
    have below : g.position < track.nodes.length := by
      rcases fits.coherent.globals g (List.mem_of_getElem? found) with below | ⟨empty, _⟩
      · exact length_eq ▸ below
      · omega
    exact ⟨track, track.nodes[g.position], track_found, List.getElem?_eq_getElem below, id_eq⟩
  · obtain ⟨t, cursor, slot, found, under, _, rfl⟩ := ActiveMode.mem_candidates_iff.mp own
    obtain ⟨mode, runs⟩ := fits.mode m held
    obtain ⟨track, track_found, id_eq, order_eq⟩ := runs.track found
    have slot_mem : slot ∈ ModeCursor.slots track := order_eq ▸ List.mem_of_getElem? under
    obtain ⟨node, node_found, _⟩ := ModeCursor.mem_slots_iff.mp slot_mem
    exact ⟨track, node, Preset.track?_mode_eq_some_iff.mpr ⟨mode, runs.1, track_found⟩,
      node_found, id_eq⟩

/-- Candidates that do not run after each other are the same, as no other track
has the name. -/
theorem Fits.eq_of_le (fits : s.Fits p) (distinct : p.HasDistinctTracks) {c d : Candidate}
    (c_mem : c ∈ s.candidates) (d_mem : d ∈ s.candidates) (first : c.le d = true)
    (second : d.le c = true) : c = d := by
  obtain ⟨_, track_eq⟩ := Candidate.le_antisymm first second
  obtain ⟨own, _, own_there, _, c_named⟩ := fits.node_of_mem c_mem
  obtain ⟨other, _, other_there, _, d_named⟩ := fits.node_of_mem d_mem
  exact eq_of_mem_candidates c_mem d_mem
    (distinct own_there other_there (c_named.symm.trans (track_eq.trans d_named)))

/-- The tracks alongside that of a candidate are active. -/
theorem Fits.isActive_of_alongside (fits : s.Fits p) {c : Candidate} (mem : c ∈ s.candidates)
    {target : Place} (alongside : target.Alongside c.place) {track : Track}
    (there : p.track? target = some track) : s.isActive target = true := by
  cases target with
  | global i =>
      have lengths_eq := congrArg List.length fits.globals
      simp only [globalOutline, List.length_map] at lengths_eq
      have inside := (List.getElem?_eq_some_iff.mp there).1
      simp [isActive, lengths_eq, inside]
  | mode m t =>
      cases place_eq : c.place with
      | global i =>
          rw [place_eq] at alongside
          contradiction
      | mode n u =>
          rw [place_eq] at alongside
          obtain rfl : m = n := alongside
          obtain ⟨active, _, _, held, rfl, _⟩ := mem_candidates_mode mem place_eq
          obtain ⟨mode, runs⟩ := fits.mode active held
          obtain ⟨own, own_found, track_found⟩ := Preset.track?_mode_eq_some_iff.mp there
          obtain rfl := Option.some.inj (own_found.symm.trans runs.1)
          have inside := (List.getElem?_eq_some_iff.mp track_found).1
          have found : s.activeAt? active.index = some active :=
            activeAt?_eq_some_iff.mpr ⟨held, rfl⟩
          simp [isActive, found, runs.tracks_length, inside]

/-! ## Runs -/

/-- A gateway that is a candidate is carried out. -/
theorem Fits.dispatch_carriesOut (fits : s.Fits p) (sound : p.Sound) {c : Candidate}
    (mem : c ∈ s.candidates) {gateway : Gateway} (found : p.node? c = some (.gateway gateway))
    (now delay : Nat) :
    s.CarriesOut p (now + delay) (s.dispatch p c.place gateway now delay) := by
  obtain ⟨track, there, node_found⟩ := Option.bind_eq_some_iff.mp found
  apply Schedule.dispatch_carriesOut (sound there (List.mem_of_getElem? node_found))
  rintro target alongside ⟨other, other_there⟩
  exact fits.isActive_of_alongside mem alongside other_there

theorem Fits.of_fired (fits : s.Fits p) (sound : p.Sound) {c : Candidate}
    (mem : c ∈ s.candidates) {gateway : Gateway} (found : p.node? c = some (.gateway gateway))
    {now delay : Nat} {outcome : Outcome}
    (fired : s.dispatch p c.place gateway now delay = .ok outcome) : outcome.2.Fits p := by
  rcases fits.dispatch_carriesOut sound mem found now delay with
    ⟨_, calls, within, done⟩ | ⟨_, failed⟩
  · obtain rfl := Except.ok.inj (fired.symm.trans done)
    exact fits.callAll calls within
  · rw [fired] at failed
    contradiction

theorem Fits.advance (fits : s.Fits p) (place : Place) (time : Nat) :
    (s.advance place time).2.Fits p :=
  fits.callAll [.advance place time] (by simp [Call.Within])

/-- Running a candidate keeps the schedule fitting. -/
theorem Runs.fits (step : Runs p s moved) (sound : p.Sound) (fits : s.Fits p) : moved.Fits p := by
  cases step with
  | cast mem found time => exact fits.advance _ time
  | wait mem found time => exact fits.callAll [.hold _ time] (by simp [Call.Within])
  | pass mem found time => exact fits.advance _ time
  | fire mem found fired => exact fits.of_fired sound mem found fired
  | fireCast mem found fired time => exact (fits.of_fired sound mem found fired).advance _ time

theorem Reachable.fits {time : Nat} (reached : Reachable p time s) (sound : p.Sound) :
    s.Fits p := by
  induction reached with
  | refl => exact fits_start p time
  | tail _ step ih => exact step.fits sound ih

end Schedule

end Rotation
