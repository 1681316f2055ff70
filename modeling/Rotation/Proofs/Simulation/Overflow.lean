import Rotation.Proofs.Simulation.Cooldown
import Rotation.Proofs.Simulation.Turns

/-!
# Overflowing times

Nothing bounds the times that a preset or a catalogue asks for, so a due time
may not fit its word, and then a simulation has no report.  This happens only at
a node that the simulation comes to within its limits, and only if the time that
the node may take leads beyond the word from there.
-/

namespace Rotation

/-- A computation fails only if one of these sums does not fit a word. -/
def Checked.FailsOver {α : Type} (x : Checked α) (sums : List Nat) : Prop :=
  ∀ fault, x = .error fault → ∃ sum ∈ sums, ¬ Unsigned.Fits 64 sum

namespace Checked

variable {α β : Type} {sums : List Nat}

theorem failsOver_ok (a : α) (sums : List Nat) : FailsOver (.ok a) sums := by
  intro fault failed
  contradiction

theorem failsOver_add {a b : Nat} (below : ∃ sum ∈ sums, a + b ≤ sum) :
    (Unsigned.add 64 a b).FailsOver sums := by
  intro fault failed
  obtain ⟨sum, mem, sum_le⟩ := below
  rcases Unsigned.add_cases 64 a b with ⟨_, done⟩ | ⟨overflow, _⟩
  · rw [done] at failed
    contradiction
  · exact ⟨sum, mem, fun fits => overflow (Nat.lt_of_le_of_lt sum_le fits)⟩

theorem FailsOver.bind {x : Checked α} {f : α → Checked β} (first : x.FailsOver sums)
    (next : ∀ a, x = .ok a → (f a).FailsOver sums) : (x >>= f).FailsOver sums := by
  intro fault failed
  cases result : x with
  | error other => exact first other result
  | ok a =>
      rw [result] at failed
      exact next a result fault failed

end Checked

namespace Simulation

/-- How long the track of a node waits when nothing is cast. -/
def Options.waitOf (options : Options) : Node → Nat
  | .skill _ => options.skipRetryMs
  | .gateway gateway => options.delayOf gateway

/-- How long the track of a node waits after a cast. -/
def Options.restOf (options : Options) : Node → Nat
  | .skill node => node.gapMs
  | .gateway gateway => options.delayOf gateway

/-- The times after which something becomes due because a node is run. -/
def durations (catalogue : Catalogue) (options : Options) (n : Node) : List Nat :=
  options.waitOf n ::
    match n.castSkill?.bind catalogue.skill? with
    | none => []
    | some own =>
      [own.castMs.toNat + own.cooldownMs.toNat, own.castMs.toNat + options.restOf n]

/-- The times at which something becomes due if a node is run now. -/
def dueTimes (catalogue : Catalogue) (options : Options) (now : Nat) (n : Node) : List Nat :=
  (durations catalogue options n).map (now + ·)

section

variable {catalogue : Catalogue} {options : Options} {n : Node} {now : Nat}

theorem mem_dueTimes_wait : now + options.waitOf n ∈ dueTimes catalogue options now n :=
  List.mem_map_of_mem List.mem_cons_self

theorem mem_dueTimes_cast (options : Options) (now : Nat) {id : String} {own : Skill} (casts : n.castSkill? = some id)
    (found : catalogue.skill? id = some own) :
    now + (own.castMs.toNat + own.cooldownMs.toNat) ∈ dueTimes catalogue options now n ∧
      now + (own.castMs.toNat + options.restOf n) ∈ dueTimes catalogue options now n := by
  simp [dueTimes, durations, casts, found]

end

namespace State

variable {p : Preset} {catalogue : Catalogue} {options : Options} {s s' : State} {c : Candidate}
  {n : Node}

theorem exists_skill_of_castTime? {id : String} {castMs : Nat}
    (castable : s.castTime? catalogue id = some castMs) :
    ∃ own, catalogue.skill? id = some own ∧ castMs = own.castMs.toNat := by
  obtain ⟨own, found, rfl⟩ := Option.map_eq_some_iff.mp castable
  exact ⟨own, (Option.filter_eq_some_iff.mp found).1, rfl⟩

theorem cast_failsOver (c : Candidate) (node : String) {id : String}
    (casts : n.castSkill? = some id) :
    (s.cast catalogue c node id).FailsOver (dueTimes catalogue options s.now n) := by
  unfold cast
  split
  · exact Checked.failsOver_ok _ _
  · rename_i own found
    have due := (mem_dueTimes_cast options s.now casts found).1
    split
    · exact Checked.failsOver_ok _ _
    · split
      · exact Checked.failsOver_ok _ _
      · apply (Checked.failsOver_add ⟨_, due, by omega⟩).bind
        intro done ended
        obtain ⟨_, rfl⟩ := Unsigned.add_eq_ok_iff.mp ended
        apply (Checked.failsOver_add ⟨_, due, by omega⟩).bind
        intro ready _
        exact Checked.failsOver_ok _ _

theorem runSkill_failsOver (node : SkillNode) :
    (s.runSkill catalogue options c node).FailsOver
      (dueTimes catalogue options s.now (.skill node)) := by
  unfold runSkill
  apply (cast_failsOver (n := .skill node) c node.id rfl).bind
  rintro ⟨castMs, tried⟩ done
  have now_eq := now_of_cast done
  have castMs_eq := castMs_of_cast done
  cases castMs with
  | none =>
      apply (Checked.failsOver_add ⟨_, mem_dueTimes_wait, by rw [now_eq]; rfl⟩).bind
      intro next _
      exact Checked.failsOver_ok _ _
  | some castMs =>
      obtain ⟨own, found, rfl⟩ := exists_skill_of_castTime? castMs_eq.symm
      have due := (mem_dueTimes_cast (n := .skill node) options s.now rfl found).2
      apply (Checked.failsOver_add ⟨_, due, by omega⟩).bind
      intro until_done ended
      obtain ⟨_, rfl⟩ := Unsigned.add_eq_ok_iff.mp ended
      apply (Checked.failsOver_add ⟨_, due, by simp only [Options.restOf]; omega⟩).bind
      intro next _
      exact Checked.failsOver_ok _ _

theorem settle_failsOver {gateway : Gateway} {effect : Effect} {now : Nat} (now_eq : s.now = now)
    (asks : ∀ skill, effect = .cast skill → gateway.action = .castSkill skill) :
    (s.settle catalogue c gateway (options.delayOf gateway) effect).FailsOver
      (dueTimes catalogue options now (.gateway gateway)) := by
  subst now_eq
  cases effect with
  | ended | switched source target | jumped target node => exact Checked.failsOver_ok _ _
  | cast skill =>
      have casts : (Node.gateway gateway).castSkill? = some skill := by
        simp [Node.castSkill?, asks skill rfl]
      apply (cast_failsOver c ("exec:" ++ skill) casts).bind
      rintro ⟨castMs, tried⟩ done
      have now_eq := now_of_cast done
      have castMs_eq := castMs_of_cast done
      have due : ∃ sum ∈ dueTimes catalogue options s.now (.gateway gateway),
          tried.now + castMs.getD 0 + options.delayOf gateway ≤ sum := by
        cases castMs with
        | none => exact ⟨_, mem_dueTimes_wait, by rw [now_eq]; rfl⟩
        | some castMs =>
            obtain ⟨own, found, rfl⟩ := exists_skill_of_castTime? castMs_eq.symm
            refine ⟨_, (mem_dueTimes_cast options s.now casts found).2, ?_⟩
            rw [now_eq, Nat.add_assoc]
            rfl
      obtain ⟨sum, mem, sum_le⟩ := due
      apply (Checked.failsOver_add ⟨sum, mem, by omega⟩).bind
      intro until_done ended
      obtain ⟨_, rfl⟩ := Unsigned.add_eq_ok_iff.mp ended
      apply (Checked.failsOver_add ⟨sum, mem, sum_le⟩).bind
      intro next _
      exact Checked.failsOver_ok _ _

theorem runGateway_failsOver (fits : s.schedule.Fits p) (sound : p.Sound) {gateway : Gateway}
    (mem : c ∈ s.schedule.candidates) (found : p.node? c = some (.gateway gateway)) :
    (s.runGateway p catalogue options c gateway).FailsOver
      (dueTimes catalogue options s.now (.gateway gateway)) := by
  have waits : s.now + options.delayOf gateway ∈
      dueTimes catalogue options s.now (.gateway gateway) := mem_dueTimes_wait
  unfold runGateway
  dsimp only
  split
  · apply (Checked.failsOver_add ⟨_, waits, Nat.le_refl _⟩).bind
    intro next _
    exact Checked.failsOver_ok _ _
  · rw [schedule_resetMetrics, now_resetMetrics]
    apply Checked.FailsOver.bind
    · intro fault failed
      rcases fits.dispatch_carriesOut sound mem found s.now (options.delayOf gateway) with
        ⟨_, _, _, done⟩ | ⟨overflow, _⟩
      · cases failed.symm.trans done
      · exact ⟨_, waits, overflow⟩
    · rintro ⟨fault | done, schedule⟩ fired
      · exact Checked.failsOver_ok _ _
      · apply Checked.FailsOver.bind
        · exact settle_failsOver (by simp) fun skill => Schedule.castSkill_of_dispatch fired
        · rintro ⟨ending, after⟩ _
          exact Checked.failsOver_ok _ _

/-- A step fails only if the time that its node may take leads too far. -/
theorem step_failsOver (fits : s.schedule.Fits p) (sound : p.Sound)
    (mem : c ∈ s.schedule.candidates) (found : p.node? c = some n) :
    (s.step p catalogue options c).FailsOver (dueTimes catalogue options s.now n) := by
  have looked_up : ((p.track? c.place).bind fun t => t.nodes[c.node]?) = some n := found
  rw [step, looked_up]
  cases n with
  | skill node =>
      apply (runSkill_failsOver node).bind
      intro moved _
      exact Checked.failsOver_ok _ _
  | gateway gateway => exact runGateway_failsOver fits sound mem found

end State

/-- Within its limits a simulation comes to a node whose times lead beyond the
word from there. -/
def Overruns (p : Preset) (catalogue : Catalogue) (options : Options) : Prop :=
  ∃ s c later n, Relation.ReflTransGen (State.Turn p catalogue options) (.start p) s ∧
    State.Comes options s c later ∧ p.StandsFor c n ∧
    ∃ due ∈ dueTimes catalogue options later.now n, ¬ Unsigned.Fits 64 due

theorem simulate_cases {p : Preset} (sound : p.Sound) (catalogue : Catalogue) (options : Options) :
    (∃ report, simulate p catalogue options = .ok (.ok report)) ∨
      simulate p catalogue options = .error .addOverflow ∧ Overruns p catalogue options := by
  rcases simulate_meets sound catalogue options with ⟨_, simulated, s, ending, _, rfl⟩ | overflow
  · exact .inl ⟨_, simulated⟩
  · right
    refine ⟨overflow, ?_⟩
    obtain ⟨last, k, turns, concluded⟩ := State.exists_concludes p catalogue options
    rw [overflow] at concluded
    have fits : last.schedule.Fits p := State.fits_of_turns turns sound (Schedule.fits_start p 0)
    generalize result_eq : (Except.error Fault.addOverflow : Checked (Except Error Report)) = result
      at concluded
    cases concluded with
    | halts halts => contradiction
    | @stops c later _ comes stopped =>
        subst result_eq
        have later_fits : later.schedule.Fits p := comes.schedule ▸ fits
        obtain ⟨track, n, there, node_found, named⟩ := later_fits.node_of_mem comes.mem
        have found : p.node? c = some n := Option.bind_eq_some_iff.mpr ⟨track, there, node_found⟩
        have failed : later.step p catalogue options c = .error .addOverflow := by
          rcases stepped : later.step p catalogue options c with fault | error | ⟨_ | ending, after⟩
            <;> rw [stepped] at stopped <;> cases stopped
          rfl
        exact ⟨last, c, later, n, turns, comes, ⟨track, there, node_found, named⟩,
          State.step_failsOver later_fits sound comes.mem found _ failed⟩

/-- What is due too late from some time on is due too late from any later time
on. -/
theorem exists_dueTime_of_le {catalogue : Catalogue} {options : Options} {n : Node}
    {now later due : Nat} (mem : due ∈ dueTimes catalogue options now n) (le : now ≤ later) :
    ∃ other ∈ dueTimes catalogue options later n, due ≤ other := by
  obtain ⟨duration, listed, rfl⟩ := List.mem_map.mp mem
  exact ⟨later + duration, List.mem_map_of_mem listed, Nat.add_le_add_right le duration⟩

end Simulation

open Simulation

/-- A simulation of a validated preset has a report, unless it comes to a node
whose times lead beyond the word from there.  In particular it has one if no
node takes that long from the end of the simulation on. -/
theorem Draft.simulates_of_validate {d : Draft} {catalogue : Catalogue} {p : Preset}
    (valid : (d.validate catalogue).preset = some p) (used : Catalogue) (options : Options) :
    ((∃ report, simulate p used options = .ok (.ok report)) ∨
        simulate p used options = .error .addOverflow ∧ Overruns p used options) ∧
      ((∀ track ∈ p.tracks, ∀ n ∈ track.nodes, ∀ due ∈ dueTimes used options options.maxMs n,
          Unsigned.Fits 64 due) →
        ∃ report, simulate p used options = .ok (.ok report)) := by
  have sound : p.Sound := fun _ _ _ there mem =>
    (compiles_of_validate valid).resolves_of_mem there mem
  have outcome := simulate_cases sound used options
  refine ⟨outcome, fun fit => ?_⟩
  rcases outcome with report | ⟨_, s, c, later, n, _, comes, stands, due, listed, overflow⟩
  · exact report
  · obtain ⟨track, there, found, _⟩ := stands
    obtain ⟨other, also_listed, due_le⟩ := exists_dueTime_of_le listed comes.inTime
    have other_fits := fit track (Preset.mem_tracks_of_track? there) n (List.mem_of_getElem? found)
      other also_listed
    exact absurd (Nat.lt_of_le_of_lt due_le other_fits) overflow

/-- A drill is over long before any time could be too late. -/
theorem Draft.drill_simulates :
    ∃ p report, (drill.validate (.ofLists [.slash] [])).preset = some p ∧
      simulate p (.ofLists [.slash] []) ⟨10000, 10, 50, 50⟩ = .ok (.ok report) := by
  have checked : ((drill.validate (.ofLists [.slash] [])).preset.any fun p =>
      p.tracks.all fun track => track.nodes.all fun n =>
        (dueTimes (.ofLists [.slash] []) ⟨10000, 10, 50, 50⟩ 10000 n).all fun due =>
          decide (Unsigned.Fits 64 due)) = true := by decide +kernel
  obtain ⟨p, valid, fit⟩ := (Option.any_eq_true _ _).mp checked
  simp only [List.all_eq_true, decide_eq_true_eq] at fit
  obtain ⟨report, simulated⟩ :=
    (simulates_of_validate valid (.ofLists [.slash] []) ⟨10000, 10, 50, 50⟩).2 fit
  exact ⟨p, report, valid, simulated⟩

/-- A draft whose only node waits as long as a word can tell. -/
def Draft.eternity : Draft :=
  { id := "eternity"
    name := ""
    entryMode := none
    defaultGapMs := 0
    globalTracks := [⟨"void",
      [.skill ⟨"wait", "wait", 0, some 1, none, .standard, .standard, .standard⟩]⟩]
    modes := [] }

/-- A skill that takes as long as a word can tell. -/
def Skill.wait : Skill :=
  { Skill.named "wait" with key := some "1", castMs := 18446744073709551615, cooldownMs := 0 }

/-- Validation accepts it, and the simulation has no report. -/
theorem Draft.eternity_overflows :
    ∃ p, (eternity.validate (.ofLists [.wait] [])).preset = some p ∧
      simulate p (.ofLists [.wait] []) ⟨1000, 3, 50, 20⟩ = .error .addOverflow := by
  have checked : ((eternity.validate (.ofLists [.wait] [])).preset.any fun p =>
      match simulate p (.ofLists [.wait] []) ⟨1000, 3, 50, 20⟩ with
      | .error .addOverflow => true
      | _ => false) = true := by decide +kernel
  obtain ⟨p, valid, overflow⟩ := (Option.any_eq_true _ _).mp checked
  split at overflow
  · rename_i failed
    exact ⟨p, valid, failed⟩
  · contradiction

end Rotation
