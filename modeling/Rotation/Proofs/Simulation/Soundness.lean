import Rotation.Proofs.Preset.Validation
import Rotation.Proofs.Schedule.Run
import Rotation.Simulation.Run

/-!
# Validated presets run without errors

A simulation runs the candidates of a schedule one after the other.  On a
preset that has passed validation neither a simulation nor any other run of
its candidates meets a reference that is not there; the sums of times may
still leave their word.
-/

namespace Rotation

/-! ## Results up to overflow -/

/-- A computation has a result with a property, unless a sum in it
overflows. -/
def Checked.Meets {α : Type} (x : Checked α) (P : α → Prop) : Prop :=
  (∃ a, x = .ok a ∧ P a) ∨ x = .error .addOverflow

namespace Checked

variable {α β : Type} {P : α → Prop} {Q : β → Prop}

theorem meets_ok {a : α} (holds : P a) : Meets (.ok a) P :=
  .inl ⟨a, rfl, holds⟩

theorem Meets.bind {x : Checked α} {f : α → Checked β} (first : x.Meets P)
    (next : ∀ a, P a → (f a).Meets Q) : Meets (x >>= f) Q := by
  rcases first with ⟨a, rfl, holds⟩ | rfl
  · exact next a holds
  · exact .inr rfl

/-- A computation that has a result has one with the property. -/
theorem Meets.of_eq_ok {x : Checked α} {a : α} (meets : x.Meets P) (done : x = .ok a) : P a := by
  rcases meets with ⟨b, same, holds⟩ | overflow
  · cases done.symm.trans same
    exact holds
  · cases done.symm.trans overflow

theorem meets_add (bits a b : Nat) : (Unsigned.add bits a b).Meets fun _ => True := by
  rcases Unsigned.add_cases bits a b with ⟨_, sum_eq⟩ | ⟨_, overflow⟩
  · exact .inl ⟨_, sum_eq, trivial⟩
  · exact .inr overflow

end Checked

/-- A gateway that is a candidate fires, and that is a way to run it. -/
theorem Schedule.Fits.dispatch_meets {s : Schedule} {p : Preset} (fits : s.Fits p) (sound : p.Sound)
    {c : Candidate} (mem : c ∈ s.candidates) {gateway : Gateway}
    (found : p.node? c = some (.gateway gateway)) (now delay : Nat) :
    (s.dispatch p c.place gateway now delay).Meets fun outcome =>
      ∃ done, outcome.1 = .ok done ∧ Runs p s outcome.2 ∧
        ∀ skill, done.effect = .cast skill → ∀ time,
          Runs p s (outcome.2.advance c.place time).2 := by
  rcases fits.dispatch_carriesOut sound mem found now delay with
    ⟨⟨effect, looped⟩, calls, _, fired⟩ | ⟨_, overflow⟩
  · refine .inl ⟨_, fired, ⟨effect, looped⟩, rfl, .fire mem found fired, ?_⟩
    rintro skill rfl time
    exact .fireCast mem found fired time
  · exact .inr overflow

namespace Simulation.State

open Schedule

variable {s : State} {p : Preset} {catalogue : Catalogue} {options : Options} {c : Candidate}

@[simp]
theorem schedule_record (s : State) (c : Candidate) (node : String) (skill : Option String)
    (outcome : Outcome) (reason : Option String) :
    (s.record c node skill outcome reason).schedule = s.schedule :=
  rfl

@[simp]
theorem schedule_recordLoop (s : State) (c : Candidate) (looped : Option String) :
    (s.recordLoop c looped).schedule = s.schedule := by
  cases looped <;> rfl

@[simp]
theorem schedule_advance (s : State) (c : Candidate) (time : Nat) :
    (s.advance c time).schedule = (s.schedule.advance c.place time).2 := by
  simp [advance]

@[simp]
theorem schedule_resetMetrics (s : State) (gateway : Gateway) :
    (s.resetMetrics gateway).schedule = s.schedule := by
  unfold resetMetrics
  split <;> rfl

/-- A cast leaves the schedule alone. -/
theorem cast_meets (s : State) (catalogue : Catalogue) (c : Candidate) (node id : String) :
    (s.cast catalogue c node id).Meets fun result => result.2.schedule = s.schedule := by
  unfold cast
  split
  · exact Checked.meets_ok rfl
  · split
    · exact Checked.meets_ok rfl
    · split
      · exact Checked.meets_ok rfl
      · apply (Checked.meets_add _ _ _).bind
        intro done _
        apply (Checked.meets_add _ _ _).bind
        intro ready _
        apply Checked.meets_ok
        simp only [schedule_record, attempt]

theorem runSkill_meets {node : SkillNode} (mem : c ∈ s.schedule.candidates)
    (found : p.node? c = some (.skill node)) :
    (s.runSkill catalogue options c node).Meets fun moved => Runs p s.schedule moved.schedule := by
  unfold runSkill
  apply (cast_meets s catalogue c node.id node.skill).bind
  rintro ⟨castMs, after⟩ schedule_eq
  have advanced : ∀ next, Runs p s.schedule (after.advance c next).schedule := by
    intro next
    rw [schedule_advance, schedule_eq]
    exact .cast mem found next
  cases castMs with
  | none =>
      apply (Checked.meets_add _ _ _).bind
      intro next _
      exact Checked.meets_ok (advanced next)
  | some castMs =>
      apply (Checked.meets_add _ _ _).bind
      intro done _
      apply (Checked.meets_add _ _ _).bind
      intro next _
      exact Checked.meets_ok (advanced next)

/-- What a fired gateway leaves to the simulation. -/
theorem settle_meets (before : Schedule) {gateway : Gateway} {delay : Nat} {effect : Effect}
    (fired : Runs p before s.schedule)
    (then_cast : ∀ skill, effect = .cast skill → ∀ time,
      Runs p before (s.schedule.advance c.place time).2) :
    (s.settle catalogue c gateway delay effect).Meets fun result =>
      Runs p before result.2.schedule := by
  cases effect with
  | ended => exact Checked.meets_ok fired
  | switched source target => exact Checked.meets_ok fired
  | jumped target node => exact Checked.meets_ok fired
  | cast skill =>
      apply (cast_meets s catalogue c ("exec:" ++ skill) skill).bind
      rintro ⟨castMs, after⟩ schedule_eq
      apply (Checked.meets_add _ _ _).bind
      intro done _
      apply (Checked.meets_add _ _ _).bind
      intro next _
      apply Checked.meets_ok
      rw [schedule_advance, schedule_eq]
      exact then_cast skill rfl next

/-- A step that goes well runs a candidate of the schedule. -/
def GoesWell (p : Preset) (before : Schedule) (result : Except Error (Option End × State)) : Prop :=
  ∃ ending moved, result = .ok (ending, moved) ∧ Runs p before moved.schedule

theorem runGateway_meets (fits : s.schedule.Fits p) (sound : p.Sound) {gateway : Gateway}
    (mem : c ∈ s.schedule.candidates) (found : p.node? c = some (.gateway gateway)) :
    (s.runGateway p catalogue options c gateway).Meets (GoesWell p s.schedule) := by
  unfold runGateway
  dsimp only
  split
  · apply (Checked.meets_add _ _ _).bind
    intro next _
    refine Checked.meets_ok ⟨none, _, rfl, ?_⟩
    rw [schedule_advance, schedule_record]
    exact .pass mem found next
  · rw [schedule_resetMetrics]
    apply (fits.dispatch_meets sound mem found _ _).bind
    rintro ⟨_, moved⟩ ⟨done, rfl, fired, then_cast⟩
    apply (settle_meets (p := p) s.schedule _ _).bind
    · rintro ⟨ending, after⟩ ran
      exact Checked.meets_ok ⟨ending, after, rfl, ran⟩
    · rw [schedule_recordLoop]
      exact fired
    · rw [schedule_recordLoop]
      exact then_cast

/-- A step of a simulation goes well on any candidate. -/
theorem step_meets (fits : s.schedule.Fits p) (sound : p.Sound) (mem : c ∈ s.schedule.candidates) :
    (s.step p catalogue options c).Meets (GoesWell p s.schedule) := by
  obtain ⟨track, node, there, node_found, _⟩ := fits.node_of_mem mem
  have found : p.node? c = some node := Option.bind_eq_some_iff.mpr ⟨track, there, node_found⟩
  have looked_up : ((p.track? c.place).bind fun t => t.nodes[c.node]?) = some node := found
  rw [step, looked_up]
  cases node with
  | skill node =>
      apply (runSkill_meets mem found).bind
      intro moved ran
      exact Checked.meets_ok ⟨none, moved, rfl, ran⟩
  | gateway gateway => exact runGateway_meets fits sound mem found

/-- A simulation ends with a report, however far it goes. -/
theorem run_meets (fits : s.schedule.Fits p) (sound : p.Sound) (budget : Nat) :
    (run p catalogue options budget s).Meets fun result => ∃ report, result = .ok report := by
  induction budget generalizing s with
  | zero => exact Checked.meets_ok ⟨_, rfl⟩
  | succ budget ih =>
      unfold run
      split
      · exact Checked.meets_ok ⟨_, rfl⟩
      · split
        · exact Checked.meets_ok ⟨_, rfl⟩
        · dsimp only
          split
          · exact Checked.meets_ok ⟨_, rfl⟩
          · split
            · exact Checked.meets_ok ⟨_, rfl⟩
            · rename_i due _ _ _ c picked
              have mem : c ∈ s.schedule.candidates := List.mem_of_find?_eq_some picked
              apply (step_meets (s := { s with now := max s.now due }) fits sound mem).bind
              rintro _ ⟨ending, moved, rfl, ran⟩
              cases ending with
              | none => exact ih (ran.fits sound fits)
              | some ending => exact Checked.meets_ok ⟨_, rfl⟩

end Simulation.State

/-! ## Soundness of validation -/

/-- Whatever candidates of the preset are run, in whatever order and at
whatever times, each candidate is a node of the preset and each gateway that
fires is carried out; and every simulation ends with a report.  Only a sum of
times may leave its word. -/
structure Preset.RunsSafely (p : Preset) : Prop where
  candidate : ∀ time s, Schedule.Reachable p time s → ∀ c ∈ s.candidates,
    ∃ track node, p.track? c.place = some track ∧ track.nodes[c.node]? = some node
  dispatch : ∀ time s, Schedule.Reachable p time s → ∀ c ∈ s.candidates,
    ∀ gateway, p.node? c = some (.gateway gateway) → ∀ now delay,
      (∃ done moved, s.dispatch p c.place gateway now delay = .ok (.ok done, moved)) ∨
        ¬ Unsigned.Fits 64 (now + delay) ∧
          s.dispatch p c.place gateway now delay = .error .addOverflow
  simulation : ∀ (catalogue : Catalogue) (options : Simulation.Options),
    (∃ report, Simulation.simulate p catalogue options = .ok (.ok report)) ∨
      Simulation.simulate p catalogue options = .error .addOverflow

/-- Validation is sound for running. -/
theorem Draft.runsSafely_of_validate {d : Draft} {catalogue : Catalogue} {p : Preset}
    (valid : (d.validate catalogue).preset = some p) : p.RunsSafely := by
  have compiles := compiles_of_validate valid
  have sound : p.Sound := fun place track gateway there mem => compiles.resolves_of_mem there mem
  constructor
  · intro time s reached c mem
    obtain ⟨track, node, there, node_found, _⟩ := (reached.fits sound).node_of_mem mem
    exact ⟨track, node, there, node_found⟩
  · intro time s reached c mem gateway found now delay
    rcases (reached.fits sound).dispatch_carriesOut sound mem found now delay with
      ⟨done, calls, _, fired⟩ | overflow
    · exact .inl ⟨done, _, fired⟩
    · exact .inr overflow
  · intro used options
    have fits : (Simulation.State.start p).schedule.Fits p := Schedule.fits_start p 0
    rcases Simulation.State.run_meets fits sound options.maxNodes with
      ⟨_, simulated, report, rfl⟩ | overflow
    · exact .inl ⟨report, simulated⟩
    · exact .inr overflow

/-- A draft with two modes and a global track: its gateways switch modes, enter
a mode at a node, jump to themselves and to the global track, and cast. -/
def Draft.duel : Draft :=
  let gateway := fun id step action => Node.gateway
    ⟨id, step, none, .record [("type", .text "const"), ("value", .bool true)], action, false⟩
  { id := "duel"
    name := ""
    entryMode := some "rest"
    defaultGapMs := 0
    globalTracks :=
      [⟨"watch", [gateway "flee" 0 (.switchMode "rest" (some "sit") (some "yawn"))]⟩]
    modes :=
      [⟨"fight",
        [⟨"strike",
          [gateway "again" 2 (.jumpNode "again"),
            gateway "look" 1 (.jumpTrack "watch" (some "flee")),
            .skill ⟨"hit", "slash", 0, none, none, .standard, .standard, .standard⟩]⟩]⟩,
        ⟨"rest",
          [⟨"sit",
            [gateway "wake" 0 (.switchMode "fight" none none),
              gateway "yawn" 1 (.castSkill "slash")]⟩]⟩] }

theorem Draft.duel_runsSafely :
    ∃ p, (duel.validate (.ofLists [{ Skill.named "slash" with key := some "1" }] [])).preset =
      some p ∧ p.RunsSafely := by
  have accepted : (duel.validate
      (.ofLists [{ Skill.named "slash" with key := some "1" }] [])).preset.isSome = true := by
    decide +kernel
  obtain ⟨p, valid⟩ := Option.isSome_iff_exists.mp accepted
  exact ⟨p, valid, runsSafely_of_validate valid⟩

end Rotation
