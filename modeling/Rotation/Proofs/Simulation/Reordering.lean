import Rotation.Proofs.Schedule.Reordering
import Rotation.Proofs.Simulation.Soundness

/-!
# Simulations do not depend on the order of declarations

A preset and one that is declared in another order are simulated side by side.
Both simulations run the same nodes at the same times and record the same; they
differ in the places at which the tracks are, and these stay inside.
-/

namespace Rotation

namespace Simulation

/-- The error about the renamed place. -/
def Error.rename (ρ : Renaming) : Error → Error
  | .cursorOutside place node => .cursorOutside (ρ.place place) node
  | .dispatch fault => .dispatch (fault.rename ρ)

namespace State

variable {ρ : Renaming} {p q : Preset} {s moved : State} {catalogue : Catalogue}
  {options : Options} {c : Candidate}

/-- Simulations stand at the same point, up to the places of cursors. -/
inductive Corresponds (ρ : Renaming) (s : State) : State → Prop
  | of_schedule {schedule : Schedule} (same : s.schedule.Corresponds ρ schedule) :
      Corresponds ρ s { s with schedule }

/-- The same result, with states that correspond. -/
inductive Together {α : Type} (ρ : Renaming) : α × State → α × State → Prop
  | of_corresponds (a : α) {s moved : State} (same : s.Corresponds ρ moved) :
      Together ρ (a, s) (a, moved)

namespace Corresponds

theorem schedule (corresponds : s.Corresponds ρ moved) :
    s.schedule.Corresponds ρ moved.schedule := by
  obtain ⟨same⟩ := corresponds
  exact same

theorem now_eq (corresponds : s.Corresponds ρ moved) : moved.now = s.now := by
  obtain ⟨_⟩ := corresponds
  rfl

theorem size_timeline_eq (corresponds : s.Corresponds ρ moved) :
    moved.timeline.size = s.timeline.size := by
  obtain ⟨_⟩ := corresponds
  rfl

theorem wait (corresponds : s.Corresponds ρ moved) (now : Nat) :
    ({ s with now } : State).Corresponds ρ { moved with now } := by
  obtain ⟨same⟩ := corresponds
  exact ⟨same⟩

theorem record (corresponds : s.Corresponds ρ moved) (c : Candidate) (node : String)
    (skill : Option String) (outcome : Outcome) (reason : Option String) :
    (s.record c node skill outcome reason).Corresponds ρ
      (moved.record (c.rename ρ) node skill outcome reason) := by
  obtain ⟨same⟩ := corresponds
  exact ⟨same⟩

theorem recordLoop (corresponds : s.Corresponds ρ moved) (c : Candidate) (looped : Option String) :
    (s.recordLoop c looped).Corresponds ρ (moved.recordLoop (c.rename ρ) looped) := by
  cases looped with
  | none => exact corresponds
  | some mode => exact corresponds.record c "" none .looped (some mode)

theorem advance (corresponds : s.Corresponds ρ moved) (c : Candidate) (time : Nat) :
    (s.advance c time).Corresponds ρ (moved.advance (c.rename ρ) time) := by
  obtain ⟨same⟩ := corresponds
  obtain ⟨looped_eq, after⟩ := same.advance c.place time
  simp only [State.advance, Candidate.rename, looped_eq]
  exact (Corresponds.of_schedule after).recordLoop c _

theorem resetMetrics (corresponds : s.Corresponds ρ moved) (gateway : Gateway) :
    (s.resetMetrics gateway).Corresponds ρ (moved.resetMetrics gateway) := by
  obtain ⟨same⟩ := corresponds
  unfold State.resetMetrics
  split
  · exact ⟨same⟩
  · exact ⟨same⟩

/-- A cast is tried alike, as it does not look at the schedule. -/
theorem alike_cast (corresponds : s.Corresponds ρ moved) (catalogue : Catalogue) (c : Candidate)
    (node id : String) :
    Alike Eq (Together ρ) (s.cast catalogue c node id)
      (moved.cast catalogue (c.rename ρ) node id) := by
  have refused : ∀ outcome reason,
      (s.record c node (some id) outcome reason).Corresponds ρ
        (moved.record (c.rename ρ) node (some id) outcome reason) :=
    fun outcome reason => corresponds.record c node (some id) outcome reason
  obtain ⟨same⟩ := corresponds
  unfold State.cast
  cases catalogue.skill? id with
  | none => exact .ok ⟨_, refused _ _⟩
  | some skill =>
      dsimp only
      split
      · exact .ok ⟨_, refused _ _⟩
      · split
        · exact .ok ⟨_, refused _ _⟩
        · apply Alike.bind_same (Unsigned.add 64 s.now skill.castMs.toNat)
          intro done
          apply Alike.bind_same (Unsigned.add 64 done skill.cooldownMs.toNat)
          intro ready
          exact .ok ⟨_, ⟨same⟩⟩

theorem alike_runSkill (corresponds : s.Corresponds ρ moved) (node : SkillNode) :
    Alike Eq (Corresponds ρ) (s.runSkill catalogue options c node)
      (moved.runSkill catalogue options (c.rename ρ) node) := by
  unfold State.runSkill
  apply (corresponds.alike_cast catalogue c node.id node.skill).bind
  rintro _ _ ⟨castMs, same⟩
  simp only [same.now_eq]
  cases castMs with
  | none =>
      apply Alike.bind_same
      intro next
      exact .ok (same.advance c next)
  | some castMs =>
      apply Alike.bind_same
      intro done
      apply Alike.bind_same
      intro next
      exact .ok (same.advance c next)

/-- What a fired gateway leaves to the simulation is done alike. -/
theorem alike_settle (corresponds : s.Corresponds ρ moved) (gateway : Gateway) (delay : Nat)
    (effect : Effect) :
    Alike Eq (Together ρ)
      (s.settle catalogue c gateway delay effect)
      (moved.settle catalogue (c.rename ρ) gateway delay (effect.rename ρ)) := by
  cases effect with
  | ended => exact .ok ⟨_, corresponds⟩
  | switched source target => exact .ok ⟨_, corresponds⟩
  | jumped target node => exact .ok ⟨_, corresponds⟩
  | cast skill =>
      apply (corresponds.alike_cast catalogue c ("exec:" ++ skill) skill).bind
      rintro _ _ ⟨castMs, same⟩
      simp only [same.now_eq]
      apply Alike.bind_same
      intro done
      apply Alike.bind_same
      intro next
      exact .ok ⟨_, same.advance c next⟩

end Corresponds

theorem effectOutcome_rename (carries : ρ.Carries p q) (c : Candidate) (effect : Effect) :
    effectOutcome q (c.rename ρ) (effect.rename ρ) = effectOutcome p c effect := by
  cases effect with
  | ended => rfl
  | switched source target => rfl
  | cast skill => rfl
  | jumped target node =>
      simp only [effectOutcome, Effect.rename, Candidate.rename, Renaming.place_inj,
        carries.track?_place]

/-- Steps fail alike, or end alike in states that correspond. -/
abbrev Parallel (ρ : Renaming) :
    Except Error (Option End × State) → Except Error (Option End × State) → Prop :=
  Alike (fun e f => f = e.rename ρ) (Together ρ)

namespace Corresponds

theorem alike_runGateway (corresponds : s.Corresponds ρ moved) (carries : ρ.Carries p q)
    (gateway : Gateway) :
    Alike Eq (Parallel ρ) (s.runGateway p catalogue options c gateway)
      (moved.runGateway q catalogue options (c.rename ρ) gateway) := by
  have value_eq : moved.evaluate catalogue gateway.condition =
      s.evaluate catalogue gateway.condition := by
    obtain ⟨_⟩ := corresponds
    rfl
  unfold State.runGateway
  dsimp only
  rw [value_eq]
  split
  · have recorded := corresponds.record c gateway.id none .passed
    simp only [(recorded _).now_eq]
    apply Alike.bind_same
    intro next
    exact .ok (.ok ⟨_, (recorded _).advance c next⟩)
  · have reset := corresponds.resetMetrics gateway
    generalize s.resetMetrics gateway = s, moved.resetMetrics gateway = moved at reset ⊢
    obtain ⟨same⟩ := reset
    apply (same.alike_dispatch carries c.place gateway s.now _).bind
    rintro ⟨result, schedule⟩ ⟨other, other_schedule⟩ ⟨results, after⟩
    dsimp only at results after
    rcases results.cases with ⟨fault, _, rfl, rfl, rfl⟩ | ⟨done, _, rfl, rfl, rfl⟩
    · exact .ok (.error rfl)
    · dsimp only
      rw [effectOutcome_rename carries]
      have fired : Corresponds ρ { s with schedule } { s with schedule := other_schedule } :=
        ⟨after⟩
      have recorded := (fired.record c gateway.id none (effectOutcome p c done.effect).1
        (effectOutcome p c done.effect).2).recordLoop c done.looped
      apply (recorded.alike_settle gateway _ done.effect).bind
      intro x y together
      exact .ok (.ok together)

/-- The node of a candidate is run alike. -/
theorem alike_step (corresponds : s.Corresponds ρ moved) (carries : ρ.Carries p q)
    (c : Candidate) :
    Alike Eq (Parallel ρ) (s.step p catalogue options c)
      (moved.step q catalogue options (c.rename ρ)) := by
  have same_node : ((q.track? (c.rename ρ).place).bind fun t => t.nodes[(c.rename ρ).node]?) =
      (p.track? c.place).bind fun t => t.nodes[c.node]? := by
    simp only [Candidate.rename, carries.track?_place]
  unfold State.step
  rw [same_node]
  cases (p.track? c.place).bind fun t => t.nodes[c.node]? with
  | none => exact .ok (.error rfl)
  | some n =>
      cases n with
      | skill node =>
          apply (corresponds.alike_runSkill node).bind
          intro after other same
          exact .ok (.ok ⟨_, same⟩)
      | gateway gateway => exact corresponds.alike_runGateway carries gateway

theorem report_eq (corresponds : s.Corresponds ρ moved) (carries : ρ.Carries p q)
    (ending : End) : moved.report q ending = s.report p ending := by
  obtain ⟨_⟩ := corresponds
  rw [report, report, carries.id_eq]

/-- Steps stop at the same fault, or go well alike. -/
theorem step_cases (corresponds : s.Corresponds ρ moved) (carries : ρ.Carries p q)
    (fits : s.schedule.Fits p) (sound : p.Sound) (catalogue : Catalogue) (options : Options)
    (mem : c ∈ s.schedule.candidates) :
    (∃ fault, s.step p catalogue options c = .error fault ∧
        moved.step q catalogue options (c.rename ρ) = .error fault) ∨
      ∃ ending after other, s.step p catalogue options c = .ok (.ok (ending, after)) ∧
        moved.step q catalogue options (c.rename ρ) = .ok (.ok (ending, other)) ∧
        after.Corresponds ρ other ∧ after.schedule.Fits p := by
  have alike : Alike Eq (Parallel ρ) (s.step p catalogue options c) _ :=
    corresponds.alike_step carries c
  rcases alike.cases with ⟨fault, _, failed, also_failed, rfl⟩ | ⟨_, _, went, also_went, results⟩
  · exact .inl ⟨fault, failed, also_failed⟩
  · obtain ⟨ending, after, rfl, ran⟩ := (step_meets fits sound mem).of_eq_ok went
    cases results with
    | ok together =>
        obtain ⟨_, same⟩ := together
        exact .inr ⟨ending, after, _, went, also_went, same, ran.fits sound fits⟩

/-- From states that correspond, simulations come to the same report. -/
theorem run_eq (corresponds : s.Corresponds ρ moved) (carries : ρ.Carries p q)
    (fits : s.schedule.Fits p) (sound : p.Sound) (budget : Nat) :
    run q catalogue options budget moved = run p catalogue options budget s := by
  induction budget generalizing s moved with
  | zero => rw [run, run, corresponds.report_eq carries]
  | succ budget ih =>
      unfold run
      dsimp only
      rw [corresponds.size_timeline_eq, corresponds.now_eq, corresponds.schedule.nextWakeup_eq,
        corresponds.report_eq carries, corresponds.report_eq carries]
      split
      · rfl
      · cases s.schedule.nextWakeup with
        | none => rfl
        | some due =>
            have later := corresponds.wait (max s.now due)
            dsimp only
            rw [later.report_eq carries, later.report_eq carries,
              corresponds.schedule.pick_eq fits carries.distinctTracks]
            split
            · rfl
            · cases picked : s.schedule.pick (max s.now due) with
              | none => rfl
              | some c =>
                  have mem : c ∈ s.schedule.candidates := List.mem_of_find?_eq_some picked
                  dsimp only [Option.map_some]
                  rcases later.step_cases carries fits sound catalogue options mem with
                    ⟨fault, failed, also_failed⟩ |
                      ⟨ending, after, other, went, also_went, same, still_fits⟩
                  · rw [failed, also_failed]
                    rfl
                  · rw [went, also_went, Checked.ok_bind, Checked.ok_bind]
                    cases ending with
                    | none => exact ih same still_fits
                    | some ending =>
                        dsimp only
                        rw [same.report_eq carries]

end Corresponds

end State

end Simulation

/-- A simulation of a validated preset does not depend on the order in which its
global tracks, its modes and their tracks are declared: it has the same timeline
and ends alike, at the same time, with the same cooldowns and metrics. -/
theorem Draft.simulate_eq_of_reorders {d : Draft} {catalogue : Catalogue} {p q : Preset}
    (valid : (d.validate catalogue).preset = some p) (reorders : p.Reorders q)
    (used : Catalogue) (options : Simulation.Options) :
    Simulation.simulate q used options = Simulation.simulate p used options := by
  have compiles := compiles_of_validate valid
  have sound : p.Sound := fun place track gateway there mem => compiles.resolves_of_mem there mem
  obtain ⟨ρ, carries⟩ :=
    reorders.exists_carries compiles.hasDistinctTracks compiles.hasDistinctModes
  have start : (Simulation.State.start p).Corresponds ρ (.start q) :=
    ⟨Schedule.corresponds_start carries 0 reorders.entry⟩
  exact start.run_eq carries (Schedule.fits_start p 0) sound options.maxNodes

/-- A draft with two tracks everywhere, all of which cast the same skill; it
starts in its second mode. -/
def Draft.parade : Draft :=
  let walks := fun id => Track.mk id
    [.skill ⟨"step", "slash", 0, none, none, .standard, .standard, .standard⟩]
  { id := "parade"
    name := ""
    entryMode := some "street"
    defaultGapMs := 0
    globalTracks := [walks "drum", walks "horn"]
    modes :=
      [⟨"square", [walks "left", walks "right"]⟩, ⟨"street", [walks "front", walks "rear"]⟩] }

/-- The parade goes the same way when it is declared backwards. -/
theorem Draft.parade_marches_alike :
    ∃ p, (parade.validate (.ofLists [{ Skill.named "slash" with key := some "1" }] [])).preset =
        some p ∧ p.entryMode = some 1 ∧ p.reversed.entryMode = some 0 ∧
      p.reversed.globalTracks.map Rotation.Track.id = ["horn", "drum"] ∧
      ∀ used options, Simulation.simulate p.reversed used options =
        Simulation.simulate p used options := by
  have accepted : ((parade.validate
      (.ofLists [{ Skill.named "slash" with key := some "1" }] [])).preset.any fun p =>
        p.entryMode == some 1 && p.reversed.entryMode == some 0 &&
          p.reversed.globalTracks.map Rotation.Track.id == ["horn", "drum"]) = true := by
    decide +kernel
  obtain ⟨p, valid, there⟩ := (Option.any_eq_true _ _).mp accepted
  simp only [Bool.and_eq_true, beq_iff_eq] at there
  obtain ⟨⟨entry, reversed_entry⟩, globals⟩ := there
  exact ⟨p, valid, entry, reversed_entry, globals,
    simulate_eq_of_reorders valid p.reorders_reversed⟩

end Rotation
