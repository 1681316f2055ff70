import Rotation.Proofs.Preset.Grounding
import Rotation.Proofs.Simulation.Soundness

/-!
# The course of a simulation

All that a simulation does is done in a few kinds of moves: time passes, tracks
move on, gateways are passed or fire, and casts are tried.  Each entry of the
timeline belongs to one move, together with what the move does to the counters
and to the cooldowns.  A report tells of a state that has been reached by such
moves from the beginning.
-/

namespace Rotation

/-- A candidate stands for a node, and the track of the node is named rightly. -/
def Preset.StandsFor (p : Preset) (c : Candidate) (n : Node) : Prop :=
  ∃ track, p.track? c.place = some track ∧ track.nodes[c.node]? = some n ∧ c.track = track.id

theorem Schedule.Fits.exists_standsFor {s : Schedule} {p : Preset} (fits : s.Fits p)
    {c : Candidate} (mem : c ∈ s.candidates) : ∃ n, p.StandsFor c n := by
  obtain ⟨track, n, there, found, named⟩ := fits.node_of_mem mem
  exact ⟨n, track, there, found, named⟩

namespace Simulation

namespace State

/-! ## Entries and casts -/

section

variable (s : State) (c : Candidate) (own : Skill) (id node : String)

theorem timeline_record (skill : Option String) (outcome : Outcome) (reason : Option String) :
    (s.record c node skill outcome reason).timeline = s.timeline.push
      ⟨s.timeline.size, s.now, c.track, node, skill, outcome, reason⟩ :=
  rfl

@[simp]
theorem readyAt_record (skill : Option String) (outcome : Outcome) (reason : Option String) :
    (s.record c node skill outcome reason).readyAt = s.readyAt :=
  rfl

@[simp]
theorem store_record (skill : Option String) (outcome : Outcome) (reason : Option String) :
    (s.record c node skill outcome reason).store = s.store :=
  rfl

/-- The attempt of a skill is counted, and its cooldown is set. -/
def afterCast : State :=
  let counted := s.attempt id node (s.now + own.castMs.toNat)
  { counted with
    readyAt := counted.readyAt.insert id (s.now + own.castMs.toNat + own.cooldownMs.toNat) }

@[simp]
theorem timeline_afterCast : (s.afterCast own id node).timeline = s.timeline := by
  simp only [afterCast, attempt]

@[simp]
theorem now_afterCast : (s.afterCast own id node).now = s.now := by
  simp only [afterCast, attempt]

@[simp]
theorem readyAt_afterCast : (s.afterCast own id node).readyAt =
    s.readyAt.insert id (s.now + own.castMs.toNat + own.cooldownMs.toNat) := by
  simp only [afterCast, attempt]

/-- The entry of a cast tells when it was begun. -/
theorem timeline_record_afterCast :
    ((s.afterCast own id node).record c node (some id) .cast none).timeline =
      s.timeline.push ⟨s.timeline.size, s.now, c.track, node, some id, .cast, none⟩ := by
  rw [timeline_record, timeline_afterCast, now_afterCast]

theorem store_afterCast : (s.afterCast own id node).store =
    (s.attempt id node (s.now + own.castMs.toNat)).store := by
  simp only [afterCast]

end

/-! ## Moves -/

/-- What becomes of a cast that is tried, with the one entry that tells of it. -/
inductive Tries (catalogue : Catalogue) (s : State) (c : Candidate) (node id : String) :
    State → Prop
  | unknown (missing : catalogue.skill? id = none) :
      Tries catalogue s c node id
        (s.record c node (some id) .skippedDisabled (some "skill_not_found"))
  | disabled {own : Skill} (found : catalogue.skill? id = some own) (off : own.enabled = false) :
      Tries catalogue s c node id
        (s.record c node (some id) .skippedDisabled (some "skill_disabled"))
  | cooling {own : Skill} {ready : Nat} (found : catalogue.skill? id = some own)
      (on : own.enabled = true) (cools : s.readyAt.find? id = some ready) (early : s.now < ready) :
      Tries catalogue s c node id
        (s.record c node (some id) .skippedCooldown (some "cd_not_ready"))
  | casts {own : Skill} (found : catalogue.skill? id = some own) (on : own.enabled = true)
      (due : ∀ ready, s.readyAt.find? id = some ready → ready ≤ s.now) :
      Tries catalogue s c node id
        ((s.afterCast own id node).record c node (some id) .cast none)

/-- What is done in one move. -/
inductive Does (p : Preset) (catalogue : Catalogue) (s : State) : State → Prop
  | waits {time : Nat} (later : s.now ≤ time) : Does p catalogue s { s with now := time }
  | moves (schedule : Schedule) : Does p catalogue s { s with schedule }
  | loops (c : Candidate) (mode : String) :
      Does p catalogue s (s.record c "" none .looped (some mode))
  | passes {c : Candidate} {gateway : Gateway} {value : Evaluation}
      (stands : p.StandsFor c (.gateway gateway))
      (found : s.evaluate catalogue gateway.condition = value) (untrue : value.isTrue = false) :
      Does p catalogue s
        (s.record c gateway.id none .passed (some (value.reason.getD value.truth.name)))
  | fires {c : Candidate} {gateway : Gateway} (effect : Effect)
      (stands : p.StandsFor c (.gateway gateway)) :
      Does p catalogue s ((s.resetMetrics gateway).record c gateway.id none
        (effectOutcome p c effect).1 (effectOutcome p c effect).2)
  | tries {c : Candidate} {n : Node} {id : String} {s' : State} (node : String)
      (stands : p.StandsFor c n) (casts : n.castSkill? = some id)
      (tried : s.Tries catalogue c node id s') : Does p catalogue s s'

/-- A state that moves lead to. -/
def Reaches (p : Preset) (catalogue : Catalogue) : State → State → Prop :=
  Relation.ReflTransGen (Does p catalogue)

variable {p : Preset} {catalogue : Catalogue} {options : Options} {s s' : State} {c : Candidate}

/-! ## A step is made of moves -/

theorem tries_of_cast {node id : String} {castMs : Option Nat}
    (done : s.cast catalogue c node id = .ok (castMs, s')) : s.Tries catalogue c node id s' := by
  unfold cast at done
  split at done
  · rename_i missing
    cases done
    exact .unknown missing
  · rename_i own found
    split at done
    · rename_i off
      cases done
      exact .disabled found (by simpa using off)
    · rename_i on
      split at done
      · rename_i cooling
        obtain ⟨ready, cools, early⟩ := (Option.any_eq_true _ _).mp cooling
        cases done
        exact .cooling found (by simpa using on) cools (by simpa using early)
      · rename_i cooled
        obtain ⟨until_done, ended, rest⟩ := Checked.bind_eq_ok_iff.mp done
        obtain ⟨ready, added, recorded⟩ := Checked.bind_eq_ok_iff.mp rest
        obtain ⟨_, rfl⟩ := Unsigned.add_eq_ok_iff.mp ended
        obtain ⟨_, rfl⟩ := Unsigned.add_eq_ok_iff.mp added
        cases recorded
        refine .casts found (by simpa using on) ?_
        intro ready cools
        simpa [cools] using cooled

theorem reaches_cast {n : Node} {node id : String} {castMs : Option Nat} (stands : p.StandsFor c n)
    (casts : n.castSkill? = some id) (done : s.cast catalogue c node id = .ok (castMs, s')) :
    Reaches p catalogue s s' :=
  .single (.tries node stands casts (tries_of_cast done))

theorem reaches_recordLoop (s : State) (c : Candidate) (looped : Option String) :
    Reaches p catalogue s (s.recordLoop c looped) := by
  cases looped with
  | none => exact .refl
  | some mode => exact .single (.loops c mode)

theorem reaches_advance (s : State) (c : Candidate) (time : Nat) :
    Reaches p catalogue s (s.advance c time) :=
  .head (.moves _) (reaches_recordLoop _ c _)

theorem reaches_runSkill {node : SkillNode} (stands : p.StandsFor c (.skill node))
    (ran : s.runSkill catalogue options c node = .ok s') : Reaches p catalogue s s' := by
  unfold runSkill at ran
  obtain ⟨⟨castMs, after⟩, done, rest⟩ := Checked.bind_eq_ok_iff.mp ran
  have cast := reaches_cast stands rfl done
  cases castMs with
  | none =>
      obtain ⟨next, _, advanced⟩ := Checked.bind_eq_ok_iff.mp rest
      cases advanced
      exact cast.trans (reaches_advance after c next)
  | some castMs =>
      obtain ⟨_, _, later⟩ := Checked.bind_eq_ok_iff.mp rest
      obtain ⟨next, _, advanced⟩ := Checked.bind_eq_ok_iff.mp later
      cases advanced
      exact cast.trans (reaches_advance after c next)

theorem reaches_settle {gateway : Gateway} {delay : Nat} {effect : Effect} {ending : Option End}
    (stands : p.StandsFor c (.gateway gateway))
    (asks : ∀ skill, effect = .cast skill → gateway.action = .castSkill skill)
    (settled : s.settle catalogue c gateway delay effect = .ok (ending, s')) :
    Reaches p catalogue s s' := by
  cases effect with
  | ended | switched source target | jumped target node =>
      cases settled
      exact .refl
  | cast skill =>
      have casts : (Node.gateway gateway).castSkill? = some skill := by
        simp [Node.castSkill?, asks skill rfl]
      obtain ⟨⟨castMs, after⟩, done, rest⟩ := Checked.bind_eq_ok_iff.mp settled
      obtain ⟨_, _, later⟩ := Checked.bind_eq_ok_iff.mp rest
      obtain ⟨next, _, advanced⟩ := Checked.bind_eq_ok_iff.mp later
      cases advanced
      exact (reaches_cast stands casts done).trans (reaches_advance after c next)

theorem reaches_runGateway {gateway : Gateway} {ending : Option End}
    (stands : p.StandsFor c (.gateway gateway))
    (ran : s.runGateway p catalogue options c gateway = .ok (.ok (ending, s'))) :
    Reaches p catalogue s s' := by
  unfold runGateway at ran
  dsimp only at ran
  split at ran
  · rename_i untrue
    obtain ⟨next, _, advanced⟩ := Checked.bind_eq_ok_iff.mp ran
    cases advanced
    exact .head (.passes stands rfl (by simpa using untrue)) (reaches_advance _ c next)
  · obtain ⟨⟨result, schedule⟩, fired, rest⟩ := Checked.bind_eq_ok_iff.mp ran
    cases result with
    | error fault => cases rest
    | ok done =>
        obtain ⟨⟨_, after⟩, settled, same⟩ := Checked.bind_eq_ok_iff.mp rest
        cases same
        have asks : ∀ skill, done.effect = .cast skill → gateway.action = .castSkill skill := by
          intro skill effect_eq
          exact Schedule.castSkill_of_dispatch fired effect_eq
        refine .head (.fires done.effect stands) (.head (.moves schedule) ?_)
        exact (reaches_recordLoop _ c done.looped).trans (reaches_settle stands asks settled)

theorem reaches_step {n : Node} {ending : Option End} (stands : p.StandsFor c n)
    (ran : s.step p catalogue options c = .ok (.ok (ending, s'))) : Reaches p catalogue s s' := by
  have ⟨track, there, found, _⟩ := stands
  have looked_up : ((p.track? c.place).bind fun t => t.nodes[c.node]?) = some n := by
    rw [there]
    exact found
  rw [step, looked_up] at ran
  cases n with
  | skill node =>
      obtain ⟨after, done, same⟩ := Checked.bind_eq_ok_iff.mp ran
      cases same
      exact reaches_runSkill stands done
  | gateway gateway => exact reaches_runGateway stands ran

/-! ## Runs -/

/-- A report tells of a state that has been reached. -/
theorem exists_reaches_of_run {budget : Nat} {report : Report} (fits : s.schedule.Fits p)
    (sound : p.Sound) (ran : run p catalogue options budget s = .ok (.ok report)) :
    ∃ s' ending, Reaches p catalogue s s' ∧ report = s'.report p ending := by
  induction budget generalizing s with
  | zero =>
      cases ran
      exact ⟨s, _, .refl, rfl⟩
  | succ budget ih =>
      unfold run at ran
      split at ran
      · cases ran
        exact ⟨s, _, .refl, rfl⟩
      · split at ran
        · cases ran
          exact ⟨s, _, .refl, rfl⟩
        · rename_i due _
          have waited : Reaches p catalogue s { s with now := max s.now due } :=
            .single (.waits (Nat.le_max_left _ _))
          dsimp only at ran
          split at ran
          · cases ran
            exact ⟨_, _, waited, rfl⟩
          · split at ran
            · cases ran
              exact ⟨_, _, waited, rfl⟩
            · rename_i c picked
              have mem : c ∈ s.schedule.candidates := List.mem_of_find?_eq_some picked
              obtain ⟨n, stands⟩ := fits.exists_standsFor mem
              obtain ⟨result, stepped, rest⟩ := Checked.bind_eq_ok_iff.mp ran
              rcases result with error | ⟨ending, moved⟩
              · cases rest
              · have reached := waited.trans (reaches_step stands stepped)
                cases ending with
                | some ending =>
                    cases rest
                    exact ⟨moved, _, reached, rfl⟩
                | none =>
                    have moved_fits : moved.schedule.Fits p := by
                      obtain ⟨_, _, same, ran⟩ :=
                        (step_meets (s := { s with now := max s.now due }) fits sound
                          mem).of_eq_ok stepped
                      cases same
                      exact ran.fits sound fits
                    obtain ⟨last, ending, onward, report_eq⟩ := ih moved_fits rest
                    exact ⟨last, ending, reached.trans onward, report_eq⟩

end State

/-- A simulation of a sound preset has a report of a state that has been
reached, unless a sum overflows. -/
theorem simulate_meets {p : Preset} (sound : p.Sound) (catalogue : Catalogue) (options : Options) :
    (simulate p catalogue options).Meets fun result =>
      ∃ s ending, State.Reaches p catalogue (.start p) s ∧ result = .ok (s.report p ending) := by
  have fits : (State.start p).schedule.Fits p := Schedule.fits_start p 0
  rcases State.run_meets fits sound options.maxNodes with ⟨_, simulated, report, rfl⟩ | overflow
  · obtain ⟨s, ending, reached, rfl⟩ := State.exists_reaches_of_run fits sound simulated
    exact .inl ⟨_, simulated, s, ending, reached, rfl⟩
  · exact .inr overflow

/-- The same for a validated preset. -/
theorem simulate_meets_of_validate {d : Draft} {validated : Catalogue} {p : Preset}
    (valid : (d.validate validated).preset = some p) (catalogue : Catalogue) (options : Options) :
    (simulate p catalogue options).Meets fun result =>
      ∃ s ending, State.Reaches p catalogue (.start p) s ∧ result = .ok (s.report p ending) := by
  apply simulate_meets
  intro place track gateway there mem
  exact (Draft.compiles_of_validate valid).resolves_of_mem there mem

end Simulation

end Rotation
