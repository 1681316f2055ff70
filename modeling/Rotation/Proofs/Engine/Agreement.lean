import Rotation.Proofs.Cast.Pace
import Rotation.Proofs.Engine.Course
import Rotation.Proofs.Simulation.Turns

/-!
# Engines and simulations

An engine and a simulation that run the same node move their schedules alike,
though they come to the times in different ways: an engine adds a delay to the
time at which an attempt has ended, and a simulation works out ahead when that
will be.  They agree if attempts are ideal: a skill that can be cast succeeds in
exactly its cast time, and any other is passed over at once.
-/

namespace Rotation

/-- How an attempt that began at some time goes on ideally.  If it ends now, it
does so with success, and after exactly as long as the cast takes; or, if
nothing can be cast, it is passed over, and no time has passed. -/
def Cast.Next.isIdeal (castMs : Option Nat) (begun now : Nat) : Cast.Next → Bool
  | .finished outcome =>
    match castMs with
    | some castMs => outcome.verdict == .success && now == begun + castMs
    | none => outcome.verdict == .skipped && outcome.advance && now == begun
  | _ => true

namespace Errand

/-- Whose track an outcome moves. -/
def candidate : Errand → Candidate
  | .node c _ | .extra c _ _ => c

/-- How long the track waits after an outcome. -/
def delayAfter (outcome : Cast.Outcome) : Errand → Nat
  | .node _ _ => outcome.delayMs
  | .extra _ _ delay => delay

/-- When the track moves on after an ideal attempt that began at some time. -/
def dueTime (settings : EngineSettings) (castMs : Option Nat) (begun : Nat) : Errand → Nat
  | .node _ skill =>
    match castMs with
    | some castMs => begun + castMs + skill.gapMs
    | none => begun + settings.skipRetryMs.toNat
  | .extra _ _ delay => begun + castMs.getD 0 + delay

end Errand

/-- A run has moved as a step of a simulation: their schedules are the same, and
the run is about to end at a gateway exactly if the simulation does. -/
structure Run.Follows (r : Run) (ending : Option Simulation.End) (s : Simulation.State) :
    Prop where
  schedule : r.schedule = s.schedule
  ending : ∀ id, r.phase = .ending (.ended id) ↔ ending = some (.gateway id)

namespace Engine

variable {τ : Type}

/-- The attempt that a run is at. -/
def underWay? (e : Engine τ) : Option (Errand × Cast.Phase) :=
  e.run.bind fun r => r.phase.attempt?

/-- Whether the next step of a run is ideal, if it is one of an attempt that
began at some time: it does not crash, and the attempt goes on ideally. -/
def stepsIdeally (e : Engine τ) (d : Devices τ) (castTime? : String → Option Nat)
    (begun : Nat) : Bool :=
  match e.run.map Run.phase with
  | some (.casting errand phase) =>
    match e.perform ((e.caster d).step errand.attempted phase) with
    | (.ok next, e) => next.isIdeal (castTime? errand.attempted.skill) begun e.session.now
    | (.error _, _) => false
  | _ => true

/-- Whether a run is at an attempt until the last of some moves, and no longer,
and all its steps are ideal. -/
def Among.seesThrough (d : Devices τ) (castTime? : String → Option Nat) (begun : Nat)
    (a : Among τ) : List (Move τ) → Bool
  | [] => a.1.underWay?.isNone
  | move :: rest =>
    let ideal := match move with
      | .go => a.1.stepsIdeally d castTime? begun
      | .stir _ | .arrive _ | .hangUp => true
    a.1.underWay?.isSome && ideal && seesThrough d castTime? begun (a.move d move) rest

/-- A run stands where a simulation stands: they run the same preset with the
same delays, at the same time and from the same schedule, and if a candidate is
a gateway, its condition is as true for one as for the other. -/
structure Alongside (e : Engine τ) (d : Devices τ) (r : Run) (s : Simulation.State) (p : Preset)
    (catalogue : Catalogue) (options : Simulation.Options) (c : Candidate) : Prop where
  preset : r.preset = p
  schedule : r.schedule = s.schedule
  now : e.session.now = s.now
  retry : e.settings.engine.skipRetryMs.toNat = options.skipRetryMs
  delay : e.settings.engine.gatewayDelayMs.toNat = options.gatewayDelayMs
  evaluates : ∀ gateway, p.node? c = some (.gateway gateway) → ∃ found,
    (e.perform ((e.caster d).eval gateway.condition)).1 = .ok found ∧
      found.isTrue = (s.evaluate catalogue gateway.condition).isTrue

variable {d : Devices τ} {e : Engine τ} {r : Run}

/-! ## The end of an attempt -/

/-- A run has moved the track of a candidate on, and reads its commands again. -/
def HasMoved (place : Place) (due : Nat) (schedule : Schedule) (e : Engine τ) : Prop :=
  ∃ r, e.run = some r ∧ r.schedule = (schedule.advance place due).2 ∧ r.phase = .draining

theorem hasMoved_advanceAfter {place : Place} {delay : Nat}
    (in_word : Unsigned.Fits 64 (e.session.now + delay)) :
    (e.advanceAfter r place delay).HasMoved place (e.session.now + delay) r.schedule := by
  have added : Unsigned.add 64 e.session.now delay = .ok (e.session.now + delay) :=
    Unsigned.add_eq_ok_iff.mpr ⟨in_word, rfl⟩
  rw [advanceAfter, added]
  exact ⟨_, rfl, rfl, rfl⟩

/-- An attempt that has not been stopped moves its track on if its outcome says
so. -/
theorem conclude_eq {errand : Errand} {outcome : Cast.Outcome} (going : outcome.verdict ≠ .stopped)
    (advances : outcome.advance = true) :
    e.conclude r outcome errand =
      e.advanceAfter r errand.candidate.place (errand.delayAfter outcome) := by
  cases errand with
  | node c skill =>
      rw [conclude, if_neg going, if_pos advances]
      rfl
  | extra c skill delay =>
      rw [conclude, if_neg going]
      rfl

/-- After an ideal end the time and the delay come to what could be told ahead. -/
theorem add_delayAfter {settings : EngineSettings} {errand : Errand} {outcome : Cast.Outcome}
    {castMs : Option Nat} {begun now : Nat} (paced : outcome.Paced settings errand.attempted)
    (ideal : (Cast.Next.finished outcome).isIdeal castMs begun now = true) :
    outcome.verdict ≠ .stopped ∧ outcome.advance = true ∧
      now + errand.delayAfter outcome = errand.dueTime settings castMs begun := by
  cases castMs with
  | some castMs =>
      simp only [Cast.Next.isIdeal, Bool.and_eq_true, beq_iff_eq] at ideal
      obtain ⟨success, rfl⟩ := ideal
      rw [Cast.Outcome.Paced, success] at paced
      obtain ⟨advances, delay_eq⟩ := paced
      refine ⟨by simp [success], advances, ?_⟩
      cases errand with
      | node c skill => rw [Errand.delayAfter, delay_eq, Errand.attempted, Errand.dueTime]
      | extra c skill delay => rfl
  | none =>
      simp only [Cast.Next.isIdeal, Bool.and_eq_true, beq_iff_eq] at ideal
      obtain ⟨⟨skipped, advances⟩, rfl⟩ := ideal
      rw [Cast.Outcome.Paced, skipped] at paced
      refine ⟨by simp [skipped], advances, ?_⟩
      cases errand with
      | node c skill => rw [Errand.delayAfter, paced, Errand.dueTime]
      | extra c skill delay => rfl

/-- An ideal end moves the track on at the time that could be told ahead. -/
theorem hasMoved_conclude {errand : Errand} {outcome : Cast.Outcome} {castMs : Option Nat}
    {begun : Nat} (paced : outcome.Paced e.settings.engine errand.attempted)
    (ideal : (Cast.Next.finished outcome).isIdeal castMs begun e.session.now = true)
    (in_word : Unsigned.Fits 64 (errand.dueTime e.settings.engine castMs begun)) :
    (e.conclude r outcome errand).HasMoved errand.candidate.place
      (errand.dueTime e.settings.engine castMs begun) r.schedule := by
  obtain ⟨going, advances, due_eq⟩ := add_delayAfter paced ideal
  rw [conclude_eq going advances]
  rw [← due_eq] at in_word ⊢
  exact hasMoved_advanceAfter in_word

/-! ## The course of an attempt -/

/-- A run is at an attempt for an errand. -/
structure Attempts (errand : Errand) (schedule : Schedule) (settings : Settings)
    (e : Engine τ) : Prop where
  settings : e.settings = settings
  run : ∃ r phase, e.run = some r ∧ r.schedule = schedule ∧
    r.phase.attempt? = some (errand, phase)

variable {errand : Errand} {schedule : Schedule} {settings : Settings}
  {castTime? : String → Option Nat} {begun : Nat}

theorem exists_session_of_perform {α : Type} {x : Live (Watch τ) α} {result : Except Crash α}
    {e' : Engine τ} (performed : e.perform x = (result, e')) :
    ∃ session, x.run.run e.session = (result, session) ∧ e' = { e with session } := by
  cases performed
  exact ⟨_, rfl, rfl⟩

theorem Attempts.underWay?_ne (attempts : e.Attempts errand schedule settings) :
    e.underWay? ≠ none := by
  obtain ⟨r, phase, run, _, under_way⟩ := attempts.run
  simp [underWay?, run, under_way]

theorem HasMoved.underWay?_eq {place : Place} {due : Nat}
    (moved : e.HasMoved place due schedule) : e.underWay? = none := by
  obtain ⟨r, run, _, draining⟩ := moved
  rw [underWay?, run, Option.bind_some, draining]
  rfl

/-- An ideal step leaves a run at its attempt, or moves the track on. -/
theorem Attempts.step (attempts : e.Attempts errand schedule settings)
    (ideal : e.stepsIdeally d castTime? begun = true)
    (in_word : Unsigned.Fits 64
      (errand.dueTime settings.engine (castTime? errand.attempted.skill) begun)) :
    (e.step d).Attempts errand schedule settings ∨
      (e.step d).HasMoved errand.candidate.place
        (errand.dueTime settings.engine (castTime? errand.attempted.skill) begun) schedule := by
  obtain ⟨rfl, r, phase, run, rfl, under_way⟩ := attempts
  cases phase_eq : r.phase with
  | draining | checking | choosing | listening | ending | ended =>
      rw [phase_eq] at under_way
      contradiction
  | resting deadline waker own rest =>
      rw [phase_eq] at under_way
      cases under_way
      left
      simp only [Engine.step, run, phase_eq, wake]
      split
      · exact ⟨rfl, _, _, rfl, rfl, rfl⟩
      · exact ⟨rfl, r, phase, run, rfl, phase_eq ▸ rfl⟩
  | casting own current =>
      rw [phase_eq] at under_way
      cases under_way
      simp only [stepsIdeally, run, Option.map_some, phase_eq] at ideal
      simp only [Engine.step, run, phase_eq, cast]
      rcases performed : e.perform ((e.caster d).step errand.attempted phase) with
        ⟨crash | next, e'⟩
      · simp [performed] at ideal
      simp only [performed] at ideal ⊢
      obtain ⟨session, ran, rfl⟩ := exists_session_of_perform performed
      cases next with
      | finished outcome =>
          right
          have paced := Cast.Caster.paced_step _ _ _ _ _ _ ran outcome rfl
          exact hasMoved_conclude paced ideal in_word
      | proceed later | sleep ms later | await ms later =>
          left
          exact ⟨rfl, _, _, rfl, rfl, rfl⟩

/-- What others do leaves a run at its attempt, and so does an ideal step, unless
it moves the track on. -/
theorem Attempts.move {a : Among τ} (attempts : a.1.Attempts errand schedule settings)
    (move : Move τ) (ideal : move = .go → a.1.stepsIdeally d castTime? begun = true)
    (in_word : Unsigned.Fits 64
      (errand.dueTime settings.engine (castTime? errand.attempted.skill) begun)) :
    (a.move d move).1.Attempts errand schedule settings ∨
      (a.move d move).1.HasMoved errand.candidate.place
        (errand.dueTime settings.engine (castTime? errand.attempted.skill) begun) schedule := by
  cases move with
  | go => exact attempts.step (ideal rfl) in_word
  | stir stir => exact .inl ⟨attempts.settings, attempts.run⟩
  | arrive command =>
      obtain ⟨settings_eq, r, phase, run, schedule_eq, under_way⟩ := attempts
      left
      simp only [Among.move, receive, run]
      exact ⟨settings_eq, _, phase, rfl, schedule_eq, under_way⟩
  | hangUp =>
      obtain ⟨settings_eq, r, phase, run, schedule_eq, under_way⟩ := attempts
      left
      simp only [Among.move, disconnect, run]
      exact ⟨settings_eq, _, phase, rfl, schedule_eq, under_way⟩

/-- A run that is at no attempt has seen it through. -/
theorem eq_nil_of_seesThrough {a : Among τ} {moves : List (Move τ)}
    (idle : a.1.underWay? = none) (sees : a.seesThrough d castTime? begun moves = true) :
    moves = [] := by
  cases moves with
  | nil => rfl
  | cons move rest => simp [Among.seesThrough, idle] at sees

/-- An attempt that is seen through moves the track of its candidate on. -/
theorem Attempts.seesThrough {a : Among τ} {moves : List (Move τ)}
    (attempts : a.1.Attempts errand schedule settings)
    (in_word : Unsigned.Fits 64
      (errand.dueTime settings.engine (castTime? errand.attempted.skill) begun))
    (sees : a.seesThrough d castTime? begun moves = true) :
    (a.moves d moves).1.HasMoved errand.candidate.place
      (errand.dueTime settings.engine (castTime? errand.attempted.skill) begun) schedule := by
  induction moves generalizing a with
  | nil => exact absurd (Option.isNone_iff_eq_none.mp sees) attempts.underWay?_ne
  | cons move rest ih =>
      simp only [Among.seesThrough, Bool.and_eq_true] at sees
      obtain ⟨⟨_, ideal⟩, later⟩ := sees
      rcases attempts.move move (by rintro rfl; exact ideal) in_word with still | moved
      · exact ih still later
      · obtain rfl := eq_nil_of_seesThrough moved.underWay?_eq later
        exact moved

/-! ## Gateways -/

/-- An evaluation takes no time. -/
theorem now_of_eval {condition : Condition} {result : Except Crash Evaluation} {e' : Engine τ}
    (performed : e.perform ((e.caster d).eval condition) = (result, e')) :
    e'.session.now = e.session.now := by
  obtain ⟨acts, _, does, _⟩ := Live.acts_eval d.rig e.session e.catalogue condition
  have same := (perform_of_does does e.session.bus).symm.trans performed
  rw [← (Prod.mk.inj same).2]
  exact now_after e d acts

/-- A fired gateway that casts nothing leaves the schedule as it is, and the run at
no attempt; the run ends at the gateway exactly if it is to. -/
theorem exists_run_of_carryOut {c : Candidate} {gateway : Gateway} {delay now : Nat}
    {effect : Effect} (uncast : ∀ skill, effect ≠ .cast skill) :
    ∃ r', (e.carryOut d r c gateway delay now effect).run = some r' ∧
      r'.schedule = r.schedule ∧ r'.phase.attempt? = none ∧
      ∀ id, r'.phase = .ending (.ended id) ↔ effect = .ended ∧ id = gateway.id := by
  cases effect with
  | ended => exact ⟨_, rfl, rfl, rfl, fun id => by simp [eq_comm]⟩
  | switched source target =>
      unfold carryOut
      dsimp only
      split
      · exact ⟨_, rfl, rfl, rfl, fun id => by simp⟩
      · exact ⟨_, rfl, rfl, rfl, fun id => by simp⟩
  | jumped target node => exact ⟨_, rfl, rfl, rfl, fun id => by simp⟩
  | cast skill => exact absurd rfl (uncast skill)

/-- A gateway that is evaluated tells of it, and fires or is passed in no time. -/
theorem exists_gateway_eq {c : Candidate} {gateway : Gateway} {found : Evaluation}
    (evaluated : (e.perform ((e.caster d).eval gateway.condition)).1 = .ok found) :
    ∃ told : Engine τ, told.session.now = e.session.now ∧
      e.gateway d r c gateway =
        if found.isTrue then
          told.fire d r c gateway (gateway.gapMs.getD e.settings.engine.gatewayDelayMs.toNat)
        else
          told.advanceAfter r c.place
            (gateway.gapMs.getD e.settings.engine.gatewayDelayMs.toNat) := by
  rcases performed : e.perform ((e.caster d).eval gateway.condition) with ⟨result, e'⟩
  rw [performed] at evaluated
  obtain rfl : result = .ok found := evaluated
  have now_eq := now_of_eval performed
  obtain ⟨session, _, rfl⟩ := exists_session_of_perform performed
  let told := ({ e with session } : Engine τ).publish
    (.gateway gateway.id c.track gateway.action.name found.isTrue found.reason session.now)
  refine ⟨told, now_eq, ?_⟩
  rw [Engine.gateway, performed]

theorem exists_run_of_fire {c : Candidate} {gateway : Gateway} {delay : Nat} {effect : Effect}
    {looped : Option String} {moved : Schedule}
    (fired : r.schedule.dispatch r.preset c.place gateway e.session.now delay =
      .ok (.ok ⟨effect, looped⟩, moved))
    (uncast : ∀ skill, effect ≠ .cast skill) :
    ∃ r', (e.fire d r c gateway delay).run = some r' ∧ r'.schedule = moved ∧
      r'.phase.attempt? = none ∧
      ∀ id, r'.phase = .ending (.ended id) ↔ effect = .ended ∧ id = gateway.id := by
  simp only [fire, fired]
  exact exists_run_of_carryOut (r := { r with schedule := moved }) uncast

/-- A gateway that casts lets its track wait until the attempt has ended. -/
theorem attempts_of_fire {c : Candidate} {gateway : Gateway} {delay : Nat} {skill : String}
    (asks : gateway.action = .castSkill skill) :
    (e.fire d r c gateway delay).Attempts (.extra c ((e.caster d).extraNode skill) delay)
      r.schedule e.settings := by
  have fired : r.schedule.dispatch r.preset c.place gateway e.session.now delay =
      .ok (.ok ⟨.cast skill, none⟩, r.schedule) := by
    rw [Schedule.dispatch, asks]
  obtain ⟨acts, before_eq, _⟩ := acts_remark_resetMetrics e d
    (·.info part ("gateway fired: " ++ gateway.action.name ++ " node=" ++ gateway.id ++
      " track=" ++ c.track)) gateway e.session.now
  have same := before_eq e.session.bus
  change (e.remark _).resetMetrics gateway e.session.now = e.after d acts at same
  simp only [fire, fired, same]
  exact ⟨rfl, _, _, rfl, rfl, rfl⟩

/-! ## Agreement -/

open Simulation (State End Options)

variable {s s' : State} {p : Preset} {catalogue : Catalogue} {options : Options} {c : Candidate}
  {ending : Option End}

theorem HasMoved.exists_follows {place : Place} {due : Nat} {schedule : Schedule}
    (moved : e.HasMoved place due schedule)
    (schedule_eq : s'.schedule = (schedule.advance place due).2) :
    ∃ r', e.run = some r' ∧ r'.Follows none s' := by
  obtain ⟨r', run, same, draining⟩ := moved
  refine ⟨r', run, same.trans schedule_eq.symm, fun id => ?_⟩
  simp [draining]

theorem execute_skill {node : SkillNode} (found : r.preset.node? c = some (.skill node)) :
    e.execute d r c = e.put { r with phase := .casting (.node c node) .opening } := by
  have looked_up : ((r.preset.track? c.place).bind fun t => t.nodes[c.node]?) =
      some (.skill node) := found
  rw [execute, looked_up]

theorem execute_gateway {gateway : Gateway} (found : r.preset.node? c = some (.gateway gateway)) :
    e.execute d r c = e.gateway d r c gateway := by
  have looked_up : ((r.preset.track? c.place).bind fun t => t.nodes[c.node]?) =
      some (.gateway gateway) := found
  rw [execute, looked_up]

/-- A gateway does in an engine what it does in a simulation alongside, and at the
same time. -/
theorem Alongside.exists_execute_eq (alongside : e.Alongside d r s p catalogue options c)
    {gateway : Gateway} (found : p.node? c = some (.gateway gateway)) :
    ∃ told : Engine τ, told.session.now = s.now ∧
      e.execute d r c =
        if (s.evaluate catalogue gateway.condition).isTrue then
          told.fire d r c gateway (options.delayOf gateway)
        else told.advanceAfter r c.place (options.delayOf gateway) := by
  obtain ⟨seen, looked, same⟩ := alongside.evaluates gateway found
  obtain ⟨told, told_now, gateway_eq⟩ := exists_gateway_eq (r := r) (c := c) looked
  rw [← alongside.preset] at found
  rw [same, alongside.delay, ← execute_gateway found] at gateway_eq
  exact ⟨told, told_now.trans alongside.now, gateway_eq⟩

/-- What has fired is as ready as before. -/
theorem castTime?_afterFire (gateway : Gateway) (effect : Effect) (schedule : Schedule)
    (id : String) :
    (s.afterFire p c gateway effect schedule).castTime? catalogue id =
      s.castTime? catalogue id := by
  have ready_eq : (s.afterFire p c gateway effect schedule).readyAt = s.readyAt := by
    unfold State.afterFire State.resetMetrics
    split <;> rfl
  have now_eq : (s.afterFire p c gateway effect schedule).now = s.now := by
    simp [State.afterFire]
  simp only [State.castTime?, ready_eq, now_eq]

/-- A run that is alongside a simulation follows its step, if it sees its attempt
through. -/
theorem Alongside.exists_follows (alongside : e.Alongside d r s p catalogue options c)
    (step : s.Steps p catalogue options c ending s') {theirs : Option String}
    {moves : List (Move τ)}
    (sees : Among.seesThrough d (s.castTime? catalogue) s.now (e.execute d r c, theirs) moves =
      true) :
    ∃ r', (Among.moves d (e.execute d r c, theirs) moves).1.run = some r' ∧
      r'.Follows ending s' := by
  have schedule_eq := alongside.schedule
  cases step with
  | @skill node castMs tried found done in_word =>
      have attempts : (e.execute d r c).Attempts (.node c node) r.schedule e.settings := by
        rw [execute_skill (alongside.preset ▸ found)]
        exact ⟨rfl, _, _, rfl, rfl, rfl⟩
      have due_eq : (Errand.node c node).dueTime e.settings.engine
          (s.castTime? catalogue node.skill) s.now = s.nextAfter options node castMs := by
        rw [← State.castMs_of_cast done]
        cases castMs with
        | some castMs => rfl
        | none => simp [Errand.dueTime, State.nextAfter, alongside.retry]
      have moved := attempts.seesThrough (a := (e.execute d r c, theirs)) (due_eq ▸ in_word) sees
      apply moved.exists_follows
      rw [State.schedule_advance, State.schedule_of_cast done, schedule_eq, ← due_eq]
      rfl
  | @passes gateway value found evaluated untrue in_word =>
      obtain ⟨told, told_now, execute_eq⟩ := alongside.exists_execute_eq found
      rw [evaluated, untrue, if_neg Bool.false_ne_true] at execute_eq
      rw [execute_eq] at sees ⊢
      have moved : (told.advanceAfter r c.place (options.delayOf gateway)).HasMoved c.place
          (s.now + options.delayOf gateway) r.schedule :=
        told_now ▸ hasMoved_advanceAfter (told_now ▸ in_word)
      obtain rfl := eq_nil_of_seesThrough (a := (_, theirs)) moved.underWay?_eq sees
      apply moved.exists_follows
      rw [State.schedule_advance, State.schedule_record, schedule_eq]
  | @fires gateway effect looped schedule found holds fired uncast =>
      obtain ⟨told, told_now, execute_eq⟩ := alongside.exists_execute_eq found
      rw [holds, if_pos rfl] at execute_eq
      rw [execute_eq] at sees ⊢
      rw [← schedule_eq, ← told_now, ← alongside.preset] at fired
      obtain ⟨r', run, moved, idle, ends⟩ := exists_run_of_fire (d := d) fired uncast
      have no_attempt : (told.fire d r c gateway (options.delayOf gateway)).underWay? = none := by
        rw [underWay?, run, Option.bind_some, idle]
      obtain rfl := eq_nil_of_seesThrough (a := (_, theirs)) no_attempt sees
      refine ⟨r', run, ?_, ?_⟩
      · rw [moved, State.schedule_recordLoop]
        rfl
      · intro id
        rw [ends]
        by_cases ended : effect = .ended
        · simp [ended, eq_comm]
        · simp [ended]
  | @fireCasts gateway skill castMs tried found holds asks done in_word =>
      obtain ⟨told, told_now, execute_eq⟩ := alongside.exists_execute_eq found
      rw [holds, if_pos rfl] at execute_eq
      rw [execute_eq] at sees ⊢
      have attempts : (told.fire d r c gateway (options.delayOf gateway)).Attempts
          (.extra c ((told.caster d).extraNode skill) (options.delayOf gateway)) r.schedule
          told.settings := attempts_of_fire asks
      have castMs_eq := (State.castMs_of_cast done).trans (castTime?_afterFire ..)
      have moved := attempts.seesThrough (a := (_, theirs)) (castMs_eq ▸ in_word) sees
      apply moved.exists_follows
      rw [State.schedule_advance, State.schedule_of_cast done, castMs_eq, schedule_eq]
      rfl

end Engine

open Engine in
/-- If a run of a validated preset is alongside a simulation, they move their
schedules alike when they run a candidate: whatever others do in the meantime, a
run that sees its attempt through follows the step of the simulation, which has a
result unless a time in it overflows. -/
theorem Draft.follows_of_validate {d : Draft} {catalogue : Catalogue} {p : Preset}
    (valid : (d.validate catalogue).preset = some p) {time : Nat} {s : Simulation.State}
    (reached : Schedule.Reachable p time s.schedule) {c : Candidate}
    (mem : c ∈ s.schedule.candidates) {used : Catalogue} {options : Simulation.Options} {τ : Type}
    {devices : Devices τ} {e : Engine τ} {r : Run}
    (alongside : e.Alongside devices r s p used options c) (theirs : Option String) :
    (s.step p used options c).Meets fun result => ∃ ending s', result = .ok (ending, s') ∧
      ∀ moves, Among.seesThrough devices (s.castTime? used) s.now (e.execute devices r c, theirs)
          moves = true →
        ∃ r', (Among.moves devices (e.execute devices r c, theirs) moves).1.run = some r' ∧
          r'.Follows ending s' := by
  have sound : p.Sound := fun _ _ _ there mem =>
    (compiles_of_validate valid).resolves_of_mem there mem
  have meets : (s.step p used options c).Meets (Simulation.State.GoesWell p s.schedule) :=
    Simulation.State.step_meets (reached.fits sound) sound mem
  rcases meets with ⟨_, stepped, ending, s', rfl, _⟩ | overflow
  · refine .inl ⟨_, stepped, ending, s', rfl, fun moves sees => ?_⟩
    exact alongside.exists_follows (Simulation.State.steps_of_step stepped) sees
  · exact .inr overflow

/-- A draft whose only gateway hums. -/
def Draft.chorus : Draft :=
  { id := "chorus"
    name := ""
    entryMode := none
    defaultGapMs := 0
    globalTracks := [⟨"voice", [.gateway ⟨"lead", 0, none,
      .record [("type", .text "const"), ("value", .bool true)], .castSkill "hum", false⟩]⟩]
    modes := [] }

/-- A run that is about to choose its first node. -/
def Run.first (p : Preset) : Run :=
  ⟨p, .start p 0, .choosing, false, 0, [], true, false⟩

/-- What happens while a choir hums once. -/
def Engine.oneHum : List (Engine.Move Unit) :=
  [.go, .go, .stir (.elapse 500), .go, .go]

/-- Whether the condition of a gateway is true for a choir in the dark and for a
simulation that have just begun. -/
def Engine.agreesOn (p : Preset) : Node → Bool
  | .skill _ => false
  | .gateway gateway =>
    ((choir.perform ((choir.caster (darkness (.ok (.ok ())))).eval
        gateway.condition)).1.toOption.any Evaluation.isTrue) &&
      ((Simulation.State.start p).evaluate .choir gateway.condition).isTrue

theorem Engine.alongside_of_agreesOn {p : Preset} {c : Candidate} {n : Node}
    (found : p.node? c = some n) (agrees : agreesOn p n = true) :
    choir.Alongside (darkness (.ok (.ok ()))) (.first p) (.start p) p .choir
      (.ofSettings .standard) c := by
  refine ⟨rfl, rfl, rfl, rfl, rfl, fun gateway stands => ?_⟩
  cases found.symm.trans stands
  obtain ⟨seen, simulated⟩ := (Bool.and_eq_true_iff).mp agrees
  obtain ⟨value, looked, live⟩ := (Option.any_eq_true _ _).mp seen
  refine ⟨value, ?_, live.trans simulated.symm⟩
  generalize (choir.perform _).1 = result at looked ⊢
  cases result with
  | error crash => contradiction
  | ok own =>
      cases looked
      rfl

/-- Whether a choir hums ideally at its first node, and the condition there is true
for it and for a simulation, which goes on after the node. -/
def Engine.humsAlong (p : Preset) : Bool :=
  (Schedule.start p 0).candidates.head?.any fun c =>
    (p.node? c).any (agreesOn p) &&
      Among.seesThrough (darkness (.ok (.ok ()))) ((Simulation.State.start p).castTime? .choir) 0
        (choir.execute (darkness (.ok (.ok ()))) (.first p) c, none) oneHum &&
      (((Simulation.State.start p).step p .choir (.ofSettings .standard) c).toOption.bind
        Except.toOption).isSome

/-- A chorus hums once, and a simulation of it moves the schedule alike. -/
theorem Draft.chorus_follows :
    ∃ p c ending s' r', (chorus.validate .choir).preset = some p ∧
      (Simulation.State.start p).step p .choir (.ofSettings .standard) c = .ok (.ok (ending, s')) ∧
      (Engine.Among.moves (Engine.darkness (.ok (.ok ())))
        (Engine.choir.execute (Engine.darkness (.ok (.ok ()))) (.first p) c, none)
        Engine.oneHum).1.run = some r' ∧ r'.schedule = s'.schedule := by
  have checked : (chorus.validate .choir).preset.any Engine.humsAlong = true := by decide +kernel
  obtain ⟨p, valid, hums⟩ := (Option.any_eq_true _ _).mp checked
  obtain ⟨c, first, hums⟩ := (Option.any_eq_true _ _).mp hums
  simp only [Bool.and_eq_true] at hums
  obtain ⟨⟨agrees, sees⟩, goes_on⟩ := hums
  obtain ⟨n, found, agrees⟩ := (Option.any_eq_true _ _).mp agrees
  obtain ⟨⟨ending, s'⟩, stepped⟩ := Option.isSome_iff_exists.mp goes_on
  replace stepped := Checked.eq_ok_of_toOption stepped
  have reached : Schedule.Reachable p 0 (Simulation.State.start p).schedule := .refl
  have meets := follows_of_validate valid reached (List.mem_of_mem_head? first)
    (Engine.alongside_of_agreesOn found agrees) none
  obtain ⟨_, _, same, follows⟩ := meets.of_eq_ok stepped
  cases same
  obtain ⟨r', run, follows⟩ := follows Engine.oneHum sees
  exact ⟨p, c, ending, s', r', valid, stepped, run, follows.schedule⟩

end Rotation
