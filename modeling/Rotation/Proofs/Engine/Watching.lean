import Rotation.Proofs.Engine.End
import Rotation.Proofs.Preset.Scope

/-!
# What is captured during a run

The capturing is asked for what the active mode requires when a run begins, and again
whenever a gateway has switched the mode.  In between nobody asks it for anything:
nodes look at the screen and press keys, and tracks move on inside their mode.  So
while a run goes on the capturing covers whatever its nodes can look at.
-/

namespace Rotation

namespace Capture

/-- Taking a snapshot asks for nothing. -/
theorem requirements_of_snapshot {σ : Type} {c c' : Capture} {source : ScreenSource σ}
    {state state' : σ} {now : Nat} {observed : Observed Snapshot} {events : List Event}
    (done : c.snapshot source state now = .ok (observed, events, c', state')) :
    c'.requirements = c.requirements := by
  cases turns_of_snapshot done with
  | reuses | waits | idles | fails | succeeds => rfl

/-- Requirements that are taken over are kept, whether or not they need a new plan. -/
theorem requirements_of_update {c c' : Capture} {catalogue : Catalogue} {screens : List Screen}
    {requirements : Requirements} {changed : Bool} {events : List Event}
    (done : c.updateRequirements catalogue screens requirements = .ok (changed, events, c')) :
    c'.requirements = requirements := by
  unfold updateRequirements at done
  split at done
  · obtain ⟨plan, _, made⟩ := Checked.bind_eq_ok_iff.mp done
    cases made
    rfl
  · cases done
    rfl

end Capture

namespace Act

variable {σ τ : Type}

/-- The change of the equipment, apart from looks and presses, that an act is. -/
def equip? : Act σ → Option (σ → σ)
  | .equips f => some f
  | _ => none

theorem equip?_of_isLook {act : Act σ} (look : act.isLook = true) : act.equip? = none := by
  cases act with
  | equips => contradiction
  | looks | presses | operates | remembers | remarks | locks | tells => rfl

theorem equip?_of_passes {act : Act σ} (quiet : act.Passes) : act.equip? = none := by
  cases act with
  | equips => contradiction
  | looks | presses | operates | remembers | remarks | locks | tells => rfl

theorem equip?_of_goesOn {act : Act σ} {id : String} (own : act.GoesOn id) :
    act.equip? = none := by
  cases act with
  | equips => contradiction
  | looks | presses | operates | remembers | remarks | locks | tells => rfl

/-- Looks and presses leave alone what the capturing has been asked for. -/
theorem requirements_apply (d : Devices τ) (s : Session (Watch τ)) {act : Act (Watch τ)}
    (hands_off : act.equip? = none) :
    (act.apply d.rig s).equipment.capture.requirements = s.equipment.capture.requirements := by
  cases act with
  | equips => contradiction
  | presses | operates | remembers | remarks | locks | tells => rfl
  | looks spot =>
      change (d.rig.sample spot s.now s.equipment).2.2.capture.requirements = _
      unfold Devices.rig
      dsimp only
      split
      · rfl
      · rename_i done
        exact Capture.requirements_of_snapshot done
      · rename_i done
        split <;> exact Capture.requirements_of_snapshot done

theorem requirements_applyAll (d : Devices τ) (s : Session (Watch τ))
    {acts : List (Act (Watch τ))} (hands_off : ∀ act ∈ acts, act.equip? = none) :
    (applyAll d.rig s acts).equipment.capture.requirements =
      s.equipment.capture.requirements := by
  induction acts generalizing s with
  | nil => rfl
  | cons act rest ih =>
      obtain ⟨first, later⟩ := List.forall_mem_cons.mp hands_off
      rw [applyAll_cons, ih _ later, requirements_apply d s first]

end Act

/-- An attempt does no more to the equipment than look and press. -/
theorem Cast.Caster.Strides.equip? {σ : Type} {c : Caster σ} {node : SkillNode} {s : Session σ}
    {phase : Phase} {acts : List (Act σ)} {result : Except Crash Next}
    (strides : c.Strides node s phase acts result) : ∀ act ∈ acts, act.equip? = none := by
  cases strides with
  | waits unopened looks | breaks crash unopened looks =>
      exact fun act mem => Act.equip?_of_isLook (looks act mem)
  | passes unopened quiet => exact fun act mem => Act.equip?_of_passes (quiet act mem)
  | opens unopened looking =>
      refine List.forall_mem_append.mpr ⟨fun act mem => Act.equip?_of_isLook (looking act mem), ?_⟩
      simp [Act.equip?]
  | proceeds under_way proceeds =>
      cases proceeds with
      | on own => exact fun act mem => Act.equip?_of_goesOn (own act mem)
      | closes reason f own =>
          refine List.forall_mem_append.mpr ⟨fun act mem => Act.equip?_of_goesOn (own act mem), ?_⟩
          simp [Act.equip?]
  | crashes crash under_way own =>
      refine List.forall_mem_append.mpr ⟨fun act mem => Act.equip?_of_goesOn (own act mem), ?_⟩
      simp [Act.equip?]

/-- Whether a run in this phase can still run nodes. -/
def RunPhase.goes : RunPhase → Bool
  | .ending _ | .ended => false
  | _ => true

namespace Engine

variable {τ : Type}

/-- An engine at work on a run of a preset, which has last asked the capturing for what
the active mode requires. -/
structure Watching (preset : Preset) (catalogue : Catalogue) (e : Engine τ) (r : Run) : Prop where
  own : r.preset = preset
  known : e.catalogue = catalogue
  requirements : e.session.equipment.capture.requirements =
    preset.requirements catalogue r.schedule.modeIndex

/-- An engine with a run of a preset, which watches while it can still run nodes. -/
structure Follows (preset : Preset) (catalogue : Catalogue) (e : Engine τ) (r : Run) : Prop where
  run : e.run = some r
  own : r.preset = preset
  known : e.catalogue = catalogue
  watching : r.phase.goes = true → Watching preset catalogue e r

variable {preset : Preset} {catalogue : Catalogue} {d : Devices τ} {e e' : Engine τ} {r r' : Run}

/-! ## What the parts of a step keep -/

theorem follows_failWith (own : r.preset = preset) (known : e.catalogue = catalogue)
    (message : String) : ∃ r', Follows preset catalogue (e.failWith r message) r' :=
  ⟨{ r with phase := .ending (.fault message) }, rfl, own, known, fun goes => by
    simp [RunPhase.goes] at goes⟩

/-- Whoever watches for a mode has asked for what it requires. -/
theorem requirements_of_watch {mode : Option Nat} (done : e.watch d preset mode = .ok e') :
    e'.catalogue = e.catalogue ∧ e'.run = e.run ∧
      e'.session.equipment.capture.requirements = preset.requirements e.catalogue mode := by
  obtain ⟨⟨changed, events, capture⟩, updated, made⟩ := Checked.bind_eq_ok_iff.mp done
  cases made
  exact ⟨rfl, rfl, Capture.requirements_of_update updated⟩

theorem frame_resetMetrics (e : Engine τ) (g : Gateway) (now : Nat) :
    (e.resetMetrics g now).catalogue = e.catalogue ∧
      (e.resetMetrics g now).session.equipment = e.session.equipment := by
  unfold resetMetrics
  split
  · exact ⟨rfl, rfl⟩
  · generalize g.condition.metricAtoms = atoms
    induction atoms generalizing e with
    | nil => exact ⟨rfl, rfl⟩
    | cons atom rest ih => exact ih _

namespace Watching

variable (watching : Watching preset catalogue e r)
include watching

theorem put (same : r'.preset = r.preset)
    (mode_eq : r'.schedule.modeIndex = r.schedule.modeIndex) :
    Follows preset catalogue (e.put r') r' := by
  refine ⟨rfl, same.trans watching.own, watching.known, fun _ => ?_⟩
  exact ⟨same.trans watching.own, watching.known, mode_eq ▸ watching.requirements⟩

theorem withStatus (status : EngineStatus) :
    Watching preset catalogue { e with status } r :=
  ⟨watching.own, watching.known, watching.requirements⟩

theorem withSession {s : Session (Watch τ)}
    (same : s.equipment.capture.requirements = e.session.equipment.capture.requirements) :
    Watching preset catalogue { e with session := s } r :=
  ⟨watching.own, watching.known, same.trans watching.requirements⟩

theorem withSchedule {schedule : Schedule} (mode_eq : schedule.modeIndex = r.schedule.modeIndex) :
    Watching preset catalogue e { r with schedule } :=
  ⟨watching.own, watching.known, mode_eq ▸ watching.requirements⟩

theorem after {acts : List (Act (Watch τ))} (hands_off : ∀ act ∈ acts, act.equip? = none) :
    Watching preset catalogue (e.after d acts) r :=
  watching.withSession (Act.requirements_applyAll d e.session hands_off)

theorem failWith (message : String) : ∃ r', Follows preset catalogue (e.failWith r message) r' :=
  follows_failWith watching.own watching.known message

theorem nodeDone : ∃ r', Follows preset catalogue (e.nodeDone r) r' :=
  ⟨{ r with phase := .draining }, (watching.withStatus _).put rfl rfl⟩

theorem publish (event : Event) : Watching preset catalogue (e.publish event) r :=
  ⟨watching.own, watching.known, watching.requirements⟩

theorem remark (f : Journal → Journal) : Watching preset catalogue (e.remark f) r :=
  ⟨watching.own, watching.known, watching.requirements⟩

theorem resetMetrics (g : Gateway) (now : Nat) :
    Watching preset catalogue (e.resetMetrics g now) r := by
  obtain ⟨catalogue_eq, equipment_eq⟩ := frame_resetMetrics e g now
  refine ⟨watching.own, catalogue_eq.trans watching.known, ?_⟩
  rw [equipment_eq]
  exact watching.requirements

theorem looped (mode : Option String) : Watching preset catalogue (e.looped mode) r := by
  cases mode with
  | none => exact watching
  | some mode => exact watching.publish _

theorem advanceAfter (place : Place) (delay : Nat) :
    ∃ r', Follows preset catalogue (e.advanceAfter r place delay) r' := by
  unfold Engine.advanceAfter
  split
  · exact watching.failWith _
  · rename_i time due
    have moved := Schedule.modeIndex_call (s := r.schedule) (c := .advance place time) trivial
    exact ((watching.looped _).withSchedule moved).nodeDone

theorem holdAfter (place : Place) (delay : Nat) :
    ∃ r', Follows preset catalogue (e.holdAfter r place delay) r' := by
  unfold Engine.holdAfter
  split
  · exact watching.failWith _
  · rename_i time due
    have held := Schedule.modeIndex_call (s := r.schedule) (c := .hold place time) trivial
    exact (watching.withSchedule held).nodeDone

theorem conclude (outcome : Cast.Outcome) (errand : Errand) :
    ∃ r', Follows preset catalogue (e.conclude r outcome errand) r' := by
  cases errand with
  | node c skill =>
      simp only [Engine.conclude]
      split
      · exact watching.nodeDone
      · split
        · exact watching.advanceAfter _ _
        · exact watching.holdAfter _ _
  | extra c skill delay =>
      simp only [Engine.conclude]
      split
      · exact watching.nodeDone
      · exact watching.advanceAfter _ _

theorem cast {errand : Errand} {phase : Cast.Phase}
    (fits : (e.caster d).Fits errand.attempted phase) :
    ∃ r', Follows preset catalogue (e.cast d r errand phase) r' := by
  obtain ⟨acts, result, does, strides⟩ := Cast.Caster.acts_step (s := e.session) fits
  have performed : e.perform ((e.caster d).step errand.attempted phase) =
      (result, e.after d acts) := perform_of_does does e.session.bus
  have later : Watching preset catalogue (e.after d acts) r := watching.after strides.equip?
  unfold Engine.cast
  rw [performed]
  match result with
  | .error crash => exact later.failWith _
  | .ok (.finished outcome) => exact later.conclude outcome errand
  | .ok (.proceed _) | .ok (.sleep _ _) | .ok (.await _ _) => exact ⟨_, later.put rfl rfl⟩

/-- Commands leave the preset and the schedule of a run alone. -/
theorem applyFirst (d : Devices τ) (command : Command) (rest : List Command) :
    ∃ r', Follows preset catalogue (e.applyFirst r command rest) r' := by
  have hands_off : ∀ act ∈ flips (τ := τ) e.session.now r.paused (r.applied command rest).paused,
      act.equip? = none := by
    unfold flips
    split
    · simp
    · split <;> simp [Act.equip?]
  have same : (r.applied command rest).preset = r.preset := rfl
  have mode_eq : (r.applied command rest).schedule.modeIndex = r.schedule.modeIndex := rfl
  have later := ((watching.after (d := d) hands_off).withStatus
    (flipped e.status r.paused (r.applied command rest).paused)).put same mode_eq
  have eq : e.applyFirst r command rest = _ := applyFirst_eq e d r command rest e.session.bus
  exact ⟨r.applied command rest, eq.symm ▸ later⟩

theorem drain (d : Devices τ) : ∃ r', Follows preset catalogue (e.drain r) r' := by
  unfold Engine.drain
  split
  · exact watching.applyFirst d _ _
  · exact ⟨_, watching.put rfl rfl⟩

theorem listen (d : Devices τ) (run : e.run = some r) (deadline : Nat) :
    ∃ r', Follows preset catalogue (e.listen r deadline) r' := by
  unfold Engine.listen
  split
  · exact watching.applyFirst d _ _
  · split
    · exact ⟨_, watching.put rfl rfl⟩
    · split
      · exact ⟨_, watching.put rfl rfl⟩
      · exact ⟨r, run, watching.own, watching.known, fun _ => watching⟩

theorem wake (run : e.run = some r) (deadline : Nat) (waker : Waker) (errand : Errand)
    (phase : Cast.Phase) :
    ∃ r', Follows preset catalogue (e.wake r deadline waker errand phase) r' := by
  unfold Engine.wake
  split
  · exact ⟨_, watching.put rfl rfl⟩
  · exact ⟨r, run, watching.own, watching.known, fun _ => watching⟩

theorem carryOut (c : Candidate) (g : Gateway) (delay now : Nat) {effect : Effect}
    (unswitched : ∀ source target, effect ≠ .switched source target) :
    ∃ r', Follows preset catalogue (e.carryOut d r c g delay now effect) r' := by
  cases effect with
  | ended | cast => exact ⟨_, watching.put rfl rfl⟩
  | jumped => exact watching.nodeDone
  | switched source target => exact absurd rfl (unswitched source target)

end Watching

/-- A gateway that has switched the mode asks for what the new one requires. -/
theorem follows_switched (own : r.preset = preset) (known : e.catalogue = catalogue)
    (c : Candidate) (g : Gateway) (delay now : Nat) (source : Option String) (target : String) :
    ∃ r', Follows preset catalogue
      (e.carryOut d r c g delay now (.switched source target)) r' := by
  simp only [carryOut]
  split
  · exact follows_failWith own known _
  · rename_i watched done
    obtain ⟨catalogue_eq, _, asked⟩ := requirements_of_watch done
    rw [own, known] at asked
    have watching : Watching preset catalogue watched r :=
      ⟨own, catalogue_eq.trans known, asked⟩
    exact (watching.publish _).nodeDone

namespace Watching

variable (watching : Watching preset catalogue e r)
include watching

theorem fire (c : Candidate) (g : Gateway) (delay : Nat) :
    ∃ r', Follows preset catalogue (e.fire d r c g delay) r' := by
  have reset := (watching.remark (·.info part ("gateway fired: " ++ g.action.name ++ " node=" ++
    g.id ++ " track=" ++ c.track))).resetMetrics g e.session.now
  simp only [Engine.fire]
  split
  · exact reset.failWith _
  · rename_i fault schedule _
    exact follows_failWith (r := { r with schedule }) watching.own reset.known _
  · rename_i done schedule fired
    by_cases switched : ∃ source target, done.effect = .switched source target
    · obtain ⟨source, target, effect_eq⟩ := switched
      rw [effect_eq]
      exact follows_switched (r := { r with schedule }) watching.own (reset.looped _).known ..
    · push Not at switched
      have mode_eq := Schedule.modeIndex_of_dispatch fired switched
      exact ((reset.looped done.looped).withSchedule mode_eq).carryOut c g delay _ switched

theorem gateway (c : Candidate) (g : Gateway) :
    ∃ r', Follows preset catalogue (e.gateway d r c g) r' := by
  obtain ⟨looks, result, does, looking⟩ :=
    Live.acts_eval d.rig e.session e.catalogue g.condition
  have performed : e.perform ((e.caster d).eval g.condition) = (result, e.after d looks) :=
    perform_of_does does e.session.bus
  have later : Watching preset catalogue (e.after d looks) r :=
    watching.after fun act mem => Act.equip?_of_isLook (looking act mem)
  unfold Engine.gateway
  rw [performed]
  cases result with
  | error crash => exact later.failWith _
  | ok found =>
      dsimp only
      split
      · exact (later.publish _).fire ..
      · exact (later.publish _).advanceAfter ..

theorem execute (c : Candidate) : ∃ r', Follows preset catalogue (e.execute d r c) r' := by
  unfold Engine.execute
  split
  · exact watching.failWith _
  · exact ⟨_, watching.put rfl rfl⟩
  · exact watching.gateway _ _

theorem choose : ∃ r', Follows preset catalogue (e.choose d r) r' := by
  simp only [Engine.choose]
  split
  · exact ⟨_, watching.put rfl rfl⟩
  · split
    · rename_i c picked
      have stepped : Watching preset catalogue e
          (if r.paused then { r with steps := r.steps - 1 } else r) := by
        split
        · exact ⟨watching.own, watching.known, watching.requirements⟩
        · exact watching
      exact stepped.execute c
    · exact ⟨_, watching.put rfl rfl⟩

end Watching

theorem Follows.step (follows : Follows preset catalogue e r)
    (fits : ∀ errand phase, r.phase.attempt? = some (errand, phase) →
      (e.caster d).Fits errand.attempted phase) :
    ∃ r', Follows preset catalogue (e.step d) r' := by
  unfold Engine.step
  rw [follows.run]
  dsimp only
  cases phase : r.phase with
  | ending reason =>
      exact ⟨{ r with phase := .ended }, rfl, follows.own, follows.known, fun goes => by
        simp [RunPhase.goes] at goes⟩
  | ended => exact ⟨r, follows⟩
  | draining => exact (follows.watching (by simp [phase, RunPhase.goes])).drain d
  | checking => exact ⟨_, (follows.watching (by simp [phase, RunPhase.goes])).put rfl rfl⟩
  | choosing => exact (follows.watching (by simp [phase, RunPhase.goes])).choose
  | listening deadline =>
      exact (follows.watching (by simp [phase, RunPhase.goes])).listen d follows.run deadline
  | casting errand attempt =>
      exact (follows.watching (by simp [phase, RunPhase.goes])).cast
        (fits errand attempt (by rw [phase]; rfl))
  | resting deadline waker errand attempt =>
      exact (follows.watching (by simp [phase, RunPhase.goes])).wake follows.run ..

/-! ## The beginning, and what others do -/

/-- A preset that is launched begins in its entry mode, and asks for what that requires; a
mode that is not there requires nothing of its own. -/
theorem follows_of_launch {e₀ : Engine τ} {time : String}
    (launched : e₀.launch d preset time = .ok e) {r : Run} (run : e.run = some r) :
    Follows preset e₀.catalogue e r := by
  unfold launch at launched
  obtain ⟨watched, done, made⟩ := Checked.bind_eq_ok_iff.mp launched
  cases made
  cases run
  obtain ⟨catalogue_eq, _, asked⟩ := requirements_of_watch done
  have known : watched.catalogue = e₀.catalogue := catalogue_eq
  have entered : preset.modeTracks (Schedule.start preset 0).modeIndex =
      preset.modeTracks preset.entryMode := by
    unfold Preset.modeTracks Schedule.modeIndex Schedule.start ActiveMode.start?
    cases preset.entryMode with
    | none => rfl
    | some m => cases found : preset.modes[m]? <;> simp [found, ActiveMode.refreshFloor]
  have asked_eq : watched.session.equipment.capture.requirements =
      preset.requirements e₀.catalogue (Schedule.start preset 0).modeIndex := by
    rw [asked, Preset.requirements, Preset.requirements, entered]
    rfl
  exact ⟨rfl, rfl, known, fun _ => ⟨rfl, known, asked_eq⟩⟩

/-- Whoever changes the equipment between the steps of a run leaves alone what the
capturing has been asked for. -/
def Among.Spares (d : Devices τ) (a : Among τ) (moves : List (Move τ)) : Prop :=
  ∀ past w more, moves = past ++ .stir (.equip w) :: more →
    w.capture.requirements = (a.moves d past).1.session.equipment.capture.requirements

theorem requirements_stir (shared : Shared (Watch τ)) (stir : Stir (Watch τ))
    (spared : ∀ w, stir = .equip w →
      w.capture.requirements = shared.1.equipment.capture.requirements) :
    (shared.stir stir).1.equipment.capture.requirements =
      shared.1.equipment.capture.requirements := by
  cases stir with
  | equip w => exact spared w rfl
  | elapse | cancel | rewire => rfl
  | take owner =>
      rw [Shared.stir]
      split <;> rfl
  | letGo =>
      rw [Shared.stir]
      split <;> rfl

theorem Follows.goes {a a' : Among τ} {move : Move τ} (follows : Follows preset catalogue a.1 r)
    (sound : a.Sound d r) (goes : Among.Goes d a r move a' r')
    (spared : ∀ w, move = .stir (.equip w) →
      w.capture.requirements = a.1.session.equipment.capture.requirements) :
    Follows preset catalogue a'.1 r' := by
  cases goes with
  | steps strides step_eq told =>
      obtain ⟨r'', later⟩ := follows.step (d := d) sound.fits
      rw [step_eq] at later
      cases later.run
      exact later
  | stirs stir =>
      refine ⟨follows.run, follows.own, follows.known, fun going => ?_⟩
      apply (follows.watching going).withSession
      exact requirements_stir (a.1.session, a.2) stir fun w equips => spared w (equips ▸ rfl)
  | arrives | hangsUp =>
      refine ⟨rfl, follows.own, follows.known, fun going => ?_⟩
      have watching := follows.watching going
      exact ⟨watching.own, watching.known, watching.requirements⟩

theorem Among.Spares.concat {a : Among τ} {past : List (Move τ)} {move : Move τ}
    (spares : a.Spares d (past ++ [move])) :
    a.Spares d past ∧ ∀ w, move = .stir (.equip w) →
      w.capture.requirements = (a.moves d past).1.session.equipment.capture.requirements := by
  constructor
  · rintro before w more rfl
    exact spares before w (more ++ [move]) (by simp)
  · rintro w rfl
    exact spares past w [] rfl

end Engine

/-! ## What nodes look at -/

/-- The conditions that are evaluated when a node runs.  For a gateway that casts a skill
these are also the ones of the node that is made up for the cast. -/
def Node.evaluated {σ : Type} (c : Cast.Caster σ) : Node → List Condition
  | .skill node =>
    node.ready :: (node.start.condition.toList ++ node.completion.condition.toList)
  | .gateway node =>
    node.condition ::
      match node.action with
      | .castSkill cast =>
        let extra := c.extraNode cast
        extra.ready :: (extra.start.condition.toList ++ extra.completion.condition.toList)
      | _ => []

/-- What is evaluated is one of the conditions that count for what a mode requires, or
it looks at nothing. -/
theorem Node.mem_conditions_of_mem_evaluated {σ : Type} {caster : Cast.Caster σ} {node : Node}
    {c : Condition} (mem : c ∈ node.evaluated caster) :
    c ∈ node.conditions caster.catalogue ∨ ∃ value, c = .const value := by
  cases node with
  | skill own => exact .inl mem
  | gateway g =>
      rcases List.mem_cons.mp mem with rfl | extra
      · exact .inl List.mem_cons_self
      · cases action_eq : g.action with
        | finish | switchMode | jumpNode | jumpTrack =>
            rw [action_eq] at extra
            contradiction
        | castSkill skill =>
            rw [action_eq] at extra
            simp only [Cast.Caster.extraNode, Option.toList_none, List.append_nil,
              List.mem_singleton] at extra
            rw [extra]
            split
            · rename_i shown
              left
              apply List.mem_cons_of_mem
              rw [action_eq]
              dsimp only
              rw [if_pos shown]
              exact List.mem_singleton_self _
            · exact .inr ⟨true, rfl⟩

/-- Whatever is sampled when a node runs is required for the modes in which it can. -/
theorem Preset.samples_subset_of_mem_evaluated {σ : Type} {p : Preset} {caster : Cast.Caster σ}
    {mode : Option Nat} {place : Place} {track : Track} {node : Node} {c : Condition}
    (active : place.ActiveIn mode) (there : p.track? place = some track)
    (node_mem : node ∈ track.nodes) (mem : c ∈ node.evaluated caster)
    (answer : List Spot → Spot → Observed Color) (sources : Sources) :
    c.samples caster.catalogue answer sources ⊆
      (p.requirements caster.catalogue mode).spots caster.catalogue := by
  rcases Node.mem_conditions_of_mem_evaluated mem with counted | ⟨value, rfl⟩
  · have track_mem := mem_tracks_of_activeIn active there
    exact samples_subset_spots (mem_scope_of_mem track_mem node_mem counted) answer sources
  · exact List.nil_subset _

namespace Engine

variable {τ : Type} {preset : Preset} {d : Devices τ} {e e₀ : Engine τ} {time : String}

/-- What the capturing has been asked for last is what the active mode requires, and it
covers all that is looked at to evaluate conditions of the nodes that can run. -/
structure Covers (d : Devices τ) (e : Engine τ) (r : Run) : Prop where
  asked : e.session.equipment.capture.requirements =
    r.preset.requirements e.catalogue r.schedule.modeIndex
  covered : ∀ place track node c, place.ActiveIn r.schedule.modeIndex →
    r.preset.track? place = some track → node ∈ track.nodes → c ∈ node.evaluated (e.caster d) →
      ∀ answer sources, c.samples e.catalogue answer sources ⊆
        e.session.equipment.capture.requirements.spots e.catalogue

theorem Watching.covers {catalogue : Catalogue} {r : Run}
    (watching : Watching preset catalogue e r) : Covers d e r := by
  have asked : e.session.equipment.capture.requirements =
      r.preset.requirements e.catalogue r.schedule.modeIndex := by
    rw [watching.own, watching.known, watching.requirements]
  refine ⟨asked, ?_⟩
  intro place track node c active there node_mem mem answer sources
  rw [asked]
  exact Preset.samples_subset_of_mem_evaluated active there node_mem mem answer sources

/-- At any time in the course of a run that can still run nodes, in whatever order commands
and others come among its steps, the capturing covers the nodes of the active mode. -/
theorem covers_of_launch (launched : e₀.launch d preset time = .ok e) (moves : List (Move τ))
    (spares : Among.Spares d (e, e.session.lock.holder) moves) :
    ∃ r, (Among.moves d (e, e.session.lock.holder) moves).1.run = some r ∧ r.preset = preset ∧
      (r.phase.goes = true → Covers d (Among.moves d (e, e.session.lock.holder) moves).1 r) := by
  obtain ⟨r₀, begun, _⟩ := begun_of_launch launched
  obtain ⟨r, sound, follows⟩ := begun.sound.along
    (P := fun past r => Among.Spares d (e, e.session.lock.holder) past →
      Follows preset e₀.catalogue (Among.moves d (e, e.session.lock.holder) past).1 r)
    (fun _ => follows_of_launch launched begun.run)
    (by
      intro past move r r' sound follows goes spares
      obtain ⟨before, spared⟩ := spares.concat
      rw [Among.moves_concat]
      exact (follows before).goes sound goes spared)
    moves
  have later := follows spares
  exact ⟨r, sound.run, later.own, fun going => (later.watching going).covers⟩

/-! ## Nightfall -/

/-- A preset whose first mode does nothing but switch to the second, which looks at a
lamp. -/
def nightfall : Preset where
  id := "nightfall"
  name := "Nightfall"
  entryMode := some 0
  globalTracks := []
  modes := [
    ⟨"day", [⟨"sun", [.gateway
      ⟨"dusk", 0, none, .const true, .switchMode "night" none none, false⟩]⟩]⟩,
    ⟨"night", [⟨"moon", [.gateway ⟨"dawn", 0, none, .pointShows "lamp" none, .finish, false⟩]⟩]⟩]

/-- An engine that knows the lamp. -/
def watchman : Engine Unit :=
  .start Condition.lampCatalogue .standard ()

/-- When night has fallen, the capturing covers the lamp. -/
theorem nightfall_covers_lamp :
    ∃ e r, watchman.launch (darkness (.ok (.ok ()))) nightfall "now" = .ok e ∧
      (Among.moves (darkness (.ok (.ok ()))) (e, none) [.go, .go, .go]).1.run = some r ∧
      r.schedule.modeIndex = some 1 ∧
      Covers (darkness (.ok (.ok ())))
        (Among.moves (darkness (.ok (.ok ()))) (e, none) [.go, .go, .go]).1 r := by
  have fallen : ((watchman.launch (darkness (.ok (.ok ()))) nightfall "now").toOption.any fun e =>
      (Among.moves (darkness (.ok (.ok ()))) (e, none) [.go, .go, .go]).1.run.any fun r =>
        r.phase.goes && r.schedule.modeIndex == some 1) = true := by
    decide +kernel
  cases launched : watchman.launch (darkness (.ok (.ok ()))) nightfall "now" with
  | error refused =>
      rw [launched] at fallen
      contradiction
  | ok e =>
      simp only [launched, Except.toOption, Option.any_some] at fallen
      obtain ⟨r, run, there⟩ := (Option.any_eq_true _ _).mp fallen
      obtain ⟨going, night⟩ := Bool.and_eq_true_iff.mp there
      obtain ⟨_, _, _, lock_eq⟩ := begun_of_launch launched
      have free : e.session.lock.holder = none := congrArg CastLock.holder lock_eq
      have spares : Among.Spares (darkness (.ok (.ok ()))) (e, e.session.lock.holder)
          [.go, .go, .go] := by
        intro past w more moves_eq
        have mem : Move.stir (.equip w) ∈ [Move.go, .go, .go] := moves_eq ▸ by simp
        simp at mem
      have covers := covers_of_launch launched [.go, .go, .go] spares
      rw [free] at covers
      obtain ⟨_, own, _, covers⟩ := covers
      cases run.symm.trans own
      exact ⟨e, r, rfl, run, beq_iff_eq.mp night, covers going⟩

end Engine

end Rotation
