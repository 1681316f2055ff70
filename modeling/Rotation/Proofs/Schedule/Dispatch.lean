import Rotation.Proofs.Preset.References
import Rotation.Proofs.Schedule.Call
import Rotation.Schedule.Dispatch

/-!
# Fired gateways whose action resolves

A fired gateway changes the schedule by calls alone.  When its action resolves
from its place and the tracks that it may reach are active, it cannot fail: the
only thing that may stop it is a due time that does not fit a word.
-/

namespace Rotation

/-- A call that looks at no preset but this one. -/
def Call.Within (p : Preset) : Call → Prop
  | .switchMode used _ _ => used = p
  | _ => True

/-- A call that begins no mode. -/
def Call.Stays : Call → Prop
  | .switchMode _ _ _ => False
  | _ => True

theorem Call.Stays.within {c : Call} (stays : c.Stays) (p : Preset) : c.Within p := by
  cases c with
  | advance | hold | relocate => trivial
  | switchMode => contradiction

/-- What a gateway with this action does, or asks to be done, when it fires. -/
inductive Action.ComesTo : Action → Effect → Prop
  | finish : ComesTo .finish .ended
  | switchMode (mode : String) (track node source : Option String) :
      ComesTo (.switchMode mode track node) (.switched source mode)
  | jumpNode (node : String) (target : Place) (i : Nat) :
      ComesTo (.jumpNode node) (.jumped target i)
  | jumpTrack (track : String) (node : Option String) (target : Place) (i : Nat) :
      ComesTo (.jumpTrack track node) (.jumped target i)
  | castSkill (skill : String) : ComesTo (.castSkill skill) (.cast skill)

theorem Unsigned.add_cases (bits a b : Nat) :
    Unsigned.Fits bits (a + b) ∧ Unsigned.add bits a b = .ok (a + b) ∨
      ¬ Unsigned.Fits bits (a + b) ∧ Unsigned.add bits a b = .error .addOverflow := by
  by_cases fits : a + b < Unsigned.count bits
  · exact .inl ⟨fits, if_pos fits⟩
  · exact .inr ⟨fits, if_neg fits⟩

namespace Schedule

variable {s : Schedule} {p : Preset} {place target : Place} {gateway : Gateway}
  {node : Option String} {now delay : Nat}

/-- A dispatch carries out calls inside the preset, unless the sum of times
that it needs does not fit a word. -/
def CarriesOut (s : Schedule) (p : Preset) (sum : Nat) (result : Checked Outcome) : Prop :=
  (∃ done calls, (∀ c ∈ calls, Call.Within p c) ∧ result = .ok (.ok done, s.callAll calls)) ∨
    ¬ Unsigned.Fits 64 sum ∧ result = .error .addOverflow

/-- A jump that has a landing lands. -/
theorem landingNode_of_hasLanding (landing : p.HasLanding target node) :
    ∃ i, landingNode p target node = .ok i := by
  obtain ⟨track, there, has⟩ := landing
  unfold landingNode
  rw [there]
  cases node with
  | none => exact ⟨0, rfl⟩
  | some id =>
      obtain ⟨i, position_eq⟩ := Option.ne_none_iff_exists'.mp (has id rfl)
      exact ⟨i, by simp [position_eq]⟩

theorem landingTime_cases (p : Preset) (target : Place) (i : Nat) (gateway : Gateway)
    (now delay : Nat) :
    (∃ time, landingTime p target i gateway now delay = .ok time) ∨
      ¬ Unsigned.Fits 64 (now + delay) ∧
        landingTime p target i gateway now delay = .error .addOverflow := by
  unfold landingTime
  split
  · rcases Unsigned.add_cases 64 now delay with ⟨_, sum_eq⟩ | overflow
    · exact .inl ⟨_, sum_eq⟩
    · exact .inr overflow
  · exact .inl ⟨now, rfl⟩

/-- A jump to a node of the own track lands there, or its time does not fit a word. -/
theorem dispatchJumpNode_of_landingNode (s : Schedule) (gateway : Gateway) (now delay : Nat)
    {id : String} {i : Nat} (node_eq : landingNode p place (some id) = .ok i) :
    (∃ time, landingTime p place i gateway now delay = .ok time ∧
      s.dispatchJumpNode p place gateway id now delay =
        .ok (.ok ⟨.jumped place i, none⟩, s.relocate place i time)) ∨
      ¬ Unsigned.Fits 64 (now + delay) ∧
        landingTime p place i gateway now delay = .error .addOverflow ∧
        s.dispatchJumpNode p place gateway id now delay = .error .addOverflow := by
  rw [dispatchJumpNode, node_eq]
  rcases landingTime_cases p place i gateway now delay with ⟨time, time_eq⟩ | ⟨overflow, time_eq⟩
  · exact .inl ⟨time, time_eq, by simp only [time_eq]; rfl⟩
  · exact .inr ⟨overflow, time_eq, by simp only [time_eq]; rfl⟩

/-- A jump to an active track lands there, after the own track has moved on if it is
another one; or one of the two times does not fit a word. -/
theorem dispatchJumpTrack_of_landingNode (gateway : Gateway) (place : Place) (now delay : Nat)
    {id : String} {i : Nat} (located : p.locate? id = some target)
    (active : s.isActive target = true) (node_eq : landingNode p target node = .ok i) :
    (∃ time, landingTime p target i gateway now delay = .ok time ∧
      (target = place ∧ s.dispatchJumpTrack p place gateway id node now delay =
          .ok (.ok ⟨.jumped target i, none⟩, s.relocate target i time) ∨
        target ≠ place ∧ s.dispatchJumpTrack p place gateway id node now delay =
          .ok (.ok ⟨.jumped target i, (s.advance place (now + delay)).1⟩,
            (s.advance place (now + delay)).2.relocate target i time))) ∨
      ¬ Unsigned.Fits 64 (now + delay) ∧
        (target = place → landingTime p target i gateway now delay = .error .addOverflow) ∧
        s.dispatchJumpTrack p place gateway id node now delay = .error .addOverflow := by
  rw [dispatchJumpTrack, located]
  simp only [active, Bool.not_true, Bool.false_eq_true, if_false, node_eq]
  by_cases own : target = place
  · simp only [if_pos own]
    rcases landingTime_cases p target i gateway now delay with
      ⟨time, time_eq⟩ | ⟨overflow, time_eq⟩
    · exact .inl ⟨time, time_eq, .inl ⟨own, by simp only [time_eq]; rfl⟩⟩
    · exact .inr ⟨overflow, fun _ => time_eq, by simp only [time_eq]; rfl⟩
  · simp only [if_neg own]
    rcases Unsigned.add_cases 64 now delay with ⟨fits, sum_eq⟩ | ⟨overflow, sum_eq⟩
    · rcases landingTime_cases p target i gateway now delay with ⟨time, time_eq⟩ | ⟨overflow, _⟩
      · exact .inl ⟨time, time_eq, .inr ⟨own, by simp only [sum_eq, time_eq]; rfl⟩⟩
      · exact absurd fits overflow
    · exact .inr ⟨overflow, fun same => absurd same own, by simp only [sum_eq]; rfl⟩

theorem dispatchJumpNode_carriesOut {id : String} (landing : p.HasLanding place (some id)) :
    s.CarriesOut p (now + delay) (s.dispatchJumpNode p place gateway id now delay) := by
  obtain ⟨i, node_eq⟩ := landingNode_of_hasLanding landing
  rcases dispatchJumpNode_of_landingNode s gateway now delay node_eq with
    ⟨time, _, fired⟩ | ⟨overflow, _, failed⟩
  · exact .inl ⟨_, [.relocate place i time], by simp [Call.Within], fired⟩
  · exact .inr ⟨overflow, failed⟩

theorem dispatchJumpTrack_carriesOut {id : String} (located : p.locate? id = some target)
    (active : s.isActive target = true) (landing : p.HasLanding target node) :
    s.CarriesOut p (now + delay) (s.dispatchJumpTrack p place gateway id node now delay) := by
  obtain ⟨i, node_eq⟩ := landingNode_of_hasLanding landing
  rcases dispatchJumpTrack_of_landingNode gateway place now delay located active node_eq with
    ⟨time, _, ⟨_, fired⟩ | ⟨_, fired⟩⟩ | ⟨overflow, _, failed⟩
  · exact .inl ⟨_, [.relocate target i time], by simp [Call.Within], fired⟩
  · exact .inl ⟨_, [.advance place (now + delay), .relocate target i time],
      by simp [Call.Within], fired⟩
  · exact .inr ⟨overflow, failed⟩

/-- A switch that has a landing enters its mode there. -/
theorem enter_of_landingNode (s : Schedule) (modeId : String) (now : Nat) {m t i : Nat}
    {id : String} (located : p.locate? id = some (.mode m t))
    (node_eq : landingNode p (.mode m t) node = .ok i) :
    s.enter p m modeId id node now = .ok (s.relocate (.mode m t) i now) := by
  rw [enter, located]
  simp only [if_true, node_eq]
  rfl

/-- A switch that names what is there begins its mode. -/
theorem beginMode_of_hasLanding (s : Schedule) (modeId : String) (now : Nat) {m : Nat}
    {track : Option String}
    (entry : ∀ id, track = some id →
      ∃ t, p.locate? id = some (.mode m t) ∧ p.HasLanding (.mode m t) node)
    (done : Dispatched) :
    ∃ calls, (∀ c ∈ calls, Call.Within p c) ∧
      s.beginMode p m modeId track node now done = (.ok done, s.callAll calls) := by
  cases track with
  | none => exact ⟨[.switchMode p m now], by simp [Call.Within], rfl⟩
  | some id =>
      obtain ⟨t, located, landing⟩ := entry id rfl
      obtain ⟨i, node_eq⟩ := landingNode_of_hasLanding landing
      have entered := enter_of_landingNode (s.call (.switchMode p m now)) modeId now located node_eq
      refine ⟨[.switchMode p m now, .relocate (.mode m t) i now], by simp [Call.Within], ?_⟩
      simp only [call] at entered
      simp only [beginMode, entered]
      rfl

theorem dispatchSwitch_carriesOut {modeId : String} {track : Option String} {m : Nat}
    (indexed : p.modeIndex? modeId = some m)
    (entry : ∀ id, track = some id →
      ∃ t, p.locate? id = some (.mode m t) ∧ p.HasLanding (.mode m t) node) :
    s.CarriesOut p (now + delay) (s.dispatchSwitch p place modeId track node now delay) := by
  let done : Dispatched := ⟨.switched s.modeId modeId, none⟩
  rw [dispatchSwitch, indexed]
  cases place with
  | global g =>
      rcases Unsigned.add_cases 64 now delay with ⟨_, sum_eq⟩ | ⟨overflow, sum_eq⟩
      · left
        let moved := s.call (.advance (.global g) (now + delay))
        obtain ⟨calls, within, begun⟩ := beginMode_of_hasLanding moved modeId now entry done
        refine ⟨done, .advance (.global g) (now + delay) :: calls, ?_, ?_⟩
        · simpa [Call.Within] using within
        · simp only [sum_eq]
          exact congrArg Except.ok begun
      · right
        refine ⟨overflow, ?_⟩
        simp only [sum_eq]
        rfl
  | mode n t =>
      left
      obtain ⟨calls, within, begun⟩ := beginMode_of_hasLanding s modeId now entry done
      exact ⟨done, calls, within, congrArg Except.ok begun⟩

/-- A gateway whose action resolves is carried out. -/
theorem dispatch_carriesOut (resolves : p.Resolves place gateway.action)
    (active : ∀ target, target.Alongside place → (∃ track, p.track? target = some track) →
      s.isActive target = true) :
    s.CarriesOut p (now + delay) (s.dispatch p place gateway now delay) := by
  unfold dispatch
  cases action_eq : gateway.action with
  | finish => exact .inl ⟨⟨.ended, none⟩, [], by simp, rfl⟩
  | castSkill skill => exact .inl ⟨⟨.cast skill, none⟩, [], by simp, rfl⟩
  | jumpNode id =>
      rw [action_eq] at resolves
      exact dispatchJumpNode_carriesOut resolves
  | jumpTrack id node =>
      rw [action_eq] at resolves
      obtain ⟨target, located, alongside, landing⟩ := resolves
      have target_active := active target alongside (landing.imp fun _ there => there.1)
      exact dispatchJumpTrack_carriesOut located target_active landing
  | switchMode modeId track node =>
      rw [action_eq] at resolves
      obtain ⟨m, indexed, entry⟩ := resolves
      exact dispatchSwitch_carriesOut indexed entry

/-! ## Effects -/

variable {moved : Schedule} {done : Dispatched}

theorem eq_of_beginMode {mode : Nat} {modeId : String} {track : Option String}
    {asked : Dispatched}
    (begun : s.beginMode p mode modeId track node now asked = (.ok done, moved)) :
    done = asked := by
  unfold beginMode at begun
  dsimp only at begun
  split at begun
  · cases begun
    rfl
  · split at begun <;> cases begun
    rfl

theorem effect_of_dispatchSwitch {modeId : String} {track : Option String}
    (fired : s.dispatchSwitch p place modeId track node now delay = .ok (.ok done, moved)) :
    done.effect = .switched s.modeId modeId := by
  unfold dispatchSwitch at fired
  split at fired
  · cases fired
  · cases place with
    | global i =>
        obtain ⟨later, _, rest⟩ := Checked.bind_eq_ok_iff.mp fired
        rw [eq_of_beginMode (Except.ok.inj rest)]
    | mode m t => rw [eq_of_beginMode (Except.ok.inj fired)]

/-- A jump to a node lands, or fails and leaves the schedule as it is. -/
theorem dispatchJumpNode_cases {result : Except DispatchFault Dispatched} {id : String}
    (fired : s.dispatchJumpNode p place gateway id now delay = .ok (result, moved)) :
    (∃ fault, result = .error fault) ∧ moved = s ∨
      ∃ i time, result = .ok ⟨.jumped place i, none⟩ ∧
        landingTime p place i gateway now delay = .ok time ∧ moved = s.relocate place i time := by
  unfold dispatchJumpNode at fired
  split at fired
  · cases fired
    exact .inl ⟨⟨_, rfl⟩, rfl⟩
  · obtain ⟨time, landed, same⟩ := Checked.bind_eq_ok_iff.mp fired
    cases same
    exact .inr ⟨_, time, rfl, landed, rfl⟩

/-- A jump to a track moves the own track on first, unless it is the target, and then
lands; or it fails and leaves the schedule as it is. -/
theorem dispatchJumpTrack_cases {result : Except DispatchFault Dispatched} {track : String}
    (fired : s.dispatchJumpTrack p place gateway track node now delay = .ok (result, moved)) :
    (∃ fault, result = .error fault) ∧ moved = s ∨
      ∃ target i looped time, p.locate? track = some target ∧
        result = .ok ⟨.jumped target i, looped⟩ ∧
        landingTime p target i gateway now delay = .ok time ∧
        (target = place ∧ moved = s.relocate place i time ∨
          moved = (s.advance place (now + delay)).2.relocate target i time) := by
  unfold dispatchJumpTrack at fired
  split at fired
  · cases fired
    exact .inl ⟨⟨_, rfl⟩, rfl⟩
  · rename_i target located
    split at fired
    · cases fired
      exact .inl ⟨⟨_, rfl⟩, rfl⟩
    · split at fired
      · cases fired
        exact .inl ⟨⟨_, rfl⟩, rfl⟩
      · dsimp only at fired
        split at fired
        · rename_i own
          subst own
          obtain ⟨_, unmoved, rest⟩ := Checked.bind_eq_ok_iff.mp fired
          obtain ⟨time, landed, same⟩ := Checked.bind_eq_ok_iff.mp rest
          cases unmoved
          cases same
          exact .inr ⟨target, _, _, time, located, rfl, landed, .inl ⟨rfl, rfl⟩⟩
        · obtain ⟨later, added, passed⟩ := Checked.bind_eq_ok_iff.mp fired
          obtain ⟨_, moved_on, rest⟩ := Checked.bind_eq_ok_iff.mp passed
          obtain ⟨time, landed, same⟩ := Checked.bind_eq_ok_iff.mp rest
          obtain ⟨_, rfl⟩ := Unsigned.add_eq_ok_iff.mp added
          cases moved_on
          cases same
          exact .inr ⟨target, _, _, time, located, rfl, landed, .inr rfl⟩

/-- A gateway that fires does what its action says. -/
theorem comesTo_of_dispatch (fired : s.dispatch p place gateway now delay = .ok (.ok done, moved)) :
    gateway.action.ComesTo done.effect := by
  unfold dispatch at fired
  cases action_eq : gateway.action with
  | finish =>
      rw [action_eq] at fired
      cases fired
      exact .finish
  | switchMode mode track node =>
      rw [action_eq] at fired
      rw [effect_of_dispatchSwitch fired]
      exact .switchMode mode track node _
  | jumpNode node =>
      rw [action_eq] at fired
      rcases dispatchJumpNode_cases fired with ⟨⟨_, failed⟩, _⟩ | ⟨i, _, landed, _⟩
      · cases failed
      · cases landed
        exact .jumpNode node place i
  | jumpTrack track node =>
      rw [action_eq] at fired
      rcases dispatchJumpTrack_cases fired with ⟨⟨_, failed⟩, _⟩ | ⟨target, i, _, _, _, landed, _⟩
      · cases failed
      · cases landed
        exact .jumpTrack track node target i
  | castSkill skill =>
      rw [action_eq] at fired
      cases fired
      exact .castSkill skill

/-- A gateway that asks for a cast has that action. -/
theorem castSkill_of_dispatch {skill : String}
    (fired : s.dispatch p place gateway now delay = .ok (.ok done, moved))
    (asks : done.effect = .cast skill) : gateway.action = .castSkill skill := by
  have comes := comesTo_of_dispatch fired
  rw [asks] at comes
  generalize gateway.action = action at comes
  cases comes
  rfl

/-- Only a gateway that is to end a run does so. -/
theorem finish_of_dispatch (fired : s.dispatch p place gateway now delay = .ok (.ok done, moved))
    (ended : done.effect = .ended) : gateway.action = .finish := by
  have comes := comesTo_of_dispatch fired
  rw [ended] at comes
  generalize gateway.action = action at comes
  cases comes
  rfl

/-! ## What is changed -/

/-- A call that begins no mode leaves the active one as it is, or moves its cursors. -/
theorem modeIndex_call {c : Call} (stays : c.Stays) : (s.call c).modeIndex = s.modeIndex := by
  rcases mode_call s c with same | ⟨m, landed, held, step, landed_eq⟩ | ⟨_, _, _, _, rfl, _⟩
  · rw [modeIndex, modeIndex, same]
  · have index_eq := congrArg Prod.fst step.outline
    rw [modeIndex, modeIndex, held, landed_eq, Option.map_some, Option.map_some]
    exact congrArg some index_eq
  · contradiction

theorem modeIndex_callAll {calls : List Call} (stays : ∀ c ∈ calls, c.Stays) :
    (s.callAll calls).modeIndex = s.modeIndex := by
  induction calls generalizing s with
  | nil => rfl
  | cons c rest ih =>
      obtain ⟨first, later⟩ := List.forall_mem_cons.mp stays
      rw [callAll_cons, ih later, modeIndex_call first]

theorem calls_of_enter {mode : Nat} {modeId track : String} {entered : Schedule}
    (done : s.enter p mode modeId track node now = .ok entered) :
    ∃ target i, entered = s.call (.relocate target i now) := by
  unfold enter at done
  split at done
  · split at done
    · cases landed : landingNode p (.mode _ _) node with
      | error e =>
          rw [landed] at done
          contradiction
      | ok i =>
          rw [landed] at done
          cases done
          exact ⟨_, i, rfl⟩
    · contradiction
  · contradiction

theorem calls_of_beginMode {result : Except DispatchFault Dispatched} {mode : Nat}
    {modeId : String} {track : Option String} {asked : Dispatched}
    (begun : s.beginMode p mode modeId track node now asked = (result, moved)) :
    ∃ calls, moved = s.callAll calls ∧ ∀ c ∈ calls, Call.Within p c := by
  have switches : ∃ calls, s.call (.switchMode p mode now) = s.callAll calls ∧
      ∀ c ∈ calls, Call.Within p c :=
    ⟨[.switchMode p mode now], rfl, by simp [Call.Within]⟩
  unfold beginMode at begun
  dsimp only at begun
  split at begun
  · cases begun
    exact switches
  · split at begun
    · rename_i entered done
      cases begun
      obtain ⟨target, i, rfl⟩ := calls_of_enter done
      exact ⟨[.switchMode p mode now, .relocate target i now], rfl, by simp [Call.Within]⟩
    · cases begun
      exact switches

theorem calls_of_dispatchSwitch {result : Except DispatchFault Dispatched} {modeId : String}
    {track : Option String}
    (fired : s.dispatchSwitch p place modeId track node now delay = .ok (result, moved)) :
    ∃ calls, moved = s.callAll calls ∧ ∀ c ∈ calls, Call.Within p c := by
  unfold dispatchSwitch at fired
  split at fired
  · cases fired
    exact ⟨[], rfl, by simp⟩
  · cases place with
    | mode m t => exact calls_of_beginMode (Except.ok.inj fired)
    | global i =>
        obtain ⟨later, _, rest⟩ := Checked.bind_eq_ok_iff.mp fired
        obtain ⟨calls, moved_eq, within⟩ := calls_of_beginMode (Except.ok.inj rest)
        refine ⟨.advance (.global i) later :: calls, moved_eq, ?_⟩
        exact List.forall_mem_cons.mpr ⟨trivial, within⟩

theorem calls_of_dispatchJumpNode {result : Except DispatchFault Dispatched} {id : String}
    (fired : s.dispatchJumpNode p place gateway id now delay = .ok (result, moved)) :
    ∃ calls, moved = s.callAll calls ∧ ∀ c ∈ calls, c.Stays := by
  rcases dispatchJumpNode_cases fired with ⟨_, rfl⟩ | ⟨i, time, _, _, rfl⟩
  · exact ⟨[], rfl, by simp⟩
  · exact ⟨[.relocate place i time], rfl, by simp [Call.Stays]⟩

theorem calls_of_dispatchJumpTrack {result : Except DispatchFault Dispatched} {track : String}
    (fired : s.dispatchJumpTrack p place gateway track node now delay = .ok (result, moved)) :
    ∃ calls, moved = s.callAll calls ∧ ∀ c ∈ calls, c.Stays := by
  rcases dispatchJumpTrack_cases fired with
    ⟨_, rfl⟩ | ⟨target, i, _, time, _, _, _, ⟨rfl, rfl⟩ | rfl⟩
  · exact ⟨[], rfl, by simp⟩
  · exact ⟨[.relocate target i time], rfl, by simp [Call.Stays]⟩
  · exact ⟨[.advance place (now + delay), .relocate target i time], rfl, by simp [Call.Stays]⟩

/-- However a dispatch comes out, it changes the schedule by calls alone, which look at no
other preset; and none of them begins a mode unless the action is to switch. -/
theorem calls_of_dispatch {result : Except DispatchFault Dispatched}
    (fired : s.dispatch p place gateway now delay = .ok (result, moved)) :
    ∃ calls, moved = s.callAll calls ∧ (∀ c ∈ calls, Call.Within p c) ∧
      ((∃ mode track node, gateway.action = .switchMode mode track node) ∨
        ∀ c ∈ calls, c.Stays) := by
  unfold dispatch at fired
  cases action_eq : gateway.action with
  | finish | castSkill =>
      rw [action_eq] at fired
      cases fired
      exact ⟨[], rfl, by simp, .inr (by simp)⟩
  | switchMode mode track node =>
      rw [action_eq] at fired
      obtain ⟨calls, moved_eq, within⟩ := calls_of_dispatchSwitch fired
      exact ⟨calls, moved_eq, within, .inl ⟨mode, track, node, rfl⟩⟩
  | jumpNode node =>
      rw [action_eq] at fired
      obtain ⟨calls, moved_eq, within⟩ := calls_of_dispatchJumpNode fired
      exact ⟨calls, moved_eq, fun c mem => (within c mem).within p, .inr within⟩
  | jumpTrack track node =>
      rw [action_eq] at fired
      obtain ⟨calls, moved_eq, within⟩ := calls_of_dispatchJumpTrack fired
      exact ⟨calls, moved_eq, fun c mem => (within c mem).within p, .inr within⟩

/-- A gateway that fires and does not switch leaves the active mode what it is. -/
theorem modeIndex_of_dispatch
    (fired : s.dispatch p place gateway now delay = .ok (.ok done, moved))
    (unswitched : ∀ source target, done.effect ≠ .switched source target) :
    moved.modeIndex = s.modeIndex := by
  obtain ⟨calls, rfl, _, switch | stays⟩ := calls_of_dispatch fired
  · obtain ⟨mode, track, node, action_eq⟩ := switch
    have comes := comesTo_of_dispatch fired
    rw [action_eq] at comes
    generalize done.effect = effect at comes unswitched
    cases comes
    exact absurd rfl (unswitched _ _)
  · exact modeIndex_callAll stays

end Schedule

end Rotation
