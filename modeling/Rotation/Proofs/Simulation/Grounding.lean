import Rotation.Proofs.Cast.Completion
import Rotation.Proofs.Cast.Grounding
import Rotation.Proofs.Simulation.Course

/-!
# Validated presets miss no name

Wherever a name of a validated preset is looked up while it runs, live or in a
simulation, it is found: neither an attempt nor a condition nor an entry of a
timeline gives a name that stands for nothing as its reason.
-/

namespace Rotation

open Cast

/-- A preset has a node in one of its tracks. -/
def Preset.HasNode (p : Preset) (n : Node) : Prop :=
  ∃ place track, p.track? place = some track ∧ n ∈ track.nodes

theorem Preset.StandsFor.hasNode {p : Preset} {c : Candidate} {n : Node}
    (stands : p.StandsFor c n) : p.HasNode n := by
  obtain ⟨track, there, found, _⟩ := stands
  exact ⟨c.place, track, there, List.mem_of_getElem? found⟩

namespace Simulation

/-- Whether the reason of an entry is the name of what the entry leads to: a
mode, a node or a skill. -/
def Outcome.namesTarget : Outcome → Bool
  | .switchedMode | .jumpedNode | .jumpedTrack | .castSkill | .looped => true
  | _ => false

/-- An entry whose reason, if it is one, blames no name. -/
def Entry.BlamesNoName (e : Entry) : Prop :=
  e.outcome.namesTarget = false → ∀ reason, e.reason = some reason → ¬Dangling reason

namespace State

/-- No entry of the timeline blames a name. -/
def BlamesNoName (s : State) : Prop :=
  ∀ e ∈ s.timeline, e.BlamesNoName

/-- A grounded condition blames no name in a simulation. -/
theorem blamesNoName_evaluate {catalogue : Catalogue} {condition : Condition}
    (grounded : condition.Grounded catalogue) (s : State) :
    (s.evaluate catalogue condition).BlamesNoName := by
  apply grounded.holds_eval .value
  · rintro spot _ ⟨⟩
    decide
  · exact Sources.blamesNoName_of_store s.store none

theorem BlamesNoName.record {s : State} (plain : s.BlamesNoName) {c : Candidate} {node : String}
    {skill : Option String} {outcome : Outcome} {reason : Option String}
    (new : outcome.namesTarget = false → ∀ r, reason = some r → ¬Dangling r) :
    (s.record c node skill outcome reason).BlamesNoName := by
  intro e mem
  rcases Array.mem_push.mp mem with old | rfl
  · exact plain e old
  · exact new

theorem BlamesNoName.tries {s s' : State} {catalogue : Catalogue} {c : Candidate}
    {node id : String} (plain : s.BlamesNoName) (castable : catalogue.CanCast id)
    (tried : s.Tries catalogue c node id s') : s'.BlamesNoName := by
  obtain ⟨own, _, known, _⟩ := castable
  cases tried with
  | unknown missing =>
      rw [known] at missing
      contradiction
  | disabled | cooling =>
      apply plain.record
      rintro _ _ ⟨⟩
      decide
  | @casts own =>
      have counted : (s.afterCast own id node).BlamesNoName := by
        rw [State.BlamesNoName, timeline_afterCast]
        exact plain
      apply counted.record
      rintro _ _ ⟨⟩

/-- No move adds an entry that blames a name, if the nodes are grounded. -/
theorem BlamesNoName.does {p : Preset} {catalogue : Catalogue} {s s' : State}
    (grounded : ∀ n, p.HasNode n → n.Grounded catalogue) (plain : s.BlamesNoName)
    (move : Does p catalogue s s') : s'.BlamesNoName := by
  cases move with
  | waits later => exact plain
  | moves schedule => exact plain
  | loops c mode =>
      apply plain.record
      rintro ⟨⟩
  | @passes c gateway value stands found untrue =>
      apply plain.record
      rintro _ _ ⟨⟩
      have own := (grounded _ stands.hasNode).conditions _ List.mem_cons_self
      have evaluated := blamesNoName_evaluate own s
      rw [found] at evaluated
      cases value with
      | known value =>
          cases value
          · decide
          · contradiction
      | unknown reason => exact evaluated reason rfl
  | @fires c gateway effect stands =>
      have reset : (s.resetMetrics gateway).BlamesNoName := by
        unfold resetMetrics
        split <;> exact plain
      apply reset.record
      cases effect with
      | ended =>
          rintro _ _ ⟨⟩
      | jumped target node =>
          simp only [effectOutcome]
          split <;> rintro ⟨⟩
      | switched | cast =>
          rintro ⟨⟩
  | tries node stands casts tried =>
      exact plain.tries ((grounded _ stands.hasNode).casts _ casts) tried

theorem BlamesNoName.reaches {p : Preset} {catalogue : Catalogue} {s s' : State}
    (grounded : ∀ n, p.HasNode n → n.Grounded catalogue) (plain : s.BlamesNoName)
    (reached : Reaches p catalogue s s') : s'.BlamesNoName := by
  induction reached with
  | refl => exact plain
  | tail _ move ih => exact ih.does grounded move

end State

end Simulation

/-- A catalogue in which the hum shows when it is ready. -/
def Catalogue.litChoir : Catalogue :=
  .ofLists [{ Skill.named "hum" with
    key := some "1", castMs := 500, indicator := some ⟨⟨0, 3, 4, 1⟩, ⟨255, 255, 255⟩, 0⟩ }] []

/-- A singer who has learned the lit hum and still sees nothing. -/
def Cast.Caster.blindReader : Caster Unit :=
  { Caster.blindSinger with catalogue := .litChoir }

/-- The reason for which the first node of a draft is passed over by a singer who
does not see it. -/
def Draft.refusal? (d : Draft) : Option String :=
  match (d.validate .litChoir).preset.bind fun p => p.track? (.global 0) with
  | some ⟨_, .skill node :: _⟩ =>
    match ((Caster.blindReader.step node .opening).run.run .quiet).1 with
    | .ok (.finished outcome) => outcome.reason
    | _ => none
  | _ => none

end Rotation
