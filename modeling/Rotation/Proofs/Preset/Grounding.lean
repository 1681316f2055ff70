import Rotation.Cast.Attempt
import Rotation.Proofs.Condition.Grounding
import Rotation.Proofs.Preset.Validation

/-!
# The names of validated presets

Names stand in many places of a draft: the skills that its nodes cast with their
keys, and the points and skills of its conditions, whether those have been
written or are derived from a skill.  Validation looks all of them up, so that
every node of a validated preset is grounded in the catalogue.
-/

namespace Rotation

open Cast

/-- The catalogue has a skill, and its key is a chord. -/
def Catalogue.CanCast (c : Catalogue) (skill : String) : Prop :=
  ∃ own key, c.skill? skill = some own ∧ Caster.keyOf own = .ok key

theorem Catalogue.CanCast.isSome {c : Catalogue} {skill : String} (castable : c.CanCast skill) :
    (c.skill? skill).isSome = true := by
  obtain ⟨own, _, found, _⟩ := castable
  rw [found]
  rfl

/-- The skill that a node casts, if it does. -/
def Node.castSkill? : Node → Option String
  | .skill node => some node.skill
  | .gateway g =>
    match g.action with
    | .castSkill id => some id
    | _ => none

/-- All names that a node makes use of are in the catalogue. -/
structure Node.Grounded (catalogue : Catalogue) (n : Node) : Prop where
  conditions : ∀ c ∈ n.conditions catalogue, c.Grounded catalogue
  casts : ∀ skill, n.castSkill? = some skill → catalogue.CanCast skill

namespace Draft

variable {d : Draft} {catalogue : Catalogue} {path : String}

/-! ## Skills and conditions -/

/-- A skill without errors can be cast. -/
theorem canCast_of_skill {id : String}
    (clean : (skill catalogue id path).diagnostics.hasErrors = false) : catalogue.CanCast id := by
  unfold skill at clean
  cases found : catalogue.skill? id with
  | none => simp [found] at clean
  | some own =>
      simp only [found, Diagnostics.hasErrors_append, Bool.or_eq_false_iff] at clean
      obtain ⟨_, key_clean⟩ := clean
      unfold Catalogue.CanCast Caster.keyOf
      cases bound : own.key with
      | none => simp [bound] at key_clean
      | some text =>
          simp only [bound] at key_clean
          split at key_clean
          · simp at key_clean
          · rename_i some_text
            split at key_clean
            · rename_i key read
              refine ⟨own, key, found, ?_⟩
              simp [bound, some_text, read, Except.mapError]
            · simp at key_clean

/-- A written condition without errors is grounded. -/
theorem grounded_of_condition {value : Document} {c : Condition}
    (clean : (condition catalogue value path).diagnostics.hasErrors = false)
    (read : (condition catalogue value path).value = some c) : c.Grounded catalogue := by
  unfold condition at clean read
  rcases decoded : Condition.decodeAt value path with ⟨_ | own, found⟩
  · rw [decoded] at read
    contradiction
  · rw [decoded] at clean read
    cases read
    rw [Diagnostics.hasErrors_append, Bool.or_eq_false_iff] at clean
    exact Condition.grounded_of_check clean.2

/-- So is the one that takes its place when it cannot be read. -/
theorem grounded_of_condition_getD {value : Document}
    (clean : (condition catalogue value path).diagnostics.hasErrors = false) :
    ((condition catalogue value path).value.getD (.const false)).Grounded catalogue := by
  cases read : (condition catalogue value path).value with
  | none => exact Condition.grounded_const catalogue false
  | some c => exact grounded_of_condition clean read

/-! ## Derived conditions -/

theorem grounded_of_castBar {own : Option Skill} {point : String}
    (shown : (castBar catalogue own path).value = some point) :
    (Condition.barChanged point none).Grounded catalogue := by
  apply Condition.grounded_atom rfl
  unfold castBar at shown
  split at shown
  · contradiction
  · split at shown
    · split at shown
      · rename_i known
        cases shown
        exact known
      · contradiction
    · contradiction

theorem grounded_ready {node : SkillNode} {own : Option Skill}
    (found : (catalogue.skill? node.skill).isSome = true)
    (clean : (ready catalogue node own path).diagnostics.hasErrors = false) :
    (ready catalogue node own path).value.Grounded catalogue := by
  unfold ready at clean ⊢
  split at clean
  · exact grounded_of_condition_getD clean
  · split
    · exact Condition.grounded_const catalogue true
    · exact Condition.grounded_atom rfl found

theorem grounded_startCondition {node : SkillNode} {own : Option Skill} {ready c : Condition}
    (grounded : ready.Grounded catalogue)
    (clean : (startCondition catalogue node own ready path).diagnostics.hasErrors = false)
    (given : (startCondition catalogue node own ready path).value = some c) :
    c.Grounded catalogue := by
  unfold startCondition at clean given
  cases written : node.start.condition with
  | some value =>
      rw [written] at clean given
      exact grounded_of_condition clean given
  | none =>
      rw [written] at given
      cases mode : node.start.mode with
      | none =>
          rw [mode] at given
          contradiction
      | pixel =>
          rw [mode] at given
          cases given
          exact grounded
      | castBar =>
          rw [mode] at given
          obtain ⟨point, shown, rfl⟩ := Option.map_eq_some_iff.mp given
          exact grounded_of_castBar shown

theorem grounded_completionCondition {node : SkillNode} {own : Option Skill} {startPath : String}
    {c : Condition}
    (clean : (completionCondition catalogue node own startPath path).diagnostics.hasErrors = false)
    (given : (completionCondition catalogue node own startPath path).value = some c) :
    c.Grounded catalogue := by
  unfold completionCondition at clean given
  cases written : node.completion.condition with
  | some value =>
      rw [written] at clean given
      exact grounded_of_condition clean given
  | none =>
      rw [written] at given
      dsimp only at given
      split at given
      · contradiction
      · split at given
        · obtain ⟨point, shown, rfl⟩ := Option.map_eq_some_iff.mp given
          exact grounded_of_castBar shown
        · split at given <;> contradiction

/-! ## Nodes -/

theorem grounded_skillNode {written : SkillNode}
    (clean : (skillNode d catalogue written path).diagnostics.hasErrors = false) :
    (Rotation.Node.skill (skillNode d catalogue written path).value).Grounded catalogue := by
  simp only [skillNode, Diagnostics.hasErrors_append, Bool.or_eq_false_iff] at clean ⊢
  obtain ⟨⟨⟨⟨⟨⟨⟨found_clean, ready_clean⟩, _⟩, start_clean⟩, _⟩, completion_clean⟩, _⟩, _⟩ := clean
  have castable := canCast_of_skill found_clean
  have ready := grounded_ready castable.isSome ready_clean
  constructor
  · intro c mem
    simp only [Rotation.Node.conditions, List.mem_cons, List.mem_append, Option.mem_toList] at mem
    rcases mem with rfl | started | completed
    · exact ready
    · exact grounded_startCondition ready start_clean started
    · exact grounded_completionCondition completion_clean completed
  · rintro _ ⟨⟩
    exact castable

theorem grounded_gateway {own : Option Mode} {t : Track} {written : Gateway}
    (clean : (gateway d catalogue own t written path).diagnostics.hasErrors = false) :
    (Rotation.Node.gateway (gateway d catalogue own t written path).value).Grounded catalogue := by
  simp only [gateway, Diagnostics.hasErrors_append, Bool.or_eq_false_iff] at clean ⊢
  obtain ⟨⟨condition_clean, action_clean⟩, _⟩ := clean
  have condition := grounded_of_condition_getD condition_clean
  have castable : ∀ skill, written.action = .castSkill skill → catalogue.CanCast skill := by
    intro skill casts
    rw [action, casts] at action_clean
    exact canCast_of_skill action_clean
  constructor
  · intro c mem
    simp only [Rotation.Node.conditions] at mem
    rcases List.mem_cons.mp mem with rfl | shown
    · exact condition
    · split at shown
      · rename_i skill casts
        split at shown
        · rw [List.mem_singleton.mp shown]
          exact Condition.grounded_atom rfl (castable skill casts).isSome
        · contradiction
      · contradiction
  · intro skill casts
    simp only [Rotation.Node.castSkill?] at casts
    split at casts
    · rename_i casts_own
      cases casts
      exact castable skill casts_own
    · contradiction

/-- Every node of a validated preset is grounded. -/
theorem Compiles.grounded {p : Preset} (compiles : d.Compiles catalogue p) {place : Place}
    {track : Rotation.Track} {n : Rotation.Node} (there : p.track? place = some track)
    (mem : n ∈ track.nodes) : n.Grounded catalogue := by
  obtain ⟨t, drafted, path, i, _, _, clean, rfl⟩ := compiles.node_of_mem there mem
  cases drafted with
  | skill written => exact grounded_skillNode clean
  | gateway written => exact grounded_gateway clean

end Draft

end Rotation
