import Rotation.Proofs.Cast.Completion
import Rotation.Proofs.Preset.Scope

/-!
# Baselines and what is captured

The baselines of a node are recorded just before its key is pressed, from what
the active mode requires to be captured.  The signals of the node are part of
what is required.  The cast bar is not, where the start of the node names it
but is recognised by a condition of its own.
-/

namespace Rotation

open Cast

theorem Cast.Caster.mem_baselinePoints_iff {node : SkillNode} {skill : Skill} {point : String} :
    point ∈ Caster.baselinePoints node skill ↔
      (node.start.mode = .castBar ∧ skill.castBar = some point) ∨
        ∃ signal ∈ node.start.condition.toList ++ node.completion.condition.toList,
          point ∈ signal.barPoints := by
  unfold baselinePoints
  rw [foldl_iff (P := fun points => point ∈ points) (R := fun other => other = point)]
  · apply or_congr
    · split <;> simp_all
    · simp only [exists_eq_right, List.mem_flatMap]
  · intro points other
    split <;> simp_all <;> grind

namespace Draft

variable {catalogue : Catalogue}

/-- Only the bar of a skill is found when it is looked up. -/
theorem castBar_of_eq_some {own : Skill} {path bar : String}
    (found : (castBar catalogue (some own) path).value = some bar) : own.castBar = some bar := by
  unfold castBar at found
  cases held : own.castBar with
  | none => simp [held] at found
  | some point =>
      simp only [held] at found
      split at found
      · exact found
      · contradiction

/-- A start that is shown by a cast bar, and described no further, waits for a
change of the bar of its skill. -/
theorem startCondition_of_castBar {d : Draft} {written : SkillNode} {path : String} {own : Skill}
    (clean : (skillNode d catalogue written path).diagnostics.hasErrors = false)
    (found : catalogue.skill? written.skill = some own)
    (bar_start : written.start.mode = .castBar) (bare : written.start.condition = none) :
    ∃ bar, own.castBar = some bar ∧
      (skillNode d catalogue written path).value.start.condition =
        some (.barChanged bar none) := by
  simp only [skillNode, Diagnostics.hasErrors_append, Bool.or_eq_false_iff] at clean ⊢
  obtain ⟨⟨⟨⟨⟨⟨⟨found_clean, _⟩, _⟩, start_clean⟩, _⟩, _⟩, _⟩, _⟩ := clean
  obtain ⟨other, other_found, value_eq⟩ := skill_clean found_clean
  cases found.symm.trans other_found
  simp only [startCondition, value_eq, bare, bar_start] at start_clean ⊢
  rcases castBar_cases found (Pointer.push path "start") with
    ⟨_, bar, bar_eq⟩ | ⟨_, _, error⟩
  · have found_eq :
        (castBar catalogue (some own) (Pointer.push path "start")).value = some bar := by
      rw [bar_eq]
    exact ⟨bar, castBar_of_eq_some found_eq, by rw [found_eq, Option.map_some]⟩
  · rw [start_clean] at error
    contradiction

end Draft

/-- The points of the signals of a node are required wherever it can run. -/
theorem Preset.mem_points_of_signal {p : Preset} {catalogue : Catalogue} {mode : Option Nat}
    {track : Track} {node : SkillNode} {signal : Condition} {point : String}
    (track_mem : track ∈ p.globalTracks ++ p.modeTracks mode)
    (node_mem : Node.skill node ∈ track.nodes)
    (mem : signal ∈ node.start.condition.toList ++ node.completion.condition.toList)
    (point_mem : point ∈ signal.barPoints) :
    point ∈ (p.requirements catalogue mode).points := by
  have own : signal ∈ (Node.skill node).conditions catalogue := List.mem_cons_of_mem _ mem
  exact mem_points_iff.mpr ⟨signal, mem_scope_of_mem track_mem node_mem own,
    Condition.looksAt_of_mem_barPoints point_mem⟩

/-- A baseline of a node of a validated preset is not captured in exactly one
case: it is that of a cast bar which the start of the node names without
waiting for it, as it was drafted with a condition of its own, and no other
condition in the scope of the mode looks at it. -/
theorem not_required_iff_of_mem_baselinePoints {d : Draft} {catalogue : Catalogue} {p : Preset}
    (valid : (d.validate catalogue).preset = some p) {mode : Option Nat} {place : Place}
    {track : Track} {i : Nat} {node : SkillNode} (active : place.ActiveIn mode)
    (there : p.track? place = some track) (found : track.nodes[i]? = some (.skill node)) :
    ∃ own drafted written, catalogue.skill? node.skill = some own ∧
      d.track? place = some drafted ∧ drafted.nodes[i]? = some (.skill written) ∧
        ∀ point ∈ Caster.baselinePoints node own,
          point ∉ (p.requirements catalogue mode).points ↔
            written.start.mode = .castBar ∧ written.start.condition ≠ none ∧
              own.castBar = some point ∧ ∀ c ∈ p.scope catalogue mode, ¬c.LooksAt point := by
  obtain ⟨drafted, written, path, drafted_there, written_found, clean, rfl⟩ :=
    (Draft.compiles_of_validate valid).drafted there found
  have track_mem := Preset.mem_tracks_of_activeIn active there
  have node_mem := List.mem_of_getElem? found
  have found_clean := clean
  simp only [Draft.skillNode, Diagnostics.hasErrors_append, Bool.or_eq_false_iff] at found_clean
  obtain ⟨⟨⟨⟨⟨⟨⟨found_clean, _⟩, _⟩, _⟩, _⟩, _⟩, _⟩, _⟩ := found_clean
  obtain ⟨own, own_found, _⟩ := Draft.skill_clean found_clean
  refine ⟨own, drafted, written, own_found, drafted_there, written_found, ?_⟩
  intro point mem
  constructor
  · intro missing
    have unseen : ∀ c ∈ p.scope catalogue mode, ¬c.LooksAt point := by
      intro c c_mem looks
      exact missing (Preset.mem_points_iff.mpr ⟨c, c_mem, looks⟩)
    rcases Caster.mem_baselinePoints_iff.mp mem with
      ⟨bar_start, held⟩ | ⟨signal, own_signal, at_bar⟩
    · refine ⟨bar_start, ?_, held, unseen⟩
      intro bare
      obtain ⟨bar, bar_held, derived⟩ :=
        Draft.startCondition_of_castBar clean own_found bar_start bare
      cases held.symm.trans bar_held
      have at_bar : point ∈ (Condition.barChanged point none).barPoints :=
        Condition.mem_barPoints_iff.mpr ⟨none, List.mem_singleton_self _⟩
      exact missing (Preset.mem_points_of_signal track_mem node_mem (by simp [derived]) at_bar)
    · exact absurd (Preset.mem_points_of_signal track_mem node_mem own_signal at_bar) missing
  · rintro ⟨_, _, _, unseen⟩ required
    obtain ⟨c, c_mem, looks⟩ := Preset.mem_points_iff.mp required
    exact unseen c c_mem looks

/-! ## A hum with a bar -/

/-- The hum as it is bound to a key and shown by a bar. -/
def Skill.shownHum : Skill :=
  { Skill.named "hum" with key := some "1", castMs := 500, castBar := some "bar" }

/-- A catalogue with this hum and its bar. -/
def Catalogue.stage : Catalogue :=
  .ofLists [.shownHum] [⟨"bar", ⟨⟨0, 3, 4, 1⟩, ⟨255, 255, 255⟩, 0⟩⟩]

/-- A hum that waits for its bar. -/
def Draft.awaitingHum : Draft :=
  humming ⟨.castBar, none, 600, 1⟩ none

/-- A hum that names its bar and looks for something else, at its start and at
its completion. -/
def Draft.inattentiveHum : Draft :=
  humming ⟨.castBar, some (.record [("type", .text "const"), ("value", .bool true)]), 600, 1⟩
    (some (.record [("type", .text "const"), ("value", .bool true)]))

/-- A draft becomes a preset whose first node records the bar of the hum. -/
structure Draft.RecordsBar (d : Draft) (p : Preset) (track : Rotation.Track)
    (node : Rotation.SkillNode) : Prop where
  valid : (d.validate .stage).preset = some p
  there : p.track? (.global 0) = some track
  found : track.nodes[0]? = some (.skill node)
  own : Catalogue.stage.skill? node.skill = some .shownHum
  recorded : "bar" ∈ Caster.baselinePoints node .shownHum

/-- Whether the recorded bar of the first node is required, if there is one. -/
def Draft.requiresBar? (d : Draft) : Option Bool :=
  (d.validate .stage).preset.bind fun p =>
    match p.track? (.global 0) with
    | some ⟨_, .skill node :: _⟩ =>
      if Catalogue.stage.skill? node.skill = some .shownHum ∧
          "bar" ∈ Caster.baselinePoints node .shownHum then
        some ((p.requirements .stage none).points.contains "bar")
      else none
    | _ => none

theorem Draft.exists_recordsBar {d : Draft} {required : Bool}
    (checked : d.requiresBar? = some required) :
    ∃ p track node, d.RecordsBar p track node ∧
      ("bar" ∈ (p.requirements .stage none).points ↔ required = true) := by
  obtain ⟨p, valid, answer⟩ := Option.bind_eq_some_iff.mp checked
  split at answer
  · rename_i id node rest there
    split at answer
    · rename_i own
      cases answer
      exact ⟨p, _, node, ⟨valid, there, rfl, own.1, own.2⟩, by simp⟩
    · contradiction
  · contradiction

/-- The bar that a hum waits for is captured. -/
theorem awaitingHum_captures_bar :
    ∃ p track node, Draft.awaitingHum.RecordsBar p track node ∧
      "bar" ∈ (p.requirements .stage none).points := by
  have checked : Draft.awaitingHum.requiresBar? = some true := by decide +kernel
  obtain ⟨p, track, node, records, _⟩ := Draft.exists_recordsBar checked
  refine ⟨p, track, node, records, ?_⟩
  have active : (Place.global 0).ActiveIn none := trivial
  obtain ⟨own, drafted, written, own_found, drafted_there, written_found, missing_iff⟩ :=
    not_required_iff_of_mem_baselinePoints records.valid active records.there records.found
  cases records.own.symm.trans own_found
  cases drafted_there
  cases written_found
  by_contra missing
  exact ((missing_iff "bar" records.recorded).mp missing).2.1 rfl

/-- The bar of the inattentive hum is recorded before its key is pressed, but
nobody requires that it is captured. -/
theorem inattentiveHum_misses_bar :
    ∃ p track node, Draft.inattentiveHum.RecordsBar p track node ∧
      (Catalogue.stage.point? "bar").isSome = true ∧
      "bar" ∉ (p.requirements .stage none).points := by
  have checked : Draft.inattentiveHum.requiresBar? = some false := by decide +kernel
  obtain ⟨p, track, node, records, required_iff⟩ := Draft.exists_recordsBar checked
  exact ⟨p, track, node, records, by decide, by simp [required_iff]⟩

end Rotation
