import Rotation.Preset.Wire
import Rotation.Proofs.Condition.Pointing
import Rotation.Proofs.Preset.Validation

/-!
# Dangling references

A draft refers to skills, nodes, tracks and modes by their identifiers.  Each
such reference stands at a place of its own in the document, and what the
validation says of it points there.  All else that is found points to other
places or says something else.  So a reference is reported exactly when there
is nothing that it refers to, whatever else is wrong with the draft.
-/

namespace Rotation

open Rotation.Pointer Rotation.Condition

namespace Diagnostics

/-- An error with one of the codes is reported at a place. -/
def Reports (ds : Diagnostics) (codes : List String) (pointer : String) : Prop :=
  ∃ d ∈ ds, d.severity = .error ∧ d.code ∈ codes ∧ d.path = pointer

variable {codes : List String} {pointer : String}

@[simp]
theorem not_reports_nil : ¬ Reports [] codes pointer := by
  simp [Reports]

@[simp]
theorem reports_append {first second : Diagnostics} :
    Reports (first ++ second) codes pointer ↔
      first.Reports codes pointer ∨ second.Reports codes pointer := by
  simp only [Reports, List.mem_append, or_and_right, exists_or]

@[simp]
theorem reports_error {code path message : String} :
    Reports (error code path message) codes pointer ↔ code ∈ codes ∧ path = pointer := by
  simp [Reports, error]

@[simp]
theorem not_reports_warning {code path message : String} :
    ¬ Reports (warning code path message) codes pointer := by
  simp [Reports, warning]

@[simp]
theorem not_reports_info {code path message : String} :
    ¬ Reports (info code path message) codes pointer := by
  simp [Reports, info]

/-- All findings have one of the codes. -/
def Coded (codes : List String) (ds : Diagnostics) : Prop :=
  ∀ d ∈ ds, d.code ∈ codes

@[simp]
theorem coded_nil : Coded codes [] :=
  List.forall_mem_nil _

@[simp]
theorem coded_append {first second : Diagnostics} :
    Coded codes (first ++ second) ↔ Coded codes first ∧ Coded codes second :=
  List.forall_mem_append

@[simp]
theorem coded_error {code path message : String} :
    Coded codes (error code path message) ↔ code ∈ codes :=
  List.forall_mem_singleton

@[simp]
theorem coded_warning {code path message : String} :
    Coded codes (warning code path message) ↔ code ∈ codes :=
  List.forall_mem_singleton

theorem Coded.not_reports {ds : Diagnostics} {others : List String} (coded : Coded codes ds)
    (disjoint : ∀ code ∈ codes, code ∉ others) : ¬ ds.Reports others pointer := by
  rintro ⟨d, mem, _, other, _⟩
  exact disjoint d.code (coded d mem) other

end Diagnostics

/-- The steps that lead to the track of a place. -/
def Place.steps : Place → List Step
  | .global i => [.field "global_tracks", .item i]
  | .mode m t => [.field "modes", .item m, .field "tracks", .item t]

/-- The steps that lead to a node of the track of a place. -/
def Place.nodeSteps (place : Place) (i : Nat) : List Step :=
  place.steps ++ [.field "nodes", .item i]

namespace Draft

/-! ## References -/

/-- What a draft refers to by an identifier, and where it is looked for. -/
inductive Reference where
  | skill (id : String)
  | node (own : Track) (id : String)
  | track (own : Option Mode) (id : String)
  | mode (id : String)
  | entry (id : String)

namespace Reference

/-- The identifier of what is referred to. -/
def id : Reference → String
  | .skill id | .node _ id | .track _ id | .mode id | .entry id => id

/-- The codes under which a reference is reported. -/
def codes : Reference → List String
  | .skill _ => ["ref.unknown_skill"]
  | .node _ _ => ["gateway.unknown_node"]
  | .track _ _ => ["gateway.unknown_track", "gateway.unreachable_track"]
  | .mode _ => ["gateway.unknown_mode"]
  | .entry _ => ["preset.unknown_entry_mode"]

/-- There is nothing that is referred to: no such skill in the catalogue, no
such node in the own track, no such track among the global ones and those of the
own mode, no such mode in the draft. -/
def Dangles (d : Draft) (catalogue : Catalogue) : Reference → Prop
  | .skill id => catalogue.skill? id = none
  | .node own id => ∀ n ∈ own.nodes, n.id ≠ id
  | .track own id =>
    (∀ t ∈ d.globalTracks, t.id ≠ id) ∧ ∀ m, own = some m → ∀ t ∈ m.tracks, t.id ≠ id
  | .mode id | .entry id => ∀ m ∈ d.modes, m.id ≠ id

end Reference

/-- The draft has a reference where the steps lead. -/
inductive Refers (d : Draft) : List Step → Reference → Prop
  | entry {id : String} (named : d.entryMode = some id) :
      d.Refers [.field "entry_mode"] (.entry id)
  | skillNode {place : Place} {t : Track} {i : Nat} {n : SkillNode}
      (there : d.track? place = some t) (at_i : t.nodes[i]? = some (.skill n)) :
      d.Refers (place.nodeSteps i ++ [.field "skill_id"]) (.skill n.skill)
  | castSkill {place : Place} {t : Track} {i : Nat} {g : Gateway} {skill : String}
      (there : d.track? place = some t) (at_i : t.nodes[i]? = some (.gateway g))
      (acts : g.action = .castSkill skill) :
      d.Refers (place.nodeSteps i ++ [.field "action", .field "skill_id"]) (.skill skill)
  | jumpNode {place : Place} {t : Track} {i : Nat} {g : Gateway} {node : String}
      (there : d.track? place = some t) (at_i : t.nodes[i]? = some (.gateway g))
      (acts : g.action = .jumpNode node) :
      d.Refers (place.nodeSteps i ++ [.field "action", .field "node_id"]) (.node t node)
  | jumpTrack {place : Place} {t : Track} {i : Nat} {g : Gateway} {track : String}
      {node : Option String} (there : d.track? place = some t)
      (at_i : t.nodes[i]? = some (.gateway g)) (acts : g.action = .jumpTrack track node) :
      d.Refers (place.nodeSteps i ++ [.field "action", .field "track_id"])
        (.track (d.ownMode? place) track)
  | switchMode {place : Place} {t : Track} {i : Nat} {g : Gateway} {mode : String}
      {track node : Option String} (there : d.track? place = some t)
      (at_i : t.nodes[i]? = some (.gateway g)) (acts : g.action = .switchMode mode track node) :
      d.Refers (place.nodeSteps i ++ [.field "action", .field "mode_id"]) (.mode mode)

/-! ## Places of nodes -/

theorem pathOf_eq_walk (place : Place) : pathOf place = walk "" place.steps := by
  have globals_eq : push "" "global_tracks" = "/global_tracks" := by decide
  have modes_eq : push "" "modes" = "/modes" := by decide
  cases place with
  | global i => simp [pathOf, Place.steps, Step.segment, globals_eq, pushIndex]
  | mode m t => simp [pathOf, Place.steps, Step.segment, modes_eq, pushIndex]

theorem walk_nodeSteps (place : Place) (i : Nat) :
    walk "" (place.nodeSteps i) = pushIndex (push (pathOf place) "nodes") i := by
  rw [Place.nodeSteps, walk_append, ← pathOf_eq_walk]
  rfl

/-- No two nodes have a place in common, not even below them. -/
theorem nodeSteps_injective {place other : Place} {i j : Nat} {first second : List String}
    (same : pushAll (walk "" (place.nodeSteps i)) first =
      pushAll (walk "" (other.nodeSteps j)) second) : place = other ∧ i = j := by
  rw [walk, walk, ← pushAll_append, ← pushAll_append] at same
  have segments_eq := pushAll_injective same
  cases place with
  | global k =>
      cases other with
      | global l =>
          simp only [Place.nodeSteps, Place.steps, List.map_cons, Step.segment, List.cons_append,
            List.nil_append, List.cons.injEq] at segments_eq
          obtain ⟨_, k_eq, _, i_eq, _⟩ := segments_eq
          rw [Text.toString_injective k_eq]
          exact ⟨rfl, Text.toString_injective i_eq⟩
      | mode m t => simp [Place.nodeSteps, Place.steps, Step.segment] at segments_eq
  | mode m t =>
      cases other with
      | global l => simp [Place.nodeSteps, Place.steps, Step.segment] at segments_eq
      | mode n u =>
          simp only [Place.nodeSteps, Place.steps, List.map_cons, Step.segment, List.cons_append,
            List.nil_append, List.cons.injEq] at segments_eq
          obtain ⟨_, m_eq, _, t_eq, _, i_eq, _⟩ := segments_eq
          rw [Text.toString_injective m_eq, Text.toString_injective t_eq]
          exact ⟨rfl, Text.toString_injective i_eq⟩

/-! ## Findings aside from a reference -/

/-- All findings point to a place or below it, but not into one of its fields. -/
def Aside (base name : String) (ds : Diagnostics) : Prop :=
  ∀ d ∈ ds, ∃ segments, d.path = pushAll base segments ∧ segments.head? ≠ some name

section

variable {base name : String}

@[simp]
theorem aside_nil : Aside base name [] :=
  List.forall_mem_nil _

@[simp]
theorem aside_append {first second : Diagnostics} :
    Aside base name (first ++ second) ↔ Aside base name first ∧ Aside base name second :=
  List.forall_mem_append

/-- What points into another field is aside. -/
theorem aside_of_within {other : String} (differs : other ≠ name) {ds : Diagnostics}
    (within : Within (push base other) ds) : Aside base name ds := by
  intro d mem
  obtain ⟨segments, path_eq⟩ := within d mem
  refine ⟨other :: segments, path_eq, ?_⟩
  simpa using differs

/-- What points to the place itself is aside. -/
theorem aside_of_path_eq {ds : Diagnostics} (path_eq : ∀ d ∈ ds, d.path = base) :
    Aside base name ds :=
  fun d mem => ⟨[], path_eq d mem, by simp⟩

theorem Aside.within {ds : Diagnostics} (aside : Aside base name ds) : Within base ds := by
  intro d mem
  obtain ⟨segments, path_eq, _⟩ := aside d mem
  exact ⟨segments, path_eq⟩

theorem Aside.not_reports {ds : Diagnostics} (aside : Aside base name ds) (codes : List String)
    (segments : List String) : ¬ ds.Reports codes (pushAll (push base name) segments) := by
  rintro ⟨d, mem, _, _, path_eq⟩
  obtain ⟨others, others_eq, differs⟩ := aside d mem
  have segments_eq : name :: segments = others := by
    apply @pushAll_injective base
    rw [← others_eq, path_eq]
    rfl
  rw [← segments_eq] at differs
  exact differs rfl

end

variable {d : Draft} {catalogue : Catalogue}

/-! ## Nodes that cast -/

theorem within_skill (catalogue : Catalogue) (id path : String) :
    Within path (skill catalogue id path).diagnostics := by
  unfold skill
  split
  · simp
  · simp only [within_append]
    constructor
    · split <;> simp
    · repeat' split
      all_goals simp

/-- A skill that is looked up is reported when it is not in the catalogue. -/
theorem reports_skill_iff (catalogue : Catalogue) (id path : String) :
    (skill catalogue id path).diagnostics.Reports ["ref.unknown_skill"] path ↔
      catalogue.skill? id = none := by
  unfold skill
  split
  · rename_i missing
    simp [missing]
  · rename_i found there
    simp only [there, reduceCtorEq, iff_false, Diagnostics.reports_append, not_or]
    constructor
    · split <;> simp
    · repeat' split
      all_goals simp

theorem within_castBar (catalogue : Catalogue) (found : Option Skill) (path : String) :
    Within path (castBar catalogue found path).diagnostics := by
  unfold castBar
  repeat' split
  all_goals simp

theorem aside_ready (catalogue : Catalogue) (n : SkillNode) (found : Option Skill)
    (path : String) : Aside path "skill_id" (ready catalogue n found path).diagnostics := by
  unfold ready
  split
  · exact aside_of_within (by decide) (within_condition catalogue _ _)
  · split
    · apply aside_of_path_eq
      simp [Diagnostics.info]
    · exact aside_nil

theorem within_startCondition (catalogue : Catalogue) (n : SkillNode) (found : Option Skill)
    (held : Condition) (path : String) :
    Within path (startCondition catalogue n found held path).diagnostics := by
  unfold startCondition
  split
  · exact (within_condition catalogue _ _).mono (enters_push path "expr")
  · split
    · exact within_nil path
    · exact within_nil path
    · exact within_castBar catalogue found path

theorem within_completionCondition (catalogue : Catalogue) (n : SkillNode) (found : Option Skill)
    (startPath path : String) :
    Within path (completionCondition catalogue n found startPath path).diagnostics := by
  unfold completionCondition
  split
  · exact (within_condition catalogue _ _).mono (enters_push path "expr")
  · repeat' split
    all_goals simp

theorem within_factor (n : SkillNode) (path : String) : Within path (factor n path) := by
  simp only [factor]
  repeat' split
  all_goals simp

theorem within_zeroWait (n : SkillNode) (path : String) :
    Within (push path "lock") (zeroWait n path) := by
  unfold zeroWait
  split <;> simp

/-- Of a node that casts, only what is found about its skill points to the
identifier of it. -/
theorem exists_aside_skillNode (d : Draft) (catalogue : Catalogue) (n : SkillNode)
    (path : String) :
    ∃ others, Aside path "skill_id" others ∧ (skillNode d catalogue n path).diagnostics =
      (skill catalogue n.skill (push path "skill_id")).diagnostics ++ others := by
  let found := skill catalogue n.skill (push path "skill_id")
  let held := ready catalogue n found.value path
  let start := startCondition catalogue n found.value held.value (push path "start")
  let completion := completionCondition catalogue n found.value (push path "start")
    (push path "completion")
  refine ⟨held.diagnostics ++ unobservable n held.value path ++ start.diagnostics ++
    startTimeout n (push path "start") ++ completion.diagnostics ++
    factor n (push path "completion") ++ zeroWait n path, ?_, ?_⟩
  · have start_aside {ds : Diagnostics} (within : Within (push path "start") ds) :
        Aside path "skill_id" ds :=
      aside_of_within (by decide) within
    have completion_aside {ds : Diagnostics} (within : Within (push path "completion") ds) :
        Aside path "skill_id" ds :=
      aside_of_within (by decide) within
    simp only [aside_append, and_assoc]
    refine ⟨aside_ready catalogue n found.value path, start_aside ?_,
      start_aside (within_startCondition catalogue n found.value held.value _), start_aside ?_,
      completion_aside (within_completionCondition catalogue n found.value _ _),
      completion_aside (within_factor n _), aside_of_within (by decide) (within_zeroWait n path)⟩
    · unfold unobservable
      split <;> simp
    · unfold startTimeout
      split <;> simp
  · simp only [skillNode, List.append_assoc]
    rfl

/-! ## Gateways -/

theorem within_nodeOf (t : Track) (id path : String) : Within path (nodeOf t id path) := by
  unfold nodeOf
  split <;> simp

theorem within_action (d : Draft) (catalogue : Catalogue) (own : Option Mode) (t : Track)
    (g : Gateway) (path : String) : Within path (action d catalogue own t g path) := by
  have node_within (t : Track) (id : String) : Within path (nodeOf t id (push path "node_id")) :=
    (within_nodeOf t id _).mono (enters_push path "node_id")
  unfold action
  split
  · exact within_nil path
  · simp only [switchMode, switchEntry, within_append]
    constructor
    · repeat' split
      all_goals simp [node_within]
    · split <;> simp
  · simp only [jumpNode, within_append]
    constructor
    · exact node_within t _
    · split <;> simp
  · simp only [jumpTrack]
    repeat' split
    all_goals simp [node_within]
  · exact (within_skill catalogue _ _).mono (enters_push path "skill_id")

/-- Of a gateway, only what is found about its action points into the action. -/
theorem exists_aside_gateway (d : Draft) (catalogue : Catalogue) (own : Option Mode) (t : Track)
    (g : Gateway) (path : String) :
    ∃ before after, Aside path "action" before ∧ Aside path "action" after ∧
      (gateway d catalogue own t g path).diagnostics =
        before ++ action d catalogue own t g (push path "action") ++ after := by
  refine ⟨_, _, ?_, ?_, rfl⟩
  · exact aside_of_within (by decide) (within_condition catalogue _ _)
  · split
    · apply aside_of_within _ (within_warning.mpr (enters_self (push path "reset_metrics")))
      decide
    · exact aside_nil

/-! ## Findings about a draft -/

theorem mem_gather_iff {α β : Type} {l : List β} {f : Nat → β → Finding α} {x : Diagnostic} :
    x ∈ (gather (l.mapIdx f)).diagnostics ↔ ∃ i b, l[i]? = some b ∧ x ∈ (f i b).diagnostics := by
  rw [gather, List.mem_flatMap]
  constructor
  · rintro ⟨result, mem, said⟩
    obtain ⟨i, i_lt, rfl⟩ := List.mem_mapIdx.mp mem
    exact ⟨i, l[i], List.getElem?_eq_getElem i_lt, said⟩
  · rintro ⟨i, b, found, said⟩
    obtain ⟨i_lt, rfl⟩ := List.getElem?_eq_some_iff.mp found
    exact ⟨_, List.mem_mapIdx.mpr ⟨i, i_lt, rfl⟩, said⟩

/-- What is found about the node at a position of a place. -/
def nodeFindings (d : Draft) (catalogue : Catalogue) (place : Place) (t : Track) (i : Nat)
    (n : Node) : Diagnostics :=
  (node d catalogue (d.ownMode? place) t (pathOf place) n i).diagnostics

theorem mem_compile_iff {place : Place} {t : Track} {x : Diagnostic} :
    x ∈ (d.compile catalogue place t).diagnostics ↔
      ∃ i n, t.nodes[i]? = some n ∧ x ∈ d.nodeFindings catalogue place t i n :=
  mem_gather_iff

/-- A finding is about identifiers, about the entry or about a node. -/
theorem mem_validate_iff {x : Diagnostic} :
    x ∈ (d.validate catalogue).diagnostics ↔
      (x ∈ d.checkIds ∨ x ∈ d.entry.diagnostics) ∨
        ∃ place t, d.track? place = some t ∧ x ∈ (d.compile catalogue place t).diagnostics := by
  have place_iff : (∃ place t, d.track? place = some t ∧
      x ∈ (d.compile catalogue place t).diagnostics) ↔
        (∃ i t, d.globalTracks[i]? = some t ∧
          x ∈ (d.compile catalogue (.global i) t).diagnostics) ∨
        ∃ m own, d.modes[m]? = some own ∧ x ∈ (mode d catalogue own m).diagnostics := by
    constructor
    · rintro ⟨place, t, there, said⟩
      cases place with
      | global i => exact .inl ⟨i, t, there, said⟩
      | mode m j =>
          obtain ⟨own, own_found, at_j⟩ := Option.bind_eq_some_iff.mp there
          rw [compile, ownMode?, own_found] at said
          exact .inr ⟨m, own, own_found, mem_gather_iff.mpr ⟨j, t, at_j, said⟩⟩
    · rintro (⟨i, t, there, said⟩ | ⟨m, own, own_found, said⟩)
      · exact ⟨.global i, t, there, said⟩
      · obtain ⟨j, t, at_j, said⟩ := mem_gather_iff.mp said
        refine ⟨.mode m j, t, Option.bind_eq_some_iff.mpr ⟨own, own_found, at_j⟩, ?_⟩
        rw [compile, ownMode?, own_found]
        exact said
  rw [place_iff]
  simp only [validate, List.mem_append, mem_gather_iff, or_assoc]
  rfl

/-- The codes of what is found about the identifiers that a draft gives. -/
def givenCodes : List String :=
  ["preset.missing_id", "preset.duplicate_node", "preset.empty_track", "preset.duplicate_track",
    "preset.empty_mode", "preset.duplicate_mode", "preset.empty"]

theorem coded_checkNodeIds (track path : String) (seen : List String) (nodes : List Node)
    (i : Nat) : Diagnostics.Coded givenCodes (checkNodeIds track path seen nodes i) := by
  induction nodes generalizing seen i with
  | nil => simp [checkNodeIds]
  | cons n rest ih =>
      simp only [checkNodeIds]
      split
      · exact Diagnostics.coded_append.mpr ⟨by simp [givenCodes], ih _ _⟩
      · split
        · exact Diagnostics.coded_append.mpr ⟨by simp [givenCodes], ih _ _⟩
        · exact ih _ _

theorem coded_checkTracks (base : String) (seen : List String) (tracks : List Track) (i : Nat) :
    Diagnostics.Coded givenCodes (checkTracks base seen tracks i).diagnostics := by
  induction tracks generalizing seen i with
  | nil => simp [checkTracks]
  | cons t rest ih =>
      simp only [checkTracks, checkTrackIds, Diagnostics.coded_append, ih, coded_checkNodeIds,
        and_true]
      constructor
      · repeat' split
        all_goals simp [givenCodes]
      · split <;> simp [givenCodes]

theorem coded_checkModes (seenModes seen : List String) (modes : List Mode) (m : Nat) :
    Diagnostics.Coded givenCodes (checkModes seenModes seen modes m) := by
  induction modes generalizing seenModes seen m with
  | nil => simp [checkModes]
  | cons own rest ih =>
      simp only [checkModes, Diagnostics.coded_append, ih, coded_checkTracks, and_true]
      constructor
      · split <;> simp [givenCodes]
      · split <;> simp [givenCodes]

theorem coded_checkIds (d : Draft) : Diagnostics.Coded givenCodes d.checkIds := by
  simp only [checkIds, Diagnostics.coded_append, coded_checkTracks, coded_checkModes, and_true]
  constructor
  · split <;> simp [givenCodes]
  · split <;> simp [givenCodes]

theorem within_nodeFindings (d : Draft) (catalogue : Catalogue) (place : Place) (t : Track)
    (i : Nat) (n : Node) :
    Within (walk "" (place.nodeSteps i)) (d.nodeFindings catalogue place t i n) := by
  rw [walk_nodeSteps]
  cases n with
  | skill n =>
      obtain ⟨others, aside, findings_eq⟩ := exists_aside_skillNode d catalogue n
        (pushIndex (push (pathOf place) "nodes") i)
      rw [nodeFindings, node, findings_eq, within_append]
      exact ⟨(within_skill catalogue n.skill _).mono (enters_push _ _), aside.within⟩
  | gateway g =>
      obtain ⟨before, after, before_aside, after_aside, findings_eq⟩ := exists_aside_gateway d
        catalogue (d.ownMode? place) t g (pushIndex (push (pathOf place) "nodes") i)
      rw [nodeFindings, node, findings_eq, within_append, within_append]
      have action_within := within_action d catalogue (d.ownMode? place) t g
        (push (pushIndex (push (pathOf place) "nodes") i) "action")
      exact ⟨⟨before_aside.within, action_within.mono (enters_push _ _)⟩, after_aside.within⟩

/-- What points to a node or below it is found about that node, unless it is
about identifiers or the entry. -/
theorem reports_validate_iff {place : Place} {t : Track} {i : Nat} {n : Node}
    {codes : List String} (there : d.track? place = some t) (at_i : t.nodes[i]? = some n)
    (not_given : ∀ code ∈ givenCodes, code ∉ codes)
    (not_entry : "preset.unknown_entry_mode" ∉ codes) (segments : List String) :
    (d.validate catalogue).diagnostics.Reports codes
        (pushAll (walk "" (place.nodeSteps i)) segments) ↔
      (d.nodeFindings catalogue place t i n).Reports codes
        (pushAll (walk "" (place.nodeSteps i)) segments) := by
  have entry_silent (pointer : String) : ¬ d.entry.diagnostics.Reports codes pointer := by
    unfold entry
    repeat' split
    all_goals simp [not_entry]
  constructor
  · rintro ⟨x, mem, grave, coded, path_eq⟩
    rcases mem_validate_iff.mp mem with (given | of_entry) | ⟨other, u, other_there, said⟩
    · exact absurd ⟨x, given, grave, coded, path_eq⟩ ((coded_checkIds d).not_reports not_given)
    · exact absurd ⟨x, of_entry, grave, coded, path_eq⟩ (entry_silent _)
    · obtain ⟨j, m, at_j, said⟩ := mem_compile_iff.mp said
      obtain ⟨others, others_eq⟩ := within_nodeFindings d catalogue other u j m x said
      obtain ⟨rfl, rfl⟩ := nodeSteps_injective (path_eq.symm.trans others_eq)
      obtain rfl := Option.some.inj (there.symm.trans other_there)
      obtain rfl := Option.some.inj (at_i.symm.trans at_j)
      exact ⟨x, said, grave, coded, path_eq⟩
  · rintro ⟨x, said, reported⟩
    exact ⟨x, mem_validate_iff.mpr (.inr ⟨place, t, there, mem_compile_iff.mpr ⟨i, n, at_i, said⟩⟩),
      reported⟩

/-- What points to the identifier of a skill node is found about the skill. -/
theorem reports_skillNode_iff {place : Place} {t : Track} {i : Nat} {n : SkillNode}
    (there : d.track? place = some t) (at_i : t.nodes[i]? = some (.skill n)) :
    (d.validate catalogue).diagnostics.Reports ["ref.unknown_skill"]
        (walk "" (place.nodeSteps i ++ [.field "skill_id"])) ↔
      catalogue.skill? n.skill = none := by
  obtain ⟨others, aside, findings_eq⟩ := exists_aside_skillNode d catalogue n
    (walk "" (place.nodeSteps i))
  have said_eq : d.nodeFindings catalogue place t i (.skill n) =
      (skill catalogue n.skill (push (walk "" (place.nodeSteps i)) "skill_id")).diagnostics ++
        others := by
    rw [← findings_eq, walk_nodeSteps]
    rfl
  have others_silent := aside.not_reports ["ref.unknown_skill"] []
  have skill_iff := reports_skill_iff catalogue n.skill
    (push (walk "" (place.nodeSteps i)) "skill_id")
  have at_node := @reports_validate_iff d catalogue _ _ _ _ ["ref.unknown_skill"] there at_i
    (by decide) (by decide) ["skill_id"]
  rw [said_eq, Diagnostics.reports_append] at at_node
  rw [walk_append, ← skill_iff]
  exact at_node.trans (or_iff_left others_silent)

/-- What points into the action of a gateway is found about the action. -/
theorem reports_gateway_iff {place : Place} {t : Track} {i : Nat} {g : Gateway}
    {codes : List String} (there : d.track? place = some t)
    (at_i : t.nodes[i]? = some (.gateway g)) (not_given : ∀ code ∈ givenCodes, code ∉ codes)
    (not_entry : "preset.unknown_entry_mode" ∉ codes) (name : String) :
    (d.validate catalogue).diagnostics.Reports codes
        (walk "" (place.nodeSteps i ++ [.field "action", .field name])) ↔
      (action d catalogue (d.ownMode? place) t g
          (push (walk "" (place.nodeSteps i)) "action")).Reports codes
        (push (push (walk "" (place.nodeSteps i)) "action") name) := by
  obtain ⟨before, after, before_aside, after_aside, findings_eq⟩ := exists_aside_gateway d
    catalogue (d.ownMode? place) t g (walk "" (place.nodeSteps i))
  have said_eq : d.nodeFindings catalogue place t i (.gateway g) =
      before ++ action d catalogue (d.ownMode? place) t g
        (push (walk "" (place.nodeSteps i)) "action") ++ after := by
    rw [← findings_eq, walk_nodeSteps]
    rfl
  have before_silent := before_aside.not_reports codes [name]
  have after_silent := after_aside.not_reports codes [name]
  have at_node := @reports_validate_iff d catalogue _ _ _ _ codes there at_i not_given not_entry
    ["action", name]
  rw [said_eq, Diagnostics.reports_append, Diagnostics.reports_append] at at_node
  rw [walk_append]
  exact at_node.trans ((or_iff_left after_silent).trans (or_iff_right before_silent))

/-! ## Each kind of reference -/

theorem reports_nodeOf_iff (t : Track) (id path : String) :
    (nodeOf t id path).Reports ["gateway.unknown_node"] path ↔ ∀ n ∈ t.nodes, n.id ≠ id := by
  unfold nodeOf
  split
  · rename_i has
    obtain ⟨n, mem, same⟩ := List.any_eq_true.mp has
    simp only [Diagnostics.not_reports_nil, false_iff]
    exact fun missing => missing n mem (beq_iff_eq.mp same)
  · rename_i missing
    simpa [Track.hasNode] using missing

theorem reports_jumpNode_iff (g : Gateway) (t : Track) (node path : String) :
    (jumpNode g t node path).Reports ["gateway.unknown_node"] (push path "node_id") ↔
      ∀ n ∈ t.nodes, n.id ≠ node := by
  have self_silent (codes : List String) (pointer : String) : ¬ Diagnostics.Reports
      (if node = g.id then
        Diagnostics.warning "gateway.self_jump" (push path "node_id")
          "jumping to itself re-evaluates this gateway every gap until its condition turns false"
      else []) codes pointer := by
    split <;> simp
  simp only [jumpNode, Diagnostics.reports_append, self_silent, or_false]
  exact reports_nodeOf_iff t node _

theorem reachable_eq_none_iff (d : Draft) (own : Option Mode) (track : String) :
    reachable d own track = none ↔
      (∀ t ∈ d.globalTracks, t.id ≠ track) ∧ ∀ m, own = some m → ∀ t ∈ m.tracks, t.id ≠ track := by
  simp [reachable, Option.or_eq_none_iff, List.find?_eq_none]

theorem reports_jumpTrack_iff (d : Draft) (own : Option Mode) (track : String)
    (node : Option String) (path : String) :
    (jumpTrack d own track node path).Reports ["gateway.unknown_track", "gateway.unreachable_track"]
        (push path "track_id") ↔ reachable d own track = none := by
  unfold jumpTrack
  split
  · rename_i found reached
    simp only [reached, reduceCtorEq, iff_false]
    split
    · simp
    · unfold nodeOf
      split <;> simp
  · rename_i missing
    simp only [missing, iff_true]
    split <;> simp

theorem reports_switchMode_iff (d : Draft) (own : Option Mode) (mode : String)
    (track node : Option String) (path : String) :
    (switchMode d own mode track node path).Reports ["gateway.unknown_mode"]
        (push path "mode_id") ↔ ∀ m ∈ d.modes, m.id ≠ mode := by
  have self_silent (codes : List String) (pointer : String) : ¬ Diagnostics.Reports
      (if own.any fun m => m.id == mode then
        Diagnostics.info "gateway.switch_to_self" path "switching to the active mode restarts it"
      else []) codes pointer := by
    split <;> simp
  have entry_silent (target : Mode) (pointer : String) :
      ¬ (switchEntry target track node path).Reports ["gateway.unknown_mode"] pointer := by
    unfold switchEntry nodeOf
    repeat' split
    all_goals simp
  simp only [switchMode, Diagnostics.reports_append, self_silent, or_false]
  split
  · rename_i missing
    simpa using List.find?_eq_none.mp missing
  · rename_i target found
    simp only [entry_silent, false_iff]
    intro missing
    have named := List.find?_some found
    exact missing target (List.mem_of_find?_eq_some found) (beq_iff_eq.mp named)

theorem reports_entry_iff {id : String} (named : d.entryMode = some id) :
    (d.validate catalogue).diagnostics.Reports ["preset.unknown_entry_mode"]
        (walk "" [.field "entry_mode"]) ↔ ∀ m ∈ d.modes, m.id ≠ id := by
  have entry_iff : d.entry.diagnostics.Reports ["preset.unknown_entry_mode"]
      (walk "" [.field "entry_mode"]) ↔ ∀ m ∈ d.modes, m.id ≠ id := by
    have path_eq : walk "" [.field "entry_mode"] = "/entry_mode" := by decide
    unfold entry
    rw [named]
    dsimp only
    split
    · rename_i m found
      obtain ⟨m_lt, same, _⟩ := List.findIdx?_eq_some_iff_getElem.mp found
      simp only [Diagnostics.not_reports_nil, false_iff]
      exact fun missing => missing _ (List.getElem_mem m_lt) (beq_iff_eq.mp same)
    · rename_i missing
      simpa [path_eq] using missing
  rw [← entry_iff]
  constructor
  · rintro ⟨x, mem, grave, coded, path_eq⟩
    rcases mem_validate_iff.mp mem with (given | of_entry) | ⟨place, t, _, said⟩
    · have other_code : ∀ code ∈ givenCodes, code ∉ ["preset.unknown_entry_mode"] := by decide
      exact absurd ⟨x, given, grave, coded, path_eq⟩ ((coded_checkIds d).not_reports other_code)
    · exact ⟨x, of_entry, grave, coded, path_eq⟩
    · obtain ⟨i, n, _, said⟩ := mem_compile_iff.mp said
      obtain ⟨segments, below⟩ := within_nodeFindings d catalogue place t i n x said
      rw [path_eq, walk, walk, ← pushAll_append] at below
      have segments_eq := pushAll_injective below
      cases place <;> simp [Place.nodeSteps, Place.steps, Step.segment] at segments_eq
  · rintro ⟨x, of_entry, reported⟩
    exact ⟨x, mem_validate_iff.mpr (.inl (.inr of_entry)), reported⟩

/-! ## Places in the document -/

theorem follow?_place {place : Place} {t : Track} (there : d.track? place = some t)
    (real : Float → Document) :
    (d.toDocument real).follow? place.steps = some (t.toDocument real) := by
  cases place with
  | global i =>
      have at_i : d.globalTracks[i]? = some t := there
      simp [Document.follow?, Place.steps, toDocument, Document.step?, Document.field?, at_i]
  | mode m j =>
      obtain ⟨own, own_found, at_j⟩ := Option.bind_eq_some_iff.mp there
      simp [Document.follow?, Place.steps, toDocument, Mode.toDocument, Document.step?,
        Document.field?, own_found, at_j]

theorem follow?_node {place : Place} {t : Track} {i : Nat} {n : Node}
    (there : d.track? place = some t) (at_i : t.nodes[i]? = some n) (real : Float → Document)
    (steps : List Step) :
    (d.toDocument real).follow? (place.nodeSteps i ++ steps) =
      (n.toDocument real).follow? steps := by
  have to_track := follow?_place there real
  rw [Document.follow?] at to_track
  rw [Document.follow?, Place.nodeSteps, List.foldlM_append, List.foldlM_append, to_track]
  simp [Track.toDocument, Document.step?, Document.field?, at_i, Document.follow?]

/-- The identifier of a reference stands where the steps to it lead. -/
theorem Refers.follow? {steps : List Step} {r : Reference} (refers : d.Refers steps r)
    (real : Float → Document) : (d.toDocument real).follow? steps = some (.text r.id) := by
  cases refers with
  | entry named =>
      simp [Document.follow?, toDocument, Document.step?, Document.field?, named, Reference.id,
        Document.option]
  | skillNode there at_i =>
      rw [follow?_node there at_i]
      rfl
  | castSkill there at_i acts =>
      rw [follow?_node there at_i]
      simp [Node.toDocument, Document.follow?, Document.step?, Document.field?, acts,
        Action.toDocument, Reference.id]
  | jumpNode there at_i acts =>
      rw [follow?_node there at_i]
      simp [Node.toDocument, Document.follow?, Document.step?, Document.field?, acts,
        Action.toDocument, Reference.id]
  | jumpTrack there at_i acts =>
      rw [follow?_node there at_i]
      simp [Node.toDocument, Document.follow?, Document.step?, Document.field?, acts,
        Action.toDocument, Reference.id]
  | switchMode there at_i acts =>
      rw [follow?_node there at_i]
      simp [Node.toDocument, Document.follow?, Document.step?, Document.field?, acts,
        Action.toDocument, Reference.id]

/-- In whatever draft, against whatever catalogue: an error under the codes of a
reference is reported at the place of the reference exactly when there is
nothing that it refers to.  The place is that of its identifier in the written
form of the draft. -/
theorem reports_iff_dangles (d : Draft) (catalogue : Catalogue) {steps : List Step}
    {r : Reference} (refers : d.Refers steps r) :
    ((d.validate catalogue).diagnostics.Reports r.codes (walk "" steps) ↔
        r.Dangles d catalogue) ∧
      ∀ real, (d.toDocument real).resolve? (walk "" steps) = some (.text r.id) := by
  constructor
  · cases refers with
    | entry named => exact reports_entry_iff named
    | skillNode there at_i => exact reports_skillNode_iff there at_i
    | castSkill there at_i acts =>
        simp only [Reference.codes]
        rw [reports_gateway_iff there at_i (by decide) (by decide), action, acts]
        exact reports_skill_iff catalogue _ _
    | jumpNode there at_i acts =>
        simp only [Reference.codes]
        rw [reports_gateway_iff there at_i (by decide) (by decide), action, acts]
        exact reports_jumpNode_iff _ _ _ _
    | jumpTrack there at_i acts =>
        simp only [Reference.codes]
        rw [reports_gateway_iff there at_i (by decide) (by decide), action, acts]
        exact (reports_jumpTrack_iff _ _ _ _ _).trans (reachable_eq_none_iff _ _ _)
    | switchMode there at_i acts =>
        simp only [Reference.codes]
        rw [reports_gateway_iff there at_i (by decide) (by decide), action, acts]
        exact reports_switchMode_iff _ _ _ _ _ _
  · intro real
    exact Document.resolve?_walk (refers.follow? real)

/-- By day, one gateway jumps to a track of the night and another switches to
the night. -/
def sleepless : Draft :=
  ⟨"sleepless", "", none, 0, [],
    [⟨"day", [⟨"noon", [
        .gateway ⟨"nap", 0, none, (Condition.const true).encode, .jumpTrack "moon" none, false⟩,
        .gateway ⟨"dusk", 1, none, (Condition.const true).encode, .switchMode "night" none none,
          false⟩]⟩]⟩,
      ⟨"night", [⟨"moon", []⟩]⟩]⟩

/-- The track of the night cannot be reached by day, but the night can. -/
theorem sleepless_cannot_nap :
    (sleepless.validate lampCatalogue).diagnostics.Reports
        ["gateway.unknown_track", "gateway.unreachable_track"]
        "/modes/0/tracks/0/nodes/0/action/track_id" ∧
      ¬ (sleepless.validate lampCatalogue).diagnostics.Reports ["gateway.unknown_mode"]
        "/modes/0/tracks/0/nodes/1/action/mode_id" := by
  have nap := reports_iff_dangles sleepless lampCatalogue
    (@Refers.jumpTrack sleepless (.mode 0 0) _ 0 _ "moon" none rfl rfl rfl)
  have dusk := reports_iff_dangles sleepless lampCatalogue
    (@Refers.switchMode sleepless (.mode 0 0) _ 1 _ "night" none none rfl rfl rfl)
  have nap_path : walk "" (Place.nodeSteps (.mode 0 0) 0 ++ [.field "action", .field "track_id"]) =
      "/modes/0/tracks/0/nodes/0/action/track_id" := by decide
  have dusk_path : walk "" (Place.nodeSteps (.mode 0 0) 1 ++ [.field "action", .field "mode_id"]) =
      "/modes/0/tracks/0/nodes/1/action/mode_id" := by decide
  rw [nap_path] at nap
  rw [dusk_path] at dusk
  constructor
  · apply nap.1.mpr
    simp [Reference.Dangles, sleepless, ownMode?]
  · apply mt dusk.1.mp
    simp [Reference.Dangles, sleepless]

end Draft

end Rotation
