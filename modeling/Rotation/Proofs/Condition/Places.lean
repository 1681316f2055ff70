import Rotation.Preset.Validation
import Rotation.Proofs.Condition.Evaluation
import Rotation.Proofs.Condition.Grammar
import Rotation.Proofs.Condition.Nodes

/-!
# Where the check points

The check of a decoded condition counts the children of a group as they are in
the condition.  In the document, children may stand between them that are lost
in decoding.  So what is said of an identifier is said of one that is there, but
it points to the place that the identifier would have without the lost children
in front of it.  Where no child is lost, this is its own place.
-/

namespace Rotation

/-! ## Places with lost children -/

/-- How many of the items decode to a condition. -/
def Document.understood (items : List Document) : Nat :=
  items.countP fun item => (Condition.decode item).1.isSome

/-- No item before one that is stepped into is lost. -/
def Document.Unbroken : Document → List Step → Prop
  | .record fields, .field name :: rest =>
    ∀ inner, Document.field? fields name = some inner → inner.Unbroken rest
  | .list items, .item i :: rest =>
    (∀ item ∈ items.take i, (Condition.decode item).1.isSome = true) ∧
      ∀ inner, items[i]? = some inner → inner.Unbroken rest
  | _, _ => True

theorem Document.Unbroken.concat_field {d : Document} {steps : List Step}
    (unbroken : d.Unbroken steps) (name : String) : d.Unbroken (steps ++ [.field name]) := by
  induction steps generalizing d with
  | nil => cases d <;> simp [Unbroken]
  | cons step rest ih =>
      cases d <;> cases step <;> simp only [List.cons_append, Unbroken] at unbroken ⊢
      · exact ⟨unbroken.1, fun inner there => ih (unbroken.2 inner there)⟩
      · exact fun inner found => ih (unbroken inner found)

/-- The steps `actual` lead from a document to another.  The steps `shown` are
the same, except that of the items of a list only those are counted that decode
to a condition. -/
inductive Document.Shown : Document → List Step → List Step → Document → Prop
  | here (d : Document) : Shown d [] [] d
  | field {fields : List (String × Document)} {name : String} {inner target : Document}
      {actual shown : List Step} (found : Document.field? fields name = some inner)
      (rest : Shown inner actual shown target) :
      Shown (.record fields) (.field name :: actual) (.field name :: shown) target
  | item {items : List Document} {i : Nat} {inner target : Document} {actual shown : List Step}
      (there : items[i]? = some inner) (rest : Shown inner actual shown target) :
      Shown (.list items) (.item i :: actual)
        (.item (Document.understood (items.take i)) :: shown) target

theorem Document.Shown.follow? {d target : Document} {actual shown : List Step}
    (leads : d.Shown actual shown target) : d.follow? actual = some target := by
  induction leads with
  | here d => rfl
  | field found _ ih => exact Option.bind_eq_some_iff.mpr ⟨_, found, ih⟩
  | item there _ ih => exact Option.bind_eq_some_iff.mpr ⟨_, there, ih⟩

theorem Document.Shown.trans {d middle target : Document} {actual actual' shown shown' : List Step}
    (first : d.Shown actual shown middle) (second : middle.Shown actual' shown' target) :
    d.Shown (actual ++ actual') (shown ++ shown') target := by
  induction first with
  | here d => exact second
  | field found _ ih => exact .field found (ih second)
  | item there _ ih => exact .item there (ih second)

/-- If nothing is lost on the way, the steps are shown as they are. -/
theorem Document.Shown.eq_of_unbroken {d target : Document} {actual shown : List Step}
    (leads : d.Shown actual shown target) (unbroken : d.Unbroken actual) : actual = shown := by
  induction leads with
  | here d => rfl
  | field found _ ih => rw [ih (unbroken _ found)]
  | item there _ ih =>
      obtain ⟨inside, _⟩ := List.getElem?_eq_some_iff.mp there
      rw [ih (unbroken.2 _ there), Document.understood, List.countP_eq_length.mpr unbroken.1,
        List.length_take, Nat.min_eq_left (Nat.le_of_lt inside)]

namespace Condition

open Rotation.Pointer

/-! ## Nodes in the document -/

theorem isSome_of_clean {value : Document} (clean : (decode value).2.hasErrors = false) :
    (decode value).1.isSome = true := by
  rw [Option.isSome_iff_ne_none]
  intro missing
  exact absurd (reports_decodeAt value "" missing) (by simpa [decode] using clean)

theorem exists_item_of_mem_nodesFrom {items : List Document} {position : Nat} {steps : List Step}
    {node : Condition}
    (mem : (steps, node) ∈ nodesFrom position (items.filterMap fun item => (decode item).1)) :
    ∃ i item child rest, items[i]? = some item ∧ (decode item).1 = some child ∧
      (rest, node) ∈ child.nodes ∧
      steps =
        .field "children" :: .item (position + Document.understood (items.take i)) :: rest := by
  induction items generalizing position with
  | nil => contradiction
  | cons item others ih =>
      cases understood : (decode item).1 with
      | none =>
          rw [List.filterMap_cons, understood] at mem
          obtain ⟨i, inner, child, rest, there, child_eq, rest_mem, steps_eq⟩ := ih mem
          refine ⟨i + 1, inner, child, rest, there, child_eq, rest_mem, ?_⟩
          simpa [Document.understood, understood] using steps_eq
      | some child =>
          rw [List.filterMap_cons, understood, nodesFrom, List.mem_append] at mem
          rcases mem with here | later
          · obtain ⟨⟨rest, _⟩, rest_mem, same⟩ := List.mem_map.mp here
            cases same
            exact ⟨0, item, child, rest, rfl, understood, rest_mem, rfl⟩
          · obtain ⟨i, inner, other, rest, there, other_eq, rest_mem, steps_eq⟩ := ih later
            refine ⟨i + 1, inner, other, rest, there, other_eq, rest_mem, ?_⟩
            simp only [Document.understood, List.take_succ_cons, List.countP_cons, understood,
              Option.isSome_some, if_true] at steps_eq ⊢
            rw [steps_eq, Nat.add_right_comm, Nat.add_assoc]

/-- Some steps of the document lead to what decodes to a node, and they are shown
as `steps`.  If there is no error, nothing is lost on the way. -/
def HasNode (value : Document) (steps : List Step) (node : Condition) : Prop :=
  ∃ actual inner, value.Shown actual steps inner ∧ (decode inner).1 = some node ∧
    ((decode value).2.hasErrors = false → value.Unbroken actual)

theorem hasNode_root {value : Document} {c : Condition} (understood : (decode value).1 = some c)
    {node : List Step × Condition} (same : node = ([], c)) : HasNode value node.1 node.2 := by
  subst same
  exact ⟨[], value, .here value, understood, fun _ => by simp [Document.Unbroken]⟩

theorem hasNode_of_negation {fields : List (String × Document)} {inner : Document}
    {node : Condition} {steps : List Step} (named : (formOf fields "").1 = some .not)
    (field : Document.field? fields "child" = some inner) (inside : HasNode inner steps node) :
    HasNode (.record fields) (.field "child" :: steps) node := by
  obtain ⟨actual, target, leads, target_eq, unbroken⟩ := inside
  refine ⟨_, target, .field field leads, target_eq, ?_⟩
  intro clean other other_field
  cases field.symm.trans other_field
  rw [decode, decodeAt_of_form named] at clean
  simp only [formAt, negationAt, field, Diagnostics.hasErrors_append, Bool.or_eq_false_iff,
    hasErrors_decodeAt] at clean
  exact unbroken clean.2

theorem hasNode_of_group {fields : List (String × Document)} {items : List Document}
    {node : Condition} {steps : List Step}
    (hasErrors_eq : (decode (.record fields)).2.hasErrors =
      (decodeList items "/children" 0).2.hasErrors)
    (field : Document.field? fields "children" = some (.list items))
    (inside : ∀ item ∈ items, ∀ {c steps}, (decode item).1 = some c →
      (steps, node) ∈ c.nodes → HasNode item steps node)
    (mem : (steps, node) ∈ nodesFrom 0 (items.filterMap fun item => (decode item).1)) :
    HasNode (.record fields) steps node := by
  obtain ⟨i, item, child, rest, there, child_eq, rest_mem, rfl⟩ := exists_item_of_mem_nodesFrom mem
  have item_mem := List.mem_of_getElem? there
  obtain ⟨actual, target, leads, target_eq, unbroken⟩ := inside item item_mem child_eq rest_mem
  rw [Nat.zero_add]
  refine ⟨_, target, .field field (.item there leads), target_eq, ?_⟩
  intro clean other other_field
  cases field.symm.trans other_field
  rw [hasErrors_eq] at clean
  have items_clean := clean_of_decodeList clean
  refine ⟨fun before before_mem => isSome_of_clean (items_clean before ?_), ?_⟩
  · exact List.mem_of_mem_take before_mem
  · intro same same_there
    cases there.symm.trans same_there
    exact unbroken (items_clean item item_mem)

/-- The nodes of a condition are all in the document. -/
theorem hasNode_of_mem_nodes {value : Document} {c node : Condition} {steps : List Step}
    (understood : (decode value).1 = some c) (mem : (steps, node) ∈ c.nodes) :
    HasNode value steps node := by
  induction value using inductionOnDecoding generalizing c steps with
  | record fields child_has items_have =>
      cases named : (formOf fields "").1 with
      | none =>
          rw [decode, decodeAt_of_no_form named] at understood
          contradiction
      | some form =>
          have decode_eq : decode (.record fields) = formAt fields "" form := decodeAt_of_form named
          have same := decode_eq ▸ understood
          cases form with
          | const =>
              obtain ⟨_, _, rfl⟩ := constOf_fst_eq_some_iff.mp same
              exact hasNode_root understood (List.mem_singleton.mp mem)
          | pointShows | skillShows | barChanged =>
              obtain ⟨_, _, _, _, rfl⟩ := colorAtom_fst_eq_some_iff.mp same
              exact hasNode_root understood (List.mem_singleton.mp mem)
          | metricAtLeast =>
              obtain ⟨_, _, _, _, _, _, rfl⟩ := metricAtom_fst_eq_some_iff.mp same
              exact hasNode_root understood (List.mem_singleton.mp mem)
          | not =>
              simp only [formAt, negationAt] at same
              split at same
              · contradiction
              · rename_i inner field
                obtain ⟨child, child_eq, rfl⟩ := Option.map_eq_some_iff.mp same
                rw [fst_decodeAt] at child_eq
                rw [nodes, List.mem_cons] at mem
                rcases mem with root | further
                · exact hasNode_root understood root
                · obtain ⟨⟨rest, _⟩, rest_mem, same⟩ := List.mem_map.mp further
                  cases same
                  exact hasNode_of_negation named field (child_has inner field child_eq rest_mem)
          | all | any =>
              obtain ⟨items, field, rfl⟩ := exists_items_of_groupAt same
              simp only [group, nodes, List.mem_cons] at mem
              rcases mem with root | further
              · exact hasNode_root understood root
              · rw [fst_decodeList] at further
                refine hasNode_of_group ?_ field (items_have items field) further
                rw [decode_eq, formAt, hasErrors_groupAt_of_items field]
                rfl
  | other value no_record =>
      cases value with
      | record fields => exact absurd rfl (no_record fields)
      | _ => simp [decode, decodeAt] at understood

/-! ## Findings about identifiers -/

/-- The codes of what the check says of identifiers. -/
def idCodes : List String :=
  ["expr.blank_id", "ref.unknown_point", "ref.unknown_skill", "expr.skill_pixel_missing"]

/-- The identifier in an atom with the name of its field. -/
def id? : Condition → Option (String × String)
  | .pointShows point _ | .barChanged point _ => some ("point_id", point)
  | .skillShows skill _ | .metricAtLeast skill _ _ => some ("skill_id", skill)
  | _ => none

/-- The finding says of an identifier what is wrong with it: that it is blank,
or not in the catalogue, or that of a skill without an indicator. -/
inductive Complains (catalogue : Catalogue) (id : String) : Diagnostic → Prop
  | blank {name path : String} (empty : Text.allBlank id = true) :
      Complains catalogue id
        ⟨.error, "expr.blank_id", path, "`" ++ name ++ "` must not be empty"⟩
  | unknownPoint {path : String} (missing : catalogue.point? id = none) :
      Complains catalogue id
        ⟨.error, "ref.unknown_point", path, "point `" ++ id ++ "` is not defined"⟩
  | unknownSkill {path : String} (missing : catalogue.skill? id = none) :
      Complains catalogue id
        ⟨.error, "ref.unknown_skill", path, "skill `" ++ id ++ "` is not defined"⟩
  | noIndicator {path : String} {skill : Skill} (found : catalogue.skill? id = some skill)
      (plain : skill.indicator = none) :
      Complains catalogue id
        ⟨.warning, "expr.skill_pixel_missing", path,
          "skill `" ++ id ++ "` has no pixel definition; this atom is always unknown"⟩

theorem Complains.point?_eq_none {catalogue : Catalogue} {id : String} {d : Diagnostic}
    (complains : Complains catalogue id d) (coded : d.code = "ref.unknown_point") :
    catalogue.point? id = none := by
  cases complains with
  | unknownPoint missing => exact missing
  | blank | unknownSkill | noIndicator => simp at coded

/-- The identifier of a condition stands in its field. -/
theorem shown_of_id? {value : Document} {c : Condition} {name id : String}
    (understood : (decode value).1 = some c) (names : c.id? = some (name, id)) :
    value.Shown [.field name] [.field name] (.text id) := by
  cases value with
  | record fields =>
      cases named : (formOf fields "").1 with
      | none =>
          rw [decode, decodeAt_of_no_form named] at understood
          contradiction
      | some form =>
          rw [decode, decodeAt_of_form named] at understood
          cases form with
          | const =>
              obtain ⟨_, _, rfl⟩ := constOf_fst_eq_some_iff.mp understood
              contradiction
          | pointShows | skillShows | barChanged =>
              obtain ⟨_, _, field, _, rfl⟩ := colorAtom_fst_eq_some_iff.mp understood
              cases names
              exact .field field (.here _)
          | metricAtLeast =>
              obtain ⟨_, _, _, field, _, _, rfl⟩ := metricAtom_fst_eq_some_iff.mp understood
              cases names
              exact .field field (.here _)
          | not =>
              simp only [formAt, negationAt] at understood
              split at understood
              · contradiction
              · obtain ⟨_, _, rfl⟩ := Option.map_eq_some_iff.mp understood
                contradiction
          | all | any =>
              obtain ⟨_, _, rfl⟩ := exists_items_of_groupAt understood
              contradiction
  | _ => simp [decode, decodeAt] at understood

section

variable {id name path : String} {catalogue : Catalogue} {d : Diagnostic}

/-- The finding complains of an identifier and points to the field of it. -/
def ComplainsAt (catalogue : Catalogue) (name id path : String) (d : Diagnostic) : Prop :=
  Complains catalogue id d ∧ d.path = push path name

theorem complainsAt_of_mem_blankId (mem : d ∈ blankId id name path) :
    ComplainsAt catalogue name id path d := by
  unfold blankId at mem
  split at mem
  · rename_i empty
    rw [List.mem_singleton.mp mem]
    exact ⟨.blank empty, rfl⟩
  · contradiction

theorem complainsAt_of_mem_unknownSkill (missing : catalogue.skill? id = none)
    (mem : d ∈ unknownSkill id path) : ComplainsAt catalogue "skill_id" id path d := by
  rw [List.mem_singleton.mp mem]
  exact ⟨.unknownSkill missing, rfl⟩

theorem complainsAt_of_mem_checkPoint (mem : d ∈ checkPoint id catalogue path) :
    ComplainsAt catalogue "point_id" id path d := by
  unfold checkPoint at mem
  split at mem
  · exact complainsAt_of_mem_blankId mem
  · split at mem
    · rename_i missing
      rw [List.mem_singleton.mp mem]
      exact ⟨.unknownPoint (Option.isNone_iff_eq_none.mp missing), rfl⟩
    · contradiction

theorem complainsAt_of_mem_checkIndicator (mem : d ∈ checkIndicator id catalogue path) :
    ComplainsAt catalogue "skill_id" id path d := by
  unfold checkIndicator at mem
  split at mem
  · exact complainsAt_of_mem_blankId mem
  · split at mem
    · rename_i missing
      exact complainsAt_of_mem_unknownSkill missing mem
    · rename_i found
      split at mem
      · rename_i plain
        rw [List.mem_singleton.mp mem]
        exact ⟨.noIndicator found (Option.isNone_iff_eq_none.mp plain), rfl⟩
      · contradiction

/-- The count of a threshold is not an identifier. -/
theorem complainsAt_of_mem_checkMetric {count : UInt32}
    (mem : d ∈ checkMetric id count catalogue path) (coded : d.code ∈ idCodes) :
    ComplainsAt catalogue "skill_id" id path d := by
  rcases List.mem_append.mp mem with of_id | of_count
  · split at of_id
    · exact complainsAt_of_mem_blankId of_id
    · split at of_id
      · rename_i missing
        exact complainsAt_of_mem_unknownSkill (Option.isNone_iff_eq_none.mp missing) of_id
      · contradiction
  · split at of_count
    · rw [List.mem_singleton.mp of_count] at coded
      simp [idCodes] at coded
    · contradiction

theorem complainsAt_of_mem_ownFindings {c : Condition}
    (mem : d ∈ ownFindings catalogue c path) (coded : d.code ∈ idCodes) :
    ∃ name id, c.id? = some (name, id) ∧ ComplainsAt catalogue name id path d := by
  cases c with
  | all | any =>
      simp only [ownFindings] at mem
      split at mem
      · rw [List.mem_singleton.mp mem] at coded
        simp [idCodes] at coded
      · contradiction
  | not | const => contradiction
  | pointShows point | barChanged point => exact ⟨_, _, rfl, complainsAt_of_mem_checkPoint mem⟩
  | skillShows skill => exact ⟨_, _, rfl, complainsAt_of_mem_checkIndicator mem⟩
  | metricAtLeast skill => exact ⟨_, _, rfl, complainsAt_of_mem_checkMetric mem coded⟩

end

/-! ## Decoding says nothing about identifiers -/

/-- None of the findings is about an identifier. -/
def Neutral (ds : Diagnostics) : Prop :=
  ∀ d ∈ ds, d.code ∉ idCodes

@[simp]
theorem neutral_nil : Neutral [] :=
  List.forall_mem_nil _

@[simp]
theorem neutral_append {first second : Diagnostics} :
    Neutral (first ++ second) ↔ Neutral first ∧ Neutral second :=
  List.forall_mem_append

@[simp]
theorem neutral_error {code path message : String} :
    Neutral (Diagnostics.error code path message) ↔ code ∉ idCodes :=
  List.forall_mem_singleton

@[simp]
theorem neutral_warning {code path message : String} :
    Neutral (Diagnostics.warning code path message) ↔ code ∉ idCodes :=
  List.forall_mem_singleton

section

variable (fields : List (String × Document)) (name path : String)

@[simp]
theorem neutral_unknownFields (known : List String) :
    Neutral (unknownFields fields known path) := by
  simp only [Neutral, unknownFields, List.mem_flatMap]
  rintro d ⟨entry, _, said⟩
  rw [List.mem_singleton.mp said]
  simp [idCodes]

@[simp]
theorem neutral_idField : Neutral (idField fields name path).2 := by
  unfold idField
  split <;> simp [idCodes]

@[simp]
theorem neutral_toleranceOf : Neutral (toleranceOf fields path).2 := by
  unfold toleranceOf
  repeat' split
  all_goals simp [idCodes]

@[simp]
theorem neutral_metricOf : Neutral (metricOf fields path).2 := by
  unfold metricOf
  repeat' split
  all_goals simp [idCodes]

@[simp]
theorem neutral_countOf : Neutral (countOf fields path).2 := by
  unfold countOf
  repeat' split
  all_goals simp [idCodes]

theorem neutral_formOf : Neutral (formOf fields path).2 := by
  unfold formOf
  repeat' split
  all_goals simp [idCodes]

theorem neutral_constOf : Neutral (constOf fields path).2 := by
  unfold constOf
  split <;> simp [idCodes]

end

theorem neutral_decodeList {items : List Document}
    (neutral : ∀ item ∈ items, ∀ path, Neutral (decodeAt item path).2) (place : String) (i : Nat) :
    Neutral (decodeList items place i).2 := by
  induction items generalizing i with
  | nil => simp [decodeList]
  | cons item rest ih =>
      obtain ⟨item_neutral, rest_neutral⟩ := List.forall_mem_cons.mp neutral
      rw [decodeList]
      exact neutral_append.mpr ⟨item_neutral _, ih rest_neutral _⟩

theorem neutral_groupAt {fields : List (String × Document)}
    (neutral : ∀ items, Document.field? fields "children" = some (.list items) →
      ∀ item ∈ items, ∀ path, Neutral (decodeAt item path).2) (form : Form) (path : String) :
    Neutral (groupAt form fields path).2 := by
  unfold groupAt
  split
  · simp [idCodes]
  · rename_i items field
    refine neutral_append.mpr ⟨neutral_unknownFields _ _ _, ?_⟩
    split
    · unfold emptyGroup
      split <;> simp [idCodes]
    · exact neutral_decodeList (neutral items field) _ _
  · simp [idCodes]

theorem neutral_decodeAt (value : Document) (path : String) :
    Neutral (decodeAt value path).2 := by
  induction value using inductionOnDecoding generalizing path with
  | record fields child_neutral items_neutral =>
      cases named : (formOf fields path).1 with
      | none =>
          rw [decodeAt_of_no_form named]
          exact neutral_formOf fields path
      | some form =>
          rw [decodeAt_of_form named]
          cases form with
          | const => exact neutral_constOf fields path
          | pointShows | skillShows | barChanged => simp [formAt, colorAtom]
          | metricAtLeast => simp [formAt, metricAtom]
          | not =>
              simp only [formAt, negationAt]
              split
              · simp [idCodes]
              · rename_i child field
                simp [child_neutral child field]
          | all | any => exact neutral_groupAt items_neutral _ path
  | other value no_record =>
      cases value with
      | record fields => exact absurd rfl (no_record fields)
      | _ => simp [decodeAt, idCodes]

end Condition

/-! ## Findings in documents -/

namespace Draft

open Rotation.Condition Rotation.Pointer

/-- The path of the finding, read below `base`, leads to the identifier that the
finding complains of. -/
def LeadsToId (catalogue : Catalogue) (value : Document) (base : String) (d : Diagnostic) : Prop :=
  ∃ id pointer, d.path = base ++ pointer ∧ Complains catalogue id d ∧
    value.resolve? pointer = some (.text id)

/-- Only the check says anything about identifiers. -/
theorem exists_mem_check_of_mem_condition {catalogue : Catalogue} {value : Document}
    {base : String} {d : Diagnostic} (mem : d ∈ (condition catalogue value base).diagnostics)
    (coded : d.code ∈ idCodes) :
    ∃ c, (decode value).1 = some c ∧ d ∈ c.check catalogue base := by
  rw [← fst_decodeAt value base]
  simp only [condition] at mem
  split at mem
  · exact absurd coded (neutral_decodeAt value base d mem)
  · rename_i c understood
    refine ⟨c, understood, (List.mem_append.mp mem).resolve_left ?_⟩
    intro said
    exact absurd coded (neutral_decodeAt value base d said)

/-- A finding about an identifier is about one that is there, and points to
where it would be without the lost children before it. -/
theorem leadsToId_of_mem_condition {catalogue : Catalogue} {value : Document} {base : String}
    {d : Diagnostic} (mem : d ∈ (condition catalogue value base).diagnostics)
    (coded : d.code ∈ idCodes) :
    (∃ id actual shown, Complains catalogue id d ∧ value.Shown actual shown (.text id) ∧
      value.resolve? (walk "" actual) = some (.text id) ∧ d.path = walk base shown ∧
      (value.Unbroken actual → LeadsToId catalogue value base d)) ∧
    ((decodeAt value base).2.hasErrors = false → LeadsToId catalogue value base d) := by
  obtain ⟨c, understood, found⟩ := exists_mem_check_of_mem_condition mem coded
  rw [check_eq_findings] at found
  obtain ⟨⟨steps, node⟩, node_mem, said⟩ := List.mem_flatMap.mp found
  obtain ⟨name, id, names, complains, path_eq⟩ := complainsAt_of_mem_ownFindings said coded
  obtain ⟨actual, inner, leads, inner_eq, unbroken⟩ := hasNode_of_mem_nodes understood node_mem
  have to_id := leads.trans (shown_of_id? inner_eq names)
  have there := Document.resolve?_walk to_id.follow?
  have path_eq_walk : d.path = walk base (steps ++ [.field name]) := by
    rw [path_eq, walk_append]
    rfl
  have home (whole : value.Unbroken (actual ++ [.field name])) :
      LeadsToId catalogue value base d := by
    refine ⟨id, _, ?_, complains, there⟩
    rw [path_eq_walk, ← to_id.eq_of_unbroken whole]
    exact walk_eq_append base _
  refine ⟨⟨id, _, _, complains, to_id, there, path_eq_walk, home⟩, fun clean => home ?_⟩
  rw [hasErrors_decodeAt] at clean
  exact (unbroken clean).concat_field name

/-- Not both a true constant and a point that no catalogue need have. -/
def haunted : Document :=
  .record [("child", .record
    [("children", .list
      [.record [("type", .text "const"), ("value", .bool true)],
        .record [("point_id", .text "ghost"), ("type", .text "pixel_point")]]),
      ("type", .text "and")]), ("type", .text "not")]

theorem haunted_leads_to_ghost :
    ∃ d ∈ (condition lampCatalogue haunted "/ready").diagnostics,
      d.code ∈ idCodes ∧ d.path = "/ready/child/children/1/point_id" ∧
        LeadsToId lampCatalogue haunted "/ready" d := by
  let d : Diagnostic := ⟨.error, "ref.unknown_point", "/ready/child/children/1/point_id",
    "point `ghost` is not defined"⟩
  have mem : d ∈ (condition lampCatalogue haunted "/ready").diagnostics := by decide +kernel
  have coded : d.code ∈ idCodes := by decide
  have clean : (decodeAt haunted "/ready").2.hasErrors = false := by decide +kernel
  exact ⟨d, mem, coded, rfl, (leadsToId_of_mem_condition mem coded).2 clean⟩

/-- A lamp with a tolerance out of range, which is lost, and a point that is not
in the catalogue. -/
def misleading : Document :=
  .record
    [("children", .list
      [.record [("point_id", .text "lamp"), ("tolerance", .integer 300),
          ("type", .text "pixel_point")],
        .record [("point_id", .text "ghost"), ("type", .text "pixel_point")]]),
      ("type", .text "and")]

/-- What is said of the ghost points to the lamp. -/
theorem misleading_leads_to_lamp :
    ¬ ∀ d ∈ (condition lampCatalogue misleading "").diagnostics, d.code ∈ idCodes →
      LeadsToId lampCatalogue misleading "" d := by
  intro leads
  let d : Diagnostic := ⟨.error, "ref.unknown_point", "/children/0/point_id",
    "point `ghost` is not defined"⟩
  have mem : d ∈ (condition lampCatalogue misleading "").diagnostics := by decide +kernel
  obtain ⟨id, pointer, path_eq, complains, there⟩ := leads d mem (by decide)
  rw [String.empty_append] at path_eq
  subst path_eq
  have to_lamp : misleading.resolve? "/children/0/point_id" = some (.text "lamp") := by rfl
  cases there.symm.trans to_lamp
  exact absurd (complains.point?_eq_none rfl) (by decide)

end Draft

end Rotation
