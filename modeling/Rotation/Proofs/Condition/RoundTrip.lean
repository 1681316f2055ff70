import Rotation.Proofs.Condition.Grammar
import Rotation.Proofs.Condition.Nodes

/-!
# Written conditions are read back

Decoding what has been encoded gives the condition back, whatever its
identifiers and thresholds and however deep it is.  Nothing is found but that
groups are empty, once at the place of each group without children.
-/

namespace Rotation.Condition

open Rotation.Pointer

/-- What decoding has to say of a node: an empty group is worth a warning. -/
def hollowFindings : Condition → String → Diagnostics
  | .all [], path => emptyGroup .all path
  | .any [], path => emptyGroup .any path
  | _, _ => []

theorem formOf_of_type (form : Form) {fields : List (String × Document)}
    (field : Document.field? fields "type" = some (.text form.name)) (path : String) :
    (formOf fields path).1 = some form :=
  formOf_fst_eq_some_iff.mpr ⟨form.name, field, sameLetters_iff.mpr rfl⟩

/-! ## Atoms -/

/-- The fields of an atom over a colour, as they are written. -/
def colorFields (name id : String) (tolerance : Option UInt8) (form : Form) :
    List (String × Document) :=
  (name, .text id) :: toleranceField tolerance ++ [("type", .text form.name)]

section

variable {name : String} (other : name ≠ "tolerance" ∧ name ≠ "type") (id path : String)
  (tolerance : Option UInt8)

include other

theorem field?_colorFields (form : Form) :
    Document.field? (colorFields name id tolerance form) name = some (.text id) ∧
      GivesTolerance (colorFields name id tolerance form) tolerance ∧
      Document.field? (colorFields name id tolerance form) "type" = some (.text form.name) ∧
      unknownFields (colorFields name id tolerance form) [name, "tolerance"] path = [] := by
  obtain ⟨no_tolerance, no_type⟩ := other
  unfold colorFields
  cases tolerance with
  | none =>
      refine ⟨?_, .absent ?_, ?_, ?_⟩ <;>
        simp [toleranceField, Document.field?, unknownFields, no_tolerance, no_type]
  | some t =>
      refine ⟨?_, .given ?_, ?_, ?_⟩ <;>
        simp [toleranceField, Document.field?, unknownFields, no_tolerance, no_type]

theorem decodeAt_colorFields (make : String → Option UInt8 → Condition) (form : Form)
    (form_eq : ∀ fields, formAt fields path form = colorAtom make name fields path) :
    decodeAt (.record (colorFields name id tolerance form)) path =
      (some (make id tolerance), []) := by
  obtain ⟨id_field, gives, type_field, known⟩ := field?_colorFields other id path tolerance form
  rw [decodeAt_of_form (formOf_of_type form type_field path), form_eq, colorAtom, known,
    (plain_idField _ _ path).eq_of_fst (idField_fst_eq_some_iff.mpr id_field),
    (plain_toleranceOf _ path).eq_of_fst (toleranceOf_fst_eq_some_iff.mpr gives)]
  rfl

end

theorem metricAtom_encoded (skill path : String) (metric : Metric) (count : UInt32) :
    metricAtom [("count", .integer count.toNat), ("metric", .text metric.name),
      ("skill_id", .text skill), ("type", .text "skill_metric_ge")] path =
        (some (.metricAtLeast skill metric count), []) := by
  rw [metricAtom, (plain_idField _ _ path).eq_of_fst (idField_fst_eq_some_iff.mpr rfl),
    (plain_metricOf _ path).eq_of_fst (metricOf_fst_eq_some_iff.mpr rfl),
    (plain_countOf _ path).eq_of_fst (countOf_fst_eq_some_iff.mpr rfl)]
  rfl

/-! ## Groups -/

theorem decodeList_encodeAll {children : List Condition}
    (children_back : ∀ child ∈ children, ∀ path, decodeAt child.encode path =
      (some child, findings hollowFindings path child.nodes)) (path : String) (i : Nat) :
    decodeList (encodeAll children) (push path "children") i =
      (children, findings hollowFindings path (nodesFrom i children)) := by
  induction children generalizing i with
  | nil => simp [encodeAll, decodeList, nodesFrom]
  | cons child rest ih =>
      obtain ⟨child_back, rest_back⟩ := List.forall_mem_cons.mp children_back
      rw [encodeAll, decodeList, nodesFrom, findings_append, findings_further, child_back,
        ih rest_back]
      rfl

theorem groupAt_encoded {children : List Condition}
    (children_back : ∀ child ∈ children, ∀ path, decodeAt child.encode path =
      (some child, findings hollowFindings path child.nodes)) (form : Form) (name path : String) :
    groupAt form [("children", .list (encodeAll children)), ("type", .text name)] path =
      (some (group form children),
        if children.isEmpty then emptyGroup form path
        else findings hollowFindings path (nodesFrom 0 children)) := by
  have known : unknownFields [("children", .list (encodeAll children)),
      ("type", .text name)] ["children"] path = [] := rfl
  have field : Document.field? [("children", .list (encodeAll children)),
      ("type", .text name)] "children" = some (.list (encodeAll children)) := rfl
  rw [groupAt, known, field]
  simp only [decodeList_encodeAll children_back, List.nil_append]
  cases children <;> rfl

/-- Decoding inverts encoding, and warns of each empty group at its place. -/
theorem decodeAt_encode (c : Condition) (path : String) :
    decodeAt c.encode path = (some c, findings hollowFindings path c.nodes) := by
  induction c generalizing path with
  | all children ih =>
      rw [encode, decodeAt_of_form (formOf_of_type .all rfl path), formAt,
        groupAt_encoded ih]
      cases children <;> simp [nodes, nodesFrom, group, hollowFindings]
  | any children ih =>
      rw [encode, decodeAt_of_form (formOf_of_type .any rfl path), formAt,
        groupAt_encoded ih]
      cases children <;> simp [nodes, nodesFrom, group, hollowFindings]
  | not child ih =>
      rw [encode, decodeAt_of_form (formOf_of_type .not rfl path), formAt, negationAt]
      have field : Document.field? [("child", child.encode), ("type", .text "not")] "child" =
        some child.encode := rfl
      rw [field]
      simp [ih, nodes, findings_further, hollowFindings, Step.segment, unknownFields]
  | const value =>
      rw [encode, decodeAt_of_form (formOf_of_type .const rfl path)]
      rfl
  | pointShows point tolerance =>
      have other : "point_id" ≠ "tolerance" ∧ "point_id" ≠ "type" := by decide
      exact decodeAt_colorFields other point path tolerance pointShows .pointShows fun _ => rfl
  | skillShows skill tolerance =>
      have other : "skill_id" ≠ "tolerance" ∧ "skill_id" ≠ "type" := by decide
      exact decodeAt_colorFields other skill path tolerance skillShows .skillShows fun _ => rfl
  | barChanged point tolerance =>
      have other : "point_id" ≠ "tolerance" ∧ "point_id" ≠ "type" := by decide
      exact decodeAt_colorFields other point path tolerance barChanged .barChanged fun _ => rfl
  | metricAtLeast skill metric count =>
      rw [encode, decodeAt_of_form (formOf_of_type .metricAtLeast rfl path), formAt,
        metricAtom_encoded]
      rfl

/-! ## Empty groups -/

theorem hollowFindings_cases (c : Condition) (path : String) :
    (c.isHollow = true ∧
        ∃ message, hollowFindings c path = Diagnostics.warning "expr.empty_group" path message) ∨
      (c.isHollow = false ∧ hollowFindings c path = []) := by
  unfold isHollow hollowFindings
  split
  · exact .inl ⟨rfl, _, rfl⟩
  · exact .inl ⟨rfl, _, rfl⟩
  · right
    split <;> simp_all

theorem map_path_findings (path : String) (nodes : List (List Step × Condition)) :
    (findings hollowFindings path nodes).map Diagnostic.path =
      (nodes.filter fun node => node.2.isHollow).map fun node => walk path node.1 := by
  induction nodes with
  | nil => rfl
  | cons node rest ih =>
      rw [findings_cons, List.map_append, ih]
      rcases hollowFindings_cases node.2 (walk path node.1) with
        ⟨hollow, message, found_eq⟩ | ⟨full, found_eq⟩
      · rw [found_eq, List.filter_cons, if_pos hollow]
        rfl
      · rw [found_eq, List.filter_cons, if_neg (by simp [full])]
        rfl

/-- Decoding inverts encoding.  All that is found is a warning at the place of
each group without children, one for each in their order. -/
theorem decode_encode (c : Condition) :
    ∃ found, decode c.encode = (some c, found) ∧
      (∀ d ∈ found, d.severity = .warning ∧ d.code = "expr.empty_group") ∧
      found.map Diagnostic.path =
        (c.nodes.filter fun node => node.2.isHollow).map fun node => walk "" node.1 := by
  refine ⟨_, decodeAt_encode c "", ?_, map_path_findings "" c.nodes⟩
  intro d mem
  obtain ⟨node, _, found⟩ := List.mem_flatMap.mp mem
  rcases hollowFindings_cases node.2 (walk "" node.1) with ⟨_, message, found_eq⟩ | ⟨_, found_eq⟩
  · rw [found_eq, Diagnostics.warning, List.mem_singleton] at found
    rw [found]
    exact ⟨rfl, rfl⟩
  · rw [found_eq] at found
    contradiction

end Rotation.Condition
