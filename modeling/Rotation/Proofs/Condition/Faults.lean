import Rotation.Proofs.Condition.Grammar

/-!
# Where decoding points

Decoding says of each fault where it is: in a value that is no record, in a
record that lacks a field, or in a field that has a wrong value or that the form
does not have.  The finding points there, from the root of the document, so what
the pointer leads to is there.  The only finding that is about no fault is the
warning of a group without children; it points to the group.
-/

namespace Rotation

namespace Condition

open Rotation.Pointer

/-! ## The fields of a form -/

/-- The fields that a form requires, besides its name. -/
def Form.required : Form → List String
  | .all | .any => ["children"]
  | .not => ["child"]
  | .const => ["value"]
  | .pointShows | .barChanged => ["point_id"]
  | .skillShows => ["skill_id"]
  | .metricAtLeast => ["skill_id", "metric", "count"]

/-- The fields that a form has, besides its name. -/
def Form.fields (form : Form) : List String :=
  match form with
  | .pointShows | .barChanged | .skillShows => form.required ++ ["tolerance"]
  | _ => form.required

/-- A value has the type that a field of this name is for. -/
def Typed (name : String) : Document → Prop
  | .bool _ => name = "value"
  | .integer n => (name = "tolerance" ∨ name = "count") ∧ fitsWord n = true
  | .null => name = "tolerance"
  | .text _ => name = "type" ∨ name = "point_id" ∨ name = "skill_id" ∨ name = "metric"
  | .list _ => name = "children"
  | .real _ | .record _ => False

/-- A value has a fault, which goes by a code: some steps lead to where it is. -/
inductive Fault : Document → String → List Step → Document → Prop
  | undecodable {value : Document} (other : ∀ fields, value ≠ .record fields) :
      Fault value "expr.not_object" [] value
  | typeless {fields : List (String × Document)}
      (missing : Document.field? fields "type" = none) :
      Fault (.record fields) "expr.missing_type" [] (.record fields)
  | typeIllTyped {fields : List (String × Document)} {inner : Document}
      (found : Document.field? fields "type" = some inner) (ill : ¬ Typed "type" inner) :
      Fault (.record fields) "expr.missing_type" [.field "type"] inner
  | unknownType {fields : List (String × Document)} {name : String}
      (found : Document.field? fields "type" = some (.text name))
      (unknown : ∀ form : Form, ¬ SameLetters name form.name) :
      Fault (.record fields) "expr.unknown_type" [.field "type"] (.text name)
  | lacks {fields : List (String × Document)} {form : Form} {name : String}
      (named : Names fields form) (required : name ∈ form.required)
      (missing : Document.field? fields name = none) :
      Fault (.record fields) "expr.missing_field" [] (.record fields)
  | illTyped {fields : List (String × Document)} {form : Form} {name : String} {inner : Document}
      (named : Names fields form) (has : name ∈ form.fields)
      (found : Document.field? fields name = some inner) (ill : ¬ Typed name inner) :
      Fault (.record fields) "expr.invalid_field" [.field name] inner
  | toleranceRange {fields : List (String × Document)} {form : Form} {n : Int}
      (named : Names fields form) (has : "tolerance" ∈ form.fields)
      (found : Document.field? fields "tolerance" = some (.integer n))
      (outside : ¬ (0 ≤ n ∧ n ≤ 255)) :
      Fault (.record fields) "expr.tolerance_range" [.field "tolerance"] (.integer n)
  | countRange {fields : List (String × Document)} {form : Form} {n : Int}
      (named : Names fields form) (has : "count" ∈ form.fields)
      (found : Document.field? fields "count" = some (.integer n))
      (outside : ¬ (0 ≤ n ∧ n < UInt32.size)) :
      Fault (.record fields) "expr.count_range" [.field "count"] (.integer n)
  | unknownMetric {fields : List (String × Document)} {form : Form} {name : String}
      (named : Names fields form) (has : "metric" ∈ form.fields)
      (found : Document.field? fields "metric" = some (.text name))
      (unknown : ∀ metric : Metric, metric.name ≠ name) :
      Fault (.record fields) "expr.unknown_metric" [.field "metric"] (.text name)
  | unknownField {fields : List (String × Document)} {form : Form} {name : String}
      {inner : Document} (named : Names fields form) (not_type : name ≠ "type")
      (foreign : name ∉ form.fields) (found : Document.field? fields name = some inner) :
      Fault (.record fields) "expr.unknown_field" [.field name] inner

/-- The document is a group without children. -/
def HollowGroup (value : Document) : Prop :=
  ∃ fields form, value = .record fields ∧ Names fields form ∧ (form = .all ∨ form = .any) ∧
    Document.field? fields "children" = some (.list [])

/-- What a finding with a code marks in a value: its fault, or the group itself if
it warns of one without children. -/
inductive Marks (value : Document) : String → List Step → Document → Prop
  | fault {code : String} {place : List Step} {target : Document}
      (fault : Fault value code place target) : Marks value code place target
  | hollow (hollow : HollowGroup value) : Marks value "expr.empty_group" [] value

/-- The steps lead down a document to a value that is decoded in it. -/
inductive Inside : Document → List Step → Document → Prop
  | here (value : Document) : Inside value [] value
  | child {fields : List (String × Document)} {inner target : Document} {steps : List Step}
      (named : Names fields .not) (found : Document.field? fields "child" = some inner)
      (rest : Inside inner steps target) :
      Inside (.record fields) (.field "child" :: steps) target
  | item {fields : List (String × Document)} {form : Form} {items : List Document} {i : Nat}
      {inner target : Document} {steps : List Step} (named : Names fields form)
      (grouped : form = .all ∨ form = .any)
      (found : Document.field? fields "children" = some (.list items))
      (there : items[i]? = some inner) (rest : Inside inner steps target) :
      Inside (.record fields) (.field "children" :: .item i :: steps) target

/-- A finding points to what it marks in a value inside the document. -/
def Points (value : Document) (d : Diagnostic) : Prop :=
  ∃ steps inner place target, Inside value steps inner ∧ Marks inner d.code place target ∧
    d.path = walk "" (steps ++ place)

/-! ## What is pointed to is there -/

theorem Inside.follow? {value target : Document} {steps : List Step}
    (inside : Inside value steps target) : value.follow? steps = some target := by
  induction inside with
  | here value => rfl
  | child named found rest ih => exact Option.bind_eq_some_iff.mpr ⟨_, found, ih⟩
  | item named grouped found there rest ih =>
      exact Option.bind_eq_some_iff.mpr
        ⟨_, found, Option.bind_eq_some_iff.mpr ⟨_, there, ih⟩⟩

theorem Fault.follow? {value target : Document} {code : String} {place : List Step}
    (fault : Fault value code place target) : value.follow? place = some target := by
  cases fault with
  | undecodable | typeless | lacks => rfl
  | typeIllTyped found | unknownType found | illTyped _ _ found | toleranceRange _ _ found
  | countRange _ _ found | unknownMetric _ _ found | unknownField _ _ _ found =>
      exact Option.bind_eq_some_iff.mpr ⟨_, found, rfl⟩

theorem Marks.follow? {value target : Document} {code : String} {place : List Step}
    (marks : Marks value code place target) : value.follow? place = some target := by
  cases marks with
  | fault fault => exact fault.follow?
  | hollow => rfl

/-- What a finding marks is found by reading its path as a pointer. -/
theorem resolve?_of_marks {value inner target : Document} {code : String} {steps place : List Step}
    (inside : Inside value steps inner) (marks : Marks inner code place target) :
    value.resolve? (walk "" (steps ++ place)) = some target := by
  apply Document.resolve?_walk
  rw [Document.follow?, List.foldlM_append]
  exact Option.bind_eq_some_iff.mpr ⟨inner, inside.follow?, marks.follow?⟩

/-! ## Faults of single fields -/

/-- A finding at the root of a value is about a fault of it. -/
def Blamed (value : Document) (d : Diagnostic) : Prop :=
  ∃ place target, Fault value d.code place target ∧ d.path = walk "" place

theorem Blamed.points {value : Document} {d : Diagnostic} (blamed : Blamed value d) :
    Points value d := by
  obtain ⟨place, target, fault, path_eq⟩ := blamed
  exact ⟨[], value, place, target, .here value, .fault fault, path_eq⟩

/-- What is pointed to inside a value is pointed to from outside. -/
theorem Points.outward {value inner : Document} {d : Diagnostic} (points : Points inner d)
    (lead : List Step)
    (leads : ∀ {steps target}, Inside inner steps target → Inside value (lead ++ steps) target) :
    Points value (d.under (walk "" lead)) := by
  obtain ⟨steps, target, place, marked, inside, marks, path_eq⟩ := points
  refine ⟨lead ++ steps, target, place, marked, leads inside, marks, ?_⟩
  rw [List.append_assoc, walk_append, walk_eq_append (walk "" lead), ← path_eq]
  rfl

section

variable {fields : List (String × Document)} {form : Form} {name : String} {d : Diagnostic}

theorem exists_field_of_mem {entry : String × Document} (mem : entry ∈ fields) :
    ∃ inner, Document.field? fields entry.1 = some inner := by
  rw [← Option.isSome_iff_exists, Document.field?, Option.isSome_map, List.find?_isSome]
  exact ⟨entry, mem, beq_self_eq_true _⟩

theorem blamed_of_mem_unknownFields (named : Names fields form)
    (mem : d ∈ unknownFields fields form.fields "") : Blamed (.record fields) d := by
  obtain ⟨entry, listed, same⟩ := List.mem_flatMap.mp mem
  obtain ⟨entry_mem, foreign⟩ := List.mem_filter.mp listed
  rw [List.mem_singleton.mp same]
  obtain ⟨inner, found⟩ := exists_field_of_mem entry_mem
  rw [Bool.and_eq_true, bne_iff_ne, Bool.not_eq_true', List.contains_eq_mem,
    decide_eq_false_iff_not] at foreign
  exact ⟨_, inner, .unknownField named foreign.1 foreign.2 found, rfl⟩

theorem mem_fields_of_mem_required (required : name ∈ form.required) : name ∈ form.fields := by
  cases form with
  | pointShows | barChanged | skillShows => exact List.mem_append_left _ required
  | all | any | not | const | metricAtLeast => exact required

theorem blamed_missing (named : Names fields form) (required : name ∈ form.required)
    (missing : Document.field? fields name = none) {message : String}
    (mem : d ∈ Diagnostics.error "expr.missing_field" "" message) :
    Blamed (.record fields) d := by
  rw [List.mem_singleton.mp mem]
  exact ⟨_, _, .lacks named required missing, rfl⟩

theorem blamed_illTyped (named : Names fields form) (has : name ∈ form.fields) {inner : Document}
    (found : Document.field? fields name = some inner) (ill : ¬ Typed name inner)
    {message : String} (mem : d ∈ Diagnostics.error "expr.invalid_field" (push "" name) message) :
    Blamed (.record fields) d := by
  rw [List.mem_singleton.mp mem]
  exact ⟨_, _, .illTyped named has found ill, rfl⟩

theorem blamed_of_mem_idField (named : Names fields form) (required : name ∈ form.required)
    (is_id : name = "point_id" ∨ name = "skill_id") (mem : d ∈ (idField fields name "").2) :
    Blamed (.record fields) d := by
  unfold idField at mem
  split at mem
  · contradiction
  · rename_i other no_text found
    refine blamed_illTyped named (mem_fields_of_mem_required required) found ?_ mem
    rcases is_id with rfl | rfl <;> cases other <;> simp [Typed] at no_text ⊢
  · rename_i missing
    exact blamed_missing named required missing mem

theorem blamed_of_mem_toleranceOf (named : Names fields form) (has : "tolerance" ∈ form.fields)
    (mem : d ∈ (toleranceOf fields "").2) : Blamed (.record fields) d := by
  unfold toleranceOf at mem
  split at mem
  · contradiction
  · contradiction
  · rename_i other no_null found
    split at mem
    · rename_i n
      split at mem
      · contradiction
      · rename_i outside
        split at mem
        · rw [List.mem_singleton.mp mem]
          exact ⟨_, _, .toleranceRange named has found outside, rfl⟩
        · rename_i long
          exact blamed_illTyped named has found (by simp [Typed, long]) mem
    · rename_i no_integer
      refine blamed_illTyped named has found ?_ mem
      cases other <;> simp [Typed] at no_null no_integer ⊢

theorem blamed_of_mem_metricOf (named : Names fields form) (required : "metric" ∈ form.required)
    (mem : d ∈ (metricOf fields "").2) : Blamed (.record fields) d := by
  have has := mem_fields_of_mem_required required
  unfold metricOf at mem
  split at mem
  · rename_i name found
    split at mem
    · contradiction
    · rename_i unknown
      rw [List.mem_singleton.mp mem]
      refine ⟨_, _, .unknownMetric named has found ?_, rfl⟩
      rintro metric rfl
      simp at unknown
  · rename_i other no_text found
    refine blamed_illTyped named has found ?_ mem
    cases other <;> simp [Typed] at no_text ⊢
  · rename_i missing
    exact blamed_missing named required missing mem

theorem blamed_of_mem_countOf (named : Names fields form) (required : "count" ∈ form.required)
    (mem : d ∈ (countOf fields "").2) : Blamed (.record fields) d := by
  have has := mem_fields_of_mem_required required
  unfold countOf at mem
  split at mem
  · rename_i missing
    exact blamed_missing named required missing mem
  · rename_i other found
    split at mem
    · rename_i n
      split at mem
      · contradiction
      · rename_i outside
        split at mem
        · rw [List.mem_singleton.mp mem]
          exact ⟨_, _, .countRange named has found outside, rfl⟩
        · rename_i long
          exact blamed_illTyped named has found (by simp [Typed, long]) mem
    · rename_i no_integer
      refine blamed_illTyped named has found ?_ mem
      cases other <;> simp [Typed] at no_integer ⊢

theorem blamed_of_mem_formOf (mem : d ∈ (formOf fields "").2) : Blamed (.record fields) d := by
  unfold formOf at mem
  split at mem
  · rename_i name found
    split at mem
    · contradiction
    · rename_i unknown
      rw [List.mem_singleton.mp mem]
      refine ⟨_, _, .unknownType found ?_, rfl⟩
      intro form same
      rw [sameLetters_iff, lowerAscii_name] at same
      rw [Form.ofName?_eq_some_iff.mpr same] at unknown
      contradiction
  · rename_i other no_text found
    rw [List.mem_singleton.mp mem]
    refine ⟨_, _, .typeIllTyped found ?_, rfl⟩
    cases other <;> simp [Typed] at no_text ⊢
  · rename_i missing
    rw [List.mem_singleton.mp mem]
    exact ⟨_, _, .typeless missing, rfl⟩

/-! ## Faults of whole documents -/

theorem blamed_of_mem_constOf (named : Names fields .const) (mem : d ∈ (constOf fields "").2) :
    Blamed (.record fields) d := by
  unfold constOf at mem
  split at mem
  · exact blamed_of_mem_unknownFields named mem
  · rename_i other no_bool found
    rcases List.mem_append.mp mem with remark | ill
    · exact blamed_of_mem_unknownFields named remark
    · refine blamed_illTyped named (by decide) found ?_ ill
      cases other <;> simp [Typed] at no_bool ⊢
  · rename_i missing
    rcases List.mem_append.mp mem with remark | lacks
    · exact blamed_of_mem_unknownFields named remark
    · exact blamed_missing named (by decide) missing lacks

theorem blamed_of_mem_colorAtom {make : String → Option UInt8 → Condition}
    (named : Names fields form) (required : form.required = [name])
    (has : form.fields = [name, "tolerance"]) (is_id : name = "point_id" ∨ name = "skill_id")
    (mem : d ∈ (colorAtom make name fields "").2) : Blamed (.record fields) d := by
  simp only [colorAtom, ← has, List.mem_append] at mem
  rcases mem with (remark | id) | tolerance
  · exact blamed_of_mem_unknownFields named remark
  · exact blamed_of_mem_idField named (by simp [required]) is_id id
  · exact blamed_of_mem_toleranceOf named (by simp [has]) tolerance

theorem blamed_of_mem_metricAtom (named : Names fields .metricAtLeast)
    (mem : d ∈ (metricAtom fields "").2) : Blamed (.record fields) d := by
  simp only [metricAtom, List.mem_append] at mem
  rcases mem with ((remark | id) | metric) | count
  · exact blamed_of_mem_unknownFields named remark
  · exact blamed_of_mem_idField named (by decide) (.inr rfl) id
  · exact blamed_of_mem_metricOf named (by decide) metric
  · exact blamed_of_mem_countOf named (by decide) count

theorem points_of_mem_negationAt (named : Names fields .not)
    (child_points : ∀ child, Document.field? fields "child" = some child →
      ∀ d ∈ (decode child).2, Points child d)
    (mem : d ∈ (negationAt fields "").2) : Points (.record fields) d := by
  unfold negationAt at mem
  split at mem
  · rename_i missing
    rcases List.mem_append.mp mem with remark | lacks
    · exact (blamed_of_mem_unknownFields named remark).points
    · exact (blamed_missing named (by decide) missing lacks).points
  · rename_i child found
    rcases List.mem_append.mp mem with remark | inner
    · exact (blamed_of_mem_unknownFields named remark).points
    · rw [decodeAt_eq_under] at inner
      obtain ⟨own, own_mem, rfl⟩ := List.mem_map.mp inner
      exact (child_points child found own own_mem).outward [.field "child"] (.child named found)

theorem points_of_mem_groupAt (named : Names fields form) (grouped : form = .all ∨ form = .any)
    (items_point : ∀ items, Document.field? fields "children" = some (.list items) →
      ∀ item ∈ items, ∀ d ∈ (decode item).2, Points item d)
    (mem : d ∈ (groupAt form fields "").2) : Points (.record fields) d := by
  have has : form.fields = ["children"] := by rcases grouped with rfl | rfl <;> rfl
  have required : "children" ∈ form.required := by rcases grouped with rfl | rfl <;> decide
  simp only [groupAt, ← has] at mem
  split at mem
  · rename_i missing
    rcases List.mem_append.mp mem with remark | lacks
    · exact (blamed_of_mem_unknownFields named remark).points
    · exact (blamed_missing named required missing lacks).points
  · rename_i items found
    rcases List.mem_append.mp mem with remark | inner
    · exact (blamed_of_mem_unknownFields named remark).points
    · split at inner
      · rename_i empty
        rw [List.isEmpty_iff.mp empty] at found
        have hollow : HollowGroup (.record fields) := ⟨fields, form, rfl, named, grouped, found⟩
        obtain ⟨code_eq, path_eq⟩ : d.code = "expr.empty_group" ∧ d.path = "" := by
          unfold emptyGroup at inner
          split at inner <;> rw [List.mem_singleton.mp inner] <;> exact ⟨rfl, rfl⟩
        refine ⟨[], .record fields, [], .record fields, .here _, ?_, path_eq⟩
        rw [code_eq]
        exact .hollow hollow
      · rw [decodeList_eq] at inner
        obtain ⟨⟨item, i⟩, listed, inner_mem⟩ := List.mem_flatMap.mp inner
        have there : items[i]? = some item := by simpa using List.mem_zipIdx_iff_getElem?.mp listed
        rw [decodeAt_eq_under] at inner_mem
        obtain ⟨own, own_mem, rfl⟩ := List.mem_map.mp inner_mem
        exact (items_point items found item (List.mem_of_getElem? there) own own_mem).outward
          [.field "children", .item i] (.item named grouped found there)
  · rename_i other no_list found
    rcases List.mem_append.mp mem with remark | ill
    · exact (blamed_of_mem_unknownFields named remark).points
    · refine (blamed_illTyped named (by simp [has]) found ?_ ill).points
      cases other <;> simp [Typed] at no_list ⊢

end

/-- Whatever decoding finds points into the document. -/
theorem points_of_mem_decode {value : Document} {d : Diagnostic} (mem : d ∈ (decode value).2) :
    Points value d := by
  induction value using inductionOnDecoding generalizing d with
  | record fields child_points items_point =>
      cases named : (formOf fields "").1 with
      | none =>
          rw [decode, decodeAt_of_no_form named] at mem
          exact (blamed_of_mem_formOf mem).points
      | some form =>
          rw [decode, decodeAt_of_form named] at mem
          rw [formOf_fst_eq_some_iff] at named
          cases form with
          | const => exact (blamed_of_mem_constOf named mem).points
          | pointShows | barChanged =>
              exact (blamed_of_mem_colorAtom named rfl rfl (.inl rfl) mem).points
          | skillShows => exact (blamed_of_mem_colorAtom named rfl rfl (.inr rfl) mem).points
          | metricAtLeast => exact (blamed_of_mem_metricAtom named mem).points
          | not => exact points_of_mem_negationAt named (fun _ found _ => child_points _ found) mem
          | all =>
              exact points_of_mem_groupAt named (.inl rfl)
                (fun _ found _ item_mem _ => items_point _ found _ item_mem) mem
          | any =>
              exact points_of_mem_groupAt named (.inr rfl)
                (fun _ found _ item_mem _ => items_point _ found _ item_mem) mem
  | other value no_record =>
      obtain ⟨code_eq, path_eq⟩ : d.code = "expr.not_object" ∧ d.path = "" := by
        cases value with
        | record fields => exact absurd rfl (no_record fields)
        | _ =>
            rw [decode, decodeAt] at mem
            · rw [List.mem_singleton.mp mem]
              exact ⟨rfl, rfl⟩
            · simp
      refine ⟨[], value, [], value, .here value, ?_, path_eq⟩
      rw [code_eq]
      exact .fault (.undecodable no_record)

/-- Where a document stands only goes before the paths of what is found in it.
Each path, read as a pointer, leads to something in the document: to the fault of
a value that is decoded there, which goes by the code of the finding, or to a
group without children. -/
theorem decodeAt_leads_to_faults (value : Document) :
    (∀ base, decodeAt value base =
        ((decode value).1, (decode value).2.map fun d => { d with path := base ++ d.path })) ∧
      ∀ d ∈ (decode value).2, ∃ steps inner place target,
        Inside value steps inner ∧ Marks inner d.code place target ∧
          d.path = walk "" (steps ++ place) ∧ value.resolve? d.path = some target := by
  constructor
  · exact decodeAt_eq_under value
  · intro d mem
    obtain ⟨steps, inner, place, target, inside, marks, path_eq⟩ := points_of_mem_decode mem
    exact ⟨steps, inner, place, target, inside, marks, path_eq,
      path_eq ▸ resolve?_of_marks inside marks⟩

/-- In a document that is too loud the tolerance is marked that is too large. -/
theorem overloud_leads_to_tolerance :
    ∃ d ∈ (decode overloud).2, d.path = "/child/children/1/tolerance" ∧
      (∃ steps inner place target, Inside overloud steps inner ∧
        Marks inner "expr.tolerance_range" place target ∧ d.path = walk "" (steps ++ place) ∧
          overloud.resolve? d.path = some target) := by
  let d : Diagnostic := ⟨.error, "expr.tolerance_range", "/child/children/1/tolerance",
    "tolerance 256 outside [0, 255]"⟩
  have mem : d ∈ (decode overloud).2 := by decide +kernel
  exact ⟨d, mem, rfl, (decodeAt_leads_to_faults overloud).2 d mem⟩

/-! ## A group without children -/

/-- A conjunction of nothing. -/
def nothing : Document :=
  .record [("children", .list []), ("type", .text "and")]

theorem eq_all_of_names_nothing {form : Form}
    (named : Names [("children", .list []), ("type", .text "and")] form) : form = .all := by
  have conjunction : (formOf [("children", .list []), ("type", .text "and")] "").1 = some .all := by
    decide +kernel
  exact Option.some.inj ((formOf_fst_eq_some_iff.mpr named).symm.trans conjunction)

theorem hollowGroup_nothing : HollowGroup nothing :=
  ⟨_, .all, rfl, ⟨"and", rfl, sameLetters_iff.mpr (by decide)⟩, .inl rfl, rfl⟩

theorem not_fault_nothing {code : String} {place : List Step} {target : Document} :
    ¬ Fault nothing code place target := by
  intro fault
  cases fault with
  | undecodable other => exact other _ rfl
  | typeless missing => contradiction
  | typeIllTyped found ill =>
      cases found
      exact ill (.inl rfl)
  | unknownType found unknown =>
      cases found
      exact unknown .all (sameLetters_iff.mpr (by decide))
  | lacks named required missing =>
      cases eq_all_of_names_nothing named
      rw [List.mem_singleton.mp required] at missing
      contradiction
  | illTyped named has found ill =>
      cases eq_all_of_names_nothing named
      cases List.mem_singleton.mp has
      cases found
      exact ill rfl
  | toleranceRange _ _ found | countRange _ _ found | unknownMetric _ _ found => contradiction
  | @unknownField fields form name inner named not_type foreign found =>
      cases eq_all_of_names_nothing named
      have other : name ≠ "children" := fun same => foreign (List.mem_singleton.mpr same)
      simp [Document.field?, Ne.symm other, Ne.symm not_type] at found

/-- There is a finding about nothing, which points to it; but nothing in it has a
fault. -/
theorem nothing_has_no_fault :
    ∃ d ∈ (decode nothing).2, nothing.resolve? d.path = some nothing ∧
      ∀ steps inner code place target, Inside nothing steps inner →
        ¬ Fault inner code place target := by
  refine ⟨⟨.warning, "expr.empty_group", "", "empty `and` is always true"⟩, by decide +kernel,
    resolve?_of_marks (.here nothing) (.hollow hollowGroup_nothing), ?_⟩
  intro steps inner code place target inside
  cases inside with
  | here => exact not_fault_nothing
  | child named => cases eq_all_of_names_nothing named
  | item named grouped found there =>
      cases found
      contradiction

end Condition

end Rotation
