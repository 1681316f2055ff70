import Rotation.Condition.Wire
import Rotation.Proofs.Diagnostic.Pointer

/-!
# How conditions are decoded

Decoding goes on past problems, so it has two results, what was understood and
what was found.  Where nothing was understood there is an error among the
findings: a document without errors is a condition.  Where the document stands
does not matter to what is understood, and moves all findings alike.
-/

namespace Rotation

/-! ## Moving findings -/

/-- A finding of a document that stands at `base`. -/
def Diagnostic.under (base : String) (d : Diagnostic) : Diagnostic :=
  { d with path := base ++ d.path }

/-- Findings of a document that stands at `base`. -/
def Diagnostics.under (base : String) (ds : Diagnostics) : Diagnostics :=
  ds.map (Diagnostic.under base)

namespace Diagnostics

@[simp]
theorem under_nil (base : String) : under base [] = [] :=
  rfl

@[simp]
theorem under_append (base : String) (first second : Diagnostics) :
    under base (first ++ second) = under base first ++ under base second :=
  List.map_append

@[simp]
theorem under_flatMap {α : Type} (base : String) (l : List α) (f : α → Diagnostics) :
    under base (l.flatMap f) = l.flatMap fun a => under base (f a) :=
  List.map_flatMap

@[simp]
theorem under_error (base code path message : String) :
    under base (error code path message) = error code (base ++ path) message :=
  rfl

@[simp]
theorem under_warning (base code path message : String) :
    under base (warning code path message) = warning code (base ++ path) message :=
  rfl

@[simp]
theorem under_info (base code path message : String) :
    under base (info code path message) = info code (base ++ path) message :=
  rfl

@[simp]
theorem hasErrors_under (base : String) (ds : Diagnostics) :
    hasErrors (under base ds) = hasErrors ds :=
  List.any_map

end Diagnostics

namespace Condition

/-! ## Single fields -/

/-- A decoding at `base`. -/
def Decoded.under {α : Type} (base : String) (decoded : Decoded α) : Decoded α :=
  (decoded.1, decoded.2.under base)

/-- Either all is understood and nothing is found, or nothing is understood and
an error is found. -/
def Decoded.Plain {α : Type} (decoded : Decoded α) : Prop :=
  (∃ a, decoded = (some a, [])) ∨ (decoded.1 = none ∧ decoded.2.hasErrors = true)

/-- An error is found exactly if nothing is understood. -/
def Decoded.Tells {α : Type} (decoded : Decoded α) : Prop :=
  decoded.2.hasErrors = decoded.1.isNone

/-- If nothing is understood, an error is found. -/
def Decoded.Reports {α : Type} (decoded : Decoded α) : Prop :=
  decoded.1 = none → decoded.2.hasErrors = true

theorem Decoded.Plain.eq_of_fst {α : Type} {decoded : Decoded α} {a : α} (plain : decoded.Plain)
    (understood : decoded.1 = some a) : decoded = (some a, []) := by
  rcases plain with ⟨b, rfl⟩ | ⟨missing, _⟩
  · rw [Option.some.inj understood]
  · rw [missing] at understood
    contradiction

theorem Decoded.Plain.reports {α : Type} {decoded : Decoded α} (plain : decoded.Plain) :
    decoded.Reports := by
  rintro missing
  rcases plain with ⟨a, rfl⟩ | ⟨_, error⟩
  · contradiction
  · exact error

theorem Decoded.Tells.reports {α : Type} {decoded : Decoded α} (tells : decoded.Tells) :
    decoded.Reports := by
  intro missing
  rw [tells, missing, Option.isNone_none]

theorem Decoded.Tells.reads {α : Type} {decoded : Decoded α} {a : α} (tells : decoded.Tells)
    (understood : decoded.1 = some a) : decoded.1 = some a ∧ decoded.2.hasErrors = false :=
  ⟨understood, by rw [tells, understood, Option.isNone_some]⟩

section

variable (fields : List (String × Document)) (name base path : String)

theorem unknownFields_append (known : List String) :
    unknownFields fields known (base ++ path) =
      (unknownFields fields known path).under base := by
  simp [unknownFields, Pointer.push_append]

@[simp]
theorem hasErrors_unknownFields (known : List String) :
    (unknownFields fields known path).hasErrors = false := by
  simp [unknownFields, Diagnostics.hasErrors_flatMap]

theorem idField_append : idField fields name (base ++ path) =
    (idField fields name path).under base := by
  unfold idField
  split <;> simp [Decoded.under, Pointer.push_append]

theorem plain_idField : (idField fields name path).Plain := by
  unfold idField
  split <;> simp [Decoded.Plain]

theorem toleranceOf_append : toleranceOf fields (base ++ path) =
    (toleranceOf fields path).under base := by
  unfold toleranceOf
  repeat' split
  all_goals simp [Decoded.under, Pointer.push_append]

theorem plain_toleranceOf : (toleranceOf fields path).Plain := by
  unfold toleranceOf
  repeat' split
  all_goals simp [Decoded.Plain]

theorem metricOf_append : metricOf fields (base ++ path) =
    (metricOf fields path).under base := by
  unfold metricOf
  repeat' split
  all_goals simp [Decoded.under, Pointer.push_append]

theorem plain_metricOf : (metricOf fields path).Plain := by
  unfold metricOf
  repeat' split
  all_goals simp [Decoded.Plain]

theorem countOf_append : countOf fields (base ++ path) =
    (countOf fields path).under base := by
  unfold countOf
  repeat' split
  all_goals simp [Decoded.under, Pointer.push_append]

theorem plain_countOf : (countOf fields path).Plain := by
  unfold countOf
  repeat' split
  all_goals simp [Decoded.Plain]

theorem formOf_append : formOf fields (base ++ path) =
    (formOf fields path).under base := by
  unfold formOf
  repeat' split
  all_goals simp [Decoded.under, Pointer.push_append]

theorem plain_formOf : (formOf fields path).Plain := by
  unfold formOf
  repeat' split
  all_goals simp [Decoded.Plain]

/-! ## Atoms and constants -/

theorem constOf_append : constOf fields (base ++ path) =
    (constOf fields path).under base := by
  unfold constOf
  rw [unknownFields_append]
  split <;> simp [Decoded.under, Pointer.push_append]

theorem tells_constOf : (constOf fields path).Tells := by
  unfold constOf
  split <;> simp [Decoded.Tells]

theorem colorAtom_append (make : String → Option UInt8 → Condition) :
    colorAtom make name fields (base ++ path) =
      (colorAtom make name fields path).under base := by
  unfold colorAtom
  rw [unknownFields_append, idField_append, toleranceOf_append]
  simp [Decoded.under]

theorem tells_colorAtom (make : String → Option UInt8 → Condition) :
    (colorAtom make name fields path).Tells := by
  unfold Decoded.Tells colorAtom
  rcases plain_idField fields name path with ⟨id, id_eq⟩ | ⟨no_id, id_error⟩ <;>
    rcases plain_toleranceOf fields path with ⟨t, t_eq⟩ | ⟨no_tolerance, tolerance_error⟩ <;>
      simp [*]

theorem metricAtom_append : metricAtom fields (base ++ path) =
    (metricAtom fields path).under base := by
  unfold metricAtom
  rw [unknownFields_append, idField_append, metricOf_append, countOf_append]
  simp [Decoded.under]

theorem tells_metricAtom : (metricAtom fields path).Tells := by
  unfold Decoded.Tells metricAtom
  rcases plain_idField fields "skill_id" path with ⟨id, id_eq⟩ | ⟨no_id, id_error⟩ <;>
    rcases plain_metricOf fields path with ⟨metric, metric_eq⟩ | ⟨no_metric, metric_error⟩ <;>
      rcases plain_countOf fields path with ⟨count, count_eq⟩ | ⟨no_count, count_error⟩ <;>
        simp [*]

end

/-! ## Whole documents -/

/-- What a negation decodes to. -/
def negationAt (fields : List (String × Document)) (path : String) : Decoded Condition :=
  let remarks := unknownFields fields ["child"] path
  match Document.field? fields "child" with
  | none =>
    (none, remarks ++ Diagnostics.error "expr.missing_field" path "`not` requires `child`")
  | some child =>
    let inner := decodeAt child (Pointer.push path "child")
    (inner.1.map .not, remarks ++ inner.2)

/-- What a group decodes to. -/
def groupAt (form : Form) (fields : List (String × Document)) (path : String) :
    Decoded Condition :=
  let remarks := unknownFields fields ["children"] path
  let place := Pointer.push path "children"
  match Document.field? fields "children" with
  | none =>
    (none, remarks ++ Diagnostics.error "expr.missing_field" path "group requires `children`")
  | some (.list items) =>
    let inner := decodeList items place 0
    (some (group form inner.1),
      remarks ++ if items.isEmpty then emptyGroup form path else inner.2)
  | some other =>
    (none, remarks ++ Diagnostics.error "expr.invalid_field" place
      ("`children` must be an array, found " ++ other.kind))

/-- What a record of a form decodes to. -/
def formAt (fields : List (String × Document)) (path : String) : Form → Decoded Condition
  | .const => constOf fields path
  | .pointShows => colorAtom .pointShows "point_id" fields path
  | .skillShows => colorAtom .skillShows "skill_id" fields path
  | .barChanged => colorAtom .barChanged "point_id" fields path
  | .metricAtLeast => metricAtom fields path
  | .not => negationAt fields path
  | .all => groupAt .all fields path
  | .any => groupAt .any fields path

/-- Decoding looks at the form of a record first. -/
theorem decodeAt_record (fields : List (String × Document)) (path : String) :
    decodeAt (.record fields) path =
      match formOf fields path with
      | (none, problems) => (none, problems)
      | (some form, _) => formAt fields path form := by
  rw [decodeAt]
  rcases formOf fields path with ⟨_ | form, problems⟩
  · rfl
  · cases form with
    | const | pointShows | skillShows | barChanged | metricAtLeast => rfl
    | not =>
        simp only [formAt, negationAt]
        split <;> split <;> simp_all
    | all | any =>
        simp only [formAt, groupAt]
        split
        · rename_i found
          simp [found]
        · rename_i found
          simp [found, decodeList]
        · rename_i found
          simp [found]
        · rename_i not_empty not_cons found
          simp only [found]
          split
          · contradiction
          · rename_i items listed
            cases items <;> simp_all
          · simp_all

theorem decodeAt_of_form {fields : List (String × Document)} {path : String} {form : Form}
    (named : (formOf fields path).1 = some form) :
    decodeAt (.record fields) path = formAt fields path form := by
  rw [decodeAt_record, (plain_formOf fields path).eq_of_fst named]

theorem decodeAt_of_no_form {fields : List (String × Document)} {path : String}
    (unnamed : (formOf fields path).1 = none) :
    decodeAt (.record fields) path = (none, (formOf fields path).2) := by
  rw [decodeAt_record]
  rcases form_eq : formOf fields path with ⟨_ | form, problems⟩
  · rfl
  · rw [form_eq] at unnamed
    contradiction

theorem decodeList_eq (items : List Document) (place : String) (i : Nat) :
    decodeList items place i =
      ((items.zipIdx i).filterMap fun entry =>
          (decodeAt entry.1 (Pointer.pushIndex place entry.2)).1,
        (items.zipIdx i).flatMap fun entry =>
          (decodeAt entry.1 (Pointer.pushIndex place entry.2)).2) := by
  induction items generalizing i with
  | nil => simp [decodeList]
  | cons item rest ih =>
      rw [decodeList, ih, List.zipIdx_cons, List.filterMap_cons, List.flatMap_cons]
      cases (decodeAt item (Pointer.pushIndex place i)).1 <;> rfl

/-- Induction along the way that decoding goes down a document. -/
@[elab_as_elim]
theorem inductionOnDecoding {motive : Document → Prop}
    (record : ∀ fields,
      (∀ child, Document.field? fields "child" = some child → motive child) →
      (∀ items, Document.field? fields "children" = some (.list items) →
        ∀ item ∈ items, motive item) → motive (.record fields))
    (other : ∀ value, (∀ fields, value ≠ .record fields) → motive value)
    (value : Document) : motive value := by
  cases value with
  | record fields =>
      apply record fields
      · intro child found
        exact inductionOnDecoding record other child
      · intro items found item mem
        exact inductionOnDecoding record other item
  | _ => exact other _ (by simp)
termination_by sizeOf value
decreasing_by
  · exact sizeOf_lt_of_field found
  · have inside := sizeOf_lt_of_field found
    have smaller := List.sizeOf_lt_of_mem mem
    simp only [Document.list.sizeOf_spec] at inside
    omega

theorem decodeList_append {items : List Document} {base : String}
    (moves : ∀ item ∈ items, ∀ path,
      decodeAt item (base ++ path) = (decodeAt item path).under base) (place : String) (i : Nat) :
    decodeList items (base ++ place) i =
      ((decodeList items place i).1, (decodeList items place i).2.under base) := by
  induction items generalizing i with
  | nil => simp [decodeList]
  | cons item rest ih =>
      obtain ⟨item_moves, rest_moves⟩ := List.forall_mem_cons.mp moves
      simp [decodeList, Pointer.pushIndex_append, item_moves, ih rest_moves, Decoded.under]

theorem emptyGroup_append (form : Form) (base path : String) :
    emptyGroup form (base ++ path) = (emptyGroup form path).under base := by
  unfold emptyGroup
  split <;> rfl

theorem groupAt_append {fields : List (String × Document)} {base : String}
    (moves : ∀ items, Document.field? fields "children" = some (.list items) →
      ∀ item ∈ items, ∀ path, decodeAt item (base ++ path) = (decodeAt item path).under base)
    (form : Form) (path : String) :
    groupAt form fields (base ++ path) = (groupAt form fields path).under base := by
  unfold groupAt
  simp only [unknownFields_append, Pointer.push_append]
  split
  · simp [Decoded.under]
  · rename_i items found
    rw [decodeList_append (moves items found), emptyGroup_append]
    simp only [Decoded.under, Diagnostics.under_append]
    split <;> rfl
  · simp [Decoded.under]

/-- Where a document stands does not matter to what it decodes to, and its
findings move along with it. -/
theorem decodeAt_append (value : Document) (base path : String) :
    decodeAt value (base ++ path) = (decodeAt value path).under base := by
  induction value using inductionOnDecoding generalizing path with
  | record fields child_moves items_move =>
      rw [decodeAt_record, decodeAt_record, formOf_append]
      rcases formOf fields path with ⟨_ | form, problems⟩
      · rfl
      · cases form with
        | const => exact constOf_append fields base path
        | pointShows | skillShows | barChanged => exact colorAtom_append fields _ base path _
        | metricAtLeast => exact metricAtom_append fields base path
        | not =>
            simp only [Decoded.under, formAt, negationAt, unknownFields_append]
            cases found : Document.field? fields "child" with
            | none => simp
            | some child =>
                simp [Pointer.push_append, child_moves child found, Decoded.under]
        | all | any => exact groupAt_append items_move _ path
  | other value no_record =>
      cases value with
      | record fields => exact absurd rfl (no_record fields)
      | _ => simp [decodeAt, Decoded.under]

theorem decodeAt_eq_under (value : Document) (path : String) :
    decodeAt value path = (decode value).under path := by
  rw [decode, ← decodeAt_append, String.append_empty]

theorem fst_decodeAt (value : Document) (path : String) :
    (decodeAt value path).1 = (decode value).1 := by
  rw [decodeAt_eq_under]
  rfl

theorem hasErrors_decodeAt (value : Document) (path : String) :
    (decodeAt value path).2.hasErrors = (decode value).2.hasErrors := by
  rw [decodeAt_eq_under]
  exact Diagnostics.hasErrors_under _ _

theorem fst_decodeList (items : List Document) (place : String) (i : Nat) :
    (decodeList items place i).1 = items.filterMap fun item => (decode item).1 := by
  induction items generalizing i with
  | nil => simp [decodeList]
  | cons item rest ih =>
      rw [decodeList, fst_decodeAt, ih, List.filterMap_cons]
      cases (decode item).1 <;> rfl

theorem clean_of_decodeList {items : List Document} {place : String} {i : Nat}
    (clean : (decodeList items place i).2.hasErrors = false) :
    ∀ item ∈ items, (decode item).2.hasErrors = false := by
  induction items generalizing i with
  | nil => simp
  | cons item rest ih =>
      rw [decodeList, Diagnostics.hasErrors_append, Bool.or_eq_false_iff,
        hasErrors_decodeAt] at clean
      exact List.forall_mem_cons.mpr ⟨clean.1, ih clean.2⟩

/-- A document that is no condition has an error.  Only a negation can miss a
condition because of what is inside it: groups leave such children out. -/
theorem reports_decodeAt (value : Document) (path : String) : (decodeAt value path).Reports := by
  induction value using inductionOnDecoding generalizing path with
  | record fields child_reports _ =>
      cases named : (formOf fields path).1 with
      | none =>
          rw [decodeAt_of_no_form named]
          exact fun _ => (plain_formOf fields path).reports named
      | some form =>
          rw [decodeAt_of_form named]
          cases form with
          | const => exact (tells_constOf fields path).reports
          | pointShows | skillShows | barChanged => exact (tells_colorAtom fields _ path _).reports
          | metricAtLeast => exact (tells_metricAtom fields path).reports
          | not =>
              simp only [formAt, negationAt]
              split
              · simp [Decoded.Reports]
              · rename_i child found
                intro missing
                simp [child_reports child found _ (Option.map_eq_none_iff.mp missing)]
          | all | any =>
              simp only [formAt, groupAt]
              split <;> simp [Decoded.Reports]
  | other value no_record =>
      cases value with
      | record fields => exact absurd rfl (no_record fields)
      | _ => simp [decodeAt, Decoded.Reports]

end Condition

end Rotation
