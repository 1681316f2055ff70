import Mathlib.Data.List.Forall2
import Rotation.Proofs.Condition.Decoding

/-!
# The grammar of written conditions

What a document has to look like to be the written form of a condition: its
`type` names the form, and the fields of the form are there and of the right
kind.  Decoding accepts these documents without an error and no others; and
wherever it leaves a child of a group out, however deep, it finds an error.
-/

namespace Rotation.Condition

/-! ## Written forms -/

/-- The name of a form. -/
def Form.name : Form → String
  | .all => "and"
  | .any => "or"
  | .not => "not"
  | .const => "const"
  | .pointShows => "pixel_point"
  | .skillShows => "pixel_skill"
  | .barChanged => "cast_bar_changed"
  | .metricAtLeast => "skill_metric_ge"

/-- The texts are the same but for the case of ASCII letters. -/
def SameLetters (s t : String) : Prop :=
  List.Forall₂ (fun a b => a.toLower = b.toLower) s.toList t.toList

/-- The record names a form. -/
def Names (fields : List (String × Document)) (form : Form) : Prop :=
  ∃ name, Document.field? fields "type" = some (.text name) ∧ SameLetters name form.name

/-- The record gives a tolerance, or leaves it to the catalogue. -/
inductive GivesTolerance (fields : List (String × Document)) : Option UInt8 → Prop
  | absent (field : Document.field? fields "tolerance" = none) : GivesTolerance fields none
  | null (field : Document.field? fields "tolerance" = some .null) : GivesTolerance fields none
  | given {tolerance : UInt8}
      (field : Document.field? fields "tolerance" = some (.integer tolerance.toNat)) :
      GivesTolerance fields (some tolerance)

/-- The document is a written form of the condition.  Fields that the form does
not have may be there as well. -/
inductive Written : Document → Condition → Prop
  | all {fields : List (String × Document)} {items : List Document} {children : List Condition}
      (named : Names fields .all)
      (field : Document.field? fields "children" = some (.list items))
      (written : List.Forall₂ Written items children) : Written (.record fields) (.all children)
  | any {fields : List (String × Document)} {items : List Document} {children : List Condition}
      (named : Names fields .any)
      (field : Document.field? fields "children" = some (.list items))
      (written : List.Forall₂ Written items children) : Written (.record fields) (.any children)
  | not {fields : List (String × Document)} {inner : Document} {child : Condition}
      (named : Names fields .not) (field : Document.field? fields "child" = some inner)
      (written : Written inner child) : Written (.record fields) (.not child)
  | const {fields : List (String × Document)} {value : Bool} (named : Names fields .const)
      (field : Document.field? fields "value" = some (.bool value)) :
      Written (.record fields) (.const value)
  | pointShows {fields : List (String × Document)} {point : String} {tolerance : Option UInt8}
      (named : Names fields .pointShows)
      (id : Document.field? fields "point_id" = some (.text point))
      (gives : GivesTolerance fields tolerance) :
      Written (.record fields) (.pointShows point tolerance)
  | skillShows {fields : List (String × Document)} {skill : String} {tolerance : Option UInt8}
      (named : Names fields .skillShows)
      (id : Document.field? fields "skill_id" = some (.text skill))
      (gives : GivesTolerance fields tolerance) :
      Written (.record fields) (.skillShows skill tolerance)
  | barChanged {fields : List (String × Document)} {point : String} {tolerance : Option UInt8}
      (named : Names fields .barChanged)
      (id : Document.field? fields "point_id" = some (.text point))
      (gives : GivesTolerance fields tolerance) :
      Written (.record fields) (.barChanged point tolerance)
  | metricAtLeast {fields : List (String × Document)} {skill : String} {metric : Metric}
      {count : UInt32} (named : Names fields .metricAtLeast)
      (id : Document.field? fields "skill_id" = some (.text skill))
      (kind : Document.field? fields "metric" = some (.text metric.name))
      (threshold : Document.field? fields "count" = some (.integer count.toNat)) :
      Written (.record fields) (.metricAtLeast skill metric count)

/-! ## Fields -/

section

variable {fields : List (String × Document)} {path : String}

theorem idField_fst_eq_some_iff {name id : String} :
    (idField fields name path).1 = some id ↔ Document.field? fields name = some (.text id) := by
  unfold idField
  split <;> simp_all

theorem toleranceOf_fst_eq_some_iff {tolerance : Option UInt8} :
    (toleranceOf fields path).1 = some tolerance ↔ GivesTolerance fields tolerance := by
  constructor
  · intro understood
    unfold toleranceOf at understood
    split at understood
    · rename_i absent
      cases understood
      exact .absent absent
    · rename_i null
      cases understood
      exact .null null
    · rename_i field
      split at understood
      · rename_i n _
        split at understood
        · rename_i in_range
          cases understood
          have small : n.toNat < UInt8.size := by
            change n.toNat < 256
            omega
          have exact : ((UInt8.ofNat n.toNat).toNat : Int) = n := by
            rw [UInt8.toNat_ofNat_of_lt' small]
            omega
          exact .given (exact.symm ▸ field)
        · split at understood <;> contradiction
      · contradiction
  · rintro (absent | null | given)
    · simp [toleranceOf, absent]
    · simp [toleranceOf, null]
    · rename_i t
      have small : t.toNat < 256 := t.toNat_lt
      have in_range : (0 : Int) ≤ t.toNat ∧ (t.toNat : Int) ≤ 255 := by omega
      simp [toleranceOf, given, in_range]

theorem eq_name_of_ofName? {name : String} {metric : Metric}
    (found : Metric.ofName? name = some metric) : name = metric.name := by
  have same := List.find?_some found
  exact (beq_iff_eq.mp same).symm

theorem metricOf_fst_eq_some_iff {metric : Metric} :
    (metricOf fields path).1 = some metric ↔
      Document.field? fields "metric" = some (.text metric.name) := by
  constructor
  · intro understood
    unfold metricOf at understood
    split at understood
    · rename_i name field
      split at understood
      · rename_i found
        cases understood
        rw [field, eq_name_of_ofName? found]
      · contradiction
    · contradiction
    · contradiction
  · intro field
    simp [metricOf, field]

theorem countOf_fst_eq_some_iff {count : UInt32} :
    (countOf fields path).1 = some count ↔
      Document.field? fields "count" = some (.integer count.toNat) := by
  constructor
  · intro understood
    unfold countOf at understood
    split at understood
    · contradiction
    · rename_i field
      split at understood
      · rename_i n
        split at understood
        · rename_i in_range
          cases understood
          have small : n.toNat < UInt32.size := by omega
          have exact : ((UInt32.ofNat n.toNat).toNat : Int) = n := by
            rw [UInt32.toNat_ofNat_of_lt' small]
            omega
          rw [field, exact]
        · split at understood <;> contradiction
      · contradiction
  · intro field
    have small : count.toNat < UInt32.size := count.toNat_lt
    have in_range : (0 : Int) ≤ count.toNat ∧ (count.toNat : Int) < UInt32.size := by omega
    rw [countOf, field]
    simp only [in_range, and_self, if_true]
    simp

theorem sameLetters_iff {s t : String} : SameLetters s t ↔ lowerAscii s = lowerAscii t := by
  unfold SameLetters lowerAscii
  rw [String.ofList_inj, ← List.forall₂_eq_eq_eq, List.forall₂_map_left_iff,
    List.forall₂_map_right_iff]

@[simp]
theorem lowerAscii_name (form : Form) : lowerAscii form.name = form.name := by
  cases form <;> decide

theorem Form.ofName?_eq_some_iff {name : String} {form : Form} :
    Form.ofName? name = some form ↔ name = form.name := by
  constructor
  · intro found
    unfold Form.ofName? at found
    split at found <;> cases found <;> rfl
  · rintro rfl
    cases form <;> rfl

theorem formOf_fst_eq_some_iff {form : Form} :
    (formOf fields path).1 = some form ↔ Names fields form := by
  unfold Names
  simp only [sameLetters_iff, lowerAscii_name, ← Form.ofName?_eq_some_iff]
  unfold formOf
  split
  · rename_i name field
    cases found : Form.ofName? (lowerAscii name) <;> simp [field, found]
  · rename_i other not_text field
    simp only [reduceCtorEq, false_iff, not_exists, not_and]
    intro name text
    exact absurd (Option.some.inj (field.symm.trans text)) (not_text name)
  · rename_i missing
    simp [missing]

/-! ## Atoms and constants -/

theorem constOf_fst_eq_some_iff {c : Condition} :
    (constOf fields path).1 = some c ↔
      ∃ value, Document.field? fields "value" = some (.bool value) ∧ .const value = c := by
  unfold constOf
  split <;> simp_all

theorem colorAtom_fst_eq_some_iff {make : String → Option UInt8 → Condition} {name : String}
    {c : Condition} :
    (colorAtom make name fields path).1 = some c ↔
      ∃ id tolerance, Document.field? fields name = some (.text id) ∧
        GivesTolerance fields tolerance ∧ make id tolerance = c := by
  simp [colorAtom, Option.bind_eq_some_iff, idField_fst_eq_some_iff, toleranceOf_fst_eq_some_iff]

theorem metricAtom_fst_eq_some_iff {c : Condition} :
    (metricAtom fields path).1 = some c ↔
      ∃ skill metric count, Document.field? fields "skill_id" = some (.text skill) ∧
        Document.field? fields "metric" = some (.text metric.name) ∧
        Document.field? fields "count" = some (.integer count.toNat) ∧
        .metricAtLeast skill metric count = c := by
  simp [metricAtom, Option.bind_eq_some_iff, idField_fst_eq_some_iff, metricOf_fst_eq_some_iff,
    countOf_fst_eq_some_iff]

end

/-! ## Whole documents -/

/-- Decoding understands a condition and finds no error. -/
def Reads (value : Document) (path : String) (c : Condition) : Prop :=
  (decodeAt value path).1 = some c ∧ (decodeAt value path).2.hasErrors = false

theorem written_of_decodeList {items : List Document} {place : String} {i : Nat}
    (sound : ∀ item ∈ items, ∀ path c, Reads item path c → Written item c)
    (clean : (decodeList items place i).2.hasErrors = false) :
    List.Forall₂ Written items (decodeList items place i).1 := by
  induction items generalizing i with
  | nil => simp [decodeList]
  | cons item rest ih =>
      obtain ⟨item_sound, rest_sound⟩ := List.forall_mem_cons.mp sound
      rw [decodeList] at clean ⊢
      simp only [Diagnostics.hasErrors_append, Bool.or_eq_false_iff] at clean
      obtain ⟨item_clean, rest_clean⟩ := clean
      cases understood : (decodeAt item (Pointer.pushIndex place i)).1 with
      | none =>
          rw [reports_decodeAt item _ understood] at item_clean
          contradiction
      | some child =>
          exact .cons (item_sound _ child ⟨understood, item_clean⟩) (ih rest_sound rest_clean)

theorem decodeList_of_written {items : List Document} {children : List Condition}
    (complete : ∀ item ∈ items, ∀ path c, Written item c → Reads item path c)
    (written : List.Forall₂ Written items children) (place : String) (i : Nat) :
    (decodeList items place i).1 = children ∧ (decodeList items place i).2.hasErrors = false := by
  induction written generalizing i with
  | nil => simp [decodeList]
  | @cons item child rest others item_written rest_written ih =>
      obtain ⟨item_complete, rest_complete⟩ := List.forall_mem_cons.mp complete
      obtain ⟨understood, clean⟩ := item_complete (Pointer.pushIndex place i) child item_written
      obtain ⟨rest_understood, rest_clean⟩ := ih rest_complete (i + 1)
      simp [decodeList, understood, clean, rest_understood, rest_clean]

@[simp]
theorem hasErrors_emptyGroup (form : Form) (path : String) :
    (emptyGroup form path).hasErrors = false := by
  unfold emptyGroup
  split <;> rfl

theorem fst_groupAt_of_items {form : Form} {fields : List (String × Document)}
    {items : List Document} (field : Document.field? fields "children" = some (.list items))
    (path : String) : (groupAt form fields path).1 =
      some (group form (decodeList items (Pointer.push path "children") 0).1) := by
  rw [groupAt, field]

theorem hasErrors_groupAt_of_items {form : Form} {fields : List (String × Document)}
    {items : List Document} (field : Document.field? fields "children" = some (.list items))
    (path : String) : (groupAt form fields path).2.hasErrors =
      (decodeList items (Pointer.push path "children") 0).2.hasErrors := by
  rw [groupAt, field]
  cases items <;> simp [decodeList]

/-- A group that is read has a list of children. -/
theorem exists_items_of_groupAt {form : Form} {fields : List (String × Document)} {path : String}
    {c : Condition} (understood : (groupAt form fields path).1 = some c) :
    ∃ items, Document.field? fields "children" = some (.list items) ∧
      c = group form (decodeList items (Pointer.push path "children") 0).1 := by
  unfold groupAt at understood
  split at understood
  · contradiction
  · rename_i items field
    exact ⟨items, field, (Option.some.inj understood).symm⟩
  · contradiction

/-- What is read is written so. -/
theorem written_of_reads {value : Document} {path : String} {c : Condition}
    (reads : Reads value path c) : Written value c := by
  induction value using inductionOnDecoding generalizing path c with
  | record fields child_sound items_sound =>
      obtain ⟨understood, clean⟩ := reads
      cases found : (formOf fields path).1 with
      | none =>
          rw [decodeAt_of_no_form found] at understood
          contradiction
      | some form =>
          rw [decodeAt_of_form found] at understood clean
          have named : Names fields form := formOf_fst_eq_some_iff.mp found
          cases form with
          | const =>
              obtain ⟨value, field, rfl⟩ := constOf_fst_eq_some_iff.mp understood
              exact .const named field
          | pointShows =>
              obtain ⟨id, tolerance, field, gives, rfl⟩ := colorAtom_fst_eq_some_iff.mp understood
              exact .pointShows named field gives
          | skillShows =>
              obtain ⟨id, tolerance, field, gives, rfl⟩ := colorAtom_fst_eq_some_iff.mp understood
              exact .skillShows named field gives
          | barChanged =>
              obtain ⟨id, tolerance, field, gives, rfl⟩ := colorAtom_fst_eq_some_iff.mp understood
              exact .barChanged named field gives
          | metricAtLeast =>
              obtain ⟨skill, metric, count, id, kind, threshold, rfl⟩ :=
                metricAtom_fst_eq_some_iff.mp understood
              exact .metricAtLeast named id kind threshold
          | not =>
              simp only [formAt, negationAt] at understood clean
              split at understood
              · contradiction
              · rename_i inner field
                obtain ⟨child, child_understood, rfl⟩ := Option.map_eq_some_iff.mp understood
                simp only [field, Diagnostics.hasErrors_append, Bool.or_eq_false_iff] at clean
                exact .not named field (child_sound inner field ⟨child_understood, clean.2⟩)
          | all =>
              obtain ⟨items, field, rfl⟩ := exists_items_of_groupAt understood
              rw [formAt, hasErrors_groupAt_of_items field] at clean
              exact .all named field (written_of_decodeList
                (fun item mem _ _ reads => items_sound items field item mem reads) clean)
          | any =>
              obtain ⟨items, field, rfl⟩ := exists_items_of_groupAt understood
              rw [formAt, hasErrors_groupAt_of_items field] at clean
              exact .any named field (written_of_decodeList
                (fun item mem _ _ reads => items_sound items field item mem reads) clean)
  | other value no_record =>
      cases value with
      | record fields => exact absurd rfl (no_record fields)
      | _ => simp [Reads, decodeAt] at reads

/-- What is written so is read. -/
theorem reads_of_written {value : Document} {c : Condition} (written : Written value c)
    (path : String) : Reads value path c := by
  induction value using inductionOnDecoding generalizing path c with
  | record fields child_complete items_complete =>
      unfold Reads
      cases written with
      | const named field =>
          rw [decodeAt_of_form (formOf_fst_eq_some_iff.mpr named)]
          exact (tells_constOf fields path).reads
            (constOf_fst_eq_some_iff.mpr ⟨_, field, rfl⟩)
      | pointShows named id gives | skillShows named id gives | barChanged named id gives =>
          rw [decodeAt_of_form (formOf_fst_eq_some_iff.mpr named)]
          exact (tells_colorAtom fields _ path _).reads
            (colorAtom_fst_eq_some_iff.mpr ⟨_, _, id, gives, rfl⟩)
      | metricAtLeast named id kind threshold =>
          rw [decodeAt_of_form (formOf_fst_eq_some_iff.mpr named)]
          exact (tells_metricAtom fields path).reads
            (metricAtom_fst_eq_some_iff.mpr ⟨_, _, _, id, kind, threshold, rfl⟩)
      | @not _ inner child named field child_written =>
          rw [decodeAt_of_form (formOf_fst_eq_some_iff.mpr named)]
          obtain ⟨understood, clean⟩ :=
            child_complete inner field child_written (Pointer.push path "child")
          simp [formAt, negationAt, field, understood, clean]
      | all named field children_written | any named field children_written =>
          rw [decodeAt_of_form (formOf_fst_eq_some_iff.mpr named), formAt,
            fst_groupAt_of_items field, hasErrors_groupAt_of_items field]
          obtain ⟨understood, clean⟩ := decodeList_of_written
            (fun item mem path c written => items_complete _ field item mem written path)
            children_written (Pointer.push path "children") 0
          exact ⟨by rw [understood]; rfl, clean⟩
  | other value no_record =>
      cases written <;> exact absurd rfl (no_record _)

/-! ## Lost children -/

/-- Somewhere in the document, a child of a group is no condition and is left
out. -/
inductive Loses : Document → Prop
  | child {fields : List (String × Document)} {items : List Document} {item : Document}
      (named : Names fields .all ∨ Names fields .any)
      (field : Document.field? fields "children" = some (.list items)) (mem : item ∈ items)
      (lost : (decode item).1 = none) : Loses (.record fields)
  | inChild {fields : List (String × Document)} {items : List Document} {item : Document}
      (named : Names fields .all ∨ Names fields .any)
      (field : Document.field? fields "children" = some (.list items)) (mem : item ∈ items)
      (loses : Loses item) : Loses (.record fields)
  | inNegation {fields : List (String × Document)} {inner : Document} (named : Names fields .not)
      (field : Document.field? fields "child" = some inner) (loses : Loses inner) :
      Loses (.record fields)

theorem hasErrors_of_child {fields : List (String × Document)} {items : List Document}
    {item : Document} (named : Names fields .all ∨ Names fields .any)
    (field : Document.field? fields "children" = some (.list items)) (mem : item ∈ items)
    (errors : (decode item).2.hasErrors = true) (path : String) :
    (decodeAt (.record fields) path).2.hasErrors = true := by
  have list_errors :
      (decodeList items (Pointer.push path "children") 0).2.hasErrors = true := by
    obtain ⟨i, there⟩ := List.getElem?_of_mem mem
    rw [decodeList_eq, Diagnostics.hasErrors_flatMap, List.any_eq_true]
    refine ⟨(item, i), List.mem_zipIdx_iff_getElem?.mpr there, ?_⟩
    rw [decodeAt_eq_under]
    simpa [Decoded.under] using errors
  rcases named with named | named <;>
    rw [decodeAt_of_form (formOf_fst_eq_some_iff.mpr named), formAt,
      hasErrors_groupAt_of_items field, list_errors]

/-- Where a child is lost, there is an error. -/
theorem Loses.hasErrors {value : Document} (loses : Loses value) (path : String) :
    (decodeAt value path).2.hasErrors = true := by
  induction loses generalizing path with
  | child named field mem lost =>
      exact hasErrors_of_child named field mem (reports_decodeAt _ _ lost) path
  | inChild named field mem _ ih => exact hasErrors_of_child named field mem (ih "") path
  | inNegation named field _ ih =>
      rw [decodeAt_of_form (formOf_fst_eq_some_iff.mpr named)]
      simp [formAt, negationAt, field, ih]

/-- Decoding accepts exactly the written forms of conditions, and loses nothing
in silence: a document that is no condition has an error, and so has one of
which any child is left out. -/
theorem decode_iff_written (value : Document) :
    (∀ c, (decode value).1 = some c ∧ (decode value).2.hasErrors = false ↔ Written value c) ∧
      ((decode value).1 = none ∨ Loses value → (decode value).2.hasErrors = true) := by
  constructor
  · intro c
    exact ⟨written_of_reads, fun written => reads_of_written written ""⟩
  · rintro (missing | loses)
    · exact reports_decodeAt value "" missing
    · exact loses.hasErrors ""

/-! ## A loud document -/

/-- A written form with a remark, with the case of its names mixed and with a
tolerance that is left open. -/
def loud : Document :=
  .record [("children", .list [.record [("point_id", .text ""), ("tolerance", .null),
    ("type", .text "Pixel_Point")]]), ("note", .real 0.5), ("type", .text "OR")]

/-- The same one level further down, next to a child whose tolerance is too
large. -/
def overloud : Document :=
  .record [("child", .record [("children", .list [loud, .record [("point_id", .text "lamp"),
    ("tolerance", .integer 256), ("type", .text "pixel_point")]]), ("type", .text "and")]),
    ("type", .text "not")]

/-- A loud document is read, and from one that is too loud a child is lost, but
not in silence. -/
theorem loud_is_read :
    ((decode loud).1 = some (.any [.pointShows "" none]) ∧ (decode loud).2.hasErrors = false) ∧
      Loses overloud ∧ (decode overloud).2.hasErrors = true := by
  have child_written : Written (.record [("point_id", .text ""), ("tolerance", .null),
      ("type", .text "Pixel_Point")]) (.pointShows "" none) :=
    .pointShows ⟨"Pixel_Point", rfl, sameLetters_iff.mpr (by decide)⟩ rfl (.null rfl)
  have written : Written loud (.any [.pointShows "" none]) :=
    .any ⟨"OR", rfl, sameLetters_iff.mpr (by decide)⟩ rfl (.cons child_written .nil)
  have loses : Loses overloud :=
    .inNegation ⟨"not", rfl, sameLetters_iff.mpr (by decide)⟩ rfl
      (.child (.inl ⟨"and", rfl, sameLetters_iff.mpr (by decide)⟩) rfl
        (List.mem_cons_of_mem _ (List.mem_singleton_self _)) (by decide +kernel))
  exact ⟨((decode_iff_written loud).1 _).mpr written, loses,
    (decode_iff_written overloud).2 (.inr loses)⟩

end Rotation.Condition
