import Rotation.Proofs.Condition.Places

/-!
# Where findings point

Whatever is found while a condition is decoded and checked points to the
condition or below it, never beside it.  So the findings about one value of a
document cannot be taken for findings about another.
-/

namespace Rotation

open Rotation.Pointer

namespace Pointer

/-- A pointer to a place or below it. -/
def Enters (base pointer : String) : Prop :=
  ∃ segments, pointer = pushAll base segments

@[simp]
theorem enters_self (base : String) : Enters base base :=
  ⟨[], rfl⟩

@[simp]
theorem enters_push (base segment : String) : Enters base (push base segment) :=
  ⟨[segment], rfl⟩

theorem pushAll_append (base : String) (first second : List String) :
    pushAll base (first ++ second) = pushAll (pushAll base first) second :=
  List.foldl_append

theorem enters_walk (base : String) (steps : List Step) : Enters base (walk base steps) :=
  ⟨steps.map Step.segment, rfl⟩

theorem Enters.trans {base middle pointer : String} (first : Enters base middle)
    (second : Enters middle pointer) : Enters base pointer := by
  obtain ⟨above, rfl⟩ := first
  obtain ⟨below, rfl⟩ := second
  exact ⟨above ++ below, (pushAll_append base above below).symm⟩

/-- The segments below a place can be told apart by what is written. -/
theorem pushAll_injective {base : String} {first second : List String}
    (same : pushAll base first = pushAll base second) : first = second := by
  have written_eq := congrArg (fun pointer : String => Text.pieces '/' pointer.toList) same
  rw [pieces_pushAll, pieces_pushAll] at written_eq
  have segments_eq := congrArg (List.map unescape) (List.append_cancel_left written_eq)
  simpa [Function.comp_def, unescape_escape] using segments_eq

end Pointer

namespace Condition

/-- All findings point to a place or below it. -/
def Within (base : String) (ds : Diagnostics) : Prop :=
  ∀ d ∈ ds, Enters base d.path

section

variable {base path : String}

theorem Within.mono (entered : Enters base path) {ds : Diagnostics} (within : Within path ds) :
    Within base ds :=
  fun d mem => entered.trans (within d mem)

@[simp]
theorem within_nil (base : String) : Within base [] :=
  List.forall_mem_nil _

@[simp]
theorem within_append {first second : Diagnostics} :
    Within base (first ++ second) ↔ Within base first ∧ Within base second :=
  List.forall_mem_append

@[simp]
theorem within_error {code message : String} :
    Within base (Diagnostics.error code path message) ↔ Enters base path :=
  List.forall_mem_singleton

@[simp]
theorem within_warning {code message : String} :
    Within base (Diagnostics.warning code path message) ↔ Enters base path :=
  List.forall_mem_singleton

@[simp]
theorem within_info {code message : String} :
    Within base (Diagnostics.info code path message) ↔ Enters base path :=
  List.forall_mem_singleton

end

/-! ## Decoding -/

section

variable (fields : List (String × Document)) (name path : String)

@[simp]
theorem within_unknownFields (known : List String) :
    Within path (unknownFields fields known path) := by
  simp only [Within, unknownFields, List.mem_flatMap]
  rintro d ⟨entry, _, said⟩
  rw [List.mem_singleton.mp said]
  exact enters_push path entry.1

@[simp]
theorem within_idField : Within path (idField fields name path).2 := by
  unfold idField
  split <;> simp

@[simp]
theorem within_toleranceOf : Within path (toleranceOf fields path).2 := by
  unfold toleranceOf
  repeat' split
  all_goals simp

@[simp]
theorem within_metricOf : Within path (metricOf fields path).2 := by
  unfold metricOf
  repeat' split
  all_goals simp

@[simp]
theorem within_countOf : Within path (countOf fields path).2 := by
  unfold countOf
  repeat' split
  all_goals simp

theorem within_formOf : Within path (formOf fields path).2 := by
  unfold formOf
  repeat' split
  all_goals simp

theorem within_constOf : Within path (constOf fields path).2 := by
  unfold constOf
  split <;> simp

end

theorem within_decodeList {items : List Document}
    (within : ∀ item ∈ items, ∀ path, Within path (decodeAt item path).2) (place : String)
    (i : Nat) : Within place (decodeList items place i).2 := by
  induction items generalizing i with
  | nil => simp [decodeList]
  | cons item rest ih =>
      obtain ⟨item_within, rest_within⟩ := List.forall_mem_cons.mp within
      rw [decodeList]
      exact within_append.mpr ⟨(item_within _).mono (enters_push _ _), ih rest_within _⟩

theorem within_groupAt {fields : List (String × Document)}
    (within : ∀ items, Document.field? fields "children" = some (.list items) →
      ∀ item ∈ items, ∀ path, Within path (decodeAt item path).2) (form : Form) (path : String) :
    Within path (groupAt form fields path).2 := by
  unfold groupAt
  split
  · simp
  · rename_i items field
    refine within_append.mpr ⟨within_unknownFields _ _ _, ?_⟩
    split
    · unfold emptyGroup
      split <;> simp
    · exact (within_decodeList (within items field) _ _).mono (enters_push path "children")
  · simp

theorem within_decodeAt (value : Document) (path : String) :
    Within path (decodeAt value path).2 := by
  induction value using inductionOnDecoding generalizing path with
  | record fields child_within items_within =>
      cases named : (formOf fields path).1 with
      | none =>
          rw [decodeAt_of_no_form named]
          exact within_formOf fields path
      | some form =>
          rw [decodeAt_of_form named]
          cases form with
          | const => exact within_constOf fields path
          | pointShows | skillShows | barChanged => simp [formAt, colorAtom]
          | metricAtLeast => simp [formAt, metricAtom]
          | not =>
              simp only [formAt, negationAt]
              split
              · simp
              · rename_i child field
                rw [within_append]
                constructor
                · exact within_unknownFields _ _ _
                · exact (child_within child field _).mono (enters_push path "child")
          | all | any => exact within_groupAt items_within _ path
  | other value no_record =>
      cases value with
      | record fields => exact absurd rfl (no_record fields)
      | _ => simp [decodeAt]

/-! ## Checking -/

@[simp]
theorem within_blankId (id name path : String) : Within path (blankId id name path) := by
  unfold blankId
  split <;> simp

theorem within_ownFindings (catalogue : Catalogue) (c : Condition) (path : String) :
    Within path (ownFindings catalogue c path) := by
  cases c with
  | all | any =>
      simp only [ownFindings]
      split <;> simp
  | not | const => exact within_nil path
  | pointShows point | barChanged point =>
      simp only [ownFindings, checkPoint]
      repeat' split
      all_goals simp
  | skillShows skill =>
      simp only [ownFindings, checkIndicator]
      repeat' split
      all_goals simp [unknownSkill]
  | metricAtLeast skill metric count =>
      simp only [ownFindings, checkMetric, within_append]
      constructor
      · repeat' split
        all_goals simp [unknownSkill]
      · split <;> simp

theorem within_check (catalogue : Catalogue) (c : Condition) (path : String) :
    Within path (c.check catalogue path) := by
  rw [check_eq_findings]
  intro d mem
  obtain ⟨⟨steps, node⟩, _, said⟩ := List.mem_flatMap.mp mem
  exact (enters_walk path steps).trans (within_ownFindings catalogue node _ d said)

end Condition

/-- Whatever is found about a condition in a draft points to it or below it. -/
theorem Draft.within_condition (catalogue : Catalogue) (value : Document) (path : String) :
    Condition.Within path (condition catalogue value path).diagnostics := by
  simp only [condition]
  split
  · exact Condition.within_decodeAt value path
  · rw [Condition.within_append]
    constructor
    · exact Condition.within_decodeAt value path
    · exact Condition.within_check catalogue _ path

end Rotation
