import Rotation.Condition.Basic
import Rotation.Diagnostic.Basic
import Rotation.Document.Basic

/-!
# Conditions in documents

The written form of a condition is a record whose `type` names the form,
upper and lower case alike in ASCII.  Decoding reports every problem in one
pass.  A group keeps those of its children that decode, and the error of each
child that does not is among the findings, so a tree that decodes without an
error is complete.
-/

namespace Rotation.Condition

/-! ## Writing -/

/-- A tolerance as a field, if there is one. -/
def toleranceField : Option UInt8 → List (String × Document)
  | none => []
  | some t => [("tolerance", .integer t.toNat)]

mutual

/-- The written form of a condition. -/
def encode : Condition → Document
  | .all children => .record [("children", .list (encodeAll children)), ("type", .text "and")]
  | .any children => .record [("children", .list (encodeAll children)), ("type", .text "or")]
  | .not child => .record [("child", encode child), ("type", .text "not")]
  | .const value => .record [("type", .text "const"), ("value", .bool value)]
  | .pointShows point tolerance =>
    .record (("point_id", .text point) :: toleranceField tolerance ++
      [("type", .text "pixel_point")])
  | .skillShows skill tolerance =>
    .record (("skill_id", .text skill) :: toleranceField tolerance ++
      [("type", .text "pixel_skill")])
  | .barChanged point tolerance =>
    .record (("point_id", .text point) :: toleranceField tolerance ++
      [("type", .text "cast_bar_changed")])
  | .metricAtLeast skill metric count =>
    .record [("count", .integer count.toNat), ("metric", .text metric.name),
      ("skill_id", .text skill), ("type", .text "skill_metric_ge")]

/-- The written forms of a list of conditions. -/
def encodeAll : List Condition → List Document
  | [] => []
  | child :: rest => encode child :: encodeAll rest

end

/-! ## Reading -/

/-- What a decoding step yields: a value, if there is one, and the findings. -/
abbrev Decoded (α : Type) := Option α × Diagnostics

/-- An ASCII letter in lower case. -/
def lowerAscii (s : String) : String :=
  String.ofList (s.toList.map Char.toLower)

/-- Remarks on the fields that a form does not have. -/
def unknownFields (fields : List (String × Document)) (known : List String) (path : String) :
    Diagnostics :=
  (fields.filter fun entry => entry.1 != "type" && !known.contains entry.1).flatMap fun entry =>
    Diagnostics.info "expr.unknown_field" (Pointer.push path entry.1)
      ("ignoring unknown field `" ++ entry.1 ++ "`")

/-- An identifier; a blank one is left for the check against the catalogue. -/
def idField (fields : List (String × Document)) (name path : String) : Decoded String :=
  match Document.field? fields name with
  | some (.text id) => (some id, [])
  | some other =>
    (none, Diagnostics.error "expr.invalid_field" (Pointer.push path name)
      ("`" ++ name ++ "` must be a string, found " ++ other.kind))
  | none => (none, Diagnostics.error "expr.missing_field" path ("missing `" ++ name ++ "`"))

/-- Whether an integer is a signed 64-bit word. -/
def fitsWord (n : Int) : Bool :=
  Int64.minValue.toInt ≤ n && n ≤ Int64.maxValue.toInt

/-- A tolerance; an absent one or null leaves it to the catalogue. -/
def toleranceOf (fields : List (String × Document)) (path : String) : Decoded (Option UInt8) :=
  let place := Pointer.push path "tolerance"
  match Document.field? fields "tolerance" with
  | none | some .null => (some none, [])
  | some other =>
    match other with
    | .integer n =>
      if 0 ≤ n ∧ n ≤ 255 then (some (some (UInt8.ofNat n.toNat)), [])
      else if fitsWord n then
        (none, Diagnostics.error "expr.tolerance_range" place
          ("tolerance " ++ toString n ++ " outside [0, 255]"))
      else
        (none, Diagnostics.error "expr.invalid_field" place
          ("tolerance must be an integer, found " ++ other.kind))
    | _ =>
      (none, Diagnostics.error "expr.invalid_field" place
        ("tolerance must be an integer, found " ++ other.kind))

/-- A metric by its exact name. -/
def metricOf (fields : List (String × Document)) (path : String) : Decoded Metric :=
  let place := Pointer.push path "metric"
  match Document.field? fields "metric" with
  | some (.text name) =>
    match Metric.ofName? name with
    | some metric => (some metric, [])
    | none =>
      (none, Diagnostics.error "expr.unknown_metric" place
        ("unknown metric `" ++ name ++ "` (expected one of " ++
          ", ".intercalate (Metric.all.map Metric.name) ++ ")"))
  | some other =>
    (none, Diagnostics.error "expr.invalid_field" place
      ("`metric` must be a string, found " ++ other.kind))
  | none => (none, Diagnostics.error "expr.missing_field" path "missing `metric`")

/-- A threshold. -/
def countOf (fields : List (String × Document)) (path : String) : Decoded UInt32 :=
  let place := Pointer.push path "count"
  match Document.field? fields "count" with
  | none => (none, Diagnostics.error "expr.missing_field" path "missing `count`")
  | some other =>
    match other with
    | .integer n =>
      if 0 ≤ n ∧ n < UInt32.size then (some (UInt32.ofNat n.toNat), [])
      else if fitsWord n then
        (none, Diagnostics.error "expr.count_range" place
          ("count " ++ toString n ++ " out of range"))
      else
        (none, Diagnostics.error "expr.invalid_field" place
          ("`count` must be an integer, found " ++ other.kind))
    | _ =>
      (none, Diagnostics.error "expr.invalid_field" place
        ("`count` must be an integer, found " ++ other.kind))

/-- An atom over an identifier with a tolerance. -/
def colorAtom (make : String → Option UInt8 → Condition) (name : String)
    (fields : List (String × Document)) (path : String) : Decoded Condition :=
  let remarks := unknownFields fields [name, "tolerance"] path
  let id := idField fields name path
  let tolerance := toleranceOf fields path
  (do return make (← id.1) (← tolerance.1), remarks ++ id.2 ++ tolerance.2)

/-- A threshold atom. -/
def metricAtom (fields : List (String × Document)) (path : String) : Decoded Condition :=
  let remarks := unknownFields fields ["skill_id", "metric", "count"] path
  let id := idField fields "skill_id" path
  let metric := metricOf fields path
  let count := countOf fields path
  (do return .metricAtLeast (← id.1) (← metric.1) (← count.1),
    remarks ++ id.2 ++ metric.2 ++ count.2)

/-- A constant. -/
def constOf (fields : List (String × Document)) (path : String) : Decoded Condition :=
  let remarks := unknownFields fields ["value"] path
  match Document.field? fields "value" with
  | some (.bool value) => (some (.const value), remarks)
  | some other =>
    (none, remarks ++ Diagnostics.error "expr.invalid_field" (Pointer.push path "value")
      ("`value` must be a boolean, found " ++ other.kind))
  | none =>
    (none, remarks ++ Diagnostics.error "expr.missing_field" path "`const` requires `value`")

/-- The forms of the written condition. -/
inductive Form where
  | all
  | any
  | not
  | const
  | pointShows
  | skillShows
  | barChanged
  | metricAtLeast
  deriving DecidableEq, Repr

/-- The form with the given lower-case name. -/
def Form.ofName? : String → Option Form
  | "and" => some .all
  | "or" => some .any
  | "not" => some .not
  | "const" => some .const
  | "pixel_point" => some .pointShows
  | "pixel_skill" => some .skillShows
  | "cast_bar_changed" => some .barChanged
  | "skill_metric_ge" => some .metricAtLeast
  | _ => none

/-- The form that a record names, or why it names none. -/
def formOf (fields : List (String × Document)) (path : String) : Decoded Form :=
  match Document.field? fields "type" with
  | some (.text name) =>
    match Form.ofName? (lowerAscii name) with
    | some form => (some form, [])
    | none =>
      (none, Diagnostics.error "expr.unknown_type" (Pointer.push path "type")
        ("unknown expression type `" ++ lowerAscii name ++ "`"))
  | some other =>
    (none, Diagnostics.error "expr.missing_type" (Pointer.push path "type")
      ("`type` must be a string, found " ++ other.kind))
  | none => (none, Diagnostics.error "expr.missing_type" path "missing `type`")

/-- What a group without children means. -/
def emptyGroup (form : Form) (path : String) : Diagnostics :=
  match form with
  | .any => Diagnostics.warning "expr.empty_group" path "empty `or` is always false"
  | _ => Diagnostics.warning "expr.empty_group" path "empty `and` is always true"

/-- A group of the given form. -/
def group (form : Form) (children : List Condition) : Condition :=
  match form with
  | .any => .any children
  | _ => .all children

theorem sizeOf_lt_of_field {fields : List (String × Document)} {name : String} {d : Document}
    (h : Document.field? fields name = some d) : sizeOf d < sizeOf (Document.record fields) := by
  unfold Document.field? at h
  obtain ⟨entry, found, rfl⟩ := Option.map_eq_some_iff.mp h
  have member := List.mem_of_find?_eq_some found
  have smaller := List.sizeOf_lt_of_mem member
  obtain ⟨k, v⟩ := entry
  simp only [Prod.mk.sizeOf_spec, Document.record.sizeOf_spec] at *
  omega

mutual

/-- Decode the value at `path`. -/
def decodeAt (value : Document) (path : String) : Decoded Condition :=
  match value with
  | .record fields =>
    match formOf fields path with
    | (none, problems) => (none, problems)
    | (some form, _) =>
      match form with
      | .const => constOf fields path
      | .pointShows => colorAtom .pointShows "point_id" fields path
      | .skillShows => colorAtom .skillShows "skill_id" fields path
      | .barChanged => colorAtom .barChanged "point_id" fields path
      | .metricAtLeast => metricAtom fields path
      | .not =>
        let remarks := unknownFields fields ["child"] path
        match _field : Document.field? fields "child" with
        | none =>
          (none, remarks ++ Diagnostics.error "expr.missing_field" path "`not` requires `child`")
        | some child =>
          let inner := decodeAt child (Pointer.push path "child")
          (inner.1.map .not, remarks ++ inner.2)
      | .all | .any =>
        let remarks := unknownFields fields ["children"] path
        let place := Pointer.push path "children"
        match _field : Document.field? fields "children" with
        | none =>
          (none, remarks ++ Diagnostics.error "expr.missing_field" path "group requires `children`")
        | some (.list []) => (some (group form []), remarks ++ emptyGroup form path)
        | some (.list (first :: rest)) =>
          let inner := decodeList (first :: rest) place 0
          (some (group form inner.1), remarks ++ inner.2)
        | some other =>
          (none, remarks ++ Diagnostics.error "expr.invalid_field" place
            ("`children` must be an array, found " ++ other.kind))
  | other =>
    (none, Diagnostics.error "expr.not_object" path ("expected an object, found " ++ other.kind))
termination_by sizeOf value
decreasing_by
  all_goals simp_wf
  · have := sizeOf_lt_of_field (by assumption)
    simp at this
    omega
  all_goals
    have := sizeOf_lt_of_field (by assumption)
    simp at this
    omega

/-- Decode the items of a list from position `i` on, keeping those that
decode. -/
def decodeList (items : List Document) (place : String) (i : Nat) :
    List Condition × Diagnostics :=
  match items with
  | [] => ([], [])
  | item :: rest =>
    let first := decodeAt item (Pointer.pushIndex place i)
    let others := decodeList rest place (i + 1)
    (first.1.toList ++ others.1, first.2 ++ others.2)
termination_by sizeOf items

end

/-- Decode a document on its own. -/
def decode (value : Document) : Decoded Condition :=
  decodeAt value ""

/-- Whether decoding gave a condition and no error. -/
def isOk (decoded : Decoded Condition) : Bool :=
  decoded.1.isSome && !decoded.2.hasErrors

end Rotation.Condition
