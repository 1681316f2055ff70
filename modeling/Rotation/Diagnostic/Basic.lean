/-!
# Diagnostics

What a pass over a document found.  A pass never stops at the first problem:
it returns all findings in the order in which it met them.

The location of a value inside a document is written as a pointer: each
segment follows a slash, with `~` written `~0` and `/` written `~1`, so that a
segment never holds a bare slash.
-/

namespace Rotation

/-- How grave a finding is. -/
inductive Severity where
  | info
  | warning
  | error
  deriving DecidableEq, Repr, Ord

/-- The word for a severity. -/
def Severity.name : Severity → String
  | .info => "info"
  | .warning => "warning"
  | .error => "error"

/-- One finding: what, where and why. -/
structure Diagnostic where
  severity : Severity
  code : String
  path : String
  message : String
  deriving DecidableEq, Repr

/-- The finding on one line; the root of a document is written as a slash. -/
def Diagnostic.line (d : Diagnostic) : String :=
  let path := if d.path.isEmpty then "/" else d.path
  d.severity.name ++ " [" ++ d.code ++ "] " ++ path ++ ": " ++ d.message

/-- Findings in the order in which they were made. -/
abbrev Diagnostics := List Diagnostic

namespace Diagnostics

/-- A collection of one error. -/
def error (code path message : String) : Diagnostics :=
  [⟨.error, code, path, message⟩]

/-- A collection of one warning. -/
def warning (code path message : String) : Diagnostics :=
  [⟨.warning, code, path, message⟩]

/-- A collection of one remark. -/
def info (code path message : String) : Diagnostics :=
  [⟨.info, code, path, message⟩]

/-- The errors among the findings. -/
def errors (ds : Diagnostics) : Diagnostics :=
  ds.filter fun d => d.severity == .error

/-- Whether a finding is an error. -/
def hasErrors (ds : Diagnostics) : Bool :=
  ds.any fun d => d.severity == .error

@[simp]
theorem hasErrors_nil : hasErrors [] = false :=
  rfl

@[simp]
theorem hasErrors_error (code path message : String) : (error code path message).hasErrors = true :=
  rfl

@[simp]
theorem hasErrors_warning (code path message : String) :
    (warning code path message).hasErrors = false :=
  rfl

@[simp]
theorem hasErrors_info (code path message : String) : (info code path message).hasErrors = false :=
  rfl

@[simp]
theorem hasErrors_append (first second : Diagnostics) :
    hasErrors (first ++ second) = (first.hasErrors || second.hasErrors) :=
  List.any_append

theorem hasErrors_flatMap {α : Type} (l : List α) (f : α → Diagnostics) :
    hasErrors (l.flatMap f) = l.any fun a => (f a).hasErrors :=
  List.any_flatMap

/-- The findings with one code. -/
def withCode (ds : Diagnostics) (code : String) : Diagnostics :=
  ds.filter fun d => d.code == code

/-- The gravest severity among the findings. -/
def gravest (ds : Diagnostics) : Option Severity :=
  if ds.hasErrors then some .error
  else if ds.any (fun d => d.severity == .warning) then some .warning
  else if ds.isEmpty then none
  else some .info

end Diagnostics

end Rotation

/-! ## Pointers -/

namespace Rotation.Pointer

/-- One character of a segment in its written form. -/
def escapeChar : Char → List Char
  | '~' => ['~', '0']
  | '/' => ['~', '1']
  | c => [c]

/-- The written form of a segment. -/
def escape (segment : String) : String :=
  String.ofList (segment.toList.flatMap escapeChar)

/-- The pointer one segment further down. -/
def push (base segment : String) : String :=
  base ++ "/" ++ escape segment

/-- The pointer to an item of a list. -/
def pushIndex (base : String) (i : Nat) : String :=
  push base (toString i)

end Rotation.Pointer
