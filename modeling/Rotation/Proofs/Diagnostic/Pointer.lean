import Mathlib.Data.List.Infix
import Rotation.Diagnostic.Basic
import Rotation.Document.Basic
import Rotation.Proofs.Text.Spelling

/-!
# Reading pointers

A pointer is read by cutting it at its slashes and taking the escapes of each
piece back.  A segment is written by two replacements, one after the other: first
every tilde, then every slash.  Reading takes them back in the reverse order and
gives the segments that were written, whatever characters are in them.  So no two
lists of segments are written alike, and a pointer leads on to another one exactly
if its segments are the first ones of the other: the slash that follows it cannot
belong to a segment.  In a document, a segment leads into the field of that name,
or to the item of a list whose position it writes.
-/

namespace Rotation

/-- One step down a document. -/
inductive Step where
  | field (name : String)
  | item (position : Nat)
  deriving DecidableEq, Repr

/-- The segment that a step is written as. -/
def Step.segment : Step → String
  | .field name => name
  | .item position => toString position

namespace Pointer

/-! ## Writing -/

/-- The pointer some segments further down. -/
def pushAll (base : String) (segments : List String) : String :=
  segments.foldl push base

/-- The pointer some steps further down. -/
def walk (base : String) (steps : List Step) : String :=
  pushAll base (steps.map Step.segment)

@[simp]
theorem walk_nil (base : String) : walk base [] = base :=
  rfl

@[simp]
theorem walk_cons (base : String) (step : Step) (steps : List Step) :
    walk base (step :: steps) = walk (push base step.segment) steps :=
  rfl

theorem walk_append (base : String) (first second : List Step) :
    walk base (first ++ second) = walk (walk base first) second := by
  simp [walk, pushAll]

theorem push_append (base path segment : String) :
    push (base ++ path) segment = base ++ push path segment := by
  simp only [push, String.append_assoc]

theorem pushIndex_append (base path : String) (i : Nat) :
    pushIndex (base ++ path) i = base ++ pushIndex path i :=
  push_append base path (toString i)

theorem walk_base_append (base path : String) (steps : List Step) :
    walk (base ++ path) steps = base ++ walk path steps := by
  induction steps generalizing path with
  | nil => rfl
  | cons step rest ih => rw [walk_cons, walk_cons, push_append, ih]

theorem walk_eq_append (base : String) (steps : List Step) :
    walk base steps = base ++ walk "" steps := by
  rw [← walk_base_append base "" steps, String.append_empty]

/-! ## Escapes -/

/-- Put characters in place of each occurrence of one. -/
def replace (plain : Char) (written : List Char) (cs : List Char) : List Char :=
  cs.flatMap fun c => if c = plain then written else [c]

theorem replace_cons_self (plain : Char) (written rest : List Char) :
    replace plain written (plain :: rest) = written ++ replace plain written rest := by
  rw [replace, List.flatMap_cons, if_pos rfl, replace]

theorem replace_cons_of_ne {plain c : Char} (differs : c ≠ plain) (written rest : List Char) :
    replace plain written (c :: rest) = c :: replace plain written rest := by
  rw [replace, List.flatMap_cons, if_neg differs, replace, List.singleton_append]

/-- A segment is written by replacing the tildes and, in what that gives, the slashes. -/
theorem escape_eq_replace (segment : String) :
    (escape segment).toList =
      replace '/' ['~', '1'] (replace '~' ['~', '0'] segment.toList) := by
  rw [escape, String.toList_ofList, replace, replace, List.flatMap_assoc]
  apply congrArg (segment.toList.flatMap ·)
  funext c
  by_cases tilde : c = '~'
  · subst tilde
    rfl
  · by_cases slash : c = '/'
    · subst slash
      rfl
    · simp [escapeChar, tilde, slash]

/-- Put a character in place of each tilde that a certain digit follows. -/
def restore (digit plain : Char) : List Char → List Char
  | [] => []
  | [c] => [c]
  | c :: d :: rest =>
    if c = '~' ∧ d = digit then plain :: restore digit plain rest
    else c :: restore digit plain (d :: rest)

theorem restore_cons {digit plain c : Char} (no_tilde : c ≠ '~') (rest : List Char) :
    restore digit plain (c :: rest) = c :: restore digit plain rest := by
  cases rest <;> simp [restore, no_tilde]

theorem restore_tilde (digit plain : Char) (rest : List Char) :
    restore digit plain ('~' :: digit :: rest) = plain :: restore digit plain rest := by
  simp [restore]

theorem restore_tilde_of_ne {digit other : Char} (differs : other ≠ digit)
    (no_tilde : other ≠ '~') (plain : Char) (rest : List Char) :
    restore digit plain ('~' :: other :: rest) = '~' :: other :: restore digit plain rest := by
  rw [restore, if_neg (by simp [differs]), restore_cons no_tilde]

theorem restore_replace_tilde (cs : List Char) :
    restore '0' '~' (replace '~' ['~', '0'] cs) = cs := by
  induction cs with
  | nil => rfl
  | cons c rest ih =>
      by_cases tilde : c = '~'
      · subst tilde
        rw [replace_cons_self, List.cons_append, List.singleton_append, restore_tilde, ih]
      · rw [replace_cons_of_ne tilde, restore_cons tilde, ih]

/-- Where tildes have been replaced, each is followed by its own digit and is not taken for
a slash. -/
theorem restore_replace_slash (cs : List Char) :
    restore '1' '/' (replace '/' ['~', '1'] (replace '~' ['~', '0'] cs)) =
      replace '~' ['~', '0'] cs := by
  induction cs with
  | nil => rfl
  | cons c rest ih =>
      by_cases tilde : c = '~'
      · subst tilde
        rw [replace_cons_self, List.cons_append, List.singleton_append,
          replace_cons_of_ne (by decide), replace_cons_of_ne (by decide),
          restore_tilde_of_ne (by decide) (by decide), ih]
      · rw [replace_cons_of_ne tilde]
        by_cases slash : c = '/'
        · subst slash
          rw [replace_cons_self, List.cons_append, List.singleton_append, restore_tilde, ih]
        · rw [replace_cons_of_ne slash, restore_cons tilde, ih]

/-- The segment that is written so: `~1` stands for a slash, and what is then
still written `~0` for a tilde. -/
def unescape (written : List Char) : String :=
  String.ofList (restore '0' '~' (restore '1' '/' written))

theorem unescape_escape (segment : String) : unescape (escape segment).toList = segment := by
  rw [unescape, escape_eq_replace, restore_replace_slash, restore_replace_tilde,
    String.ofList_toList]

theorem slash_notMem_escape (segment : String) : '/' ∉ (escape segment).toList := by
  simp only [escape, String.toList_ofList, List.mem_flatMap, not_exists, not_and]
  intro c _
  unfold escapeChar
  split
  · simp
  · simp
  · rename_i slash
    simpa [eq_comm] using slash

/-! ## Segments -/

/-- The segments of a pointer; one that is not empty begins with a slash. -/
def segments? (pointer : String) : Option (List String) :=
  match Text.pieces '/' pointer.toList with
  | [] :: written => some (written.map unescape)
  | _ => none

theorem pieces_push (base segment : String) :
    Text.pieces '/' (push base segment).toList =
      Text.pieces '/' base.toList ++ [(escape segment).toList] := by
  rw [← Text.pieces_concat (slash_notMem_escape segment)]
  simp [push]

theorem pieces_pushAll (base : String) (segments : List String) :
    Text.pieces '/' (pushAll base segments).toList =
      Text.pieces '/' base.toList ++ segments.map fun s => (escape s).toList := by
  induction segments generalizing base with
  | nil => simp [pushAll]
  | cons segment rest ih =>
      rw [pushAll, List.foldl_cons, ← pushAll, ih, pieces_push]
      simp

/-- The segments of a pointer are those it has been made of. -/
theorem segments?_pushAll (segments : List String) :
    segments? (pushAll "" segments) = some segments := by
  rw [segments?, pieces_pushAll]
  simp [Text.pieces, Function.comp_def, unescape_escape]

/-! ## Leading on -/

theorem escape_injective : Function.Injective fun segment => (escape segment).toList :=
  Function.LeftInverse.injective unescape_escape

/-- A pointer leads on to another one if the other one is the same or goes on after it
with a slash. -/
def LeadsOn (pointer other : String) : Prop :=
  other = pointer ∨ ∃ rest, other = pointer ++ "/" ++ rest

theorem leadsOn_iff_pieces {pointer other : String} :
    LeadsOn pointer other ↔
      Text.pieces '/' pointer.toList <+: Text.pieces '/' other.toList := by
  rw [Text.pieces_prefix_iff, LeadsOn, String.ext_iff]
  apply or_congr_right
  constructor
  · rintro ⟨rest, rfl⟩
    exists rest.toList
    simp
  · rintro ⟨rest, other_eq⟩
    exists String.ofList rest
    rw [String.ext_iff, other_eq]
    simp

/-- A pointer leads on to another one exactly if its segments are the first of the
other. -/
theorem leadsOn_pushAll_iff {segments others : List String} :
    LeadsOn (pushAll "" segments) (pushAll "" others) ↔ segments <+: others := by
  rw [leadsOn_iff_pieces, pieces_pushAll, pieces_pushAll, List.prefix_append_right_inj,
    List.prefix_map_iff_of_injective escape_injective]

theorem pushAll_inj {segments others : List String} :
    pushAll "" segments = pushAll "" others ↔ segments = others := by
  constructor
  · intro same
    have segments_eq := segments?_pushAll segments
    rw [same, segments?_pushAll] at segments_eq
    exact (Option.some.inj segments_eq).symm
  · exact congrArg (pushAll "")

/-- What is written for steps down a document is read as the names and positions of these
steps, no others are written alike, and it leads on to what is written for others exactly
if these begin with the same ones. -/
theorem walk_unambiguous (steps others : List Step) :
    segments? (walk "" steps) = some (steps.map Step.segment) ∧
      (walk "" steps = walk "" others ↔
        steps.map Step.segment = others.map Step.segment) ∧
      (LeadsOn (walk "" steps) (walk "" others) ↔
        steps.map Step.segment <+: others.map Step.segment) := by
  refine ⟨?_, ?_, ?_⟩
  · exact segments?_pushAll _
  · exact pushAll_inj
  · exact leadsOn_pushAll_iff

/-- A segment that looks like the written form of another one is told apart from it. -/
example : walk "" [.field "/"] = "/~1" ∧ walk "" [.field "~1"] = "/~01" ∧
    segments? "/~01" = some ["~1"] := by
  decide +kernel

end Pointer

namespace Document

/-! ## Places in documents -/

/-- What a step leads to. -/
def step? : Document → Step → Option Document
  | .record fields, .field name => field? fields name
  | .list items, .item position => items[position]?
  | _, _ => none

/-- What steps lead to, one after the other. -/
def follow? (d : Document) (steps : List Step) : Option Document :=
  steps.foldlM step? d

/-- What a segment leads to: the field of that name, or the item whose position
it writes. -/
def child? (segment : String) : Document → Option Document
  | .record fields => field? fields segment
  | .list items => (items.zipIdx.find? fun entry => toString entry.2 == segment).map Prod.fst
  | _ => none

/-- What a pointer leads to. -/
def resolve? (d : Document) (pointer : String) : Option Document :=
  (Pointer.segments? pointer).bind fun segments =>
    segments.foldlM (fun inner segment => inner.child? segment) d

theorem child?_of_step? {d inner : Document} {step : Step} (there : d.step? step = some inner) :
    d.child? step.segment = some inner := by
  unfold step? at there
  split at there
  · exact there
  · rename_i items position
    rw [child?, Option.map_eq_some_iff]
    refine ⟨(inner, position), ?_, rfl⟩
    obtain ⟨inside, item_eq⟩ := List.getElem?_eq_some_iff.mp there
    rw [List.find?_eq_some_iff_getElem]
    refine ⟨by simp [Step.segment], position, by simpa using inside, by simp [item_eq], ?_⟩
    intro j earlier
    have other : toString j ≠ toString position := fun same =>
      Nat.ne_of_lt earlier (Text.toString_injective same)
    simpa [Step.segment] using other
  · contradiction

/-- A pointer leads to where the steps do that it has been made of. -/
theorem resolve?_walk {d inner : Document} {steps : List Step}
    (there : d.follow? steps = some inner) :
    d.resolve? (Pointer.walk "" steps) = some inner := by
  rw [resolve?, Pointer.walk, Pointer.segments?_pushAll, Option.bind_some]
  induction steps generalizing d with
  | nil => exact there
  | cons step rest ih =>
      obtain ⟨next, next_there, rest_there⟩ := Option.bind_eq_some_iff.mp there
      rw [List.map_cons, List.foldlM_cons, child?_of_step? next_there]
      exact ih rest_there

end Document

end Rotation
