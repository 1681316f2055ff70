import Rotation.Files.Path
import Rotation.Proofs.Text.Spelling

/-!
# Names

A name stands for something in a folder: it is no empty text, contains no slash and is none of
the dots that lead elsewhere.  A name has an extension if there is a dot in it after the
first character, and then the extension is what stands after the last dot.  A path text that
leads to names below a root has the parts of the root and these names.
-/

namespace Rotation.Path

/-- Whether a text can be the name of something in a folder. -/
@[mk_iff]
structure IsName (name : String) : Prop where
  ne_empty : name ≠ ""
  ne_here : name ≠ "."
  ne_up : name ≠ ".."
  slash_notMem : '/' ∉ name.toList

instance : DecidablePred IsName := fun name => decidable_of_iff _ (isName_iff name).symm

theorem IsName.toList_ne_up {name : String} (named : IsName name) :
    name.toList ≠ ['.', '.'] :=
  fun same => named.ne_up (String.toList_inj.mp same)

theorem IsName.part?_eq {name : String} (named : IsName name) :
    part? name.toList = some (.name name.toList) := by
  have ne_empty : name.toList ≠ [] := by simpa using named.ne_empty
  have ne_here : name.toList ≠ ['.'] := fun same => named.ne_here (String.toList_inj.mp same)
  rw [part?, if_neg (not_or.mpr ⟨ne_empty, ne_here⟩), if_neg named.toList_ne_up]

/-! ## Parts -/

variable {names : List String} {cs : List Char}

theorem filterMap_part?_names (named : ∀ name ∈ names, IsName name) :
    (names.map String.toList).filterMap part? = names.map fun name => .name name.toList := by
  rw [List.filterMap_map, ← List.filterMap_eq_map]
  exact List.filterMap_congr fun name mem => (named name mem).part?_eq

/-- A text that is cut into names has these names as its parts. -/
theorem parts_of_pieces (cut : Text.pieces '/' cs = names.map String.toList)
    (named : ∀ name ∈ names, IsName name) :
    parts cs = names.map fun name => .name name.toList := by
  have first_part {first : List Char} {rest : List (List Char)}
      (starts : Text.pieces '/' cs = first :: rest) : part? first = some (.name first) := by
    obtain ⟨name, others, rfl, rfl, -⟩ := List.map_eq_cons_iff.mp (cut.symm.trans starts)
    exact (named name List.mem_cons_self).part?_eq
  unfold parts
  split
  · cases first_part (if_pos rfl)
  · split
    · rename_i here
      unfold beginsHere at here
      split at here
      · cases first_part rfl
      · cases first_part rfl
      · cases here
    · rw [cut, filterMap_part?_names named]

/-- Whether a text begins with the current place is decided up to its first slash. -/
theorem beginsHere_append_slash (some_text : cs ≠ []) (ds : List Char) :
    beginsHere (cs ++ '/' :: ds) = beginsHere cs := by
  match cs, some_text with
  | [c], _ => by_cases dot : c = '.' <;> simp [beginsHere, dot]
  | c :: d :: rest, _ =>
      by_cases dot : c = '.' <;> by_cases slash : d = '/' <;> simp [beginsHere, dot, slash]

theorem parts_cons {c : Char} (not_rooted : c ≠ '/') (rest : List Char) :
    parts (c :: rest) =
      if beginsHere (c :: rest) then .here :: (Text.pieces '/' rest).filterMap part?
      else (Text.pieces '/' (c :: rest)).filterMap part? := by
  unfold parts
  split
  · rename_i starts
    exact absurd (List.cons.inj starts).1 not_rooted
  · rfl

/-- What follows a slash adds parts of its own. -/
theorem parts_append_slash (some_text : cs ≠ []) (ds : List Char) :
    parts (cs ++ '/' :: ds) = parts cs ++ (Text.pieces '/' ds).filterMap part? := by
  obtain ⟨c, rest, rfl⟩ := List.exists_cons_of_ne_nil some_text
  have same_start := beginsHere_append_slash some_text ds
  have cut := @Text.pieces_append_separator '/' (c :: rest) ds
  rw [List.cons_append] at same_start cut ⊢
  by_cases rooted : c = '/'
  · subst rooted
    simp only [parts, Text.pieces_append_separator, List.filterMap_append, List.cons_append]
  · rw [parts_cons rooted, parts_cons rooted, same_start, cut]
    split
    · rw [Text.pieces_append_separator, List.filterMap_append, List.cons_append]
    · rw [List.filterMap_append]

theorem pieces_intercalate_names (some_name : names ≠ [])
    (named : ∀ name ∈ names, IsName name) :
    Text.pieces '/' ("/".intercalate names).toList = names.map String.toList := by
  rw [String.toList_intercalate]
  apply Text.pieces_intercalate
  · simpa using some_name
  · intro text mem
    obtain ⟨name, name_mem, rfl⟩ := List.mem_map.mp mem
    exact (named name name_mem).slash_notMem

/-- The path of something inside a folder has the parts of the folder, followed by the names
that lead there. -/
theorem parts_join (root : String) (some_name : names ≠ [])
    (named : ∀ name ∈ names, IsName name) :
    parts (join root names).toList =
      parts root.toList ++ names.map fun name => .name name.toList := by
  have cut := pieces_intercalate_names some_name named
  have counted := filterMap_part?_names named
  generalize tail_eq : "/".intercalate names = tail at cut
  by_cases empty : root = ""
  · subst empty
    rw [join, tail_eq]
    exact parts_of_pieces cut named
  · have some_text : root.toList ≠ [] := by simpa using empty
    by_cases ends : root.endsWith "/" = true
    · obtain ⟨front, root_eq⟩ : ['/'] <:+ root.toList := by
        have slash_last := String.Slice.endsWith_string_iff.mp ends
        rw [String.copy_toSlice] at slash_last
        exact slash_last
      have join_eq : (join root names).toList = front ++ '/' :: tail.toList := by
        rw [join, if_pos (by simp [ends]), String.toList_append, ← root_eq, tail_eq]
        simp
      rw [join_eq, ← root_eq]
      by_cases rooted : front = []
      · subst rooted
        rw [List.nil_append, List.nil_append, parts, cut, counted]
        rfl
      · rw [parts_append_slash rooted, parts_append_slash rooted, cut, counted]
        simp [Text.pieces, part?]
    · have join_eq : (join root names).toList = root.toList ++ '/' :: tail.toList := by
        rw [join, if_neg (by simp [ends, empty]), tail_eq]
        simp
      rw [join_eq, parts_append_slash some_text, cut, counted]

/-! ## Extensions -/

/-- A name has an extension if something stands before the last dot and the extension. -/
def HasExtension (name ext : String) : Prop :=
  '.' ∉ ext.toList ∧ ∃ stem, stem ≠ "" ∧ name = stem ++ "." ++ ext

theorem splitName_of_notMem (absent : '.' ∉ cs) : splitName cs = (cs, none) := by
  have all_after : cs.reverse.takeWhile (· != '.') = cs.reverse :=
    List.takeWhile_eq_self_iff.mpr fun c mem => bne_iff_ne.mpr fun same =>
      absent (same ▸ List.mem_reverse.mp mem)
  simp [splitName, all_after]

/-- A name with a dot is split at the last one, unless nothing stands before it. -/
theorem splitName_stem_dot {ext : List Char} (plain : '.' ∉ ext) (stem : List Char) :
    splitName (stem ++ '.' :: ext) =
      if stem ++ '.' :: ext = ['.', '.'] ∨ stem = [] then (stem ++ '.' :: ext, none)
      else (stem, some ext) := by
  have reverse_eq : (stem ++ '.' :: ext).reverse = ext.reverse ++ '.' :: stem.reverse := by simp
  have after_eq : (stem ++ '.' :: ext).reverse.takeWhile (· != '.') = ext.reverse := by
    rw [reverse_eq, List.takeWhile_append_of_pos, List.takeWhile_cons_of_neg (by decide),
      List.append_nil]
    intro c mem
    exact bne_iff_ne.mpr fun same => plain (same ▸ List.mem_reverse.mp mem)
  have before_eq : ((stem ++ '.' :: ext).reverse.drop ext.reverse.length).drop 1 =
      stem.reverse := by
    rw [reverse_eq, List.drop_left]
    rfl
  unfold splitName
  simp only [after_eq, before_eq, List.reverse_eq_nil_iff, List.reverse_reverse]

theorem exists_last_dot (mem : '.' ∈ cs) : ∃ stem ext, '.' ∉ ext ∧ cs = stem ++ '.' :: ext := by
  obtain ⟨after, before, reverse_eq, plain⟩ :=
    List.eq_append_cons_of_mem (List.mem_reverse.mpr mem)
  refine ⟨before.reverse, after.reverse, mt List.mem_reverse.mp plain, ?_⟩
  rw [← List.reverse_reverse cs, reverse_eq]
  simp

theorem splitName_snd_eq_some_iff (not_up : cs ≠ ['.', '.']) {ext : List Char} :
    (splitName cs).2 = some ext ↔ '.' ∉ ext ∧ ∃ stem, stem ≠ [] ∧ cs = stem ++ '.' :: ext := by
  constructor
  · intro split_eq
    by_cases dot : '.' ∈ cs
    · obtain ⟨stem, own, plain, rfl⟩ := exists_last_dot dot
      rw [splitName_stem_dot plain] at split_eq
      split at split_eq
      · cases split_eq
      · rename_i some_stem
        cases split_eq
        exact ⟨plain, stem, (not_or.mp some_stem).2, rfl⟩
    · rw [splitName_of_notMem dot] at split_eq
      cases split_eq
  · rintro ⟨plain, stem, some_stem, rfl⟩
    rw [splitName_stem_dot plain, if_neg (not_or.mpr ⟨not_up, some_stem⟩)]

theorem IsName.extension?_eq {name : String} (named : IsName name) :
    extension? name.toList = (splitName name.toList).2 := by
  have cut : Text.pieces '/' name.toList = [name].map String.toList :=
    Text.pieces_of_notMem named.slash_notMem
  have parts_eq := parts_of_pieces cut (by simpa using named)
  simp [extension?, splitLast?, parts_eq]

/-- The extension of a name is the one it ends in. -/
theorem IsName.extension?_eq_some_iff {name : String} (named : IsName name) (ext : String) :
    extension? name.toList = some ext.toList ↔ HasExtension name ext := by
  rw [named.extension?_eq, splitName_snd_eq_some_iff named.toList_ne_up, HasExtension]
  constructor
  · rintro ⟨plain, stem, some_stem, name_eq⟩
    refine ⟨plain, String.ofList stem, ?_, ?_⟩
    · simpa using some_stem
    · apply String.toList_inj.mp
      simp [name_eq]
  · rintro ⟨plain, stem, some_stem, rfl⟩
    refine ⟨plain, stem.toList, ?_, ?_⟩
    · simpa using some_stem
    · simp

end Rotation.Path
