import Mathlib.Data.List.Lex
import Mathlib.Data.List.Nodup
import Mathlib.Data.List.Sort
import Rotation.Library.Load
import Rotation.Proofs.Files.Names
import Rotation.Proofs.Text.Spelling

/-!
# Finding presets

The search for presets is complete and in order.  Whatever order the entries of its folders
have been listed in, a tree yields each of its files that has the extension of a preset and is
not hidden, that lies in no hidden or foreign folder, and nothing else; and each of them once,
in ascending order, where names are compared by their bytes, from the outermost to the
innermost.
-/

namespace Rotation

/-! ## Trees -/

namespace FileTree

/-- There is a file in a tree at names that lead into it. -/
inductive HasFile : FileTree → List String → Prop where
  | here {entries : List (String × FileTree)} {name : String} {bytes : ByteArray}
      (entry : (name, .file bytes) ∈ entries) : HasFile (.folder entries) [name]
  | inside {entries : List (String × FileTree)} {name : String} {inner : FileTree}
      {path : List String} (entry : (name, inner) ∈ entries) (found : HasFile inner path) :
      HasFile (.folder entries) (name :: path)

/-- The entries of all folders in a tree have names, and each has its own. -/
inductive Proper : FileTree → Prop where
  | file (bytes : ByteArray) : Proper (.file bytes)
  | folder {entries : List (String × FileTree)} (distinct : (entries.map Prod.fst).Nodup)
      (named : ∀ entry ∈ entries, Path.IsName entry.1)
      (proper : ∀ entry ∈ entries, Proper entry.2) : Proper (.folder entries)

variable {tree : FileTree} {entries : List (String × FileTree)} {name : String}
  {path : List String}

theorem not_hasFile_nil : ¬tree.HasFile [] := by
  intro found
  cases found

/-- A file in a folder is an entry of it or lies in one of its entries. -/
theorem hasFile_folder_cons_iff :
    HasFile (.folder entries) (name :: path) ↔ ∃ inner, (name, inner) ∈ entries ∧
      (path = [] ∧ (∃ bytes, inner = .file bytes) ∨ inner.HasFile path) := by
  constructor
  · intro found
    cases found with
    | @here _ _ bytes entry => exact ⟨_, entry, .inl ⟨rfl, bytes, rfl⟩⟩
    | inside entry found => exact ⟨_, entry, .inr found⟩
  · rintro ⟨inner, entry, ⟨rfl, bytes, rfl⟩ | found⟩
    · exact .here entry
    · exact .inside entry found

theorem Proper.isName_of_hasFile (proper : tree.Proper) (found : tree.HasFile path) :
    ∀ name ∈ path, Path.IsName name := by
  induction found with
  | here entry =>
      cases proper with
      | folder _ named _ => simpa using named _ entry
  | inside entry _ ih =>
      cases proper with
      | folder _ named inner_proper =>
          exact List.forall_mem_cons.mpr ⟨named _ entry, ih (inner_proper _ entry)⟩

end FileTree

namespace Library

/-! ## Names of presets -/

variable {name folder : String} {folders path : List String} {tree : FileTree}
  {entries : List (String × FileTree)}

/-- What leads to a preset: no folder on the way is hidden or foreign, and the file is not
hidden and has one of the extensions of presets. -/
structure IsPreset (folders : List String) (name : String) : Prop where
  folders_shown : ∀ folder ∈ folders, folder.toList.head? ≠ some '.' ∧ folder ≠ "node_modules"
  shown : name.toList.head? ≠ some '.'
  extension : Path.HasExtension name "json" ∨ Path.HasExtension name "lua"

theorem isPreset_cons_iff : IsPreset (folder :: folders) name ↔
    (folder.toList.head? ≠ some '.' ∧ folder ≠ "node_modules") ∧ IsPreset folders name := by
  constructor
  · rintro ⟨folders_shown, shown, extension⟩
    obtain ⟨first, others⟩ := List.forall_mem_cons.mp folders_shown
    exact ⟨first, others, shown, extension⟩
  · rintro ⟨first, others, shown, extension⟩
    exact ⟨List.forall_mem_cons.mpr ⟨first, others⟩, shown, extension⟩

theorem isHidden_eq_false_iff : isHidden name = false ↔ name.toList.head? ≠ some '.' := by
  have dot : ".".toList = ['.'] := rfl
  rw [isHidden, ← Bool.not_eq_true, String.startsWith_string_iff, dot]
  cases name.toList with
  | nil => simp
  | cons c rest => simp [eq_comm]

/-- The files with a format are those with one of the two extensions. -/
theorem isSome_format?_iff (named : Path.IsName name) :
    (format? name).isSome = true ↔
      Path.HasExtension name "json" ∨ Path.HasExtension name "lua" := by
  rw [← named.extension?_eq_some_iff, ← named.extension?_eq_some_iff, format?]
  cases Path.extension? name.toList with
  | none => simp
  | some ext =>
      simp only [Option.some.injEq]
      by_cases json : ext = "json".toList
      · rw [if_pos json]
        exact iff_of_true rfl (.inl json)
      · by_cases lua : ext = "lua".toList
        · rw [if_neg json, if_pos lua]
          exact iff_of_true rfl (.inr lua)
        · rw [if_neg json, if_neg lua]
          exact iff_of_false Bool.false_ne_true (not_or.mpr ⟨json, lua⟩)

/-! ## Entries -/

/-- The presets that an entry adds to its folder. -/
def presetsOf : String × FileTree → List (List String)
  | (name, .file _) => if !isHidden name && (format? name).isSome then [[name]] else []
  | (name, .folder entries) =>
      if isHidden name || name == foreignFolder then []
      else (presetFiles (.folder entries)).map fun path => name :: path

theorem presetFilesAmong_eq_flatMap (entries : List (String × FileTree)) :
    presetFilesAmong entries = entries.flatMap presetsOf := by
  induction entries with
  | nil => rfl
  | cons entry rest ih =>
      obtain ⟨name, _ | inner⟩ := entry <;>
        rw [presetFilesAmong, List.flatMap_cons, ih, presetsOf] <;> split <;> rfl

theorem mem_presetFiles_folder_iff :
    path ∈ presetFiles (.folder entries) ↔ ∃ entry ∈ entries, path ∈ presetsOf entry := by
  rw [presetFiles, List.mem_mergeSort, presetFilesAmong_eq_flatMap, List.mem_flatMap]

theorem mem_presetsOf_iff {entry : String × FileTree} :
    path ∈ presetsOf entry ↔ ∃ rest, path = entry.1 :: rest ∧ isHidden entry.1 = false ∧
      (rest = [] ∧ (∃ bytes, entry.2 = .file bytes) ∧ (format? entry.1).isSome = true ∨
        entry.1 ≠ foreignFolder ∧ rest ∈ presetFiles entry.2) := by
  obtain ⟨name, bytes | inner⟩ := entry
  · constructor
    · intro mem
      rw [presetsOf] at mem
      split at mem
      · rename_i shown
        obtain rfl := List.mem_singleton.mp mem
        rw [Bool.and_eq_true, Bool.not_eq_true'] at shown
        exact ⟨[], rfl, shown.1, .inl ⟨rfl, ⟨bytes, rfl⟩, shown.2⟩⟩
      · cases mem
    · rintro ⟨rest, rfl, shown, ⟨rfl, -, formatted⟩ | ⟨-, mem⟩⟩
      · simp [presetsOf, shown, formatted]
      · simp [presetFiles] at mem
  · constructor
    · intro mem
      rw [presetsOf] at mem
      split at mem
      · cases mem
      · rename_i entered
        obtain ⟨rest, rest_mem, rfl⟩ := List.mem_map.mp mem
        rw [Bool.or_eq_true, not_or, Bool.not_eq_true, beq_iff_eq] at entered
        exact ⟨rest, rfl, entered.1, .inr ⟨entered.2, rest_mem⟩⟩
    · rintro ⟨rest, rfl, shown, ⟨-, ⟨bytes, is_file⟩, -⟩ | ⟨own, mem⟩⟩
      · cases is_file
      · simp [presetsOf, shown, own, mem]

theorem nil_notMem_presetFiles (tree : FileTree) : [] ∉ presetFiles tree := by
  cases tree with
  | file bytes => simp [presetFiles]
  | folder entries =>
      rw [mem_presetFiles_folder_iff]
      rintro ⟨entry, -, mem⟩
      obtain ⟨rest, nil_eq, -⟩ := mem_presetsOf_iff.mp mem
      cases nil_eq

/-- What is found in a folder is a preset of its own, or a preset that has been found in one
of the folders there. -/
theorem cons_mem_presetFiles_folder_iff :
    name :: path ∈ presetFiles (.folder entries) ↔ ∃ inner, (name, inner) ∈ entries ∧
      isHidden name = false ∧
      (path = [] ∧ (∃ bytes, inner = .file bytes) ∧ (format? name).isSome = true ∨
        name ≠ foreignFolder ∧ path ∈ presetFiles inner) := by
  rw [mem_presetFiles_folder_iff]
  constructor
  · rintro ⟨⟨own, inner⟩, entry, mem⟩
    obtain ⟨rest, path_eq, found⟩ := mem_presetsOf_iff.mp mem
    cases path_eq
    exact ⟨inner, entry, found⟩
  · rintro ⟨inner, entry, found⟩
    exact ⟨(name, inner), entry, mem_presetsOf_iff.mpr ⟨path, rfl, found⟩⟩

/-! ## What is found -/

/-- The search finds the files that are presets. -/
theorem mem_presetFiles_iff (proper : tree.Proper) (folders : List String) (name : String) :
    folders ++ [name] ∈ presetFiles tree ↔
      tree.HasFile (folders ++ [name]) ∧ IsPreset folders name := by
  induction proper generalizing folders with
  | file bytes =>
      have nothing : ¬(FileTree.file bytes).HasFile (folders ++ [name]) := by
        intro found
        cases found
      simp [presetFiles, nothing]
  | @folder entries _ named _ ih =>
      cases folders with
      | nil =>
          rw [List.nil_append, cons_mem_presetFiles_folder_iff, FileTree.hasFile_folder_cons_iff]
          constructor
          · rintro ⟨inner, entry, shown, ⟨-, is_file, formatted⟩ | ⟨-, mem⟩⟩
            · have extension := (isSome_format?_iff (named _ entry)).mp formatted
              exact ⟨⟨inner, entry, .inl ⟨rfl, is_file⟩⟩, List.forall_mem_nil _,
                isHidden_eq_false_iff.mp shown, extension⟩
            · exact absurd mem (nil_notMem_presetFiles inner)
          · rintro ⟨⟨inner, entry, ⟨-, is_file⟩ | found⟩, preset⟩
            · have formatted := (isSome_format?_iff (named _ entry)).mpr preset.extension
              exact ⟨inner, entry, isHidden_eq_false_iff.mpr preset.shown,
                .inl ⟨rfl, is_file, formatted⟩⟩
            · exact absurd found FileTree.not_hasFile_nil
      | cons folder rest =>
          have some_name : rest ++ [name] ≠ [] := List.append_ne_nil_of_right_ne_nil _ (by simp)
          rw [List.cons_append, cons_mem_presetFiles_folder_iff, FileTree.hasFile_folder_cons_iff,
            isPreset_cons_iff]
          constructor
          · rintro ⟨inner, entry, shown, ⟨no_name, -⟩ | ⟨own, mem⟩⟩
            · exact absurd no_name some_name
            · obtain ⟨found, preset⟩ := (ih _ entry rest).mp mem
              exact ⟨⟨inner, entry, .inr found⟩, ⟨isHidden_eq_false_iff.mp shown, own⟩, preset⟩
          · rintro ⟨⟨inner, entry, ⟨no_name, -⟩ | found⟩, ⟨shown, own⟩, preset⟩
            · exact absurd no_name some_name
            · have mem := (ih _ entry rest).mpr ⟨found, preset⟩
              exact ⟨inner, entry, isHidden_eq_false_iff.mpr shown, .inr ⟨own, mem⟩⟩

/-- Names of entries keep apart what is found below them. -/
theorem nodup_presetFiles (proper : tree.Proper) : (presetFiles tree).Nodup := by
  induction proper with
  | file bytes =>
      rw [presetFiles]
      exact List.nodup_nil
  | @folder entries distinct _ _ ih =>
      rw [presetFiles, (List.mergeSort_perm _ _).nodup_iff, presetFilesAmong_eq_flatMap,
        List.nodup_flatMap]
      constructor
      · rintro ⟨name, bytes | inner⟩ entry
        · rw [presetsOf]
          split
          · exact List.nodup_singleton _
          · exact List.nodup_nil
        · rw [presetsOf]
          split
          · exact List.nodup_nil
          · exact (ih _ entry).map fun _ _ same => (List.cons.inj same).2
      · apply (List.pairwise_map.mp distinct).imp
        intro one other names_apart path one_mem other_mem
        obtain ⟨_, path_eq, -⟩ := mem_presetsOf_iff.mp one_mem
        obtain ⟨_, same_path, -⟩ := mem_presetsOf_iff.mp other_mem
        exact names_apart (List.cons.inj (path_eq.symm.trans same_path)).1

/-! ## Order -/

theorem pathLe_iff (a b : List String) : pathLe a b = true ↔ a ≤ b := by
  rw [← not_lt]
  induction a generalizing b with
  | nil => simp [pathLe]
  | cons s a ih =>
      cases b with
      | nil => simp [pathLe]
      | cons t b =>
          rw [pathLe, List.cons_lt_cons_iff]
          by_cases same : s = t
          · simp [same, ih]
          · have apart : t ≠ s := Ne.symm same
            simp only [if_neg same, decide_eq_true_eq, apart, false_and, or_false, not_lt]
            exact (Ne.le_iff_lt same).symm

theorem pairwise_presetFiles_le (tree : FileTree) :
    (presetFiles tree).Pairwise (· ≤ ·) := by
  cases tree with
  | file bytes =>
      rw [presetFiles]
      exact .nil
  | folder entries =>
      have sorted : (presetFiles (.folder entries)).Pairwise fun a b => pathLe a b = true := by
        rw [presetFiles]
        apply List.pairwise_mergeSort
        · intro a b c
          simp only [pathLe_iff]
          exact le_trans
        · intro a b
          simp only [Bool.or_eq_true, pathLe_iff]
          exact le_total a b
      exact sorted.imp fun le => (pathLe_iff _ _).mp le

theorem pairwise_presetFiles_lt (proper : tree.Proper) :
    (presetFiles tree).Pairwise (· < ·) :=
  ((pairwise_presetFiles_le tree).and (nodup_presetFiles proper)).imp fun ⟨le, apart⟩ =>
    lt_of_le_of_ne le apart

/-- What is found depends on the files in a tree, and not on the order of its entries or on
folders without files. -/
theorem presetFiles_congr {other : FileTree} (proper : tree.Proper) (other_proper : other.Proper)
    (same_files : ∀ path, other.HasFile path ↔ tree.HasFile path) :
    presetFiles other = presetFiles tree := by
  apply (pairwise_presetFiles_lt other_proper).eq_of_mem_iff (pairwise_presetFiles_lt proper)
  intro path
  rcases List.eq_nil_or_concat path with rfl | ⟨folders, name, rfl⟩
  · exact iff_of_false (nil_notMem_presetFiles other) (nil_notMem_presetFiles tree)
  · rw [List.concat_eq_append, mem_presetFiles_iff other_proper, mem_presetFiles_iff proper,
      same_files]

/-- The search for presets in a tree yields, in strictly ascending order and each of them once,
exactly the files that have one of the two extensions and are not hidden, and that lie in no
hidden or foreign folder.  The order is that of paths, name by name, and of names by their
bytes; the path text of a preset below any root has the parts of the root and then these
names.  What is found is the same for all trees with the same files, however their entries
have been listed. -/
theorem presetFiles_enumerate_presets (proper : tree.Proper) :
    (presetFiles tree).Pairwise (fun a b => a.map Text.bytes < b.map Text.bytes) ∧
      (presetFiles tree).Nodup ∧
      (∀ path, path ∈ presetFiles tree ↔ ∃ folders name, path = folders ++ [name] ∧
        tree.HasFile path ∧ IsPreset folders name) ∧
      (∀ root, ∀ path ∈ presetFiles tree, Path.parts (Path.join root path).toList =
        Path.parts root.toList ++ path.map fun name => .name name.toList) ∧
      ∀ other : FileTree, other.Proper → (∀ path, other.HasFile path ↔ tree.HasFile path) →
        presetFiles other = presetFiles tree := by
  have found (path : List String) : path ∈ presetFiles tree ↔ ∃ folders name,
      path = folders ++ [name] ∧ tree.HasFile path ∧ IsPreset folders name := by
    constructor
    · intro mem
      rcases List.eq_nil_or_concat path with rfl | ⟨folders, name, rfl⟩
      · exact absurd mem (nil_notMem_presetFiles tree)
      · rw [List.concat_eq_append] at mem ⊢
        obtain ⟨there, preset⟩ := (mem_presetFiles_iff proper folders name).mp mem
        exact ⟨folders, name, rfl, there, preset⟩
    · rintro ⟨folders, name, rfl, there, preset⟩
      exact (mem_presetFiles_iff proper folders name).mpr ⟨there, preset⟩
  refine ⟨?_, nodup_presetFiles proper, found, ?_, fun _ => presetFiles_congr proper⟩
  · apply (pairwise_presetFiles_lt proper).imp
    intro a b less
    exact List.map_lt (fun _ _ => Text.bytes_lt_bytes_of_lt) less
  · intro root path mem
    obtain ⟨folders, name, rfl, there, -⟩ := (found path).mp mem
    exact Path.parts_join root (by simp) (proper.isName_of_hasFile there)

/-- The folder of empty files with some names. -/
def emptyFiles (names : List String) : FileTree :=
  .folder (names.map fun name => (name, .file .empty))

theorem proper_emptyFiles {names : List String} (distinct : names.Nodup)
    (named : ∀ name ∈ names, Path.IsName name) : (emptyFiles names).Proper := by
  refine .folder ?_ (List.forall_mem_map.mpr named) (List.forall_mem_map.mpr fun _ _ => .file _)
  have own_names : names.map (Prod.fst ∘ fun name => (name, FileTree.file .empty)) = names :=
    List.map_id names
  rw [List.map_map, own_names]
  exact distinct

/-- A folder with two presets, with notes, with a hidden folder and a hidden file, and with
foreign modules. -/
def shelf : FileTree :=
  .folder [("wow", emptyFiles ["fire.lua", ".draft.json"]), ("notes.txt", .file .empty),
    (".git", emptyFiles ["x.json"]), ("a.json", .file .empty),
    ("node_modules", emptyFiles ["b.json"])]

theorem shelf_proper : shelf.Proper := by
  refine .folder (by decide) (by decide) ?_
  simp only [List.forall_mem_cons]
  exact ⟨proper_emptyFiles (by decide) (by decide), .file _,
    proper_emptyFiles (by decide) (by decide), .file _,
    proper_emptyFiles (by decide) (by decide), List.forall_mem_nil _⟩

/-- The presets of the shelf are found, in order: one in the folder itself and one below it, but
not the notes, not the hidden file, and nothing in the hidden and the foreign folder. -/
theorem shelf_enumerates_presets :
    shelf.Proper ∧
      (presetFiles shelf).Pairwise (fun a b => a.map Text.bytes < b.map Text.bytes) ∧
      ["a.json"] ∈ presetFiles shelf ∧ ["wow", "fire.lua"] ∈ presetFiles shelf ∧
      ["wow", ".draft.json"] ∉ presetFiles shelf ∧ ["notes.txt"] ∉ presetFiles shelf ∧
      [".git", "x.json"] ∉ presetFiles shelf ∧ ["node_modules", "b.json"] ∉ presetFiles shelf ∧
      Path.parts (Path.join "presets/" ["wow", "fire.lua"]).toList =
        [.name "presets".toList, .name "wow".toList, .name "fire.lua".toList] := by
  obtain ⟨ascending, _, found, parts_eq, _⟩ := presetFiles_enumerate_presets shelf_proper
  have first : ["a.json"] ∈ presetFiles shelf := by
    have listed : ("a.json", FileTree.file .empty) ∈ shelf.entries := by
      simp [shelf, FileTree.entries]
    have json : Path.HasExtension "a.json" "json" := ⟨by decide, "a", by decide, by decide⟩
    exact (found _).mpr ⟨[], "a.json", rfl, .here listed, by decide, by decide, .inl json⟩
  have second : ["wow", "fire.lua"] ∈ presetFiles shelf := by
    have listed : ("wow", emptyFiles ["fire.lua", ".draft.json"]) ∈ shelf.entries := by
      simp [shelf, FileTree.entries]
    have below : (emptyFiles ["fire.lua", ".draft.json"]).HasFile ["fire.lua"] :=
      .here List.mem_cons_self
    have lua : Path.HasExtension "fire.lua" "lua" := ⟨by decide, "fire", by decide, by decide⟩
    exact (found _).mpr
      ⟨["wow"], "fire.lua", rfl, .inside listed below, by decide, by decide, .inr lua⟩
  have missing (folders : List String) (name : String) (other : ¬IsPreset folders name) :
      folders ++ [name] ∉ presetFiles shelf := by
    intro mem
    obtain ⟨_, _, path_eq, _, preset⟩ := (found _).mp mem
    obtain ⟨rfl, name_eq⟩ := List.append_inj' path_eq rfl
    cases name_eq
    exact other preset
  refine ⟨shelf_proper, ascending, first, second, ?_, ?_, ?_, ?_, ?_⟩
  · apply missing ["wow"]
    intro preset
    exact preset.shown (by decide)
  · apply missing []
    intro preset
    have formatted := (isSome_format?_iff (by decide)).mpr preset.extension
    exact absurd formatted (by decide)
  · apply missing [".git"]
    intro preset
    exact (preset.folders_shown ".git" List.mem_cons_self).1 (by decide)
  · apply missing ["node_modules"]
    intro preset
    exact (preset.folders_shown "node_modules" List.mem_cons_self).2 rfl
  · rw [parts_eq "presets/" _ second]
    decide

end Library

end Rotation
