import Rotation.Key.Chord
import Rotation.Proofs.Text.Spelling

/-!
# The normal form of chords

A chord that has been read lists its modifiers in ascending order and names its key in lower
case.  Its text is one of the ways to write it, and every way to write it is read as the same
chord: with its modifiers in any order, each by any of its names in any letter case, before
the key, and with blanks around the whole.
-/

namespace Rotation

namespace Modifier

/-- The place of a modifier in the listed order. -/
def rank (m : Modifier) : Nat :=
  all.idxOf m

theorem ofName?_eq_some {m : Modifier} {name : String} (own : name ∈ m.names) :
    ofName? name = some m := by
  have each : ∀ m ∈ all, ∀ name ∈ m.names, ofName? name = some m := by decide
  cases m with
  | ctrl | alt | shift | cmd => exact each _ (by decide) name own

theorem name_mem_names (m : Modifier) : m.name ∈ m.names := by
  cases m <;> decide

end Modifier

namespace Chord

/-! ## Names -/

/-- Whether a text can be a part of a written chord: there is something of it, and all of it
is plain and no plus sign. -/
def isWord (cs : List Char) : Bool :=
  !cs.isEmpty && cs.all fun c => Text.isPlain c && c != '+'

theorem isWord_iff {cs : List Char} :
    isWord cs = true ↔ cs ≠ [] ∧ '+' ∉ cs ∧ ∀ c ∈ cs, Text.isPlain c = true := by
  simp only [isWord, Bool.and_eq_true, Bool.not_eq_true', List.isEmpty_eq_false_iff,
    List.all_eq_true, bne_iff_ne, forall_and]
  grind

theorem isWord_of_mem_names {m : Modifier} {name : String} (own : name ∈ m.names) :
    isWord name.toList = true := by
  have each : ∀ m ∈ Modifier.all, ∀ name ∈ m.names, isWord name.toList = true := by decide
  cases m with
  | ctrl | alt | shift | cmd => exact each _ (by decide) name own

/-- A character between the plus sign and the end of ASCII is a word, unless it is a capital
letter. -/
theorem isWord_singleton {c : Char} (above : 43 < c.toNat) (below : c.toNat < 127)
    (no_capital : c.toNat < 65 ∨ 90 < c.toNat) : isWord [c] = true := by
  rw [isWord_iff]
  refine ⟨List.cons_ne_nil _ _, ?_, ?_⟩
  · rw [List.mem_singleton]
    rintro rfl
    exact absurd above (by decide)
  · intro other mem
    rw [List.mem_singleton.mp mem]
    simp only [Text.isPlain, Bool.and_eq_true, Bool.not_eq_true', Bool.and_eq_false_iff,
      decide_eq_true_eq, decide_eq_false_iff_not]
    omega

theorem isWord_of_isKey {cs : List Char} (key : isKey cs = true) : isWord cs = true := by
  have words : ∀ word ∈ keyWords ++ numberedKeys, isWord word.toList = true := by decide +kernel
  have marks : markKeys.all (fun c => isWord [c]) = true := by decide +kernel
  unfold isKey at key
  split at key
  · rename_i c
    simp only [Bool.or_eq_true, List.contains_eq_mem, decide_eq_true_eq] at key
    rcases key with (letter | digit) | mark
    · have bounds : 97 ≤ c.toNat ∧ c.toNat ≤ 122 := by
        have range : (decide (97 ≤ c.val) && decide (c.val ≤ 122)) = true := letter
        simpa [UInt32.le_iff_toNat_le] using range
      exact isWord_singleton (by omega) (by omega) (by omega)
    · have bounds : 48 ≤ c.toNat ∧ c.toNat ≤ 57 := by
        simpa [Char.isDigit, UInt32.le_iff_toNat_le] using digit
      exact isWord_singleton (by omega) (by omega) (by omega)
    · exact List.all_eq_true.mp marks c mark
  · have own := words _ (List.contains_iff_mem.mp key)
    rwa [String.toList_ofList] at own

/-! ## What has been read -/

/-- Whether a key part is the plus sign or names another key. -/
def isKnown (key : List Char) : Bool :=
  key == ['+'] || isKey key

/-- The names in the modifier part of a text. -/
def headNames (head : List Char) : List String :=
  ((Text.pieces '+' head).filter fun piece => !piece.isEmpty).map String.ofList

variable {cs head key : List Char}

theorem ne_nil_of_isKnown (known : isKnown key = true) : key ≠ [] := by
  rintro rfl
  exact absurd known (by decide)

/-- With a known key, the names before it decide what is read. -/
theorem ofNormalized_of_isKnown (split_eq : splitReversed cs.reverse = (head, key))
    (known : isKnown key = true) :
    ofNormalized cs = ((headNames head).foldlM addModifier []).map fun given =>
      ⟨sortModifiers given, String.ofList key⟩ := by
  have some_key := ne_nil_of_isKnown known
  have some_text : cs ≠ [] := by
    rintro rfl
    exact some_key (congrArg Prod.snd split_eq).symm
  have no_error : ¬ (key ≠ ['+'] && !isKey key) = true := by
    rw [isKnown, Bool.or_eq_true, beq_iff_eq] at known
    grind
  rw [ofNormalized, if_neg (by simpa using some_text)]
  simp only [split_eq]
  rw [if_neg (by simpa using some_key), if_neg no_error]
  rfl

theorem ofNormalized_of_not_isKnown (split_eq : splitReversed cs.reverse = (head, key))
    (unknown : isKnown key = false) : ∃ e, ofNormalized cs = .error e := by
  have key_error : (key ≠ ['+'] && !isKey key) = true := by
    rw [isKnown, Bool.or_eq_false_iff, beq_eq_false_iff_ne] at unknown
    simp [unknown]
  rw [ofNormalized]
  simp only [split_eq, key_error, if_true]
  split
  · exact ⟨_, rfl⟩
  · split <;> exact ⟨_, rfl⟩

/-- The modifiers are in listed order, and the key is a known one. -/
structure IsNormal (k : Chord) : Prop where
  sorted : sortModifiers k.modifiers = k.modifiers
  known : isKnown k.key.toList = true

theorem mem_sortModifiers {m : Modifier} {given : List Modifier} :
    m ∈ sortModifiers given ↔ m ∈ given := by
  have listed : m ∈ Modifier.all := by cases m <;> decide
  simp [sortModifiers, listed]

/-- Sorting depends on which modifiers there are. -/
theorem sortModifiers_congr {given other : List Modifier} (same : ∀ m, m ∈ given ↔ m ∈ other) :
    sortModifiers given = sortModifiers other := by
  simp only [sortModifiers, List.contains_eq_mem, same]

theorem pairwise_sortModifiers (given : List Modifier) :
    (sortModifiers given).Pairwise fun a b => a.rank < b.rank :=
  List.Pairwise.filter _ (by decide)

theorem nodup_sortModifiers (given : List Modifier) : (sortModifiers given).Nodup :=
  (pairwise_sortModifiers given).imp fun {a b} below same => by
    rw [same] at below
    exact Nat.lt_irrefl _ below

theorem isNormal_of_parse {s : String} {k : Chord} (read : parse s = .ok k) : k.IsNormal := by
  rcases split_eq : splitReversed (Text.lowerChars (Text.trimChars s.toList)).reverse with
    ⟨head, key⟩
  cases known : isKnown key with
  | false =>
      obtain ⟨e, failed⟩ := ofNormalized_of_not_isKnown split_eq known
      rw [parse, failed] at read
      contradiction
  | true =>
      rw [parse, ofNormalized_of_isKnown split_eq known] at read
      rcases folded : (headNames head).foldlM addModifier [] with e | given
      all_goals rw [folded] at read
      · contradiction
      · cases read
        exact ⟨sortModifiers_congr fun m => mem_sortModifiers, by rwa [String.toList_ofList]⟩

/-! ## Ways to write a chord -/

/-- How a chord is written: blanks, modifiers with the names that are given to them, a key
and blanks again. -/
structure Writing where
  before : List Char
  modifiers : List (Modifier × List Char)
  key : List Char
  after : List Char

namespace Writing

/-- What is written between the blanks. -/
def core (w : Writing) : List Char :=
  ['+'].intercalate (w.modifiers.map Prod.snd ++ [w.key])

/-- What is written. -/
def text (w : Writing) : String :=
  String.ofList (w.before ++ w.core ++ w.after)

/-- A chord is written: each of its modifiers stands there once, in any order, by any of its
names, and then the key; neither letter case nor blanks at the ends count. -/
structure IsOf (w : Writing) (k : Chord) : Prop where
  blank_before : ∀ c ∈ w.before, Text.isBlank c = true
  blank_after : ∀ c ∈ w.after, Text.isBlank c = true
  order : (w.modifiers.map Prod.fst).Perm k.modifiers
  named : ∀ entry ∈ w.modifiers, ∃ name ∈ entry.1.names,
    Text.lowerChars entry.2 = name.toList
  keyed : Text.lowerChars w.key = k.key.toList

end Writing

/-! ## Reading what is written -/

/-- A known key other than the plus sign is a word. -/
theorem eq_plus_or_isWord (known : isKnown key = true) : key = ['+'] ∨ isWord key = true := by
  rw [isKnown, Bool.or_eq_true, beq_iff_eq] at known
  exact known.imp_right isWord_of_isKey

theorem isPlain_of_isKnown (known : isKnown key = true) :
    ∀ c ∈ key, Text.isPlain c = true := by
  rcases eq_plus_or_isWord known with rfl | word
  · exact List.forall_mem_singleton.mpr rfl
  · exact (isWord_iff.mp word).2.2

/-- A word at the end of a text is its key part if a plus sign or nothing stands before it;
both are given in reverse. -/
theorem splitReversed_word (word : isWord key = true) {before : List Char}
    (bounded : before.takeWhile (· != '+') = []) :
    splitReversed (key.reverse ++ before) = ((before.drop 1).reverse, key) := by
  obtain ⟨some_key, no_plus, _⟩ := isWord_iff.mp word
  have kept : ∀ c ∈ key.reverse, (c != '+') = true := by
    intro c mem
    rw [bne_iff_ne]
    rintro rfl
    exact no_plus (List.mem_reverse.mp mem)
  have before_kept : before.dropWhile (· != '+') = before := by
    simpa [bounded] using List.takeWhile_append_dropWhile (p := (· != '+')) (l := before)
  obtain ⟨c, rest, reverse_eq⟩ :=
    List.exists_cons_of_ne_nil (List.reverse_ne_nil_iff.mpr some_key)
  have not_plus : c ≠ '+' := bne_iff_ne.mp (kept c (by simp [reverse_eq]))
  -- The text in reverse starts with no plus sign, so the first two cases are out.
  have third := splitReversed.eq_3 (key.reverse ++ before) (by simp [reverse_eq, not_plus])
    (by simp [reverse_eq, not_plus])
  rw [third, List.dropWhile_append_of_pos kept, List.takeWhile_append_of_pos kept, bounded,
    before_kept, List.append_nil, List.reverse_reverse]

/-- A key at the end of a text is its key part if a plus sign stands before it. -/
theorem splitReversed_headed (known : isKnown key = true) (head : List Char) :
    splitReversed (head ++ '+' :: key).reverse = (head, key) := by
  rw [List.reverse_append, List.reverse_cons, List.append_assoc, List.singleton_append]
  rcases eq_plus_or_isWord known with rfl | word
  · simp [splitReversed]
  · rw [splitReversed_word word (List.takeWhile_cons_of_neg (by simp))]
    simp

/-- Words joined by plus signs before a key are split from it. -/
theorem splitReversed_intercalate (known : isKnown key = true) (words : List (List Char)) :
    splitReversed (['+'].intercalate (words ++ [key])).reverse =
      (['+'].intercalate words, key) := by
  rcases List.eq_nil_or_concat words with rfl | ⟨init, last, rfl⟩
  · rcases eq_plus_or_isWord known with rfl | word
    · rfl
    · have nothing_before : ([] : List Char).takeWhile (· != '+') = [] := rfl
      simpa using splitReversed_word word nothing_before
  · have joined_eq : ['+'].intercalate (init ++ [last] ++ [key]) =
        ['+'].intercalate (init ++ [last]) ++ '+' :: key := by
      rw [Text.intercalate_concat, Text.intercalate_concat]
      simp
    rw [List.concat_eq_append, joined_eq, splitReversed_headed known]

theorem headNames_intercalate {words : List (List Char)}
    (word : ∀ cs ∈ words, isWord cs = true) :
    headNames (['+'].intercalate words) = words.map String.ofList := by
  by_cases some_word : words = []
  · subst some_word
    rfl
  · have no_plus := fun cs mem => (isWord_iff.mp (word cs mem)).2.1
    rw [headNames, Text.pieces_intercalate some_word no_plus, List.filter_eq_self.mpr]
    intro cs mem
    simpa using (isWord_iff.mp (word cs mem)).1

/-- Names of different modifiers are all added. -/
theorem foldlM_addModifier {named : List (Modifier × String)} {seen : List Modifier}
    (own : ∀ entry ∈ named, entry.2 ∈ entry.1.names)
    (distinct : (seen ++ named.map Prod.fst).Nodup) :
    (named.map Prod.snd).foldlM addModifier seen = .ok (seen ++ named.map Prod.fst) := by
  induction named generalizing seen with
  | nil => simp [pure, Except.pure]
  | cons entry rest ih =>
      obtain ⟨entry_own, rest_own⟩ := List.forall_mem_cons.mp own
      have added : addModifier seen entry.2 = .ok (seen ++ [entry.1]) := by
        have fresh : entry.1 ∉ seen := by
          grind
        simp [addModifier, Modifier.ofName?_eq_some entry_own, fresh]
      rw [List.map_cons, List.foldlM_cons, added]
      refine (ih rest_own (by simpa using distinct)).trans ?_
      simp

namespace Writing

variable {w : Writing} {k : Chord}

/-- The modifiers with their names in lower case. -/
def entries (w : Writing) : List (Modifier × String) :=
  w.modifiers.map fun entry => (entry.1, String.ofList (Text.lowerChars entry.2))

theorem IsOf.own (written : w.IsOf k) : ∀ entry ∈ w.entries, entry.2 ∈ entry.1.names := by
  rw [entries, List.forall_mem_map]
  intro entry mem
  obtain ⟨name, own, lowered⟩ := written.named entry mem
  rwa [lowered, String.ofList_toList]

theorem IsOf.isWord (written : w.IsOf k) :
    ∀ cs ∈ w.modifiers.map fun entry => Text.lowerChars entry.2, isWord cs = true := by
  rw [List.forall_mem_map]
  intro entry mem
  obtain ⟨name, own, lowered⟩ := written.named entry mem
  rw [lowered]
  exact isWord_of_mem_names own

/-- The lower-case form of what is written is joined from names and the key, all of which are
plain. -/
theorem IsOf.lowerChars_core (written : w.IsOf k) (normal : k.IsNormal) :
    Text.lowerChars w.core = ['+'].intercalate
      ((w.modifiers.map fun entry => Text.lowerChars entry.2) ++ [k.key.toList]) := by
  have key_plain := isPlain_of_isKnown normal.known
  rw [← written.keyed] at key_plain ⊢
  rw [core, Text.lowerChars_intercalate (by decide) ?_ key_plain, List.map_map]
  · rfl
  · have plain := fun cs mem => (isWord_iff.mp (written.isWord cs mem)).2.2
    rw [List.forall_mem_map] at plain ⊢
    exact plain

theorem IsOf.visible (written : w.IsOf k) (normal : k.IsNormal) :
    ∀ c ∈ w.core, Text.isBlank c = false := by
  refine Text.visible_of_plain_lowerChars ?_
  rw [written.lowerChars_core normal, Text.intercalate_concat]
  have key_plain := isPlain_of_isKnown normal.known
  have plain := fun cs mem => (isWord_iff.mp (written.isWord cs mem)).2.2
  have plus_plain : Text.isPlain '+' = true := by decide
  simp only [List.mem_append, List.mem_flatMap, List.mem_singleton]
  grind

/-- Every way to write a chord in normal form is read as that chord. -/
theorem IsOf.parse_text (written : w.IsOf k) (normal : k.IsNormal) : parse w.text = .ok k := by
  have order : (w.entries.map Prod.fst).Perm k.modifiers := by
    rw [entries, List.map_map]
    exact written.order
  have distinct : (w.entries.map Prod.fst).Nodup := by
    rw [order.nodup_iff, ← normal.sorted]
    exact nodup_sortModifiers k.modifiers
  have names_eq : (w.modifiers.map fun entry => Text.lowerChars entry.2).map String.ofList =
      w.entries.map Prod.snd := by
    simp [entries]
  rw [parse, text, String.toList_ofList, Text.trimChars_surrounded written.blank_before
    (written.visible normal) written.blank_after, written.lowerChars_core normal,
    ofNormalized_of_isKnown (splitReversed_intercalate normal.known _) normal.known,
    headNames_intercalate written.isWord, names_eq, foldlM_addModifier written.own distinct,
    List.nil_append, Except.map, sortModifiers_congr fun m => order.mem_iff, normal.sorted,
    String.ofList_toList]

/-- A chord written with the names that its text gives to modifiers. -/
def plain (k : Chord) : Writing :=
  ⟨[], k.modifiers.map fun m => (m, m.name.toList), k.key.toList, []⟩

theorem text_plain (k : Chord) : (plain k).text = k.text := by
  apply String.toList_injective
  rw [text, String.toList_ofList, core, Text.intercalate_concat, Chord.text, String.toList_append,
    String.toList_join]
  simp [plain, List.flatMap_map]

theorem isOf_plain (normal : k.IsNormal) : (plain k).IsOf k where
  blank_before := by simp [plain]
  blank_after := by simp [plain]
  order := by simp [plain, Function.comp_def]
  named := by
    rw [plain, List.forall_mem_map]
    intro m _
    have own := m.name_mem_names
    exact ⟨m.name, own, Text.lowerChars_of_plain (isWord_iff.mp (isWord_of_mem_names own)).2.2⟩
  keyed := Text.lowerChars_of_plain (isPlain_of_isKnown normal.known)

end Writing

/-- What is read is in normal form: its modifiers are in listed order and each stands there
once, and its text and every other way to write it are read as the same chord. -/
theorem parse_normal_form {s : String} {k : Chord} (read : parse s = .ok k) :
    k.modifiers.Pairwise (fun a b => a.rank < b.rank) ∧ parse k.text = .ok k ∧
      ∀ w : Writing, w.IsOf k → parse w.text = .ok k := by
  have normal := isNormal_of_parse read
  refine ⟨?_, ?_, fun w written => written.parse_text normal⟩
  · rw [← normal.sorted]
    exact pairwise_sortModifiers k.modifiers
  · rw [← Writing.text_plain]
    exact (Writing.isOf_plain normal).parse_text normal

/-- The plus sign with two modifiers is read, and so are its text and another way to write
it. -/
theorem ctrl_shift_plus_in_normal_form :
    let k : Chord := ⟨[.ctrl, .shift], "+"⟩
    parse " Shift+Ctrl++\n" = .ok k ∧ parse "ctrl+shift++" = .ok k ∧
      parse "\tSHIFT+Control++" = .ok k := by
  intro k
  have read : parse " Shift+Ctrl++\n" = .ok k := by decide +kernel
  obtain ⟨_, own, every⟩ := parse_normal_form read
  let w : Writing := ⟨['\t'], [(.shift, "SHIFT".toList), (.ctrl, "Control".toList)], ['+'], []⟩
  have written : w.IsOf k := {
    blank_before := List.forall_mem_singleton.mpr rfl
    blank_after := List.forall_mem_nil _
    order := by decide
    named := by decide +kernel
    keyed := by decide +kernel }
  exact ⟨read, own, every w written⟩

end Chord

end Rotation
