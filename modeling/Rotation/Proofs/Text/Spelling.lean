import Mathlib.Data.List.Basic
import Mathlib.Data.List.TakeWhile
import Mathlib.Data.String.Basic
import Rotation.Text.Line
import Rotation.Text.LowerCase

/-!
# Spellings

Numbers can be told apart by their digits.  A text that has been joined from pieces by a
separator that is in none of them is cut into the same pieces again, and these are the first
ones of any text that goes on after it with a separator.  Blanks around a
visible text make no difference to it when it is trimmed.  And a text whose lower-case form
consists of plain characters has been brought there character by character: the forms that
depend on the neighbours are not plain.

Texts are compared by code points, which is the order of their UTF-8 bytes: a longer sequence
of bytes for one character begins with a greater byte, and sequences of the same length are
the digits of the code point.
-/

namespace Rotation.Text

/-! ## Numbers -/

/-- Numbers can be told apart by what is written. -/
theorem toString_injective {i j : Nat} (same : toString i = toString j) : i = j := by
  have digits_eq := congrArg (fun s : String => Nat.ofDigitChars 10 s.toList 0) same
  simpa using digits_eq

theorem isDigit_of_mem_toString {n : Nat} {c : Char} (mem : c ∈ (toString n).toList) :
    c.isDigit = true := by
  rw [Nat.toString_eq_repr, Nat.toList_repr] at mem
  exact Nat.isDigit_of_mem_toDigits (by decide) (by decide) mem

/-! ## Pieces -/

variable {separator : Char}

theorem pieces_of_notMem {cs : List Char} (absent : separator ∉ cs) :
    pieces separator cs = [cs] := by
  induction cs with
  | nil => rfl
  | cons c rest ih =>
      rw [List.mem_cons, not_or] at absent
      rw [pieces, if_neg (Ne.symm absent.1), ih absent.2]

/-- A text is cut at every separator. -/
theorem pieces_append_separator (cs ds : List Char) :
    pieces separator (cs ++ separator :: ds) = pieces separator cs ++ pieces separator ds := by
  induction cs with
  | nil => simp [pieces]
  | cons c rest ih =>
      rw [List.cons_append, pieces, pieces, ih]
      split
      · rfl
      · rcases pieces_eq : pieces separator rest with _ | ⟨first, others⟩
        · exact absurd pieces_eq (pieces_ne_nil separator rest)
        · rfl

theorem pieces_concat {last : List Char} (absent : separator ∉ last) (cs : List Char) :
    pieces separator (cs ++ separator :: last) = pieces separator cs ++ [last] := by
  rw [pieces_append_separator, pieces_of_notMem absent]

/-- Texts without a separator are the pieces of what is joined from them. -/
theorem pieces_intercalate {texts : List (List Char)} (some_text : texts ≠ [])
    (absent : ∀ cs ∈ texts, separator ∉ cs) :
    pieces separator ([separator].intercalate texts) = texts := by
  induction texts with
  | nil => contradiction
  | cons first rest ih =>
      obtain ⟨first_absent, rest_absent⟩ := List.forall_mem_cons.mp absent
      cases rest with
      | nil => simpa using pieces_of_notMem first_absent
      | cons second others =>
          rw [List.intercalate_cons_cons, List.append_assoc, List.singleton_append,
            pieces_append_separator, pieces_of_notMem first_absent,
            ih (List.cons_ne_nil _ _) rest_absent, List.singleton_append]

/-- In what is joined from pieces, each but the last is followed by the separator. -/
theorem intercalate_concat (texts : List (List Char)) (last : List Char) :
    [separator].intercalate (texts ++ [last]) = texts.flatMap (· ++ [separator]) ++ last := by
  induction texts with
  | nil => simp
  | cons first rest ih =>
      rcases joined_eq : rest ++ [last] with _ | ⟨second, others⟩
      · simp at joined_eq
      · rw [List.cons_append, joined_eq, List.intercalate_cons_cons, ← joined_eq, ih]
        simp

theorem intercalate_append {texts more : List (List Char)} (some_text : texts ≠ [])
    (some_more : more ≠ []) :
    [separator].intercalate (texts ++ more) =
      [separator].intercalate texts ++ separator :: [separator].intercalate more := by
  induction texts with
  | nil => contradiction
  | cons first rest ih =>
      by_cases last : rest = []
      · subst last
        rw [List.singleton_append, List.intercalate_cons_of_ne_nil some_more]
        simp
      · rw [List.cons_append, List.intercalate_cons_of_ne_nil (by simp [last]), ih last,
          List.intercalate_cons_of_ne_nil last]
        simp

/-- The pieces of a text are the first pieces of another one exactly if the other one is
the text itself or goes on after it with a separator. -/
theorem pieces_prefix_iff {cs ds : List Char} :
    pieces separator cs <+: pieces separator ds ↔
      ds = cs ∨ ∃ rest, ds = cs ++ separator :: rest := by
  constructor
  · rintro ⟨more, pieces_eq⟩
    by_cases last : more = []
    · left
      rw [last, List.append_nil] at pieces_eq
      rw [← intercalate_pieces separator ds, ← pieces_eq, intercalate_pieces]
    · right
      exists [separator].intercalate more
      rw [← intercalate_pieces separator ds, ← pieces_eq,
        intercalate_append (pieces_ne_nil separator cs) last, intercalate_pieces]
  · rintro (rfl | ⟨rest, rfl⟩)
    · exact List.prefix_rfl
    · rw [pieces_append_separator]
      exact List.prefix_append _ _

/-! ## Blanks -/

/-- Blanks around a text without blanks are cut off. -/
theorem trimChars_surrounded {before cs after : List Char}
    (blank_before : ∀ c ∈ before, isBlank c = true) (visible : ∀ c ∈ cs, isBlank c = false)
    (blank_after : ∀ c ∈ after, isBlank c = true) :
    trimChars (before ++ cs ++ after) = cs := by
  have all_dropped {blanks : List Char} (blank : ∀ c ∈ blanks, isBlank c = true) :
      blanks.dropWhile isBlank = [] := List.dropWhile_eq_nil_iff.mpr blank
  have kept {rest : List Char} (visible : ∀ c ∈ rest, isBlank c = false) :
      rest.dropWhile isBlank = rest := by
    cases rest with
    | nil => rfl
    | cons c others => exact List.dropWhile_cons_of_neg (by simp [visible c])
  cases cs with
  | nil =>
      have blank : ∀ c ∈ before ++ [] ++ after, isBlank c = true := by
        simpa [or_imp, forall_and] using ⟨blank_before, blank_after⟩
      rw [trimChars, all_dropped blank]
      rfl
  | cons c rest =>
      have start_kept : (c :: rest ++ after).dropWhile isBlank = c :: rest ++ after :=
        List.dropWhile_cons_of_neg (by simp [visible c])
      rw [trimChars, List.append_assoc, List.dropWhile_append, all_dropped blank_before,
        List.isEmpty_nil, if_pos rfl, start_kept, List.reverse_append, List.dropWhile_append,
        all_dropped (by simpa using blank_after), List.isEmpty_nil, if_pos rfl,
        kept (by simpa [or_comm, and_comm] using visible), List.reverse_reverse]

/-! ## Letter case -/

/-- Whether a character is a visible character of ASCII and no capital letter. -/
def isPlain (c : Char) : Bool :=
  33 ≤ c.toNat && c.toNat < 127 && !(65 ≤ c.toNat && c.toNat ≤ 90)

theorem lowerChar_of_isPlain {c : Char} (plain : isPlain c = true) : lowerChar c = c := by
  have each : ∀ n < 127, isPlain (Char.ofNat n) = true →
      lowerChar (Char.ofNat n) = Char.ofNat n := by decide +kernel
  have below : c.toNat < 127 := by
    simp only [isPlain, Bool.and_eq_true, decide_eq_true_eq] at plain
    exact plain.1.2
  have own := each c.toNat below
  rw [Char.ofNat_toNat] at own
  exact own plain

/-- Blanks have no letter case. -/
theorem lowerChar_of_isBlank {c : Char} (blank : isBlank c = true) : lowerChar c = c := by
  have each : ∀ n ∈ List.range' 9 5 ++ [0x20, 0x85, 0xA0, 0x1680] ++ List.range' 0x2000 11 ++
      [0x2028, 0x2029, 0x202F, 0x205F, 0x3000], lowerChar (Char.ofNat n) = Char.ofNat n := by
    decide +kernel
  have own := each c.toNat (by
    simp only [isBlank, Bool.or_eq_true, Bool.and_eq_true, decide_eq_true_eq, beq_iff_eq] at blank
    simp only [List.mem_append, List.mem_range'_1, List.mem_cons, List.not_mem_nil, or_false]
    omega)
  rwa [Char.ofNat_toNat] at own

theorem not_isBlank_of_isPlain {c : Char} (plain : isPlain c = true) : isBlank c = false := by
  simp only [isPlain, Bool.and_eq_true, decide_eq_true_eq] at plain
  simp only [isBlank, Bool.or_eq_false_iff, Bool.and_eq_false_iff, decide_eq_false_iff_not,
    beq_eq_false_iff_ne]
  omega

/-- What has a plain lower-case form is visible. -/
theorem not_isBlank_of_lowerChar {c : Char} (plain : isPlain (lowerChar c) = true) :
    isBlank c = false := by
  rw [← Bool.not_eq_true]
  intro blank
  rw [lowerChar_of_isBlank blank] at plain
  rw [not_isBlank_of_isPlain plain] at blank
  contradiction

/-- The characters whose lower-case form is that of a single character, whatever stands
around them. -/
def isSimple (c : Char) : Bool :=
  c != 'Σ' && c != 'İ'

theorem lowerFrom_of_isSimple {cs : List Char} (simple : ∀ c ∈ cs, isSimple c = true)
    (before : List Char) : lowerFrom before cs = cs.map lowerChar := by
  induction cs generalizing before with
  | nil => rfl
  | cons c rest ih =>
      obtain ⟨c_simple, rest_simple⟩ := List.forall_mem_cons.mp simple
      simp only [isSimple, Bool.and_eq_true, bne_iff_ne] at c_simple
      rw [lowerFrom, lowerAt, if_neg c_simple.1, if_neg c_simple.2, ih rest_simple]
      rfl

/-- The other characters have no plain lower-case form. -/
theorem isSimple_of_lowerFrom {before cs : List Char}
    (plain : ∀ c ∈ lowerFrom before cs, isPlain c = true) : ∀ c ∈ cs, isSimple c = true := by
  induction cs generalizing before with
  | nil => simp
  | cons c rest ih =>
      rw [lowerFrom] at plain
      obtain ⟨c_plain, rest_plain⟩ := List.forall_mem_append.mp plain
      refine List.forall_mem_cons.mpr ⟨?_, ih rest_plain⟩
      rw [isSimple, Bool.and_eq_true, bne_iff_ne, bne_iff_ne]
      constructor
      · rintro rfl
        rw [lowerAt, if_pos rfl, List.forall_mem_singleton] at c_plain
        split at c_plain <;> exact absurd c_plain (by decide)
      · rintro rfl
        rw [lowerAt, if_neg (by decide), if_pos rfl] at c_plain
        exact absurd (c_plain '\u0307' (by simp)) (by decide)

theorem isSimple_of_isPlain {c : Char} (plain : isPlain c = true) : isSimple c = true := by
  rw [isSimple, Bool.and_eq_true, bne_iff_ne, bne_iff_ne]
  constructor <;>
  · rintro rfl
    exact absurd plain (by decide)

theorem simple_of_plain_lowerChars {cs : List Char}
    (plain : ∀ c ∈ lowerChars cs, isPlain c = true) : ∀ c ∈ cs, isSimple c = true :=
  isSimple_of_lowerFrom plain

theorem lowerChars_of_simple {cs : List Char} (simple : ∀ c ∈ cs, isSimple c = true) :
    lowerChars cs = cs.map lowerChar :=
  lowerFrom_of_isSimple simple []

theorem lowerChars_of_plain {cs : List Char} (plain : ∀ c ∈ cs, isPlain c = true) :
    lowerChars cs = cs := by
  rw [lowerChars_of_simple fun c mem => isSimple_of_isPlain (plain c mem)]
  exact (List.map_congr_left fun c mem => lowerChar_of_isPlain (plain c mem)).trans
    (List.map_id cs)

/-- A text is visible if its lower-case form is plain. -/
theorem visible_of_plain_lowerChars {cs : List Char}
    (plain : ∀ c ∈ lowerChars cs, isPlain c = true) : ∀ c ∈ cs, isBlank c = false := by
  intro c mem
  rw [lowerChars_of_simple (simple_of_plain_lowerChars plain), List.forall_mem_map] at plain
  exact not_isBlank_of_lowerChar (plain c mem)

/-- Texts with plain lower-case forms are lowered each by itself when they are joined. -/
theorem lowerChars_intercalate {texts : List (List Char)} {last : List Char}
    (plain : isPlain separator = true)
    (texts_plain : ∀ cs ∈ texts, ∀ c ∈ lowerChars cs, isPlain c = true)
    (last_plain : ∀ c ∈ lowerChars last, isPlain c = true) :
    lowerChars ([separator].intercalate (texts ++ [last])) =
      [separator].intercalate (texts.map lowerChars ++ [lowerChars last]) := by
  have separator_simple := isSimple_of_isPlain plain
  have last_simple := simple_of_plain_lowerChars last_plain
  have texts_simple := fun cs mem => simple_of_plain_lowerChars (texts_plain cs mem)
  have simple : ∀ c ∈ [separator].intercalate (texts ++ [last]), isSimple c = true := by
    rw [intercalate_concat]
    simp only [List.mem_append, List.mem_flatMap, List.mem_singleton]
    grind
  rw [lowerChars_of_simple simple, lowerChars_of_simple last_simple, intercalate_concat,
    intercalate_concat, List.map_append, List.map_flatMap, List.flatMap_map]
  congr 1
  refine List.flatMap_congr fun cs mem => ?_
  rw [lowerChars_of_simple (texts_simple cs mem)]
  simp [lowerChar_of_isPlain plain]

/-! ## The order of bytes -/

/-- The bytes of a text. -/
def bytes (s : String) : List UInt8 :=
  s.toUTF8.data.toList

theorem bytes_eq_flatMap (s : String) : bytes s = s.toList.flatMap String.utf8EncodeChar := by
  have encoded : s.toUTF8 = (s.toList.flatMap String.utf8EncodeChar).toByteArray :=
    String.utf8Encode_toList.symm
  rw [bytes, encoded, List.data_toByteArray]

theorem ofNat_inj_of_lt {a b : Nat} (a_byte : a < UInt8.size) (b_byte : b < UInt8.size) :
    UInt8.ofNat a = UInt8.ofNat b ↔ a = b := by
  rw [← UInt8.toNat_inj, UInt8.toNat_ofNat_of_lt' a_byte, UInt8.toNat_ofNat_of_lt' b_byte]

/-- The lesser character has the lesser bytes, whatever follows it. -/
theorem encodeChar_append_lt {c d : Char} (less : c < d) (cs ds : List UInt8) :
    String.utf8EncodeChar c ++ cs < String.utf8EncodeChar d ++ ds := by
  have code_less : c.val.toNat < d.val.toNat := less
  have code_bounded : d.val.toNat < 0x110000 := by
    rcases d.valid with low | ⟨_, high⟩ <;> omega
  have second (k : Nat) : k / 4096 = k / 64 / 64 := by rw [Nat.div_div_eq_div_mul]
  have third (k : Nat) : k / 262144 = k / 64 / 64 / 64 := by
    rw [Nat.div_div_eq_div_mul, Nat.div_div_eq_div_mul]
  have size_eq : UInt8.size = 256 := rfl
  simp only [String.utf8EncodeChar, second, third]
  generalize c.val.toNat = m at *
  generalize d.val.toNat = n at *
  -- One case for each pair of lengths: either the first bytes differ, or all are compared.
  repeat' split
  all_goals
    simp (disch := omega) only [List.cons_append, List.nil_append, List.cons_lt_cons_iff,
      UInt8.ofNat_lt_iff_lt, ofNat_inj_of_lt]
    omega

/-- Texts stand in the order of their bytes. -/
theorem bytes_lt_bytes_of_lt {s t : String} (less : s < t) : bytes s < bytes t := by
  rw [bytes_eq_flatMap, bytes_eq_flatMap]
  have chars_less : List.Lex (· < ·) s.toList t.toList := String.lt_iff_toList_lt.mp less
  generalize s.toList = cs at chars_less
  generalize t.toList = ds at chars_less
  induction chars_less with
  | @nil d ds =>
      obtain ⟨b, others, some_byte⟩ :=
        List.exists_cons_of_ne_nil (String.utf8EncodeChar_ne_nil (c := d))
      rw [List.flatMap_cons, some_byte]
      exact List.nil_lt_cons _ _
  | cons later ih => exact List.append_left_lt ih
  | rel less => exact encodeChar_append_lt less _ _

theorem bytes_lt_bytes_iff {s t : String} : bytes s < bytes t ↔ s < t := by
  constructor
  · intro less
    rcases lt_trichotomy s t with before | rfl | after
    · exact before
    · exact absurd less (List.lt_irrefl _)
    · exact absurd less (List.lt_asymm (bytes_lt_bytes_of_lt after))
  · exact bytes_lt_bytes_of_lt

end Rotation.Text
