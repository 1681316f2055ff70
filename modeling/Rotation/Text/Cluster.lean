import Rotation.Text.Character
import Rotation.Text.ClusterTable

/-!
# Grapheme clusters

What a reader takes for one character can be several characters of a text: a
letter with its marks, a syllable, a flag, a family of emoji.  A text is cut
into such clusters by the rules of Unicode for extended grapheme clusters.
Nothing is lost by the cut, and no cluster is empty.
-/

namespace Rotation.Text

/-- What a character is to the boundaries beside it. -/
inductive ClusterClass where
  | other
  | carriageReturn
  | lineFeed
  | control
  | extend
  | linker
  | joiner
  | spacing
  | prepend
  | flagLetter
  | pictograph
  | consonant
  | leading
  | vowel
  | trailing
  | openSyllable
  | closedSyllable
  deriving DecidableEq, Repr

namespace ClusterClass

/-- The class of a part of a syllable of Hangul, or of a whole one. -/
def ofSyllable? (n : Nat) : Option ClusterClass :=
  if n < 0x1100 then none
  else if n ≤ 0x115F || (0xA960 ≤ n && n ≤ 0xA97C) then some .leading
  else if n ≤ 0x11A7 || (0xD7B0 ≤ n && n ≤ 0xD7C6) || n == 0x16D63 ||
      (0x16D67 ≤ n && n ≤ 0x16D6A) then some .vowel
  else if n ≤ 0x11FF || (0xD7CB ≤ n && n ≤ 0xD7FB) then some .trailing
  else if 0xAC00 ≤ n && n ≤ 0xD7A3 then
    some (if (n - 0xAC00) % 28 = 0 then .openSyllable else .closedSyllable)
  else none

/-- The class of a character. -/
def ofChar (c : Char) : ClusterClass :=
  let n := c.toNat
  if c = '\r' then .carriageReturn
  else if c = '\n' then .lineFeed
  else if 0x20 ≤ n && n < 0x7F then .other
  else if c = '\u200d' then .joiner
  else if 0x1F1E6 ≤ n && n ≤ 0x1F1FF then .flagLetter
  else if linkers.contains n then .linker
  else if inIntervals extendIntervals n then .extend
  else if inIntervals spacingIntervals n then .spacing
  else if inIntervals controlIntervals n then .control
  else if inIntervals pictographIntervals n then .pictograph
  else if inIntervals consonantIntervals n then .consonant
  else if inIntervals prependIntervals n then .prepend
  else (ofSyllable? n).getD .other

/-- Whether there is a boundary on both sides. -/
def isAlone : ClusterClass → Bool
  | .carriageReturn | .lineFeed | .control => true
  | _ => false

/-- Whether there is no boundary before it. -/
def isAttached : ClusterClass → Bool
  | .extend | .linker | .joiner | .spacing => true
  | _ => false

/-- Whether two parts of syllables belong to one syllable. -/
def syllableGoesOn : ClusterClass → ClusterClass → Bool
  | .leading, b => b == .leading || b == .vowel || b == .openSyllable || b == .closedSyllable
  | .openSyllable, b | .vowel, b => b == .vowel || b == .trailing
  | .closedSyllable, b | .trailing, b => b == .trailing
  | _, _ => false

end ClusterClass

/-- Whether a character may stand between two consonants of a conjunct. -/
def isConjunctMark (c : Char) : Bool :=
  match ClusterClass.ofChar c with
  | .extend => c != '\u200c'
  | .linker | .joiner => true
  | _ => false

/-- Whether what stands before, read backwards, is a consonant and a linker,
perhaps among other marks. -/
def awaitsConsonant (before : List Char) : Bool :=
  (before.takeWhile isConjunctMark).any (fun c => ClusterClass.ofChar c == .linker) &&
    (before.dropWhile isConjunctMark).head?.any fun c => ClusterClass.ofChar c == .consonant

/-- Whether what stands before, read backwards, is a pictograph and a joiner. -/
def awaitsPictograph : List Char → Bool
  | [] => false
  | c :: before =>
    let isMark := fun c => ClusterClass.ofChar c == .extend || ClusterClass.ofChar c == .linker
    ClusterClass.ofChar c == .joiner &&
      (before.dropWhile isMark).head?.any fun c => ClusterClass.ofChar c == .pictograph

/-- Whether what stands before, read backwards, ends with the first letter of a
flag. -/
def awaitsFlagLetter (before : List Char) : Bool :=
  (before.takeWhile fun c => ClusterClass.ofChar c == .flagLetter).length % 2 == 1

/-- Whether a character belongs to the cluster that stands before it, read
backwards. -/
def belongs (before : List Char) (c : Char) : Bool :=
  match before with
  | [] => false
  | last :: _ =>
    let a := ClusterClass.ofChar last
    let b := ClusterClass.ofChar c
    if a.isAlone || b.isAlone then a == .carriageReturn && b == .lineFeed
    else
      b.isAttached || a == .prepend || a.syllableGoesOn b ||
        (b == .consonant && awaitsConsonant before) ||
        (b == .pictograph && awaitsPictograph before) ||
        (b == .flagLetter && awaitsFlagLetter before)

/-- The clusters of a text; `before` is what has been read of the first one,
read backwards. -/
def clustersFrom (before : List Char) : List Char → List (List Char)
  | [] => if before.isEmpty then [] else [before.reverse]
  | c :: rest =>
    if before.isEmpty || belongs before c then clustersFrom (c :: before) rest
    else before.reverse :: clustersFrom [c] rest

/-- The clusters of a text. -/
def clusters (cs : List Char) : List (List Char) :=
  clustersFrom [] cs

theorem flatten_clustersFrom (before cs : List Char) :
    (clustersFrom before cs).flatten = before.reverse ++ cs := by
  induction cs generalizing before with
  | nil => cases before <;> simp [clustersFrom]
  | cons c rest ih =>
    unfold clustersFrom
    split
    · simp [ih]
    · simp [ih]

/-- Nothing is lost. -/
theorem flatten_clusters (cs : List Char) : (clusters cs).flatten = cs := by
  simp [clusters, flatten_clustersFrom]

theorem ne_nil_of_mem_clustersFrom {before cs cluster : List Char}
    (h : cluster ∈ clustersFrom before cs) : cluster ≠ [] := by
  induction cs generalizing before with
  | nil => cases before <;> simp_all [clustersFrom]
  | cons c rest ih =>
    unfold clustersFrom at h
    split at h
    · exact ih h
    · rename_i begun
      rcases List.mem_cons.1 h with rfl | later
      · cases before <;> simp_all
      · exact ih later

/-- No cluster is empty. -/
theorem ne_nil_of_mem_clusters {cs cluster : List Char} (h : cluster ∈ clusters cs) :
    cluster ≠ [] :=
  ne_nil_of_mem_clustersFrom h

end Rotation.Text
