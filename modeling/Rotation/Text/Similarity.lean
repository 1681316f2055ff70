/-!
# Similarity of words

How much two words are alike, by Jaro's measure: from zero for words without a
common character to one for equal words.  Characters are common if they stand
at nearly the same place of both words.
-/

namespace Rotation.Text

/-- Use up the first character that equals the given one and has not been used,
among the places from `low` up to `high`. -/
def useUp (c : Char) (low high : Nat) (word : List (Char × Bool)) : Option (List (Char × Bool)) :=
  let isFit := fun ((d, used), place) => low ≤ place && place < high && d == c && !used
  (word.zipIdx.findIdx? isFit).map fun place => word.modify place fun (d, _) => (d, true)

/-- The common characters of two words, in the order of each of them; a common
character stands at most so many places apart. -/
def common (a b : List Char) (range : Nat) : List Char × List Char :=
  let step := fun (found, word) ((c, place) : Char × Nat) =>
    match useUp c (place - range) (place + range + 1) word with
    | some word => (found ++ [c], word)
    | none => (found, word)
  let (found, word) := a.zipIdx.foldl step ([], b.map fun c => (c, false))
  (found, (word.filter Prod.snd).map Prod.fst)

/-- The similarity of two words. -/
def similarity (a b : List Char) : Float :=
  let (inA, inB) := common a b (max a.length b.length / 2 - 1)
  let swaps := ((inA.zip inB).countP fun (c, d) => c != d) / 2
  let count := inA.length
  if a.isEmpty && b.isEmpty then 1
  else if count = 0 then 0
  else
    (count.toFloat / a.length.toFloat + count.toFloat / b.length.toFloat +
      (count - swaps).toFloat / count.toFloat) / 3

/-- The least similarity of words that may be taken for each other. -/
def similarityFloor : Float :=
  0.7

/-- The words that a word may have been meant for, the most similar one last. -/
def similarWords (word : String) (words : List String) : List String :=
  let rated := words.map fun w => (w, similarity word.toList w.toList)
  ((rated.filter fun r => similarityFloor < r.2).mergeSort fun r s => r.2 ≤ s.2).map Prod.fst

end Rotation.Text
