import Rotation.Terminal.Glyph

/-!
# Wrapping

A line that is too long for a panel is broken at its gaps, and inside a word
only if the word alone fills a row.  Blanks are kept, but those at a break are
dropped as far as they would have filled the row.
-/

namespace Rotation.Terminal

/-- The state of the wrapping of a line: the rows that are complete, the row
that is being filled, and the gap and the word after it that have not been
placed.  `afterWord` tells whether the last mark that was kept is no gap. -/
structure Wrapping where
  rows : Array (List Mark)
  row : List Mark
  gap : List Mark
  word : List Mark
  afterWord : Bool

namespace Wrapping

/-- Nothing read yet. -/
def start : Wrapping :=
  ⟨#[], [], [], [], false⟩

/-- Place the gap and the word in the row. -/
def place (w : Wrapping) : Wrapping :=
  { w with row := w.row ++ w.gap ++ w.word, gap := [], word := [] }

/-- Drop as much of a gap as fits a number of columns. -/
def dropFitting : Nat → List Mark → List Mark
  | _, [] => []
  | left, m :: rest =>
    if left < m.glyph.width then m :: rest else dropFitting (left - m.glyph.width) rest

/-- What is left of a gap is its end. -/
theorem dropFitting_suffix (left : Nat) (gap : List Mark) : dropFitting left gap <:+ gap := by
  induction gap generalizing left with
  | nil => exact List.suffix_rfl
  | cons m rest ih =>
    unfold dropFitting
    split
    · exact List.suffix_rfl
    · exact (ih _).trans (List.suffix_cons m rest)

/-- Complete the row. -/
def breakRow (columns : Nat) (w : Wrapping) : Wrapping :=
  { w with
    rows := w.rows.push w.row
    row := []
    gap := dropFitting (columns - Mark.width w.row) w.gap }

/-- Keep a mark as part of the gap or of the word. -/
def keep (m : Mark) (w : Wrapping) : Wrapping :=
  if m.glyph.isGap then { w with gap := w.gap ++ [m], afterWord := false }
  else { w with word := w.word ++ [m], afterWord := true }

/-- Whether what has not been placed is placed before a mark: a word has ended,
or would fill an empty row. -/
def isDue (columns : Nat) (m : Mark) (w : Wrapping) : Bool :=
  (w.afterWord && m.glyph.isGap) ||
    (w.row.isEmpty && columns < Mark.width w.word + Mark.width w.gap + m.glyph.width)

/-- Whether the row is complete before a mark. -/
def isFull (columns : Nat) (m : Mark) (w : Wrapping) : Bool :=
  columns ≤ Mark.width w.row ||
    (0 < m.glyph.width &&
      columns ≤ Mark.width w.row + Mark.width w.gap + Mark.width w.word)

/-- Read a mark. -/
def read (columns : Nat) (w : Wrapping) (m : Mark) : Wrapping :=
  if columns < m.glyph.width then w
  else
    let w := if w.isDue columns m then w.place else w
    if w.isFull columns m then
      let w := w.breakRow columns
      if m.glyph.isGap && w.gap.isEmpty then w else w.keep m
    else w.keep m

/-- The rows of a line that has been read. -/
def finish (w : Wrapping) : List (List Mark) :=
  let lone := w.row.isEmpty && w.word.isEmpty && !w.gap.isEmpty
  let rows := if lone then w.rows.push [] else w.rows
  let last := w.row ++ w.gap ++ w.word
  let rows := if last.isEmpty then rows else rows.push last
  if rows.isEmpty then [[]] else rows.toList

end Wrapping

/-- The rows of a line that is wrapped at a number of columns. -/
def wrap (columns : Nat) (line : List Mark) : List (List Mark) :=
  (line.foldl (Wrapping.read columns) .start).finish

end Rotation.Terminal
