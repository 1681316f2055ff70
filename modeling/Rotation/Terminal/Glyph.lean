import Rotation.Terminal.Style
import Rotation.Terminal.Width
import Rotation.Text.Character
import Rotation.Text.Cluster

/-!
# Glyphs

A terminal shows a text as a row of glyphs.  A glyph is a grapheme cluster and
takes a number of columns; those of no column are only shown together with
others.  A lone end of a line is no glyph.
-/

namespace Rotation.Terminal

/-- What is shown at one place of a terminal. -/
structure Glyph where
  text : String
  width : Nat
  deriving DecidableEq, Repr

namespace Glyph

/-- The glyph of a cluster. -/
def ofCluster (cluster : List Char) : Glyph :=
  ⟨String.ofList cluster, columns cluster⟩

/-- The glyphs of a text. -/
def ofText (s : String) : List Glyph :=
  ((Text.clusters s.toList).filter (· != ['\n'])).map ofCluster

/-- Whether a glyph separates words: a blank that is not made to hold words
together, or the mark of a possible break. -/
def isGap (g : Glyph) : Bool :=
  g.text == "\u200b" || (Text.allBlank g.text && g.text != "\u00a0")

end Glyph

/-- A glyph in a style. -/
structure Mark where
  glyph : Glyph
  style : Style
  deriving DecidableEq, Repr

namespace Mark

/-- The marks of a row of spans. -/
def ofSpans (spans : List Span) : List Mark :=
  spans.flatMap fun s => (Glyph.ofText s.text).map fun g => ⟨g, s.style⟩

/-- How many columns marks take. -/
def width (marks : List Mark) : Nat :=
  marks.foldr (fun m n => m.glyph.width + n) 0

/-- The marks from the beginning that fit a number of columns; a mark that
would not even fit an empty row is passed over. -/
def fitting (columns : Nat) : List Mark → List Mark :=
  go columns
where
  /-- The marks that fit what is left of the row. -/
  go (left : Nat) : List Mark → List Mark
    | [] => []
    | m :: rest =>
      if columns < m.glyph.width then go left rest
      else if left < m.glyph.width then []
      else m :: go (left - m.glyph.width) rest

theorem width_cons (m : Mark) (rest : List Mark) : width (m :: rest) = m.glyph.width + width rest :=
  rfl

theorem width_go_le (columns left : Nat) (marks : List Mark) :
    width (fitting.go columns left marks) ≤ left := by
  induction marks generalizing left with
  | nil => exact Nat.zero_le left
  | cons m rest ih =>
    unfold fitting.go
    split
    · exact ih left
    · split
      · exact Nat.zero_le left
      · rename_i _ fits
        have inner := ih (left - m.glyph.width)
        rw [width_cons]
        omega

/-- The marks that fit do fit. -/
theorem width_fitting_le (columns : Nat) (marks : List Mark) :
    width (fitting columns marks) ≤ columns :=
  width_go_le columns columns marks

end Mark

end Rotation.Terminal
