import Rotation.Terminal.Wrap

/-!
# Canvases

A canvas is a grid of cells, each with a symbol, two colours and a weight.
Drawing outside the grid has no effect.  Panels are areas of a canvas with a
border around them and lines of marks inside.
-/

namespace Rotation.Terminal

/-- A cell of a canvas. -/
structure Cell where
  symbol : String
  front : Ink
  back : Ink
  bold : Bool
  deriving DecidableEq, Repr, Inhabited

namespace Cell

/-- A cell with a symbol in the terminal's own colours. -/
def bare (symbol : String) : Cell :=
  ⟨symbol, .default, .default, false⟩

/-- The cell with a style over it. -/
def dress (s : Style) (c : Cell) : Cell :=
  { c with front := s.front.getD c.front, back := s.back.getD c.back, bold := c.bold || s.bold }

/-- The cell with another symbol and a style over it. -/
def put (symbol : String) (s : Style) (c : Cell) : Cell :=
  { c.dress s with symbol }

/-- The cell with something more in it. -/
def add (symbol : String) (c : Cell) : Cell :=
  { c with symbol := c.symbol ++ symbol }

/-- How many columns of a terminal the symbol of a cell takes. -/
def width (c : Cell) : Nat :=
  columns c.symbol.toList

/-- The look of a cell apart from its symbol. -/
def look (c : Cell) : String :=
  c.front.name ++ "|" ++ c.back.name ++ "|" ++ if c.bold then "BOLD" else ""

end Cell

/-- A rectangle of cells. -/
structure Area where
  column : Nat
  row : Nat
  width : Nat
  height : Nat
  deriving DecidableEq, Repr

namespace Area

/-- The area inside a border; the border may lack its upper side. -/
def inside (a : Area) (upper : Bool) : Area :=
  let top := if upper then 1 else 0
  ⟨a.column + 1, a.row + top, a.width - 2, a.height - 1 - top⟩

/-- The rows from some row of an area on. -/
def rows (a : Area) (start height : Nat) : Area :=
  { a with row := a.row + start, height }

/-- The middle of an area, with at most the given size. -/
def middle (a : Area) (width height : Nat) : Area :=
  ⟨a.column + (a.width - width) / 2, a.row + (a.height - height) / 2, min width a.width,
    min height a.height⟩

end Area

/-- A grid of cells, row after row. -/
structure Canvas where
  width : Nat
  height : Nat
  cells : Array Cell

namespace Canvas

/-- A canvas full of one symbol. -/
def filled (width height : Nat) (symbol : String) : Canvas :=
  ⟨width, height, Array.replicate (width * height) (.bare symbol)⟩

/-- The whole canvas as an area. -/
def area (c : Canvas) : Area :=
  ⟨0, 0, c.width, c.height⟩

/-- Change a cell. -/
def change (c : Canvas) (column row : Nat) (f : Cell → Cell) : Canvas :=
  if column < c.width then { c with cells := c.cells.modify (row * c.width + column) f } else c

@[simp]
theorem width_change (c : Canvas) (column row : Nat) (f : Cell → Cell) :
    (c.change column row f).width = c.width := by
  unfold change
  split <;> rfl

@[simp]
theorem height_change (c : Canvas) (column row : Nat) (f : Cell → Cell) :
    (c.change column row f).height = c.height := by
  unfold change
  split <;> rfl

/-- Drawing keeps the number of cells. -/
theorem size_change (c : Canvas) (column row : Nat) (f : Cell → Cell) :
    (c.change column row f).cells.size = c.cells.size := by
  unfold change
  split
  · exact Array.size_modify
  · rfl

/-- Change a part of a row. -/
def changeRow (c : Canvas) (column row width : Nat) (f : Cell → Cell) : Canvas :=
  (List.range width).foldl (fun c i => c.change (column + i) row f) c

/-- Change an area. -/
def changeArea (c : Canvas) (a : Area) (f : Cell → Cell) : Canvas :=
  (List.range a.height).foldl (fun c i => c.changeRow a.column (a.row + i) a.width f) c

/-- Empty an area. -/
def clear (c : Canvas) (a : Area) : Canvas :=
  c.changeArea a fun _ => .bare " "

/-- Draw marks from a cell on; those without width are not shown. -/
def marks (c : Canvas) (column row : Nat) : List Mark → Canvas
  | [] => c
  | m :: rest =>
    let drawn := if m.glyph.width = 0 then c else c.change column row (.put m.glyph.text m.style)
    drawn.marks (column + m.glyph.width) row rest

/-- Draw a row at the left of an area, as far as it fits. -/
def rowAt (c : Canvas) (a : Area) (row : Nat) (line : List Mark) : Canvas :=
  if row < a.height then c.marks a.column (a.row + row) (Mark.fitting a.width line) else c

/-- Draw a row in the middle of an area, as far as it fits. -/
def rowInMiddle (c : Canvas) (a : Area) (row : Nat) (line : List Mark) : Canvas :=
  let shown := Mark.fitting a.width line
  if row < a.height then
    c.marks (a.column + (a.width / 2 - Mark.width shown / 2)) (a.row + row) shown
  else c

/-- Draw rows from the top of an area on, as far as they fit. -/
def rows (c : Canvas) (a : Area) (lines : List (List Mark)) : Canvas :=
  (lines.take a.height).zipIdx.foldl (fun c line => c.rowAt a line.2 line.1) c

/-- Draw rows from the top of an area on; what does not fit is wrapped.  A wide
glyph at the end of a row may stand out of the area. -/
def wrappedRows (c : Canvas) (a : Area) (lines : List (List Mark)) : Canvas :=
  ((lines.flatMap (wrap a.width)).take a.height).zipIdx.foldl
    (fun c line => c.marks a.column (a.row + line.2) line.1) c

/-- Empty the cells that a glyph takes after its first one. -/
def makeRoom (c : Canvas) (column row : Nat) (g : Glyph) : Canvas :=
  c.changeRow (column + 1) row (g.width - 1) fun _ => .bare " "

/-- Draw the further glyphs of a label, up to a column.  A glyph without width
is added to the cell before it, and all are added to the first cell as long as
that takes no column. -/
def labelRest (c : Canvas) (start row ending column : Nat) : List Glyph → Canvas
  | [] => c
  | g :: rest =>
    if ending < column + g.width then c
    else
      let drawn :=
        if column = start then c.change start row (.add g.text)
        else if g.width = 0 then c.change (column - 1) row (.add g.text)
        else c.change column row (.put g.text .plain)
      (drawn.makeRoom column row g).labelRest start row ending (column + g.width) rest

/-- Draw a label at the left of an area, as far as it fits; one that takes no
column is not shown. -/
def label (c : Canvas) (a : Area) (row : Nat) (text : String) : Canvas :=
  match Glyph.ofText text with
  | [] => c
  | g :: rest =>
    if a.height ≤ row || columns text.toList = 0 || a.width < g.width then c
    else
      let drawn := c.change a.column (a.row + row) (.put g.text .plain)
      (drawn.makeRoom a.column (a.row + row) g).labelRest a.column (a.row + row)
        (a.column + a.width) (a.column + g.width) rest

/-- Draw a border; it may lack its upper side. -/
def border (c : Canvas) (a : Area) (upper : Bool) (ink : Ink) : Canvas :=
  let draw := fun symbol (c : Canvas) column row => c.change column row (.put symbol (.ink ink))
  let right := a.column + a.width - 1
  let bottom := a.row + a.height - 1
  let sides := (List.range a.height).foldl (fun c i =>
    draw "│" (draw "│" c a.column (a.row + i)) right (a.row + i)) c
  let lower := sides.changeRow a.column bottom a.width (.put "─" (.ink ink))
  let cornered := draw "┘" (draw "└" lower a.column bottom) right bottom
  if upper then
    let top := cornered.changeRow a.column a.row a.width (.put "─" (.ink ink))
    draw "┐" (draw "┌" top a.column a.row) right a.row
  else cornered

/-- Draw a border with a title. -/
def titledBorder (c : Canvas) (a : Area) (title : String) (ink : Ink) : Canvas :=
  (c.border a true ink).rowAt { a with column := a.column + 1, width := a.width - 2 } 0
    (Mark.ofSpans [.plain title])

/-! ## What is on a canvas -/

/-- Whether a cell is hidden by a wide symbol in the cell before it. -/
def isHidden (c : Canvas) (i : Nat) : Bool :=
  0 < i && (c.cells[i - 1]?).any fun cell => 1 < cell.width

/-- The canvas as a terminal shows it: hidden cells are empty. -/
def shown (c : Canvas) : Canvas :=
  { c with
    cells := c.cells.mapIdx fun i cell => if c.isHidden i then .bare " " else cell }

/-- The cells of a row. -/
def row (c : Canvas) (i : Nat) : List Cell :=
  (c.cells.extract (i * c.width) ((i + 1) * c.width)).toList

/-- The text of a row without the blanks at its end. -/
def text (row : List Cell) : String :=
  let all := row.flatMap fun cell => cell.symbol.toList
  String.ofList (all.reverse.dropWhile Text.isBlank).reverse

/-- The texts of all rows. -/
def texts (c : Canvas) : List String :=
  (List.range c.height).map fun i => text (c.row i)

/-- The runs of cells of one look, with the column where each begins and its
length. -/
def runs (row : List Cell) : List (Nat × Nat × String) :=
  go 0 (row.map Cell.look)
where
  /-- The runs from a column on. -/
  go (column : Nat) : List String → List (Nat × Nat × String)
    | [] => []
    | look :: rest =>
      match go (column + 1) rest with
      | (_, width, next) :: later =>
        if next = look then (column, width + 1, look) :: later
        else (column, 1, look) :: (column + 1, width, next) :: later
      | [] => [(column, 1, look)]

/-- The runs of all rows. -/
def allRuns (c : Canvas) : List (List (Nat × Nat × String)) :=
  (List.range c.height).map fun i => runs (c.row i)

end Canvas

end Rotation.Terminal
