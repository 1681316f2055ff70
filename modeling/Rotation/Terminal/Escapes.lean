import Rotation.Terminal.Canvas

/-!
# Escape sequences

The text that makes a terminal show a canvas.  Colours are set wherever the
look of the cells changes.
-/

namespace Rotation.Terminal

/-- The escape character. -/
def escape : String :=
  "\x1b"

/-- The number of a colour, counted from the colours of the front. -/
def Ink.number : Ink → Nat
  | .black => 30
  | .red => 31
  | .green => 32
  | .yellow => 33
  | .cyan => 36
  | .white => 97
  | .default => 39
  | .darkGray => 90
  | .lightBlue => 94

/-- The sequence that sets the look of a cell. -/
def Cell.lookSequence (c : Cell) : String :=
  escape ++ "[0;" ++ (if c.bold then "1;" else "") ++ toString c.front.number ++ ";" ++
    toString (c.back.number + 10) ++ "m"

namespace Canvas

/-- The cells of a row that are not hidden. -/
def visible (c : Canvas) (row : Nat) : List Cell :=
  (((c.row row).zipIdx (row * c.width)).filter fun cell => !c.isHidden cell.2).map Prod.fst

/-- A row as a terminal is told to show it. -/
def rowSequence (row : List Cell) : String :=
  let step := fun (text, last) (cell : Cell) =>
    let look := cell.lookSequence
    (text ++ (if last = look then "" else look) ++ cell.symbol, look)
  (row.foldl step ("", "")).1

/-- A canvas as a terminal is told to show it, from its upper left corner on. -/
def sequence (c : Canvas) : String :=
  escape ++ "[H" ++ (escape ++ "[0m\r\n").intercalate
    ((List.range c.height).map fun i => rowSequence (c.visible i))

end Canvas

/-- Turn to a screen of its own, and report the wheel of the mouse. -/
def enterScreen : String :=
  escape ++ "[?1049h" ++ escape ++ "[?1000h" ++ escape ++ "[?1006h"

/-- Turn back to the screen from before. -/
def leaveScreen : String :=
  escape ++ "[?1006l" ++ escape ++ "[?1000l" ++ escape ++ "[?1049l"

end Rotation.Terminal
