import Rotation.Terminal.Canvas
import Rotation.Word.Checked

/-!
# Dialogs

A dialog asks a question that is answered with yes or no, and stands on no at
first.
-/

namespace Rotation.Console

open Terminal

/-- A question with the answer that is chosen so far. -/
structure Dialog where
  question : String
  yes : Bool
  deriving DecidableEq, Repr

namespace Dialog

/-- Ask a question. -/
def ask (question : String) : Dialog :=
  ⟨question, false⟩

/-- Choose the other answer. -/
def toggle (d : Dialog) : Dialog :=
  { d with yes := !d.yes }

@[simp]
theorem toggle_toggle (d : Dialog) : d.toggle.toggle = d := by
  cases d
  simp [toggle]

/-- The smallest width of a dialog. -/
def leastWidth : Nat :=
  36

/-- The height of a dialog. -/
def height : Nat :=
  8

/-- The width of a dialog: its question has room.  The length of the question is
taken as a word of 16 bits. -/
def width (d : Dialog) : Checked Nat := do
  return max leastWidth (← Unsigned.add 16 (d.question.length % UInt16.size) 6)

/-- The style of a button; the chosen one is a sign. -/
def button (chosen : Bool) (back : Ink) : Style :=
  if chosen then .sign .black back else .ink .darkGray

/-- The row of buttons. -/
def buttons (d : Dialog) : List Span :=
  [⟨"  [Yes]  ", button d.yes .green⟩, .plain "   ", ⟨"  [No]  ", button (!d.yes) .red⟩]

/-- Draw a dialog over a canvas. -/
def draw (d : Dialog) (c : Canvas) : Checked Canvas := do
  let area := c.area.middle (← d.width) height
  let inner := area.inside true
  let box := (c.clear area).titledBorder area " Confirm " .yellow
  let line := fun row spans (c : Canvas) => c.rowInMiddle inner row (Mark.ofSpans spans)
  return line 5 [.ink "y/n, tab to switch, enter to choose" .darkGray]
    (line 3 d.buttons (line 1 [.ink d.question .white] box))

end Dialog

end Rotation.Console
