/-!
# Styles

The colours of a terminal and how a piece of text is shown.  A style may leave
a colour open; what is shown in an open colour keeps the colour of its place.
-/

namespace Rotation.Terminal

/-- A colour of the terminal; the default is the terminal's own. -/
inductive Ink where
  | default
  | black
  | red
  | green
  | yellow
  | cyan
  | white
  | darkGray
  | lightBlue
  deriving DecidableEq, Repr, Inhabited

/-- The name of a colour. -/
def Ink.name : Ink → String
  | .default => "Reset"
  | .black => "Black"
  | .red => "Red"
  | .green => "Green"
  | .yellow => "Yellow"
  | .cyan => "Cyan"
  | .white => "White"
  | .darkGray => "DarkGray"
  | .lightBlue => "LightBlue"

/-- How a piece of text is shown. -/
structure Style where
  front : Option Ink
  back : Option Ink
  bold : Bool
  deriving DecidableEq, Repr, Inhabited

namespace Style

/-- The style that leaves everything open. -/
def plain : Style :=
  ⟨none, none, false⟩

/-- A colour. -/
def ink (front : Ink) : Style :=
  ⟨some front, none, false⟩

/-- A colour in bold. -/
def strong (front : Ink) : Style :=
  ⟨some front, none, true⟩

/-- A colour in bold on another one. -/
def sign (front back : Ink) : Style :=
  ⟨some front, some back, true⟩

end Style

/-- A piece of text in one style. -/
structure Span where
  text : String
  style : Style
  deriving DecidableEq, Repr

namespace Span

/-- A text in no style of its own. -/
def plain (text : String) : Span :=
  ⟨text, .plain⟩

/-- A text in a colour. -/
def ink (text : String) (front : Ink) : Span :=
  ⟨text, .ink front⟩

/-- A text in a colour and in bold. -/
def strong (text : String) (front : Ink) : Span :=
  ⟨text, .strong front⟩

end Span

end Rotation.Terminal
