/-!
# Lines, pieces and columns

A line ends with a line feed, perhaps after a carriage return.  The last line
of a text may lack its end.  A text is also cut into pieces, at every separator,
and brought to the width of a column by blanks; the width is counted in
characters.
-/

namespace Rotation.Text

/-! ## Lines -/

/-- What has been read of a line, backwards, without the carriage return that
belongs to its end. -/
def withoutReturn : List Char → List Char
  | '\r' :: before => before
  | before => before

/-- The lines of a text; `before` is what has been read of the first one, read
backwards. -/
def linesFrom (before : List Char) : List Char → List (List Char)
  | [] => if before.isEmpty then [] else [before.reverse]
  | c :: rest =>
    if c = '\n' then (withoutReturn before).reverse :: linesFrom [] rest
    else linesFrom (c :: before) rest

/-- The lines of a text. -/
def lines (s : String) : List String :=
  (linesFrom [] s.toList).map String.ofList

/-! ## Pieces -/

/-- The pieces of a text between separators. -/
def pieces (separator : Char) : List Char → List (List Char)
  | [] => [[]]
  | c :: rest =>
    if c = separator then [] :: pieces separator rest
    else
      match pieces separator rest with
      | [] => [[c]]
      | first :: others => (c :: first) :: others

theorem pieces_ne_nil (separator : Char) (cs : List Char) : pieces separator cs ≠ [] := by
  unfold pieces
  split
  · simp
  · split
    · simp
    · split <;> simp

/-- The pieces make up the text again. -/
theorem intercalate_pieces (separator : Char) (cs : List Char) :
    [separator].intercalate (pieces separator cs) = cs := by
  induction cs with
  | nil => rfl
  | cons c rest ih =>
    unfold pieces
    split
    · rename_i h
      subst h
      cases hp : pieces c rest with
      | nil => exact absurd hp (pieces_ne_nil c rest)
      | cons first others => simp_all [List.intercalate]
    · cases hp : pieces separator rest with
      | nil => exact absurd hp (pieces_ne_nil separator rest)
      | cons first others => cases others <;> simp_all [List.intercalate]

/-! ## Columns -/

/-- A number of blanks. -/
def blanks (n : Nat) : String :=
  String.ofList (List.replicate n ' ')

/-- The text at the left of a column. -/
def alignLeft (width : Nat) (s : String) : String :=
  s ++ blanks (width - s.length)

/-- The text at the right of a column. -/
def alignRight (width : Nat) (s : String) : String :=
  blanks (width - s.length) ++ s

end Rotation.Text
