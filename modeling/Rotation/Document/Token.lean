/-!
# Tokens of a written document

The text of a document is cut into marks, words, number literals and quoted
texts.  The lexer reads one character at a time; its mode holds what the
token under way has so far.  A quoted text may spell half of a surrogate pair:
such a text is well formed but has no content.
-/

namespace Rotation.Document

/-- The marks, words and literals of a written document. -/
inductive Token where
  | openRecord
  | closeRecord
  | openList
  | closeList
  | colon
  | comma
  | null
  | bool (value : Bool)
  | number (literal : List Char)
  | text (content : Option String)
  deriving DecidableEq, Repr

namespace Lexer

/-- The part of a quoted text that has been read.  `done` is in reverse; `high`
is the first half of a surrogate pair whose second half has to follow. -/
structure Quoted where
  done : List Char
  high : Option Nat
  readable : Bool

/-- What the lexer is in the middle of; letters and digits are in reverse. -/
inductive Mode where
  | between
  | word (letters : List Char)
  | number (characters : List Char)
  | quoted (text : Quoted)
  | escape (text : Quoted)
  | unit (text : Quoted) (left : Nat) (value : Nat)

namespace Quoted

/-- Nothing read yet. -/
def empty : Quoted :=
  ⟨[], none, true⟩

/-- One more character; a pending half pair is lost by it. -/
def push (q : Quoted) (c : Char) : Quoted :=
  { done := c :: q.done, high := none, readable := q.readable && q.high.isNone }

/-- One more 16-bit unit. -/
def pushUnit (q : Quoted) (u : Nat) : Quoted :=
  match q.high with
  | some high =>
    if 0xDC00 ≤ u ∧ u ≤ 0xDFFF then
      { q with done := Char.ofNat (0x10000 + (high - 0xD800) * 0x400 + (u - 0xDC00)) :: q.done
               high := none }
    else { q with high := none, readable := false }
  | none =>
    if 0xD800 ≤ u ∧ u ≤ 0xDBFF then { q with high := some u }
    else if 0xDC00 ≤ u ∧ u ≤ 0xDFFF then { q with readable := false }
    else { q with done := Char.ofNat u :: q.done }

/-- The token of a text that has been read to its closing quote. -/
def token (q : Quoted) : Token :=
  .text (if q.readable && q.high.isNone then some (String.ofList q.done.reverse) else none)

end Quoted

/-- Blanks between tokens. -/
def isSpace (c : Char) : Bool :=
  c == ' ' || c == '\n' || c == '\t' || c == '\r'

/-- Characters of which number literals consist. -/
def isNumeric (c : Char) : Bool :=
  c.isDigit || c == '-' || c == '+' || c == '.' || c == 'e' || c == 'E'

/-- The value of a hexadecimal digit. -/
def hexValue? (c : Char) : Option Nat :=
  if c.isDigit then some (c.toNat - '0'.toNat)
  else if 'a' ≤ c ∧ c ≤ 'f' then some (c.toNat - 'a'.toNat + 10)
  else if 'A' ≤ c ∧ c ≤ 'F' then some (c.toNat - 'A'.toNat + 10)
  else none

/-- The character that a one-letter escape stands for. -/
def escaped? : Char → Option Char
  | '"' => some '"'
  | '\\' => some '\\'
  | '/' => some '/'
  | 'b' => some '\x08'
  | 'f' => some '\x0c'
  | 'n' => some '\n'
  | 'r' => some '\r'
  | 't' => some '\t'
  | _ => none

/-- The token of a word. -/
def wordToken? : List Char → Option Token
  | ['n', 'u', 'l', 'l'] => some .null
  | ['t', 'r', 'u', 'e'] => some (.bool true)
  | ['f', 'a', 'l', 's', 'e'] => some (.bool false)
  | _ => none

/-- Begin a token, or complete a mark, at a character between tokens. -/
def start (c : Char) : Option (Mode × List Token) :=
  if isSpace c then some (.between, [])
  else if c.isDigit || c == '-' then some (.number [c], [])
  else if c.isLower then some (.word [c], [])
  else
    match c with
    | '"' => some (.quoted .empty, [])
    | '\x7b' => some (.between, [.openRecord])
    | '\x7d' => some (.between, [.closeRecord])
    | '[' => some (.between, [.openList])
    | ']' => some (.between, [.closeList])
    | ':' => some (.between, [.colon])
    | ',' => some (.between, [.comma])
    | _ => none

/-- The tokens that are due when no further character belongs to the mode. -/
def finish : Mode → Option (List Token)
  | .between => some []
  | .word letters => (wordToken? letters.reverse).map fun t => [t]
  | .number characters => some [.number characters.reverse]
  | .quoted _ | .escape _ | .unit _ _ _ => none

/-- Read one character. -/
def step (mode : Mode) (c : Char) : Option (Mode × List Token) :=
  match mode with
  | .between => start c
  | .word letters =>
    if c.isLower then some (.word (c :: letters), [])
    else do
      let ended ← finish mode
      let (next, begun) ← start c
      return (next, ended ++ begun)
  | .number characters =>
    if isNumeric c then some (.number (c :: characters), [])
    else do
      let ended ← finish mode
      let (next, begun) ← start c
      return (next, ended ++ begun)
  | .quoted q =>
    if c = '"' then some (.between, [q.token])
    else if c = '\\' then some (.escape q, [])
    else if c.toNat < 0x20 then none
    else some (.quoted (q.push c), [])
  | .escape q =>
    if c = 'u' then some (.unit q 3 0, [])
    else (escaped? c).map fun d => (.quoted (q.push d), [])
  | .unit q left value =>
    (hexValue? c).map fun d =>
      match left with
      | 0 => (.quoted (q.pushUnit (16 * value + d)), [])
      | left + 1 => (.unit q left (16 * value + d), [])

/-- Read the rest of a text in a mode; `done` holds the tokens so far in
reverse. -/
def run (mode : Mode) (done : List Token) : List Char → Option (List Token)
  | [] => (finish mode).map fun ended => done.reverse ++ ended
  | c :: rest =>
    match step mode c with
    | none => none
    | some (next, new) => run next (new.reverse ++ done) rest

end Lexer

/-- Cut a text into tokens. -/
def tokens? (text : String) : Option (List Token) :=
  Lexer.run .between [] text.toList

end Rotation.Document
