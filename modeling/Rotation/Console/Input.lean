import Rotation.Text.Line
import Rotation.Text.Number
import Rotation.Word.Checked

/-!
# What a user does at a terminal

A terminal sends what a user types as characters.  Some keys, the mouse and
pasted text are sent as sequences that begin with an escape; they are read
character by character until they are complete.  Modifiers do not matter, and
neither does the release or the repetition of a key.
-/

namespace Rotation.Console

/-- What a user does, as far as it can matter. -/
inductive Input where
  | char (c : Char)
  | enter
  | tab
  | escape
  | up
  | down
  | left
  | right
  | wheelUp
  | wheelDown
  deriving DecidableEq, Repr

/-- What a sequence of characters amounts to.  A complete one may mean nothing. -/
inductive Sequence where
  | unfinished
  | complete (input : Option Input)
  deriving DecidableEq, Repr

namespace Sequence

/-- The sequence without a meaning. -/
def void : Sequence :=
  .complete none

/-- The key of a single character. -/
def ofChar (c : Char) : Sequence :=
  let n := c.toNat
  if c = '\r' then .complete (some .enter)
  else if c = '\t' then .complete (some .tab)
  else if n = 0 then .complete (some (.char ' '))
  else if n ≤ 26 then .complete (some (.char (Char.ofNat (n + 96))))
  else if n = 127 then void
  else if n < 32 then .complete (some (.char (Char.ofNat (n + 24))))
  else .complete (some (.char c))

/-- The key that a letter at the end of a sequence stands for. -/
def ofLetter : Char → Option Input
  | 'A' => some .up
  | 'B' => some .down
  | 'C' => some .right
  | 'D' => some .left
  | _ => none

/-! ## Parts of sequences -/

/-- The number of the modifiers of a key, and whether the key has been pressed
rather than released or held. -/
def modifiers? : List (List Char) → Option (Nat × Bool)
  | [] => none
  | part :: _ =>
    match Text.pieces ':' part with
    | [] => none
    | mask :: kinds =>
      (Text.number? UInt8.size mask).map fun mask =>
        let kind := (kinds.head?.bind (Text.number? UInt8.size)).getD 1
        (mask, kind != 2 && kind != 3)

/-- Whether a shift key is among modifiers. -/
def holdsShift (mask : Nat) : Bool :=
  (mask - 1) % 2 == 1

/-- Whether a part tells a row or a column; they are counted from one. -/
def isPlace (part : List Char) : Checked Bool :=
  match Text.number? UInt16.size part with
  | some n => do
    discard (Unsigned.sub n 1)
    return true
  | none => return false

/-! ## The mouse -/

/-- What the mouse has done, by the number of its report. -/
def ofMouse? (number : Nat) : Option (Option Input) :=
  let button := number % 4 + number / 64 * 4
  let drag := number / 32 % 2 == 1
  if drag then (if button ≤ 5 then some none else none)
  else if button = 4 then some (some .wheelUp)
  else if button = 5 then some (some .wheelDown)
  else if button ≤ 7 then some none
  else none

/-- A report of the mouse: what it has done, and where. -/
def ofReport (number : Option Nat) (places : List (List Char)) : Checked Sequence := do
  match number.bind ofMouse? with
  | none => return void
  | some input =>
    let placed ← (places.take 2).allM isPlace
    return if placed && 2 ≤ places.length then .complete input else void

/-- A report of the mouse in three bytes. -/
def ofMouseBytes (bytes : List UInt8) : Checked Sequence := do
  match bytes with
  | number :: column :: row :: _ =>
    if number.toNat < 32 then return void
    match ofMouse? (number.toNat - 32) with
    | none => return void
    | some input =>
      discard (Unsigned.sub (column.toNat - 32) 1)
      discard (Unsigned.sub (row.toNat - 32) 1)
      return .complete input
  | _ => return .unfinished

/-- A report of the mouse in numbers. -/
def ofMouseNumbers (body : List Char) : Checked Sequence :=
  match Text.pieces ';' body with
  | [] => return void
  | number :: places => ofReport (Text.number? UInt8.size number) places

/-- A report of the mouse in numbers, the first of which is moved up. -/
def ofMovedMouse (body : List Char) : Checked Sequence :=
  match Text.pieces ';' body with
  | [] => return void
  | number :: places =>
    let number := (Text.number? UInt8.size number).bind fun n => if 32 ≤ n then some (n - 32) else none
    ofReport number places

/-! ## Keys -/

/-- A key by a letter after numbers; it counts when it has been pressed. -/
def ofModified (body : List Char) (letter : Char) : Sequence :=
  match modifiers? ((Text.pieces ';' body).drop 1) with
  | some (_, pressed) => .complete (if pressed then ofLetter letter else none)
  | none =>
    if (body.getLast?.map Char.isDigit).getD false then .complete (ofLetter letter) else void

/-- The keys with numbers of their own that can matter. -/
def ofKeyNumber? : Nat → Option Input
  | 57414 => some .enter
  | 57417 => some .left
  | 57418 => some .right
  | 57419 => some .up
  | 57420 => some .down
  | _ => none

/-- Whether a number is that of a shift key. -/
def isShiftNumber (n : Nat) : Bool :=
  n == 57441 || n == 57447

/-- The character with a number. -/
def char? (n : Nat) : Option Char :=
  if n.isValidChar then some (Char.ofNat n) else none

/-- The key of a character that is given by its number. -/
def ofNumberedChar (c : Char) (shift : Bool) : Option Input :=
  if c = '\x1b' then some .escape
  else if c = '\r' then some .enter
  else if c = '\t' then (if shift then none else some .tab)
  else if c = '\x7f' then none
  else some (.char c)

/-- A key by its number, perhaps with the number of what it writes under a shift
key. -/
def ofNumbered (body : List Char) : Sequence :=
  match Text.pieces ';' body with
  | [] => void
  | key :: rest =>
    let codes := Text.pieces ':' key
    let (mask, pressed) := (modifiers? rest).getD (1, true)
    match codes.head?.bind (Text.number? UInt32.size) with
    | none => void
    | some n =>
      match char? n with
      | none => void
      | some c =>
        let shift := holdsShift mask || isShiftNumber n
        let shifted := (codes[1]?.bind (Text.number? UInt32.size)).bind char?
        let plain := (ofKeyNumber? n).or (ofNumberedChar c (holdsShift mask))
        let input := if shift then (shifted.map Input.char).or plain else plain
        .complete (if pressed then input else none)

/-! ## Whole sequences -/

/-- How a pasted text begins, after an escape and a bracket. -/
def pasteStart : List Char :=
  "200~".toList

/-- How a pasted text ends. -/
def pasteEnd : List Char :=
  "\x1b[201~".toList

/-- Whether a character ends a sequence that begins with a number. -/
def isFinal (c : Char) : Bool :=
  64 ≤ c.toNat && c.toNat ≤ 126

/-- A sequence that begins with a number. -/
def ofNumbers (cs : List Char) : Checked Sequence :=
  match cs.getLast? with
  | none => return .unfinished
  | some last =>
    let body := cs.dropLast
    if !isFinal last then return .unfinished
    else if pasteStart.isPrefixOf cs then
      return if pasteEnd.isSuffixOf cs then void else .unfinished
    else
      match last with
      | 'M' => ofMovedMouse body
      | '~' => return void
      | 'u' => return ofNumbered body
      | 'R' => do
        let places := Text.pieces ';' body
        discard ((places.take 2).allM isPlace)
        return void
      | _ => return ofModified body last

/-- What follows an escape and a bracket. -/
def ofBracket (cs : List Char) : Checked Sequence :=
  match cs with
  | [] => return .unfinished
  | '[' :: rest => return if rest.isEmpty then .unfinished else void
  | 'M' :: rest => ofMouseBytes (String.ofList rest).toUTF8.toList
  | '<' :: rest =>
    match rest.getLast? with
    | some 'M' | some 'm' => ofMouseNumbers rest.dropLast
    | _ => return .unfinished
  | '?' :: rest =>
    let answered := rest.getLast? = some 'c' || (rest.getLast? = some 'u' && 2 ≤ rest.length)
    return if answered then void else .unfinished
  | c :: _ => if c.isDigit then ofNumbers cs else return .complete (ofLetter c)

/-- What characters amount to; `more` tells whether others have come with them. -/
def ofChars (more : Bool) : List Char → Checked Sequence
  | [] => return .unfinished
  | ['\x1b'] => return if more then .unfinished else .complete (some .escape)
  | '\x1b' :: 'O' :: rest =>
    return match rest with
    | [] => .unfinished
    | c :: _ => .complete (ofLetter c)
  | '\x1b' :: '[' :: rest => ofBracket rest
  | '\x1b' :: '\x1b' :: _ => return .complete (some .escape)
  | '\x1b' :: c :: _ | c :: _ => return ofChar c

end Sequence

/-- Read a character after those of an unfinished sequence.  The result has the
characters that are unfinished then. -/
def Input.read (pending : List Char) (more : Bool) (c : Char) :
    Checked (List Char × Option Input) := do
  match ← Sequence.ofChars more (pending ++ [c]) with
  | .unfinished => return (pending ++ [c], none)
  | .complete input => return ([], input)

end Rotation.Console
