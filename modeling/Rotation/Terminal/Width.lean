import Rotation.Terminal.EmojiTable
import Rotation.Terminal.WidthTable
import Rotation.Text.Character

/-!
# Widths

How many columns of a terminal a text takes.  A character has a width of its
own, but what follows it can change it: a selector turns it into an emoji or
into text, a joiner puts emoji together, and a subscript letter hides below the
letter before it.  So a text is read backwards, and what has been read is
remembered as far as it matters.
-/

namespace Rotation.Terminal

/-- A character that chooses between emoji and text. -/
inductive Selector where
  | emoji
  | text
  deriving DecidableEq, Repr

/-- What follows a character.  An emoji tag sequence, which is read from its
end, has a number of letters and then of digits. -/
inductive Sequel where
  | plain
  | lineEnd
  | emoji
  | tone
  | joined
  | joinedKeycap
  | joinedTags (letters digits : Nat)
  | subscript
  deriving DecidableEq, Repr

namespace Sequel

/-- Whether it is put together with what stands before it. -/
def isJoined : Sequel → Bool
  | .joined | .joinedKeycap | .joinedTags .. => true
  | _ => false

/-- Whether the tags can follow the flag that bears them. -/
def isTagged : Sequel → Bool
  | .joinedTags letters 0 => 3 ≤ letters && letters ≤ 6
  | .joinedTags _ digits => digits = 3
  | _ => false

/-- What is left of it before a selector that has no effect. -/
def behindSelector : Sequel → Sequel
  | .subscript => .subscript
  | _ => .plain

/-- One more letter of a tag sequence. -/
def tagLetter? : Sequel → Option Sequel
  | .joinedTags letters 0 => if letters < 6 then some (.joinedTags (letters + 1) 0) else none
  | _ => none

/-- One more digit of a tag sequence. -/
def tagDigit? : Sequel → Option Sequel
  | .joinedTags letters 0 => if letters ≤ 4 then some (.joinedTags letters 1) else none
  | .joinedTags letters digits =>
    if digits < 3 then some (.joinedTags letters (digits + 1)) else none
  | _ => none

end Sequel

/-- What has been read of a text, from its end on: what follows, perhaps with a
selector in front of it. -/
structure Ahead where
  sequel : Sequel
  selector : Option Selector
  deriving DecidableEq, Repr

namespace Ahead

/-- Something without a selector. -/
def bare (sequel : Sequel) : Ahead :=
  ⟨sequel, none⟩

end Ahead

/-! ## Classes of characters -/

/-- Whether a character is shown as an emoji by itself. -/
def isEmoji (c : Char) : Bool :=
  Text.inIntervals emojiIntervals c.toNat

/-- Whether a selector shows a character as an emoji. -/
def takesEmoji (c : Char) : Bool :=
  Text.inIntervals selectableIntervals c.toNat

/-- Whether a selector makes a character narrow; enclosed ideographs stay wide. -/
def takesText (c : Char) : Bool :=
  takesEmoji c && isEmoji c && !(0x1F200 ≤ c.toNat && c.toNat ≤ 0x1F2FF)

/-- Whether a character is a tone of skin. -/
def isTone (c : Char) : Bool :=
  0x1F3FB ≤ c.toNat && c.toNat ≤ 0x1F3FF

/-- Whether a tone of skin belongs to the character before it. -/
def takesTone (c : Char) : Bool :=
  Text.inIntervals tonedIntervals c.toNat

/-- The letters that have a subscript form. -/
def subscriptIntervals : List (Nat × Nat) :=
  [(0x1780, 0x1782), (0x1784, 0x1787), (0x1789, 0x178C), (0x178E, 0x1793), (0x1795, 0x1798),
    (0x179B, 0x179D), (0x17A0, 0x17A0), (0x17A2, 0x17A2), (0x17A7, 0x17A7), (0x17AB, 0x17AC),
    (0x17AF, 0x17AF)]

/-- Whether a character has a subscript form. -/
def hasSubscript (c : Char) : Bool :=
  Text.inIntervals subscriptIntervals c.toNat

/-- The sign that puts the next letter below the one before it. -/
def subscriptSign : Char :=
  '\u17d2'

/-- The marks that do not matter between a sign and its letter. -/
def transparentIntervals : List (Nat × Nat) :=
  [(0x34F, 0x34F), (0x17B4, 0x17B5), (0x180B, 0x180D), (0x180F, 0x180F), (0x200D, 0x200D),
    (0xFE00, 0xFE0F), (0xE0100, 0xE01EF)]

/-- Whether a mark does not matter between a sign and its letter. -/
def isTransparent (c : Char) : Bool :=
  Text.inIntervals transparentIntervals c.toNat

/-! ## Widths of characters -/

/-- The width of a character by itself. -/
def charWidth (c : Char) : Nat :=
  let n := c.toNat
  if n ≤ 0xA0 then 1
  else if n = 0x17D8 then 3
  else if Text.inIntervals zeroIntervals n then 0
  else if Text.inIntervals wideIntervals n then 2
  else 1

/-- The character that joins emoji. -/
def joiner : Char :=
  '\u200d'

/-- What a character before nothing of interest takes, and what it is to the
one before it. -/
def widthAlone (c : Char) : Int × Ahead :=
  if c = '\ufe0f' then (0, ⟨.plain, some .emoji⟩)
  else if c = '\ufe0e' then (0, ⟨.plain, some .text⟩)
  else if isTone c then (2, .bare .tone)
  else if isEmoji c then (2, .bare .emoji)
  else if hasSubscript c then (1, .bare .subscript)
  else (charWidth c, .bare .plain)

/-- What a character of a joined emoji takes, and what it is to the one before
it, if it belongs there. -/
def widthJoined? (sequel : Sequel) (c : Char) : Option Ahead :=
  let n := c.toNat
  let sequel? : Option Sequel :=
    if sequel = .joined then
      if n = 0x20E3 then some .joinedKeycap
      else if isTone c then some .tone
      else if n = 0xE007F then some (.joinedTags 0 0)
      else if isEmoji c then some .emoji
      else none
    else if 0xE0061 ≤ n && n ≤ 0xE007A then sequel.tagLetter?
    else if 0xE0030 ≤ n && n ≤ 0xE0039 then sequel.tagDigit?
    else if n = 0x1F3F4 && sequel.isTagged then some .emoji
    else none
  sequel?.map .bare

/-- What a character takes before something without a selector, and what it is
to the one before it. -/
def widthBefore (sequel : Sequel) (c : Char) : Int × Ahead :=
  match sequel with
  | .subscript =>
    if isTransparent c then (0, .bare .subscript)
    else if c = subscriptSign then (-1, .bare .plain)
    else widthAlone c
  | .tone =>
    if takesTone c then (0, .bare .emoji)
    else if c = joiner then (0, .bare .joined)
    else widthAlone c
  | .emoji => if c = joiner then (0, .bare .joined) else widthAlone c
  | .joined | .joinedKeycap | .joinedTags .. =>
    match widthJoined? sequel c with
    | some ahead => (0, ahead)
    | none => widthAlone c
  | .plain | .lineEnd => widthAlone c

/-- What a control character or one of the first letters takes, and what it is
to the one before it. -/
def widthBasic (sequel : Sequel) (c : Char) : Int × Ahead :=
  if c = '\n' then (0, .bare .lineEnd)
  else if c = '\r' && sequel = .lineEnd then (0, .bare .plain)
  else (1, .bare .plain)

/-- What a selector takes, and what it is to the one before it. -/
def selectorBefore (sequel : Sequel) (selector : Selector) : Int × Ahead :=
  let stays := sequel = .subscript || (selector = .emoji && sequel.isJoined)
  (0, ⟨if stays then sequel else .plain, some selector⟩)

/-- What a character takes before what has been read, and what is then ahead. -/
def readBack (ahead : Ahead) (c : Char) : Int × Ahead :=
  if ahead.selector = some .emoji && takesEmoji c then
    (if ahead.sequel.isJoined then 0 else 2, .bare .emoji)
  else
    let ahead :=
      if ahead.selector = some .emoji then .bare ahead.sequel.behindSelector else ahead
    if c.toNat ≤ 0xA0 then widthBasic ahead.sequel c
    else if c = '\ufe0f' then selectorBefore ahead.sequel .emoji
    else if c = '\ufe0e' then selectorBefore ahead.sequel .text
    else if ahead.selector = some .text then
      if takesText c then (1, .bare .plain) else widthBefore ahead.sequel.behindSelector c
    else widthBefore ahead.sequel c

/-- How many columns a text takes before what has been read. -/
def columnsFrom (ahead : Ahead) : List Char → Int
  | [] => 0
  | c :: before =>
    let (width, ahead) := readBack ahead c
    width + columnsFrom ahead before

/-- How many columns a text takes. -/
def columns (cs : List Char) : Nat :=
  (columnsFrom (.bare .plain) cs.reverse).toNat

end Rotation.Terminal
