import Rotation.Console.Dialog
import Rotation.Files.Tree
import Rotation.Library.Load
import Rotation.Rehearsal.Scene

/-!
# The console

What a user at the console sees and has chosen: the presets and the one that
is selected, the log and the feed, the findings about the last preset that was
looked at, and the dialog that waits for an answer.  Log lines and events come
in through an inbox.
-/

namespace Rotation

namespace Console

/-- Log lines and events that have not been taken notice of. -/
structure Inbox where
  lines : List String
  events : List Event

/-- Nothing has come in. -/
def Inbox.empty : Inbox :=
  ⟨[], []⟩

/-- Where settings are kept: their text, if there is one, and why no other text
can be written there, if so. -/
structure Shelf where
  text : Option String
  refusal : Option WriteError

/-- A shelf with nothing on it. -/
def Shelf.empty : Shelf :=
  ⟨none, none⟩

end Console

/-- The state of a console. -/
structure Console where
  engine : Engine Rehearsal.Scene
  presets : List PresetEntry
  selected : Nat
  logVisible : Bool
  log : Array String
  logScroll : Nat
  events : List Event
  inbox : Console.Inbox
  findings : List String
  dialog : Option Console.Dialog
  finished : Bool
  settings : Settings
  shelf : Console.Shelf

namespace Console

/-- The number of events in the feed. -/
def feedLength : Nat :=
  200

/-- The place of the preset that was started last, or the first one. -/
def lastStarted (presets : List PresetEntry) (settings : Settings) : Nat :=
  ((settings.lastPreset.bind fun name => presets.findIdx? fun p => p.name == name)).getD 0

/-- A console that has just been opened. -/
def opened (engine : Engine Rehearsal.Scene) (presets : List PresetEntry) (settings : Settings)
    (shelf : Shelf) : Console :=
  { engine
    presets
    selected := lastStarted presets settings
    logVisible := true
    log := #[]
    logScroll := 0
    events := []
    inbox := .empty
    findings := []
    dialog := none
    finished := false
    settings
    shelf }

/-- The selected preset. -/
def entry? (c : Console) : Option PresetEntry :=
  c.presets[c.selected]?

/-- Select the preset above. -/
def up (c : Console) : Console :=
  { c with selected := c.selected - 1 }

/-- Select the preset below. -/
def down (c : Console) : Console :=
  if c.selected + 1 < c.presets.length then { c with selected := c.selected + 1 } else c

theorem down_selected_lt {c : Console} (h : c.selected < c.presets.length) :
    c.down.selected < c.down.presets.length := by
  unfold down
  split
  · assumption
  · exact h

theorem up_selected_lt {c : Console} (h : c.selected < c.presets.length) :
    c.up.selected < c.up.presets.length :=
  Nat.lt_of_le_of_lt (Nat.sub_le _ _) h

/-- Show or hide the log. -/
def toggleLog (c : Console) : Console :=
  { c with logVisible := !c.logVisible }

/-- Move the log window up. -/
def scrollUp (c : Console) (n : Nat) : Console :=
  { c with logScroll := Unsigned.saturatingAdd 64 c.logScroll n }

/-- Move the log window down. -/
def scrollDown (c : Console) (n : Nat) : Console :=
  { c with logScroll := c.logScroll - n }

/-- Put a log line into the inbox. -/
def receiveLine (c : Console) (line : String) : Console :=
  { c with inbox := { c.inbox with lines := c.inbox.lines ++ [line] } }

/-- Put events into the inbox. -/
def receiveEvents (c : Console) (events : List Event) : Console :=
  { c with inbox := { c.inbox with events := c.inbox.events ++ events } }

/-- The last events that the feed keeps. -/
def newest (events : List Event) : List Event :=
  events.drop (events.length - feedLength)

theorem length_newest_le (events : List Event) : (newest events).length ≤ feedLength := by
  rw [newest, List.length_drop]
  omega

/-- The feed keeps the end of what has happened. -/
theorem newest_suffix (events : List Event) : newest events <:+ events :=
  List.drop_suffix _ _

/-- Empty the inbox. -/
def drain (c : Console) : Console :=
  { c with
    log := c.log ++ c.inbox.lines.toArray
    events := newest (c.events ++ c.inbox.events)
    inbox := .empty }

/-- Choose the other answer of the dialog. -/
def toggleAnswer (c : Console) : Console :=
  { c with dialog := c.dialog.map Dialog.toggle }

/-- Close the dialog. -/
def closeDialog (c : Console) : Console :=
  { c with dialog := none }

end Console

end Rotation
