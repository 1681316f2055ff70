import Rotation.Event.Basic
import Rotation.Terminal.Style
import Rotation.Text.Line
import Rotation.Text.Number

/-!
# The feed and the log

The feed is what the console tells about events.  Events that come too often to
be of interest are passed over.

A line of the log is a text of five parts: the level, the part of the program,
the number of its colour, the time and the message.  Other texts are shown as
they are, without the ends of their lines.  The panel shows a window of the
log, which can be moved up from the latest line.
-/

namespace Rotation.Event

open Terminal

/-- A moment at the right of seven columns. -/
def timeText (time : Nat) : String :=
  Text.alignRight 7 (toString time) ++ "ms"

/-- The line of the feed about an event. -/
def feedLine? : Event → Option Span
  | .engineStarted preset _ => some (.ink ("started " ++ preset) .green)
  | .engineStopped reason _ => some (.ink ("stopped: " ++ reason) .red)
  | .enginePaused _ => some (.ink "paused" .yellow)
  | .engineResumed _ => some (.ink "resumed" .green)
  | .attemptFinished attempt _ stage reason time =>
    let why := (reason.map fun r => " (" ++ r ++ ")").getD ""
    some (.ink (timeText time ++ " " ++ attempt ++ " " ++ stage.name ++ why)
      (if stage = .success then .white else .red))
  | .skillSkipped skill _ reason time =>
    some (.ink (timeText time ++ " skip " ++ skill ++ " (" ++ reason ++ ")") .darkGray)
  | .gateway node _ action true _ time =>
    some (.ink (timeText time ++ " gateway " ++ node ++ " -> " ++ action) .lightBlue)
  | .modeSwitched source target time =>
    some (.ink (timeText time ++ " mode " ++ source.getD "-" ++ " -> " ++ target) .lightBlue)
  | .captureFailed code _ backoffMs =>
    some (.ink ("capture failed: " ++ code ++ " (backoff " ++ toString backoffMs ++ "ms)") .red)
  | _ => none

end Rotation.Event

namespace Rotation.Console

open Terminal

/-- Which lines of a log are shown, by the first of them and the one after the
last: as many as there are rows, moved up by a number of lines but not beyond
the first one. -/
def logWindow (total rows scroll : Nat) : Nat × Nat :=
  let moved := min scroll (total - rows)
  (total - (rows + moved), total - moved)

theorem logWindow_snd_le (total rows scroll : Nat) : (logWindow total rows scroll).2 ≤ total :=
  Nat.sub_le _ _

/-- The window is full as soon as the log is long enough. -/
theorem logWindow_length (total rows scroll : Nat) :
    (logWindow total rows scroll).2 - (logWindow total rows scroll).1 = min total rows := by
  unfold logWindow
  simp only
  omega

/-- A window that has not been moved ends with the latest line. -/
theorem logWindow_zero (total rows : Nat) : logWindow total rows 0 = (total - rows, total) := by
  simp [logWindow]

namespace LogLine

/-- What separates the parts of a line. -/
def separator : Char :=
  '\x1f'

/-- The parts of a text, of which the last one holds the rest; there are at
most `more + 1`. -/
def parts : Nat → List Char → List (List Char)
  | 0, cs => [cs]
  | more + 1, cs =>
    match cs.dropWhile (· != separator) with
    | [] => [cs]
    | _ :: rest => cs.takeWhile (· != separator) :: parts more rest

/-- The colour of a part of the program. -/
def partInk (cs : List Char) : Ink :=
  match Text.number? UInt8.size cs with
  | some 1 => .darkGray
  | some 2 => .lightBlue
  | _ => .white

/-- The word before a line of some level. -/
def tag (level : String) : List Span :=
  match level with
  | "ERROR" => [.ink "error " .red]
  | "WARN" => [.ink "warn " .yellow]
  | "DEBUG" | "TRACE" => [.ink "debug " .darkGray]
  | _ => []

/-- How a line of the log is shown. -/
def spans (line : String) : List Span :=
  match (parts 4 line.toList).map String.ofList with
  | [level, part, color, time, message] =>
    let ink := partInk color.toList
    let name : List Span := if part.isEmpty then [] else [.strong part ink, .plain " "]
    [.ink time .darkGray, .plain " "] ++ tag level ++ name ++ [.ink message ink]
  | _ => (Text.lines line).map .plain

end LogLine

end Rotation.Console
