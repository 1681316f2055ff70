import Rotation.Console.Basic
import Rotation.Console.Feed
import Rotation.Text.Line

/-!
# What the console shows

At the left stand a banner, the presets, the counters of the skills and the
feed; at the right the log, when it is visible.  A dialog stands over
everything.
-/

namespace Rotation.Console

open Terminal

/-! ## Banner -/

/-- What the banner says about the mode of a run. -/
def modeText (s : EngineStatus) : String :=
  match s.mode, s.step with
  | some mode, some step => "  mode " ++ mode ++ " step " ++ toString step
  | some mode, none => "  mode " ++ mode
  | none, _ => ""

/-- The text of the banner and its colour. -/
def bannerText (s : EngineStatus) : String × Ink :=
  let what := s.preset.getD "-" ++ modeText s
  match s.state with
  | .running => ("RUNNING " ++ what ++ " (S to stop, P to pause)", .green)
  | .paused => ("PAUSED " ++ what ++ " (P to resume, N to step)", .yellow)
  | .idle =>
    match s.lastStop with
    | some reason => ("IDLE: " ++ reason.text ++ " (Enter to start)", .red)
    | none => ("IDLE (Enter to start)", .red)

/-- A text in the middle of blanks; where they cannot be shared evenly, one more
stands after it. -/
def centred (width : Nat) (s : String) : String :=
  let all := width - s.length
  Text.blanks (all / 2) ++ s ++ Text.blanks (all - all / 2)

/-- Draw the banner. -/
def drawBanner (s : EngineStatus) (a : Area) (c : Canvas) : Canvas :=
  let (text, back) := bannerText s
  c.rowAt a 0 (Mark.ofSpans [⟨centred a.width text, .sign .black back⟩])

/-! ## Presets -/

/-- The line about the keys. -/
def keyLine : List Span :=
  [.ink " j" .yellow, .plain "/", .ink "k" .yellow, .plain " select, ", .ink "enter" .yellow,
    .plain " start/stop, ", .ink "v" .yellow, .plain " validate, ", .ink "Ctrl+Shift+P" .yellow,
    .plain " pause"]

/-- The line about a preset. -/
def presetLine (status : EngineStatus) (selected : Bool) (entry : PresetEntry) : List Span :=
  let running := status.state != .idle && entry.id?.isSome && entry.id? == status.preset
  let mark : Span := if running then .ink "[●]" .green else .ink "[ ]" .darkGray
  let about : List Span :=
    match entry.draft with
    | .ok draft => if draft.name.isEmpty then [] else [.ink ("  " ++ draft.name) .darkGray]
    | .error e => [.ink ("  err: " ++ e.message) .red]
  [.plain (if selected then "> " else "  "), mark, .plain " ", .strong entry.name .white] ++ about

/-- The lines about capturing. -/
def captureLines (s : CaptureStatus) : List (List Span) :=
  let start := "  capture v" ++ toString s.planVersion ++ ": " ++ toString s.regions ++
    " region(s), " ++ toString s.captures ++ " grab(s)"
  let line : Span :=
    if s.failures = 0 then .ink start .darkGray
    else .ink (start ++ ", " ++ toString s.failures ++ " failure(s), backoff " ++
      toString s.backoffMs ++ "ms") .red
  [[], [line]]

/-- The lines of the list of presets. -/
def presetLines (c : Console) : List (List Span) :=
  let entries := c.presets.zipIdx.map fun (entry, i) =>
    presetLine c.engine.status (i == c.selected) entry
  let entries := if entries.isEmpty then [[.ink "  no presets found" .darkGray]] else entries
  [keyLine, []] ++ entries ++ (c.engine.captureStatus.map captureLines).getD []

/-- Draw the list of presets. -/
def drawPresets (s : Console) (a : Area) (c : Canvas) : Canvas :=
  (c.border a false .cyan).rows (a.inside false) (s.presetLines.map Mark.ofSpans)

/-! ## Skills -/

/-- The widths of the columns after the first. -/
def columnWidths : List Nat :=
  [8, 6, 6, 6, 6, 14]

/-- The least width of the first column. -/
def leastLabelWidth : Nat :=
  12

/-- The widths of all columns in a table of some width; blanks of width one
stand between columns. -/
def allColumnWidths (width : Nat) : List Nat :=
  max leastLabelWidth (width - columnWidths.foldl (· + · + 1) 0) :: columnWidths

/-- The heads of the columns. -/
def columnHeads : List String :=
  ["skill", "started", "keys", "cast", "ok", "fail", "last"]

/-- The last thing that is known about a skill. -/
def lastText (s : SkillCounters) : String :=
  match s.inFlight, s.lastStage with
  | some _, _ => "in flight"
  | none, some stage => stage.name
  | none, none => "-"

/-- The texts of a row of the table. -/
def skillRow (catalogue : Catalogue) (s : SkillRecord) : List String :=
  let n := s.counters
  (((catalogue.skill? s.skill).map Skill.label).getD s.skill) ::
    ([n.attemptStarted, n.keySent, n.castStarted, n.success, n.fail].map toString ++ [lastText n])

/-- Draw the cells of a table row; a cell has room for the first line of its text. -/
def drawCells (a : Area) (row : Nat) : List (String × Nat) → Canvas → Canvas
  | [], c => c
  | (text, width) :: rest, c =>
    let cell := { a with width := min width a.width }
    let next := { a with column := a.column + width + 1, width := a.width - (width + 1) }
    drawCells next row rest (c.label cell row ((Text.lines text).headD ""))

/-- Draw the counters of the skills. -/
def drawSkills (s : Console) (a : Area) (c : Canvas) : Canvas :=
  let inner := a.inside true
  let widths := allColumnWidths inner.width
  let boxed := c.titledBorder a " Skills " .cyan
  let headed := drawCells inner 0 (columnHeads.zip widths)
    (boxed.changeRow inner.column inner.row inner.width (Cell.dress (.strong .yellow)))
  (s.engine.skills.map (skillRow s.engine.catalogue)).zipIdx.foldl (fun c row =>
    drawCells inner (row.2 + 1) (row.1.zip widths) c) headed

/-! ## Feed and log -/

/-- The line about a finding. -/
def findingLine (finding : String) : Span :=
  .ink finding (if finding.startsWith "error" then .red else .yellow)

/-- The title and the lines of the feed; findings take the place of events. -/
def feed (c : Console) (rows : Nat) : String × List Span :=
  if c.findings.isEmpty then
    let lines := c.events.filterMap Event.feedLine?
    (" Events ", lines.drop (lines.length - rows))
  else (" Diagnostics ", c.findings.map findingLine)

/-- Draw the feed. -/
def drawFeed (s : Console) (a : Area) (c : Canvas) : Canvas :=
  let inner := a.inside true
  let (title, lines) := s.feed inner.height
  (c.titledBorder a title .cyan).wrappedRows inner (lines.map fun l => Mark.ofSpans [l])

/-- The lines of the log that are shown in a number of rows. -/
def shownLog (c : Console) (rows : Nat) : List String :=
  let (first, last) := logWindow c.log.size rows c.logScroll
  (c.log.extract first last).toList

/-- Draw the log. -/
def drawLog (s : Console) (a : Area) (c : Canvas) : Canvas :=
  let inner := a.inside true
  (c.titledBorder a " Logs " .yellow).wrappedRows inner
    ((s.shownLog inner.height).map fun line => Mark.ofSpans (LogLine.spans line))

/-! ## The whole screen -/

/-- The greatest number of skills that have room. -/
def shownSkills : Nat :=
  12

/-- The height of the feed. -/
def feedHeight : Nat :=
  10

/-- The width of the left side: six tenths of the screen, rounded, when the log
is visible. -/
def leftWidth (c : Console) (width : Nat) : Nat :=
  if c.logVisible then (6 * width + 5) / 10 else width

/-- Draw the console. -/
def draw (s : Console) (width height : Nat) : Checked Canvas :=
  let whole := Canvas.filled width height " "
  let left := { whole.area with width := s.leftWidth width }
  let skillsHeight := min s.engine.skills.length shownSkills + 3
  let feedStart := height - feedHeight
  let skillsStart := feedStart - skillsHeight
  let sides := s.drawFeed (left.rows feedStart feedHeight)
    (s.drawSkills (left.rows skillsStart skillsHeight)
      (s.drawPresets (left.rows 1 (skillsStart - 1))
        (drawBanner s.engine.status (left.rows 0 1) whole)))
  let right := { whole.area with column := left.width, width := width - left.width }
  let logged := if s.logVisible then s.drawLog right sides else sides
  match s.dialog with
  | some dialog => dialog.draw logged
  | none => .ok logged

end Rotation.Console
