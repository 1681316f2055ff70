import Rotation.CommandLine.Session
import Rotation.Files.Folder
import Rotation.Rehearsal.ConsoleScript
import Rotation.Rehearsal.FileScript

/-!
# Scripts of command lines

A command line is carried out among the files of a script.  In an interactive
session the script types keys, with a little time after each of them.
-/

namespace Rotation.Rehearsal.SessionScript

open Script

/-- The folder whose journal is reported. -/
def journalFolder : List String :=
  ["logs"]

/-- The lines of the journal that are reported. -/
def journalOf (o : CommandLine.Options) (j : Journal) : List String :=
  if FileTree.names o.logs = journalFolder then j.toList.map JournalLine.line else []

/-- The arguments of a script. -/
def argumentsOf (s : Source) : Reading (List String) :=
  mayOr s "args" [] texts?

/-- Carry out what a command line asks for; the journal is kept in the folder
that the options name. -/
def carryOut (tree : FileTree) (o : CommandLine.Options) :
    Checked (CommandLine.Result × List String) := do
  match tree.withFile o.logs CommandLine.journalName with
  | .error e => return (CommandLine.withoutJournal e.message, [])
  | .ok tree =>
    let result ← CommandLine.run o tree.at?
    return (result, journalOf o result.journal)

/-- Carry out a command. -/
def command (s : Source) : Reading Document := do
  let tree ← filesOf s
  let logged ← mayOr s "log" false Source.bool?
  let (result, log) ← match CommandLine.Options.ofArguments (← argumentsOf s) with
    | .error reply => pure (CommandLine.answer reply, [])
    | .ok o => orPanic (carryOut tree o)
  return .record ([("code", .nat result.code),
    ("stdout", .text (CommandLine.Result.text result.output)),
    ("stderr", .text (CommandLine.Result.text result.errors))] ++
    if logged then [("log", .texts log)] else [])

/-- The time after each key. -/
def interval : Nat :=
  100

/-- The parts of the program whose remarks are reported. -/
def reportedParts : List String :=
  [CommandLine.programName, Library.part, Console.part, Engine.controlPart]

/-- The time of a pause in a list of keys. -/
def pause? (key : String) : Option Nat :=
  if key.startsWith "wait:" then Text.number? UInt64.size (key.drop 5).toString.toList else none

/-- Type keys, or pause. -/
def type (s : CommandLine.Sitting) (key : String) : CommandLine.Sitting :=
  if s.isOver then s
  else
    match pause? key with
    | some ms => s.pass ms
    | none => (s.receive "now" key.toList).pass interval

/-- Where the settings of a session are kept. -/
def shelfOf (o : CommandLine.Options) (tree : FileTree) : Console.Shelf :=
  ⟨(FileTree.text (tree.at? o.settings)).toOption, tree.refusal? o.settings⟩

/-- The path of the settings that are reported. -/
def reportedSettings : String :=
  "settings.json"

/-- The preset that was started last, by the settings that are reported; `kept`
are the settings of the session. -/
def savedPreset (o : CommandLine.Options) (tree : FileTree) (kept : Option String) :
    Option String :=
  let same := FileTree.names o.settings = FileTree.names reportedSettings
  ConsoleScript.savedPreset (if same then kept
    else (FileTree.text (tree.at? reportedSettings)).toOption)

/-- The report of a session. -/
def report (code : Nat) (left : Bool) (saved : Option String) (log : List String) : Document :=
  .record [("code", .nat code), ("left_screen", .bool left), ("saved_preset", .option .text saved),
    ("log", .texts log)]

/-- The report of a command that opens no session. -/
def silent (tree : FileTree) (result : CommandLine.Result) (log : List String) : Document :=
  report result.code false
    (ConsoleScript.savedPreset (FileTree.text (tree.at? reportedSettings)).toOption) log

/-- The lines of the journal of a session that are reported. -/
def toldOf (o : CommandLine.Options) (j : Journal) : List String :=
  journalOf o (j.filter fun l => reportedParts.contains l.part)

/-- Type keys into a console. -/
def sitting (tree : FileTree) (keys : List String) (o : CommandLine.Options) :
    Reading Document := do
  match CommandLine.load o tree.at? with
  | (.error f, journal) => return silent tree (.failed [] [] f) (toldOf o journal)
  | (.ok m, journal) =>
    let opened ← orPanic (CommandLine.Sitting.opened o m journal (shelfOf o tree))
    let typed := keys.foldl type opened
    let crashed := typed.fault.isSome
    let c := if crashed then typed.console else typed.close.console
    return report (if crashed then CommandLine.Result.crashCode else 0) (!crashed) (savedPreset o tree c.shelf.text)
      (toldOf o c.engine.session.journal)

/-- Follow an interactive session. -/
def session (s : Source) : Reading Document := do
  let tree ← filesOf s
  let keys ← need s "keys" texts?
  match CommandLine.Options.ofArguments (← argumentsOf s) with
  | .error reply => return silent tree (CommandLine.answer reply) []
  | .ok o =>
    match tree.withFile o.logs CommandLine.journalName with
    | .error e => return silent tree (CommandLine.withoutJournal e.message) []
    | .ok tree =>
      if o.task = .run then sitting tree keys o
      else
        let result ← orPanic (CommandLine.run o tree.at?)
        return silent tree result (toldOf o result.journal)

end Rotation.Rehearsal.SessionScript
