import Rotation.CommandLine.Session
import Rotation.Files.Folder
import Rotation.Terminal.Escapes

/-!
# The program

Reads the files that the options name, carries out the command, and writes the
journal.  An interactive session expects a terminal that hands over keys as
they are pressed.
-/

namespace Rotation.CommandLine

/-- What the program does; it may stop at a fault. -/
abbrev Action := ExceptT Fault IO

/-- What is at a place of the disk. -/
partial def readTree (path : String) : IO (Option FileTree) := do
  try
    let place ← IO.FS.realPath path
    if ← place.isDir then
      let entries ← (← place.readDir).toList.filterMapM fun entry => do
        return (← readTree entry.path.toString).map fun tree => (entry.fileName, tree)
      return some (.folder entries)
    else return some (.file (← IO.FS.readBinFile place))
  catch _ => return none

/-- The files that the options name. -/
def readFiles (o : Options) : IO Files := do
  let named ← [o.settings, o.catalogue, o.presets].mapM fun path =>
    return (path, ← readTree path)
  return fun path => (named.lookup path).join

/-- The path of the journal. -/
def journalPath (o : Options) : String :=
  o.logs ++ "/" ++ journalName

/-- Why there can be no journal, if so. -/
def refusedJournal (o : Options) : IO (Option String) := do
  try
    IO.FS.createDirAll o.logs
    IO.FS.writeFile (journalPath o) ""
    return none
  catch e =>
    return some (match ← readTree o.logs with
      | some (.file _) => FolderError.taken.message
      | some (.folder _) => FolderError.isFolder.message
      | none => toString e)

/-- Write the journal. -/
def writeJournal (o : Options) (j : Journal) : IO Unit := do
  IO.FS.createDirAll o.logs
  IO.FS.writeFile (journalPath o) (Result.text (j.toList.map JournalLine.line))

/-- Print a result. -/
def printResult (r : Result) : IO UInt32 := do
  IO.print (Result.text r.output)
  IO.eprint (Result.text r.errors)
  return r.code.toUInt32

/-- The size of the terminal, as the environment has it. -/
def screenSize : IO (Nat × Nat) := do
  let number := fun (name : String) (absent : Nat) => do
    return ((← IO.getEnv name).bind String.toNat?).getD absent
  return (← number "COLUMNS" 140, ← number "LINES" 40)

/-- A time since the beginning, in seconds. -/
def timeText (ms : Nat) : String :=
  toString (ms / 1000) ++ "s"

/-- Write the settings when a session has changed them. -/
def keepSettings (o : Options) (old new : Console.Shelf) : IO Unit := do
  if let some text := new.text then
    if old.text != some text then
      IO.FS.writeFile o.settings text

/-- The next character of the input; nothing at its end, or when what comes is
not text. -/
def nextChar : IO (Option Char) := do
  let input ← IO.getStdin
  let first ← input.read 1
  let following : USize :=
    match first[0]? with
    | none => 0
    | some byte =>
      if byte < 0xC0 then 0 else if byte < 0xE0 then 1 else if byte < 0xF0 then 2 else 3
  let others ← if following == 0 then pure ByteArray.empty else input.read following
  return (String.fromUTF8? (first ++ others)).bind fun text => text.toList.head?

/-- Go on with a session until the user quits or there is no more input; `last`
is how long it has been going on. -/
partial def attend (o : Options) (start last : Nat) (s : Sitting) : Action Sitting := do
  let now := (← IO.monoMsNow) - start
  let s := (s.pass (now - last)).hear (timeText now)
  let (width, height) ← screenSize
  IO.print (← s.console.draw width height).sequence
  (← IO.getStdout).flush
  if s.console.finished then return s
  match ← nextChar with
  | none => return s
  | some c =>
    let next := s.read (timeText now) true c
    if let some fault := next.fault then throw fault
    keepSettings o s.console.shelf next.console.shelf
    attend o start now next

/-- Hold an interactive session. -/
def hold (o : Options) (files : Files) : Action UInt32 := do
  match load o files with
  | (.error f, journal) =>
    writeJournal o journal
    printResult (.failed [] [] f)
  | (.ok m, journal) =>
    let shelf : Console.Shelf := ⟨(FileTree.text (files o.settings)).toOption, none⟩
    let opened ← Sitting.opened o m journal shelf
    IO.print Terminal.enterScreen
    let s ← attend o (← IO.monoMsNow) 0 opened
    IO.print Terminal.leaveScreen
    writeJournal o s.close.console.engine.session.journal
    return 0

/-- Carry out a command line. -/
def carryOut (arguments : List String) : Action UInt32 := do
  match Options.ofArguments arguments with
  | .error reply => printResult (answer reply)
  | .ok o => do
    if let some cause ← refusedJournal o then
      return ← printResult (withoutJournal cause)
    let files ← readFiles o
    if o.task = .run then hold o files
    else
      let r ← run o files
      writeJournal o r.journal
      printResult r

end Rotation.CommandLine

/-- The program. -/
def main (arguments : List String) : IO UInt32 := do
  match ← (Rotation.CommandLine.carryOut arguments).run with
  | .ok code => return code
  | .error fault =>
    IO.eprintln fault.message
    return Rotation.CommandLine.Result.crashCode.toUInt32
