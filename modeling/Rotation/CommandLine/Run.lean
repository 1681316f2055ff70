import Rotation.CommandLine.Options
import Rotation.Journal.Basic
import Rotation.Library.Load
import Rotation.Preset.Validation
import Rotation.Settings.Wire
import Rotation.Simulation.Run
import Rotation.Text.Quoted

/-!
# Commands

A command looks at the files that its options name, and then validates or
simulates a preset.  Its result is what it prints, on its output and on its error
output, the code with which it ends, and what it has put into the journal.
-/

namespace Rotation

namespace Simulation.End

/-- The end as a report in words names it. -/
def words : End → String
  | .gateway node => "Gateway \x7b node_id: " ++ Text.quoted node ++ " \x7d"
  | .maxDuration => "MaxDuration"
  | .maxNodes => "MaxNodes"
  | .idle => "Idle"

end Simulation.End

namespace CommandLine

/-! ## Results -/

/-- Why a command has failed, and what has caused that. -/
structure Failure where
  message : String
  causes : List String
  deriving DecidableEq, Repr

namespace Failure

/-- A failure without a further cause. -/
def because (message : String) : Failure :=
  ⟨message, []⟩

/-- A text whose lines after the first are indented. -/
def indented (indent text : String) : String :=
  ("\n" ++ indent).intercalate (text.splitOn "\n")

/-- The lines about causes; they are numbered if there is more than one. -/
def causeLines (causes : List String) : List String :=
  match causes with
  | [cause] => ["    " ++ indented "    " cause]
  | causes => causes.zipIdx.map fun (cause, i) =>
    "    " ++ toString i ++ ": " ++ indented "       " cause

/-- The lines about a failure. -/
def lines (f : Failure) : List String :=
  ("Error: " ++ f.message) ::
    if f.causes.isEmpty then [] else ["", "Caused by:"] ++ causeLines f.causes

end Failure

/-- What a command has printed, its code, and the journal. -/
structure Result where
  code : Nat
  output : List String
  errors : List String
  journal : Journal

namespace Result

/-- The code with which a fault ends the program. -/
def crashCode : Nat :=
  101

/-- Lines as a text. -/
def text (lines : List String) : String :=
  String.join (lines.map (· ++ "\n"))

/-- A command that has succeeded. -/
def success (output : List String) : Result :=
  ⟨0, output, [], #[]⟩

/-- A command that has failed after it printed something. -/
def failed (output errors : List String) (f : Failure) : Result :=
  ⟨1, output, errors ++ f.lines, #[]⟩

/-- The result with remarks before its own. -/
def after (journal : Journal) (r : Result) : Result :=
  { r with journal := journal ++ r.journal }

end Result

/-! ## Commands -/

/-- What is at a path. -/
abbrev Files := String → Option FileTree

/-- What the options name. -/
structure Materials where
  settings : Settings
  catalogue : Catalogue
  presets : List PresetEntry

/-- Load what the options name, with remarks in the journal. -/
def load (o : Options) (files : Files) : Except Failure Materials × Journal :=
  let settings := Settings.ofText (FileTree.text (files o.settings)).toOption
  let file := files o.catalogue
  let journal := Library.reportMissing #[] o.catalogue file
  match Library.loadCatalogue o.catalogue file with
  | .error e => (.error ⟨"failed to load catalogue " ++ o.catalogue, e.chain⟩, journal)
  | .ok catalogue =>
    let presets := Library.loadPresets o.presets (files o.presets)
    let told := (Library.reportFailures journal presets).info programName
      ("loaded " ++ toString presets.length ++ " preset(s) from " ++ o.presets)
    (.ok ⟨settings, catalogue, presets⟩, told)

/-- The preset with a name or, if none has it, with an identifier. -/
def findPreset (presets : List PresetEntry) (key : String) : Except Failure Draft :=
  let byName := presets.find? fun p => p.name == key
  match byName.or (presets.find? fun p => p.id? == some key) with
  | none => .error (.because ("no preset named " ++ key))
  | some entry =>
    entry.draft.mapError fun e => ⟨"preset " ++ entry.name ++ " failed to load", [e.message]⟩

/-- Validate a preset and print all findings. -/
def validate (m : Materials) (key : String) : Result :=
  match findPreset m.presets key with
  | .error f => .failed [] [] f
  | .ok draft =>
    let report := draft.validate m.catalogue
    let lines := report.diagnostics.map Diagnostic.line
    if report.preset.isSome then
      let probes := report.requirements.points.length + report.requirements.indicators.length
      .success (lines ++ [key ++ ": ok (" ++ toString probes ++ " pixel probe(s))"])
    else
      .failed lines [] (.because (key ++ ": " ++ toString report.diagnostics.errors.length ++
        " error(s)"))

/-- The line about the casts of a skill. -/
def metricLine (skill : String) (n : SkillCounters) : String :=
  "  " ++ Text.alignLeft 16 skill ++ " success " ++ Text.alignRight 4 (toString n.success) ++
    "  attempts " ++ Text.alignRight 4 (toString n.attemptStarted)

/-- A report in words. -/
def reportLines (preset : Preset) (r : Simulation.Report) : List String :=
  let unreached := Simulation.unreachedSkills preset r
  r.timeline.map Simulation.Entry.line ++
    ["end: " ++ r.ending.words ++ " at " ++ toString r.finalMs ++ "ms"] ++
    (r.metrics.map fun (skill, n) => metricLine skill n) ++
    if unreached.isEmpty then [] else ["never reached: " ++ ", ".intercalate unreached]

/-- Simulate a preset and print the report. -/
def simulate (m : Materials) (key : String) (options : Simulation.Options) (json : Bool) :
    Checked Result :=
  match findPreset m.presets key with
  | .error f => return .failed [] [] f
  | .ok draft =>
    let report := draft.validate m.catalogue
    match report.preset with
    | none =>
      return .failed [] (report.diagnostics.errors.map Diagnostic.line)
        (.because (draft.id ++ " did not pass validation"))
    | some preset => do
      match ← Simulation.simulate preset m.catalogue options with
      | .error e => return .failed [] [] (.because ("internal fault: " ++ e.message))
      | .ok r => return .success (if json then [r.toDocument.pretty] else reportLines preset r)

/-- The options of a simulation: those of the settings, unless they are given. -/
def simulationOptions (s : Settings) (maxMs maxNodes : Option Nat) : Simulation.Options :=
  let chosen := Simulation.Options.ofSettings s
  { chosen with
    maxMs := maxMs.getD chosen.maxMs
    maxNodes := maxNodes.getD chosen.maxNodes }

/-- Carry out a task that needs no terminal. -/
def perform (m : Materials) : Task → Checked Result
  | .run => return .success []
  | .validate preset => return validate m preset
  | .simulate preset maxMs maxNodes json =>
    simulate m preset (simulationOptions m.settings maxMs maxNodes) json

/-- Carry out what a command line asks for, apart from what needs a terminal. -/
def run (o : Options) (files : Files) : Checked Result :=
  match load o files with
  | (.error f, journal) => return (Result.failed [] [] f).after journal
  | (.ok m, journal) => return (← perform m o.task).after journal

/-- What the program prints instead of doing its work. -/
def answer : Reply → Result
  | .refusal r => ⟨2, [], r.lines, #[]⟩
  | .help c => .success c.helpLines
  | .version => .success [programName ++ " " ++ programVersion]

/-- The name of the file that holds the journal. -/
def journalName : String :=
  "app.log"

/-- The result when there is no place for the journal. -/
def withoutJournal (cause : String) : Result :=
  .failed [] [] ⟨"failed to initialise logging", [cause]⟩

end CommandLine

end Rotation
