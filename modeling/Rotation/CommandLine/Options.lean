import Rotation.CommandLine.Arguments

/-!
# The command line

The flags and commands of the program, and what a command line asks for.
-/

namespace Rotation.CommandLine

/-- The name of the program, which is also the journal's name for this part. -/
def programName : String :=
  "cadence"

/-- The version of the program. -/
def programVersion : String :=
  "0.1.0"

/-- What is to be done. -/
inductive Task where
  | run
  | validate (preset : String)
  | simulate (preset : String) (maxMs maxNodes : Option Nat) (json : Bool)
  deriving DecidableEq, Repr

/-- What a command line asks for. -/
structure Options where
  stub : Bool
  presets : String
  catalogue : String
  settings : String
  logs : String
  task : Task
  deriving DecidableEq, Repr

/-! ## The grammar -/

/-- The operand that names a preset. -/
def presetOperand : Operand :=
  ⟨"<PRESET>", true, ""⟩

/-- A command of the program. -/
def commandOf (name about : String) (flags : List Flag) (operand : Option Operand) : Command :=
  ⟨name, programName ++ " " ++ name, about, flags, operand, []⟩

/-- The command that opens the console. -/
def runCommand : Command :=
  commandOf "run" "Interactive terminal UI (default)" [.help] none

/-- The command that validates a preset. -/
def validateCommand : Command :=
  commandOf "validate" "Check a preset against the catalogue and print every finding" [.help]
    (some presetOperand)

/-- The command that simulates a preset. -/
def simulateCommand : Command :=
  commandOf "simulate" "Dry-run a preset on a virtual clock"
    [.number "max-ms" "MAX_MS" "", .number "max-nodes" "MAX_NODES" "",
      .switch "json" "Print the report as JSON", .help]
    (some presetOperand)

/-- The command that tells about commands. -/
def helpCommand : Command :=
  commandOf "help" "Print this message or the help of the given subcommand(s)" []
    (some ⟨"[COMMAND]...", false, "Print help for the subcommand(s)"⟩)

/-- The commands in the order in which they are listed. -/
def commands : List Command :=
  [runCommand, validateCommand, simulateCommand]

/-- The program itself. -/
def mainCommand : Command where
  name := programName
  path := programName
  about := "Pixel-gated skill rotation runner"
  flags := [
    .switch "stub" "Use the stub platform (no real screen capture or key input)",
    .path "presets" "PRESETS" "presets" "Directory holding *.json and *.lua presets",
    .path "catalogue" "CATALOGUE" "catalogue.json" "",
    .path "settings" "SETTINGS" "settings.json" "",
    .path "logs" "LOGS" "logs" "",
    .help,
    .version]
  operand := none
  commands := (commands ++ [helpCommand]).map fun c => (c.name, c.about)

/-- The grammar of the command line. -/
def program : Program :=
  ⟨mainCommand, commands, helpCommand⟩

/-! ## What is asked for -/

/-- The number that has been given with a flag. -/
def Progress.number? (p : Progress) (name : String) : Option Nat :=
  (p.value? name).bind fun value => Text.number? UInt64.size value.toList

/-- The path that has been given with a flag, or its default. -/
def Progress.path (p : Progress) (name : String) : String :=
  match p.value? name, (mainCommand.flag? name).map Flag.kind with
  | some value, _ => value
  | none, some (.path default) => default
  | none, _ => ""

/-- The task that a command stands for. -/
def Task.ofCommand (c : Command) (p : Progress) : Task :=
  let preset := p.operand.getD ""
  if c = validateCommand then .validate preset
  else if c = simulateCommand then
    .simulate preset (p.number? "max-ms") (p.number? "max-nodes") (p.value? "json").isSome
  else .run

/-- What a command line asks for, or what the program answers instead. -/
def Options.ofArguments (arguments : List String) : Except Reply Options := do
  let (p, next) ← program.read arguments
  return {
    stub := (p.value? "stub").isSome
    presets := p.path "presets"
    catalogue := p.path "catalogue"
    settings := p.path "settings"
    logs := p.path "logs"
    task := (next.map fun (c, q) => Task.ofCommand c q).getD .run }

end Rotation.CommandLine
