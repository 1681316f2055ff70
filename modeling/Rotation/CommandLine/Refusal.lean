import Rotation.CommandLine.Grammar
import Rotation.Text.Number

/-!
# Refusals

What the program answers to a command line that makes no sense: what is wrong,
perhaps a tip, and how the command is used.
-/

namespace Rotation.CommandLine

/-- What is wrong with a command line. -/
inductive Mistake where
  | unexpected (argument : String)
  | needlessValue (flag : Flag) (value : String)
  | repeated (flag : Flag)
  | noValue (flag : Flag)
  | badNumber (flag : Flag) (value : String) (why : Text.NumberError)
  | noOperand (operand : Operand)
  | unknownCommand (name : String)
  deriving DecidableEq, Repr

/-- The lines about a mistake. -/
def Mistake.lines : Mistake → List String
  | .unexpected argument => ["unexpected argument '" ++ argument ++ "' found"]
  | .needlessValue flag value =>
    ["unexpected value '" ++ value ++ "' for '" ++ flag.form ++ "' found; no more were expected"]
  | .repeated flag => ["the argument '" ++ flag.form ++ "' cannot be used multiple times"]
  | .noValue flag => ["a value is required for '" ++ flag.form ++ "' but none was supplied"]
  | .badNumber flag value why =>
    ["invalid value '" ++ value ++ "' for '" ++ flag.form ++ "': " ++ why.message]
  | .noOperand operand =>
    ["the following required arguments were not provided:", "  " ++ operand.form]
  | .unknownCommand name => ["unrecognized subcommand '" ++ name ++ "'"]

/-- A tip about a mistake. -/
inductive Tip where
  | similarFlag (name : String)
  | flagOfCommand (command name : String)
  | similarCommands (names : List String)
  | asOperand (argument : String)
  | needlessDashes (command : String)
  deriving DecidableEq, Repr

/-- The tip in words. -/
def Tip.words : Tip → String
  | .similarFlag name => "a similar argument exists: '--" ++ name ++ "'"
  | .flagOfCommand command name => "'" ++ command ++ " --" ++ name ++ "' exists"
  | .similarCommands names =>
    (if names.length = 1 then "a similar subcommand exists: "
      else "some similar subcommands exist: ") ++
    ", ".intercalate (names.map fun name => "'" ++ name ++ "'")
  | .asOperand argument =>
    "to pass '" ++ argument ++ "' as a value, use '-- " ++ argument ++ "'"
  | .needlessDashes command =>
    "subcommand '" ++ command ++ "' exists; to use it, remove the '--' before it"

/-- A mistake with what may help about it. -/
structure Refusal where
  mistake : Mistake
  tip : Option Tip
  usage : Option String
  helpful : Bool
  deriving DecidableEq, Repr

namespace Refusal

/-- A mistake in a value. -/
def ofValue (mistake : Mistake) : Refusal :=
  ⟨mistake, none, none, true⟩

/-- A mistake about which the usage helps. -/
def ofUsage (mistake : Mistake) (tip : Option Tip) (usage : String) : Refusal :=
  ⟨mistake, tip, some usage, true⟩

/-- The lines of a refusal. -/
def lines (r : Refusal) : List String :=
  let first := match r.mistake.lines with
    | [] => []
    | line :: rest => ("error: " ++ line) :: rest
  first ++
    (match r.tip with
      | some tip => ["", "  tip: " ++ tip.words]
      | none => []) ++
    (match r.usage with
      | some usage => ["", "Usage: " ++ usage]
      | none => []) ++
    if r.helpful then ["", "For more information, try '--help'."] else []

end Refusal

/-- What the program answers instead of doing its work. -/
inductive Reply where
  | refusal (r : Refusal)
  | help (c : Command)
  | version
  deriving DecidableEq, Repr

end Rotation.CommandLine
