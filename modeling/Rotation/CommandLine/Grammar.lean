import Rotation.Text.Line

/-!
# Grammars of command lines

A command has flags, at most one operand, and perhaps commands below it.  From
this follow the line about its usage and the text of its help.
-/

namespace Rotation.CommandLine

/-- What a flag does. -/
inductive FlagKind where
  | switch
  | path (default : String)
  | number
  | help
  | version
  deriving DecidableEq, Repr

/-- A flag with its long name, its letter, the name of its value and a
description. -/
structure Flag where
  name : String
  letter : Option Char
  value : String
  kind : FlagKind
  about : String
  deriving DecidableEq, Repr

namespace Flag

/-- A flag without a value. -/
def switch (name about : String) : Flag :=
  ⟨name, none, "", .switch, about⟩

/-- A flag with a path as its value. -/
def path (name value default about : String) : Flag :=
  ⟨name, none, value, .path default, about⟩

/-- A flag with a number as its value. -/
def number (name value about : String) : Flag :=
  ⟨name, none, value, .number, about⟩

/-- The flag that asks for help. -/
def help : Flag :=
  ⟨"help", some 'h', "", .help, "Print help"⟩

/-- The flag that asks for the version. -/
def version : Flag :=
  ⟨"version", some 'V', "", .version, "Print version"⟩

/-- Whether a flag has a value. -/
def takesValue (f : Flag) : Bool :=
  match f.kind with
  | .path _ | .number => true
  | _ => false

/-- The flag as it is written, with the name of its value. -/
def form (f : Flag) : String :=
  "--" ++ f.name ++ if f.takesValue then " <" ++ f.value ++ ">" else ""

/-- The description of a flag with the default of its value. -/
def description (f : Flag) : String :=
  match f.kind with
  | .path default =>
    f.about ++ (if f.about.isEmpty then "" else " ") ++ "[default: " ++ default ++ "]"
  | _ => f.about

/-- Whether a usage is about more than help because of the flag. -/
def isOptional (f : Flag) : Bool :=
  f.kind != .help && f.kind != .version

end Flag

/-- The operand of a command. -/
structure Operand where
  form : String
  required : Bool
  about : String
  deriving DecidableEq, Repr

/-- A command; `path` are the words that lead to it, and `commands` the names
and descriptions of those below it. -/
structure Command where
  name : String
  path : String
  about : String
  flags : List Flag
  operand : Option Operand
  commands : List (String × String)
  deriving DecidableEq, Repr

namespace Command

/-- The flag with a name. -/
def flag? (c : Command) (name : String) : Option Flag :=
  c.flags.find? fun f => f.name == name

/-- The names of the commands below it. -/
def commandNames (c : Command) : List String :=
  c.commands.map Prod.fst

/-- The operand as a part of a usage. -/
def operandForms (c : Command) : List String :=
  (c.operand.map Operand.form).toList

/-- How a command is used. -/
def usage (c : Command) : String :=
  " ".intercalate ([c.path] ++ (if c.flags.any Flag.isOptional then ["[OPTIONS]"] else []) ++
    c.operandForms ++ if c.commands.isEmpty then [] else ["[COMMAND]"])

/-- How a command is used with some flags. -/
def usageWith (c : Command) (flags : List Flag) : String :=
  " ".intercalate ([c.path] ++ (flags.map Flag.form).eraseDups ++ c.operandForms)

/-- How a command is used with those flags that have been given, if any. -/
def usageAfter (c : Command) (flags : List Flag) : String :=
  if flags.isEmpty then c.usage else c.usageWith flags

/-! ## Help -/

/-- Rows of two columns; each row has an indent, and the first column is as wide
as its longest text. -/
def table (rows : List (String × String × String)) : List String :=
  let longest := (rows.map fun (_, left, _) => left.length).foldl max 0
  rows.map fun (indent, left, right) => indent ++ Text.alignLeft (longest + 2) left ++ right

/-- What stands before the long name of a flag. -/
def flagIndent (f : Flag) : String :=
  match f.letter with
  | some letter => "  -" ++ letter.toString ++ ", "
  | none => "      "

/-- A section of the help, unless it is empty. -/
def sectionLines (title : String) (rows : List String) : List String :=
  if rows.isEmpty then [] else "" :: title :: rows

/-- The lines of the help. -/
def helpLines (c : Command) : List String :=
  [c.about, "", "Usage: " ++ c.usage] ++
    sectionLines "Commands:" (table (c.commands.map fun (name, about) => ("  ", name, about))) ++
    sectionLines "Arguments:" (table (c.operand.toList.map fun o => ("  ", o.form, o.about))) ++
    sectionLines "Options:" (table (c.flags.map fun f => (flagIndent f, f.form, f.description)))

end Command

end Rotation.CommandLine
