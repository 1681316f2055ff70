import Rotation.CommandLine.Refusal
import Rotation.Text.Similarity

/-!
# Reading arguments

The arguments of a command are read from left to right.  The value of a flag
follows it or stands behind an equals sign; one that follows is looked at only
when the next argument is read.  After a double dash there are operands only.
-/

namespace Rotation.CommandLine

/-- An argument by its form. -/
inductive Argument where
  | dashes
  | long (name : String) (value : Option String)
  | short (first : Char)
  | plain
  deriving DecidableEq, Repr

namespace Argument

/-- The form of an argument; a lone dash is no flag. -/
def ofText (s : String) : Argument :=
  match s.toList with
  | ['-', '-'] => .dashes
  | '-' :: '-' :: rest =>
    let name := String.ofList (rest.takeWhile (· != '='))
    match rest.dropWhile (· != '=') with
    | [] => .long name none
    | _ :: value => .long name (some (String.ofList value))
  | '-' :: first :: _ => .short first
  | _ => .plain

/-- Whether it looks like a flag. -/
def isFlag : Argument → Bool
  | .long .. | .short _ => true
  | _ => false

end Argument

/-- What has been read of the arguments of a command: the flags with their
values, a flag whose value has not been looked at or even read, the operand,
and whether there has been a double dash. -/
structure Progress where
  given : List (Flag × String)
  pending : Option (Flag × Option String)
  operand : Option String
  trailing : Bool
  deriving Repr

namespace Progress

/-- Nothing read. -/
def start : Progress :=
  ⟨[], none, none, false⟩

/-- The flags that have been given. -/
def flags (p : Progress) : List Flag :=
  p.given.map Prod.fst

/-- The value of a flag that has been given. -/
def value? (p : Progress) (name : String) : Option String :=
  (p.given.find? fun entry => entry.1.name == name).map Prod.snd

/-- Whether the next argument is a value. -/
def awaitsValue (p : Progress) : Bool :=
  !p.trailing && p.pending.any fun entry => entry.2.isNone

/-- What is wrong with the value of a flag. -/
def mistake? (f : Flag) (value : String) : Option Mistake :=
  match f.kind with
  | .path _ => if value.isEmpty then some (.noValue f) else none
  | .number =>
    match Text.number UInt64.size value.toList with
    | .ok _ => none
    | .error why => some (.badNumber f value why)
  | _ => none

/-- Take a flag with its value, also if something is wrong with it. -/
def take (c : Command) (p : Progress) (f : Flag) (value : String) : Progress × Option Refusal :=
  if p.flags.contains f then
    ({ p with given := p.given.filter fun entry => entry.1 != f },
      some (.ofUsage (.repeated f) none c.usage))
  else ({ p with given := p.given ++ [(f, value)] }, (mistake? f value).map .ofValue)

/-- Look at the value that has not been looked at. -/
def settle (c : Command) (p : Progress) : Progress × Option Refusal :=
  let settled := { p with pending := none }
  match p.pending with
  | none => (settled, none)
  | some (f, none) => (settled, some (.ofValue (.noValue f)))
  | some (f, some value) => settled.take c f value

/-- What has been read, unless something is wrong with it. -/
def accept (result : Progress × Option Refusal) : Except Reply Progress :=
  match result.2 with
  | some refusal => .error (.refusal refusal)
  | none => .ok result.1

end Progress

/-- The commands of a program; the main one is given no name on a command line. -/
structure Program where
  main : Command
  commands : List Command
  helpCommand : Command

namespace Program

open Progress

/-- The command with a name. -/
def command? (g : Program) (name : String) : Option Command :=
  g.commands.find? fun c => c.name == name

/-- Whether a command has other ones below it. -/
def isMain (g : Program) (c : Command) : Bool :=
  c.name == g.main.name

/-- The flag that an unknown one may have been meant for: the most similar one of
the command, or one of a command among the arguments that follow. -/
def meant? (g : Program) (c : Command) (name : String) (rest : List String) :
    Option (Flag × Option Command) :=
  let best := fun (c : Command) =>
    ((Text.similarWords name (c.flags.map Flag.name)).getLast?).bind c.flag?
  match best c with
  | some f => some (f, none)
  | none =>
    if g.isMain c then
      let found := g.commands.filterMap fun below => do
        return (← rest.findIdx? (· == below.name), ← best below, below)
      let least := found.foldl (fun least entry =>
        if least.any fun (other : Nat × Flag × Command) => other.1 ≤ entry.1 then least
        else some entry) none
      least.map fun (_, f, below) => (f, some below)
    else none

/-- The refusal of an unknown flag with a long name. -/
def unknownFlag (g : Program) (c : Command) (p : Progress) (name : String) (rest : List String) :
    Refusal :=
  let p := (p.settle c).1
  let argument := "--" ++ name
  match g.meant? c name rest with
  | some (f, none) =>
    .ofUsage (.unexpected argument) (some (.similarFlag f.name)) (c.usageWith (p.flags ++ [f]))
  | some (f, some below) =>
    .ofUsage (.unexpected argument) (some (.flagOfCommand below.name f.name))
      (c.usageAfter p.flags)
  | none =>
    let tip := if c.operand.isSome then some (Tip.asOperand argument) else none
    .ofUsage (.unexpected argument) tip (c.usageAfter p.flags)

/-- Read a flag by its long name. -/
def readLong (g : Program) (c : Command) (p : Progress) (name : String) (value : Option String)
    (rest : List String) : Except Reply Progress := do
  match c.flag? name with
  | none => throw (.refusal (g.unknownFlag c p name rest))
  | some f =>
    match f.takesValue, value with
    | false, some value =>
      throw (.refusal (.ofUsage (.needlessValue f value) none (c.usageWith (p.flags ++ [f]))))
    | true, some value => accept ((← accept (p.settle c)).take c f value)
    | true, none => return { ← accept (p.settle c) with pending := some (f, none) }
    | false, none =>
      let p ← accept (p.settle c)
      match f.kind with
      | .help => throw (.help c)
      | .version => throw .version
      | _ => accept (p.take c f "")

/-- Read a flag by its letter.  Only flags that ask for something have one. -/
def readShort (c : Command) (p : Progress) (letter : Char) : Except Reply Progress := do
  match c.flags.find? fun f => f.letter == some letter with
  | some f =>
    discard (accept (p.settle c))
    throw (if f.kind = .version then .version else .help c)
  | none =>
    let argument := "-" ++ letter.toString
    let tip := if c.operand.isSome then some (Tip.asOperand argument) else none
    throw (.refusal (.ofUsage (.unexpected argument) tip c.usage))

/-- The refusal of an operand for which there is no place. -/
def misplaced (c : Command) (trailing : Bool) (argument : String) : Refusal :=
  let similar := Text.similarWords argument c.commandNames
  if trailing && c.commandNames.contains argument then
    .ofUsage (.unexpected argument) (some (.needlessDashes argument)) c.usage
  else if c.commands.isEmpty then .ofUsage (.unexpected argument) none c.usage
  else
    let tip := if similar.isEmpty then none else some (Tip.similarCommands similar)
    .ofUsage (.unknownCommand argument) tip c.usage

/-- Read a value or an operand. -/
def readPlain (c : Command) (p : Progress) (argument : String) : Except Reply Progress := do
  match p.awaitsValue, p.pending with
  | true, some (f, _) => return { p with pending := some (f, some argument) }
  | _, _ =>
    if c.operand.isSome && p.operand.isNone then
      return { ← accept (p.settle c) with operand := some argument }
    else throw (.refusal (misplaced c p.trailing argument))

/-- Read arguments up to the name of a command; the result has that name and the
arguments after it. -/
def readFrom (g : Program) (c : Command) (p : Progress) :
    List String → Except Reply (Progress × Option (String × List String))
  | [] => return (p, none)
  | argument :: rest => do
    if !p.trailing && !p.awaitsValue && c.commandNames.contains argument then
      return (p, some (argument, rest))
    match if p.trailing then .plain else Argument.ofText argument with
    | .dashes => readFrom g c { p with trailing := true } rest
    | .long name value => readFrom g c (← g.readLong c p name value rest) rest
    | .short letter => readFrom g c (← readShort c p letter) rest
    | .plain => readFrom g c (← readPlain c p argument) rest

/-- Look at what is left when all arguments have been read. -/
def finish (c : Command) (p : Progress) : Except Reply Progress := do
  let p ← accept (p.settle c)
  match c.operand with
  | some operand =>
    if operand.required && p.operand.isNone then
      throw (.refusal (.ofUsage (.noOperand operand) none (c.usageWith p.flags)))
    return p
  | none => return p

/-- The answer to a request for help about a command, by the names after it. -/
def helpAbout (g : Program) (c : Command) : List String → Reply
  | [] => .help c
  | name :: rest =>
    let below := if name = g.helpCommand.name then some g.helpCommand else g.command? name
    match if g.isMain c then below else none with
    | some below => helpAbout g below rest
    | none => .refusal ⟨.unknownCommand name, none, some c.usage, c.flags.contains .help⟩

/-- Read a command line.  The result has what was given to the program itself,
and the command with what was given to it. -/
def read (g : Program) (arguments : List String) :
    Except Reply (Progress × Option (Command × Progress)) := do
  let (p, next) ← g.readFrom g.main .start arguments
  match next with
  | none => return (← finish g.main p, none)
  | some (name, rest) =>
    match g.command? name with
    | none => throw (g.helpAbout g.main rest)
    | some c =>
      let (q, _) ← g.readFrom c .start rest
      let q ← finish c q
      return (← finish g.main p, some (c, q))

end Program

end Rotation.CommandLine
