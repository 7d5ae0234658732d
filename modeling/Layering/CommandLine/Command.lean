import Layering.CommandLine.Arguments
import Layering.Report.Rendering

/-! The commands of the program. -/
namespace Layering.CommandLine

/-- What is checked, and how the report is shown. -/
structure CheckOptions where
  project : Path
  root : Option Path
  format : Format
  /-- The names of the rules to run, with commas between them. -/
  rules : Option String
  exclude : List String
  deriving Repr, DecidableEq

inductive Command where
  | check (options : CheckOptions)
  | listRules
  /-- Writing the standard policy to the working directory. -/
  | init (force : Bool)
  deriving Repr, DecidableEq

/-- A command with what all commands take. -/
structure Invocation where
  /-- The file of the policy. -/
  config : Option Path
  command : Command
  deriving Repr, DecidableEq

/-- The options that every command takes. -/
def commonFlags : List Flag := [
  { name := "verbose", short := some 'v' },
  { name := "config", short := some 'c', takesValue := true, accepts := (· ≠ "") },
  { name := "help", short := some 'h' }]

def programGrammar : Grammar where
  flags := { name := "version", short := some 'V' } :: commonFlags
  commands := ["check", "list-rules", "init", "help"]

def checkGrammar : Grammar where
  flags := [
    { name := "root", takesValue := true, accepts := (· ≠ "") },
    { name := "format", short := some 'f', takesValue := true, accepts := fun name => (Format.ofName? name).isSome },
    { name := "rules", takesValue := true },
    { name := "exclude", short := some 'e', takesValue := true, repeats := true }] ++ commonFlags
  words := 1

def initGrammar : Grammar where
  flags := { name := "force" } :: commonFlags

def plainGrammar : Grammar where
  flags := commonFlags

/-- The check that arguments ask for. -/
def CheckOptions.ofArguments (a : Arguments) : CheckOptions where
  project := ⟨a.words.head?.getD "."⟩
  root := (a.value? "root").map Path.mk
  format := ((a.value? "format").bind Format.ofName?).getD .text
  rules := a.value? "rules"
  exclude := a.values "exclude"

/-- The arguments of a command that passes nothing on. -/
def readAll (g : Grammar) (arguments : List String) : Except Stop Arguments := do
  return (← read g {} none arguments).1

/-- The command that a name and its arguments ask for, with its arguments. -/
def readCommand (name : String) (arguments : List String) : Except Stop (Command × Arguments) := do
  match name with
  | "check" =>
    let a ← readAll checkGrammar arguments
    return (.check (.ofArguments a), a)
  | "list-rules" => return (.listRules, ← readAll plainGrammar arguments)
  | "init" =>
    let a ← readAll initGrammar arguments
    return (.init (a.has "force"), a)
  | _ => .error .help

/-- What the arguments of the program ask for. Options that every command takes may stand before the command as well;
those after it count. -/
def readInvocation (arguments : List String) : Except Stop Invocation := do
  let (before, found) ← read programGrammar {} none arguments
  match found with
  | none => .error .usage
  | some (name, rest) =>
    let (command, after) ← readCommand name rest
    return { config := ((after.value? "config").or (before.value? "config")).map Path.mk, command }

end Layering.CommandLine
