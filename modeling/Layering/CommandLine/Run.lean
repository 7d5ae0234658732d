import Layering.CommandLine.Command
import Layering.CommandLine.Settings
import Layering.Policy.Default
import Layering.Policy.Source
import Layering.Project

/-! What each command does. A command sees the file system as a value, and what it prints and writes is its outcome. -/
namespace Layering.CommandLine

/-- What a command does. -/
structure Outcome where
  /-- Zero if all is well, one if there are findings, two if the command cannot be done. -/
  code : Nat
  output : String := ""
  /-- What is said about a command that cannot be done. -/
  error : String := ""
  /-- A file that is written. -/
  written : Option (Path × String) := none
  deriving Repr, DecidableEq

/-- Why a check cannot be done. -/
inductive CheckError where
  | policy (error : Policy.Error)
  | unknownRule (key : String)
  | project (error : ProjectError)
  deriving Repr, DecidableEq

def CheckError.message : CheckError → String
  | policy error => error.message
  | unknownRule key => Rule.unknownMessage key
  | project error => error.message

/-- The names in a list with commas, without blanks at their ends. Empty names do not count. -/
def ruleNames (list : String) : List String :=
  ((Text.split ',' list).map Text.trim).filter (· ≠ "")

/-- The rules that the user chooses, all of them if none are named. -/
def selectRules (list : Option String) : Except CheckError (List Rule) :=
  match list with
  | none => .ok Rule.selectable
  | some list => (Rule.select (ruleNames list)).mapError .unknownRule

/-- The absolute path of a project directory. -/
def projectDirectory (s : Policy.Surroundings) (project : Path) : Path :=
  if project.isAbsolute then project else (s.absolute project).clean

/-- The report that a check prints. -/
def checkReport (s : Policy.Surroundings) (tree : Tree) (config : Option Path) (options : CheckOptions) :
    Except CheckError Report := do
  let policy ← ((Policy.Source.find s tree options.project config).load s tree).mapError .policy
  let rules ← selectRules options.rules
  let directory := projectDirectory s options.project
  let user := userFile s tree
  let project ← (Project.make tree directory policy rules options.root options.exclude user).mapError .project
  return project.report tree

def check (s : Policy.Surroundings) (tree : Tree) (colored : Bool) (config : Option Path) (options : CheckOptions) :
    Outcome :=
  match checkReport s tree config options with
  | .ok report => { code := if report.hasViolations then 1 else 0, output := report.render colored options.format }
  | .error e => { code := 2, error := "error: " ++ e.message ++ "\n" }

/-- A text followed by blanks up to a width. -/
def padded (width : Nat) (text : String) : String :=
  text ++ String.ofList (List.replicate (width - text.length) ' ')

/-- A line of the list of rules. -/
def ruleLine (rule : Rule) : String :=
  padded 8 rule.code ++ " " ++ padded 22 rule.name ++ " " ++ rule.description
    ++ (if rule.isConfigurable then "" else " (always on)") ++ "\n"

def ruleList : String :=
  "Available rules:\n\n" ++ padded 8 "Code" ++ " " ++ padded 22 "Name" ++ " Description\n"
    ++ String.ofList (List.replicate 80 '-') ++ "\n" ++ String.join (Rule.all.map ruleLine)
    ++ "\nToggle or re-grade a rule in the policy:\n  [rules.cross-module-import]\n  enabled = false\n"
    ++ "\nUse --rules to run only some rules, e.g.:\n"
    ++ "  layer-lint check --rules layer-direction,cross-module-import\n"
    ++ "  layer-lint check --rules LL001,LL002\n"

/-- The file that the standard policy is written to. -/
def policyFile : Path := ⟨"layer-lint.toml"⟩

/-- Writes the standard policy. A file that is there is replaced only by force, and a directory never. -/
def init (s : Policy.Surroundings) (tree : Tree) (force : Bool) : Outcome :=
  let path := s.absolute policyFile
  if tree.holdsAt path fun _ => !force then
    { code := 2
      error := "error: Policy file already exists at " ++ policyFile.text ++ ". Use --force to overwrite.\n" }
  else if tree.holdsAt path Tree.isDirectory then
    { code := 2, error := "error: failed to write " ++ policyFile.text ++ "\n" }
  else
    { code := 0
      output := "Created " ++ policyFile.text ++ "\n\nNext steps:\n"
        ++ "  1. Adjust [[layers]] and [aliases] to your source tree\n  2. Run: layer-lint check\n"
      written := some (path, Policy.defaultText) }

/-- How the program is used. -/
def usage : String :=
  "Usage: layer-lint [--verbose] [--config <FILE>] <COMMAND>\n\nCommands:\n"
    ++ "  check [--root <DIR>] [--format text|json|compact] [--rules <RULES>] [--exclude <GLOB>]... [PROJECT]\n"
    ++ "  list-rules\n  init [--force]\n"

/-- What the program does with its arguments. -/
def run (s : Policy.Surroundings) (tree : Tree) (colored : Bool) (arguments : List String) : Outcome :=
  match readInvocation arguments with
  | .error .usage => { code := 2, error := usage }
  | .error .version => { code := 0, output := "layer-lint 0.1.0\n" }
  | .error .help => { code := 0, output := usage }
  | .ok ⟨config, .check options⟩ => check s tree colored config options
  | .ok ⟨_, .listRules⟩ => { code := 0, output := ruleList }
  | .ok ⟨_, .init force⟩ => init s tree force

/-- The file system after a command. -/
def Outcome.apply (o : Outcome) (tree : Tree) : Tree :=
  match o.written with
  | some (path, text) => tree.put (.file text.toUTF8) (Discovery.wayTo path)
  | none => tree

end Layering.CommandLine
