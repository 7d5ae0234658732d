import Layering.Check.CrossModule
import Layering.Check.LayerDirection
import Layering.Check.RequiredFiles
import Layering.Check.RoleContent
import Layering.Report.Basic

/-! Running rules on the graph of a project. -/
namespace Layering

namespace Rule

/-- The severity of the findings of a rule that a policy does not grade. -/
def standardSeverity : Rule → Severity := fun _ => .error

/-- The rules that can be run, in the order of their codes. -/
def selectable : List Rule := all.filter isConfigurable

/-- The selectable rule that a user names. -/
def ofUserKey? (key : String) : Option Rule := (ofKey? (Text.trim key)).filter isConfigurable

/-- The order of rules by their codes. -/
protected def compare (a b : Rule) : Ordering := compare a.code b.code

/-- The selectable rule that a user must name. A name of no rule is the error. -/
def requireUserKey (key : String) : Except String Rule :=
  match ofUserKey? key with
  | some rule => .ok rule
  | none => .error (Text.trim key)

/-- The selectable rules with the given names or codes, each once and in the order of their codes. The first name of no
rule is the error. -/
def select (keys : List String) : Except String (List Rule) := do
  let chosen ← keys.mapM requireUserKey
  return sortDistinct Rule.compare chosen

/-- What is said about a name of no rule. -/
def unknownMessage (key : String) : String :=
  "unknown rule `" ++ key ++ "`; run `layer-lint list-rules` for the available names"

end Rule

namespace Analysis

/-- The findings of a rule. Those about forbidden paths do not come from the graph and are given. -/
def findings (p : Policy) (forbidden : List Violation) (g : Graph) : Rule → List Violation
  | .layerDirection => Check.layerDirection p Rule.layerDirection.standardSeverity g
  | .crossModuleImport => Check.crossModule p Rule.crossModuleImport.standardSeverity g
  | .requiredFiles => Check.requiredFiles p Rule.requiredFiles.standardSeverity g
  | .roleContent => Check.roleContent p g
  | .forbiddenPath => forbidden
  | .ioError | .classificationError => []

/-- The findings with the severity that the policy gives to the rule. A rule may report failures to read, which are
findings of another rule and keep their severity. -/
def regrade (p : Policy) (rule : Rule) (violations : List Violation) : List Violation :=
  match p.severity? rule with
  | none => violations
  | some severity => violations.map fun v => if v.code = rule.code then { v with severity } else v

/-- The findings of the given rules that the policy does not switch off. -/
def evaluate (p : Policy) (rules : List Rule) (forbidden : List Violation) (g : Graph) : List Violation :=
  (rules.filter p.isEnabled).flatMap fun rule => regrade p rule (findings p forbidden g rule)

/-- The report on a graph. -/
def report (p : Policy) (rules : List Rule) (forbidden : List Violation) (g : Graph) : Report :=
  Report.sorted {
    violations := g.issues ++ evaluate p rules forbidden g
    filesChecked := g.inventory.length
    edgesChecked := g.edgeCount }

end Analysis

end Layering
