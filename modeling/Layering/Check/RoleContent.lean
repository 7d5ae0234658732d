import Layering.Graph
import Layering.Source.Sanitize

/-! Files that contain or import what the rules for their role deny. Text is searched outside of comments only, and
a pattern is reported once for a file, at its first occurrence. -/
namespace Layering.Check

/-- The message of a role rule, or else the given one. -/
def roleMessage (rule : RoleRule) (standard : String) : String :=
  "[" ++ rule.name ++ "] " ++ rule.message.getD standard

/-- What was found where, if the pattern occurs in a text. -/
def deniedText? (rule : RoleRule) (path text : String) (pattern : TextPattern) : Option Violation :=
  (pattern.find? text).map fun (offset, count) =>
    let position := Text.position text offset
    let found := "found `" ++ pattern.source ++ "`"
    let counted := if count = 1 then found else found ++ ", " ++ toString count ++ " occurrences"
    let message := roleMessage rule
      ("`" ++ rule.role.text ++ "` files must not contain `" ++ pattern.source ++ "`")
    Rule.roleContent.violation rule.severity ⟨⟨path⟩, position.line, position.column⟩
      (message ++ " (" ++ counted ++ ")") none

/-- Why a role rule denies an import: the specifier is denied, or the layer that it leads to. -/
def denialReason? (rule : RoleRule) (edge : Edge) : Option String :=
  match rule.deniedBy? edge.specifier, edge.target.identity.zone with
  | some denied, _ => some ("imports denied package `" ++ denied ++ "`")
  | none, .layer name _ => if rule.denyLayers.contains name then some ("imports layer `" ++ name ++ "`") else none
  | none, _ => none

/-- The finding about an import that a role rule denies. -/
def deniedImport? (rule : RoleRule) (file : SourceFile) (edge : Edge) : Option Violation :=
  (denialReason? rule edge).map fun reason =>
    let message := roleMessage rule
      ("`" ++ rule.role.text ++ "` files must not import `" ++ edge.specifier ++ "`")
    Rule.roleContent.violation rule.severity (file.locationOf edge)
      (message ++ " (`" ++ edge.specifier ++ "` " ++ reason ++ ")")
      (some ("move this dependency out of the `" ++ rule.role.text ++ "` file"))

/-- The findings of a role rule about a file whose text without comments is given. -/
def roleRuleFindings (rule : RoleRule) (file : SourceFile) (text : String) : List Violation :=
  rule.text.filterMap (deniedText? rule file.path text) ++ file.imports.filterMap (deniedImport? rule file)

/-- The findings about a file. -/
def roleFindings (p : Policy) (file : SourceFile) : List Violation :=
  let rules := p.roleRules.filter fun rule => rule.role = file.identity.role
  let text := Source.sanitize false file.text
  rules.flatMap fun rule => roleRuleFindings rule file text

/-- The findings about what files contain and import for their roles. -/
def roleContent (p : Policy) (g : Graph) : List Violation := g.files.flatMap (roleFindings p)

end Layering.Check
