import Layering.Graph

/-! Modules that lack a file of a required role. A file counts if it lies right in the directory of the module,
whether it can be read or not. -/
namespace Layering.Check

/-- The file of a role that a module could be given: its stem is the first one of the role. -/
def expectedFile? (p : Policy) (m : Module) (role : Role) : Option String :=
  match p.stemsOf role, p.discovery.extensions with
  | stem :: _, extension :: _ => some (m.directory ++ "/" ++ stem ++ "." ++ extension)
  | _, _ => none

/-- The finding about a module without a file of the role. -/
def missingRole (p : Policy) (severity : Severity) (m : Module) (role : Role) : Violation :=
  Rule.requiredFiles.violation severity (.whole m.directory)
    ("module `" ++ m.name ++ "` is missing its `" ++ role.text ++ "` file")
    ((expectedFile? p m role).map fun file => "create `" ++ file ++ "`")

/-- Whether a module has a file of the role. -/
def hasRole (p : Policy) (g : Graph) (m : Module) (role : Role) : Bool :=
  g.inventory.any fun path => m.holds path && p.roleOf path = role

/-- The findings about modules that lack a required file. -/
def requiredFiles (p : Policy) (severity : Severity) (g : Graph) : List Violation :=
  g.modules.flatMap fun m =>
    (p.modules.required.filter fun role => !hasRole p g m role).map fun role => missingRole p severity m role

end Layering.Check
