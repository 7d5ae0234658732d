import Layering.Graph

/-! Imports of files of another module of the same layer. Only the public entry of a module may be imported, if
the policy allows even that. -/
namespace Layering.Check

/-- What the finding about an import of another module says. -/
def crossModuleMessage (source target : Module) (edge : Edge) : String :=
  let path := edge.target.path.getD edge.specifier
  if edge.target.isPublicEntry then
    "module `" ++ source.name ++ "` must not import module `" ++ target.name ++ "` (`" ++ path
      ++ "`); cross-module imports are disabled"
  else
    "module `" ++ source.name ++ "` imports `" ++ path ++ "`, an internal file of module `" ++ target.name ++ "`"

/-- What to do about an import of another module. -/
def crossModuleSuggestion (allowPublicApi : Bool) (target : Module) : String :=
  if allowPublicApi then "import from the public entry of `" ++ target.directory ++ "` instead"
  else "move the shared code into a lower layer"

/-- The finding about an import of another module, if there is one. -/
def crossing? (allowPublicApi : Bool) (severity : Severity) (file : SourceFile) (edge : Edge) :
    Option Violation :=
  match file.identity.owner, edge.target.identity.owner with
  | some source, some target =>
    if source = target ∨ file.identity.zone ≠ edge.target.identity.zone then none
    else if allowPublicApi && edge.target.isPublicEntry then none
    else
      some (Rule.crossModuleImport.violation severity (file.locationOf edge)
        (crossModuleMessage source target edge) (some (crossModuleSuggestion allowPublicApi target)))
  | _, _ => none

/-- The findings about imports of other modules. -/
def crossModule (p : Policy) (severity : Severity) (g : Graph) : List Violation :=
  g.edges.filterMap fun (file, edge) => crossing? p.modules.allowPublicApi severity file edge

end Layering.Check
