import Layering.Graph

/-! Imports that point to a higher layer, and imports inside of a layer that does not allow them. Imports that
leave the layers are never found fault with. -/
namespace Layering.Check

/-- The finding about an import of a higher layer. -/
def upwardImport (severity : Severity) (lower higher : String) (file : SourceFile) (edge : Edge) : Violation :=
  Rule.layerDirection.violation severity (file.locationOf edge)
    ("layer `" ++ lower ++ "` must not import from higher layer `" ++ higher ++ "` (`" ++ edge.specifier ++ "`)")
    (some ("move the shared code down into `" ++ lower ++ "` or a lower layer, or invert the dependency"))

/-- The finding about an import inside of a layer that does not allow it. -/
def sidewaysImport (severity : Severity) (name : String) (file : SourceFile) (edge : Edge) : Violation :=
  Rule.layerDirection.violation severity (file.locationOf edge)
    ("layer `" ++ name ++ "` does not allow imports within itself (`" ++ edge.specifier ++ "`)")
    (some "move the shared part into a lower layer or set `allow_sideways = true`")

/-- Whether the files of the layer must not import each other. A layer with modules is left to the rule about
modules. -/
def forbidsSideways (p : Policy) (name : String) : Bool :=
  match p.layers.find? (·.name = name) with
  | some layer => !layer.allowSideways && !layer.modules
  | none => false

/-- The finding about the direction of an import, if there is one. -/
def direction? (p : Policy) (severity : Severity) (file : SourceFile) (edge : Edge) : Option Violation :=
  match file.identity.zone, edge.target.identity.zone with
  | .layer lower rank, .layer higher rank' =>
    if rank < rank' then some (upwardImport severity lower higher file edge)
    else if rank = rank' && forbidsSideways p lower then some (sidewaysImport severity lower file edge)
    else none
  | _, _ => none

/-- The findings about the directions of imports. -/
def layerDirection (p : Policy) (severity : Severity) (g : Graph) : List Violation :=
  g.edges.filterMap fun (file, edge) => direction? p severity file edge

end Layering.Check
