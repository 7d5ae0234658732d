import Layering.Analysis
import Layering.Proofs.Graph.Issues
import Layering.Proofs.Report.Independence
import Layering.Proofs.Resolution.Meaning
import Mathlib.Data.List.Find

/-! Imports that lead out of the layers. No rule looks at where they lead, so that the report stays the same while
they lead somewhere else or nowhere. -/
namespace Layering

namespace Target

/-- A target outside of all layers and modules. -/
def IsOutside (t : Target) : Prop := t.identity.zone.rank? = none ∧ t.identity.owner = none

instance (t : Target) : Decidable t.IsOutside := inferInstanceAs (Decidable (_ ∧ _))

/-- A target as the rules see it: outside of the layers all are the same. -/
def seen (t : Target) : Target := if t.IsOutside then outside .unresolved else t

theorem seen_of_isOutside {t : Target} (out : t.IsOutside) : t.seen = outside .unresolved := if_pos out

theorem isOutside_outside : (outside .unresolved).IsOutside := ⟨rfl, rfl⟩

end Target

def Edge.seen (edge : Edge) : Edge := { edge with target := edge.target.seen }

def SourceFile.seen (file : SourceFile) : SourceFile := { file with imports := file.imports.map Edge.seen }

theorem Edge.seen_eq {edge : Edge} (inside : ¬edge.target.IsOutside) : edge.seen = edge := by
  rw [seen, Target.seen, if_neg inside]

theorem Edge.isOutside_seen {edge : Edge} (out : edge.target.IsOutside) : edge.seen.target.IsOutside := by
  rw [seen, Target.seen_of_isOutside out]
  exact Target.isOutside_outside

/-- A graph as the rules see it. -/
def Graph.seen (g : Graph) : Graph := { g with files := g.files.map SourceFile.seen }

theorem Graph.edges_seen (g : Graph) : g.seen.edges = g.edges.map (Prod.map SourceFile.seen Edge.seen) := by
  simp only [edges, seen, SourceFile.seen, List.flatMap_map, List.map_flatMap, List.map_map]
  rfl

namespace Check

variable {p : Policy} {severity : Severity} {file : SourceFile} {edge : Edge}

theorem direction?_of_isOutside (out : edge.target.IsOutside) : direction? p severity file edge = none := by
  have zone := out.1
  rw [direction?]
  split
  · rename_i layers
    rw [layers] at zone
    cases zone
  · rfl

theorem direction?_seen (p : Policy) (severity : Severity) (file : SourceFile) (edge : Edge) :
    direction? p severity file.seen edge.seen = direction? p severity file edge := by
  by_cases out : edge.target.IsOutside
  · rw [direction?_of_isOutside out, direction?_of_isOutside (Edge.isOutside_seen out)]
  · rw [Edge.seen_eq out]
    rfl

theorem crossing?_of_isOutside {allowPublicApi : Bool} (out : edge.target.IsOutside) :
    crossing? allowPublicApi severity file edge = none := by
  rw [crossing?, out.2]
  cases file.identity.owner <;> rfl

theorem crossing?_seen (allowPublicApi : Bool) (severity : Severity) (file : SourceFile) (edge : Edge) :
    crossing? allowPublicApi severity file.seen edge.seen = crossing? allowPublicApi severity file edge := by
  by_cases out : edge.target.IsOutside
  · rw [crossing?_of_isOutside out, crossing?_of_isOutside (Edge.isOutside_seen out)]
  · rw [Edge.seen_eq out]
    rfl

/-- Outside of the layers an import is denied for its specifier alone. -/
theorem denialReason?_of_isOutside {rule : RoleRule} (out : edge.target.IsOutside) :
    denialReason? rule edge =
      (rule.deniedBy? edge.specifier).map fun denied => "imports denied package `" ++ denied ++ "`" := by
  have zone := out.1
  rw [denialReason?]
  split
  · rename_i denied
    rw [denied, Option.map_some]
  · rename_i layer
    rw [layer] at zone
    cases zone
  · rename_i none _
    rw [none, Option.map_none]

theorem deniedImport?_seen (rule : RoleRule) (file : SourceFile) (edge : Edge) :
    deniedImport? rule file.seen edge.seen = deniedImport? rule file edge := by
  by_cases out : edge.target.IsOutside
  · rw [deniedImport?, deniedImport?, denialReason?_of_isOutside out,
      denialReason?_of_isOutside (Edge.isOutside_seen out)]
    rfl
  · rw [Edge.seen_eq out]
    rfl

theorem roleFindings_seen (p : Policy) (file : SourceFile) : roleFindings p file.seen = roleFindings p file := by
  rw [roleFindings, roleFindings]
  refine List.flatMap_congr fun rule _ => ?_
  rw [roleRuleFindings, roleRuleFindings, SourceFile.seen, List.filterMap_map]
  refine congrArg _ (List.filterMap_congr fun edge _ => ?_)
  exact deniedImport?_seen rule file edge

end Check

namespace Analysis

theorem findings_seen (p : Policy) (forbidden : List Violation) (g : Graph) (rule : Rule) :
    findings p forbidden g.seen rule = findings p forbidden g rule := by
  cases rule with
  | layerDirection =>
    rw [findings, findings, Check.layerDirection, Check.layerDirection, g.edges_seen, List.filterMap_map]
    exact List.filterMap_congr fun edge _ => Check.direction?_seen p _ edge.1 edge.2
  | crossModuleImport =>
    rw [findings, findings, Check.crossModule, Check.crossModule, g.edges_seen, List.filterMap_map]
    exact List.filterMap_congr fun edge _ => Check.crossing?_seen _ _ edge.1 edge.2
  | roleContent =>
    rw [findings, findings, Check.roleContent, Check.roleContent, Graph.seen, List.flatMap_map]
    exact List.flatMap_congr fun file _ => Check.roleFindings_seen p file
  | requiredFiles | forbiddenPath | ioError | classificationError => rfl

/-- The report on a graph is that on the graph as the rules see it. -/
theorem report_seen (p : Policy) (rules : List Rule) (forbidden : List Violation) (g : Graph) :
    report p rules forbidden g.seen = report p rules forbidden g := by
  have edges : g.seen.edgeCount = g.edgeCount := by rw [Graph.edgeCount, Graph.edgeCount, g.edges_seen, List.length_map]
  simp only [report, evaluate, findings_seen, edges]
  rfl

end Analysis

namespace Policy

variable {p : Policy} {isFile isFile' : String → Bool} {file : String}

theorem isOutside_of_outside {path : String} (outside : Outside p.layers path) :
    (Target.ofResolution p (.internal path)).IsOutside := by
  have identity := p.identity_of_layerRoot? path
  rw [layerRoot?_eq_none outside] at identity
  simp [Target.IsOutside, Target.ofResolution, identity, Zone.rank?]

/-- Whatever may be meant in place of a file lies outside of the layers, as does the file itself. -/
def Aloof (p : Policy) (file : String) : Prop :=
  ∀ form, file ∈ p.candidates form → ∀ other ∈ p.candidates form, (Target.ofResolution p (.internal other)).IsOutside

/-- A specifier that may mean the file leads outside of the layers, whether the file is there or not. -/
theorem seen_of_tried (aloof : Aloof p file) {importer specifier text form : String}
    (read : p.reference importer specifier = .path text) (inside : inProject? text = some form)
    (tried : file ∈ p.candidates form) (isFile : String → Bool) :
    (Target.ofResolution p (p.resolve isFile importer specifier)).seen = Target.outside .unresolved := by
  rw [resolve, read]
  dsimp only
  rw [inside, Option.bind_some]
  cases first : (p.candidates form).find? fun file => file ≠ "" && isFile file with
  | none => exact Target.seen_of_isOutside Target.isOutside_outside
  | some other => exact Target.seen_of_isOutside (aloof form tried other (List.mem_of_find?_eq_some first))

/-- A file that comes and goes makes no difference to the rules if it lies outside of the layers with all that may be
meant in its place. -/
theorem seen_ofResolution (aloof : Aloof p file)
    (others : ∀ text form, inProject? text = some form → ∀ other ∈ p.candidates form, other ≠ "" → other ≠ file →
      isFile other = isFile' other) (importer specifier : String) :
    (Target.ofResolution p (p.resolve isFile importer specifier)).seen =
      (Target.ofResolution p (p.resolve isFile' importer specifier)).seen := by
  cases read : p.reference importer specifier with
  | package | absolute => rw [resolve, resolve, read]
  | path text =>
    cases inside : inProject? text with
    | none => simp only [resolve, read, inside, Option.bind_none]
    | some form =>
      by_cases tried : file ∈ p.candidates form
      · rw [seen_of_tried aloof read inside tried isFile, seen_of_tried aloof read inside tried isFile']
      · have same : ((p.candidates form).find? fun file => file ≠ "" && isFile file) =
            (p.candidates form).find? fun file => file ≠ "" && isFile' file := by
          refine List.find?_congr fun other listed => ?_
          by_cases none : other = ""
          · simp [none]
          · rw [others text form inside other listed none fun same => tried (same ▸ listed)]
        simp only [resolve, read, inside, Option.bind_some, same]

end Policy

namespace Graph

variable {p : Policy} {root : Path} {reader reader' : Reader} {paths paths' : List String}

/-- The rules see the same graph if the same files are read and nothing but the outside of the layers has changed. -/
theorem seen_build (samePaths : ∀ path, path ∈ paths ↔ path ∈ paths')
    (reads : ∀ path ∈ paths, reader.read (root.join ⟨path⟩) = reader'.read (root.join ⟨path⟩))
    (targets : ∀ importer specifier,
      (Target.ofResolution p (p.resolve (isKnown root reader paths) importer specifier)).seen =
        (Target.ofResolution p (p.resolve (isKnown root reader' paths) importer specifier)).seen) :
    (build p root reader paths).seen = (build p root reader' paths').seen := by
  rw [← Analysis.build_congr p root reader' samePaths]
  have files : (build p root reader paths).files.map SourceFile.seen =
      (build p root reader' paths).files.map SourceFile.seen := by
    rw [files_build, files_build, List.map_filterMap, List.map_filterMap]
    refine List.filterMap_congr fun path listed => ?_
    rw [reads path (mem_inventory_build.mp listed)]
    cases reader'.read (root.join ⟨path⟩) with
    | error e => rfl
    | ok text => simp [sourceFile?, SourceFile.seen, edgesOf, Edge.seen, targets]
  have issues : (build p root reader paths).issues = (build p root reader' paths).issues := by
    rw [issues_build, issues_build]
    refine congrArg _ (List.flatMap_congr fun path listed => ?_)
    rw [reads path (mem_inventory_build.mp listed)]
  rw [seen, seen, files, issues]
  rfl

end Graph

end Layering
