import Layering.Proofs.Findings
import Layering.Proofs.Graph.Places
import Layering.Proofs.Policy.Layers
import Mathlib

/-! The verdicts on imports. The rules about directions and about modules judge every import by itself, each import
has a place of its own, and so the report holds one finding for every import that breaks such a rule and no other.
No import breaks both rules, since only a layer without modules is checked for imports inside of it. -/
namespace Layering.Analysis

/-- An import against the order of the layers: it leads to a higher layer, or stays inside of a layer that neither
allows that nor has modules. -/
def Misdirected (p : Policy) (file : SourceFile) (edge : Edge) : Prop :=
  ∃ source ∈ p.layers, ∃ target ∈ p.layers,
    file.identity.zone = source.zone ∧ edge.target.identity.zone = target.zone ∧
      (source.rank < target.rank ∨ source = target ∧ source.allowSideways = false ∧ source.modules = false)

/-- An import of another module of the same layer, unless it leads to a public entry and the policy allows that. -/
def Trespassing (p : Policy) (file : SourceFile) (edge : Edge) : Prop :=
  ∃ layer ∈ p.layers, file.identity.zone = layer.zone ∧ edge.target.identity.zone = layer.zone ∧
    ∃ source ∈ file.identity.owner, ∃ target ∈ edge.target.identity.owner,
      source ≠ target ∧ ¬(p.modules.allowPublicApi = true ∧ edge.target.isPublicEntry = true)

instance (p : Policy) (file : SourceFile) (edge : Edge) : Decidable (Misdirected p file edge) := by
  unfold Misdirected; infer_instance

instance (p : Policy) (file : SourceFile) (edge : Edge) : Decidable (Trespassing p file edge) := by
  unfold Trespassing; infer_instance

section Rules

variable {p : Policy} {severity : Severity} {file : SourceFile} {edge : Edge}

theorem forbidsSideways_of_mem (ordered : Policy.Ordered p.layers) {layer : Layer} (listed : layer ∈ p.layers) :
    Check.forbidsSideways p layer.name = (!layer.allowSideways && !layer.modules) := by
  rw [Check.forbidsSideways, ordered.find_name listed]

theorem direction?_of_layers {source target : Layer} (lower : file.identity.zone = source.zone)
    (higher : edge.target.identity.zone = target.zone) :
    Check.direction? p severity file edge =
      if source.rank < target.rank then some (Check.upwardImport severity source.name target.name file edge)
      else if source.rank = target.rank && Check.forbidsSideways p source.name then
        some (Check.sidewaysImport severity source.name file edge)
      else none := by
  simp [Check.direction?, lower, higher, Layer.zone]

theorem isSome_direction?_iff (ordered : Policy.Ordered p.layers) (source : p.Grants file.identity)
    (target : p.Grants edge.target.identity) :
    (Check.direction? p severity file edge).isSome = true ↔ Misdirected p file edge := by
  constructor
  · intro found
    cases source with
    | outside zone _ =>
      unfold Check.direction? at found
      split at found
      · rename_i lower _
        simp [lower, Zone.rank?] at zone
      · contradiction
    | inside source listed lower _ =>
      cases target with
      | outside zone _ =>
        unfold Check.direction? at found
        split at found
        · rename_i higher
          simp [higher, Zone.rank?] at zone
        · contradiction
      | inside target listed' higher _ =>
        refine ⟨source, listed, target, listed', lower, higher, ?_⟩
        rw [direction?_of_layers lower higher, forbidsSideways_of_mem ordered listed] at found
        split at found
        · rename_i upward
          exact .inl upward
        · split at found
          · rename_i sideways
            simp only [Bool.and_eq_true, decide_eq_true_eq, Bool.not_eq_true'] at sideways
            exact .inr ⟨ordered.eq_of_rank listed listed' sideways.1, sideways.2⟩
          · contradiction
  · rintro ⟨source, listed, target, listed', lower, higher, upward | ⟨rfl, sideways, modules⟩⟩
    · simp [direction?_of_layers lower higher, upward]
    · simp [direction?_of_layers lower higher, forbidsSideways_of_mem ordered listed, sideways, modules]

theorem isSome_crossing?_iff (source : p.Grants file.identity) :
    (Check.crossing? p.modules.allowPublicApi severity file edge).isSome = true ↔ Trespassing p file edge := by
  unfold Check.crossing?
  constructor
  · intro found
    split at found
    · rename_i own other owner owner'
      obtain ⟨layer, listed, zone, -⟩ := source.layer_of_owner owner
      split at found
      · contradiction
      · rename_i inside
        obtain ⟨differ, same⟩ := not_or.mp inside
        split at found
        · contradiction
        · rename_i closed
          refine ⟨layer, listed, zone, (not_not.mp same) ▸ zone, own, owner, other, owner', differ, ?_⟩
          simpa using closed
    · contradiction
  · rintro ⟨layer, listed, zone, zone', own, owner, other, owner', differ, closed⟩
    rw [Option.mem_def.mp owner, Option.mem_def.mp owner']
    have closed : (p.modules.allowPublicApi && edge.target.isPublicEntry) = false := by
      simpa using closed
    simp [differ, zone, zone', closed]

/-- A layer that is checked for imports inside of it has no modules. -/
theorem not_misdirected_and_trespassing (ordered : Policy.Ordered p.layers) (source : p.Grants file.identity) :
    ¬(Misdirected p file edge ∧ Trespassing p file edge) := by
  rintro ⟨⟨lower, listed, higher, listed', zone, zone', against⟩, ⟨layer, _, same, same', own, owner, _⟩⟩
  have rank : lower.rank = layer.rank := (Zone.layer.inj (zone.symm.trans same)).2
  have rank' : higher.rank = layer.rank := (Zone.layer.inj (zone'.symm.trans same')).2
  rcases against with upward | ⟨-, -, modules⟩
  · omega
  · obtain ⟨home, member, zone'', present⟩ := source.layer_of_owner owner
    have : lower.rank = home.rank := (Zone.layer.inj (zone.symm.trans zone'')).2
    obtain rfl := ordered.eq_of_rank listed member this
    simp [modules] at present

end Rules

/-- The report has a finding of the rule at the import. -/
def Flagged (r : Report) (rule : Rule) (file : SourceFile) (edge : Edge) : Prop :=
  ∃ v ∈ r.violations, v.code = rule.code ∧ v.location.same (file.locationOf edge) = true

/-- A rule that judges every import by itself, and whose finding about an import stands at the import. -/
structure Judges (p : Policy) (forbidden : List Violation) (g : Graph) (rule : Rule)
    (verdict? : SourceFile → Edge → Option Violation) : Prop where
  configurable : rule.isConfigurable = true
  findings : findings p forbidden g rule = g.edges.filterMap fun e => verdict? e.1 e.2
  placed : ∀ {file edge v}, verdict? file edge = some v → v.location = file.locationOf edge
  coded : ∀ {file edge v}, verdict? file edge = some v → v.code = rule.code

theorem judges_layerDirection (p : Policy) (forbidden : List Violation) (g : Graph) :
    Judges p forbidden g .layerDirection (Check.direction? p Rule.layerDirection.standardSeverity) where
  configurable := rfl
  findings := rfl
  placed found := (of_direction? found).2
  coded found := (of_direction? found).1

theorem judges_crossModuleImport (p : Policy) (forbidden : List Violation) (g : Graph) :
    Judges p forbidden g .crossModuleImport
      (Check.crossing? p.modules.allowPublicApi Rule.crossModuleImport.standardSeverity) where
  configurable := rfl
  findings := rfl
  placed found := (of_crossing? found).2
  coded found := (of_crossing? found).1

namespace Judges

variable {p : Policy} {rules : List Rule} {forbidden : List Violation} {root : Path} {reader : Reader}
  {paths : List String} {rule : Rule} {verdict? : SourceFile → Edge → Option Violation}

/-- The findings of the rule, graded, import by import. -/
def verdicts (p : Policy) (rule : Rule) (verdict? : SourceFile → Edge → Option Violation) (g : Graph) :
    List Violation :=
  (g.edges.filterMap fun e => verdict? e.1 e.2).map (graded p rule)

theorem mem_verdicts {g : Graph} {v : Violation} : v ∈ verdicts p rule verdict? g ↔
    ∃ file edge, (file, edge) ∈ g.edges ∧ ∃ u, verdict? file edge = some u ∧ graded p rule u = v := by
  simp only [verdicts, List.mem_map, List.mem_filterMap, Prod.exists]
  constructor
  · rintro ⟨u, ⟨file, edge, member, found⟩, rfl⟩
    exact ⟨file, edge, member, u, found, rfl⟩
  · rintro ⟨file, edge, member, u, found, rfl⟩
    exact ⟨u, ⟨file, edge, member, found⟩, rfl⟩

/-- Verdicts at the same place are the same verdict: they are about the same import. -/
theorem eq_of_location (judges : Judges p forbidden (Graph.build p root reader paths) rule verdict?)
    (distinct : Graph.Distinct paths) {v w : Violation}
    (first : v ∈ verdicts p rule verdict? (Graph.build p root reader paths))
    (second : w ∈ verdicts p rule verdict? (Graph.build p root reader paths))
    (same : v.location.same w.location = true) : v = w := by
  obtain ⟨file, edge, imported, u, found, rfl⟩ := mem_verdicts.mp first
  obtain ⟨file', edge', imported', u', found', rfl⟩ := mem_verdicts.mp second
  rw [location_graded, location_graded, judges.placed found, judges.placed found'] at same
  obtain ⟨rfl, rfl⟩ := Graph.eq_of_location distinct imported imported' same
  rw [Option.some.inj (found.symm.trans found')]

theorem nodup_verdicts (judges : Judges p forbidden (Graph.build p root reader paths) rule verdict?)
    (distinct : Graph.Distinct paths) : (verdicts p rule verdict? (Graph.build p root reader paths)).Nodup := by
  unfold verdicts
  rw [List.map_filterMap, List.Nodup, List.pairwise_filterMap]
  refine Graph.nodup_edges.imp_of_mem fun imported imported' differ v found w found' equal => differ ?_
  obtain ⟨u, verdict, rfl⟩ := Option.map_eq_some_iff.mp found
  obtain ⟨u', verdict', rfl⟩ := Option.map_eq_some_iff.mp found'
  have place := congrArg Violation.location equal
  rw [location_graded, location_graded, judges.placed verdict, judges.placed verdict'] at place
  have same := Graph.eq_of_location distinct imported imported' (by simp [place, Location.same])
  exact Prod.ext same.1 same.2

/-- The findings of the report with the code of the rule are its verdicts, each once, because nothing else stands at the
place of a verdict under its code. -/
theorem reported_perm_verdicts (judges : Judges p forbidden (Graph.build p root reader paths) rule verdict?)
    (distinct : Graph.Distinct paths) (registered : rule ∈ rules) (enabled : p.isEnabled rule = true)
    (foreign : ∀ u ∈ forbidden, u.code ≠ rule.code) :
    ((report p rules forbidden (Graph.build p root reader paths)).violations.filter (·.code = rule.code)).Perm
      (verdicts p rule verdict? (Graph.build p root reader paths)) := by
  have coded : ∀ u ∈ Analysis.findings p forbidden (Graph.build p root reader paths) rule, u.code = rule.code := by
    rw [judges.findings]
    intro u found
    obtain ⟨_, -, verdict⟩ := List.mem_filterMap.mp found
    exact judges.coded verdict
  have reported := perm_reported judges.configurable registered enabled foreign coded
  rw [judges.findings] at reported
  refine reported (judges.nodup_verdicts distinct) fun v verdict w verdict' equal => ?_
  exact judges.eq_of_location distinct verdict verdict' (Violation.code_and_location_of_compare equal).2

theorem countP_reported (judges : Judges p forbidden (Graph.build p root reader paths) rule verdict?)
    (distinct : Graph.Distinct paths) (registered : rule ∈ rules) (enabled : p.isEnabled rule = true)
    (foreign : ∀ u ∈ forbidden, u.code ≠ rule.code) :
    (report p rules forbidden (Graph.build p root reader paths)).violations.countP (·.code = rule.code) =
      (Graph.build p root reader paths).edges.countP fun e => (verdict? e.1 e.2).isSome := by
  rw [List.countP_eq_length_filter,
    (judges.reported_perm_verdicts distinct registered enabled foreign).length_eq, verdicts, List.length_map,
    List.length_filterMap_eq_countP]

/-- An import is flagged exactly if the rule finds fault with it. -/
theorem flagged_iff (judges : Judges p forbidden (Graph.build p root reader paths) rule verdict?)
    (distinct : Graph.Distinct paths) (registered : rule ∈ rules) (enabled : p.isEnabled rule = true)
    (foreign : ∀ u ∈ forbidden, u.code ≠ rule.code) {file : SourceFile} {edge : Edge}
    (imported : (file, edge) ∈ (Graph.build p root reader paths).edges) :
    Flagged (report p rules forbidden (Graph.build p root reader paths)) rule file edge ↔
      (verdict? file edge).isSome = true := by
  have reported := fun {v} =>
    (judges.reported_perm_verdicts distinct registered enabled foreign).mem_iff (a := v)
  simp only [List.mem_filter, decide_eq_true_eq] at reported
  constructor
  · rintro ⟨v, member, code, place⟩
    obtain ⟨file', edge', imported', u, found, rfl⟩ := mem_verdicts.mp (reported.mp ⟨member, code⟩)
    rw [location_graded, judges.placed found] at place
    obtain ⟨rfl, rfl⟩ := Graph.eq_of_location distinct imported' imported place
    simp [found]
  · intro found
    obtain ⟨u, found⟩ := Option.isSome_iff_exists.mp found
    obtain ⟨member, code⟩ := reported.mpr (mem_verdicts.mpr ⟨file, edge, imported, u, found, rfl⟩)
    exact ⟨graded p rule u, member, code, by simp [judges.placed found, Location.same]⟩

end Judges

/-- If the paths are all different places, every misdirected import has one finding about directions in the report
and every trespassing one has one about modules, each at its import, and no import has both. -/
theorem imports_judged {document : Policy.Document} (project : Project)
    (accepted : Policy.load document = .ok project.policy) (tree : Tree) (reader : Reader) (paths : List String)
    (distinct : Graph.Distinct paths)
    (registered : .layerDirection ∈ project.rules ∧ .crossModuleImport ∈ project.rules)
    (enabled : project.policy.isEnabled .layerDirection = true ∧ project.policy.isEnabled .crossModuleImport = true) :
    let g := Graph.build project.policy project.directory reader paths
    let r := report project.policy project.rules (project.forbidden tree) g
    r.violations.countP (·.code = Rule.layerDirection.code) =
        g.edges.countP (fun e => Misdirected project.policy e.1 e.2) ∧
      r.violations.countP (·.code = Rule.crossModuleImport.code) =
        g.edges.countP (fun e => Trespassing project.policy e.1 e.2) ∧
      ∀ file edge, (file, edge) ∈ g.edges →
        (Flagged r .layerDirection file edge ↔ Misdirected project.policy file edge) ∧
        (Flagged r .crossModuleImport file edge ↔ Trespassing project.policy file edge) ∧
        ¬(Flagged r .layerDirection file edge ∧ Flagged r .crossModuleImport file edge) := by
  intro g r
  have ordered := Policy.load_ordered accepted
  have direction := judges_layerDirection project.policy (project.forbidden tree) g
  have crossing := judges_crossModuleImport project.policy (project.forbidden tree) g
  have misdirected (file : SourceFile) (edge : Edge) (imported : (file, edge) ∈ g.edges) :
      (Check.direction? project.policy Rule.layerDirection.standardSeverity file edge).isSome = true ↔
        Misdirected project.policy file edge := by
    obtain ⟨member, imported⟩ := Graph.mem_edges.mp imported
    obtain ⟨resolution, target⟩ := Graph.target_of_mem_imports member imported
    exact isSome_direction?_iff ordered (Graph.identity_of_mem_files member ▸ project.policy.grants_identity _)
      (target ▸ project.policy.grants_target resolution)
  have trespassing (file : SourceFile) (edge : Edge) (imported : (file, edge) ∈ g.edges) :
      (Check.crossing? project.policy.modules.allowPublicApi Rule.crossModuleImport.standardSeverity file
        edge).isSome = true ↔ Trespassing project.policy file edge := by
    obtain ⟨member, -⟩ := Graph.mem_edges.mp imported
    exact isSome_crossing?_iff (Graph.identity_of_mem_files member ▸ project.policy.grants_identity _)
  refine ⟨?_, ?_, fun file edge imported => ?_⟩
  · rw [direction.countP_reported distinct registered.1 enabled.1 (foreign_forbidden (by decide))]
    exact List.countP_congr fun e imported => by simpa using misdirected e.1 e.2 imported
  · rw [crossing.countP_reported distinct registered.2 enabled.2 (foreign_forbidden (by decide))]
    exact List.countP_congr fun e imported => by simpa using trespassing e.1 e.2 imported
  · have first := (direction.flagged_iff distinct registered.1 enabled.1 (foreign_forbidden (by decide)) imported).trans
      (misdirected file edge imported)
    have second := (crossing.flagged_iff distinct registered.2 enabled.2 (foreign_forbidden (by decide)) imported).trans
      (trespassing file edge imported)
    refine ⟨first, second, ?_⟩
    rw [first, second]
    exact not_misdirected_and_trespassing ordered (Graph.identity_of_mem_files (Graph.mem_edges.mp imported).1 ▸
      project.policy.grants_identity _)

section TwoLayers

open Layering.Graph (twoPaths files_twoPaths isKnown edgesOf)
open Layering.Policy (twoLayersPolicy load_twoLayers)

/-- A project with the policy of two layers. -/
def twoLayersProject : Project where
  directory := ⟨""⟩
  policy := twoLayersPolicy
  rules := Rule.selectable
  sourceRoot := ⟨"src"⟩
  exclude := []

/-- A file of the lower layer, which imports the one file of the upper layer. -/
def upward : Memory where
  files := [("src/app/a.ts", ""), ("src/shared/b.ts", "import a from '../app/a'")]

def upwardEdge : Edge where
  specifier := "../app/a"
  position := ⟨1, 15⟩
  kind := .binding
  target := ⟨some "src/app/a.ts", ⟨.layer "app" 1, none, .unclassified⟩, false⟩

def importingFile : SourceFile where
  path := "src/shared/b.ts"
  identity := ⟨.layer "shared" 0, none, .unclassified⟩
  text := "import a from '../app/a'"
  imports := [upwardEdge]

theorem edges_upward :
    (Graph.build twoLayersPolicy ⟨""⟩ upward.reader twoPaths).edges = [(importingFile, upwardEdge)] := by
  have imports : Source.imports "import a from '../app/a'" = [⟨"../app/a", ⟨1, 15⟩, .binding⟩] := by cbv
  have nothing : Source.imports "" = [] := by cbv
  have resolved : twoLayersPolicy.resolve (isKnown ⟨""⟩ upward.reader twoPaths) "src/shared/b.ts" "../app/a" =
      .internal "src/app/a.ts" := by decide +kernel
  have upper : upward.reader.read ⟨"src/app/a.ts"⟩ = .ok "" := by decide +kernel
  have lower : upward.reader.read ⟨"src/shared/b.ts"⟩ = .ok "import a from '../app/a'" := by decide +kernel
  rw [Graph.edges, files_twoPaths upper lower]
  simp [edgesOf, imports, nothing, resolved, Target.ofResolution, Graph.identity_twoLayers, importingFile, upwardEdge,
    Classification.isPublicEntry]

theorem imports_judged_upward :
    let r := report twoLayersPolicy Rule.selectable (twoLayersProject.forbidden (.directory []))
      (Graph.build twoLayersPolicy ⟨""⟩ upward.reader twoPaths)
    r.violations.countP (·.code = Rule.layerDirection.code) = 1 ∧
      r.violations.countP (·.code = Rule.crossModuleImport.code) = 0 ∧
      Flagged r .layerDirection importingFile upwardEdge := by
  intro r
  obtain ⟨misdirected, trespassing, each⟩ := imports_judged twoLayersProject load_twoLayers (.directory [])
    upward.reader twoPaths (by decide +kernel) (by decide) (by decide)
  have edges := edges_upward
  have against : Misdirected twoLayersPolicy importingFile upwardEdge := by decide
  refine ⟨misdirected.trans ?_, trespassing.trans ?_, ?_⟩
  · simp [twoLayersProject, edges, against]
  · have inside : ¬Trespassing twoLayersPolicy importingFile upwardEdge := by decide
    simp [twoLayersProject, edges, inside]
  · exact (each importingFile upwardEdge (by simp [twoLayersProject, edges])).1.mpr against

end TwoLayers

end Layering.Analysis
