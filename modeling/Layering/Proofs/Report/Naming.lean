import Layering.Proofs.Findings
import Layering.Proofs.Graph.Issues
import Layering.Proofs.Policy.Relabelling
import Layering.Proofs.Verdicts

/-! Names of layers are only names. A run under a policy whose layers are called otherwise, or that has one layer more
which no path of the run lies in, finds the same at the same places. -/
namespace Layering

section Matching

/-- Two findings with the same code and severity at the same place. -/
structure Violation.Matches (v w : Violation) : Prop where
  code : v.code = w.code
  place : v.location.same w.location = true
  severity : v.severity = w.severity

theorem Violation.Matches.refl (v : Violation) : v.Matches v := ⟨rfl, by simp [Location.same], rfl⟩

theorem Violation.Matches.symm {v w : Violation} (alike : v.Matches w) : w.Matches v := by
  obtain ⟨code, place, severity⟩ := alike
  exact ⟨code.symm, by simp_all [Location.same], severity.symm⟩

theorem Violation.Matches.trans {u v w : Violation} (first : u.Matches v) (second : v.Matches w) : u.Matches w := by
  obtain ⟨code, place, severity⟩ := first
  obtain ⟨code', place', severity'⟩ := second
  exact ⟨code.trans code', by simp_all [Location.same], severity.trans severity'⟩

theorem Violation.matches_of_same {v w : Violation} (same : v.same w = true) : v.Matches w := by
  obtain ⟨code, -, severity, place, -, -⟩ := Violation.same_iff.mp same
  exact ⟨code, place, severity⟩

/-- Everything in the first list is matched in the second one. -/
def Covered (vs ws : List Violation) : Prop := ∀ v ∈ vs, ∃ w ∈ ws, v.Matches w

/-- Two lists of findings that are the same but for what they say. -/
structure Agree (vs ws : List Violation) : Prop where
  left : Covered vs ws
  right : Covered ws vs

/-- Two reports on as much, with the same findings but for what they say. -/
structure Report.Agrees (r r' : Report) : Prop where
  files : r.filesChecked = r'.filesChecked
  edges : r.edgesChecked = r'.edgesChecked
  violations : Agree r.violations r'.violations

theorem covered_of_forall₂ {vs ws : List Violation} (each : List.Forall₂ Violation.Matches vs ws) :
    Covered vs ws := by
  induction each with
  | nil => exact fun v listed => absurd listed List.not_mem_nil
  | @cons v w vs ws here later ih =>
    refine List.forall_mem_cons.mpr ⟨⟨w, List.mem_cons_self, here⟩, fun v listed => ?_⟩
    obtain ⟨w', member, alike⟩ := ih v listed
    exact ⟨w', List.mem_cons_of_mem _ member, alike⟩

theorem Agree.refl (vs : List Violation) : Agree vs vs :=
  ⟨fun v listed => ⟨v, listed, .refl v⟩, fun v listed => ⟨v, listed, .refl v⟩⟩

theorem agree_of_forall₂ {vs ws : List Violation} (each : List.Forall₂ Violation.Matches vs ws) : Agree vs ws :=
  ⟨covered_of_forall₂ each, covered_of_forall₂ (List.Forall₂.flip (each.imp fun _ _ => .symm))⟩

theorem Covered.append {vs ws vs' ws' : List Violation} (first : Covered vs ws) (second : Covered vs' ws') :
    Covered (vs ++ vs') (ws ++ ws') := by
  refine List.forall_mem_append.mpr ⟨fun v listed => ?_, fun v listed => ?_⟩
  · obtain ⟨w, member, alike⟩ := first v listed
    exact ⟨w, List.mem_append_left _ member, alike⟩
  · obtain ⟨w, member, alike⟩ := second v listed
    exact ⟨w, List.mem_append_right _ member, alike⟩

theorem Agree.append {vs ws vs' ws' : List Violation} (first : Agree vs ws) (second : Agree vs' ws') :
    Agree (vs ++ vs') (ws ++ ws') :=
  ⟨first.left.append second.left, first.right.append second.right⟩

theorem agree_flatMap {R : α → β → Prop} {f : α → List Violation} {g : β → List Violation} {as : List α} {bs : List β}
    (each : List.Forall₂ R as bs) (agree : ∀ a b, R a b → Agree (f a) (g b)) : Agree (as.flatMap f) (bs.flatMap g) := by
  induction each with
  | nil => exact .refl []
  | cons here later ih =>
    rw [List.flatMap_cons, List.flatMap_cons]
    exact (agree _ _ here).append ih

theorem agree_flatMap_same {f g : α → List Violation} {as : List α} (agree : ∀ a ∈ as, Agree (f a) (g a)) :
    Agree (as.flatMap f) (as.flatMap g) := by
  refine agree_flatMap (R := fun a b => a = b ∧ a ∈ as) (List.forall₂_same.mpr fun a listed => ⟨rfl, listed⟩) ?_
  rintro a _ ⟨rfl, listed⟩
  exact agree a listed

theorem Covered.sorted {r r' : Report} (covered : Covered r.violations r'.violations) :
    Covered r.sorted.violations r'.sorted.violations := by
  intro v listed
  obtain ⟨w, member, alike⟩ := covered v (Report.mem_of_mem_sorted listed)
  obtain ⟨u, kept, same⟩ := Report.exists_mem_sorted member
  exact ⟨u, kept, alike.trans (Violation.matches_of_same same).symm⟩

theorem Agree.sorted {r r' : Report} (agree : Agree r.violations r'.violations) :
    Agree r.sorted.violations r'.sorted.violations :=
  ⟨agree.left.sorted, agree.right.sorted⟩

theorem agree_sortBy {order : Violation → Violation → Ordering} {vs ws : List Violation} (agree : Agree vs ws) :
    Agree (sortBy order vs) (sortBy order ws) := by
  constructor
  · intro v listed
    simpa using agree.left v (mem_sortBy.mp listed)
  · intro v listed
    simpa using agree.right v (mem_sortBy.mp listed)

theorem forall₂_filterMap {R : β → γ → Prop} {f : α → Option β} {g : α → Option γ} {as : List α}
    (each : ∀ a ∈ as, Option.Rel R (f a) (g a)) : List.Forall₂ R (as.filterMap f) (as.filterMap g) := by
  refine List.rel_filterMap (R := fun a b => a = b ∧ a ∈ as) ?_ (List.forall₂_same.mpr fun a listed => ⟨rfl, listed⟩)
  rintro a _ ⟨rfl, listed⟩
  exact each a listed

end Matching

namespace Policy

variable {rename : String → String} {change : Layer → Layer} {extra : List Layer} {p p' : Policy}

namespace Relabels

theorem mem_layers (relabels : Relabels rename change extra p p') {layer : Layer} (listed : layer ∈ p.layers) :
    change layer ∈ p'.layers := by
  obtain ⟨before, after, whole, whole'⟩ := relabels.layers
  rw [whole, List.mem_append] at listed
  rw [whole', List.mem_append, List.mem_append]
  exact listed.imp (fun first => .inl (List.mem_map_of_mem first)) List.mem_map_of_mem

theorem rank_eq_iff (relabels : Relabels rename change extra p p') (a b : Layer) :
    (change a).rank = (change b).rank ↔ a.rank = b.rank := by
  have up := relabels.order a b
  have down := relabels.order b a
  omega

theorem roleOf (relabels : Relabels rename change extra p p') (path : String) : p'.roleOf path = p.roleOf path := by
  simp only [Policy.roleOf, Policy.roleOfStem, relabels.stems]

theorem resolve (relabels : Relabels rename change extra p p') : p'.resolve = p.resolve := by
  funext isFile importer specifier
  simp only [Policy.resolve, Policy.reference, Policy.expandAlias?, Policy.candidates, relabels.aliases,
    relabels.discovery]

end Relabels

end Policy

section Alike

/-- A zone and what it is after its layer is changed. -/
inductive Zone.Alike (layers : List Layer) (change : Layer → Layer) : Zone → Zone → Prop
  | layer {layer : Layer} (listed : layer ∈ layers) : Alike layers change layer.zone (change layer).zone
  | other {zone : Zone} (unranked : zone.rank? = none) : Alike layers change zone zone

structure Classification.Alike (layers : List Layer) (change : Layer → Layer) (c c' : Classification) : Prop where
  zone : c.zone.Alike layers change c'.zone
  owner : c'.owner = c.owner
  role : c'.role = c.role

/-- The same import, to the same place but for its layer. -/
structure Edge.Alike (layers : List Layer) (change : Layer → Layer) (edge edge' : Edge) : Prop where
  statement : edge'.toImport = edge.toImport
  path : edge'.target.path = edge.target.path
  identity : edge.target.identity.Alike layers change edge'.target.identity
  isPublicEntry : edge'.target.isPublicEntry = edge.target.isPublicEntry

/-- The same file, but for its layer and those of the files that it imports. -/
structure SourceFile.Alike (layers : List Layer) (change : Layer → Layer) (file file' : SourceFile) : Prop where
  path : file'.path = file.path
  text : file'.text = file.text
  identity : file.identity.Alike layers change file'.identity
  imports : List.Forall₂ (Edge.Alike layers change) file.imports file'.imports

variable {rename : String → String} {change : Layer → Layer} {extra : List Layer} {p p' : Policy}
  {file file' : SourceFile} {edge edge' : Edge}

theorem identity_alike (relabels : p.Relabels rename change extra p') {path : String}
    (outside : Policy.Outside extra path) : (p.identity path).Alike p.layers change (p'.identity path) := by
  rw [Policy.identity_of_layerRoot?, Policy.identity_of_layerRoot?, relabels.layerRoot? outside, relabels.roleOf]
  cases found : p.layerRoot? path with
  | none => exact ⟨.other rfl, rfl, rfl⟩
  | some entry =>
    obtain ⟨root, layer⟩ := entry
    refine ⟨.layer (Policy.mem_layers_of_layerRoot? found).1, ?_, rfl⟩
    simp [relabels.modules]

theorem target_alike (relabels : p.Relabels rename change extra p') (statement : Source.Import) (r : Resolution)
    (outside : ∀ path, r = .internal path → Policy.Outside extra path) :
    Edge.Alike p.layers change ⟨statement, .ofResolution p r⟩ ⟨statement, .ofResolution p' r⟩ := by
  cases r with
  | external => exact ⟨rfl, rfl, ⟨.other rfl, rfl, rfl⟩, rfl⟩
  | unresolved => exact ⟨rfl, rfl, ⟨.other rfl, rfl, rfl⟩, rfl⟩
  | internal path =>
    have identity := identity_alike relabels (outside path rfl)
    refine ⟨rfl, rfl, identity, ?_⟩
    simp only [Target.ofResolution, Classification.isPublicEntry, identity.owner, identity.role]

/-- A path that is given, or that an import leads to. -/
def Graph.Visits (g : Graph) (path : String) : Prop :=
  path ∈ g.inventory ∨ ∃ file edge, (file, edge) ∈ g.edges ∧ edge.target.path = some path

/-- The places that a run looks at lie in none of the layers. -/
def Clear (g : Graph) (layers : List Layer) : Prop := ∀ path, g.Visits path → Policy.Outside layers path

theorem files_alike (relabels : p.Relabels rename change extra p') {root : Path} {reader : Reader}
    {paths : List String} (clear : Clear (Graph.build p root reader paths) extra) :
    List.Forall₂ (SourceFile.Alike p.layers change) (Graph.build p root reader paths).files
      (Graph.build p' root reader paths).files := by
  rw [Graph.files_build, Graph.files_build]
  refine forall₂_filterMap fun path listed => ?_
  cases content : reader.read (root.join ⟨path⟩) with
  | error e => exact .none
  | ok text =>
    have member : (⟨path, p.identity path, text, Graph.edgesOf p (Graph.isKnown root reader paths) path text⟩ :
        SourceFile) ∈ (Graph.build p root reader paths).files :=
      Graph.mem_files_build.mpr ⟨Graph.mem_inventory_build.mp listed, text, content, rfl⟩
    refine .some ⟨rfl, rfl, identity_alike relabels (clear path (.inl listed)), ?_⟩
    simp only [Graph.edgesOf, relabels.resolve]
    rw [List.forall₂_map_left_iff, List.forall₂_map_right_iff]
    -- What an import leads to is visited, and so it lies in none of the extra layers.
    refine List.forall₂_same.mpr fun statement given => target_alike relabels statement _ fun target resolved => ?_
    refine clear target (.inr ⟨_, _, Graph.mem_edges.mpr ⟨member, List.mem_map_of_mem given⟩, ?_⟩)
    simp only [resolved, Target.ofResolution]

/-- Imports and the files that they stand in. -/
def EdgeAlike (layers : List Layer) (change : Layer → Layer) (a b : SourceFile × Edge) : Prop :=
  SourceFile.Alike layers change a.1 b.1 ∧ Edge.Alike layers change a.2 b.2

theorem edges_alike {layers : List Layer} {g g' : Graph}
    (files : List.Forall₂ (SourceFile.Alike layers change) g.files g'.files) :
    List.Forall₂ (EdgeAlike layers change) g.edges g'.edges := by
  refine List.rel_flatMap files fun file file' alike => ?_
  rw [List.forall₂_map_left_iff, List.forall₂_map_right_iff]
  exact alike.imports.imp fun edge edge' same => ⟨alike, same⟩

theorem locationOf_eq {layers : List Layer} (alike : SourceFile.Alike layers change file file')
    (alike' : Edge.Alike layers change edge edge') : file'.locationOf edge' = file.locationOf edge := by
  simp only [SourceFile.locationOf, alike.path, alike'.statement]

end Alike

section Checks

variable {rename : String → String} {change : Layer → Layer} {extra : List Layer} {p p' : Policy}
  {file file' : SourceFile} {edge edge' : Edge}

theorem forbidsSideways_eq (relabels : p.Relabels rename change extra p') (ordered : Policy.Ordered p.layers)
    (ordered' : Policy.Ordered p'.layers) {layer : Layer} (listed : layer ∈ p.layers) :
    Check.forbidsSideways p' (change layer).name = Check.forbidsSideways p layer.name := by
  simp only [Check.forbidsSideways, ordered.find_name listed, ordered'.find_name (relabels.mem_layers listed),
    relabels.allowSideways, relabels.modules]

theorem zones_eq_iff (relabels : p.Relabels rename change extra p') (ordered : Policy.Ordered p.layers)
    {a a' b b' : Zone} (alike : a.Alike p.layers change a') (alike' : b.Alike p.layers change b') :
    a' = b' ↔ a = b := by
  cases alike with
  | other unranked =>
    cases alike' with
    | other => exact Iff.rfl
    | layer => exact iff_of_false (by rintro rfl; cases unranked) (by rintro rfl; cases unranked)
  | @layer first listed =>
    cases alike' with
    | other unranked => exact iff_of_false (by rintro rfl; cases unranked) (by rintro rfl; cases unranked)
    | @layer second listed' =>
      have ranks := relabels.rank_eq_iff first second
      constructor
      · intro same
        rw [ordered.eq_of_rank listed listed' (ranks.mp (Zone.layer.inj same).2)]
      · intro same
        rw [ordered.eq_of_rank listed listed' (Zone.layer.inj same).2]

theorem direction?_alike (relabels : p.Relabels rename change extra p') (ordered : Policy.Ordered p.layers)
    (ordered' : Policy.Ordered p'.layers) (severity : Severity) (alike : SourceFile.Alike p.layers change file file')
    (alike' : Edge.Alike p.layers change edge edge') :
    Option.Rel Violation.Matches (Check.direction? p severity file edge)
      (Check.direction? p' severity file' edge') := by
  have place := locationOf_eq alike alike'
  have zone := alike.identity.zone
  have zone' := alike'.identity.zone
  unfold Check.direction?
  generalize file.identity.zone = source at zone
  generalize file'.identity.zone = source' at zone
  generalize edge.target.identity.zone = target at zone'
  generalize edge'.target.identity.zone = target' at zone'
  cases zone with
  | other unranked => cases source <;> first | exact .none | cases unranked
  | @layer lower listed =>
    cases zone' with
    | other unranked => cases target <;> first | exact .none | cases unranked
    | @layer higher listed' =>
      simp only [Layer.zone, relabels.order, relabels.rank_eq_iff, forbidsSideways_eq relabels ordered ordered' listed]
      split
      · exact .some ⟨rfl, by simp [Check.upwardImport, Rule.violation, place, Location.same], rfl⟩
      · split
        · exact .some ⟨rfl, by simp [Check.sidewaysImport, Rule.violation, place, Location.same], rfl⟩
        · exact .none

theorem crossing?_alike (relabels : p.Relabels rename change extra p') (ordered : Policy.Ordered p.layers)
    (allowPublicApi : Bool) (severity : Severity) (alike : SourceFile.Alike p.layers change file file')
    (alike' : Edge.Alike p.layers change edge edge') :
    Option.Rel Violation.Matches (Check.crossing? allowPublicApi severity file edge)
      (Check.crossing? allowPublicApi severity file' edge') := by
  have place := locationOf_eq alike alike'
  have zones := zones_eq_iff relabels ordered alike.identity.zone alike'.identity.zone
  unfold Check.crossing?
  rw [alike.identity.owner, alike'.identity.owner]
  split
  · simp only [ne_eq, zones, alike'.isPublicEntry]
    split
    · exact .none
    · split
      · exact .none
      · exact .some ⟨rfl, by simp [Rule.violation, place, Location.same], rfl⟩
  · exact .none

/-- A role rule denies a layer under its other name as it denied it under its own. -/
theorem denialReason?_alike (relabels : p.Relabels rename change extra p') {rule : RoleRule}
    (declared : ∀ name ∈ rule.denyLayers, ∃ layer ∈ p.layers, layer.name = name)
    (alike : Edge.Alike p.layers change edge edge') :
    (Check.denialReason? (rule.renamed rename) edge').isSome = (Check.denialReason? rule edge).isSome := by
  have denied : (rule.renamed rename).deniedBy? edge'.specifier = rule.deniedBy? edge.specifier := by
    rw [alike.statement]
    rfl
  have zone := alike.identity.zone
  unfold Check.denialReason?
  rw [denied]
  generalize edge.target.identity.zone = target at zone
  generalize edge'.target.identity.zone = target' at zone
  cases rule.deniedBy? edge.specifier with
  | some name => rfl
  | none =>
    cases zone with
    | other unranked => cases target <;> first | rfl | cases unranked
    | @layer layer listed =>
      have same : (rule.renamed rename).denyLayers.contains (change layer).name =
          rule.denyLayers.contains layer.name := by
        rw [Bool.eq_iff_iff, List.contains_iff_mem, List.contains_iff_mem, relabels.name, RoleRule.renamed,
          List.mem_map]
        constructor
        · -- Only declared layers are denied, and those keep different names.
          rintro ⟨name, given, same⟩
          obtain ⟨other, listed', rfl⟩ := declared name given
          rwa [← relabels.injective other listed' layer listed same]
        · exact fun given => ⟨layer.name, given, rfl⟩
      simp only [Layer.zone, same]
      cases rule.denyLayers.contains layer.name <;> rfl

theorem deniedImport?_alike (relabels : p.Relabels rename change extra p') {rule : RoleRule}
    (declared : ∀ name ∈ rule.denyLayers, ∃ layer ∈ p.layers, layer.name = name)
    (alike : SourceFile.Alike p.layers change file file') (alike' : Edge.Alike p.layers change edge edge') :
    Option.Rel Violation.Matches (Check.deniedImport? rule file edge)
      (Check.deniedImport? (rule.renamed rename) file' edge') := by
  have place := locationOf_eq alike alike'
  have reasons := denialReason?_alike relabels declared alike'
  unfold Check.deniedImport?
  cases reason : Check.denialReason? rule edge with
  | none =>
    rw [reason, Option.isSome_none, Option.isSome_eq_false_iff, Option.isNone_iff_eq_none] at reasons
    rw [reasons]
    exact .none
  | some text =>
    rw [reason, Option.isSome_some, Option.isSome_iff_exists] at reasons
    obtain ⟨text', other⟩ := reasons
    rw [other]
    exact .some ⟨rfl, by simp [Rule.violation, place, Location.same], rfl⟩

theorem roleFindings_alike (relabels : p.Relabels rename change extra p') (formed : Policy.Formed p)
    (alike : SourceFile.Alike p.layers change file file') :
    Agree (Check.roleFindings p file) (Check.roleFindings p' file') := by
  have role : (fun rule : RoleRule => decide (rule.role = file'.identity.role)) ∘ RoleRule.renamed rename =
      fun rule => decide (rule.role = file.identity.role) := by
    funext rule
    simp only [Function.comp, alike.identity.role]
    rfl
  simp only [Check.roleFindings, relabels.roleRules, List.filter_map, role, List.flatMap_map, alike.text]
  refine agree_flatMap_same fun rule picked => agree_of_forall₂ ?_
  have declared := (formed.roleRules rule (List.mem_of_mem_filter picked)).declared
  refine List.rel_append ?_ ?_
  · rw [alike.path]
    exact List.forall₂_same.mpr fun v _ => .refl v
  · exact List.rel_filterMap (fun _ _ alike' => deniedImport?_alike relabels declared alike alike') alike.imports

theorem requiredFiles_eq (relabels : p.Relabels rename change extra p') {root : Path} {reader : Reader}
    {paths : List String} (clear : Clear (Graph.build p root reader paths) extra) (severity : Severity) :
    Check.requiredFiles p' severity (Graph.build p' root reader paths) =
      Check.requiredFiles p severity (Graph.build p root reader paths) := by
  have modules : (Graph.build p' root reader paths).modules = (Graph.build p root reader paths).modules := by
    have owners := List.filterMap_congr fun path listed => (identity_alike relabels (clear path (.inl listed))).owner
    exact congrArg (sortDistinct Module.compare) owners
  have inventory : (Graph.build p' root reader paths).inventory = (Graph.build p root reader paths).inventory := rfl
  simp only [Check.requiredFiles, Check.hasRole, Check.missingRole, Check.expectedFile?, Policy.stemsOf, modules,
    inventory, relabels.roleOf, relabels.moduleSettings, relabels.stems, relabels.discovery]

theorem placementIssue_alike (relabels : p.Relabels rename change extra p') {path : String}
    (outside : Policy.Outside extra path) :
    List.Forall₂ Violation.Matches (Graph.placementIssue p path) (Graph.placementIssue p' path) := by
  have issue (misplaced misplaced' : Misplaced) : Violation.Matches
      (Rule.classificationError.violation .error (.whole path) misplaced.message
        (some "move the file into a module directory or out of the modules root"))
      (Rule.classificationError.violation .error (.whole path) misplaced'.message
        (some "move the file into a module directory or out of the modules root")) :=
    ⟨rfl, by simp [Rule.violation, Location.same], rfl⟩
  simp only [Graph.placementIssue, Policy.classify, relabels.layerRoot? outside]
  cases p.layerRoot? path with
  | none => exact .nil
  | some entry =>
    obtain ⟨root, layer⟩ := entry
    simp only [Option.map_some, Prod.map, id, relabels.modules]
    cases layer.modules with
    | false => exact .nil
    | true =>
      cases moduleBelow? root path with
      | some m => exact .nil
      | none => exact .cons (issue _ _) .nil

theorem issues_agree (relabels : p.Relabels rename change extra p') {root : Path} {reader : Reader}
    {paths : List String} (clear : Clear (Graph.build p root reader paths) extra) :
    Agree (Graph.build p root reader paths).issues (Graph.build p' root reader paths).issues := by
  rw [Graph.issues_build, Graph.issues_build]
  refine agree_sortBy (agree_flatMap_same fun path listed => ?_)
  have placement := placementIssue_alike relabels (clear path (.inl listed))
  exact (agree_of_forall₂ placement).append (.refl _)

end Checks

namespace Analysis

variable {rename : String → String} {change : Layer → Layer} {extra : List Layer} {p p' : Policy}

theorem findings_alike (relabels : p.Relabels rename change extra p') (formed : Policy.Formed p)
    (ordered' : Policy.Ordered p'.layers) {root : Path} {reader : Reader} {paths : List String}
    (clear : Clear (Graph.build p root reader paths) extra) (forbidden : List Violation) (rule : Rule) :
    Agree (findings p forbidden (Graph.build p root reader paths) rule)
      (findings p' forbidden (Graph.build p' root reader paths) rule) := by
  have files := files_alike relabels clear
  have edges := edges_alike files
  cases rule with
  | layerDirection =>
    exact agree_of_forall₂ (List.rel_filterMap
      (fun _ _ alike => direction?_alike relabels formed.ordered ordered' _ alike.1 alike.2) edges)
  | crossModuleImport =>
    refine agree_of_forall₂ ?_
    simp only [findings, Check.crossModule, relabels.moduleSettings]
    exact List.rel_filterMap (fun _ _ alike => crossing?_alike relabels formed.ordered _ _ alike.1 alike.2) edges
  | requiredFiles =>
    simp only [findings, requiredFiles_eq relabels clear]
    exact .refl _
  | roleContent => exact agree_flatMap files fun _ _ alike => roleFindings_alike relabels formed alike
  | forbiddenPath => exact .refl forbidden
  | ioError => exact .refl []
  | classificationError => exact .refl []

theorem matches_graded (relabels : p.Relabels rename change extra p') (rule : Rule) {v w : Violation}
    (alike : v.Matches w) : (graded p rule v).Matches (graded p' rule w) := by
  have severity : p'.severity? rule = p.severity? rule := by simp only [Policy.severity?, relabels.rules]
  have code : (graded p rule v).code = (graded p' rule w).code := by
    rw [code_graded, code_graded, alike.code]
  refine ⟨code, by rw [location_graded, location_graded]; exact alike.place, ?_⟩
  unfold graded
  rw [severity]
  cases p.severity? rule with
  | none => exact alike.severity
  | some severity =>
    rw [alike.code]
    by_cases own : w.code = rule.code
    · simp [own]
    · simpa [own] using alike.severity

theorem covered_graded {vs ws : List Violation} (relabels : p.Relabels rename change extra p') (rule : Rule)
    (agree : Agree vs ws) : Agree (vs.map (graded p rule)) (ws.map (graded p' rule)) := by
  constructor
  · refine List.forall_mem_map.mpr fun v listed => ?_
    obtain ⟨w, member, alike⟩ := agree.left v listed
    exact ⟨_, List.mem_map_of_mem member, matches_graded relabels rule alike⟩
  · refine List.forall_mem_map.mpr fun w listed => ?_
    obtain ⟨v, member, alike⟩ := agree.right w listed
    exact ⟨_, List.mem_map_of_mem member, (matches_graded relabels rule alike.symm).symm⟩

theorem report_alike (relabels : p.Relabels rename change extra p') (formed : Policy.Formed p)
    (ordered' : Policy.Ordered p'.layers) {root : Path} {reader : Reader} {paths : List String}
    (clear : Clear (Graph.build p root reader paths) extra) (rules : List Rule) (forbidden : List Violation) :
    (report p rules forbidden (Graph.build p root reader paths)).Agrees
      (report p' rules forbidden (Graph.build p' root reader paths)) := by
  have edges := edges_alike (files_alike relabels clear)
  refine ⟨rfl, edges.length_eq, Agree.sorted ((issues_agree relabels clear).append ?_)⟩
  have enabled : p'.isEnabled = p.isEnabled := by
    funext rule
    simp only [Policy.isEnabled, relabels.rules]
  simp only [evaluate, enabled]
  refine agree_flatMap_same fun rule _ => ?_
  rw [regrade_eq_map, regrade_eq_map]
  exact covered_graded relabels rule (findings_alike relabels formed ordered' clear forbidden rule)

theorem forbidden_eq {project : Project} {p' : Policy} (tree : Tree) (same : p'.forbidden = project.policy.forbidden) :
    ({ project with policy := p' } : Project).forbidden tree = project.forbidden tree := by
  simp only [Project.forbidden, Check.forbiddenIn, same]

/-- Neither other names for the layers nor a layer more that is never visited change what is found where. -/
theorem names_opaque {document : Policy.Document} {entries : List Policy.RoleRuleEntry} {project : Project}
    (accepted : Policy.load document = .ok project.policy) (explicit : document.roleRules = some entries) (tree : Tree)
    (reader : Reader) (paths : List String) (rules : List Rule) :
    let graph (p : Policy) := Graph.build p project.directory reader paths
    let run (p : Policy) := report p rules (({ project with policy := p } : Project).forbidden tree) (graph p)
    (∀ rename, Policy.Renames rename project.policy.layers →
      ∃ p', Policy.load (document.renamed rename) = .ok p' ∧ (run project.policy).Agrees (run p')) ∧
    ∀ before entry after, document.layers = before ++ after → Policy.Insertable entry document.layers →
      (∀ value ∈ entry.roots, ∀ root, Policy.normalizeRelative false value = .ok root →
        ∀ path, (graph project.policy).Visits path → Text.isUnder path root = false) →
      ∃ p', Policy.load { document with layers := before ++ entry :: after } = .ok p' ∧
        (run project.policy).Agrees (run p') := by
  intro graph run
  have formed := (Policy.load_eq_ok.mp accepted).formed
  constructor
  · intro rename renames
    obtain ⟨p', accepted', relabels⟩ := Policy.load_renamed accepted explicit renames
    refine ⟨p', accepted', ?_⟩
    have clear : Clear (graph project.policy) [] := fun path _ layer listed => absurd listed List.not_mem_nil
    have agrees := report_alike relabels formed (Policy.load_ordered accepted') clear rules (project.forbidden tree)
    simpa only [run, graph, forbidden_eq tree relabels.forbidden] using agrees
  · intro before entry after split insertable apart
    obtain ⟨rank, layer, p', accepted', roots, relabels⟩ := Policy.load_inserted accepted explicit split insertable
    refine ⟨p', accepted', ?_⟩
    have clear : Clear (graph project.policy) [layer] := by
      intro path visited other listed root given
      obtain rfl := List.mem_singleton.mp listed
      obtain ⟨value, declared, normalized⟩ := Policy.exists_of_mem_right roots given
      exact apart value declared root normalized path visited
    have agrees := report_alike relabels formed (Policy.load_ordered accepted') clear rules (project.forbidden tree)
    simpa only [run, graph, forbidden_eq tree relabels.forbidden] using agrees

/-- Two layers called like zones that are none, or one called so between them. -/
theorem names_opaque_twoLayers :
    let rename (name : String) := if name = "shared" then "external" else "unresolved"
    let entry : Policy.LayerEntry := { name := "unclassified", roots := ["src/other"] }
    let run (p : Policy) := report p Rule.selectable
      (({ twoLayersProject with policy := p } : Project).forbidden (.directory []))
      (Graph.build p ⟨""⟩ upward.reader Graph.twoPaths)
    Policy.load Policy.twoLayers = .ok twoLayersProject.policy ∧ Policy.twoLayers.roleRules = some [] ∧
      Policy.Renames rename Policy.twoLayersPolicy.layers ∧ Policy.Insertable entry Policy.twoLayers.layers ∧
      (∃ p', Policy.load (Policy.twoLayers.renamed rename) = .ok p' ∧
        (run Policy.twoLayersPolicy).Agrees (run p')) ∧
      ∃ p', Policy.load { Policy.twoLayers with
          layers := Policy.twoLayers.layers.take 1 ++ entry :: Policy.twoLayers.layers.drop 1 } = .ok p' ∧
        (run Policy.twoLayersPolicy).Agrees (run p') := by
  intro rename entry run
  have accepted : Policy.load Policy.twoLayers = .ok twoLayersProject.policy := Policy.load_twoLayers
  have renames : Policy.Renames rename Policy.twoLayersPolicy.layers := ⟨by decide, by decide, by decide⟩
  have root : Policy.normalizeRelative false "src/other" = .ok "src/other" := by decide +kernel
  have insertable : Policy.Insertable entry Policy.twoLayers.layers :=
    ⟨by decide, by decide, by decide, fun value given => ⟨"src/other", by rw [List.mem_singleton.mp given, root]⟩⟩
  have both := names_opaque accepted rfl (.directory []) upward.reader Graph.twoPaths Rule.selectable
  refine ⟨accepted, rfl, renames, insertable, both.1 rename renames, ?_⟩
  refine both.2 _ entry _ (by decide) insertable fun value given dir normalized path visited => ?_
  rw [List.mem_singleton.mp given, root] at normalized
  obtain rfl := Except.ok.inj normalized
  have listed : path ∈ Graph.twoPaths := by
    rcases visited with given | ⟨file, edge, imported, target⟩
    · exact Graph.mem_inventory_build.mp given
    · have only : (file, edge) = (importingFile, upwardEdge) := by
        have edges := edges_upward
        simpa [twoLayersProject, edges] using imported
      obtain ⟨-, rfl⟩ := Prod.mk.inj only
      obtain rfl := Option.some.inj target
      decide
  have apart : ∀ path ∈ Graph.twoPaths, Text.isUnder path "src/other" = false := by decide
  exact apart path listed

end Analysis

end Layering
