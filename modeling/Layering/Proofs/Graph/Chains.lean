import Layering.Proofs.Findings
import Layering.Proofs.Graph.Files
import Layering.Proofs.Policy.Layers
import Mathlib

/-! Chains of imports. A report without findings about the direction of imports speaks for the whole way along them
through files in layers: it never rises, and a way that comes back never leaves its layer. -/
namespace Layering.Graph

/-- An import of the first file leads to the second one. -/
def Imports (file target : SourceFile) : Prop :=
  ∃ edge ∈ file.imports, edge.target.path = some target.path

/-- Files of a graph, all of them in layers, each of which imports the next one. -/
structure Chain (g : Graph) (files : List SourceFile) : Prop where
  members : ∀ file ∈ files, file ∈ g.files
  layered : ∀ file ∈ files, file.identity.zone.rank?.isSome = true
  linked : files.IsChain Imports

/-- The first file is in the layer of the second one or in a lower one. -/
def NotAbove (lower higher : SourceFile) : Prop :=
  ∃ low high, lower.identity.zone.rank? = some low ∧ higher.identity.zone.rank? = some high ∧ low ≤ high

theorem NotAbove.refl {file : SourceFile} (layered : file.identity.zone.rank?.isSome = true) :
    NotAbove file file := by
  obtain ⟨rank, ranked⟩ := Option.isSome_iff_exists.mp layered
  exact ⟨rank, rank, ranked, ranked, Nat.le_refl _⟩

theorem NotAbove.trans {a b c : SourceFile} (first : NotAbove a b) (second : NotAbove b c) : NotAbove a c := by
  obtain ⟨low, middle, ha, hb, le⟩ := first
  obtain ⟨middle', high, hb', hc, le'⟩ := second
  obtain rfl : middle = middle' := Option.some.inj (hb.symm.trans hb')
  exact ⟨low, high, ha, hc, Nat.le_trans le le'⟩

theorem Chain.tail {g : Graph} {first : SourceFile} {rest : List SourceFile} (chain : g.Chain (first :: rest)) :
    g.Chain rest where
  members file member := chain.members file (List.mem_cons_of_mem _ member)
  layered file member := chain.layered file (List.mem_cons_of_mem _ member)
  linked := chain.linked.tail

theorem Chain.suffix {g : Graph} {before after : List SourceFile} (chain : g.Chain (before ++ after)) :
    g.Chain after := by
  induction before with
  | nil => exact chain
  | cons _ _ ih => exact ih chain.tail

/-- What one import without a finding tells about the layers of its two files. -/
theorem rank_le_of_direction? {p : Policy} {severity : Severity} {file : SourceFile} {edge : Edge} {low high : Nat}
    (silent : Check.direction? p severity file edge = none) (source : file.identity.zone.rank? = some high)
    (target : edge.target.identity.zone.rank? = some low) : low ≤ high := by
  obtain ⟨name, lower⟩ := Zone.eq_layer_of_rank? source
  obtain ⟨name', higher⟩ := Zone.eq_layer_of_rank? target
  apply Nat.le_of_not_lt
  intro upward
  simp [Check.direction?, lower, higher, upward] at silent

section Silent

variable {p : Policy} {root : Path} {reader : Reader} {paths : List String}

/-- One step of a chain. The layer on the import is that of the file that it leads to. -/
theorem notAbove_of_imports
    (silent : ∀ file edge, (file, edge) ∈ (build p root reader paths).edges →
      Check.direction? p Rule.layerDirection.standardSeverity file edge = none)
    {file target : SourceFile} (member : file ∈ (build p root reader paths).files)
    (reached : target ∈ (build p root reader paths).files)
    (source : file.identity.zone.rank?.isSome = true) (layered : target.identity.zone.rank?.isSome = true)
    (imports : Imports file target) : NotAbove target file := by
  obtain ⟨edge, imported, leads⟩ := imports
  obtain ⟨high, source⟩ := Option.isSome_iff_exists.mp source
  obtain ⟨low, layered⟩ := Option.isSome_iff_exists.mp layered
  refine ⟨low, high, layered, source, ?_⟩
  apply rank_le_of_direction? (silent file edge (mem_edges.mpr ⟨member, imported⟩)) source
  rw [identity_of_target member reached imported leads, layered]

/-- By induction along the chain no file of it is above the first one. -/
theorem notAbove_of_chain
    (silent : ∀ file edge, (file, edge) ∈ (build p root reader paths).edges →
      Check.direction? p Rule.layerDirection.standardSeverity file edge = none)
    {first : SourceFile} {rest : List SourceFile} (chain : (build p root reader paths).Chain (first :: rest)) :
    ∀ file ∈ first :: rest, NotAbove file first := by
  induction rest generalizing first with
  | nil =>
    intro file member
    obtain rfl := List.mem_singleton.mp member
    exact NotAbove.refl (chain.layered file member)
  | cons second rest ih =>
    intro file member
    have step : NotAbove second first :=
      notAbove_of_imports silent (chain.members _ (by simp)) (chain.members _ (by simp))
        (chain.layered _ (by simp)) (chain.layered _ (by simp)) (List.isChain_cons_cons.mp chain.linked).1
    rcases List.mem_cons.mp member with rfl | member
    · exact NotAbove.refl (chain.layered file (by simp))
    · exact (ih chain.tail file member).trans step

/-- Files of the graph that are not above each other are in the same layer. -/
theorem zone_eq_of_notAbove (ordered : Policy.Ordered p.layers) {a b : SourceFile}
    (ha : a ∈ (build p root reader paths).files) (hb : b ∈ (build p root reader paths).files)
    (below : NotAbove a b) (above : NotAbove b a) : a.identity.zone = b.identity.zone := by
  obtain ⟨low, high, ra, rb, le⟩ := below
  obtain ⟨high', low', rb', ra', le'⟩ := above
  have same : low = high := by
    have := Option.some.inj (ra.symm.trans ra')
    have := Option.some.inj (rb.symm.trans rb')
    omega
  rw [identity_of_mem_files ha] at ra ⊢
  rw [identity_of_mem_files hb] at rb ⊢
  obtain ⟨layer, listed, zone, rank⟩ := (p.grants_identity a.path).layer_of_rank ra
  obtain ⟨layer', listed', zone', rank'⟩ := (p.grants_identity b.path).layer_of_rank rb
  obtain rfl := ordered.eq_of_rank listed listed' (by omega)
  rw [zone, zone']

/-- If a rule is run and the report has no finding with its code, the rule has found nothing. -/
theorem direction?_eq_none_of_clean {rules : List Rule} {forbidden : List Violation} {g : Graph}
    (registered : .layerDirection ∈ rules) (enabled : p.isEnabled .layerDirection = true)
    (clean : ∀ v ∈ (Analysis.report p rules forbidden g).violations, v.code ≠ Rule.layerDirection.code) :
    ∀ file edge, (file, edge) ∈ g.edges →
      Check.direction? p Rule.layerDirection.standardSeverity file edge = none := by
  intro file edge member
  cases found : Check.direction? p Rule.layerDirection.standardSeverity file edge with
  | none => rfl
  | some v =>
    have listed : v ∈ Analysis.findings p forbidden g .layerDirection :=
      List.mem_filterMap.mpr ⟨(file, edge), member, found⟩
    obtain ⟨w, reported, alike⟩ := Analysis.exists_reported registered enabled listed
    have code := Violation.code_eq_of_same alike
    rw [Analysis.code_graded, (Analysis.of_direction? found).1] at code
    exact absurd code (clean w reported)

end Silent

/-- Without a finding about the direction of an import, no chain of imports ends above the file that it starts from,
and all files of a chain that comes back to its first file are in one layer. -/
theorem chain_not_above {document : Policy.Document} {p : Policy} (accepted : Policy.load document = .ok p)
    (root : Path) (reader : Reader) (paths : List String) (rules : List Rule) (forbidden : List Violation)
    (registered : .layerDirection ∈ rules) (enabled : p.isEnabled .layerDirection = true)
    (clean : ∀ v ∈ (Analysis.report p rules forbidden (build p root reader paths)).violations,
      v.code ≠ Rule.layerDirection.code)
    (files : List SourceFile) (chain : (build p root reader paths).Chain files) (first last : SourceFile)
    (starts : files.head? = some first) (ends : files.getLast? = some last) :
    NotAbove last first ∧ (last = first → ∀ file ∈ files, file.identity.zone = first.identity.zone) := by
  have silent := direction?_eq_none_of_clean registered enabled clean
  obtain ⟨rest, rfl⟩ := List.head?_eq_some_iff.mp starts
  have final : last ∈ first :: rest := List.mem_of_getLast? ends
  refine ⟨notAbove_of_chain silent chain last final, ?_⟩
  rintro rfl file member
  have down := notAbove_of_chain silent chain file member
  -- What follows the file is a chain too, and it leads back to the first file.
  obtain ⟨before, after, split⟩ := List.append_of_mem member
  rw [split] at chain ends
  have back : last ∈ file :: after := by
    apply List.mem_of_getLast?
    rwa [List.getLast?_append_of_ne_nil _ (List.cons_ne_nil _ _)] at ends
  have up := notAbove_of_chain silent chain.suffix last back
  have ordered := Policy.load_ordered accepted
  exact zone_eq_of_notAbove ordered (chain.members _ (by simp)) (chain.members last (split ▸ final)) down up

section TwoLayers

open Policy (twoLayersPolicy load_twoLayers)

/-- A file of the upper layer, which imports the one file of the lower layer. -/
def downward : Memory where
  files := [("src/app/a.ts", "import b from '../shared/b'"), ("src/shared/b.ts", "")]

def upperFile : SourceFile where
  path := "src/app/a.ts"
  identity := ⟨.layer "app" 1, none, .unclassified⟩
  text := "import b from '../shared/b'"
  imports := [{
    specifier := "../shared/b", position := ⟨1, 15⟩, kind := .binding
    target := ⟨some "src/shared/b.ts", ⟨.layer "shared" 0, none, .unclassified⟩, false⟩ }]

def lowerFile : SourceFile where
  path := "src/shared/b.ts"
  identity := ⟨.layer "shared" 0, none, .unclassified⟩
  text := ""
  imports := []

theorem files_downward : (build twoLayersPolicy ⟨""⟩ downward.reader twoPaths).files = [upperFile, lowerFile] := by
  have imports : Source.imports "import b from '../shared/b'" = [⟨"../shared/b", ⟨1, 15⟩, .binding⟩] := by cbv
  have nothing : Source.imports "" = [] := by cbv
  have resolved : twoLayersPolicy.resolve (isKnown ⟨""⟩ downward.reader twoPaths) "src/app/a.ts" "../shared/b" =
      .internal "src/shared/b.ts" := by decide +kernel
  have upper : downward.reader.read ⟨"src/app/a.ts"⟩ = .ok "import b from '../shared/b'" := by decide +kernel
  have lower : downward.reader.read ⟨"src/shared/b.ts"⟩ = .ok "" := by decide +kernel
  rw [files_twoPaths upper lower]
  simp [edgesOf, imports, nothing, resolved, Target.ofResolution, identity_twoLayers, upperFile, lowerFile,
    Classification.isPublicEntry]

theorem chain_not_above_downward :
    (∀ v ∈ (Analysis.report twoLayersPolicy Rule.selectable []
      (build twoLayersPolicy ⟨""⟩ downward.reader twoPaths)).violations, v.code ≠ Rule.layerDirection.code) ∧
    NotAbove lowerFile upperFile := by
  have clean : ∀ v ∈ (Analysis.report twoLayersPolicy Rule.selectable []
      (build twoLayersPolicy ⟨""⟩ downward.reader twoPaths)).violations, v.code ≠ Rule.layerDirection.code := by
    intro v reported code
    obtain ⟨-, -, u, found, -⟩ :=
      Analysis.found_of_reported (by decide) (by simp) (Report.mem_of_mem_sorted reported) code
    simp only [Analysis.findings, Check.layerDirection, edges, files_downward] at found
    cases found
  have chain : (build twoLayersPolicy ⟨""⟩ downward.reader twoPaths).Chain [upperFile, lowerFile] := by
    refine ⟨fun file member => files_downward ▸ member, by decide, ?_⟩
    exact List.isChain_pair.mpr ⟨_, List.mem_singleton_self _, rfl⟩
  exact ⟨clean, (chain_not_above load_twoLayers ⟨""⟩ downward.reader twoPaths Rule.selectable [] (by decide)
    (by decide) clean [upperFile, lowerFile] chain upperFile lowerFile rfl rfl).1⟩

end TwoLayers

end Layering.Graph
