import Layering.Proofs.Graph.Places
import Layering.Proofs.Text.Slashed

/-! The parts of a graph agree with each other. The files, the inventory and the modules are told by the same paths,
a file is found by its path, and the target of an import says of a file what the file says of itself, although both
are classified on their own. -/
namespace Layering

instance : Std.TransCmp Module.compare :=
  inferInstanceAs (Std.TransCmp (compareLex (compareOn Module.name) (compareOn Module.directory)))

instance : Std.LawfulEqCmp Module.compare where
  compare_self := Std.ReflCmp.compare_self
  eq_of_compare {a b} level := by
    obtain ⟨name, directory⟩ := Ordering.then_eq_eq.mp level
    cases a
    cases b
    rw [Module.mk.injEq]
    exact ⟨Std.LawfulEqCmp.eq_of_compare name, Std.LawfulEqCmp.eq_of_compare directory⟩

theorem Classification.isPublicEntry_iff {c : Classification} {path : String} : c.isPublicEntry path = true ↔
    c.role = .publicApi ∧ ∃ m, c.owner = some m ∧ Text.LiesIn path m.directory := by
  rw [isPublicEntry]
  cases c.owner <;> simp [Text.parent_eq_iff]

namespace Target

/-- A target says of a file what the file says of itself, and tells whether it is the public entry of its module. -/
structure Describes (target : Target) (file : SourceFile) : Prop where
  identity : target.identity = file.identity
  isPublicEntry_iff : target.isPublicEntry = true ↔
    file.identity.role = .publicApi ∧ ∃ m, file.identity.owner = some m ∧ Text.LiesIn file.path m.directory

/-- A target that is no file of the project: it is a package, or nothing was found. -/
def IsForeign (target : Target) : Prop := target.identity.zone = .external ∨ target.identity.zone = .unresolved

variable {p : Policy} {r : Resolution}

theorem describes_ofResolution {file : SourceFile} (classified : file.identity = p.identity file.path)
    (leads : (ofResolution p r).path = some file.path) : (ofResolution p r).Describes file := by
  cases r with
  | internal path =>
    obtain rfl : path = file.path := Option.some.inj leads
    refine ⟨classified.symm, ?_⟩
    rw [classified]
    exact Classification.isPublicEntry_iff
  | external => cases leads
  | unresolved => cases leads

/-- A file of the project is never classified as a package or as missing. -/
theorem isForeign_iff : (ofResolution p r).IsForeign ↔ (ofResolution p r).path = none := by
  cases r with
  | internal path =>
    simp only [IsForeign, ofResolution, Policy.identity_of_layerRoot?]
    split <;> simp [Layer.zone]
  | external => simp [IsForeign, ofResolution, outside]
  | unresolved => simp [IsForeign, ofResolution, outside]

theorem of_path_eq_none (nowhere : (ofResolution p r).path = none) :
    (ofResolution p r).identity.owner = none ∧ (ofResolution p r).isPublicEntry = false := by
  cases r with
  | internal path => cases nowhere
  | external => exact ⟨rfl, rfl⟩
  | unresolved => exact ⟨rfl, rfl⟩

end Target

namespace Graph

/-- A graph whose parts agree. -/
structure Consistent (p : Policy) (g : Graph) : Prop where
  inventory_sorted : g.inventory.Pairwise (· < ·)
  files_sorted : g.files.Pairwise fun a b => a.path < b.path
  files_listed : ∀ file ∈ g.files, file.path ∈ g.inventory
  file?_eq_some : ∀ path file, g.file? path = some file ↔ file ∈ g.files ∧ file.path = path
  modules_sorted : g.modules.Pairwise fun a b => a.compare b = .lt
  mem_modules : ∀ m, m ∈ g.modules ↔ ∃ path ∈ g.inventory, (p.identity path).owner = some m
  describes : ∀ file edge, (file, edge) ∈ g.edges → ∀ path target, edge.target.path = some path →
    g.file? path = some target → edge.target.Describes target
  outside : ∀ file edge, (file, edge) ∈ g.edges → edge.target.IsForeign →
    edge.target.path = none ∧ edge.target.identity.owner = none ∧ edge.target.isPublicEntry = false

variable {p : Policy} {root : Path} {reader : Reader} {paths : List String}

theorem file?_build {path : String} {file : SourceFile} : (build p root reader paths).file? path = some file ↔
    file ∈ (build p root reader paths).files ∧ file.path = path :=
  searchSorted_eq_some (files_sorted_build.imp compare_eq_lt.mpr)

theorem mem_modules_build {m : Module} : m ∈ (build p root reader paths).modules ↔
    ∃ path ∈ paths, (p.identity path).owner = some m := by
  have listed : m ∈ (build p root reader paths).modules ↔
      m ∈ (build p root reader paths).inventory.filterMap fun path => (p.identity path).owner := mem_sortDistinct
  simp [listed]

theorem target_of_mem_edges {file : SourceFile} {edge : Edge} (listed : (file, edge) ∈ (build p root reader paths).edges) :
    ∃ r, edge.target = Target.ofResolution p r := by
  obtain ⟨member, imported⟩ := mem_edges.mp listed
  exact target_of_mem_imports member imported

theorem isSome_file?_build {path : String} : ((build p root reader paths).file? path).isSome = true ↔
    path ∈ paths ∧ ∃ text, reader.read (root.join ⟨path⟩) = .ok text := by
  simp only [Option.isSome_iff_exists, file?_build]
  constructor
  · rintro ⟨file, member, rfl⟩
    obtain ⟨given, text, content, -⟩ := mem_files_build.mp member
    exact ⟨given, text, content⟩
  · rintro ⟨given, text, content⟩
    let file : SourceFile := ⟨path, p.identity path, text, edgesOf p (isKnown root reader paths) path text⟩
    exact ⟨file, mem_files_build.mpr ⟨given, text, content, rfl⟩, rfl⟩

theorem consistent_build (p : Policy) (root : Path) (reader : Reader) (paths : List String) :
    Consistent p (build p root reader paths) where
  inventory_sorted := inventory_sorted_build
  files_sorted := files_sorted_build
  files_listed _ member := mem_inventory_build.mpr (path_of_mem_files member)
  file?_eq_some _ _ := file?_build
  modules_sorted := pairwise_sortDistinct _
  mem_modules m := by
    simp only [mem_modules_build, mem_inventory_build]
  describes file edge listed path target leads found := by
    obtain ⟨r, resolved⟩ := target_of_mem_edges listed
    obtain ⟨member, rfl⟩ := file?_build.mp found
    rw [resolved] at leads ⊢
    exact Target.describes_ofResolution (identity_of_mem_files member) leads
  outside file edge listed leaves := by
    obtain ⟨r, resolved⟩ := target_of_mem_edges listed
    rw [resolved] at leaves ⊢
    have nowhere := Target.isForeign_iff.mp leaves
    exact ⟨nowhere, Target.of_path_eq_none nowhere⟩

/-- Whatever a policy, a reader and a list of paths are, the parts of their graph agree. It lists the given paths, and a
file is found at those of them that can be read. -/
theorem build_consistent (p : Policy) (root : Path) (reader : Reader) (paths : List String) :
    let g := build p root reader paths
    Consistent p g ∧ ∀ path, (path ∈ g.inventory ↔ path ∈ paths) ∧
      ((g.file? path).isSome = true ↔ path ∈ paths ∧ ∃ text, reader.read (root.join ⟨path⟩) = .ok text) :=
  ⟨consistent_build p root reader paths, fun _ => ⟨mem_inventory_build, isSome_file?_build⟩⟩

end Graph

end Layering
