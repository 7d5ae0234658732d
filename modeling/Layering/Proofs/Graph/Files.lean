import Layering.Proofs.Identity
import Layering.Proofs.Policy.Layers
import Layering.Proofs.Sorting

/-! The files of a graph. Each of the given paths that can be read is one file, with the identity that the policy
gives to its path, and its imports are those of its text. -/
namespace Layering.Graph

variable {p : Policy} {root : Path} {reader : Reader} {paths : List String}

/-- Whether a path counts as that of a file while a graph is built: it is given, or the reader knows it. -/
def isKnown (root : Path) (reader : Reader) (paths : List String) (path : String) : Bool :=
  paths.contains path || reader.isFile (root.join ⟨path⟩)

@[simp] theorem mem_inventory_build {path : String} :
    path ∈ (build p root reader paths).inventory ↔ path ∈ paths :=
  mem_sortDistinct

theorem nodup_inventory_build : (build p root reader paths).inventory.Nodup :=
  nodup_sortDistinct paths

theorem inventory_sorted_build : (build p root reader paths).inventory.Pairwise (· < ·) :=
  (pairwise_sortDistinct paths).imp compare_eq_lt.mp

/-- The files by their paths alone: which paths are known does not depend on the order of the inventory. -/
theorem files_build (p : Policy) (root : Path) (reader : Reader) (paths : List String) :
    (build p root reader paths).files = (build p root reader paths).inventory.filterMap fun path =>
      sourceFile? p (isKnown root reader paths) path (reader.read (root.join ⟨path⟩)) := by
  have known (path : String) : (Std.HashSet.ofList (build p root reader paths).inventory).contains path =
      paths.contains path := by
    rw [Std.HashSet.contains_ofList, Bool.eq_iff_iff]
    simp
  have same : isKnown root reader paths = fun path =>
      (Std.HashSet.ofList (build p root reader paths).inventory).contains path ||
        reader.isFile (root.join ⟨path⟩) := by
    funext path
    rw [known, isKnown]
  rw [same]
  exact List.filterMap_map ..

/-- The file that a readable path stands for. -/
theorem sourceFile?_eq_some {isFile : String → Bool} {path : String} {content : Except ReadError String}
    {file : SourceFile} : sourceFile? p isFile path content = some file ↔
      ∃ text, content = .ok text ∧ file = ⟨path, p.identity path, text, edgesOf p isFile path text⟩ := by
  cases content <;> simp [sourceFile?, eq_comm (a := file)]

theorem files_sorted_build : (build p root reader paths).files.Pairwise fun a b => a.path < b.path := by
  rw [files_build]
  refine inventory_sorted_build.filterMap _ fun path path' less file found file' found' => ?_
  obtain ⟨_, -, rfl⟩ := sourceFile?_eq_some.mp found
  obtain ⟨_, -, rfl⟩ := sourceFile?_eq_some.mp found'
  exact less

theorem mem_files_build {file : SourceFile} : file ∈ (build p root reader paths).files ↔
    file.path ∈ paths ∧ ∃ text, reader.read (root.join ⟨file.path⟩) = .ok text ∧
      file = ⟨file.path, p.identity file.path, text, edgesOf p (isKnown root reader paths) file.path text⟩ := by
  simp only [files_build, List.mem_filterMap, mem_inventory_build, sourceFile?_eq_some]
  constructor
  · rintro ⟨path, given, text, content, rfl⟩
    exact ⟨given, text, content, rfl⟩
  · rintro ⟨given, text, content, same⟩
    exact ⟨file.path, given, text, content, same⟩

theorem path_of_mem_files {file : SourceFile} (member : file ∈ (build p root reader paths).files) :
    file.path ∈ paths :=
  (mem_files_build.mp member).1

theorem identity_of_mem_files {file : SourceFile} (member : file ∈ (build p root reader paths).files) :
    file.identity = p.identity file.path := by
  obtain ⟨-, text, -, same⟩ := mem_files_build.mp member
  rw [same]

theorem imports_of_mem_files {file : SourceFile} (member : file ∈ (build p root reader paths).files) :
    file.imports = edgesOf p (isKnown root reader paths) file.path file.text := by
  obtain ⟨-, text, -, same⟩ := mem_files_build.mp member
  rw [same]

theorem target_of_mem_imports {file : SourceFile} (member : file ∈ (build p root reader paths).files)
    {edge : Edge} (imported : edge ∈ file.imports) : ∃ r, edge.target = Target.ofResolution p r := by
  rw [imports_of_mem_files member, edgesOf, List.mem_map] at imported
  obtain ⟨i, -, rfl⟩ := imported
  exact ⟨_, rfl⟩

/-- The identity on an edge and the identity of the file that it leads to are the same. -/
theorem identity_of_target {file target : SourceFile} (member : file ∈ (build p root reader paths).files)
    (reached : target ∈ (build p root reader paths).files) {edge : Edge} (imported : edge ∈ file.imports)
    (leads : edge.target.path = some target.path) : edge.target.identity = target.identity := by
  obtain ⟨r, resolved⟩ := target_of_mem_imports member imported
  rw [identity_of_mem_files reached, resolved]
  exact Target.identity_of_path (resolved ▸ leads)

theorem mem_edges {g : Graph} {file : SourceFile} {edge : Edge} :
    (file, edge) ∈ g.edges ↔ file ∈ g.files ∧ edge ∈ file.imports := by
  simp only [edges, List.mem_flatMap, List.mem_map, Prod.mk.injEq]
  constructor
  · rintro ⟨file, member, edge, imported, rfl, rfl⟩
    exact ⟨member, imported⟩
  · rintro ⟨member, imported⟩
    exact ⟨file, member, edge, imported, rfl, rfl⟩

section TwoLayers

open Policy (twoLayersPolicy)

/-- A file in each of two layers. -/
def twoPaths : List String := ["src/app/a.ts", "src/shared/b.ts"]

theorem identity_twoLayers :
    twoLayersPolicy.identity "src/app/a.ts" = ⟨.layer "app" 1, none, .unclassified⟩ ∧
      twoLayersPolicy.identity "src/shared/b.ts" = ⟨.layer "shared" 0, none, .unclassified⟩ := by
  have roots : twoLayersPolicy.layerRoots = [("src/shared", ⟨"shared", 0, ["src/shared"], false, true⟩),
      ("src/app", ⟨"app", 1, ["src/app"], false, true⟩)] := by
    rw [Policy.layerRoots, List.mergeSort_of_pairwise (by decide)]
    rfl
  rw [Policy.identity_of_layerRoot?, Policy.identity_of_layerRoot?, Policy.layerRoot?, Policy.layerRoot?, roots]
  decide +kernel

theorem files_twoPaths {first second : String} (upper : reader.read ⟨"src/app/a.ts"⟩ = .ok first)
    (lower : reader.read ⟨"src/shared/b.ts"⟩ = .ok second) :
    (build twoLayersPolicy ⟨""⟩ reader twoPaths).files =
      [⟨"src/app/a.ts", ⟨.layer "app" 1, none, .unclassified⟩, first,
          edgesOf twoLayersPolicy (isKnown ⟨""⟩ reader twoPaths) "src/app/a.ts" first⟩,
        ⟨"src/shared/b.ts", ⟨.layer "shared" 0, none, .unclassified⟩, second,
          edgesOf twoLayersPolicy (isKnown ⟨""⟩ reader twoPaths) "src/shared/b.ts" second⟩] := by
  have inventory : (build twoLayersPolicy ⟨""⟩ reader twoPaths).inventory = twoPaths := by
    simp only [build, sortDistinct, sortBy, twoPaths]
    rw [List.mergeSort_of_pairwise (by decide)]
    rfl
  have join (path : String) (relative : (⟨path⟩ : Path).isAbsolute = false) : (⟨""⟩ : Path).join ⟨path⟩ = ⟨path⟩ := by
    simp [Path.join, relative]
  rw [files_build, inventory]
  simp [twoPaths, join _ (show (⟨"src/app/a.ts"⟩ : Path).isAbsolute = false by decide),
    join _ (show (⟨"src/shared/b.ts"⟩ : Path).isAbsolute = false by decide), upper, lower, sourceFile?,
    identity_twoLayers]

end TwoLayers

end Layering.Graph
