import Layering.Proofs.Graph.Files
import Layering.Proofs.Source.Positions
import Mathlib.Data.List.Nodup
import Mathlib.Data.List.Pairwise

/-! The places of imports. If no two of the given paths are the same place, then no two imports of the graph are: the
path tells the file, and the imports of a file stand one after the other. -/
namespace Layering.Graph

variable {p : Policy} {root : Path} {reader : Reader} {paths : List String}

/-- Paths no two of which have the same parts. -/
def Distinct (paths : List String) : Prop := paths.Pairwise fun a b => (⟨a⟩ : Path).same ⟨b⟩ = false

instance (paths : List String) : Decidable (Distinct paths) := by
  unfold Distinct; infer_instance

theorem Distinct.eq_of_same (distinct : Distinct paths) {a b : String} (ha : a ∈ paths) (hb : b ∈ paths)
    (same : (⟨a⟩ : Path).same ⟨b⟩ = true) : a = b := by
  by_contra differ
  have symmetric : Std.Symm fun a b : String => (⟨a⟩ : Path).same ⟨b⟩ = false :=
    ⟨fun a b apart => by simpa [Path.same, eq_comm] using apart⟩
  have apart := List.Pairwise.forall distinct ha hb differ
  simp [same] at apart

theorem eq_of_path {a b : SourceFile} (ha : a ∈ (build p root reader paths).files)
    (hb : b ∈ (build p root reader paths).files) (same : a.path = b.path) : a = b := by
  obtain ⟨-, text, content, fileA⟩ := mem_files_build.mp ha
  obtain ⟨-, text', content', fileB⟩ := mem_files_build.mp hb
  rw [same] at content
  obtain rfl : text = text' := Except.ok.inj (content.symm.trans content')
  rw [fileA, fileB, same]

theorem nodup_files : (build p root reader paths).files.Nodup := by
  refine files_sorted_build.imp fun less same => ?_
  rw [same] at less
  exact String.lt_irrefl _ less

/-- The imports of a file in the order of their places. -/
theorem pairwise_imports {file : SourceFile} (member : file ∈ (build p root reader paths).files) :
    file.imports.Pairwise fun a b => a.position.Before b.position := by
  rw [imports_of_mem_files member, edgesOf]
  exact List.pairwise_map.mpr (Source.pairwise_imports file.text)

theorem eq_of_position {file : SourceFile} (member : file ∈ (build p root reader paths).files) {a b : Edge}
    (ha : a ∈ file.imports) (hb : b ∈ file.imports) (same : a.position = b.position) : a = b := by
  by_contra differ
  have apart : file.imports.Pairwise fun a b => a.position ≠ b.position :=
    (pairwise_imports member).imp Position.Before.ne
  have symmetric : Std.Symm fun a b : Edge => a.position ≠ b.position := ⟨fun _ _ => Ne.symm⟩
  exact List.Pairwise.forall apart ha hb differ same

theorem nodup_edges : (build p root reader paths).edges.Nodup := by
  refine List.nodup_flatMap.mpr ⟨fun file member => ?_, ?_⟩
  · have imports : file.imports.Nodup := (pairwise_imports member).imp fun before same => before.ne (by rw [same])
    exact imports.map fun a b same => (Prod.mk.inj same).2
  · apply nodup_files.imp
    intro a b differ x left right
    obtain ⟨_, -, rfl⟩ := List.mem_map.mp left
    obtain ⟨_, -, same⟩ := List.mem_map.mp right
    exact differ (Prod.mk.inj same).1.symm

/-- An import is known by its place. -/
theorem eq_of_location (distinct : Distinct paths) {file file' : SourceFile} {edge edge' : Edge}
    (first : (file, edge) ∈ (build p root reader paths).edges)
    (second : (file', edge') ∈ (build p root reader paths).edges)
    (same : (file.locationOf edge).same (file'.locationOf edge') = true) : file = file' ∧ edge = edge' := by
  obtain ⟨member, imported⟩ := mem_edges.mp first
  obtain ⟨member', imported'⟩ := mem_edges.mp second
  simp only [Location.same, SourceFile.locationOf, Bool.and_eq_true] at same
  obtain ⟨⟨place, line⟩, column⟩ := same
  have path := distinct.eq_of_same (path_of_mem_files member) (path_of_mem_files member') place
  obtain rfl := eq_of_path member member' path
  refine ⟨rfl, eq_of_position member imported imported' ?_⟩
  exact Position.eq_of_line_column (of_decide_eq_true line) (of_decide_eq_true column)

end Layering.Graph
