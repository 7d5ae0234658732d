import Layering.Proofs.Graph.Consistency
import Layering.Proofs.Policy.Invariants
import Layering.Proofs.Resolution.Normal

/-! The modules of a graph. Each is a directory right below a root of a layer, so that its directory tells its name, and
the root tells its directory even where dots and slashes in paths do not count. -/
namespace Layering

namespace Module

theorem holds_iff {m : Module} {path : String} (some? : m.directory ≠ "") :
    m.holds path = true ↔ Text.LiesIn path m.directory := by
  rw [holds]
  constructor
  · intro held
    split at held
    · rename_i name same
      refine .inr ⟨.ofList name, by simpa using held, String.toList_inj.mp ?_⟩
      simp [Text.eq_append_of_stripPrefix? same]
    · cases held
  · rintro (⟨-, root⟩ | ⟨name, whole, rfl⟩)
    · exact absurd root some?
    · have spelt : (m.directory ++ "/" ++ name).toList = m.directory.toList ++ '/' :: name.toList := by simp
      rw [spelt, Text.stripPrefix?_append]
      simpa using whole

/-- A directory right below a root of a layer. -/
structure IsBelow (p : Policy) (m : Module) (root : String) : Prop where
  declared : ∃ layer ∈ p.layers, root ∈ layer.roots
  directory : m.directory = root ++ "/" ++ m.name
  whole : '/' ∉ m.name.toList

theorem IsBelow.directory_ne {p : Policy} {m : Module} {root : String} (below : m.IsBelow p root) :
    m.directory ≠ "" := by
  rw [below.directory]
  simp

/-- The directory of a module tells its name. -/
theorem IsBelow.eq_of_directory {p : Policy} {m m' : Module} {root root' : String} (below : m.IsBelow p root)
    (below' : m'.IsBelow p root') (same : m.directory = m'.directory) : m = m' := by
  have parent : root = root' := by
    have lies : Text.LiesIn m.directory root := .inr ⟨m.name, below.whole, below.directory⟩
    have lies' : Text.LiesIn m.directory root' := .inr ⟨m'.name, below'.whole, same.trans below'.directory⟩
    rw [← lies.parent_eq, lies'.parent_eq]
  cases m
  cases m'
  rw [Module.mk.injEq]
  refine ⟨?_, same⟩
  have spelt := below.directory.symm.trans (same.trans below'.directory)
  rw [parent] at spelt
  simpa using spelt

/-- Modules of one name whose directories are the same place are the same. -/
theorem IsBelow.eq_of_parts {p : Policy} (formed : Policy.Formed p) {m m' : Module} {root root' : String}
    (below : m.IsBelow p root) (below' : m'.IsBelow p root') (named : m.name = m'.name)
    (same : (⟨m.directory⟩ : Path).parts = (⟨m'.directory⟩ : Path).parts) : m = m' := by
  obtain ⟨layer, listed, declared⟩ := below.declared
  obtain ⟨layer', listed', declared'⟩ := below'.declared
  have normal := ((formed.layers layer listed).roots root declared).normal
  have normal' := ((formed.layers layer' listed').roots root' declared').normal
  refine below.eq_of_directory below' ?_
  rw [below.directory, below'.directory, named] at same
  rw [below.directory, below'.directory, named, normal.eq_of_parts_slash normal' same]

end Module

theorem spelt_of_moduleBelow? {root path : String} {m : Module} (found : moduleBelow? root path = some m) :
    m.directory = root ++ "/" ++ m.name ∧ '/' ∉ m.name.toList := by
  unfold moduleBelow? at found
  split at found
  · rename_i name next inside below
    obtain ⟨rest, -, cut⟩ := Option.map_eq_some_iff.mp below
    obtain rfl := Option.some.inj found
    refine ⟨rfl, ?_⟩
    rw [String.toList_ofList]
    exact Text.not_mem_of_mem_segments (cut ▸ List.mem_cons_self)
  · cases found

namespace Graph

variable {p : Policy} {root : Path} {reader : Reader} {paths : List String}

theorem exists_isBelow {m : Module} (listed : m ∈ (build p root reader paths).modules) : ∃ root, m.IsBelow p root := by
  obtain ⟨path, -, owned⟩ := mem_modules_build.mp listed
  rw [Policy.identity_of_layerRoot?] at owned
  cases found : p.layerRoot? path with
  | none => simp [found] at owned
  | some entry =>
    obtain ⟨root, layer⟩ := entry
    simp only [found] at owned
    split at owned
    · obtain ⟨directory, whole⟩ := spelt_of_moduleBelow? owned
      obtain ⟨member, declared⟩ := Policy.mem_layers_of_layerRoot? found
      exact ⟨root, ⟨layer, member, declared⟩, directory, whole⟩
    · cases owned

theorem nodup_modules_build : (build p root reader paths).modules.Nodup := nodup_sortDistinct _

end Graph

end Layering
