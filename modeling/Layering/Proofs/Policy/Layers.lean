import Layering.Proofs.Policy.Checked
import Mathlib.Data.List.Nodup

/-! The layers of an accepted policy. Their ranks count their places and no two of them share a name, so that a
layer is known by its name as well as by its rank. -/
namespace Layering.Policy

theorem nodup_map_concat {f : α → β} {as : List α} {a : α} (apart : (as.map f).Nodup)
    (fresh : ∀ other ∈ as, f other ≠ f a) : ((as ++ [a]).map f).Nodup := by
  rw [List.map_append, List.nodup_append]
  refine ⟨apart, List.nodup_singleton _, ?_⟩
  intro key listed other last
  obtain ⟨earlier, member, rfl⟩ := List.mem_map.mp listed
  obtain rfl := List.mem_singleton.mp last
  exact fresh earlier member

/-- Where no key is given twice, looking a key up finds what is listed under it. -/
theorem lookup_eq_some_iff {entries : List (String × β)} (keys : (entries.map (·.1)).Nodup) {key : String} {b : β} :
    entries.lookup key = some b ↔ (key, b) ∈ entries := by
  rw [List.lookup_eq_some_iff]
  constructor
  · rintro ⟨before, after, rfl, -⟩
    simp
  · intro listed
    obtain ⟨before, after, rfl⟩ := List.append_of_mem listed
    refine ⟨before, after, rfl, fun earlier listed => ?_⟩
    rw [List.map_append, List.map_cons] at keys
    have apart := (List.nodup_append.mp keys).2.2 earlier.1 (List.mem_map_of_mem listed) key List.mem_cons_self
    simpa using Ne.symm apart

/-- Layers as a policy lists them, lowest first. -/
structure Ordered (layers : List Layer) : Prop where
  ranks : layers.map (·.rank) = List.range layers.length
  names : (layers.map (·.name)).Nodup

namespace Ordered

variable {layers : List Layer}

theorem nil : Ordered [] := ⟨rfl, List.nodup_nil⟩

theorem append (ordered : Ordered layers) {layer : Layer} (rank : layer.rank = layers.length)
    (fresh : ∀ other ∈ layers, other.name ≠ layer.name) : Ordered (layers ++ [layer]) where
  ranks := by simp [ordered.ranks, rank, List.range_succ]
  names := nodup_map_concat ordered.names fresh

theorem eq_of_rank (ordered : Ordered layers) {a b : Layer} (ha : a ∈ layers) (hb : b ∈ layers)
    (same : a.rank = b.rank) : a = b := by
  have distinct : (layers.map (·.rank)).Nodup := ordered.ranks ▸ List.nodup_range
  exact List.inj_on_of_nodup_map distinct ha hb same

theorem eq_of_name (ordered : Ordered layers) {a b : Layer} (ha : a ∈ layers) (hb : b ∈ layers)
    (same : a.name = b.name) : a = b :=
  List.inj_on_of_nodup_map ordered.names ha hb same

/-- Looking a layer up by its name finds the layer itself. -/
theorem find_name (ordered : Ordered layers) {layer : Layer} (member : layer ∈ layers) :
    layers.find? (·.name = layer.name) = some layer := by
  cases found : layers.find? (·.name = layer.name) with
  | none => exact absurd (List.find?_eq_none.mp found layer member) (by simp)
  | some other =>
    have same : other.name = layer.name := by simpa using List.find?_some found
    exact congrArg some (ordered.eq_of_name (List.mem_of_find?_eq_some found) member same)

end Ordered

/-- A layer passes with a name that is new, at least one root, and the number of layers before it as its rank. -/
theorem checkLayer_eq_ok {layers : List Layer} {entry : LayerEntry} {layer : Layer} :
    checkLayer layers entry = .ok layer ↔
      Text.trim entry.name ≠ "" ∧ (∀ other ∈ layers, other.name ≠ Text.trim entry.name) ∧ entry.roots ≠ [] ∧
      ∃ roots, checkEach (fun index => relativeAt (.layerRoot layers.length index) false) entry.roots = .ok roots ∧
        layer = ⟨Text.trim entry.name, layers.length, roots, entry.modules, entry.allowSideways⟩ := by
  simp only [checkLayer, refuse_eq_ok, bind_eq_ok, pure_eq_ok, List.any_eq_true, decide_eq_true_eq,
    List.isEmpty_iff, not_exists, not_and, eq_comm (b := layer)]

theorem checkLayers_ordered {entries : List LayerEntry} {layers : List Layer}
    (passed : checkLayers entries = .ok layers) : Ordered layers := by
  simp only [checkLayers, refuse_eq_ok] at passed
  refine foldlM_invariant Ordered ?_ Ordered.nil passed.2
  intro before entry after ordered step
  simp only [bind_eq_ok, pure_eq_ok] at step
  obtain ⟨layer, accepted, rfl⟩ := step
  obtain ⟨-, fresh, -, roots, -, rfl⟩ := checkLayer_eq_ok.mp accepted
  exact ordered.append rfl fresh

theorem load_ordered {document : Document} {p : Policy} (accepted : load document = .ok p) : Ordered p.layers :=
  checkLayers_ordered (load_eq_ok.mp accepted).layers

/-- A policy of two layers and little else. -/
def twoLayers : Document where
  layers := [{ name := "shared", roots := ["src/shared"] }, { name := "app", roots := ["src/app"] }]
  aliases := []
  roleRules := some []

/-- What is loaded for the policy of two layers. -/
def twoLayersPolicy : Policy where
  discovery := {
    root := "src", extensions := ["ts", "tsx", "js", "jsx", "mjs", "cjs"]
    ignoreDirs := ["node_modules", "dist", "build", "coverage", ".git"], exclude := [], respectGitignore := true }
  layers := [⟨"shared", 0, ["src/shared"], false, true⟩, ⟨"app", 1, ["src/app"], false, true⟩]
  aliases := []
  stems := [("ui", .ui), ("store", .store), ("service", .service), ("types", .types), ("index", .publicApi)]
  modules := { required := [.ui, .store, .service, .publicApi], allowPublicApi := true }
  roleRules := []
  forbidden := []
  rules := []

theorem load_twoLayers : load twoLayers = .ok twoLayersPolicy := by
  have aliases : checkAliases [] = .ok [] := by simp [checkAliases, sortByKey]
  have rules : checkRules [] = .ok [] := by simp [checkRules, sortByKey]
  exact load_eq_ok.mpr ⟨by decide +kernel, by decide +kernel, aliases, by decide +kernel, by decide +kernel, rfl, rfl,
    rules⟩

end Layering.Policy
