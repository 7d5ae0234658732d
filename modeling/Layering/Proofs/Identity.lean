import Layering.Graph

/-! Which identities a policy gives out. A file of a layer has the zone of a layer that the policy lists, and a
module only if that layer has modules; everything else has neither rank nor module. The target of an import gets
the identity that the file with its path has. -/
namespace Layering

theorem Zone.eq_layer_of_rank? {zone : Zone} {rank : Nat} (ranked : zone.rank? = some rank) :
    ∃ name, zone = .layer name rank := by
  cases zone with
  | layer name rank' =>
    obtain rfl : rank' = rank := by simpa [rank?] using ranked
    exact ⟨name, rfl⟩
  | unclassified => simp [rank?] at ranked
  | external => simp [rank?] at ranked
  | unresolved => simp [rank?] at ranked

namespace Policy

theorem mem_layers_of_layerRoot? {p : Policy} {path root : String} {layer : Layer}
    (found : p.layerRoot? path = some (root, layer)) : layer ∈ p.layers ∧ root ∈ layer.roots := by
  have member := List.mem_of_find?_eq_some found
  simp only [layerRoots, List.mem_mergeSort, List.mem_flatMap, List.mem_map, Prod.mk.injEq] at member
  obtain ⟨_, listed, _, declared, rfl, rfl⟩ := member
  exact ⟨listed, declared⟩

/-- A path below none of the layers. -/
def Outside (layers : List Layer) (path : String) : Prop :=
  ∀ layer ∈ layers, ∀ root ∈ layer.roots, Text.isUnder path root = false

theorem layerRoot?_eq_none {p : Policy} {path : String} (outside : Outside p.layers path) :
    p.layerRoot? path = none := by
  refine List.find?_eq_none.mpr fun entry listed => ?_
  simp only [layerRoots, List.mem_mergeSort, List.mem_flatMap, List.mem_map] at listed
  obtain ⟨layer, member, root, declared, rfl⟩ := listed
  simpa using outside layer member root declared

/-- The identity of a path by the longest root that it lies under. -/
theorem identity_of_layerRoot? (p : Policy) (path : String) :
    p.identity path = match p.layerRoot? path with
      | none => ⟨.unclassified, none, p.roleOf path⟩
      | some (root, layer) =>
        ⟨layer.zone, if layer.modules then moduleBelow? root path else none, p.roleOf path⟩ := by
  unfold identity classify
  cases found : p.layerRoot? path with
  | none => rfl
  | some entry =>
    obtain ⟨root, layer⟩ := entry
    cases modules : layer.modules with
    | false => simp [modules]
    | true => cases below : moduleBelow? root path <;> simp [modules, below]

theorem role_identity {p : Policy} {path : String} : (p.identity path).role = p.roleOf path := by
  rw [identity_of_layerRoot?]
  split <;> rfl

/-- An identity that the policy can give. -/
inductive Grants (p : Policy) (c : Classification) : Prop where
  | inside (layer : Layer) (listed : layer ∈ p.layers) (zone : c.zone = layer.zone)
      (owner : c.owner.isSome = true → layer.modules = true)
  | outside (zone : c.zone.rank? = none) (owner : c.owner = none)

theorem grants_identity (p : Policy) (path : String) : p.Grants (p.identity path) := by
  rw [identity_of_layerRoot?]
  cases found : p.layerRoot? path with
  | none => exact .outside rfl rfl
  | some entry =>
    obtain ⟨root, layer⟩ := entry
    refine .inside layer (mem_layers_of_layerRoot? found).1 rfl fun owned => ?_
    cases modules : layer.modules <;> simp_all

theorem grants_target (p : Policy) (r : Resolution) : p.Grants (Target.ofResolution p r).identity := by
  cases r with
  | internal path => exact p.grants_identity path
  | external => exact .outside rfl rfl
  | unresolved => exact .outside rfl rfl

/-- A zone with a rank is that of a listed layer. -/
theorem Grants.layer_of_rank {p : Policy} {c : Classification} (granted : p.Grants c) {rank : Nat}
    (ranked : c.zone.rank? = some rank) : ∃ layer ∈ p.layers, c.zone = layer.zone ∧ layer.rank = rank := by
  cases granted with
  | inside layer listed zone _ =>
    refine ⟨layer, listed, zone, ?_⟩
    simpa [zone, Layer.zone, Zone.rank?] using ranked
  | outside zone _ => simp [zone] at ranked

/-- A file of a module is a file of a listed layer with modules. -/
theorem Grants.layer_of_owner {p : Policy} {c : Classification} (granted : p.Grants c) {m : Module}
    (owned : c.owner = some m) : ∃ layer ∈ p.layers, c.zone = layer.zone ∧ layer.modules = true := by
  cases granted with
  | inside layer listed zone owner => exact ⟨layer, listed, zone, owner (by simp [owned])⟩
  | outside _ owner => simp [owner] at owned

end Policy

/-- The target of an import is what the policy makes of the path that was found. -/
theorem Target.identity_of_path {p : Policy} {r : Resolution} {path : String}
    (found : (Target.ofResolution p r).path = some path) :
    (Target.ofResolution p r).identity = p.identity path := by
  cases r with
  | internal other =>
    obtain rfl : other = path := by simpa [ofResolution] using found
    rfl
  | external => simp [ofResolution, outside] at found
  | unresolved => simp [ofResolution, outside] at found

end Layering
