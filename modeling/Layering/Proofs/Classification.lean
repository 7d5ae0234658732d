import Layering.Proofs.Identity
import Layering.Proofs.Policy.Invariants
import Layering.Proofs.Policy.Relabelling
import Layering.Proofs.Resolution.Normal

/-! What the path of a file tells. The longest root that covers the path decides on its layer, and the segments that
follow this root decide on its module: so modules are the same exactly if both the root and the segment after it are. -/
namespace Layering

/-- The root is the path itself or is followed in it by a slash. -/
def Covers (root path : String) : Prop := path = root ∨ (root ++ "/").toList <+: path.toList

instance (root path : String) : Decidable (Covers root path) := by
  unfold Covers; infer_instance

/-- The segments of a path after those of a root. -/
def following (root path : String) : List String := (Text.split '/' path).drop (Text.split '/' root).length

section Covering

variable {root path : String}

theorem covers_iff_below? : Covers root path ↔ ∃ rest, Text.below? root path = some rest := by
  simp only [Text.below?_eq_some]
  constructor
  · rintro (same | ⟨rest, spelt⟩)
    · exact ⟨"", .inl ⟨same, rfl⟩⟩
    · exact ⟨.ofList rest, .inr (String.toList_inj.mp (by simp [← spelt]))⟩
  · rintro ⟨rest, ⟨same, -⟩ | spelt⟩
    · exact .inl same
    · exact .inr ⟨rest.toList, by simp [spelt]⟩

theorem isUnder_iff (some? : root ≠ "") : Text.isUnder path root = true ↔ Covers root path := by
  simp [Text.isUnder, some?, covers_iff_below?, Option.isSome_iff_exists]

theorem Covers.isPrefix (covers : Covers root path) : root.toList <+: path.toList := by
  rcases covers with rfl | ⟨rest, spelt⟩
  · exact List.prefix_rfl
  · exact ⟨'/' :: rest, by simp [← spelt]⟩

/-- Of two texts that the same text starts with, the one with more bytes has more characters. -/
theorem length_le_of_utf8ByteSize_le {a b whole : String} (ha : a.toList <+: whole.toList)
    (hb : b.toList <+: whole.toList) (fewer : a.utf8ByteSize ≤ b.utf8ByteSize) : a.length ≤ b.length := by
  rcases List.prefix_or_prefix_of_prefix ha hb with ⟨more, spelt⟩ | ⟨more, spelt⟩
  · rw [← String.length_toList, ← String.length_toList, ← spelt, List.length_append]
    omega
  · have same : a = b ++ .ofList more := String.toList_inj.mp (by simp [← spelt])
    have nothing : (String.ofList more).utf8ByteSize = 0 := by
      rw [same, String.utf8ByteSize_append] at fewer
      omega
    rw [same, String.utf8ByteSize_eq_zero_iff.mp nothing]
    simp

/-- Two texts of one length that the same text starts with are the same. -/
theorem eq_of_length {a b whole : String} (ha : a.toList <+: whole.toList) (hb : b.toList <+: whole.toList)
    (length : a.length = b.length) : a = b := by
  rw [← String.length_toList, ← String.length_toList] at length
  exact String.toList_inj.mp (List.prefix_of_prefix_length_le ha hb length.le |>.eq_of_length length)

end Covering

section Following

variable {root path : String}

theorem following_self (root : String) : following root root = [] := by
  rw [following, List.drop_length]

theorem following_append_slash (root rest : String) : following root (root ++ "/" ++ rest) = Text.split '/' rest := by
  rw [following, Text.split_append_slash, List.drop_left]

/-- Below a root, a path without empty segments lies in the module that the next segment names, unless the path ends
there. -/
theorem moduleBelow?_eq (normal : Path.IsNormal path) (covers : Covers root path) : moduleBelow? root path =
    match following root path with
    | name :: _ :: _ => some ⟨name, root ++ "/" ++ name⟩
    | _ => none := by
  obtain ⟨rest, below⟩ := covers_iff_below?.mp covers
  rw [moduleBelow?, below]
  rcases Text.below?_eq_some.mp below with ⟨rfl, rfl⟩ | rfl
  · rw [following_self]
    rfl
  · have first : rest.toList.dropWhile (· = '/') = rest.toList := by
      cases spelt : rest.toList with
      | nil => rfl
      | cons c cs =>
        refine List.dropWhile_cons_of_neg fun slash => ?_
        have empty : "" ∈ Text.split '/' rest := by
          simp [Text.split, spelt, Text.segments, of_decide_eq_true slash]
        have proper := normal "" (by rw [Text.split_append_slash]; exact List.mem_append_right _ empty)
        exact proper.some? rfl
    rw [following_append_slash, Option.map_some, first, Text.split]
    cases Text.segments '/' rest.toList with
    | nil => rfl
    | cons name later => cases later <;> rfl

end Following

namespace Policy

variable {p : Policy} {path root : String} {layer : Layer}

/-- The root that decides on a path, and its layer. No root of any layer that covers the path is longer, and the layer
is the first one that declares the root. -/
structure Prevails (p : Policy) (path root : String) (layer : Layer) : Prop where
  covers : Covers root path
  longest : ∀ other ∈ p.layers, ∀ root' ∈ other.roots, Covers root' path → root'.length ≤ root.length
  first : p.layers.find? (root ∈ ·.roots) = some layer

/-- No root of any layer covers the path. -/
def Uncovered (p : Policy) (path : String) : Prop := ∀ layer ∈ p.layers, ∀ root ∈ layer.roots, ¬Covers root path

theorem Prevails.listed (prevails : p.Prevails path root layer) : layer ∈ p.layers ∧ root ∈ layer.roots :=
  ⟨List.mem_of_find?_eq_some prevails.first, by simpa using List.find?_some prevails.first⟩

theorem Prevails.unique {root' : String} {layer' : Layer} (prevails : p.Prevails path root layer)
    (prevails' : p.Prevails path root' layer') : root = root' ∧ layer = layer' := by
  obtain ⟨listed, declared⟩ := prevails.listed
  obtain ⟨listed', declared'⟩ := prevails'.listed
  have length : root.length = root'.length :=
    Nat.le_antisymm (prevails'.longest layer listed root declared prevails.covers)
      (prevails.longest layer' listed' root' declared' prevails'.covers)
  obtain rfl := eq_of_length prevails.covers.isPrefix prevails'.covers.isPrefix length
  exact ⟨rfl, Option.some.inj (prevails.first.symm.trans prevails'.first)⟩

theorem mem_rootsOf {layers : List Layer} : (root, layer) ∈ rootsOf layers ↔ layer ∈ layers ∧ root ∈ layer.roots := by
  simp [rootsOf]

/-- The first entry of a root is that of the first layer which declares it. -/
theorem find?_rootsOf (layers : List Layer) (root : String) :
    (rootsOf layers).find? (·.1 = root) = (layers.find? (root ∈ ·.roots)).map (root, ·) := by
  induction layers with
  | nil => rfl
  | cons layer layers ih =>
    have append : rootsOf (layer :: layers) = layer.roots.map (·, layer) ++ rootsOf layers := List.flatMap_cons
    rw [append, List.find?_append, ih, List.find?_cons, List.find?_map]
    cases found : layer.roots.find? ((fun entry : String × Layer => decide (entry.1 = root)) ∘ (·, layer)) with
    | some declared =>
      obtain rfl : declared = root := by simpa using List.find?_some found
      simp [List.mem_of_find?_eq_some found]
    | none =>
      have undeclared : root ∉ layer.roots := fun declared => by simpa using List.find?_eq_none.mp found root declared
      simp [undeclared]

/-- The roots that cover a path, each with its layer. -/
def covering (p : Policy) (path : String) : List (String × Layer) :=
  (rootsOf p.layers).filter fun entry => Text.isUnder path entry.1

section Winning

variable (some? : ∀ layer ∈ p.layers, ∀ root ∈ layer.roots, root ≠ "")

include some?

theorem mem_covering : (root, layer) ∈ p.covering path ↔ layer ∈ p.layers ∧ root ∈ layer.roots ∧ Covers root path := by
  rw [covering, List.mem_filter, mem_rootsOf, and_assoc]
  refine and_congr_right fun listed => and_congr_right fun declared => ?_
  exact isUnder_iff (some? layer listed root declared)

/-- Of the roots that cover a path, only repetitions of one root are of its length. -/
theorem tiedWith_covering (member : (root, layer) ∈ p.covering path) :
    tiedWith rootOrder (root, layer) (p.covering path) = (rootsOf p.layers).filter (·.1 = root) := by
  have covers := ((mem_covering some?).mp member).2.2
  rw [tiedWith, covering, List.filter_filter]
  apply List.filter_congr
  rintro ⟨root', layer'⟩ entry
  obtain ⟨listed, declared⟩ := mem_rootsOf.mp entry
  rw [Bool.eq_iff_iff, Bool.and_eq_true, isUnder_iff (some? layer' listed root' declared), decide_eq_true_iff,
    Ordering.isEq_iff_eq_eq, rootOrder, Nat.compare_eq_eq]
  constructor
  · rintro ⟨bytes, covers'⟩
    refine eq_of_length covers'.isPrefix covers.isPrefix (Nat.le_antisymm ?_ ?_)
    · exact length_le_of_utf8ByteSize_le covers'.isPrefix covers.isPrefix bytes.le
    · exact length_le_of_utf8ByteSize_le covers.isPrefix covers'.isPrefix bytes.ge
  · rintro rfl
    exact ⟨rfl, covers⟩

/-- Sorting puts the longest of the roots that cover a path first, and leaves its repetitions in the order of the
layers. -/
theorem prevails_of_layerRoot? (found : p.layerRoot? path = some (root, layer)) : p.Prevails path root layer := by
  rw [layerRoot?_eq, ← covering] at found
  obtain ⟨others, sorted⟩ := List.head?_eq_some_iff.mp found
  have member : (root, layer) ∈ p.covering path := mem_sortBy.mp (sorted ▸ List.mem_cons_self)
  have covers := ((mem_covering some?).mp member).2.2
  refine ⟨covers, fun other listed root' declared covers' => ?_, ?_⟩
  · have among : (root', other) ∈ sortBy rootOrder (p.covering path) :=
      mem_sortBy.mpr ((mem_covering some?).mpr ⟨listed, declared, covers'⟩)
    have inOrder : (sortBy rootOrder (p.covering path)).Pairwise fun a b => (rootOrder a b).isLE = true :=
      pairwise_sortBy _
    rw [sorted] at among inOrder
    rcases List.mem_cons.mp among with same | later
    · exact (congrArg (·.1.length) same).le
    · have bytes := List.rel_of_pairwise_cons inOrder later
      rw [rootOrder, Nat.isLE_compare] at bytes
      exact length_le_of_utf8ByteSize_le covers'.isPrefix covers.isPrefix bytes
  · have tied : tiedWith rootOrder (root, layer) (sortBy rootOrder (p.covering path)) =
        tiedWith rootOrder (root, layer) (p.covering path) := tiedWith_sortBy _ _
    have level : (rootOrder (root, layer) (root, layer)).isEq = true := by simp [rootOrder]
    rw [sorted, tiedWith_covering some? member, tiedWith, List.filter_cons, if_pos level] at tied
    have first : (rootsOf p.layers).find? (·.1 = root) = some (root, layer) := by
      rw [← List.head?_filter, ← tied, List.head?_cons]
    rw [find?_rootsOf] at first
    obtain ⟨other, found, same⟩ := Option.map_eq_some_iff.mp first
    rw [found, (Prod.mk.inj same).2]

theorem layerRoot?_eq_none_iff : p.layerRoot? path = none ↔ p.Uncovered path := by
  rw [layerRoot?_eq, ← covering, List.head?_eq_none_iff]
  simp only [List.eq_nil_iff_forall_not_mem, mem_sortBy, Prod.forall, mem_covering some?, not_and]
  exact ⟨fun none layer listed root => none root layer listed, fun none root layer listed => none layer listed root⟩

theorem layerRoot?_eq_some_iff : p.layerRoot? path = some (root, layer) ↔ p.Prevails path root layer := by
  refine ⟨prevails_of_layerRoot? some?, fun prevails => ?_⟩
  cases found : p.layerRoot? path with
  | none =>
    obtain ⟨listed, declared⟩ := prevails.listed
    exact absurd prevails.covers ((layerRoot?_eq_none_iff some?).mp found layer listed root declared)
  | some entry =>
    obtain ⟨rfl, rfl⟩ := (prevails_of_layerRoot? some? found).unique prevails
    rfl

end Winning

section Classifying

/-- What a policy makes of a path. -/
inductive Classifies (p : Policy) (path : String) : Except Misplaced Classification → Prop
  /-- It belongs to no layer. -/
  | outside (uncovered : p.Uncovered path) : Classifies p path (.ok ⟨.unclassified, none, p.roleOf path⟩)
  /-- It belongs to a layer without modules. -/
  | inLayer {root : String} {layer : Layer} (prevails : p.Prevails path root layer) (whole : layer.modules = false) :
      Classifies p path (.ok ⟨layer.zone, none, p.roleOf path⟩)
  /-- It belongs to the module that the segment after the root names, and is not the directory of the module itself. -/
  | inModule {root : String} {layer : Layer} {name : String} {inside : List String}
      (prevails : p.Prevails path root layer) (modules : layer.modules = true)
      (below : following root path = name :: inside) (some? : inside ≠ []) :
      Classifies p path (.ok ⟨layer.zone, some ⟨name, root ++ "/" ++ name⟩, p.roleOf path⟩)
  /-- It belongs to no module although its layer has modules. -/
  | misplaced {root : String} {layer : Layer} (prevails : p.Prevails path root layer) (modules : layer.modules = true)
      (few : (following root path).length < 2) : Classifies p path (.error ⟨path, root, layer.name⟩)

theorem Formed.root_ne_empty (formed : Formed p) : ∀ layer ∈ p.layers, ∀ root ∈ layer.roots, root ≠ "" :=
  fun layer listed root declared => ((formed.layers layer listed).roots root declared).normal.ne_empty

variable (formed : Formed p) (normal : Path.IsNormal path)

include formed normal

theorem classifies_classify : p.Classifies path (p.classify path) := by
  rw [classify]
  cases found : p.layerRoot? path with
  | none => exact .outside ((layerRoot?_eq_none_iff formed.root_ne_empty).mp found)
  | some entry =>
    obtain ⟨root, layer⟩ := entry
    have prevails := prevails_of_layerRoot? formed.root_ne_empty found
    dsimp only
    cases modules : layer.modules with
    | false => exact .inLayer prevails modules
    | true =>
      rw [if_pos rfl, moduleBelow?_eq normal prevails.covers]
      match below : following root path with
      | [] => exact .misplaced prevails modules (by simp [below])
      | [name] => exact .misplaced prevails modules (by simp [below])
      | name :: next :: inside => exact .inModule prevails modules below (by simp)

theorem Classifies.classify_eq {result : Except Misplaced Classification} (classifies : p.Classifies path result) :
    p.classify path = result := by
  have found {root : String} {layer : Layer} (prevails : p.Prevails path root layer) :
      p.layerRoot? path = some (root, layer) := (layerRoot?_eq_some_iff formed.root_ne_empty).mpr prevails
  cases classifies with
  | outside uncovered => rw [classify, (layerRoot?_eq_none_iff formed.root_ne_empty).mpr uncovered]
  | inLayer prevails whole => simp [classify, found prevails, whole]
  | inModule prevails modules below some? =>
    obtain ⟨next, inside, rfl⟩ := List.exists_cons_of_ne_nil some?
    simp [classify, found prevails, modules, moduleBelow?_eq normal prevails.covers, below]
  | @misplaced root layer prevails modules few =>
    have nowhere : moduleBelow? root path = none := by
      rw [moduleBelow?_eq normal prevails.covers]
      split
      · rename_i below
        rw [below, List.length_cons, List.length_cons] at few
        omega
      · rfl
    simp [classify, found prevails, modules, nowhere]

theorem classify_eq_iff {result : Except Misplaced Classification} :
    p.classify path = result ↔ p.Classifies path result :=
  ⟨fun same => same ▸ classifies_classify formed normal, fun classifies => classifies.classify_eq formed normal⟩

omit normal in
theorem identity_of_prevails (prevails : p.Prevails path root layer) : p.identity path =
    ⟨layer.zone, if layer.modules then moduleBelow? root path else none, p.roleOf path⟩ := by
  rw [identity_of_layerRoot?, (layerRoot?_eq_some_iff formed.root_ne_empty).mpr prevails]

omit normal in
theorem zone_unclassified_iff : (p.identity path).zone = .unclassified ↔ p.Uncovered path := by
  rw [← layerRoot?_eq_none_iff formed.root_ne_empty]
  cases found : p.layerRoot? path with
  | none => simp [identity_of_layerRoot?, found]
  | some entry =>
    rw [identity_of_prevails formed (prevails_of_layerRoot? formed.root_ne_empty found)]
    simp [Layer.zone]

theorem classify_fails_iff (prevails : p.Prevails path root layer) : (∃ misplaced, p.classify path = .error misplaced) ↔
    layer.modules = true ∧ (following root path).length < 2 := by
  simp only [classify_eq_iff formed normal]
  constructor
  · rintro ⟨_, _ | _ | _ | ⟨prevails', modules, few⟩⟩
    obtain ⟨rfl, rfl⟩ := prevails.unique prevails'
    exact ⟨modules, few⟩
  · rintro ⟨modules, few⟩
    exact ⟨_, .misplaced prevails modules few⟩

/-- The module of a path is the directory that the segment after the prevailing root names in it. -/
theorem owner_of_prevails (prevails : p.Prevails path root layer) {m : Module}
    (owned : (p.identity path).owner = some m) : ∃ name, (following root path).head? = some name ∧
      m = ⟨name, root ++ "/" ++ name⟩ := by
  rw [identity_of_prevails formed prevails] at owned
  dsimp only at owned
  split at owned
  · rw [moduleBelow?_eq normal prevails.covers] at owned
    split at owned
    · rename_i below
      rw [below]
      exact ⟨_, rfl, (Option.some.inj owned).symm⟩
    · cases owned
  · cases owned

theorem owner_eq_iff {other root' : String} {layer' : Layer} {m m' : Module} (normal' : Path.IsNormal other)
    (prevails : p.Prevails path root layer) (prevails' : p.Prevails other root' layer')
    (owned : (p.identity path).owner = some m) (owned' : (p.identity other).owner = some m') :
    m = m' ↔ root = root' ∧ (following root path).head? = (following root' other).head? := by
  obtain ⟨name, first, rfl⟩ := owner_of_prevails formed normal prevails owned
  obtain ⟨name', first', rfl⟩ := owner_of_prevails formed normal' prevails' owned'
  rw [first, first', Module.mk.injEq, Option.some.injEq]
  constructor
  · rintro ⟨rfl, directory⟩
    refine ⟨?_, rfl⟩
    simpa using directory
  · rintro ⟨rfl, rfl⟩
    exact ⟨rfl, rfl⟩

end Classifying

/-- A path without dots is classified by the longest root that covers it and by the segments after this root. It belongs
to no layer exactly if no root covers it, it is refused exactly if fewer than two segments follow a root of a layer with
modules, and two paths are in one module exactly if they share the root and the segment after it. What is refused is
taken for a file of the layer without a module. -/
theorem classify_specified {document : Document} (accepted : load document = .ok p) (normal : Path.IsNormal path) :
    (∀ result, p.classify path = result ↔ p.Classifies path result) ∧
    ((p.identity path).zone = .unclassified ↔ p.Uncovered path) ∧
    (∀ root layer, p.Prevails path root layer →
      (p.identity path).zone = layer.zone ∧
      ((∃ misplaced, p.classify path = .error misplaced) ↔
        layer.modules = true ∧ (following root path).length < 2) ∧
      ∀ other root' layer' m m', Path.IsNormal other → p.Prevails other root' layer' →
        (p.identity path).owner = some m → (p.identity other).owner = some m' →
        (m = m' ↔ root = root' ∧ (following root path).head? = (following root' other).head?)) ∧
    (∀ c, p.classify path = .ok c → p.identity path = c) ∧
    ∀ misplaced, p.classify path = .error misplaced →
      ∃ root layer, p.Prevails path root layer ∧ p.identity path = ⟨layer.zone, none, p.roleOf path⟩ := by
  have formed := load_formed accepted
  refine ⟨fun result => classify_eq_iff formed normal, zone_unclassified_iff formed, fun root layer prevails => ?_,
    fun c passed => by rw [identity, passed], fun misplaced failed => ?_⟩
  · refine ⟨by rw [identity_of_prevails formed prevails], classify_fails_iff formed normal prevails, ?_⟩
    intro other root' layer' m m' normal' prevails' owned owned'
    exact owner_eq_iff formed normal normal' prevails prevails' owned owned'
  · cases (classify_eq_iff formed normal).mp failed with
    | @misplaced root layer prevails modules few =>
      refine ⟨root, layer, prevails, ?_⟩
      rw [identity, failed, (layerRoot?_eq_some_iff formed.root_ne_empty).mpr prevails]

/-- Two layers declare one root, which lies below the root of a third layer. -/
def nestedRoots : Document where
  layers := [{ name := "base", roots := ["src"] }, { name := "features", roots := ["src/features"], modules := true },
    { name := "late", roots := ["src/features"] }]
  aliases := []
  roleRules := some []

def nestedRootsPolicy : Policy where
  discovery := twoLayersPolicy.discovery
  layers := [⟨"base", 0, ["src"], false, true⟩, ⟨"features", 1, ["src/features"], true, true⟩,
    ⟨"late", 2, ["src/features"], false, true⟩]
  aliases := []
  stems := twoLayersPolicy.stems
  modules := twoLayersPolicy.modules
  roleRules := []
  forbidden := []
  rules := []

theorem load_nestedRoots : load nestedRoots = .ok nestedRootsPolicy := by
  have others := load_eq_ok.mp load_twoLayers
  exact load_eq_ok.mpr ⟨others.discovery, by decide +kernel, others.aliases, others.stems, others.modules, rfl, rfl,
    others.rules⟩

theorem classify_specified_nestedRoots : load nestedRoots = .ok nestedRootsPolicy ∧
    Path.IsNormal "src/features/cart/ui.ts" ∧
    nestedRootsPolicy.Prevails "src/features/cart/ui.ts" "src/features" ⟨"features", 1, ["src/features"], true, true⟩ ∧
    nestedRootsPolicy.classify "src/features/cart/ui.ts" =
      .ok ⟨.layer "features" 1, some ⟨"cart", "src/features/cart"⟩, .ui⟩ := by
  have normal : Path.IsNormal "src/features/cart/ui.ts" := by
    unfold Path.IsNormal
    decide +kernel
  have prevails : nestedRootsPolicy.Prevails "src/features/cart/ui.ts" "src/features"
      ⟨"features", 1, ["src/features"], true, true⟩ := ⟨by decide +kernel, by decide +kernel, by decide +kernel⟩
  refine ⟨load_nestedRoots, normal, prevails, ?_⟩
  have role : nestedRootsPolicy.roleOf "src/features/cart/ui.ts" = .ui := by decide +kernel
  have specified := (classify_specified load_nestedRoots normal).1
  rw [specified, ← role]
  exact .inModule prevails rfl (show _ = ["cart", "ui.ts"] by decide +kernel) (by simp)

end Policy

end Layering
