import Layering.Proofs.Identity
import Layering.Proofs.Policy.Invariants
import Layering.Proofs.Stability

/-! Other names for layers, and layers more. A document whose layers are called otherwise, or that has one layer more,
loads to a policy with the same rules about the same layers, in the same order. -/
namespace Layering

/-- A layer under another name. -/
def Layer.renamed (rename : String → String) (layer : Layer) : Layer := { layer with name := rename layer.name }

/-- A layer with one more layer before it, unless its rank is below the given one. -/
def Layer.raised (rank : Nat) (layer : Layer) : Layer :=
  { layer with rank := if layer.rank < rank then layer.rank else layer.rank + 1 }

/-- A role rule that denies layers under other names. -/
def RoleRule.renamed (rename : String → String) (rule : RoleRule) : RoleRule :=
  { rule with denyLayers := rule.denyLayers.map rename }

namespace Policy

def LayerEntry.renamed (rename : String → String) (entry : LayerEntry) : LayerEntry :=
  { entry with name := rename (Text.trim entry.name) }

def RoleRuleEntry.renamed (rename : String → String) (entry : RoleRuleEntry) : RoleRuleEntry :=
  { entry with denyLayers := entry.denyLayers.map rename }

/-- A document in which layers have other names, wherever they are named. -/
def Document.renamed (rename : String → String) (document : Document) : Document :=
  { document with
    layers := document.layers.map (.renamed rename)
    roleRules := document.roleRules.map (List.map (.renamed rename)) }

section Checks

variable {α β γ : Type}

/-- A check of all items that does not look at their indices. -/
theorem checkEach_eq_ok {check : Nat → α → Except Error β} (passes : α → β → Prop)
    (uniform : ∀ index a b, check index a = .ok b ↔ passes a b) {items : List α} {results : List β} :
    checkEach check items = .ok results ↔ List.Forall₂ passes items results := by
  rw [checkEach, mapM_eq_ok, ← List.zipIdx_map_fst 0 items, List.forall₂_map_left_iff, List.zipIdx_map_fst]
  simp only [uniform]

/-- Steps that follow those of another run take what they start from to what that run ends with. -/
theorem foldlM_map_eq_ok {ε : Type} {step : β → α → Except ε β} {step' : γ → δ → Except ε γ} (state : β → γ)
    (item : α → δ) (follows : ∀ s a next, step s a = .ok next → step' (state s) (item a) = .ok (state next))
    {items : List α} {s last : β} (passed : items.foldlM step s = .ok last) :
    (items.map item).foldlM step' (state s) = .ok (state last) := by
  induction items generalizing s with
  | nil =>
    cases passed
    rfl
  | cons a items ih =>
    simp only [List.foldlM_cons, bind_eq_ok] at passed
    obtain ⟨next, first, later⟩ := passed
    rw [List.map_cons, List.foldlM_cons, bind_eq_ok]
    exact ⟨state next, follows s a next first, ih later⟩

/-- Items that pass under a condition, each changed in one way. -/
theorem forall₂_map_and {change : α → β} {holds : α → Prop} {as : List α} {bs : List β} :
    List.Forall₂ (fun a b => b = change a ∧ holds a) as bs ↔ bs = as.map change ∧ ∀ a ∈ as, holds a := by
  induction as generalizing bs with
  | nil => simp
  | cons a as ih =>
    simp only [List.forall₂_cons_left_iff, ih, List.forall_mem_cons, List.map_cons]
    constructor
    · rintro ⟨_, _, ⟨rfl, first⟩, ⟨rfl, later⟩, rfl⟩
      exact ⟨rfl, first, later⟩
    · rintro ⟨rfl, first, later⟩
      exact ⟨change a, as.map change, ⟨rfl, first⟩, ⟨rfl, later⟩, rfl⟩

theorem exists_of_mem_right {R : α → β → Prop} {as : List α} {bs : List β} (each : List.Forall₂ R as bs) {b : β}
    (listed : b ∈ bs) : ∃ a ∈ as, R a b := by
  induction each with
  | nil => cases listed
  | @cons a b' as bs here _ ih =>
    rcases List.mem_cons.mp listed with rfl | later
    · exact ⟨a, List.mem_cons_self, here⟩
    · obtain ⟨a', member, there⟩ := ih later
      exact ⟨a', List.mem_cons_of_mem a member, there⟩

end Checks

section Layers

/-- The layer that is made of an entry, whatever its place in the order. -/
structure Makes (entry : LayerEntry) (layer : Layer) : Prop where
  named : Text.trim entry.name ≠ ""
  rooted : entry.roots ≠ []
  name : layer.name = Text.trim entry.name
  roots : List.Forall₂ (fun value root => normalizeRelative false value = .ok root) entry.roots layer.roots
  modules : layer.modules = entry.modules
  allowSideways : layer.allowSideways = entry.allowSideways

theorem checkLayer_eq_ok_iff {layers : List Layer} {entry : LayerEntry} {layer : Layer} :
    checkLayer layers entry = .ok layer ↔
      Makes entry layer ∧ layer.rank = layers.length ∧ ∀ other ∈ layers, other.name ≠ layer.name := by
  have each (roots : List String) :
      checkEach (fun index => relativeAt (.layerRoot layers.length index) false) entry.roots = .ok roots ↔
        List.Forall₂ (fun value root => normalizeRelative false value = .ok root) entry.roots roots := by
    refine checkEach_eq_ok _ fun index value root => ?_
    exact relativeAt_eq_ok
  rw [checkLayer_eq_ok]
  constructor
  · rintro ⟨named, fresh, rooted, roots, checked, rfl⟩
    exact ⟨⟨named, rooted, rfl, (each roots).mp checked, rfl, rfl⟩, rfl, fresh⟩
  · obtain ⟨name, rank, roots, modules, allowSideways⟩ := layer
    rintro ⟨⟨named, rooted, rfl, normal, rfl, rfl⟩, rfl, fresh⟩
    exact ⟨named, fresh, rooted, roots, (each roots).mpr normal, rfl⟩

theorem Ordered.start {before after : List Layer} (ordered : Ordered (before ++ after)) : Ordered before := by
  obtain ⟨ranks, names⟩ := ordered
  rw [List.map_append] at ranks names
  refine ⟨?_, (List.nodup_append.mp names).1⟩
  have taken := congrArg (List.take before.length) ranks
  rw [List.take_left' (by simp), List.take_range] at taken
  simpa using taken

/-- The layer that comes next has the number of those before it as its rank, and a new name. -/
theorem Ordered.next {before : List Layer} {layer : Layer} (ordered : Ordered (before ++ [layer])) :
    layer.rank = before.length ∧ ∀ other ∈ before, other.name ≠ layer.name := by
  obtain ⟨ranks, names⟩ := ordered
  constructor
  · have last := congrArg List.getLast? ranks
    simpa [List.range_succ] using last
  · intro other listed
    rw [List.map_append, List.nodup_append] at names
    exact names.2.2 other.name (List.mem_map_of_mem listed) layer.name (by simp)

/-- The layers that entries are loaded as. -/
theorem foldlM_checkLayer_eq_ok {entries : List LayerEntry} {before layers : List Layer} (start : Ordered before) :
    entries.foldlM (fun layers entry => return layers ++ [← checkLayer layers entry]) before = .ok layers ↔
      ∃ added, layers = before ++ added ∧ List.Forall₂ Makes entries added ∧ Ordered layers := by
  induction entries generalizing before with
  | nil =>
    simp only [List.foldlM_nil, pure_eq_ok, List.forall₂_nil_left_iff]
    exact ⟨fun same => ⟨[], by simp [same], rfl, same ▸ start⟩, by rintro ⟨_, rfl, rfl, -⟩; simp⟩
  | cons entry entries ih =>
    simp only [List.foldlM_cons, bind_eq_ok, pure_eq_ok]
    constructor
    · rintro ⟨next, ⟨layer, accepted, rfl⟩, later⟩
      obtain ⟨makes, rank, fresh⟩ := checkLayer_eq_ok_iff.mp accepted
      obtain ⟨added, rfl, each, ordered⟩ := (ih (start.append rank fresh)).mp later
      exact ⟨layer :: added, by simp, .cons makes each, ordered⟩
    · rintro ⟨_, rfl, each, ordered⟩
      obtain ⟨layer, added, makes, later, rfl⟩ := List.forall₂_cons_left_iff.mp each
      have whole : before ++ layer :: added = before ++ [layer] ++ added := by simp
      have start' : Ordered (before ++ [layer]) := (whole ▸ ordered).start
      obtain ⟨rank, fresh⟩ := start'.next
      exact ⟨before ++ [layer], ⟨layer, checkLayer_eq_ok_iff.mpr ⟨makes, rank, fresh⟩, rfl⟩,
        (ih start').mpr ⟨added, whole, later, ordered⟩⟩

theorem checkLayers_eq_ok {entries : List LayerEntry} {layers : List Layer} :
    checkLayers entries = .ok layers ↔ entries ≠ [] ∧ List.Forall₂ Makes entries layers ∧ Ordered layers := by
  simp only [checkLayers, refuse_eq_ok, List.isEmpty_iff, foldlM_checkLayer_eq_ok Ordered.nil, List.nil_append,
    exists_eq_left', ne_eq]

end Layers

section RoleRules

variable {layers layers' : List Layer} {rename : String → String}

theorem checkDenyLayers_eq_ok {rule : String} {names denied : List String} :
    checkEach (checkDenyLayer layers rule) names = .ok denied ↔
      denied = names ∧ ∀ name ∈ names, ∃ layer ∈ layers, layer.name = name := by
  rw [checkEach_eq_ok (fun name declared => declared = id name ∧ ∃ layer ∈ layers, layer.name = name), forall₂_map_and,
    List.map_id]
  intro index name declared
  by_cases known : ∃ layer ∈ layers, layer.name = name
  · simp [checkDenyLayer, known, eq_comm (a := name)]
  · simp [checkDenyLayer, known]

theorem checkRoleRule_renamed (declared : ∀ layer ∈ layers, ∃ layer' ∈ layers', layer'.name = rename layer.name)
    {index : Nat} {entry : RoleRuleEntry} {rule : RoleRule} (passed : checkRoleRule layers index entry = .ok rule) :
    checkRoleRule layers' index (entry.renamed rename) = .ok (rule.renamed rename) := by
  simp only [checkRoleRule, refuse_eq_ok, bind_eq_ok, pure_eq_ok, checkDenyLayers_eq_ok] at passed ⊢
  obtain ⟨named, role, hasRole, literals, read, expressions, parsed, denied, ⟨rfl, known⟩, some?, rfl⟩ := passed
  refine ⟨named, role, hasRole, literals, read, expressions, parsed, _, ⟨rfl, ?_⟩, ?_, rfl⟩
  · refine List.forall_mem_map.mpr fun name listed => ?_
    obtain ⟨layer, member, rfl⟩ := known name listed
    exact declared layer member
  · simpa [RoleRuleEntry.renamed] using some?

theorem foldlM_addRoleRule_renamed
    (declared : ∀ layer ∈ layers, ∃ layer' ∈ layers', layer'.name = rename layer.name) {entries : List RoleRuleEntry}
    {rules : List RoleRule} (passed : entries.foldlM (addRoleRule layers) [] = .ok rules) :
    (entries.map (.renamed rename)).foldlM (addRoleRule layers') [] = .ok (rules.map (.renamed rename)) := by
  refine foldlM_map_eq_ok (List.map (RoleRule.renamed rename)) _ (fun rules entry next passed => ?_) passed
  simp only [addRoleRule, refuse_eq_ok, bind_eq_ok, pure_eq_ok] at passed ⊢
  obtain ⟨rule, accepted, fresh, rfl⟩ := passed
  refine ⟨rule.renamed rename, ?_, ?_, by simp⟩
  · simpa using checkRoleRule_renamed declared accepted
  · rw [List.any_map]
    exact fresh

end RoleRules

section Relabelling

variable {document : Document} {p : Policy} {entries : List RoleRuleEntry}

/-- Layers under other names and ranks, with further layers at one place of the order. What the policy says about the
layers stays the same. -/
structure Relabels (rename : String → String) (change : Layer → Layer) (extra : List Layer) (p p' : Policy) : Prop where
  name : ∀ layer, (change layer).name = rename layer.name
  roots : ∀ layer, (change layer).roots = layer.roots
  modules : ∀ layer, (change layer).modules = layer.modules
  allowSideways : ∀ layer, (change layer).allowSideways = layer.allowSideways
  injective : ∀ a ∈ p.layers, ∀ b ∈ p.layers, rename a.name = rename b.name → a.name = b.name
  order : ∀ a b, (change a).rank < (change b).rank ↔ a.rank < b.rank
  layers : ∃ before after, p.layers = before ++ after ∧ p'.layers = before.map change ++ extra ++ after.map change
  roleRules : p'.roleRules = p.roleRules.map (.renamed rename)
  discovery : p'.discovery = p.discovery
  aliases : p'.aliases = p.aliases
  stems : p'.stems = p.stems
  moduleSettings : p'.modules = p.modules
  forbidden : p'.forbidden = p.forbidden
  rules : p'.rules = p.rules

/-- Names that layers may be given: those of different layers differ. -/
structure Renames (rename : String → String) (layers : List Layer) : Prop where
  named : ∀ layer ∈ layers, rename layer.name ≠ ""
  trimmed : ∀ layer ∈ layers, Text.trim (rename layer.name) = rename layer.name
  injective : ∀ a ∈ layers, ∀ b ∈ layers, rename a.name = rename b.name → a.name = b.name

theorem Makes.renamed {rename : String → String} {entry : LayerEntry} {layer : Layer} (makes : Makes entry layer)
    (named : rename layer.name ≠ "") (trimmed : Text.trim (rename layer.name) = rename layer.name) :
    Makes (entry.renamed rename) (layer.renamed rename) where
  named := by
    rw [LayerEntry.renamed, ← makes.name, trimmed]
    exact named
  rooted := makes.rooted
  name := by rw [LayerEntry.renamed, ← makes.name, trimmed, Layer.renamed]
  roots := makes.roots
  modules := makes.modules
  allowSideways := makes.allowSideways

theorem Ordered.renamed {rename : String → String} {layers : List Layer} (ordered : Ordered layers)
    (injective : ∀ a ∈ layers, ∀ b ∈ layers, rename a.name = rename b.name → a.name = b.name) :
    Ordered (layers.map (.renamed rename)) where
  ranks := by
    rw [List.map_map, List.length_map, ← ordered.ranks]
    rfl
  names := by
    have apart : ((layers.map (·.name)).map rename).Nodup := by
      refine ordered.names.map_on fun first listed second listed' => ?_
      obtain ⟨a, member, rfl⟩ := List.mem_map.mp listed
      obtain ⟨b, member', rfl⟩ := List.mem_map.mp listed'
      exact injective a member b member'
    rw [List.map_map] at apart ⊢
    exact apart

theorem checkLayers_renamed {entries : List LayerEntry} {layers : List Layer} {rename : String → String}
    (passed : checkLayers entries = .ok layers) (renames : Renames rename layers) :
    checkLayers (entries.map (.renamed rename)) = .ok (layers.map (.renamed rename)) := by
  obtain ⟨some?, makes, ordered⟩ := checkLayers_eq_ok.mp passed
  refine checkLayers_eq_ok.mpr ⟨by simpa using some?, ?_, ordered.renamed renames.injective⟩
  rw [List.forall₂_map_left_iff, List.forall₂_map_right_iff]
  refine List.forall₂_iff_zip.mpr ⟨makes.length_eq, fun {_ layer} paired => ?_⟩
  have listed : layer ∈ layers := (List.of_mem_zip paired).2
  exact (List.forall₂_zip makes paired).renamed (renames.named layer listed) (renames.trimmed layer listed)

/-- Under other names for its layers, a document loads to the policy with other names for them. -/
theorem load_renamed (accepted : load document = .ok p) (explicit : document.roleRules = some entries)
    {rename : String → String} (renames : Renames rename p.layers) :
    ∃ p', load (document.renamed rename) = .ok p' ∧ Relabels rename (.renamed rename) [] p p' := by
  have loads := load_eq_ok.mp accepted
  have layers := checkLayers_renamed loads.layers renames
  have roleRules : ((document.roleRules.map (List.map (RoleRuleEntry.renamed rename))).getD
      (builtinRoleRules (p.layers.map (.renamed rename)))).foldlM
      (addRoleRule (p.layers.map (.renamed rename))) [] = .ok (p.roleRules.map (.renamed rename)) := by
    have given := loads.roleRules
    rw [explicit] at given ⊢
    refine foldlM_addRoleRule_renamed (fun layer listed => ?_) given
    exact ⟨layer.renamed rename, List.mem_map_of_mem listed, rfl⟩
  refine ⟨{ p with layers := p.layers.map (.renamed rename), roleRules := p.roleRules.map (.renamed rename) },
    load_eq_ok.mpr { loads with layers, roleRules }, ?_⟩
  exact {
    name := fun _ => rfl, roots := fun _ => rfl, modules := fun _ => rfl, allowSideways := fun _ => rfl
    injective := renames.injective, order := fun _ _ => Iff.rfl, layers := ⟨p.layers, [], by simp, by simp⟩
    roleRules := rfl, discovery := rfl, aliases := rfl, stems := rfl, moduleSettings := rfl, forbidden := rfl
    rules := rfl }

/-- An entry that can be put among those of other layers. -/
structure Insertable (entry : LayerEntry) (entries : List LayerEntry) : Prop where
  named : Text.trim entry.name ≠ ""
  fresh : ∀ other ∈ entries, Text.trim other.name ≠ Text.trim entry.name
  rooted : entry.roots ≠ []
  roots : ∀ value ∈ entry.roots, ∃ root, normalizeRelative false value = .ok root

/-- A number is put among the first ones by raising those from it on. -/
theorem range_inserted (lower upper : Nat) :
    (List.range lower).map (fun rank => if rank < lower then rank else rank + 1) ++ [lower] ++
        ((List.range upper).map (lower + ·)).map (fun rank => if rank < lower then rank else rank + 1) =
      List.range (lower + 1 + upper) := by
  have below : (List.range lower).map (fun rank => if rank < lower then rank else rank + 1) = List.range lower := by
    refine (List.map_congr_left fun rank listed => ?_).trans (List.map_id _)
    rw [if_pos (List.mem_range.mp listed), id]
  have above : ((List.range upper).map (lower + ·)).map (fun rank => if rank < lower then rank else rank + 1) =
      (List.range upper).map (lower + 1 + ·) := by
    rw [List.map_map]
    refine List.map_congr_left fun rank _ => ?_
    rw [Function.comp, if_neg (by omega)]
    omega
  rw [below, above, ← List.range_succ, ← List.range_add]

theorem Ordered.inserted {before after : List Layer} {layer : Layer} (ordered : Ordered (before ++ after))
    (rank : layer.rank = before.length) (fresh : ∀ other ∈ before ++ after, other.name ≠ layer.name) :
    Ordered (before.map (.raised before.length) ++ [layer] ++ after.map (.raised before.length)) := by
  obtain ⟨ranks, names⟩ := ordered
  constructor
  · have raised (layers : List Layer) : (layers.map (Layer.raised before.length)).map (·.rank) =
        (layers.map (·.rank)).map fun rank => if rank < before.length then rank else rank + 1 := by
      rw [List.map_map, List.map_map]
      rfl
    have length : (before.map (Layer.raised before.length) ++ [layer] ++
        after.map (Layer.raised before.length)).length = before.length + 1 + after.length := by
      simp only [List.length_append, List.length_map, List.length_singleton]
    rw [List.map_append, List.length_append, List.range_add] at ranks
    obtain ⟨lower, upper⟩ := List.append_inj ranks (by simp)
    rw [length, List.map_append, List.map_append, raised, raised, lower, upper, List.map_singleton, rank]
    exact range_inserted before.length after.length
  · have name (layers : List Layer) :
        (layers.map (Layer.raised before.length)).map (·.name) = layers.map (·.name) := by
      rw [List.map_map]
      rfl
    rw [List.map_append, List.map_append, name, name, List.append_assoc, List.map_singleton, List.singleton_append,
      List.nodup_middle, ← List.map_append, List.nodup_cons]
    refine ⟨fun listed => ?_, names⟩
    obtain ⟨other, member, same⟩ := List.mem_map.mp listed
    exact fresh other member same

theorem Makes.raised {entry : LayerEntry} {layer : Layer} (makes : Makes entry layer) (rank : Nat) :
    Makes entry (layer.raised rank) :=
  ⟨makes.named, makes.rooted, makes.name, makes.roots, makes.modules, makes.allowSideways⟩

/-- A layer more is loaded between those of the entries before and after it. -/
theorem checkLayers_inserted {before after : List LayerEntry} {layers : List Layer} {entry : LayerEntry}
    (passed : checkLayers (before ++ after) = .ok layers) (insertable : Insertable entry (before ++ after)) :
    ∃ lower upper layer, layers = lower ++ upper ∧
      List.Forall₂ (fun value root => normalizeRelative false value = .ok root) entry.roots layer.roots ∧
      checkLayers (before ++ entry :: after) =
        .ok (lower.map (.raised lower.length) ++ [layer] ++ upper.map (.raised lower.length)) := by
  obtain ⟨some?, makes, ordered⟩ := checkLayers_eq_ok.mp passed
  obtain ⟨roots, normalized⟩ := exists_mapM_eq_ok.mpr insertable.roots
  have each := mapM_eq_ok.mp normalized
  have lower := List.forall₂_take before.length makes
  have upper := List.forall₂_drop before.length makes
  rw [List.take_left] at lower
  rw [List.drop_left] at upper
  have split := (List.take_append_drop before.length layers).symm
  generalize layers.take before.length = front at split lower
  generalize layers.drop before.length = back at split upper
  subst split
  refine ⟨front, back, ⟨Text.trim entry.name, front.length, roots, entry.modules, entry.allowSideways⟩, rfl, each,
    checkLayers_eq_ok.mpr ⟨by simp, ?_, ordered.inserted rfl fun other listed => ?_⟩⟩
  · have raised {entries : List LayerEntry} {layers : List Layer} (makes : List.Forall₂ Makes entries layers) :
        List.Forall₂ Makes entries (layers.map (.raised front.length)) :=
      List.forall₂_map_right_iff.mpr (makes.imp fun _ _ made => made.raised front.length)
    have made : Makes entry ⟨Text.trim entry.name, front.length, roots, entry.modules, entry.allowSideways⟩ :=
      ⟨insertable.named, insertable.rooted, rfl, each, rfl, rfl⟩
    rw [List.append_assoc, List.singleton_append]
    exact List.rel_append (raised lower) (.cons made (raised upper))
  · obtain ⟨entry', member, made⟩ := exists_of_mem_right makes listed
    rw [made.name]
    exact insertable.fresh entry' member

theorem raised_rank_lt (rank : Nat) (a b : Layer) : (a.raised rank).rank < (b.raised rank).rank ↔ a.rank < b.rank := by
  simp only [Layer.raised]
  split <;> split <;> omega

/-- With a layer more, a document loads to the policy with a layer more. -/
theorem load_inserted (accepted : load document = .ok p) (explicit : document.roleRules = some entries)
    {before after : List LayerEntry} (split : document.layers = before ++ after) {entry : LayerEntry}
    (insertable : Insertable entry document.layers) :
    ∃ rank layer p', load { document with layers := before ++ entry :: after } = .ok p' ∧
      List.Forall₂ (fun value root => normalizeRelative false value = .ok root) entry.roots layer.roots ∧
      Relabels id (.raised rank) [layer] p p' := by
  have loads := load_eq_ok.mp accepted
  have given := loads.layers
  rw [split] at given insertable
  obtain ⟨lower, upper, layer, whole, roots, layers⟩ := checkLayers_inserted given insertable
  have same : RoleRule.renamed id = id := by
    funext rule
    simp [RoleRule.renamed]
  have same' : RoleRuleEntry.renamed id = id := by
    funext entry
    simp [RoleRuleEntry.renamed]
  let layers' := lower.map (Layer.raised lower.length) ++ [layer] ++ upper.map (Layer.raised lower.length)
  have roleRules : (document.roleRules.getD (builtinRoleRules layers')).foldlM (addRoleRule layers') [] =
      .ok p.roleRules := by
    have given := loads.roleRules
    rw [explicit, Option.getD_some] at given ⊢
    have declared : ∀ layer ∈ p.layers, ∃ layer' ∈ layers', layer'.name = id layer.name := fun other listed => by
      refine ⟨other.raised lower.length, ?_, rfl⟩
      rw [whole, List.mem_append] at listed
      simp only [layers', List.mem_append]
      exact listed.imp (fun first => .inl (List.mem_map_of_mem first)) List.mem_map_of_mem
    have added := foldlM_addRoleRule_renamed declared given
    rwa [same, same', List.map_id, List.map_id] at added
  refine ⟨lower.length, layer, { p with layers := layers' }, load_eq_ok.mpr { loads with layers, roleRules }, roots, ?_⟩
  exact {
    name := fun _ => rfl, roots := fun _ => rfl, modules := fun _ => rfl, allowSideways := fun _ => rfl
    injective := fun _ _ _ _ => id, order := raised_rank_lt lower.length, layers := ⟨lower, upper, whole, rfl⟩
    roleRules := by rw [same, List.map_id]
    discovery := rfl, aliases := rfl, stems := rfl, moduleSettings := rfl, forbidden := rfl, rules := rfl }

end Relabelling

section Roots

/-- The roots of layers, each with its layer. -/
def rootsOf (layers : List Layer) : List (String × Layer) :=
  layers.flatMap fun layer => layer.roots.map fun root => (root, layer)

/-- Longer roots first. -/
def rootOrder (a b : String × Layer) : Ordering := compare b.1.utf8ByteSize a.1.utf8ByteSize

instance : Std.TransCmp rootOrder := @Std.TransCmp.opposite _ (compareOn fun a : String × Layer => a.1.utf8ByteSize) _

theorem layerRoots_eq (p : Policy) : p.layerRoots = sortBy rootOrder (rootsOf p.layers) := by
  have same (a b : String × Layer) : decide (b.1.utf8ByteSize ≤ a.1.utf8ByteSize) = (rootOrder a b).isLE := by
    rw [Bool.eq_iff_iff, decide_eq_true_iff, rootOrder, Nat.isLE_compare]
  simp only [layerRoots, sortBy, rootsOf, same]

/-- Only the roots that a path lies under matter for its layer. -/
theorem layerRoot?_eq (p : Policy) (path : String) : p.layerRoot? path =
    (sortBy rootOrder ((rootsOf p.layers).filter fun entry => Text.isUnder path entry.1)).head? := by
  rw [layerRoot?, ← List.head?_filter, layerRoots_eq, filter_sortBy]

variable {rename : String → String} {change : Layer → Layer} {extra : List Layer} {p p' : Policy}

theorem Relabels.rootsOf_map (relabels : Relabels rename change extra p p') (layers : List Layer) :
    rootsOf (layers.map change) = (rootsOf layers).map (Prod.map id change) := by
  simp only [rootsOf, List.flatMap_map, List.map_flatMap, List.map_map, relabels.roots]
  rfl

/-- The layers that a path is told to be in are the same layers. -/
theorem Relabels.layerRoot? (relabels : Relabels rename change extra p p') {path : String}
    (apart : Outside extra path) : p'.layerRoot? path = (p.layerRoot? path).map (Prod.map id change) := by
  obtain ⟨before, after, whole, whole'⟩ := relabels.layers
  have none : (rootsOf extra).filter (fun entry => Text.isUnder path entry.1) = [] := by
    refine List.filter_eq_nil_iff.mpr fun entry listed => ?_
    obtain ⟨layer, member, inside⟩ := List.mem_flatMap.mp listed
    obtain ⟨root, given, rfl⟩ := List.mem_map.mp inside
    simp [apart layer member root given]
  have append (front back : List Layer) : rootsOf (front ++ back) = rootsOf front ++ rootsOf back :=
    List.flatMap_append
  have same : (rootsOf p'.layers).filter (fun entry => Text.isUnder path entry.1) =
      ((rootsOf p.layers).filter fun entry => Text.isUnder path entry.1).map (Prod.map id change) := by
    rw [whole, whole', append, append, append, relabels.rootsOf_map, relabels.rootsOf_map, List.filter_append,
      List.filter_append, none, List.append_nil, ← List.filter_append, ← List.map_append, List.filter_map]
    rfl
  have order (entries : List (String × Layer)) : sortBy rootOrder (entries.map (Prod.map id change)) =
      (sortBy rootOrder entries).map (Prod.map id change) := by
    refine (List.map_mergeSort fun a _ b _ => ?_).symm
    rfl
  rw [layerRoot?_eq, layerRoot?_eq, same, order, List.head?_map]

end Roots

end Policy

end Layering
