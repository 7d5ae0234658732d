import Layering.Proofs.Policy.Layers
import Layering.Proofs.Policy.Paths
import Layering.Proofs.Policy.Switches
import Mathlib.Data.List.DropRight

/-! What holds of every policy that passes its checks, section by section. Classification, resolution and the rules
take all of it for granted. -/
namespace Layering

namespace Text

/-- What is left of a text without its blanks has none at its start: it starts as the text does, or is empty. -/
theorem trimStart_trimEnd_trimStart (cs : List Char) : trimStart (trimEnd (trimStart cs)) = trimEnd (trimStart cs) := by
  have front : trimEnd (trimStart cs) <+: trimStart cs := List.rdropWhile_prefix isBlank _
  cases left : trimEnd (trimStart cs) with
  | nil => rfl
  | cons c rest =>
    obtain ⟨blanks, whole⟩ := left ▸ front
    have first : (cs.dropWhile isBlank).head? = some c := by
      rw [← trimStart, ← whole]
      rfl
    exact List.dropWhile_cons_of_neg (by simp [not_of_head?_dropWhile first])

@[simp] theorem trim_trim (text : String) : trim (trim text) = trim text := by
  have still (cs : List Char) : trimEnd (trimEnd cs) = trimEnd cs := List.rdropWhile_idempotent isBlank cs
  simp only [trim, String.toList_ofList, trimStart_trimEnd_trimStart, still]

end Text

namespace Policy

/-- A layer of an accepted policy. -/
structure LayerFormed (layer : Layer) : Prop where
  named : layer.name ≠ ""
  trimmed : Text.trim layer.name = layer.name
  rooted : layer.roots ≠ []
  roots : ∀ root ∈ layer.roots, LeadsDown root

/-- How an accepted policy has source files found. -/
structure DiscoveryFormed (d : Discovery) : Prop where
  root : d.root = "" ∨ LeadsDown d.root
  some? : d.extensions ≠ []
  distinct : d.extensions.Nodup
  extensions : ∀ extension ∈ d.extensions, extension ≠ "" ∧ extension.toList.head? ≠ some '.'

/-- An alias of an accepted policy. -/
structure AliasFormed (a : Alias) : Prop where
  named : a.key ≠ ""
  open? : a.key.toList.getLast? ≠ some '/'
  target : a.target = "" ∨ LeadsDown a.target

/-- A role rule of an accepted policy with the given layers. -/
structure RoleRuleFormed (layers : List Layer) (rule : RoleRule) : Prop where
  named : rule.name ≠ ""
  declared : ∀ name ∈ rule.denyLayers, ∃ layer ∈ layers, layer.name = name
  checks : rule.text ≠ [] ∨ rule.denyImports ≠ [] ∨ rule.denyLayers ≠ []

/-- A policy as all that works with it takes it to be. -/
structure Formed (p : Policy) : Prop where
  layered : p.layers ≠ []
  ordered : Ordered p.layers
  layers : ∀ layer ∈ p.layers, LayerFormed layer
  discovery : DiscoveryFormed p.discovery
  aliases : ∀ a ∈ p.aliases, AliasFormed a
  keys : (p.aliases.map (·.key)).Nodup
  /-- Lengths count bytes. -/
  longestFirst : p.aliases.Pairwise fun a b => b.key.utf8ByteSize ≤ a.key.utf8ByteSize
  forbidden : ∀ glob ∈ p.forbidden, LeadsDown glob.text
  required : p.modules.required.Nodup
  roleNames : (p.roleRules.map (·.name)).Nodup
  roleRules : ∀ rule ∈ p.roleRules, RoleRuleFormed p.layers rule
  switches : ∀ entry ∈ p.rules, entry.1.name ∈
    ["layer-direction", "cross-module-import", "required-files", "role-content", "forbidden-path"]

section Lists

variable {α β : Type}

/-- What a check of all items gives, it gives for one of them. -/
theorem exists_of_mem_checkEach {check : Nat → α → Except Error β} {items : List α} {results : List β}
    (passed : checkEach check items = .ok results) {b : β} (given : b ∈ results) :
    ∃ index a, check index a = .ok b := by
  obtain ⟨⟨a, index⟩, -, accepted⟩ := (mem_of_mapM_eq_ok passed).mp given
  exact ⟨index, a, accepted⟩

theorem checkEach_ne_nil {check : Nat → α → Except Error β} {items : List α} {results : List β}
    (passed : checkEach check items = .ok results) (some? : items ≠ []) : results ≠ [] := by
  have length := (mapM_eq_ok.mp passed).length_eq
  rintro rfl
  exact some? (List.length_eq_zero_iff.mp (by simpa using length))

variable [BEq α] [LawfulBEq α]

theorem distinct_append_singleton (items : List α) (a : α) :
    distinct (items ++ [a]) = if a ∈ distinct items then distinct items else distinct items ++ [a] := by
  simp [distinct]

@[simp] theorem mem_distinct {items : List α} {a : α} : a ∈ distinct items ↔ a ∈ items := by
  induction items using List.reverseRecOn with
  | nil => exact Iff.rfl
  | append_singleton items b ih =>
    rw [distinct_append_singleton, List.mem_append, List.mem_singleton]
    split
    · rename_i known
      refine ⟨fun kept => .inl (ih.mp kept), fun given => given.elim ih.mpr fun same => same ▸ known⟩
    · rw [List.mem_append, List.mem_singleton, ih]

theorem nodup_distinct (items : List α) : (distinct items).Nodup := by
  induction items using List.reverseRecOn with
  | nil => exact List.nodup_nil
  | append_singleton items b ih =>
    rw [distinct_append_singleton]
    split
    · exact ih
    · rename_i fresh
      exact List.nodup_append.mpr ⟨ih, List.nodup_singleton b, fun a kept c last => by
        rw [List.mem_singleton.mp last]
        rintro rfl
        exact fresh kept⟩

end Lists

theorem of_checkExtension {index : Nat} {value extension : String}
    (passed : checkExtension index value = .ok extension) :
    extension ≠ "" ∧ extension.toList.head? ≠ some '.' := by
  simp only [checkExtension] at passed
  split at passed
  · cases passed
  · rename_i some?
    obtain rfl := Except.ok.inj passed
    refine ⟨by simpa using some?, fun dot => ?_⟩
    rw [String.toList_ofList] at dot
    simpa using Text.not_of_head?_dropWhile dot

theorem of_checkAnalyzer {entry : AnalyzerEntry} {d : Discovery} (passed : checkAnalyzer entry = .ok d) :
    DiscoveryFormed d := by
  simp only [checkAnalyzer, bind_eq_ok, refuse_eq_ok, pure_eq_ok, relativeAt_eq_ok, List.isEmpty_iff] at passed
  obtain ⟨root, normalized, extensions, checked, some?, -, -, rfl⟩ := passed
  refine ⟨(leadsDown_of_normalizeRelative normalized).imp_left And.left, ?_, nodup_distinct _,
    fun extension listed => ?_⟩
  · obtain ⟨extension, listed⟩ := List.exists_mem_of_ne_nil _ some?
    exact List.ne_nil_of_mem (mem_distinct.mpr listed)
  · obtain ⟨_, _, accepted⟩ := exists_of_mem_checkEach checked (mem_distinct.mp listed)
    exact of_checkExtension accepted

theorem of_checkLayer {layers : List Layer} {entry : LayerEntry} {layer : Layer}
    (passed : checkLayer layers entry = .ok layer) : LayerFormed layer := by
  obtain ⟨named, -, some?, roots, checked, rfl⟩ := checkLayer_eq_ok.mp passed
  refine ⟨named, Text.trim_trim _, checkEach_ne_nil checked some?, fun root listed => ?_⟩
  obtain ⟨_, _, accepted⟩ := exists_of_mem_checkEach checked listed
  exact (leadsDown_of_normalizeRelative (relativeAt_eq_ok.mp accepted)).resolve_left fun root => by simp at root

theorem of_checkLayers {entries : List LayerEntry} {layers : List Layer} (passed : checkLayers entries = .ok layers) :
    layers ≠ [] ∧ ∀ layer ∈ layers, LayerFormed layer := by
  simp only [checkLayers, refuse_eq_ok, List.isEmpty_iff] at passed
  obtain ⟨some?, passed⟩ := passed
  have step (before : List Layer) (entry : LayerEntry) (after : List Layer)
      (formed : ∀ layer ∈ before, LayerFormed layer)
      (went : (do return before ++ [← checkLayer before entry]) = Except.ok (ε := Error) after) :
      after ≠ [] ∧ ∀ layer ∈ after, LayerFormed layer := by
    simp only [bind_eq_ok, pure_eq_ok] at went
    obtain ⟨layer, accepted, rfl⟩ := went
    refine ⟨by simp, List.forall_mem_append.mpr ⟨formed, ?_⟩⟩
    simpa using of_checkLayer accepted
  obtain ⟨entry, entries, rfl⟩ := List.exists_cons_of_ne_nil some?
  rw [List.foldlM_cons, bind_eq_ok] at passed
  obtain ⟨first, went, later⟩ := passed
  exact foldlM_invariant (fun layers => layers ≠ [] ∧ ∀ layer ∈ layers, LayerFormed layer)
    (fun before entry after formed => step before entry after formed.2) (step [] entry first (by simp) went) later

theorem checkAlias_eq_ok {aliases : List Alias} {entry : String × String} {a : Alias} :
    checkAlias aliases entry = .ok a ↔
      normalizeKey entry.1 ≠ "" ∧ (∀ other ∈ aliases, other.key ≠ normalizeKey entry.1) ∧
      ∃ target, normalizeRelative true entry.2 = .ok target ∧ a = ⟨normalizeKey entry.1, target⟩ := by
  simp only [checkAlias, refuse_eq_ok, bind_eq_ok, pure_eq_ok, relativeAt_eq_ok, List.any_eq_true,
    decide_eq_true_eq, not_exists, not_and, eq_comm (b := a)]

theorem getLast?_normalizeKey (key : String) : (normalizeKey key).toList.getLast? ≠ some '/' := by
  rw [normalizeKey, String.toList_ofList, List.getLast?_reverse]
  intro slash
  simpa using Text.not_of_head?_dropWhile slash

theorem of_checkAlias {aliases : List Alias} {entry : String × String} {a : Alias}
    (passed : checkAlias aliases entry = .ok a) : AliasFormed a := by
  obtain ⟨named, -, target, normalized, same⟩ := checkAlias_eq_ok.mp passed
  rw [same]
  exact ⟨named, getLast?_normalizeKey _, (leadsDown_of_normalizeRelative normalized).imp_left And.left⟩

instance : Std.TransCmp aliasOrder :=
  have : Std.TransCmp fun a b : Alias => compare b.key.utf8ByteSize a.key.utf8ByteSize :=
    @Std.TransCmp.opposite _ (compareOn fun a : Alias => a.key.utf8ByteSize) _
  inferInstanceAs (Std.TransCmp (compareLex (fun a b : Alias => compare b.key.utf8ByteSize a.key.utf8ByteSize)
    (compareOn fun a : Alias => a.key)))

theorem le_of_aliasOrder {a b : Alias} (before : (aliasOrder a b).isLE = true) :
    b.key.utf8ByteSize ≤ a.key.utf8ByteSize := by
  unfold aliasOrder at before
  cases order : compare b.key.utf8ByteSize a.key.utf8ByteSize with
  | lt => exact Nat.le_of_lt (Nat.compare_eq_lt.mp order)
  | eq => exact Nat.le_of_eq (Nat.compare_eq_eq.mp order)
  | gt => simp [order] at before

theorem of_checkAliases {entries : List (String × String)} {aliases : List Alias}
    (passed : checkAliases entries = .ok aliases) :
    (∀ a ∈ aliases, AliasFormed a) ∧ (aliases.map (·.key)).Nodup ∧
      aliases.Pairwise fun a b => b.key.utf8ByteSize ≤ a.key.utf8ByteSize := by
  simp only [checkAliases, bind_eq_ok, pure_eq_ok] at passed
  obtain ⟨listed, passed, rfl⟩ := passed
  have run : (∀ a ∈ listed, AliasFormed a) ∧ (listed.map (·.key)).Nodup := by
    refine foldlM_invariant (fun aliases => (∀ a ∈ aliases, AliasFormed a) ∧ (aliases.map (·.key)).Nodup) ?_
      ⟨by simp, List.nodup_nil⟩ passed
    rintro before entry after ⟨formed, apart⟩ step
    simp only [bind_eq_ok, pure_eq_ok] at step
    obtain ⟨a, accepted, rfl⟩ := step
    obtain ⟨-, fresh, target, -, same⟩ := checkAlias_eq_ok.mp accepted
    refine ⟨List.forall_mem_append.mpr ⟨formed, by simpa using of_checkAlias accepted⟩, nodup_map_concat apart ?_⟩
    rw [same]
    exact fresh
  have sorted : (sortBy aliasOrder listed).Pairwise fun a b => (aliasOrder a b).isLE = true := pairwise_sortBy listed
  have perm : (sortBy aliasOrder listed).Perm listed := List.mergeSort_perm _ _
  exact ⟨fun a member => run.1 a (perm.subset member), (perm.map _).nodup_iff.mpr run.2,
    sorted.imp fun before => le_of_aliasOrder before⟩

/-- Aliases are added one after the other if each of them passes its check and no two have the same key. -/
theorem exists_addAliases {entries : List (String × String)} {before : List Alias}
    (each : ∀ entry ∈ entries, normalizeKey entry.1 ≠ "" ∧ ∃ target, normalizeRelative true entry.2 = .ok target)
    (apart : (before.map (·.key) ++ entries.map fun entry => normalizeKey entry.1).Nodup) :
    ∃ after, entries.foldlM (fun aliases entry => return aliases ++ [← checkAlias aliases entry]) before =
      .ok after := by
  induction entries generalizing before with
  | nil => exact ⟨before, rfl⟩
  | cons entry entries ih =>
    obtain ⟨⟨named, target, normalized⟩, later⟩ := List.forall_mem_cons.mp each
    have fresh : ∀ other ∈ before, other.key ≠ normalizeKey entry.1 := fun other listed =>
      (List.nodup_append.mp apart).2.2 _ (List.mem_map_of_mem listed) _ List.mem_cons_self
    have passed := checkAlias_eq_ok.mpr ⟨named, fresh, target, normalized, rfl⟩
    have apart' : ((before ++ [(⟨normalizeKey entry.1, target⟩ : Alias)]).map (·.key) ++
        entries.map fun entry => normalizeKey entry.1).Nodup := by simpa using apart
    obtain ⟨after, went⟩ := ih later apart'
    refine ⟨after, ?_⟩
    rw [List.foldlM_cons, passed]
    exact went

theorem exists_checkAliases {entries : List (String × String)}
    (each : ∀ entry ∈ entries, normalizeKey entry.1 ≠ "" ∧ ∃ target, normalizeRelative true entry.2 = .ok target)
    (apart : (entries.map fun entry => normalizeKey entry.1).Nodup) :
    ∃ aliases, checkAliases entries = .ok aliases := by
  have perm : (sortByKey entries).Perm entries := List.mergeSort_perm _ _
  have each' : ∀ entry ∈ sortByKey entries, normalizeKey entry.1 ≠ "" ∧
      ∃ target, normalizeRelative true entry.2 = .ok target := fun entry member => each entry (perm.subset member)
  have apart' : (([] : List Alias).map (·.key) ++ (sortByKey entries).map fun entry => normalizeKey entry.1).Nodup := by
    rw [List.map_nil, List.nil_append]
    exact (perm.map _).nodup_iff.mpr apart
  obtain ⟨listed, went⟩ := exists_addAliases each' apart'
  refine ⟨sortBy aliasOrder listed, ?_⟩
  rw [checkAliases, went]
  rfl

theorem text_of_parse {pattern : String} {glob : Glob} (read : Glob.parse pattern = .ok glob) :
    glob.text = pattern := by
  unfold Glob.parse at read
  cases tokens : Glob.tokensFrom 0 none [] pattern.toList with
  | error e => simp [tokens, Except.map] at read
  | ok tokens' =>
    rw [tokens] at read
    obtain rfl := Except.ok.inj read
    rfl

theorem of_checkForbidden {index : Nat} {value : String} {glob : Glob}
    (passed : checkForbidden index value = .ok glob) : LeadsDown glob.text := by
  simp only [checkForbidden, bind_eq_ok, relativeAt_eq_ok, globAt, mapError_eq_ok] at passed
  obtain ⟨pattern, normalized, read⟩ := passed
  rw [text_of_parse read]
  exact (leadsDown_of_normalizeRelative normalized).resolve_left fun root => by simp at root

/-- A forbidden pattern of an accepted policy is read from its own text. -/
theorem parse_text_of_mem_forbidden {document : Document} {p : Policy} (accepted : load document = .ok p) {glob : Glob}
    (listed : glob ∈ p.forbidden) : Glob.parse glob.text = .ok glob := by
  obtain ⟨index, value, passed⟩ := exists_of_mem_checkEach (load_eq_ok.mp accepted).forbidden listed
  simp only [checkForbidden, bind_eq_ok, relativeAt_eq_ok, globAt, mapError_eq_ok] at passed
  obtain ⟨pattern, -, read⟩ := passed
  rwa [text_of_parse read]

theorem of_checkDenyLayer {layers : List Layer} {rule name declared : String} {index : Nat}
    (passed : checkDenyLayer layers rule index name = .ok declared) : ∃ layer ∈ layers, layer.name = declared := by
  unfold checkDenyLayer at passed
  split at passed
  · rename_i known
    obtain rfl := Except.ok.inj passed
    simpa using known
  · cases passed

theorem of_checkRoleRule {layers : List Layer} {index : Nat} {entry : RoleRuleEntry} {rule : RoleRule}
    (passed : checkRoleRule layers index entry = .ok rule) : RoleRuleFormed layers rule := by
  simp only [checkRoleRule, refuse_eq_ok, bind_eq_ok, pure_eq_ok] at passed
  obtain ⟨named, role, -, literals, -, expressions, -, denyLayers, checked, some?, rfl⟩ := passed
  refine ⟨named, fun name listed => ?_, ?_⟩
  · obtain ⟨_, _, accepted⟩ := exists_of_mem_checkEach checked listed
    exact of_checkDenyLayer accepted
  · simp only [Bool.and_eq_true, List.isEmpty_iff, not_and] at some?
    rw [or_iff_not_imp_left, not_not, or_iff_not_imp_left, not_not]
    exact fun noText noImports => some? ⟨noText, noImports⟩

theorem of_addRoleRules {layers : List Layer} {entries : List RoleRuleEntry} {rules : List RoleRule}
    (passed : entries.foldlM (addRoleRule layers) [] = .ok rules) :
    (rules.map (·.name)).Nodup ∧ ∀ rule ∈ rules, RoleRuleFormed layers rule := by
  refine foldlM_invariant (fun rules => (rules.map (·.name)).Nodup ∧ ∀ rule ∈ rules, RoleRuleFormed layers rule) ?_
    ⟨List.nodup_nil, by simp⟩ passed
  rintro before entry after ⟨apart, formed⟩ step
  simp only [addRoleRule, refuse_eq_ok, bind_eq_ok, pure_eq_ok, List.any_eq_true, decide_eq_true_eq, not_exists,
    not_and] at step
  obtain ⟨rule, accepted, fresh, rfl⟩ := step
  exact ⟨nodup_map_concat apart fresh,
    List.forall_mem_append.mpr ⟨formed, by simpa using of_checkRoleRule accepted⟩⟩

theorem of_checkRules {entries : List Switch} {rules : List (Rule × RuleSettings)}
    (passed : checkRules entries = .ok rules) : ∀ entry ∈ rules, entry.1.isConfigurable = true := by
  simp only [checkRules, bind_eq_ok, pure_eq_ok] at passed
  obtain ⟨checked, each, rfl⟩ := passed
  intro entry listed
  obtain ⟨_, -, passed⟩ := (mem_of_mapM_eq_ok each).mp (List.mem_reverse.mp listed)
  simp only [bind_eq_ok, pure_eq_ok] at passed
  obtain ⟨rule, accepted, same⟩ := passed
  rw [← same]
  exact (ruleAt_eq_ok.mp accepted).2

theorem Loads.formed {document : Document} {p : Policy} (loads : Loads document p) : Formed p := by
  obtain ⟨layered, layers⟩ := of_checkLayers loads.layers
  obtain ⟨aliases, keys, longestFirst⟩ := of_checkAliases loads.aliases
  obtain ⟨roleNames, roleRules⟩ := of_addRoleRules loads.roleRules
  refine {
    layered, layers, aliases, keys, longestFirst, roleNames, roleRules
    ordered := load_ordered (load_eq_ok.mpr loads)
    discovery := of_checkAnalyzer loads.discovery
    forbidden := fun glob listed => ?_
    required := ?_
    switches := fun entry listed => ?_ }
  · obtain ⟨_, _, passed⟩ := exists_of_mem_checkEach loads.forbidden listed
    exact of_checkForbidden passed
  · have modules := loads.modules
    simp only [checkModules, bind_eq_ok, pure_eq_ok] at modules
    obtain ⟨required, -, same⟩ := modules
    rw [← same]
    exact nodup_distinct required
  · have configurable := of_checkRules loads.rules entry listed
    revert configurable
    cases entry.1 <;> decide

/-- Every policy that passes its checks is formed as what works with it takes it to be. -/
theorem load_formed {document : Document} {p : Policy} (accepted : load document = .ok p) : Formed p :=
  (load_eq_ok.mp accepted).formed

section Spelling

/-- A document whose sections are all written in ways that the checks change. -/
def looselySpelt : Document where
  analyzer := { root := "./src/", extensions := [".ts", "ts"] }
  layers := [{ name := " shared ", roots := ["src\\shared/"] }, { name := "app", roots := ["src//./app"] }]
  aliases := [("@/", "./")]
  modules := { required := ["index", "public-api"] }
  roleRules := some [{ name := " pure ", role := "types", denyImports := ["  "], denyLayers := ["app"] }]
  forbidden := ["src\\mocks/"]
  rules := [("ll001", {})]

/-- What is loaded for it. -/
def strictlySpelt : Policy where
  discovery := {
    root := "src", extensions := ["ts"], ignoreDirs := ["node_modules", "dist", "build", "coverage", ".git"]
    exclude := [], respectGitignore := true }
  layers := [⟨"shared", 0, ["src/shared"], false, true⟩, ⟨"app", 1, ["src/app"], false, true⟩]
  aliases := [⟨"@", ""⟩]
  stems := [("ui", .ui), ("store", .store), ("service", .service), ("types", .types), ("index", .publicApi)]
  modules := { required := [.publicApi], allowPublicApi := true }
  roleRules := [⟨"pure", .types, [], [], ["app"], none, .error⟩]
  forbidden := [⟨"src/mocks", "src/mocks".toList.map .char⟩]
  rules := [(.layerDirection, {})]

theorem load_looselySpelt : load looselySpelt = .ok strictlySpelt := by
  have aliases : checkAliases looselySpelt.aliases = .ok strictlySpelt.aliases := by
    simp only [checkAliases, sortByKey, looselySpelt, List.mergeSort_singleton]
    decide +kernel
  have rules : checkRules looselySpelt.rules = .ok strictlySpelt.rules := by
    rw [checkRules_of_sorted (by decide +kernel)]
    decide +kernel
  exact load_eq_ok.mpr ⟨by decide +kernel, by decide +kernel, aliases, by decide +kernel, by decide +kernel, rfl,
    by decide +kernel, rules⟩

theorem load_formed_looselySpelt : load looselySpelt = .ok strictlySpelt ∧ Formed strictlySpelt :=
  ⟨load_looselySpelt, load_formed load_looselySpelt⟩

end Spelling

end Policy

end Layering
