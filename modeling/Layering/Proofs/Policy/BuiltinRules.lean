import Layering.Proofs.Policy.Relabelling

/-! The built-in role rules. They are cut to the layers that a policy has before they are checked like any other rules,
and what is left of them always passes: no rule is left that names another layer, and none that checks nothing. -/
namespace Layering.Policy

theorem exists_forall₂ {R : α → β → Prop} {as : List α} (each : ∀ a ∈ as, ∃ b, R a b) :
    ∃ bs, List.Forall₂ R as bs := by
  induction as with
  | nil => exact ⟨[], .nil⟩
  | cons a as ih =>
    obtain ⟨⟨b, first⟩, later⟩ := List.forall_mem_cons.mp each
    obtain ⟨bs, later⟩ := ih later
    exact ⟨b :: bs, .cons first later⟩

section Checking

variable {layers : List Layer} {entry : RoleRuleEntry} {entries : List RoleRuleEntry} {rule : RoleRule}
  {before after : List RoleRule}

/-- What is loaded for a regular expression. -/
def Compiles (source : String) (pattern : TextPattern) : Prop :=
  ∃ expression, Regex.parse? source = some expression ∧ pattern = .regex source expression

/-- A role rule that an entry is loaded as, with the given layers. -/
structure Establishes (layers : List Layer) (entry : RoleRuleEntry) (rule : RoleRule) : Prop where
  name : rule.name = Text.trim entry.name
  named : rule.name ≠ ""
  role : Role.ofName? (Text.trim entry.role) = some rule.role
  literals : ∀ literal ∈ entry.patterns, literal ≠ ""
  text : ∃ expressions, List.Forall₂ Compiles entry.regex expressions ∧
    rule.text = entry.patterns.map .literal ++ expressions
  denyImports : rule.denyImports = (entry.denyImports.map Text.trim).filter (· ≠ "")
  denyLayers : rule.denyLayers = entry.denyLayers
  declared : ∀ name ∈ entry.denyLayers, ∃ layer ∈ layers, layer.name = name
  message : rule.message = entry.message
  severity : rule.severity = entry.severity
  checks : rule.text ≠ [] ∨ rule.denyImports ≠ [] ∨ rule.denyLayers ≠ []

theorem roleAt_eq_ok {place : Place} {value : String} {role : Role} :
    roleAt place value = .ok role ↔ Role.ofName? (Text.trim value) = some role := by
  rw [roleAt]
  cases Role.ofName? (Text.trim value) <;> simp

theorem checkPatterns_eq_ok {name : String} {literals : List String} {patterns : List TextPattern} :
    checkEach (checkPattern name) literals = .ok patterns ↔
      patterns = literals.map .literal ∧ ∀ literal ∈ literals, literal ≠ "" := by
  rw [← forall₂_map_and]
  refine checkEach_eq_ok _ fun index literal pattern => ?_
  by_cases none : literal = "" <;> simp [checkPattern, none, eq_comm]

theorem checkRegexes_eq_ok {name : String} {sources : List String} {patterns : List TextPattern} :
    checkEach (checkRegex name) sources = .ok patterns ↔ List.Forall₂ Compiles sources patterns := by
  refine checkEach_eq_ok _ fun index source pattern => ?_
  rw [checkRegex, Compiles]
  cases Regex.parse? source <;> simp [eq_comm]

/-- A role rule is checked in the same way at every place of the list. -/
theorem checkRoleRule_eq_ok {index : Nat} :
    checkRoleRule layers index entry = .ok rule ↔ Establishes layers entry rule := by
  simp only [checkRoleRule, refuse_eq_ok, bind_eq_ok, pure_eq_ok, roleAt_eq_ok, checkPatterns_eq_ok, checkRegexes_eq_ok,
    checkDenyLayers_eq_ok]
  constructor
  · rintro ⟨named, role, hasRole, _, ⟨rfl, literals⟩, expressions, compiled, _, ⟨rfl, declared⟩, some?, rfl⟩
    refine { named, literals, declared, name := rfl, role := hasRole, text := ⟨expressions, compiled, rfl⟩
             denyImports := rfl, denyLayers := rfl, message := rfl, severity := rfl, checks := ?_ }
    simp only [Bool.and_eq_true, List.isEmpty_iff, not_and_or, or_assoc] at some?
    exact some?
  · intro establishes
    obtain ⟨name, role, text, denyImports, denyLayers, message, severity⟩ := rule
    obtain ⟨rfl, named, hasRole, literals, ⟨expressions, compiled, rfl⟩, rfl, rfl, declared, rfl, rfl, some?⟩ :=
      establishes
    refine ⟨named, role, hasRole, _, ⟨rfl, literals⟩, expressions, compiled, _, ⟨rfl, declared⟩, ?_, rfl⟩
    simp only [Bool.and_eq_true, List.isEmpty_iff, not_and_or, or_assoc]
    exact some?

/-- Role rules are loaded as the entries say, unless two of them have one name. -/
theorem foldlM_addRoleRule_eq_ok (apart : (before.map (·.name)).Nodup) :
    entries.foldlM (addRoleRule layers) before = .ok after ↔
      ∃ added, after = before ++ added ∧ List.Forall₂ (Establishes layers) entries added ∧
        (after.map (·.name)).Nodup := by
  induction entries generalizing before with
  | nil =>
    simp only [List.foldlM_nil, pure_eq_ok, List.forall₂_nil_left_iff]
    exact ⟨fun same => ⟨[], by simp [same], rfl, same ▸ apart⟩, by rintro ⟨_, rfl, rfl, -⟩; simp⟩
  | cons entry entries ih =>
    simp only [List.foldlM_cons, bind_eq_ok, addRoleRule, checkRoleRule_eq_ok, refuse_eq_ok, pure_eq_ok,
      List.any_eq_true, decide_eq_true_eq, not_exists, not_and]
    constructor
    · rintro ⟨_, ⟨rule, establishes, fresh, rfl⟩, later⟩
      obtain ⟨added, rfl, each, apart'⟩ := (ih (nodup_map_concat apart fresh)).mp later
      exact ⟨rule :: added, by simp, .cons establishes each, apart'⟩
    · rintro ⟨_, rfl, each, apart'⟩
      obtain ⟨rule, added, establishes, later, rfl⟩ := List.forall₂_cons_left_iff.mp each
      have fresh : ∀ other ∈ before, other.name ≠ rule.name := by
        rw [List.map_append, List.nodup_append] at apart'
        exact fun other member => apart'.2.2 _ (List.mem_map_of_mem member) _ (by simp)
      exact ⟨before ++ [rule], ⟨rule, establishes, fresh, rfl⟩,
        (ih (nodup_map_concat apart fresh)).mpr ⟨added, by simp, later, apart'⟩⟩

end Checking

section Builtin

variable {layers : List Layer} {entry : RoleRuleEntry}

/-- A role rule that denies only layers that there are. -/
def RoleRuleEntry.narrowed (layers : List Layer) (entry : RoleRuleEntry) : RoleRuleEntry :=
  { entry with denyLayers := entry.denyLayers.filter fun name => layers.any (·.name = name) }

/-- Whether there is something that a role rule forbids. -/
def RoleRuleEntry.Forbids (entry : RoleRuleEntry) : Prop :=
  entry.patterns ≠ [] ∨ entry.regex ≠ [] ∨ entry.denyImports ≠ [] ∨ entry.denyLayers ≠ []

instance : DecidablePred RoleRuleEntry.Forbids := fun entry => by unfold RoleRuleEntry.Forbids; infer_instance

/-- A role rule that has what an entry says. -/
structure RoleRuleEntry.Describes (entry : RoleRuleEntry) (rule : RoleRule) : Prop where
  name : rule.name = entry.name
  role : rule.role.text = entry.role
  text : ∃ expressions, List.Forall₂ Compiles entry.regex expressions ∧
    rule.text = entry.patterns.map .literal ++ expressions
  denyImports : rule.denyImports = entry.denyImports
  denyLayers : rule.denyLayers = entry.denyLayers
  message : rule.message = entry.message
  severity : rule.severity = entry.severity

theorem names_of_describes {entries : List RoleRuleEntry} {rules : List RoleRule}
    (describes : List.Forall₂ RoleRuleEntry.Describes entries rules) : rules.map (·.name) = entries.map (·.name) := by
  have each : List.Forall₂ (· = ·) (rules.map (·.name)) (entries.map (·.name)) :=
    List.forall₂_map_left_iff.mpr (List.forall₂_map_right_iff.mpr (describes.flip.imp fun _ _ same => same.name))
  rwa [List.forall₂_eq_eq_eq] at each

/-- A role rule that passes its checks as it is written, for all layers that it denies. -/
structure RoleRuleEntry.Clean (entry : RoleRuleEntry) : Prop where
  name : Text.trim entry.name = entry.name
  named : entry.name ≠ ""
  role : ∃ role ∈ Role.named, role.text = entry.role
  literals : ∀ literal ∈ entry.patterns, literal ≠ ""
  regex : ∀ source ∈ entry.regex, (Regex.parse? source).isSome = true
  denyImports : ∀ specifier ∈ entry.denyImports, Text.trim specifier = specifier ∧ specifier ≠ ""

theorem clean_defaultRoleRules : ∀ entry ∈ defaultRoleRules, entry.Clean := by
  have facts : ∀ entry ∈ defaultRoleRules, Text.trim entry.name = entry.name ∧ entry.name ≠ "" ∧
      (∃ role ∈ Role.named, role.text = entry.role) ∧ (∀ literal ∈ entry.patterns, literal ≠ "") ∧
      (∀ source ∈ entry.regex, (Regex.parse? source).isSome = true) ∧
      ∀ specifier ∈ entry.denyImports, Text.trim specifier = specifier ∧ specifier ≠ "" := by decide +kernel
  intro entry listed
  obtain ⟨name, named, role, literals, regex, denyImports⟩ := facts entry listed
  exact { name, named, role, literals, regex, denyImports }

theorem forbids_defaultRoleRules : ∀ entry ∈ defaultRoleRules, entry.Forbids := by decide

theorem nodup_names_defaultRoleRules : (defaultRoleRules.map (·.name)).Nodup := by decide

theorem ofName?_text : ∀ role ∈ Role.named, Role.ofName? (Text.trim role.text) = some role := by decide +kernel

theorem declared_of_narrowed {name : String} (kept : name ∈ (entry.narrowed layers).denyLayers) :
    ∃ layer ∈ layers, layer.name = name := by
  simpa using (List.mem_filter.mp kept).2

theorem RoleRuleEntry.Clean.narrowed (clean : entry.Clean) : (entry.narrowed layers).Clean :=
  { clean with }

theorem RoleRuleEntry.Clean.trimmed (clean : entry.Clean) :
    (entry.denyImports.map Text.trim).filter (· ≠ "") = entry.denyImports := by
  have same : entry.denyImports.map Text.trim = entry.denyImports :=
    (List.map_congr_left fun specifier listed => (clean.denyImports specifier listed).1).trans (List.map_id _)
  rw [same, List.filter_eq_self]
  exact fun specifier listed => decide_eq_true (clean.denyImports specifier listed).2

/-- What is loaded for a clean entry has what the entry says. -/
theorem RoleRuleEntry.Clean.describes (clean : entry.Clean) {rule : RoleRule}
    (establishes : Establishes layers entry rule) : entry.Describes rule := by
  have role : rule.role.text = entry.role := by
    obtain ⟨role, named, same⟩ := clean.role
    have found := establishes.role
    rw [← same, ofName?_text role named] at found
    rw [← Option.some.inj found, same]
  exact { establishes with
    role, name := establishes.name.trans clean.name, denyImports := establishes.denyImports.trans clean.trimmed }

/-- A clean entry that forbids something is loaded wherever the layers that it denies are. -/
theorem RoleRuleEntry.Clean.establishes (clean : entry.Clean) (forbids : entry.Forbids)
    (declared : ∀ name ∈ entry.denyLayers, ∃ layer ∈ layers, layer.name = name) :
    ∃ rule, Establishes layers entry rule := by
  obtain ⟨role, named, same⟩ := clean.role
  obtain ⟨expressions, compiled⟩ : ∃ expressions, List.Forall₂ Compiles entry.regex expressions := by
    refine exists_forall₂ fun source listed => ?_
    obtain ⟨expression, parsed⟩ := Option.isSome_iff_exists.mp (clean.regex source listed)
    exact ⟨_, expression, parsed, rfl⟩
  refine ⟨⟨entry.name, role, entry.patterns.map .literal ++ expressions, entry.denyImports, entry.denyLayers,
    entry.message, entry.severity⟩, ?_⟩
  refine {
    declared, name := clean.name.symm, named := clean.named, role := same ▸ ofName?_text role named
    literals := clean.literals, text := ⟨expressions, compiled, rfl⟩, denyImports := clean.trimmed.symm
    denyLayers := rfl, message := rfl, severity := rfl, checks := ?_ }
  have regex : entry.regex ≠ [] → expressions ≠ [] := by
    rintro some? rfl
    exact some? (List.forall₂_nil_right_iff.mp compiled)
  rcases forbids with patterns | some? | denied
  · exact .inl (by simp [patterns])
  · exact .inl (by simp [regex some?])
  · exact .inr denied

/-- A rule that forbids something is cut to the layers, and left out if nothing is left of it. -/
theorem restrictTo_eq (forbids : entry.Forbids) : restrictTo layers entry =
    Option.guard (fun entry => decide entry.Forbids) (entry.narrowed layers) := by
  have emptied : ((!entry.denyLayers.isEmpty && (entry.narrowed layers).denyLayers.isEmpty) &&
      (entry.patterns.isEmpty && entry.regex.isEmpty && entry.denyImports.isEmpty)) = true ↔
      ¬(entry.narrowed layers).Forbids := by
    simp only [RoleRuleEntry.Forbids, Bool.and_eq_true, Bool.not_eq_true', ← Bool.not_eq_true, List.isEmpty_iff]
      at forbids ⊢
    simp only [RoleRuleEntry.narrowed]
    tauto
  refine (if_congr emptied rfl rfl).trans ?_
  rw [ite_not, Option.guard]
  simp only [decide_eq_true_eq]
  rfl

theorem builtinRoleRules_eq (layers : List Layer) :
    builtinRoleRules layers = (defaultRoleRules.map (.narrowed layers)).filter (·.Forbids) := by
  have each : builtinRoleRules layers = defaultRoleRules.filterMap fun entry =>
      Option.guard (fun entry => decide entry.Forbids) (entry.narrowed layers) :=
    List.filterMap_congr fun entry listed => restrictTo_eq (forbids_defaultRoleRules entry listed)
  rw [each, ← List.filterMap_eq_filter, List.filterMap_map]
  rfl

/-- The built-in rules pass their checks for all layers. -/
theorem exists_builtinRoleRules (layers : List Layer) : ∃ rules,
    (builtinRoleRules layers).foldlM (addRoleRule layers) [] = .ok rules ∧
      List.Forall₂ RoleRuleEntry.Describes ((defaultRoleRules.map (.narrowed layers)).filter (·.Forbids)) rules := by
  have clean : ∀ entry ∈ builtinRoleRules layers, entry.Clean := by
    rw [builtinRoleRules_eq]
    intro entry kept
    obtain ⟨whole, listed, rfl⟩ := List.mem_map.mp (List.mem_of_mem_filter kept)
    exact (clean_defaultRoleRules whole listed).narrowed
  obtain ⟨rules, each⟩ : ∃ rules, List.Forall₂ (Establishes layers) (builtinRoleRules layers) rules := by
    refine exists_forall₂ fun entry listed => ?_
    have kept := builtinRoleRules_eq layers ▸ listed
    obtain ⟨whole, -, rfl⟩ := List.mem_map.mp (List.mem_of_mem_filter kept)
    exact (clean _ listed).establishes (of_decide_eq_true (List.mem_filter.mp kept).2) fun _ => declared_of_narrowed
  have describes : List.Forall₂ RoleRuleEntry.Describes (builtinRoleRules layers) rules :=
    ((List.forall₂_and_left _ _).mpr ⟨clean, each⟩).imp fun entry rule both => both.1.describes both.2
  have apart : (rules.map (·.name)).Nodup := by
    rw [names_of_describes describes, builtinRoleRules_eq]
    refine nodup_names_defaultRoleRules.sublist ?_
    have kept := (List.filter_sublist (p := fun entry : RoleRuleEntry => decide entry.Forbids)
      (l := defaultRoleRules.map (.narrowed layers))).map (·.name)
    rw [List.map_map] at kept
    exact kept
  have start : (([] : List RoleRule).map (·.name)).Nodup := List.nodup_nil
  exact ⟨rules, (foldlM_addRoleRule_eq_ok start).mpr ⟨rules, rfl, each, apart⟩, builtinRoleRules_eq layers ▸ describes⟩

end Builtin

/-- A policy that has what the sections of a document say, apart from its role rules. -/
structure Sections (document : Document) (p : Policy) : Prop where
  discovery : checkAnalyzer document.analyzer = .ok p.discovery
  layers : checkLayers document.layers = .ok p.layers
  aliases : checkAliases document.aliases = .ok p.aliases
  stems : checkRoles document.roles = .ok p.stems
  modules : checkModules document.modules = .ok p.modules
  forbidden : checkEach checkForbidden document.forbidden = .ok p.forbidden
  rules : checkRules document.rules = .ok p.rules

/-- A policy that lists no role rules is loaded if each of its sections is, with the built-in role rules in their order,
each of them cut to the layers of the policy. Those that then forbid nothing are left out. -/
theorem ofToml_builtinRoleRules {text : String} {document : Document} {p : Policy}
    (read : Document.read? text = some document) (left : document.roleRules = none) (sections : Sections document p) :
    ∃ roleRules, ofToml text = .ok { p with roleRules } ∧
      List.Forall₂ RoleRuleEntry.Describes ((defaultRoleRules.map (.narrowed p.layers)).filter (·.Forbids))
        roleRules := by
  obtain ⟨roleRules, passed, describes⟩ := exists_builtinRoleRules p.layers
  refine ⟨roleRules, ?_, describes⟩
  rw [ofToml, read]
  exact load_eq_ok.mpr { sections with roleRules := by rw [left, Option.getD_none, passed] }

section OneLayer

/-- A policy with one layer, which is not the one that a built-in role rule denies. -/
def oneLayerText : String := "[[layers]]\nname = \"shared\"\nroots = [\"src/shared\"]\n\n[aliases]\n"

def oneLayer : Policy where
  discovery := ⟨"src", ["ts", "tsx", "js", "jsx", "mjs", "cjs"],
    ["node_modules", "dist", "build", "coverage", ".git"], [], true⟩
  layers := [⟨"shared", 0, ["src/shared"], false, true⟩]
  aliases := []
  stems := [("ui", .ui), ("store", .store), ("service", .service), ("types", .types), ("index", .publicApi)]
  modules := ⟨[.ui, .store, .service, .publicApi], true⟩
  roleRules := []
  forbidden := []
  rules := []

theorem ofToml_oneLayerText : ∃ roleRules, ofToml oneLayerText = .ok { oneLayer with roleRules } ∧
    roleRules.map (·.name) =
      ["store-no-network", "ui-no-network", "service-no-business-logic", "types-declarations-only"] := by
  have read : Document.read? oneLayerText =
      some { layers := [{ name := "shared", roots := ["src/shared"] }], aliases := [] } := by decide +kernel
  have aliases : checkAliases [] = .ok [] := by simp [checkAliases, sortByKey]
  obtain ⟨roleRules, loads, describes⟩ := ofToml_builtinRoleRules (p := oneLayer) read rfl
    ⟨by decide +kernel, by decide +kernel, aliases, by decide +kernel, by decide +kernel, rfl,
      checkRules_of_sorted .nil⟩
  refine ⟨roleRules, loads, ?_⟩
  rw [names_of_describes describes]
  decide +kernel

end OneLayer

end Layering.Policy
