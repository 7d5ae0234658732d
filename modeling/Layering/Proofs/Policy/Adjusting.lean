import Layering.Proofs.Policy.Switches

/-! Changing what a document sets for one rule. The change is made under every key that names the rule, so that it takes
effect whichever of them counts, and nothing else of the loaded policy changes. -/
namespace Layering.Policy

/-- An entry with its settings changed if it names the rule. -/
def adjustEntry (rule : Rule) (change : RuleSettings → RuleSettings) (entry : Switch) : Switch :=
  (entry.1, if rule.IsNamedBy entry.1 then change entry.2 else entry.2)

/-- The entries with the settings of a rule changed. A rule without an entry gets one under its name. -/
def adjustEntries (rule : Rule) (change : RuleSettings → RuleSettings) (entries : List Switch) : List Switch :=
  if entries.any fun entry => rule.IsNamedBy entry.1 then entries.map (adjustEntry rule change)
  else entries ++ [(rule.name, change {})]

/-- The document with the settings of a rule changed. -/
def Document.adjusting (document : Document) (rule : Rule) (change : RuleSettings → RuleSettings) : Document :=
  { document with rules := adjustEntries rule change document.rules }

/-- The document with some rules switched off. -/
def Document.switchingOff (document : Document) (rules : List Rule) : Document :=
  rules.foldl (fun document rule => document.adjusting rule fun s => { s with enabled := some false }) document

/-- The document with a severity for the findings of a rule. -/
def Document.grading (document : Document) (rule : Rule) (severity : Severity) : Document :=
  document.adjusting rule fun s => { s with severity := some severity }

/-- What a policy sets for a rule. -/
def settings (p : Policy) (rule : Rule) : RuleSettings := (p.rules.lookup rule).getD {}

theorem isEnabled_eq (p : Policy) (rule : Rule) : p.isEnabled rule = (p.settings rule).enabled.getD true := by
  unfold isEnabled settings
  cases p.rules.lookup rule <;> rfl

theorem severity?_eq (p : Policy) (rule : Rule) : p.severity? rule = (p.settings rule).severity := by
  unfold severity? settings
  cases p.rules.lookup rule <;> rfl

/-- A policy that differs from another one in the settings of rules only. -/
def SameButRules (p p' : Policy) : Prop := p' = { p with rules := p'.rules }

/-- A policy that differs from another one in what it sets for one rule only. -/
structure Adjusts (rule : Rule) (change : RuleSettings → RuleSettings) (p p' : Policy) : Prop where
  rest : SameButRules p p'
  own : p'.settings rule = change (p.settings rule)
  others : ∀ other, other ≠ rule → p'.settings other = p.settings other

namespace SameButRules

theorem refl (p : Policy) : SameButRules p p := rfl

theorem trans {p q r : Policy} (first : SameButRules p q) (second : SameButRules q r) : SameButRules p r := by
  rw [SameButRules, second, first]

end SameButRules

/-- A policy that differs from another one in that some rules are switched off. -/
structure SwitchedOff (rules : List Rule) (p p' : Policy) : Prop where
  rest : SameButRules p p'
  enabled : ∀ rule, p'.isEnabled rule = (!rules.contains rule && p.isEnabled rule)
  severity : ∀ rule, p'.severity? rule = p.severity? rule

/-- A policy that differs from another one in the severity for one rule. -/
structure Graded (rule : Rule) (severity : Severity) (p p' : Policy) : Prop where
  rest : SameButRules p p'
  enabled : ∀ other, p'.isEnabled other = p.isEnabled other
  severity : p'.severity? rule = some severity
  others : ∀ other, other ≠ rule → p'.severity? other = p.severity? other

section Entries

variable {rule : Rule} {change : RuleSettings → RuleSettings} {entries : List Switch}

theorem adjustEntries_of_named {entry : Switch} (listed : entry ∈ entries) (named : rule.IsNamedBy entry.1) :
    adjustEntries rule change entries = entries.map (adjustEntry rule change) :=
  if_pos (List.any_eq_true.mpr ⟨entry, listed, by simpa using named⟩)

theorem adjustEntries_of_unnamed (unnamed : ∀ entry ∈ entries, ¬rule.IsNamedBy entry.1) :
    adjustEntries rule change entries = entries ++ [(rule.name, change {})] :=
  if_neg (by simpa using unnamed)

theorem nodup_adjustEntries (rule : Rule) (change : RuleSettings → RuleSettings) (keys : (entries.map (·.1)).Nodup) :
    ((adjustEntries rule change entries).map (·.1)).Nodup := by
  by_cases some? : ∃ entry ∈ entries, rule.IsNamedBy entry.1
  · obtain ⟨entry, listed, named⟩ := some?
    rw [adjustEntries_of_named listed named, List.map_map]
    exact keys
  · simp only [not_exists, not_and] at some?
    rw [adjustEntries_of_unnamed some?]
    exact nodup_map_concat keys fun entry listed same => some? entry listed (.inl same)

/-- What a table of switches sets for a rule: what its last entry does, or nothing if it has none. -/
inductive Sets (entries : List Switch) (rule : Rule) : RuleSettings → Prop
  | last {entry : Switch} (final : IsLast entries rule entry) : Sets entries rule entry.2
  | nothing (unnamed : ∀ entry ∈ entries, ¬rule.IsNamedBy entry.1) : Sets entries rule {}

theorem exists_sets (entries : List Switch) (rule : Rule) : ∃ settings, Sets entries rule settings := by
  by_cases some? : ∃ entry ∈ entries, rule.IsNamedBy entry.1
  · obtain ⟨entry, listed, named⟩ := some?
    obtain ⟨last, final⟩ := exists_isLast listed named
    exact ⟨_, .last final⟩
  · exact ⟨{}, .nothing (by simpa using some?)⟩

theorem IsLast.adjust {other : Rule} {last : Switch} (final : IsLast entries other last) :
    IsLast (entries.map (adjustEntry rule change)) other (adjustEntry rule change last) where
  listed := List.mem_map_of_mem final.listed
  named := final.named
  last _ listed named := by
    obtain ⟨entry, before, rfl⟩ := List.mem_map.mp listed
    exact final.last entry before named

theorem isLast_concat (settings : RuleSettings) (unnamed : ∀ entry ∈ entries, ¬rule.IsNamedBy entry.1) :
    IsLast (entries ++ [(rule.name, settings)]) rule (rule.name, settings) where
  listed := by simp
  named := .inl rfl
  last entry listed named := by
    rcases List.mem_append.mp listed with before | here
    · exact absurd named (unnamed entry before)
    · rw [List.mem_singleton.mp here]
      simp [Std.ReflCmp.compare_self]

theorem IsLast.concat {other : Rule} {last : Switch} (settings : RuleSettings) (different : other ≠ rule)
    (final : IsLast entries other last) : IsLast (entries ++ [(rule.name, settings)]) other last where
  listed := List.mem_append_left _ final.listed
  named := final.named
  last entry listed named := by
    rcases List.mem_append.mp listed with before | here
    · exact final.last entry before named
    · rw [List.mem_singleton.mp here] at named
      exact absurd (named.unique (.inl rfl)) different

theorem Sets.adjust {settings : RuleSettings} (sets : Sets entries rule settings) :
    Sets (adjustEntries rule change entries) rule (change settings) := by
  cases sets with
  | @last entry final =>
    have changed : (adjustEntry rule change entry).2 = change entry.2 := if_pos final.named
    rw [adjustEntries_of_named final.listed final.named, ← changed]
    exact .last final.adjust
  | nothing unnamed =>
    rw [adjustEntries_of_unnamed unnamed]
    exact .last (isLast_concat (change {}) unnamed)

theorem Sets.adjust_other {other : Rule} (different : other ≠ rule) {settings : RuleSettings}
    (sets : Sets entries other settings) : Sets (adjustEntries rule change entries) other settings := by
  by_cases some? : ∃ entry ∈ entries, rule.IsNamedBy entry.1
  · obtain ⟨entry, listed, named⟩ := some?
    rw [adjustEntries_of_named listed named]
    cases sets with
    | @last entry final =>
      have kept : (adjustEntry rule change entry).2 = entry.2 :=
        if_neg fun both => different (final.named.unique both)
      rw [← kept]
      exact .last final.adjust
    | nothing unnamed => exact .nothing (List.forall_mem_map.mpr unnamed)
  · rw [adjustEntries_of_unnamed (by simpa using some?)]
    cases sets with
    | last final => exact .last (final.concat _ different)
    | nothing unnamed =>
      refine .nothing (List.forall_mem_append.mpr ⟨unnamed, ?_⟩)
      simpa using fun own : other.IsNamedBy rule.name => different (own.unique (.inl rfl))

end Entries

section Loading

variable {document : Document} {p : Policy}

theorem settings_of_sets (accepted : load document = .ok p) (keys : (document.rules.map (·.1)).Nodup) {rule : Rule}
    {settings : RuleSettings} (sets : Sets document.rules rule settings) : p.settings rule = settings := by
  cases sets with
  | last final => rw [Policy.settings, lookup_of_isLast accepted keys final, Option.getD_some]
  | nothing unnamed =>
    have none : (lastFirst document.rules).find? (fun entry => rule.IsNamedBy entry.1) = none :=
      List.find?_eq_none.mpr fun entry listed => by simpa using unnamed entry ((perm_lastFirst _).subset listed)
    rw [Policy.settings, lookup_checked (checkRules_eq_ok (load_eq_ok.mp accepted).rules) rule, none]
    rfl

/-- A table of switches is accepted exactly if all of its keys name rules that can be switched. -/
theorem exists_checkRules {entries : List Switch} : (∃ rules, checkRules entries = .ok rules) ↔
    ∀ entry ∈ entries, ∃ rule : Rule, rule.IsNamedBy entry.1 ∧ rule.isConfigurable = true := by
  have each (entry : Switch) : (∃ result, (do return (← ruleAt entry.1, entry.2)) = Except.ok (ε := Error) result) ↔
      ∃ rule : Rule, rule.IsNamedBy entry.1 ∧ rule.isConfigurable = true := by
    simp only [bind_eq_ok, pure_eq_ok, ruleAt_eq_ok]
    constructor
    · rintro ⟨_, rule, passed, -⟩
      exact ⟨rule, passed⟩
    · rintro ⟨rule, passed⟩
      exact ⟨_, rule, passed, rfl⟩
  have perm : (sortByKey entries).Perm entries := List.mergeSort_perm _ _
  have listed : (∀ entry ∈ sortByKey entries, ∃ rule : Rule, rule.IsNamedBy entry.1 ∧ rule.isConfigurable = true) ↔
      ∀ entry ∈ entries, ∃ rule : Rule, rule.IsNamedBy entry.1 ∧ rule.isConfigurable = true :=
    forall_congr' fun entry => by rw [perm.mem_iff]
  rw [← listed, ← forall₂_congr fun entry _ => each entry, ← exists_mapM_eq_ok]
  simp only [checkRules, bind_eq_ok, pure_eq_ok]
  constructor
  · rintro ⟨_, checked, passed, -⟩
    exact ⟨checked, passed⟩
  · rintro ⟨checked, passed⟩
    exact ⟨_, checked, passed, rfl⟩

theorem exists_checkRules_adjusted {entries : List Switch} {rules : List (Rule × RuleSettings)} {rule : Rule}
    (passed : checkRules entries = .ok rules) (configurable : rule.isConfigurable = true)
    (change : RuleSettings → RuleSettings) : ∃ rules', checkRules (adjustEntries rule change entries) = .ok rules' := by
  have named := exists_checkRules.mp ⟨rules, passed⟩
  refine exists_checkRules.mpr fun entry listed => ?_
  unfold adjustEntries at listed
  split at listed
  · obtain ⟨before, given, rfl⟩ := List.mem_map.mp listed
    exact named before given
  · rcases List.mem_append.mp listed with given | added
    · exact named entry given
    · rw [List.mem_singleton.mp added]
      exact ⟨rule, .inl rfl, configurable⟩

/-- The document with changed settings is accepted if it was before, and the loaded policy differs in just that. -/
theorem load_adjusting (accepted : load document = .ok p) (keys : (document.rules.map (·.1)).Nodup) {rule : Rule}
    (configurable : rule.isConfigurable = true) (change : RuleSettings → RuleSettings) :
    ∃ p', load (document.adjusting rule change) = .ok p' ∧ Adjusts rule change p p' := by
  have loads := load_eq_ok.mp accepted
  obtain ⟨rules', passed⟩ := exists_checkRules_adjusted loads.rules configurable change
  have accepted' : load (document.adjusting rule change) = .ok { p with rules := rules' } :=
    load_eq_ok.mpr { loads with rules := passed }
  have keys' : ((document.adjusting rule change).rules.map (·.1)).Nodup := nodup_adjustEntries rule change keys
  refine ⟨_, accepted', rfl, ?_, fun other different => ?_⟩
  · obtain ⟨settings, sets⟩ := exists_sets document.rules rule
    rw [settings_of_sets accepted keys sets, settings_of_sets accepted' keys' sets.adjust]
  · obtain ⟨settings, sets⟩ := exists_sets document.rules other
    rw [settings_of_sets accepted keys sets, settings_of_sets accepted' keys' (sets.adjust_other different)]

theorem load_switchingOff (accepted : load document = .ok p) (keys : (document.rules.map (·.1)).Nodup)
    {rules : List Rule} (configurable : ∀ rule ∈ rules, rule.isConfigurable = true) :
    ∃ p', load (document.switchingOff rules) = .ok p' ∧ SwitchedOff rules p p' := by
  induction rules generalizing document p with
  | nil => exact ⟨p, accepted, .refl p, by simp, fun _ => rfl⟩
  | cons rule rules ih =>
    obtain ⟨own, later⟩ := List.forall_mem_cons.mp configurable
    obtain ⟨q, first, adjusts⟩ := load_adjusting accepted keys own fun s => { s with enabled := some false }
    have keys' := nodup_adjustEntries rule (fun s => { s with enabled := some false }) keys
    obtain ⟨p', last, off⟩ := ih first keys' later
    refine ⟨p', last, adjusts.rest.trans off.rest, fun other => ?_, fun other => ?_⟩
    · by_cases same : other = rule
      · subst same
        simp [off.enabled, isEnabled_eq q, adjusts.own]
      · rw [off.enabled, isEnabled_eq q, adjusts.others other same, ← isEnabled_eq p]
        simp [same]
    · rw [off.severity, severity?_eq, severity?_eq]
      by_cases same : other = rule
      · rw [same, adjusts.own]
      · rw [adjusts.others other same]

theorem load_grading (accepted : load document = .ok p) (keys : (document.rules.map (·.1)).Nodup) {rule : Rule}
    (configurable : rule.isConfigurable = true) (severity : Severity) :
    ∃ p', load (document.grading rule severity) = .ok p' ∧ Graded rule severity p p' := by
  obtain ⟨p', accepted', adjusts⟩ :=
    load_adjusting accepted keys configurable fun s => { s with severity := some severity }
  refine ⟨p', accepted', adjusts.rest, fun other => ?_, ?_, fun other different => ?_⟩
  · rw [isEnabled_eq, isEnabled_eq]
    by_cases same : other = rule
    · rw [same, adjusts.own]
    · rw [adjusts.others other same]
  · rw [severity?_eq, adjusts.own]
  · rw [severity?_eq, severity?_eq, adjusts.others other different]

end Loading

end Layering.Policy
