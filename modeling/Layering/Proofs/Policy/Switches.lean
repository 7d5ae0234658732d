import Layering.Proofs.Policy.Layers
import Layering.Proofs.Sorting

/-! The switches of rules in an accepted policy. A key is the name of a rule or its code in any case, so that several
keys may name one rule. Of those the last one in the order of keys stands for the rule, and what the others set takes
effect only as far as the last one keeps it. -/
namespace Layering

/-- A key names a rule by its name, or by its code in any case. -/
def Rule.IsNamedBy (rule : Rule) (key : String) : Prop := key = rule.name ∨ Rule.upper key = rule.code

instance (rule : Rule) (key : String) : Decidable (rule.IsNamedBy key) := by
  unfold Rule.IsNamedBy; infer_instance

theorem Rule.upper_name_ne_code (a b : Rule) : Rule.upper a.name ≠ b.code := by
  cases a <;> cases b <;> decide +kernel

theorem Rule.IsNamedBy.unique {a b : Rule} {key : String} (first : a.IsNamedBy key) (second : b.IsNamedBy key) :
    a = b := by
  rcases first with rfl | code <;> rcases second with name | code'
  · exact Rule.name_injective name
  · exact absurd code' (Rule.upper_name_ne_code a b)
  · exact absurd (name ▸ code) (Rule.upper_name_ne_code b a)
  · exact Rule.code_injective (code.symm.trans code')

theorem Rule.ofKey?_eq_some_iff {rule : Rule} {key : String} : Rule.ofKey? key = some rule ↔ rule.IsNamedBy key := by
  have named {other : Rule} (found : Rule.ofKey? key = some other) : other.IsNamedBy key := by
    have test := List.find?_some found
    simp only [Bool.or_eq_true, decide_eq_true_eq] at test
    exact test.imp Eq.symm Eq.symm
  refine ⟨named, fun own => ?_⟩
  cases found : Rule.ofKey? key with
  | some other => rw [(named found).unique own]
  | none =>
    have all : rule ∈ Rule.all := by cases rule <;> decide
    have test := List.find?_eq_none.mp found rule all
    simp only [Bool.or_eq_true, decide_eq_true_eq] at test
    exact absurd (own.imp Eq.symm Eq.symm) test

namespace Policy

theorem ruleAt_eq_ok {key : String} {rule : Rule} :
    ruleAt key = .ok rule ↔ rule.IsNamedBy key ∧ rule.isConfigurable = true := by
  rw [← Rule.ofKey?_eq_some_iff, ← Option.filter_eq_some_iff, ruleAt]
  cases (Rule.ofKey? key).filter (·.isConfigurable) <;> simp

/-- An entry of the table of switches. -/
abbrev Switch := String × RuleSettings

/-- The last entry of a rule in the order of keys. -/
structure IsLast (entries : List Switch) (rule : Rule) (entry : Switch) : Prop where
  listed : entry ∈ entries
  named : rule.IsNamedBy entry.1
  last : ∀ other ∈ entries, rule.IsNamedBy other.1 → (compare other.1 entry.1).isLE = true

/-- The policy says about a rule what an entry sets for it. -/
structure TakesEffect (p : Policy) (rule : Rule) (settings : RuleSettings) : Prop where
  enabled : ∀ value, settings.enabled = some value → p.isEnabled rule = value
  severity : ∀ value, settings.severity = some value → p.severity? rule = some value

/-- The later settings set again, or have by default, what the earlier ones set. -/
structure Keeps (later earlier : RuleSettings) : Prop where
  enabled : ∀ value, earlier.enabled = some value → later.enabled.getD true = value
  severity : ∀ value, earlier.severity = some value → later.severity = some value

/-- The last entry of every rule keeps what its other entries set. -/
def LastKeeps (entries : List Switch) : Prop :=
  ∀ rule last, IsLast entries rule last → ∀ entry ∈ entries, rule.IsNamedBy entry.1 → Keeps last.2 entry.2

/-- Two entries of one rule set different values. -/
def Contradictory (entries : List Switch) : Prop :=
  ∃ (rule : Rule), ∃ a ∈ entries, ∃ b ∈ entries, rule.IsNamedBy a.1 ∧ rule.IsNamedBy b.1 ∧
    ((∃ value ∈ a.2.enabled, ∃ value' ∈ b.2.enabled, value ≠ value') ∨
      ∃ value ∈ a.2.severity, ∃ value' ∈ b.2.severity, value ≠ value')

theorem IsLast.unique {entries : List Switch} (keys : (entries.map (·.1)).Nodup) {rule : Rule} {a b : Switch}
    (first : IsLast entries rule a) (second : IsLast entries rule b) : a = b := by
  have level : compare a.1 b.1 = .eq :=
    Std.OrientedCmp.isLE_antisymm (second.last a first.listed first.named) (first.last b second.listed second.named)
  exact List.inj_on_of_nodup_map keys first.listed second.listed (Std.LawfulEqCmp.eq_of_compare level)

theorem IsLast.perm {entries entries' : List Switch} (same : entries.Perm entries') {rule : Rule} {entry : Switch}
    (final : IsLast entries rule entry) : IsLast entries' rule entry where
  listed := same.subset final.listed
  named := final.named
  last other member := final.last other (same.symm.subset member)

/-- The entries with the last key first. -/
def lastFirst (entries : List Switch) : List Switch := (sortByKey entries).reverse

theorem perm_lastFirst (entries : List Switch) : (lastFirst entries).Perm entries :=
  (List.reverse_perm _).trans (List.mergeSort_perm _ _)

theorem pairwise_lastFirst (entries : List Switch) :
    (lastFirst entries).Pairwise fun a b => (compare b.1 a.1).isLE = true := by
  have ordered : Std.TransCmp fun a b : Switch => compare a.1 b.1 :=
    inferInstanceAs (Std.TransCmp (compareOn fun entry : Switch => entry.1))
  have sorted : (sortBy (fun a b : Switch => compare a.1 b.1) entries).Pairwise fun a b =>
      (compare a.1 b.1).isLE = true := pairwise_sortBy entries
  exact List.pairwise_reverse.mpr sorted

/-- The first entry of a rule in descending order is its last one. -/
theorem isLast_of_find? {entries : List Switch} {rule : Rule} {entry : Switch}
    (found : (lastFirst entries).find? (fun entry => rule.IsNamedBy entry.1) = some entry) :
    IsLast entries rule entry := by
  obtain ⟨named, before, after, split, skipped⟩ := List.find?_eq_some_iff_append.mp found
  have descends := pairwise_lastFirst entries
  rw [split] at descends
  have below := (List.pairwise_cons.mp (List.pairwise_append.mp descends).2.1).1
  refine IsLast.perm (perm_lastFirst entries) ⟨by simp [split], by simpa using named, fun other member named' => ?_⟩
  rw [split] at member
  rcases List.mem_append.mp member with earlier | member
  · simpa [named'] using skipped other earlier
  · rcases List.mem_cons.mp member with rfl | later
    · simp [Std.ReflCmp.compare_self]
    · exact below other later

/-- Looking up a rule among checked entries finds what the first entry that names it sets. -/
theorem lookup_checked {entries : List Switch} {rules : List (Rule × RuleSettings)}
    (checked : List.Forall₂ (fun entry r => r.1.IsNamedBy entry.1 ∧ r.2 = entry.2) entries rules) (rule : Rule) :
    rules.lookup rule = (entries.find? fun entry => rule.IsNamedBy entry.1).map (·.2) := by
  induction checked with
  | nil => rfl
  | @cons entry r entries rules first later ih =>
    obtain ⟨other, settings⟩ := r
    obtain ⟨named, rfl⟩ := first
    by_cases own : rule = other
    · subst own
      simp [named]
    · have skipped : ¬rule.IsNamedBy entry.1 := fun same => own (same.unique named)
      simp [List.lookup_cons, beq_false_of_ne own, skipped, ih]

theorem checkRules_eq_ok {entries : List Switch} {rules : List (Rule × RuleSettings)}
    (passed : checkRules entries = .ok rules) :
    List.Forall₂ (fun entry r => r.1.IsNamedBy entry.1 ∧ r.2 = entry.2) (lastFirst entries) rules := by
  simp only [checkRules, bind_eq_ok, pure_eq_ok, mapM_eq_ok] at passed
  obtain ⟨checked, each, rfl⟩ := passed
  refine List.forall₂_reverse_iff.mpr (each.imp fun entry r passed => ?_)
  obtain ⟨rule, accepted, rfl⟩ := passed
  exact ⟨(ruleAt_eq_ok.mp accepted).1, rfl⟩

theorem exists_isLast {entries : List Switch} {rule : Rule} {entry : Switch} (listed : entry ∈ entries)
    (named : rule.IsNamedBy entry.1) : ∃ last, IsLast entries rule last := by
  cases found : (lastFirst entries).find? (fun entry => rule.IsNamedBy entry.1) with
  | some last => exact ⟨last, isLast_of_find? found⟩
  | none =>
    have none := List.find?_eq_none.mp found entry ((perm_lastFirst entries).symm.subset listed)
    exact absurd named (by simpa using none)

theorem LastKeeps.consistent {entries : List Switch} (keeps : LastKeeps entries) : ¬Contradictory entries := by
  rintro ⟨rule, a, ha, b, hb, named, named', differ⟩
  obtain ⟨last, final⟩ := exists_isLast ha named
  have first := keeps rule last final a ha named
  have second := keeps rule last final b hb named'
  rcases differ with ⟨value, set, value', set', differ⟩ | ⟨value, set, value', set', differ⟩
  · exact differ ((first.enabled value set).symm.trans (second.enabled value' set'))
  · exact differ (Option.some.inj ((first.severity value set).symm.trans (second.severity value' set')))

/-- The last entry of a rule is what an accepted policy holds for the rule. -/
theorem lookup_of_isLast {document : Document} {p : Policy} (accepted : load document = .ok p)
    (keys : (document.rules.map (·.1)).Nodup) {rule : Rule} {last : Switch}
    (final : IsLast document.rules rule last) : p.rules.lookup rule = some last.2 := by
  rw [lookup_checked (checkRules_eq_ok (load_eq_ok.mp accepted).rules) rule]
  cases found : (lastFirst document.rules).find? (fun entry => rule.IsNamedBy entry.1) with
  | some entry => rw [(isLast_of_find? found).unique keys final, Option.map_some]
  | none =>
    have none := List.find?_eq_none.mp found last ((perm_lastFirst _).symm.subset final.listed)
    exact absurd final.named (by simpa using none)

theorem takesEffect_iff_keeps {p : Policy} {rule : Rule} {later earlier : RuleSettings}
    (found : p.rules.lookup rule = some later) : TakesEffect p rule earlier ↔ Keeps later earlier := by
  have enabled : p.isEnabled rule = later.enabled.getD true := by simp [Policy.isEnabled, found]
  have severity : p.severity? rule = later.severity := by simp [Policy.severity?, found]
  constructor
  · intro effect
    exact ⟨fun value set => enabled ▸ effect.enabled value set, fun value set => severity ▸ effect.severity value set⟩
  · intro keeps
    exact ⟨fun value set => enabled ▸ keeps.enabled value set, fun value set => severity ▸ keeps.severity value set⟩

/-- All entries of an accepted table take effect, and none contradict each other, exactly if the last entry of every
rule keeps what the other entries of the rule set. -/
theorem entries_take_effect_iff {document : Document} {p : Policy} (accepted : load document = .ok p)
    (keys : (document.rules.map (·.1)).Nodup) :
    ((∀ entry ∈ document.rules, ∀ rule : Rule, rule.IsNamedBy entry.1 → TakesEffect p rule entry.2) ∧
      ¬Contradictory document.rules) ↔ LastKeeps document.rules := by
  constructor
  · rintro ⟨effect, -⟩ rule last final entry listed named
    exact (takesEffect_iff_keeps (lookup_of_isLast accepted keys final)).mp (effect entry listed rule named)
  · intro keeps
    refine ⟨fun entry listed rule named => ?_, keeps.consistent⟩
    obtain ⟨last, final⟩ := exists_isLast listed named
    exact (takesEffect_iff_keeps (lookup_of_isLast accepted keys final)).mpr (keeps rule last final entry listed named)

section TwoLayers

theorem checkRules_of_sorted {entries : List Switch}
    (sorted : entries.Pairwise fun a b => (compare a.1 b.1).isLE = true) : checkRules entries =
      (entries.mapM fun (entry : Switch) => return (← ruleAt entry.1, entry.2)).map List.reverse := by
  rw [checkRules, sortByKey, List.mergeSort_of_pairwise sorted]
  cases entries.mapM fun (entry : Switch) => (do return (← ruleAt entry.1, entry.2) : Except Error _) <;> rfl

/-- The switch of a rule under its code, and again under its name with something else besides. -/
def repeatedSwitch : List Switch :=
  [("LL001", { enabled := some false }), ("layer-direction", { enabled := some false, severity := some .info })]

theorem lastKeeps_repeatedSwitch : LastKeeps repeatedSwitch := by
  intro rule last final entry listed named
  have direction : rule = .layerDirection := by
    simp only [repeatedSwitch, List.mem_cons, List.not_mem_nil, or_false] at listed
    rcases listed with rfl | rfl
    · exact named.unique (.inr (by decide +kernel))
    · exact named.unique (.inl (by decide +kernel))
  have above := final.last ("layer-direction", { enabled := some false, severity := some .info }) (by decide)
    (direction ▸ .inl rfl)
  have listed' := final.listed
  simp only [repeatedSwitch, List.mem_cons, List.not_mem_nil, or_false] at listed listed'
  rcases listed' with rfl | rfl
  · exact absurd above (by decide +kernel)
  · rcases listed with rfl | rfl <;> exact ⟨by simp, by simp⟩

theorem entries_take_effect_repeatedSwitch :
    let p := { twoLayersPolicy with rules := [
      (.layerDirection, { enabled := some false, severity := some .info }),
      (.layerDirection, { enabled := some false })] }
    load { twoLayers with rules := repeatedSwitch } = .ok p ∧ (repeatedSwitch.map (·.1)).Nodup ∧
      TakesEffect p .layerDirection { enabled := some false } ∧ ¬Contradictory repeatedSwitch := by
  intro p
  have accepted : load { twoLayers with rules := repeatedSwitch } = .ok p := by
    refine load_eq_ok.mpr { load_eq_ok.mp load_twoLayers with rules := ?_ }
    rw [checkRules_of_sorted (by decide +kernel)]
    decide +kernel
  have keys : (repeatedSwitch.map (·.1)).Nodup := by decide
  obtain ⟨effect, consistent⟩ := (entries_take_effect_iff accepted keys).mpr lastKeeps_repeatedSwitch
  exact ⟨accepted, keys, effect ("LL001", _) (by simp [repeatedSwitch]) _ (.inr (by decide +kernel)), consistent⟩

/-- A switch under the code of a rule that is lost to a grade under its name. -/
def lostSwitch : List Switch := [("LL001", { enabled := some false }), ("layer-direction", { severity := some .info })]

/-- The rule is switched off under its code and runs nevertheless. -/
theorem switch_lost :
    let p := { twoLayersPolicy with rules := [
      (.layerDirection, { severity := some .info }), (.layerDirection, { enabled := some false })] }
    load { twoLayers with rules := lostSwitch } = .ok p ∧ (lostSwitch.map (·.1)).Nodup ∧
      ("LL001", { enabled := some false }) ∈ lostSwitch ∧ Rule.layerDirection.IsNamedBy "LL001" ∧
      p.isEnabled .layerDirection = true := by
  intro p
  refine ⟨load_eq_ok.mpr { load_eq_ok.mp load_twoLayers with rules := ?_ }, by decide, by decide,
    .inr (by decide +kernel), rfl⟩
  rw [checkRules_of_sorted (by decide +kernel)]
  decide +kernel

end TwoLayers

end Policy

end Layering
