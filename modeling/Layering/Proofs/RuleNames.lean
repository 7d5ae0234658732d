import Layering.Analysis
import Layering.Proofs.Policy.Switches
import Mathlib.Data.Fintype.Defs

/-! Choosing rules by their names and codes. What is chosen is a set: it has each rule that is named once, in the order
of the codes, however often, in which order and in which spelling the rules are named. -/
namespace Layering.Rule

/-- Whether a user means a rule by an entry of a list: the name of a rule that can be run, or its code in any case,
with blanks around it. -/
abbrev IsMeantBy (rule : Rule) (key : String) : Prop := rule.isConfigurable = true ∧ rule.IsNamedBy (Text.trim key)

instance : Fintype Rule := ⟨⟨all, by decide⟩, fun rule => by cases rule <;> decide⟩

instance : Std.TransCmp Rule.compare := inferInstanceAs (Std.TransCmp (compareOn code))

instance : Std.LawfulEqCmp Rule.compare where
  compare_self {a} := (Std.ReflCmp.compare_self : compare a.code a.code = .eq)
  eq_of_compare equal := code_injective (Std.LawfulEqCmp.eq_of_compare equal)

theorem pairwise_selectable : selectable.Pairwise fun a b => a.compare b = .lt := by decide

theorem trim_name (rule : Rule) : Text.trim rule.name = rule.name := by
  cases rule <;> decide +kernel

theorem mem_selectable {rule : Rule} : rule ∈ selectable ↔ rule.isConfigurable = true := by
  cases rule <;> decide

theorem ofUserKey?_eq_some_iff {key : String} {rule : Rule} : ofUserKey? key = some rule ↔ rule.IsMeantBy key := by
  rw [ofUserKey?, Option.filter_eq_some_iff, ofKey?_eq_some_iff, and_comm]

theorem ofUserKey?_eq_none_iff {key : String} : ofUserKey? key = none ↔ ∀ rule : Rule, ¬rule.IsMeantBy key := by
  simp only [← ofUserKey?_eq_some_iff, Option.eq_none_iff_forall_ne_some, ne_eq]

theorem requireUserKey_eq_ok {key : String} {rule : Rule} : requireUserKey key = .ok rule ↔ rule.IsMeantBy key := by
  rw [← ofUserKey?_eq_some_iff, requireUserKey]
  cases ofUserKey? key <;> simp

theorem requireUserKey_eq_error {key e : String} :
    requireUserKey key = .error e ↔ (∀ rule : Rule, ¬rule.IsMeantBy key) ∧ e = Text.trim key := by
  rw [← ofUserKey?_eq_none_iff, requireUserKey]
  cases ofUserKey? key <;> simp [eq_comm]

variable {keys keys' : List String} {chosen : List Rule}

/-- A selection fails only over an entry that names no rule. -/
theorem exists_select : (∃ chosen, select keys = .ok chosen) ↔ ∀ key ∈ keys, ∃ rule : Rule, rule.IsMeantBy key := by
  simp only [select, Policy.bind_eq_ok, Policy.pure_eq_ok]
  rw [exists_comm]
  simp only [exists_and_left, exists_eq', and_true, Policy.exists_mapM_eq_ok, requireUserKey_eq_ok]

/-- The entry of the first name of no rule is the error. -/
theorem select_eq_error {e : String} : select keys = .error e ↔
    ∃ before key after, keys = before ++ key :: after ∧ (∀ other ∈ before, ∃ rule : Rule, rule.IsMeantBy other) ∧
      (∀ rule : Rule, ¬rule.IsMeantBy key) ∧ e = Text.trim key := by
  have failing : keys.mapM requireUserKey = .error e ↔ _ := Policy.mapM_eq_error
  simp only [requireUserKey_eq_ok, requireUserKey_eq_error] at failing
  rw [← failing, select]
  cases keys.mapM requireUserKey <;> simp [bind, Except.bind, pure, Except.pure]

/-- What is chosen is picked from all rules that can be run. -/
theorem select_eq_ok (valid : ∀ key ∈ keys, ∃ rule : Rule, rule.IsMeantBy key) :
    select keys = .ok (selectable.filter fun rule => ∃ key ∈ keys, rule.IsMeantBy key) := by
  simp only [← requireUserKey_eq_ok] at valid
  obtain ⟨named, each⟩ := Policy.exists_mapM_eq_ok.mpr valid
  have meant (rule : Rule) : rule ∈ named ↔ ∃ key ∈ keys, rule.IsMeantBy key := by
    simp only [Policy.mem_of_mapM_eq_ok each, requireUserKey_eq_ok]
  have listed : ∀ rule ∈ named, rule ∈ selectable := fun rule member =>
    have ⟨_, _, configurable, _⟩ := (meant rule).mp member
    mem_selectable.mpr configurable
  rw [select, each]
  refine congrArg Except.ok ?_
  rw [sortDistinct_eq_filter pairwise_selectable listed]
  refine List.filter_congr fun rule _ => ?_
  rw [Bool.eq_iff_iff, List.contains_iff_mem, decide_eq_true_iff, meant]

theorem mem_select (selected : select keys = .ok chosen) {rule : Rule} :
    rule ∈ chosen ↔ ∃ key ∈ keys, rule.IsMeantBy key := by
  rw [select_eq_ok (exists_select.mp ⟨_, selected⟩)] at selected
  obtain rfl := Except.ok.inj selected
  rw [List.mem_filter, decide_eq_true_iff, mem_selectable]
  exact and_iff_right_of_imp fun ⟨_, _, configurable, _⟩ => configurable

theorem sublist_select (selected : select keys = .ok chosen) : chosen.Sublist selectable := by
  rw [select_eq_ok (exists_select.mp ⟨_, selected⟩)] at selected
  exact Except.ok.inj selected ▸ List.filter_sublist

/-- Naming rules selects just these, in the order of their codes. -/
theorem select_names {rules : List Rule} (configurable : ∀ rule ∈ rules, rule.isConfigurable = true) :
    select (rules.map name) = .ok (selectable.filter rules.contains) := by
  have own {rule : Rule} (named : rule ∈ rules) : rule.IsMeantBy rule.name :=
    ⟨configurable rule named, .inl (trim_name rule)⟩
  rw [select_eq_ok (List.forall_mem_map.mpr fun rule named => ⟨rule, own named⟩)]
  refine congrArg Except.ok (List.filter_congr fun rule _ => ?_)
  rw [Bool.eq_iff_iff, List.contains_iff_mem, decide_eq_true_iff]
  constructor
  · rintro ⟨_, listed, meant⟩
    obtain ⟨other, named, rfl⟩ := List.mem_map.mp listed
    exact meant.2.unique (own named).2 ▸ named
  · exact fun named => ⟨_, List.mem_map_of_mem named, own named⟩

/-- Lists that mean the same rules select the same. -/
theorem select_congr (valid : ∀ key ∈ keys, ∃ rule : Rule, rule.IsMeantBy key)
    (valid' : ∀ key ∈ keys', ∃ rule : Rule, rule.IsMeantBy key)
    (same : ∀ rule : Rule, (∃ key ∈ keys, rule.IsMeantBy key) ↔ ∃ key ∈ keys', rule.IsMeantBy key) :
    select keys = select keys' := by
  simp only [select_eq_ok valid, select_eq_ok valid', same]

/-- A selection is exact. It succeeds exactly if every entry means a rule; it then has the rules that are meant, each
once and in the order of all rules, and it is the same for every list that means the same rules. Otherwise the first
entry that means no rule is the error. -/
theorem select_exact (keys : List String) :
    ((∃ chosen, select keys = .ok chosen) ↔ ∀ key ∈ keys, ∃ rule : Rule, rule.IsMeantBy key) ∧
      (∀ chosen, select keys = .ok chosen → chosen.Sublist selectable ∧ chosen.Nodup ∧
        ∀ rule : Rule, rule ∈ chosen ↔ ∃ key ∈ keys, rule.IsMeantBy key) ∧
      (∀ keys', (∀ key ∈ keys, ∃ rule : Rule, rule.IsMeantBy key) → (∀ key ∈ keys', ∃ rule : Rule, rule.IsMeantBy key) →
        (∀ rule : Rule, (∃ key ∈ keys, rule.IsMeantBy key) ↔ ∃ key ∈ keys', rule.IsMeantBy key) →
        select keys' = select keys) ∧
      ∀ e, select keys = .error e ↔ ∃ before key after, keys = before ++ key :: after ∧
        (∀ other ∈ before, ∃ rule : Rule, rule.IsMeantBy other) ∧ (∀ rule : Rule, ¬rule.IsMeantBy key) ∧
        e = Text.trim key := by
  refine ⟨exists_select, fun chosen selected => ?_, fun keys' valid valid' same => ?_, fun e => select_eq_error⟩
  · have part := sublist_select selected
    exact ⟨part, (by decide : selectable.Nodup).sublist part, fun rule => mem_select selected⟩
  · exact (select_congr valid valid' same).symm

theorem select_exact_respelt :
    ([layerDirection, roleContent].Sublist selectable ∧ ∀ rule : Rule, rule ∈ [layerDirection, roleContent] ↔
      ∃ key ∈ ["role-content", " ll001 ", "LL004"], rule.IsMeantBy key) ∧
    select ["LL001", "role-content"] = select ["role-content", " ll001 ", "LL004"] ∧
    select ["LL001", " io-error ", "none"] = .error "io-error" := by
  obtain ⟨-, listed, respelt, -⟩ := select_exact ["role-content", " ll001 ", "LL004"]
  obtain ⟨-, -, -, failing⟩ := select_exact ["LL001", " io-error ", "none"]
  have selected : select ["role-content", " ll001 ", "LL004"] = .ok [layerDirection, roleContent] := by
    rw [select_eq_ok (by decide +kernel)]
    exact congrArg Except.ok (by decide +kernel)
  obtain ⟨part, -, meant⟩ := listed _ selected
  refine ⟨⟨part, meant⟩, respelt _ (by decide +kernel) (by decide +kernel) (by decide +kernel), (failing _).mpr ?_⟩
  exact ⟨["LL001"], " io-error ", ["none"], rfl, by decide +kernel, by decide +kernel, by decide +kernel⟩

end Layering.Rule
