import Layering.Policy.Load
import Mathlib.Data.List.Forall2

/-! Checks that succeed. A chain of checks succeeds through every one of its steps, and what each step keeps holds
of the result. -/
namespace Layering.Policy

@[simp] theorem bind_eq_ok {check : Except ε α} {next : α → Except ε β} {b : β} :
    (check >>= next) = .ok b ↔ ∃ a, check = .ok a ∧ next a = .ok b := by
  cases check <;> simp [bind, Except.bind]

theorem bind_congr_of_ok {check : Except ε α} {next next' : α → Except ε β}
    (same : ∀ a, check = .ok a → next a = next' a) : check >>= next = check >>= next' := by
  cases check with
  | error e => rfl
  | ok a => exact same a rfl

@[simp] theorem pure_eq_ok {a b : α} : (pure a : Except ε α) = .ok b ↔ a = b := by
  simp [pure, Except.pure]

@[simp] theorem mapError_eq_ok {check : Except ε α} {change : ε → ε'} {a : α} :
    check.mapError change = .ok a ↔ check = .ok a := by
  cases check <;> simp [Except.mapError]

/-- A refusal lets pass exactly what does not meet its condition. -/
@[simp] theorem refuse_eq_ok {condition : Prop} [Decidable condition] {e : ε} {next : PUnit → Except ε α} {a : α} :
    (if condition then Except.error e >>= next else next ⟨⟩) = .ok a ↔ ¬condition ∧ next ⟨⟩ = .ok a := by
  split <;> simp_all [bind, Except.bind]

theorem foldlM_invariant {step : σ → α → Except ε σ} (holds : σ → Prop)
    (kept : ∀ s a next, holds s → step s a = .ok next → holds next) {items : List α} {s last : σ}
    (start : holds s) (passed : items.foldlM step s = .ok last) : holds last := by
  induction items generalizing s with
  | nil =>
    cases passed
    exact start
  | cons a rest ih =>
    simp only [List.foldlM_cons, bind_eq_ok] at passed
    obtain ⟨next, first, later⟩ := passed
    exact ih (kept s a next start first) later

/-- A chain of checks fails at the first step that fails. -/
theorem exists_of_foldlM_eq_error {step : σ → α → Except ε σ} {items : List α} {s : σ} {e : ε}
    (failed : items.foldlM step s = .error e) :
    ∃ before a after reached, items = before ++ a :: after ∧ before.foldlM step s = .ok reached ∧
      step reached a = .error e := by
  induction items generalizing s with
  | nil => cases failed
  | cons a rest ih =>
    rw [List.foldlM_cons] at failed
    cases first : step s a with
    | error e' =>
      rw [first] at failed
      obtain rfl : e' = e := Except.error.inj failed
      exact ⟨[], a, rest, s, rfl, rfl, first⟩
    | ok next =>
      rw [first] at failed
      obtain ⟨before, b, after, reached, rfl, passed, here⟩ := ih failed
      refine ⟨a :: before, b, after, reached, rfl, ?_, here⟩
      rw [List.foldlM_cons, first]
      exact passed

/-- A check of all items succeeds with what the check of each of them gives. -/
theorem mapM_eq_ok {check : α → Except ε β} {items : List α} {results : List β} :
    items.mapM check = .ok results ↔ List.Forall₂ (fun a b => check a = .ok b) items results := by
  induction items generalizing results with
  | nil =>
    simp only [List.mapM_nil, pure_eq_ok, List.forall₂_nil_left_iff]
    exact eq_comm
  | cons a rest ih =>
    simp only [List.mapM_cons, bind_eq_ok, pure_eq_ok, ih, List.forall₂_cons_left_iff]
    constructor
    · rintro ⟨b, first, bs, later, rfl⟩
      exact ⟨b, bs, first, later, rfl⟩
    · rintro ⟨b, bs, first, later, rfl⟩
      exact ⟨b, first, bs, later, rfl⟩

theorem mem_of_mapM_eq_ok {check : α → Except ε β} {items : List α} {results : List β}
    (passed : items.mapM check = .ok results) {b : β} : b ∈ results ↔ ∃ a ∈ items, check a = .ok b := by
  have each := mapM_eq_ok.mp passed
  clear passed
  induction each with
  | nil => simp
  | @cons a first items results here later ih =>
    simp only [List.mem_cons, exists_eq_or_imp, ih, here, Except.ok.injEq, eq_comm (a := b)]

theorem exists_mapM_eq_ok {check : α → Except ε β} {items : List α} :
    (∃ results, items.mapM check = .ok results) ↔ ∀ a ∈ items, ∃ b, check a = .ok b := by
  induction items with
  | nil => simp
  | cons a rest ih =>
    simp only [List.mapM_cons, bind_eq_ok, pure_eq_ok, List.forall_mem_cons, ← ih]
    constructor
    · rintro ⟨_, b, first, results, later, -⟩
      exact ⟨⟨b, first⟩, results, later⟩
    · rintro ⟨⟨b, first⟩, results, later⟩
      exact ⟨_, b, first, results, later, rfl⟩

/-- A check of all items fails with what the check of the first item that fails says. -/
theorem mapM_eq_error {check : α → Except ε β} {items : List α} {e : ε} : items.mapM check = .error e ↔
    ∃ before a after, items = before ++ a :: after ∧ (∀ b ∈ before, ∃ result, check b = .ok result) ∧
      check a = .error e := by
  induction items with
  | nil => simp [pure, Except.pure]
  | cons first rest ih =>
    rw [List.mapM_cons]
    cases here : check first with
    | error e' =>
      show (Except.error e' : Except ε (List β)) = .error e ↔ _
      rw [Except.error.injEq]
      constructor
      · rintro rfl
        exact ⟨[], first, rest, rfl, nofun, here⟩
      · rintro ⟨before, a, after, split, passed, failed⟩
        cases before with
        | nil =>
          rw [(List.cons.inj split).1, failed] at here
          exact (Except.error.inj here).symm
        | cons b before =>
          obtain ⟨result, passed⟩ := passed b List.mem_cons_self
          rw [(List.cons.inj split).1, passed] at here
          cases here
    | ok b =>
      have later : (do let bs ← rest.mapM check; pure (b :: bs)) = Except.error e ↔ rest.mapM check = .error e := by
        cases rest.mapM check <;> simp [bind, Except.bind, pure, Except.pure]
      refine later.trans (ih.trans ?_)
      constructor
      · rintro ⟨before, a, after, rfl, passed, failed⟩
        exact ⟨first :: before, a, after, rfl, List.forall_mem_cons.mpr ⟨⟨b, here⟩, passed⟩, failed⟩
      · rintro ⟨before, a, after, split, passed, failed⟩
        cases before with
        | nil =>
          rw [(List.cons.inj split).1, failed] at here
          cases here
        | cons c before =>
          exact ⟨before, a, after, (List.cons.inj split).2, (List.forall_mem_cons.mp passed).2, failed⟩

/-- A policy that is what the checks of all parts of a document give. -/
structure Loads (document : Document) (p : Policy) : Prop where
  discovery : checkAnalyzer document.analyzer = .ok p.discovery
  layers : checkLayers document.layers = .ok p.layers
  aliases : checkAliases document.aliases = .ok p.aliases
  stems : checkRoles document.roles = .ok p.stems
  modules : checkModules document.modules = .ok p.modules
  roleRules : (document.roleRules.getD (builtinRoleRules p.layers)).foldlM (addRoleRule p.layers) [] = .ok p.roleRules
  forbidden : checkEach checkForbidden document.forbidden = .ok p.forbidden
  rules : checkRules document.rules = .ok p.rules

theorem load_eq_ok {document : Document} {p : Policy} : load document = .ok p ↔ Loads document p := by
  simp only [load, bind_eq_ok, pure_eq_ok]
  constructor
  · rintro ⟨_, discovery, _, layers, _, aliases, _, stems, _, modules, _, roleRules, _, forbidden, _, rules, rfl⟩
    exact ⟨discovery, layers, aliases, stems, modules, roleRules, forbidden, rules⟩
  · rintro ⟨discovery, layers, aliases, stems, modules, roleRules, forbidden, rules⟩
    exact ⟨_, discovery, _, layers, _, aliases, _, stems, _, modules, _, roleRules, _, forbidden, _, rules, rfl⟩

end Layering.Policy
