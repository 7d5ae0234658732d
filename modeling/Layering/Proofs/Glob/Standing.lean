import Layering.Proofs.Discovery.Exactness
import Layering.Proofs.Glob.Ways

/-! Components of a pattern that stand for names. Whether such a name is escaped or spelt plainly, the component leads
from a place where the name leads as a segment of a path, and several of them lead along the path. -/
namespace Layering

namespace Tree

theorem inherited_distinct : Inherited Distinct fun _ => True where
  name _ _ := trivial
  tree {t _} distinct listed := by
    cases t with
    | file bytes => cases listed
    | directory entries => exact (distinct_directory.mp distinct).2 _ listed

theorem Distinct.nodup {t : Tree} (distinct : t.Distinct) : (t.entries.map (·.1)).Nodup := by
  cases distinct with
  | file bytes => exact List.nodup_nil
  | directory names inside => exact names

end Tree

theorem filter_key_eq {α : Type} {entries : List (String × α)} (distinct : (entries.map (·.1)).Nodup) (name : String) :
    (entries.filter fun entry => entry.1 = name) = (entries.lookup name).toList.map fun a => (name, a) := by
  induction entries with
  | nil => rfl
  | cons entry entries ih =>
    obtain ⟨other, a⟩ := entry
    rw [List.map_cons, List.nodup_cons] at distinct
    by_cases same : other = name
    · subst same
      have rest : (entries.filter fun entry => entry.1 = other) = [] := by
        rw [List.filter_eq_nil_iff]
        intro entry listed
        have : entry.1 ≠ other := fun same => distinct.1 (List.mem_map.mpr ⟨entry, listed, same⟩)
        simpa using this
      simp [rest]
    · have other' : (name == other) = false := by simpa using Ne.symm same
      rw [List.filter_cons_of_neg (by simpa using same), ih distinct.2, List.lookup_cons, other']

namespace Glob

section Standing

/-- A component that leads where a segment of a path does. -/
structure StandsFor (component : Glob) (name : String) : Prop where
  plain : component.isRecursive = false
  entries : ∀ {s : Spot}, s.Throughout Tree.Distinct →
    entriesFor component s = ((s.step name).toOption.toList.map fun child => (name, child))

variable {component : Glob} {name : String}

theorem standsFor_of_literal? (literal : literal? component = some name) : StandsFor component name where
  plain := by simp [isRecursive, literal?_eq_some.mp literal]
  entries {s} _ := by
    simp only [entriesFor, literal]
    cases s.step name <;> rfl

/-- What an escaped name describes is the entry of that name, even if the name is no literal once it is escaped. -/
theorem standsFor_exactly (name : String) : StandsFor (exactly name) name where
  plain := isRecursive_exactly name
  entries {s} distinct := by
    cases literal : literal? (exactly name) with
    | some text => exact literal?_exactly literal ▸ (standsFor_of_literal? literal).entries distinct
    | none =>
      have proper : name ≠ "" ∧ name ≠ "." ∧ name ≠ ".." := by
        by_contra other
        have still : name = "" ∨ name = "." ∨ name = ".." := by tauto
        cases (literal?_exactly_of_still still).symm.trans literal
      have dots : special (exactly name) s = [] := by
        rw [special]
        split
        · simp [isMatch_exactly, Ne.symm proper.2.1, Ne.symm proper.2.2]
        · rfl
      have named : (s.children.filter fun entry => (exactly name).isMatch entry.1) =
          (s.down? name).toList.map fun child => (name, child) := by
        have matching (text : String) : (exactly name).isMatch text = decide (text = name) := by
          rw [Bool.eq_iff_iff, isMatch_exactly, decide_eq_true_iff]
        simp only [Spot.children, List.filter_map, Function.comp_def, matching, filter_key_eq distinct.here.nodup,
          Spot.down?, Tree.entry?]
        cases s.here.entries.lookup name <;> rfl
      simp only [entriesFor, literal, dots, named, List.append_nil]
      by_cases file : s.here.isFile = true
      · have none : s.down? name = none := by
          cases here : s.here with
          | file bytes => simp [Spot.down?, Tree.entry?, Tree.entries, here]
          | directory entries => simp [Tree.isFile, here] at file
        rw [none, Spot.step, if_pos file]
        rfl
      · rw [Spot.step, if_neg file, if_neg (by simp [proper.1, proper.2.1]), if_neg proper.2.2]
        cases s.down? name <;> rfl

variable {s : Spot} {front : List Glob} {names : List String}

theorem expand_cons (plain : component.isRecursive = false) (others : List Glob) :
    expand (component :: others) s =
      extend ((entriesFor component s).map fun entry => ([entry.1], entry.2)) (expand others) := by
  cases others with
  | nil =>
    rw [extend, List.flatMap_map]
    simp [expand, plain, List.map_eq_flatMap]
  | cons next others => simp [expand, plain]

/-- Components that stand for names lead where these do, and the others go on from there. -/
theorem expand_standing (distinct : s.Throughout Tree.Distinct) (stand : List.Forall₂ StandsFor front names)
    (components : List Glob) :
    expand (front ++ components) s =
      match names.foldlM Spot.step s with
      | .ok spot => (expand components spot).map (names ++ ·)
      | .error _ => [] := by
  induction stand generalizing s with
  | nil => simp [pure, Except.pure]
  | @cons component name front names first _ ih =>
    rw [List.cons_append, expand_cons first.plain, first.entries distinct, List.foldlM_cons]
    cases went : s.step name with
    | error e => rfl
    | ok child =>
      have onwards := ih (distinct.step Tree.inherited_distinct went).2
      simp only [Except.toOption, Option.toList_some, List.map_cons, List.map_nil, extend, List.flatMap_cons,
        List.flatMap_nil, List.append_nil, onwards, bind, Except.bind]
      cases names.foldlM Spot.step child with
      | error e => rfl
      | ok spot => simp [List.map_map, Function.comp_def]

end Standing

section Literal

variable {text : String} {glob : Glob}

/-- A text that has no character with a meaning in a pattern. -/
def IsLiteral (text : String) : Prop := ∀ c ∈ text.toList, c ≠ '?' ∧ c ≠ '*' ∧ c ≠ '['

instance (text : String) : Decidable (IsLiteral text) := List.decidableBAll _ text.toList

theorem tokensFrom_of_plain {cs : List Char} (plain : ∀ c ∈ cs, c ≠ '?' ∧ c ≠ '*' ∧ c ≠ '[') (position : Nat)
    (before : Option Char) (tokens : List Token) :
    tokensFrom position before tokens cs = .ok (tokens.reverse ++ cs.map .char) := by
  induction cs generalizing position before tokens with
  | nil => simp [tokensFrom]
  | cons c cs ih =>
    obtain ⟨⟨question, star, opening⟩, later⟩ := List.forall_mem_cons.mp plain
    rw [tokensFrom_char question star opening, ih later]
    simp

theorem parse_of_isLiteral (literal : IsLiteral text) : parse text = .ok ⟨text, text.toList.map .char⟩ := by
  rw [parse, tokensFrom_of_plain literal]
  rfl

/-- The components of a literal pattern stand for the names that it is made of. -/
theorem components_of_isLiteral (literal : IsLiteral glob.text) :
    ∃ components, glob.components = .ok components ∧
      List.Forall₂ StandsFor components (Text.split '/' glob.text) := by
  have names : ∀ name ∈ Text.split '/' glob.text, IsLiteral name := by
    intro name listed c member
    obtain ⟨piece, inside, rfl⟩ := List.mem_map.mp listed
    exact literal c (Text.mem_of_mem_segments inside (by simpa using member))
  refine ⟨(Text.split '/' glob.text).map fun name => ⟨name, name.toList.map .char⟩, ?_, ?_⟩
  · rw [components, Policy.mapM_eq_ok, List.forall₂_map_right_iff, List.forall₂_same]
    exact fun name listed => parse_of_isLiteral (names name listed)
  · rw [List.forall₂_map_left_iff, List.forall₂_same]
    exact fun name _ => standsFor_of_literal? (literal?_eq_some.mpr rfl)

end Literal

end Glob

/-- Names lead from a place exactly if there is something below it on that way. -/
theorem Spot.isSome_run {s : Spot} {names : List String} (proper : ∀ name ∈ names, Path.IsName name) :
    (names.foldlM Spot.step s).toOption.isSome = (s.here.below? names).isSome := by
  induction names generalizing s with
  | nil => rfl
  | cons name names ih =>
    obtain ⟨first, later⟩ := List.forall_mem_cons.mp proper
    rw [List.foldlM_cons, Tree.below?, Spot.step]
    by_cases file : s.here.isFile = true
    · rw [if_pos file]
      cases here : s.here with
      | file bytes => rfl
      | directory entries => simp [Tree.isFile, here] at file
    · rw [if_neg file, if_neg (by simp [first.some?, first.notHere]), if_neg first.notUp, Spot.down?]
      cases s.here.entry? name with
      | none => rfl
      | some child => exact ih later

end Layering
