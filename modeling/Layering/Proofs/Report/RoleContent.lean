import Layering.Check.RoleContent
import Layering.Proofs.Classification
import Layering.Proofs.Source.Blanking
import Layering.Proofs.Text.Occurrences
import Layering.Proofs.Text.Slashed

/-! What is denied to the files of a role. A text is searched for where comments are blank, but found where it stands in
the source: a space is all that blanking adds, so that a text without spaces is found in code only. -/
namespace Layering

namespace Source

/-- A character of a comment, the marks around it included. -/
def InComment (text : String) (n : Nat) : Prop :=
  (reached false text n).mode.uncommented ≠ (reached false text n).mode ∨
    (reached false text n).mode = .code ∧ ∃ c, text.toList[n]? = some c ∧ OpensComment c text.toList[n + 1]?

variable {text : String} {n : Nat} {c : Char}

theorem emitted_of_inComment (here : text.toList[n]? = some c) (comment : InComment text n) :
    emitted false (reached false text n) c text.toList[n + 1]? = blank c := by
  rcases comment with inside | ⟨code, d, here', opens⟩
  · cases mode : (reached false text n).mode <;> simp_all [emitted, Mode.uncommented]
  · obtain rfl := Option.some.inj (here.symm.trans here')
    simp only [emitted, code]
    refine (if_pos opens).trans ?_
    rw [opens.1]
    rfl

/-- What shows of a text without its comments was there, unless it is a space, and it was outside of comments, unless it
is a line break. -/
theorem getElem?_of_shown (shown : (sanitize false text).toList[n]? = some c) (solid : c ≠ ' ') :
    text.toList[n]? = some c ∧ (c ≠ '\n' → ¬InComment text n) := by
  cases source : text.toList[n]? with
  | none =>
    rw [getElem?_sanitize_of_end source] at shown
    cases shown
  | some d =>
    rw [getElem?_sanitize source, Option.some.injEq] at shown
    obtain rfl := eq_of_emitted shown solid
    refine ⟨rfl, fun inLine comment => ?_⟩
    rw [emitted_of_inComment source comment, blank, if_neg inLine] at shown
    exact solid shown.symm

/-- A text without spaces is found where it stands in the source, and without line breaks no part of it is in a
comment. -/
theorem occursAt_of_sanitize {needle : List Char} (found : Text.OccursAt needle (sanitize false text).toList n)
    (solid : ' ' ∉ needle) : Text.OccursAt needle text.toList n ∧
      ('\n' ∉ needle → ∀ k < needle.length, ¬InComment text (n + k)) := by
  have shown (k : Nat) (inside : k < needle.length) :=
    getElem?_of_shown (found.getElem? inside) (ne_of_mem_of_not_mem (List.getElem_mem inside) solid)
  refine ⟨Text.occursAt_of_getElem? fun k inside => (shown k inside).1, fun inLine k inside => ?_⟩
  exact (shown k inside).2 (ne_of_mem_of_not_mem (List.getElem_mem inside) inLine)

end Source

namespace Policy

theorem literal_ne_of_checkRoleRule {layers : List Layer} {index : Nat} {entry : RoleRuleEntry} {rule : RoleRule}
    (passed : checkRoleRule layers index entry = .ok rule) : ∀ needle, .literal needle ∈ rule.text → needle ≠ "" := by
  simp only [checkRoleRule, refuse_eq_ok, bind_eq_ok, pure_eq_ok] at passed
  obtain ⟨-, role, -, literals, literal, expressions, regular, denyLayers, -, -, rfl⟩ := passed
  intro needle listed
  rcases List.mem_append.mp listed with listed | listed
  · obtain ⟨_, _, passed⟩ := exists_of_mem_checkEach literal listed
    unfold checkPattern at passed
    split at passed
    · cases passed
    · rename_i some?
      obtain rfl := TextPattern.literal.inj (Except.ok.inj passed)
      exact some?
  · obtain ⟨_, _, passed⟩ := exists_of_mem_checkEach regular listed
    unfold checkRegex at passed
    split at passed <;> cases passed

/-- No role rule of an accepted policy looks for an empty text. -/
theorem load_literal_ne {document : Document} {p : Policy} (accepted : load document = .ok p) :
    ∀ rule ∈ p.roleRules, ∀ needle, .literal needle ∈ rule.text → needle ≠ "" := by
  refine foldlM_invariant (fun rules => ∀ rule ∈ rules, ∀ needle, .literal needle ∈ rule.text → needle ≠ "") ?_
    (by simp) (load_eq_ok.mp accepted).roleRules
  intro before entry after named step
  simp only [addRoleRule, refuse_eq_ok, bind_eq_ok, pure_eq_ok] at step
  obtain ⟨rule, passed, -, rfl⟩ := step
  exact List.forall_mem_append.mpr ⟨named, by simpa using literal_ne_of_checkRoleRule passed⟩

end Policy

namespace Check

/-- What a role rule finds in a file. -/
def foundBy (rule : RoleRule) (file : SourceFile) : List Violation :=
  if rule.role = file.identity.role then roleRuleFindings rule file (Source.sanitize false file.text) else []

/-- What is said of a text that a file must not contain. -/
def textMessage (rule : RoleRule) (needle : String) (count : Nat) : String :=
  let found := "found `" ++ needle ++ "`"
  roleMessage rule ("`" ++ rule.role.text ++ "` files must not contain `" ++ needle ++ "`")
    ++ " (" ++ (if count = 1 then found else found ++ ", " ++ toString count ++ " occurrences") ++ ")"

/-- The finding about a text that occurs a number of times, and first at the given character. -/
def textFinding (rule : RoleRule) (file : SourceFile) (needle : String) (count n : Nat) : Violation :=
  let position := Source.place file.text.toList n
  Rule.roleContent.violation rule.severity ⟨⟨file.path⟩, position.line, position.column⟩ (textMessage rule needle count)
    none

/-- An import that a role rule denies. -/
def Denies (rule : RoleRule) (edge : Edge) : Prop :=
  (∃ denied ∈ rule.denyImports, edge.specifier = denied ∨ ∃ rest, edge.specifier = denied ++ "/" ++ rest) ∨
    ∃ name rank, edge.target.identity.zone = .layer name rank ∧ name ∈ rule.denyLayers

variable {rule : RoleRule} {file : SourceFile} {needle : String}

theorem roleContent_eq (p : Policy) (g : Graph) :
    roleContent p g = g.files.flatMap fun file => p.roleRules.flatMap fun rule => foundBy rule file := by
  have each (file : SourceFile) : roleFindings p file = p.roleRules.flatMap fun rule => foundBy rule file := by
    rw [roleFindings]
    induction p.roleRules with
    | nil => rfl
    | cons rule rules ih =>
      rw [List.flatMap_cons, ← ih, foundBy]
      by_cases own : rule.role = file.identity.role <;> simp [own]
  exact congrArg g.files.flatMap (funext each)

/-- A text that is looked for is reported at its first occurrence, with the number of its occurrences. -/
theorem exists_deniedText? (rule : RoleRule) (file : SourceFile) (some? : needle ≠ "") : ∃ starts,
    Text.Occurrences needle.toList (Source.sanitize false file.text).toList 0 starts ∧
    deniedText? rule file.path (Source.sanitize false file.text) (.literal needle) =
      starts.head?.map (textFinding rule file needle starts.length) := by
  have some? : needle.toList ≠ [] := by simpa using some?
  obtain ⟨starts, found, same⟩ := Text.exists_occurrences some? (Source.sanitize false file.text).toList
  refine ⟨starts, found, ?_⟩
  have offsets : (TextPattern.literal needle).offsets (Source.sanitize false file.text) =
      starts.map (Text.offset (Source.sanitize false file.text).toList) := by
    rw [TextPattern.offsets, if_neg (by simpa using some?), same]
  rw [deniedText?, TextPattern.find?, offsets]
  cases starts with
  | nil => rfl
  | cons n others =>
    have place := (Source.position_sanitize false file.text n).trans (Text.position_offset file.text n)
    simp [place, Source.place, textFinding, textMessage, TextPattern.source]

theorem isSome_deniedImport?_iff {edge : Edge} : (deniedImport? rule file edge).isSome = true ↔ Denies rule edge := by
  have denied : (rule.deniedBy? edge.specifier).isSome = true ↔
      ∃ denied ∈ rule.denyImports, edge.specifier = denied ∨ ∃ rest, edge.specifier = denied ++ "/" ++ rest := by
    have below (denied : String) : (Text.below? denied edge.specifier).isSome = true ↔
        edge.specifier = denied ∨ ∃ rest, edge.specifier = denied ++ "/" ++ rest := by
      simp [Option.isSome_iff_exists, Text.below?_eq_some, exists_or]
    simp only [RoleRule.deniedBy?, List.find?_isSome, below]
  rw [deniedImport?, Option.isSome_map, Denies, ← denied, denialReason?]
  cases rule.deniedBy? edge.specifier with
  | some denied => simp
  | none =>
    cases zone : edge.target.identity.zone <;> simp

theorem location_of_deniedImport? {edge : Edge} {v : Violation} (denied : deniedImport? rule file edge = some v) :
    v.location = file.locationOf edge := by
  obtain ⟨_, -, rfl⟩ := Option.map_eq_some_iff.mp denied
  rfl

/-- A role rule finds something in the files of its role only. A text that it looks for is found once in a file if it
occurs outside of comments: at its first occurrence, with the number of its occurrences from the left, and if it has no
space it stands in the source there. An import is found once if the rule denies its specifier or the layer it leads
to. -/
theorem role_content_exact {document : Policy.Document} {p : Policy} (accepted : Policy.load document = .ok p) :
    (∀ g, roleContent p g = g.files.flatMap fun file => p.roleRules.flatMap fun rule => foundBy rule file) ∧
    ∀ rule ∈ p.roleRules, ∀ file : SourceFile,
      let shown := Source.sanitize false file.text
      (rule.role ≠ file.identity.role → foundBy rule file = []) ∧
      (rule.role = file.identity.role → foundBy rule file =
        rule.text.filterMap (deniedText? rule file.path shown) ++ file.imports.filterMap (deniedImport? rule file)) ∧
      (∀ needle, .literal needle ∈ rule.text → ∃ starts,
        (∀ found, Text.Occurrences needle.toList shown.toList 0 found ↔ found = starts) ∧
        (starts ≠ [] ↔ needle.toList <:+: shown.toList) ∧
        deniedText? rule file.path shown (.literal needle) =
          starts.head?.map (textFinding rule file needle starts.length) ∧
        ∀ n ∈ starts, Source.place file.text.toList n = Source.place shown.toList n ∧
          (' ' ∉ needle.toList → Text.OccursAt needle.toList file.text.toList n ∧
            ('\n' ∉ needle.toList → ∀ k < needle.toList.length, ¬Source.InComment file.text (n + k)))) ∧
      ∀ edge ∈ file.imports, ((deniedImport? rule file edge).isSome = true ↔ Denies rule edge) ∧
        ∀ v, deniedImport? rule file edge = some v → v.location = file.locationOf edge := by
  refine ⟨roleContent_eq p, fun rule listed file => ⟨fun other => if_neg other, fun own => if_pos own, ?_, ?_⟩⟩
  · intro needle looked
    have some? := Policy.load_literal_ne accepted rule listed needle looked
    obtain ⟨starts, found, same⟩ := exists_deniedText? rule file some?
    have only (others : List Nat) :
        Text.Occurrences needle.toList (Source.sanitize false file.text).toList 0 others ↔ others = starts :=
      ⟨fun found' => found'.unique found, fun same => same ▸ found⟩
    refine ⟨starts, only, not_iff_comm.mp found.eq_nil_iff.symm, same, fun n start => ⟨?_, fun solid => ?_⟩⟩
    · exact (Source.place_sanitize false file.text n).symm
    · exact Source.occursAt_of_sanitize (found.occursAt n start) solid
  · exact fun edge _ => ⟨isSome_deniedImport?_iff, fun v => location_of_deniedImport?⟩

section Quiet

open Layering.Policy (nestedRoots nestedRootsPolicy load_nestedRoots)

/-- Stores must not fetch anything. -/
def quiet : RoleRule := ⟨"quiet", .store, [.literal "fetch("], ["axios"], ["late"], none, .error⟩

def quietDocument : Policy.Document :=
  { nestedRoots with
    roleRules := some [
      { name := "quiet", role := "store", patterns := ["fetch("], denyImports := ["axios"], denyLayers := ["late"] }] }

def quietPolicy : Policy := { nestedRootsPolicy with roleRules := [quiet] }

theorem load_quiet : Policy.load quietDocument = .ok quietPolicy :=
  Policy.load_eq_ok.mpr { Policy.load_eq_ok.mp load_nestedRoots with roleRules := rfl }

/-- An import that is denied for its specifier and for its layer. -/
def loud : Edge where
  specifier := "axios/late"
  position := ⟨3, 19⟩
  kind := .reExport
  target := ⟨some "src/features/late.ts", ⟨.layer "late" 2, none, .unclassified⟩, false⟩

/-- A store that fetches twice, besides what a comment says. -/
def loudStore : SourceFile where
  path := "src/features/cart/store.ts"
  identity := ⟨.layer "features" 1, some ⟨"cart", "src/features/cart"⟩, .store⟩
  text := "/* fetch(a)\n*/ fetch(b); fetch(c)\nexport * from 'axios/late'\n"
  imports := [loud]

theorem role_content_exact_loudStore : Policy.load quietDocument = .ok quietPolicy ∧
    ∃ v w, foundBy quiet loudStore = [v, w] ∧ v.location = ⟨⟨"src/features/cart/store.ts"⟩, 2, 4⟩ ∧
      v.message = "[quiet] `store` files must not contain `fetch(` (found `fetch(`, 2 occurrences)" ∧
      w.location = ⟨⟨"src/features/cart/store.ts"⟩, 3, 19⟩ := by
  refine ⟨load_quiet, ?_⟩
  obtain ⟨-, own, -, imports⟩ := (role_content_exact load_quiet).2 quiet (List.mem_singleton_self _) loudStore
  have text : deniedText? quiet loudStore.path (Source.sanitize false loudStore.text) (.literal "fetch(") =
      some (textFinding quiet loudStore "fetch(" 2 15) := by decide +kernel
  obtain ⟨denies, places⟩ := imports loud (List.mem_singleton_self _)
  obtain ⟨w, denied⟩ := Option.isSome_iff_exists.mp (denies.mpr (.inl ⟨"axios", by decide, .inr ⟨"late", by decide⟩⟩))
  refine ⟨textFinding quiet loudStore "fetch(" 2 15, w, (own rfl).trans ?_, by decide +kernel, by decide +kernel,
    places w denied⟩
  exact congrArg₂ (· ++ ·) (List.filterMap_cons_some text) (List.filterMap_cons_some denied)

end Quiet

end Check

end Layering
