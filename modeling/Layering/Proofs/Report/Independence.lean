import Layering.Proofs.Stability
import Layering.Proofs.Verdicts

/-! What the report on a run does not depend on. The graph depends on which paths are given and not on their order or
repetitions. The order of the rules does not matter either: findings of different rules have different codes, so that
sorting never leaves them in the order in which they came. -/
namespace Layering.Analysis

theorem build_congr (p : Policy) (root : Path) (reader : Reader) {paths paths' : List String}
    (samePaths : ∀ path, path ∈ paths ↔ path ∈ paths') :
    Graph.build p root reader paths = Graph.build p root reader paths' := by
  have inventory : sortDistinct compare paths = sortDistinct compare paths' := sortDistinct_congr samePaths
  simp only [Graph.build, inventory]

/-- Lists made for the items of a list are joined in any order alike if at most one of them is not empty. -/
theorem flatMap_eq_of_perm {f : α → List β} (single : ∀ a b, f a ≠ [] → f b ≠ [] → a = b) {as bs : List α}
    (same : as.Perm bs) : as.flatMap f = bs.flatMap f := by
  induction same with
  | nil => rfl
  | cons a _ ih => rw [List.flatMap_cons, List.flatMap_cons, ih]
  | swap a b as =>
    simp only [List.flatMap_cons]
    by_cases emptyA : f a = []
    · rw [emptyA, List.nil_append, List.nil_append]
    · by_cases emptyB : f b = []
      · rw [emptyB, List.nil_append, List.nil_append]
      · rw [single a b emptyA emptyB]
  | trans _ _ first second => exact first.trans second

section Rules

variable {p : Policy} {forbidden : List Violation} {g : Graph}

/-- The code of a finding tells the rule that has found it. -/
theorem rule_of_code
    (foreign : ∀ v ∈ forbidden, v.code = Rule.forbiddenPath.code ∨ v.code = Rule.ioError.code) {rule rule' : Rule}
    {v w : Violation} (first : v ∈ findings p forbidden g rule) (second : w ∈ findings p forbidden g rule')
    (same : v.code = w.code) : rule = rule' := by
  have own {rule : Rule} {v : Violation} (found : v ∈ findings p forbidden g rule) :
      v.code = rule.code ∨ rule = .forbiddenPath ∧ v.code = Rule.ioError.code := by
    rcases code_of_findings found with code | ⟨rfl, given⟩
    · exact .inl code
    · exact (foreign v given).imp id fun code => ⟨rfl, code⟩
  -- The rule about forbidden paths may report failures to read, and the rule of those finds nothing by itself.
  have silent {rule : Rule} {v : Violation} (found : v ∈ findings p forbidden g rule) :
      rule.code ≠ Rule.ioError.code := by
    intro code
    obtain rfl := Rule.code_injective code
    cases found
  rcases own first with code | ⟨rfl, code⟩ <;> rcases own second with code' | ⟨rfl, code'⟩
  · exact Rule.code_injective (code.symm.trans (same.trans code'))
  · exact absurd (code.symm.trans (same.trans code')) (silent first)
  · exact absurd (code'.symm.trans (same.symm.trans code)) (silent second)
  · rfl

theorem tiedWith_evaluate (v : Violation) (rules : List Rule) :
    tiedWith Violation.compare v (evaluate p rules forbidden g) =
      (rules.filter p.isEnabled).flatMap fun rule =>
        tiedWith Violation.compare v ((findings p forbidden g rule).map (graded p rule)) := by
  simp only [tiedWith, evaluate, List.filter_flatMap, regrade_eq_map]

theorem tiedWith_evaluate_of_perm
    (foreign : ∀ v ∈ forbidden, v.code = Rule.forbiddenPath.code ∨ v.code = Rule.ioError.code)
    {rules rules' : List Rule} (sameRules : rules.Perm rules') (v : Violation) :
    tiedWith Violation.compare v (evaluate p rules forbidden g) =
      tiedWith Violation.compare v (evaluate p rules' forbidden g) := by
  rw [tiedWith_evaluate, tiedWith_evaluate]
  apply flatMap_eq_of_perm _ (sameRules.filter p.isEnabled)
  intro rule rule' some some'
  obtain ⟨w, member⟩ := List.exists_mem_of_ne_nil _ some
  obtain ⟨w', member'⟩ := List.exists_mem_of_ne_nil _ some'
  obtain ⟨listed, level⟩ := mem_tiedWith.mp member
  obtain ⟨listed', level'⟩ := mem_tiedWith.mp member'
  obtain ⟨u, found, rfl⟩ := List.mem_map.mp listed
  obtain ⟨u', found', rfl⟩ := List.mem_map.mp listed'
  have code := (Violation.code_and_location_of_compare level).1
  have code' := (Violation.code_and_location_of_compare level').1
  rw [code_graded] at code code'
  exact rule_of_code foreign found found' (code.symm.trans code')

theorem report_of_perm
    (foreign : ∀ v ∈ forbidden, v.code = Rule.forbiddenPath.code ∨ v.code = Rule.ioError.code)
    {rules rules' : List Rule} (sameRules : rules.Perm rules') :
    report p rules forbidden g = report p rules' forbidden g := by
  have sorted : sortBy Violation.compare (g.issues ++ evaluate p rules forbidden g) =
      sortBy Violation.compare (g.issues ++ evaluate p rules' forbidden g) := by
    apply sortBy_congr
    intro v
    have findings := tiedWith_evaluate_of_perm (p := p) (g := g) foreign sameRules v
    simp only [tiedWith, List.filter_append] at findings ⊢
    rw [findings]
  simp only [report, Report.sorted, sorted]

end Rules

/-- Neither the order and the repetitions of the paths nor the order of the rules changes a run, and its findings are
in the order of file, code, line, column, message and severity. -/
theorem report_independent (project : Project) (tree : Tree) (reader : Reader) {paths paths' : List String}
    {rules rules' : List Rule} (samePaths : ∀ path, path ∈ paths ↔ path ∈ paths') (sameRules : rules.Perm rules') :
    let g := Graph.build project.policy project.directory reader paths
    let g' := Graph.build project.policy project.directory reader paths'
    let r := report project.policy rules (project.forbidden tree) g
    let r' := report project.policy rules' (project.forbidden tree) g'
    g = g' ∧ r = r' ∧ r.violations.Pairwise fun v w => (v.compare w).isLE = true := by
  intro g g' r r'
  have graphs : g = g' := build_congr _ _ _ samePaths
  have reports : r = r' := by
    have permuted : r = report project.policy rules' (project.forbidden tree) g :=
      report_of_perm (fun _ => code_of_forbidden) sameRules
    rw [permuted, graphs]
  exact ⟨graphs, reports, (pairwise_sortBy _).sublist (sublist_dropRepeats _)⟩

/-- One path twice and the other one first, with the rules in the opposite order. -/
theorem report_independent_upward :
    let paths := ["src/shared/b.ts", "src/app/a.ts", "src/shared/b.ts"]
    (∀ path, path ∈ paths ↔ path ∈ Graph.twoPaths) ∧ Rule.selectable.reverse.Perm Rule.selectable ∧
      report twoLayersProject.policy Rule.selectable.reverse (twoLayersProject.forbidden (.directory []))
          (Graph.build twoLayersProject.policy twoLayersProject.directory upward.reader paths) =
        report twoLayersProject.policy Rule.selectable (twoLayersProject.forbidden (.directory []))
          (Graph.build twoLayersProject.policy twoLayersProject.directory upward.reader Graph.twoPaths) := by
  intro paths
  have samePaths : ∀ path, path ∈ paths ↔ path ∈ Graph.twoPaths := by
    simp only [paths, Graph.twoPaths, List.mem_cons, List.not_mem_nil, or_false]
    tauto
  have sameRules : Rule.selectable.reverse.Perm Rule.selectable := List.reverse_perm _
  exact ⟨samePaths, sameRules,
    (report_independent twoLayersProject (.directory []) upward.reader samePaths sameRules).2.1⟩

end Layering.Analysis
