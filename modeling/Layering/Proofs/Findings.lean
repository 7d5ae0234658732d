import Layering.Project
import Layering.Proofs.ReportOrder

/-! What a rule finds and what of it reaches the report. The rules that look at the graph find only what carries
their own code, so that the findings with the code of such a rule are its own findings, graded by the policy. -/
namespace Layering.Analysis

/-- A finding of a rule with the severity that the policy gives to it. -/
def graded (p : Policy) (rule : Rule) (v : Violation) : Violation :=
  match p.severity? rule with
  | none => v
  | some severity => if v.code = rule.code then { v with severity } else v

theorem regrade_eq_map (p : Policy) (rule : Rule) (violations : List Violation) :
    regrade p rule violations = violations.map (graded p rule) := by
  unfold regrade graded
  cases p.severity? rule <;> simp

@[simp] theorem code_graded (p : Policy) (rule : Rule) (v : Violation) : (graded p rule v).code = v.code := by
  unfold graded
  split
  · rfl
  · split <;> rfl

@[simp] theorem location_graded (p : Policy) (rule : Rule) (v : Violation) :
    (graded p rule v).location = v.location := by
  unfold graded
  split
  · rfl
  · split <;> rfl

@[simp] theorem message_graded (p : Policy) (rule : Rule) (v : Violation) :
    (graded p rule v).message = v.message := by
  unfold graded
  split
  · rfl
  · split <;> rfl

/-- The finding about the direction of an import stands at the import. -/
theorem of_direction? {p : Policy} {severity : Severity} {file : SourceFile} {edge : Edge} {v : Violation}
    (found : Check.direction? p severity file edge = some v) :
    v.code = Rule.layerDirection.code ∧ v.location = file.locationOf edge := by
  unfold Check.direction? at found
  split at found
  · split at found
    · cases found
      exact ⟨rfl, rfl⟩
    · split at found
      · cases found
        exact ⟨rfl, rfl⟩
      · contradiction
  · contradiction

/-- The finding about an import of another module stands at the import. -/
theorem of_crossing? {allowPublicApi : Bool} {severity : Severity} {file : SourceFile} {edge : Edge} {v : Violation}
    (found : Check.crossing? allowPublicApi severity file edge = some v) :
    v.code = Rule.crossModuleImport.code ∧ v.location = file.locationOf edge := by
  unfold Check.crossing? at found
  split at found
  · split at found
    · contradiction
    · split at found
      · contradiction
      · cases found
        exact ⟨rfl, rfl⟩
  · contradiction

theorem code_of_roleFindings {p : Policy} {file : SourceFile} {v : Violation}
    (found : v ∈ Check.roleFindings p file) : v.code = Rule.roleContent.code := by
  simp only [Check.roleFindings, Check.roleRuleFindings, List.mem_flatMap, List.mem_append, List.mem_filterMap] at found
  obtain ⟨rule, -, ⟨pattern, -, denied⟩ | ⟨edge, -, denied⟩⟩ := found
  · obtain ⟨_, -, rfl⟩ := Option.map_eq_some_iff.mp denied
    rfl
  · obtain ⟨_, -, rfl⟩ := Option.map_eq_some_iff.mp denied
    rfl

theorem code_of_requiredFiles {p : Policy} {severity : Severity} {g : Graph} {v : Violation}
    (found : v ∈ Check.requiredFiles p severity g) : v.code = Rule.requiredFiles.code := by
  simp only [Check.requiredFiles, List.mem_flatMap, List.mem_map] at found
  obtain ⟨_, -, _, -, rfl⟩ := found
  rfl

theorem code_of_findingsFor {severity : Severity} {pattern : Glob} {described : Except Glob.Error (List String)}
    {v : Violation} (found : v ∈ Check.findingsFor severity pattern described) :
    v.code = Rule.forbiddenPath.code ∨ v.code = Rule.ioError.code := by
  cases described with
  | error e =>
    obtain rfl := List.mem_singleton.mp found
    exact .inr rfl
  | ok paths =>
    obtain ⟨_, -, rfl⟩ := List.mem_map.mp found
    exact .inl rfl

/-- Forbidden paths are reported under codes of their own. -/
theorem code_of_forbidden {project : Project} {tree : Tree} {v : Violation} (found : v ∈ project.forbidden tree) :
    v.code = Rule.forbiddenPath.code ∨ v.code = Rule.ioError.code := by
  obtain ⟨pattern, -, found⟩ := List.mem_flatMap.mp found
  exact code_of_findingsFor found

/-- A rule that neither looks for forbidden paths nor reads files has a code of its own. -/
theorem foreign_forbidden {project : Project} {tree : Tree} {rule : Rule}
    (other : rule ≠ .forbiddenPath ∧ rule ≠ .ioError) : ∀ u ∈ project.forbidden tree, u.code ≠ rule.code := by
  intro u found code
  rcases code_of_forbidden found with own | own
  · exact other.1 (Rule.code_injective (code.symm.trans own))
  · exact other.2 (Rule.code_injective (code.symm.trans own))

/-- The findings of a rule carry its code, except for those about forbidden paths, which are given. -/
theorem code_of_findings {p : Policy} {forbidden : List Violation} {g : Graph} {rule : Rule} {v : Violation}
    (found : v ∈ findings p forbidden g rule) : v.code = rule.code ∨ rule = .forbiddenPath ∧ v ∈ forbidden := by
  cases rule with
  | layerDirection =>
    obtain ⟨_, -, found⟩ := List.mem_filterMap.mp found
    exact .inl (of_direction? found).1
  | crossModuleImport =>
    obtain ⟨_, -, found⟩ := List.mem_filterMap.mp found
    exact .inl (of_crossing? found).1
  | requiredFiles => exact .inl (code_of_requiredFiles found)
  | roleContent =>
    obtain ⟨_, -, found⟩ := List.mem_flatMap.mp found
    exact .inl (code_of_roleFindings found)
  | forbiddenPath => exact .inr ⟨rfl, found⟩
  | ioError => cases found
  | classificationError => cases found

/-- The findings about the files themselves have codes that no policy can switch off. -/
theorem code_of_issues {p : Policy} {root : Path} {reader : Reader} {paths : List String} {v : Violation}
    (found : v ∈ (Graph.build p root reader paths).issues) :
    v.code = Rule.classificationError.code ∨ v.code = Rule.ioError.code := by
  obtain ⟨⟨path, content⟩, -, found⟩ := List.mem_flatMap.mp (mem_sortBy.mp found)
  rcases List.mem_append.mp found with found | found
  · unfold Graph.placementIssue at found
    split at found
    · cases found
    · obtain rfl := List.mem_singleton.mp found
      exact .inl rfl
  · unfold Graph.readIssue at found
    split at found
    · cases found
    · obtain rfl := List.mem_singleton.mp found
      exact .inr rfl

theorem mem_evaluate {p : Policy} {rules : List Rule} {forbidden : List Violation} {g : Graph} {v : Violation} :
    v ∈ evaluate p rules forbidden g ↔
      ∃ rule ∈ rules, p.isEnabled rule = true ∧ ∃ u ∈ findings p forbidden g rule, graded p rule u = v := by
  simp only [evaluate, List.mem_flatMap, List.mem_filter, regrade_eq_map, List.mem_map, and_assoc]

/-- Whatever a rule that is run finds is reported. -/
theorem exists_reported {p : Policy} {rules : List Rule} {forbidden : List Violation} {g : Graph} {rule : Rule}
    {v : Violation} (registered : rule ∈ rules) (enabled : p.isEnabled rule = true)
    (found : v ∈ findings p forbidden g rule) :
    ∃ w ∈ (report p rules forbidden g).violations, w.same (graded p rule v) = true := by
  apply Report.exists_mem_sorted
  exact List.mem_append_right _ (mem_evaluate.mpr ⟨rule, registered, enabled, v, found, rfl⟩)

/-- A reported finding with the code of a configurable rule is a finding of that rule, unless it is among those about
forbidden paths. -/
theorem found_of_reported {p : Policy} {rules : List Rule} {forbidden : List Violation} {root : Path}
    {reader : Reader} {paths : List String} {rule : Rule} (configurable : rule.isConfigurable = true)
    (foreign : ∀ u ∈ forbidden, u.code ≠ rule.code) {v : Violation}
    (listed : v ∈ (Graph.build p root reader paths).issues ++
      evaluate p rules forbidden (Graph.build p root reader paths))
    (code : v.code = rule.code) :
    rule ∈ rules ∧ p.isEnabled rule = true ∧
      ∃ u ∈ findings p forbidden (Graph.build p root reader paths) rule, graded p rule u = v := by
  rcases List.mem_append.mp listed with issue | listed
  · rcases code_of_issues issue with other | other
    all_goals
      obtain rfl := Rule.code_injective (code.symm.trans other)
      simp [Rule.isConfigurable] at configurable
  · obtain ⟨other, registered, enabled, u, found, rfl⟩ := mem_evaluate.mp listed
    rw [code_graded] at code
    rcases code_of_findings found with own | ⟨-, given⟩
    · obtain rfl := Rule.code_injective (code.symm.trans own)
      exact ⟨registered, enabled, u, found, rfl⟩
    · exact absurd code (foreign u given)

section Running

variable {p : Policy} {rules : List Rule} {forbidden : List Violation} {root : Path} {reader : Reader}
  {paths : List String} {rule : Rule} (configurable : rule.isConfigurable = true) (registered : rule ∈ rules)
  (enabled : p.isEnabled rule = true) (foreign : ∀ u ∈ forbidden, u.code ≠ rule.code)
  (coded : ∀ u ∈ findings p forbidden (Graph.build p root reader paths) rule, u.code = rule.code)

include configurable registered enabled foreign coded

/-- Before sorting, the findings with the code of a rule that is run are what it finds, graded. -/
theorem mem_listed_iff (v : Violation) :
    v ∈ (Graph.build p root reader paths).issues ++ evaluate p rules forbidden (Graph.build p root reader paths) ∧
      v.code = rule.code ↔
    v ∈ (findings p forbidden (Graph.build p root reader paths) rule).map (graded p rule) := by
  rw [List.mem_map]
  constructor
  · rintro ⟨listed, code⟩
    exact (found_of_reported configurable foreign listed code).2.2
  · rintro ⟨u, found, rfl⟩
    refine ⟨List.mem_append_right _ (mem_evaluate.mpr ⟨rule, registered, enabled, u, found, rfl⟩), ?_⟩
    rw [code_graded, coded u found]

/-- If what a rule finds, graded, is told apart by the order of the report, the report has each of it once and nothing
else with the code of the rule. -/
theorem perm_reported (nodup : ((findings p forbidden (Graph.build p root reader paths) rule).map (graded p rule)).Nodup)
    (separated : ∀ v ∈ (findings p forbidden (Graph.build p root reader paths) rule).map (graded p rule),
      ∀ w ∈ (findings p forbidden (Graph.build p root reader paths) rule).map (graded p rule),
        v.compare w = .eq → v = w) :
    ((report p rules forbidden (Graph.build p root reader paths)).violations.filter (·.code = rule.code)).Perm
      ((findings p forbidden (Graph.build p root reader paths) rule).map (graded p rule)) :=
  Report.perm_filter_sorted nodup separated (mem_listed_iff configurable registered enabled foreign coded)

end Running

end Layering.Analysis
