import Layering.Proofs.Findings
import Layering.Proofs.Graph.Issues
import Layering.Proofs.Policy.Layers

/-! What becomes of every path of a run. It is the path of a file or has an issue that it cannot be read, and each issue
is in the report once, since no rule finds anything that could be taken for it and no policy grades it. -/
namespace Layering.Analysis

open Layering.Graph (Accounts Apart build)

variable {p : Policy} {root : Path} {reader : Reader} {paths : List String}

/-- A failure to read that the rule about forbidden paths reports is about a pattern, not about a file. -/
theorem message_of_forbidden {project : Project} {tree : Tree} {v : Violation} (found : v ∈ project.forbidden tree)
    (code : v.code = Rule.ioError.code) : ∃ text, v.message = "cannot expand forbidden pattern `" ++ text := by
  obtain ⟨pattern, -, found⟩ := List.mem_flatMap.mp found
  unfold Check.forbiddenAt at found
  generalize (Glob.paths _ _).map _ = described at found
  cases described with
  | error e =>
    obtain rfl := List.mem_singleton.mp found
    exact ⟨_, String.append_assoc.trans (String.append_assoc.trans rfl)⟩
  | ok paths =>
    obtain ⟨_, -, rfl⟩ := List.mem_map.mp found
    simp [Check.existingPath, Rule.violation, Rule.code] at code

/-- Nothing that a rule finds is the same as an issue of the graph. -/
theorem not_same_of_evaluate {project : Project} {tree : Tree} {rules : List Rule} {g : Graph} {u v : Violation}
    (found : u ∈ evaluate p rules (project.forbidden tree) g) (issue : v ∈ (build p root reader paths).issues) :
    ¬u.same v = true := by
  intro same
  obtain ⟨rule, -, -, w, finding, rfl⟩ := mem_evaluate.mp found
  have code : w.code = v.code := by simpa using Violation.code_eq_of_same same
  rcases code_of_findings finding with own | ⟨rfl, given⟩
  · rcases code_of_issues issue with kind | kind
    all_goals
      obtain rfl := Rule.code_injective (own.symm.trans (code.trans kind))
      cases finding
  · have unread : w.code = Rule.ioError.code := by
      rcases code_of_forbidden given with own | own
      · rcases code_of_issues issue with kind | kind
        all_goals exact absurd (own.symm.trans (code.trans kind)) (by decide)
      · exact own
    obtain ⟨text, message⟩ := message_of_forbidden given unread
    obtain ⟨path, -, found⟩ := Graph.mem_issues_build.mp issue
    have kept : graded p .forbiddenPath w = w := by
      unfold graded
      cases p.severity? .forbiddenPath <;> simp [unread, Rule.code]
    rw [kept] at same
    rcases List.mem_append.mp found with found | found
    · exact absurd (unread.symm.trans (code.trans (Graph.of_placementIssue found).1)) (by decide)
    · obtain ⟨-, -, -, e, message'⟩ := Graph.of_readIssue found
      have equal := congrArg String.toList (message.symm.trans ((Violation.same_iff.mp same).2.2.2.2.1.trans message'))
      simp at equal

theorem count_reported (apart : Apart paths) (project : Project) (tree : Tree) (rules : List Rule) {v : Violation}
    (issue : v ∈ (build p root reader paths).issues) :
    (report p rules (project.forbidden tree) (build p root reader paths)).violations.count v = 1 := by
  let g := build p root reader paths
  let found := evaluate p rules (project.forbidden tree) g
  have foreign : found.count v = 0 :=
    List.count_eq_zero_of_not_mem fun member => not_same_of_evaluate member issue (Violation.same_refl v)
  apply Nat.le_antisymm
  · calc
      (report p rules (project.forbidden tree) g).violations.count v
        ≤ (sortBy Violation.compare (g.issues ++ found)).count v := (sublist_dropRepeats _).count_le v
      _ = (g.issues ++ found).count v := (List.mergeSort_perm _ _).count_eq v
      _ ≤ 1 := by
        rw [List.count_append, foreign]
        exact Graph.count_issues_le_one apart issue
  · apply List.count_pos_iff.mpr
    obtain ⟨w, reported, same⟩ := Report.exists_mem_sorted (r := ⟨_, _, _⟩) (List.mem_append_left found issue)
    rcases List.mem_append.mp (Report.mem_of_mem_sorted reported) with other | member
    · obtain rfl := Graph.eq_of_same_issue apart other issue same
      exact reported
    · exact absurd same (not_same_of_evaluate member issue)

/-- No path of a run is lost or counted twice, whatever the policy says about rules and whichever rules are run: the
graph holds for it a file or an issue that it cannot be read, an issue that it is misplaced if it is, and nothing else,
and every issue is in the report once as an error. -/
theorem paths_accounted (project : Project) (tree : Tree) (reader : Reader) (rules : List Rule) (paths : List String)
    (apart : Apart paths) :
    let g := build project.policy project.directory reader paths
    let r := report project.policy rules (project.forbidden tree) g
    g.inventory.Nodup ∧ (∀ path, path ∈ g.inventory ↔ path ∈ paths) ∧
      (∀ path ∈ g.inventory, Accounts project.policy project.directory reader g path) ∧
      (∀ file ∈ g.files, file.path ∈ g.inventory) ∧
      (∀ v ∈ g.issues, (v.code = Rule.ioError.code ∨ v.code = Rule.classificationError.code) ∧
        ∃ path ∈ g.inventory, v.location = .whole path) ∧
      ∀ v ∈ g.issues, v.severity = .error ∧ r.violations.count v = 1 := by
  intro g r
  refine ⟨Graph.nodup_inventory_build, fun path => Graph.mem_inventory_build, fun path listed => ?_,
    fun file member => ?_, fun v issue => ⟨(code_of_issues issue).symm, ?_⟩, fun v issue => ?_⟩
  · exact Graph.accounts_build apart (Graph.mem_inventory_build.mp listed)
  · exact Graph.mem_inventory_build.mpr (Graph.path_of_mem_files member)
  · obtain ⟨path, given, place⟩ := Graph.location_of_mem_issues issue
    exact ⟨path, Graph.mem_inventory_build.mpr given, place⟩
  · exact ⟨Graph.severity_of_mem_issues issue, count_reported apart project tree rules issue⟩

section Modules

/-- A policy with one layer, and that with modules. -/
def modulesPolicy : Policy :=
  { Policy.twoLayersPolicy with layers := [⟨"modules", 0, ["src/modules"], true, true⟩] }

def modulesProject : Project where
  directory := ⟨""⟩
  policy := modulesPolicy
  rules := []
  sourceRoot := ⟨"src"⟩
  exclude := []

/-- A path in a module, and one right in the directory of all modules. -/
def modulesPaths : List String := ["src/modules/a/ui.ts", "src/modules/helpers.ts"]

/-- The file in the module. The other one is not there. -/
def modulesFiles : Memory where
  files := [("src/modules/a/ui.ts", "")]

theorem paths_accounted_misplaced :
    let g := build modulesPolicy ⟨""⟩ modulesFiles.reader modulesPaths
    let r := report modulesPolicy [] (modulesProject.forbidden (.directory [])) g
    Apart modulesPaths ∧
      ((g.filesAt "src/modules/a/ui.ts").length = 1 ∧
        (g.issuesAt .classificationError "src/modules/a/ui.ts").length = 0) ∧
      ((g.issuesAt .ioError "src/modules/helpers.ts").length = 1 ∧
        (g.issuesAt .classificationError "src/modules/helpers.ts").length = 1) ∧
      ∀ v ∈ g.issues, v.severity = .error ∧ r.violations.count v = 1 := by
  intro g r
  have apart : Apart modulesPaths := by decide +kernel
  obtain ⟨-, listed, each, -, -, reported⟩ :=
    paths_accounted modulesProject (.directory []) modulesFiles.reader [] modulesPaths apart
  have roots : modulesPolicy.layerRoots = [("src/modules", ⟨"modules", 0, ["src/modules"], true, true⟩)] := by
    rw [Policy.layerRoots, List.mergeSort_of_pairwise (by decide)]
    rfl
  have placed : (modulesPolicy.classify "src/modules/a/ui.ts").isOk = true := by
    rw [Policy.classify, Policy.layerRoot?, roots]
    decide +kernel
  have misplaced : (modulesPolicy.classify "src/modules/helpers.ts").isOk = false := by
    rw [Policy.classify, Policy.layerRoot?, roots]
    decide +kernel
  have present := each "src/modules/a/ui.ts" ((listed _).mpr (by decide))
  have absent := each "src/modules/helpers.ts" ((listed _).mpr (by decide))
  have unread : ¬∃ text, modulesFiles.reader.read ((⟨""⟩ : Path).join ⟨"src/modules/helpers.ts"⟩) = .ok text := by
    have missing : modulesFiles.reader.read ((⟨""⟩ : Path).join ⟨"src/modules/helpers.ts"⟩) =
        .error (.notLoaded ⟨"src/modules/helpers.ts"⟩) := by decide +kernel
    rintro ⟨text, read⟩
    rw [missing] at read
    contradiction
  refine ⟨apart, ⟨present.readable.mpr ⟨"", by decide +kernel⟩, ?_⟩, ⟨?_, ?_⟩, reported⟩
  · simpa [modulesProject, placed] using present.misplaced
  · rcases absent.either with ⟨file, -⟩ | ⟨-, unread⟩
    · exact absurd (absent.readable.mp file) unread
    · exact unread
  · simpa [modulesProject, misplaced] using absent.misplaced

end Modules

end Layering.Analysis
