import Layering.Proofs.Glob.Escaping
import Layering.Proofs.Report.OneLine
import Layering.Proofs.Report.RoleContent
import Layering.Proofs.Tree.Names
import Layering.Proofs.Verdicts
import Layering.Report.Rendering

/-! The report with one line a finding. It has one line for each finding exactly if no finding has a line break in it,
and a project has no such finding if there are none in its names and in its policy. -/
namespace Layering

open Text (oneLine_append)

theorem oneLine_brokenPattern {pattern : Glob} (spelt : Text.OneLine pattern.text) (e : Glob.Error) :
    (Check.brokenPattern pattern e).OneLine := by
  have problem : Text.OneLine e.problem.text := by cases e.problem <;> decide
  have said : Text.OneLine e.message := by
    unfold Glob.Error.message
    simp only [oneLine_append]
    exact ⟨⟨⟨by decide, by simp⟩, by decide⟩, problem⟩
  exact Check.oneLine_violation (show Text.OneLine "" by decide) (by simp +decide [spelt, said])

theorem oneLine_existingPath {severity : Severity} {pattern : Glob} (spelt : Text.OneLine pattern.text) {path : String}
    (shown : Text.OneLine path) : (Check.existingPath severity pattern path).OneLine :=
  Check.oneLine_violation shown (by simp +decide [shown, spelt])

theorem oneLine_of_mem_paths {tree : Tree} (plain : tree.OneLine) {pattern : String} {paths : List Path}
    (described : Glob.paths tree pattern = .ok paths) : ∀ path ∈ paths, Text.OneLine path.text := by
  cases read : Glob.parse pattern with
  | error e => simp [Glob.paths, read, bind, Except.bind] at described
  | ok whole =>
    rw [Glob.paths_eq read] at described
    cases cut : whole.components with
    | error e => simp [cut, Except.map] at described
    | ok components =>
      simp only [cut, Except.map, Except.ok.injEq] at described
      subst described
      split
      · refine List.forall_mem_map.mpr fun way listed => ?_
        exact Text.oneLine_join.mpr (Glob.oneLine_of_expand plain components way listed)
      · simp

/-- What findings about a project repeat has no line breaks: the texts of the policy, the names in the file system, and
where the project and its sources are. The ignore files above the sources have no line that is no pattern. -/
structure Project.OneLine (project : Project) (tree : Tree) : Prop where
  policy : project.policy.OneLine
  names : tree.OneLine
  directory : Text.OneLine project.directory.text
  sourceRoot : Text.OneLine project.sourceRoot.text
  ignoreFiles : project.policy.discovery.respectGitignore = true →
    Discovery.problemsAbove [] tree (Discovery.wayTo (project.directory.join project.sourceRoot)) = []

namespace Project.OneLine

variable {project : Project} {tree : Tree} (plain : project.OneLine tree)

include plain

theorem forbidden : ∀ v ∈ project.forbidden tree, v.OneLine := by
  intro v found
  obtain ⟨pattern, listed, found⟩ := List.mem_flatMap.mp found
  have spelt := plain.policy.forbidden pattern listed
  rw [Check.forbiddenAt] at found
  cases described : Glob.paths tree (Check.absolutePattern project.directory pattern.text) with
  | error e =>
    rw [described] at found
    exact List.mem_singleton.mp found ▸ oneLine_brokenPattern spelt e
  | ok paths =>
    rw [described] at found
    obtain ⟨_, shown, rfl⟩ := List.mem_map.mp found
    obtain ⟨path, listed, rfl⟩ := List.mem_map.mp shown
    exact oneLine_existingPath spelt (Path.oneLine_displayBelow (oneLine_of_mem_paths plain.names described path listed))

theorem reportOn {paths : List String} (given : ∀ path ∈ paths, Text.OneLine path) :
    ∀ v ∈ (project.reportOn tree paths).violations, v.OneLine := fun _ listed =>
  Analysis.oneLine_of_mem_report plain.policy given (fun _ _ _ failed => Tree.oneLine_of_read failed) plain.forbidden
    listed

theorem paths : ∀ path ∈ (project.discover tree).paths, Text.OneLine path := by
  intro path listed
  simp only [Project.discover, Discovery.find, List.mem_filter, List.mem_map] at listed
  obtain ⟨⟨way, ⟨walked, -⟩, rfl⟩, -⟩ := listed
  refine Path.oneLine_displayBelow (Path.oneLine_join (Path.oneLine_join plain.directory plain.sourceRoot) ?_)
  cases there : tree.below? (Discovery.wayTo (project.directory.join project.sourceRoot)) with
  | none => simp [there] at walked
  | some sources =>
    simp only [there, Option.map_some, Option.getD_some] at walked
    refine Text.oneLine_join.mpr fun name member => ?_
    exact (Discovery.Walk.oneLine_of_files _ _ [] (plain.names.of_below? there) walked name member).resolve_left
      List.not_mem_nil

theorem issues : (project.discover tree).issues = [] := by
  simp only [Project.discover, Discovery.find]
  split
  · rename_i respected
    rw [plain.ignoreFiles respected, Discovery.problemIssues]
  · rfl

theorem report : ∀ v ∈ (project.report tree).violations, v.OneLine := by
  intro v listed
  rcases List.mem_append.mp (Report.mem_of_mem_sorted listed) with found | issue
  · exact plain.reportOn plain.paths v found
  · exact absurd (plain.issues ▸ issue) List.not_mem_nil

end Project.OneLine

theorem Location.oneLine_display {l : Location} : Text.OneLine l.display ↔ Text.OneLine l.file.text := by
  have colon : Text.OneLine ":" := by decide
  unfold Location.display
  split
  · exact Path.oneLine_display
  · simp [Path.oneLine_display, colon]

theorem Violation.oneLine_display {v : Violation} : Text.OneLine v.display ↔ v.OneLine := by
  have severity : Text.OneLine v.severity.text := by cases v.severity <;> decide
  have marks : Text.OneLine ": " ∧ Text.OneLine " [" ∧ Text.OneLine "] " := by decide
  unfold Violation.display
  simp only [oneLine_append, Location.oneLine_display, severity, marks, and_true]
  constructor
  · rintro ⟨⟨file, code⟩, message⟩
    exact ⟨file, code, message⟩
  · rintro ⟨file, code, message⟩
    exact ⟨⟨file, code⟩, message⟩

namespace Report

theorem compact_eq_ofLines (r : Report) : r.compact = Text.ofLines (r.violations.map Violation.display) := by
  rw [compact, Text.ofLines, List.map_map]
  rfl

theorem count_compact_eq_iff {r : Report} :
    r.compact.toList.count '\n' = r.violations.length ↔ ∀ v ∈ r.violations, v.OneLine := by
  rw [compact_eq_ofLines, ← List.length_map Violation.display, Text.count_ofLines_eq_iff, List.forall_mem_map]
  simp only [Violation.oneLine_display]

theorem split_compact_iff {r : Report} :
    Text.split '\n' r.compact = r.violations.map Violation.display ++ [""] ↔ ∀ v ∈ r.violations, v.OneLine := by
  rw [compact_eq_ofLines, Text.split_ofLines, List.forall_mem_map]
  simp only [Violation.oneLine_display]

/-- Reports about what has no line breaks: all of a project or some of its paths, whose policy, names and places have
none, or a graph of which the policy, the paths and the errors have none. -/
inductive Plain : Report → Prop
  | project {project : Project} {tree : Tree} (plain : project.OneLine tree) : Plain (project.report tree)
  | paths {project : Project} {tree : Tree} (plain : project.OneLine tree) {paths : List String}
      (given : ∀ path ∈ paths, Text.OneLine path) : Plain (project.reportOn tree paths)
  | graph {p : Policy} (plain : p.OneLine) (root : Path) {reader : Reader} {paths : List String} (rules : List Rule)
      (given : ∀ path ∈ paths, Text.OneLine path)
      (errors : ∀ path ∈ paths, ∀ e, reader.read (root.join ⟨path⟩) = .error e → Text.OneLine e.message)
      {forbidden : List Violation} (forbidden' : ∀ v ∈ forbidden, v.OneLine) :
      Plain (Analysis.report p rules forbidden (Graph.build p root reader paths))

theorem Plain.oneLine {r : Report} (plain : r.Plain) : ∀ v ∈ r.violations, v.OneLine := by
  cases plain with
  | project plain => exact plain.report
  | paths plain given => exact plain.reportOn given
  | graph plain root rules given errors forbidden =>
    exact fun v listed => Analysis.oneLine_of_mem_report plain given errors forbidden listed

/-- The lines of a report are its findings exactly if no finding has a line break in it, and that is so exactly if there
are as many line breaks as findings. It is so for every report about what has no line breaks, whatever the sources
hold. -/
theorem compact_lines_iff (r : Report) :
    (r.compact.toList.count '\n' = r.violations.length ↔ ∀ v ∈ r.violations, v.OneLine) ∧
      (Text.split '\n' r.compact = r.violations.map Violation.display ++ [""] ↔ ∀ v ∈ r.violations, v.OneLine) ∧
      (r.Plain → ∀ v ∈ r.violations, v.OneLine) :=
  ⟨count_compact_eq_iff, split_compact_iff, Plain.oneLine⟩

section TwoLayers

open Analysis (upward edges_upward importingFile upwardEdge)
open Layering.Graph (twoPaths)
open Layering.Policy (twoLayers twoLayersPolicy load_twoLayers)
open Project (spelt twoFiles)

theorem oneLine_twoLayersPolicy : twoLayersPolicy.OneLine where
  layers := by decide
  aliases := by decide
  extensions := by decide
  ruleNames := by simp [twoLayersPolicy]
  ruleMessages := by simp [twoLayersPolicy]
  patterns := by simp [twoLayersPolicy]
  forbidden := by simp [twoLayersPolicy]

theorem oneLine_twoFiles : twoFiles.OneLine := by
  have names : Text.OneLine "src" ∧ (Text.OneLine "app" ∧ Text.OneLine "shared") ∧
      Text.OneLine "a.ts" ∧ Text.OneLine "b.ts" := by decide
  simpa [twoFiles, Tree.oneLine_directory, Tree.OneLine.file] using names

theorem oneLine_spelt : (spelt ⟨"src"⟩).OneLine twoFiles where
  policy := oneLine_twoLayersPolicy
  names := oneLine_twoFiles
  directory := by decide
  sourceRoot := by decide
  ignoreFiles _ := by decide +kernel

theorem compact_lines_iff_upward :
    let found := Analysis.report twoLayersPolicy Rule.selectable []
      (Graph.build twoLayersPolicy ⟨""⟩ upward.reader twoPaths)
    let walked := (spelt ⟨"src"⟩).report twoFiles
    Policy.load twoLayers = .ok twoLayersPolicy ∧ found.violations ≠ [] ∧
      found.compact.toList.count '\n' = found.violations.length ∧
      Text.split '\n' found.compact = found.violations.map Violation.display ++ [""] ∧
      walked.compact.toList.count '\n' = walked.violations.length := by
  intro found walked
  have reads : ∀ path ∈ twoPaths, (upward.reader.read (Path.join ⟨""⟩ ⟨path⟩)).isOk = true := by decide +kernel
  have plain : found.Plain := by
    refine .graph oneLine_twoLayersPolicy _ _ (by decide) (fun path given e failed => ?_) (by simp)
    have read := failed ▸ reads path given
    cases read
  obtain ⟨count, lines, oneLine⟩ := compact_lines_iff found
  obtain ⟨count', -, oneLine'⟩ := compact_lines_iff walked
  refine ⟨load_twoLayers, ?_, count.mpr (oneLine plain), lines.mpr (oneLine plain),
    count'.mpr (oneLine' (.project oneLine_spelt))⟩
  obtain ⟨v, judged⟩ : ∃ v, Check.direction? twoLayersPolicy Rule.layerDirection.standardSeverity importingFile
      upwardEdge = some v := ⟨_, rfl⟩
  have misdirected : v ∈ Analysis.findings twoLayersPolicy []
      (Graph.build twoLayersPolicy ⟨""⟩ upward.reader twoPaths) .layerDirection :=
    List.mem_filterMap.mpr ⟨(importingFile, upwardEdge), by simp [edges_upward], judged⟩
  have registered : Rule.layerDirection ∈ Rule.selectable := by decide
  obtain ⟨w, listed, -⟩ := Analysis.exists_reported registered (by decide) misdirected
  exact List.ne_nil_of_mem listed

end TwoLayers

section Wordy

open Check (quiet)

/-- What is said of stores that fetch takes two lines. -/
def wordy : RoleRule := { quiet with message := some "stores are quiet:\nlet a service fetch" }

def wordyDocument : Policy.Document :=
  { Policy.nestedRoots with
    roleRules := some [{
      name := "quiet", role := "store", patterns := ["fetch("], denyImports := ["axios"], denyLayers := ["late"]
      message := some "stores are quiet:\nlet a service fetch" }] }

def wordyPolicy : Policy := { Policy.nestedRootsPolicy with roleRules := [wordy] }

theorem load_wordy : Policy.load wordyDocument = .ok wordyPolicy :=
  Policy.load_eq_ok.mpr { Policy.load_eq_ok.mp Policy.load_nestedRoots with roleRules := rfl }

/-- A store that fetches. -/
def fetching : Memory where
  files := [("src/features/cart/store.ts", "fetch(a)")]

def fetchingPaths : List String := ["src/features/cart/store.ts"]

/-- The rule finds what takes two lines to say. -/
theorem exists_found_wordy : ∃ v ∈ Check.roleContent wordyPolicy
    (Graph.build wordyPolicy ⟨""⟩ fetching.reader fetchingPaths), ¬Text.OneLine v.message := by
  let path := "src/features/cart/store.ts"
  let file : SourceFile := ⟨path, wordyPolicy.identity path, "fetch(a)",
    Graph.edgesOf wordyPolicy (Graph.isKnown ⟨""⟩ fetching.reader fetchingPaths) path "fetch(a)"⟩
  have member : file ∈ (Graph.build wordyPolicy ⟨""⟩ fetching.reader fetchingPaths).files :=
    Graph.mem_files_build.mpr ⟨List.mem_singleton_self _, "fetch(a)", by decide +kernel, rfl⟩
  have own : wordy.role = file.identity.role :=
    (by decide +kernel : _ = wordyPolicy.roleOf path).trans Policy.role_identity.symm
  have text : Check.deniedText? wordy file.path (Source.sanitize false file.text) (.literal "fetch(") =
      some (Check.textFinding wordy file "fetch(" 1 0) := by decide +kernel
  refine ⟨Check.textFinding wordy file "fetch(" 1 0, ?_, by decide +kernel⟩
  rw [Check.roleContent_eq]
  refine List.mem_flatMap.mpr ⟨file, member, List.mem_flatMap.mpr ⟨wordy, List.mem_singleton_self _, ?_⟩⟩
  rw [Check.foundBy, if_pos own, Check.roleRuleFindings]
  exact List.mem_append_left _ (List.mem_filterMap.mpr ⟨.literal "fetch(", List.mem_singleton_self _, text⟩)

theorem compact_not_one_line : Policy.load wordyDocument = .ok wordyPolicy ∧
    let r := Analysis.report wordyPolicy Rule.selectable [] (Graph.build wordyPolicy ⟨""⟩ fetching.reader fetchingPaths)
    r.compact.toList.count '\n' ≠ r.violations.length ∧
      Text.split '\n' r.compact ≠ r.violations.map Violation.display ++ [""] := by
  refine ⟨load_wordy, ?_⟩
  intro r
  have broken : ¬∀ v ∈ r.violations, v.OneLine := by
    intro plain
    obtain ⟨v, found, twoLines⟩ := exists_found_wordy
    have registered : Rule.roleContent ∈ Rule.selectable := by decide
    have enabled : wordyPolicy.isEnabled .roleContent = true := by decide
    obtain ⟨w, listed, alike⟩ := Analysis.exists_reported registered enabled
      (found : v ∈ Analysis.findings wordyPolicy [] _ .roleContent)
    obtain ⟨-, -, -, -, message, -⟩ := Violation.same_iff.mp alike
    exact twoLines (message ▸ (plain w listed).message)
  exact ⟨fun same => broken (count_compact_eq_iff.mp same), fun same => broken (split_compact_iff.mp same)⟩

end Wordy

end Report

end Layering
