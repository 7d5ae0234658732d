import Layering.Proofs.Discovery.SourceRoot
import Layering.Proofs.Findings
import Layering.Proofs.Glob.Escaping
import Layering.Proofs.Graph.Issues
import Layering.Proofs.Policy.Adjusting
import Layering.Proofs.Policy.Invariants
import Layering.Proofs.Report.Canonical
import Layering.Proofs.RuleNames

/-! Running some of the rules, and grading one anew. Rules do not see each other's findings, and sorting and dropping
repetitions never mixes findings of different codes. So what a run of some rules reports is a part of what a run of all
of them reports, and a severity that a policy gives to one rule changes nothing about the others. -/
namespace Layering

open Analysis (evaluate findings graded regrade_eq_map code_graded code_of_findings code_of_issues)
open Policy (SameButRules SwitchedOff Graded)

namespace Rule

/-- The rules that can be switched off, without the given ones. -/
def without (rules : List Rule) : List Rule := selectable.filter fun rule => !rules.contains rule

/-- Whether a code is that of one of the rules, or says that a file cannot be read or is misplaced. -/
def covers (rules : List Rule) (code : String) : Bool :=
  rules.any (·.code = code) || code = ioError.code || code = classificationError.code

theorem code_ne_of_configurable {rule other : Rule} (configurable : rule.isConfigurable = true)
    (fixed : other.isConfigurable = false) : other.code ≠ rule.code := fun same => by
  rw [code_injective same, configurable] at fixed
  contradiction

theorem covers_code (rules : List Rule) {rule : Rule} (configurable : rule.isConfigurable = true) :
    covers rules rule.code = rules.contains rule := by
  have io : rule.code ≠ ioError.code := (code_ne_of_configurable configurable rfl).symm
  have classification : rule.code ≠ classificationError.code := (code_ne_of_configurable configurable rfl).symm
  rw [Bool.eq_iff_iff]
  simp only [covers, io, classification, List.any_eq_true, decide_eq_true_eq, List.contains_iff_mem, decide_false,
    Bool.or_false]
  exact ⟨fun ⟨_, listed, same⟩ => code_injective same ▸ listed, fun listed => ⟨rule, listed, rfl⟩⟩

end Rule

namespace Violation

/-- Between findings of one code stand only findings of that code. -/
theorem convex_code (picks : String → Bool) : Convex Violation.compare same fun v => picks v.code := by
  intro u v w first second alike
  have back : (v.compare u).isLE = true := by
    rwa [Std.TransCmp.congr_right (compare_of_same alike)]
  have level : u.compare v = .eq := Std.OrientedCmp.isLE_antisymm first back
  exact congrArg picks (code_and_location_of_compare level).1

/-- The finding with the given severity if it is one of the rule. -/
def regraded (rule : Rule) (severity : Severity) (v : Violation) : Violation :=
  if v.code = rule.code then { v with severity } else v

/-- Findings that tell the same, however grave they are. -/
structure TellsSame (v w : Violation) : Prop where
  code : v.code = w.code
  location : v.location.same w.location = true
  message : v.message = w.message

variable {rule : Rule} {severity : Severity} {v w : Violation}

theorem regraded_of_ne (other : v.code ≠ rule.code) : v.regraded rule severity = v := if_neg other

theorem regraded_eq (rule : Rule) (severity : Severity) (v : Violation) :
    ∃ severity', v.regraded rule severity = { v with severity := severity' } := by
  unfold regraded
  split
  · exact ⟨severity, rfl⟩
  · exact ⟨v.severity, rfl⟩

@[simp] theorem code_regraded : (v.regraded rule severity).code = v.code := by
  obtain ⟨_, same⟩ := regraded_eq rule severity v
  rw [same]

theorem filter_regraded (rule : Rule) (severity : Severity) (vs : List Violation) :
    (vs.map (·.regraded rule severity)).filter (·.code ≠ rule.code) = vs.filter (·.code ≠ rule.code) := by
  simp only [List.filter_map, Function.comp_def, code_regraded]
  refine (List.map_congr_left fun v picked => regraded_of_ne ?_).trans (List.map_id' _)
  simpa using (List.mem_filter.mp picked).2

theorem same_regraded (rule : Rule) (severity : Severity) {v w : Violation} (alike : v.same w = true) :
    (v.regraded rule severity).same (w.regraded rule severity) = true := by
  obtain ⟨code, name, -, rest⟩ := same_iff.mp alike
  by_cases own : v.code = rule.code
  · rw [regraded, if_pos own, regraded, if_pos (code ▸ own)]
    exact same_iff.mpr ⟨code, name, rfl, rest⟩
  · rwa [regraded_of_ne own, regraded_of_ne (code ▸ own)]

theorem tellsSame_of_same_regraded (alike : (v.regraded rule severity).same w = true) : v.TellsSame w := by
  obtain ⟨_, same⟩ := regraded_eq rule severity v
  rw [same] at alike
  obtain ⟨code, -, -, location, message, -⟩ := same_iff.mp alike
  exact ⟨code, location, message⟩

end Violation

namespace Report

/-- A report that has of the findings of another one those that some rules are answerable for, in their order. -/
structure IsPart (rules : List Rule) (part full : Report) : Prop where
  violations : part.violations = full.violations.filter fun v => Rule.covers rules v.code
  filesChecked : part.filesChecked = full.filesChecked
  edgesChecked : part.edgesChecked = full.edgesChecked

/-- A report that differs from another one in how grave the findings of one rule are. -/
structure Regraded (rule : Rule) (severity : Severity) (before after : Report) : Prop where
  own : SameFindings (before.violations.map (·.regraded rule severity)) after.violations
  others : after.violations.filter (·.code ≠ rule.code) = before.violations.filter (·.code ≠ rule.code)
  kept : ∀ v ∈ before.violations, ∃ w ∈ after.violations, v.TellsSame w
  new : ∀ w ∈ after.violations, ∃ v ∈ before.violations, v.TellsSame w
  filesChecked : after.filesChecked = before.filesChecked
  edgesChecked : after.edgesChecked = before.edgesChecked

end Report

namespace Analysis

variable {p p' : Policy} {forbidden : List Violation} {g : Graph}

theorem evaluate_eq (p : Policy) (rules : List Rule) (forbidden : List Violation) (g : Graph) :
    evaluate p rules forbidden g =
      (rules.filter p.isEnabled).flatMap fun rule => (findings p forbidden g rule).map (graded p rule) := by
  simp only [evaluate, regrade_eq_map]

theorem filter_flatMap {f : α → List β} {picks : β → Bool} {chosen : α → Bool}
    (alike : ∀ a, ∀ b ∈ f a, picks b = chosen a) (as : List α) :
    (as.flatMap f).filter picks = (as.filter chosen).flatMap f := by
  induction as with
  | nil => rfl
  | cons a as ih =>
    rw [List.flatMap_cons, List.filter_append, ih, List.filter_congr (alike a)]
    cases own : chosen a with
    | true => simp [own]
    | false => simp [own]

/-- Picking findings by their codes is picking rules by their codes. -/
theorem filter_evaluate (own : ∀ v ∈ forbidden, v.code = Rule.forbiddenPath.code) (picks : String → Bool)
    (rules : List Rule) : (evaluate p rules forbidden g).filter (fun v => picks v.code) =
      evaluate p (rules.filter fun rule => picks rule.code) forbidden g := by
  have swap : (rules.filter fun rule => picks rule.code).filter p.isEnabled =
      (rules.filter p.isEnabled).filter fun rule => picks rule.code := by
    simp only [List.filter_filter, Bool.and_comm]
  rw [evaluate_eq, evaluate_eq, swap]
  refine filter_flatMap (fun rule => List.forall_mem_map.mpr fun v found => ?_) _
  rw [code_graded]
  rcases code_of_findings found with mine | ⟨rfl, given⟩
  · rw [mine]
  · rw [own v given]

theorem findings_congr (rest : SameButRules p p') (rule : Rule) :
    findings p' forbidden g rule = findings p forbidden g rule := by
  rw [rest]
  cases rule <;> rfl

theorem evaluate_switchedOff {outside : List Rule} (off : SwitchedOff outside p p') (rules : List Rule) :
    evaluate p' rules forbidden g = evaluate p (rules.filter fun rule => !outside.contains rule) forbidden g := by
  have enabled : rules.filter p'.isEnabled = (rules.filter fun rule => !outside.contains rule).filter p.isEnabled := by
    rw [List.filter_filter]
    exact List.filter_congr fun rule _ => by rw [off.enabled, Bool.and_comm]
  simp only [evaluate, enabled, findings_congr off.rest, regrade, off.severity]

theorem graded_of_graded {rule other : Rule} {severity : Severity} (grades : Graded rule severity p p')
    {v : Violation} (own : v.code = rule.code → other = rule) :
    graded p' other v = (graded p other v).regraded rule severity := by
  by_cases same : other = rule
  · subst same
    unfold graded Violation.regraded
    rw [grades.severity]
    cases p.severity? other with
    | none => rfl
    | some _ => by_cases code : v.code = other.code <;> simp [code]
  · have foreign : (graded p other v).code ≠ rule.code := by
      rw [code_graded]
      exact fun code => same (own code)
    rw [Violation.regraded_of_ne foreign]
    simp only [graded, grades.others other same]

theorem evaluate_graded {rule : Rule} {severity : Severity} (grades : Graded rule severity p p')
    (own : ∀ v ∈ forbidden, v.code = Rule.forbiddenPath.code ∨ v.code = Rule.ioError.code)
    (configurable : rule.isConfigurable = true) (rules : List Rule) :
    evaluate p' rules forbidden g = (evaluate p rules forbidden g).map (·.regraded rule severity) := by
  have enabled : p'.isEnabled = p.isEnabled := funext grades.enabled
  rw [evaluate_eq, evaluate_eq, enabled, List.map_flatMap]
  congr 1
  funext other
  rw [findings_congr grades.rest, List.map_map]
  refine List.map_congr_left fun v found => graded_of_graded grades fun code => ?_
  rcases code_of_findings found with mine | ⟨rfl, given⟩
  · exact Rule.code_injective (mine.symm.trans code)
  · rcases own v given with path | io
    · exact Rule.code_injective (path.symm.trans code)
    · exact absurd (io.symm.trans code) (Rule.code_ne_of_configurable configurable rfl)

end Analysis

open Report (SameFindings)

namespace Project

/-- The findings of the rules of a project. -/
def violations (project : Project) (tree : Tree) : List Violation :=
  evaluate project.policy project.rules (project.forbidden tree) (project.graph tree (project.discover tree).paths)

/-- The report on a project whose rules find the given violations. -/
def reporting (project : Project) (tree : Tree) (violations : List Violation) : Report :=
  let found := project.discover tree
  let g := project.graph tree found.paths
  ((Report.sorted {
    violations := g.issues ++ violations
    filesChecked := g.inventory.length
    edgesChecked := g.edgeCount }).add found.issues).sorted

theorem report_eq (project : Project) (tree : Tree) :
    project.report tree = project.reporting tree (project.violations tree) := rfl

variable {project : Project} {tree : Tree} {found : List Violation}

/-- What a policy sets for rules matters to the findings of rules alone. -/
theorem reporting_congr {p' : Policy} (rest : SameButRules project.policy p') (rules : List Rule)
    (tree : Tree) : { project with policy := p', rules }.reporting tree = project.reporting tree := by
  rw [rest]
  rfl

theorem violations_congr {p' : Policy} (rest : SameButRules project.policy p') (rules : List Rule)
    (tree : Tree) : { project with policy := p', rules }.violations tree =
      evaluate p' rules (project.forbidden tree) (project.graph tree (project.discover tree).paths) := by
  rw [rest]
  rfl

/-- What is reported about the files themselves comes from no rule that can be switched off. -/
theorem fixed_of_issues {v : Violation}
    (listed : v ∈ (project.graph tree (project.discover tree).paths).issues ∨ v ∈ (project.discover tree).issues) :
    ∃ rule : Rule, rule.isConfigurable = false ∧ v.code = rule.code := by
  rcases listed with listed | listed
  · rcases code_of_issues listed with code | code
    · exact ⟨.classificationError, rfl, code⟩
    · exact ⟨.ioError, rfl, code⟩
  · simp only [discover, Discovery.find] at listed
    split at listed
    · unfold Discovery.problemIssues at listed
      split at listed
      · cases listed
      · exact ⟨.ioError, rfl, List.mem_singleton.mp listed ▸ rfl⟩
    · cases listed

/-- Patterns that can be read as a whole and cut into components find nothing but forbidden paths. -/
theorem code_of_forbidden_of_expands (reads : ∀ pattern ∈ project.policy.forbidden, Glob.parse pattern.text = .ok pattern)
    (expands : ∀ pattern ∈ project.policy.forbidden, ∃ components, pattern.components = .ok components)
    {v : Violation} (found : v ∈ project.forbidden tree) : v.code = Rule.forbiddenPath.code := by
  obtain ⟨pattern, listed, found⟩ := List.mem_flatMap.mp found
  obtain ⟨components, expanded⟩ := expands pattern listed
  obtain ⟨paths, described⟩ : ∃ paths,
      Glob.paths tree (Check.absolutePattern project.directory pattern.text) = .ok paths := by
    unfold Check.absolutePattern
    split
    · rw [Glob.paths_eq (reads pattern listed), expanded]
      exact ⟨_, rfl⟩
    · rw [Glob.paths_append (reads pattern listed), expanded]
      exact ⟨_, rfl⟩
  rw [Check.forbiddenAt, described] at found
  obtain ⟨_, -, rfl⟩ := List.mem_map.mp found
  rfl

/-- Picking findings of some codes from a report is reporting on what has been found with these codes. -/
theorem filter_reporting {picks : String → Bool}
    (fixed : ∀ rule : Rule, rule.isConfigurable = false → picks rule.code) :
    (project.reporting tree found).violations.filter (fun v => picks v.code) =
      (project.reporting tree (found.filter fun v => picks v.code)).violations := by
  have picked {v : Violation} (about : ∃ rule : Rule, rule.isConfigurable = false ∧ v.code = rule.code) :
      picks v.code = true := by
    obtain ⟨rule, always, code⟩ := about
    exact code ▸ fixed rule always
  simp only [reporting, Report.sorted, Report.add, filter_dropRepeats_sortBy (Violation.convex_code picks),
    List.filter_append, List.filter_eq_self.mpr fun _ listed => picked (fixed_of_issues (.inl listed)),
    List.filter_eq_self.mpr fun _ listed => picked (fixed_of_issues (.inr listed))]

theorem filter_reporting_congr {found' : List Violation} (picks : String → Bool)
    (alike : (found.filter fun v => picks v.code) = found'.filter fun v => picks v.code) :
    (project.reporting tree found).violations.filter (fun v => picks v.code) =
      (project.reporting tree found').violations.filter fun v => picks v.code := by
  simp only [reporting, Report.sorted, Report.add, filter_dropRepeats_sortBy (Violation.convex_code picks),
    List.filter_append, alike]

theorem sameFindings_reporting (project : Project) (tree : Tree) (found : List Violation) : SameFindings
    ((project.graph tree (project.discover tree).paths).issues ++ found ++ (project.discover tree).issues)
    (project.reporting tree found).violations :=
  ((SameFindings.sorted ⟨_, 0, 0⟩).append_right _).trans (SameFindings.sorted ⟨_, 0, 0⟩)

/-- A source that cannot be read is a finding. -/
theorem violations_ne_nil_of_unread {path : String} (listed : path ∈ (project.discover tree).paths) {e : ReadError}
    (fails : tree.read (project.directory.join ⟨path⟩) = .error e) : (project.report tree).violations ≠ [] := by
  have issue : Rule.ioError.violation .error (.whole path) ("failed to read file: " ++ e.message) none ∈
      (project.graph tree (project.discover tree).paths).issues := by
    have fails' : tree.reader.read (project.directory.join ⟨path⟩) = .error e := fails
    exact Graph.mem_issues_build.mpr ⟨path, listed, by simp [fails', Graph.readIssue]⟩
  obtain ⟨_, reported, -⟩ := (sameFindings_reporting project tree (project.violations tree)).1 _
    (List.mem_append_left _ (List.mem_append_left _ issue))
  exact List.ne_nil_of_mem reported

/-- Where there are no sources, there is nothing to be found unless paths are forbidden. -/
theorem violations_eq_nil_of_noSources (none : project.discover tree = ⟨[], []⟩)
    (unforbidden : project.policy.forbidden = []) : (project.report tree).violations = [] := by
  have graph : project.graph tree [] = ⟨[], [], [], []⟩ := by
    simp [Project.graph, Graph.build, sortDistinct, sortBy, dropRepeats]
  have forbidden : project.forbidden tree = [] := by
    rw [Project.forbidden, Check.forbiddenIn, unforbidden, List.flatMap_nil]
  have evaluated : evaluate project.policy project.rules [] ⟨[], [], [], []⟩ = [] := by
    refine List.flatMap_eq_nil_iff.mpr fun rule _ => ?_
    rw [Analysis.regrade_eq_map]
    cases rule <;> rfl
  rw [report, none, reportOn, graph, forbidden, Analysis.report, evaluated]
  simp [Report.sorted, Report.add, sortBy, dropRepeats]

theorem regraded_reporting {rule : Rule} (configurable : rule.isConfigurable = true) (severity : Severity) :
    (project.reporting tree found).Regraded rule severity
      (project.reporting tree (found.map (·.regraded rule severity))) := by
  have kept {vs : List Violation}
      (fixed : ∀ v ∈ vs, ∃ other : Rule, other.isConfigurable = false ∧ v.code = other.code) :
      vs.map (·.regraded rule severity) = vs := by
    refine (List.map_congr_left fun v listed => ?_).trans (List.map_id' vs)
    obtain ⟨other, always, code⟩ := fixed v listed
    exact Violation.regraded_of_ne (code ▸ Rule.code_ne_of_configurable configurable always)
  -- The severity is the last key of the order, so that grading can reorder findings; that leaves the same findings.
  have own : SameFindings ((project.reporting tree found).violations.map (·.regraded rule severity))
      (project.reporting tree (found.map (·.regraded rule severity))).violations := by
    have before := (sameFindings_reporting project tree found).map (Violation.same_regraded rule severity)
    rw [List.map_append, List.map_append, kept fun _ listed => fixed_of_issues (.inl listed),
      kept fun _ listed => fixed_of_issues (.inr listed)] at before
    exact before.symm.trans (sameFindings_reporting project tree _)
  refine ⟨own, ?_, fun v listed => ?_, fun w listed => ?_, rfl, rfl⟩
  · exact filter_reporting_congr (fun code => code ≠ rule.code) (Violation.filter_regraded rule severity found)
  · obtain ⟨w, found, alike⟩ := own.1 _ (List.mem_map_of_mem listed)
    exact ⟨w, found, Violation.tellsSame_of_same_regraded alike⟩
  · obtain ⟨_, found, alike⟩ := own.2 w listed
    obtain ⟨v, before, rfl⟩ := List.mem_map.mp found
    exact ⟨v, before, Violation.tellsSame_of_same_regraded alike⟩

/-- A run that switches rules off reports what a run of the other rules does. -/
theorem report_switchedOff (project : Project) (tree : Tree) {p' : Policy} {rules : List Rule}
    (off : SwitchedOff (Rule.without rules) project.policy p') :
    { project with policy := p', rules := Rule.selectable }.report tree =
      { project with rules := Rule.selectable.filter rules.contains }.report tree := by
  have chosen : (Rule.selectable.filter fun rule => !(Rule.without rules).contains rule) =
      Rule.selectable.filter rules.contains :=
    List.filter_congr fun rule listed => by simp [Rule.without, listed]
  rw [report_eq, reporting_congr off.rest, violations_congr off.rest, Analysis.evaluate_switchedOff off, chosen]
  rfl

theorem isPart_report (project : Project) (tree : Tree) {rules : List Rule}
    (reads : ∀ pattern ∈ project.policy.forbidden, Glob.parse pattern.text = .ok pattern)
    (expands : ∀ pattern ∈ project.policy.forbidden, ∃ components, pattern.components = .ok components) :
    Report.IsPart rules ({ project with rules := Rule.selectable.filter rules.contains }.report tree)
      ({ project with rules := Rule.selectable }.report tree) where
  violations := by
    have fixed (rule : Rule) (always : rule.isConfigurable = false) : Rule.covers rules rule.code = true := by
      cases rule <;> simp_all [Rule.covers, Rule.isConfigurable]
    have chosen : (Rule.selectable.filter fun rule => Rule.covers rules rule.code) =
        Rule.selectable.filter rules.contains :=
      List.filter_congr fun rule listed => Rule.covers_code rules (Rule.mem_selectable.mp listed)
    have picked : (({ project with rules := Rule.selectable } : Project).violations tree).filter
          (fun v => Rule.covers rules v.code) =
        ({ project with rules := Rule.selectable.filter rules.contains } : Project).violations tree := by
      rw [← chosen]
      exact Analysis.filter_evaluate (fun v listed => code_of_forbidden_of_expands reads expands listed)
        (Rule.covers rules) Rule.selectable
    rw [report_eq, ← picked]
    exact (filter_reporting fixed).symm
  filesChecked := rfl
  edgesChecked := rfl

theorem report_graded {p' : Policy} {rule : Rule} {severity : Severity} (configurable : rule.isConfigurable = true)
    (grades : Graded rule severity project.policy p') :
    (project.report tree).Regraded rule severity ({ project with policy := p' }.report tree) := by
  have regraded : ({ project with policy := p' } : Project).violations tree =
      (project.violations tree).map (·.regraded rule severity) := by
    rw [violations_congr grades.rest]
    exact Analysis.evaluate_graded grades (fun v => Analysis.code_of_forbidden) configurable project.rules
  rw [report_eq, report_eq, regraded, reporting_congr grades.rest]
  exact regraded_reporting configurable severity

/-- What a run of some rules on a directory with a policy reports. -/
def run (tree : Tree) (directory : Path) (sourceRoot : Option Path) (exclude : List String) (user : Ignore.UserFile)
    (rules : List Rule) (p : Policy) : Except ProjectError Report :=
  (make tree directory p rules sourceRoot exclude user).map (·.report tree)

/-- Runs that fail alike, or whose reports are in a relation. -/
inductive Alike (relation : Report → Report → Prop) : Except ProjectError Report → Except ProjectError Report → Prop
  | error (e : ProjectError) : Alike relation (.error e) (.error e)
  | ok {r r' : Report} (related : relation r r') : Alike relation (.ok r) (.ok r')

variable {directory : Path} {sourceRoot : Option Path} {exclude : List String} {user : Ignore.UserFile} {p p' : Policy}

theorem Alike.eq {result result' : Except ProjectError Report} (alike : Alike (· = ·) result result') :
    result = result' := by
  cases alike with
  | error e => rfl
  | ok same => rw [same]

/-- Where a project is and what is excluded from it does not depend on rules, so that runs fail alike. -/
theorem alike_run {relation : Report → Report → Prop} (rest : SameButRules p p') {rules rules' : List Rule}
    (related : ∀ project : Project, project.policy = p →
      relation ({ project with rules }.report tree) ({ project with policy := p', rules := rules' }.report tree)) :
    Alike relation (run tree directory sourceRoot exclude user rules p)
      (run tree directory sourceRoot exclude user rules' p') := by
  have root : p'.discovery = p.discovery := by rw [rest]
  simp only [run, make_eq, root]
  split
  · cases readExclude exclude with
    | error e => exact .error e
    | ok globs => exact .ok (related ⟨directory, p, rules, _, _, user⟩ rfl)
  · exact .error _

/-- Rules are independent. A run of some rules reports what a run of all of them does when the policy switches the
others off, and that is what the run of all rules reports with the codes of these rules or about the files themselves.
Grading a rule changes only how grave its own findings are. -/
theorem rules_independent {document : Policy.Document} (accepted : Policy.load document = .ok p)
    (keys : (document.rules.map (·.1)).Nodup)
    (expands : ∀ pattern ∈ p.forbidden, ∃ components, pattern.components = .ok components) (tree : Tree)
    (directory : Path) (sourceRoot : Option Path) (exclude : List String) (user : Ignore.UserFile) {rules : List Rule}
    (configurable : ∀ rule ∈ rules, rule.isConfigurable = true) :
    ∃ chosen off, Rule.select (rules.map Rule.name) = .ok chosen ∧
      Policy.load (document.switchingOff (Rule.without rules)) = .ok off ∧
      SwitchedOff (Rule.without rules) p off ∧
      run tree directory sourceRoot exclude user chosen p =
        run tree directory sourceRoot exclude user Rule.selectable off ∧
      Alike (Report.IsPart rules) (run tree directory sourceRoot exclude user chosen p)
        (run tree directory sourceRoot exclude user Rule.selectable p) ∧
      ∀ (registered : List Rule) (rule : Rule) (severity : Severity), rule.isConfigurable = true →
        ∃ regraded, Policy.load (document.grading rule severity) = .ok regraded ∧ Graded rule severity p regraded ∧
          Alike (Report.Regraded rule severity) (run tree directory sourceRoot exclude user registered p)
            (run tree directory sourceRoot exclude user registered regraded) := by
  have outside : ∀ rule ∈ Rule.without rules, rule.isConfigurable = true := fun rule listed =>
    Rule.mem_selectable.mp (List.mem_of_mem_filter listed)
  obtain ⟨off, accepted', switched⟩ := Policy.load_switchingOff accepted keys outside
  refine ⟨Rule.selectable.filter rules.contains, off, Rule.select_names configurable, accepted', switched, ?_, ?_,
    fun registered rule severity own => ?_⟩
  · exact (alike_run switched.rest fun project same =>
      (report_switchedOff project tree (same ▸ switched)).symm).eq
  · have reads : ∀ pattern ∈ p.forbidden, Glob.parse pattern.text = .ok pattern := fun pattern =>
      Policy.parse_text_of_mem_forbidden accepted
    exact alike_run (.refl p) fun project same => same ▸ isPart_report project tree (same ▸ reads) (same ▸ expands)
  · obtain ⟨regraded, accepted'', grades⟩ := Policy.load_grading accepted keys own severity
    exact ⟨regraded, accepted'', grades, alike_run grades.rest fun project same =>
      report_graded own (same ▸ grades)⟩

section TwoLayers

open Policy (twoLayers twoLayersPolicy load_twoLayers)

/-- Of the run on two files, one rule alone reports its part, and so do all rules with the others switched off. -/
theorem rules_independent_twoLayers :
    let analyze := run twoFiles ⟨"/"⟩ (some ⟨"src"⟩) [] {}
    Policy.load twoLayers = .ok twoLayersPolicy ∧ (twoLayers.rules.map (·.1)).Nodup ∧
      (∀ pattern ∈ twoLayersPolicy.forbidden, ∃ components, pattern.components = .ok components) ∧
      (∀ rule ∈ [Rule.layerDirection], rule.isConfigurable = true) ∧
      ∃ off part full, Policy.load (twoLayers.switchingOff (Rule.without [.layerDirection])) = .ok off ∧
        analyze Rule.selectable off = .ok part ∧ analyze [.layerDirection] twoLayersPolicy = .ok part ∧
        analyze Rule.selectable twoLayersPolicy = .ok full ∧ part.IsPart [.layerDirection] full := by
  have keys : (twoLayers.rules.map (·.1)).Nodup := by decide
  have expands : ∀ pattern ∈ twoLayersPolicy.forbidden, ∃ components, pattern.components = .ok components := nofun
  have configurable : ∀ rule ∈ [Rule.layerDirection], rule.isConfigurable = true := by decide
  have exists? : twoFiles.holdsAt (Path.join ⟨"/"⟩ ⟨"src"⟩) Tree.isDirectory = true := by decide +kernel
  have full : run twoFiles ⟨"/"⟩ (some ⟨"src"⟩) [] {} Rule.selectable twoLayersPolicy =
      .ok ((spelt ⟨"src"⟩).report twoFiles) := by rw [run, make_spelt exists?, Except.map]
  obtain ⟨chosen, off, named, accepted, -, equal, alike, -⟩ :=
    rules_independent load_twoLayers keys expands twoFiles ⟨"/"⟩ (some ⟨"src"⟩) [] {} configurable
  have one : Rule.select ([Rule.layerDirection].map Rule.name) = .ok [.layerDirection] := Rule.select_names configurable
  obtain rfl : [Rule.layerDirection] = chosen := Except.ok.inj (one.symm.trans named)
  rw [full] at alike
  generalize result : run twoFiles ⟨"/"⟩ (some ⟨"src"⟩) [] {} [Rule.layerDirection] twoLayersPolicy = part at equal alike
  cases alike with
  | ok related =>
    exact ⟨load_twoLayers, keys, expands, configurable, off, _, _, accepted, equal.symm, result, full, related⟩

end TwoLayers

end Project

end Layering
