import Layering.CommandLine.Run
import Layering.Proofs.Policy.Invariants
import Layering.Proofs.Report.Selection

/-! How a check ends. The policy comes from the first place that has one and from nowhere else, even if it cannot be
loaded from there. A check that cannot be done says nothing on its output, and any other one prints its report and tells
by its code whether there are findings. -/
namespace Layering

namespace Policy.Source

variable {s : Surroundings} {tree : Tree} {project : Path} {config : Option Path} {source : Source}

/-- Whether a path leads to a file. -/
def hasFile (s : Surroundings) (tree : Tree) (path : Path) : Bool := tree.holdsAt (s.absolute path) Tree.isFile

def plainFile (project : Path) : Path := project.join ⟨"layer-lint.toml"⟩

def dottedFile (project : Path) : Path := project.join ⟨".layer-lint.toml"⟩

def globalFile (directory : Path) : Path := directory.join ⟨"config.toml"⟩

/-- Where the policy of a project comes from: the file that is named, whether it exists or not, or else the first file
that exists. -/
inductive Chosen (s : Surroundings) (tree : Tree) (project : Path) : Option Path → Source → Prop
  | explicit (path : Path) : Chosen s tree project (some path) (.explicit path)
  | plain (here : hasFile s tree (plainFile project) = true) :
      Chosen s tree project none (.project (plainFile project))
  | dotted (notPlain : hasFile s tree (plainFile project) = false)
      (here : hasFile s tree (dottedFile project) = true) : Chosen s tree project none (.project (dottedFile project))
  | global (notPlain : hasFile s tree (plainFile project) = false)
      (notDotted : hasFile s tree (dottedFile project) = false) {directory : Path}
      (set : s.userDirectory = some directory) (here : hasFile s tree (globalFile directory) = true) :
      Chosen s tree project none (.global (globalFile directory))
  | builtin (notPlain : hasFile s tree (plainFile project) = false)
      (notDotted : hasFile s tree (dottedFile project) = false)
      (notGlobal : ∀ directory, s.userDirectory = some directory → hasFile s tree (globalFile directory) = false) :
      Chosen s tree project none .builtin

theorem map_projectFiles (project : Path) : projectFiles.map project.join = [plainFile project, dottedFile project] := rfl

theorem hasFile_eq (s : Surroundings) (tree : Tree) :
    (fun path => tree.holdsAt (s.absolute path) Tree.isFile) = hasFile s tree := rfl

theorem globalFile_eq : (fun directory : Path => directory.join userFile) = globalFile := rfl

theorem find_of_project {path : Path}
    (found : [plainFile project, dottedFile project].find? (hasFile s tree) = some path) :
    find s tree project none = .project path := by
  unfold find
  dsimp only
  rw [map_projectFiles, hasFile_eq, found]

theorem find_of_global (missing : [plainFile project, dottedFile project].find? (hasFile s tree) = none) {path : Path}
    (found : (s.userDirectory.map globalFile).filter (hasFile s tree) = some path) :
    find s tree project none = .global path := by
  unfold find
  dsimp only
  rw [map_projectFiles, hasFile_eq, globalFile_eq, missing, found]

theorem find_of_nowhere (missing : [plainFile project, dottedFile project].find? (hasFile s tree) = none)
    (missing' : (s.userDirectory.map globalFile).filter (hasFile s tree) = none) :
    find s tree project none = .builtin := by
  unfold find
  dsimp only
  rw [map_projectFiles, hasFile_eq, globalFile_eq, missing, missing']

theorem Chosen.eq_find (chosen : Chosen s tree project config source) : find s tree project config = source := by
  cases chosen with
  | explicit path => rfl
  | plain here => exact find_of_project (List.find?_cons_of_pos here)
  | dotted notPlain here => exact find_of_project (by simp [notPlain, here])
  | global notPlain notDotted set here => exact find_of_global (by simp [notPlain, notDotted]) (by simp [set, here])
  | builtin notPlain notDotted notGlobal =>
    refine find_of_nowhere (by simp [notPlain, notDotted]) (Option.filter_eq_none_iff.mpr ?_)
    simpa using notGlobal

theorem exists_chosen (s : Surroundings) (tree : Tree) (project : Path) (config : Option Path) :
    ∃ source, Chosen s tree project config source := by
  cases config with
  | some path => exact ⟨_, .explicit path⟩
  | none =>
    cases plain : hasFile s tree (plainFile project) with
    | true => exact ⟨_, .plain plain⟩
    | false =>
      cases dotted : hasFile s tree (dottedFile project) with
      | true => exact ⟨_, .dotted plain dotted⟩
      | false =>
        by_cases global : ∃ directory, s.userDirectory = some directory ∧ hasFile s tree (globalFile directory) = true
        · obtain ⟨directory, set, here⟩ := global
          exact ⟨_, .global plain dotted set here⟩
        · exact ⟨_, .builtin plain dotted fun directory set => by simpa [set] using global⟩

/-- There is one source, and it is the one that is looked up. -/
theorem chosen_iff : Chosen s tree project config source ↔ find s tree project config = source := by
  refine ⟨Chosen.eq_find, ?_⟩
  rintro rfl
  obtain ⟨source, chosen⟩ := exists_chosen s tree project config
  exact chosen.eq_find ▸ chosen

theorem load_of_unreadable {path : Path} {e : ReadError} (at? : source.path? = some path)
    (fails : tree.read (s.absolute path) = .error e) : source.load s tree = .error (.unreadable path) := by
  simp only [load, at?, fails]

end Policy.Source

namespace CommandLine

open Policy (Surroundings Source)
open Policy.Source (Chosen chosen_iff)

/-- The entries of a list of rules, without blanks around them. Blank entries do not count. -/
inductive Asked : Option String → String → Prop
  | entry {list entry : String} (listed : entry ∈ Text.split ',' list) (some? : Text.trim entry ≠ "") :
      Asked (some list) (Text.trim entry)

/-- The directory with the sources that are checked. -/
def sourceDirectory (s : Surroundings) (options : CheckOptions) (p : Policy) : Path :=
  (projectDirectory s options.project).join (options.root.getD ⟨p.discovery.root⟩)

/-- Why a check with the policy from a source cannot be done. -/
inductive Refused (s : Surroundings) (tree : Tree) (source : Source) (options : CheckOptions) : Prop
  | policy {e : Policy.Error} (fails : source.load s tree = .error e)
  | rule {key : String} (asked : Asked options.rules key)
      (unknown : ∀ rule : Rule, rule.isConfigurable = true → ¬rule.IsNamedBy key)
  | root {p : Policy} (loads : source.load s tree = .ok p)
      (missing : tree.holdsAt (sourceDirectory s options p) Tree.isDirectory = false)
  | exclude {pattern : String} {e : Glob.Error} (given : pattern ∈ options.exclude)
      (invalid : Glob.parse pattern = .error e)

variable {s : Surroundings} {tree : Tree} {config : Option Path} {options : CheckOptions} {source : Source}

theorem mem_ruleNames {list key : String} : key ∈ ruleNames list ↔ Asked (some list) key := by
  simp only [ruleNames, List.mem_filter, List.mem_map, decide_eq_true_eq]
  constructor
  · rintro ⟨⟨entry, listed, rfl⟩, some?⟩
    exact .entry listed some?
  · rintro ⟨listed, some?⟩
    exact ⟨⟨_, listed, rfl⟩, some?⟩

theorem trim_of_asked {list : Option String} {key : String} (asked : Asked list key) : Text.trim key = key := by
  cases asked
  exact Text.trim_trim _

theorem exists_selectRules {list : Option String} : (∃ rules, selectRules list = .ok rules) ↔
    ∀ key, Asked list key → ∃ rule : Rule, rule.isConfigurable = true ∧ rule.IsNamedBy key := by
  cases list with
  | none => exact ⟨fun _ _ => nofun, fun _ => ⟨_, rfl⟩⟩
  | some list =>
    simp only [selectRules, Policy.mapError_eq_ok, Rule.exists_select, mem_ruleNames]
    exact forall₂_congr fun key asked => by simp only [Rule.IsMeantBy, trim_of_asked asked]

theorem mem_selectRules {list : Option String} {rules : List Rule} (selected : selectRules list = .ok rules)
    {rule : Rule} : rule ∈ rules ↔
      rule.isConfigurable = true ∧ (list = none ∨ ∃ key, Asked list key ∧ rule.IsNamedBy key) := by
  cases list with
  | none =>
    obtain rfl := Except.ok.inj selected
    simp [Rule.mem_selectable]
  | some list =>
    simp only [selectRules, Policy.mapError_eq_ok] at selected
    simp only [Rule.mem_select selected, mem_ruleNames, reduceCtorEq, false_or, ← exists_and_left]
    refine exists_congr fun key => Iff.trans (and_congr_right fun asked => ?_) and_left_comm
    simp only [Rule.IsMeantBy, trim_of_asked asked]

theorem sublist_selectRules {list : Option String} {rules : List Rule} (selected : selectRules list = .ok rules) :
    rules.Sublist Rule.selectable := by
  cases list with
  | none => exact Except.ok.inj selected ▸ List.Sublist.refl _
  | some list =>
    simp only [selectRules, Policy.mapError_eq_ok] at selected
    exact Rule.sublist_select selected

theorem checkReport_eq_ok {report : Report} : checkReport s tree config options = .ok report ↔
    ∃ p rules project, (Source.find s tree options.project config).load s tree = .ok p ∧
      selectRules options.rules = .ok rules ∧
      Project.make tree (projectDirectory s options.project) p rules options.root options.exclude (userFile s tree) =
        .ok project ∧
      project.report tree = report := by
  simp only [checkReport, Policy.bind_eq_ok, Policy.pure_eq_ok, Policy.mapError_eq_ok]
  constructor
  · rintro ⟨p, loads, rules, selected, project, made, reported⟩
    exact ⟨p, rules, project, loads, selected, made, reported⟩
  · rintro ⟨p, rules, project, loads, selected, made, reported⟩
    exact ⟨p, loads, rules, selected, project, made, reported⟩

theorem exists_make {p : Policy} {rules : List Rule} {user : Ignore.UserFile} :
    (∃ project, Project.make tree (projectDirectory s options.project) p rules options.root options.exclude user =
        .ok project) ↔
      tree.holdsAt (sourceDirectory s options p) Tree.isDirectory = true ∧
        ∀ pattern ∈ options.exclude, ∃ glob, Glob.parse pattern = .ok glob := by
  have patterns : (∃ globs, Project.readExclude options.exclude = .ok globs) ↔
      ∀ pattern ∈ options.exclude, ∃ glob, Glob.parse pattern = .ok glob := by
    simp only [Project.readExclude, Policy.exists_mapM_eq_ok, Policy.mapError_eq_ok]
  rw [← patterns]
  constructor
  · rintro ⟨project, made⟩
    obtain ⟨exists?, globs, read, -⟩ := Project.make_eq_ok.mp made
    exact ⟨exists?, globs, read⟩
  · rintro ⟨exists?, globs, read⟩
    exact ⟨_, Project.make_eq_ok.mpr ⟨exists?, globs, read, rfl⟩⟩

/-- A check is done unless there is a reason against it. -/
theorem exists_checkReport : (∃ report, checkReport s tree config options = .ok report) ↔
    ¬Refused s tree (Source.find s tree options.project config) options := by
  constructor
  · rintro ⟨report, done⟩ refused
    obtain ⟨p, rules, project, loads, selected, made, -⟩ := checkReport_eq_ok.mp done
    obtain ⟨root, patterns⟩ := exists_make.mp ⟨project, made⟩
    cases refused with
    | policy fails => simp [loads] at fails
    | rule asked unknown =>
      obtain ⟨rule, configurable, named⟩ := exists_selectRules.mp ⟨rules, selected⟩ _ asked
      exact unknown rule configurable named
    | root loads' missing =>
      obtain rfl := Except.ok.inj (loads.symm.trans loads')
      simp [root] at missing
    | exclude given invalid =>
      obtain ⟨glob, read⟩ := patterns _ given
      simp [read] at invalid
  · intro accepted
    cases loads : (Source.find s tree options.project config).load s tree with
    | error e => exact absurd (.policy loads) accepted
    | ok p =>
      obtain ⟨rules, selected⟩ : ∃ rules, selectRules options.rules = .ok rules := by
        refine exists_selectRules.mpr fun key asked => ?_
        by_contra unknown
        exact accepted (.rule asked fun rule configurable named => unknown ⟨rule, configurable, named⟩)
      have root : tree.holdsAt (sourceDirectory s options p) Tree.isDirectory = true := by
        by_contra missing
        exact accepted (.root loads (by simpa using missing))
      have patterns : ∀ pattern ∈ options.exclude, ∃ glob, Glob.parse pattern = .ok glob := by
        intro pattern given
        cases read : Glob.parse pattern with
        | ok glob => exact ⟨glob, rfl⟩
        | error e => exact absurd (.exclude given read) accepted
      obtain ⟨project, made⟩ := exists_make.mpr ⟨root, patterns⟩
      exact ⟨_, checkReport_eq_ok.mpr ⟨p, rules, project, loads, selected, made, rfl⟩⟩

/-- What a check that is done prints and how it ends. -/
structure Done (s : Surroundings) (tree : Tree) (colored : Bool) (source : Source) (options : CheckOptions)
    (outcome : Outcome) : Prop where
  report : ∃ p rules project, source.load s tree = .ok p ∧
    rules.Sublist Rule.selectable ∧
    (∀ rule, rule ∈ rules ↔ rule.isConfigurable = true ∧
      (options.rules = none ∨ ∃ key, Asked options.rules key ∧ rule.IsNamedBy key)) ∧
    Project.make tree (projectDirectory s options.project) p rules options.root options.exclude (userFile s tree) =
      .ok project ∧
    outcome.output = (project.report tree).render colored options.format ∧
    (outcome.code = if (project.report tree).violations = [] then 0 else 1)

theorem run_eq_check {arguments : List String} (tree : Tree) (colored : Bool)
    (reads : readInvocation arguments = .ok ⟨config, .check options⟩) :
    run s tree colored arguments = check s tree colored config options := by
  rw [run, reads]

/-- The code of a check does not depend on how its report is shown. -/
theorem code_check_format (colored : Bool) (format : Format) :
    (check s tree colored config { options with format }).code = (check s tree colored config options).code := by
  have same : checkReport s tree config { options with format } = checkReport s tree config options := rfl
  rw [check, check, same]
  cases checkReport s tree config options <;> rfl

theorem check_refused_iff (colored : Bool) :
    (check s tree colored config options).code = 2 ∧ (check s tree colored config options).output = "" ↔
      Refused s tree (Source.find s tree options.project config) options := by
  rw [← not_iff_not, ← exists_checkReport, check]
  cases done : checkReport s tree config options with
  | error e => simp
  | ok report => cases some? : report.hasViolations <;> simp [some?]

theorem check_done (colored : Bool) (accepted : ¬Refused s tree (Source.find s tree options.project config) options) :
    Done s tree colored (Source.find s tree options.project config) options
      (check s tree colored config options) := by
  obtain ⟨report, done⟩ := exists_checkReport.mpr accepted
  obtain ⟨p, rules, project, loads, selected, made, rfl⟩ := checkReport_eq_ok.mp done
  refine ⟨p, rules, project, loads, sublist_selectRules selected, fun rule => mem_selectRules selected, made, ?_, ?_⟩
  · rw [check, done]
  · rw [check, done]
    cases found : (project.report tree).violations <;> simp [Report.hasViolations, found]

/-- The outcome of a check. The policy comes from the first place that has one. The check is refused if the policy
cannot be loaded from there, if a rule is asked for that there is not, if there is no directory with sources or if a
pattern is none. Any other check prints its report, and its code tells whether there are findings, in every format. -/
theorem check_outcome {arguments : List String} (s : Surroundings) (tree : Tree) (colored : Bool)
    (reads : readInvocation arguments = .ok ⟨config, .check options⟩) :
    ∃ source, (∀ other, Chosen s tree options.project config other ↔ other = source) ∧
      ((run s tree colored arguments).code = 2 ∧ (run s tree colored arguments).output = "" ↔
        Refused s tree source options) ∧
      (¬Refused s tree source options → Done s tree colored source options (run s tree colored arguments)) ∧
      ∀ format arguments', readInvocation arguments' = .ok ⟨config, .check { options with format }⟩ →
        (run s tree colored arguments').code = (run s tree colored arguments).code := by
  refine ⟨Source.find s tree options.project config, fun other => chosen_iff.trans eq_comm, ?_⟩
  rw [run_eq_check tree colored reads]
  refine ⟨check_refused_iff colored, check_done colored, fun format arguments' reads' => ?_⟩
  rw [run_eq_check tree colored reads']
  exact code_check_format colored format

/-- A run in the topmost directory of which nothing else is known. -/
def atTop : Surroundings := { workingDirectory := ⟨"/"⟩ }

/-- A project with a policy, which is not looked at if another one is named. -/
def shadowedPolicy : Tree := .directory [("layer-lint.toml", .file .empty), ("src", .directory [])]

/-- A policy that is named and does not exist fails the check, although the project has one. -/
theorem check_outcome_missing :
    readInvocation ["-c", "missing.toml", "check", "--rules", "LL001"] =
        .ok ⟨some ⟨"missing.toml"⟩, .check ⟨⟨"."⟩, none, .text, some "LL001", []⟩⟩ ∧
      (run atTop shadowedPolicy false ["-c", "missing.toml", "check", "--rules", "LL001"]).code = 2 ∧
      (run atTop shadowedPolicy false ["-c", "missing.toml", "check", "--rules", "LL001"]).output = "" := by
  have reads : readInvocation ["-c", "missing.toml", "check", "--rules", "LL001"] =
      .ok ⟨some ⟨"missing.toml"⟩, .check ⟨⟨"."⟩, none, .text, some "LL001", []⟩⟩ := by decide +kernel
  obtain ⟨source, chosen, refused, -⟩ := check_outcome atTop shadowedPolicy false reads
  obtain rfl := (chosen _).mp (.explicit ⟨"missing.toml"⟩)
  have missing : shadowedPolicy.read (atTop.absolute ⟨"missing.toml"⟩) = .error .notFound := by
    decide +kernel
  have fails : Source.load atTop shadowedPolicy (.explicit ⟨"missing.toml"⟩) =
      .error (.unreadable ⟨"missing.toml"⟩) := Source.load_of_unreadable rfl missing
  exact ⟨reads, refused.mpr (.policy fails)⟩

end CommandLine

end Layering
