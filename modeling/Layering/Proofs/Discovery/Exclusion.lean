import Layering.Project
import Layering.Proofs.Policy.Layers

/-! Patterns of excluded paths. A policy lists them without blanks at their ends and without dots and slashes before
them, whereas a run takes them as they are given. A pattern does the same in both places exactly if both readings match
the same files. -/
namespace Layering

namespace Policy

/-- A pattern as a policy reads it. -/
def trimPattern (pattern : String) : String := .ofList (dropHere (Text.trim pattern).toList)

/-- The document with one more pattern of excluded paths. -/
def Document.excluding (document : Document) (pattern : String) : Document :=
  { document with analyzer.exclude := document.analyzer.exclude ++ [pattern] }

/-- The policy with one more pattern of excluded paths. -/
def excluding (p : Policy) (glob : Glob) : Policy :=
  { p with discovery.exclude := p.discovery.exclude ++ [glob] }

theorem checkExclude_eq_ok {index : Nat} {pattern : String} {glob : Glob} :
    checkExclude index pattern = .ok glob ↔ Glob.parse (trimPattern pattern) = .ok glob := by
  rw [checkExclude, globAt, trimPattern, mapError_eq_ok]

theorem checkExcludes_eq_ok {patterns : List String} {globs : List Glob} :
    checkEach checkExclude patterns = .ok globs ↔
      patterns.mapM (fun pattern => Glob.parse (trimPattern pattern)) = .ok globs := by
  have patterns_eq : patterns.zipIdx.map Prod.fst = patterns := List.zipIdx_map_fst 0 patterns
  rw [checkEach, mapM_eq_ok, mapM_eq_ok]
  simp only [checkExclude_eq_ok]
  conv => rhs; rw [← patterns_eq, List.forall₂_map_left_iff]

theorem checkAnalyzer_excluding {entry : AnalyzerEntry} {d d' : Discovery} {pattern : String}
    (accepted : checkAnalyzer entry = .ok d)
    (accepted' : checkAnalyzer { entry with exclude := entry.exclude ++ [pattern] } = .ok d') :
    ∃ glob, Glob.parse (trimPattern pattern) = .ok glob ∧ d' = { d with exclude := d.exclude ++ [glob] } := by
  simp only [checkAnalyzer, bind_eq_ok, refuse_eq_ok, pure_eq_ok, checkExcludes_eq_ok,
    List.mapM_append, List.mapM_cons, List.mapM_nil] at accepted accepted'
  obtain ⟨root, atRoot, extensions, checked, -, globs, read, rfl⟩ := accepted
  obtain ⟨root', atRoot', extensions', checked', -, _, ⟨globs', read', _, ⟨glob, last, _, rfl, rfl⟩, rfl⟩, rfl⟩ :=
    accepted'
  obtain rfl := Except.ok.inj (atRoot.symm.trans atRoot')
  obtain rfl := Except.ok.inj (checked.symm.trans checked')
  obtain rfl := Except.ok.inj (read.symm.trans read')
  exact ⟨glob, last, rfl⟩

/-- A policy with one more pattern differs from the one without it in the trimmed pattern only. -/
theorem load_excluding {document : Document} {p p' : Policy} {pattern : String} (accepted : load document = .ok p)
    (accepted' : load (document.excluding pattern) = .ok p') :
    ∃ glob, Glob.parse (trimPattern pattern) = .ok glob ∧ p' = p.excluding glob := by
  have loads := load_eq_ok.mp accepted
  have checked := (load_eq_ok.mp accepted').discovery
  dsimp only [Document.excluding] at checked
  obtain ⟨glob, read, changed⟩ := checkAnalyzer_excluding loads.discovery checked
  rw [changed] at checked
  have again : load (document.excluding pattern) = .ok (p.excluding glob) :=
    load_eq_ok.mpr { loads with discovery := checked }
  exact ⟨glob, read, Except.ok.inj (accepted'.symm.trans again)⟩

end Policy

namespace Project

/-- A project is like another one but leaves out what one more pattern matches. -/
structure Excludes (base : Project) (glob : Glob) (project : Project) : Prop where
  directory : project.directory = base.directory
  rules : project.rules = base.rules
  sourceRoot : project.sourceRoot = base.sourceRoot
  user : project.user = base.user
  policy : project.policy = base.policy ∨ project.policy = base.policy.excluding glob
  exclude : ∀ path, (project.exclude.any fun g => g.isMatch path) =
    ((base.exclude.any fun g => g.isMatch path) || glob.isMatch path)

namespace Excludes

variable {base project : Project} {glob : Glob}

theorem paths (excludes : Excludes base glob project) (tree : Tree) :
    (project.discover tree).paths = (base.discover tree).paths.filter fun path => !glob.isMatch path := by
  have both (path : String) : (!project.exclude.any fun g => g.isMatch path) =
      (!glob.isMatch path && !base.exclude.any fun g => g.isMatch path) := by
    rw [excludes.exclude, Bool.not_or, Bool.and_comm]
  have kept : (project.discover tree).paths =
      (Discovery.find base.policy.discovery project.exclude base.user tree base.directory
        (base.directory.join base.sourceRoot)).paths := by
    rw [discover, excludes.directory, excludes.sourceRoot, excludes.user]
    rcases excludes.policy with same | same
    · rw [same]
    · rw [same]
      rfl
  rw [kept, discover, Discovery.find, Discovery.find, List.filter_filter, List.filter_congr fun path _ => both path]

theorem report (excludes : Excludes base glob project) (tree : Tree) :
    project.report tree = ((base.reportOn tree ((base.discover tree).paths.filter fun path => !glob.isMatch path)).add
      (base.discover tree).issues).sorted := by
  rw [← excludes.paths]
  obtain ⟨directory, policy, rules, sourceRoot, exclude, user⟩ := project
  obtain ⟨rfl, rfl, rfl, rfl, rfl | rfl, exclude⟩ := excludes <;> rfl

end Excludes

/-- What a run says: which files it found, and the report on them. -/
def outcome (project : Project) (tree : Tree) : List String × Report :=
  ((project.discover tree).paths, project.report tree)

/-- Two patterns match the same source files of a project. -/
def AgreeOn (project : Project) (tree : Tree) (a b : Glob) : Prop :=
  ∀ path ∈ (project.discover tree).paths, a.isMatch path = b.isMatch path

theorem outcome_eq_iff {base left right : Project} {a b : Glob} (first : Excludes base a left)
    (second : Excludes base b right) (tree : Tree) :
    left.outcome tree = right.outcome tree ↔ AgreeOn base tree a b := by
  constructor
  · intro same path found
    have paths := (Prod.ext_iff.mp same).1
    simp only [outcome, first.paths, second.paths] at paths
    have kept : path ∈ (base.discover tree).paths.filter (fun path => !a.isMatch path) ↔
        path ∈ (base.discover tree).paths.filter (fun path => !b.isMatch path) := by rw [paths]
    simp only [List.mem_filter, found, true_and, Bool.not_eq_true'] at kept
    cases left : a.isMatch path <;> cases right : b.isMatch path <;> simp_all
  · intro agree
    have paths : (base.discover tree).paths.filter (fun path => !a.isMatch path) =
        (base.discover tree).paths.filter (fun path => !b.isMatch path) :=
      List.filter_congr fun path found => by rw [agree path found]
    rw [outcome, outcome, first.report, second.report, first.paths, second.paths, paths]

theorem readExclude_insert {pattern : String} {glob : Glob} (read : Glob.parse pattern = .ok glob)
    (before after : List String) :
    (∃ e, readExclude (before ++ after) = .error e ∧ readExclude (before ++ pattern :: after) = .error e) ∨
      ∃ globs more, readExclude (before ++ after) = .ok (globs ++ more) ∧
        readExclude (before ++ pattern :: after) = .ok (globs ++ glob :: more) := by
  have here : (Glob.parse pattern).mapError (ProjectError.invalidExclude pattern) = .ok glob :=
    Policy.mapError_eq_ok.mpr read
  simp only [readExclude, List.mapM_append, List.mapM_cons, here]
  cases before.mapM fun pattern => (Glob.parse pattern).mapError (ProjectError.invalidExclude pattern) with
  | error e => exact .inl ⟨e, rfl, rfl⟩
  | ok globs =>
    cases after.mapM fun pattern => (Glob.parse pattern).mapError (ProjectError.invalidExclude pattern) with
    | error e => exact .inl ⟨e, rfl, rfl⟩
    | ok more => exact .inr ⟨globs, more, rfl, rfl⟩

theorem make_eq (tree : Tree) (directory : Path) (p : Policy) (rules : List Rule) (sourceRoot : Option Path)
    (exclude : List String) (user : Ignore.UserFile) :
    make tree directory p rules sourceRoot exclude user =
      let root := sourceRoot.getD ⟨p.discovery.root⟩
      if tree.holdsAt (directory.join root) Tree.isDirectory then
        (readExclude exclude).map fun globs => ⟨directory, p, rules, root, p.discovery.exclude ++ globs, user⟩
      else .error (.missingRoot (directory.join root)) := by
  simp only [make]
  cases tree.holdsAt (directory.join (sourceRoot.getD ⟨p.discovery.root⟩)) Tree.isDirectory
  · rfl
  · cases readExclude exclude <;> rfl

/-- A project with one more pattern exists where the one without it does, and otherwise fails alike, whether the policy
lists the pattern or the run is given it. -/
theorem make_excluding {pattern : String} {written : Glob} (read : Glob.parse pattern = .ok written) (tree : Tree)
    (directory : Path) (p : Policy) (trimmed : Glob) (rules : List Rule) (sourceRoot : Option Path)
    (before after : List String) (user : Ignore.UserFile) :
    (∃ e, make tree directory p rules sourceRoot (before ++ after) user = .error e ∧
      make tree directory (p.excluding trimmed) rules sourceRoot (before ++ after) user = .error e ∧
      make tree directory p rules sourceRoot (before ++ pattern :: after) user = .error e) ∨
    ∃ base listed given, make tree directory p rules sourceRoot (before ++ after) user = .ok base ∧
      make tree directory (p.excluding trimmed) rules sourceRoot (before ++ after) user = .ok listed ∧
      make tree directory p rules sourceRoot (before ++ pattern :: after) user = .ok given ∧
      Excludes base trimmed listed ∧ Excludes base written given := by
  have root : (p.excluding trimmed).discovery.root = p.discovery.root := rfl
  simp only [make_eq, root]
  by_cases exists? : tree.holdsAt (directory.join (sourceRoot.getD ⟨p.discovery.root⟩)) Tree.isDirectory = true
  · simp only [if_pos exists?]
    rcases readExclude_insert read before after with ⟨e, without, inserted⟩ | ⟨globs, more, without, inserted⟩
    · rw [without, inserted]
      exact .inl ⟨e, rfl, rfl, rfl⟩
    · rw [without, inserted]
      refine .inr ⟨_, _, _, rfl, rfl, rfl, ⟨rfl, rfl, rfl, rfl, .inr rfl, fun path => ?listed⟩,
        rfl, rfl, rfl, rfl, .inl rfl, fun path => ?given⟩
      · simp only [Policy.excluding, List.any_append, List.any_cons, List.any_nil, Bool.or_false]
        ac_rfl
      · simp only [List.any_append, List.any_cons]
        ac_rfl
  · simp only [if_neg exists?]
    exact .inl ⟨_, rfl, rfl, rfl⟩

/-- A pattern that both ways of giving it accept has the same effect either way exactly if its trimmed reading and its
reading as written match the same source files of the project without it, whatever ignore file the user has. -/
theorem excluding_same_iff {document : Policy.Document} {p p' : Policy} {pattern : String} {written : Glob}
    (accepted : Policy.load document = .ok p) (accepted' : Policy.load (document.excluding pattern) = .ok p')
    (read : Glob.parse pattern = .ok written) (tree : Tree) (directory : Path) (rules : List Rule)
    (sourceRoot : Option Path) (before after : List String) (user : Ignore.UserFile) :
    ∃ trimmed, Glob.parse (Policy.trimPattern pattern) = .ok trimmed ∧
      ((make tree directory p' rules sourceRoot (before ++ after) user).map (·.outcome tree) =
          (make tree directory p rules sourceRoot (before ++ pattern :: after) user).map (·.outcome tree) ↔
        ∀ base, make tree directory p rules sourceRoot (before ++ after) user = .ok base →
          AgreeOn base tree trimmed written) := by
  obtain ⟨trimmed, read', rfl⟩ := Policy.load_excluding accepted accepted'
  refine ⟨trimmed, read', ?_⟩
  rcases make_excluding read tree directory p trimmed rules sourceRoot before after user with
    ⟨e, without, listed, given⟩ | ⟨base, left, right, without, listed, given, first, second⟩
  · rw [without, listed, given]
    exact ⟨fun _ _ made => (nomatch made), fun _ => rfl⟩
  · rw [without, listed, given]
    simp only [Except.map, Except.ok.injEq, forall_eq']
    exact outcome_eq_iff first second tree

section TwoLayers

open Policy (twoLayers twoLayersPolicy)

/-- A project directory with one file in each of the two layers. -/
def twoFiles : Tree := .directory [("src", .directory [
  ("app", .directory [("a.ts", .file .empty)]), ("shared", .directory [("b.ts", .file .empty)])])]

theorem load_twoLayers_excluding {pattern : String} {glob : Glob}
    (checked : Policy.checkAnalyzer { twoLayers.analyzer with exclude := [pattern] } =
      .ok { twoLayersPolicy.discovery with exclude := [glob] }) :
    Policy.load (twoLayers.excluding pattern) = .ok (twoLayersPolicy.excluding glob) :=
  Policy.load_eq_ok.mpr { Policy.load_eq_ok.mp Policy.load_twoLayers with discovery := checked }

theorem excluding_same_app :
    let glob : Glob := ⟨"src/app/**", "src/app/".toList.map .char ++ [.anyComponents]⟩
    let listed := make twoFiles ⟨"/"⟩ (twoLayersPolicy.excluding glob) Rule.selectable none []
    let given := make twoFiles ⟨"/"⟩ twoLayersPolicy Rule.selectable none ["src/app/**"]
    Policy.load twoLayers = .ok twoLayersPolicy ∧
      Policy.load (twoLayers.excluding "src/app/**") = .ok (twoLayersPolicy.excluding glob) ∧
      Glob.parse "src/app/**" = .ok glob ∧
      listed.map (·.outcome twoFiles) = given.map (·.outcome twoFiles) ∧
      given.map (fun project => (project.discover twoFiles).paths) = .ok ["src/shared/b.ts"] := by
  intro glob listed given
  have accepted : Policy.load (twoLayers.excluding "src/app/**") = .ok (twoLayersPolicy.excluding glob) :=
    load_twoLayers_excluding (by decide +kernel)
  have read : Glob.parse "src/app/**" = .ok glob := by decide +kernel
  obtain ⟨trimmed, read', same⟩ := excluding_same_iff Policy.load_twoLayers accepted read twoFiles ⟨"/"⟩
    Rule.selectable none [] [] {}
  have plain : Policy.trimPattern "src/app/**" = "src/app/**" := by decide +kernel
  obtain rfl : trimmed = glob := by
    rw [plain, read] at read'
    exact (Except.ok.inj read').symm
  exact ⟨Policy.load_twoLayers, accepted, read, same.mpr fun _ _ _ _ => rfl, by decide +kernel⟩

/-- A project directory with one file. -/
def oneFile : Tree := .directory [("src", .directory [("app", .directory [("a.ts", .file .empty)])])]

/-- A pattern that starts with a dot and a slash excludes a file if the policy lists it and none if a run is given it. -/
theorem excluding_differs :
    let listed := make oneFile ⟨"/"⟩ (twoLayersPolicy.excluding ⟨"src/app/a.ts", "src/app/a.ts".toList.map .char⟩)
      Rule.selectable none []
    let given := make oneFile ⟨"/"⟩ twoLayersPolicy Rule.selectable none ["./src/app/a.ts"]
    Policy.load twoLayers = .ok twoLayersPolicy ∧
      Policy.load (twoLayers.excluding "./src/app/a.ts") =
        .ok (twoLayersPolicy.excluding ⟨"src/app/a.ts", "src/app/a.ts".toList.map .char⟩) ∧
      Glob.parse "./src/app/a.ts" = .ok ⟨"./src/app/a.ts", "./src/app/a.ts".toList.map .char⟩ ∧
      listed.map (·.report oneFile) ≠ given.map (·.report oneFile) := by
  intro listed given
  refine ⟨Policy.load_twoLayers, load_twoLayers_excluding (by decide +kernel), by decide +kernel, fun same => ?_⟩
  have none : (listed.map (·.report oneFile)).map Report.filesChecked = .ok 0 := by decide +kernel
  have one : (given.map (·.report oneFile)).map Report.filesChecked = .ok 1 := by decide +kernel
  rw [same, one] at none
  exact absurd (Except.ok.inj none) (by decide)

end TwoLayers

end Project

end Layering
