import Layering.Proofs.Discovery.Growth
import Layering.Proofs.Report.Independence

/-! What the spelling of the directory with the sources has to do with a run. Dots and slashes that are too many do not
change the paths of the files, and two dots do. The ignore file of the user sees the spelling itself, so that it may leave
out other sources in one spelling than in another, and nothing else in a run depends on the spelling. -/
namespace Layering

namespace Discovery

variable {w : Walk}

/-- The walk without the ignore file of the user. -/
def Walk.withoutUser (w : Walk) : Walk where
  ignoreDirs := w.ignoreDirs
  respectIgnore := w.respectIgnore

/-- Whether the ignore file of the user has an entry left out at the end of a way. The other ignore files say nothing
about it then. -/
def Walk.dropsHere (w : Walk) (scopes : List Ignore.Scope) (way : List String) (entry : Tree) : Bool :=
  w.respectIgnore && (Ignore.verdictAbove? scopes entry.isDirectory).isNone
    && w.user.verdict? (w.path way) entry.isDirectory = some .ignored

/-- Whether the ignore file of the user has something left out on the way on from a directory. -/
def Walk.drops (w : Walk) (scopes : List Ignore.Scope) (way : List String) (t : Tree) : List String → Bool
  | [] => false
  | name :: more =>
    let inside := (Ignore.Scope.ofDirectory t :: scopes).map fun scope => scope.enter name
    (t.entry? name).any fun entry =>
      w.dropsHere inside (way ++ [name]) entry || w.drops inside (way ++ [name]) entry more

theorem Walk.skips_eq_withoutUser (w : Walk) (scopes : List Ignore.Scope) (way : List String) (name : String)
    (entry : Tree) : w.skips scopes way name entry =
      (w.withoutUser.skips scopes way name entry || w.dropsHere scopes (way ++ [name]) entry) := by
  have silent (path : Path) : Ignore.UserFile.verdict? {} path entry.isDirectory = none := rfl
  simp only [Walk.skips, Walk.dropsHere, Walk.withoutUser, Ignore.isIgnored, silent]
  cases Ignore.verdictAbove? scopes entry.isDirectory with
  | none =>
    simp only [Option.none_or, reduceCtorEq, decide_false, Bool.and_false, Bool.false_or, Option.isNone_none,
      Bool.and_true]
    exact Bool.or_comm _ _
  | some verdict => simp

/-- A walk comes by the files that it would come by without the user's ignore file, unless that has them left out. By
induction on the way. -/
theorem Walk.mem_files_iff_withoutUser {t : Tree} (named : t.WellNamed) (distinct : t.Distinct)
    (scopes : List Ignore.Scope) (way more : List String) : way ++ more ∈ w.files scopes way t ↔
      way ++ more ∈ w.withoutUser.files scopes way t ∧ w.drops scopes way t more = false := by
  induction more generalizing t scopes way with
  | nil => rw [List.append_nil, Walk.mem_files_nil named, Walk.mem_files_nil named, Walk.drops, and_iff_left rfl]
  | cons name more ih =>
    rw [Walk.mem_files_cons named distinct, Walk.mem_files_cons named distinct, Walk.drops]
    cases first : t.entry? name with
    | none => simp
    | some entry =>
      have there : t.below? [name] = some entry := by simp [Tree.below?, first]
      have later := ih (named.of_below? there) (distinct.of_below? there)
        ((Ignore.Scope.ofDirectory t :: scopes).map fun scope => scope.enter name) (way ++ [name])
      simp only [Option.some.injEq, exists_eq_left', Option.any_some, later, w.skips_eq_withoutUser,
        Bool.or_eq_false_iff]
      tauto

/-- A user without an ignore file has nothing left out. -/
theorem Walk.drops_of_rules (none : w.user.rules = []) (scopes : List Ignore.Scope) (way : List String) (t : Tree)
    (more : List String) : w.drops scopes way t more = false := by
  have silent (path : Path) (isDirectory : Bool) : w.user.verdict? path isDirectory = Option.none := by
    rw [Ignore.UserFile.verdict?, none]
    rfl
  induction more generalizing scopes way t with
  | nil => rfl
  | cons name more ih =>
    rw [Walk.drops]
    cases t.entry? name <;> simp [Walk.dropsHere, silent, ih]

end Discovery

namespace Project

variable {project : Project} {tree : Tree}

/-- The ways to the sources that no pattern excludes, whatever the ignore file of the user says. -/
def sources (project : Project) (tree : Tree) : List (List String) :=
  ((((tree.below? project.wayToSources).map (project.walk.withoutUser.files (project.scopes tree) [])).getD []).filter
    fun way => way.getLast?.any (Discovery.isSource project.policy.discovery)).filter
      fun way => !project.exclude.any fun glob => glob.isMatch (display project.sourceRoot way)

/-- Whether the ignore file of the user has a file left out. -/
def drops (project : Project) (tree : Tree) (way : List String) : Bool :=
  (tree.below? project.wayToSources).any fun sources => project.walk.drops (project.scopes tree) [] sources way

/-- The ignore file of the user has the same sources left out in both projects. -/
def DropsAlike (a b : Project) (tree : Tree) : Prop := ∀ way ∈ a.sources tree, a.drops tree way = b.drops tree way

theorem Rooted.isName_of_mem_sources (rooted : project.Rooted tree) (named : tree.WellNamed) {way : List String}
    (listed : way ∈ project.sources tree) : ∀ name ∈ way, Path.IsName name := by
  obtain ⟨sources, there, -⟩ := rooted.exists_below?
  simp only [Project.sources, there, Option.map_some, Option.getD_some, List.mem_filter] at listed
  obtain ⟨more, rfl, proper, -⟩ := Discovery.Walk.names_of_files _ _ [] (named.of_below? there) listed.1.1
  exact proper

/-- The found files are the sources, shown in the spelling, that the user's ignore file does not leave out. -/
theorem Rooted.mem_paths_iff (rooted : project.Rooted tree) (named : tree.WellNamed) (distinct : tree.Distinct)
    {path : String} : path ∈ (project.discover tree).paths ↔
      ∃ way ∈ project.sources tree, project.drops tree way = false ∧ path = display project.sourceRoot way := by
  obtain ⟨sources, there, -⟩ := rooted.exists_below?
  have walked (way : List String) : way ∈ project.ways tree ↔
      way ∈ project.walk.withoutUser.files (project.scopes tree) [] sources ∧ project.drops tree way = false := by
    simp only [ways, drops, there, Option.map_some, Option.getD_some, Option.any_some]
    exact Discovery.Walk.mem_files_iff_withoutUser (named.of_below? there) (distinct.of_below? there) _ [] way
  simp only [rooted.discover_paths named, Project.sources, there, Option.map_some, Option.getD_some, List.mem_filter,
    List.mem_map, walked]
  constructor
  · rintro ⟨⟨way, ⟨⟨found, kept⟩, source⟩, rfl⟩, included⟩
    exact ⟨way, ⟨⟨found, source⟩, included⟩, kept, rfl⟩
  · rintro ⟨way, ⟨⟨found, source⟩, included⟩, kept, rfl⟩
    exact ⟨⟨way, ⟨⟨found, kept⟩, source⟩, rfl⟩, included⟩

theorem Rooted.display_inj (rooted : project.Rooted tree) {way way' : List String}
    (proper : ∀ name ∈ way, Path.IsName name) (proper' : ∀ name ∈ way', Path.IsName name)
    (same : display project.sourceRoot way = display project.sourceRoot way') : way = way' := by
  rw [← rooted.displayBelow_path proper, ← rooted.displayBelow_path proper'] at same
  exact shown_inj project.directory (Path.isAbsolute_join rooted.absolute project.sourceRoot) proper proper' same

theorem dropsAlike_of_rules {a b : Project} (none : a.user.rules = []) (none' : b.user.rules = []) (tree : Tree) :
    DropsAlike a b tree := by
  have kept {project : Project} (none : project.user.rules = []) (way : List String) :
      project.drops tree way = false := by
    have own : project.walk.user.rules = [] := none
    simp [drops, Discovery.Walk.drops_of_rules own]
  exact fun way _ => (kept none way).trans (kept none' way).symm

section Spelling

variable {a b : Project}

/-- The spellings lead to the same directory, and the same ignore files are above it. -/
theorem Rooted.wayToSources_eq (rooted : a.Rooted tree) (rooted' : b.Rooted tree)
    (others : b = { a with sourceRoot := b.sourceRoot }) (same : a.sourceRoot.clean = b.sourceRoot.clean) :
    b.wayToSources = a.wayToSources := by
  have cleaned := (rooted.inside.clean_inj rooted'.inside).mp same
  rw [others]
  simp only [wayToSources]
  rw [Discovery.wayTo_join rooted.absolute rooted.inside, Discovery.wayTo_join rooted.absolute rooted'.inside,
    Discovery.wayTo_eq a.sourceRoot, Discovery.wayTo_eq b.sourceRoot, cleaned]

theorem issues_eq (others : b = { a with sourceRoot := b.sourceRoot }) (same : b.wayToSources = a.wayToSources) :
    (a.discover tree).issues = (b.discover tree).issues := by
  rw [wayToSources, wayToSources, others] at same
  rw [others]
  simp only [discover, Discovery.find]
  rw [same]

/-- Without two dots a way is shown alike in both spellings. -/
theorem Rooted.display_eq (rooted : a.Rooted tree) (rooted' : b.Rooted tree)
    (same : a.sourceRoot.clean = b.sourceRoot.clean) (plain : .up ∉ a.sourceRoot.steps)
    (plain' : .up ∉ b.sourceRoot.steps) : display b.sourceRoot = display a.sourceRoot := by
  have cleaned := (rooted.inside.clean_inj rooted'.inside).mp same
  rw [Path.cleanParts_of_relative rooted.inside.relative, Path.cleanParts_of_relative rooted'.inside.relative,
    ((Path.areSteps _).names plain).cleanParts_eq, ((Path.areSteps _).names plain').cleanParts_eq] at cleaned
  funext way
  rw [display, display, cleaned]

/-- The sources are the same in both spellings if they are shown alike. -/
theorem sources_eq (others : b = { a with sourceRoot := b.sourceRoot }) (same : b.wayToSources = a.wayToSources)
    (shown : display b.sourceRoot = display a.sourceRoot) : b.sources tree = a.sources tree := by
  have scopes : b.scopes tree = a.scopes tree := by
    rw [Project.scopes, Project.scopes, same, others]
  have walk : b.walk.withoutUser = a.walk.withoutUser := by
    rw [others]
    rfl
  have policy : b.policy = a.policy := by rw [others]
  have exclude : b.exclude = a.exclude := by rw [others]
  rw [Project.sources, Project.sources, same, scopes, walk, policy, exclude, shown]

/-- A run depends on the spelling only through the paths of the files. -/
theorem outcome_of_paths (others : b = { a with sourceRoot := b.sourceRoot })
    (paths : ∀ path, path ∈ (a.discover tree).paths ↔ path ∈ (b.discover tree).paths)
    (issues : (a.discover tree).issues = (b.discover tree).issues) :
    a.inventory tree = b.inventory tree ∧ a.report tree = b.report tree := by
  have graphs : a.graph tree (a.discover tree).paths = a.graph tree (b.discover tree).paths :=
    Analysis.build_congr a.policy a.directory tree.reader paths
  simp only [inventory, report, reportOn, graphs, issues]
  rw [others]
  exact ⟨rfl, rfl⟩

/-- Where ways are shown alike, both spellings give the same files exactly if the user's ignore file leaves out the same
sources. -/
theorem Rooted.paths_iff (rooted : a.Rooted tree) (rooted' : b.Rooted tree) (named : tree.WellNamed)
    (distinct : tree.Distinct) (sources : b.sources tree = a.sources tree)
    (shown : display b.sourceRoot = display a.sourceRoot) :
    (∀ path, path ∈ (a.discover tree).paths ↔ path ∈ (b.discover tree).paths) ↔ DropsAlike a b tree := by
  simp only [rooted.mem_paths_iff named distinct, rooted'.mem_paths_iff named distinct, sources, shown]
  constructor
  · intro same way listed
    have own (project : Project) : (∃ other ∈ a.sources tree, project.drops tree other = false ∧
        display a.sourceRoot way = display a.sourceRoot other) ↔ project.drops tree way = false := by
      constructor
      · rintro ⟨other, listed', kept, alike⟩
        obtain rfl := rooted.display_inj (rooted.isName_of_mem_sources named listed)
          (rooted.isName_of_mem_sources named listed') alike
        exact kept
      · exact fun kept => ⟨way, listed, kept, rfl⟩
    have both := same (display a.sourceRoot way)
    rw [own a, own b] at both
    exact Bool.eq_iff_iff.mpr (by simpa using not_congr both)
  · intro alike path
    refine exists_congr fun way => and_congr_right fun listed => ?_
    rw [alike way listed]

theorem Rooted.harmless_iff (rooted : a.Rooted tree) (rooted' : b.Rooted tree) (named : tree.WellNamed)
    (distinct : tree.Distinct) (others : b = { a with sourceRoot := b.sourceRoot })
    (same : a.sourceRoot.clean = b.sourceRoot.clean) :
    (a.inventory tree = b.inventory tree ∧ a.report tree = b.report tree ∧
        ∀ path ∈ a.inventory tree, Path.IsNormal path) ↔
      a.inventory tree = [] ∧ b.inventory tree = [] ∨
        .up ∉ a.sourceRoot.steps ∧ .up ∉ b.sourceRoot.steps ∧ DropsAlike a b tree := by
  have way := rooted.wayToSources_eq rooted' others same
  have issues : (a.discover tree).issues = (b.discover tree).issues := issues_eq others way
  have alike (plain : .up ∉ a.sourceRoot.steps) (plain' : .up ∉ b.sourceRoot.steps) :=
    have shown := rooted.display_eq rooted' same plain plain'
    rooted.paths_iff rooted' named distinct (sources_eq others way shown) shown
  have listed (equal : a.inventory tree = b.inventory tree) (path : String) :
      path ∈ (a.discover tree).paths ↔ path ∈ (b.discover tree).paths := by
    rw [← mem_inventory, ← mem_inventory, equal]
  constructor
  · rintro ⟨inventory, -, normal⟩
    -- One file is enough: its path shows the spelling, and as it is found in both runs it shows both.
    rcases List.eq_nil_or_concat' (a.inventory tree) with none | ⟨_, path, some?⟩
    · exact .inl ⟨none, inventory ▸ none⟩
    · have found : path ∈ a.inventory tree := by simp [some?]
      have plain := (rooted.isNormal_iff named found).mp (normal path found)
      have plain' := (rooted'.isNormal_iff named (inventory ▸ found)).mp (normal path found)
      exact .inr ⟨plain, plain', (alike plain plain').mp (listed inventory)⟩
  · rintro (⟨none, none'⟩ | ⟨plain, plain', drops⟩)
    · obtain ⟨inventory, report⟩ := outcome_of_paths others (listed (none.trans none'.symm)) issues
      exact ⟨inventory, report, by simp [none]⟩
    · obtain ⟨inventory, report⟩ := outcome_of_paths others ((alike plain plain').mpr drops) issues
      exact ⟨inventory, report, fun path found => (rooted.isNormal_iff named found).mpr plain⟩

end Spelling

/-- Two spellings of one directory inside the project give the same files under normal paths and the same report exactly
if neither is spelt with two dots and the ignore file of the user leaves out the same sources in both, unless no files
are found at all. -/
theorem spelling_harmless_iff {directory r r' : Path} {p : Policy} {rules : List Rule} {exclude : List String}
    {user : Ignore.UserFile} {a b : Project} (named : tree.WellNamed) (distinct : tree.Distinct)
    (absolute : directory.isAbsolute = true) (inside : r.Inside) (inside' : r'.Inside) (same : r.clean = r'.clean)
    (made : make tree directory p rules (some r) exclude user = .ok a)
    (made' : make tree directory p rules (some r') exclude user = .ok b) :
    (a.inventory tree = b.inventory tree ∧ a.report tree = b.report tree ∧
        ∀ path ∈ a.inventory tree, Path.IsNormal path) ↔
      a.inventory tree = [] ∧ b.inventory tree = [] ∨ .up ∉ r.steps ∧ .up ∉ r'.steps ∧ DropsAlike a b tree := by
  obtain ⟨exists?, globs, read, rfl⟩ := make_eq_ok.mp made
  obtain ⟨exists', globs', read', rfl⟩ := make_eq_ok.mp made'
  obtain rfl := Except.ok.inj (read.symm.trans read')
  exact Rooted.harmless_iff ⟨absolute, inside, exists?⟩ ⟨absolute, inside', exists'⟩ named distinct rfl same

section TwoLayers

open Policy (twoLayersPolicy)

theorem spelling_harmless_src :
    twoFiles.WellNamed ∧ twoFiles.Distinct ∧ Path.Inside ⟨"src"⟩ ∧ Path.Inside ⟨"./src/"⟩ ∧
      Path.clean ⟨"src"⟩ = Path.clean ⟨"./src/"⟩ ∧
      (spelt ⟨"./src/"⟩).inventory twoFiles = (spelt ⟨"src"⟩).inventory twoFiles ∧
      (spelt ⟨"./src/"⟩).report twoFiles = (spelt ⟨"src"⟩).report twoFiles ∧
      "src/app/a.ts" ∈ (spelt ⟨"src"⟩).inventory twoFiles := by
  have inside : Path.Inside ⟨"src"⟩ := ⟨by decide, by decide +kernel⟩
  have inside' : Path.Inside ⟨"./src/"⟩ := ⟨by decide, by decide +kernel⟩
  have same : Path.clean ⟨"src"⟩ = Path.clean ⟨"./src/"⟩ := by decide +kernel
  obtain ⟨inventory, report, -⟩ := (spelling_harmless_iff wellNamed_twoFiles distinct_twoFiles (by decide) inside' inside
    same.symm (make_spelt (by decide +kernel)) (make_spelt (by decide +kernel))).mpr
      (.inr ⟨by decide +kernel, by decide +kernel, dropsAlike_of_rules rfl rfl twoFiles⟩)
  exact ⟨wellNamed_twoFiles, distinct_twoFiles, inside, inside', same, inventory, report,
    mem_inventory.mpr (by decide +kernel)⟩

/-- A pattern of the user that is tied to its base describes a directory in one spelling only. -/
example :
    let user : Ignore.UserFile := { rules := (Ignore.File.ofBytes "/src/app\n".toUTF8).rules }
    { spelt ⟨"src"⟩ with user }.drops twoFiles ["app", "a.ts"] = true ∧
      { spelt ⟨"./src"⟩ with user }.drops twoFiles ["app", "a.ts"] = false := by decide +kernel

/-- A spelling with two dots gives the files other paths. -/
theorem spelling_matters :
    twoFiles.WellNamed ∧ twoFiles.Distinct ∧ Path.Inside ⟨"src"⟩ ∧ Path.Inside ⟨"src/../src"⟩ ∧
      Path.clean ⟨"src"⟩ = Path.clean ⟨"src/../src"⟩ ∧
      make twoFiles ⟨"/"⟩ twoLayersPolicy Rule.selectable (some ⟨"src"⟩) [] = .ok (spelt ⟨"src"⟩) ∧
      make twoFiles ⟨"/"⟩ twoLayersPolicy Rule.selectable (some ⟨"src/../src"⟩) [] = .ok (spelt ⟨"src/../src"⟩) ∧
      (spelt ⟨"src"⟩).inventory twoFiles ≠ (spelt ⟨"src/../src"⟩).inventory twoFiles := by
  refine ⟨wellNamed_twoFiles, distinct_twoFiles, ⟨by decide, by decide +kernel⟩, ⟨by decide, by decide +kernel⟩,
    by decide +kernel, make_spelt (by decide +kernel), make_spelt (by decide +kernel), fun same => ?_⟩
  have found : "src/app/a.ts" ∈ (spelt ⟨"src"⟩).inventory twoFiles := mem_inventory.mpr (by decide +kernel)
  rw [same, mem_inventory] at found
  exact absurd found (by decide +kernel)

end TwoLayers

end Project

end Layering
