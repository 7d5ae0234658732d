import Layering.Proofs.Discovery.Exclusion
import Layering.Proofs.Graph.Files
import Layering.Proofs.Path
import Layering.Proofs.Text.Slashed

/-! The directory with the sources, in whatever way it is spelt. The files are found by going down the way that the
spelling is cleaned to, but they are shown by the spelling itself, in which dots and slashes that are too many do not
count and two dots do. -/
namespace Layering

theorem Spot.up_of_down? {spot child : Spot} {name : String} (found : spot.down? name = some child) :
    child.up = spot := by
  obtain ⟨entry, -, rfl⟩ := Option.map_eq_some_iff.mp found
  rfl

namespace Tree

/-- All entries have names that a file system allows. -/
inductive WellNamed : Tree → Prop
  | file (bytes : ByteArray) : WellNamed (.file bytes)
  | directory {entries : List (String × Tree)} (names : ∀ entry ∈ entries, Path.IsName entry.1)
      (inside : ∀ entry ∈ entries, WellNamed entry.2) : WellNamed (.directory entries)

theorem wellNamed_directory {entries : List (String × Tree)} :
    WellNamed (.directory entries) ↔
      (∀ entry ∈ entries, Path.IsName entry.1) ∧ ∀ entry ∈ entries, WellNamed entry.2 :=
  ⟨fun | .directory names inside => ⟨names, inside⟩, fun ⟨names, inside⟩ => .directory names inside⟩

/-- What a directory passes on to its entries it passes on to all that is below it. -/
theorem of_below? {P : Tree → Prop} (inside : ∀ entries, P (.directory entries) → ∀ entry ∈ entries, P entry.2)
    {t child : Tree} {way : List String} (here : P t) (found : t.below? way = some child) : P child := by
  induction way generalizing t with
  | nil => exact Option.some.inj found ▸ here
  | cons name names ih =>
    cases t with
    | file bytes => simp [below?, entry?, entries] at found
    | directory entries =>
      obtain ⟨next, first, later⟩ := Option.bind_eq_some_iff.mp found
      obtain ⟨before, after, rfl, -⟩ := List.lookup_eq_some_iff.mp first
      exact ih (inside _ here (name, next) (by simp)) later

theorem WellNamed.of_below? {t child : Tree} (named : t.WellNamed) {way : List String}
    (found : t.below? way = some child) : child.WellNamed :=
  Tree.of_below? (fun _ named => (wellNamed_directory.mp named).2) named found

theorem below?_append (t : Tree) (way more : List String) :
    t.below? (way ++ more) = (t.below? way).bind (·.below? more) := by
  induction way generalizing t with
  | nil => rfl
  | cons name names ih => simp [below?, ih, Option.bind_assoc]

/-- The place that parts lead to, the last part first, where the slash at the start stands for the topmost directory. -/
inductive At (t : Tree) : List Path.Part → Spot → Prop
  | root : At t [.root] ⟨t, []⟩
  | down {stack : List Path.Part} {spot child : Spot} {name : String} (before : At t stack spot)
      (found : spot.down? name = some child) : At t (.name name :: stack) child

namespace At

variable {t : Tree} {stack : List Path.Part} {spot next : Spot}

theorem up (here : At t stack spot) : At t (Path.pushClean stack .up) spot.up := by
  cases here with
  | root => exact .root
  | down before found =>
    rw [Spot.up_of_down? found]
    exact before

/-- Going on by a segment leads where the part leads that the segment stands for. -/
theorem step {segment : String} (here : At t stack spot) (went : spot.step segment = .ok next) :
    At t ((Path.Part.ofSegment? segment).elim stack (Path.pushClean stack)) next := by
  simp only [Spot.step, Path.Part.ofSegment?] at went ⊢
  split at went
  · cases went
  · by_cases still : segment = "" ∨ segment = "."
    · simp only [if_pos still, Except.ok.injEq] at went ⊢
      exact went ▸ here
    · simp only [if_neg still] at went ⊢
      by_cases up : segment = ".."
      · simp only [if_pos up, Except.ok.injEq] at went ⊢
        exact went ▸ here.up
      · simp only [if_neg up] at went ⊢
        cases found : spot.down? segment with
        | none => simp [found] at went
        | some child =>
          simp only [found, Except.ok.injEq] at went
          exact went ▸ .down here found

theorem run {segments : List String} (here : At t stack spot) (went : segments.foldlM Spot.step spot = .ok next) :
    At t ((segments.filterMap Path.Part.ofSegment?).foldl Path.pushClean stack) next := by
  induction segments generalizing stack spot with
  | nil => exact Except.ok.inj went ▸ here
  | cons segment segments ih =>
    simp only [List.foldlM_cons, Policy.bind_eq_ok] at went
    obtain ⟨between, first, later⟩ := went
    have on := ih (here.step first) later
    cases read : Path.Part.ofSegment? segment <;> simpa [read] using on

end At

end Tree

namespace Discovery

/-- The names among parts. -/
def namesOf (parts : List Path.Part) : List String :=
  parts.filterMap fun part =>
    match part with
    | .name text => some text
    | _ => none

theorem wayTo_eq (p : Path) : wayTo p = namesOf (Path.cleanParts p.parts) := rfl

theorem below?_of_at {t : Tree} {stack : List Path.Part} {spot : Spot} (here : t.At stack spot) :
    t.below? (namesOf stack.reverse) = some spot.here := by
  induction here with
  | root => rfl
  | @down stack spot child name before found ih =>
    obtain ⟨entry, inside, rfl⟩ := Option.map_eq_some_iff.mp found
    have names : namesOf (.name name :: stack).reverse = namesOf stack.reverse ++ [name] := by simp [namesOf]
    rw [names, Tree.below?_append, ih]
    simp [Tree.below?, inside]

/-- The way to a path leads to the place that the path itself leads to. -/
theorem below?_wayTo {t : Tree} {p : Path} {spot : Spot} (located : t.locate p = .ok spot) :
    t.below? (wayTo p) = some spot.here := by
  rw [Tree.locate] at located
  split at located
  · rename_i absolute
    rw [wayTo_eq, Path.cleanParts, Path.parts_of_isAbsolute absolute]
    exact below?_of_at (Tree.At.root.run located)
  · cases located

/-- From a base to a path inside it the way goes on by what the path is cleaned to. -/
theorem wayTo_join {base p : Path} (absolute : base.isAbsolute = true) (inside : p.Inside) :
    wayTo (base.join p) = wayTo base ++ wayTo p := by
  rw [wayTo_eq, Path.cleanParts_join absolute inside, namesOf, List.filterMap_append]
  rfl

/-- From a base to a path in which names follow each other the way goes on by these names. -/
theorem wayTo_join_isNormal {base : Path} (absolute : base.isAbsolute = true) {path : String}
    (normal : Path.IsNormal path) : wayTo (base.join ⟨path⟩) = wayTo base ++ Text.split '/' path := by
  have proper : ∀ name ∈ Text.split '/' path, Path.IsName name := normal
  have relative : Path.isAbsolute ⟨path⟩ = false := Text.join_split path ▸ Path.isAbsolute_names proper
  have steps : Path.steps ⟨path⟩ = (Text.split '/' path).map .name := by
    conv_lhs => rw [← Text.join_split path]
    exact Path.steps_names proper
  have names : Path.AreNames ((Text.split '/' path).map .name) :=
    List.forall_mem_map.mpr fun name listed => ⟨name, proper name listed, rfl⟩
  have cleaned : Path.cleanParts (Path.parts ⟨path⟩) = (Text.split '/' path).map .name := by
    rw [Path.cleanParts_of_relative relative, steps, names.cleanParts_eq]
  have inside : Path.Inside ⟨path⟩ := ⟨relative, by simp [cleaned]⟩
  rw [wayTo_join absolute inside, wayTo_eq ⟨path⟩, cleaned]
  simp [namesOf, List.filterMap_map]

theorem wayTo_clean {p : Path} (absolute : p.isAbsolute = true) : wayTo p.clean = wayTo p := by
  rw [wayTo_eq, wayTo_eq, (Path.cleanParts_clean absolute).2]

theorem isName_of_mem_wayTo {p : Path} (absolute : p.isAbsolute = true) : ∀ name ∈ wayTo p, Path.IsName name := by
  obtain ⟨names, proper, cleaned⟩ := Path.cleanParts_of_isAbsolute absolute
  intro name listed
  rw [wayTo_eq, cleaned, namesOf, List.filterMap_cons_none rfl] at listed
  obtain ⟨part, member, read⟩ := List.mem_filterMap.mp listed
  obtain ⟨text, proper', rfl⟩ := proper part member
  exact Option.some.inj read ▸ proper'

mutual

/-- The ways to the files below a directory go on from the way to it by names. -/
theorem Walk.names_of_files (w : Walk) (scopes : List Ignore.Scope) (way : List String) {t : Tree} (named : t.WellNamed)
    {found : List String} (listed : found ∈ w.files scopes way t) :
    ∃ more, found = way ++ more ∧ (∀ name ∈ more, Path.IsName name) ∧ (t.isDirectory = true → more ≠ []) := by
  cases t with
  | file bytes =>
    rw [Walk.files, List.mem_singleton] at listed
    exact ⟨[], by simp [listed], by simp, by simp [Tree.isDirectory, Tree.isFile]⟩
  | directory entries =>
    obtain ⟨names, inside⟩ := Tree.wellNamed_directory.mp named
    rw [Walk.files] at listed
    obtain ⟨more, rfl, proper, some?⟩ := w.names_of_filesAmong _ way names inside listed
    exact ⟨more, rfl, proper, fun _ => some?⟩

theorem Walk.names_of_filesAmong (w : Walk) (scopes : List Ignore.Scope) (way : List String)
    {entries : List (String × Tree)} (names : ∀ entry ∈ entries, Path.IsName entry.1)
    (inside : ∀ entry ∈ entries, entry.2.WellNamed) {found : List String}
    (listed : found ∈ w.filesAmong scopes way entries) :
    ∃ more, found = way ++ more ∧ (∀ name ∈ more, Path.IsName name) ∧ more ≠ [] := by
  cases entries with
  | nil => simp [Walk.filesAmong] at listed
  | cons entry entries =>
    obtain ⟨name, child⟩ := entry
    obtain ⟨proper, names'⟩ := List.forall_mem_cons.mp names
    obtain ⟨named, inside'⟩ := List.forall_mem_cons.mp inside
    rw [Walk.filesAmong, List.mem_append] at listed
    rcases listed with here | later
    · split at here
      · cases here
      · obtain ⟨more, rfl, proper', -⟩ := w.names_of_files _ (way ++ [name]) named here
        exact ⟨name :: more, by simp, List.forall_mem_cons.mpr ⟨proper, proper'⟩, by simp⟩
    · exact w.names_of_filesAmong scopes way names' inside' later

end

end Discovery

namespace Project

/-- The paths of the checked files. -/
def inventory (project : Project) (tree : Tree) : List String :=
  (project.graph tree (project.discover tree).paths).inventory

/-- How the sources of a project are gone through. -/
def walk (project : Project) : Discovery.Walk :=
  project.policy.discovery.walk project.user (project.directory.join project.sourceRoot)

/-- The way to the directory with the sources. -/
def wayToSources (project : Project) : List String := Discovery.wayTo (project.directory.join project.sourceRoot)

/-- The ignore files above the sources. -/
def scopes (project : Project) (tree : Tree) : List Ignore.Scope :=
  if project.policy.discovery.respectGitignore then Discovery.scopesAbove tree project.wayToSources else []

/-- The ways from the directory with the sources to the files below it, of whatever kind. -/
def ways (project : Project) (tree : Tree) : List (List String) :=
  ((tree.below? project.wayToSources).map (project.walk.files (project.scopes tree) [])).getD []

/-- How a file is shown to which a way leads from the directory with the sources. -/
def display (sourceRoot : Path) (way : List String) : String := Path.displayParts (sourceRoot.steps ++ way.map .name)

/-- The directory with the sources is inside the project and exists. -/
structure Rooted (project : Project) (tree : Tree) : Prop where
  absolute : project.directory.isAbsolute = true
  inside : project.sourceRoot.Inside
  exists? : tree.holdsAt (project.directory.join project.sourceRoot) Tree.isDirectory = true

variable {project : Project} {tree : Tree}

theorem mem_inventory {path : String} : path ∈ project.inventory tree ↔ path ∈ (project.discover tree).paths :=
  Graph.mem_inventory_build

theorem Rooted.exists_below? (rooted : project.Rooted tree) :
    ∃ sources, tree.below? project.wayToSources = some sources ∧ sources.isDirectory = true := by
  have directory := rooted.exists?
  rw [Tree.holdsAt] at directory
  split at directory
  · rename_i spot located
    exact ⟨_, Discovery.below?_wayTo located, directory⟩
  · cases directory

theorem Rooted.mem_ways (rooted : project.Rooted tree) (named : tree.WellNamed) {way : List String}
    (listed : way ∈ project.ways tree) : (∀ name ∈ way, Path.IsName name) ∧ way ≠ [] := by
  obtain ⟨sources, there, directory⟩ := rooted.exists_below?
  simp only [ways, there, Option.map_some, Option.getD_some] at listed
  obtain ⟨more, rfl, proper, some?⟩ := Discovery.Walk.names_of_files _ _ [] (named.of_below? there) listed
  exact ⟨proper, some? directory⟩

/-- A file is shown by the spelling of the directory with the sources and the way from there. -/
theorem Rooted.displayBelow_path (rooted : project.Rooted tree) {way : List String}
    (proper : ∀ name ∈ way, Path.IsName name) :
    project.directory.displayBelow (project.walk.path way) = display project.sourceRoot way := by
  have source := Path.isAbsolute_join rooted.absolute project.sourceRoot
  refine Path.displayBelow_of_steps rooted.absolute (Path.isAbsolute_join source _) ?_
  rw [Path.steps_join _ (Path.isAbsolute_names proper), Path.steps_join _ rooted.inside.relative,
    Path.steps_names proper, List.append_assoc]

theorem Rooted.discover_paths (rooted : project.Rooted tree) (named : tree.WellNamed) :
    (project.discover tree).paths =
      (((project.ways tree).filter fun way => way.getLast?.any (Discovery.isSource project.policy.discovery)).map
        (display project.sourceRoot)).filter fun path => !project.exclude.any fun glob => glob.isMatch path := by
  have shown : ∀ way ∈ project.ways tree,
      project.directory.displayBelow (project.walk.path way) = display project.sourceRoot way :=
    fun way listed => rooted.displayBelow_path (rooted.mem_ways named listed).1
  exact congrArg (List.filter _) (List.map_congr_left fun way listed => shown way (List.mem_of_mem_filter listed))

/-- A checked file has a normal path exactly if the directory with the sources is spelt without two dots. -/
theorem Rooted.isNormal_iff (rooted : project.Rooted tree) (named : tree.WellNamed) {path : String}
    (found : path ∈ project.inventory tree) : Path.IsNormal path ↔ .up ∉ project.sourceRoot.steps := by
  rw [mem_inventory, rooted.discover_paths named] at found
  obtain ⟨way, listed, rfl⟩ := List.mem_map.mp (List.mem_filter.mp found).1
  obtain ⟨proper, some?⟩ := rooted.mem_ways named (List.mem_of_mem_filter listed)
  have steps : Path.AreSteps (project.sourceRoot.steps ++ way.map .name) :=
    List.forall_mem_append.mpr ⟨Path.areSteps _,
      List.forall_mem_map.mpr fun name member => .inr ⟨name, proper name member, rfl⟩⟩
  rw [display, Path.isNormal_displayParts (by simp [some?]) steps]
  simp

theorem make_eq_ok {directory : Path} {p : Policy} {rules : List Rule} {sourceRoot : Option Path}
    {exclude : List String} {user : Ignore.UserFile} :
    make tree directory p rules sourceRoot exclude user = .ok project ↔
      tree.holdsAt (directory.join (sourceRoot.getD ⟨p.discovery.root⟩)) Tree.isDirectory = true ∧
      ∃ globs, readExclude exclude = .ok globs ∧
        project = ⟨directory, p, rules, sourceRoot.getD ⟨p.discovery.root⟩, p.discovery.exclude ++ globs, user⟩ := by
  simp only [make_eq]
  split
  · rename_i exists?
    cases readExclude exclude <;> simp [exists?, Except.map, eq_comm (b := project)]
  · rename_i missing
    simp [missing]

section TwoLayers

open Policy (twoLayersPolicy)

theorem wellNamed_twoFiles : twoFiles.WellNamed := by
  have names : ∀ name ∈ ["src", "app", "shared", "a.ts", "b.ts"], Path.IsName name := by decide
  simpa [twoFiles, Tree.wellNamed_directory, Tree.WellNamed.file, and_assoc] using names

/-- The project of two files, with the directory of its sources as it is spelt. -/
def spelt (sourceRoot : Path) : Project := ⟨⟨"/"⟩, twoLayersPolicy, Rule.selectable, sourceRoot, [], {}⟩

theorem make_spelt {sourceRoot : Path}
    (exists? : twoFiles.holdsAt (Path.join ⟨"/"⟩ sourceRoot) Tree.isDirectory = true) :
    make twoFiles ⟨"/"⟩ twoLayersPolicy Rule.selectable (some sourceRoot) [] = .ok (spelt sourceRoot) :=
  make_eq_ok.mpr ⟨exists?, [], rfl, rfl⟩

end TwoLayers

end Project

end Layering
