import Layering.Proofs.Classification
import Layering.Proofs.Findings
import Layering.Proofs.Graph.Modules
import Layering.Proofs.Policy.Stems
import Mathlib.Data.Set.Function

/-! Modules without a file of a required role. The rule finds each of them once for each role, no two of its findings are
taken for one in a report, and a module that has a file keeps it when further paths are given. -/
namespace Layering

/-- Texts are cut at the last occurrence of a separator in one way. -/
theorem Text.eq_of_last_separator {c : Char} {front front' last last' : List Char} (whole : c ∉ last) (whole' : c ∉ last')
    (same : front ++ c :: last = front' ++ c :: last') : front = front' ∧ last = last' := by
  rcases List.append_eq_append_iff.mp same with ⟨between, rfl, rest⟩ | ⟨between, rfl, rest⟩
  · cases between with
    | nil => simpa using rest
    | cons d between =>
      obtain ⟨-, rfl⟩ := List.cons.inj rest
      simp at whole
  · cases between with
    | nil => simpa [eq_comm] using rest
    | cons d between =>
      obtain ⟨-, rfl⟩ := List.cons.inj rest
      simp at whole'

namespace Check

variable {p : Policy} {severity severity' : Severity} {m m' : Module} {role role' : Role}

/-- What is said of a missing file tells the module and the role. The role comes last and has no backtick, whatever the
name of the module is. -/
theorem missingRole_inj (same : (missingRole p severity m role).message = (missingRole p severity' m' role').message) :
    m.name = m'.name ∧ role = role' := by
  have plain (role : Role) : '`' ∉ role.text.toList := by cases role <;> decide
  have spelt (severity : Severity) (m : Module) (role : Role) : (missingRole p severity m role).message.toList =
      ("module `" ++ m.name ++ "` is missing its ").toList ++ '`' :: role.text.toList ++ "` file".toList := by
    simp [missingRole, Rule.violation]
  have texts := congrArg String.toList same
  rw [spelt, show (missingRole p severity' m' role').message = (missingRole p severity m' role').message from rfl, spelt,
    List.append_cancel_right_eq] at texts
  obtain ⟨names, roles⟩ := Text.eq_of_last_separator (plain role) (plain role') texts
  refine ⟨String.toList_inj.mp ?_, Role.text_injective (String.toList_inj.mp roles)⟩
  simpa using names

end Check

namespace Analysis

open Layering.Graph (build)

/-- A module without a file of a required role. A file counts wherever it is in the inventory, so also if it cannot be
read, and it has the role by a stem of the role. -/
def Lacks (p : Policy) (g : Graph) (m : Module) (role : Role) : Prop :=
  m ∈ g.modules ∧ role ∈ p.modules.required ∧
    ¬∃ path ∈ g.inventory, Text.LiesIn path m.directory ∧ ∃ stem ∈ p.stemsOf role, Text.stem? path = some stem

variable {p : Policy} {root : Path} {reader : Reader} {paths : List String} {m m' : Module} {role role' : Role}

theorem hasRole_iff (formed : p.StemsFormed) {g : Graph} (named : role ≠ .unclassified) (some? : m.directory ≠ "") :
    Check.hasRole p g m role = true ↔ ∃ path ∈ g.inventory, Text.LiesIn path m.directory ∧
      ∃ stem ∈ p.stemsOf role, Text.stem? path = some stem := by
  simp only [Check.hasRole, List.any_eq_true, Bool.and_eq_true, decide_eq_true_eq, Module.holds_iff some?,
    formed.roleOf_eq_iff named]

/-- What the rule finds about a module without a file of a role. -/
def missing (p : Policy) (pair : Module × Role) : Violation :=
  Check.missingRole p Rule.requiredFiles.standardSeverity pair.1 pair.2

/-- All modules without a file of a role, each with each such role. -/
def lacking (p : Policy) (g : Graph) : List (Module × Role) :=
  g.modules.flatMap fun m => (p.modules.required.filter fun role => !Check.hasRole p g m role).map (m, ·)

theorem findings_requiredFiles (p : Policy) (forbidden : List Violation) (g : Graph) :
    findings p forbidden g .requiredFiles = (lacking p g).map (missing p) := by
  simp only [findings, Check.requiredFiles, lacking, List.map_flatMap, List.map_map]
  rfl

theorem mem_lacking (formed : p.StemsFormed) {pair : Module × Role} :
    pair ∈ lacking p (build p root reader paths) ↔ Lacks p (build p root reader paths) pair.1 pair.2 := by
  obtain ⟨m, role⟩ := pair
  simp only [lacking, Lacks, List.mem_flatMap, List.mem_map, List.mem_filter, Prod.mk.injEq, exists_eq_right_right]
  refine and_congr_right fun listed => and_congr_right fun required => ?_
  obtain ⟨_, below⟩ := Graph.exists_isBelow listed
  rw [← hasRole_iff formed (formed.required role required) below.directory_ne]
  simp

theorem nodup_lacking (formed : p.Formed) : (lacking p (build p root reader paths)).Nodup := by
  refine List.nodup_flatMap.mpr ⟨fun m _ => ?_, Graph.nodup_modules_build.imp fun differ => ?_⟩
  · exact (formed.required.filter _).map fun role role' same => (Prod.mk.inj same).2
  · intro pair first second
    obtain ⟨_, -, rfl⟩ := List.mem_map.mp first
    obtain ⟨_, -, same⟩ := List.mem_map.mp second
    exact differ (Prod.mk.inj same).1.symm

/-- Findings about different files are at different places or say different things. -/
theorem eq_of_compare_missing (formed : p.Formed) {pair pair' : Module × Role}
    (absent : pair ∈ lacking p (build p root reader paths)) (absent' : pair' ∈ lacking p (build p root reader paths))
    (level : (graded p .requiredFiles (missing p pair)).compare (graded p .requiredFiles (missing p pair')) = .eq) :
    pair = pair' := by
  obtain ⟨m, listed, absent⟩ := List.mem_flatMap.mp absent
  obtain ⟨role, -, rfl⟩ := List.mem_map.mp absent
  obtain ⟨m', listed', absent'⟩ := List.mem_flatMap.mp absent'
  obtain ⟨role', -, rfl⟩ := List.mem_map.mp absent'
  have place := (Violation.code_and_location_of_compare level).2
  have message := Violation.message_of_compare level
  rw [location_graded, location_graded] at place
  rw [message_graded, message_graded] at message
  obtain ⟨named, rfl⟩ := Check.missingRole_inj message
  obtain ⟨_, below⟩ := Graph.exists_isBelow listed
  obtain ⟨_, below'⟩ := Graph.exists_isBelow listed'
  have parts : (⟨m.directory⟩ : Path).parts = (⟨m'.directory⟩ : Path).parts := by
    simpa [missing, Check.missingRole, Rule.violation, Location.whole, Location.same] using place
  rw [below.eq_of_parts formed below' named parts]

section Graded

variable (formed : p.Formed) {forbidden : List Violation}

include formed

theorem nodup_graded :
    ((findings p forbidden (build p root reader paths) .requiredFiles).map (graded p .requiredFiles)).Nodup := by
  rw [findings_requiredFiles, List.map_map]
  refine (nodup_lacking formed).map_on fun pair absent pair' absent' same => ?_
  refine eq_of_compare_missing formed absent absent' ?_
  have same : graded p .requiredFiles (missing p pair) = graded p .requiredFiles (missing p pair') := same
  rw [same]
  exact Std.ReflCmp.compare_self

theorem eq_of_compare_graded {v w : Violation}
    (found : v ∈ (findings p forbidden (build p root reader paths) .requiredFiles).map (graded p .requiredFiles))
    (found' : w ∈ (findings p forbidden (build p root reader paths) .requiredFiles).map (graded p .requiredFiles))
    (level : v.compare w = .eq) : v = w := by
  rw [findings_requiredFiles, List.map_map] at found found'
  obtain ⟨pair, absent, rfl⟩ := List.mem_map.mp found
  obtain ⟨pair', absent', rfl⟩ := List.mem_map.mp found'
  rw [eq_of_compare_missing formed absent absent' level]

variable {rules : List Rule} (foreign : ∀ u ∈ forbidden, u.code ≠ Rule.requiredFiles.code)
  (registered : .requiredFiles ∈ rules) (enabled : p.isEnabled .requiredFiles = true)

include foreign registered enabled

theorem perm_reported_requiredFiles :
    ((report p rules forbidden (build p root reader paths)).violations.filter
        (·.code = Rule.requiredFiles.code)).Perm
      ((findings p forbidden (build p root reader paths) .requiredFiles).map (graded p .requiredFiles)) :=
  perm_reported rfl registered enabled foreign (fun _ found => code_of_requiredFiles found) (nodup_graded formed)
    fun _ found _ found' => eq_of_compare_graded formed found found'

/-- Sorting the report again with other findings does not lose any of these. -/
theorem perm_reported_add {others : List Violation} (apart : ∀ v ∈ others, v.code ≠ Rule.requiredFiles.code) :
    (((report p rules forbidden (build p root reader paths)).add others).sorted.violations.filter
        (·.code = Rule.requiredFiles.code)).Perm
      ((findings p forbidden (build p root reader paths) .requiredFiles).map (graded p .requiredFiles)) := by
  refine Report.perm_filter_sorted (nodup_graded formed)
    (fun _ found _ found' => eq_of_compare_graded formed found found') fun v => ?_
  rw [← (perm_reported_requiredFiles formed foreign registered enabled).mem_iff, Report.add, List.mem_append,
    List.mem_filter, decide_eq_true_eq]
  exact and_congr_left fun own => or_iff_left fun other => apart v other own

end Graded

/-- Each finding is about one module and one role without a file, and each of these has one. -/
theorem bijOn_missing (formed : p.Formed) (stems : p.StemsFormed) (forbidden : List Violation) :
    Set.BijOn (missing p) {pair | Lacks p (build p root reader paths) pair.1 pair.2}
      {v | v ∈ findings p forbidden (build p root reader paths) .requiredFiles} := by
  rw [findings_requiredFiles]
  refine ⟨fun pair lacks => ?_, fun pair lacks pair' lacks' same => ?_, fun v found => ?_⟩
  · exact List.mem_map_of_mem ((mem_lacking stems).mpr lacks)
  · refine eq_of_compare_missing formed ((mem_lacking stems).mpr lacks) ((mem_lacking stems).mpr lacks') ?_
    rw [same]
    exact Std.ReflCmp.compare_self
  · obtain ⟨pair, absent, rfl⟩ := List.mem_map.mp found
    exact ⟨pair, (mem_lacking stems).mp absent, rfl⟩

section Growing

variable {root' : Path} {reader' : Reader} {paths' : List String} (subset : paths ⊆ paths')

include subset

/-- A file that a module has stays there when further paths are given, whatever is read from them. -/
theorem Lacks.of_subset (lacks : Lacks p (build p root' reader' paths') m role)
    (listed : m ∈ (build p root reader paths).modules) : Lacks p (build p root reader paths) m role := by
  refine ⟨listed, lacks.2.1, fun ⟨path, given, present⟩ => lacks.2.2 ⟨path, ?_, present⟩⟩
  exact Graph.mem_inventory_build.mpr (subset (Graph.mem_inventory_build.mp given))

theorem mem_requiredFiles_of_subset (stems : p.StemsFormed) {forbidden forbidden' : List Violation} {v : Violation}
    (found : v ∈ findings p forbidden' (build p root' reader' paths') .requiredFiles)
    (listed : m ∈ (build p root reader paths).modules) (place : v.location = .whole m.directory) :
    v ∈ findings p forbidden (build p root reader paths) .requiredFiles := by
  rw [findings_requiredFiles] at found ⊢
  obtain ⟨⟨m', role⟩, absent, rfl⟩ := List.mem_map.mp found
  have lacks := (mem_lacking stems).mp absent
  obtain ⟨_, below⟩ := Graph.exists_isBelow listed
  obtain ⟨_, below'⟩ := Graph.exists_isBelow lacks.1
  obtain rfl : m' = m := below'.eq_of_directory below (congrArg (·.file.text) place)
  exact List.mem_map_of_mem ((mem_lacking stems).mpr (lacks.of_subset subset listed))

end Growing

/-- The rule about required files finds one thing for each module and each required role without a file, at the directory
of the module. The report has every finding once with the severity that the policy gives to it, also if findings of
other codes are added to it. Giving further paths does not add a finding about a module that there was before. -/
theorem required_files_exact {document : Policy.Document} (project : Project)
    (accepted : Policy.load document = .ok project.policy) (tree : Tree) (reader : Reader) (paths : List String) :
    let p := project.policy
    let g := build p project.directory reader paths
    let found := findings p (project.forbidden tree) g .requiredFiles
    let r := report p project.rules (project.forbidden tree) g
    (found.Nodup ∧ Set.BijOn (missing p) {pair | Lacks p g pair.1 pair.2} {v | v ∈ found} ∧
      ∀ m role, Lacks p g m role → (missing p (m, role)).location = .whole m.directory) ∧
    (.requiredFiles ∈ project.rules → p.isEnabled .requiredFiles = true →
      (r.violations.filter (·.code = Rule.requiredFiles.code)).Perm (found.map (graded p .requiredFiles)) ∧
      ∀ others : List Violation, (∀ v ∈ others, v.code ≠ Rule.requiredFiles.code) →
        ((r.add others).sorted.violations.filter (·.code = Rule.requiredFiles.code)).Perm
          (found.map (graded p .requiredFiles))) ∧
    ∀ reader' paths', paths ⊆ paths' →
      ∀ v ∈ findings p (project.forbidden tree) (build p project.directory reader' paths') .requiredFiles,
        ∀ m ∈ g.modules, v.location = .whole m.directory → v ∈ found := by
  intro p g found r
  have formed := Policy.load_formed accepted
  have stems := Policy.load_stemsFormed accepted
  refine ⟨⟨(nodup_graded formed).of_map _, bijOn_missing formed stems _, fun m role _ => rfl⟩,
    fun registered enabled => ?_, fun reader' paths' subset v listed m member place => ?_⟩
  · have foreign : ∀ u ∈ project.forbidden tree, u.code ≠ Rule.requiredFiles.code := foreign_forbidden (by decide)
    exact ⟨perm_reported_requiredFiles formed foreign registered enabled,
      fun others apart => perm_reported_add formed foreign registered enabled apart⟩
  · exact mem_requiredFiles_of_subset subset stems listed member place

section Nested

open Layering.Policy (nestedRootsPolicy load_nestedRoots)

/-- A project whose policy has modules below a directory that lies in another layer. -/
def cartProject : Project where
  directory := ⟨""⟩
  policy := nestedRootsPolicy
  rules := Rule.selectable
  sourceRoot := ⟨"src"⟩
  exclude := []

/-- A file right in a module, and one further below. -/
def cartPaths : List String := ["src/features/cart/ui.ts", "src/features/cart/parts/store.ts"]

def cart : Module := ⟨"cart", "src/features/cart"⟩

/-- No file can be read. -/
def unread : Reader := Memory.reader { files := [] }

theorem cart_mem_modules : cart ∈ (build nestedRootsPolicy ⟨""⟩ unread cartPaths).modules := by
  have prevails : nestedRootsPolicy.Prevails "src/features/cart/ui.ts" "src/features"
      ⟨"features", 1, ["src/features"], true, true⟩ := ⟨by decide +kernel, by decide +kernel, by decide +kernel⟩
  refine Graph.mem_modules_build.mpr ⟨"src/features/cart/ui.ts", by decide, ?_⟩
  rw [Policy.identity_of_prevails (Policy.load_formed load_nestedRoots) prevails]
  decide +kernel

theorem required_files_exact_cart :
    let g := build nestedRootsPolicy ⟨""⟩ unread cartPaths
    let r := report nestedRootsPolicy Rule.selectable (cartProject.forbidden (.directory [])) g
    Lacks nestedRootsPolicy g cart .store ∧ ¬Lacks nestedRootsPolicy g cart .ui ∧
      ∃ v ∈ r.violations, v.code = "LL003" ∧ v.location = .whole "src/features/cart" ∧
        v.message = "module `cart` is missing its `store` file" := by
  intro g r
  obtain ⟨⟨-, ⟨finds, -, -⟩, -⟩, reported, -⟩ :=
    required_files_exact cartProject load_nestedRoots (.directory []) unread cartPaths
  have absent : Lacks nestedRootsPolicy g cart .store := by
    refine ⟨cart_mem_modules, by decide, ?_⟩
    rintro ⟨path, given, lies, stem, own, spelt⟩
    rcases List.mem_pair.mp (Graph.mem_inventory_build.mp given) with rfl | rfl
    · obtain rfl : "ui" = stem := Option.some.inj ((by decide +kernel : _ = some "ui").symm.trans spelt)
      exact absurd (Policy.mem_stemsOf.mp own) (by decide +kernel)
    · exact absurd lies.parent_eq (by decide +kernel)
  have present : ¬Lacks nestedRootsPolicy g cart .ui := by
    refine fun lacks => lacks.2.2 ⟨"src/features/cart/ui.ts", Graph.mem_inventory_build.mpr (by decide), ?_, "ui", ?_, ?_⟩
    · exact .inr ⟨"ui.ts", by decide, by decide⟩
    · simp [nestedRootsPolicy, Policy.twoLayersPolicy]
    · decide +kernel
  have found := finds (show (cart, Role.store) ∈ {pair | Lacks nestedRootsPolicy g pair.1 pair.2} from absent)
  have survives := (reported (by decide) (by decide)).1.mem_iff.mpr (List.mem_map_of_mem found)
  obtain ⟨listed, code⟩ := List.mem_filter.mp survives
  refine ⟨absent, present, _, listed, of_decide_eq_true code, ?_, ?_⟩
  · rw [location_graded]
    rfl
  · rw [message_graded]
    decide +kernel

end Nested

end Analysis

end Layering
