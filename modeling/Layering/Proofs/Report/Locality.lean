import Layering.Proofs.Graph.Issues
import Layering.Proofs.Stability
import Layering.Proofs.Verdicts

/-! What the text of a file can change. Two runs that read the same everywhere but at some places agree on everything
elsewhere: files are told apart by their paths, imports lead to paths, and rules look at one file at a time or at the
paths of all files. Sorting and dropping repetitions keep the findings at one place together. -/
namespace Layering

/-- The path is none of the given places. -/
def Path.isElsewhere (places : List Path) (path : Path) : Bool := !places.any path.same

theorem Path.isElsewhere_congr (places : List Path) {a b : Path} (level : a.parts = b.parts) :
    a.isElsewhere places = b.isElsewhere places := by
  have alike : a.same = b.same := by
    funext c
    rw [same, same, level]
  rw [isElsewhere, isElsewhere, alike]

namespace Violation

/-- The finding is at none of the given places. -/
def isElsewhere (places : List Path) (v : Violation) : Bool := v.location.file.isElsewhere places

theorem file_isLE_of_isLE {v w : Violation} (below : (v.compare w).isLE = true) :
    (v.location.file.compare w.location.file).isLE = true := by
  unfold Violation.compare at below
  cases order : v.location.file.compare w.location.file with
  | lt => rfl
  | eq => rfl
  | gt => simp [order] at below

/-- Between findings of the same file stand only findings of that file. -/
theorem convex_isElsewhere (places : List Path) : Convex Violation.compare same (isElsewhere places) := by
  intro u v w first second alike
  have file : w.location.file.parts = u.location.file.parts := by
    have place := location_same_of_same alike
    simp only [Location.same, Bool.and_eq_true, Path.same_iff] at place
    exact place.1.1.symm
  have back : (v.location.file.compare u.location.file).isLE = true := by
    have le := file_isLE_of_isLE second
    rwa [Std.TransCmp.congr_right (Path.compare_eq_iff.mpr file)] at le
  exact Path.isElsewhere_congr places
    (Path.compare_eq_iff.mp (Std.OrientedCmp.isLE_antisymm (file_isLE_of_isLE first) back))

end Violation

namespace Graph

variable {p : Policy} {root : Path} {places : List Path} {paths : List String}

/-- The file is at none of the given places. -/
def isElsewhere (places : List Path) (file : SourceFile) : Bool := Path.isElsewhere places ⟨file.path⟩

/-- Graphs that differ at most in what is read at the given places. -/
structure AgreeOff (places : List Path) (g g' : Graph) : Prop where
  inventory : g.inventory = g'.inventory
  modules : g.modules = g'.modules
  files : g.files.filter (isElsewhere places) = g'.files.filter (isElsewhere places)
  issues : g.issues.filter (Violation.isElsewhere places) = g'.issues.filter (Violation.isElsewhere places)

/-- Graphs that are built with readers that differ at the given places only. -/
theorem agreeOff_build {reader reader' : Reader} (sameFiles : ∀ path, reader.isFile path = reader'.isFile path)
    (sameText : ∀ path ∈ paths, Path.isElsewhere places ⟨path⟩ = true →
      reader.read (root.join ⟨path⟩) = reader'.read (root.join ⟨path⟩)) :
    AgreeOff places (build p root reader paths) (build p root reader' paths) where
  inventory := rfl
  modules := rfl
  files := by
    have known : isKnown root reader paths = isKnown root reader' paths := by
      funext path
      simp only [isKnown, sameFiles]
    rw [files_build, files_build, known, List.filter_filterMap, List.filter_filterMap]
    apply List.filterMap_congr
    intro path listed
    cases other : Path.isElsewhere places ⟨path⟩ with
    | true => rw [sameText path (mem_inventory_build.mp listed) other]
    | false =>
      have dropped (content : Except ReadError String) : Option.filter (isElsewhere places)
          (sourceFile? p (isKnown root reader' paths) path content) = none := by
        cases content <;> simp [sourceFile?, isElsewhere, other]
      rw [dropped, dropped]
  issues := by
    rw [issues_build, issues_build, filter_sortBy, filter_sortBy, List.filter_flatMap, List.filter_flatMap]
    congr 1
    apply List.flatMap_congr
    intro path listed
    cases other : Path.isElsewhere places ⟨path⟩ with
    | true => rw [sameText path (mem_inventory_build.mp listed) other]
    | false =>
      have dropped (content : Except ReadError String) :
          (placementIssue p path ++ readIssue path content).filter (Violation.isElsewhere places) = [] := by
        apply List.filter_eq_nil_iff.mpr
        intro v found
        simp [Violation.isElsewhere, location_of_issue found, Location.whole, other]
      rw [dropped, dropped]

end Graph

namespace Analysis

variable {p : Policy} {places : List Path} {forbidden : List Violation} {g g' : Graph}

/-- Findings that are made file by file, each located in its file. -/
structure FileByFile (judge : SourceFile → List Violation) (findings : Graph → List Violation) : Prop where
  findings : ∀ g, findings g = g.files.flatMap judge
  placed : ∀ {file v}, v ∈ judge file → v.location.file = ⟨file.path⟩

theorem fileByFile_edges {verdict? : SourceFile → Edge → Option Violation}
    (placed : ∀ {file edge v}, verdict? file edge = some v → v.location = file.locationOf edge) :
    FileByFile (fun file => file.imports.filterMap (verdict? file))
      fun g => g.edges.filterMap fun e => verdict? e.1 e.2 where
  findings g := by
    simp only [Graph.edges, List.filterMap_flatMap, List.filterMap_map]
    rfl
  placed found := by
    obtain ⟨edge, -, found⟩ := List.mem_filterMap.mp found
    rw [placed found]
    rfl

theorem fileByFile_roleContent (p : Policy) : FileByFile (Check.roleFindings p) (Check.roleContent p) where
  findings _ := rfl
  placed {file v} found := by
    simp only [Check.roleFindings, Check.roleRuleFindings, List.mem_flatMap, List.mem_append,
      List.mem_filterMap] at found
    obtain ⟨rule, -, ⟨pattern, -, denied⟩ | ⟨edge, -, denied⟩⟩ := found
    · obtain ⟨_, -, rfl⟩ := Option.map_eq_some_iff.mp denied
      rfl
    · obtain ⟨_, -, rfl⟩ := Option.map_eq_some_iff.mp denied
      rfl

theorem FileByFile.filter {judge : SourceFile → List Violation} {findings : Graph → List Violation}
    (each : FileByFile judge findings) (places : List Path) (g : Graph) :
    (findings g).filter (Violation.isElsewhere places) = (g.files.filter (Graph.isElsewhere places)).flatMap judge := by
  rw [each.findings]
  induction g.files with
  | nil => rfl
  | cons file files ih =>
    rw [List.flatMap_cons, List.filter_append, ih, List.filter_cons]
    have located : ∀ v ∈ judge file, v.isElsewhere places = Graph.isElsewhere places file := by
      intro v found
      rw [Violation.isElsewhere, each.placed found, Graph.isElsewhere]
    cases other : Graph.isElsewhere places file with
    | true => rw [if_pos rfl, List.flatMap_cons, List.filter_eq_self.mpr fun v found => (located v found).trans other]
    | false =>
      rw [if_neg (by simp), List.filter_eq_nil_iff.mpr fun v found => by simp [located v found, other], List.nil_append]

theorem FileByFile.agree {judge : SourceFile → List Violation} {findings : Graph → List Violation}
    (each : FileByFile judge findings) (agree : g.AgreeOff places g') :
    (findings g).filter (Violation.isElsewhere places) = (findings g').filter (Violation.isElsewhere places) := by
  rw [each.filter, each.filter, agree.files]

/-- No rule finds anything else elsewhere. Only the rule about required files does not look at one file at a time, and
it looks at paths alone. -/
theorem findings_agree (agree : g.AgreeOff places g') (rule : Rule) :
    (findings p forbidden g rule).filter (Violation.isElsewhere places) =
      (findings p forbidden g' rule).filter (Violation.isElsewhere places) := by
  cases rule with
  | layerDirection => exact (fileByFile_edges fun found => (of_direction? found).2).agree agree
  | crossModuleImport => exact (fileByFile_edges fun found => (of_crossing? found).2).agree agree
  | requiredFiles => simp only [findings, Check.requiredFiles, Check.hasRole, agree.inventory, agree.modules]
  | roleContent => exact (fileByFile_roleContent p).agree agree
  | forbiddenPath => rfl
  | ioError => rfl
  | classificationError => rfl

theorem evaluate_agree (agree : g.AgreeOff places g') (rules : List Rule) :
    (evaluate p rules forbidden g).filter (Violation.isElsewhere places) =
      (evaluate p rules forbidden g').filter (Violation.isElsewhere places) := by
  have graded (g : Graph) (rule : Rule) : (regrade p rule (findings p forbidden g rule)).filter
      (Violation.isElsewhere places) =
      ((findings p forbidden g rule).filter (Violation.isElsewhere places)).map (graded p rule) := by
    rw [regrade_eq_map, List.filter_map]
    congr 1
    apply List.filter_congr
    intro v _
    rw [Function.comp, Violation.isElsewhere, location_graded, Violation.isElsewhere]
  simp only [evaluate, List.filter_flatMap, graded, findings_agree agree]

theorem filter_report (places : List Path) (rules : List Rule) (g : Graph) :
    (report p rules forbidden g).violations.filter (Violation.isElsewhere places) =
      dropRepeats Violation.same (sortBy Violation.compare (g.issues.filter (Violation.isElsewhere places) ++
        (evaluate p rules forbidden g).filter (Violation.isElsewhere places))) := by
  rw [← List.filter_append]
  exact filter_dropRepeats_sortBy (Violation.convex_isElsewhere places) _

/-- If two readers know the same files and differ in what they read at some places at most, the two graphs have the same
paths and modules and the same files elsewhere, and the two reports count the same files and have the same findings
elsewhere in the same order. -/
theorem report_local (p : Policy) (root : Path) (rules : List Rule) (forbidden : List Violation)
    (reader reader' : Reader) (paths : List String) (places : List Path)
    (sameFiles : ∀ path, reader.isFile path = reader'.isFile path)
    (sameText : ∀ path ∈ paths, Path.isElsewhere places ⟨path⟩ = true →
      reader.read (root.join ⟨path⟩) = reader'.read (root.join ⟨path⟩)) :
    let g := Graph.build p root reader paths
    let g' := Graph.build p root reader' paths
    let r := report p rules forbidden g
    let r' := report p rules forbidden g'
    g.inventory = g'.inventory ∧ g.modules = g'.modules ∧
      g.files.filter (Graph.isElsewhere places) = g'.files.filter (Graph.isElsewhere places) ∧
      r.filesChecked = r'.filesChecked ∧
      r.violations.filter (Violation.isElsewhere places) = r'.violations.filter (Violation.isElsewhere places) := by
  intro g g' r r'
  have agree : g.AgreeOff places g' := Graph.agreeOff_build sameFiles sameText
  refine ⟨agree.inventory, agree.modules, agree.files, congrArg List.length agree.inventory, ?_⟩
  rw [filter_report, filter_report, agree.issues, evaluate_agree agree]

section TwoLayers

open Layering.Graph (twoPaths)
open Layering.Policy (twoLayersPolicy)

/-- The files of `upward`, except that the lower one, which has a forbidden import, cannot be read. -/
def refusing : Reader where
  read path := if path = ⟨"src/shared/b.ts"⟩ then .error (.refused "broken pipe") else upward.reader.read path
  isFile := upward.reader.isFile

theorem report_local_refusing :
    let g := Graph.build twoLayersPolicy ⟨""⟩ upward.reader twoPaths
    let g' := Graph.build twoLayersPolicy ⟨""⟩ refusing twoPaths
    upward.reader.read ⟨"src/shared/b.ts"⟩ ≠ refusing.read ⟨"src/shared/b.ts"⟩ ∧
      g.files.filter (Graph.isElsewhere [⟨"src/shared/b.ts"⟩]) =
        g'.files.filter (Graph.isElsewhere [⟨"src/shared/b.ts"⟩]) ∧
      (report twoLayersPolicy Rule.selectable [] g).violations.filter
          (Violation.isElsewhere [⟨"src/shared/b.ts"⟩]) =
        (report twoLayersPolicy Rule.selectable [] g').violations.filter
          (Violation.isElsewhere [⟨"src/shared/b.ts"⟩]) := by
  intro g g'
  have sameText : ∀ path ∈ twoPaths, Path.isElsewhere [⟨"src/shared/b.ts"⟩] ⟨path⟩ = true →
      upward.reader.read ((⟨""⟩ : Path).join ⟨path⟩) = refusing.read ((⟨""⟩ : Path).join ⟨path⟩) := by decide +kernel
  obtain ⟨-, -, files, -, violations⟩ := report_local twoLayersPolicy ⟨""⟩ Rule.selectable [] upward.reader refusing
    twoPaths [⟨"src/shared/b.ts"⟩] (fun _ => rfl) sameText
  exact ⟨by decide +kernel, files, violations⟩

end TwoLayers

end Analysis

end Layering
