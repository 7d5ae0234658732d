import Layering.Proofs.Graph.Files
import Layering.Proofs.ReportOrder

/-! The issues of a graph. Each path has one issue if it is misplaced and one if it cannot be read, no matter whether it
has the other, and a path is that of a file exactly if it has no issue of the second kind. -/
namespace Layering.Graph

/-- The files with a path. -/
def filesAt (g : Graph) (path : String) : List SourceFile := g.files.filter fun file => file.path = path

/-- Whether a finding has the code of a rule and is about a path as a whole. -/
def isAbout (rule : Rule) (path : String) (v : Violation) : Bool :=
  v.code = rule.code && v.location.same (.whole path)

/-- The issues of a rule about a path. -/
def issuesAt (g : Graph) (rule : Rule) (path : String) : List Violation := g.issues.filter (isAbout rule path)

/-- No two of the paths are the same place, unless they are written alike. -/
def Apart (paths : List String) : Prop :=
  ∀ a ∈ paths, ∀ b ∈ paths, (⟨a⟩ : Path).same ⟨b⟩ = true → a = b

instance (paths : List String) : Decidable (Apart paths) := by
  unfold Apart; infer_instance

section Issues

variable {p : Policy} {path : String} {content : Except ReadError String} {v : Violation}

theorem of_placementIssue (found : v ∈ placementIssue p path) :
    v.code = Rule.classificationError.code ∧ v.severity = .error ∧ v.location = .whole path := by
  unfold placementIssue at found
  split at found
  · cases found
  · obtain rfl := List.mem_singleton.mp found
    exact ⟨rfl, rfl, rfl⟩

theorem of_readIssue (found : v ∈ readIssue path content) :
    v.code = Rule.ioError.code ∧ v.severity = .error ∧ v.location = .whole path ∧
      ∃ e : ReadError, v.message = "failed to read file: " ++ e.message := by
  cases content with
  | ok text => cases found
  | error e =>
    obtain rfl := List.mem_singleton.mp found
    exact ⟨rfl, rfl, rfl, e, rfl⟩

theorem length_placementIssue : (placementIssue p path).length = if (p.classify path).isOk then 0 else 1 := by
  unfold placementIssue
  cases p.classify path <;> rfl

theorem length_readIssue : (readIssue path content).length = if content.isOk then 0 else 1 := by
  cases content <;> rfl

/-- The issues about a path are located at the path. -/
theorem location_of_issue (found : v ∈ placementIssue p path ++ readIssue path content) :
    v.location = .whole path := by
  rcases List.mem_append.mp found with found | found
  · exact (of_placementIssue found).2.2
  · exact (of_readIssue found).2.2.1

theorem filter_isAbout {rule : Rule} {code : String} {found : List Violation}
    (alike : ∀ v ∈ found, v.code = code ∧ v.location = .whole path) :
    found.filter (isAbout rule path) = if code = rule.code then found else [] := by
  split
  · rename_i own
    apply List.filter_eq_self.mpr
    intro v member
    simp [isAbout, (alike v member).1, (alike v member).2, own, Location.same]
  · rename_i foreign
    apply List.filter_eq_nil_iff.mpr
    intro v member
    simp [isAbout, (alike v member).1, foreign]

theorem filter_isAbout_issue (rule : Rule) :
    (placementIssue p path ++ readIssue path content).filter (isAbout rule path) =
      if rule = .classificationError then placementIssue p path
      else if rule = .ioError then readIssue path content else [] := by
  have misplaced : ∀ v ∈ placementIssue p path,
      v.code = Rule.classificationError.code ∧ v.location = .whole path :=
    fun v found => ⟨(of_placementIssue found).1, (of_placementIssue found).2.2⟩
  have unreadable : ∀ v ∈ readIssue path content, v.code = Rule.ioError.code ∧ v.location = .whole path :=
    fun v found => ⟨(of_readIssue found).1, (of_readIssue found).2.2.1⟩
  rw [List.filter_append, filter_isAbout misplaced, filter_isAbout unreadable]
  cases rule <;> simp [Rule.code]

end Issues

/-- A list without repetitions whose items but one contribute nothing. -/
theorem flatMap_eq_of_nodup {f : α → List β} {items : List α} {a : α} (distinct : items.Nodup) (member : a ∈ items)
    (elsewhere : ∀ b ∈ items, b ≠ a → f b = []) : items.flatMap f = f a := by
  obtain ⟨before, after, rfl⟩ := List.append_of_mem member
  have fresh := List.nodup_middle.mp distinct
  have nothing : ∀ b ∈ before ++ after, f b = [] := by
    intro b listed
    apply elsewhere b (by simp at listed ⊢; tauto)
    rintro rfl
    exact (List.nodup_cons.mp fresh).1 listed
  have first : before.flatMap f = [] :=
    List.flatMap_eq_nil_iff.mpr fun b listed => nothing b (List.mem_append_left _ listed)
  have last : after.flatMap f = [] :=
    List.flatMap_eq_nil_iff.mpr fun b listed => nothing b (List.mem_append_right _ listed)
  rw [List.flatMap_append, List.flatMap_cons, first, last, List.nil_append, List.append_nil]

section Build

variable {p : Policy} {root : Path} {reader : Reader} {paths : List String} {path : String}

theorem issues_build (p : Policy) (root : Path) (reader : Reader) (paths : List String) :
    (build p root reader paths).issues = sortBy Violation.compare
      ((build p root reader paths).inventory.flatMap fun path =>
        placementIssue p path ++ readIssue path (reader.read (root.join ⟨path⟩))) := by
  simp only [build, List.flatMap_map]

theorem mem_issues_build {v : Violation} : v ∈ (build p root reader paths).issues ↔
    ∃ path ∈ paths, v ∈ placementIssue p path ++ readIssue path (reader.read (root.join ⟨path⟩)) := by
  simp only [issues_build, mem_sortBy, List.mem_flatMap, mem_inventory_build]

theorem severity_of_mem_issues {v : Violation} (issue : v ∈ (build p root reader paths).issues) :
    v.severity = .error := by
  obtain ⟨path, -, found⟩ := mem_issues_build.mp issue
  rcases List.mem_append.mp found with found | found
  · exact (of_placementIssue found).2.1
  · exact (of_readIssue found).2.1

theorem location_of_mem_issues {v : Violation} (issue : v ∈ (build p root reader paths).issues) :
    ∃ path ∈ paths, v.location = .whole path := by
  obtain ⟨path, given, found⟩ := mem_issues_build.mp issue
  exact ⟨path, given, location_of_issue found⟩

/-- Two issues that are the same are about paths that are the same place. -/
theorem eq_of_same_issue (apart : Apart paths) {v w : Violation} (first : v ∈ (build p root reader paths).issues)
    (second : w ∈ (build p root reader paths).issues) (same : v.same w = true) : v = w := by
  obtain ⟨path, given, place⟩ := location_of_mem_issues first
  obtain ⟨path', given', place'⟩ := location_of_mem_issues second
  obtain ⟨code, rule, severity, location, message, suggestion⟩ := Violation.same_iff.mp same
  rw [place, place'] at location
  simp only [Location.same, Bool.and_eq_true] at location
  obtain rfl := apart path given path' given' location.1.1
  cases v
  cases w
  simp_all

theorem filesAt_build (given : path ∈ paths) : (build p root reader paths).filesAt path =
    (sourceFile? p (isKnown root reader paths) path (reader.read (root.join ⟨path⟩))).toList := by
  have own (other : String) {file : SourceFile}
      (found : file ∈ sourceFile? p (isKnown root reader paths) other (reader.read (root.join ⟨other⟩))) :
      file.path = other := by
    obtain ⟨text, -, rfl⟩ := sourceFile?_eq_some.mp found
    rfl
  rw [filesAt, files_build, List.filterMap_eq_flatMap_toList, List.filter_flatMap]
  rw [flatMap_eq_of_nodup nodup_inventory_build (mem_inventory_build.mpr given)]
  · apply List.filter_eq_self.mpr
    intro file found
    simpa using own path (Option.mem_toList.mp found)
  · intro other _ differ
    apply List.filter_eq_nil_iff.mpr
    intro file found
    rw [own other (Option.mem_toList.mp found)]
    simpa using differ

/-- Issues about other paths are located elsewhere. -/
theorem length_issuesAt_build (apart : Apart paths) (rule : Rule) (given : path ∈ paths) :
    ((build p root reader paths).issuesAt rule path).length =
      (if rule = .classificationError then placementIssue p path
        else if rule = .ioError then readIssue path (reader.read (root.join ⟨path⟩)) else []).length := by
  have same : ((build p root reader paths).issuesAt rule path).Perm
      (((build p root reader paths).inventory.flatMap fun path =>
        placementIssue p path ++ readIssue path (reader.read (root.join ⟨path⟩))).filter (isAbout rule path)) := by
    rw [issuesAt, issues_build]
    exact (List.mergeSort_perm _ _).filter _
  rw [same.length_eq, List.filter_flatMap,
    flatMap_eq_of_nodup nodup_inventory_build (mem_inventory_build.mpr given), filter_isAbout_issue]
  intro other listed differ
  apply List.filter_eq_nil_iff.mpr
  intro v found about
  simp only [isAbout, location_of_issue found, Location.same, Bool.and_eq_true] at about
  exact differ (apart other (mem_inventory_build.mp listed) path given about.2.1.1)

/-- What a graph holds about one of its paths: the file or one issue that it cannot be read, and besides an issue if it
is misplaced. -/
structure Accounts (p : Policy) (root : Path) (reader : Reader) (g : Graph) (path : String) : Prop where
  either : (g.filesAt path).length = 1 ∧ (g.issuesAt .ioError path).length = 0 ∨
    (g.filesAt path).length = 0 ∧ (g.issuesAt .ioError path).length = 1
  readable : (g.filesAt path).length = 1 ↔ ∃ text, reader.read (root.join ⟨path⟩) = .ok text
  misplaced : (g.issuesAt .classificationError path).length = if (p.classify path).isOk then 0 else 1

theorem accounts_build (apart : Apart paths) (given : path ∈ paths) :
    Accounts p root reader (build p root reader paths) path := by
  have files : ((build p root reader paths).filesAt path).length = (sourceFile? p (isKnown root reader paths) path
      (reader.read (root.join ⟨path⟩))).toList.length := congrArg List.length (filesAt_build given)
  have unread : ((build p root reader paths).issuesAt .ioError path).length =
      if (reader.read (root.join ⟨path⟩)).isOk then 0 else 1 := by
    rw [length_issuesAt_build apart _ given, if_neg (by decide), if_pos rfl, length_readIssue]
  have misplaced : ((build p root reader paths).issuesAt .classificationError path).length =
      if (p.classify path).isOk then 0 else 1 := by
    rw [length_issuesAt_build apart _ given, if_pos rfl, length_placementIssue]
  cases content : reader.read (root.join ⟨path⟩) with
  | ok text =>
    simp only [content, sourceFile?, Option.toList_some, List.length_singleton] at files
    simp only [content, Except.isOk, Except.toBool, if_true] at unread
    exact ⟨.inl ⟨files, unread⟩, iff_of_true files ⟨text, content⟩, misplaced⟩
  | error e =>
    simp only [content, sourceFile?, Option.toList_none, List.length_nil] at files
    simp only [content, Except.isOk, Except.toBool, Bool.false_eq_true, if_false] at unread
    refine ⟨.inr ⟨files, unread⟩, iff_of_false (by omega) ?_, misplaced⟩
    rintro ⟨text, read⟩
    rw [content] at read
    contradiction

/-- An issue is about one of the paths, and each path has at most one issue of a kind. -/
theorem count_issues_le_one (apart : Apart paths) {v : Violation} (issue : v ∈ (build p root reader paths).issues) :
    (build p root reader paths).issues.count v ≤ 1 := by
  obtain ⟨path, given, found⟩ := mem_issues_build.mp issue
  have accounts : Accounts p root reader (build p root reader paths) path := accounts_build apart given
  have bound {rule : Rule} (code : v.code = rule.code) :
      (build p root reader paths).issues.count v ≤ ((build p root reader paths).issuesAt rule path).length := by
    rw [issuesAt, ← List.countP_eq_length_filter]
    apply List.countP_mono_left
    intro w _ equal
    obtain rfl := eq_of_beq equal
    simp [isAbout, code, location_of_issue found, Location.same]
  rcases List.mem_append.mp found with found | found
  · have misplaced := accounts.misplaced
    have := bound (of_placementIssue found).1
    split at misplaced <;> omega
  · have := bound (of_readIssue found).1
    rcases accounts.either with ⟨-, unread⟩ | ⟨-, unread⟩ <;> omega

end Build

end Layering.Graph
