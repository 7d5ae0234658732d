import Layering.Proofs.Report.Canonical
import Layering.Proofs.Text.Lines
import Layering.Report.Rendering

/-! The report for people, line by line. Whatever paths are spelt like, the findings about one file stand together in a
sorted report, since sorting and grouping take the same paths for one place. So each file has one header. -/
namespace Layering.Report

/-- The lines in which a finding is told. -/
def findingLines (v : Violation) : List String :=
  let position :=
    if v.location.line = 0 then "" else toString v.location.line ++ ":" ++ toString v.location.column ++ " "
  ("  " ++ position ++ v.severity.text ++ "[" ++ v.code ++ "] " ++ v.message) ::
    v.suggestion.toList.map ("    = help: " ++ ·)

/-- The findings about a file. -/
def about (file : Path) (vs : List Violation) : List Violation := vs.filter fun v => v.location.file.same file

/-- The lines about a file: its path, and below it the findings about it. -/
def fileLines (vs : List Violation) (file : Path) : List String :=
  file.display :: (about file vs).flatMap findingLines

/-- The files of findings, each once and in ascending order. -/
structure Lists (files : List Path) (vs : List Violation) : Prop where
  ascending : files.Pairwise fun a b => a.compare b = .lt
  complete : ∀ v ∈ vs, ∃ file ∈ files, v.location.file.same file = true
  sound : ∀ file ∈ files, ∃ v ∈ vs, v.location.file.same file = true

/-- Findings cut into runs, one for each file. -/
structure Cuts (gs : List (List Violation)) (vs : List Violation) : Prop where
  whole : gs.flatten = vs
  some? : ∀ g ∈ gs, g ≠ []
  alike : ∀ g ∈ gs, ∀ v ∈ g, ∀ w ∈ g, v.location.file.same w.location.file = true
  ascending : gs.Pairwise fun g g' => ∀ v ∈ g, ∀ w ∈ g', v.location.file.compare w.location.file = .lt

/-- Findings in the order of their files. -/
def ByFile (vs : List Violation) : Prop :=
  vs.Pairwise fun v w => (v.location.file.compare w.location.file).isLE = true

theorem byFile_sorted (r : Report) : ByFile r.sorted.violations :=
  (pairwise_sorted r).imp fun {v w} le => by
    have first : v.compare w = (v.location.file.compare w.location.file).then _ := rfl
    rw [first, Ordering.isLE_then_iff_and] at le
    exact le.1

section Cutting

variable {v w : Violation} {vs : List Violation} {gs : List (List Violation)}

theorem compare_congr {u : Violation} (same : v.location.file.same w.location.file = true) :
    v.location.file.compare u.location.file = w.location.file.compare u.location.file :=
  Std.TransCmp.congr_left (Path.compare_eq_iff.mpr (Path.same_iff.mp same))

theorem Cuts.nil : Cuts [] [] := ⟨rfl, by simp, by simp, .nil⟩

/-- A finding of the file of the first run belongs to that run. -/
theorem Cuts.join {ws : List Violation} (cuts : Cuts ((w :: ws) :: gs) vs)
    (same : v.location.file.same w.location.file = true) : Cuts ((v :: w :: ws) :: gs) (v :: vs) := by
  obtain ⟨whole, some?, alike, ascending⟩ := cuts
  obtain ⟨first, later⟩ := List.pairwise_cons.mp ascending
  have one : ∀ u ∈ v :: w :: ws, u.location.file.same w.location.file = true :=
    List.forall_mem_cons.mpr ⟨same, fun u member => alike _ List.mem_cons_self u member w List.mem_cons_self⟩
  refine ⟨?_, ?_, ?_, List.pairwise_cons.mpr ⟨fun g member u own t other => ?_, later⟩⟩
  · rw [← whole, List.flatten_cons, List.flatten_cons, List.cons_append]
  · exact List.forall_mem_cons.mpr ⟨List.cons_ne_nil _ _, (List.forall_mem_cons.mp some?).2⟩
  · refine List.forall_mem_cons.mpr ⟨fun u own t own' => ?_, (List.forall_mem_cons.mp alike).2⟩
    exact Path.same_iff.mpr ((Path.same_iff.mp (one u own)).trans (Path.same_iff.mp (one t own')).symm)
  · rw [compare_congr (one u own)]
    exact first g member w List.mem_cons_self t other

/-- A finding of another file starts a run. -/
theorem Cuts.start (cuts : Cuts gs vs) (below : ∀ u ∈ vs, v.location.file.compare u.location.file = .lt) :
    Cuts ([v] :: gs) (v :: vs) := by
  refine ⟨by rw [List.flatten_cons, cuts.whole, List.singleton_append], ?_, ?_,
    List.pairwise_cons.mpr ⟨fun g member u own t other => ?_, cuts.ascending⟩⟩
  · exact List.forall_mem_cons.mpr ⟨List.cons_ne_nil _ _, cuts.some?⟩
  · refine List.forall_mem_cons.mpr ⟨fun u own t own' => ?_, cuts.alike⟩
    rw [List.mem_singleton.mp own, List.mem_singleton.mp own', Path.same_iff]
  · rw [List.mem_singleton.mp own]
    exact below t (cuts.whole ▸ List.mem_flatten_of_mem member other)

theorem file_lt_of_differs (le : (v.location.file.compare w.location.file).isLE = true)
    (differs : v.location.file.same w.location.file ≠ true) : v.location.file.compare w.location.file = .lt := by
  cases order : v.location.file.compare w.location.file with
  | lt => rfl
  | eq => exact absurd (Path.same_iff.mpr (Path.compare_eq_iff.mp order)) differs
  | gt => simp [order] at le

/-- In findings in the order of their files no run is taken up again after another one. -/
theorem cuts_groups (sorted : ByFile vs) : Cuts (groups vs) vs := by
  induction vs with
  | nil => exact .nil
  | cons v vs ih =>
    obtain ⟨le, later⟩ := List.pairwise_cons.mp sorted
    have cuts := ih later
    rw [groups]
    split
    · rename_i w ws gs found
      rw [found] at cuts
      split
      · rename_i same
        exact cuts.join same
      · rename_i differs
        have head : vs = w :: (ws ++ gs.flatten) := by rw [← cuts.whole, List.flatten_cons, List.cons_append]
        rw [head] at le later cuts ⊢
        have below := file_lt_of_differs (le w List.mem_cons_self) differs
        refine cuts.start (List.forall_mem_cons.mpr ⟨below, fun u member => ?_⟩)
        exact Std.TransCmp.lt_of_lt_of_isLE below ((List.pairwise_cons.mp later).1 u member)
    · rename_i other
      obtain rfl : vs = [] := by
        rw [← cuts.whole]
        cases found : groups vs with
        | nil => rfl
        | cons g gs =>
          obtain ⟨w, ws, rfl⟩ := List.exists_cons_of_ne_nil (cuts.some? g (found ▸ List.mem_cons_self))
          exact absurd found (other w ws gs)
      exact Cuts.nil.start (by simp)

/-- A run holds all findings about its file. -/
theorem Cuts.about_eq {g : List Violation} (cuts : Cuts gs vs) (listed : g ∈ gs) (own : v ∈ g) :
    about v.location.file vs = g := by
  obtain ⟨front, back, rfl⟩ := List.append_of_mem listed
  obtain ⟨-, behind, across⟩ := List.pairwise_append.mp cuts.ascending
  have apart {u : Violation} (order : u.location.file.compare v.location.file ≠ .eq) :
      ¬u.location.file.same v.location.file = true := fun same =>
    order (Path.compare_eq_iff.mpr (Path.same_iff.mp same))
  have before : about v.location.file front.flatten = [] := by
    refine List.filter_eq_nil_iff.mpr fun u member => apart ?_
    obtain ⟨g', listed', other⟩ := List.mem_flatten.mp member
    simp [across g' listed' g List.mem_cons_self u other v own]
  have after : about v.location.file back.flatten = [] := by
    refine List.filter_eq_nil_iff.mpr fun u member => apart ?_
    obtain ⟨g', listed', other⟩ := List.mem_flatten.mp member
    have above := (List.pairwise_cons.mp behind).1 g' listed' v own u other
    rw [Std.OrientedCmp.gt_of_lt above]
    simp
  have here : about v.location.file g = g := List.filter_eq_self.mpr fun u member => cuts.alike g listed u member v own
  rw [← cuts.whole, List.flatten_append, List.flatten_cons, about, List.filter_append, List.filter_append, ← about,
    ← about, ← about, before, here, after, List.nil_append, List.append_nil]

end Cutting

/-- The file of a run. -/
def fileOf : List Violation → Path
  | [] => ⟨""⟩
  | v :: _ => v.location.file

section Files

variable {vs : List Violation} {gs : List (List Violation)}

theorem Cuts.exists_fileOf {g : List Violation} (cuts : Cuts gs vs) (listed : g ∈ gs) :
    ∃ v ∈ g, v.location.file = fileOf g := by
  obtain ⟨v, rest, rfl⟩ := List.exists_cons_of_ne_nil (cuts.some? g listed)
  exact ⟨v, List.mem_cons_self, rfl⟩

theorem Cuts.lists (cuts : Cuts gs vs) : Lists (gs.map fileOf) vs := by
  refine ⟨List.pairwise_map.mpr ?_, fun v member => ?_, List.forall_mem_map.mpr fun g listed => ?_⟩
  · refine cuts.ascending.imp_of_mem fun {g g'} listed listed' below => ?_
    obtain ⟨v, own, file⟩ := cuts.exists_fileOf listed
    obtain ⟨w, own', file'⟩ := cuts.exists_fileOf listed'
    rw [← file, ← file']
    exact below v own w own'
  · obtain ⟨g, listed, own⟩ := List.mem_flatten.mp (cuts.whole ▸ member)
    obtain ⟨w, own', file⟩ := cuts.exists_fileOf listed
    exact ⟨fileOf g, List.mem_map_of_mem listed, file ▸ cuts.alike g listed v own w own'⟩
  · obtain ⟨v, own, file⟩ := cuts.exists_fileOf listed
    exact ⟨v, cuts.whole ▸ List.mem_flatten_of_mem listed own, file ▸ Path.same_iff.mpr rfl⟩

theorem Cuts.eq_map_about (cuts : Cuts gs vs) : gs = (gs.map fileOf).map fun file => about file vs := by
  rw [List.map_map]
  refine (List.map_id gs).symm.trans (List.map_congr_left fun g listed => ?_)
  obtain ⟨v, own, file⟩ := cuts.exists_fileOf listed
  rw [Function.comp_apply, ← file, cuts.about_eq listed own, id]

end Files

section Lines

open Layering.Text (ofLines)

theorem display_of_same {a b : Path} (same : a.same b = true) : a.display = b.display := by
  rw [Path.display, Path.display, Path.same_iff.mp same]

theorem findingText_eq (v : Violation) : findingText false v = ofLines (findingLines v) := by
  cases advice : v.suggestion <;> simp [findingText, findingLines, Style.paint, advice, ← String.append_assoc]

theorem groupText_eq {vs : List Violation} {file : Path} (found : ∃ v ∈ vs, v.location.file.same file = true) :
    groupText false (about file vs) = ofLines (fileLines vs file ++ [""]) := by
  have body : String.join ((about file vs).map (findingText false)) =
      ofLines ((about file vs).flatMap findingLines) := by
    rw [Text.ofLines_flatMap]
    exact congrArg String.join (List.map_congr_left fun v _ => findingText_eq v)
  obtain ⟨v, member, same⟩ := found
  have some? : about file vs ≠ [] := List.ne_nil_of_mem (List.mem_filter.mpr ⟨member, same⟩)
  obtain ⟨w, rest, run⟩ := List.exists_cons_of_ne_nil some?
  have first : w ∈ about file vs := run ▸ List.mem_cons_self
  have header : w.location.file.display = file.display := display_of_same (List.mem_filter.mp first).2
  have shown : groupText false (about file vs) =
      w.location.file.display ++ "\n" ++ String.join ((about file vs).map (findingText false)) ++ "\n" := by
    rw [run]
    rfl
  rw [shown, body, header, fileLines, List.cons_append, Text.ofLines_cons, Text.ofLines_append]
  simp [← String.append_assoc]

/-- Ending each of some lists is putting the same end between any two of them and after the last one. -/
theorem flatMap_append_eq_intercalate {α : Type} {lists : List (List α)} (some? : lists ≠ []) (last : List α) :
    lists.flatMap (· ++ last) = List.intercalate last lists ++ last := by
  induction lists with
  | nil => exact absurd rfl some?
  | cons list lists ih =>
    cases lists with
    | nil => simp
    | cons next lists =>
      rw [List.flatMap_cons, ih (List.cons_ne_nil _ _), List.intercalate_cons_cons]
      simp only [List.append_assoc]

theorem text_eq_ofLines {r : Report} (sorted : ByFile r.violations) : ∃ files, Lists files r.violations ∧
    r.text false = ofLines (List.intercalate [""] (files.map (fileLines r.violations)) ++
      (if r.violations = [] then [] else [""]) ++ [r.summary]) := by
  have cuts := cuts_groups sorted
  have lists := cuts.lists
  refine ⟨_, lists, ?_⟩
  have blocks : String.join ((groups r.violations).map (groupText false)) =
      ofLines (((groups r.violations).map fileOf).flatMap fun file => fileLines r.violations file ++ [""]) := by
    rw [Text.ofLines_flatMap]
    conv_lhs => rw [cuts.eq_map_about, List.map_map]
    exact congrArg String.join (List.map_congr_left fun file listed => groupText_eq (lists.sound file listed))
  have shown : r.text false = String.join ((groups r.violations).map (groupText false)) ++ r.summary ++ "\n" := rfl
  rw [shown, blocks]
  generalize (groups r.violations).map fileOf = files at lists
  by_cases none : r.violations = []
  · have empty : files = [] := List.eq_nil_iff_forall_not_mem.mpr fun file listed => by
      obtain ⟨v, member, -⟩ := lists.sound file listed
      simp [none] at member
    simp [empty, none]
  · have some? : files.map (fileLines r.violations) ≠ [] := by
      obtain ⟨v, member⟩ := List.exists_mem_of_ne_nil _ none
      obtain ⟨file, listed, -⟩ := lists.complete v member
      exact List.ne_nil_of_mem (List.mem_map_of_mem listed)
    have joined := flatMap_append_eq_intercalate some? [""]
    rw [List.flatMap_map] at joined
    rw [joined, if_neg none, Text.ofLines_append, Text.ofLines_append, Text.ofLines_append]
    simp [← String.append_assoc]

/-- Every finding is counted once. -/
theorem sum_count (r : Report) :
    r.count .error + r.count .warning + r.count .info = r.violations.length := by
  rw [count, count, count]
  induction r.violations with
  | nil => rfl
  | cons v vs ih => cases grade : v.severity <;> simp [grade] <;> omega

/-- A sorted report is shown as one block for each file, in the order of the files and with a blank line between them. A
block has the path of the file and below it the findings about the file, in their order. The last line is set off from
them, and the numbers in it add up to that of all findings. -/
theorem text_grouped (r : Report) :
    let s := r.sorted
    let extent := toString s.filesChecked ++ " file(s), " ++ toString s.edgesChecked ++ " import(s)"
    (∃ files : List Path, Lists files s.violations ∧
      s.text false = ofLines (List.intercalate [""] (files.map (fileLines s.violations)) ++
        if s.violations = [] then ["No violations in " ++ extent]
        else ["", "Found " ++ toString (s.count .error) ++ " error(s), " ++ toString (s.count .warning)
          ++ " warning(s), " ++ toString (s.count .info) ++ " info(s) in " ++ extent])) ∧
    s.count .error + s.count .warning + s.count .info = s.violations.length := by
  intro s extent
  obtain ⟨files, lists, shown⟩ := text_eq_ofLines (byFile_sorted r)
  refine ⟨⟨files, lists, shown.trans ?_⟩, sum_count s⟩
  by_cases none : s.violations = []
  · rw [if_pos none, if_pos none, List.append_nil, summary, hasViolations, none]
    rfl
  · have found : s.hasViolations = true := by simpa [hasViolations] using none
    rw [if_neg none, if_neg none, summary, if_pos found, List.append_assoc]
    rfl

/-- Two spellings of a path share a header, which shows neither dots nor repeated slashes. -/
example :
    let findings := [
      Rule.layerDirection.violation .error ⟨⟨"src/a/b.ts"⟩, 1, 1⟩ "other" none,
      Rule.layerDirection.violation .error ⟨⟨"src//b.ts"⟩, 2, 7⟩ "first" (some "move it"),
      Rule.requiredFiles.violation .warning ⟨⟨"src/./b.ts"⟩, 0, 0⟩ "second" none]
    text false ⟨findings, 2, 1⟩ = ofLines [
      "src/a/b.ts", "  1:1 error[LL001] other", "",
      "src/b.ts", "  2:7 error[LL001] first", "    = help: move it", "  warning[LL003] second", "",
      "Found 2 error(s), 1 warning(s), 0 info(s) in 2 file(s), 1 import(s)"] := by
  decide +kernel

end Lines

end Layering.Report
