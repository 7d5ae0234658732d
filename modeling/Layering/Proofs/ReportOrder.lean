import Layering.Report.Basic
import Layering.Proofs.Sorting

/-! The order of findings in a report. It is transitive and total, findings that are equal in it stand at the same
place and have the same code, and the report on a run holds every finding of the run, up to repetitions. -/
namespace Layering

namespace Path

theorem Part.key_injective {a b : Part} (equal : a.key = b.key) : a = b := by
  cases a <;> cases b <;> simp_all [Part.key]

instance : Std.TransCmp Part.compare :=
  inferInstanceAs (Std.TransCmp (compareLex (compareOn fun a : Part => a.key.1) (compareOn fun a : Part => a.key.2)))

instance : Std.LawfulEqCmp Part.compare where
  compare_self := Std.ReflCmp.compare_self
  eq_of_compare {a b} h := by
    obtain ⟨kind, text⟩ := Ordering.then_eq_eq.mp h
    apply Part.key_injective
    exact Prod.ext (Std.LawfulEqCmp.eq_of_compare kind) (Std.LawfulEqCmp.eq_of_compare text)

theorem compareParts_eq_compareLex : compareParts = List.compareLex Part.compare := by
  funext as bs
  fun_induction compareParts as bs with
  | case1 => simp [List.compareLex_nil_nil]
  | case2 => simp [List.compareLex_nil_cons]
  | case3 => simp [List.compareLex_cons_nil]
  | case4 a as b bs ih => rw [List.compareLex_cons_cons, ih]

instance : Std.TransCmp compareParts := by
  rw [compareParts_eq_compareLex]; infer_instance

instance : Std.LawfulEqCmp compareParts := by
  rw [compareParts_eq_compareLex]; infer_instance

instance : Std.TransCmp Path.compare where
  eq_swap {a b} := (Std.OrientedCmp.eq_swap : compareParts a.parts b.parts = _)
  isLE_trans {a _ c} first second :=
    (Std.TransCmp.isLE_trans first second : (compareParts a.parts c.parts).isLE = true)

@[simp] theorem same_iff {a b : Path} : a.same b = true ↔ a.parts = b.parts := by
  simp [same]

/-- Paths are equal in the order exactly if they are the same place. -/
theorem compare_eq_iff {a b : Path} : a.compare b = .eq ↔ a.parts = b.parts :=
  (Std.LawfulEqCmp.compare_eq_iff_eq : compareParts a.parts b.parts = .eq ↔ _)

end Path

namespace Violation

theorem same_refl (v : Violation) : v.same v = true := by
  simp [same, Location.same]

theorem code_eq_of_same {v w : Violation} (alike : v.same w = true) : v.code = w.code := by
  simp_all [same]

theorem location_same_of_same {v w : Violation} (alike : v.same w = true) :
    v.location.same w.location = true := by
  simp_all [same]

theorem same_iff {v w : Violation} : v.same w = true ↔ v.code = w.code ∧ v.rule = w.rule ∧
    v.severity = w.severity ∧ v.location.same w.location = true ∧ v.message = w.message ∧
    v.suggestion = w.suggestion := by
  simp [same, and_assoc]

theorem same_symm {v w : Violation} (alike : v.same w = true) : w.same v = true := by
  simp_all [same_iff, Location.same]

theorem same_trans {u v w : Violation} (first : u.same v = true) (second : v.same w = true) : u.same w = true := by
  simp_all [same_iff, Location.same]

/-- Findings in the order of their files alone. -/
instance : Std.TransCmp fun v w : Violation => v.location.file.compare w.location.file where
  eq_swap {v w} := (Std.OrientedCmp.eq_swap : v.location.file.compare w.location.file = _)
  isLE_trans {u _ w} first second :=
    (Std.TransCmp.isLE_trans first second : (u.location.file.compare w.location.file).isLE = true)

instance : Std.TransCmp Violation.compare :=
  inferInstanceAs (Std.TransCmp (compareLex (fun a b : Violation => a.location.file.compare b.location.file) <|
    compareLex (compareOn fun v : Violation => v.code) <|
    compareLex (compareOn fun v : Violation => v.location.line) <|
    compareLex (compareOn fun v : Violation => v.location.column) <|
    compareLex (compareOn fun v : Violation => v.message) (compareOn fun v : Violation => v.severity.rank)))

/-- The order does not tell apart findings that are the same. -/
theorem compare_of_same {v w : Violation} (alike : v.same w = true) : v.compare w = .eq := by
  obtain ⟨code, -, severity, place, message, -⟩ := same_iff.mp alike
  simp only [Location.same, Bool.and_eq_true, Path.same_iff, decide_eq_true_eq] at place
  obtain ⟨⟨file, line⟩, column⟩ := place
  have level : v.location.file.compare w.location.file = .eq := Path.compare_eq_iff.mpr file
  simp [Violation.compare, level, code, line, column, message, severity]

/-- Findings that are equal in the order agree in code and place. -/
theorem code_and_location_of_compare {v w : Violation} (equal : v.compare w = .eq) :
    v.code = w.code ∧ v.location.same w.location = true := by
  obtain ⟨file, equal⟩ := Ordering.then_eq_eq.mp equal
  obtain ⟨code, equal⟩ := Ordering.then_eq_eq.mp equal
  obtain ⟨line, equal⟩ := Ordering.then_eq_eq.mp equal
  obtain ⟨column, -⟩ := Ordering.then_eq_eq.mp equal
  have line := Std.LawfulEqCmp.eq_of_compare line
  have column := Std.LawfulEqCmp.eq_of_compare column
  refine ⟨Std.LawfulEqCmp.eq_of_compare code, ?_⟩
  simp [Location.same, Path.compare_eq_iff.mp file, line, column]

theorem message_of_compare {v w : Violation} (equal : v.compare w = .eq) : v.message = w.message := by
  obtain ⟨-, equal⟩ := Ordering.then_eq_eq.mp equal
  obtain ⟨-, equal⟩ := Ordering.then_eq_eq.mp equal
  obtain ⟨-, equal⟩ := Ordering.then_eq_eq.mp equal
  obtain ⟨-, equal⟩ := Ordering.then_eq_eq.mp equal
  exact Std.LawfulEqCmp.eq_of_compare (Ordering.then_eq_eq.mp equal).1

end Violation

namespace Report

theorem mem_of_mem_sorted {r : Report} {v : Violation} (member : v ∈ r.sorted.violations) :
    v ∈ r.violations :=
  mem_sortBy.mp ((sublist_dropRepeats _).subset member)

/-- No finding is lost: a repetition is dropped for a finding that says the same. -/
theorem exists_mem_sorted {r : Report} {v : Violation} (member : v ∈ r.violations) :
    ∃ w ∈ r.sorted.violations, w.same v = true :=
  exists_kept Violation.same_refl (mem_sortBy.mpr member)

/-- If findings of a code are told apart by the order, a report has each of them once. Sorting brings the repetitions of
one together, because nothing else is equal to it. -/
theorem perm_filter_sorted {r : Report} {code : String} {found : List Violation} (nodup : found.Nodup)
    (separated : ∀ v ∈ found, ∀ w ∈ found, v.compare w = .eq → v = w)
    (listed : ∀ v, v ∈ r.violations ∧ v.code = code ↔ v ∈ found) :
    (r.sorted.violations.filter (·.code = code)).Perm found := by
  have rises : r.sorted.violations.Pairwise (Rises Violation.compare fun v => v.code = code) := by
    apply pairwise_rises
    intro v hv w hw picked equal
    have alike := (Violation.code_and_location_of_compare equal).1
    have codes : v.code = code ∧ w.code = code := by
      rcases picked with own | own
      · exact ⟨own, alike ▸ own⟩
      · exact ⟨alike ▸ own, own⟩
    obtain rfl := separated v ((listed v).mp ⟨hv, codes.1⟩) w ((listed w).mp ⟨hw, codes.2⟩) equal
    exact Violation.same_refl v
  refine (List.perm_ext_iff_of_nodup (nodup_filter_of_rises rises) nodup).mpr fun v => ?_
  rw [List.mem_filter, decide_eq_true_eq, ← listed]
  refine and_congr_left fun own => ⟨mem_of_mem_sorted, fun member => ?_⟩
  obtain ⟨w, kept, same⟩ := exists_mem_sorted member
  have own' := (Violation.code_eq_of_same same).trans own
  obtain rfl := separated w ((listed w).mp ⟨mem_of_mem_sorted kept, own'⟩) v ((listed v).mp ⟨member, own⟩)
    (Violation.compare_of_same same)
  exact kept

end Report

end Layering
