import Layering.Proofs.ReportOrder
import Layering.Proofs.Stability
import Mathlib.Data.List.Forall2

/-! The sorted report as a normal form. Sorting puts findings in the order of the report and loses none of them. It is
a normal form, free of repetitions and the same for all reports with the same findings, exactly if the order tells
apart all findings that are not the same. It looks at neither the name of the rule nor the suggestion, and where two
findings differ in nothing else, repetitions of the one may be left on both sides of the other. -/
namespace Layering.Report

/-- Findings that are equal in the order are the same. -/
def Discerned (violations : List Violation) : Prop :=
  ∀ v ∈ violations, ∀ w ∈ violations, v.compare w = .eq → v.same w = true

/-- Every finding of either list has one in the other that is the same. -/
def SameFindings (vs ws : List Violation) : Prop :=
  (∀ v ∈ vs, ∃ w ∈ ws, v.same w = true) ∧ ∀ w ∈ ws, ∃ v ∈ vs, v.same w = true

/-- The lists agree finding by finding. -/
def SameList (vs ws : List Violation) : Prop := List.Forall₂ (fun v w => v.same w = true) vs ws

namespace SameFindings

theorem symm {vs ws : List Violation} (same : SameFindings vs ws) : SameFindings ws vs := by
  refine ⟨fun w member => ?_, fun v member => ?_⟩
  · obtain ⟨v, found, alike⟩ := same.2 w member
    exact ⟨v, found, Violation.same_symm alike⟩
  · obtain ⟨w, found, alike⟩ := same.1 v member
    exact ⟨w, found, Violation.same_symm alike⟩

theorem trans {us vs ws : List Violation} (first : SameFindings us vs) (second : SameFindings vs ws) :
    SameFindings us ws := by
  refine ⟨fun u member => ?_, fun w member => ?_⟩
  · obtain ⟨v, found, alike⟩ := first.1 u member
    obtain ⟨w, found, alike'⟩ := second.1 v found
    exact ⟨w, found, Violation.same_trans alike alike'⟩
  · obtain ⟨v, found, alike⟩ := second.2 w member
    obtain ⟨u, found, alike'⟩ := first.2 v found
    exact ⟨u, found, Violation.same_trans alike' alike⟩

theorem sorted (r : Report) : SameFindings r.violations r.sorted.violations := by
  refine ⟨fun v member => ?_, fun v member => ⟨v, mem_of_mem_sorted member, Violation.same_refl v⟩⟩
  obtain ⟨w, found, alike⟩ := exists_mem_sorted member
  exact ⟨w, found, Violation.same_symm alike⟩

theorem append_right {vs ws : List Violation} (same : SameFindings vs ws) (us : List Violation) :
    SameFindings (vs ++ us) (ws ++ us) := by
  refine ⟨List.forall_mem_append.mpr ⟨fun v listed => ?_, fun u listed => ?_⟩,
    List.forall_mem_append.mpr ⟨fun w listed => ?_, fun u listed => ?_⟩⟩
  · obtain ⟨w, found, alike⟩ := same.1 v listed
    exact ⟨w, List.mem_append_left _ found, alike⟩
  · exact ⟨u, List.mem_append_right _ listed, Violation.same_refl u⟩
  · obtain ⟨v, found, alike⟩ := same.2 w listed
    exact ⟨v, List.mem_append_left _ found, alike⟩
  · exact ⟨u, List.mem_append_right _ listed, Violation.same_refl u⟩

theorem map {f : Violation → Violation} (respects : ∀ {v w : Violation}, v.same w = true →
    (f v).same (f w) = true) {vs ws : List Violation} (same : SameFindings vs ws) :
    SameFindings (vs.map f) (ws.map f) := by
  refine ⟨List.forall_mem_map.mpr fun v listed => ?_, List.forall_mem_map.mpr fun w listed => ?_⟩
  · obtain ⟨w, found, alike⟩ := same.1 v listed
    exact ⟨f w, List.mem_map_of_mem found, respects alike⟩
  · obtain ⟨v, found, alike⟩ := same.2 w listed
    exact ⟨f v, List.mem_map_of_mem found, respects alike⟩

theorem discerned {vs ws : List Violation} (same : SameFindings vs ws) (discerned : Discerned vs) : Discerned ws := by
  intro v member w member' level
  obtain ⟨v', found, alike⟩ := same.2 v member
  obtain ⟨w', found', alike'⟩ := same.2 w member'
  have level' : v'.compare w' = .eq := by
    rw [Std.TransCmp.congr_left (Violation.compare_of_same alike),
      Std.TransCmp.congr_right (Violation.compare_of_same alike'), level]
  have across := discerned v' found w' found' level'
  exact Violation.same_trans (Violation.same_symm alike) (Violation.same_trans across alike')

end SameFindings

theorem pairwise_sorted (r : Report) : r.sorted.violations.Pairwise fun v w => (v.compare w).isLE = true :=
  (pairwise_sortBy r.violations).sublist (sublist_dropRepeats _)

theorem pairwise_lt_sorted {r : Report} (discerned : Discerned r.violations) :
    r.sorted.violations.Pairwise fun v w => v.compare w = .lt := by
  have rises : r.sorted.violations.Pairwise (Rises Violation.compare fun _ => True) :=
    pairwise_rises fun v hv w hw _ level => discerned v hv w hw level
  exact rises.imp fun rise => rise.2 (.inl trivial)

theorem pairwise_not_same_of_lt {vs : List Violation} (strict : vs.Pairwise fun v w => v.compare w = .lt) :
    vs.Pairwise fun v w => v.same w = false := by
  refine strict.imp fun {v w} less => ?_
  by_contra same
  rw [Violation.compare_of_same (by simpa using same)] at less
  contradiction

/-- A finding of a strictly increasing list that is not above the first one is the first one. -/
theorem same_head {v w u : Violation} {ws : List Violation} (strict : (w :: ws).Pairwise fun v w => v.compare w = .lt)
    (member : u ∈ w :: ws) (alike : v.same u = true) (low : (v.compare w).isLE = true) : v.same w = true := by
  rcases List.mem_cons.mp member with rfl | later
  · exact alike
  · have above : w.compare u = .lt := (List.pairwise_cons.mp strict).1 u later
    have less : w.compare v = .lt := by
      rw [Std.TransCmp.congr_right (Violation.compare_of_same alike)]
      exact above
    have swap : v.compare w = (w.compare v).swap := Std.OrientedCmp.eq_swap
    rw [swap, less] at low
    contradiction

/-- Strictly increasing lists of the same findings agree finding by finding: neither head is above the other. -/
theorem sameList_of_lt {vs ws : List Violation} (hv : vs.Pairwise fun v w => v.compare w = .lt)
    (hw : ws.Pairwise fun v w => v.compare w = .lt) (same : SameFindings vs ws) : SameList vs ws := by
  induction vs generalizing ws with
  | nil =>
    cases ws with
    | nil => exact List.Forall₂.nil
    | cons w ws =>
      obtain ⟨_, member, -⟩ := same.2 w List.mem_cons_self
      cases member
  | cons v vs ih =>
    cases ws with
    | nil =>
      obtain ⟨_, member, -⟩ := same.1 v List.mem_cons_self
      cases member
    | cons w ws =>
      have heads : v.same w = true := by
        obtain ⟨u, member, alike⟩ := same.1 v List.mem_cons_self
        obtain ⟨t, member', alike'⟩ := same.2 w List.mem_cons_self
        cases low : (v.compare w).isLE with
        | true => exact same_head hw member alike low
        | false =>
          have high : ((v.compare w).isLE || (w.compare v).isLE) = true := isLE_total v w
          rw [low, Bool.false_or] at high
          exact Violation.same_symm (same_head hv member' (Violation.same_symm alike') high)
      have apart := (List.pairwise_cons.mp (pairwise_not_same_of_lt hv)).1
      have apart' := (List.pairwise_cons.mp (pairwise_not_same_of_lt hw)).1
      refine List.Forall₂.cons heads (ih (List.pairwise_cons.mp hv).2 (List.pairwise_cons.mp hw).2 ⟨?_, ?_⟩)
      · intro a member
        obtain ⟨b, found, alike⟩ := same.1 a (List.mem_cons_of_mem _ member)
        rcases List.mem_cons.mp found with rfl | found
        · have repeated := Violation.same_trans heads (Violation.same_symm alike)
          simp [apart a member] at repeated
        · exact ⟨b, found, alike⟩
      · intro b member
        obtain ⟨a, found, alike⟩ := same.2 b (List.mem_cons_of_mem _ member)
        rcases List.mem_cons.mp found with rfl | found
        · have repeated := Violation.same_trans (Violation.same_symm heads) alike
          simp [apart' b member] at repeated
        · exact ⟨a, found, alike⟩

theorem convex_tied (v : Violation) : Convex Violation.compare Violation.same fun w => (v.compare w).isEq := by
  intro a b c below above alike
  have low : (b.compare a).isLE = true := by
    rwa [Std.TransCmp.congr_right (Violation.compare_of_same alike)]
  have level : a.compare b = .eq := Std.OrientedCmp.isLE_antisymm below low
  exact congrArg Ordering.isEq (Std.TransCmp.congr_right level)

/-- What comes first in a list comes first among its equals in the sorted list. -/
theorem tiedWith_sorted (r : Report) (v : Violation) (rest : List Violation) : ∃ others,
    tiedWith Violation.compare v { r with violations := v :: rest }.sorted.violations = v :: others := by
  have first : tiedWith Violation.compare v (v :: rest) = v :: tiedWith Violation.compare v rest := by
    simp [tiedWith, Std.ReflCmp.compare_self]
  have kept : tiedWith Violation.compare v { r with violations := v :: rest }.sorted.violations =
      dropRepeats Violation.same (tiedWith Violation.compare v (sortBy Violation.compare (v :: rest))) :=
    filter_dropRepeats (convex_tied v) (pairwise_sortBy _)
  rw [kept, tiedWith_sortBy, first]
  exact ⟨_, rfl⟩

theorem sameList_tiedWith {vs ws : List Violation} (v : Violation) (same : SameList vs ws) :
    SameList (tiedWith Violation.compare v vs) (tiedWith Violation.compare v ws) := by
  refine List.rel_filter ?_ same
  intro a b alike
  have level : v.compare a = v.compare b := Std.TransCmp.congr_right (Violation.compare_of_same alike)
  exact Eq.congr_left (congrArg Ordering.isEq level)

/-- If no permutation of the findings changes the sorted report, the order tells them apart: of two findings that it
does not tell apart either can be given first, and then it comes first in the report. -/
theorem discerned_of_perm {r : Report}
    (stable : ∀ r' : Report, r'.violations.Perm r.violations → SameList r.sorted.violations r'.sorted.violations) :
    Discerned r.violations := by
  intro v hv w hw level
  have head {u : Violation} (member : u ∈ r.violations) : ∃ t others, t.same u = true ∧
      tiedWith Violation.compare u r.sorted.violations = t :: others := by
    obtain ⟨others, first⟩ := tiedWith_sorted r u (r.violations.erase u)
    have agree := sameList_tiedWith u
      (stable { r with violations := u :: r.violations.erase u } (List.perm_cons_erase member).symm)
    rw [first] at agree
    obtain ⟨t, rest, alike, -, found⟩ := List.forall₂_cons_right_iff.mp agree
    exact ⟨t, rest, alike, found⟩
  obtain ⟨t, rest, alike, found⟩ := head hv
  obtain ⟨t', rest', alike', found'⟩ := head hw
  have tied : tiedWith Violation.compare v r.sorted.violations = tiedWith Violation.compare w r.sorted.violations := by
    simp only [tiedWith, Std.TransCmp.congr_left level]
  obtain rfl : t = t' := by
    rw [found, found'] at tied
    exact (List.cons.inj tied).1
  exact Violation.same_trans (Violation.same_symm alike) alike'

/-- The sorted report is in order and holds the findings of the report. If the order tells these apart, it holds
each of them once and is the same for every report with the same findings. If it does not, not even all permutations
of the findings are sorted to the same report. -/
theorem sorted_canonical (r : Report) :
    (r.sorted.violations.Pairwise fun v w => (v.compare w).isLE = true) ∧
      SameFindings r.violations r.sorted.violations ∧
      (Discerned r.violations →
        (r.sorted.violations.Pairwise fun v w => v.same w = false) ∧
          ∀ r' : Report, SameFindings r.violations r'.violations →
            SameList r.sorted.violations r'.sorted.violations) ∧
      ((∀ r' : Report, r'.violations.Perm r.violations → SameList r.sorted.violations r'.sorted.violations) →
        Discerned r.violations) := by
  refine ⟨pairwise_sorted r, SameFindings.sorted r, fun discerned => ⟨?_, fun r' same => ?_⟩, discerned_of_perm⟩
  · exact pairwise_not_same_of_lt (pairwise_lt_sorted discerned)
  · apply sameList_of_lt (pairwise_lt_sorted discerned) (pairwise_lt_sorted (same.discerned discerned))
    exact ((SameFindings.sorted r).symm.trans same).trans (SameFindings.sorted r')

/-- A finding without a suggestion. -/
def plainFinding : Violation := Rule.layerDirection.violation .error ⟨⟨"src/a.ts"⟩, 1, 1⟩ "upward import" none

/-- The same finding with a suggestion. -/
def advisedFinding : Violation := { plainFinding with suggestion := some "move it" }

theorem sorted_of_level {vs : List Violation} (level : vs.Pairwise fun v w => (v.compare w).isLE = true) :
    (⟨vs, 0, 0⟩ : Report).sorted.violations = dropRepeats Violation.same vs := by
  rw [sorted, sortBy, List.mergeSort_of_pairwise level]

/-- Findings that differ in their suggestion alone are not told apart: a repetition stays, and a permutation changes
the report. -/
theorem sorted_not_canonical :
    ¬(⟨[plainFinding, advisedFinding, plainFinding], 0, 0⟩ : Report).sorted.violations.Pairwise
        (fun v w => v.same w = false) ∧
      ¬SameList (⟨[plainFinding, advisedFinding, plainFinding], 0, 0⟩ : Report).sorted.violations
        (⟨[plainFinding, plainFinding, advisedFinding], 0, 0⟩ : Report).sorted.violations := by
  rw [sorted_of_level (by decide), sorted_of_level (by decide)]
  refine ⟨by decide, fun same => ?_⟩
  have lengths := same.length_eq
  revert lengths
  decide

end Layering.Report
