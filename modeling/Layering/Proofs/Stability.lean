import Layering.Proofs.Sorting

/-! Stable sorting. Items that are equal in the order keep the order in which they were given, and a sorted list is
known by what it holds for each place in the order. So sorting commutes with picking items out, and dropping
repetitions does too if what is picked does not tear apart items that are the same. -/
namespace Layering

section Stable

variable {order : α → α → Ordering}

/-- Items that are equal in the order to a given one. -/
def tiedWith (order : α → α → Ordering) (a : α) (items : List α) : List α :=
  items.filter fun b => (order a b).isEq

theorem mem_tiedWith {a b : α} {items : List α} : b ∈ tiedWith order a items ↔ b ∈ items ∧ order a b = .eq := by
  simp [tiedWith, Ordering.isEq_iff_eq_eq]

variable [Std.TransCmp order]

theorem isLE_total (a b : α) : ((order a b).isLE || (order b a).isLE) = true := by
  have swap : order b a = (order a b).swap := Std.OrientedCmp.eq_swap
  rw [swap]
  cases order a b <;> rfl

/-- Sorting does not change the order of items that are equal in the order. -/
theorem tiedWith_sortBy (a : α) (items : List α) :
    tiedWith order a (sortBy order items) = tiedWith order a items := by
  have inOrder : (tiedWith order a items).Pairwise fun b c => (order b c).isLE = true := by
    apply List.pairwise_of_forall_mem_list
    intro b hb c hc
    have level : order b c = .eq := (Std.TransCmp.congr_left (mem_tiedWith.mp hb).2) ▸ (mem_tiedWith.mp hc).2
    rw [level]
    rfl
  have part : (tiedWith order a items).Sublist (sortBy order items) :=
    List.sublist_mergeSort (fun _ _ _ => Std.TransCmp.isLE_trans) isLE_total inOrder List.filter_sublist
  have inside : (tiedWith order a items).Sublist (tiedWith order a (sortBy order items)) := by
    have picked := part.filter fun b => (order a b).isEq
    simpa only [tiedWith, List.filter_filter, Bool.and_self] using picked
  have same : (sortBy order items).Perm items := List.mergeSort_perm _ _
  exact (inside.eq_of_length (same.filter _).length_eq.symm).symm

/-- A list in order is known by the items that it holds for each place in the order. -/
theorem eq_of_tiedWith {as bs : List α} (ha : as.Pairwise fun a b => (order a b).isLE = true)
    (hb : bs.Pairwise fun a b => (order a b).isLE = true)
    (alike : ∀ a, tiedWith order a as = tiedWith order a bs) : as = bs := by
  induction as generalizing bs with
  | nil =>
    cases bs with
    | nil => rfl
    | cons b bs =>
      have none := alike b
      simp [tiedWith, Std.ReflCmp.compare_self] at none
  | cons a as ih =>
    have found := alike a
    have tied : (order a a).isEq = true := by simp [Std.ReflCmp.compare_self]
    cases bs with
    | nil => simp [tiedWith, tied] at found
    | cons b bs =>
      -- Either head has its equals in the other list and so is not above the other head.
      have below {c d : α} {cs ds : List α} (sorted : (d :: ds).Pairwise fun a b => (order a b).isLE = true)
          (same : tiedWith order c (c :: cs) = tiedWith order c (d :: ds)) : (order d c).isLE = true := by
        have member : c ∈ tiedWith order c (d :: ds) := by
          rw [← same]
          exact mem_tiedWith.mpr ⟨List.mem_cons_self, Std.ReflCmp.compare_self⟩
        rcases List.mem_cons.mp (mem_tiedWith.mp member).1 with rfl | later
        · simp [Std.ReflCmp.compare_self]
        · exact (List.pairwise_cons.mp sorted).1 c later
      have level : order a b = .eq := Std.OrientedCmp.isLE_antisymm (below ha (alike b).symm) (below hb found)
      obtain rfl : a = b := by
        simp [tiedWith, tied, level] at found
        exact found.1
      refine congrArg (a :: ·) (ih (List.pairwise_cons.mp ha).2 (List.pairwise_cons.mp hb).2 fun c => ?_)
      have rest := alike c
      simp only [tiedWith, List.filter_cons] at rest ⊢
      split at rest
      · exact (List.cons.inj rest).2
      · exact rest

/-- Sorting depends only on the order among items that are equal in the order. -/
theorem sortBy_congr {as bs : List α} (alike : ∀ a, tiedWith order a as = tiedWith order a bs) :
    sortBy order as = sortBy order bs := by
  apply eq_of_tiedWith (pairwise_sortBy as) (pairwise_sortBy bs)
  intro a
  rw [tiedWith_sortBy, tiedWith_sortBy, alike]

theorem filter_sortBy (picks : α → Bool) (items : List α) :
    (sortBy order items).filter picks = sortBy order (items.filter picks) := by
  apply eq_of_tiedWith ((pairwise_sortBy items).filter picks) (pairwise_sortBy _)
  intro a
  have swap (as : List α) : tiedWith order a (as.filter picks) = (tiedWith order a as).filter picks := by
    simp only [tiedWith, List.filter_filter, Bool.and_comm]
  rw [tiedWith_sortBy, swap, swap, tiedWith_sortBy]

/-- What is sorted, each item once, depends only on which items there are. -/
theorem sortDistinct_congr [BEq α] [LawfulBEq α] [Std.LawfulEqCmp order] {as bs : List α}
    (alike : ∀ a, a ∈ as ↔ a ∈ bs) : sortDistinct order as = sortDistinct order bs := by
  have same : (sortDistinct order as).Perm (sortDistinct order bs) := by
    apply (List.perm_ext_iff_of_nodup (nodup_sortDistinct as) (nodup_sortDistinct bs)).mpr
    simpa using alike
  refine same.eq_of_pairwise (fun a b _ _ less greater => ?_) (pairwise_sortDistinct as) (pairwise_sortDistinct bs)
  have swap : order b a = (order a b).swap := Std.OrientedCmp.eq_swap
  rw [swap, less] at greater
  contradiction

end Stable

section Repeats

variable {same : α → α → Bool} {order : α → α → Ordering} {picks : α → Bool}

/-- What is picked does not tear apart items that are the same: what lies between them in the order is picked with
them. -/
def Convex (order : α → α → Ordering) (same : α → α → Bool) (picks : α → Bool) : Prop :=
  ∀ a b c, (order a b).isLE = true → (order b c).isLE = true → same a c = true → picks a = picks b

theorem dropRepeatsAfter_of_fresh {kept : α} {items : List α} (fresh : ∀ a ∈ items, same kept a = false) :
    dropRepeatsAfter same kept items = dropRepeats same items := by
  cases items with
  | nil => rfl
  | cons a as => rw [dropRepeatsAfter, if_neg (by simp [fresh a List.mem_cons_self]), dropRepeats]

/-- By induction along the list. The item kept last is picked or not, and only in the first case it can stand for a
picked item after it. -/
theorem filter_dropRepeatsAfter [Std.TransCmp order] (convex : Convex order same picks) {kept : α} {items : List α}
    (inOrder : (kept :: items).Pairwise fun a b => (order a b).isLE = true) :
    (dropRepeatsAfter same kept items).filter picks =
      if picks kept then dropRepeatsAfter same kept (items.filter picks)
      else dropRepeats same (items.filter picks) := by
  induction items generalizing kept with
  | nil => cases picks kept <;> rfl
  | cons a as ih =>
    obtain ⟨above, later⟩ := List.pairwise_cons.mp inOrder
    have next : (order kept a).isLE = true := above a List.mem_cons_self
    have rest : (kept :: as).Pairwise fun a b => (order a b).isLE = true := inOrder.sublist (by simp)
    rw [dropRepeatsAfter]
    split
    · rename_i repeated
      have level : (order a a).isLE = true := by simp [Std.ReflCmp.compare_self]
      have together : picks kept = picks a := convex kept a a next level repeated
      rw [ih rest]
      cases own : picks kept with
      | true => simp [← together, own, dropRepeatsAfter, repeated]
      | false => simp [← together, own]
    · rename_i differs
      cases own : picks a with
      | true =>
        rw [List.filter_cons_of_pos own, List.filter_cons_of_pos own, ih later, if_pos own]
        simp [dropRepeatsAfter, dropRepeats, differs]
      | false =>
        have skipped : ¬picks a = true := by simp [own]
        rw [List.filter_cons_of_neg skipped, List.filter_cons_of_neg skipped, ih later, if_neg skipped]
        split
        · rename_i picked
          refine (dropRepeatsAfter_of_fresh fun b member => ?_).symm
          by_contra repeated
          have between : (order a b).isLE = true :=
            (List.pairwise_cons.mp later).1 b (List.mem_of_mem_filter member)
          have together := convex kept a b next between (by simpa using repeated)
          rw [picked, own] at together
          contradiction
        · rfl

theorem filter_dropRepeats [Std.TransCmp order] (convex : Convex order same picks) {items : List α}
    (inOrder : items.Pairwise fun a b => (order a b).isLE = true) :
    (dropRepeats same items).filter picks = dropRepeats same (items.filter picks) := by
  cases items with
  | nil => rfl
  | cons a as =>
    rw [dropRepeats, List.filter_cons, List.filter_cons, filter_dropRepeatsAfter convex inOrder]
    split <;> rfl

/-- Picking from a list that is sorted and freed of repetitions is sorting what is picked and freeing it of
repetitions. -/
theorem filter_dropRepeats_sortBy [Std.TransCmp order] (convex : Convex order same picks) (items : List α) :
    (dropRepeats same (sortBy order items)).filter picks = dropRepeats same (sortBy order (items.filter picks)) := by
  rw [filter_dropRepeats convex (pairwise_sortBy items), filter_sortBy]

end Repeats

end Layering
