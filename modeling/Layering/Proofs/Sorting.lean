import Layering.Order
import Mathlib.Data.List.Chain

/-! Sorting and dropping repetitions, seen together. What is sorted and then freed of repetitions holds the same
items, and it increases strictly wherever the order tells apart what the repetitions do. In what increases strictly
each item is found by its key. -/
namespace Layering

/-- Looking a key up passes over the entries of another key. -/
theorem lookup_filter [BEq κ] [LawfulBEq κ] [DecidableEq κ] {entries : List (κ × β)} {key other : κ}
    (apart : other ≠ key) : (entries.filter fun entry => entry.1 ≠ key).lookup other = entries.lookup other := by
  induction entries with
  | nil => rfl
  | cons entry entries ih =>
    obtain ⟨first, b⟩ := entry
    by_cases replaced : first = key
    · have passed : (other == first) = false := by simpa [replaced] using apart
      rw [List.filter_cons_of_neg (by simpa using replaced), ih, List.lookup_cons, passed]
    · rw [List.filter_cons_of_pos (by simpa using replaced), List.lookup_cons, List.lookup_cons, ih]

section Repeats

variable {same : α → α → Bool}

theorem sublist_dropRepeatsAfter (kept : α) (items : List α) :
    (dropRepeatsAfter same kept items).Sublist items := by
  fun_induction dropRepeatsAfter same kept items with
  | case1 => exact List.Sublist.slnil
  | case2 kept a as h ih => exact ih.cons a
  | case3 kept a as h ih => exact ih.cons_cons a

theorem sublist_dropRepeats (items : List α) : (dropRepeats same items).Sublist items := by
  cases items with
  | nil => exact List.Sublist.slnil
  | cons a as => exact (sublist_dropRepeatsAfter a as).cons_cons a

/-- An item is dropped only for one that is the same and stays. -/
theorem exists_kept_after (reflexive : ∀ a, same a a = true) (kept : α) (items : List α) :
    ∀ a ∈ items, ∃ b ∈ kept :: dropRepeatsAfter same kept items, same b a = true := by
  fun_induction dropRepeatsAfter same kept items with
  | case1 => simp
  | case2 kept c as repeated ih =>
    intro a member
    rcases List.mem_cons.mp member with rfl | member
    · exact ⟨kept, List.mem_cons_self, repeated⟩
    · exact ih a member
  | case3 kept c as fresh ih =>
    intro a member
    rcases List.mem_cons.mp member with rfl | member
    · exact ⟨a, by simp, reflexive a⟩
    · obtain ⟨b, stays, alike⟩ := ih a member
      exact ⟨b, List.mem_cons_of_mem _ stays, alike⟩

theorem exists_kept (reflexive : ∀ a, same a a = true) {items : List α} {a : α} (member : a ∈ items) :
    ∃ b ∈ dropRepeats same items, same b a = true := by
  cases items with
  | nil => simp at member
  | cons c as =>
    rcases List.mem_cons.mp member with rfl | member
    · exact ⟨a, List.mem_cons_self, reflexive a⟩
    · exact exists_kept_after reflexive c as a member

theorem isChain_dropRepeatsAfter (kept : α) (items : List α) :
    (kept :: dropRepeatsAfter same kept items).IsChain fun a b => same a b = false := by
  fun_induction dropRepeatsAfter same kept items with
  | case1 => exact List.isChain_singleton _
  | case2 kept a as repeated ih => exact ih
  | case3 kept a as fresh ih => exact List.isChain_cons_cons.mpr ⟨by simpa using fresh, ih⟩

theorem isChain_dropRepeats (items : List α) :
    (dropRepeats same items).IsChain fun a b => same a b = false := by
  cases items with
  | nil => exact List.isChain_nil
  | cons a as => exact isChain_dropRepeatsAfter a as

end Repeats

section Sorted

variable {order : α → α → Ordering}

@[simp] theorem mem_sortBy {a : α} {items : List α} : a ∈ sortBy order items ↔ a ∈ items := by
  simp [sortBy]

theorem pairwise_sortBy [Std.TransCmp order] (items : List α) :
    (sortBy order items).Pairwise fun a b => (order a b).isLE = true := by
  apply List.pairwise_mergeSort
  · intro a b c
    exact Std.TransCmp.isLE_trans
  · intro a b
    have swap : order b a = (order a b).swap := Std.OrientedCmp.eq_swap
    rw [swap]
    cases order a b <;> rfl

/-- One item is not above another, and strictly below it if either of the two is picked. -/
def Rises (order : α → α → Ordering) (picked : α → Prop) (a b : α) : Prop :=
  (order a b).isLE = true ∧ (picked a ∨ picked b → order a b = .lt)

/-- One strict comparison makes the whole way strict. -/
theorem Rises.trans [Std.TransCmp order] {picked : α → Prop} {a b c : α}
    (first : Rises order picked a b) (second : Rises order picked b c) : Rises order picked a c := by
  refine ⟨Std.TransCmp.isLE_trans first.1 second.1, fun pick => ?_⟩
  rcases pick with pick | pick
  · exact Std.TransCmp.lt_of_lt_of_isLE (first.2 (.inl pick)) second.1
  · exact Std.TransCmp.lt_of_isLE_of_lt first.1 (second.2 (.inr pick))

theorem isChain_rises {same : α → α → Bool} {picked : α → Prop} {items : List α}
    (inOrder : items.Pairwise fun a b => (order a b).isLE = true)
    (apart : items.IsChain fun a b => same a b = false)
    (separated : ∀ a ∈ items, ∀ b ∈ items, picked a ∨ picked b → order a b = .eq → same a b = true) :
    items.IsChain (Rises order picked) := by
  induction items with
  | nil => exact List.isChain_nil
  | cons a rest ih =>
    cases rest with
    | nil => exact List.isChain_singleton _
    | cons b rest =>
      have le := (List.pairwise_cons.mp inOrder).1 b List.mem_cons_self
      obtain ⟨differ, later⟩ := List.isChain_cons_cons.mp apart
      refine List.isChain_cons_cons.mpr ⟨⟨le, fun pick => ?_⟩, ?_⟩
      · cases h : order a b with
        | lt => rfl
        | eq => simp [separated a (by simp) b (by simp) pick h] at differ
        | gt => simp [h] at le
      · exact ih (List.pairwise_cons.mp inOrder).2 later fun a ha b hb =>
          separated a (List.mem_cons_of_mem _ ha) b (List.mem_cons_of_mem _ hb)

/-- Sorting and dropping repetitions leaves the picked items strictly increasing, if picked items that are equal in
the order are the same. -/
theorem pairwise_rises [Std.TransCmp order] {same : α → α → Bool} {picked : α → Prop} {items : List α}
    (separated : ∀ a ∈ items, ∀ b ∈ items, picked a ∨ picked b → order a b = .eq → same a b = true) :
    (dropRepeats same (sortBy order items)).Pairwise (Rises order picked) := by
  have part : (dropRepeats same (sortBy order items)).Sublist (sortBy order items) := sublist_dropRepeats _
  have chain : (dropRepeats same (sortBy order items)).IsChain (Rises order picked) := by
    apply isChain_rises ((pairwise_sortBy items).sublist part) (isChain_dropRepeats _)
    intro a ha b hb
    exact separated a (mem_sortBy.mp (part.subset ha)) b (mem_sortBy.mp (part.subset hb))
  have : Trans (Rises order picked) (Rises order picked) (Rises order picked) := ⟨Rises.trans⟩
  exact chain.pairwise

/-- Picked items that strictly increase are all different. -/
theorem nodup_filter_of_rises [Std.ReflCmp order] {picked : α → Prop} [DecidablePred picked] {items : List α}
    (rises : items.Pairwise (Rises order picked)) : (items.filter fun a => picked a).Nodup := by
  refine List.pairwise_filter.mpr (rises.imp fun {a b} rise own _ equal => ?_)
  have less := rise.2 (.inl (of_decide_eq_true own))
  have level : order b b = .eq := Std.ReflCmp.compare_self
  rw [equal, level] at less
  contradiction

end Sorted

section Distinct

variable {order : α → α → Ordering} [BEq α] [LawfulBEq α]

@[simp] theorem mem_sortDistinct {a : α} {items : List α} : a ∈ sortDistinct order items ↔ a ∈ items := by
  constructor
  · intro h
    exact mem_sortBy.mp ((sublist_dropRepeats _).subset h)
  · intro h
    have sorted : a ∈ sortBy order items := mem_sortBy.mpr h
    obtain ⟨b, kept, alike⟩ : ∃ b ∈ sortDistinct order items, (b == a) = true :=
      exists_kept (fun _ => BEq.rfl) sorted
    exact eq_of_beq alike ▸ kept

theorem pairwise_sortDistinct [Std.TransCmp order] [Std.LawfulEqCmp order] (items : List α) :
    (sortDistinct order items).Pairwise fun a b => order a b = .lt := by
  have strict : (sortDistinct order items).Pairwise (Rises order fun _ => True) :=
    pairwise_rises fun a _ b _ _ equal => by simp [Std.LawfulEqCmp.eq_of_compare equal]
  exact strict.imp fun h => h.2 (.inl trivial)

theorem nodup_sortDistinct [Std.TransCmp order] [Std.LawfulEqCmp order] (items : List α) :
    (sortDistinct order items).Nodup := by
  apply (pairwise_sortDistinct items).imp
  intro a b less equal
  subst equal
  simp [Std.ReflCmp.compare_self] at less

/-- Items of a list that increases strictly are sorted by picking them from that list. -/
theorem sortDistinct_eq_filter [Std.TransCmp order] [Std.LawfulEqCmp order] {all items : List α}
    (increasing : all.Pairwise fun a b => order a b = .lt) (listed : ∀ a ∈ items, a ∈ all) :
    sortDistinct order items = all.filter items.contains := by
  have picked : (all.filter items.contains).Pairwise fun a b => order a b = .lt := increasing.filter _
  have irreflexive {as : List α} (rises : as.Pairwise fun a b => order a b = .lt) : as.Nodup :=
    rises.imp fun {a b} less equal => by simp [equal, Std.ReflCmp.compare_self] at less
  have same : (sortDistinct order items).Perm (all.filter items.contains) := by
    refine (List.perm_ext_iff_of_nodup (nodup_sortDistinct items) (irreflexive picked)).mpr fun a => ?_
    simp only [mem_sortDistinct, List.mem_filter, List.contains_iff_mem]
    exact ⟨fun here => ⟨listed a here, here⟩, And.right⟩
  refine same.eq_of_pairwise (fun a b _ _ less greater => ?_) (pairwise_sortDistinct items) picked
  exact absurd greater (Std.OrientedCmp.not_lt_of_lt less)

end Distinct

theorem compare_eq_lt {a b : String} : compare a b = .lt ↔ a < b := compareOfLessAndEq_eq_lt

section Searching

/-- The three places where an item of a cut list can stand. -/
theorem mem_iff_of_drop {items after : List α} {n : Nat} {middle a : α} (rest : items.drop n = middle :: after) :
    a ∈ items ↔ a ∈ items.take n ∨ a = middle ∨ a ∈ after := by
  have whole : items.take n ++ middle :: after = items := rest ▸ List.take_append_drop n items
  conv_lhs => rw [← whole]
  simp

theorem pairwise_of_drop {related : α → α → Prop} {items after : List α} {n : Nat} {middle : α}
    (rest : items.drop n = middle :: after) (pairwise : items.Pairwise related) :
    (∀ a ∈ items.take n, related a middle) ∧ (∀ a ∈ after, related middle a) := by
  have whole : items.take n ++ middle :: after = items := rest ▸ List.take_append_drop n items
  rw [← whole] at pairwise
  obtain ⟨-, later, across⟩ := List.pairwise_append.mp pairwise
  exact ⟨fun a before => across a before middle List.mem_cons_self, (List.pairwise_cons.mp later).1⟩

variable {κ : Type} {order : κ → κ → Ordering} [Std.TransCmp order] [Std.LawfulEqCmp order]

/-- In a list whose keys strictly increase, looking a key up finds the item that has it, and nothing if none has. By
induction on the halving: the item cannot stand in the half that is left, since all keys there lie on the other side
of the one looked for. -/
theorem searchSorted_eq_some {key : α → κ} {items : List α}
    (increasing : items.Pairwise fun a b => order (key a) (key b) = .lt) {sought : κ} {a : α} :
    searchSorted (fun a => order (key a) sought) items = some a ↔ a ∈ items ∧ key a = sought := by
  fun_induction searchSorted (fun a => order (key a) sought) items with
  | case1 items rest =>
    have none : items = [] := by
      rw [List.drop_eq_nil_iff] at rest
      exact List.eq_nil_of_length_eq_zero (by omega)
    simp [none]
  | case2 items middle after rest length less ih =>
    have right : after.Pairwise fun a b => order (key a) (key b) = .lt := by
      have suffix := increasing.sublist (List.drop_sublist (items.length / 2) items)
      exact (List.pairwise_cons.mp (rest ▸ suffix)).2
    rw [ih right, mem_iff_of_drop rest]
    refine ⟨fun ⟨listed, same⟩ => ⟨.inr (.inr listed), same⟩, ?_⟩
    rintro ⟨before | rfl | listed, rfl⟩
    · exact absurd ((pairwise_of_drop rest increasing).1 a before) (Std.OrientedCmp.not_lt_of_lt less)
    · simp [Std.ReflCmp.compare_self] at less
    · exact ⟨listed, rfl⟩
  | case3 items middle after rest length equal =>
    obtain rfl : key middle = sought := Std.LawfulEqCmp.eq_of_compare equal
    rw [Option.some.injEq, mem_iff_of_drop rest]
    constructor
    · rintro rfl
      exact ⟨.inr (.inl rfl), rfl⟩
    · rintro ⟨before | rfl | later, same⟩
      · have less := (pairwise_of_drop rest increasing).1 a before
        simp [same, Std.ReflCmp.compare_self] at less
      · rfl
      · have less := (pairwise_of_drop rest increasing).2 a later
        simp [same, Std.ReflCmp.compare_self] at less
  | case4 items middle after rest length greater ih =>
    have left := increasing.sublist (List.take_sublist (items.length / 2) items)
    rw [ih left, mem_iff_of_drop rest]
    refine ⟨fun ⟨listed, same⟩ => ⟨.inl listed, same⟩, ?_⟩
    rintro ⟨listed | rfl | later, rfl⟩
    · exact ⟨listed, rfl⟩
    · simp [Std.ReflCmp.compare_self] at greater
    · simp [(pairwise_of_drop rest increasing).2 a later] at greater

/-- Halving a list in which no item that meets a test follows one that does not counts those that meet it. -/
theorem partitionPoint_eq_countP {test : α → Bool} {items : List α}
    (parted : items.Pairwise fun a b => test b = true → test a = true) :
    partitionPoint test items = items.countP test := by
  fun_induction partitionPoint test items with
  | case1 items rest =>
    have none : items = [] := by
      rw [List.drop_eq_nil_iff] at rest
      exact List.eq_nil_of_length_eq_zero (by omega)
    simp [none]
  | case2 items middle after rest length meets ih =>
    have right : after.Pairwise fun a b => test b = true → test a = true := by
      have suffix := parted.sublist (List.drop_sublist (items.length / 2) items)
      exact (List.pairwise_cons.mp (rest ▸ suffix)).2
    have left : (items.take (items.length / 2)).countP test = items.length / 2 := by
      rw [List.countP_eq_length.mpr fun a before => (pairwise_of_drop rest parted).1 a before meets, List.length_take]
      omega
    conv_rhs => rw [← List.take_append_drop (items.length / 2) items, rest]
    rw [List.countP_append, List.countP_cons_of_pos meets, left, ih right]
    omega
  | case3 items middle after rest length fails ih =>
    have left := parted.sublist (List.take_sublist (items.length / 2) items)
    have right : after.countP test = 0 :=
      List.countP_eq_zero.mpr fun a later meets => fails ((pairwise_of_drop rest parted).2 a later meets)
    conv_rhs => rw [← List.take_append_drop (items.length / 2) items, rest]
    rw [List.countP_append, List.countP_cons_of_neg fails, right, ih left, Nat.add_zero]

end Searching

end Layering
