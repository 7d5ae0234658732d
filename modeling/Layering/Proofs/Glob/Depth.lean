import Layering.Proofs.Glob.Ways

/-! What a pattern describes in a directory, wherever that is. The directories above are only seen from two dots, so the
ways that stay below their start are the same from two places where the same is. -/
namespace Layering

/-- Places where the same is, with as many of the nearest directories above the same. -/
structure Spot.Alike (depth : Nat) (s s' : Spot) : Prop where
  here : s.here = s'.here
  above : s.above.take depth = s'.above.take depth

namespace Spot.Alike

variable {depth depth' : Nat} {s s' : Spot}

theorem le (alike : s.Alike depth s') (le : depth' ≤ depth) : s.Alike depth' s' where
  here := alike.here
  above := by
    have cut := congrArg (List.take depth') alike.above
    rwa [List.take_take, List.take_take, Nat.min_eq_left le] at cut

theorem up (alike : s.Alike (depth + 1) s') : s.up.Alike depth s'.up := by
  obtain ⟨here, above⟩ := s
  obtain ⟨here', above'⟩ := s'
  obtain ⟨rfl, same⟩ := alike
  cases above with
  | nil =>
    cases above' with
    | nil => exact ⟨rfl, rfl⟩
    | cons parent above' => cases same
  | cons parent above =>
    cases above' with
    | nil => cases same
    | cons parent' above' =>
      obtain ⟨rfl, later⟩ := List.cons.inj same
      exact ⟨rfl, later⟩

theorem enter (alike : s.Alike depth s') (child : Tree) :
    Spot.Alike (depth + 1) ⟨child, s.here :: s.above⟩ ⟨child, s.here :: s'.above⟩ where
  here := rfl
  above := by rw [List.take_succ_cons, List.take_succ_cons, alike.above]

end Spot.Alike

namespace Glob

/-- How far below the topmost place a way ends that starts at some depth, unless it leads above it. -/
def depthAfter? : Nat → List String → Option Nat
  | depth, [] => some depth
  | depth, name :: way =>
    match Path.Part.ofSegment? name with
    | none => depthAfter? depth way
    | some .up => if depth = 0 then none else depthAfter? (depth - 1) way
    | some _ => depthAfter? (depth + 1) way

/-- Whether a way that starts at some depth never leads above the topmost place. -/
def staysBelow (depth : Nat) (way : List String) : Bool := (depthAfter? depth way).isSome

theorem depthAfter?_append (depth : Nat) (way more : List String) :
    depthAfter? depth (way ++ more) = (depthAfter? depth way).bind (depthAfter? · more) := by
  induction way generalizing depth with
  | nil => rfl
  | cons name way ih =>
    rw [List.cons_append, depthAfter?, depthAfter?]
    split
    · exact ih depth
    · split
      · rfl
      · exact ih (depth - 1)
    · exact ih (depth + 1)

theorem depthAfter?_le {depth depth' : Nat} {way : List String} (after : depthAfter? depth way = some depth') :
    depth' ≤ depth + way.length := by
  induction way generalizing depth with
  | nil => exact Nat.le_of_eq (Option.some.inj after).symm
  | cons name way ih =>
    rw [depthAfter?] at after
    rw [List.length_cons]
    split at after
    · have := ih after
      omega
    · split at after
      · cases after
      · have := ih after
        omega
    · have := ih after
      omega

theorem staysBelow_of_forall_ne {depth : Nat} {way : List String} (kept : ∀ name ∈ way, name ≠ "..") :
    staysBelow depth way = true := by
  induction way generalizing depth with
  | nil => rfl
  | cons name way ih =>
    obtain ⟨first, later⟩ := List.forall_mem_cons.mp kept
    rw [staysBelow, depthAfter?]
    cases read : Path.Part.ofSegment? name with
    | none => exact ih later
    | some part =>
      cases part with
      | up => exact absurd (Path.Part.text_of_ofSegment? read).symm first
      | root | here | name => exact ih later

/-- Found on the same way, in places that are alike down to where the way starts and further down to its end. -/
def Under (depth : Nat) (found found' : List String × Spot) : Prop :=
  found.1 = found'.1 ∧ found.2.Alike (depth + found.1.length) found'.2

/-- Found on the same way, in places that are alike down to where the way ends, if it stays below. -/
def Beside (depth : Nat) (found found' : List String × Spot) : Prop :=
  found.1 = found'.1 ∧ ∀ depth', depthAfter? depth found.1 = some depth' → found.2.Alike depth' found'.2

theorem Beside.here_eq {depth : Nat} {found found' : List String × Spot} (beside : Beside depth found found')
    (kept : ∀ name ∈ found.1, name ≠ "..") : found.2.here = found'.2.here := by
  obtain ⟨depth', after⟩ := Option.isSome_iff_exists.mp (staysBelow_of_forall_ne kept)
  exact (beside.2 depth' after).here

theorem Under.beside {depth : Nat} {found found' : List String × Spot} (under : Under depth found found') :
    Beside depth found found' :=
  ⟨under.1, fun _ after => under.2.le (depthAfter?_le after)⟩

mutual

theorem below_under (depth : Nat) {above above' : List Tree} (same : above.take depth = above'.take depth) (t : Tree) :
    List.Forall₂ (Under depth) (below above t) (below above' t) := by
  cases t with
  | file bytes => exact .nil
  | directory entries =>
    rw [below, below]
    exact belowAmong_under depth (by rw [List.take_succ_cons, List.take_succ_cons, same]) entries

theorem belowAmong_under (depth : Nat) {above above' : List Tree}
    (same : above.take (depth + 1) = above'.take (depth + 1)) (entries : List (String × Tree)) :
    List.Forall₂ (Under depth) (belowAmong above entries) (belowAmong above' entries) := by
  cases entries with
  | nil => exact .nil
  | cons entry entries =>
    obtain ⟨name, child⟩ := entry
    rw [belowAmong, belowAmong]
    refine List.rel_append (.cons ⟨rfl, rfl, same⟩ ?_) (belowAmong_under depth same entries)
    rw [List.forall₂_map_left_iff, List.forall₂_map_right_iff]
    refine (below_under (depth + 1) same child).imp ?_
    rintro ⟨way, spot⟩ ⟨way', spot'⟩ ⟨rfl, alike⟩
    refine ⟨rfl, alike.le ?_⟩
    simp only [List.length_cons]
    omega

end

section Beside

variable {depth : Nat} {s s' : Spot} {name : String}

theorem stay_beside (alike : s.Alike depth s') (still : name = "" ∨ name = ".") :
    Beside depth ([name], s) ([name], s') := by
  refine ⟨rfl, fun depth' after => ?_⟩
  rcases still with rfl | rfl <;> exact Option.some.inj after ▸ alike

theorem up_beside (alike : s.Alike depth s') : Beside depth ([".."], s.up) ([".."], s'.up) := by
  refine ⟨rfl, fun depth' after => ?_⟩
  cases depth with
  | zero => cases after
  | succ depth => exact Option.some.inj after ▸ alike.up

theorem child_beside (alike : s.Alike depth s') (name : String) (child : Tree) :
    Beside depth ([name], ⟨child, s.here :: s.above⟩) ([name], ⟨child, s.here :: s'.above⟩) :=
  ⟨rfl, fun _ after => (alike.enter child).le (depthAfter?_le after)⟩

theorem step_beside (alike : s.Alike depth s') (name : String) :
    Option.Rel (fun child child' => Beside depth ([name], child) ([name], child'))
      (s.step name).toOption (s'.step name).toOption := by
  unfold Spot.step
  rw [← alike.here]
  split
  · exact .none
  · split
    · exact .some (stay_beside alike (by assumption))
    · split
      · rename_i up
        exact .some (up ▸ up_beside alike)
      · unfold Spot.down?
        rw [← alike.here]
        cases s.here.entry? name with
        | none => exact .none
        | some child => exact .some (child_beside alike name child)

theorem entriesFor_beside (alike : s.Alike depth s') (component : Glob) :
    List.Forall₂ (fun entry entry' => Beside depth ([entry.1], entry.2) ([entry'.1], entry'.2))
      (entriesFor component s) (entriesFor component s') := by
  unfold entriesFor
  split
  · rename_i name _
    have step := step_beside alike name
    generalize s.step name = went at step
    generalize s'.step name = went' at step
    cases went <;> cases went' <;> cases step
    · exact .nil
    · exact .cons (by assumption) .nil
  · have matching : ∀ entry entry' : String × Spot, Beside depth ([entry.1], entry.2) ([entry'.1], entry'.2) →
        (component.isMatch entry.1 = true ↔ component.isMatch entry'.1 = true) := by
      rintro entry entry' ⟨same, -⟩
      rw [(List.cons.inj same).1]
    refine List.rel_append (List.rel_filter matching ?_) ?_
    · unfold Spot.children
      rw [← alike.here, List.forall₂_map_left_iff, List.forall₂_map_right_iff, List.forall₂_same]
      exact fun entry _ => child_beside alike entry.1 entry.2
    · unfold special
      rw [← alike.here]
      split
      · exact List.rel_filter matching (.cons (stay_beside alike (.inr rfl)) (.cons (up_beside alike) .nil))
      · exact .nil

theorem below_alike (alike : s.Alike depth s') :
    List.Forall₂ (Under depth) (below s.above s.here) (below s'.above s'.here) :=
  alike.here ▸ below_under depth alike.above s.here

theorem filter_extend_congr {further : Spot → List (List String)} {founds founds' : List (List String × Spot)}
    (beside : List.Forall₂ (Beside depth) founds founds')
    (onwards : ∀ {depth' : Nat} {spot spot' : Spot}, spot.Alike depth' spot' →
      (further spot).filter (staysBelow depth') = (further spot').filter (staysBelow depth')) :
    (extend founds further).filter (staysBelow depth) = (extend founds' further).filter (staysBelow depth) := by
  have behind (way : List String) : (staysBelow depth ∘ (way ++ ·)) =
      fun more => (depthAfter? depth way).any fun depth' => staysBelow depth' more := by
    funext more
    rw [Function.comp, staysBelow, depthAfter?_append]
    cases depthAfter? depth way <;> rfl
  induction beside with
  | nil => rfl
  | @cons found found' founds founds' first _ ih =>
    obtain ⟨way, spot⟩ := found
    obtain ⟨way', spot'⟩ := found'
    obtain ⟨rfl, alike⟩ := first
    simp only [extend, List.flatMap_cons, List.filter_append, List.filter_map, behind] at ih ⊢
    rw [ih]
    congr 2
    cases after : depthAfter? depth way with
    | none => simp
    | some depth' => exact onwards (alike depth' after)

theorem expand_singleton_congr (alike : s.Alike depth s') (component : Glob) :
    expand [component] s = expand [component] s' := by
  rw [expand, expand, ← List.forall₂_eq_eq_eq]
  split
  · rw [List.forall₂_map_left_iff, List.forall₂_map_right_iff]
    refine (List.rel_filter ?_ (below_alike alike)).imp fun _ _ found => found.1
    rintro found found' ⟨-, inside⟩
    simp only [inside.here]
  · rw [List.forall₂_map_left_iff, List.forall₂_map_right_iff]
    exact (entriesFor_beside alike component).imp fun _ _ found => found.1

/-- What is described without leading above depends on what is here, and at some depth on the directories above up to
there. By induction as the pattern is gone through. -/
theorem filter_expand_congr : (components : List Glob) → {depth : Nat} → {s s' : Spot} → s.Alike depth s' →
    (expand components s).filter (staysBelow depth) = (expand components s').filter (staysBelow depth)
  | [], _, _, _, _ => rfl
  | [component], depth, s, s', alike => by rw [expand_singleton_congr alike component]
  | component :: next :: others, depth, s, s', alike => by
    rw [expand, expand]
    split
    · split
      · exact filter_expand_congr (next :: others) alike
      · refine filter_extend_congr ?_ (filter_expand_congr others)
        refine (List.rel_filter ?_ (below_alike alike)).imp fun _ _ => Under.beside
        rintro found found' ⟨way, -⟩
        simp only [way]
    · refine filter_extend_congr ?_ (filter_expand_congr (next :: others))
      rw [List.forall₂_map_left_iff, List.forall₂_map_right_iff]
      exact entriesFor_beside alike component

theorem extend_congr {further : Spot → List (List String)} {founds founds' : List (List String × Spot)}
    (same : List.Forall₂ (fun found found' => found.1 = found'.1 ∧ further found.2 = further found'.2) founds founds') :
    extend founds further = extend founds' further := by
  rw [extend, extend, ← List.forall₂_eq_eq_eq]
  refine List.rel_flatMap same fun found found' ⟨way, onwards⟩ => ?_
  simp [way, onwards]

/-- What is described depends on what is here alone, if no component but the last one describes the directory above. -/
theorem expand_congr {P : Tree → Prop} (inherited : Tree.Inherited P (· ≠ "..")) :
    (components : List Glob) → (∀ component ∈ components.dropLast, component.climbs = false) → {s s' : Spot} →
      s.Throughout P → s.here = s'.here → expand components s = expand components s'
  | [], _, _, _, _, _ => rfl
  | [component], _, s, s', _, same => expand_singleton_congr (show s.Alike 0 s' from ⟨same, rfl⟩) component
  | component :: next :: others, level, s, s', all, same => by
    have alike : s.Alike 0 s' := ⟨same, rfl⟩
    rw [List.dropLast_cons_cons, List.forall_mem_cons] at level
    rw [expand, expand]
    split
    · split
      · exact expand_congr inherited (next :: others) level.2 all same
      · have later : ∀ component ∈ others.dropLast, component.climbs = false := by
          cases others with
          | nil => exact List.forall_mem_nil _
          | cons other others => exact (List.forall_mem_cons.mp level.2).2
        have under : List.Forall₂ (Under 0) ((below s.above s.here).filter fun entry => next.endsWith entry.1)
            ((below s'.above s'.here).filter fun entry => next.endsWith entry.1) := by
          refine List.rel_filter ?_ (below_alike alike)
          rintro found found' ⟨way, -⟩
          simp only [way]
        have leads : ∀ found ∈ (below s.above s.here).filter fun entry => next.endsWith entry.1,
            Leads P (· ≠ "..") found := fun found listed =>
          leads_below inherited all.here all.above found (List.mem_of_mem_filter listed)
        refine extend_congr (((List.forall₂_and_left _ _).mpr ⟨leads, under⟩).imp ?_)
        rintro found found' ⟨led, way, inside⟩
        exact ⟨way, expand_congr inherited others later led.spot inside.here⟩
    · have leads : ∀ entry ∈ entriesFor component s, Leads P (· ≠ "..") ([entry.1], entry.2) :=
        leads_entriesFor inherited (by decide) (by decide) all fun climbs => by simp [level.1] at climbs
      refine extend_congr ?_
      rw [List.forall₂_map_left_iff, List.forall₂_map_right_iff]
      refine ((List.forall₂_and_left _ _).mpr ⟨leads, entriesFor_beside alike component⟩).imp ?_
      rintro entry entry' ⟨led, beside⟩
      exact ⟨beside.1, expand_congr inherited (next :: others) level.2 led.spot (beside.here_eq led.way)⟩

end Beside

end Glob

end Layering
