import Layering.Proofs.Glob.Escaping

/-! The names on the ways that a pattern describes. What holds of all names of entries and of dots holds of them, since
going on from a place leads to an entry, to the place itself or, where a component spells the dot, to the one above. -/
namespace Layering

/-- A property of trees that their entries inherit and that gives the entries names with another property. -/
structure Tree.Inherited (P : Tree → Prop) (Q : String → Prop) : Prop where
  name : ∀ {t : Tree} {entry : String × Tree}, P t → entry ∈ t.entries → Q entry.1
  tree : ∀ {t : Tree} {entry : String × Tree}, P t → entry ∈ t.entries → P entry.2

theorem Tree.Inherited.imp {P : Tree → Prop} {Q R : String → Prop} (inherited : Inherited P Q)
    (weaker : ∀ name, Q name → R name) : Inherited P R :=
  ⟨fun here listed => weaker _ (inherited.name here listed), inherited.tree⟩

/-- Whether what is here and all that is above have a property. -/
structure Spot.Throughout (P : Tree → Prop) (s : Spot) : Prop where
  here : P s.here
  above : ∀ t ∈ s.above, P t

variable {P : Tree → Prop} {Q : String → Prop} (inherited : Tree.Inherited P Q)

namespace Spot.Throughout

variable {s child : Spot}

theorem up (all : s.Throughout P) : s.up.Throughout P := by
  obtain ⟨here, above⟩ := all
  unfold Spot.up
  split
  · exact ⟨here, above⟩
  · rename_i parent others spelt
    rw [spelt] at above
    exact ⟨above parent List.mem_cons_self, fun t listed => above t (List.mem_cons_of_mem _ listed)⟩

include inherited

theorem children (all : s.Throughout P) {entry : String × Spot} (listed : entry ∈ s.children) :
    Q entry.1 ∧ entry.2.Throughout P := by
  obtain ⟨⟨name, child⟩, member, rfl⟩ := List.mem_map.mp listed
  exact ⟨inherited.name all.here member, inherited.tree all.here member, List.forall_mem_cons.mpr ⟨all.here, all.above⟩⟩

theorem down? (all : s.Throughout P) {name : String} (found : s.down? name = some child) :
    Q name ∧ child.Throughout P := by
  obtain ⟨entry, first, rfl⟩ := Option.map_eq_some_iff.mp found
  obtain ⟨before, after, spelt, -⟩ := List.lookup_eq_some_iff.mp first
  have listed : (name, entry) ∈ s.here.entries := by simp [spelt]
  exact ⟨inherited.name all.here listed, inherited.tree all.here listed, List.forall_mem_cons.mpr ⟨all.here, all.above⟩⟩

theorem step (all : s.Throughout P) {segment : String} (went : s.step segment = .ok child) :
    (segment = "" ∨ segment = "." ∨ segment = ".." ∨ Q segment) ∧ child.Throughout P := by
  unfold Spot.step at went
  split at went
  · cases went
  · split at went
    · rename_i still
      exact ⟨still.imp_right .inl, Except.ok.inj went ▸ all⟩
    · split at went
      · rename_i up
        exact ⟨.inr (.inr (.inl up)), Except.ok.inj went ▸ all.up⟩
      · split at went
        · rename_i next found
          obtain ⟨named, inside⟩ := all.down? inherited found
          exact ⟨.inr (.inr (.inr named)), Except.ok.inj went ▸ inside⟩
        · cases went

theorem run (all : s.Throughout P) {segments : List String} (went : segments.foldlM Spot.step s = .ok child) :
    child.Throughout P :=
  Policy.foldlM_invariant (Spot.Throughout P) (fun _ _ _ here went => (here.step inherited went).2) all went

end Spot.Throughout

namespace Glob

/-- Whether a component describes the directory above. -/
def climbs (component : Glob) : Bool := component.tokens.head? = some (.char '.') && component.isMatch ".."

theorem climbs_of_literal? {component : Glob} (up : literal? component = some "..") : component.climbs = true := by
  have tokens := literal?_eq_some.mp up
  rw [climbs, isMatch, tokens]
  decide

/-- A way by names with a property to a place where all names have it. -/
structure Leads (P : Tree → Prop) (Q : String → Prop) (found : List String × Spot) : Prop where
  way : ∀ name ∈ found.1, Q name
  spot : found.2.Throughout P

variable {components : List Glob} {s : Spot}

mutual

theorem leads_below (inherited : Tree.Inherited P Q) {above : List Tree} {t : Tree} (here : P t)
    (above' : ∀ t ∈ above, P t) : ∀ found ∈ below above t, Leads P Q found := by
  cases t with
  | file bytes => simp [below]
  | directory entries =>
    rw [below]
    exact leads_belowAmong inherited (fun _ listed => inherited.name here listed)
      (fun _ listed => inherited.tree here listed) (List.forall_mem_cons.mpr ⟨here, above'⟩)

theorem leads_belowAmong (inherited : Tree.Inherited P Q) {above : List Tree} {entries : List (String × Tree)}
    (names : ∀ entry ∈ entries, Q entry.1) (inside : ∀ entry ∈ entries, P entry.2) (above' : ∀ t ∈ above, P t) :
    ∀ found ∈ belowAmong above entries, Leads P Q found := by
  cases entries with
  | nil => simp [belowAmong]
  | cons entry entries =>
    obtain ⟨name, child⟩ := entry
    obtain ⟨named, names'⟩ := List.forall_mem_cons.mp names
    obtain ⟨here, inside'⟩ := List.forall_mem_cons.mp inside
    rw [belowAmong]
    refine List.forall_mem_append.mpr ⟨List.forall_mem_cons.mpr ⟨⟨by simpa using named, here, above'⟩, ?_⟩, ?_⟩
    · rintro _ member
      obtain ⟨⟨way, spot⟩, found, rfl⟩ := List.mem_map.mp member
      obtain ⟨further, there⟩ := leads_below inherited here above' _ found
      exact ⟨List.forall_mem_cons.mpr ⟨named, further⟩, there⟩
    · exact leads_belowAmong inherited names' inside' above'

end

theorem way_of_extend {found : List (List String × Spot)} {further : Spot → List (List String)}
    (leads : ∀ entry ∈ found, Leads P Q entry)
    (onwards : ∀ {spot : Spot}, spot.Throughout P → ∀ way ∈ further spot, ∀ name ∈ way, Q name) :
    ∀ way ∈ extend found further, ∀ name ∈ way, Q name := by
  intro way listed
  obtain ⟨⟨front, spot⟩, member, listed⟩ := List.mem_flatMap.mp listed
  obtain ⟨more, later, rfl⟩ := List.mem_map.mp listed
  obtain ⟨way, here⟩ := leads _ member
  exact List.forall_mem_append.mpr ⟨way, onwards here more later⟩

variable (empty : Q "") (here : Q ".")

include inherited empty here

theorem leads_entriesFor (all : s.Throughout P) {component : Glob} (up : component.climbs = true → Q "..") :
    ∀ entry ∈ entriesFor component s, Leads P Q ([entry.1], entry.2) := by
  have leads {entry : String × Spot} (found : Q entry.1 ∧ entry.2.Throughout P) : Leads P Q ([entry.1], entry.2) :=
    ⟨by simpa using found.1, found.2⟩
  unfold entriesFor
  split
  · rename_i name literal
    cases went : s.step name with
    | error e => simp
    | ok child =>
      intro entry listed
      obtain rfl := List.mem_singleton.mp listed
      obtain ⟨named, there⟩ := all.step inherited went
      refine leads ⟨?_, there⟩
      rcases named with rfl | rfl | rfl | named
      · exact empty
      · exact here
      · exact up (climbs_of_literal? literal)
      · exact named
  · refine List.forall_mem_append.mpr
      ⟨fun entry listed => leads (all.children inherited (List.mem_of_mem_filter listed)), ?_⟩
    unfold special
    split
    · rename_i spelt
      intro entry listed
      obtain ⟨listed, described⟩ := List.mem_filter.mp listed
      rcases List.mem_pair.mp listed with rfl | rfl
      · exact leads ⟨here, all⟩
      · exact leads ⟨up (by rw [climbs, described, decide_eq_true spelt.2, Bool.and_true]), all.up⟩
    · simp

/-- The ways that a pattern describes are made of names of entries and of dots. By induction as the pattern is gone
through: a component that stands for directories takes the next one with it. -/
theorem way_of_expand (up : Q "..") : (components : List Glob) → {s : Spot} → s.Throughout P →
    ∀ way ∈ expand components s, ∀ name ∈ way, Q name
  | [], _, _ => by simp [expand]
  | [component], s, all => by
    rw [expand]
    split
    · intro way listed
      obtain ⟨entry, found, rfl⟩ := List.mem_map.mp listed
      exact (leads_below inherited all.here all.above entry (List.mem_of_mem_filter found)).way
    · intro way listed
      obtain ⟨entry, found, rfl⟩ := List.mem_map.mp listed
      exact (leads_entriesFor inherited empty here all (fun _ => up) entry found).way
  | component :: next :: others, s, all => by
    rw [expand]
    split
    · split
      · exact way_of_expand up (next :: others) all
      · refine way_of_extend (fun entry found => ?_) (way_of_expand up others)
        exact leads_below inherited all.here all.above entry (List.mem_of_mem_filter found)
    · refine way_of_extend (fun entry found => ?_) (way_of_expand up (next :: others))
      obtain ⟨⟨name, child⟩, listed, rfl⟩ := List.mem_map.mp found
      exact leads_entriesFor inherited empty here all (fun _ => up) _ listed

end Glob

end Layering
