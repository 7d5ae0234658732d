import Layering.Proofs.Text.Slashed
import Layering.Resolution
import Mathlib.Data.List.Induction

/-! Paths without dots. The segments of a path lead down by names and up again; a path that never leads out of the
directory it starts in has the names that are left as its form without dots, and any other path has none. -/
namespace Layering

namespace Path

variable {segments names : List String}

/-- What a segment is that leads nowhere. -/
def IsStill (segment : String) : Prop := segment = "" ∨ segment = "."

instance (segment : String) : Decidable (IsStill segment) := by
  unfold IsStill; infer_instance

/-- The names by which segments lead down, when they are followed one after the other from a directory that they do
not lead out of. -/
inductive Leads : List String → List String → Prop
  | start : Leads [] []
  | stay {segments names : List String} {segment : String} (before : Leads segments names) (still : IsStill segment) :
      Leads (segments ++ [segment]) names
  | down {segments names : List String} {segment : String} (before : Leads segments names)
      (moves : ¬IsStill segment) (notUp : segment ≠ "..") : Leads (segments ++ [segment]) (names ++ [segment])
  | up {segments names : List String} {name : String} (before : Leads segments (names ++ [name])) :
      Leads (segments ++ [".."]) names

/-- How many segments lead down. -/
def descents (segments : List String) : Nat := segments.countP fun segment => ¬IsStill segment ∧ segment ≠ ".."

/-- At some point, more segments have led up than down. -/
def Climbs (segments : List String) : Prop := ∃ before, before <+: segments ∧ descents before < before.count ".."

theorem IsStill.ne_up {segment : String} (still : IsStill segment) : segment ≠ ".." := by
  rcases still with rfl | rfl <;> decide

/-- The names left over are those led down by but not up again. -/
theorem Leads.balance (leads : Leads segments names) : names.length + segments.count ".." = descents segments := by
  induction leads with
  | start => rfl
  | stay before still ih => simpa [descents, still, still.ne_up, List.count_singleton] using ih
  | down before moves notUp ih =>
    simp [descents, moves, notUp] at ih ⊢
    omega
  | up before ih =>
    simp [descents] at ih ⊢
    omega

/-- Segments that lead somewhere have done so all the way. -/
theorem Leads.of_start (leads : Leads segments names) {before : List String} (start : before <+: segments) :
    ∃ names, Leads before names := by
  induction leads with
  | start => exact ⟨[], List.prefix_nil.mp start ▸ .start⟩
  | stay earlier still ih =>
    rcases List.prefix_concat_iff.mp start with rfl | start
    · exact ⟨_, earlier.stay still⟩
    · exact ih start
  | down earlier moves notUp ih =>
    rcases List.prefix_concat_iff.mp start with rfl | start
    · exact ⟨_, earlier.down moves notUp⟩
    · exact ih start
  | up earlier ih =>
    rcases List.prefix_concat_iff.mp start with rfl | start
    · exact ⟨_, earlier.up⟩
    · exact ih start

theorem Leads.not_climbs (leads : Leads segments names) : ¬Climbs segments := by
  rintro ⟨before, start, fewer⟩
  obtain ⟨earlier, on⟩ := leads.of_start start
  have balance := on.balance
  omega

theorem leads_or_climbs (segments : List String) : (∃ names, Leads segments names) ∨ Climbs segments := by
  induction segments using List.reverseRecOn with
  | nil => exact .inl ⟨[], .start⟩
  | append_singleton segments segment ih =>
    rcases ih with ⟨names, before⟩ | ⟨before, start, fewer⟩
    · by_cases still : IsStill segment
      · exact .inl ⟨names, before.stay still⟩
      · by_cases up : segment = ".."
        · subst up
          rcases names.eq_nil_or_concat with rfl | ⟨outer, name, rfl⟩
          · have balance : segments.count ".." = descents segments := by simpa using before.balance
            refine .inr ⟨segments ++ [".."], List.prefix_rfl, ?_⟩
            simp [descents] at balance ⊢
            omega
          · exact .inl ⟨outer, .up (by simpa using before)⟩
        · exact .inl ⟨names ++ [segment], before.down still up⟩
    · exact .inr ⟨before, start.trans (List.prefix_append segments [segment]), fewer⟩

/-- A stack of parts after a segment. -/
theorem foldl_concat (segments : List String) (segment : String) :
    ((segments ++ [segment]).filterMap Part.ofSegment?).foldl pushClean [] =
      (Part.ofSegment? segment).toList.foldl pushClean
        ((segments.filterMap Part.ofSegment?).foldl pushClean []) := by
  rw [List.filterMap_append, List.foldl_append]
  cases read : Part.ofSegment? segment <;> simp [read]

theorem Leads.foldl (leads : Leads segments names) :
    (segments.filterMap Part.ofSegment?).foldl pushClean [] = (names.map Part.name).reverse := by
  induction leads with
  | start => rfl
  | @stay _ _ segment before still ih =>
    have nothing : Part.ofSegment? segment = none := if_pos still
    rw [foldl_concat, ih, nothing, Option.toList_none, List.foldl_nil]
  | @down _ _ segment before moves notUp ih =>
    have part : Part.ofSegment? segment = some (.name segment) := by
      rw [Part.ofSegment?, if_neg (by exact moves), if_neg notUp]
    rw [foldl_concat, ih, part, Option.toList_some, List.map_append, List.reverse_append]
    rfl
  | @up _ _ name before ih =>
    rw [foldl_concat, ih, List.map_append, List.reverse_append]
    rfl

/-- Two dots that lead out stay at the start. -/
theorem up_mem_of_climbs (climbs : Climbs segments) :
    .up ∈ (segments.filterMap Part.ofSegment?).foldl pushClean [] := by
  induction segments using List.reverseRecOn with
  | nil =>
    obtain ⟨before, start, fewer⟩ := climbs
    simp [List.prefix_nil.mp start] at fewer
  | append_singleton segments segment ih =>
    rw [foldl_concat]
    rcases leads_or_climbs segments with ⟨names, leads⟩ | earlier
    · rw [leads.foldl]
      by_cases still : IsStill segment
      · exact absurd climbs (leads.stay still).not_climbs
      · by_cases up : segment = ".."
        · subst up
          rcases names.eq_nil_or_concat with rfl | ⟨outer, name, rfl⟩
          · exact List.mem_singleton.mpr rfl
          · have on : Leads (segments ++ [".."]) outer := .up (by simpa using leads)
            exact absurd climbs on.not_climbs
        · exact absurd climbs (leads.down still up).not_climbs
    · exact up_mem_foldl (ih earlier)

/-- Nothing takes the start of an absolute path away. -/
theorem root_mem_foldl {stack parts : List Part} (bottom : .root ∈ stack) :
    .root ∈ parts.foldl pushClean stack := by
  induction parts generalizing stack with
  | nil => exact bottom
  | cons part parts ih =>
    refine ih ?_
    cases part with
    | here => exact bottom
    | root | name => exact List.mem_cons_of_mem _ bottom
    | up =>
      cases stack with
      | nil => cases bottom
      | cons top stack => cases top <;> simp_all [pushClean]

/-- Segments of a path lead down by names that entries of directories may have. -/
theorem Leads.isName (leads : Leads segments names) (whole : ∀ segment ∈ segments, '/' ∉ segment.toList) :
    ∀ name ∈ names, IsName name := by
  induction leads with
  | start => simp
  | stay before still ih => exact ih fun segment listed => whole segment (List.mem_append_left _ listed)
  | @down _ _ segment before moves notUp ih =>
    refine List.forall_mem_append.mpr ⟨ih fun segment listed => whole segment (List.mem_append_left _ listed), ?_⟩
    rw [IsStill, not_or] at moves
    simpa using ⟨moves.1, moves.2, notUp, whole segment (List.mem_append_right _ (List.mem_singleton.mpr rfl))⟩
  | up before ih =>
    exact (List.forall_mem_append.mp (ih fun segment listed => whole segment (List.mem_append_left _ listed))).1

/-- The form of a path without dots. -/
def IsForm (path form : String) : Prop :=
  isAbsolute ⟨path⟩ = false ∧ ∃ names, Leads (Text.split '/' path) names ∧ form = Text.join "/" names

/-- A path that names no place below the directory it starts in. -/
def LeadsOut (path : String) : Prop := isAbsolute ⟨path⟩ = true ∨ Climbs (Text.split '/' path)

theorem isForm_or_leadsOut (path : String) : (∃ form, IsForm path form) ∨ LeadsOut path := by
  rcases Bool.eq_false_or_eq_true (isAbsolute ⟨path⟩) with absolute | relative
  · exact .inr (.inl absolute)
  · rcases leads_or_climbs (Text.split '/' path) with ⟨names, leads⟩ | climbs
    · exact .inl ⟨_, relative, names, leads, rfl⟩
    · exact .inr (.inr climbs)

section Extending

/-- A name with an extension is a name. -/
theorem isName_append {name tail : String} (proper : IsName name) (long : 2 ≤ tail.length)
    (whole : '/' ∉ tail.toList) : IsName (name ++ tail) := by
  have length : 3 ≤ (name ++ tail).length := by
    have some? : name.length ≠ 0 := by
      rw [← String.length_toList]
      simpa using proper.some?
    rw [String.length_append]
    omega
  refine ⟨?_, ?_, ?_, ?_⟩
  · intro same
    simp [same] at length
  · intro same
    rw [same] at length
    exact absurd length (by decide)
  · intro same
    rw [same] at length
    exact absurd length (by decide)
  · simpa using ⟨proper.whole, whole⟩

theorem isNormal_name {name : String} (proper : IsName name) : IsNormal name := by
  rw [IsNormal, Text.split_of_not_mem proper.whole]
  simpa using proper

theorem isNormal_slash {directory name : String} (whole : '/' ∉ name.toList) :
    IsNormal (directory ++ "/" ++ name) ↔ IsNormal directory ∧ IsName name := by
  rw [IsNormal, Text.split_append_slash, Text.split_of_not_mem whole, List.forall_mem_append]
  simp [IsNormal]

theorem isNormal_append {form tail : String} (normal : IsNormal form) (long : 2 ≤ tail.length)
    (whole : '/' ∉ tail.toList) : IsNormal (form ++ tail) := by
  rcases Text.liesIn_parent form with ⟨single, -⟩ | ⟨name, single, spelt⟩
  · rw [IsNormal, Text.split_of_not_mem single] at normal
    exact isNormal_name (isName_append (normal form (List.mem_singleton.mpr rfl)) long whole)
  · rw [spelt, isNormal_slash single] at normal
    have proper := isName_append normal.2 long whole
    rw [spelt, String.append_assoc, isNormal_slash proper.whole]
    exact ⟨normal.1, proper⟩

theorem IsNormal.ne_empty {form : String} (normal : IsNormal form) : form ≠ "" := by
  rintro rfl
  exact (normal "" (List.mem_singleton.mpr rfl)).some? rfl

theorem IsNormal.displayParts_steps {path : String} (normal : IsNormal path) : displayParts (steps ⟨path⟩) = path := by
  have names := steps_names normal
  rw [Text.join_split] at names
  rw [names, displayParts, List.map_map]
  exact (congrArg (Text.join "/") (List.map_id _)).trans (Text.join_split path)

/-- Below normal paths, one name leads to one place only from one path. -/
theorem IsNormal.eq_of_parts_slash {root root' name : String} (normal : IsNormal root) (normal' : IsNormal root')
    (same : parts ⟨root ++ "/" ++ name⟩ = parts ⟨root' ++ "/" ++ name⟩) : root = root' := by
  have start {root : String} (normal : IsNormal root) :
      ∀ segment ∈ (Text.split '/' (root ++ "/" ++ name)).head?, IsName segment := by
    obtain ⟨first, later, cut⟩ := List.exists_cons_of_ne_nil (Text.split_ne_nil '/' root)
    rw [Text.split_append_slash, cut]
    intro segment same
    obtain rfl : first = segment := by simpa using same
    exact normal first (cut ▸ List.mem_cons_self)
  rw [parts_eq_steps (start normal), parts_eq_steps (start normal'), steps_append_slash, steps_append_slash] at same
  rw [← normal.displayParts_steps, List.append_cancel_right same, normal'.displayParts_steps]

end Extending

theorem IsForm.inProject?_eq {path form : String} (is : IsForm path form) : inProject? path = some form := by
  obtain ⟨relative, names, leads, rfl⟩ := is
  have parts : cleanParts (Path.parts ⟨path⟩) = names.map .name := by
    rw [cleanParts_of_relative relative, cleanParts, steps, leads.foldl, List.reverse_reverse]
  have texts : (names.map Part.name).map Part.text = names := by
    simp [Function.comp_def, Part.text]
  simp [inProject?, parts, displayParts, Part.isName, texts]

theorem LeadsOut.inProject?_eq {path : String} (out : LeadsOut path) : inProject? path = none := by
  have other : ∃ part ∈ cleanParts (Path.parts ⟨path⟩), Part.isName part = false := by
    rcases Bool.eq_false_or_eq_true (isAbsolute ⟨path⟩) with absolute | relative
    · refine ⟨.root, ?_, rfl⟩
      rw [parts_of_isAbsolute absolute, cleanParts, List.mem_reverse, List.foldl_cons]
      exact root_mem_foldl (List.mem_singleton.mpr rfl)
    · refine ⟨.up, ?_, rfl⟩
      rw [cleanParts_of_relative relative, cleanParts, List.mem_reverse]
      exact up_mem_of_climbs (out.resolve_left (by simp [relative]))
  rw [inProject?, if_neg]
  simpa using other

/-- A form without dots is that of the project directory itself, or names lead down to it. -/
theorem IsForm.normal {path form : String} (is : IsForm path form) : form = "" ∨ IsNormal form := by
  obtain ⟨-, names, leads, rfl⟩ := is
  have proper := leads.isName fun segment cut => by
    obtain ⟨piece, listed, rfl⟩ := List.mem_map.mp cut
    simpa using Text.not_mem_of_mem_segments listed
  cases names with
  | nil => exact .inl rfl
  | cons name names =>
    refine .inr ?_
    rwa [IsNormal, Text.split_join (by simp) fun name listed => (proper name listed).whole]

end Path

end Layering
