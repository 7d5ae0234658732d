import Layering.Proofs.Policy.Checked
import Layering.Proofs.Text.Slashed
import Mathlib.Data.List.DropRight

/-! The paths of a policy after they are checked: names with single slashes between them, which lead down from the
project directory. Checking such a path again may still change or refuse it, since blanks and drives are looked for
before segments are dropped. -/
namespace Layering

theorem Text.trim_isInfix (text : String) : (trim text).toList <:+: text.toList := by
  rw [trim, String.toList_ofList]
  exact (List.rdropWhile_prefix isBlank _).isInfix.trans (List.dropWhile_suffix isBlank).isInfix

namespace Policy

/-- A path that leads down from the project directory by names, none of which holds a backslash. -/
structure LeadsDown (path : String) : Prop where
  normal : Path.IsNormal path
  plain : '\\' ∉ path.toList

/-- The characters of a path without blanks at its ends, every backslash taken for a slash. -/
def slashed (value : String) : List Char := (Text.trim value).toList.map fun c => if c = '\\' then '/' else c

/-- The segments of a path but for those that stand for nothing. -/
def properSegments (value : String) : List String :=
  ((Text.segments '/' (slashed value)).map String.ofList).filter fun s => s ≠ "" && s ≠ "."

theorem normalizeRelative_eq_ok {allowRoot : Bool} {value path : String} :
    normalizeRelative allowRoot value = .ok path ↔
      ((slashed value).head? ≠ some '/' ∧ hasDrive (slashed value) = false) ∧ ".." ∉ properSegments value ∧
        (properSegments value = [] → allowRoot = true) ∧ path = Text.join "/" (properSegments value) := by
  have unfolded : normalizeRelative allowRoot value =
      if (slashed value).head? = some '/' ∨ hasDrive (slashed value) then .error .absolute
      else if (properSegments value).contains ".." then .error .parent
      else if (properSegments value).isEmpty ∧ allowRoot = false then .error .empty
      else .ok (Text.join "/" (properSegments value)) := rfl
  rw [unfolded]
  by_cases absolute : (slashed value).head? = some '/' ∨ hasDrive (slashed value) = true
  · rw [if_pos absolute]
    refine iff_of_false (by simp) fun passed => ?_
    rcases absolute with start | drive
    · exact passed.1.1 start
    · simp [drive] at passed
  · rw [if_neg absolute]
    rw [not_or, Bool.not_eq_true] at absolute
    by_cases up : ".." ∈ properSegments value
    · rw [if_pos (List.contains_iff_mem.mpr up)]
      exact iff_of_false (by simp) fun passed => passed.2.1 up
    · rw [if_neg (mt List.contains_iff_mem.mp up)]
      by_cases nowhere : properSegments value = [] ∧ allowRoot = false
      · rw [if_pos (by simpa using nowhere)]
        refine iff_of_false (by simp) fun passed => ?_
        simp [nowhere.2] at passed
        exact passed.2.2.1 nowhere.1
      · rw [if_neg (by simpa using nowhere), Except.ok.injEq, eq_comm]
        simp only [not_and, Bool.not_eq_false] at nowhere
        exact ⟨fun same => ⟨absolute, up, nowhere, same⟩, fun passed => passed.2.2.2⟩

theorem isName_of_mem_properSegments {value segment : String} (down : ".." ∉ properSegments value)
    (listed : segment ∈ properSegments value) : Path.IsName segment := by
  obtain ⟨cut, some?⟩ := List.mem_filter.mp listed
  obtain ⟨piece, inside, rfl⟩ := List.mem_map.mp cut
  simp only [Bool.and_eq_true, decide_eq_true_eq] at some?
  refine ⟨some?.1, some?.2, ?_, ?_⟩
  · rintro up
    exact down (up ▸ listed)
  · simpa using Text.not_mem_of_mem_segments inside

theorem not_mem_of_mem_properSegments {value segment : String} (listed : segment ∈ properSegments value) :
    '\\' ∉ segment.toList := by
  obtain ⟨piece, inside, rfl⟩ := List.mem_map.mp (List.mem_of_mem_filter listed)
  intro member
  have taken := Text.mem_of_mem_segments inside (by simpa using member)
  obtain ⟨c, -, changed⟩ := List.mem_map.mp taken
  by_cases back : c = '\\'
  · simp [back] at changed
  · rw [if_neg back] at changed
    exact back changed

/-- A path that passes leads down, or it is the project directory itself where that is allowed. -/
theorem leadsDown_of_normalizeRelative {allowRoot : Bool} {value path : String}
    (passed : normalizeRelative allowRoot value = .ok path) : path = "" ∧ allowRoot = true ∨ LeadsDown path := by
  obtain ⟨-, down, root, same⟩ := normalizeRelative_eq_ok.mp passed
  rw [same]
  by_cases nowhere : properSegments value = []
  · exact .inl ⟨by simp [nowhere, Text.join], root nowhere⟩
  · have names : ∀ segment ∈ properSegments value, Path.IsName segment := fun _ => isName_of_mem_properSegments down
    refine .inr ⟨?_, fun member => ?_⟩
    · rw [Path.IsNormal, Text.split_join nowhere fun segment listed => (names segment listed).whole]
      exact names
    · rcases Text.mem_join member with between | ⟨segment, listed, inside⟩
      · simp at between
      · exact not_mem_of_mem_properSegments listed inside

section Again

variable {allowRoot : Bool} {value path : String}

/-- A text without blanks at its ends and without backslashes is taken as it is. -/
theorem slashed_of_plain (trimmed : Text.trim path = path) (plain : '\\' ∉ path.toList) :
    slashed path = path.toList := by
  rw [slashed, trimmed]
  refine (List.map_congr_left fun c member => ?_).trans (List.map_id _)
  have other : c ≠ '\\' := fun same => plain (same ▸ member)
  rw [if_neg other, id]

theorem properSegments_of_slashed (same : slashed path = path.toList) :
    properSegments path = (Text.split '/' path).filter fun s => s ≠ "" && s ≠ "." := by
  rw [properSegments, same, Text.split]

/-- Dropping segments and blanks makes a text no longer. -/
theorem length_join_properSegments_le (value : String) :
    (Text.join "/" (properSegments value)).length ≤ (Text.trim value).length := by
  have kept := Text.length_join_le_of_sublist "/" (List.filter_sublist (p := fun s => s ≠ "" && s ≠ ".")
    (l := (Text.segments '/' (slashed value)).map String.ofList))
  rw [Text.join_segments, slashed, String.length_ofList, List.length_map, String.length_toList] at kept
  exact kept

theorem LeadsDown.passes (down : LeadsDown path) (trimmed : Text.trim path = path)
    (relative : hasDrive path.toList = false) : normalizeRelative allowRoot path = .ok path := by
  have same := slashed_of_plain trimmed down.plain
  have segments : properSegments path = Text.split '/' path := by
    rw [properSegments_of_slashed same]
    refine List.filter_eq_self.mpr fun segment listed => ?_
    have name := down.normal segment listed
    simp [name.some?, name.notHere]
  refine normalizeRelative_eq_ok.mpr ⟨⟨fun start => ?_, same ▸ relative⟩, fun up => ?_, fun none => ?_, ?_⟩
  · have absolute : Path.isAbsolute ⟨path⟩ = true := by simpa [Path.isAbsolute, same] using start
    exact (down.normal "" (List.mem_of_head? (Path.head?_split_of_isAbsolute absolute))).some? rfl
  · exact (down.normal ".." (segments ▸ up)).notUp rfl
  · exact absurd (segments ▸ none) (Text.split_ne_nil '/' path)
  · rw [segments, Text.join_split]

/-- A path that passed passes again as it is exactly if it has no blanks at its ends and does not start with a drive. -/
theorem normalizeRelative_stable_iff (passed : normalizeRelative allowRoot value = .ok path) :
    normalizeRelative allowRoot path = .ok path ↔ Text.trim path = path ∧ hasDrive path.toList = false := by
  rcases leadsDown_of_normalizeRelative passed with ⟨rfl, rfl⟩ | down
  · exact iff_of_true rfl ⟨rfl, rfl⟩
  refine ⟨fun again => ?_, fun ⟨trimmed, relative⟩ => down.passes trimmed relative⟩
  obtain ⟨⟨-, relative⟩, -, -, whole⟩ := normalizeRelative_eq_ok.mp again
  have trimmed : Text.trim path = path := by
    have length := length_join_properSegments_le path
    rw [← whole] at length
    rw [← String.length_toList, ← String.length_toList] at length
    exact String.toList_inj.mp ((Text.trim_isInfix path).eq_of_length_le length)
  exact ⟨trimmed, slashed_of_plain trimmed down.plain ▸ relative⟩

theorem normalizeRelative_stable_core : normalizeRelative false " ./src\\core/ " = .ok "src/core" ∧
    normalizeRelative false "src/core" = .ok "src/core" := by
  have passed : normalizeRelative false " ./src\\core/ " = .ok "src/core" := by decide +kernel
  exact ⟨passed, (normalizeRelative_stable_iff passed).mpr (by decide +kernel)⟩

/-- Behind a dot a drive is let through that is refused at the start, and a blank stays that is trimmed there. -/
theorem normalizeRelative_not_stable :
    (normalizeRelative false "./ src" = .ok " src" ∧ normalizeRelative false " src" = .ok "src") ∧
      (normalizeRelative false "./C:/src" = .ok "C:/src" ∧ normalizeRelative false "C:/src" = .error .absolute) := by
  decide +kernel

end Again

theorem relativeAt_eq_ok {place : Place} {allowRoot : Bool} {value path : String} :
    relativeAt place allowRoot value = .ok path ↔ normalizeRelative allowRoot value = .ok path :=
  mapError_eq_ok

end Policy

end Layering
