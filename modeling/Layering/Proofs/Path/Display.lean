import Layering.Proofs.Path
import Layering.Proofs.ReportOrder

/-! Paths as they are shown. The parts of a path can be read off what is shown of it: a dot at its start is shown like a
name, and the slash of an absolute path has one more slash behind it. Hence two paths are shown alike exactly if they have
the same parts, and these are what their texts have in common up to slashes and dots without a meaning. -/
namespace Layering.Path

section Shown

/-- A dot at the start stays there when it is shown before the steps. -/
theorem AreSteps.parts_displayParts_here {parts : List Part} (steps : AreSteps parts) :
    Path.parts ⟨displayParts (.here :: parts)⟩ = .here :: parts := by
  cases parts with
  | nil => decide
  | cons part rest =>
    have spelt : displayParts (.here :: part :: rest) = "." ++ "/" ++ displayParts (part :: rest) := rfl
    have cut : Text.split '/' (displayParts (.here :: part :: rest)) =
        "." :: Text.split '/' (displayParts (part :: rest)) := by
      rw [spelt, Text.split_append_slash]
      rfl
    have relative : ¬isAbsolute ⟨displayParts (.here :: part :: rest)⟩ = true := fun absolute => by
      have first := head?_split_of_isAbsolute absolute
      simp [cut] at first
    have still : Part.ofSegment? "." = none := by decide
    have later : (Text.split '/' (displayParts (part :: rest))).filterMap Part.ofSegment? = part :: rest :=
      steps.steps_displayParts
    rw [Path.parts, if_neg relative, cut, List.head?_cons, if_pos rfl, List.filterMap_cons_none still, later]

/-- Read as a path, what is shown of a path has the same parts. -/
theorem parts_display (p : Path) : parts ⟨p.display⟩ = p.parts := by
  rw [display, parts_eq_lead_append p, lead]
  split
  · exact (AreParts.absolute (areSteps p)).parts_displayParts
  · split
    · exact (areSteps p).parts_displayParts_here
    · exact (AreParts.relative (areSteps p)).parts_displayParts

theorem display_eq_iff {p q : Path} : p.display = q.display ↔ p.parts = q.parts := by
  constructor
  · intro shown
    rw [← parts_display p, shown, parts_display q]
  · intro same
    rw [display, same, display]

end Shown

section Components

/-- The segments of a path that lead somewhere: neither empty nor a dot. -/
def movingSegments (p : Path) : List String := (Text.split '/' p.text).filter fun s => s ≠ "" && s ≠ "."

/-- The first segment of the path is a dot. -/
def StartsWithDot (p : Path) : Prop := (Text.split '/' p.text).head? = some "."

/-- Two texts are the same path: both start with a slash or neither does, both start with a dot or neither does, and they
have the same segments but for empty ones and dots. -/
structure SameComponents (p q : Path) : Prop where
  slash : p.isAbsolute = q.isAbsolute
  dot : p.StartsWithDot ↔ q.StartsWithDot
  segments : p.movingSegments = q.movingSegments

theorem steps_eq_filterMap_movingSegments (p : Path) : p.steps = p.movingSegments.filterMap Part.ofSegment? := by
  rw [movingSegments, List.filterMap_filter, steps]
  refine List.filterMap_congr fun segment _ => ?_
  by_cases still : segment = "" ∨ segment = "."
  · rcases still with rfl | rfl <;> rfl
  · rw [not_or] at still
    simp [still]

theorem steps_eq_iff {p q : Path} : p.steps = q.steps ↔ p.movingSegments = q.movingSegments := by
  constructor
  · intro same
    rw [movingSegments, movingSegments, ← map_text_steps, ← map_text_steps, same]
  · intro same
    rw [steps_eq_filterMap_movingSegments, same, steps_eq_filterMap_movingSegments]

theorem root_mem_parts {p : Path} : .root ∈ p.parts ↔ p.isAbsolute = true :=
  ⟨isAbsolute_of_root_mem, fun absolute => parts_of_isAbsolute absolute ▸ List.mem_cons_self⟩

theorem here_mem_parts {p : Path} : .here ∈ p.parts ↔ p.StartsWithDot := by
  rw [parts_eq_lead_append, List.mem_append, or_iff_left (areSteps p).here_notMem, lead, StartsWithDot]
  split
  · rename_i absolute
    simp [head?_split_of_isAbsolute absolute]
  · split <;> simp [*]

/-- What a path starts with is no step, so that it can be told from the steps. -/
theorem parts_eq_iff {p q : Path} : p.parts = q.parts ↔ SameComponents p q := by
  have leads (slash : p.isAbsolute = q.isAbsolute) (dot : p.StartsWithDot ↔ q.StartsWithDot) : p.lead = q.lead := by
    rw [StartsWithDot, StartsWithDot] at dot
    simp only [lead, slash, dot]
  constructor
  · intro same
    have slash : p.isAbsolute = q.isAbsolute := by
      rw [Bool.eq_iff_iff, ← root_mem_parts, ← root_mem_parts, same]
    have dot : p.StartsWithDot ↔ q.StartsWithDot := by
      rw [← here_mem_parts, ← here_mem_parts, same]
    rw [parts_eq_lead_append, parts_eq_lead_append, leads slash dot] at same
    exact ⟨slash, dot, steps_eq_iff.mp (List.append_cancel_left same)⟩
  · rintro ⟨slash, dot, segments⟩
    rw [parts_eq_lead_append, parts_eq_lead_append, leads slash dot, steps_eq_iff.mpr segments]

end Components

/-- What is shown of a path stands for it. Two paths are shown alike exactly if they have the same components, which is
when they count as the same place and neither comes before the other, and what is shown is shown as it is. -/
theorem display_faithful (p q : Path) :
    (p.display = q.display ↔ SameComponents p q) ∧ (p.same q = true ↔ SameComponents p q) ∧
      (p.compare q = .eq ↔ SameComponents p q) ∧ display ⟨p.display⟩ = p.display :=
  ⟨display_eq_iff.trans parts_eq_iff, same_iff.trans parts_eq_iff, compare_eq_iff.trans parts_eq_iff,
    display_eq_iff.mpr (parts_display p)⟩

/-- A dot at the start is shown, whereas inner dots and repeated slashes are not. -/
example : display ⟨"./src//a/.."⟩ = "./src/a/.." ∧ display ⟨"src/./a/../"⟩ = "src/a/.." ∧ display ⟨"/src"⟩ = "//src" := by
  decide +kernel

end Layering.Path
