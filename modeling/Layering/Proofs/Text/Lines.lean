import Layering.Proofs.Path
import Layering.Proofs.Text.Slashed

/-! Texts made of lines. Cutting such a text at its line breaks gives back the lines it was made of exactly if none of
them has a line break in it, and that can be told from their number alone. -/
namespace Layering

namespace Text

/-- The text with the given lines, each ended by a line break. -/
def ofLines (lines : List String) : String := String.join (lines.map (· ++ "\n"))

/-- A text without line breaks. -/
def OneLine (text : String) : Prop := '\n' ∉ text.toList

instance (text : String) : Decidable (OneLine text) := inferInstanceAs (Decidable ¬_)

@[simp] theorem ofLines_nil : ofLines [] = "" := rfl

@[simp] theorem ofLines_cons (line : String) (lines : List String) :
    ofLines (line :: lines) = line ++ "\n" ++ ofLines lines := by
  rw [ofLines, List.map_cons, String.join_cons, ← ofLines]

@[simp] theorem ofLines_append (lines more : List String) :
    ofLines (lines ++ more) = ofLines lines ++ ofLines more := by
  rw [ofLines, List.map_append, String.join_append, ← ofLines, ← ofLines]

theorem ofLines_flatMap (items : List α) (f : α → List String) :
    ofLines (items.flatMap f) = String.join (items.map fun a => ofLines (f a)) := by
  induction items with
  | nil => rfl
  | cons a items ih => rw [List.flatMap_cons, ofLines_append, ih, List.map_cons, String.join_cons]

/-- Every line has its own break, and those that stand in the lines come on top. -/
theorem count_ofLines_cons (line : String) (lines : List String) : (ofLines (line :: lines)).toList.count '\n' =
    line.toList.count '\n' + (ofLines lines).toList.count '\n' + 1 := by
  have own : "\n".toList.count '\n' = 1 := by decide
  simp only [ofLines_cons, String.toList_append, List.count_append, own]
  omega

theorem length_le_count_ofLines (lines : List String) : lines.length ≤ (ofLines lines).toList.count '\n' := by
  induction lines with
  | nil => exact Nat.zero_le _
  | cons line lines ih =>
    rw [count_ofLines_cons, List.length_cons]
    omega

theorem count_ofLines_eq_iff {lines : List String} :
    (ofLines lines).toList.count '\n' = lines.length ↔ ∀ line ∈ lines, OneLine line := by
  induction lines with
  | nil => exact iff_of_true rfl (by simp)
  | cons line lines ih =>
    have here : OneLine line ↔ line.toList.count '\n' = 0 := List.count_eq_zero.symm
    have later := length_le_count_ofLines lines
    rw [List.forall_mem_cons, here, ← ih, count_ofLines_cons, List.length_cons]
    omega

theorem oneLine_of_mem_split {text piece : String} (listed : piece ∈ split '\n' text) : OneLine piece := by
  obtain ⟨cs, cut, rfl⟩ := List.mem_map.mp listed
  rw [OneLine, String.toList_ofList]
  exact not_mem_of_mem_segments cut

theorem split_ofLines {lines : List String} :
    split '\n' (ofLines lines) = lines ++ [""] ↔ ∀ line ∈ lines, OneLine line := by
  refine ⟨fun cut line listed => ?_, fun plain => ?_⟩
  · exact oneLine_of_mem_split (cut ▸ List.mem_append_left _ listed : line ∈ split '\n' (ofLines lines))
  induction lines with
  | nil => rfl
  | cons line lines ih =>
    obtain ⟨here, later⟩ := List.forall_mem_cons.mp plain
    have apart : split '\n' (line ++ "\n" ++ ofLines lines) = split '\n' line ++ split '\n' (ofLines lines) := by
      simp [split, segments_append_separator]
    have whole : split '\n' line = [line] := by simp [split, segments_of_not_mem here]
    rw [ofLines_cons, apart, whole, ih later, List.singleton_append, List.cons_append]

section OneLine

@[simp] theorem oneLine_append {text more : String} : OneLine (text ++ more) ↔ OneLine text ∧ OneLine more := by
  simp [OneLine]

theorem oneLine_join {texts : List String} : OneLine (join "/" texts) ↔ ∀ text ∈ texts, OneLine text := by
  induction texts with
  | nil => simp [join, OneLine]
  | cons text texts ih =>
    cases texts with
    | nil => simp [join]
    | cons next texts =>
      have slash : OneLine "/" := by decide
      rw [join_cons (List.cons_ne_nil _ _), oneLine_append, oneLine_append, ih, and_iff_left slash,
        ← List.forall_mem_cons]

theorem oneLine_iff_split {text : String} : OneLine text ↔ ∀ piece ∈ split '/' text, OneLine piece := by
  rw [← oneLine_join, join_split]

theorem isDigit_of_mem_repr {n : Nat} {c : Char} (listed : c ∈ n.repr.toList) : c.isDigit = true := by
  rw [Nat.toList_repr] at listed
  exact Nat.isDigit_of_mem_toDigits (by decide) (by decide) listed

@[simp] theorem oneLine_repr (n : Nat) : OneLine n.repr := fun listed => by
  cases (isDigit_of_mem_repr listed : '\n'.isDigit = true)

end OneLine

end Text

namespace Path

open Text (OneLine)

theorem Part.oneLine_ofSegment? {segment : String} :
    (∀ part ∈ ofSegment? segment, OneLine part.text) ↔ OneLine segment := by
  unfold ofSegment?
  split
  · rename_i still
    rcases still with rfl | rfl <;> decide
  · split
    · rename_i up
      subst up
      decide
    · simp [Part.text]

/-- Parts show the segments that they stand for. -/
theorem oneLine_parts {p : Path} : (∀ part ∈ p.parts, OneLine part.text) ↔ OneLine p.text := by
  have plain : ∀ part ∈ p.lead, OneLine part.text := fun part listed => by
    rcases of_mem_lead listed with rfl | rfl <;> decide
  rw [parts_eq_lead_append, List.forall_mem_append, and_iff_right plain, Text.oneLine_iff_split, steps]
  refine Iff.trans ?_ (forall₂_congr fun piece _ => Part.oneLine_ofSegment?)
  simp only [List.mem_filterMap]
  constructor
  · exact fun all piece listed part read => all part ⟨piece, listed, read⟩
  · rintro all part ⟨piece, listed, read⟩
    exact all piece listed part read

theorem oneLine_display {p : Path} : OneLine p.display ↔ OneLine p.text := by
  rw [display, displayParts, Text.oneLine_join, List.forall_mem_map, oneLine_parts]

end Path

end Layering
