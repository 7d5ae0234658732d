/-! Cutting a text at every occurrence of a separator, and joining the pieces again. -/
namespace Layering.Text

variable {α : Type} [DecidableEq α]

/-- The pieces between the separators. A text without separators is one piece. -/
def segments (separator : α) : List α → List (List α)
  | [] => [[]]
  | c :: cs =>
    if c = separator then [] :: segments separator cs
    else
      match segments separator cs with
      | [] => [[c]]
      | piece :: pieces => (c :: piece) :: pieces

/-- The pieces of a text as texts. -/
def split (separator : Char) (text : String) : List String :=
  (segments separator text.toList).map .ofList

/-- The texts with a separator between neighbours. -/
def join (separator : String) : List String → String
  | [] => ""
  | [text] => text
  | text :: texts => text ++ separator ++ join separator texts

theorem segments_ne_nil (separator : α) (cs : List α) : segments separator cs ≠ [] := by
  cases cs with
  | nil => simp [segments]
  | cons c cs => unfold segments; split <;> (try split) <;> simp

/-- No piece holds the separator. -/
theorem not_mem_of_mem_segments {separator : α} {cs piece : List α}
    (h : piece ∈ segments separator cs) : separator ∉ piece := by
  induction cs generalizing piece with
  | nil => simp_all [segments]
  | cons c cs ih =>
    unfold segments at h
    split at h
    · rcases List.mem_cons.1 h with rfl | h
      · simp
      · exact ih h
    · split at h <;> grind

end Layering.Text
