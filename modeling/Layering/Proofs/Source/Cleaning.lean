import Layering.Proofs.Source.Scanning
import Layering.Proofs.Source.Writing
import Layering.Proofs.Text.Character

/-! Sanitising written statements. The comments in the gaps are blanked and every lexeme is kept as it is, whatever
comes after it. -/
namespace Layering.Source

section Characters

theorem not_mem_turns_of_isBlank {c : Char} (blank : Text.isBlank c = true) : c ∉ turns := by
  intro member
  have each : turns.all (!Text.isBlank ·) = true := by decide
  have solid := List.all_eq_true.mp each c member
  simp [blank] at solid

theorem not_mem_turns_of_isIdentifierChar {c : Char} (part : Text.isIdentifierChar c = true) : c ∉ turns := by
  intro member
  have each : turns.all (!Text.isIdentifierChar ·) = true := by decide
  have other := List.all_eq_true.mp each c member
  simp [part] at other

end Characters

section Sanitizing

variable {blankTemplates : Bool}

/-- Outside of everything, a part of the text is sanitised to a text of its own, and the reader is outside of
everything again after it. -/
def Cleans (blankTemplates : Bool) (cs clean : List Char) : Prop :=
  ∀ before rest, scan blankTemplates ⟨.code, [], before⟩ (cs ++ rest) =
    scan blankTemplates ⟨.code, [], clean.reverse ++ before⟩ rest

theorem Cleans.nil : Cleans blankTemplates [] [] := fun _ _ => rfl

theorem Cleans.append {cs cs' clean clean' : List Char} (first : Cleans blankTemplates cs clean)
    (second : Cleans blankTemplates cs' clean') : Cleans blankTemplates (cs ++ cs') (clean ++ clean') := by
  intro before rest
  rw [List.append_assoc, first, second, List.reverse_append, List.append_assoc]

theorem Cleans.flatMap {items : List α} {chars clean : α → List Char}
    (each : ∀ a ∈ items, Cleans blankTemplates (chars a) (clean a)) :
    Cleans blankTemplates (items.flatMap chars) (items.flatMap clean) := by
  induction items with
  | nil => exact Cleans.nil
  | cons a rest ih =>
    rw [List.flatMap_cons, List.flatMap_cons]
    exact (each a List.mem_cons_self).append (ih fun b member => each b (List.mem_cons_of_mem _ member))

theorem cleans_char {c : Char} (plain : c ∉ turns) : Cleans blankTemplates [c] [c] := by
  intro before rest
  simp [scan_plain, plain]

theorem cleans_chars {cs : List Char} (plain : ∀ c ∈ cs, c ∉ turns) : Cleans blankTemplates cs cs := by
  have each : Cleans blankTemplates (cs.flatMap fun c => [c]) (cs.flatMap fun c => [c]) :=
    Cleans.flatMap fun c member => cleans_char (plain c member)
  simpa using each

end Sanitizing

/-- What is left of a filler. -/
def Filler.clean : Filler → List Char
  | .white c _ => [c]
  | f => f.chars.map blank

def Gap.clean (g : Gap) : List Char := g.flatMap Filler.clean

def Piece.clean (p : Piece) : List Char := p.gap.clean ++ p.lexeme.chars

def Written.clean (w : Written) : List Char := w.pieces.flatMap Piece.clean

section Pieces

variable {blankTemplates : Bool}

theorem cleans_filler (f : Filler) : Cleans blankTemplates f.chars f.clean := by
  cases f with
  | white c isBlank => exact cleans_char (not_mem_turns_of_isBlank isBlank)
  | lineComment body oneLine =>
    intro before rest
    have comment := scan_lineComment blankTemplates [] before ('\n' :: rest) oneLine
    rw [scan_lineEnd] at comment
    simpa [Filler.chars, Filler.clean, blank] using comment
  | blockComment body notClosed =>
    intro before rest
    simpa [Filler.chars, Filler.clean] using scan_blockComment blankTemplates [] before rest notClosed

theorem cleans_gap (g : Gap) : Cleans blankTemplates g.chars g.clean :=
  Cleans.flatMap fun f _ => cleans_filler f

theorem Word.isIdentifierChar_of_mem (w : Word) : ∀ c ∈ w.chars, Text.isIdentifierChar c = true := by
  intro c member
  rcases List.mem_cons.mp member with rfl | member
  · exact Text.isIdentifierChar_of_isIdentifierStart w.starts
  · exact List.all_eq_true.mp w.continues c member

theorem cleans_specifier (s : Specifier) : Cleans blankTemplates s.chars s.chars := by
  intro before rest
  obtain ⟨quote, text, isQuote, plain⟩ := s
  simpa [Specifier.chars] using scan_string blankTemplates [] before rest isQuote (stringRest_plain plain)

theorem cleans_mark (m : Mark) : Cleans blankTemplates [m.char] [m.char] := by
  intro before rest
  cases m <;> simp [Mark.char, scan, step, stepCode, State.emit]

theorem cleans_lexeme (l : Lexeme) : Cleans blankTemplates l.chars l.chars := by
  cases l with
  | word w =>
    exact cleans_chars fun c member => not_mem_turns_of_isIdentifierChar (w.isIdentifierChar_of_mem c member)
  | mark m => exact cleans_mark m
  | specifier s => exact cleans_specifier s

theorem cleans_piece (p : Piece) : Cleans blankTemplates p.chars p.clean :=
  (cleans_gap p.gap).append (cleans_lexeme p.lexeme)

theorem cleans_written (w : Written) : Cleans blankTemplates w.chars w.clean :=
  Cleans.flatMap fun p _ => cleans_piece p

/-- The sanitised text of a listing. -/
theorem sanitize_text (l : Listing) : sanitize blankTemplates l.text =
    .ofList (l.statements.flatMap Written.clean ++ l.gap.clean ++ l.comment.map blank) := by
  have cleans : Cleans blankTemplates (l.statements.flatMap Written.chars ++ l.gap.chars)
      (l.statements.flatMap Written.clean ++ l.gap.clean) :=
    (Cleans.flatMap fun w _ => cleans_written w).append (cleans_gap l.gap)
  rw [sanitize, Listing.text, String.toList_ofList, State.initial, cleans]
  generalize l.statements.flatMap Written.clean ++ l.gap.clean = clean
  unfold Listing.comment
  cases l.comment? with
  | none => simp
  | some body =>
    have comment := scan_lineComment blankTemplates [] clean.reverse [] body.property
    rw [List.append_nil] at comment
    simp [comment]

end Pieces

end Layering.Source
