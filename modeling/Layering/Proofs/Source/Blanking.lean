import Layering.Proofs.Source.Origins
import Layering.Proofs.Text.LineIndex

/-! What blanking leaves of a text. Its shape stays: a character is kept or becomes a space, and line breaks are kept, so
that every character keeps its line and column although it may keep neither its size nor its offset. What is blanked once
stays as it is: read once more, a text whose comments are blank is read as it was before, with code in place of
comments. -/
namespace Layering.Source

/-- A character is kept, or becomes a space if it is no line break. -/
def KeptOrSpace (c d : Char) : Prop := d = c ∨ d = ' ' ∧ c ≠ '\n'

section Shape

theorem keptOrSpace_blank (c : Char) : KeptOrSpace c (blank c) := by
  unfold blank
  split
  · rename_i newline
    exact .inl newline.symm
  · rename_i inLine
    exact .inr ⟨rfl, inLine⟩

theorem keptOrSpace_emitted (blankTemplates : Bool) (s : State) (c : Char) (next : Option Char) :
    KeptOrSpace c (emitted blankTemplates s c next) := by
  rcases emitted_eq blankTemplates s c next with kept | blanked
  · exact .inl kept
  · rw [blanked]
    exact keptOrSpace_blank c

theorem forall₂_output (blankTemplates : Bool) (s : State) (cs : List Char) :
    List.Forall₂ KeptOrSpace cs (output blankTemplates s cs) := by
  induction cs generalizing s with
  | nil => exact .nil
  | cons c cs ih => exact .cons (keptOrSpace_emitted blankTemplates s c cs.head?) (ih _)

theorem position_sanitize (blankTemplates : Bool) (text : String) (n : Nat) :
    Text.position (sanitize blankTemplates text) (Text.offset (sanitize blankTemplates text).toList n) =
      Text.position text (Text.offset text.toList n) := by
  rw [Text.position_offset, Text.position_offset]
  exact place_sanitize blankTemplates text n

end Shape

/-- Sanitising keeps the shape of every text. It has as many characters as before, each is kept or becomes a space while
line breaks are kept, and so every character keeps its line and column. -/
theorem sanitize_shape (blankTemplates : Bool) (text : String) :
    (sanitize blankTemplates text).length = text.length ∧
      List.Forall₂ KeptOrSpace text.toList (sanitize blankTemplates text).toList ∧
      ∀ n, Text.position (sanitize blankTemplates text) (Text.offset (sanitize blankTemplates text).toList n) =
        Text.position text (Text.offset text.toList n) := by
  refine ⟨?_, ?_, position_sanitize blankTemplates text⟩
  · rw [← String.length_toList, ← String.length_toList, length_sanitize]
  · rw [toList_sanitize]
    exact forall₂_output blankTemplates .initial text.toList

/-- A wide character in a comment becomes a narrow space, so that the characters after it are moved by a byte. -/
example : sanitize false "/*é*/\nb" = "     \nb" ∧
    Text.offset "/*é*/\nb".toList 6 = 7 ∧ Text.offset "     \nb".toList 6 = 6 ∧
    Text.position "/*é*/\nb" 7 = ⟨2, 1⟩ ∧ Text.position "     \nb" 6 = ⟨2, 1⟩ := by
  decide +kernel

/-- What the reader is inside of where comments have become blank. -/
def Mode.uncommented : Mode → Mode
  | .lineComment | .blockOpen | .blockComment | .blockClose => .code
  | mode => mode

/-- The same state with code in place of a comment. -/
def State.uncommented (s : State) : State := { s with mode := s.mode.uncommented }

@[simp] theorem before_uncommented (s : State) : s.uncommented.before = s.before := rfl

section Twice

variable {s : State} {c d : Char} {next next' : Option Char}

/-- A space is the only character that can come from another one. -/
theorem eq_of_emitted {blankTemplates : Bool} (written : emitted blankTemplates s c next = d) (solid : d ≠ ' ') :
    c = d := by
  rcases keptOrSpace_emitted blankTemplates s c next with kept | ⟨space, -⟩
  · exact kept.symm.trans written
  · exact absurd (written.symm.trans space) solid

/-- A slash with which a comment starts. -/
def OpensComment (c : Char) (next : Option Char) : Prop := c = '/' ∧ (next = some '/' ∨ next = some '*')

/-- Where no comment starts, what comes next does not matter to code, and no comment is entered. -/
theorem stepCode_uncommented (s : State) (noComment : ¬OpensComment c next) (noComment' : ¬OpensComment c next') :
    stepCode false s c next' = (stepCode false s c next).uncommented := by
  by_cases slash : c = '/'
  · simp only [OpensComment, slash, true_and, not_or] at noComment noComment'
    simp only [stepCode, if_pos slash, if_neg noComment.1, if_neg noComment.2, if_neg noComment'.1, if_neg noComment'.2]
    split <;> rfl
  · simp only [stepCode, if_neg slash, Bool.false_eq_true, if_false]
    split
    · rfl
    · split
      · rfl
      · split
        · split <;> rfl
        · split
          · split <;> rfl
          · rfl

/-- To code a blank is nothing but itself. -/
theorem stepCode_blank (s : State) (c : Char) (next : Option Char) :
    stepCode false s (blank c) next = s.emit .code (blank c) := by
  unfold stepCode blank
  split <;> rfl

/-- Code is read as it was, but for the mark with which a comment starts. -/
theorem step_code (code : s.mode = .code) (ahead : ∀ {d : Char}, d ≠ ' ' → next' = some d → next = some d) :
    step false s (emitted false s c next) next' = (step false s c next).uncommented := by
  have reads (c : Char) (next : Option Char) : step false s c next = stepCode false s c next := by
    simp only [step, code]
  rw [reads, reads]
  by_cases opens : OpensComment c next
  · have space : emitted false s c next = blank ' ' := by
      simp only [emitted, code]
      exact if_pos opens
    rw [space, stepCode_blank]
    obtain ⟨slash, rfl | rfl⟩ := opens <;> simp [stepCode, slash, State.emit, State.uncommented, Mode.uncommented] <;> rfl
  · have kept : emitted false s c next = c := by
      simp only [emitted, code]
      exact (if_neg opens).trans (if_neg (by simp))
    rw [kept]
    refine stepCode_uncommented s opens fun opens' => opens (opens'.imp_right fun seen => ?_)
    exact seen.imp (ahead (by decide)) (ahead (by decide))

/-- A comment becomes blank, and after each of its characters the reader is in the comment or in code. -/
theorem step_comment (s : State) (comment : s.mode.uncommented ≠ s.mode) (c : Char) (next next' : Option Char) :
    step false s.uncommented (emitted false s c next) next' = (step false s c next).uncommented := by
  obtain ⟨mode, depths, before⟩ := s
  cases mode with
  | lineComment =>
    refine (stepCode_blank _ c _).trans ?_
    simp only [step, State.emit]
    split <;> rfl
  | blockOpen => exact stepCode_blank _ c _
  | blockComment =>
    refine (stepCode_blank _ c _).trans ?_
    simp only [step, State.emit]
    split <;> rfl
  | blockClose => exact stepCode_blank _ c _
  | _ => exact absurd rfl comment

section Inside

variable (code : s.mode ≠ .code) (noComment : s.mode.uncommented = s.mode)

include code noComment

/-- Inside of strings, regular expressions and templates everything is kept. -/
theorem emitted_inside (c : Char) (next : Option Char) : emitted false s c next = c := by
  obtain ⟨mode, depths, before⟩ := s
  cases mode with
  | code => contradiction
  | lineComment => cases noComment
  | blockOpen => cases noComment
  | blockComment => cases noComment
  | blockClose => cases noComment
  | template => exact if_pos (.inr rfl)
  | _ => rfl

/-- Comments start in code only. -/
theorem uncommented_step_inside (c : Char) (next : Option Char) :
    (step false s c next).uncommented = step false s c next := by
  obtain ⟨mode, depths, before⟩ := s
  cases mode with
  | code => contradiction
  | lineComment => cases noComment
  | blockOpen => cases noComment
  | blockComment => cases noComment
  | blockClose => cases noComment
  | _ =>
    simp only [step]
    repeat' split
    all_goals rfl

/-- Ahead, only a line break after an escaped return and a brace after a dollar are looked for. -/
theorem step_inside (c : Char) (newline : next' = some '\n' ↔ next = some '\n')
    (brace : s.mode = .template → c = '$' → (next' = some '{' ↔ next = some '{')) :
    step false s c next' = step false s c next := by
  obtain ⟨mode, depths, before⟩ := s
  cases mode with
  | code => contradiction
  | lineComment => cases noComment
  | blockOpen => cases noComment
  | blockComment => cases noComment
  | blockClose => cases noComment
  | quotedEscape quote => simp only [step, newline]
  | template =>
    by_cases dollar : c = '$'
    · simp only [step, brace rfl dollar]
    · simp only [step, dollar, false_and]
  | _ => rfl

end Inside

/-- One step of the second reading. It sees what the first one has written, also of the character to come, and ends where
the first one does, with code in place of a comment. -/
theorem step_uncommented (s : State) (c : Char) (next after : Option Char) :
    step false s.uncommented (emitted false s c next)
        (next.map fun d => emitted false (step false s c next) d after) =
      (step false s c next).uncommented := by
  set next' := next.map fun d => emitted false (step false s c next) d after with seen
  have ahead {d : Char} (solid : d ≠ ' ') (shown : next' = some d) : next = some d := by
    obtain ⟨other, rfl, written⟩ := Option.map_eq_some_iff.mp (seen.symm.trans shown)
    rw [eq_of_emitted written solid]
  by_cases comment : s.mode.uncommented = s.mode
  · have same : s.uncommented = s := by rw [State.uncommented, comment]
    rw [same]
    by_cases code : s.mode = .code
    · exact step_code code ahead
    · rw [emitted_inside code comment, uncommented_step_inside code comment]
      refine step_inside code comment c (by simp [seen]) fun template dollar => ⟨ahead (by decide), ?_⟩
      rintro rfl
      -- The brace after the dollar is kept, because with it an expression of the template begins.
      have opens : (step false s c (some '{')).mode = .templateOpen := by
        simp [step, template, dollar, State.emit]
      exact congrArg some (emitted_inside (by simp [opens]) (by simp [opens, Mode.uncommented]) '{' after)
  · exact step_comment s comment c next next'

theorem scanTo_uncommented (n : Nat) (s : State) (cs : List Char) :
    scanTo false n s.uncommented (output false s cs) = (scanTo false n s cs).uncommented := by
  induction n generalizing s cs with
  | zero => cases cs <;> rfl
  | succ n ih =>
    cases cs with
    | nil => rfl
    | cons c cs =>
      have next : (output false (step false s c cs.head?) cs).head? =
          cs.head?.map fun d => emitted false (step false s c cs.head?) d cs.tail.head? := by
        cases cs <;> rfl
      rw [output, scanTo, scanTo, next, step_uncommented, ih]

end Twice

/-- Removing comments a second time changes nothing: all along the text the second reading is inside of what the first
one was inside of, except that it is in code where the first one was in a comment. -/
theorem sanitize_sanitize (text : String) :
    (∀ n, reached false (sanitize false text) n = (reached false text n).uncommented) ∧
      sanitize false (sanitize false text) = sanitize false text := by
  have again (n : Nat) : reached false (sanitize false text) n = (reached false text n).uncommented := by
    rw [reached, toList_sanitize]
    exact scanTo_uncommented n .initial text.toList
  have whole : scan false .initial (sanitize false text).toList = (scan false .initial text.toList).uncommented := by
    rw [← scanTo_length, ← scanTo_length, length_sanitize]
    exact again text.toList.length
  refine ⟨again, ?_⟩
  rw [sanitize, whole, before_uncommented, ← sanitize]

end Layering.Source
