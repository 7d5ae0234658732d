import Layering.Proofs.Source.Cleaning
import Layering.Proofs.Source.Strings
import Mathlib.Data.List.TakeWhile

/-! The tokens of written statements. In what sanitising leaves of a statement each of its lexemes is one token, which
starts its line if there is a line break in the gap before it. -/
namespace Layering.Source

section Blanked

theorem next_blank (p : Position) (c : Char) : p.next (blank c) = p.next c := by
  simp [Position.next]

theorem advance_map_blank (p : Position) (cs : List Char) : p.advance (cs.map blank) = p.advance cs := by
  induction cs generalizing p with
  | nil => rfl
  | cons c cs ih => rw [List.map_cons, Position.advance_cons, Position.advance_cons, next_blank, ih]

theorem newline_mem_map_blank {cs : List Char} : '\n' ∈ cs.map blank ↔ '\n' ∈ cs := by
  simp

theorem Filler.advance_clean (f : Filler) (p : Position) : p.advance f.clean = p.advance f.chars := by
  cases f with
  | white => rfl
  | lineComment => exact advance_map_blank p _
  | blockComment => exact advance_map_blank p _

theorem Filler.newline_mem_clean (f : Filler) : '\n' ∈ f.clean ↔ '\n' ∈ f.chars := by
  cases f with
  | white => rfl
  | lineComment => exact newline_mem_map_blank
  | blockComment => exact newline_mem_map_blank

theorem Filler.isBlank_of_mem_clean (f : Filler) : ∀ c ∈ f.clean, Text.isBlank c = true := by
  intro c member
  cases f with
  | white d isBlank =>
    obtain rfl := List.mem_singleton.mp member
    exact isBlank
  | lineComment =>
    obtain ⟨d, -, rfl⟩ := List.mem_map.mp member
    exact isBlank_blank d
  | blockComment =>
    obtain ⟨d, -, rfl⟩ := List.mem_map.mp member
    exact isBlank_blank d

theorem Filler.clean_ne_nil (f : Filler) : f.clean ≠ [] := by
  cases f <;> simp [Filler.clean, Filler.chars]

theorem advance_flatMap {items : List α} {chars clean : α → List Char}
    (each : ∀ a ∈ items, ∀ p : Position, p.advance (clean a) = p.advance (chars a)) (p : Position) :
    p.advance (items.flatMap clean) = p.advance (items.flatMap chars) := by
  induction items generalizing p with
  | nil => rfl
  | cons a rest ih =>
    rw [List.flatMap_cons, List.flatMap_cons, Position.advance_append, Position.advance_append,
      each a List.mem_cons_self, ih fun b member => each b (List.mem_cons_of_mem _ member)]

theorem Gap.advance_clean (g : Gap) (p : Position) : p.advance g.clean = p.advance g.chars :=
  advance_flatMap (fun f _ => f.advance_clean) p

theorem Gap.newline_mem_clean (g : Gap) : '\n' ∈ g.clean ↔ '\n' ∈ g.chars := by
  simp [Gap.clean, Gap.chars, Filler.newline_mem_clean]

theorem Gap.isBlank_of_mem_clean (g : Gap) : ∀ c ∈ g.clean, Text.isBlank c = true := by
  intro c member
  obtain ⟨f, -, member⟩ := List.mem_flatMap.mp member
  exact f.isBlank_of_mem_clean c member

end Blanked

section Scanning

variable {p : Position} {startsLine : Bool} {rest : List Char}

theorem scan_blanks {cs : List Char} (blank : ∀ c ∈ cs, Text.isBlank c = true) :
    Token.scan p startsLine (cs ++ rest) =
      Token.scan (p.advance cs) (startsLine || decide ('\n' ∈ cs)) rest := by
  induction cs generalizing p startsLine with
  | nil => simp
  | cons c cs ih =>
    have later := fun {p startsLine} => @ih p startsLine fun d member => blank d (List.mem_cons_of_mem _ member)
    rw [List.cons_append, Token.scan, Position.advance_cons]
    by_cases newline : c = '\n'
    · rw [if_pos newline, later]
      simp [newline]
    · rw [if_neg newline, if_pos (blank c List.mem_cons_self), later]
      simp [Ne.symm newline]

theorem scan_word (w : Word) (ends : Text.EndsWord rest) :
    Token.scan p startsLine (w.chars ++ rest) =
      ⟨(Lexeme.word w).kind, p, startsLine⟩ :: Token.scan (p.advance w.chars) false rest := by
  have continues := List.all_eq_true.mp w.continues
  have solid : Text.isBlank w.first = false := by
    by_contra blank
    have := Text.not_isIdentifierStart_of_isBlank (Bool.not_eq_false _ ▸ blank)
    simp [w.starts] at this
  have inLine : w.first ≠ '\n' := by
    intro newline
    rw [newline] at solid
    contradiction
  rw [Word.chars, List.cons_append, Token.scan, if_neg inLine, solid, if_neg Bool.false_ne_true, if_pos w.starts,
    Text.takeWhile_append_of_endsWord _ ends, List.takeWhile_eq_self_iff.mpr continues,
    Text.dropWhile_append_of_endsWord continues ends]
  rfl

theorem readString_append {quote : Char} {text : List Char} (plain : ∀ c ∈ text, c ≠ '\\' ∧ c ≠ '\n' ∧ c ≠ quote)
    (inLine : quote ≠ '\n') :
    Token.readString quote p (text ++ quote :: rest) = (some text, p.advance (text ++ [quote]), rest) := by
  induction text generalizing p with
  | nil => exact Token.readString_close p rest inLine
  | cons c text ih =>
    obtain ⟨noEscape, noBreak, inside⟩ := plain c List.mem_cons_self
    rw [List.cons_append, Token.readString_char _ _ noBreak inside noEscape,
      ih fun d member => plain d (List.mem_cons_of_mem _ member)]
    rfl

theorem scan_specifier (s : Specifier) : Token.scan p startsLine (s.chars ++ rest) =
    ⟨(Lexeme.specifier s).kind, p, startsLine⟩ :: Token.scan (p.advance s.chars) false rest := by
  obtain ⟨quote, text, isQuote, plain⟩ := s
  have facts : quote ≠ '\n' ∧ Text.isBlank quote = false ∧ Text.isIdentifierStart quote = false := by
    rcases isQuote with rfl | rfl <;> decide
  obtain ⟨inLine, solid, other⟩ := facts
  have read := @readString_append (p.next quote) rest quote text plain inLine
  rw [Specifier.chars, List.cons_append, Token.scan, if_neg inLine, solid, if_neg Bool.false_ne_true, other,
    if_neg Bool.false_ne_true, if_pos isQuote]
  simp [read, Lexeme.kind]

theorem scan_mark (m : Mark) : Token.scan p startsLine (m.char :: rest) =
    ⟨(Lexeme.mark m).kind, p, startsLine⟩ :: Token.scan (p.next m.char) false rest := by
  have facts : m.char ≠ '\n' ∧ Text.isBlank m.char = false ∧ Text.isIdentifierStart m.char = false ∧
      ¬(m.char = '\'' ∨ m.char = '"') ∧ ¬('0' ≤ m.char ∧ m.char ≤ '9') := by
    cases m <;> decide
  obtain ⟨inLine, solid, other, noQuote, noDigit⟩ := facts
  rw [Token.scan, if_neg inLine, solid, if_neg Bool.false_ne_true, other, if_neg Bool.false_ne_true, if_neg noQuote,
    if_neg noDigit]
  rfl

theorem scan_lexeme (l : Lexeme) (ends : l.isWord = true → Text.EndsWord rest) :
    Token.scan p startsLine (l.chars ++ rest) =
      ⟨l.kind, p, startsLine⟩ :: Token.scan (p.advance l.chars) false rest := by
  cases l with
  | word w => exact scan_word w (ends rfl)
  | mark m => exact scan_mark m
  | specifier s => exact scan_specifier s

end Scanning

/-- The tokens of pieces whose text starts at the given place. -/
def Piece.tokens (p : Position) (startsLine : Bool) : List Piece → List Token
  | [] => []
  | piece :: pieces =>
    ⟨piece.lexeme.kind, p.advance piece.gap.chars, startsLine || decide ('\n' ∈ piece.gap.chars)⟩ ::
      tokens (p.advance piece.chars) false pieces

theorem Piece.advance_cons (p : Position) (piece : Piece) (pieces : List Piece) :
    p.advance ((piece :: pieces).flatMap Piece.chars) =
      (p.advance piece.chars).advance (pieces.flatMap Piece.chars) := by
  rw [List.flatMap_cons, Position.advance_append]

section Pieces

variable {p : Position} {startsLine : Bool} {rest : List Char}

theorem scan_piece (piece : Piece) (ends : piece.lexeme.isWord = true → Text.EndsWord rest) :
    Token.scan p startsLine (piece.clean ++ rest) =
      ⟨piece.lexeme.kind, p.advance piece.gap.chars, startsLine || decide ('\n' ∈ piece.gap.chars)⟩ ::
        Token.scan (p.advance piece.chars) false rest := by
  rw [Piece.clean, List.append_assoc, scan_blanks piece.gap.isBlank_of_mem_clean, scan_lexeme piece.lexeme ends,
    Piece.chars, Position.advance_append, Gap.advance_clean]
  simp only [Gap.newline_mem_clean]

/-- Where a word may not go on, the gap or the lexeme after it ends the word. -/
theorem endsWord_clean {before after : Piece} (apart : before.Apart after) (word : before.lexeme.isWord = true) :
    Text.EndsWord (after.clean ++ rest) := by
  intro c first
  cases gap : after.gap.clean with
  | cons d blanks =>
    have blank : Text.isBlank d = true := after.gap.isBlank_of_mem_clean d (by simp [gap])
    obtain rfl : d = c := by simpa [Piece.clean, gap] using first
    exact Text.not_isIdentifierChar_of_isBlank blank
  | nil =>
    have empty : after.gap = [] := by
      cases written : after.gap with
      | nil => rfl
      | cons f fillers => simp [written, Gap.clean, Filler.clean_ne_nil] at gap
    cases lexeme : after.lexeme with
    | word w => exact absurd empty (apart word (by simp [lexeme, Lexeme.isWord]))
    | mark m =>
      obtain rfl : m.char = c := by simpa [Piece.clean, gap, lexeme, Lexeme.chars] using first
      cases m <;> decide
    | specifier s =>
      obtain rfl : s.quote = c := by simpa [Piece.clean, gap, lexeme, Lexeme.chars, Specifier.chars] using first
      rcases s.isQuote with quote | quote <;> rw [quote] <;> decide

/-- Pieces are read one after the other, each as one token. -/
theorem scan_pieces {first : Piece} {pieces : List Piece} (apart : (first :: pieces).IsChain Piece.Apart)
    (ends : ∀ last ∈ (first :: pieces).getLast?, last.lexeme.isWord = false) :
    Token.scan p startsLine ((first :: pieces).flatMap Piece.clean ++ rest) =
      Piece.tokens p startsLine (first :: pieces) ++
        Token.scan (p.advance ((first :: pieces).flatMap Piece.chars)) false rest := by
  induction pieces generalizing first p startsLine with
  | nil =>
    have noWord := ends first rfl
    rw [List.flatMap_singleton, List.flatMap_singleton, scan_piece first fun word => by simp [noWord] at word]
    rfl
  | cons second pieces ih =>
    obtain ⟨separate, later⟩ := List.isChain_cons_cons.mp apart
    have next := @ih (p.advance first.chars) false second later (by simpa using ends)
    rw [Piece.advance_cons, List.flatMap_cons, List.append_assoc, scan_piece first, next]
    · rfl
    · intro word
      rw [List.flatMap_cons, List.append_assoc]
      exact endsWord_clean separate word

theorem Written.apart_pieces (w : Written) : w.pieces.IsChain Piece.Apart := by
  have noWord (before : Piece) (gap : Gap) : before.Apart ⟨gap, .specifier w.specifier⟩ :=
    fun _ word => by simp [Lexeme.isWord] at word
  refine List.isChain_append.mpr ⟨w.apart, ?_, fun before _ after first => ?_⟩
  · cases w.semicolon with
    | none => exact List.isChain_singleton _
    | some gap => exact List.isChain_pair.mpr fun word => by simp [Lexeme.isWord] at word
  · obtain rfl : (⟨w.gap, .specifier w.specifier⟩ : Piece) = after := by simpa using first
    exact noWord before w.gap

theorem Written.ends_pieces (w : Written) : ∀ last ∈ w.pieces.getLast?, last.lexeme.isWord = false := by
  intro last ends
  unfold Written.pieces at ends
  cases gap : w.semicolon with
  | none =>
    obtain rfl : (⟨w.gap, .specifier w.specifier⟩ : Piece) = last := by simpa [gap] using ends
    rfl
  | some gap' =>
    obtain rfl : (⟨gap', .mark .semicolon⟩ : Piece) = last := by simpa [gap] using ends
    rfl

/-- A statement is read as the tokens of its lexemes, whatever follows it. -/
theorem scan_written (w : Written) : Token.scan p startsLine (w.clean ++ rest) =
    Piece.tokens p startsLine w.pieces ++ Token.scan (p.advance w.chars) false rest := by
  have apart := w.apart_pieces
  have ends := w.ends_pieces
  unfold Written.clean Written.chars
  cases split : w.pieces with
  | nil => simp [Written.pieces] at split
  | cons first pieces =>
    rw [split] at apart ends
    exact scan_pieces apart ends

end Pieces

end Layering.Source
