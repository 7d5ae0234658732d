import Layering.Proofs.Source.Readings
import Layering.Proofs.Source.Tokens
import Mathlib

/-! Carriage returns in front of line breaks. A text and the text with returns are read side by side: after every line
break the reader is inside of the same in both, and what it has written differs only in the returns, each of which is
kept or has become a space. No return after a backslash becomes a space, and so an escaped line break is one in both;
any other return is only white space. -/
namespace Layering.Source

/-- The text with a carriage return in front of every line break. -/
def withReturns (cs : List Char) : List Char := cs.flatMap fun c => if c = '\n' then ['\r', '\n'] else [c]

@[simp] theorem withReturns_newline (cs : List Char) : withReturns ('\n' :: cs) = '\r' :: '\n' :: withReturns cs := rfl

theorem withReturns_cons {c : Char} (inLine : c ≠ '\n') (cs : List Char) :
    withReturns (c :: cs) = c :: withReturns cs := by
  simp [withReturns, inLine]

theorem head?_withReturns {c : Char} (inLine : c ≠ '\n') (noReturn : c ≠ '\r') (cs : List Char) :
    cs.head? = some c ↔ (withReturns cs).head? = some c := by
  cases cs with
  | nil => rfl
  | cons d cs =>
    by_cases newline : d = '\n'
    · subst newline
      simp [inLine.symm, noReturn.symm]
    · rw [withReturns_cons newline, List.head?_cons, List.head?_cons]

section LookingBack

/-- Two texts, last character first, that differ in blanks before line breaks. -/
inductive LooksBack : List Char → List Char → Prop where
  | nil : LooksBack [] []
  | char (c : Char) {a b : List Char} : LooksBack a b → LooksBack (c :: a) (c :: b)
  | newline {d : Char} {a b : List Char} (blank : Text.isBlank d = true) :
      LooksBack a b → LooksBack ('\n' :: a) ('\n' :: d :: b)

variable {a b : List Char}

theorem LooksBack.takeWhile (alike : LooksBack a b) :
    a.takeWhile Text.isIdentifierChar = b.takeWhile Text.isIdentifierChar := by
  induction alike with
  | nil => rfl
  | char c _ ih => rw [List.takeWhile_cons, List.takeWhile_cons, ih]
  | newline blank _ _ =>
    have other : Text.isIdentifierChar '\n' = false := by decide
    simp [other]

/-- Looking back from a slash passes over the blanks before it and reads the word before them. -/
theorem LooksBack.opensRegex_eq (alike : LooksBack a b) : opensRegex a = opensRegex b := by
  induction alike with
  | nil => rfl
  | @char c a b alike ih =>
    by_cases blank : Text.isBlank c = true
    · have passed : ∀ d ∈ [c], Text.isBlank d = true := by simpa using blank
      exact (opensRegex_of_blank passed a).trans (ih.trans (opensRegex_of_blank passed b).symm)
    · unfold opensRegex
      rw [List.dropWhile_cons_of_neg blank, List.dropWhile_cons_of_neg blank]
      simp only [(alike.char c).takeWhile]
  | @newline d a b blank alike ih =>
    have white : Text.isBlank '\n' = true := by decide
    have passed : ∀ c ∈ ['\n'], Text.isBlank c = true := by simp [white]
    have passed' : ∀ c ∈ ['\n', d], Text.isBlank c = true := by simp [white, blank]
    exact (opensRegex_of_blank passed a).trans (ih.trans (opensRegex_of_blank passed' b).symm)

end LookingBack

section Steps

variable {s s' : State} {c : Char} {next next' : Option Char}

/-- Whether two next characters are the same where it matters. -/
def SameAhead (next next' : Option Char) : Prop := ∀ d ∈ ['/', '*', '{'], next = some d ↔ next' = some d

theorem step_ahead (noReturn : c ≠ '\r') (ahead : SameAhead next next') : step true s c next = step true s c next' := by
  simp only [SameAhead, List.mem_cons, List.not_mem_nil, or_false, forall_eq_or_imp, forall_eq] at ahead
  obtain ⟨slash, star, brace⟩ := ahead
  simp only [step, stepCode, slash, star, brace, noReturn, false_and]

theorem emitted_ahead (modes : s.mode = s'.mode) (levels : s.depths = s'.depths) (ahead : SameAhead next next') :
    emitted true s c next = emitted true s' c next' := by
  simp only [SameAhead, List.mem_cons, List.not_mem_nil, or_false, forall_eq_or_imp, forall_eq] at ahead
  obtain ⟨slash, star, -⟩ := ahead
  simp only [emitted, modes, levels, slash, star]

/-- What the reader can be inside of after the last character that it has written, in a text without returns. Where it
blanks what it reads, that is no backslash. -/
def Mode.Follows (last : Option Char) : Mode → Prop
  | .code | .regex _ | .regexEscape _ => True
  | .quoted quote | .quotedEscape quote => quote ≠ '\r'
  | .quotedBreak _ => False
  | .lineComment | .blockOpen | .blockComment | .blockClose | .template | .templateEscape | .templateOpen =>
    last ≠ some '\\'

theorem blank_ne {c d : Char} (visible : d ≠ '\n') (solid : d ≠ ' ') : blank c ≠ d := by
  unfold blank
  split
  · exact visible.symm
  · exact solid.symm

theorem blank_ne_backslash (c : Char) : some (blank c) ≠ some '\\' := fun same =>
  blank_ne (by decide) (by decide) (Option.some.inj same)

theorem follows_stepCode (depths : List Nat) (before : List Char) (c : Char) (next : Option Char) :
    (stepCode true ⟨.code, depths, before⟩ c next).mode.Follows
      (stepCode true ⟨.code, depths, before⟩ c next).before.head? := by
  simp only [stepCode, if_true]
  split_ifs with slash line block regex quote backquote opening closing
  · simp [State.emit, Mode.Follows]
  · simp [State.emit, Mode.Follows]
  · trivial
  · trivial
  · rcases quote with rfl | rfl <;> simp [State.emit, Mode.Follows]
  · simp [State.emit, Mode.Follows, backquote]
  · cases depths <;> trivial
  · cases depths with
    | nil => trivial
    | cons depth depths =>
      cases depth with
      | zero => simp [State.emit, Mode.Follows]
      | succ depth => trivial
  · trivial

theorem follows_step (noReturn : c ≠ '\r') (follows : s.mode.Follows s.before.head?) :
    (step true s c next).mode.Follows (step true s c next).before.head? := by
  obtain ⟨mode, depths, before⟩ := s
  cases mode with
  | code => exact follows_stepCode depths before c next
  | lineComment =>
    simp only [step, State.emit]
    split
    · trivial
    · exact blank_ne_backslash c
  | blockOpen => exact blank_ne_backslash c
  | blockComment =>
    simp only [step, State.emit]
    split <;> exact blank_ne_backslash c
  | blockClose => trivial
  | quoted quote =>
    have visible : quote ≠ '\r' := follows
    simp only [step, State.emit]
    split
    · exact visible
    · split
      · trivial
      · exact visible
  | quotedEscape quote =>
    have visible : quote ≠ '\r' := follows
    simpa [step, State.emit, noReturn, Mode.Follows] using visible
  | quotedBreak quote => exact absurd follows id
  | regex inClass =>
    simp only [step, State.emit]
    repeat' split
    all_goals trivial
  | regexEscape inClass =>
    simp only [step, State.emit]
    split <;> trivial
  | template =>
    simp only [step, if_true, State.emit]
    split_ifs
    · trivial
    · exact blank_ne_backslash c
    · exact blank_ne_backslash c
    · exact blank_ne_backslash c
  | templateEscape => exact blank_ne_backslash c
  | templateOpen => trivial

/-- A return and the line break after it lead where the line break alone leads. -/
theorem step_return {last : Option Char} (modes : s.mode = s'.mode) (levels : s.depths = s'.depths)
    (follows : s.mode.Follows last) (next next' : Option Char) :
    (step true s '\n' next).mode = (step true (step true s' '\r' (some '\n')) '\n' next').mode ∧
      (step true s '\n' next).depths = (step true (step true s' '\r' (some '\n')) '\n' next').depths := by
  obtain ⟨mode, depths, before⟩ := s
  obtain ⟨mode', depths', before'⟩ := s'
  obtain rfl : mode = mode' := modes
  obtain rfl : depths = depths' := levels
  cases mode with
  | quoted quote =>
    have visible : '\r' ≠ quote := Ne.symm follows
    simp [step, State.emit, visible]
  | quotedBreak quote => exact absurd follows id
  | _ => simp [step, stepCode, State.emit]

/-- A return is kept or becomes a space, but not after a backslash. -/
theorem emitted_return {last : Option Char} (follows : s.mode.Follows last) (next : Option Char) :
    emitted true s '\r' next = '\r' ∨ emitted true s '\r' next = ' ' ∧ last ≠ some '\\' := by
  obtain ⟨mode, depths, before⟩ := s
  cases mode with
  | lineComment => exact .inr ⟨rfl, follows⟩
  | blockOpen => exact .inr ⟨rfl, follows⟩
  | blockComment => exact .inr ⟨rfl, follows⟩
  | blockClose => exact .inr ⟨rfl, follows⟩
  | template => exact .inr ⟨rfl, follows⟩
  | templateEscape => exact .inr ⟨rfl, follows⟩
  | templateOpen => exact .inr ⟨rfl, follows⟩
  | _ => exact .inl rfl

end Steps

section Sanitizing

/-- What the reader is inside of, and where, in the two texts. -/
structure Beside (s s' : State) : Prop where
  mode : s.mode = s'.mode
  depths : s.depths = s'.depths
  before : LooksBack s.before s'.before
  follows : s.mode.Follows s.before.head?

variable {s s' : State} {c : Char} {next next' : Option Char} {cs : List Char}

theorem Beside.initial : Beside .initial .initial := ⟨rfl, rfl, .nil, trivial⟩

theorem Beside.step (beside : Beside s s') (noReturn : c ≠ '\r') (ahead : SameAhead next next') :
    Beside (step true s c next) (step true s' c next') := by
  rw [← step_ahead noReturn ahead]
  obtain ⟨modes, levels⟩ := step_congr beside.mode beside.depths beside.before.opensRegex_eq c next
  refine ⟨modes, levels, ?_, follows_step noReturn beside.follows⟩
  rw [before_step, before_step, emitted_congr beside.mode beside.depths]
  exact beside.before.char _

theorem emitted_newline (s : State) (next : Option Char) : emitted true s '\n' next = '\n' :=
  emitted_eq_newline_iff.mpr rfl

theorem isBlank_emitted_return (s : State) (next : Option Char) :
    Text.isBlank (emitted true s '\r' next) = true := by
  rcases emitted_eq true s '\r' next with kept | blanked
  · rw [kept]
    decide
  · rw [blanked]
    decide

theorem emitted_ne_return (s : State) (next : Option Char) (noReturn : c ≠ '\r') : emitted true s c next ≠ '\r' := by
  rcases emitted_eq true s c next with kept | blanked
  · rwa [kept]
  · rw [blanked]
    exact blank_ne (by decide) (by decide)

theorem Beside.newline (beside : Beside s s') (next next' : Option Char) :
    Beside (Source.step true s '\n' next) (Source.step true (Source.step true s' '\r' (some '\n')) '\n' next') := by
  obtain ⟨modes, levels⟩ := step_return beside.mode beside.depths beside.follows next next'
  refine ⟨modes, levels, ?_, follows_step (by decide) beside.follows⟩
  rw [before_step, before_step, before_step, emitted_newline, emitted_newline]
  exact beside.before.newline (isBlank_emitted_return _ _)

/-- Sanitised texts with and without returns. After the given character, every return that was blanked has become a
space, which does not follow a backslash. -/
inductive Returned : Option Char → List Char → List Char → Prop where
  | nil (last : Option Char) : Returned last [] []
  | char (last : Option Char) {c : Char} {a b : List Char} (plain : c ≠ '\n' ∧ c ≠ '\r') :
      Returned (some c) a b → Returned last (c :: a) (c :: b)
  | kept (last : Option Char) {a b : List Char} :
      Returned (some '\n') a b → Returned last ('\n' :: a) ('\r' :: '\n' :: b)
  | blanked {last : Option Char} {a b : List Char} (noEscape : last ≠ some '\\') :
      Returned (some '\n') a b → Returned last ('\n' :: a) (' ' :: '\n' :: b)

theorem Returned.plain {last : Option Char} {c : Char} {a b : List Char} (returned : Returned last (c :: a) b)
    (inLine : c ≠ '\n') : c ≠ '\r' ∧ ∃ b', b = c :: b' ∧ Returned (some c) a b' := by
  cases returned with
  | char _ plain later => exact ⟨plain.2, _, rfl, later⟩
  | kept => exact absurd rfl inLine
  | blanked => exact absurd rfl inLine

/-- By induction along the text the two texts stay side by side. -/
theorem Beside.returned (beside : Beside s s') (noReturn : '\r' ∉ cs) :
    Returned s.before.head? (output true s cs) (output true s' (withReturns cs)) := by
  induction cs generalizing s s' with
  | nil => exact .nil _
  | cons c cs ih =>
    obtain ⟨visible, later⟩ := not_or.mp (List.mem_cons.not.mp noReturn)
    by_cases newline : c = '\n'
    · subst newline
      have onward := ih (beside.newline cs.head? (withReturns cs).head?) later
      rw [before_step, emitted_newline, List.head?_cons] at onward
      rw [withReturns_newline, output, output, output, emitted_newline, emitted_newline]
      rcases emitted_return (beside.mode ▸ beside.follows) (some '\n') with kept | ⟨blanked, noEscape⟩
      · rw [List.head?_cons, kept]
        exact .kept _ onward
      · rw [List.head?_cons, blanked]
        exact .blanked noEscape onward
    · have ahead : SameAhead cs.head? (withReturns cs).head? := by
        intro d member
        have plain : d ≠ '\n' ∧ d ≠ '\r' := by
          simp only [List.mem_cons, List.not_mem_nil, or_false] at member
          rcases member with rfl | rfl | rfl <;> decide
        exact head?_withReturns plain.1 plain.2 cs
      have onward := ih (beside.step (Ne.symm visible) ahead) later
      rw [before_step, List.head?_cons] at onward
      rw [withReturns_cons newline, output, output, ← emitted_ahead beside.mode beside.depths ahead]
      exact .char _ ⟨emitted_eq_newline_iff.not.mpr newline, emitted_ne_return _ _ (Ne.symm visible)⟩ onward

theorem returned_sanitize {text : String} (noReturn : '\r' ∉ text.toList) : Returned none
    (sanitize true text).toList (sanitize true (.ofList (withReturns text.toList))).toList := by
  rw [toList_sanitize, toList_sanitize, String.toList_ofList]
  exact Beside.initial.returned noReturn

end Sanitizing

namespace Token

variable {p q : Position} {startsLine : Bool} {last : Option Char} {a b : List Char}

/-- A run of characters that a line break, a return and a space end is the same in both texts. -/
theorem span_returned (part : Char → Bool) (ends : part '\n' = false ∧ part '\r' = false ∧ part ' ' = false)
    (returned : Returned last a b) :
    a.takeWhile part = b.takeWhile part ∧ ∃ last', Returned last' (a.dropWhile part) (b.dropWhile part) := by
  obtain ⟨newline, return', space⟩ := ends
  induction returned with
  | nil last => exact ⟨rfl, last, .nil last⟩
  | @char last c a b plain later ih =>
    obtain ⟨same, rest⟩ := ih
    rw [List.takeWhile_cons, List.takeWhile_cons, List.dropWhile_cons, List.dropWhile_cons, same]
    refine ⟨rfl, ?_⟩
    split
    · exact rest
    · exact ⟨last, later.char last plain⟩
  | kept last later =>
    simp only [List.takeWhile_cons, List.dropWhile_cons, newline, return']
    exact ⟨rfl, last, later.kept last⟩
  | @blanked last _ _ noEscape later =>
    simp only [List.takeWhile_cons, List.dropWhile_cons, newline, space]
    exact ⟨rfl, last, later.blanked noEscape⟩

/-- From where the reading goes on in both texts. Before a line break the columns may differ. -/
inductive GoesOn : Position → List Char → Position → List Char → Prop where
  | here (p : Position) {last : Option Char} {a b : List Char} : Returned last a b → GoesOn p a p b
  | lineEnd {p q : Position} {a b : List Char} (sameLine : p.line = q.line) :
      Returned (some '\n') a b → GoesOn p ('\n' :: a) q ('\n' :: b)

theorem GoesOn.plain {c : Char} (onward : GoesOn p (c :: a) q b) (inLine : c ≠ '\n') :
    q = p ∧ ∃ b', b = c :: b' ∧ Returned (some c) a b' := by
  cases onward with
  | here returned => exact ⟨rfl, (returned.plain inLine).2⟩
  | lineEnd => exact absurd rfl inLine

theorem next_newline (sameLine : p.line = q.line) : p.next '\n' = q.next '\n' := by
  simp [Position.next, sameLine]

theorem next_newline_of_next {c : Char} (inLine : c ≠ '\n') : (p.next c).next '\n' = p.next '\n' :=
  next_newline (by simp [Position.next, inLine])

/-- A string ends at the same character of both texts, or before the same line break. -/
theorem returned_readString {quote : Char} (isQuote : quote = '\'' ∨ quote = '"') (p : Position)
    (returned : Returned last a b) :
    (readString quote p a).1 = (readString quote p b).1 ∧
      GoesOn (readString quote p a).2.1 (readString quote p a).2.2
        (readString quote p b).2.1 (readString quote p b).2.2 := by
  obtain ⟨return', space⟩ : '\r' ≠ quote ∧ ' ' ≠ quote := by rcases isQuote with rfl | rfl <;> decide
  fun_induction readString quote p a generalizing b last with
  | case1 p =>
    cases returned
    exact ⟨rfl, .here p (.nil last)⟩
  | case2 p cs =>
    -- The blank before the line break is read as well, but the string is not closed either way.
    cases returned with
    | char _ plain => exact absurd rfl plain.1
    | kept _ later =>
      rw [readString_char _ _ (by decide) return' (by decide), readString_newline]
      exact ⟨rfl, .lineEnd (by simp [Position.next]) later⟩
    | blanked _ later =>
      rw [readString_char _ _ (by decide) space (by decide), readString_newline]
      exact ⟨rfl, .lineEnd (by simp [Position.next]) later⟩
  | case3 p cs inLine =>
    obtain ⟨-, b, rfl, later⟩ := returned.plain inLine
    rw [readString_close _ _ inLine]
    exact ⟨rfl, .here _ later⟩
  | case4 p inLine solid =>
    obtain ⟨-, b, rfl, later⟩ := returned.plain inLine
    cases later
    rw [readString_open _ solid]
    exact ⟨rfl, .here _ (.nil none)⟩
  | case5 p cs inLine solid ih =>
    obtain ⟨-, b, rfl, later⟩ := returned.plain inLine
    cases later with
    | char _ plain => exact absurd rfl plain.1
    | kept _ later =>
      -- The return after a backslash was kept, and so both characters are escaped as one line break.
      have place : p.advance ['\\', '\r', '\n'] = p.advance ['\\', '\n'] := next_newline_of_next (by decide)
      rw [readString_escapedReturn _ _ solid, place]
      exact ih later
    | blanked noEscape => exact absurd rfl noEscape
  | case6 p cs inLine solid =>
    obtain ⟨-, b, rfl, later⟩ := returned.plain inLine
    exact absurd rfl (later.plain (by decide)).1
  | case7 p cs other inLine solid =>
    obtain ⟨-, b, rfl, later⟩ := returned.plain inLine
    exact absurd rfl (later.plain (by decide)).1
  | case8 p extend d cs inLine' noReturn' noReturn inLine solid =>
    rename_i ih
    obtain ⟨-, b, rfl, escaped⟩ := returned.plain inLine
    obtain ⟨-, b, rfl, later⟩ := escaped.plain inLine'
    obtain ⟨same, onward⟩ := ih later
    rw [readString_escape _ _ solid ⟨inLine', noReturn⟩]
    exact ⟨congrArg (Option.map _) same, onward⟩
  | case9 p c cs =>
    rename_i inLine inside plain ih
    obtain ⟨-, b, rfl, later⟩ := returned.plain inLine
    obtain ⟨same, onward⟩ := ih later
    rw [readString_char _ _ inLine inside plain]
    exact ⟨congrArg (Option.map _) same, onward⟩

/-- A line break is read alike with and without a blank before it. -/
theorem scan_newline {d : Char} (blank : Text.isBlank d = true) (inLine : d ≠ '\n') :
    scan p startsLine (d :: '\n' :: b) = scan (p.next '\n') true b := by
  have white : ∀ c ∈ [d, '\n'], Text.isBlank c = true := by
    have newline : Text.isBlank '\n' = true := by decide
    simp [blank, newline]
  have passed := @scan_blanks p startsLine b [d, '\n'] white
  rw [Position.advance_cons, Position.advance_cons, Position.advance_nil, next_newline_of_next inLine] at passed
  simpa using passed

/-- By induction along the text without returns, the tokens are the same from any two such places on. -/
theorem scan_goesOn (onward : GoesOn p a q b) : scan p startsLine a = scan q startsLine b := by
  fun_induction scan p startsLine a generalizing q b with
  | case1 p startsLine =>
    cases onward with
    | here returned =>
      cases returned
      rw [scan]
  | case2 p startsLine cs ih =>
    cases onward with
    | here returned =>
      cases returned with
      | char _ plain => exact absurd rfl plain.1
      | kept _ later =>
        rw [scan_newline (by decide) (by decide)]
        exact ih (.here _ later)
      | blanked _ later =>
        rw [scan_newline (by decide) (by decide)]
        exact ih (.here _ later)
    | lineEnd sameLine later =>
      rw [scan, if_pos rfl, ← next_newline sameLine]
      exact ih (.here _ later)
  | case3 p startsLine c cs newline blank ih =>
    obtain ⟨rfl, b, rfl, later⟩ := onward.plain newline
    rw [scan, if_neg newline, if_pos blank]
    exact ih (.here _ later)
  | case4 p startsLine c cs newline solid starts word =>
    rename_i ih
    obtain ⟨rfl, b, rfl, later⟩ := onward.plain newline
    obtain ⟨same, last, rest⟩ := span_returned Text.isIdentifierChar (by decide) later
    rw [scan, if_neg newline, if_neg solid, if_pos starts, ← same, ih (.here _ rest)]
  | case5 p startsLine c cs newline solid other quote =>
    rename_i read kind ih
    obtain ⟨rfl, b, rfl, later⟩ := onward.plain newline
    obtain ⟨same, rest⟩ := returned_readString quote (q.next c) later
    rw [scan, if_neg newline, if_neg solid, if_neg other, if_pos quote, ih rest]
    simp only [kind, read, same]
  | case6 p startsLine c cs newline solid other noQuote digit number =>
    rename_i ih
    obtain ⟨rfl, b, rfl, later⟩ := onward.plain newline
    obtain ⟨same, last, rest⟩ := span_returned isNumberChar (by decide) later
    rw [scan, if_neg newline, if_neg solid, if_neg other, if_neg noQuote, if_pos digit, ← same, ih (.here _ rest)]
  | case7 p startsLine c cs newline solid other noQuote noDigit ih =>
    obtain ⟨rfl, b, rfl, later⟩ := onward.plain newline
    rw [scan, if_neg newline, if_neg solid, if_neg other, if_neg noQuote, if_neg noDigit, ih (.here _ later)]

end Token

/-- Carriage returns in front of line breaks change no reference and no place of one. -/
theorem imports_withReturns {text : String} (noReturn : '\r' ∉ text.toList) :
    imports (.ofList (withReturns text.toList)) = imports text := by
  have returned := returned_sanitize noReturn
  have same : Token.tokens (sanitize true text) = Token.tokens (sanitize true (.ofList (withReturns text.toList))) :=
    Token.scan_goesOn (.here .start returned)
  exact (congrArg Token.imports same).symm

/-- A statement on three lines with a comment and an escaped line break in it, and a template after it. -/
def wrappedText : String := "import \x7b\n  a, // ends here\n\x7d from 'a\\\nb'\n`\\\n`\n"

theorem imports_withReturns_wrappedText : '\r' ∉ wrappedText.toList ∧
    imports (.ofList (withReturns wrappedText.toList)) = [⟨"ab", ⟨3, 8⟩, .binding⟩] :=
  ⟨by decide, (imports_withReturns (by decide)).trans (by cbv)⟩

end Layering.Source
