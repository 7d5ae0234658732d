import Layering.Proofs.Source.Spans
import Mathlib.Data.Nat.Find

/-! Where strings end. The text is read twice, to blank its comments and templates and then to read the tokens of what is
left, and each reader has its own rules for escapes and line breaks in strings. Both are inside of strings at the same
characters, as long as the first one is never inside of a regular expression, where the second one would see quotes. -/
namespace Layering.Source

/-- The modes inside of strings. -/
def Mode.isString : Mode → Bool
  | .quoted _ | .quotedEscape _ | .quotedBreak _ => true
  | _ => false

/-- The modes inside of regular expressions. -/
def Mode.isRegex : Mode → Bool
  | .regex _ | .regexEscape _ => true
  | _ => false

section Readers

variable (s : State) (cs : List Char)

/-- Whether the reader is inside of a string when it has read the first characters from a state on. -/
def InString (n : Nat) : Prop := (scanTo true n s cs).mode.isString = true

/-- With which character the reader leaves the string that it is inside of. -/
structure LeavesWith (n : Nat) : Prop where
  inside : ∀ k ≤ n, InString s cs k
  outside : ¬InString s cs (n + 1)

/-- How many characters the string has in which the reader is, and whether it is closed. A line break that ends it does
not belong to it. -/
inductive Ends : Nat → Bool → Prop
  | closed {n : Nat} (leaves : LeavesWith s cs n) (inLine : cs[n]? ≠ some '\n') : Ends (n + 1) true
  | broken {n : Nat} (leaves : LeavesWith s cs n) (newline : cs[n]? = some '\n') : Ends n false
  | unfinished (inside : ∀ k, InString s cs k) : Ends cs.length false

/-- The reader enters a string at the start of the part and is behind it at its end. -/
structure StringFrom (part : StringSpan) : Prop where
  outside : ¬InString s cs part.start
  ends : ∃ n, part.stop = part.start + (n + 1) ∧
    Ends (scanTo true (part.start + 1) s cs) (cs.drop (part.start + 1)) n part.closed

/-- The character belongs to a string. It is the quote with which the reader enters one, or it is read inside of one and is
not the line break that ends it. -/
structure BelongsToString (n : Nat) : Prop where
  listed : n < cs.length
  inside : InString s cs n ∨ InString s cs (n + 1)
  last : InString s cs (n + 1) ∨ cs[n]? ≠ some '\n'

end Readers

section Stepping

variable {blankTemplates : Bool} {s : State} {cs : List Char} {c : Char} {next : Option Char} {n m : Nat}

theorem scanTo_nil (n : Nat) (s : State) : scanTo blankTemplates n s [] = s := by
  cases n <;> rfl

theorem scanTo_add (m n : Nat) (s : State) (cs : List Char) : scanTo blankTemplates (m + n) s cs =
    scanTo blankTemplates n (scanTo blankTemplates m s cs) (cs.drop m) := by
  induction m generalizing s cs with
  | zero => simp [scanTo]
  | succ m ih =>
    cases cs with
    | nil => simp [scanTo_nil]
    | cons c cs => rw [Nat.add_right_comm, scanTo, scanTo, ih, List.drop_succ_cons]

theorem drop_output (n : Nat) (s : State) (cs : List Char) : (output blankTemplates s cs).drop n =
    output blankTemplates (scanTo blankTemplates n s cs) (cs.drop n) := by
  induction n generalizing s cs with
  | zero => simp [scanTo]
  | succ n ih =>
    cases cs with
    | nil => simp [scanTo_nil, output]
    | cons c cs => exact ih _ cs

theorem not_isQuote_blank (c : Char) : ¬IsQuote (blank c) := by
  unfold blank
  split <;> decide

theorem isString_stepCode (depths : List Nat) (before : List Char) (noQuote : ¬IsQuote c) :
    (stepCode true ⟨.code, depths, before⟩ c next).mode.isString = false := by
  simp only [stepCode, if_true]
  split_ifs with slash line block regex quote
  · rfl
  · rfl
  · rfl
  · rfl
  · exact absurd quote noQuote
  · rfl
  · split <;> rfl
  · split <;> rfl
  · rfl

theorem length_output (s : State) (cs : List Char) : (output blankTemplates s cs).length = cs.length := by
  induction cs generalizing s with
  | nil => rfl
  | cons c cs ih => rw [output, List.length_cons, List.length_cons, ih]

/-- Outside of strings and regular expressions, a quote that is written is one with which a string starts, and no string
starts with anything else. -/
theorem quote_or_outside (noString : s.mode.isString = false) (noRegex : s.mode.isRegex = false) :
    IsQuote c ∧ emitted true s c next = c ∧ (step true s c next).mode = .quoted c ∨
      ¬IsQuote (emitted true s c next) ∧ (step true s c next).mode.isString = false := by
  obtain ⟨mode, depths, before⟩ := s
  cases mode with
  | code =>
    by_cases quote : IsQuote c
    · refine .inl ⟨quote, ?_⟩
      rcases quote with rfl | rfl <;> simp [emitted, step, stepCode, State.emit]
    · refine .inr ⟨?_, isString_stepCode depths before quote⟩
      rcases emitted_eq true ⟨.code, depths, before⟩ c next with kept | blanked
      · rwa [kept]
      · rw [blanked]
        exact not_isQuote_blank c
  | quoted => cases noString
  | quotedEscape => cases noString
  | quotedBreak => cases noString
  | regex => cases noRegex
  | regexEscape => cases noRegex
  | template =>
    refine .inr ⟨?_, ?_⟩
    · simp only [emitted]
      split
      · rename_i backquote
        rw [backquote.resolve_right (by simp)]
        decide
      · exact not_isQuote_blank c
    · simp only [step, State.emit]
      split_ifs <;> rfl
  | lineComment | blockComment =>
    refine .inr ⟨not_isQuote_blank c, ?_⟩
    simp only [step, State.emit]
    split <;> rfl
  | blockOpen | blockClose | templateEscape | templateOpen => exact .inr ⟨not_isQuote_blank c, rfl⟩

end Stepping

section Ending

variable {s : State} {cs : List Char} {n m : Nat} {closed closed' : Bool}

theorem inString_add (s : State) (cs : List Char) (m k : Nat) :
    InString s cs (m + k) ↔ InString (scanTo true m s cs) (cs.drop m) k := by
  rw [InString, InString, scanTo_add]

theorem LeavesWith.unique (leaves : LeavesWith s cs n) (leaves' : LeavesWith s cs m) : n = m := by
  rcases Nat.lt_trichotomy n m with less | same | more
  · exact absurd (leaves'.inside (n + 1) less) leaves.outside
  · exact same
  · exact absurd (leaves.inside (m + 1) more) leaves'.outside

theorem Ends.inside (ends : Ends s cs n closed) : ∀ k < n, InString s cs k := by
  intro k before
  cases ends with
  | closed leaves => exact leaves.inside k (Nat.le_of_lt_succ before)
  | broken leaves => exact leaves.inside k (Nat.le_of_lt before)
  | unfinished inside => exact inside k

theorem Ends.inString (ends : Ends s cs n closed) : InString s cs 0 := by
  cases ends with
  | closed leaves => exact leaves.inside 0 (Nat.zero_le _)
  | broken leaves => exact leaves.inside 0 (Nat.zero_le _)
  | unfinished inside => exact inside 0

/-- A string ends once. -/
theorem Ends.unique (ends : Ends s cs n closed) (ends' : Ends s cs m closed') : n = m ∧ closed = closed' := by
  cases ends with
  | closed leaves inLine =>
    cases ends' with
    | closed leaves' => exact ⟨congrArg (· + 1) (leaves.unique leaves'), rfl⟩
    | broken leaves' newline => exact absurd (leaves.unique leaves' ▸ newline) inLine
    | unfinished inside => exact absurd (inside _) leaves.outside
  | broken leaves newline =>
    cases ends' with
    | closed leaves' inLine => exact absurd (leaves.unique leaves' ▸ newline) inLine
    | broken leaves' => exact ⟨leaves.unique leaves', rfl⟩
    | unfinished inside => exact absurd (inside _) leaves.outside
  | unfinished inside =>
    cases ends' with
    | closed leaves' => exact absurd (inside _) leaves'.outside
    | broken leaves' => exact absurd (inside _) leaves'.outside
    | unfinished => exact ⟨rfl, rfl⟩

/-- A string that goes on over the first characters ends where what follows them ends. -/
theorem Ends.later {front : List Char} (inside : ∀ k < front.length, InString s (front ++ cs) k)
    (ends : Ends (scanTo true front.length s (front ++ cs)) cs n closed) :
    Ends s (front ++ cs) (front.length + n) closed := by
  have on (k : Nat) : InString s (front ++ cs) (front.length + k) ↔
      InString (scanTo true front.length s (front ++ cs)) cs k := by
    rw [inString_add, List.drop_left]
  have char (k : Nat) : (front ++ cs)[front.length + k]? = cs[k]? := by
    rw [List.getElem?_append_right (Nat.le_add_right _ _), Nat.add_sub_cancel_left]
  have all {k : Nat} (later : ∀ i, front.length + i = k → InString s (front ++ cs) k) : InString s (front ++ cs) k := by
    rcases Nat.lt_or_ge k front.length with before | after
    · exact inside k before
    · exact later (k - front.length) (Nat.add_sub_of_le after)
  have leaves {n : Nat} (leaves : LeavesWith (scanTo true front.length s (front ++ cs)) cs n) :
      LeavesWith s (front ++ cs) (front.length + n) := by
    refine ⟨fun k le => all ?_, fun still => leaves.outside ((on (n + 1)).mp still)⟩
    rintro i rfl
    exact (on i).mpr (leaves.inside i (Nat.le_of_add_le_add_left le))
  cases ends with
  | closed ends inLine =>
    rw [← Nat.add_assoc]
    exact .closed (leaves ends) (by rwa [char])
  | broken ends newline => exact .broken (leaves ends) (by rwa [char])
  | unfinished within =>
    rw [← List.length_append]
    refine .unfinished fun k => all ?_
    rintro i rfl
    exact (on i).mpr (within i)

end Ending

/-- Where a token or a string can start, or nothing does: outside of strings and regular expressions, at a line break that
ends a string, and at the end. -/
inductive Ready (s : State) (cs : List Char) : Prop
  | outside (noString : s.mode.isString = false) (noRegex : s.mode.isRegex = false)
  | broken {quote : Char} (quoted : s.mode = .quoted quote) (newline : cs.head? = some '\n')
  | done (nothing : cs = [])

/-- From the state of one reader on, and from what it writes on, both readers read a string of the same length, and where
it ends both are ready to go on. -/
structure Lockstep (quote : Char) (s : State) (cs : List Char) (n : Nat) (text : Option (List Char)) : Prop where
  ends : Ends s cs n text.isSome
  ready : Ready (scanTo true n s cs) (cs.drop n)
  length : n ≤ cs.length
  read : ∀ p, Token.readString quote p (output true s cs) =
    (text, p.advance ((output true s cs).take n), (output true s cs).drop n)

section Reading

variable {s : State} {cs : List Char} {n : Nat} {quote : Char} {text : Option (List Char)}

theorem emitted_of_isString {blankTemplates : Bool} (string : s.mode.isString = true) (c : Char) (next : Option Char) :
    emitted blankTemplates s c next = c := by
  obtain ⟨mode, depths, before⟩ := s
  cases mode with
  | quoted | quotedEscape | quotedBreak => rfl
  | _ => cases string

/-- Strings are kept. -/
theorem output_append_of_inString {front : List Char} (inside : ∀ k < front.length, InString s (front ++ cs) k) :
    output true s (front ++ cs) = front ++ output true (scanTo true front.length s (front ++ cs)) cs := by
  induction front generalizing s with
  | nil => cases cs <;> rfl
  | cons c front ih =>
    have first : s.mode.isString = true := inside 0 (Nat.zero_lt_succ _)
    have later : ∀ k < front.length, InString (step true s c (front ++ cs).head?) (front ++ cs) k :=
      fun k before => inside (k + 1) (Nat.succ_lt_succ before)
    rw [List.cons_append, output, emitted_of_isString first, ih later]
    rfl

theorem head?_output_eq_newline_iff : (output true s cs).head? = some '\n' ↔ cs.head? = some '\n' := by
  cases cs <;> simp [output]

theorem Lockstep.later (front : List Char) (f : List Char → List Char)
    (inside : ∀ k < front.length, InString s (front ++ cs) k)
    (reads : ∀ p rest, rest = output true (scanTo true front.length s (front ++ cs)) cs →
      Token.readString quote p (front ++ rest) = ((Token.readString quote (p.advance front) rest).1.map f,
        (Token.readString quote (p.advance front) rest).2))
    (later : Lockstep quote (scanTo true front.length s (front ++ cs)) cs n text) :
    Lockstep quote s (front ++ cs) (front.length + n) (text.map f) := by
  refine ⟨?_, ?_, ?_, fun p => ?_⟩
  · rw [Option.isSome_map]
    exact later.ends.later inside
  · rw [scanTo_add, List.drop_left, List.drop_length_add_append]
    exact later.ready
  · rw [List.length_append]
    exact Nat.add_le_add_left later.length _
  · rw [output_append_of_inString inside, reads p _ rfl, later.read, List.take_length_add_append,
      List.drop_length_add_append, Position.advance_append]

section Steps

variable {blankTemplates : Bool} {c : Char} {next : Option Char}

theorem step_quoted_backslash (quoted : s.mode = .quoted quote) :
    (step blankTemplates s '\\' next).mode = .quotedEscape quote := by
  simp [step, quoted, State.emit]

theorem step_quoted_last (quoted : s.mode = .quoted quote) (solid : c ≠ '\\') (last : c = quote ∨ c = '\n') :
    (step blankTemplates s c next).mode = .code := by
  simp [step, quoted, State.emit, solid, last]

theorem step_quoted_char (quoted : s.mode = .quoted quote) (solid : c ≠ '\\') (inside : c ≠ quote) (inLine : c ≠ '\n') :
    (step blankTemplates s c next).mode = .quoted quote := by
  simp [step, quoted, State.emit, solid, inside, inLine]

theorem step_quotedEscape (escape : s.mode = .quotedEscape quote) (single : ¬(c = '\r' ∧ next = some '\n')) :
    (step blankTemplates s c next).mode = .quoted quote := by
  simp only [step, escape, State.emit, if_neg single]

theorem step_quotedEscape_return (escape : s.mode = .quotedEscape quote) :
    (step blankTemplates s '\r' (some '\n')).mode = .quotedBreak quote := by
  simp [step, escape, State.emit]

theorem step_quotedBreak (broken : s.mode = .quotedBreak quote) :
    (step blankTemplates s c next).mode = .quoted quote := by
  simp [step, broken, State.emit]

end Steps

/-- The reader leaves the string with the first character. -/
theorem LeavesWith.first {c : Char} (inside : s.mode.isString = true)
    (leaves : (step true s c cs.head?).mode = .code) : LeavesWith s (c :: cs) 0 := by
  refine ⟨fun k le => ?_, ?_⟩
  · rw [Nat.le_zero.mp le]
    exact inside
  · simp [InString, scanTo, leaves, Mode.isString]

theorem isString_of_quoted (quoted : s.mode = .quoted quote) : s.mode.isString = true := by
  rw [quoted]
  rfl

theorem mode_scanTo_escape {c : Char} (quoted : s.mode = .quoted quote) (single : ¬(c = '\r' ∧ cs.head? = some '\n')) :
    (scanTo true 2 s ('\\' :: c :: cs)).mode = .quoted quote := by
  have escape : (step true s '\\' (some c)).mode = .quotedEscape quote := step_quoted_backslash quoted
  cases cs <;> exact step_quotedEscape escape single

/-- An escape of two characters is no end. -/
theorem Lockstep.escape {c : Char} (f : List Char → List Char) (quoted : s.mode = .quoted quote)
    (reads : ∀ p rest, rest = output true (scanTo true 2 s ('\\' :: c :: cs)) cs →
      Token.readString quote p ('\\' :: c :: rest) = ((Token.readString quote (p.advance ['\\', c]) rest).1.map f,
        (Token.readString quote (p.advance ['\\', c]) rest).2))
    (later : Lockstep quote (scanTo true 2 s ('\\' :: c :: cs)) cs n text) :
    Lockstep quote s ('\\' :: c :: cs) (2 + n) (text.map f) := by
  refine Lockstep.later ['\\', c] f (fun k before => ?_) reads later
  match k, before with
  | 0, _ => exact isString_of_quoted quoted
  | 1, _ => simp [InString, scanTo, step_quoted_backslash quoted, Mode.isString]

theorem lockstep_end (quoted : s.mode = .quoted quote) : Lockstep quote s [] 0 none := by
  have inside (k : Nat) : InString s [] k := by
    rw [InString, scanTo_nil]
    exact isString_of_quoted quoted
  refine ⟨.unfinished inside, .done rfl, Nat.zero_le _, fun p => ?_⟩
  rw [output, Token.readString]
  rfl

/-- Both readers stop before a line break. -/
theorem lockstep_newline (quoted : s.mode = .quoted quote) : Lockstep quote s ('\n' :: cs) 0 none := by
  have leaves : LeavesWith s ('\n' :: cs) 0 :=
    .first (isString_of_quoted quoted) (step_quoted_last quoted (by decide) (.inr rfl))
  refine ⟨.broken leaves rfl, .broken quoted rfl, Nat.zero_le _, fun p => ?_⟩
  rw [output, emitted_of_isString (isString_of_quoted quoted), Token.readString_newline]
  rfl

/-- Both readers stop behind the second quote. -/
theorem lockstep_quote (isQuote : IsQuote quote) (quoted : s.mode = .quoted quote) :
    Lockstep quote s (quote :: cs) 1 (some []) := by
  have inLine : quote ≠ '\n' := by rcases isQuote with rfl | rfl <;> decide
  have solid : quote ≠ '\\' := by rcases isQuote with rfl | rfl <;> decide
  have last : (step true s quote cs.head?).mode = .code := step_quoted_last quoted solid (.inl rfl)
  have leaves : LeavesWith s (quote :: cs) 0 := .first (isString_of_quoted quoted) last
  refine ⟨.closed leaves (by simpa using inLine), .outside ?_ ?_, by simp, fun p => ?_⟩
  · simp [scanTo, last, Mode.isString]
  · simp [scanTo, last, Mode.isRegex]
  · rw [output, emitted_of_isString (isString_of_quoted quoted), Token.readString_close _ _ inLine]
    rfl

theorem lockstep_backslash (solid : '\\' ≠ quote) (quoted : s.mode = .quoted quote) : Lockstep quote s ['\\'] 1 none := by
  have inside (k : Nat) : InString s ['\\'] k := by
    cases k with
    | zero => exact isString_of_quoted quoted
    | succ k => simp [InString, scanTo, scanTo_nil, step_quoted_backslash quoted, Mode.isString]
  refine ⟨.unfinished inside, .done rfl, Nat.le_refl _, fun p => ?_⟩
  rw [output, emitted_of_isString (isString_of_quoted quoted), output, Token.readString_open _ solid]
  rfl

/-- From where both readers have passed an escaped line break of two characters, they are inside of the string again. -/
theorem mode_scanTo_escapedReturn (quoted : s.mode = .quoted quote) :
    (scanTo true 3 s ('\\' :: '\r' :: '\n' :: cs)).mode = .quoted quote := by
  have escape : (step true s '\\' (some '\r')).mode = .quotedEscape quote := step_quoted_backslash quoted
  cases cs <;> exact step_quotedBreak (step_quotedEscape_return escape)

theorem Lockstep.escapedReturn (solid : '\\' ≠ quote) (quoted : s.mode = .quoted quote)
    (later : Lockstep quote (scanTo true 3 s ('\\' :: '\r' :: '\n' :: cs)) cs n text) :
    Lockstep quote s ('\\' :: '\r' :: '\n' :: cs) (3 + n) (text.map id) := by
  have escape : (step true s '\\' (some '\r')).mode = .quotedEscape quote := step_quoted_backslash quoted
  have broken : (step true (step true s '\\' (some '\r')) '\r' (some '\n')).mode = .quotedBreak quote :=
    step_quotedEscape_return escape
  refine Lockstep.later ['\\', '\r', '\n'] id (fun k before => ?_) (fun p rest _ => ?_) later
  · match k, before with
    | 0, _ => exact isString_of_quoted quoted
    | 1, _ => simp [InString, scanTo, escape, Mode.isString]
    | 2, _ => simp [InString, scanTo, broken, Mode.isString]
  · rw [Option.map_id_fun, id]
    exact Token.readString_escapedReturn p rest solid

theorem Lockstep.char {c : Char} (inLine : c ≠ '\n') (inside : c ≠ quote) (plain : c ≠ '\\')
    (quoted : s.mode = .quoted quote) (later : Lockstep quote (scanTo true 1 s (c :: cs)) cs n text) :
    Lockstep quote s (c :: cs) (1 + n) (text.map (c :: ·)) := by
  refine Lockstep.later [c] (c :: ·) (fun k before => ?_) (fun p rest _ => ?_) later
  · match k, before with
    | 0, _ => exact isString_of_quoted quoted
  · exact Token.readString_char _ _ inLine inside plain

/-- The rules of both readers for strings are the same: at every character one of them reads, the other one does what the
first one does. -/
theorem exists_lockstep (quote : Char) (isQuote : IsQuote quote) (cs : List Char) (s : State)
    (quoted : s.mode = .quoted quote) : ∃ n text, Lockstep quote s cs n text := by
  -- The cases are those of the reader of tokens, which only needs some place to start from.
  obtain ⟨p⟩ : Nonempty Position := ⟨.start⟩
  fun_induction Token.readString quote p cs generalizing s with
  | case1 => exact ⟨_, _, lockstep_end quoted⟩
  | case2 => exact ⟨_, _, lockstep_newline quoted⟩
  | case3 => exact ⟨_, _, lockstep_quote isQuote quoted⟩
  | case4 p inLine solid => exact ⟨_, _, lockstep_backslash solid quoted⟩
  | case5 p cs inLine solid ih =>
    have single : ¬('\n' = '\r' ∧ cs.head? = some '\n') := fun both => absurd both.1 (by decide)
    obtain ⟨n, text, later⟩ := ih _ (mode_scanTo_escape quoted single)
    refine ⟨_, _, later.escape id quoted fun p rest _ => ?_⟩
    rw [Token.readString_escapedNewline _ _ solid, Option.map_id_fun, id]
  | case6 p cs inLine solid ih =>
    obtain ⟨n, text, later⟩ := ih _ (mode_scanTo_escapedReturn quoted)
    exact ⟨_, _, later.escapedReturn solid quoted⟩
  | case7 p cs alone inLine solid ih =>
    have single : cs.head? ≠ some '\n' := fun newline => by
      obtain ⟨rest, spelt⟩ := List.head?_eq_some_iff.mp newline
      exact alone rest spelt
    obtain ⟨n, text, later⟩ := ih _ (mode_scanTo_escape quoted fun both => single both.2)
    refine ⟨_, _, later.escape id quoted fun p rest written => ?_⟩
    have alone' : ∀ more, rest ≠ '\n' :: more := by
      rintro more rfl
      exact single (head?_output_eq_newline_iff.mp (congrArg List.head? written.symm))
    rw [Token.readString_escapedLoneReturn _ _ solid alone', Option.map_id_fun, id]
  | case8 p extend c cs noBreak alone noReturn inLine solid =>
    rename_i ih
    obtain ⟨n, text, later⟩ := ih _ (mode_scanTo_escape quoted fun both => noReturn both.1)
    refine ⟨_, _, later.escape (c :: ·) quoted fun p rest _ => ?_⟩
    exact Token.readString_escape p rest solid ⟨noBreak, noReturn⟩
  | case9 p c cs =>
    rename_i inLine inside plain ih
    have on : (scanTo true 1 s (c :: cs)).mode = .quoted quote := by
      cases cs <;> exact step_quoted_char quoted plain inside inLine
    obtain ⟨n, text, later⟩ := ih _ on
    exact ⟨_, _, later.char inLine inside plain quoted⟩

end Reading

section Finding

variable {s : State} {cs : List Char} {c : Char} {m : Nat} {part : StringSpan}

/-- The strings behind the first characters are those of the rest of the text. -/
theorem stringFrom_shift (m : Nat) :
    StringFrom s cs (part.shift m) ↔ StringFrom (scanTo true m s cs) (cs.drop m) part := by
  have start := inString_add s cs m part.start
  have behind : scanTo true (m + part.start + 1) s cs =
      scanTo true (part.start + 1) (scanTo true m s cs) (cs.drop m) := by
    rw [Nat.add_assoc, scanTo_add]
  have rest : cs.drop (m + part.start + 1) = (cs.drop m).drop (part.start + 1) := by
    rw [List.drop_drop, Nat.add_assoc]
  constructor
  · rintro ⟨outside, n, stop, ends⟩
    have stop : m + part.stop = m + part.start + (n + 1) := stop
    exact ⟨mt start.mpr outside, n, by omega, behind ▸ rest ▸ ends⟩
  · rintro ⟨outside, n, stop, ends⟩
    exact ⟨mt start.mp outside, n, by simp only [StringSpan.shift]; omega, behind.symm ▸ rest.symm ▸ ends⟩

/-- A string starts where the reader enters one. -/
theorem StringFrom.inString (read : StringFrom s cs part) : InString s cs (part.start + 1) := by
  obtain ⟨-, n, -, ends⟩ := read
  have inside := ends.inString
  rwa [InString, ← scanTo_add] at inside

theorem mem_map_shift {found : List StringSpan}
    (each : ∀ part, part ∈ found ↔ StringFrom (scanTo true m s cs) (cs.drop m) part) :
    part ∈ found.map (StringSpan.shift m) ↔ m ≤ part.start ∧ StringFrom s cs part := by
  rw [List.mem_map]
  constructor
  · rintro ⟨part, listed, rfl⟩
    exact ⟨Nat.le_add_right _ _, (stringFrom_shift m).mpr ((each part).mp listed)⟩
  · rintro ⟨later, read⟩
    obtain ⟨-, n, stop, -⟩ := id read
    have same : (⟨part.start - m, part.stop - m, part.closed⟩ : StringSpan).shift m = part := by
      rw [StringSpan.shift, Nat.add_sub_of_le later, Nat.add_sub_of_le (by omega)]
    exact ⟨_, (each _).mpr ((stringFrom_shift m).mp (same.symm ▸ read)), same⟩

theorem step_of_ready (ready : Ready s (c :: cs)) (noQuote : ¬IsQuote (emitted true s c cs.head?))
    (noRegex : (step true s c cs.head?).mode.isRegex = false) :
    (step true s c cs.head?).mode.isString = false ∧ Ready (step true s c cs.head?) cs := by
  have outside : (step true s c cs.head?).mode.isString = false := by
    cases ready with
    | outside noString noRegex =>
      rcases quote_or_outside noString noRegex with ⟨quote, kept, -⟩ | ⟨-, outside⟩
      · exact absurd (kept ▸ quote) noQuote
      · exact outside
    | broken quoted newline =>
      obtain rfl : c = '\n' := Option.some.inj newline
      rw [step_quoted_last quoted (by decide) (.inr rfl)]
      rfl
    | done nothing => cases nothing
  exact ⟨outside, .outside outside noRegex⟩

theorem quote_of_ready (ready : Ready s (c :: cs)) (quote : IsQuote (emitted true s c cs.head?)) :
    s.mode.isString = false ∧ emitted true s c cs.head? = c ∧ (step true s c cs.head?).mode = .quoted c := by
  cases ready with
  | outside noString noRegex =>
    rcases quote_or_outside noString noRegex with ⟨-, both⟩ | ⟨noQuote, -⟩
    · exact ⟨noString, both⟩
    · exact absurd quote noQuote
  | broken quoted newline =>
    obtain rfl : c = '\n' := Option.some.inj newline
    rw [emitted_of_isString (isString_of_quoted quoted)] at quote
    exact absurd quote (by decide)
  | done nothing => cases nothing

theorem scanTo_one (s : State) (c : Char) (cs : List Char) :
    scanTo true 1 s (c :: cs) = step true s c cs.head? := by
  cases cs <;> rfl

/-- No string starts with a character that is written as no quote. -/
theorem mem_strings_of_not_isQuote (noQuote : ¬IsQuote (emitted true s c cs.head?))
    (outside : (step true s c cs.head?).mode.isString = false)
    (found : ∀ part, part ∈ Token.strings (output true (step true s c cs.head?) cs) ↔
      StringFrom (step true s c cs.head?) cs part) :
    part ∈ Token.strings (output true s (c :: cs)) ↔ StringFrom s (c :: cs) part := by
  rw [← scanTo_one s c cs] at found
  rw [output, Token.strings_cons_of_not_isQuote noQuote, ← scanTo_one s c cs, mem_map_shift found, and_iff_right_iff_imp]
  intro read
  by_contra first
  have inside := read.inString
  rw [Nat.lt_one_iff.mp (Nat.lt_of_not_le first), InString, scanTo_one, outside] at inside
  cases inside

/-- The string that starts with the first character, in a text where it ends after some more. -/
theorem stringFrom_of_ends {n : Nat} {closed : Bool} (outside : s.mode.isString = false)
    (ends : Ends (step true s c cs.head?) cs n closed) (first : part.start < n + 1) :
    StringFrom s (c :: cs) part ↔ part = ⟨0, n + 1, closed⟩ := by
  constructor
  · intro read
    obtain ⟨start, stop, closed'⟩ := part
    cases start with
    | zero =>
      obtain ⟨-, m, stop, ends'⟩ := read
      simp only [Nat.zero_add, scanTo_one, List.drop_succ_cons, List.drop_zero] at stop ends'
      obtain ⟨rfl, rfl⟩ := ends.unique ends'
      rw [stop]
    | succ start =>
      -- The reader is inside of the first string up to its end, and so it enters no other one there.
      exact absurd (ends.inside start (Nat.lt_of_succ_lt_succ first)) read.outside
  · rintro rfl
    refine ⟨?_, n, by simp, ?_⟩
    · simpa [InString, scanTo] using outside
    · simpa [scanTo_one] using ends

/-- With a quote starts a string that both readers read, and the next ones start behind it. -/
theorem mem_strings_of_isQuote {n : Nat} {text : Option (List Char)} (outside : s.mode.isString = false) (quote : IsQuote c)
    (kept : emitted true s c cs.head? = c) (lockstep : Lockstep c (step true s c cs.head?) cs n text)
    (found : ∀ part, part ∈ Token.strings (output true (scanTo true n (step true s c cs.head?) cs) (cs.drop n)) ↔
      StringFrom (scanTo true n (step true s c cs.head?) cs) (cs.drop n) part) :
    part ∈ Token.strings (output true s (c :: cs)) ↔ StringFrom s (c :: cs) part := by
  set written := output true (step true s c cs.head?) cs with same
  have length : (c :: written.take n).length = n + 1 := by
    rw [List.length_cons, List.length_take, same, length_output, Nat.min_eq_left lockstep.length]
  have read (p : Position) : Token.readString c p (written.take n ++ written.drop n) =
      (text, p.advance (written.take n), written.drop n) := by
    rw [List.take_append_drop]
    exact lockstep.read p
  have listed := Token.strings_cons_of_isQuote quote read
  rw [List.take_append_drop, length, same, drop_output] at listed
  have behind : part ∈ (Token.strings _).map (StringSpan.shift (n + 1)) ↔
      n + 1 ≤ part.start ∧ StringFrom s (c :: cs) part := mem_map_shift found
  rw [output, kept, listed, List.mem_cons, behind]
  rcases Nat.lt_or_ge part.start (n + 1) with first | later
  · rw [stringFrom_of_ends outside lockstep.ends first, or_iff_left fun both => absurd both.1 (Nat.not_le_of_lt first)]
  · rw [and_iff_right later, or_iff_right_iff_imp]
    rintro rfl
    cases later

/-- The strings in what one reader writes are those that it was inside of. -/
theorem mem_strings_output (ready : Ready s cs) (noRegex : ∀ k ≤ cs.length, (scanTo true k s cs).mode.isRegex = false)
    (part : StringSpan) : part ∈ Token.strings (output true s cs) ↔ StringFrom s cs part := by
  induction length : cs.length using Nat.strong_induction_on generalizing s cs part with
  | _ size ih =>
    cases cs with
    | nil =>
      constructor
      · intro listed
        simp [output, Token.strings] at listed
      · intro read
        have inside := read.inString
        rw [InString, scanTo_nil] at inside
        exact absurd inside (by simpa [InString, scanTo_nil] using read.outside)
    | cons c cs =>
      rw [List.length_cons] at length noRegex
      have behind (k : Nat) (inside : k ≤ cs.length) :
          (scanTo true k (step true s c cs.head?) cs).mode.isRegex = false :=
        noRegex (k + 1) (Nat.succ_le_succ inside)
      by_cases quote : IsQuote (emitted true s c cs.head?)
      · obtain ⟨outside, kept, entered⟩ := quote_of_ready ready quote
        obtain ⟨n, text, lockstep⟩ := exists_lockstep c (kept ▸ quote) cs _ entered
        refine mem_strings_of_isQuote outside (kept ▸ quote) kept lockstep fun part => ?_
        refine ih (cs.drop n).length ?_ lockstep.ready (fun k inside => ?_) part rfl
        · rw [List.length_drop]
          omega
        · rw [List.length_drop] at inside
          rw [← scanTo_add]
          exact behind (n + k) (by have := lockstep.length; omega)
      · obtain ⟨outside, ready⟩ := step_of_ready ready quote (scanTo_one s c cs ▸ noRegex 1 (by omega))
        exact mem_strings_of_not_isQuote quote outside fun part => ih cs.length (by omega) ready behind part rfl

end Finding

section Belonging

variable {s : State} {cs : List Char} {n : Nat} {part : StringSpan}

theorem exists_ends (inside : InString s cs 0) : ∃ n closed, Ends s cs n closed := by
  classical
  by_cases leaves : ∃ k, ¬InString s cs (k + 1)
  · have all : ∀ k ≤ Nat.find leaves, InString s cs k := by
      intro k le
      cases k with
      | zero => exact inside
      | succ k => exact Decidable.not_not.mp (Nat.find_min leaves le)
    by_cases newline : cs[Nat.find leaves]? = some '\n'
    · exact ⟨_, false, .broken ⟨all, Nat.find_spec leaves⟩ newline⟩
    · exact ⟨_, true, .closed ⟨all, Nat.find_spec leaves⟩ newline⟩
  · refine ⟨_, false, .unfinished fun k => ?_⟩
    cases k with
    | zero => exact inside
    | succ k => exact Decidable.not_not.mp fun outside => leaves ⟨k, outside⟩

/-- Going back from the inside of a string, the character with which the reader has entered it is found. -/
theorem exists_start (outside : ¬InString s cs 0) (inside : InString s cs n) :
    ∃ i < n, ¬InString s cs i ∧ ∀ k, i < k → k ≤ n → InString s cs k := by
  induction n with
  | zero => exact absurd inside outside
  | succ n ih =>
    by_cases before : InString s cs n
    · obtain ⟨i, less, enters, between⟩ := ih before
      refine ⟨i, Nat.lt_succ_of_lt less, enters, fun k after le => ?_⟩
      rcases Nat.le_succ_iff.mp le with le | rfl
      · exact between k after le
      · exact inside
    · refine ⟨n, Nat.lt_succ_self n, before, fun k after le => ?_⟩
      rwa [Nat.le_antisymm le after]

/-- The end of a string is behind every character that belongs to it. -/
theorem Ends.lt {m k : Nat} {closed : Bool} (ends : Ends s cs m closed) (listed : k < cs.length)
    (inside : ∀ i ≤ k, InString s cs i) (last : InString s cs (k + 1) ∨ cs[k]? ≠ some '\n') : k < m := by
  have notOut {m : Nat} (leaves : LeavesWith s cs m) : k ≤ m := by
    by_contra more
    exact leaves.outside (inside (m + 1) (Nat.lt_of_not_le more))
  cases ends with
  | closed leaves => exact Nat.lt_succ_of_le (notOut leaves)
  | broken leaves newline =>
    refine Nat.lt_of_le_of_ne (notOut leaves) ?_
    rintro rfl
    exact last.elim leaves.outside fun inLine => inLine newline
  | unfinished => exact listed

theorem LeavesWith.lt {m : Nat} (leaves : LeavesWith s cs m) : m < cs.length := by
  by_contra past
  have inside := leaves.inside m (Nat.le_refl m)
  have outside := leaves.outside
  rw [InString, scanTo_of_end (List.getElem?_eq_none (Nat.le_of_not_lt past))] at outside
  exact outside inside

/-- Every character before the end of a string belongs to it. -/
theorem Ends.belongs {m k : Nat} {closed : Bool} (ends : Ends s cs m closed) (before : k < m) : BelongsToString s cs k := by
  have inside := ends.inside k before
  cases ends with
  | closed leaves inLine =>
    refine ⟨Nat.lt_of_le_of_lt (Nat.le_of_lt_succ before) leaves.lt, .inl inside, ?_⟩
    rcases Nat.lt_succ_iff_lt_or_eq.mp before with earlier | rfl
    · exact .inl (leaves.inside (k + 1) earlier)
    · exact .inr inLine
  | broken leaves => exact ⟨before.trans leaves.lt, .inl inside, .inl (leaves.inside (k + 1) before)⟩
  | unfinished all => exact ⟨before, .inl inside, .inl (all (k + 1))⟩

theorem belongsToString_add (s : State) (cs : List Char) (m k : Nat) :
    BelongsToString s cs (m + k) ↔ BelongsToString (scanTo true m s cs) (cs.drop m) k := by
  have listed : m + k < cs.length ↔ k < (cs.drop m).length := by
    rw [List.length_drop]
    omega
  constructor
  · rintro ⟨inside, here, last⟩
    rw [Nat.add_assoc, inString_add] at here last
    rw [inString_add] at here
    rw [← List.getElem?_drop] at last
    exact ⟨listed.mp inside, here, last⟩
  · rintro ⟨inside, here, last⟩
    refine ⟨listed.mpr inside, ?_, ?_⟩
    · rwa [Nat.add_assoc, inString_add, inString_add]
    · rwa [Nat.add_assoc, inString_add, ← List.getElem?_drop]

/-- The characters that belong to strings are those between the ends of strings. -/
theorem belongsToString_iff (outside : ¬InString s cs 0) :
    BelongsToString s cs n ↔ ∃ part, StringFrom s cs part ∧ part.start ≤ n ∧ n < part.stop := by
  constructor
  · intro belongs
    obtain ⟨i, le, enters, entered, between⟩ : ∃ i ≤ n, ¬InString s cs i ∧ InString s cs (i + 1) ∧
        ∀ k, i < k → k ≤ n → InString s cs k := by
      by_cases here : InString s cs n
      · obtain ⟨i, less, enters, between⟩ := exists_start outside here
        exact ⟨i, Nat.le_of_lt less, enters, between (i + 1) (Nat.lt_succ_self i) less, between⟩
      · refine ⟨n, Nat.le_refl n, here, belongs.inside.resolve_left here, fun k after le => ?_⟩
        exact absurd after (Nat.not_lt_of_le le)
    obtain ⟨m, closed, ends⟩ := exists_ends ((inString_add s cs (i + 1) 0).mp entered)
    refine ⟨⟨i, i + (m + 1), closed⟩, ⟨enters, m, rfl, ends⟩, le, ?_⟩
    rcases Nat.eq_or_lt_of_le le with rfl | later
    · simp
    · obtain ⟨k, rfl⟩ := Nat.exists_eq_add_of_le later
      rw [belongsToString_add] at belongs
      have less : k < m := by
        refine ends.lt belongs.listed (fun j le => ?_) belongs.last
        exact (inString_add s cs (i + 1) j).mp (between _ (by omega) (by omega))
      show i + 1 + k < i + (m + 1)
      omega
  · rintro ⟨part, read, start, before⟩
    have entered := read.inString
    obtain ⟨enters, m, stop, ends⟩ := read
    rcases Nat.eq_or_lt_of_le start with rfl | later
    · have listed : part.start < cs.length := by
        by_contra past
        rw [InString, scanTo_of_end (List.getElem?_eq_none (Nat.le_of_not_lt past))] at entered
        exact enters entered
      exact ⟨listed, .inr entered, .inl entered⟩
    · obtain ⟨k, rfl⟩ := Nat.exists_eq_add_of_le later
      exact (belongsToString_add s cs (part.start + 1) k).mpr (ends.belongs (by omega))

end Belonging

section Agreeing

variable {text clean : String} {ss : List Token.Span} {part : StringSpan} {s : Token.Span} {n : Nat}

/-- What is read as strings in the tokens of a text are the parts of the text from quote to quote. -/
theorem mem_string?_spans :
    part ∈ (Token.spans clean).filterMap Token.Span.string? ↔ part ∈ Token.strings clean.toList := by
  rw [Token.spans, (Token.reads_spansFrom 0 .start true clean.toList).filterMap_string?, StringSpan.shift_zero, List.map_id]

/-- A character of a token is read as part of a string only if the token is. -/
theorem isSome_of_covered (cuts : Token.Cuts clean ss) (listed : s ∈ ss) (start : s.start ≤ n) (stop : n < s.stop)
    (covered : ∃ part ∈ ss.filterMap Token.Span.string?, part.start ≤ n ∧ n < part.stop) : s.closed?.isSome = true := by
  obtain ⟨part, found, start', stop'⟩ := covered
  obtain ⟨other, listed', string⟩ := List.mem_filterMap.mp found
  obtain ⟨closed, read, rfl⟩ := Option.map_eq_some_iff.mp string
  obtain rfl := cuts.eq_of_overlap listed listed' ⟨start, stop⟩ ⟨start', stop'⟩
  rw [read, Option.isSome_some]

/-- The two readers of a text agree on its strings: the tokens that are read as strings in the sanitised text are the parts
from where the first reader enters a string to where that ends, closed or not, and they cover the characters that belong
to strings. No other token has such a character. -/
structure StringsAgree (text : String) (ss : List Token.Span) : Prop where
  cuts : Token.Cuts (sanitize true text) ss
  strings : ∀ part, part ∈ ss.filterMap Token.Span.string? ↔ StringFrom .initial text.toList part
  cover : ∀ n, BelongsToString .initial text.toList n ↔
    ∃ part ∈ ss.filterMap Token.Span.string?, part.start ≤ n ∧ n < part.stop
  kinds : ∀ s ∈ ss, ∀ n, s.start ≤ n → n < s.stop →
    (BelongsToString .initial text.toList n ↔ s.closed?.isSome = true)

/-- In a text without regular expressions, strings end where both readers see their ends. -/
theorem strings_agree (text : String) (noRegex : ∀ n ≤ text.toList.length, (reached true text n).mode.isRegex = false) :
    StringsAgree text (Token.spans (sanitize true text)) := by
  have cuts := Token.cuts_spans (sanitize true text)
  have strings (part : StringSpan) : part ∈ (Token.spans (sanitize true text)).filterMap Token.Span.string? ↔
      StringFrom .initial text.toList part := by
    rw [mem_string?_spans, toList_sanitize]
    exact mem_strings_output (.outside rfl rfl) noRegex part
  have cover (n : Nat) : BelongsToString .initial text.toList n ↔
      ∃ part ∈ (Token.spans (sanitize true text)).filterMap Token.Span.string?, part.start ≤ n ∧ n < part.stop := by
    simp only [strings]
    exact belongsToString_iff Bool.false_ne_true
  refine ⟨cuts, strings, cover, fun s listed n start stop => ⟨fun belongs => ?_, fun string => ?_⟩⟩
  · exact isSome_of_covered cuts listed start stop ((cover n).mp belongs)
  · obtain ⟨closed, read⟩ := Option.isSome_iff_exists.mp string
    have found : s.string? = some ⟨s.start, s.stop, closed⟩ := by rw [Token.Span.string?, read, Option.map_some]
    exact (cover n).mpr ⟨_, List.mem_filterMap.mpr ⟨s, listed, found⟩, start, stop⟩

/-- An escaped quote, an escaped line break, a quote that only stands in a template, a string in one of its expressions, and
a string that its line ends. -/
def brokenStrings : String := "'a\\'\\\n'+`'$\x7b\"b\"\x7d'`+'c\n\"d\""

theorem strings_agree_brokenStrings :
    (∀ n ≤ brokenStrings.toList.length, (reached true brokenStrings n).mode.isRegex = false) ∧
    StringFrom .initial brokenStrings.toList ⟨0, 7, true⟩ ∧
    StringFrom .initial brokenStrings.toList ⟨12, 15, true⟩ ∧
    StringFrom .initial brokenStrings.toList ⟨19, 21, false⟩ ∧
    ¬BelongsToString .initial brokenStrings.toList 9 := by
  have noRegex : ∀ n ≤ brokenStrings.toList.length, (reached true brokenStrings n).mode.isRegex = false := by
    decide +kernel
  have agree := strings_agree brokenStrings noRegex
  refine ⟨noRegex, (agree.strings _).mp ?_, (agree.strings _).mp ?_, (agree.strings _).mp ?_, fun belongs => ?_⟩
  · decide +kernel
  · decide +kernel
  · decide +kernel
  · exact absurd ((agree.cover 9).mp belongs) (by decide +kernel)

end Agreeing

end Layering.Source
