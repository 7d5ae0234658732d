import Layering.Proofs.Source.Scanning
import Layering.Proofs.Source.Readings

/-! Sanitising a text of the grammar blanks its comments, and on demand the text of its templates, and nothing else.
What the reader has written so far says where a slash opens a regular expression, and so the text before is carried
along. -/
namespace Layering.Source

/-- What becomes of a character. -/
def Marked.shown (blankTemplates : Bool) (m : Marked) : Char :=
  match m.region with
  | .code => m.char
  | .comment => blank m.char
  | .literal => if blankTemplates then blank m.char else m.char

/-- The sanitised text, last character first. -/
def written (blankTemplates : Bool) (ms : List Marked) : List Char := (ms.map (Marked.shown blankTemplates)).reverse

section Writing

variable {blankTemplates : Bool}

@[simp] theorem written_append (before ms : List Marked) :
    written blankTemplates (before ++ ms) = written blankTemplates ms ++ written blankTemplates before := by
  simp [written]

@[simp] theorem written_code (cs : List Char) : written blankTemplates (Region.mark .code cs) = cs.reverse := by
  simp [written, Region.mark, Function.comp_def, Marked.shown]

@[simp] theorem written_comment (cs : List Char) :
    written blankTemplates (Region.mark .comment cs) = (cs.map blank).reverse := by
  simp [written, Region.mark, Function.comp_def, Marked.shown]

@[simp] theorem written_literal (cs : List Char) : written blankTemplates (Region.mark .literal cs) =
    (cs.map fun c => if blankTemplates then blank c else c).reverse := by
  simp [written, Region.mark, Function.comp_def, Marked.shown]

@[simp] theorem char_mark (region : Region) (cs : List Char) : (region.mark cs).map Marked.char = cs := by
  simp [Region.mark, Function.comp_def]

end Writing

section LookingBack

variable {blankTemplates : Bool}

theorem isBlank_shown {m : Marked} (hidden : m.isVisible = false) :
    Text.isBlank (m.shown blankTemplates) = true := by
  obtain ⟨c, region⟩ := m
  cases region with
  | code => simpa [Marked.isVisible, Marked.shown] using hidden
  | comment => exact isBlank_blank c
  | literal =>
    have white : Text.isBlank c = true := by simpa [Marked.isVisible] using hidden
    cases blankTemplates
    · exact white
    · exact isBlank_blank c

/-- A slash opens a regular expression after such a text, whatever was blanked in it. -/
theorem opensRegex_of_awaitsOperand {before : List Marked} (awaits : AwaitsOperand before) :
    opensRegex (written blankTemplates before) = true := by
  obtain ⟨c, opener, last⟩ := awaits
  obtain ⟨-, hidden, earlier, whole, hides⟩ := List.find?_eq_some_iff_append.mp last
  have each : openers.all (fun c => opensRegex [c] && !Text.isBlank c && !Text.isIdentifierChar c) = true := by decide
  obtain ⟨⟨opens, solid⟩, other⟩ :
      (opensRegex [c] = true ∧ Text.isBlank c = false) ∧ Text.isIdentifierChar c = false := by
    simpa using List.all_eq_true.mp each c opener
  have text : written blankTemplates before =
      hidden.map (Marked.shown blankTemplates) ++ c :: earlier.map (Marked.shown blankTemplates) := by
    rw [written, ← List.map_reverse, whole]
    simp [Marked.shown]
  have white : ∀ d ∈ hidden.map (Marked.shown blankTemplates), Text.isBlank d = true := by
    intro d member
    obtain ⟨m, skipped, rfl⟩ := List.mem_map.mp member
    exact isBlank_shown (by simpa using hides m skipped)
  rw [text, opensRegex_of_blank white]
  simpa [opensRegex, solid, other] using opens

end LookingBack

section Nesting

variable {blankTemplates : Bool}

/-- The open expressions of templates inside of one more block. -/
def insideBlock : List Nat → List Nat
  | [] => []
  | depth :: depths => (depth + 1) :: depths

theorem scan_blockOpen (depths : List Nat) (before rest : List Char) :
    scan blankTemplates ⟨.code, depths, before⟩ ('{' :: rest) =
      scan blankTemplates ⟨.code, insideBlock depths, '{' :: before⟩ rest := by
  cases depths <;> simp [scan, step, stepCode, State.emit, insideBlock]

theorem scan_blockClose (depths : List Nat) (before rest : List Char) :
    scan blankTemplates ⟨.code, insideBlock depths, before⟩ ('}' :: rest) =
      scan blankTemplates ⟨.code, depths, '}' :: before⟩ rest := by
  cases depths <;> simp [scan, step, stepCode, State.emit, insideBlock]

theorem scan_expressionOpen (depths : List Nat) (before : List Marked) (rest : List Char) :
    scan blankTemplates ⟨.template, depths, written blankTemplates before⟩ ('$' :: '{' :: rest) =
      scan blankTemplates ⟨.code, 0 :: depths, written blankTemplates (before ++ Region.mark .literal ['$', '{'])⟩
        rest := by
  simp [scan, step, State.emit]

theorem scan_expressionClose (depths : List Nat) (before : List Marked) (rest : List Char) :
    scan blankTemplates ⟨.code, 0 :: depths, written blankTemplates before⟩ ('}' :: rest) =
      scan blankTemplates ⟨.template, depths, written blankTemplates (before ++ Region.mark .literal ['}'])⟩ rest := by
  simp [scan, step, stepCode, State.emit, blank]

end Nesting

section Reading

variable {blankTemplates : Bool}

/-- After the given text, inside of any blocks and templates, the code is read to its end and shown. -/
def Shows (blankTemplates : Bool) (before ms : List Marked) : Prop :=
  ∀ depths rest, scan blankTemplates ⟨.code, depths, written blankTemplates before⟩ (ms.map Marked.char ++ rest) =
    scan blankTemplates ⟨.code, depths, written blankTemplates (before ++ ms)⟩ rest

/-- The same for the text of a template, which is read up to the backquote after it. -/
def ShowsTemplate (blankTemplates : Bool) (before ms : List Marked) : Prop :=
  ∀ depths rest,
    scan blankTemplates ⟨.template, depths, written blankTemplates before⟩ (ms.map Marked.char ++ '`' :: rest) =
      scan blankTemplates ⟨.template, depths, written blankTemplates (before ++ ms)⟩ ('`' :: rest)

theorem Shows.nil (before : List Marked) : Shows blankTemplates before [] := by
  intro depths rest
  simp

theorem Shows.append {before ms ms' : List Marked} (first : Shows blankTemplates before ms)
    (second : Shows blankTemplates (before ++ ms) ms') : Shows blankTemplates before (ms ++ ms') := by
  intro depths rest
  rw [List.map_append, List.append_assoc, first, second, List.append_assoc]

theorem shows_plain {before : List Marked} {c : Char} (plain : c ∉ turns) :
    Shows blankTemplates before [⟨c, .code⟩] := by
  intro depths rest
  simp [scan_plain, plain, written, Marked.shown]

theorem shows_block {before inner : List Marked}
    (code : Shows blankTemplates (before ++ Region.mark .code ['{']) inner) :
    Shows blankTemplates before (Region.mark .code ['{'] ++ inner ++ Region.mark .code ['}']) := by
  intro depths rest
  have inside := code (insideBlock depths) ('}' :: rest)
  rw [scan_blockClose] at inside
  simpa [scan_blockOpen] using inside

theorem shows_string {before : List Marked} {quote : Char} {cs : List Char} (isQuote : quote = '\'' ∨ quote = '"')
    (string : StringRest quote cs) : Shows blankTemplates before (Region.mark .code (quote :: cs)) := by
  intro depths rest
  simpa using scan_string blankTemplates depths (written blankTemplates before) rest isQuote string

theorem shows_lineComment {before : List Marked} {body : List Char} (oneLine : '\n' ∉ body) :
    Shows blankTemplates before (Region.mark .comment ('/' :: '/' :: (body ++ ['\n']))) := by
  intro depths rest
  have comment := scan_lineComment blankTemplates depths (written blankTemplates before) ('\n' :: rest) oneLine
  rw [scan_lineEnd] at comment
  simpa [blank] using comment

theorem shows_blockComment {before : List Marked} {body : List Char} (notClosed : ¬['*', '/'] <:+: body) :
    Shows blankTemplates before (Region.mark .comment ('/' :: '*' :: (body ++ ['*', '/']))) := by
  intro depths rest
  simpa using scan_blockComment blankTemplates depths (written blankTemplates before) rest notClosed

theorem shows_regex {before : List Marked} {cs : List Char} (awaits : AwaitsOperand before)
    (noComment : cs.head? ≠ some '*' ∧ cs.head? ≠ some '/') (regex : RegexRest false cs) :
    Shows blankTemplates before (Region.mark .code ('/' :: cs)) := by
  intro depths rest
  have opens : opensRegex (written blankTemplates before) = true := opensRegex_of_awaitsOperand awaits
  simpa using scan_regex blankTemplates depths (written blankTemplates before) rest opens noComment regex

theorem shows_template {before inner : List Marked}
    (text : ShowsTemplate blankTemplates (before ++ Region.mark .code ['`']) inner) :
    Shows blankTemplates before (Region.mark .code ['`'] ++ inner ++ Region.mark .code ['`']) := by
  intro depths rest
  have inside := text depths rest
  simpa [scan, step, stepCode, State.emit] using inside

theorem ShowsTemplate.nil (before : List Marked) : ShowsTemplate blankTemplates before [] := by
  intro depths rest
  simp

theorem ShowsTemplate.char {before ms : List Marked} {c : Char} (plain : c ≠ '`' ∧ c ≠ '\\')
    (noMark : c = '$' → ∀ m ∈ ms.head?, m.char ≠ '{')
    (others : ShowsTemplate blankTemplates (before ++ Region.mark .literal [c]) ms) :
    ShowsTemplate blankTemplates before (Region.mark .literal [c] ++ ms) := by
  intro depths rest
  -- The character after a dollar may be the backquote that ends the template.
  have stays : ¬(c = '$' ∧ (ms.map Marked.char ++ '`' :: rest).head? = some '{') := by
    rintro ⟨dollar, next⟩
    cases ms with
    | nil => simp at next
    | cons m ms => exact noMark dollar m rfl (by simpa using next)
  have later := others depths rest
  rw [List.append_assoc] at later
  rw [← later, List.map_append, char_mark, List.append_assoc, List.singleton_append, scan]
  simp only [step, State.emit, if_neg plain.1, if_neg plain.2, if_neg stays]
  simp

theorem ShowsTemplate.escape {before ms : List Marked} {c : Char}
    (others : ShowsTemplate blankTemplates (before ++ Region.mark .literal ['\\', c]) ms) :
    ShowsTemplate blankTemplates before (Region.mark .literal ['\\', c] ++ ms) := by
  intro depths rest
  have later := others depths rest
  simpa [scan, step, State.emit] using later

theorem ShowsTemplate.expression {before inner ms : List Marked}
    (code : Shows blankTemplates (before ++ Region.mark .literal ['$', '{']) inner)
    (others : ShowsTemplate blankTemplates
      (before ++ (Region.mark .literal ['$', '{'] ++ inner ++ Region.mark .literal ['}'])) ms) :
    ShowsTemplate blankTemplates before
      (Region.mark .literal ['$', '{'] ++ inner ++ Region.mark .literal ['}'] ++ ms) := by
  intro depths rest
  have inside := code (0 :: depths) ('}' :: (ms.map Marked.char ++ '`' :: rest))
  rw [scan_expressionClose] at inside
  have later := others depths rest
  simp only [List.map_append, char_mark, List.append_assoc, List.cons_append, List.nil_append] at inside later ⊢
  rw [scan_expressionOpen, inside, later]

mutual

/-- By induction on the derivation. Each part is read after all that stands before it. -/
theorem shows_code {before ms : List Marked} : Code before ms → Shows blankTemplates before ms
  | .nil before => .nil before
  | .cons first others => (shows_element first).append (shows_code others)

theorem shows_element {before ms : List Marked} : Element before ms → Shows blankTemplates before ms
  | .plain plain => shows_plain plain
  | .block code => shows_block (shows_code code)
  | .string isQuote rest => shows_string isQuote rest
  | .lineComment oneLine => shows_lineComment oneLine
  | .blockComment notClosed => shows_blockComment notClosed
  | .regex awaits noComment rest => shows_regex awaits noComment rest
  | .template text => shows_template (showsTemplate text)

theorem showsTemplate {before ms : List Marked} : Template before ms → ShowsTemplate blankTemplates before ms
  | .nil before => .nil before
  | .char plain noMark others => (showsTemplate others).char plain noMark
  | .escape c others => (showsTemplate others).escape
  | .expression code others => .expression (shows_code code) (showsTemplate others)

end

end Reading

/-- Sanitising blanks the comments of a text of the grammar, and on demand the text of its templates, and nothing
else. -/
theorem sanitize_whole {ms : List Marked} (whole : Whole ms) (blankTemplates : Bool) :
    sanitize blankTemplates (.ofList (ms.map Marked.char)) = .ofList (ms.map (Marked.shown blankTemplates)) := by
  have before : (scan blankTemplates .initial (ms.map Marked.char)).before = written blankTemplates ms := by
    cases whole with
    | code code => simpa [written, State.initial] using congrArg State.before (shows_code code [] [])
    | @comment ms body code oneLine =>
      have read : Shows blankTemplates [] ms := shows_code code
      have comment := scan_lineComment blankTemplates [] (written blankTemplates ms) [] oneLine
      rw [List.append_nil] at comment
      rw [List.map_append, char_mark, written_append, written_comment]
      exact congrArg State.before ((read [] _).trans comment)
  rw [sanitize, String.toList_ofList, before, written, List.reverse_reverse]

/-- A regular expression that holds the start of a comment, and a template with a block and a comment in it. -/
def nestedText : List Marked :=
  Region.mark .code ['='] ++ (Region.mark .code ['/', '[', '/', '*', ']', '/'] ++
    ((Region.mark .code ['`'] ++
      (Region.mark .literal ['a'] ++
        (Region.mark .literal ['$', '{'] ++
          ((Region.mark .code ['{'] ++ [] ++ Region.mark .code ['}']) ++
            (Region.mark .comment ['/', '*', '\'', '*', '/'] ++ [])) ++
          Region.mark .literal ['}'] ++ [])) ++
      Region.mark .code ['`']) ++ [])) ++
  Region.mark .comment ['/', '/', 'b']

theorem sanitize_nestedText : Whole nestedText ∧
    sanitize false "=/[/*]/`a$\x7b\x7b\x7d/*'*/\x7d`//b" = "=/[/*]/`a$\x7b\x7b\x7d     \x7d`   " ∧
    sanitize true "=/[/*]/`a$\x7b\x7b\x7d/*'*/\x7d`//b" = "=/[/*]/`   \x7b\x7d      `   " := by
  have regex : RegexRest false ['[', '/', '*', ']', '/'] :=
    .openClass (.classChar (by decide) (.classChar (by decide) (.closeClass .close)))
  have notClosed : ¬['*', '/'] <:+: ['\''] := fun inside => absurd inside.length_le (by decide)
  have inner (before) : Code before ((Region.mark .code ['{'] ++ [] ++ Region.mark .code ['}']) ++
      (Region.mark .comment ['/', '*', '\'', '*', '/'] ++ [])) :=
    .cons (.block (.nil _)) (.cons (.blockComment notClosed) (.nil _))
  have whole : Whole nestedText :=
    .comment (.cons (.plain (by decide)) (.cons (.regex (by decide) (by decide) regex)
      (.cons (.template (.char (by decide) (by decide) (.expression (inner _) (.nil _)))) (.nil _)))) (by decide)
  exact ⟨whole, sanitize_whole whole false, sanitize_whole whole true⟩

end Layering.Source
