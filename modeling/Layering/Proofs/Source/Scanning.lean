import Layering.Proofs.Source.Grammar
import Layering.Proofs.Source.Steps
import Mathlib.Data.List.Infix

/-! Reading the parts of a text that hold no other parts: plain characters, strings, comments and regular expressions.
Each is read to its end wherever it stands and whatever comes after it. -/
namespace Layering.Source

@[simp] theorem scan_nil (blankTemplates : Bool) (s : State) : scan blankTemplates s [] = s := rfl

theorem scan_plain (blankTemplates : Bool) {c : Char} (depths : List Nat) (before rest : List Char)
    (plain : c ∉ turns) :
    scan blankTemplates ⟨.code, depths, before⟩ (c :: rest) =
      scan blankTemplates ⟨.code, depths, c :: before⟩ rest := by
  simp only [turns, List.mem_cons, List.not_mem_nil, or_false, not_or] at plain
  simp [scan, step, stepCode, State.emit, plain]

section Comments

variable (blankTemplates : Bool) {body : List Char} (depths : List Nat) (before rest : List Char)

theorem scan_lineRest (oneLine : '\n' ∉ body) :
    scan blankTemplates ⟨.lineComment, depths, before⟩ (body ++ rest) =
      scan blankTemplates ⟨.lineComment, depths, (body.map blank).reverse ++ before⟩ rest := by
  induction body generalizing before with
  | nil => rfl
  | cons c body ih =>
    have other : c ≠ '\n' := fun same => oneLine (same ▸ List.mem_cons_self)
    have later := ih (blank c :: before) fun member => oneLine (List.mem_cons_of_mem _ member)
    simpa [scan, step, State.emit, other] using later

/-- A comment to the end of the line, as far as its line goes. -/
theorem scan_lineComment (oneLine : '\n' ∉ body) :
    scan blankTemplates ⟨.code, depths, before⟩ ('/' :: '/' :: (body ++ rest)) =
      scan blankTemplates ⟨.lineComment, depths, (('/' :: '/' :: body).map blank).reverse ++ before⟩ rest := by
  have later := scan_lineRest blankTemplates depths (' ' :: ' ' :: before) rest oneLine
  simpa [scan, step, stepCode, State.emit, blank] using later

theorem scan_lineEnd : scan blankTemplates ⟨.lineComment, depths, before⟩ ('\n' :: rest) =
    scan blankTemplates ⟨.code, depths, '\n' :: before⟩ rest := by
  simp [scan, step, State.emit, blank]

theorem scan_blockRest (notClosed : ¬['*', '/'] <:+: body) :
    scan blankTemplates ⟨.blockComment, depths, before⟩ (body ++ '*' :: '/' :: rest) =
      scan blankTemplates ⟨.code, depths, ((body ++ ['*', '/']).map blank).reverse ++ before⟩ rest := by
  induction body generalizing before with
  | nil => simp [scan, step, State.emit]
  | cons c body ih =>
    have later := ih (blank c :: before) fun inside => notClosed (inside.trans (List.suffix_cons c body).isInfix)
    have stays : ¬(c = '*' ∧ (body ++ '*' :: '/' :: rest).head? = some '/') := by
      rintro ⟨rfl, closes⟩
      cases body with
      | nil => simp at closes
      | cons d body =>
        obtain rfl : d = '/' := by simpa using closes
        exact notClosed (List.prefix_append ['*', '/'] body).isInfix
    simp only [List.cons_append, scan, step, State.emit, if_neg stays]
    simpa using later

theorem scan_blockComment (notClosed : ¬['*', '/'] <:+: body) :
    scan blankTemplates ⟨.code, depths, before⟩ ('/' :: '*' :: (body ++ '*' :: '/' :: rest)) =
      scan blankTemplates ⟨.code, depths, (('/' :: '*' :: (body ++ ['*', '/'])).map blank).reverse ++ before⟩ rest := by
  have later := scan_blockRest blankTemplates depths (' ' :: ' ' :: before) rest notClosed
  simpa [scan, step, stepCode, State.emit, blank] using later

end Comments

section Strings

theorem StringRest.ne_newline {quote c : Char} {cs : List Char} (string : StringRest quote cs)
    (visible : quote ≠ '\n') (first : cs.head? = some c) : c ≠ '\n' := by
  cases string with
  | close => simpa [← Option.some.inj first] using visible
  | char plain _ => exact Option.some.inj first ▸ plain.2.1
  | escape => simp [← Option.some.inj first]
  | escapedBreak => simp [← Option.some.inj first]

/-- A string without escapes. -/
theorem stringRest_plain {quote : Char} {text : List Char} (plain : ∀ c ∈ text, c ≠ '\\' ∧ c ≠ '\n' ∧ c ≠ quote) :
    StringRest quote (text ++ [quote]) := by
  induction text with
  | nil => exact .close
  | cons c text ih =>
    exact .char (plain c List.mem_cons_self) (ih fun d member => plain d (List.mem_cons_of_mem _ member))

variable (blankTemplates : Bool) {quote : Char} {cs : List Char} (depths : List Nat) (before rest : List Char)

theorem scan_stringRest (isQuote : quote = '\'' ∨ quote = '"') (string : StringRest quote cs) :
    scan blankTemplates ⟨.quoted quote, depths, before⟩ (cs ++ rest) =
      scan blankTemplates ⟨.code, depths, cs.reverse ++ before⟩ rest := by
  have solid : quote ≠ '\\' ∧ quote ≠ '\n' := by rcases isQuote with rfl | rfl <;> decide
  induction string generalizing before with
  | close => simp [scan, step, State.emit, solid.1]
  | @char c cs plain _ ih => simpa [scan, step, State.emit, plain] using ih (c :: before)
  | @escape c cs string ih =>
    -- What comes after an escape is no line break of its own, so that no escaped break is split.
    have single : ¬(c = '\r' ∧ (cs ++ rest).head? = some '\n') := by
      rintro ⟨-, next⟩
      cases cs with
      | nil => cases string
      | cons d cs => exact string.ne_newline solid.2 rfl (Option.some.inj next)
    simp only [List.cons_append, scan, step, State.emit, if_pos, if_neg single]
    simpa using ih (c :: '\\' :: before)
  | @escapedBreak cs _ ih => simpa [scan, step, State.emit] using ih ('\n' :: '\r' :: '\\' :: before)

theorem scan_string (isQuote : quote = '\'' ∨ quote = '"') (string : StringRest quote cs) :
    scan blankTemplates ⟨.code, depths, before⟩ (quote :: (cs ++ rest)) =
      scan blankTemplates ⟨.code, depths, (quote :: cs).reverse ++ before⟩ rest := by
  have inside := scan_stringRest blankTemplates depths (quote :: before) rest isQuote string
  rcases isQuote with rfl | rfl <;> simpa [scan, step, stepCode, State.emit] using inside

end Strings

section RegularExpressions

variable (blankTemplates : Bool) {cs : List Char} (depths : List Nat) (before rest : List Char)

theorem scan_regexRest {inClass : Bool} (regex : RegexRest inClass cs) :
    scan blankTemplates ⟨.regex inClass, depths, before⟩ (cs ++ rest) =
      scan blankTemplates ⟨.code, depths, cs.reverse ++ before⟩ rest := by
  induction regex generalizing before with
  | close => simp [scan, step, State.emit]
  | @char c cs plain _ ih =>
    simp only [List.mem_cons, List.not_mem_nil, or_false, not_or] at plain
    simpa [scan, step, State.emit, plain] using ih (c :: before)
  | openClass _ ih => simpa [scan, step, State.emit] using ih ('[' :: before)
  | @classChar c cs plain _ ih =>
    simp only [List.mem_cons, List.not_mem_nil, or_false, not_or] at plain
    simpa [scan, step, State.emit, plain] using ih (c :: before)
  | closeClass _ ih => simpa [scan, step, State.emit] using ih (']' :: before)
  | @escape inClass c cs inLine _ ih => simpa [scan, step, State.emit, inLine] using ih (c :: '\\' :: before)

theorem scan_regex (opens : opensRegex before = true) (noComment : cs.head? ≠ some '*' ∧ cs.head? ≠ some '/')
    (regex : RegexRest false cs) :
    scan blankTemplates ⟨.code, depths, before⟩ ('/' :: (cs ++ rest)) =
      scan blankTemplates ⟨.code, depths, ('/' :: cs).reverse ++ before⟩ rest := by
  have inside := scan_regexRest blankTemplates depths ('/' :: before) rest regex
  have next : (cs ++ rest).head? = cs.head? := by
    cases regex <;> rfl
  simpa [scan, step, stepCode, State.emit, next, noComment, opens] using inside

end RegularExpressions

end Layering.Source
