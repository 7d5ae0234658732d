import Layering.Text.Character

/-! Source text with its comments blanked, and on demand the literal text of its templates as well. Every
character stays in its place: it is kept or becomes a space, and a line break is always kept, so that lines and
columns of the sanitised text are those of the source.

A slash opens a regular expression where the code before it cannot end an operand: after an operator or
punctuation other than a closing bracket and the less-than sign, after a word such as return, and at the start
of the text. The rule looks at the text alone, so a regular expression right after a closing brace is read as
a division. -/
namespace Layering.Source

/-- What the reader is inside of. The modes that end in Open, Close, Escape or Break stand for the second and
third characters of the marks that are longer than one character. -/
inductive Mode where
  | code
  | lineComment
  | blockOpen
  | blockComment
  | blockClose
  | quoted (quote : Char)
  | quotedEscape (quote : Char)
  | quotedBreak (quote : Char)
  | regex (inClass : Bool)
  | regexEscape (inClass : Bool)
  | template
  | templateEscape
  | templateOpen
  deriving Repr, DecidableEq

/-- The state of the reader between two characters. -/
structure State where
  mode : Mode
  /-- For each open expression of a template the number of braces open in it, innermost first. -/
  depths : List Nat
  /-- The sanitised text so far, last character first. -/
  before : List Char

namespace State

def initial : State := ⟨.code, [], []⟩

/-- Writes one character and goes on in the given mode. -/
def emit (s : State) (mode : Mode) (c : Char) : State :=
  { s with mode, before := c :: s.before }

end State

/-- The space that takes a character's place; a line break stays. -/
def blank (c : Char) : Char := if c = '\n' then '\n' else ' '

/-- Words that an operand must follow. -/
def operatorWords : List String :=
  ["return", "typeof", "instanceof", "in", "of", "new", "delete", "void", "throw", "case", "do",
   "else", "yield", "await"]

/-- Whether a slash after the given text, last character first, opens a regular expression. -/
def opensRegex (before : List Char) : Bool :=
  match before.dropWhile Text.isBlank with
  | [] => true
  | c :: rest =>
    if c ∈ [')', ']', '}', '<', '\'', '"', '`'] then false
    else if Text.isIdentifierChar c then
      .ofList ((c :: rest).takeWhile Text.isIdentifierChar).reverse ∈ operatorWords
    else true

/-- Reads one character of code. A brace closes the expression of a template when no brace opened in the
expression is left. -/
def stepCode (blankTemplates : Bool) (s : State) (c : Char) (next : Option Char) : State :=
  if c = '/' then
    if next = some '/' then s.emit .lineComment ' '
    else if next = some '*' then s.emit .blockOpen ' '
    else if opensRegex s.before then s.emit (.regex false) c
    else s.emit .code c
  else if c = '\'' ∨ c = '"' then s.emit (.quoted c) c
  else if c = '`' then s.emit .template c
  else if c = '{' then
    match s.depths with
    | [] => s.emit .code c
    | depth :: depths => { s.emit .code c with depths := (depth + 1) :: depths }
  else if c = '}' then
    match s.depths with
    | [] => s.emit .code c
    | 0 :: depths => { s.emit .template (if blankTemplates then ' ' else c) with depths }
    | (depth + 1) :: depths => { s.emit .code c with depths := depth :: depths }
  else s.emit .code c

/-- Reads one character, with a look at the next one. -/
def step (blankTemplates : Bool) (s : State) (c : Char) (next : Option Char) : State :=
  let literal := if blankTemplates then blank c else c
  match s.mode with
  | .code => stepCode blankTemplates s c next
  | .lineComment => s.emit (if c = '\n' then .code else .lineComment) (blank c)
  | .blockOpen => s.emit .blockComment (blank c)
  | .blockComment =>
    s.emit (if c = '*' ∧ next = some '/' then .blockClose else .blockComment) (blank c)
  | .blockClose => s.emit .code (blank c)
  | .quoted quote =>
    if c = '\\' then s.emit (.quotedEscape quote) c
    else s.emit (if c = quote ∨ c = '\n' then .code else .quoted quote) c
  | .quotedEscape quote =>
    s.emit (if c = '\r' ∧ next = some '\n' then .quotedBreak quote else .quoted quote) c
  | .quotedBreak quote => s.emit (.quoted quote) c
  | .regex inClass =>
    s.emit
      (if c = '\\' then .regexEscape inClass
       else if c = '[' then .regex true
       else if c = ']' then .regex false
       else if c = '\n' ∨ (c = '/' ∧ inClass = false) then .code
       else .regex inClass) c
  | .regexEscape inClass => s.emit (if c = '\n' then .code else .regex inClass) c
  | .template =>
    if c = '`' then s.emit .code c
    else if c = '\\' then s.emit .templateEscape literal
    else s.emit (if c = '$' ∧ next = some '{' then .templateOpen else .template) literal
  | .templateEscape => s.emit .template literal
  | .templateOpen => { s.emit .code literal with depths := 0 :: s.depths }

/-- Reads a text to its end. -/
def scan (blankTemplates : Bool) : State → List Char → State
  | s, [] => s
  | s, c :: cs => scan blankTemplates (step blankTemplates s c cs.head?) cs

/-- The text with comments blanked, and with the literal text of templates blanked too if asked. Quotes and
backquotes stay. -/
def sanitize (blankTemplates : Bool) (text : String) : String :=
  .ofList (scan blankTemplates .initial text.toList).before.reverse

end Layering.Source
