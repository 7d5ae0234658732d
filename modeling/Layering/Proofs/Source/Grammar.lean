import Layering.Source.Sanitize

/-! A lexical grammar of source text. It says of every character whether it is code, part of a comment or part of the
text of a template. Code and templates are nested in each other to any depth, and whether a slash can start a regular
expression depends on what stands before it, so that both are defined after a given text. -/
namespace Layering.Source

/-- What a character of a source text belongs to. -/
inductive Region where
  /-- Code: also a string, a regular expression and the backquotes around a template. -/
  | code
  | comment
  /-- The text of a template, and the marks around its expressions. -/
  | literal
  deriving Repr, DecidableEq

/-- A character and what it belongs to. -/
structure Marked where
  char : Char
  region : Region
  deriving Repr, DecidableEq

/-- Characters of one region. -/
def Region.mark (region : Region) (cs : List Char) : List Marked := cs.map fun c => ⟨c, region⟩

/-- The characters that start something. All others are plain. -/
def turns : List Char := ['/', '\'', '"', '`', '{', '}']

/-- The rest of a string after its opening quote, with the closing one. An escaped line break may have two
characters. -/
inductive StringRest (quote : Char) : List Char → Prop where
  | close : StringRest quote [quote]
  | char {c : Char} {cs : List Char} (plain : c ≠ '\\' ∧ c ≠ '\n' ∧ c ≠ quote) (rest : StringRest quote cs) :
      StringRest quote (c :: cs)
  | escape (c : Char) {cs : List Char} (rest : StringRest quote cs) : StringRest quote ('\\' :: c :: cs)
  | escapedBreak {cs : List Char} (rest : StringRest quote cs) : StringRest quote ('\\' :: '\r' :: '\n' :: cs)

/-- The rest of a regular expression with its closing slash, from inside of a class of characters or not. -/
inductive RegexRest : Bool → List Char → Prop where
  | close : RegexRest false ['/']
  | char {c : Char} {cs : List Char} (plain : c ∉ ['/', '\\', '[', '\n']) (rest : RegexRest false cs) :
      RegexRest false (c :: cs)
  | openClass {cs : List Char} (rest : RegexRest true cs) : RegexRest false ('[' :: cs)
  | classChar {c : Char} {cs : List Char} (plain : c ∉ [']', '\\', '\n']) (rest : RegexRest true cs) :
      RegexRest true (c :: cs)
  | closeClass {cs : List Char} (rest : RegexRest false cs) : RegexRest true (']' :: cs)
  | escape {inClass : Bool} {c : Char} {cs : List Char} (inLine : c ≠ '\n') (rest : RegexRest inClass cs) :
      RegexRest inClass ('\\' :: c :: cs)

/-- A character that is neither blank nor part of a comment. -/
def Marked.isVisible (m : Marked) : Bool := m.region ≠ .comment && !Text.isBlank m.char

/-- Code characters after which an operand must follow. The brace is that of a block. -/
def openers : List Char := ['=', '(', ',', ':', ';', '!', '?', '&', '|', '[', '{']

/-- The last visible character of the text is such a character. -/
def AwaitsOperand (before : List Marked) : Prop :=
  ∃ c ∈ openers, before.reverse.find? Marked.isVisible = some ⟨c, .code⟩

instance (before : List Marked) : Decidable (AwaitsOperand before) :=
  List.decidableBEx (fun c => before.reverse.find? Marked.isVisible = some ⟨c, .code⟩) openers

mutual

/-- Code after the given text. -/
inductive Code : List Marked → List Marked → Prop where
  | nil (before : List Marked) : Code before []
  | cons {before ms rest : List Marked} (first : Element before ms) (others : Code (before ++ ms) rest) :
      Code before (ms ++ rest)

/-- A part of code after the given text. -/
inductive Element : List Marked → List Marked → Prop where
  | plain {before : List Marked} {c : Char} (plain : c ∉ turns) : Element before [⟨c, .code⟩]
  | block {before inner : List Marked} (code : Code (before ++ Region.mark .code ['{']) inner) :
      Element before (Region.mark .code ['{'] ++ inner ++ Region.mark .code ['}'])
  | string {before : List Marked} {quote : Char} {cs : List Char} (isQuote : quote = '\'' ∨ quote = '"')
      (rest : StringRest quote cs) : Element before (Region.mark .code (quote :: cs))
  | lineComment {before : List Marked} {body : List Char} (oneLine : '\n' ∉ body) :
      Element before (Region.mark .comment ('/' :: '/' :: (body ++ ['\n'])))
  | blockComment {before : List Marked} {body : List Char} (notClosed : ¬['*', '/'] <:+: body) :
      Element before (Region.mark .comment ('/' :: '*' :: (body ++ ['*', '/'])))
  | regex {before : List Marked} {cs : List Char} (awaits : AwaitsOperand before)
      (noComment : cs.head? ≠ some '*' ∧ cs.head? ≠ some '/') (rest : RegexRest false cs) :
      Element before (Region.mark .code ('/' :: cs))
  | template {before inner : List Marked} (text : Template (before ++ Region.mark .code ['`']) inner) :
      Element before (Region.mark .code ['`'] ++ inner ++ Region.mark .code ['`'])

/-- What stands between the backquotes of a template, after the given text. -/
inductive Template : List Marked → List Marked → Prop where
  | nil (before : List Marked) : Template before []
  | char {before rest : List Marked} {c : Char} (plain : c ≠ '`' ∧ c ≠ '\\')
      (noMark : c = '$' → ∀ m ∈ rest.head?, m.char ≠ '{')
      (others : Template (before ++ Region.mark .literal [c]) rest) : Template before (Region.mark .literal [c] ++ rest)
  | escape {before rest : List Marked} (c : Char) (others : Template (before ++ Region.mark .literal ['\\', c]) rest) :
      Template before (Region.mark .literal ['\\', c] ++ rest)
  | expression {before inner rest : List Marked} (code : Code (before ++ Region.mark .literal ['$', '{']) inner)
      (others : Template (before ++ (Region.mark .literal ['$', '{'] ++ inner ++ Region.mark .literal ['}'])) rest) :
      Template before (Region.mark .literal ['$', '{'] ++ inner ++ Region.mark .literal ['}'] ++ rest)

end

/-- A whole text. It may end inside of a line comment. -/
inductive Whole : List Marked → Prop where
  | code {ms : List Marked} (code : Code [] ms) : Whole ms
  | comment {ms : List Marked} {body : List Char} (code : Code [] ms) (oneLine : '\n' ∉ body) :
      Whole (ms ++ Region.mark .comment ('/' :: '/' :: body))

end Layering.Source
