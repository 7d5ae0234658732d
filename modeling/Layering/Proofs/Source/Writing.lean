import Layering.Source.Import
import Mathlib.Data.List.Chain

/-! The ways to write import statements and re-exports down. Any white space and any comments may stand between the
lexemes of a statement, as long as words stay apart, the statement starts on a line of its own and no name in it does
that could be taken for the start of another one. -/
namespace Layering.Source

/-- An identifier or a keyword. -/
structure Word where
  first : Char
  rest : List Char
  starts : Text.isIdentifierStart first = true
  continues : rest.all Text.isIdentifierChar = true

def Word.chars (w : Word) : List Char := w.first :: w.rest

/-- The text by which a statement refers to another file, in quotes and without escapes. -/
structure Specifier where
  quote : Char
  text : List Char
  isQuote : quote = '\'' ∨ quote = '"'
  plain : ∀ c ∈ text, c ≠ '\\' ∧ c ≠ '\n' ∧ c ≠ quote

def Specifier.chars (s : Specifier) : List Char := s.quote :: (s.text ++ [s.quote])

inductive Mark where
  | star
  | opening
  | closing
  | comma
  | semicolon
  deriving DecidableEq

def Mark.char : Mark → Char
  | star => '*'
  | opening => '{'
  | closing => '}'
  | comma => ','
  | semicolon => ';'

inductive Lexeme where
  | word (w : Word)
  | mark (m : Mark)
  | specifier (s : Specifier)

namespace Lexeme

def chars : Lexeme → List Char
  | word w => w.chars
  | mark m => [m.char]
  | specifier s => s.chars

/-- What the token of the lexeme is. -/
def kind : Lexeme → Token.Kind
  | word w => .word (.ofList w.chars)
  | mark m => .punctuation m.char
  | specifier s => .string (.ofList s.text)

def isWord : Lexeme → Bool
  | word _ => true
  | _ => false

/-- A word that starts a statement if it starts a line. -/
def isKeyword (l : Lexeme) : Bool := l.kind = .word "import" || l.kind = .word "export"

def importKeyword : Lexeme := word ⟨'i', "mport".toList, by decide, by decide⟩

def exportKeyword : Lexeme := word ⟨'e', "xport".toList, by decide, by decide⟩

def fromKeyword : Lexeme := word ⟨'f', "rom".toList, by decide, by decide⟩

def asKeyword : Lexeme := word ⟨'a', "s".toList, by decide, by decide⟩

def typeKeyword : Lexeme := word ⟨'t', "ype".toList, by decide, by decide⟩

end Lexeme

open Lexeme

/-- A name between braces: alone, or with the name that stands for it here. -/
structure Binding where
  isType : Bool
  name : Word
  alias? : Option Word

/-- The word that marks what is only needed for types. -/
def typePrefix (isType : Bool) : List Lexeme := if isType then [typeKeyword] else []

def Binding.lexemes (b : Binding) : List Lexeme :=
  typePrefix b.isType ++ word b.name :: match b.alias? with
    | none => []
    | some name => [asKeyword, word name]

/-- Names between braces. After the last one there may be a comma. -/
structure Names where
  bindings : List Binding
  trailingComma : Bool

namespace Names

def inner (trailingComma : Bool) : List Binding → List Lexeme
  | [] => []
  | [b] => b.lexemes ++ if trailingComma then [mark .comma] else []
  | b :: bs => b.lexemes ++ mark .comma :: inner trailingComma bs

def lexemes (n : Names) : List Lexeme := mark .opening :: (inner n.trailingComma n.bindings ++ [mark .closing])

end Names

/-- What a statement binds. -/
inductive Bindings where
  | default (name : Word)
  | all (name : Word)
  | named (names : Names)
  | defaultAndAll (main name : Word)
  | defaultAndNamed (main : Word) (names : Names)

def Bindings.lexemes : Bindings → List Lexeme
  | default name => [word name]
  | all name => [mark .star, asKeyword, word name]
  | named names => names.lexemes
  | defaultAndAll main name => [word main, mark .comma, mark .star, asKeyword, word name]
  | defaultAndNamed main names => word main :: mark .comma :: names.lexemes

/-- What a re-export exports. -/
inductive Exports where
  | all
  | allAs (name : Word)
  | named (names : Names)

def Exports.lexemes : Exports → List Lexeme
  | all => [mark .star]
  | allAs name => [mark .star, asKeyword, word name]
  | named names => names.lexemes

/-- The part of a statement before its specifier. -/
inductive Shape where
  | run
  | bind (isType : Bool) (bindings : Bindings)
  | reExport (isType : Bool) (exports : Exports)

namespace Shape

def lexemes : Shape → List Lexeme
  | run => [importKeyword]
  | bind isType bindings => importKeyword :: (typePrefix isType ++ bindings.lexemes ++ [fromKeyword])
  | reExport isType exports => exportKeyword :: (typePrefix isType ++ exports.lexemes ++ [fromKeyword])

def kind : Shape → ImportKind
  | run => .sideEffect
  | bind .. => .binding
  | reExport .. => .reExport

end Shape

/-- A blank or a comment. -/
inductive Filler where
  | white (c : Char) (isBlank : Text.isBlank c = true)
  | lineComment (body : List Char) (oneLine : '\n' ∉ body)
  | blockComment (body : List Char) (notClosed : ¬['*', '/'] <:+: body)

def Filler.chars : Filler → List Char
  | white c _ => [c]
  | lineComment body _ => '/' :: '/' :: (body ++ ['\n'])
  | blockComment body _ => '/' :: '*' :: (body ++ ['*', '/'])

/-- What stands between two lexemes. -/
abbrev Gap := List Filler

def Gap.chars (g : Gap) : List Char := g.flatMap Filler.chars

/-- A lexeme and the gap before it. -/
structure Piece where
  gap : Gap
  lexeme : Lexeme

namespace Piece

def chars (p : Piece) : List Char := p.gap.chars ++ p.lexeme.chars

/-- The lexeme is the first one of its line. -/
def BreaksLine (p : Piece) : Prop := '\n' ∈ p.gap.chars

/-- Between two words something has to stand. -/
def Apart (before after : Piece) : Prop :=
  before.lexeme.isWord = true → after.lexeme.isWord = true → after.gap ≠ []

end Piece

/-- A statement, written down. -/
structure Written where
  shape : Shape
  specifier : Specifier
  /-- The statement up to its specifier. -/
  lead : List Piece
  /-- What stands before the specifier. -/
  gap : Gap
  /-- What stands before the semicolon, if there is one. -/
  semicolon : Option Gap
  complete : lead.map Piece.lexeme = shape.lexemes
  apart : lead.IsChain Piece.Apart
  /-- After its first word nothing looks like the start of a statement. -/
  single : ∀ p ∈ lead.tail, p.lexeme.isKeyword = true → ¬p.BreaksLine

namespace Written

/-- The text before the specifier. -/
def leadChars (w : Written) : List Char := w.lead.flatMap Piece.chars ++ w.gap.chars

/-- The whole statement, with its semicolon if there is one. -/
def pieces (w : Written) : List Piece :=
  w.lead ++ ⟨w.gap, .specifier w.specifier⟩ :: match w.semicolon with
    | none => []
    | some gap => [⟨gap, mark .semicolon⟩]

def chars (w : Written) : List Char := w.pieces.flatMap Piece.chars

/-- The statement does not start on the line where the one before it ends. -/
def BreaksLine (w : Written) : Prop := ∀ p ∈ w.lead.head?, p.BreaksLine

/-- The reference to another file in a statement whose text starts at the given place. -/
def reference (w : Written) (p : Position) : Import :=
  ⟨.ofList w.specifier.text, p.advance w.leadChars, w.shape.kind⟩

/-- The references of statements whose text starts at the given place. -/
def references (p : Position) : List Written → List Import
  | [] => []
  | w :: ws => w.reference p :: references (p.advance w.chars) ws

end Written

/-- Statements on lines of their own. The text may end with a comment to the end of its last line. -/
structure Listing where
  statements : List Written
  separate : ∀ w ∈ statements.tail, w.BreaksLine
  gap : Gap
  comment? : Option { body : List Char // '\n' ∉ body }

namespace Listing

def comment (l : Listing) : List Char :=
  match l.comment? with
  | none => []
  | some body => '/' :: '/' :: body.val

def text (l : Listing) : String := .ofList (l.statements.flatMap Written.chars ++ l.gap.chars ++ l.comment)

def references (l : Listing) : List Import := Written.references .start l.statements

end Listing

end Layering.Source
