/-! Glob patterns. A star matches any run of characters, slashes included; two stars that make up a whole
component match any number of components; a question mark and a class match one character. -/
namespace Layering

namespace Glob

/-- An item of a class. -/
inductive Item where
  | char (c : Char)
  | range (first last : Char)
  deriving Repr, DecidableEq

def Item.contains (c : Char) : Item → Bool
  | char d => c = d
  | range first last => first ≤ c && c ≤ last

/-- A part of a pattern. -/
inductive Token where
  | char (c : Char)
  | anyChar
  /-- Any run of characters. -/
  | anyRun
  /-- Any number of whole components. -/
  | anyComponents
  | within (items : List Item)
  | except (items : List Item)
  deriving Repr, DecidableEq

/-- Whether a token that takes one character takes the given one. -/
def Token.accepts (c : Char) : Token → Bool
  | char d => c = d
  | anyChar => true
  | anyRun | anyComponents => false
  | within items => items.any (Item.contains c)
  | except items => !items.any (Item.contains c)

/-- What is wrong with a pattern. -/
inductive Problem where
  | tooManyStars
  | partialComponent
  | invalidClass
  deriving Repr, DecidableEq

def Problem.text : Problem → String
  | tooManyStars => "wildcards are either regular `*` or recursive `**`"
  | partialComponent => "recursive wildcards must form a single path component"
  | invalidClass => "invalid range pattern"

/-- A pattern that cannot be read. -/
structure Error where
  /-- The number of characters before the place of the problem. -/
  position : Nat
  problem : Problem
  deriving Repr, DecidableEq

def Error.message (e : Error) : String :=
  "Pattern syntax error near position " ++ toString e.position ++ ": " ++ e.problem.text

/-- The items of a class. A dash between two characters makes a range. -/
def items : List Char → List Item
  | a :: '-' :: b :: rest => .range a b :: items rest
  | a :: rest => .char a :: items rest
  | [] => []

/-- The tokens before and after a class, the class given by its characters and the rest of the pattern: a class
has at least one character, which may be a closing bracket. -/
def class? : List Char → Option (List Char × List Char)
  | [] => none
  | first :: cs =>
    match cs.dropWhile (· ≠ ']') with
    | [] => none
    | _ :: rest => some (first :: cs.takeWhile (· ≠ ']'), rest)

theorem length_class?_lt {cs inside rest : List Char} (h : class? cs = some (inside, rest)) :
    rest.length < cs.length := by
  unfold class? at h
  split at h
  · simp at h
  · next first cs =>
    split at h
    · simp at h
    · next found =>
      have := (List.dropWhile_sublist (l := cs) (· ≠ ']')).length_le
      simp_all
      omega

/-- Adds a token for whole components, unless the pattern already has one there after other tokens. -/
def pushComponents (tokens : List Token) : List Token :=
  match tokens with
  | .anyComponents :: _ :: _ => tokens
  | _ => .anyComponents :: tokens

/-- Reads the rest of a pattern at a position. The character before it and the tokens so far, last token first,
are given. -/
def tokensFrom (position : Nat) (before : Option Char) (tokens : List Token) (cs : List Char) :
    Except Error (List Token) :=
  match cs with
  | [] => .ok tokens.reverse
  | '?' :: cs => tokensFrom (position + 1) (some '?') (.anyChar :: tokens) cs
  | '*' :: '*' :: '*' :: _ => .error ⟨position + 2, .tooManyStars⟩
  | '*' :: '*' :: cs =>
    if before.isNone || before = some '/' then
      match cs with
      | [] => .ok (pushComponents tokens).reverse
      | '/' :: cs => tokensFrom (position + 3) (some '/') (pushComponents tokens) cs
      | _ => .error ⟨position + 2, .partialComponent⟩
    else .error ⟨position - 1, .partialComponent⟩
  | '*' :: cs => tokensFrom (position + 1) (some '*') (.anyRun :: tokens) cs
  | '[' :: '!' :: cs =>
    match h : class? cs with
    | some (inside, rest) =>
      have := length_class?_lt h
      tokensFrom (position + inside.length + 3) (some ']') (.except (items inside) :: tokens) rest
    | none => .error ⟨position, .invalidClass⟩
  | '[' :: cs =>
    match h : class? cs with
    | some (inside, rest) =>
      have := length_class?_lt h
      tokensFrom (position + inside.length + 2) (some ']') (.within (items inside) :: tokens) rest
    | none => .error ⟨position, .invalidClass⟩
  | c :: cs => tokensFrom (position + 1) (some c) (.char c :: tokens) cs
termination_by cs.length

/-- All ends of a text, itself first. -/
def suffixes : List Char → List (List Char)
  | [] => [[]]
  | c :: cs => (c :: cs) :: suffixes cs

/-- The text, what follows each of its slashes, and its empty end. -/
def componentStarts : List Char → List (List Char)
  | cs => cs :: go cs
where
  go : List Char → List (List Char)
    | [] => [[]]
    | c :: cs => if c = '/' then cs :: go cs else go cs

/-- Whether a text is of the form that the tokens describe. -/
def matchesFrom : List Token → List Char → Bool
  | [], cs => cs.isEmpty
  | .anyRun :: tokens, cs => (suffixes cs).any (matchesFrom tokens)
  | .anyComponents :: tokens, cs => (componentStarts cs).any (matchesFrom tokens)
  | _ :: _, [] => false
  | token :: tokens, c :: cs => token.accepts c && matchesFrom tokens cs

end Glob

/-- A glob pattern. -/
structure Glob where
  /-- The pattern as it is written. -/
  text : String
  tokens : List Glob.Token
  deriving Repr, DecidableEq

namespace Glob

/-- Reads a pattern. -/
def parse (text : String) : Except Error Glob :=
  (tokensFrom 0 none [] text.toList).map fun tokens => ⟨text, tokens⟩

/-- What stands for a character in a pattern: a class if the pattern could take it otherwise. -/
def escapeChar (c : Char) : List Char := if c = '?' ∨ c = '*' ∨ c = '[' ∨ c = ']' then ['[', c, ']'] else [c]

/-- The pattern of a text that is to be taken literally. -/
def escape (text : String) : String := .ofList (text.toList.flatMap escapeChar)

/-- Whether the whole text is of the form that the pattern describes. -/
def isMatch (glob : Glob) (text : String) : Bool := matchesFrom glob.tokens text.toList

end Glob

end Layering
