import Layering.Text.Character
import Layering.Text.Position

/-! The tokens of sanitised source text, as far as import statements need them: words, strings and single
punctuation characters. Blanks only separate tokens. -/
namespace Layering.Source

namespace Token

/-- What a token is. -/
inductive Kind where
  | word (text : String)
  /-- A complete string, with its escapes resolved. -/
  | string (text : String)
  | punctuation (c : Char)
  /-- A number, or a string that is not closed. -/
  | other
  deriving Repr, DecidableEq

end Token

/-- A token and where it stands. -/
structure Token where
  kind : Token.Kind
  /-- The place of its first character. -/
  position : Position
  /-- Whether it is the first token of its line. -/
  startsLine : Bool
  deriving Repr, DecidableEq

namespace Token

/-- The rest of a string after its opening quote: its text, unless the line or the source ends first, the place
where it ends and the remaining source. An escaped line break joins two lines and stands for nothing; any other
escaped character stands for itself. -/
def readString (quote : Char) : Position → List Char → Option (List Char) × Position × List Char
  | p, [] => (none, p, [])
  | p, c :: cs =>
    let extend (d : Char) (read : Option (List Char) × Position × List Char) :=
      (read.1.map (d :: ·), read.2)
    if c = '\n' then (none, p, c :: cs)
    else if c = quote then (some [], p.next c, cs)
    else if c = '\\' then
      match cs with
      | [] => (none, p.next c, [])
      | '\n' :: cs => readString quote (p.advance [c, '\n']) cs
      | '\r' :: '\n' :: cs => readString quote (p.advance [c, '\r', '\n']) cs
      | '\r' :: cs => readString quote (p.advance [c, '\r']) cs
      | d :: cs => extend d (readString quote (p.advance [c, d]) cs)
    else extend c (readString quote (p.next c) cs)

theorem length_readString_le (quote : Char) (p : Position) (cs : List Char) :
    (readString quote p cs).2.2.length ≤ cs.length := by
  fun_induction readString quote p cs <;> grind

/-- A character that may stand in a number after its first digit. -/
def isNumberChar (c : Char) : Bool := Text.isLetterOrNumber c || c = '.'

/-- The tokens of a text. -/
def scan (p : Position) (startsLine : Bool) : List Char → List Token
  | [] => []
  | c :: cs =>
    if c = '\n' then scan (p.next c) true cs
    else if Text.isBlank c then scan (p.next c) startsLine cs
    else if Text.isIdentifierStart c then
      let word := c :: cs.takeWhile Text.isIdentifierChar
      ⟨.word (.ofList word), p, startsLine⟩ ::
        scan (p.advance word) false (cs.dropWhile Text.isIdentifierChar)
    else if c = '\'' ∨ c = '"' then
      let read := readString c (p.next c) cs
      let kind := match read.1 with
        | some text => .string (.ofList text)
        | none => .other
      ⟨kind, p, startsLine⟩ :: scan read.2.1 false read.2.2
    else if '0' ≤ c ∧ c ≤ '9' then
      let number := c :: cs.takeWhile isNumberChar
      ⟨.other, p, startsLine⟩ :: scan (p.advance number) false (cs.dropWhile isNumberChar)
    else ⟨.punctuation c, p, startsLine⟩ :: scan (p.next c) false cs
termination_by cs => cs.length
decreasing_by
  · simp
  · simp
  · exact Nat.lt_succ_of_le (List.dropWhile_sublist _).length_le
  · exact Nat.lt_succ_of_le (length_readString_le _ _ _)
  · exact Nat.lt_succ_of_le (List.dropWhile_sublist _).length_le
  · simp

/-- The tokens of a whole text. -/
def tokens (text : String) : List Token := scan .start true text.toList

end Token

end Layering.Source
