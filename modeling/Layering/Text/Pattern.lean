import Layering.Regex.Search
import Layering.Text.Slashed

/-! Patterns that are looked for in a text: a text taken literally, or a regular expression. -/
namespace Layering

namespace Text

/-- The byte offsets at which a text that is not empty occurs, from left to right and without overlap. The
first argument counts the characters of the last occurrence that are still to be skipped. -/
def occurrences (needle : List Char) : Nat → Nat → List Char → List Nat
  | _, _, [] => []
  | skip + 1, offset, c :: cs => occurrences needle skip (offset + c.utf8Size) cs
  | 0, offset, c :: cs =>
    if (stripPrefix? needle (c :: cs)).isSome then
      offset :: occurrences needle (needle.length - 1) (offset + c.utf8Size) cs
    else occurrences needle 0 (offset + c.utf8Size) cs

end Text

/-- A pattern that text may be searched for. -/
inductive TextPattern where
  | literal (text : String)
  /-- A regular expression and the pattern that spells it. -/
  | regex (source : String) (expression : Regex)

namespace TextPattern

/-- The pattern as it is written. -/
def source : TextPattern → String
  | literal text => text
  | regex source _ => source

/-- Where the pattern is found, as byte offsets. An empty text is found before every character and at the end;
empty matches of a regular expression do not count. -/
def offsets (pattern : TextPattern) (text : String) : List Nat :=
  match pattern with
  | literal needle =>
    if needle = "" then
      (List.range (text.toList.length + 1)).map fun n => Regex.byteLength (text.toList.take n)
    else Text.occurrences needle.toList 0 0 text.toList
  | regex _ expression =>
    ((expression.findAll text).filter fun found => found.1 ≠ found.2).map (·.1)

/-- The byte offset of the first place where the pattern is found, and the number of places. -/
def find? (pattern : TextPattern) (text : String) : Option (Nat × Nat) :=
  match pattern.offsets text with
  | [] => none
  | first :: others => some (first, others.length + 1)

end TextPattern

end Layering
