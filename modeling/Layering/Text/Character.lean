import Layering.Unicode.Category
import Layering.Unicode.Property

/-! Classes of characters by the properties of the Unicode standard. For ASCII the answer is read off the
character, so that it can be computed without the tables. -/
namespace Layering.Text

/-- A blank: a character with the property White_Space. -/
def isBlank (c : Char) : Bool :=
  let n := c.toNat
  (9 ≤ n && n ≤ 13) || n = 32 || n = 0x85 || n = 0xA0 || n = 0x1680 || (0x2000 ≤ n && n ≤ 0x200A) ||
    n = 0x2028 || n = 0x2029 || n = 0x202F || n = 0x205F || n = 0x3000

/-- A letter, or a mark that spells a vowel: a character with the property Alphabetic. -/
def isLetter (c : Char) : Bool :=
  if c.toNat < 128 then c.isAlpha else Unicode.Property.alphabetic.contains c.toNat

/-- A number of any kind: a digit, a letter-like number or another number. -/
def isNumber (c : Char) : Bool :=
  if c.toNat < 128 then c.isDigit
  else
    [Unicode.Category.decimalNumber, .letterNumber, .otherNumber].any fun category =>
      category.codes.contains c.toNat

def isLetterOrNumber (c : Char) : Bool := isLetter c || isNumber c

/-- A character that may stand in an identifier after its first one. -/
def isIdentifierChar (c : Char) : Bool := isLetterOrNumber c || c = '_' || c = '$'

/-- A character that may start an identifier. -/
def isIdentifierStart (c : Char) : Bool := isLetter c || c = '_' || c = '$'

theorem isIdentifierChar_of_isIdentifierStart {c : Char} (h : isIdentifierStart c = true) :
    isIdentifierChar c = true := by
  simp only [isIdentifierStart, isIdentifierChar, isLetterOrNumber, Bool.or_eq_true] at h ⊢
  rcases h with (h | h) | h <;> simp [h]

/-- Removes the blanks at the start. -/
def trimStart (cs : List Char) : List Char := cs.dropWhile isBlank

/-- Removes the blanks at the end. -/
def trimEnd (cs : List Char) : List Char := (cs.reverse.dropWhile isBlank).reverse

/-- Removes the blanks at both ends. -/
def trim (text : String) : String := .ofList (trimEnd (trimStart text.toList))

end Layering.Text
