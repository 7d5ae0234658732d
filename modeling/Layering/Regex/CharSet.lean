import Layering.Text.Character
import Layering.Unicode.CaseClass
import Layering.Unicode.Script

/-! Sets of characters as a pattern writes them: ranges and properties, combined by the operations of
classes. -/
namespace Layering.Regex

/-- A set of characters. -/
inductive CharSet where
  /-- The code points between two bounds, both included. -/
  | range (first last : Nat)
  | codes (set : Unicode.CodeSet)
  | blank
  | union (a b : CharSet)
  | inter (a b : CharSet)
  | diff (a b : CharSet)
  | compl (a : CharSet)
  /-- All characters that differ from a member in case only. If asked, only ASCII letters have case. -/
  | fold (asciiOnly : Bool) (a : CharSet)

namespace CharSet

/-- The members of the case class, of ASCII letters only if asked. -/
def caseClass (asciiOnly : Bool) (n : Nat) : List Nat :=
  if asciiOnly then (if n < 128 then (Unicode.caseClass n).filter (· < 128) else [n]) else Unicode.caseClass n

def contains : CharSet → Nat → Bool
  | range first last, n => first ≤ n && n ≤ last
  | codes set, n => set.contains n
  | blank, n => Text.isBlank (Char.ofNat n)
  | union a b, n => a.contains n || b.contains n
  | inter a b, n => a.contains n && b.contains n
  | diff a b, n => a.contains n && !b.contains n
  | compl a, n => !a.contains n
  | fold asciiOnly a, n => (caseClass asciiOnly n).any a.contains

def none : CharSet := range 1 0

def any : CharSet := range 0 0x10FFFF

def ascii : CharSet := range 0 0x7F

def char (c : Char) : CharSet := range c.toNat c.toNat

def unionAll (sets : List CharSet) : CharSet := sets.foldr union none

/-- The range between two characters. -/
def between (first last : Char) : CharSet := range first.toNat last.toNat

def ofCategories (categories : List Unicode.Category) : CharSet :=
  unionAll (categories.map fun category => codes category.codes)

/-- Digits of all scripts. -/
def digit : CharSet := ofCategories [.decimalNumber]

/-- Characters of words: letters, marks, digits, connecting punctuation and the joining controls. -/
def word : CharSet :=
  unionAll [between 'a' 'z', between 'A' 'Z', between '0' '9', char '_', codes Unicode.Property.alphabetic,
    ofCategories [.nonspacingMark, .spacingMark, .enclosingMark, .decimalNumber, .connectorPunctuation],
    codes Unicode.Property.joinControl]

def asciiDigit : CharSet := between '0' '9'

def asciiBlank : CharSet := unionAll [range 9 13, char ' ']

def asciiWord : CharSet := unionAll [between 'a' 'z', between 'A' 'Z', between '0' '9', char '_']

/-- The classes with names between colons. -/
def named? : String → Option CharSet
  | "alnum" => some (unionAll [between '0' '9', between 'A' 'Z', between 'a' 'z'])
  | "alpha" => some (unionAll [between 'A' 'Z', between 'a' 'z'])
  | "ascii" => some ascii
  | "blank" => some (unionAll [char '\t', char ' '])
  | "cntrl" => some (unionAll [range 0 0x1F, range 0x7F 0x7F])
  | "digit" => some asciiDigit
  | "graph" => some (between '!' '~')
  | "lower" => some (between 'a' 'z')
  | "print" => some (between ' ' '~')
  | "punct" => some (unionAll [between '!' '/', between ':' '@', between '[' '`', range 0x7B 0x7E])
  | "space" => some asciiBlank
  | "upper" => some (between 'A' 'Z')
  | "word" => some asciiWord
  | "xdigit" => some (unionAll [between '0' '9', between 'A' 'F', between 'a' 'f'])
  | _ => Option.none

open Unicode (Category)

private def letters : List Category :=
  [.uppercaseLetter, .lowercaseLetter, .titlecaseLetter, .modifierLetter, .otherLetter]
private def casedLetters : List Category := [.uppercaseLetter, .lowercaseLetter, .titlecaseLetter]
private def marks : List Category := [.nonspacingMark, .spacingMark, .enclosingMark]
private def numbers : List Category := [.decimalNumber, .letterNumber, .otherNumber]
private def punctuation : List Category :=
  [.connectorPunctuation, .dashPunctuation, .openPunctuation, .closePunctuation, .initialPunctuation,
   .finalPunctuation, .otherPunctuation]
private def symbols : List Category := [.mathSymbol, .currencySymbol, .modifierSymbol, .otherSymbol]
private def separators : List Category := [.spaceSeparator, .lineSeparator, .paragraphSeparator]

private def unassigned : CharSet := compl (ofCategories Category.all)

/-- Long names of categories and the names of their groups. -/
private def categoryNames : List (List String × CharSet) := [
  (["uppercaseletter"], ofCategories [.uppercaseLetter]),
  (["lowercaseletter"], ofCategories [.lowercaseLetter]),
  (["titlecaseletter"], ofCategories [.titlecaseLetter]),
  (["modifierletter"], ofCategories [.modifierLetter]),
  (["otherletter"], ofCategories [.otherLetter]),
  (["nonspacingmark"], ofCategories [.nonspacingMark]),
  (["spacingmark"], ofCategories [.spacingMark]),
  (["enclosingmark"], ofCategories [.enclosingMark]),
  (["decimalnumber", "digit"], ofCategories [.decimalNumber]),
  (["letternumber"], ofCategories [.letterNumber]),
  (["othernumber"], ofCategories [.otherNumber]),
  (["connectorpunctuation"], ofCategories [.connectorPunctuation]),
  (["dashpunctuation"], ofCategories [.dashPunctuation]),
  (["openpunctuation"], ofCategories [.openPunctuation]),
  (["closepunctuation"], ofCategories [.closePunctuation]),
  (["initialpunctuation"], ofCategories [.initialPunctuation]),
  (["finalpunctuation"], ofCategories [.finalPunctuation]),
  (["otherpunctuation"], ofCategories [.otherPunctuation]),
  (["mathsymbol"], ofCategories [.mathSymbol]),
  (["currencysymbol"], ofCategories [.currencySymbol]),
  (["modifiersymbol"], ofCategories [.modifierSymbol]),
  (["othersymbol"], ofCategories [.otherSymbol]),
  (["spaceseparator"], ofCategories [.spaceSeparator]),
  (["lineseparator"], ofCategories [.lineSeparator]),
  (["paragraphseparator"], ofCategories [.paragraphSeparator]),
  (["control", "cntrl"], ofCategories [.control]),
  (["format"], ofCategories [.format]),
  (["surrogate"], ofCategories [.surrogate]),
  (["privateuse"], ofCategories [.privateUse]),
  (["l", "letter"], ofCategories letters),
  (["lc", "casedletter"], ofCategories casedLetters),
  (["m", "mark", "combiningmark"], ofCategories marks),
  (["n", "number"], ofCategories numbers),
  (["p", "punctuation", "punct"], ofCategories punctuation),
  (["s", "symbol"], ofCategories symbols),
  (["z", "separator"], ofCategories separators),
  (["c", "other"], union unassigned (ofCategories [.control, .format, .surrogate, .privateUse])),
  (["cn", "unassigned"], unassigned),
  (["assigned"], compl unassigned),
  (["any"], any),
  (["ascii"], ascii)]

/-- The first entry under a name. -/
private def lookupNames? (name : String) (table : List (List String × CharSet)) : Option CharSet :=
  (table.find? fun entry => entry.1.contains name).map (·.2)

private def category? (name : String) : Option CharSet :=
  match Category.all.find? (·.abbreviation = name) with
  | some category => some (ofCategories [category])
  | Option.none => lookupNames? name categoryNames

private def script? (name : String) : Option CharSet :=
  (Unicode.Script.table.find? fun entry => entry.1.contains name).map fun entry => codes entry.2

/-- Properties that a character has or lacks. -/
private def binaryNames : List (List String × CharSet) := [
  (["alphabetic", "alpha"], codes Unicode.Property.alphabetic),
  (["asciihexdigit", "ahex"], unionAll [between '0' '9', between 'A' 'F', between 'a' 'f']),
  (["dash"], codes Unicode.Property.dash),
  (["emoji"], codes Unicode.Property.emoji),
  (["hexdigit", "hex"], codes Unicode.Property.hexDigit),
  (["ideographic", "ideo"], codes Unicode.Property.ideographic),
  (["joincontrol", "joinc"], codes Unicode.Property.joinControl),
  (["lowercase", "lower"], codes Unicode.Property.lowercase),
  (["math"], codes Unicode.Property.math),
  (["uppercase", "upper"], codes Unicode.Property.uppercase),
  (["whitespace", "wspace", "space"], blank)]

/-- A name in lower case without its separators, and without a leading is unless nothing but c follows it. -/
private def normalized (name : String) : String :=
  let plain := (name.toList.filter fun c => c ≠ ' ' && c ≠ '_' && c ≠ '-' && c.toNat < 128).map Char.toLower
  let startsWithIs := (name.toList.take 2).map Char.toLower = ['i', 's']
  if startsWithIs && plain ≠ ['i', 's', 'c'] then .ofList (plain.drop 2) else .ofList plain

/-- The characters with a property, which is a binary property, a category or a script. -/
def property? (name : String) : Option CharSet :=
  let name := normalized name
  let binary := if name = "cf" ∨ name = "sc" ∨ name = "lc" then Option.none else lookupNames? name binaryNames
  binary.or ((category? name).or (script? name))

/-- The characters whose property has a value. -/
def propertyValue? (name value : String) : Option CharSet :=
  let value := normalized value
  match normalized name with
  | "gc" | "generalcategory" => category? value
  | "sc" | "script" | "scx" | "scriptextensions" => script? value
  | _ => Option.none

end CharSet

end Layering.Regex
