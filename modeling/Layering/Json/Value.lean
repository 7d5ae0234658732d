/-! JSON values. A number is a natural number where its text is digits only, and otherwise keeps its text.
An object is the list of its members in order. -/
namespace Layering

/-- A JSON value. -/
inductive Json where
  | null
  | bool (value : Bool)
  | nat (value : Nat)
  /-- A number with a sign, a fraction or an exponent, as it was written. -/
  | decimal (text : String)
  | string (text : String)
  | array (items : List Json)
  | object (members : List (String × Json))
  deriving Repr, Inhabited

namespace Json

/-- The member of an object with the given name. Of several the last one counts. -/
def get? (name : String) : Json → Option Json
  | object members => members.reverse.lookup name
  | _ => none

/-- The text of a string. -/
def text? : Json → Option String
  | string text => some text
  | _ => none

/-- The value of a natural number. -/
def nat? : Json → Option Nat
  | nat value => some value
  | _ => none

def bool? : Json → Option Bool
  | bool value => some value
  | _ => none

def items? : Json → Option (List Json)
  | array items => some items
  | _ => none

/-- An array of strings. -/
def strings (texts : List String) : Json := array (texts.map string)

/-- The string of a present text, null for an absent one. -/
def ofText? : Option String → Json
  | some text => string text
  | none => null

end Json

end Layering
