import Layering.Json.Value

/-! The text of a JSON value: on one line, or with one member a line and two spaces for each level. -/
namespace Layering.Json

/-- The hexadecimal digit of a number below sixteen, in lower case. -/
def hexDigit (n : Nat) : Char :=
  if n < 10 then Char.ofNat (n + '0'.toNat) else Char.ofNat (n - 10 + 'a'.toNat)

/-- A character inside quotes. Only quotes, backslashes and control characters are escaped, the common ones
by a letter and the others by their code. -/
def escapeChar (c : Char) : List Char :=
  if c = '"' then ['\\', '"']
  else if c = '\\' then ['\\', '\\']
  else if c = '\n' then ['\\', 'n']
  else if c = '\r' then ['\\', 'r']
  else if c = '\t' then ['\\', 't']
  else if c.toNat = 8 then ['\\', 'b']
  else if c.toNat = 12 then ['\\', 'f']
  else if c.toNat < 32 then ['\\', 'u', '0', '0', hexDigit (c.toNat / 16), hexDigit (c.toNat % 16)]
  else [c]

/-- A text in quotes. -/
def quoted (text : String) : List Char :=
  '"' :: text.toList.flatMap escapeChar ++ ['"']

/-- The digits of a natural number. -/
def digits (n : Nat) : List Char := Nat.toDigits 10 n

/-- A line break and the indentation of the given level. -/
def newline (level : Nat) : List Char := '\n' :: List.replicate (2 * level) ' '

mutual

/-- The characters of a value with one member or item a line. -/
def prettyChars (level : Nat) : Json → List Char
  | null => "null".toList
  | bool true => "true".toList
  | bool false => "false".toList
  | nat value => digits value
  | decimal text => text.toList
  | string text => quoted text
  | array [] => ['[', ']']
  | array (item :: items) =>
    '[' :: newline (level + 1) ++ prettyChars (level + 1) item ++ prettyItems (level + 1) items
      ++ newline level ++ [']']
  | object [] => ['\x7b', '\x7d']
  | object ((name, value) :: members) =>
    '\x7b' :: newline (level + 1) ++ quoted name ++ [':', ' '] ++ prettyChars (level + 1) value
      ++ prettyMembers (level + 1) members ++ newline level ++ ['\x7d']

/-- The items after the first one. -/
def prettyItems (level : Nat) : List Json → List Char
  | [] => []
  | item :: items => ',' :: newline level ++ prettyChars level item ++ prettyItems level items

/-- The members after the first one. -/
def prettyMembers (level : Nat) : List (String × Json) → List Char
  | [] => []
  | (name, value) :: members =>
    ',' :: newline level ++ quoted name ++ [':', ' '] ++ prettyChars level value
      ++ prettyMembers level members

end

/-- A value over several lines. -/
def pretty (value : Json) : String := .ofList (prettyChars 0 value)

mutual

/-- A value on one line, without blanks. -/
def compact : Json → String
  | null => "null"
  | bool true => "true"
  | bool false => "false"
  | nat value => .ofList (digits value)
  | decimal text => text
  | string text => .ofList (quoted text)
  | array [] => "[]"
  | array (item :: items) => "[" ++ compact item ++ compactItems items ++ "]"
  | object [] => "\x7b\x7d"
  | object ((name, value) :: members) =>
    "\x7b" ++ .ofList (quoted name) ++ ":" ++ compact value ++ compactMembers members ++ "\x7d"

def compactItems : List Json → String
  | [] => ""
  | item :: items => "," ++ compact item ++ compactItems items

def compactMembers : List (String × Json) → String
  | [] => ""
  | (name, value) :: members =>
    "," ++ .ofList (quoted name) ++ ":" ++ compact value ++ compactMembers members

end

end Layering.Json
