import Layering.Json.Value

/-! Reading a JSON text. Each step returns the rest of the text, and a whole text is read only if blanks alone
are left over. -/
namespace Layering.Json

/-- The four blanks that may stand between the parts of a value. -/
def isBlank (c : Char) : Bool := c = ' ' || c = '\n' || c = '\r' || c = '\t'

def skipBlanks (cs : List Char) : List Char := cs.dropWhile isBlank

/-- The value of a hexadecimal digit. -/
def hexValue? (c : Char) : Option Nat :=
  if '0' ≤ c ∧ c ≤ '9' then some (c.toNat - '0'.toNat)
  else if 'a' ≤ c ∧ c ≤ 'f' then some (c.toNat - 'a'.toNat + 10)
  else if 'A' ≤ c ∧ c ≤ 'F' then some (c.toNat - 'A'.toNat + 10)
  else none

/-- The number that four hexadecimal digits spell. -/
def hexUnit? (a b c d : Char) : Option Nat := do
  let a ← hexValue? a
  let b ← hexValue? b
  let c ← hexValue? c
  let d ← hexValue? d
  pure (((a * 16 + b) * 16 + c) * 16 + d)

/-- The character that a letter stands for after a backslash. -/
def unescape? : Char → Option Char
  | '"' => some '"'
  | '\\' => some '\\'
  | '/' => some '/'
  | 'b' => some '\x08'
  | 'f' => some '\x0c'
  | 'n' => some '\n'
  | 'r' => some '\r'
  | 't' => some '\t'
  | _ => none

def isHighSurrogate (n : Nat) : Bool := 0xD800 ≤ n && n < 0xDC00

def isLowSurrogate (n : Nat) : Bool := 0xDC00 ≤ n && n < 0xE000

/-- The rest of a string after its opening quote: its characters and what follows the closing quote. A code
unit that is half of a pair is read only together with its other half. -/
def stringChars : List Char → Option (List Char × List Char)
  | [] => none
  | '"' :: rest => some ([], rest)
  | '\\' :: 'u' :: a :: b :: c :: d :: rest =>
    match hexUnit? a b c d with
    | none => none
    | some unit =>
      if isHighSurrogate unit then
        match rest with
        | '\\' :: 'u' :: e :: f :: g :: h :: rest =>
          match hexUnit? e f g h with
          | none => none
          | some low =>
            if isLowSurrogate low then
              let code := 0x10000 + (unit - 0xD800) * 0x400 + (low - 0xDC00)
              (stringChars rest).map fun (cs, rest) => (Char.ofNat code :: cs, rest)
            else none
        | _ => none
      else if isLowSurrogate unit then none
      else (stringChars rest).map fun (cs, rest) => (Char.ofNat unit :: cs, rest)
  | '\\' :: c :: rest =>
    match unescape? c with
    | none => none
    | some c => (stringChars rest).map fun (cs, rest) => (c :: cs, rest)
  | c :: rest =>
    if c = '\\' ∨ c.toNat < 32 then none
    else (stringChars rest).map fun (cs, rest) => (c :: cs, rest)

/-- The number that a list of digits spells. -/
def natOfDigits (digits : List Char) : Nat :=
  digits.foldl (fun n c => n * 10 + (c.toNat - '0'.toNat)) 0

/-- Whether the text is a whole part without leading zeros. -/
def isWholePart : List Char → Bool
  | [] => false
  | ['0'] => true
  | c :: rest => c ≠ '0' && c.isDigit && rest.all Char.isDigit

/-- The optional fraction and exponent of a number. -/
def isFractionAndExponent (cs : List Char) : Bool :=
  let fraction := match cs with
    | '.' :: rest => if (rest.takeWhile Char.isDigit).isEmpty then none else some (rest.dropWhile Char.isDigit)
    | rest => some rest
  match fraction with
  | none => false
  | some [] => true
  | some (e :: rest) =>
    let power := match rest with
      | '+' :: rest => rest
      | '-' :: rest => rest
      | rest => rest
    (e = 'e' || e = 'E') && !power.isEmpty && power.all Char.isDigit

def isNumberChar (c : Char) : Bool :=
  c.isDigit || c = '-' || c = '+' || c = '.' || c = 'e' || c = 'E'

/-- The number that a run of number characters spells. -/
def number? (cs : List Char) : Option Json :=
  if isWholePart cs then some (nat (natOfDigits cs))
  else
    let unsigned := match cs with
      | '-' :: rest => rest
      | rest => rest
    if isWholePart (unsigned.takeWhile Char.isDigit) && isFractionAndExponent (unsigned.dropWhile Char.isDigit)
    then some (decimal (.ofList cs)) else none

/-- Removes a word at the start of a text. -/
def word? (word : List Char) (cs : List Char) : Option (List Char) :=
  if word.isPrefixOf cs then some (cs.drop word.length) else none

mutual

/-- The value at the start of a text, blanks before it skipped. The first argument bounds the nesting. -/
def valueChars : Nat → List Char → Option (Json × List Char)
  | 0, _ => none
  | fuel + 1, cs =>
    match skipBlanks cs with
    | [] => none
    | '"' :: rest => (stringChars rest).map fun (cs, rest) => (string (.ofList cs), rest)
    | '[' :: rest =>
      match skipBlanks rest with
      | ']' :: rest => some (array [], rest)
      | rest => (itemChars fuel rest).map fun (items, rest) => (array items, rest)
    | '\x7b' :: rest =>
      match skipBlanks rest with
      | '\x7d' :: rest => some (object [], rest)
      | rest => (memberChars fuel rest).map fun (members, rest) => (object members, rest)
    | 'n' :: rest => (word? "ull".toList rest).map fun rest => (null, rest)
    | 't' :: rest => (word? "rue".toList rest).map fun rest => (bool true, rest)
    | 'f' :: rest => (word? "alse".toList rest).map fun rest => (bool false, rest)
    | rest => (number? (rest.takeWhile isNumberChar)).map fun n => (n, rest.dropWhile isNumberChar)

/-- One or more items and the bracket that closes them. -/
def itemChars : Nat → List Char → Option (List Json × List Char)
  | 0, _ => none
  | fuel + 1, cs =>
    match valueChars fuel cs with
    | none => none
    | some (item, rest) =>
      match skipBlanks rest with
      | ',' :: rest => (itemChars fuel rest).map fun (items, rest) => (item :: items, rest)
      | ']' :: rest => some ([item], rest)
      | _ => none

/-- One or more members and the brace that closes them. -/
def memberChars : Nat → List Char → Option (List (String × Json) × List Char)
  | 0, _ => none
  | fuel + 1, cs =>
    match skipBlanks cs with
    | '"' :: rest =>
      match stringChars rest with
      | none => none
      | some (name, rest) =>
        match skipBlanks rest with
        | ':' :: rest =>
          match valueChars fuel rest with
          | none => none
          | some (value, rest) =>
            match skipBlanks rest with
            | ',' :: rest =>
              (memberChars fuel rest).map fun (members, rest) => ((.ofList name, value) :: members, rest)
            | '\x7d' :: rest => some ([(.ofList name, value)], rest)
            | _ => none
        | _ => none
    | _ => none

end

/-- The value that a whole text spells. Every step takes a character, so the length bounds the nesting. -/
def read? (text : String) : Option Json :=
  let cs := text.toList
  match valueChars (2 * cs.length + 1) cs with
  | some (value, rest) => if (skipBlanks rest).isEmpty then some value else none
  | none => none

end Layering.Json
