import Layering.Toml.Value

/-! Reading strings, numbers and times. A reader takes the characters of its value from the start of a text and
returns the rest; a text that does not start with such a value is refused. -/
namespace Layering.Toml

/-- A control character that may not stand in strings and comments. A tab may. -/
def isControl (c : Char) : Bool := (c.toNat < 32 && c ≠ '\t') || c.toNat = 127

/-- Removes a line break. -/
def newline? : List Char → Option (List Char)
  | '\n' :: rest => some rest
  | '\r' :: '\n' :: rest => some rest
  | _ => none

def isSpace (c : Char) : Bool := c = ' ' || c = '\t'

def skipSpaces (cs : List Char) : List Char := cs.dropWhile isSpace

def hexValue? (c : Char) : Option Nat :=
  if '0' ≤ c ∧ c ≤ '9' then some (c.toNat - '0'.toNat)
  else if 'a' ≤ c ∧ c ≤ 'f' then some (c.toNat - 'a'.toNat + 10)
  else if 'A' ≤ c ∧ c ≤ 'F' then some (c.toNat - 'A'.toNat + 10)
  else none

/-- The character whose code the hexadecimal digits spell. -/
def codePoint? (digits : List Char) : Option Char := do
  let values ← digits.mapM hexValue?
  let n := values.foldl (fun n d => n * 16 + d) 0
  if n.isValidChar then some (Char.ofNat n) else none

/-- The character that an escape stands for, after its backslash. -/
def escape? : List Char → Option (Char × List Char)
  | 'u' :: a :: b :: c :: d :: rest => (codePoint? [a, b, c, d]).map (·, rest)
  | 'U' :: a :: b :: c :: d :: e :: f :: g :: h :: rest =>
    (codePoint? [a, b, c, d, e, f, g, h]).map (·, rest)
  | 'b' :: rest => some ('\x08', rest)
  | 't' :: rest => some ('\t', rest)
  | 'n' :: rest => some ('\n', rest)
  | 'f' :: rest => some ('\x0c', rest)
  | 'r' :: rest => some ('\r', rest)
  | '"' :: rest => some ('"', rest)
  | '\\' :: rest => some ('\\', rest)
  | _ => none

/-- The rest of a string on one line. The first argument bounds the number of steps. -/
def basicChars : Nat → List Char → Option (List Char × List Char)
  | 0, _ => none
  | _, [] => none
  | fuel + 1, c :: cs =>
    if c = '"' then some ([], cs)
    else if c = '\\' then do
      let (d, rest) ← escape? cs
      let (ds, rest) ← basicChars fuel rest
      some (d :: ds, rest)
    else if isControl c then none
    else (basicChars fuel cs).map fun (ds, rest) => (c :: ds, rest)

/-- The rest of a string without escapes on one line. -/
def literalChars : List Char → Option (List Char × List Char)
  | [] => none
  | c :: cs =>
    if c = '\'' then some ([], cs)
    else if isControl c then none
    else (literalChars cs).map fun (ds, rest) => (c :: ds, rest)

/-- The end of a string of several lines, after three quotes: up to two more quotes belong to its text. -/
def closing (quote : Char) : List Char → List Char × List Char
  | a :: b :: rest =>
    if a = quote then if b = quote then ([a, b], rest) else ([a], b :: rest) else ([], a :: b :: rest)
  | [a] => if a = quote then ([a], []) else ([], [a])
  | [] => ([], [])

/-- Skips the spaces and line breaks after an escaped line break. -/
def skipBreaks : Nat → List Char → List Char
  | 0, cs => cs
  | fuel + 1, cs =>
    match newline? (skipSpaces cs) with
    | some rest => skipBreaks fuel rest
    | none => skipSpaces cs

/-- The rest of a string of several lines, closed by three of the given quotes. Escapes count only if asked. A
line break is one character, however it is written. -/
def multilineChars (quote : Char) (escapes : Bool) : Nat → List Char → Option (List Char × List Char)
  | 0, _ => none
  | _, [] => none
  | fuel + 1, c :: cs =>
    if [c] ++ cs.take 2 = [quote, quote, quote] then some (closing quote (cs.drop 2))
    else if c = '\\' && escapes then
      match newline? (skipSpaces cs) with
      | some rest => multilineChars quote escapes fuel (skipBreaks fuel rest)
      | none => do
        let (d, rest) ← escape? cs
        let (ds, rest) ← multilineChars quote escapes fuel rest
        some (d :: ds, rest)
    else
      match newline? (c :: cs) with
      | some rest => (multilineChars quote escapes fuel rest).map fun (ds, rest) => ('\n' :: ds, rest)
      | none =>
        if isControl c then none
        else (multilineChars quote escapes fuel cs).map fun (ds, rest) => (c :: ds, rest)

/-- Removes the line break that may follow the opening quotes of a string of several lines. -/
def skipNewline (cs : List Char) : List Char := (newline? cs).getD cs

/-- A string on one line. -/
def lineString? : List Char → Option (String × List Char)
  | '"' :: rest => (basicChars (rest.length + 1) rest).map fun (cs, rest) => (.ofList cs, rest)
  | '\'' :: rest => (literalChars rest).map fun (cs, rest) => (.ofList cs, rest)
  | _ => none

/-- A string of any kind. -/
def string? : List Char → Option (String × List Char)
  | '"' :: '"' :: '"' :: rest =>
    (multilineChars '"' true (rest.length + 1) (skipNewline rest)).map fun (cs, rest) => (.ofList cs, rest)
  | '\'' :: '\'' :: '\'' :: rest =>
    (multilineChars '\'' false (rest.length + 1) (skipNewline rest)).map fun (cs, rest) => (.ofList cs, rest)
  | cs => lineString? cs

/-- The number that a list of digits spells. -/
def natOfDigits (base : Nat) (digits : List Char) : Nat :=
  digits.foldl (fun n c => n * base + (hexValue? c).getD 0) 0

/-- A run of digits with single underscores between them. -/
def digitRun? (isDigit : Char → Bool) : List Char → Option (List Char × List Char)
  | [] => none
  | c :: cs =>
    if isDigit c then
      match cs with
      | '_' :: rest => (digitRun? isDigit rest).map fun (ds, rest) => (c :: ds, rest)
      | rest =>
        match digitRun? isDigit rest with
        | some (ds, rest) => some (c :: ds, rest)
        | none => some ([c], rest)
    else none

def isDigitBelow (base : Nat) (c : Char) : Bool := (hexValue? c).any (· < base)

/-- Whether an integer fits in sixty-four bits. -/
def fits (n : Int) : Bool := Int64.minValue.toInt ≤ n && n ≤ Int64.maxValue.toInt

/-- A sign, if there is one, and the rest. -/
def sign : List Char → Option Bool × List Char
  | '+' :: rest => (some false, rest)
  | '-' :: rest => (some true, rest)
  | rest => (none, rest)

/-- An integer in base sixteen, eight or two. -/
def prefixedInteger? : List Char → Option (Toml × List Char)
  | '0' :: mark :: rest => do
    let base ← if mark = 'x' then some 16 else if mark = 'o' then some 8 else if mark = 'b' then some 2 else none
    let (digits, rest) ← digitRun? (isDigitBelow base) rest
    let n : Int := natOfDigits base digits
    if fits n then some (.integer n, rest) else none
  | _ => none

/-- The digits of a whole number without leading zeros. -/
def wholeDigits? (cs : List Char) : Option (List Char × List Char) := do
  let (digits, rest) ← digitRun? (isDigitBelow 10) cs
  if digits.head? = some '0' ∧ digits.length > 1 then none else some (digits, rest)

/-- The exponent of a number. Its digits may start with zeros. -/
def exponent? : List Char → Option (List Char)
  | e :: rest =>
    if e = 'e' ∨ e = 'E' then (digitRun? (isDigitBelow 10) (sign rest).2).map (·.2) else none
  | [] => none

/-- A number that is not an integer. -/
def float? (cs : List Char) : Option (Toml × List Char) := do
  let rest := (sign cs).2
  match rest with
  | 'i' :: 'n' :: 'f' :: rest => some (.float, rest)
  | 'n' :: 'a' :: 'n' :: rest => some (.float, rest)
  | _ =>
    let (_, rest) ← wholeDigits? rest
    match rest with
    | '.' :: rest =>
      let (_, rest) ← digitRun? (isDigitBelow 10) rest
      some (.float, (exponent? rest).getD rest)
    | rest => (exponent? rest).map fun rest => (.float, rest)

/-- An integer in base ten. -/
def decimalInteger? (cs : List Char) : Option (Toml × List Char) := do
  let (mark, rest) := sign cs
  let (digits, rest) ← wholeDigits? rest
  let n : Int := natOfDigits 10 digits
  let n := if mark = some true then -n else n
  if fits n then some (.integer n, rest) else none

/-- The number that exactly so many digits at the start of a text spell. -/
def fixedDigits? (count : Nat) (cs : List Char) : Option (Nat × List Char) :=
  let digits := cs.take count
  if digits.length = count ∧ digits.all (isDigitBelow 10) then some (natOfDigits 10 digits, cs.drop count) else none

/-- Removes an expected character. -/
def char? (c : Char) : List Char → Option (List Char)
  | d :: rest => if c = d then some rest else none
  | [] => none

def isLeapYear (year : Nat) : Bool := year % 4 = 0 && (year % 100 ≠ 0 || year % 400 = 0)

def daysOfMonth (year month : Nat) : Nat :=
  if month = 2 then (if isLeapYear year then 29 else 28)
  else if month ∈ [4, 6, 9, 11] then 30 else 31

def date? (cs : List Char) : Option (Date × List Char) := do
  let (year, rest) ← fixedDigits? 4 cs
  let rest ← char? '-' rest
  let (month, rest) ← fixedDigits? 2 rest
  let rest ← char? '-' rest
  let (day, rest) ← fixedDigits? 2 rest
  if 1 ≤ month ∧ month ≤ 12 ∧ 1 ≤ day ∧ day ≤ daysOfMonth year month then some (⟨year, month, day⟩, rest)
  else none

/-- The billionths of a second that a fraction spells; further digits are dropped. -/
def nanoseconds (digits : List Char) : Nat :=
  natOfDigits 10 ((digits ++ List.replicate 9 '0').take 9)

def time? (cs : List Char) : Option (Time × List Char) := do
  let (hour, rest) ← fixedDigits? 2 cs
  let rest ← char? ':' rest
  let (minute, rest) ← fixedDigits? 2 rest
  let rest ← char? ':' rest
  let (second, rest) ← fixedDigits? 2 rest
  if 23 < hour ∨ 59 < minute ∨ 60 < second then none
  else
    match rest with
    | '.' :: after =>
      let digits := after.takeWhile (isDigitBelow 10)
      if digits.isEmpty then some (⟨hour, minute, second, 0⟩, rest)
      else some (⟨hour, minute, second, nanoseconds digits⟩, after.dropWhile (isDigitBelow 10))
    | _ => some (⟨hour, minute, second, 0⟩, rest)

def offset? : List Char → Option (Offset × List Char)
  | 'Z' :: rest => some (.universal, rest)
  | 'z' :: rest => some (.universal, rest)
  | c :: rest => do
    if c ≠ '+' ∧ c ≠ '-' then none
    let (hour, rest) ← fixedDigits? 2 rest
    let rest ← char? ':' rest
    let (minute, rest) ← fixedDigits? 2 rest
    if 23 < hour ∨ 59 < minute then none else some (.hours (c = '-') hour minute, rest)
  | [] => none

/-- A date, a time, or a date and a time with an offset if there is one. -/
def datetime? (cs : List Char) : Option (Toml × List Char) :=
  match date? cs with
  | none => (time? cs).map fun (time, rest) => (.datetime ⟨none, some time, none⟩, rest)
  | some (date, rest) =>
    let time :=
      match rest with
      | c :: after => if c = 'T' ∨ c = 't' ∨ c = ' ' then time? after else none
      | [] => none
    match time with
    | none => some (.datetime ⟨some date, none, none⟩, rest)
    | some (time, rest) =>
      match offset? rest with
      | some (offset, rest) => some (.datetime ⟨some date, some time, some offset⟩, rest)
      | none => some (.datetime ⟨some date, some time, none⟩, rest)

/-- A value that is neither an array nor a table. -/
def scalar? (cs : List Char) : Option (Toml × List Char) :=
  match cs with
  | 't' :: 'r' :: 'u' :: 'e' :: rest => some (.boolean true, rest)
  | 'f' :: 'a' :: 'l' :: 's' :: 'e' :: rest => some (.boolean false, rest)
  | _ =>
    match string? cs with
    | some (text, rest) => some (.string text, rest)
    | none =>
      (datetime? cs).or ((prefixedInteger? cs).or ((float? cs).or (decimalInteger? cs)))

end Layering.Toml
