/-! TOML values. Tables remember how they came to be, because that decides which later lines may extend
them. -/
namespace Layering.Toml

/-- A day of the calendar. -/
structure Date where
  year : Nat
  month : Nat
  day : Nat
  deriving Repr, DecidableEq

/-- A time of day. -/
structure Time where
  hour : Nat
  minute : Nat
  second : Nat
  /-- Billionths of a second. -/
  nanosecond : Nat
  deriving Repr, DecidableEq

/-- The distance of a time from universal time. -/
inductive Offset where
  | universal
  | hours (isNegative : Bool) (hour minute : Nat)
  deriving Repr, DecidableEq

/-- A date, a time, or both. -/
structure Datetime where
  date : Option Date
  time : Option Time
  offset : Option Offset
  deriving Repr, DecidableEq

/-- How a table came to be. -/
inductive TableKind where
  /-- It has a header of its own, or is the root. -/
  | header
  /-- Only headers of tables inside it were seen so far. -/
  | implied
  /-- Dotted keys made it. -/
  | dotted
  /-- It is written between braces. -/
  | inline
  /-- Dotted keys between braces made it. -/
  | inlineDotted
  deriving Repr, DecidableEq

end Toml

/-- A TOML value. -/
inductive Toml where
  | string (text : String)
  | boolean (value : Bool)
  | integer (value : Int)
  /-- A number that is no integer. -/
  | float
  | datetime (value : Toml.Datetime)
  | array (items : List Toml)
  | table (kind : Toml.TableKind) (entries : List (String × Toml))
  /-- An array whose items are tables with headers, in order. -/
  | tables (items : List (List (String × Toml)))
  deriving Repr, Inhabited

namespace Toml

/-- A number with zeros before it, so that it has at least the given width. -/
def padded (width n : Nat) : String :=
  let digits := Nat.toDigits 10 n
  .ofList (List.replicate (width - digits.length) '0' ++ digits)

def Date.text (d : Date) : String :=
  padded 4 d.year ++ "-" ++ padded 2 d.month ++ "-" ++ padded 2 d.day

/-- A fraction has no trailing zeros and is left out if it is zero. -/
def Time.text (t : Time) : String :=
  let fraction := (padded 9 t.nanosecond).toList.reverse.dropWhile (· = '0')
  padded 2 t.hour ++ ":" ++ padded 2 t.minute ++ ":" ++ padded 2 t.second ++
    (if fraction.isEmpty then "" else .ofList ('.' :: fraction.reverse))

/-- No distance has no sign of its own and is shown as a positive one. -/
def Offset.text : Offset → String
  | universal => "Z"
  | hours isNegative hour minute =>
    (if isNegative ∧ (hour, minute) ≠ (0, 0) then "-" else "+") ++ padded 2 hour ++ ":" ++ padded 2 minute

def Datetime.text (d : Datetime) : String :=
  let date := (d.date.map Date.text).getD ""
  let mark := if d.date.isSome && d.time.isSome then "T" else ""
  date ++ mark ++ (d.time.map Time.text).getD "" ++ (d.offset.map Offset.text).getD ""

end Toml

end Layering
