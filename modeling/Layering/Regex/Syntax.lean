import Layering.Regex.CharSet

/-! Regular expressions. Where several ways to match start at the same place, the first alternative is
preferred, and more repetitions are preferred to fewer unless the repetition is marked otherwise. -/
namespace Layering

namespace Regex

/-- A condition on the characters around a place in a text. -/
inductive Look where
  | textStart
  | textEnd
  | lineStart
  | lineEnd
  /-- A line starts after a line feed, and after a carriage return without one. -/
  | returnLineStart
  | returnLineEnd
  | wordBoundary (ascii : Bool)
  | noWordBoundary (ascii : Bool)
  | wordStart (ascii : Bool)
  | wordEnd (ascii : Bool)
  /-- No character of a word stands before. -/
  | wordStartHalf (ascii : Bool)
  /-- No character of a word stands after. -/
  | wordEndHalf (ascii : Bool)
  deriving Repr, DecidableEq

/-- Whether there is a character and it belongs to words. -/
def isWord (ascii : Bool) : Option Char → Bool
  | some c => (if ascii then CharSet.asciiWord else CharSet.word).contains c.toNat
  | none => false

/-- Whether a condition holds between two characters. At the ends of the text one is absent. -/
def Look.holds (look : Look) (before after : Option Char) : Bool :=
  match look with
  | textStart => before.isNone
  | textEnd => after.isNone
  | lineStart => before.isNone || before = some '\n'
  | lineEnd => after.isNone || after = some '\n'
  | returnLineStart =>
    before.isNone || before = some '\n' || (before = some '\r' && after ≠ some '\n')
  | returnLineEnd =>
    after.isNone || after = some '\r' || (after = some '\n' && before ≠ some '\r')
  | wordBoundary ascii => isWord ascii before != isWord ascii after
  | noWordBoundary ascii => isWord ascii before == isWord ascii after
  | wordStart ascii => !isWord ascii before && isWord ascii after
  | wordEnd ascii => isWord ascii before && !isWord ascii after
  | wordStartHalf ascii => !isWord ascii before
  | wordEndHalf ascii => !isWord ascii after

end Regex

/-- A regular expression. Groups only shape it. -/
inductive Regex where
  | empty
  /-- One character of a set. -/
  | oneOf (set : Regex.CharSet)
  /-- A place where a condition holds. -/
  | assertion (look : Regex.Look)
  | seq (a b : Regex)
  | alt (a b : Regex)
  /-- At least so many repetitions, and at most so many if there is a limit. -/
  | repeat (a : Regex) (least : Nat) (most : Option Nat) (greedy : Bool)

namespace Regex

/-- Whether the expression can match nothing. Conditions count as nothing. -/
def isNullable : Regex → Bool
  | empty | assertion _ => true
  | oneOf _ => false
  | seq a b => a.isNullable && b.isNullable
  | alt a b => a.isNullable || b.isNullable
  | .repeat a least _ _ => least = 0 || a.isNullable

/-- The number of steps of the program for an expression. -/
def cost : Regex → Nat
  | empty => 0
  | oneOf _ | assertion _ => 1
  | seq a b => a.cost + b.cost
  | alt a b => a.cost + b.cost + 2
  | .repeat a least most _ => (a.cost + 1) * (max least (most.getD (least + 1)) + 1)

end Regex

end Layering
