import Layering.Regex.Syntax

/-! The program of a regular expression: steps that take a character, check a condition or branch, in the order
in which the ways to match are preferred. -/
namespace Layering.Regex

/-- A step. Addresses count the steps of the program. -/
inductive Step where
  /-- Takes a character of a set. -/
  | take (set : CharSet)
  | look (look : Look)
  /-- Goes on at two places, the first one preferred. -/
  | branch (first second : Nat)
  | jump (target : Nat)
  /-- The match is complete. -/
  | done

/-- A program fragment, once its address is known. -/
abbrev Fragment := Nat → List Step

/-- A branch whose preferred side is the body of a repetition if it is greedy. -/
def choose (greedy : Bool) (body exit : Nat) : Step :=
  if greedy then .branch body exit else .branch exit body

/-- So many copies of a fragment in a row. -/
def copies (f : Fragment) : Nat → Fragment
  | 0, _ => []
  | n + 1, start =>
    let code := f start
    code ++ copies f n (start + code.length)

/-- Up to so many copies of a fragment; after each one the rest can be left out. -/
def optionalCopies (f : Fragment) (greedy : Bool) (exit : Nat) : Nat → Fragment
  | 0, _ => []
  | n + 1, start =>
    let code := f (start + 1)
    choose greedy (start + 1) exit :: code ++ optionalCopies f greedy exit n (start + 1 + code.length)

/-- One or more copies of a fragment. -/
def oneOrMore (f : Fragment) (greedy : Bool) : Fragment := fun start =>
  let code := f start
  let branch := start + code.length
  code ++ [choose greedy start (branch + 1)]

/-- Any number of copies of a fragment. If the fragment can match nothing, a first copy is tried before the
loop, so that an empty copy ends the repetition. -/
def zeroOrMore (f : Fragment) (nullable greedy : Bool) : Fragment := fun start =>
  if nullable then
    let code := oneOrMore f greedy (start + 1)
    choose greedy (start + 1) (start + 1 + code.length) :: code
  else
    let code := f (start + 1)
    let exit := start + 1 + code.length + 1
    choose greedy (start + 1) exit :: code ++ [.jump start]

/-- The program of an expression from a given address on. -/
def compile : Regex → Fragment
  | empty, _ => []
  | oneOf set, _ => [.take set]
  | assertion look, _ => [.look look]
  | seq a b, start =>
    let first := compile a start
    first ++ compile b (start + first.length)
  | alt a b, start =>
    let first := compile a (start + 1)
    let middle := start + 1 + first.length + 1
    let second := compile b middle
    .branch (start + 1) middle :: first ++ .jump (middle + second.length) :: second
  | .repeat a 0 none greedy, start => zeroOrMore (compile a) a.isNullable greedy start
  | .repeat a (least + 1) none greedy, start =>
    let before := copies (compile a) least start
    before ++ oneOrMore (compile a) greedy (start + before.length)
  | .repeat a least (some most) greedy, start =>
    let before := copies (compile a) least start
    let here := start + before.length
    let length := (most - least) * ((compile a here).length + 1)
    before ++ optionalCopies (compile a) greedy (here + length) (most - least) here

/-- The steps of a complete program. -/
def program (a : Regex) : Array Step := (compile a 0 ++ [Step.done]).toArray

end Layering.Regex
