import Layering.Regex.Parser
import Layering.Regex.Program

/-! Running a program: all ways to match are followed at once, in the order in which they are preferred. Of two
ways that come to the same step at the same place, only the first is followed. -/
namespace Layering.Regex

/-- The steps that take a character or complete the match and can be reached from the steps on a stack without
taking a character, in order of preference. The first argument bounds the number of steps. -/
def reach (program : Array Step) (holds : Look → Bool) : Nat → List Nat → Array Bool → List Nat
  | 0, _, _ => []
  | _, [], _ => []
  | fuel + 1, address :: stack, seen =>
    if seen.getD address true then reach program holds fuel stack seen
    else
      let seen := seen.setIfInBounds address true
      match program[address]? with
      | some (.jump target) => reach program holds fuel (target :: stack) seen
      | some (.branch first second) => reach program holds fuel (first :: second :: stack) seen
      | some (.look look) =>
        reach program holds fuel (if holds look then (address + 1) :: stack else stack) seen
      | some (.take _) | some .done => address :: reach program holds fuel stack seen
      | none => reach program holds fuel stack seen

/-- All live steps between two characters. Each step is put on the stack by at most two others. -/
def live (program : Array Step) (before after : Option Char) (steps : List Nat) : List Nat :=
  reach program (·.holds before after) (steps.length + 2 * program.size + 1) steps
    (Array.replicate program.size false)

/-- Whether the step completes the match. -/
def isDone (program : Array Step) (address : Nat) : Bool :=
  match program[address]? with
  | some .done => true
  | _ => false

/-- The step after one that takes the given character. -/
def advance? (program : Array Step) (c : Char) (address : Nat) : Option Nat :=
  match program[address]? with
  | some (.take set) => if set.contains c.toNat then some (address + 1) else none
  | _ => none

/-- The live steps that are preferred to a complete match, and the best match if the length so far makes one.
Ways that are less preferred than a complete one are dropped. -/
def settle (program : Array Step) (before after : Option Char) (steps : List Nat) (length : Nat)
    (best : Option Nat) : List Nat × Option Nat :=
  let live := live program before after steps
  (live.takeWhile fun address => !isDone program address,
   if live.any (isDone program) then some length else best)

/-- Follows the given steps through a text. Returns the length of the preferred match in characters, where the
length so far and the best match so far are given. -/
def follow (program : Array Step) :
    List Char → Option Char → List Nat → Nat → Option Nat → Option Nat
  | [], before, steps, length, best => (settle program before none steps length best).2
  | c :: cs, before, steps, length, best =>
    let (live, best) := settle program before (some c) steps length best
    match live.filterMap (advance? program c) with
    | [] => best
    | next => follow program cs (some c) next (length + 1) best

/-- The length of the preferred match at the start of a text that continues after a character. -/
def matchLength? (program : Array Step) (before : Option Char) (cs : List Char) : Option Nat :=
  follow program cs before [0] 0 none

/-- The number of bytes of a text. -/
def byteLength (cs : List Char) : Nat := (String.ofList cs).utf8ByteSize

/-- The matches in a text from left to right, as byte offsets of their ends. They do not overlap, and an empty
match does not stand right after another match. -/
def matchesFrom (program : Array Step) (before : Option Char) (offset : Nat) (afterMatch : Bool)
    (cs : List Char) : List (Nat × Nat) :=
  let skip :=
    match cs with
    | [] => []
    | c :: rest => matchesFrom program (some c) (offset + c.utf8Size) false rest
  match matchLength? program before cs with
  | none => skip
  | some 0 => if afterMatch then skip else (offset, offset) :: skip
  | some (n + 1) =>
    match cs with
    | [] => []
    | c :: rest =>
      let taken := c :: rest.take n
      let stop := offset + byteLength taken
      (offset, stop) :: matchesFrom program taken.getLast? stop true (rest.drop n)
termination_by cs.length
decreasing_by
  · simp
  · simp only [List.length_drop, List.length_cons]; omega

/-- The matches of an expression in a text, as byte offsets of their ends. -/
def findAll (a : Regex) (text : String) : List (Nat × Nat) :=
  matchesFrom a.program none 0 false text.toList

end Layering.Regex
