import Layering.Text.Slashed

/-! Reading the arguments of a command: long options with two dashes, short ones with one dash that may be joined, and
other words. -/
namespace Layering.CommandLine

/-- An option. -/
structure Flag where
  name : String
  short : Option Char := none
  takesValue : Bool := false
  /-- Whether the option may be given more than once. -/
  repeats : Bool := false
  accepts : String → Bool := fun _ => true

/-- What a command takes. -/
structure Grammar where
  flags : List Flag
  /-- The number of words that it takes at most. -/
  words : Nat := 0
  /-- The commands that it passes the rest of the arguments on to. -/
  commands : List String := []

/-- Why reading ends early. -/
inductive Stop where
  | usage
  | version
  | help
  deriving Repr, DecidableEq

/-- What has been read. -/
structure Arguments where
  /-- The options with their values, last one first. -/
  flags : List (String × String) := []
  /-- The words, last one first. -/
  words : List String := []
  deriving Repr, DecidableEq

namespace Arguments

/-- The value of an option. -/
def value? (a : Arguments) (name : String) : Option String := a.flags.lookup name

/-- All values of an option in order. -/
def values (a : Arguments) (name : String) : List String :=
  (a.flags.reverse.filter fun entry => entry.1 = name).map (·.2)

def has (a : Arguments) (name : String) : Bool := (a.value? name).isSome

/-- Adds an option. Asking for the version or for help ends the reading. -/
def addFlag (a : Arguments) (flag : Flag) (value : String) : Except Stop Arguments :=
  if flag.name = "version" then .error .version
  else if flag.name = "help" then .error .help
  else if (a.has flag.name && !flag.repeats) || !flag.accepts value then .error .usage
  else .ok { a with flags := (flag.name, value) :: a.flags }

/-- Adds a word, unless the command takes no more. Words are paths and are not empty. -/
def addWord (a : Arguments) (g : Grammar) (word : String) : Except Stop Arguments :=
  if a.words.length < g.words ∧ word ≠ "" then .ok { a with words := word :: a.words } else .error .usage

end Arguments

/-- Reads a long option after its dashes. An option that waits for its value in the next argument is returned. -/
def readLong (g : Grammar) (a : Arguments) (text : List Char) : Except Stop (Arguments × Option Flag) :=
  let name := String.ofList (text.takeWhile (· ≠ '='))
  match g.flags.find? (·.name = name), text.dropWhile (· ≠ '=') with
  | none, _ => .error .usage
  | some flag, [] => if flag.takesValue then .ok (a, some flag) else return (← a.addFlag flag "", none)
  | some flag, _ :: value =>
    if flag.takesValue then return (← a.addFlag flag (.ofList value), none) else .error .usage

/-- Reads short options after their dash. What follows one that takes a value is its value, where an equals sign
before it does not count. -/
def readShort (g : Grammar) (a : Arguments) : List Char → Except Stop (Arguments × Option Flag)
  | [] => .ok (a, none)
  | c :: cs =>
    match g.flags.find? (·.short = some c) with
    | none => .error .usage
    | some flag =>
      if flag.takesValue then
        match cs with
        | [] => .ok (a, some flag)
        | '=' :: value => return (← a.addFlag flag (.ofList value), none)
        | value => return (← a.addFlag flag (.ofList value), none)
      else do readShort g (← a.addFlag flag "") cs

/-- The arguments after two dashes are words, whatever they look like. -/
def readWords (g : Grammar) (a : Arguments) (words : List String) : Except Stop Arguments :=
  words.foldlM (fun a word => a.addWord g word) a

/-- Reads arguments up to a command, which is returned with the arguments after it. An option may wait for its value;
only a word can be that. -/
def read (g : Grammar) (a : Arguments) (waiting : Option Flag) :
    List String → Except Stop (Arguments × Option (String × List String))
  | [] => if waiting.isSome then .error .usage else .ok (a, none)
  | argument :: rest =>
    match waiting, argument.toList with
    | some _, '-' :: _ :: _ => .error .usage
    | some flag, _ => do read g (← a.addFlag flag argument) none rest
    | none, ['-', '-'] => return (← readWords g a rest, none)
    | none, '-' :: '-' :: text => do
      let (a, waiting) ← readLong g a text
      read g a waiting rest
    | none, '-' :: c :: text => do
      let (a, waiting) ← readShort g a (c :: text)
      read g a waiting rest
    | none, _ =>
      if g.commands.contains argument then .ok (a, some (argument, rest))
      else do read g (← a.addWord g argument) none rest

end Layering.CommandLine
