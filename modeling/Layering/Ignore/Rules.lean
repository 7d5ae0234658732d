import Layering.Ignore.Pattern
import Layering.Text.Character
import Layering.Tree

/-! Ignore files. Each line is a pattern, and of the patterns that describe a path the last one decides whether the
path is ignored or kept. Directories have ignore files for what is below them, and the user may have one for all paths,
which is asked where the others say nothing. -/
namespace Layering.Ignore

/-- A line of an ignore file. -/
structure Rule where
  /-- The line as it is written. -/
  text : String
  tokens : List Token
  /-- Whether paths of this form are kept, even if a line before ignores them. -/
  keeps : Bool
  onlyDirectories : Bool

/-- What ignore files say about a path. -/
inductive Verdict where
  | ignored
  | kept
  deriving Repr, DecidableEq

/-- A line without blanks at its end, unless the last one is escaped. -/
def trimLine (line : List Char) : List Char :=
  match line.reverse with
  | ' ' :: '\\' :: _ => line
  | reversed => (reversed.dropWhile Text.isBlank).reverse

/-- The marks at the start of a line: whether it keeps paths, whether its pattern is tied to the directory of the
ignore file, and the pattern. -/
def readMarks : List Char → Bool × Bool × List Char
  | '\\' :: '!' :: cs => (false, false, '!' :: cs)
  | '\\' :: '#' :: cs => (false, false, '#' :: cs)
  | '!' :: '/' :: cs => (true, true, cs)
  | '!' :: cs => (true, false, cs)
  | '/' :: cs => (false, true, cs)
  | cs => (false, false, cs)

/-- A pattern without the slash at its end, and whether there was one. -/
def readDirectoryMark (cs : List Char) : Bool × List Char :=
  match cs.reverse with
  | '/' :: '\\' :: reversed => (true, reversed.reverse)
  | '/' :: reversed => (true, reversed.reverse)
  | _ => (false, cs)

/-- The pattern of whole paths that a pattern stands for: one without slashes may describe the end of a path in any
directory, and one that ends with two stars does not describe the directory before them. -/
def wholePattern (anchored : Bool) (cs : List Char) : List Char :=
  let cs := if anchored ∨ '/' ∈ cs ∨ cs = ['*', '*'] then cs else "**/".toList ++ cs
  if ("/**".toList).isSuffixOf cs then cs ++ "/*".toList else cs

/-- The rule on a line, if there is one. -/
def readLine (line : String) : Except PatternError (Option Rule) := do
  if line.toList.head? = some '#' then return none
  let trimmed := trimLine line.toList
  if trimmed = [] then return none
  let (keeps, anchored, pattern) := readMarks trimmed
  let (onlyDirectories, pattern) := readDirectoryMark pattern
  let tokens ← tokens? (.ofList (wholePattern anchored pattern))
  return some { text := .ofList trimmed, tokens, keeps, onlyDirectories }

def Rule.describes (rule : Rule) (path : String) (isDirectory : Bool) : Bool :=
  (!rule.onlyDirectories || isDirectory) && matchesPath rule.tokens path

def Rule.verdict (rule : Rule) : Verdict := if rule.keeps then .kept else .ignored

/-- What a list of rules says about a path. -/
def verdict? (rules : List Rule) (path : String) (isDirectory : Bool) : Option Verdict :=
  (rules.reverse.find? fun rule => rule.describes path isDirectory).map Rule.verdict

/-- The bytes of a line without the carriage return at its end. -/
def dropReturn (line : List UInt8) : List UInt8 :=
  match line.reverse with
  | 13 :: reversed => reversed.reverse
  | _ => line

/-- The bytes of the lines of a file. What follows the last line break is a line if it is not empty. -/
def lineBytes (bytes : ByteArray) : List (List UInt8) :=
  let pieces := Text.segments 10 bytes.data.toList
  pieces.dropLast.map dropReturn ++ (pieces.getLast?.filter (· ≠ [])).toList

/-- The lines of a file, where they are texts. Byte order marks at the start do not count. -/
def lines (bytes : ByteArray) : List (Option String) :=
  match (lineBytes bytes).map fun line => String.fromUTF8? ⟨line.toArray⟩ with
  | some first :: others => some (.ofList (first.toList.dropWhile (· = '\uFEFF'))) :: others
  | lines => lines

/-- Why a line is passed over. -/
inductive LineError where
  | noPattern (text : String) (error : PatternError)
  | noText
  deriving Repr, DecidableEq

def LineError.message : LineError → String
  | noPattern text error => "error parsing glob '" ++ text ++ "': " ++ error.message
  | noText => "stream did not contain valid UTF-8"

/-- A line that is passed over. -/
structure Problem where
  /-- The number of the line, from one. -/
  line : Nat
  error : LineError
  deriving Repr, DecidableEq

def Problem.message (p : Problem) : String := "line " ++ toString p.line ++ ": " ++ p.error.message

/-- An ignore file: its rules, and the lines that are passed over. -/
structure File where
  rules : List Rule := []
  problems : List Problem := []

/-- The rules and problems of numbered lines. Nothing is read after a line that is no text. -/
def readLines : List (Option String × Nat) → File
  | [] => {}
  | (none, index) :: _ => { problems := [⟨index + 1, .noText⟩] }
  | (some line, index) :: lines =>
    let rest := readLines lines
    match readLine line with
    | .ok none => rest
    | .ok (some rule) => { rest with rules := rule :: rest.rules }
    | .error error =>
      { rest with problems := ⟨index + 1, .noPattern (.ofList (trimLine line.toList)) error⟩ :: rest.problems }

/-- What the bytes of an ignore file say. A line that is no text is passed over in silence unless there is another
problem. -/
def File.ofBytes (bytes : ByteArray) : File :=
  let file := readLines (lines bytes).zipIdx
  if file.problems.all (·.error = .noText) then { file with problems := [] } else file

/-- The ignore file that is found on a way down from a directory. -/
def File.find (directory : Tree) (way : List String) : File :=
  (((directory.below? way).bind Tree.bytes?).map File.ofBytes).getD {}

/-- The ways to the ignore files of a directory. The first file that says something about a path decides, also among
the files of several directories. -/
def ways : List (List String) := [[".ignore"], [".gitignore"], [".git", "info", "exclude"]]

/-- The ignore files of a directory above a path, and the way from there to the path. -/
structure Scope where
  files : List File
  way : List String

/-- The ignore files of a directory, seen from there. -/
def Scope.ofDirectory (directory : Tree) : Scope := ⟨ways.map (File.find directory), []⟩

/-- The scope for an entry of the directory that the way led to. -/
def Scope.enter (scope : Scope) (name : String) : Scope := { scope with way := scope.way ++ [name] }

/-- What the ignore files of one kind say about a path, the nearest directory first. -/
def verdictOfKind? (scopes : List Scope) (isDirectory : Bool) (kind : Nat) : Option Verdict :=
  scopes.findSome? fun scope =>
    scope.files[kind]?.bind fun file => verdict? file.rules (Text.join "/" scope.way) isDirectory

/-- What the ignore files of all directories above a path say about it. -/
def verdictAbove? (scopes : List Scope) (isDirectory : Bool) : Option Verdict :=
  (List.range ways.length).findSome? (verdictOfKind? scopes isDirectory)

/-- The ignore file of the user. It belongs to no directory above the paths that it describes, but its patterns see them
from a base. -/
structure UserFile where
  rules : List Rule := []
  base : Path := ⟨"/"⟩

/-- A path as it is spelt, without the text of the base and a slash if it starts with that. -/
def UserFile.seen (file : UserFile) (path : Path) : String :=
  match Text.stripPrefix? file.base.text.toList path.text.toList with
  | some ('/' :: rest) => .ofList rest
  | some rest => .ofList rest
  | none => path.text

def UserFile.verdict? (file : UserFile) (path : Path) (isDirectory : Bool) : Option Verdict :=
  Ignore.verdict? file.rules (file.seen path) isDirectory

/-- Whether a path is ignored. The user's file is asked last. -/
def isIgnored (scopes : List Scope) (user : UserFile) (path : Path) (isDirectory : Bool) : Bool :=
  (verdictAbove? scopes isDirectory).or (user.verdict? path isDirectory) = some .ignored

end Layering.Ignore
