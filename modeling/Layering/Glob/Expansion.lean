import Layering.Glob.Pattern
import Layering.Tree

/-! The paths in a file system that a glob pattern describes, component by component. Here two stars stand for any
number of directories and for nothing else, and the names that start with a dot include the two special ones only
where the pattern spells the dot. -/
namespace Layering.Glob

/-- The character that a token takes literally. -/
def Token.char? : Token → Option Char
  | char c => some c
  | _ => none

/-- The name that a component without wildcards stands for. -/
def literal? (component : Glob) : Option String := (component.tokens.mapM Token.char?).map String.ofList

/-- Whether a component stands for any number of directories. -/
def isRecursive (component : Glob) : Bool := component.tokens.contains .anyComponents

mutual

/-- All that is below a place, with the ways to it. -/
def below (above : List Tree) : Tree → List (List String × Spot)
  | .file _ => []
  | .directory entries => belowAmong (.directory entries :: above) entries

/-- Some entries of a directory and all that is below them, with the ways to it. The directory is the first one
above. -/
def belowAmong (above : List Tree) : List (String × Tree) → List (List String × Spot)
  | [] => []
  | (name, entry) :: entries =>
    ([name], ⟨entry, above⟩)
      :: ((below above entry).map fun (way, spot) => (name :: way, spot)) ++ belowAmong above entries

end

/-- The special names of a directory and the one above that a component describes. -/
def special (component : Glob) (s : Spot) : List (String × Spot) :=
  if s.here.isDirectory ∧ component.tokens.head? = some (.char '.') then
    [(".", s), ("..", s.up)].filter fun entry => component.isMatch entry.1
  else []

/-- What one component describes among the entries of a place. A component without wildcards is not looked for among
them but gone to, so that it may be empty or dots. -/
def entriesFor (component : Glob) (s : Spot) : List (String × Spot) :=
  match literal? component with
  | some name =>
    match s.step name with
    | .ok child => [(name, child)]
    | .error _ => []
  | none => (s.children.filter fun entry => component.isMatch entry.1) ++ special component s

/-- Continues the ways to some places by ways that go on from there. -/
def extend (found : List (List String × Spot)) (further : Spot → List (List String)) : List (List String) :=
  found.flatMap fun (way, spot) => (further spot).map (way ++ ·)

/-- Whether a way ends with a name that a component describes. -/
def endsWith (component : Glob) (way : List String) : Bool := way.getLast?.any component.isMatch

/-- The ways from a place that components describe. -/
def expand : List Glob → Spot → List (List String)
  | [], _ => [[]]
  | [component], s =>
    if component.isRecursive then
      ((below s.above s.here).filter fun entry => entry.2.here.isDirectory).map (·.1)
    else (entriesFor component s).map fun entry => [entry.1]
  | component :: next :: others, s =>
    if component.isRecursive then
      if next.isRecursive then expand (next :: others) s
      else extend ((below s.above s.here).filter fun entry => next.endsWith entry.1) (expand others)
    else extend ((entriesFor component s).map fun (name, spot) => ([name], spot)) (expand (next :: others))

/-- The components of a pattern, each read for itself. -/
def components (glob : Glob) : Except Error (List Glob) := (Text.split '/' glob.text).mapM parse

/-- The paths that a pattern describes, where the tree is that of the topmost directory. -/
def paths (tree : Tree) (pattern : String) : Except Error (List Path) := do
  let whole ← parse pattern
  let components ← whole.components
  if Path.isAbsolute ⟨pattern⟩ then return (expand components ⟨tree, []⟩).map fun way => ⟨Text.join "/" way⟩
  return []

end Layering.Glob
