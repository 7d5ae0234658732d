import Layering.Ignore.Rules
import Layering.Policy.Basic
import Layering.Violation

/-! Finding the source files of a project: all files below a directory, except for what is below ignored
directories, what ignore files rule out, files with other extensions, and excluded paths. The ignore file of the user
sees paths in the spelling of the directory from which they are found. -/
namespace Layering.Discovery

/-- How directories are gone through. -/
structure Walk where
  /-- Names of directories that are not entered. -/
  ignoreDirs : List String
  /-- Whether ignore files count. -/
  respectIgnore : Bool
  /-- The ignore file of the user. -/
  user : Ignore.UserFile := {}
  /-- The directory from which they are gone through, as it is spelt. -/
  root : Path := ⟨"/"⟩

/-- The path to which a way leads. -/
def Walk.path (w : Walk) (way : List String) : Path := w.root.join ⟨Text.join "/" way⟩

/-- Whether an entry of the directory at the end of a way is left out, given the ignore files of all directories above
the entry. -/
def Walk.skips (w : Walk) (scopes : List Ignore.Scope) (way : List String) (name : String) (entry : Tree) : Bool :=
  (w.respectIgnore && Ignore.isIgnored scopes w.user (w.path (way ++ [name])) entry.isDirectory)
    || (entry.isDirectory && w.ignoreDirs.contains name)

mutual

/-- The ways to all files below a directory that are not left out, given the ignore files above it. -/
def Walk.files (w : Walk) (scopes : List Ignore.Scope) (way : List String) : Tree → List (List String)
  | .file _ => [way]
  | .directory entries => w.filesAmong (Ignore.Scope.ofDirectory (.directory entries) :: scopes) way entries

/-- The ways to all files among some entries of a directory. -/
def Walk.filesAmong (w : Walk) (scopes : List Ignore.Scope) (way : List String) :
    List (String × Tree) → List (List String)
  | [] => []
  | (name, entry) :: entries =>
    let inside := scopes.map fun scope => scope.enter name
    let found := if w.skips inside way name entry then [] else w.files inside (way ++ [name]) entry
    found ++ w.filesAmong scopes way entries

end

/-- The ignore files of the directories above the end of a way, nearest first. -/
def scopesAbove (directory : Tree) : List String → List Ignore.Scope
  | [] => []
  | name :: names =>
    let below := ((directory.entry? name).map fun child => scopesAbove child names).getD []
    below ++ [{ Ignore.Scope.ofDirectory directory with way := name :: names }]

/-- The names on the way down to an absolute path. -/
def wayTo (p : Path) : List String :=
  (Path.cleanParts p.parts).filterMap fun part =>
    match part with
    | .name text => some text
    | _ => none

/-- The lines that are no patterns in the ignore files of the directories above the end of a way, by the paths of the
files, topmost directory first. -/
def problemsAbove (above : List String) (directory : Tree) : List String → List (Path × Ignore.Problem)
  | [] => []
  | name :: names =>
    let here := Ignore.ways.flatMap fun way =>
      (Ignore.File.find directory way).problems.map fun problem =>
        (Path.mk ("/" ++ Text.join "/" (above ++ way)), problem)
    let below := (directory.entry? name).map fun child => problemsAbove (above ++ [name]) child names
    here ++ below.getD []

/-- The report about lines of ignore files above a project that are no patterns. It stands at the first such file. -/
def problemIssues (project : Path) (problems : List (Path × Ignore.Problem)) : List Violation :=
  match problems with
  | [] => []
  | (path, _) :: _ =>
    let messages := problems.map fun (path, problem) => path.text ++ ": " ++ problem.message
    [Rule.ioError.violation .error (.whole (project.displayBelow path))
      ("failed to read directory entry: " ++ Text.join "\n" messages) none]

/-- What is found in a project. -/
structure Found where
  /-- The paths of source files from the project directory. -/
  paths : List String
  issues : List Violation

/-- Whether the name of a file is that of a source file. -/
def isSource (d : Discovery) (name : String) : Bool := (Text.extension? name).any d.extensions.contains

/-- How the sources in a directory are gone through. -/
def walk (d : Discovery) (user : Ignore.UserFile) (sourceDirectory : Path) : Walk where
  ignoreDirs := d.ignoreDirs
  respectIgnore := d.respectGitignore
  user
  root := sourceDirectory

/-- The source files below a directory of a project. -/
def find (d : Discovery) (exclude : List Glob) (user : Ignore.UserFile) (tree : Tree) (project sourceDirectory : Path) :
    Found :=
  let way := wayTo sourceDirectory
  let walk := walk d user sourceDirectory
  let scopes := if d.respectGitignore then scopesAbove tree way else []
  let ways := ((tree.below? way).map (walk.files scopes [])).getD []
  let sources := ways.filter fun way => way.getLast?.any (isSource d)
  let paths := sources.map fun way => project.displayBelow (walk.path way)
  { paths := paths.filter fun path => !exclude.any fun glob => glob.isMatch path
    issues := if d.respectGitignore then problemIssues project (problemsAbove [] tree way) else [] }

end Layering.Discovery
