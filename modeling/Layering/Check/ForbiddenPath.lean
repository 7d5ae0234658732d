import Layering.Glob.Expansion
import Layering.Graph

/-! Paths that must not exist. Files and directories alike are reported, whatever they hold. -/
namespace Layering.Check

/-- The finding about an existing path. -/
def existingPath (severity : Severity) (pattern : Glob) (path : String) : Violation :=
  Rule.forbiddenPath.violation severity (.whole path)
    ("forbidden path `" ++ path ++ "` exists (matches `" ++ pattern.text ++ "`)")
    (some ("remove `" ++ path ++ "`"))

/-- The report that a pattern cannot be cut into components. -/
def brokenPattern (pattern : Glob) (e : Glob.Error) : Violation :=
  Rule.ioError.violation .error (.whole "")
    ("cannot expand forbidden pattern `" ++ pattern.text ++ "`: " ++ e.message) none

/-- The findings about the paths that a pattern describes, or about the pattern if it describes none. -/
def findingsFor (severity : Severity) (pattern : Glob) : Except Glob.Error (List String) → List Violation
  | .error e => [brokenPattern pattern e]
  | .ok paths => paths.map (existingPath severity pattern)

/-- A way from the project directory as it is shown: single dots are left out. -/
def wayText (way : List String) : String := Path.displayParts (way.filterMap Path.Part.ofSegment?)

/-- The findings about the paths from a project directory that a pattern describes. -/
def forbiddenBy (severity : Severity) (project : Spot) (pattern : Glob) : List Violation :=
  findingsFor severity pattern
    (pattern.components.map fun components => (Glob.expand components project).map wayText)

/-- The findings about forbidden paths in a project directory, wherever that is. -/
def forbiddenPaths (p : Policy) (severity : Severity) (project : Spot) : List Violation :=
  p.forbidden.flatMap (forbiddenBy severity project)

/-- The text of a directory without the slashes and backslashes at its end. -/
def trimmedText (directory : Path) : String :=
  .ofList (directory.text.toList.reverse.dropWhile fun c => c = '/' || c = '\\').reverse

/-- A pattern for paths in a directory as one for absolute paths. -/
def absolutePattern (directory : Path) (pattern : String) : String :=
  if directory.text = "" then pattern else Glob.escape (trimmedText directory) ++ "/" ++ pattern

/-- The findings about the paths that a pattern describes in the directory with the given path. -/
def forbiddenAt (severity : Severity) (tree : Tree) (directory : Path) (pattern : Glob) : List Violation :=
  findingsFor severity pattern
    ((Glob.paths tree (absolutePattern directory pattern.text)).map (List.map directory.displayBelow))

/-- The findings about forbidden paths in the directory with the given path. -/
def forbiddenIn (p : Policy) (severity : Severity) (tree : Tree) (directory : Path) : List Violation :=
  p.forbidden.flatMap (forbiddenAt severity tree directory)

end Layering.Check
