import Layering.Analysis
import Layering.Check.ForbiddenPath
import Layering.Discovery

/-! A project on disk: where it is, what it is checked against, and the report on it. -/
namespace Layering

/-- Why a project cannot be checked. -/
inductive ProjectError where
  /-- The directory with the sources does not exist. -/
  | missingRoot (path : Path)
  | invalidExclude (pattern : String) (error : Glob.Error)
  deriving Repr, DecidableEq

namespace ProjectError

def message : ProjectError → String
  | missingRoot path => "source root " ++ path.text ++ " does not exist"
  | invalidExclude pattern error => "invalid exclude pattern `" ++ pattern ++ "`: " ++ error.message

/-- The code of the kind of error. -/
def code : ProjectError → String
  | missingRoot _ => "layer_lint::analyzer::missing_root"
  | invalidExclude .. => "layer_lint::analyzer::invalid_exclude"

/-- What the user can do about the error. -/
def help : ProjectError → Option String
  | missingRoot _ => some "pass the project directory to `check`, or set `root` in [analyzer] / use --root"
  | invalidExclude .. => none

end ProjectError

/-- A project that can be checked. -/
structure Project where
  /-- The directory of the project, as an absolute path. -/
  directory : Path
  policy : Policy
  rules : List Rule
  /-- The directory with the sources, seen from the project directory. -/
  sourceRoot : Path
  exclude : List Glob
  /-- The ignore file of the user. -/
  user : Ignore.UserFile := {}

namespace Project

/-- Reads patterns of excluded paths. The first one that cannot be read is the error. -/
def readExclude (patterns : List String) : Except ProjectError (List Glob) :=
  patterns.mapM fun pattern => (Glob.parse pattern).mapError (.invalidExclude pattern)

/-- A project in a directory. A directory with sources and patterns of excluded paths may be given besides those of
the policy, and the user may have an ignore file. -/
def make (tree : Tree) (directory : Path) (policy : Policy) (rules : List Rule) (sourceRoot : Option Path)
    (exclude : List String) (user : Ignore.UserFile := {}) : Except ProjectError Project := do
  let sourceRoot := sourceRoot.getD ⟨policy.discovery.root⟩
  let sourceDirectory := directory.join sourceRoot
  if !tree.holdsAt sourceDirectory Tree.isDirectory then .error (.missingRoot sourceDirectory)
  return { directory, policy, rules, sourceRoot, exclude := policy.discovery.exclude ++ (← readExclude exclude), user }

/-- The source files of a project. -/
def discover (p : Project) (tree : Tree) : Discovery.Found :=
  Discovery.find p.policy.discovery p.exclude p.user tree p.directory (p.directory.join p.sourceRoot)

/-- The graph of the files with the given paths. -/
def graph (p : Project) (tree : Tree) (paths : List String) : Graph :=
  Graph.build p.policy p.directory tree.reader paths

/-- The findings about forbidden paths. -/
def forbidden (p : Project) (tree : Tree) : List Violation :=
  Check.forbiddenIn p.policy Rule.forbiddenPath.standardSeverity tree p.directory

/-- The report on the files with the given paths. -/
def reportOn (p : Project) (tree : Tree) (paths : List String) : Report :=
  Analysis.report p.policy p.rules (p.forbidden tree) (p.graph tree paths)

/-- The report on all source files of a project. -/
def report (p : Project) (tree : Tree) : Report :=
  let found := p.discover tree
  ((p.reportOn tree found.paths).add found.issues).sorted

end Project

end Layering
