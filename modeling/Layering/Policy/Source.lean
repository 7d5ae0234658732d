import Layering.Policy.Load
import Layering.Tree

/-! Where the policy of a project comes from: a file that the user names, or else the first one that exists of two
files of the project and one of the user. -/
namespace Layering.Policy

/-- What a run knows about its surroundings. -/
structure Surroundings where
  /-- The directory that relative paths start from. -/
  workingDirectory : Path
  /-- The directory of the user's policy, if it is set. -/
  configDirectory : Option Path := none
  home : Option Path := none
  /-- The directory of the user's settings of other programs, if it is set. -/
  settingsDirectory : Option Path := none
  /-- Where the patterns of the user's ignore file start, if not in the working directory. -/
  patternDirectory : Option Path := none
  deriving Repr, DecidableEq

/-- A relative path seen from the working directory. -/
def Surroundings.absolute (s : Surroundings) (p : Path) : Path := s.workingDirectory.join p

/-- The directory of the user's policy. -/
def Surroundings.userDirectory (s : Surroundings) : Option Path :=
  match s.configDirectory with
  | some directory => some directory
  | none => s.home.map fun home => home.join ⟨".layer-lint"⟩

/-- Where a policy comes from. -/
inductive Source where
  | explicit (path : Path)
  | project (path : Path)
  | global (path : Path)
  | builtin
  deriving Repr, DecidableEq

namespace Source

def path? : Source → Option Path
  | explicit path | project path | global path => some path
  | builtin => none

/-- The files in which a project may keep its policy. -/
def projectFiles : List Path := [⟨"layer-lint.toml"⟩, ⟨".layer-lint.toml"⟩]

/-- The file in which a user may keep a policy. -/
def userFile : Path := ⟨"config.toml"⟩

/-- Where the policy of a project comes from. -/
def find (s : Surroundings) (tree : Tree) (projectDirectory : Path) (explicitFile : Option Path) : Source :=
  let exists? (path : Path) : Bool := tree.holdsAt (s.absolute path) Tree.isFile
  match explicitFile with
  | some path => explicit path
  | none =>
    match (projectFiles.map projectDirectory.join).find? exists? with
    | some path => project path
    | none =>
      match (s.userDirectory.map fun directory => directory.join userFile).filter exists? with
      | some path => global path
      | none => builtin

/-- The policy that comes from there. -/
def load (s : Surroundings) (tree : Tree) (source : Source) : Except Error Policy :=
  match source.path? with
  | none => Policy.builtin
  | some path =>
    match tree.read (s.absolute path) with
    | .ok text => ofToml text
    | .error _ => .error (.unreadable path)

end Source

end Layering.Policy
