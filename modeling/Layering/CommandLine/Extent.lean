import Layering.CommandLine.Run

/-! How much of the file system a command may look at, so that only that has to be read in before it runs. -/
namespace Layering.CommandLine

/-- Files, and directories with all that is below them. -/
structure Extent where
  directories : List Path := []
  files : List Path := []
  deriving Repr, DecidableEq

/-- The files that may hold the policy of a project. -/
def policyFiles (s : Policy.Surroundings) (project : Path) (config : Option Path) : List Path :=
  match config with
  | some path => [path]
  | none =>
    Policy.Source.projectFiles.map project.join
      ++ (s.userDirectory.map fun directory => directory.join Policy.Source.userFile).toList

/-- The files with settings, and the ignore file of a user whose settings name none. -/
def settingsFiles (s : Policy.Surroundings) : List Path := Settings.files s ++ (Settings.standard? s).toList

/-- What a command may look at, apart from what the settings of the user name. -/
def extent (s : Policy.Surroundings) (arguments : List String) : Extent :=
  match readInvocation arguments with
  | .ok ⟨config, .check options⟩ =>
    let directory := projectDirectory s options.project
    { directories := directory :: (options.root.map directory.join).toList
      files := (policyFiles s options.project config ++ settingsFiles s).map s.absolute }
  | .ok ⟨_, .init _⟩ => { files := [s.absolute policyFile] }
  | _ => {}

/-- What a command may look at besides, given the files with settings. -/
def namedExtent (s : Policy.Surroundings) (settings : Tree) (arguments : List String) : Extent :=
  match readInvocation arguments with
  | .ok ⟨_, .check _⟩ => { files := ((Settings.ignoreFile? s settings).map s.absolute).toList }
  | _ => {}

/-- All ways down from the topmost directory to the directories that a path goes through. -/
def waysThrough (p : Path) : List (List String) :=
  (List.range (p.parts.length + 1)).map fun count => Discovery.wayTo (Path.ofParts (p.parts.take count))

end Layering.CommandLine
