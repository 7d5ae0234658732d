import Layering.CommandLine.Extent

/-! The program: it reads in what its command may look at, runs the command and carries out what comes of it. -/
namespace Layering.Main

/-- The absolute path that a way leads to. -/
def pathOf (way : List String) : String := "/" ++ Text.join "/" way

/-- Reads in a file. A file that cannot be read counts as one that does not exist. -/
def loadFile? (path : String) : IO (Option Tree) := do
  try
    let place ← IO.FS.realPath path
    if ← place.isDir then return some (.directory [])
    else if ← place.pathExists then return some (.file (← IO.FS.readBinFile place))
    else return none
  catch _ => return none

/-- Reads in a directory with all that is below it. Links are passed over. -/
partial def loadDirectory (path : String) : IO Tree := do
  try
    let place ← IO.FS.realPath path
    let entries ← (← place.readDir).toList.filterMapM fun entry => do
      match (← entry.path.symlinkMetadata).type with
      | .dir => return some (entry.fileName, ← loadDirectory entry.path.toString)
      | .file => return (← loadFile? entry.path.toString).map fun file => (entry.fileName, file)
      | _ => return none
    return .directory entries
  catch _ => return .directory []

/-- Puts a directory that exists into a tree, with its ignore files. -/
def addDirectory (tree : Tree) (way : List String) : IO Tree := do
  if (tree.below? way).isSome then return tree
  match ← loadFile? (pathOf way) with
  | some (.directory _) =>
    Ignore.ways.foldlM (fun tree below => do
      match ← loadFile? (pathOf (way ++ below)) with
      | some (.file bytes) => return tree.put (.file bytes) (way ++ below)
      | _ => return tree) (tree.put (.directory []) way)
  | _ => return tree

/-- Reads an extent into a tree. -/
def load (tree : Tree) (extent : CommandLine.Extent) : IO Tree := do
  let ways := (extent.directories ++ extent.files).flatMap CommandLine.waysThrough
  let tree ← ways.foldlM addDirectory tree
  let tree ← extent.files.foldlM (fun tree path => do
    let way := Discovery.wayTo path
    match ← loadFile? (pathOf way) with
    | some (.file bytes) => return tree.put (.file bytes) way
    | _ => return tree) tree
  extent.directories.foldlM (fun tree path => do
    let way := Discovery.wayTo path
    if (tree.below? way).any Tree.isDirectory then return tree.put (← loadDirectory (pathOf way)) way
    else return tree) tree

/-- What the program knows about its surroundings. -/
def surroundings : IO Policy.Surroundings := do
  return {
    workingDirectory := ⟨(← IO.currentDir).toString⟩
    configDirectory := (← IO.getEnv "LAYER_LINT_CONFIG_DIR").map Path.mk
    home := (← IO.getEnv "HOME").map Path.mk
    settingsDirectory := ((← IO.getEnv "XDG_CONFIG_HOME").filter (· ≠ "")).map Path.mk }

/-- Runs the program and returns its exit code. -/
def run (arguments : List String) : IO UInt32 := do
  let s ← surroundings
  let tree ← load (.directory []) (CommandLine.extent s arguments)
  let tree ← load tree (CommandLine.namedExtent s tree arguments)
  let output ← IO.getStdout
  let outcome := CommandLine.run s tree (← output.isTty) arguments
  if let some (path, text) := outcome.written then IO.FS.writeFile path.text text
  output.putStr outcome.output
  output.flush
  (← IO.getStderr).putStr outcome.error
  return .ofNat outcome.code

end Layering.Main

def main (arguments : List String) : IO UInt32 := Layering.Main.run arguments
