import Std.Data.HashSet
import Layering.Classification
import Layering.Order
import Layering.Reader
import Layering.Resolution
import Layering.Source.Import
import Layering.Violation

/-! The source files of a project and the imports between them. A file that cannot be read is reported and has no
imports; it never stops the others. -/
namespace Layering

/-- Where an import leads. -/
structure Target where
  /-- The path of a file of the project. -/
  path : Option String
  identity : Classification
  isPublicEntry : Bool
  deriving Repr, DecidableEq

namespace Target

/-- A target that is no file of the project. -/
def outside (zone : Zone) : Target := ⟨none, ⟨zone, none, .unclassified⟩, false⟩

/-- The target that a specifier refers to. -/
def ofResolution (p : Policy) : Resolution → Target
  | .internal path => ⟨some path, p.identity path, (p.identity path).isPublicEntry path⟩
  | .external => outside .external
  | .unresolved => outside .unresolved

end Target

/-- An import with its target. -/
structure Edge extends Source.Import where
  target : Target
  deriving Repr, DecidableEq

/-- A source file that could be read. -/
structure SourceFile where
  path : String
  identity : Classification
  text : String
  imports : List Edge
  deriving Repr, DecidableEq

/-- The place of an import of the file. -/
def SourceFile.locationOf (file : SourceFile) (edge : Edge) : Location :=
  ⟨⟨file.path⟩, edge.position.line, edge.position.column⟩

/-- The source files of a project. -/
structure Graph where
  /-- The files that could be read, in the order of their paths. -/
  files : List SourceFile
  /-- The paths of all files in order. -/
  inventory : List String
  /-- The modules of all files in order. -/
  modules : List Module
  /-- The files that are misplaced or cannot be read. -/
  issues : List Violation
  deriving Repr, DecidableEq

namespace Graph

/-- The file with the given path, looked up in the order of the paths. -/
def file? (g : Graph) (path : String) : Option SourceFile := searchSorted (fun file => compare file.path path) g.files

/-- All imports with the files that they stand in. -/
def edges (g : Graph) : List (SourceFile × Edge) :=
  g.files.flatMap fun file => file.imports.map fun edge => (file, edge)

def edgeCount (g : Graph) : Nat := g.edges.length

/-- The report that a file of a layer with modules is in no module. -/
def placementIssue (p : Policy) (path : String) : List Violation :=
  match p.classify path with
  | .ok _ => []
  | .error misplaced =>
    [Rule.classificationError.violation .error (.whole path) misplaced.message
      (some "move the file into a module directory or out of the modules root")]

/-- The report that a file cannot be read. -/
def readIssue (path : String) : Except ReadError String → List Violation
  | .ok _ => []
  | .error e => [Rule.ioError.violation .error (.whole path) ("failed to read file: " ++ e.message) none]

/-- The imports of a source text with their targets. -/
def edgesOf (p : Policy) (isFile : String → Bool) (path text : String) : List Edge :=
  (Source.imports text).map fun i => ⟨i, .ofResolution p (p.resolve isFile path i.specifier)⟩

/-- A file, unless it could not be read. -/
def sourceFile? (p : Policy) (isFile : String → Bool) (path : String) :
    Except ReadError String → Option SourceFile
  | .ok text => some ⟨path, p.identity path, text, edgesOf p isFile path text⟩
  | .error _ => none

/-- The graph of the files with the given paths from a project directory. -/
def build (p : Policy) (root : Path) (reader : Reader) (paths : List String) : Graph :=
  let inventory := sortDistinct compare paths
  let known := Std.HashSet.ofList inventory
  let isFile (path : String) := known.contains path || reader.isFile (root.join ⟨path⟩)
  let contents := inventory.map fun path => (path, reader.read (root.join ⟨path⟩))
  { files := contents.filterMap fun (path, content) => sourceFile? p isFile path content
    inventory
    modules := sortDistinct Module.compare (inventory.filterMap fun path => (p.identity path).owner)
    issues := sortBy Violation.compare
      (contents.flatMap fun (path, content) => placementIssue p path ++ readIssue path content) }

end Graph

end Layering
