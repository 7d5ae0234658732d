import Layering.Path

/-! Access to the files of a project, and a reader that holds all files itself. -/
namespace Layering

/-- Why a file cannot be read. -/
inductive ReadError where
  | notFound
  | notDirectory
  | isDirectory
  | invalidText
  | notLoaded (path : Path)
  /-- Reading the file is refused with a message. -/
  | refused (message : String)
  deriving Repr, DecidableEq

def ReadError.message : ReadError → String
  | notFound => "No such file or directory (os error 2)"
  | notDirectory => "Not a directory (os error 20)"
  | isDirectory => "Is a directory (os error 21)"
  | invalidText => "stream did not contain valid UTF-8"
  | notLoaded path => path.text ++ " is not loaded"
  | refused message => message

/-- What the linter may ask about the files of a project. -/
structure Reader where
  read : Path → Except ReadError String
  isFile : Path → Bool

/-- Files by their paths from a project directory, each path once. -/
structure Memory where
  root : Path := ⟨""⟩
  files : List (String × String) := []
  deriving Repr, DecidableEq, Inhabited

namespace Memory

/-- The files without the one at the given path. -/
def remove (m : Memory) (path : String) : Memory :=
  { m with files := m.files.filter fun file => file.1 ≠ path }

/-- Puts a text at a path, in place of the one that may be there. -/
def write (m : Memory) (path text : String) : Memory :=
  { m with files := (path, text) :: (m.remove path).files }

def contains (m : Memory) (path : String) : Bool := (m.files.lookup path).isSome

/-- The paths of the files in order. -/
def paths (m : Memory) : List String :=
  (m.files.map (·.1)).mergeSort fun a b => (compare a b).isLE

/-- The text of a file. Paths outside of the root have none, and below it their display form counts. -/
def text? (m : Memory) (path : Path) : Option String :=
  (m.root.below? path).bind fun parts => m.files.lookup (Path.displayParts parts)

/-- The reader of the files. -/
def reader (m : Memory) : Reader where
  read path :=
    match m.text? path with
    | some text => .ok text
    | none => .error (.notLoaded path)
  isFile path := (m.text? path).isSome

end Memory

end Layering
