import Layering.Reader

/-! The files and directories of a file system as a value. Names are texts, and there are neither links nor entries that
cannot be read: a walk through such a value never fails. -/
namespace Layering

/-- A file, or a directory with its entries by name. -/
inductive Tree where
  | file (bytes : ByteArray)
  | directory (entries : List (String × Tree))
  deriving Inhabited

namespace Tree

def isFile : Tree → Bool
  | file _ => true
  | directory _ => false

def isDirectory (t : Tree) : Bool := !t.isFile

def entries : Tree → List (String × Tree)
  | file _ => []
  | directory entries => entries

/-- The entry of a directory with the given name. -/
def entry? (t : Tree) (name : String) : Option Tree := t.entries.lookup name

/-- What is found by going down from a directory by names. -/
def below? (t : Tree) : List String → Option Tree
  | [] => some t
  | name :: names => (t.entry? name).bind (·.below? names)

/-- The bytes of a file. A directory has none. -/
def bytes? : Tree → Option ByteArray
  | file bytes => some bytes
  | directory _ => none

/-- Puts something at the end of a way down from a directory, in place of what may be there. Directories on the way
that do not exist are made. -/
def put (t node : Tree) : List String → Tree
  | [] => node
  | name :: names =>
    let child := put ((t.entry? name).getD (directory [])) node names
    directory ((name, child) :: t.entries.filter fun entry => entry.1 ≠ name)

end Tree

/-- A place in a file system: what is there, and the directories above it, nearest first. -/
structure Spot where
  here : Tree
  above : List Tree
  deriving Inhabited

namespace Spot

/-- The directory above. Above the topmost directory is itself. -/
def up (s : Spot) : Spot :=
  match s.above with
  | [] => s
  | parent :: above => ⟨parent, above⟩

/-- An entry of the directory that is here. -/
def down? (s : Spot) (name : String) : Option Spot :=
  (s.here.entry? name).map fun child => ⟨child, s.here :: s.above⟩

/-- The entries of the directory that is here. -/
def children (s : Spot) : List (String × Spot) :=
  s.here.entries.map fun (name, child) => (name, ⟨child, s.here :: s.above⟩)

/-- Goes on by one segment of a path. Only from a directory one can go on; empty segments and dots stay there. -/
def step (s : Spot) (segment : String) : Except ReadError Spot :=
  if s.here.isFile then .error .notDirectory
  else if segment = "" ∨ segment = "." then .ok s
  else if segment = ".." then .ok s.up
  else
    match s.down? segment with
    | some child => .ok child
    | none => .error .notFound

end Spot

namespace Tree

/-- The place of an absolute path, where the tree is that of the topmost directory. -/
def locate (t : Tree) (p : Path) : Except ReadError Spot :=
  if p.isAbsolute then (Text.split '/' p.text).foldlM Spot.step ⟨t, []⟩ else .error .notFound

/-- Whether there is something with the given property at a path. -/
def holdsAt (t : Tree) (p : Path) (property : Tree → Bool) : Bool :=
  match t.locate p with
  | .ok spot => property spot.here
  | .error _ => false

/-- The bytes of the file at a path, if there is one. -/
def bytesAt? (t : Tree) (p : Path) : Option ByteArray :=
  match t.locate p with
  | .ok spot => spot.here.bytes?
  | .error _ => none

/-- The text of the file at a path. -/
def read (t : Tree) (p : Path) : Except ReadError String :=
  match t.locate p with
  | .error e => .error e
  | .ok ⟨directory _, _⟩ => .error .isDirectory
  | .ok ⟨file bytes, _⟩ =>
    match String.fromUTF8? bytes with
    | some text => .ok text
    | none => .error .invalidText

/-- The reader of the files of a tree. -/
def reader (t : Tree) : Reader where
  read := t.read
  isFile p := t.holdsAt p isFile

end Tree

end Layering
