import Layering.Policy.Basic

/-! The identity of a file in the architecture: its layer, its module and its role. All three are told by the
path alone. -/
namespace Layering

/-- Where a file, or the target of an import, stands. -/
inductive Zone where
  | layer (name : String) (rank : Nat)
  /-- A file of the project that belongs to no layer. -/
  | unclassified
  /-- A package. -/
  | external
  /-- No file was found. -/
  | unresolved
  deriving Repr, DecidableEq, Inhabited

namespace Zone

def name : Zone → String
  | layer name _ => name
  | unclassified => "unclassified"
  | external => "external"
  | unresolved => "unresolved"

def rank? : Zone → Option Nat
  | layer _ rank => some rank
  | _ => none

end Zone

/-- A directory right below a root of a layer with modules. -/
structure Module where
  name : String
  directory : String
  deriving Repr, DecidableEq, Inhabited

namespace Module

/-- Modules are ordered by name, and by directory among equal names. -/
protected def compare (a b : Module) : Ordering :=
  (compare a.name b.name).then (compare a.directory b.directory)

/-- Whether a path is that of a file right in the directory of the module. -/
def holds (m : Module) (path : String) : Bool :=
  match Text.stripPrefix? m.directory.toList path.toList with
  | some ('/' :: name) => !name.contains '/'
  | _ => false

end Module

/-- The identity of a file. -/
structure Classification where
  zone : Zone
  /-- The module that the file belongs to, in a layer with modules. -/
  owner : Option Module
  role : Role
  deriving Repr, DecidableEq, Inhabited

/-- Whether the file with the given path is the public entry of its module: it has the role of one and lies
right in the directory of the module. -/
def Classification.isPublicEntry (c : Classification) (path : String) : Bool :=
  match c.owner with
  | some m => c.role = .publicApi && Text.parent path = m.directory
  | none => false

/-- A file of a layer with modules that lies in no module. -/
structure Misplaced where
  path : String
  root : String
  layer : String
  deriving Repr, DecidableEq

def Misplaced.message (m : Misplaced) : String :=
  "`" ++ m.path ++ "` sits directly in modules root `" ++ m.root ++ "` of layer `" ++ m.layer
    ++ "`; expected " ++ m.root ++ "/<module>/..."

/-- The zone of the files of a layer. -/
def Layer.zone (layer : Layer) : Zone := .layer layer.name layer.rank

/-- The module of a path below a root: the root is followed by the name of a directory. -/
def moduleBelow? (root path : String) : Option Module :=
  match ((Text.below? root path).map fun rest => Text.segments '/' (rest.toList.dropWhile (· = '/'))) with
  | some (name :: _ :: _) => some ⟨.ofList name, root ++ "/" ++ .ofList name⟩
  | _ => none

namespace Policy

/-- The roots of all layers, longest first. Equal roots stay in the order of the layers. -/
def layerRoots (p : Policy) : List (String × Layer) :=
  (p.layers.flatMap fun layer => layer.roots.map fun root => (root, layer)).mergeSort
    fun a b => b.1.utf8ByteSize ≤ a.1.utf8ByteSize

/-- The longest root that a path lies under, and its layer. -/
def layerRoot? (p : Policy) (path : String) : Option (String × Layer) :=
  p.layerRoots.find? fun entry => Text.isUnder path entry.1

/-- The role of a path, told by the stem of its file name. -/
def roleOf (p : Policy) (path : String) : Role :=
  match Text.stem? path with
  | some stem => p.roleOfStem stem
  | none => .unclassified

/-- The identity of the file with the given path. -/
def classify (p : Policy) (path : String) : Except Misplaced Classification :=
  match p.layerRoot? path with
  | none => .ok ⟨.unclassified, none, p.roleOf path⟩
  | some (root, layer) =>
    if layer.modules then
      match moduleBelow? root path with
      | some m => .ok ⟨layer.zone, some m, p.roleOf path⟩
      | none => .error ⟨path, root, layer.name⟩
    else .ok ⟨layer.zone, none, p.roleOf path⟩

/-- The identity of a file that is taken for one without a module if it is misplaced. -/
def identity (p : Policy) (path : String) : Classification :=
  match p.classify path with
  | .ok c => c
  | .error _ =>
    match p.layerRoot? path with
    | some (_, layer) => ⟨layer.zone, none, p.roleOf path⟩
    | none => ⟨.unclassified, none, p.roleOf path⟩

end Policy

end Layering
