import Layering.Policy.Basic

/-! What the specifier of an import refers to. A specifier is read as a path, from the importing file or by an
alias, and a few spellings of that path are tried in order. -/
namespace Layering

/-- What a specifier refers to. -/
inductive Resolution where
  /-- A file of the project, by its path from the project directory. -/
  | internal (path : String)
  /-- A package. -/
  | external
  /-- A path that no file was found for. -/
  | unresolved
  deriving Repr, DecidableEq

/-- How a specifier is to be read, before any file is looked for. -/
inductive Reference where
  /-- A path from the project directory. -/
  | path (text : String)
  | absolute
  | package
  deriving Repr, DecidableEq

/-- Whether a specifier is a path from the importing file: it starts with one or two dots. -/
def isRelative (specifier : String) : Bool :=
  match (Text.split '/' specifier).head? with
  | some "." | some ".." => true
  | _ => false

def Path.Part.isName : Path.Part → Bool
  | .name _ => true
  | _ => false

/-- A path without dots. Nothing is left of a path that leads out of the project directory. -/
def inProject? (path : String) : Option String :=
  let parts := Path.cleanParts (Path.parts ⟨path⟩)
  if parts.all Path.Part.isName then some (Path.displayParts parts) else none

namespace Policy

/-- The path that the first alias with a fitting key stands for. -/
def expandAlias? (p : Policy) (specifier : String) : Option String :=
  p.aliases.findSome? fun a => (a.strip? specifier).map a.expand

/-- How a specifier of the given file is read. -/
def reference (p : Policy) (importer specifier : String) : Reference :=
  if isRelative specifier then
    let directory := Text.parent importer
    .path (if directory = "" then specifier else directory ++ "/" ++ specifier)
  else
    match p.expandAlias? specifier with
    | some path => .path path
    | none => if specifier.toList.head? = some '/' then .absolute else .package

/-- The files that a path may stand for, in the order in which they are tried: itself, itself with an extension,
and the index of the directory. -/
def candidates (p : Policy) (path : String) : List String :=
  let index := if path = "" then "index" else path ++ "/index"
  path :: p.discovery.extensions.map (path ++ "." ++ ·) ++ p.discovery.extensions.map (index ++ "." ++ ·)

/-- What a specifier of the given file refers to, where `isFile` tells which paths are files. -/
def resolve (p : Policy) (isFile : String → Bool) (importer specifier : String) : Resolution :=
  match p.reference importer specifier with
  | .package => .external
  | .absolute => .unresolved
  | .path text =>
    match (inProject? text).bind fun path => (p.candidates path).find? fun file => file ≠ "" && isFile file with
    | some file => .internal file
    | none => .unresolved

end Policy

end Layering
