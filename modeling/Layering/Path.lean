import Layering.Text.Segments

/-! Paths with slashes. A path keeps the text it was built from, while two paths are the same place and are
ordered by their parts: repeated and trailing slashes and inner dots do not matter, a leading dot does. -/
namespace Layering

/-- A path as it was written. -/
structure Path where
  text : String
  deriving Repr, DecidableEq, Inhabited

namespace Path

/-- A part of a path. -/
inductive Part where
  /-- The slash that an absolute path starts with. -/
  | root
  /-- The dot that a path may start with. -/
  | here
  /-- Two dots. -/
  | up
  | name (text : String)
  deriving Repr, DecidableEq

namespace Part

def text : Part → String
  | root => "/"
  | here => "."
  | up => ".."
  | name text => text

/-- Parts are ordered by kind first. -/
def key : Part → Nat × String
  | root => (0, "")
  | here => (1, "")
  | up => (2, "")
  | name text => (3, text)

protected def compare (a b : Part) : Ordering :=
  (compare a.key.1 b.key.1).then (compare a.key.2 b.key.2)

/-- The part that a segment after the first one stands for. Empty segments and dots stand for nothing. -/
def ofSegment? (segment : String) : Option Part :=
  if segment = "" ∨ segment = "." then none
  else if segment = ".." then some up
  else some (name segment)

end Part

def isAbsolute (p : Path) : Bool := p.text.toList.head? = some '/'

/-- The parts of a path. -/
def parts (p : Path) : List Part :=
  let segments := Text.split '/' p.text
  if p.isAbsolute then .root :: segments.filterMap Part.ofSegment?
  else if segments.head? = some "." then .here :: segments.filterMap Part.ofSegment?
  else segments.filterMap Part.ofSegment?

/-- The text of a list of parts. -/
def displayParts (parts : List Part) : String := Text.join "/" (parts.map Part.text)

/-- The parts with single slashes between them. The slash of an absolute path is a part like the others, so
that it is followed by one more slash. -/
def display (p : Path) : String := displayParts p.parts

/-- Orders two lists of parts by their first difference. -/
def compareParts : List Part → List Part → Ordering
  | [], [] => .eq
  | [], _ :: _ => .lt
  | _ :: _, [] => .gt
  | a :: as, b :: bs => (a.compare b).then (compareParts as bs)

protected def compare (a b : Path) : Ordering := compareParts a.parts b.parts

/-- Whether two paths have the same parts. -/
def same (a b : Path) : Bool := a.parts = b.parts

/-- The second path seen from the first one. An absolute path is not changed by that. -/
def join (base p : Path) : Path :=
  if p.isAbsolute then p
  else if base.text = "" ∨ base.text.toList.getLast? = some '/' then ⟨base.text ++ p.text⟩
  else ⟨base.text ++ "/" ++ p.text⟩

/-- Removes a list of parts from the start of another one. -/
def dropParts? : List Part → List Part → Option (List Part)
  | [], parts => some parts
  | _ :: _, [] => none
  | a :: as, b :: bs => if a = b then dropParts? as bs else none

/-- The parts of a path below a base. -/
def below? (base p : Path) : Option (List Part) := dropParts? base.parts p.parts

/-- The display form of a path seen from a base; a path elsewhere is shown whole. -/
def displayBelow (base p : Path) : String :=
  match base.below? p with
  | some parts => displayParts parts
  | none => p.display

/-- Puts one part on a stack of parts, last part first: a dot goes, and two dots take away the name before
them. Above the root there is nothing. -/
def pushClean (stack : List Part) (part : Part) : List Part :=
  match part with
  | .here => stack
  | .up =>
    match stack with
    | .root :: _ => stack
    | .name _ :: stack => stack
    | _ => .up :: stack
  | part => part :: stack

/-- The parts that name the same place without dots, two dots being left only at the start. -/
def cleanParts (parts : List Part) : List Part := (parts.foldl pushClean []).reverse

/-- The text of parts as a path: a slash follows every part but the last one and the root. -/
def ofParts : List Part → Path
  | .root :: parts => ⟨"/" ++ displayParts parts⟩
  | parts => ⟨displayParts parts⟩

/-- The path without dots; a path to nowhere is a dot. -/
def clean (p : Path) : Path :=
  match cleanParts p.parts with
  | [] => ⟨"."⟩
  | parts => ofParts parts

end Path

end Layering
