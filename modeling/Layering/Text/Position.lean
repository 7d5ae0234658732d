import Layering.Order

/-! Lines and columns. Both count from one, and columns count characters, whereas offsets count the bytes of
the text in UTF-8. -/
namespace Layering

/-- A place in a text. -/
structure Position where
  line : Nat
  column : Nat
  deriving Repr, DecidableEq, Inhabited

namespace Position

/-- The first place of a text. -/
def start : Position := ⟨1, 1⟩

/-- The place after a character that stands at the given place. -/
def next (p : Position) (c : Char) : Position :=
  if c = '\n' then ⟨p.line + 1, 1⟩ else ⟨p.line, p.column + 1⟩

/-- The place after a run of characters that starts at the given place. -/
def advance (p : Position) (cs : List Char) : Position := cs.foldl next p

@[simp] theorem advance_nil (p : Position) : p.advance [] = p := rfl

@[simp] theorem advance_cons (p : Position) (c : Char) (cs : List Char) :
    p.advance (c :: cs) = (p.next c).advance cs := rfl

theorem advance_append (p : Position) (as bs : List Char) :
    p.advance (as ++ bs) = (p.advance as).advance bs := by
  simp [advance, List.foldl_append]

end Position

namespace Text

/-- The byte offsets right after the line breaks of a text that starts at an offset. -/
def afterBreaks (offset : Nat) : List Char → List Nat
  | [] => []
  | c :: cs =>
    let next := offset + c.utf8Size
    if c = '\n' then next :: afterBreaks next cs else afterBreaks next cs

/-- What is left of a text after some bytes, unless they end inside a character or there are not as many. -/
def dropBytes? : Nat → List Char → Option (List Char)
  | 0, cs => some cs
  | _ + 1, [] => none
  | bytes + 1, c :: cs => if bytes + 1 < c.utf8Size then none else dropBytes? (bytes + 1 - c.utf8Size) cs

/-- The characters in the first bytes of a text, unless these end inside a character or there are not as many. -/
def takeBytes? : Nat → List Char → Option (List Char)
  | 0, _ => some []
  | _ + 1, [] => none
  | bytes + 1, c :: cs =>
    if bytes + 1 < c.utf8Size then none else (takeBytes? (bytes + 1 - c.utf8Size) cs).map (c :: ·)

/-- The characters between two byte offsets, unless there is no such part of the text. -/
def slice? (start stop : Nat) (cs : List Char) : Option (List Char) :=
  if start ≤ stop then (dropBytes? start cs).bind (takeBytes? (stop - start)) else none

end Text

/-- A text and the byte offsets at which its lines start. -/
structure LineIndex where
  text : String
  starts : List Nat

namespace LineIndex

def ofText (text : String) : LineIndex := ⟨text, 0 :: Text.afterBreaks 0 text.toList⟩

/-- The place of a byte offset, unless there is no line that starts at or before it. Inside a character and past the end
the column is one. -/
def position? (index : LineIndex) (offset : Nat) : Option Position :=
  match partitionPoint (· ≤ offset) index.starts with
  | 0 => none
  | line + 1 => do
    let start ← index.starts[line]?
    let column := ((Text.slice? start offset index.text.toList).map List.length).getD 0
    return ⟨line + 1, column + 1⟩

end LineIndex

/-- The line and column of a byte offset of a text. -/
def Text.position (text : String) (offset : Nat) : Position :=
  ((LineIndex.ofText text).position? offset).getD .start

end Layering
