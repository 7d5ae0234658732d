import Layering.Text.Position

/-! Offsets of characters. -/
namespace Layering.Text

/-- The offset at which a character of the text starts. Past the last character it is the offset of the end. -/
def offset (cs : List Char) (n : Nat) : Nat := (String.ofList (cs.take n)).utf8ByteSize

@[simp] theorem offset_zero (cs : List Char) : offset cs 0 = 0 := by simp [offset]

@[simp] theorem offset_nil (n : Nat) : offset [] n = 0 := by simp [offset]

@[simp] theorem offset_cons (c : Char) (cs : List Char) (n : Nat) :
    offset (c :: cs) (n + 1) = c.utf8Size + offset cs n := by
  simp [offset, String.ofList_cons]

end Layering.Text
