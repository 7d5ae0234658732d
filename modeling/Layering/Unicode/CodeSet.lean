/-! Sets of code points, given by the sorted list of the points where membership changes: the first bound
opens a range, the second closes it, and so on. -/
namespace Layering.Unicode

/-- A set of code points. -/
structure CodeSet where
  /-- Where membership changes, in increasing order. -/
  bounds : Array Nat

namespace CodeSet

def ofBounds (bounds : Array Nat) : CodeSet := ⟨bounds⟩

/-- A code point is in the set when an odd number of bounds is not above it. -/
def contains (s : CodeSet) (n : Nat) : Bool :=
  s.bounds.foldl (fun inside bound => if bound ≤ n then !inside else inside) false

end CodeSet

end Layering.Unicode
