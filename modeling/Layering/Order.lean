/-! Lists in order and without repetitions, and looking things up in them. -/
namespace Layering

/-- Drops the items that are the same as the one kept before them. -/
def dropRepeatsAfter (same : α → α → Bool) (kept : α) : List α → List α
  | [] => []
  | a :: as => if same kept a then dropRepeatsAfter same kept as else a :: dropRepeatsAfter same a as

/-- Keeps one item of every run of items that are the same. -/
def dropRepeats (same : α → α → Bool) : List α → List α
  | [] => []
  | a :: as => a :: dropRepeatsAfter same a as

/-- The items in order. Items of equal rank stay in their order. -/
def sortBy (order : α → α → Ordering) (items : List α) : List α :=
  items.mergeSort fun a b => (order a b).isLE

/-- The items in order, each once. -/
def sortDistinct [BEq α] (order : α → α → Ordering) (items : List α) : List α :=
  dropRepeats (· == ·) (sortBy order items)

/-- Looks an item up in a list in order by halving the list. Compared with what is looked for, the items before it are
less and those after it are greater. -/
def searchSorted (position : α → Ordering) (items : List α) : Option α :=
  match rest : items.drop (items.length / 2) with
  | [] => none
  | middle :: after =>
    have length : items.length - items.length / 2 = after.length + 1 := by
      simpa using congrArg List.length rest
    match position middle with
    | .lt => searchSorted position after
    | .eq => some middle
    | .gt => searchSorted position (items.take (items.length / 2))
termination_by items.length
decreasing_by
  · omega
  · rw [List.length_take]
    omega

/-- How many items of a list meet a test, by halving the list. The items that meet it come before all others. -/
def partitionPoint (test : α → Bool) (items : List α) : Nat :=
  match rest : items.drop (items.length / 2) with
  | [] => 0
  | middle :: after =>
    have length : items.length - items.length / 2 = after.length + 1 := by
      simpa using congrArg List.length rest
    if test middle then items.length / 2 + 1 + partitionPoint test after
    else partitionPoint test (items.take (items.length / 2))
termination_by items.length
decreasing_by
  · omega
  · rw [List.length_take]
    omega

end Layering
