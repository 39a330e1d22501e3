/-!
Sets of code points, written as the increasing sequence of the points where membership changes:
the first edge opens a range, the second closes it, and so on.
-/

namespace GoAtlas.Text

structure CharSet where
  edges : Array Nat

namespace CharSet

/-- The number of edges that are at most `point`, searched between two positions. -/
def edgesUpTo (edges : Array Nat) (point : Nat) (low high : Nat) : Nat :=
  if low < high then
    let middle := (low + high) / 2
    if edges.getD middle 0 ≤ point then edgesUpTo edges point (middle + 1) high
    else edgesUpTo edges point low middle
  else low
termination_by high - low

/-- A point lies in the set when an odd number of edges precede it. -/
def contains (set : CharSet) (character : Char) : Bool :=
  edgesUpTo set.edges character.toNat 0 set.edges.size % 2 == 1

end CharSet

end GoAtlas.Text
