/-!
# Sets of characters as ranges

A set of characters is kept as ascending, disjoint ranges of code points and searched by halving.
-/

namespace OrchestrationGraph.Text

/-- Ascending, disjoint ranges of code points, both ends included. -/
structure CharRanges where
  ranges : Array (Nat × Nat)

/-- Looks for a range around `n` among the ranges from `lo` up to, not including, `hi`. -/
def CharRanges.search (t : CharRanges) (n lo hi : Nat) : Bool :=
  if lo < hi then
    let mid := (lo + hi) / 2
    match t.ranges[mid]? with
    | none => false
    | some (first, last) =>
      if n < first then t.search n lo mid
      else if last < n then t.search n (mid + 1) hi
      else true
  else false
termination_by hi - lo
decreasing_by all_goals omega

def CharRanges.contains (t : CharRanges) (c : Char) : Bool :=
  t.search c.toNat 0 t.ranges.size

end OrchestrationGraph.Text
