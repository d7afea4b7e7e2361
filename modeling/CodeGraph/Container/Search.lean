/-!
# Search in sorted keys

The place of a key among sorted keys is found by halving the range in which it
can lie.
-/

namespace CodeGraph.Container

/-- The first position from `low` on, and below `high`, whose key is not less
than the target; `high` when all keys are less. -/
def lowerBound (keys : Array Int) (target : Int) (low high : Nat) : Nat :=
  if low < high then
    let middle := (low + high) / 2
    if keys.getD middle 0 < target then lowerBound keys target (middle + 1) high
    else lowerBound keys target low middle
  else low
termination_by high - low
decreasing_by all_goals omega

/-- The position of the first key that equals the target, among sorted keys. -/
def findSorted? (keys : Array Int) (target : Int) : Option Nat :=
  let position := lowerBound keys target 0 keys.size
  if keys[position]? = some target then some position else none

end CodeGraph.Container
