/-!
# Binary search

The end of the front part of a sequence on which a test holds, found by halving.  The answer is
determined for every test, monotone or not: only the places that halving visits are looked at.
-/

namespace MessageExpansion

/-- Search among `size` places from `base` on. -/
def partitionPointFrom (test : Nat → Bool) (base size : Nat) : Nat :=
  if size ≤ 1 then
    if test base then base + 1 else base
  else
    let half := size / 2
    partitionPointFrom test (if test (base + half) then base + half else base) (size - half)
termination_by size
decreasing_by omega

/-- The number of items before the first that fails the test, if no later one passes it. -/
def partitionPoint {α : Type} (test : α → Bool) (items : List α) : Nat :=
  if items.isEmpty then 0
  else
    partitionPointFrom
      (fun index => match items[index]? with
        | some item => test item
        | none => false)
      0 items.length

end MessageExpansion
