/-!
# Tables of code point ranges

A Unicode property is stored as the list of the closed ranges of code points that have it, in
ascending order.  This module looks characters up in such a table; the tables themselves stand in
modules named for their properties.
-/

namespace MessageExpansion
namespace Text

/-- Closed ranges of code points, ascending and disjoint. -/
abbrev RangeTable := List (Nat × Nat)

namespace RangeTable

/-- Some range holds the code point; the search ends at the first range that begins beyond it. -/
def containsPoint : RangeTable → Nat → Bool
  | [], _ => false
  | (first, last) :: rest, point =>
      if point < first then false
      else if point ≤ last then true
      else containsPoint rest point

/-- The table lists the character. -/
def contains (table : RangeTable) (c : Char) : Bool := table.containsPoint c.toNat

end RangeTable

end Text
end MessageExpansion
