/-!
# Readings

The result of reading the start of a text: a value, and the characters left over.  A reading knows
that fewer characters are left than some bound, so a reader that calls itself on the remainder
ends.
-/

namespace MessageExpansion
namespace Text

/-- A value that was read, and fewer than `bound` characters left over. -/
structure Reading (bound : Nat) (α : Type) where
  /-- What was read. -/
  value : α
  /-- What is left. -/
  rest : List Char
  /-- Reading makes progress. -/
  shorter : rest.length < bound

end Text
end MessageExpansion
