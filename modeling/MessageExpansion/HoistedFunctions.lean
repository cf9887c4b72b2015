/-!
# Hoisted functions

The functions that a script needs for its messages, collected while its calls are replaced and put
at its end.  Every function has an index that its name is made from.  A function that is no longer
needed is discarded: its index is given out again once all later functions are gone as well.
-/

namespace MessageExpansion

/-- Functions with consecutive indices, some of them discarded. -/
structure HoistedFunctions where
  /-- The index of the first slot. -/
  first : Nat
  /-- The declaration in each slot; a discarded one leaves its slot empty. -/
  slots : List (Option String)
deriving DecidableEq, Repr

namespace HoistedFunctions

/-- No functions, with indices from `first` on. -/
def startingAt (first : Nat) : HoistedFunctions := ⟨first, []⟩

/-- The index of the next function. -/
def next (functions : HoistedFunctions) : Nat := functions.first + functions.slots.length

/-- Add a function. -/
def push (functions : HoistedFunctions) (declaration : String) : HoistedFunctions :=
  { functions with slots := functions.slots ++ [some declaration] }

/-- The slots without the empty ones at the end. -/
def trimSlots : List (Option String) → List (Option String)
  | [] => []
  | slot :: rest =>
      match trimSlots rest with
      | [] => if slot.isSome then [slot] else []
      | kept => slot :: kept

/-- Empty the slot of an index, if there is one. -/
def clear (functions : HoistedFunctions) (index : Nat) : List (Option String) :=
  if functions.first ≤ index then functions.slots.set (index - functions.first) none
  else functions.slots

/-- Drop the function of an index. -/
def discard (functions : HoistedFunctions) (index : Nat) : HoistedFunctions :=
  { functions with slots := trimSlots (functions.clear index) }

/-- The declarations that are still needed, in order. -/
def declarations (functions : HoistedFunctions) : List String := functions.slots.filterMap id

/-- The number of functions that are still needed. -/
def size (functions : HoistedFunctions) : Nat := functions.declarations.length

/-- All declarations one after the other, if there are any, and what is left: nothing. -/
def flush (functions : HoistedFunctions) : Option String × HoistedFunctions :=
  (if functions.declarations.isEmpty then none else some (String.join functions.declarations),
    { functions with slots := [] })

end HoistedFunctions
end MessageExpansion
