/-!
# Sorted maps

Finite maps from texts to values, kept as a list in ascending order of the keys.  The order is that
of the code points, so two maps with the same entries are equal.
-/

namespace MessageExpansion

/-- Entries in strictly ascending order of their keys. -/
def Ascending {α : Type} (entries : List (String × α)) : Prop :=
  entries.Pairwise fun earlier later => earlier.1 < later.1

/-- A finite map from texts to values. -/
structure SortedMap (α : Type) where
  /-- The entries in order. -/
  entries : List (String × α)
  /-- No key is repeated, and the order is ascending. -/
  ascending : Ascending entries

namespace SortedMap

variable {α : Type}

/-- The map without entries. -/
def empty : SortedMap α := ⟨[], List.Pairwise.nil⟩

/-- Put an entry in its place in a list of entries, instead of one with the same key if any. -/
def insertEntry (key : String) (value : α) : List (String × α) → List (String × α)
  | [] => [(key, value)]
  | (first, old) :: rest =>
      if key < first then (key, value) :: (first, old) :: rest
      else if key = first then (key, value) :: rest
      else (first, old) :: insertEntry key value rest

/-- The keys after an insertion are the new one and the old ones. -/
theorem key_of_mem_insertEntry {key : String} {value : α} {entries : List (String × α)}
    {entry : String × α} (member : entry ∈ insertEntry key value entries) :
    entry.1 = key ∨ entry ∈ entries := by
  induction entries with
  | nil =>
      simp only [insertEntry, List.mem_singleton] at member
      exact .inl (by rw [member])
  | cons head rest ih =>
      obtain ⟨first, old⟩ := head
      simp only [insertEntry] at member
      split at member
      · rcases List.mem_cons.1 member with rfl | tail
        · exact .inl rfl
        · exact .inr tail
      · split at member
        · rcases List.mem_cons.1 member with rfl | tail
          · exact .inl rfl
          · exact .inr (List.mem_cons_of_mem _ tail)
        · rcases List.mem_cons.1 member with rfl | tail
          · exact .inr List.mem_cons_self
          · exact (ih tail).imp_right (List.mem_cons_of_mem _)

/-- Insertion keeps the order. -/
theorem ascending_insertEntry (key : String) (value : α) {entries : List (String × α)}
    (ascending : Ascending entries) : Ascending (insertEntry key value entries) := by
  induction entries with
  | nil => exact List.pairwise_singleton _ _
  | cons head rest ih =>
      obtain ⟨first, old⟩ := head
      have later : ∀ entry ∈ rest, first < entry.1 := (List.pairwise_cons.1 ascending).1
      have tail : Ascending rest := (List.pairwise_cons.1 ascending).2
      simp only [insertEntry]
      split
      next below =>
        refine List.pairwise_cons.2 ⟨fun entry member => ?_, ascending⟩
        rcases List.mem_cons.1 member with rfl | old
        · exact below
        · exact String.lt_trans below (later entry old)
      next notBelow =>
        split
        next same =>
          subst same
          exact List.pairwise_cons.2 ⟨later, tail⟩
        next different =>
          refine List.pairwise_cons.2 ⟨fun entry member => ?_, ih tail⟩
          rcases key_of_mem_insertEntry member with same | old
          · rw [same]
            exact Std.lt_of_le_of_ne (String.not_lt.1 notBelow) (Ne.symm different)
          · exact later entry old

/-- The map with an entry added, or changed if its key is there already. -/
def insert (map : SortedMap α) (key : String) (value : α) : SortedMap α :=
  ⟨insertEntry key value map.entries, ascending_insertEntry key value map.ascending⟩

/-- The value of a key. -/
def get? (map : SortedMap α) (key : String) : Option α :=
  (map.entries.find? fun entry => entry.1 == key).map (·.2)

/-- The keys in order. -/
def keys (map : SortedMap α) : List String := map.entries.map (·.1)

/-- The number of entries. -/
def size (map : SortedMap α) : Nat := map.entries.length

/-- The map with all entries of a list inserted in turn. -/
def insertAll (map : SortedMap α) (entries : List (String × α)) : SortedMap α :=
  entries.foldl (fun map entry => map.insert entry.1 entry.2) map

/-- Two maps with the same entries are equal. -/
theorem ext {first second : SortedMap α} (same : first.entries = second.entries) :
    first = second := by
  cases first; cases second; cases same; rfl

instance [DecidableEq α] : DecidableEq (SortedMap α) := fun first second =>
  if same : first.entries = second.entries then .isTrue (ext same)
  else .isFalse fun equal => same (congrArg entries equal)

end SortedMap
end MessageExpansion
