import MessageExpansion.PositionMap.Basic
import MessageExpansion.Proofs.Text.Counting

/-!
# Looking places up

A position map whose mappings stand in the order of their generated places is looked up by halving.
The search ends behind the last mapping that is not behind the place, which is the mapping that the
place belongs to if both are on one line.
-/

namespace MessageExpansion

/-! ### Halving -/

/-- Halving finds the point from which on the test fails, if it lies among the places searched. -/
theorem partitionPointFrom_eq
    {test : Nat → Bool}
    {base size point : Nat}
    (passes : ∀ index < point, test index = true)
    (fails : ∀ index ≥ point, test index = false)
    (lower : base ≤ point)
    (upper : point ≤ base + size)
    (nonempty : 0 < size) :
    partitionPointFrom test base size = point := by
  -- Every call keeps the point between the base and the end of the places searched.
  fun_induction partitionPointFrom test base size with
  | case1 base size small passed =>
      have beyond : ¬ base ≥ point := fun reached => by simp [fails base reached] at passed
      omega
  | case2 base size small failed =>
      have reached : ¬ base < point := fun before => failed (passes base before)
      omega
  | case3 base size large half inductionHypothesis =>
      have halfLess : half = size / 2 := rfl
      apply inductionHypothesis
      · split
        · next passed =>
            have beyond : ¬ base + half ≥ point := fun reached => by
              simp [fails _ reached] at passed
            omega
        · exact lower
      · split
        · omega
        · next failed =>
            have reached : ¬ base + half < point := fun before => failed (passes _ before)
            omega
      · omega

/-- The items that pass the test are counted if no later item passes it. -/
theorem partitionPoint_append
    {Item : Type}
    {test : Item → Bool}
    {front back : List Item}
    (passes : ∀ item ∈ front, test item = true)
    (fails : ∀ item ∈ back, test item = false) :
    partitionPoint test (front ++ back) = front.length := by
  unfold partitionPoint
  split
  · next empty =>
      rw [List.isEmpty_iff, List.append_eq_nil_iff] at empty
      rw [empty.1]
      rfl
  · next nonempty =>
      apply partitionPointFrom_eq
      · intro index before
        rw [List.getElem?_append_left before, List.getElem?_eq_getElem before]
        exact passes _ (List.getElem_mem before)
      · intro index reached
        rw [List.getElem?_append_right reached]
        split
        · next item found => exact fails item (List.mem_of_getElem? found)
        · rfl
      · exact Nat.zero_le _
      · simp
      · rw [List.length_pos_iff]
        simpa [List.isEmpty_iff] using nonempty

/-! ### Lookup -/

namespace PositionMap

open Text (Position)

variable {map : PositionMap} {place : Position}

/-- A place belongs to the last mapping that is not behind it, if that is on its line. -/
theorem mapping?_eq_some
    {mapping : Mapping}
    {front back : List Mapping}
    (split : map.mappings = front ++ mapping :: back)
    (reached : ∀ earlier ∈ front, earlier.generated.isUpTo place = true)
    (here : mapping.generated.isUpTo place = true)
    (beyond : ∀ later ∈ back, place.Before later.generated)
    (line : mapping.generated.line = place.line) :
    map.mapping? place = some mapping := by
  have parts : map.mappings = (front ++ [mapping]) ++ back := by simp [split]
  have point : partitionPoint (fun mapping => mapping.generated.isUpTo place) map.mappings =
      front.length + 1 := by
    rw [parts, partitionPoint_append, List.length_append, List.length_singleton]
    · intro earlier present
      rcases List.mem_append.mp present with early | last
      · exact reached earlier early
      · rw [List.mem_singleton.mp last]
        exact here
    · exact fun later present => (beyond later present).isUpTo_eq_false
  unfold mapping?
  rw [point]
  simp [split, line]

/-- A place belongs to a mapping of the map. -/
theorem mem_of_mapping?
    {mapping : Mapping}
    (found : map.mapping? place = some mapping) :
    mapping ∈ map.mappings := by
  unfold mapping? at found
  split at found
  · cases found
  · split at found
    · next other here =>
        obtain ⟨_, same⟩ := Option.ite_none_right_eq_some.mp found
        exact Option.some.inj same ▸ List.mem_of_getElem? here
    · cases found

/-- A place on a line behind those of all mappings belongs to none. -/
theorem mapping?_eq_none
    (above : ∀ mapping ∈ map.mappings, mapping.generated.line < place.line) :
    map.mapping? place = none := by
  unfold mapping?
  split
  · rfl
  · split
    · next mapping found =>
        have different := above mapping (List.mem_of_getElem? found)
        rw [if_neg (Nat.ne_of_lt different)]
    · rfl

/-- The place that a mapping of a map's only source leads to. -/
theorem lookup_eq_some
    {name : String}
    {mapping : Mapping}
    (found : map.mapping? place = some mapping)
    (source : map.sources[mapping.source]? = some name) :
    map.lookup place = some ⟨name, mapping.origin⟩ := by
  unfold lookup
  rw [found]
  simp [source]

theorem lookup_eq_none
    (missing : map.mapping? place = none) :
    map.lookup place = none := by
  unfold lookup
  rw [missing]

end PositionMap
end MessageExpansion
