import MessageExpansion.Key

/-!
# Keys of patterns

Where patterns are filed one after the other under their keys, each key leads to the last pattern
that has it.  So all of them are found again if no two share a key, and only literal keys see to
that whatever the patterns are.
-/

namespace MessageExpansion
namespace KeyStrategy

variable {strategy : KeyStrategy} {patterns : List String} {pattern key : String}

/-- Of several patterns the last one whose key is the given one. -/
def lastUnder? (strategy : KeyStrategy) (patterns : List String) (key : String) : Option String :=
  patterns.reverse.find? fun pattern => strategy.key? pattern = some key

/-- Later patterns go before the earlier ones. -/
theorem lastUnder?_append
    (strategy : KeyStrategy)
    (earlier later : List String)
    (key : String) :
    strategy.lastUnder? (earlier ++ later) key =
      (strategy.lastUnder? later key).or (strategy.lastUnder? earlier key) := by
  unfold lastUnder?
  rw [List.reverse_append, List.find?_append]

theorem lastUnder?_cons
    (strategy : KeyStrategy)
    (pattern : String)
    (rest : List String)
    (key : String) :
    strategy.lastUnder? (pattern :: rest) key =
      (strategy.lastUnder? rest key).or
        (if strategy.key? pattern = some key then some pattern else none) := by
  rw [← List.singleton_append, lastUnder?_append]
  simp [lastUnder?, List.find?_singleton]

theorem of_lastUnder?
    (last : strategy.lastUnder? patterns key = some pattern) :
    pattern ∈ patterns ∧ strategy.key? pattern = some key :=
  ⟨List.mem_reverse.mp (List.mem_of_find?_eq_some last), by simpa using List.find?_some last⟩

theorem exists_lastUnder?
    (present : pattern ∈ patterns)
    (derived : strategy.key? pattern = some key) :
    ∃ last, strategy.lastUnder? patterns key = some last := by
  rw [← Option.isSome_iff_exists, lastUnder?, List.find?_isSome]
  exact ⟨pattern, List.mem_reverse.mpr present, decide_eq_true derived⟩

/-- Patterns that have keys are all found under them exactly if no two share a key. -/
theorem forall_found_iff
    (keyed : ∀ pattern ∈ patterns, (strategy.key? pattern).isSome) :
    (∀ pattern ∈ patterns, ∃ key, strategy.key? pattern = some key ∧
        strategy.lastUnder? patterns key = some pattern) ↔
      ∀ pattern ∈ patterns, ∀ other ∈ patterns,
        strategy.key? pattern = strategy.key? other → pattern = other := by
  constructor
  · intro found pattern present other otherPresent same
    obtain ⟨key, derived, last⟩ := found pattern present
    obtain ⟨otherKey, otherDerived, otherLast⟩ := found other otherPresent
    have sameKey : key = otherKey := Option.some.inj (by rw [← derived, same, otherDerived])
    rw [← sameKey, last] at otherLast
    exact Option.some.inj otherLast
  · intro separate pattern present
    obtain ⟨key, derived⟩ := Option.isSome_iff_exists.mp (keyed pattern present)
    obtain ⟨last, found⟩ := exists_lastUnder? present derived
    obtain ⟨lastPresent, lastDerived⟩ := of_lastUnder? found
    have same : pattern = last :=
      separate pattern present last lastPresent (by rw [derived, lastDerived])
    exact ⟨key, derived, by rw [found, same]⟩

/-- Under literal keys every pattern is its own key, the empty one apart. -/
theorem key?_literal
    (pattern : String) :
    literal.key? pattern = if pattern = "" then none else some pattern := by
  simp [key?, derive]

theorem eq_of_key?_literal
    (derived : literal.key? pattern = some key) :
    pattern = key := by
  rw [key?_literal] at derived
  split at derived
  · cases derived
  · exact Option.some.inj derived

/-- Under literal keys the last pattern with a key is the key, if there is such a pattern. -/
theorem lastUnder?_literal
    (nonempty : ∀ pattern ∈ patterns, pattern ≠ "")
    (key : String) :
    literal.lastUnder? patterns key = if key ∈ patterns then some key else none := by
  split
  · next present =>
      have derived : literal.key? key = some key := by
        rw [key?_literal, if_neg (nonempty key present)]
      obtain ⟨last, found⟩ := exists_lastUnder? present derived
      rw [found, eq_of_key?_literal (of_lastUnder? found).2]
  · next absent =>
      cases found : literal.lastUnder? patterns key with
      | none => rfl
      | some last =>
          obtain ⟨present, derived⟩ := of_lastUnder? found
          exact absurd (eq_of_key?_literal derived ▸ present) absent

/-- Only literal keys keep different patterns apart.  The others drop blanks, or all that is neither
letter nor digit, and the hash is too short to make up for it. -/
theorem separates_iff
    (strategy : KeyStrategy) :
    (∀ pattern other key, strategy.key? pattern = some key → strategy.key? other = some key →
        pattern = other) ↔
      strategy = literal := by
  constructor
  · intro separate
    cases strategy with
    | literal => rfl
    | normalized =>
        exact absurd (separate "a  b" "a b" "a b" (by decide +kernel) (by decide +kernel))
          (by decide)
    | underscored =>
        exact absurd (separate "a, b" "a b" "a_b" (by decide +kernel) (by decide +kernel))
          (by decide)
    | underscoredHash =>
        exact absurd (separate "a!! ! ??" "a..???!!." "a_bd9091c4" (by decide +kernel)
          (by decide +kernel)) (by decide)
  · rintro rfl pattern other key derived otherDerived
    rw [eq_of_key?_literal derived, eq_of_key?_literal otherDerived]

/-- Only a strategy that adds a hash has a key for the empty pattern. -/
theorem key?_empty
    (strategy : KeyStrategy) :
    strategy.key? "" = none ↔ strategy ≠ underscoredHash := by
  cases strategy <;> decide +kernel

end KeyStrategy
end MessageExpansion
