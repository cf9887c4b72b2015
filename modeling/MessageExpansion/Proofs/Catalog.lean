import MessageExpansion.Catalog

/-!
# Catalogs as maps

A sorted map answers for a key with what was inserted under it last, and a catalog does so for a
locale and a key.  Maps that answer alike are equal, so what merging catalogs comes to is told by
the answers: those of the second catalog go before those of the first one.
-/

namespace MessageExpansion

namespace SortedMap

variable {α : Type}

theorem find?_insertEntry
    (key : String)
    (value : α)
    (entries : List (String × α))
    (wanted : String) :
    (insertEntry key value entries).find? (·.1 == wanted) =
      if wanted = key then some (key, value) else entries.find? (·.1 == wanted) := by
  induction entries with
  | nil => by_cases same : wanted = key <;> simp [insertEntry, same, Ne.symm]
  | cons head rest inductionHypothesis =>
      obtain ⟨first, old⟩ := head
      rw [insertEntry]
      split
      · by_cases same : wanted = key <;> simp [same, Ne.symm]
      · split
        · next equal =>
            subst equal
            by_cases same : wanted = key <;> simp [same, Ne.symm]
        · next different =>
            rw [List.find?_cons, List.find?_cons, inductionHypothesis]
            by_cases same : wanted = key
            · have later : (first == key) = false := by simpa using Ne.symm different
              subst same
              simp [later]
            · simp [same]

/-- A map answers for a key with what was inserted under it last. -/
theorem get?_insert
    (map : SortedMap α)
    (key : String)
    (value : α)
    (wanted : String) :
    (map.insert key value).get? wanted =
      if wanted = key then some value else map.get? wanted := by
  unfold get? insert
  rw [find?_insertEntry]
  split <;> rfl

/-- An entry is found in ascending entries under its key. -/
theorem find?_of_mem
    {entries : List (String × α)}
    {entry : String × α}
    (ascending : Ascending entries)
    (present : entry ∈ entries) :
    entries.find? (·.1 == entry.1) = some entry := by
  obtain ⟨front, back, rfl⟩ := List.append_of_mem present
  have others : ∀ earlier ∈ front, ¬ (earlier.1 == entry.1) = true := by
    intro earlier inFront
    have before := (List.pairwise_append.mp ascending).2.2 earlier inFront entry (by simp)
    simpa using Std.ne_of_lt before
  rw [List.find?_append, List.find?_eq_none.mpr others, Option.none_or, List.find?_cons,
    beq_self_eq_true]

/-- The entries are what the map answers. -/
theorem mem_entries_iff
    {map : SortedMap α}
    {key : String}
    {value : α} :
    (key, value) ∈ map.entries ↔ map.get? key = some value := by
  unfold get?
  constructor
  · intro present
    rw [find?_of_mem map.ascending present]
    rfl
  · intro answered
    obtain ⟨entry, found, same⟩ := Option.map_eq_some_iff.mp answered
    have sameKey : entry.1 = key := by simpa using List.find?_some found
    rw [← sameKey, ← same]
    exact List.mem_of_find?_eq_some found

/-- Maps that answer alike are equal. -/
theorem ext_get?
    {first second : SortedMap α}
    (same : ∀ key, first.get? key = second.get? key) :
    first = second := by
  have nodup (map : SortedMap α) : map.entries.Nodup :=
    map.ascending.imp fun before equal => Std.ne_of_lt before (congrArg Prod.fst equal)
  have perm : first.entries.Perm second.entries := by
    rw [List.perm_ext_iff_of_nodup (nodup first) (nodup second)]
    rintro ⟨key, value⟩
    rw [mem_entries_iff, mem_entries_iff, same]
  refine ext (perm.eq_of_pairwise (fun earlier later _ _ before after => ?_) first.ascending
    second.ascending)
  exact absurd (String.lt_trans before after) (String.lt_irrefl _)

/-- A map answers with its first entry for the key of that, and with the others else. -/
theorem get?_cons
    {entry : String × α}
    {rest : List (String × α)}
    (ascending : Ascending (entry :: rest))
    (wanted : String) :
    (mk (entry :: rest) ascending).get? wanted =
      if wanted = entry.1 then some entry.2
      else (mk rest (List.pairwise_cons.mp ascending).2).get? wanted := by
  unfold get?
  rw [List.find?_cons]
  by_cases same : wanted = entry.1
  · simp [same]
  · rw [if_neg same, beq_eq_false_iff_ne.mpr (Ne.symm same)]

/-- No other entry has the key of the first one. -/
theorem get?_rest
    {entry : String × α}
    {rest : List (String × α)}
    (ascending : Ascending (entry :: rest)) :
    (mk rest (List.pairwise_cons.mp ascending).2).get? entry.1 = none := by
  unfold get?
  rw [Option.map_eq_none_iff, List.find?_eq_none]
  intro other present
  simpa using (Std.ne_of_lt ((List.pairwise_cons.mp ascending).1 other present)).symm

/-- A map with the entries of another answers for the other first. -/
theorem get?_insertAll
    (map other : SortedMap α)
    (wanted : String) :
    (map.insertAll other.entries).get? wanted = (other.get? wanted).or (map.get? wanted) := by
  obtain ⟨entries, ascending⟩ := other
  unfold insertAll
  induction entries generalizing map with
  | nil => rfl
  | cons entry rest inductionHypothesis =>
      rw [List.foldl_cons, inductionHypothesis _ (List.pairwise_cons.mp ascending).2, get?_insert,
        get?_cons]
      by_cases same : wanted = entry.1
      · rw [if_pos same, if_pos same, same, get?_rest ascending]
        rfl
      · rw [if_neg same, if_neg same]

end SortedMap

namespace Catalog

/-- A catalog answers for a locale and a key with the pattern that was inserted under them last. -/
theorem pattern?_insertPattern
    (catalog : Catalog)
    (locale key pattern : String)
    (wantedLocale wantedKey : String) :
    (catalog.insertPattern locale key pattern).pattern? wantedLocale wantedKey =
      if wantedLocale = locale ∧ wantedKey = key then some pattern
      else catalog.pattern? wantedLocale wantedKey := by
  unfold pattern? insertPattern
  rw [SortedMap.get?_insert]
  by_cases sameLocale : wantedLocale = locale
  · subst sameLocale
    rw [if_pos rfl, Option.bind_some, SortedMap.get?_insert]
    unfold localeEntries
    cases catalog.get? wantedLocale with
    | none => by_cases sameKey : wantedKey = key <;> simp [sameKey, SortedMap.get?, SortedMap.empty]
    | some entries => by_cases sameKey : wantedKey = key <;> simp [sameKey]
  · simp [sameLocale]

/-- The patterns of a locale after merging are those of the second catalog put into those of the
first one. -/
theorem get?_merge
    (catalog other : Catalog)
    (locale : String) :
    (catalog.merge other).get? locale =
      match other.get? locale with
      | none => catalog.get? locale
      | some patterns => some ((catalog.localeEntries locale).insertAll patterns.entries) := by
  obtain ⟨entries, ascending⟩ := other
  unfold merge
  induction entries generalizing catalog with
  | nil => rfl
  | cons entry rest inductionHypothesis =>
      rw [List.foldl_cons, inductionHypothesis _ (List.pairwise_cons.mp ascending).2,
        SortedMap.get?_cons]
      unfold localeEntries
      rw [SortedMap.get?_insert]
      by_cases same : locale = entry.1
      · rw [if_pos same, if_pos same, same, SortedMap.get?_rest ascending]
      · rw [if_neg same, if_neg same]

/-- A merged catalog answers for the second catalog first. -/
theorem pattern?_merge
    (catalog other : Catalog)
    (locale key : String) :
    (catalog.merge other).pattern? locale key =
      (other.pattern? locale key).or (catalog.pattern? locale key) := by
  unfold pattern?
  rw [get?_merge]
  cases other.get? locale with
  | none => rfl
  | some patterns =>
      rw [Option.bind_some, Option.bind_some, SortedMap.get?_insertAll]
      unfold localeEntries
      cases catalog.get? locale <;> rfl

/-- The locales after merging are those of both catalogs. -/
theorem isSome_get?_merge
    (catalog other : Catalog)
    (locale : String) :
    ((catalog.merge other).get? locale).isSome =
      ((other.get? locale).isSome || (catalog.get? locale).isSome) := by
  rw [get?_merge]
  cases other.get? locale <;> rfl

/-- Catalogs with the same locales that answer alike are equal. -/
theorem ext_pattern?
    {first second : Catalog}
    (locales : ∀ locale, (first.get? locale).isSome = (second.get? locale).isSome)
    (patterns : ∀ locale key, first.pattern? locale key = second.pattern? locale key) :
    first = second := by
  refine SortedMap.ext_get? fun locale => ?_
  have sameLocale := locales locale
  have samePatterns := patterns locale
  unfold pattern? at samePatterns
  cases inFirst : first.get? locale with
  | none =>
      cases inSecond : second.get? locale with
      | none => rfl
      | some _ => simp [inFirst, inSecond] at sameLocale
  | some entries =>
      cases inSecond : second.get? locale with
      | none => simp [inFirst, inSecond] at sameLocale
      | some others =>
          rw [inFirst, inSecond] at samePatterns
          exact congrArg some (SortedMap.ext_get? samePatterns)

/-- The catalogs have the same pattern wherever both have one. -/
def Agrees (first second : Catalog) : Prop :=
  ∀ locale key pattern other, first.pattern? locale key = some pattern →
    second.pattern? locale key = some other → pattern = other

/-- Catalogs that agree may be merged in either order. -/
theorem merge_right_comm
    {first second : Catalog}
    (agrees : first.Agrees second)
    (catalog : Catalog) :
    (catalog.merge first).merge second = (catalog.merge second).merge first := by
  refine ext_pattern? (fun locale => ?_) fun locale key => ?_
  · simp only [isSome_get?_merge]
    exact Bool.or_left_comm _ _ _
  · simp only [pattern?_merge]
    cases inFirst : first.pattern? locale key with
    | none => rw [Option.none_or, Option.none_or]
    | some pattern =>
        cases inSecond : second.pattern? locale key with
        | none => rfl
        | some other => rw [agrees locale key pattern other inFirst inSecond]

/-! ### Merging as an operation -/

/-- Three catalogs may be merged from either side. -/
theorem merge_assoc
    (first second third : Catalog) :
    (first.merge second).merge third = first.merge (second.merge third) := by
  refine ext_pattern? (fun locale => ?_) fun locale key => ?_
  · simp only [isSome_get?_merge]
    exact (Bool.or_assoc _ _ _).symm
  · simp only [pattern?_merge]
    exact Option.or_assoc.symm

theorem merge_self
    (catalog : Catalog) :
    catalog.merge catalog = catalog := by
  refine ext_pattern? (fun locale => ?_) fun locale key => ?_
  · rw [isSome_get?_merge, Bool.or_self]
  · rw [pattern?_merge, Option.or_self]

theorem merge_empty
    (catalog : Catalog) :
    catalog.merge empty = catalog := rfl

theorem empty_merge
    (catalog : Catalog) :
    empty.merge catalog = catalog := by
  refine ext_pattern? (fun locale => ?_) fun locale key => ?_
  · rw [isSome_get?_merge]
    exact Bool.or_false _
  · rw [pattern?_merge]
    exact Option.or_none

/-- The order of merging does not matter exactly if the catalogs agree. -/
theorem merge_comm_iff
    {first second : Catalog} :
    first.merge second = second.merge first ↔ first.Agrees second := by
  constructor
  · intro same locale key pattern other inFirst inSecond
    have answers := congrArg (fun merged : Catalog => merged.pattern? locale key) same
    simp only [pattern?_merge, inFirst, inSecond, Option.some_or] at answers
    exact (Option.some.inj answers).symm
  · intro agrees
    have order := merge_right_comm agrees empty
    rwa [empty_merge, empty_merge] at order

/-- Merging is an idempotent operation with a unit.  It commutes exactly where the catalogs agree,
and an entry gives way to another one only if the second catalog has that under the same locale and
key. -/
theorem merge_laws
    (first second third : Catalog) :
    (first.merge second).merge third = first.merge (second.merge third) ∧
      first.merge first = first ∧
      empty.merge first = first ∧
      first.merge empty = first ∧
      (first.merge second = second.merge first ↔ first.Agrees second) ∧
      (∀ locale key, (first.merge second).pattern? locale key =
        match second.pattern? locale key with
        | some pattern => some pattern
        | none => first.pattern? locale key) ∧
      ∀ locale, ((first.merge second).get? locale).isSome =
        ((second.get? locale).isSome || (first.get? locale).isSome) := by
  refine ⟨merge_assoc first second third, merge_self first, empty_merge first, merge_empty first,
    merge_comm_iff, fun locale key => ?_, isSome_get?_merge first second⟩
  rw [pattern?_merge]
  cases second.pattern? locale key <;> rfl

end Catalog
end MessageExpansion
