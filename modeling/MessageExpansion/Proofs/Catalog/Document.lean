import MessageExpansion.Proofs.Catalog
import MessageExpansion.Proofs.Json.Layout
import MessageExpansion.Proofs.Json.Record

/-!
# Reading catalogs that were written

A catalog is read by inserting its patterns one by one, so a locale without patterns is not read
back.  No catalog that is built by inserting, merging and reading has such a locale.  These
catalogs, and no others, are read from their documents as they are.
-/

namespace MessageExpansion

namespace SortedMap

variable {α : Type}

/-- Of two values under one key the later one stays. -/
theorem insert_insert
    (map : SortedMap α)
    (key : String)
    (earlier later : α) :
    (map.insert key earlier).insert key later = map.insert key later := by
  refine ext_get? fun wanted => ?_
  rw [get?_insert, get?_insert, get?_insert]
  split <;> rfl

end SortedMap

namespace Catalog

/-! ### Catalogs without empty locales -/

/-- Every locale has a pattern. -/
def Populated (catalog : Catalog) : Prop :=
  ∀ locale, (catalog.get? locale).isSome = true →
    ∃ key pattern, catalog.pattern? locale key = some pattern

theorem populated_empty : empty.Populated := fun _ present => by cases present

/-- A locale that gets a pattern has one. -/
theorem Populated.insertPattern
    {catalog : Catalog}
    (populated : catalog.Populated)
    (locale key pattern : String) :
    (catalog.insertPattern locale key pattern).Populated := by
  intro wanted present
  by_cases same : wanted = locale
  · refine ⟨key, pattern, ?_⟩
    rw [pattern?_insertPattern, if_pos ⟨same, rfl⟩]
  · rw [Catalog.insertPattern, SortedMap.get?_insert, if_neg same] at present
    obtain ⟨otherKey, other, answered⟩ := populated wanted present
    refine ⟨otherKey, other, ?_⟩
    rw [pattern?_insertPattern, if_neg fun both => same both.1, answered]

/-- Merging gives up no pattern, so no locale becomes empty. -/
theorem Populated.merge
    {first second : Catalog}
    (firstPopulated : first.Populated)
    (secondPopulated : second.Populated) :
    (first.merge second).Populated := by
  intro locale present
  rw [isSome_get?_merge, Bool.or_eq_true] at present
  rcases present with inSecond | inFirst
  · obtain ⟨key, pattern, answered⟩ := secondPopulated locale inSecond
    refine ⟨key, pattern, ?_⟩
    rw [pattern?_merge, answered, Option.some_or]
  · obtain ⟨key, pattern, answered⟩ := firstPopulated locale inFirst
    refine ⟨key, (second.pattern? locale key).getD pattern, ?_⟩
    rw [pattern?_merge, answered]
    cases second.pattern? locale key <;> rfl

/-! ### Reading -/

/-- What every insertion keeps is kept when the patterns of a locale are read. -/
theorem insertMembers_induction
    {motive : Catalog → Prop}
    (step : ∀ catalog locale key pattern, motive catalog →
      motive (catalog.insertPattern locale key pattern))
    {path locale : String}
    {members : List (String × Json)}
    {catalog result : Catalog}
    (initial : motive catalog)
    (read : insertMembers path locale catalog members = .ok result) :
    motive result := by
  fun_induction insertMembers path locale catalog members with
  | case1 catalog =>
      cases read
      exact initial
  | case2 catalog key pattern rest inductionHypothesis =>
      exact inductionHypothesis (step catalog locale key pattern initial) read
  | case3 => cases read

/-- What every insertion keeps is kept when locales are read. -/
theorem insertLocales_induction
    {motive : Catalog → Prop}
    (step : ∀ catalog locale key pattern, motive catalog →
      motive (catalog.insertPattern locale key pattern))
    {path : String}
    {members : List (String × Json)}
    {catalog result : Catalog}
    (initial : motive catalog)
    (read : insertLocales path catalog members = .ok result) :
    motive result := by
  fun_induction insertLocales path catalog members with
  | case1 catalog =>
      cases read
      exact initial
  | case2 catalog locale members rest next inserted inductionHypothesis =>
      exact inductionHypothesis (insertMembers_induction step initial inserted) read
  | case3 => cases read
  | case4 => cases read

/-- A catalog that was read has no empty locale. -/
theorem populated_of_parse
    {content path : String}
    {catalog : Catalog}
    (read : parse content path = .ok catalog) :
    catalog.Populated := by
  unfold parse at read
  split at read
  · cases read
  · exact insertLocales_induction
      (fun _ locale key pattern populated => populated.insertPattern locale key pattern)
      populated_empty read
  · cases read

/-! ### Reading what was written -/

/-- Inserting patterns of one locale, of which there is at least one, changes that locale. -/
theorem foldl_insertPattern
    (catalog : Catalog)
    (locale : String)
    {patterns : List (String × String)}
    (nonempty : patterns ≠ []) :
    patterns.foldl (fun catalog entry => catalog.insertPattern locale entry.1 entry.2) catalog =
      catalog.insert locale ((catalog.localeEntries locale).insertAll patterns) := by
  induction patterns generalizing catalog with
  | nil => exact absurd rfl nonempty
  | cons entry rest inductionHypothesis =>
      cases rest with
      | nil => rfl
      | cons next more =>
          have entries : (catalog.insertPattern locale entry.1 entry.2).localeEntries locale =
              (catalog.localeEntries locale).insert entry.1 entry.2 := by
            rw [localeEntries, insertPattern, SortedMap.get?_insert, if_pos rfl, Option.getD_some]
          rw [List.foldl_cons, inductionHypothesis _ (List.cons_ne_nil _ _), entries,
            insertPattern, SortedMap.insert_insert]
          rfl

/-- The patterns of a locale as the members of an object. -/
def patternMembers (patterns : SortedMap String) : List (String × Json) :=
  patterns.entries.map fun entry => (entry.1, .text entry.2)

/-- The locales of a catalog as the members of an object. -/
def localeMembers (entries : List (String × SortedMap String)) : List (String × Json) :=
  entries.map fun entry => (entry.1, .ofMembers (patternMembers entry.2))

theorem insertMembers_text
    (path locale : String)
    (catalog : Catalog)
    (patterns : List (String × String)) :
    insertMembers path locale catalog (patterns.map fun entry => (entry.1, .text entry.2)) =
      .ok (patterns.foldl (fun catalog entry => catalog.insertPattern locale entry.1 entry.2)
        catalog) := by
  induction patterns generalizing catalog with
  | nil => rfl
  | cons entry rest inductionHypothesis =>
      rw [List.map_cons, Json.text, insertMembers, inductionHypothesis]
      rfl

/-- Members that are made of the entries of a sorted map have different names. -/
theorem distinctMembers_of_ascending
    {α : Type}
    {entries : List (String × α)}
    (ascending : Ascending entries)
    (value : α → Json) :
    let members := entries.map fun entry => (entry.1, value entry.2)
    Json.distinctMembers (members.map fun member => (some member.1, member.2)) = members := by
  refine Json.distinctMembers_map ?_
  rw [List.map_map, List.Nodup, List.pairwise_map]
  exact ascending.imp fun before => Std.ne_of_lt before

/-- Reading locales that all have patterns merges them into the catalog. -/
theorem insertLocales_localeMembers
    (path : String)
    (catalog : Catalog)
    {entries : List (String × SortedMap String)}
    (busy : ∀ entry ∈ entries, entry.2.entries ≠ []) :
    insertLocales path catalog (localeMembers entries) =
      .ok (entries.foldl (fun merged entry =>
        merged.insert entry.1 ((merged.localeEntries entry.1).insertAll entry.2.entries))
          catalog) := by
  induction entries generalizing catalog with
  | nil => rfl
  | cons entry rest inductionHypothesis =>
      obtain ⟨first, others⟩ := List.forall_mem_cons.mp busy
      have members : Json.distinctMembers ((patternMembers entry.2).map fun member =>
          (some member.1, member.2)) = patternMembers entry.2 :=
        distinctMembers_of_ascending entry.2.ascending Json.text
      have inserted : insertMembers path entry.1 catalog (patternMembers entry.2) =
          .ok (catalog.insert entry.1
            ((catalog.localeEntries entry.1).insertAll entry.2.entries)) := by
        rw [patternMembers, insertMembers_text, foldl_insertPattern _ _ first]
      rw [localeMembers, List.map_cons, Json.ofMembers, insertLocales, members, inserted]
      exact inductionHypothesis _ others

theorem toJson_eq_ofMembers
    (catalog : Catalog) :
    catalog.toJson = .ofMembers (localeMembers catalog.entries) :=
  rfl

/-- What is printed of a catalog spells it. -/
theorem spells_pretty
    (catalog : Catalog) :
    Json.Spells catalog.toJson catalog.print.toList := by
  rw [print, Json.pretty, toJson_eq_ofMembers]
  refine Json.spells_prettyAt_ofMembers 0 (List.forall_mem_map.mpr fun entry _ => ?_)
  exact Json.spells_prettyAt_ofMembers _
    (List.forall_mem_map.mpr fun member _ => Json.spells_prettyAt_text _ _)

/-- Catalogs are made of texts, and do not nest deep. -/
theorem isSound_toJson
    (catalog : Catalog) :
    catalog.toJson.isSound Json.maxDepth = true := by
  rw [toJson_eq_ofMembers]
  refine Json.isSound_ofMembers (List.forall_mem_map.mpr fun entry _ => ?_)
  exact Json.isSound_ofMembers (List.forall_mem_map.mpr fun member _ => rfl)

/-- A catalog without empty locales is read as it was written. -/
theorem parse_print_of_populated
    {catalog : Catalog}
    (populated : catalog.Populated)
    (path : String) :
    parse catalog.print path = .ok catalog := by
  have read : Json.readSound? catalog.print = some catalog.toJson := by
    rw [Json.readSound?, Json.read?_of_spells catalog.spells_pretty]
    simp only [isSound_toJson, if_true]
  have busy : ∀ entry ∈ catalog.entries, entry.2.entries ≠ [] := by
    rintro ⟨locale, patterns⟩ present empty
    have found := SortedMap.mem_entries_iff.mp present
    obtain ⟨key, pattern, answered⟩ := populated locale (by rw [found]; rfl)
    rw [pattern?, found, Option.bind_some, SortedMap.get?, show patterns.entries = [] from empty]
      at answered
    cases answered
  have members : Json.distinctMembers ((localeMembers catalog.entries).map fun member =>
      (some member.1, member.2)) = localeMembers catalog.entries :=
    distinctMembers_of_ascending catalog.ascending fun patterns => .ofMembers (patternMembers patterns)
  rw [parse, read, toJson_eq_ofMembers]
  simp only [Json.ofMembers]
  rw [members, insertLocales_localeMembers path empty busy]
  exact congrArg Except.ok catalog.empty_merge

/-! ### Catalogs that are built -/

/-- The catalogs that are built from the empty one by inserting patterns, by merging, and by reading
files. -/
inductive Reachable : Catalog → Prop
  | empty : Reachable empty
  | insert
      {catalog : Catalog}
      (reached : Reachable catalog)
      (locale key pattern : String) :
      Reachable (catalog.insertPattern locale key pattern)
  | merge
      {first second : Catalog}
      (firstReached : Reachable first)
      (secondReached : Reachable second) :
      Reachable (first.merge second)
  | parse
      {content path : String}
      {catalog : Catalog}
      (read : parse content path = .ok catalog) :
      Reachable catalog

/-- Catalogs that are built have no empty locales. -/
theorem Reachable.populated
    {catalog : Catalog}
    (reached : Reachable catalog) :
    catalog.Populated := by
  induction reached with
  | empty => exact populated_empty
  | insert _ locale key pattern inductionHypothesis =>
      exact inductionHypothesis.insertPattern locale key pattern
  | merge _ _ first second => exact first.merge second
  | parse read => exact populated_of_parse read

/-- The catalogs that are built are those that are read from their documents as they were. -/
theorem reachable_iff_parse_print
    (catalog : Catalog)
    (path : String) :
    Reachable catalog ↔ parse catalog.print path = .ok catalog :=
  ⟨fun reached => parse_print_of_populated reached.populated path, .parse⟩

end Catalog
end MessageExpansion
