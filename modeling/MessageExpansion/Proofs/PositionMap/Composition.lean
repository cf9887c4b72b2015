import MessageExpansion.Proofs.PositionMap.Traces

/-!
# Maps that are carried over

A map that is carried over to an earlier text keeps the mappings that the map of the earlier text
can follow.  A place that both maps lead on is led to the same place of the same source, and the
sources are listed once each, with their texts.  A place whose own mapping was dropped belongs to
the last mapping before it on its line that was kept.
-/

namespace MessageExpansion
namespace PositionMap

open Text (Position)

variable {map earlier : PositionMap} {place : Position}

/-! ### Order -/

/-- What is dropped leaves the others in order. -/
theorem Ordered.compose
    (ordered : map.Ordered)
    (earlier : PositionMap) :
    (map.compose earlier).Ordered :=
  pairwise_compose (fun first second => first.isUpTo second = true) ordered earlier

/-! ### Lookup -/

/-- The mappings on the line of a place that are not behind it. -/
def mappingsUpTo (map : PositionMap) (place : Position) : List Mapping :=
  map.mappings.filter (·.generated.isInLineUpTo place)

/-- A place is led to where the last mapping on its line that is not behind it leads. -/
theorem lookup_eq_getLast?
    (ordered : map.Ordered)
    (place : Position) :
    map.lookup place = (map.mappingsUpTo place).getLast?.bind map.origin? := by
  rw [lookup_eq_bind, mapping?_eq_getLast? ordered, mappingsUpTo]

/-- A map that was carried over leads a place to where the last mapping that the earlier map can
follow leads, of those on its line that are not behind it. -/
theorem lookup_compose
    (ordered : map.Ordered)
    (earlier : PositionMap)
    (place : Position) :
    (map.compose earlier).lookup place =
      (map.mappingsUpTo place).reverse.findSome? fun mapping => earlier.lookup mapping.origin := by
  let trace? (mapping : Mapping) : Option Trace :=
    (earlier.lookup mapping.origin).map fun origin => ⟨mapping.generated, some origin⟩
  have kept : (map.compose earlier).traces.filter (·.generated.isInLineUpTo place) =
      (map.mappingsUpTo place).filterMap trace? := by
    rw [(compose_spec map earlier).2, mappingsUpTo, List.filter_filterMap, List.filterMap_filter]
    refine List.filterMap_congr fun mapping _ => ?_
    cases target : earlier.lookup mapping.origin <;> simp [trace?, target, Option.filter]
  have followed (mappings : List Mapping) :
      (mappings.findSome? trace?).bind (·.origin) =
        mappings.findSome? fun mapping => earlier.lookup mapping.origin := by
    induction mappings with
    | nil => rfl
    | cons mapping rest inductionHypothesis =>
        rw [List.findSome?_cons, List.findSome?_cons]
        cases target : earlier.lookup mapping.origin with
        | none => simp only [trace?, target, Option.map_none, inductionHypothesis]
        | some origin => simp only [trace?, target, Option.map_some, Option.bind_some]
  rw [lookup_eq_traces (ordered.compose earlier), kept, List.getLast?_filterMap, followed]

/-- What a mapping at the end leads to is found first. -/
theorem lookup_compose_of_getLast?
    {mapping : Mapping}
    {target : SourcePosition}
    (ordered : map.Ordered)
    (last : (map.mappingsUpTo place).getLast? = some mapping)
    (resolved : earlier.lookup mapping.origin = some target) :
    (map.compose earlier).lookup place = some target := by
  obtain ⟨before, parts⟩ := List.getLast?_eq_some_iff.mp last
  rw [lookup_compose ordered, parts, List.reverse_append, List.reverse_singleton,
    List.singleton_append, List.findSome?_cons, resolved]

/-! ### Sources -/

/-- The text of a listed name is that of the first source of this name. -/
theorem exists_contentOf?_eq
    {name : String}
    (listed : name ∈ earlier.sources) :
    ∃ first : Nat, earlier.sources[first]? = some name ∧
      (∀ before < first, earlier.sources[before]? ≠ some name) ∧
      earlier.contentOf? name = (earlier.contents[first]?).getD none := by
  obtain ⟨first, index⟩ : ∃ first, earlier.sourceIndex? name = some first := by
    rw [← Option.isSome_iff_exists, sourceIndex?, List.findIdx?_isSome, List.any_eq_true]
    exact ⟨name, listed, beq_self_eq_true name⟩
  obtain ⟨inside, same, others⟩ := List.findIdx?_eq_some_iff_getElem.mp index
  refine ⟨first, ?_, fun before earlierOne other => ?_, ?_⟩
  · rw [List.getElem?_eq_getElem inside]
    exact congrArg some (by simpa using same)
  · obtain ⟨_, equal⟩ := List.getElem?_eq_some_iff.mp other
    exact others before earlierOne (by simpa using equal)
  · unfold contentOf?
    rw [index]

/-- The sources are those that mappings name, once each, with the texts that `contentOf` gives. -/
structure ListsUsed (map : PositionMap) (contentOf : String → Option String) : Prop where
  distinct : map.sources.Nodup
  used : ∀ index < map.sources.length, ∃ mapping ∈ map.mappings, mapping.source = index
  contents : map.contents = map.sources.map contentOf

/-- A source that is not listed yet is listed behind the others. -/
theorem withSource_of_not_mem
    {name : String}
    (missing : name ∉ map.sources)
    (content : Option String) :
    map.withSource name content =
      ({ map with sources := map.sources ++ [name], contents := map.contents ++ [content] },
        map.sources.length) := by
  have notFound : map.sourceIndex? name = none := by
    rw [sourceIndex?, List.findIdx?_eq_none_iff]
    intro other present
    rw [beq_eq_false_iff_ne]
    rintro rfl
    exact missing present
  unfold withSource
  rw [notFound]

/-- A source that is listed already is found. -/
theorem withSource_of_mem
    {name : String}
    (listed : name ∈ map.sources)
    (content : Option String) :
    (map.withSource name content).1 = map := by
  obtain ⟨index, found⟩ : ∃ index, map.sourceIndex? name = some index := by
    rw [← Option.isSome_iff_exists, sourceIndex?, List.findIdx?_isSome, List.any_eq_true]
    exact ⟨name, listed, beq_self_eq_true name⟩
  unfold withSource
  rw [found]

theorem ListsUsed.put
    {contentOf : String → Option String}
    (lists : map.ListsUsed contentOf)
    (generated : Position)
    (origin : SourcePosition) :
    (map.put generated origin (contentOf origin.source)).ListsUsed contentOf := by
  by_cases listed : origin.source ∈ map.sources
  · have same := withSource_of_mem listed (contentOf origin.source)
    constructor
    · simpa only [PositionMap.put, same] using lists.distinct
    · intro index inside
      simp only [PositionMap.put, same] at inside ⊢
      obtain ⟨mapping, present, names⟩ := lists.used index inside
      exact ⟨mapping, List.mem_append_left _ present, names⟩
    · simpa only [PositionMap.put, same] using lists.contents
  · have new := withSource_of_not_mem listed (contentOf origin.source)
    constructor
    · simp only [PositionMap.put, new]
      rw [List.nodup_append]
      refine ⟨lists.distinct, List.pairwise_singleton _ _, fun name present other isNew same => ?_⟩
      rw [same, List.mem_singleton.mp isNew] at present
      exact listed present
    · intro index inside
      simp only [PositionMap.put, new, List.length_append, List.length_singleton] at inside ⊢
      rcases Nat.lt_succ_iff_lt_or_eq.mp inside with old | last
      · obtain ⟨mapping, present, names⟩ := lists.used index old
        exact ⟨mapping, List.mem_append_left _ present, names⟩
      · exact ⟨_, List.mem_append_right _ (List.mem_singleton.mpr rfl), last.symm⟩
    · simp only [PositionMap.put, new, lists.contents, List.map_append, List.map_singleton]

/-- A map that was carried over lists the sources that it uses, with the texts of the earlier
map. -/
theorem listsUsed_compose
    (map earlier : PositionMap) :
    (map.compose earlier).ListsUsed earlier.contentOf? := by
  have step (composed : PositionMap) (mapping : Mapping)
      (lists : composed.ListsUsed earlier.contentOf?) :
      (composeMapping earlier composed mapping).ListsUsed earlier.contentOf? := by
    unfold composeMapping
    cases earlier.lookup mapping.origin with
    | none => exact lists
    | some origin => exact lists.put mapping.generated origin
  have run (mappings : List Mapping) (composed : PositionMap)
      (lists : composed.ListsUsed earlier.contentOf?) :
      (mappings.foldl (composeMapping earlier) composed).ListsUsed earlier.contentOf? := by
    induction mappings generalizing composed with
    | nil => exact lists
    | cons mapping rest inductionHypothesis =>
        exact inductionHypothesis _ (step composed mapping lists)
  exact run map.mappings _ ⟨List.nodup_nil, fun _ inside => absurd inside (Nat.not_lt_zero _), rfl⟩

/-- A place is led to a listed source. -/
theorem source_mem_of_lookup
    {target : SourcePosition}
    (found : map.lookup place = some target) :
    target.source ∈ map.sources := by
  rw [lookup_eq_bind, Option.bind_eq_some_iff] at found
  obtain ⟨mapping, _, leads⟩ := found
  obtain ⟨name, listed, rfl⟩ := Option.map_eq_some_iff.mp leads
  exact List.mem_of_getElem? listed

/-! ### Looking up twice -/

/-- A place that the map leads to a place which the earlier map leads on is led there by the map
that was carried over, to the same place of the same source, which has the text that the earlier map
has for the first source of its name.  The sources are listed once each, and all of them are
used. -/
theorem leadsOn_compose
    (ordered : map.Ordered)
    (earlier : PositionMap) :
    (∀ place origin target, map.lookup place = some origin →
      earlier.lookup origin.position = some target →
        (map.compose earlier).lookup place = some target ∧
          ∃ number first : Nat, (map.compose earlier).sources[number]? = some target.source ∧
            earlier.sources[first]? = some target.source ∧
            (∀ before < first, earlier.sources[before]? ≠ some target.source) ∧
            (map.compose earlier).contents[number]? =
              some ((earlier.contents[first]?).getD none)) ∧
      (map.compose earlier).sources.Nodup ∧
      ∀ number < (map.compose earlier).sources.length,
        ∃ mapping ∈ (map.compose earlier).mappings, mapping.source = number := by
  have lists := listsUsed_compose map earlier
  refine ⟨fun place origin target found resolved => ?_, lists.distinct, lists.used⟩
  rw [lookup_eq_getLast? ordered, Option.bind_eq_some_iff] at found
  obtain ⟨mapping, last, leads⟩ := found
  obtain ⟨_, _, rfl⟩ := Option.map_eq_some_iff.mp leads
  have through := lookup_compose_of_getLast? ordered last resolved
  obtain ⟨number, listed⟩ := List.getElem?_of_mem (source_mem_of_lookup through)
  obtain ⟨first, isFirst, others, content⟩ :=
    exists_contentOf?_eq (source_mem_of_lookup resolved)
  refine ⟨through, number, first, listed, isFirst, others, ?_⟩
  rw [lists.contents, List.getElem?_map, listed, Option.map_some, content]

/-- A map into one source, of which the earlier map lists another source of the same name first. -/
theorem leadsOn_compose_same_names :
    let map : PositionMap := ((ofSource "mid.js" none).add ⟨1, 0⟩ ⟨0, 3⟩).add ⟨1, 6⟩ ⟨7, 0⟩
    let earlier : PositionMap :=
      ⟨none, ["a.ts", "b.ts", "b.ts"], [none, some "first", some "second"],
        [⟨⟨0, 0⟩, 2, ⟨4, 2⟩⟩, ⟨⟨0, 9⟩, 0, ⟨0, 0⟩⟩]⟩
    map.Ordered ∧
      map.lookup ⟨1, 4⟩ = some ⟨"mid.js", ⟨0, 3⟩⟩ ∧
      earlier.lookup ⟨0, 3⟩ = some ⟨"b.ts", ⟨4, 2⟩⟩ ∧
      (map.compose earlier).lookup ⟨1, 4⟩ = some ⟨"b.ts", ⟨4, 2⟩⟩ ∧
      (map.compose earlier).sources = ["b.ts"] ∧
      (map.compose earlier).contents = [some "first"] := by
  intro map earlier
  have ordered : map.Ordered := by
    unfold Ordered
    decide
  have found : map.lookup ⟨1, 4⟩ = some ⟨"mid.js", ⟨0, 3⟩⟩ := by decide +kernel
  have resolved : earlier.lookup ⟨0, 3⟩ = some ⟨"b.ts", ⟨4, 2⟩⟩ := by decide +kernel
  exact ⟨ordered, found, resolved,
    ((leadsOn_compose ordered earlier).1 ⟨1, 4⟩ _ _ found resolved).1, by decide +kernel,
    by decide +kernel⟩

/-- A map that was carried over leads a place to where the last mapping leads that the earlier map
can follow, of those on its line that are not behind it, and nowhere if there is none.  Then the map
itself leads the place somewhere, and from there the earlier map leads to the same place or, if that
mapping was dropped, nowhere. -/
theorem originates_compose
    (ordered : map.Ordered)
    (listed : ∀ mapping ∈ map.mappings, mapping.source < map.sources.length)
    (earlier : PositionMap)
    (place : Position) :
    (∀ target, (map.compose earlier).lookup place = some target ↔
      ∃ before mapping dropped, map.mappingsUpTo place = before ++ mapping :: dropped ∧
        earlier.lookup mapping.origin = some target ∧
        ∀ later ∈ dropped, earlier.lookup later.origin = none) ∧
      ((map.compose earlier).lookup place = none ↔
        ∀ mapping ∈ map.mappingsUpTo place, earlier.lookup mapping.origin = none) ∧
      ∀ target, (map.compose earlier).lookup place = some target →
        ∃ origin, map.lookup place = some origin ∧
          (earlier.lookup origin.position = some target ∨
            earlier.lookup origin.position = none) := by
  refine ⟨fun target => ?_, ?_, fun target found => ?_⟩
  · rw [lookup_compose ordered, List.findSome?_eq_some_iff]
    constructor
    · rintro ⟨dropped, mapping, before, parts, resolved, unresolved⟩
      refine ⟨before.reverse, mapping, dropped.reverse, ?_, resolved, fun later present =>
        unresolved later (List.mem_reverse.mp present)⟩
      rw [← List.reverse_reverse (map.mappingsUpTo place), parts]
      simp
    · rintro ⟨before, mapping, dropped, parts, resolved, unresolved⟩
      refine ⟨dropped.reverse, mapping, before.reverse, ?_, resolved, fun later present =>
        unresolved later (List.mem_reverse.mp present)⟩
      rw [parts]
      simp
  · rw [lookup_compose ordered, List.findSome?_eq_none_iff]
    simp only [List.mem_reverse]
  · cases last : (map.mappingsUpTo place).getLast? with
    | none =>
        rw [lookup_compose ordered, List.getLast?_eq_none_iff.mp last] at found
        cases found
    | some mapping =>
        have present : mapping ∈ map.mappings :=
          (List.mem_filter.mp (List.mem_of_getLast? last)).1
        obtain ⟨name, leads⟩ := exists_origin?_eq (listed mapping present)
        refine ⟨⟨name, mapping.origin⟩, ?_, ?_⟩
        · rw [lookup_eq_getLast? ordered, last, Option.bind_some, leads]
        · cases resolved : earlier.lookup mapping.origin with
          | none => exact Or.inr rfl
          | some other =>
              rw [lookup_compose_of_getLast? ordered last resolved] at found
              exact Or.inl found

/-- Of the three mappings of a line the earlier map can follow only the first one, which the places
of the other two are left to; the place before it comes from nowhere. -/
theorem originates_compose_two_dropped :
    let map : PositionMap :=
      (((ofSource "mid.js" none).add ⟨0, 2⟩ ⟨0, 0⟩).add ⟨0, 5⟩ ⟨7, 0⟩).add ⟨0, 9⟩ ⟨8, 1⟩
    let earlier : PositionMap := (ofSource "src.ts" none).add ⟨0, 0⟩ ⟨4, 2⟩
    map.Ordered ∧
      (∀ mapping ∈ map.mappings, mapping.source < map.sources.length) ∧
      map.mappingsUpTo ⟨0, 9⟩ =
        [] ++ ⟨⟨0, 2⟩, 0, ⟨0, 0⟩⟩ :: [⟨⟨0, 5⟩, 0, ⟨7, 0⟩⟩, ⟨⟨0, 9⟩, 0, ⟨8, 1⟩⟩] ∧
      (map.compose earlier).lookup ⟨0, 9⟩ = some ⟨"src.ts", ⟨4, 2⟩⟩ ∧
      (map.compose earlier).lookup ⟨0, 1⟩ = none := by
  intro map earlier
  have ordered : map.Ordered := by
    unfold Ordered
    decide
  have listed : ∀ mapping ∈ map.mappings, mapping.source < map.sources.length := by decide
  have parts : map.mappingsUpTo ⟨0, 9⟩ =
      [] ++ ⟨⟨0, 2⟩, 0, ⟨0, 0⟩⟩ :: [⟨⟨0, 5⟩, 0, ⟨7, 0⟩⟩, ⟨⟨0, 9⟩, 0, ⟨8, 1⟩⟩] := by decide
  have followed : earlier.lookup ⟨0, 0⟩ = some ⟨"src.ts", ⟨4, 2⟩⟩ := by decide +kernel
  have lost : ∀ later ∈ ([⟨⟨0, 5⟩, 0, ⟨7, 0⟩⟩, ⟨⟨0, 9⟩, 0, ⟨8, 1⟩⟩] : List Mapping),
      earlier.lookup later.origin = none := by decide +kernel
  have reached := originates_compose ordered listed earlier ⟨0, 9⟩
  have missed := originates_compose ordered listed earlier ⟨0, 1⟩
  exact ⟨ordered, listed, parts, (reached.1 _).mpr ⟨_, _, _, parts, followed, lost⟩,
    missed.2.1.mpr (by decide)⟩

/-- The map leads a place to one that the earlier map leads nowhere, but the map that was carried
over leads it to the source all the same: the mapping of the place was dropped, and another one
stands before it on its line. -/
theorem originates_compose_elsewhere :
    let map : PositionMap := ((ofSource "mid.js" none).add ⟨0, 0⟩ ⟨0, 0⟩).add ⟨0, 5⟩ ⟨7, 0⟩
    let earlier : PositionMap := (ofSource "src.ts" none).add ⟨0, 0⟩ ⟨4, 2⟩
    map.sources.length = 1 ∧ map.Ordered ∧ earlier.Ordered ∧
      map.lookup ⟨0, 5⟩ = some ⟨"mid.js", ⟨7, 0⟩⟩ ∧
      earlier.lookup ⟨7, 0⟩ = none ∧
      (map.compose earlier).lookup ⟨0, 5⟩ = some ⟨"src.ts", ⟨4, 2⟩⟩ ∧
      ¬ ∃ origin, map.lookup ⟨0, 5⟩ = some origin ∧
        earlier.lookup origin.position = some ⟨"src.ts", ⟨4, 2⟩⟩ := by
  intro map earlier
  have leads : map.lookup ⟨0, 5⟩ = some ⟨"mid.js", ⟨7, 0⟩⟩ := by decide +kernel
  have nowhere : earlier.lookup ⟨7, 0⟩ = none := by decide +kernel
  refine ⟨rfl, ?_, ?_, leads, nowhere, by decide +kernel, ?_⟩
  · unfold Ordered
    decide
  · unfold Ordered
    decide
  · rintro ⟨origin, found, resolved⟩
    rw [leads, Option.some.injEq] at found
    rw [← found, nowhere] at resolved
    cases resolved

end PositionMap
end MessageExpansion
