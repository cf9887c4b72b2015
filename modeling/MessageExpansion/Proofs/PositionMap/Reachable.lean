import MessageExpansion.Proofs.PositionMap.Composition
import MessageExpansion.Proofs.PositionMap.LowBits

/-!
# Maps that are made

Maps are made empty, for one source, or from a document, and from other maps by recording places in
order, by carrying one over, and by putting one behind another.  However a map was made, the sources
of its mappings are listed with their texts, and its mappings stand in order.  So its mappings can
be put behind those of another map, and places can be looked up by halving.
-/

namespace MessageExpansion

open Text (Position)

/-- The line and the column are 32-bit numbers. -/
def Text.Position.Fits (place : Position) : Prop :=
  place.line < UInt32.size ∧ place.column < UInt32.size

/-- The generated place and the place of a source that it comes from are 32-bit places. -/
def Trace.Fits (trace : Trace) : Prop :=
  trace.generated.Fits ∧ ∃ origin, trace.origin = some origin ∧ origin.position.Fits

/-! ### The order of mappings -/

theorem isRowUpTo_trans
    {first second third : List Nat}
    (start : isRowUpTo first second = true)
    (finish : isRowUpTo second third = true) :
    isRowUpTo first third = true := by
  induction first generalizing second third with
  | nil => rfl
  | cons field fields inductionHypothesis =>
      cases second with
      | nil => cases start
      | cons other others =>
          cases third with
          | nil => cases finish
          | cons last more =>
              simp only [isRowUpTo, Bool.or_eq_true, decide_eq_true_eq, Bool.and_eq_true,
                beq_iff_eq] at *
              rcases start with less | ⟨rfl, start⟩
              · exact Or.inl (by omega)
              · rcases finish with less | ⟨rfl, finish⟩
                · exact Or.inl less
                · exact Or.inr ⟨rfl, inductionHypothesis start finish⟩

theorem isRowUpTo_total
    (first second : List Nat) :
    (isRowUpTo first second || isRowUpTo second first) = true := by
  induction first generalizing second with
  | nil => rfl
  | cons field fields inductionHypothesis =>
      cases second with
      | nil => rfl
      | cons other others =>
          have rest := inductionHypothesis others
          simp only [isRowUpTo, Bool.or_eq_true, decide_eq_true_eq, Bool.and_eq_true,
            beq_iff_eq] at *
          rcases Nat.lt_trichotomy field other with less | rfl | greater
          · exact Or.inl (Or.inl less)
          · exact rest.imp (fun upTo => Or.inr ⟨rfl, upTo⟩) fun upTo => Or.inr ⟨rfl, upTo⟩
          · exact Or.inr (Or.inl greater)

/-- The weightiest fields of a mapping are its generated place. -/
theorem Mapping.generated_isUpTo
    {first second : Mapping}
    (upTo : first.isUpTo second = true) :
    first.generated.isUpTo second.generated = true := by
  rw [Position.isUpTo_iff]
  simp only [isUpTo, fields, isRowUpTo, Bool.or_eq_true, decide_eq_true_eq, Bool.and_eq_true,
    beq_iff_eq] at upTo
  omega

/-- Mappings that were sorted stand in the order of their generated places. -/
theorem pairwise_mergeSort_isUpTo
    (mappings : List Mapping) :
    (mappings.mergeSort Mapping.isUpTo).Pairwise fun first second =>
      first.generated.isUpTo second.generated = true := by
  have transitive (first second third : Mapping) :
      first.isUpTo second = true → second.isUpTo third = true → first.isUpTo third = true :=
    isRowUpTo_trans
  have total (first second : Mapping) : (first.isUpTo second || second.isUpTo first) = true :=
    isRowUpTo_total first.fields second.fields
  exact (List.pairwise_mergeSort transitive total mappings).imp Mapping.generated_isUpTo

namespace PositionMap

variable {map other earlier : PositionMap} {place generated origin : Position} {offset : Nat}

/-! ### Making maps -/

/-- The map can be made from documents, with mappings recorded in order.  No line is moved down
beyond the 32-bit numbers. -/
inductive Reachable : PositionMap → Prop
  | empty : Reachable .empty
  | ofSource (source : String) (content : Option String) : Reachable (.ofSource source content)
  | parse {text : String} {map : PositionMap}
      (read : parse text = .ok map) :
      Reachable map
  | add {map : PositionMap} {generated origin : Position}
      (made : Reachable map)
      (hasSource : map.sources ≠ [])
      (inOrder : ∀ last, map.mappings.getLast? = some last →
        last.generated.isUpTo generated = true)
      (generatedFits : generated.Fits)
      (originFits : origin.Fits) :
      Reachable (map.add generated origin)
  | compose {map earlier : PositionMap}
      (made : Reachable map)
      (earlierMade : Reachable earlier) :
      Reachable (map.compose earlier)
  | append {map other : PositionMap} {offset : Nat}
      (made : Reachable map)
      (otherMade : Reachable other)
      (inRange : ∀ mapping ∈ other.mappings, mapping.generated.line + offset < UInt32.size) :
      Reachable (map.append other offset)

/-- All sources of mappings are listed with their texts, and the mappings stand in order.  Their
places are 32-bit places. -/
structure IsValid (map : PositionMap) : Prop extends map.IsComplete where
  ordered : map.Ordered
  fits : ∀ mapping ∈ map.mappings, mapping.generated.Fits ∧ mapping.origin.Fits

theorem isValid_empty : empty.IsValid :=
  ⟨isComplete_empty, List.Pairwise.nil, List.forall_mem_nil _⟩

theorem isValid_ofSource
    (source : String)
    (content : Option String) :
    (ofSource source content).IsValid :=
  ⟨⟨List.forall_mem_nil _, rfl⟩, List.Pairwise.nil, List.forall_mem_nil _⟩

/-! ### Documents -/

theorem length_resize
    (length : Nat)
    (contents : List (Option String)) :
    (resize length contents).length = length := by
  simp only [resize, List.length_append, List.length_take, List.length_replicate]
  omega

theorem isValid_of_parse
    {text : String}
    (read : parse text = .ok map) :
    map.IsValid := by
  obtain ⟨document, _, checked⟩ := parse_eq_ok_iff.mp read
  obtain ⟨_, mappings, decoded, listed, rfl⟩ := ofDocument_eq_ok_iff.mp checked
  refine ⟨⟨listed, length_resize _ _⟩, ?_, ?_⟩
  · obtain ⟨_, _, rfl⟩ := decodeMappings_eq_ok_iff.mp decoded
    exact pairwise_mergeSort_isUpTo _
  · intro mapping present
    obtain ⟨whole, spelled⟩ := exists_spellsSegments decoded
    obtain ⟨_, low⟩ := perm_of_decodeMappings spelled decoded
    obtain ⟨row, _, rfl⟩ := List.mem_map.mp (low.subset present)
    exact ⟨⟨word32_lt _, word32_lt _⟩, ⟨word32_lt _, word32_lt _⟩⟩

/-! ### Recorded places -/

/-- The mappings stay that are put before a new one, apart from one for the same place. -/
theorem exists_appendMapping_eq
    (mappings : List Mapping)
    (mapping : Mapping) :
    ∃ kept, kept <+: mappings ∧ appendMapping mappings mapping = kept ++ [mapping] := by
  unfold appendMapping
  split
  · split
    · exact ⟨_, List.dropLast_prefix _, rfl⟩
    · exact ⟨_, List.prefix_refl _, rfl⟩
  · exact ⟨[], List.nil_prefix, rfl⟩

/-- No mapping is behind the last one. -/
theorem Ordered.isUpTo_getLast
    {last mapping : Mapping}
    (ordered : map.Ordered)
    (isLast : map.mappings.getLast? = some last)
    (present : mapping ∈ map.mappings) :
    mapping.generated.isUpTo last.generated = true := by
  obtain ⟨before, parts⟩ := List.getLast?_eq_some_iff.mp isLast
  rw [Ordered, parts, List.pairwise_append] at ordered
  rw [parts] at present
  rcases List.mem_append.mp present with early | here
  · exact ordered.2.2 mapping early last (List.mem_singleton.mpr rfl)
  · rw [List.mem_singleton.mp here]
    exact Position.isUpTo_refl _

theorem IsValid.add
    (valid : map.IsValid)
    (hasSource : map.sources ≠ [])
    (inOrder : ∀ last, map.mappings.getLast? = some last → last.generated.isUpTo generated = true)
    (generatedFits : generated.Fits)
    (originFits : origin.Fits) :
    (map.add generated origin).IsValid := by
  obtain ⟨kept, isPrefix, parts⟩ := exists_appendMapping_eq map.mappings ⟨generated, 0, origin⟩
  have mappings : (map.add generated origin).mappings = kept ++ [⟨generated, 0, origin⟩] := parts
  refine ⟨⟨?_, valid.contents⟩, ?_, ?_⟩
  · rw [mappings]
    refine List.forall_mem_append.mpr ⟨fun mapping present =>
      valid.listed mapping (isPrefix.subset present), List.forall_mem_singleton.mpr ?_⟩
    exact List.length_pos_iff.mpr hasSource
  · rw [Ordered, mappings, List.pairwise_append]
    refine ⟨valid.ordered.sublist isPrefix.sublist, List.pairwise_singleton _ _, ?_⟩
    intro mapping present new isNew
    rw [List.mem_singleton.mp isNew]
    have known := isPrefix.subset present
    have isLast := List.getLast?_eq_some_getLast (List.ne_nil_of_mem known)
    exact Position.isUpTo_trans (valid.ordered.isUpTo_getLast isLast known) (inOrder _ isLast)
  · rw [mappings]
    exact List.forall_mem_append.mpr ⟨fun mapping present =>
      valid.fits mapping (isPrefix.subset present),
      List.forall_mem_singleton.mpr ⟨generatedFits, originFits⟩⟩

/-! ### Maps from maps -/

/-- Whether the places are 32-bit places is a matter of traces. -/
theorem fits_iff_traces
    (complete : map.IsComplete) :
    (∀ mapping ∈ map.mappings, mapping.generated.Fits ∧ mapping.origin.Fits) ↔
      ∀ trace ∈ map.traces, trace.Fits := by
  rw [traces, List.forall_mem_map]
  refine forall₂_congr fun mapping present => ?_
  obtain ⟨name, leads⟩ := exists_origin?_eq (complete.listed mapping present)
  simp [Trace.Fits, leads]

/-- A place is led to a place that a mapping names. -/
theorem exists_origin_of_lookup
    {target : SourcePosition}
    (found : map.lookup place = some target) :
    ∃ mapping ∈ map.mappings, mapping.origin = target.position := by
  rw [lookup_eq_bind, Option.bind_eq_some_iff] at found
  obtain ⟨mapping, isFound, leads⟩ := found
  obtain ⟨_, _, rfl⟩ := Option.map_eq_some_iff.mp leads
  exact ⟨mapping, mem_of_mapping? isFound, rfl⟩

theorem IsValid.compose
    (valid : map.IsValid)
    (earlierValid : earlier.IsValid) :
    (map.compose earlier).IsValid := by
  obtain ⟨complete, traces⟩ := compose_spec map earlier
  refine ⟨complete, valid.ordered.compose earlier, (fits_iff_traces complete).mpr ?_⟩
  rw [traces]
  intro trace present
  obtain ⟨mapping, known, carried⟩ := List.mem_filterMap.mp present
  obtain ⟨target, resolved, rfl⟩ := Option.map_eq_some_iff.mp carried
  obtain ⟨other, isOther, same⟩ := exists_origin_of_lookup resolved
  exact ⟨(valid.fits mapping known).1, target, rfl, same ▸ (earlierValid.fits other isOther).2⟩

theorem IsValid.append
    (valid : map.IsValid)
    (otherValid : other.IsValid)
    (inRange : ∀ mapping ∈ other.mappings, mapping.generated.line + offset < UInt32.size) :
    (map.append other offset).IsValid := by
  obtain ⟨complete, traces⟩ := foldl_appendFrom valid.toIsComplete otherValid.listed offset
  have fits := (fits_iff_traces complete).mpr (by
    rw [traces]
    refine List.forall_mem_append.mpr ⟨(fits_iff_traces valid.toIsComplete).mp valid.fits, ?_⟩
    rw [List.forall_mem_map]
    intro trace present
    obtain ⟨⟨_, column⟩, origin⟩ := (fits_iff_traces otherValid.toIsComplete).mp otherValid.fits
      trace present
    obtain ⟨mapping, known, rfl⟩ := List.mem_map.mp present
    exact ⟨⟨inRange mapping known, column⟩, origin⟩)
  -- Sorting changes the order of the mappings and nothing else.
  have sorted : ∀ mapping ∈ (map.append other offset).mappings,
      mapping ∈ (other.mappings.foldl (appendFrom other offset) map).mappings :=
    fun mapping present => List.mem_mergeSort.mp present
  exact ⟨⟨fun mapping present => complete.listed mapping (sorted mapping present),
    complete.contents⟩, pairwise_mergeSort_isUpTo _,
    fun mapping present => fits mapping (sorted mapping present)⟩

/-- However a map was made, it is valid. -/
theorem Reachable.isValid
    (made : Reachable map) :
    map.IsValid := by
  induction made with
  | empty => exact isValid_empty
  | ofSource source content => exact isValid_ofSource source content
  | parse read => exact isValid_of_parse read
  | add _ hasSource inOrder generatedFits originFits valid =>
      exact valid.add hasSource inOrder generatedFits originFits
  | compose _ _ valid earlierValid => exact valid.compose earlierValid
  | append _ _ inRange valid otherValid => exact valid.append otherValid inRange

/-! ### What valid maps allow -/

/-- Put a mapping of another map behind the mappings, unless its source is not listed or its line
gets too large. -/
def appendFrom? (other : PositionMap) (offset : Nat) (map : PositionMap) (mapping : Mapping) :
    Option PositionMap :=
  if mapping.source < other.sources.length ∧ mapping.generated.line + offset < UInt32.size then
    some (appendFrom other offset map mapping)
  else none

/-- The map behind which another one was put, if all its mappings can be. -/
def append? (map other : PositionMap) (offset : Nat) : Option PositionMap :=
  (other.mappings.foldlM (appendFrom? other offset) map).map fun joined =>
    { joined with mappings := joined.mappings.mergeSort Mapping.isUpTo }

theorem append?_eq_some
    (listed : ∀ mapping ∈ other.mappings, mapping.source < other.sources.length)
    (inRange : ∀ mapping ∈ other.mappings, mapping.generated.line + offset < UInt32.size)
    (map : PositionMap) :
    map.append? other offset = some (map.append other offset) := by
  have run (mappings : List Mapping) (known : mappings ⊆ other.mappings) (map : PositionMap) :
      mappings.foldlM (appendFrom? other offset) map =
        some (mappings.foldl (appendFrom other offset) map) := by
    induction mappings generalizing map with
    | nil => rfl
    | cons mapping rest inductionHypothesis =>
        obtain ⟨here, others⟩ := List.cons_subset.mp known
        rw [List.foldlM_cons, appendFrom?, if_pos ⟨listed mapping here, inRange mapping here⟩]
        exact inductionHypothesis others _
  rw [append?, run other.mappings (List.Subset.refl _) map]
  rfl

/-- A place is led nowhere if no mapping on its line is at it or before it, and only then. -/
theorem IsValid.lookup_eq_none_iff
    (valid : map.IsValid)
    (place : Position) :
    map.lookup place = none ↔
      ∀ mapping ∈ map.mappings, mapping.generated.isInLineUpTo place = false := by
  rw [lookup_eq_getLast? valid.ordered, Option.bind_eq_none_iff]
  constructor
  · intro nowhere mapping present
    rw [Bool.eq_false_iff]
    intro inLine
    have nonempty : map.mappingsUpTo place ≠ [] :=
      List.ne_nil_of_mem (List.mem_filter.mpr ⟨present, inLine⟩)
    have isLast := List.getLast?_eq_some_getLast nonempty
    have known := (List.mem_filter.mp (List.getLast_mem nonempty)).1
    obtain ⟨name, leads⟩ := exists_origin?_eq (valid.listed _ known)
    have lost := nowhere _ isLast
    rw [leads] at lost
    cases lost
  · intro missing mapping isLast
    obtain ⟨present, inLine⟩ := List.mem_filter.mp (List.mem_of_getLast? isLast)
    rw [missing mapping present] at inLine
    cases inLine

/-- However a map was made, the sources of its mappings are listed with their texts, and its
mappings stand in order.  So it can be put behind any map, halving finds the mappings up to a place,
and a place is led nowhere only if no mapping on its line is at it or before it. -/
theorem usable_of_reachable
    (made : Reachable map) :
    (∀ mapping ∈ map.mappings, mapping.source < map.sources.length) ∧
      map.contents.length = map.sources.length ∧
      map.Ordered ∧
      (∀ mapping ∈ map.mappings, mapping.generated.Fits ∧ mapping.origin.Fits) ∧
      (∀ (front : PositionMap) (offset : Nat),
        (∀ mapping ∈ map.mappings, mapping.generated.line + offset < UInt32.size) →
          front.append? map offset = some (front.append map offset)) ∧
      (∀ place, ∃ front back, map.mappings = front ++ back ∧
        (∀ mapping ∈ front, mapping.generated.isUpTo place = true) ∧
        (∀ mapping ∈ back, mapping.generated.isUpTo place = false) ∧
        partitionPoint (fun mapping => mapping.generated.isUpTo place) map.mappings =
          front.length) ∧
      ∀ place, map.lookup place = none ↔
        ∀ mapping ∈ map.mappings, mapping.generated.isInLineUpTo place = false := by
  have valid := made.isValid
  refine ⟨valid.listed, valid.contents, valid.ordered, valid.fits,
    fun front offset inRange => append?_eq_some valid.listed inRange front, fun place => ?_,
    valid.lookup_eq_none_iff⟩
  obtain ⟨front, back, parts, passes, fails⟩ := exists_partition valid.ordered place
  exact ⟨front, back, parts, passes, fails, parts ▸ partitionPoint_append passes fails⟩

/-- A map is carried over to a text whose document lists segments out of order and one text for
three sources, and the map of that text is put behind it. -/
theorem usable_of_reachable_joined :
    let text := "\x7b\"version\":3,\"sources\":[\"a\",\"b\",\"a\"],\"sourcesContent\":[\"x\"]," ++
      "\"mappings\":\"ECAA,DCCA\"\x7d"
    let read : PositionMap :=
      ⟨none, ["a", "b", "a"], [some "x", none, none], [⟨⟨0, 1⟩, 2, ⟨1, 0⟩⟩, ⟨⟨0, 2⟩, 1, ⟨0, 0⟩⟩]⟩
    let map := (((ofSource "mid" none).add ⟨0, 0⟩ ⟨0, 2⟩).compose read).append read 2
    parse text = .ok read ∧
      map.sources = ["b", "a"] ∧
      map.mappings = [⟨⟨0, 0⟩, 0, ⟨0, 0⟩⟩, ⟨⟨2, 1⟩, 1, ⟨1, 0⟩⟩, ⟨⟨2, 2⟩, 0, ⟨0, 0⟩⟩] ∧
      map.contents.length = 2 ∧
      read.append? map 7 = some (read.append map 7) ∧
      map.lookup ⟨2, 0⟩ = none := by
  intro text read map
  have sorted : [⟨⟨0, 2⟩, 1, ⟨0, 0⟩⟩, ⟨⟨0, 1⟩, 2, ⟨1, 0⟩⟩].mergeSort Mapping.isUpTo = read.mappings := by
    simp [read, List.mergeSort, Mapping.isUpTo, Mapping.fields, isRowUpTo]
  have decoded : decodeMappings "ECAA,DCCA".toList = .ok read.mappings :=
    decodeMappings_eq_ok_iff.mpr ⟨_, by decide +kernel, sorted.symm⟩
  have parsed : parse text = .ok read :=
    parse_eq_ok_iff.mpr ⟨⟨3, none, ["a", "b", "a"], [some "x"], "ECAA,DCCA"⟩, by decide +kernel,
      ofDocument_eq_ok_iff.mpr ⟨rfl, read.mappings, decoded, by decide, rfl⟩⟩
  have added : Reachable ((ofSource "mid" none).add ⟨0, 0⟩ ⟨0, 2⟩) :=
    .add (.ofSource "mid" none) (List.cons_ne_nil _ _) (by rintro _ ⟨⟩)
      ⟨by decide, by decide⟩ ⟨by decide, by decide⟩
  have made : Reachable map :=
    .append (.compose added (.parse parsed)) (.parse parsed) (by decide)
  have joined : (read.mappings.foldl (appendFrom read 2)
      (((ofSource "mid" none).add ⟨0, 0⟩ ⟨0, 2⟩).compose read)).mappings =
        [⟨⟨0, 0⟩, 0, ⟨0, 0⟩⟩, ⟨⟨2, 1⟩, 1, ⟨1, 0⟩⟩, ⟨⟨2, 2⟩, 0, ⟨0, 0⟩⟩] := by decide +kernel
  have mappings : map.mappings =
      [⟨⟨0, 0⟩, 0, ⟨0, 0⟩⟩, ⟨⟨2, 1⟩, 1, ⟨1, 0⟩⟩, ⟨⟨2, 2⟩, 0, ⟨0, 0⟩⟩] := by
    refine (congrArg (List.mergeSort · Mapping.isUpTo) joined).trans ?_
    exact List.mergeSort_of_pairwise (by decide)
  have sources : map.sources = ["b", "a"] := by decide +kernel
  obtain ⟨_, contents, _, _, appends, _, lookup⟩ := usable_of_reachable made
  refine ⟨parsed, sources, mappings, ?_, appends read 7 ?_, (lookup ⟨2, 0⟩).mpr ?_⟩
  · rw [contents, sources]
    rfl
  · rw [mappings]
    decide
  · rw [mappings]
    decide

end PositionMap
end MessageExpansion
