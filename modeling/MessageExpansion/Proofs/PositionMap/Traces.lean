import Mathlib.Data.List.Basic
import MessageExpansion.Proofs.PositionMap.Lookup

/-!
# Traces

How the sources of a position map are numbered, and how its mappings are searched, does not matter
to what the map says.  The traces of a map are its generated places with the places of named sources
that they come from; a map in order leads a place to the last trace on its line that is not behind
it.  Carrying a map over to an earlier text and putting another map behind it are described by the
traces of the results.
-/

namespace MessageExpansion

open Text (Position)

namespace Text.Position

/-- The place stands on the line of another one and not behind it. -/
def isInLineUpTo (first second : Position) : Bool :=
  first.line == second.line && first.column ≤ second.column

variable {first second third : Position}

theorem isInLineUpTo_iff :
    first.isInLineUpTo second = true ↔
      first.line = second.line ∧ first.isUpTo second = true := by
  rw [isUpTo_iff, isInLineUpTo, Bool.and_eq_true, beq_iff_eq, decide_eq_true_iff]
  omega

@[simp] theorem isInLineUpTo_down
    (offset : Nat) :
    (first.down offset).isInLineUpTo (second.down offset) = first.isInLineUpTo second := by
  rw [Bool.eq_iff_iff, isInLineUpTo_iff, isInLineUpTo_iff, isUpTo_iff, isUpTo_iff]
  simp only [down]
  omega

theorem isInLineUpTo_eq_false
    (different : first.line ≠ second.line) :
    first.isInLineUpTo second = false := by
  simp [isInLineUpTo, different]

theorem Before.down
    (before : first.Before second)
    (offset : Nat) :
    (first.down offset).Before (second.down offset) := by
  unfold Before Position.down at *
  simp only
  omega

end Text.Position

/-- A generated place and the place of a named source that it comes from, if that source is
listed. -/
structure Trace where
  /-- The place in the generated text. -/
  generated : Position
  /-- The place in the source. -/
  origin : Option SourcePosition

/-- The trace some lines further down. -/
def Trace.down (offset : Nat) (trace : Trace) : Trace :=
  ⟨trace.generated.down offset, trace.origin⟩

/-- The mapping is no greater than another one if it is for an earlier place. -/
theorem Mapping.isUpTo_of_before
    {first second : Mapping}
    (before : first.generated.Before second.generated) :
    first.isUpTo second = true := by
  unfold Position.Before at before
  rcases before with line | ⟨line, column⟩
  · simp [isUpTo, fields, isRowUpTo, line]
  · simp [isUpTo, fields, isRowUpTo, line, column]

namespace PositionMap

variable {map other earlier : PositionMap} {place : Position}

/-- The place of a named source that a mapping leads to. -/
def origin? (map : PositionMap) (mapping : Mapping) : Option SourcePosition :=
  (map.sources[mapping.source]?).map (⟨·, mapping.origin⟩)

/-- What the map says, whatever the numbers of its sources. -/
def traces (map : PositionMap) : List Trace :=
  map.mappings.map fun mapping => ⟨mapping.generated, map.origin? mapping⟩

/-- The mappings stand in the order of their generated places. -/
def Ordered (map : PositionMap) : Prop :=
  map.mappings.Pairwise fun first second => first.generated.isUpTo second.generated = true

/-- Every source that a mapping names is listed, and so is its text, known or not. -/
structure IsComplete (map : PositionMap) : Prop where
  listed : ∀ mapping ∈ map.mappings, mapping.source < map.sources.length
  contents : map.contents.length = map.sources.length

/-- The map is complete, and the generated places of its mappings ascend. -/
structure IsSound (map : PositionMap) : Prop extends map.IsComplete where
  ascending : map.mappings.Pairwise fun first second => first.generated.Before second.generated

theorem IsSound.ordered
    (sound : map.IsSound) :
    map.Ordered :=
  sound.ascending.imp Position.Before.isUpTo

/-- A mapping to a listed source leads somewhere. -/
theorem exists_origin?_eq
    {mapping : Mapping}
    (listed : mapping.source < map.sources.length) :
    ∃ name, map.origin? mapping = some ⟨name, mapping.origin⟩ := by
  rw [origin?, List.getElem?_eq_getElem listed]
  exact ⟨_, rfl⟩

/-! ### Lookup -/

/-- The mappings that are not behind a place stand in front of those that are. -/
theorem exists_partition
    (ordered : map.Ordered)
    (place : Position) :
    ∃ front back, map.mappings = front ++ back ∧
      (∀ mapping ∈ front, mapping.generated.isUpTo place = true) ∧
      ∀ mapping ∈ back, mapping.generated.isUpTo place = false := by
  let reaches (mapping : Mapping) : Bool := mapping.generated.isUpTo place
  refine ⟨map.mappings.takeWhile reaches, map.mappings.dropWhile reaches,
    List.takeWhile_append_dropWhile.symm, List.all_eq_true.mp List.all_takeWhile, ?_⟩
  have sorted := ordered.sublist (List.dropWhile_sublist reaches)
  have first := List.head?_dropWhile_not reaches map.mappings
  cases rest : map.mappings.dropWhile reaches with
  | nil => simp
  | cons head tail =>
      rw [rest] at first sorted
      refine List.forall_mem_cons.mpr ⟨first, fun later present => ?_⟩
      rw [Bool.eq_false_iff]
      intro reached
      have through := Position.isUpTo_trans ((List.pairwise_cons.mp sorted).1 later present) reached
      rw [show head.generated.isUpTo place = false from first] at through
      cases through

/-- A place belongs to the last mapping on its line that is not behind it. -/
theorem mapping?_eq_getLast?
    (ordered : map.Ordered)
    (place : Position) :
    map.mapping? place =
      (map.mappings.filter (·.generated.isInLineUpTo place)).getLast? := by
  obtain ⟨front, back, split, passes, fails⟩ := exists_partition ordered place
  have noneBehind : back.filter (·.generated.isInLineUpTo place) = [] := by
    rw [List.filter_eq_nil_iff]
    intro mapping present inLine
    have behind := fails mapping present
    rw [(Position.isInLineUpTo_iff.mp inLine).2] at behind
    cases behind
  rw [split, List.filter_append, noneBehind, List.append_nil]
  unfold mapping?
  rw [split, partitionPoint_append passes fails]
  rcases List.eq_nil_or_concat front with rfl | ⟨init, last, equal⟩
  · rfl
  · rw [List.concat_eq_append] at equal
    subst equal
    have reached : last.generated.isUpTo place = true := passes last (by simp)
    simp only [List.length_append, List.length_singleton, List.append_assoc, List.singleton_append,
      List.getElem?_append_right (Nat.le_refl _), Nat.sub_self, List.getElem?_cons_zero]
    split
    · next sameLine =>
        have inLine := Position.isInLineUpTo_iff.mpr ⟨sameLine, reached⟩
        simp [List.filter_append, inLine]
    · next otherLine =>
        -- Then the last mapping stands on an earlier line, and so do all before it.
        have above : ∀ mapping ∈ init ++ [last], mapping.generated.line ≠ place.line := by
          intro mapping present
          rw [Ordered, split, List.append_assoc] at ordered
          rw [Position.isUpTo_iff] at reached
          rcases List.mem_append.mp present with early | here
          · have before := (List.pairwise_append.mp ordered).2.2 mapping early last (by simp)
            rw [Position.isUpTo_iff] at before
            omega
          · rw [List.mem_singleton.mp here]
            exact otherLine
        rw [List.filter_eq_nil_iff.mpr fun mapping present =>
          Bool.eq_false_iff.mp (Position.isInLineUpTo_eq_false (above mapping present))]
        rfl

/-- A place is led to where its mapping leads. -/
theorem lookup_eq_bind
    (map : PositionMap)
    (place : Position) :
    map.lookup place = (map.mapping? place).bind map.origin? := by
  unfold lookup
  cases map.mapping? place <;> rfl

/-- A place comes from where the last trace on its line that is not behind it comes from. -/
theorem lookup_eq_traces
    (ordered : map.Ordered)
    (place : Position) :
    map.lookup place =
      ((map.traces.filter (·.generated.isInLineUpTo place)).getLast?).bind (·.origin) := by
  rw [lookup_eq_bind, mapping?_eq_getLast? ordered, traces, List.filter_map, List.getLast?_map]
  simp only [Function.comp_def]
  cases (map.mappings.filter (·.generated.isInLineUpTo place)).getLast? <;> rfl

/-- The traces on the line of a place are those of one part if those of the others stand above or
below. -/
theorem filter_between
    {above traces below : List Trace}
    (earlier : ∀ trace ∈ above, trace.generated.line < place.line)
    (later : ∀ trace ∈ below, place.line < trace.generated.line) :
    (above ++ traces ++ below).filter (·.generated.isInLineUpTo place) =
      traces.filter (·.generated.isInLineUpTo place) := by
  have noneAbove : above.filter (·.generated.isInLineUpTo place) = [] :=
    List.filter_eq_nil_iff.mpr fun trace present => Bool.eq_false_iff.mp
      (Position.isInLineUpTo_eq_false (Nat.ne_of_lt (earlier trace present)))
  have noneBelow : below.filter (·.generated.isInLineUpTo place) = [] :=
    List.filter_eq_nil_iff.mpr fun trace present => Bool.eq_false_iff.mp
      (Position.isInLineUpTo_eq_false (Nat.ne_of_gt (later trace present)))
  rw [List.filter_append, List.filter_append, noneAbove, noneBelow, List.nil_append,
    List.append_nil]

/-- A map looks a place up as another one does whose traces stand further up. -/
theorem lookup_down
    {offset : Nat}
    {above below : List Trace}
    (sound : map.IsSound)
    (otherSound : other.IsSound)
    (traces : map.traces = above ++ other.traces.map (·.down offset) ++ below)
    (earlier : ∀ trace ∈ above, trace.generated.line < offset)
    (later : ∀ trace ∈ below, place.line + offset < trace.generated.line) :
    map.lookup (place.down offset) = other.lookup place := by
  have same : (fun trace : Trace => trace.generated.isInLineUpTo (place.down offset)) ∘
      Trace.down offset = fun trace => trace.generated.isInLineUpTo place :=
    funext fun trace => Position.isInLineUpTo_down offset
  have within : ∀ trace ∈ above, trace.generated.line < (place.down offset).line :=
    fun trace present => Nat.lt_of_lt_of_le (earlier trace present) (Nat.le_add_left _ _)
  rw [lookup_eq_traces sound.ordered, lookup_eq_traces otherSound.ordered, traces,
    filter_between within later, List.filter_map, List.getLast?_map, same]
  cases (other.traces.filter (·.generated.isInLineUpTo place)).getLast? <;> rfl

/-! ### Sources -/

section WithSource

variable (map : PositionMap) (name : String) (content : Option String)

@[simp] theorem mappings_withSource : (map.withSource name content).1.mappings = map.mappings := by
  unfold withSource
  split <;> rfl

/-- The sources keep their numbers. -/
theorem sources_prefix_withSource :
    map.sources <+: (map.withSource name content).1.sources := by
  unfold withSource
  split
  · exact List.prefix_refl _
  · exact List.prefix_append _ _

/-- The source is listed under its number. -/
theorem getElem?_withSource :
    (map.withSource name content).1.sources[(map.withSource name content).2]? = some name := by
  unfold withSource
  split
  · next index found =>
      obtain ⟨inside, same, _⟩ := List.findIdx?_eq_some_iff_getElem.mp found
      rw [List.getElem?_eq_getElem inside]
      exact congrArg some (by simpa using same)
  · simp

theorem contents_withSource
    (complete : map.contents.length = map.sources.length) :
    (map.withSource name content).1.contents.length =
      (map.withSource name content).1.sources.length := by
  unfold withSource
  split
  · exact complete
  · simp [complete]

end WithSource

/-- Put a mapping to a place of a named source behind the others. -/
def put (map : PositionMap) (generated : Position) (origin : SourcePosition)
    (content : Option String) : PositionMap :=
  let listed := map.withSource origin.source content
  { listed.1 with mappings := listed.1.mappings ++ [⟨generated, listed.2, origin.position⟩] }

/-- The traces of a map stay if its sources keep their numbers. -/
theorem origin?_of_extended
    {mapping : Mapping}
    (kept : map.sources <+: other.sources)
    (listed : mapping.source < map.sources.length) :
    other.origin? mapping = map.origin? mapping := by
  obtain ⟨more, equal⟩ := kept
  rw [origin?, origin?, ← equal, List.getElem?_append_left listed]

/-- What is put behind a map is its last trace. -/
theorem traces_put
    {generated : Position}
    {origin : SourcePosition}
    {content : Option String}
    (complete : map.IsComplete) :
    (map.put generated origin content).traces = map.traces ++ [⟨generated, some origin⟩] := by
  have listed := getElem?_withSource map origin.source content
  have kept : map.sources <+: (map.put generated origin content).sources :=
    sources_prefix_withSource map origin.source content
  unfold traces
  rw [show (map.put generated origin content).mappings = map.mappings ++
    [⟨generated, (map.withSource origin.source content).2, origin.position⟩] by simp [put]]
  rw [List.map_append, List.map_cons, List.map_nil]
  congr 1
  · exact List.map_congr_left fun mapping present => by
      rw [origin?_of_extended kept (complete.listed mapping present)]
  · simp only [origin?, put, listed, Option.map_some]

theorem IsComplete.put
    (complete : map.IsComplete)
    (generated : Position)
    (origin : SourcePosition)
    (content : Option String) :
    (map.put generated origin content).IsComplete := by
  constructor
  · intro mapping present
    rw [show (map.put generated origin content).mappings = map.mappings ++
      [⟨generated, (map.withSource origin.source content).2, origin.position⟩] by
        simp [PositionMap.put]] at present
    rcases List.mem_append.mp present with old | new
    · exact Nat.lt_of_lt_of_le (complete.listed mapping old)
        (sources_prefix_withSource map origin.source content).length_le
    · rw [List.mem_singleton.mp new]
      exact (List.getElem?_eq_some_iff.mp (getElem?_withSource map origin.source content)).1
  · exact contents_withSource map origin.source content complete.contents

theorem isComplete_empty : empty.IsComplete := ⟨by simp [empty], rfl⟩

/-! ### Maps from maps -/

/-- Putting several mappings behind a map one after the other, or none for some. -/
theorem foldl_put
    (step : PositionMap → Mapping → PositionMap)
    (found : Mapping → Option (Position × SourcePosition))
    {mappings : List Mapping}
    (steps : ∀ map mapping, mapping ∈ mappings →
      match found mapping with
      | some (generated, origin) => ∃ content, step map mapping = map.put generated origin content
      | none => step map mapping = map)
    (complete : map.IsComplete) :
    (mappings.foldl step map).IsComplete ∧
      (mappings.foldl step map).traces = map.traces ++
        mappings.filterMap fun mapping =>
          (found mapping).map fun entry => ⟨entry.1, some entry.2⟩ := by
  induction mappings generalizing map with
  | nil => exact ⟨complete, by simp⟩
  | cons mapping rest inductionHypothesis =>
      have onward : ∀ map mapping, mapping ∈ rest → _ := fun map mapping present =>
        steps map mapping (List.mem_cons_of_mem _ present)
      have here := steps map mapping List.mem_cons_self
      rw [List.foldl_cons, List.filterMap_cons]
      cases target : found mapping with
      | none =>
          rw [target] at here
          rw [show step map mapping = map from here]
          exact inductionHypothesis onward complete
      | some entry =>
          simp only [target] at here
          obtain ⟨content, equal⟩ := here
          rw [equal]
          obtain ⟨kept, traces⟩ :=
            inductionHypothesis onward (complete.put entry.1 entry.2 content)
          refine ⟨kept, ?_⟩
          rw [traces, traces_put complete, List.append_assoc]
          rfl

/-- A map that is carried over keeps the mappings whose origins the earlier map can look up. -/
theorem compose_spec
    (map earlier : PositionMap) :
    (map.compose earlier).IsComplete ∧
      (map.compose earlier).traces = map.mappings.filterMap fun mapping =>
        (earlier.lookup mapping.origin).map fun origin => ⟨mapping.generated, some origin⟩ := by
  have blank : IsComplete { empty with file := map.file } := ⟨by simp [empty], rfl⟩
  have folded := foldl_put (composeMapping earlier)
    (fun mapping => (earlier.lookup mapping.origin).map fun origin => (mapping.generated, origin))
    (?_ : ∀ composed mapping, mapping ∈ map.mappings → _) blank
  · refine ⟨folded.1, folded.2.trans ?_⟩
    simp [traces, empty, Option.map_map, Function.comp_def]
  · intro composed mapping _
    unfold composeMapping
    cases earlier.lookup mapping.origin with
    | none => rfl
    | some origin => exact ⟨_, rfl⟩

/-- Order is a matter of traces. -/
theorem pairwise_iff_traces
    (related : Position → Position → Prop) :
    (map.mappings.Pairwise fun first second => related first.generated second.generated) ↔
      map.traces.Pairwise fun first second => related first.generated second.generated := by
  rw [traces, List.pairwise_map]

/-- A map that is carried over keeps the order of its mappings, whatever the earlier map is. -/
theorem pairwise_compose
    (related : Position → Position → Prop)
    (ordered : map.mappings.Pairwise fun first second =>
      related first.generated second.generated)
    (earlier : PositionMap) :
    (map.compose earlier).mappings.Pairwise fun first second =>
      related first.generated second.generated := by
  rw [pairwise_iff_traces, (compose_spec map earlier).2, List.pairwise_filterMap]
  refine ordered.imp fun inOrder first isFirst second isSecond => ?_
  obtain ⟨_, _, rfl⟩ := Option.map_eq_some_iff.mp isFirst
  obtain ⟨_, _, rfl⟩ := Option.map_eq_some_iff.mp isSecond
  exact inOrder

/-- A map that is carried over is sound if it was in order, whatever the earlier map is. -/
theorem isSound_compose
    (sound : map.IsSound)
    (earlier : PositionMap) :
    (map.compose earlier).IsSound :=
  ⟨(compose_spec map earlier).1, pairwise_compose _ sound.ascending earlier⟩

/-- The mappings of another map are put behind those of a map some lines further down. -/
theorem foldl_appendFrom
    (complete : map.IsComplete)
    (listed : ∀ mapping ∈ other.mappings, mapping.source < other.sources.length)
    (offset : Nat) :
    (other.mappings.foldl (appendFrom other offset) map).IsComplete ∧
      (other.mappings.foldl (appendFrom other offset) map).traces =
        map.traces ++ other.traces.map (·.down offset) := by
  have folded := foldl_put (appendFrom other offset)
    (fun mapping =>
      (other.origin? mapping).map fun origin => (mapping.generated.down offset, origin))
    (?_ : ∀ joined mapping, mapping ∈ other.mappings → _) complete
  · have moved : (other.mappings.filterMap fun mapping =>
        (((other.origin? mapping).map fun origin =>
          (mapping.generated.down offset, origin)).map fun entry =>
            (⟨entry.1, some entry.2⟩ : Trace))) = other.traces.map (·.down offset) := by
      rw [traces, List.map_map, ← List.filterMap_eq_map]
      refine List.filterMap_congr fun mapping present => ?_
      simp [origin?, List.getElem?_eq_getElem (listed mapping present), Trace.down]
    rwa [moved] at folded
  · intro joined mapping present
    have inside := listed mapping present
    simp only [origin?, List.getElem?_eq_getElem inside, Option.map_some]
    refine ⟨(other.contents[mapping.source]?).getD none, ?_⟩
    simp only [appendFrom, put, List.getElem?_eq_getElem inside, Option.getD_some]
    rfl

/-- A map that is put behind another one, below all its mappings, adds its traces some lines further
down. -/
theorem append_spec
    {offset : Nat}
    (sound : map.IsSound)
    (otherSound : other.IsSound)
    (above : ∀ mapping ∈ map.mappings, mapping.generated.line < offset) :
    (map.append other offset).IsSound ∧
      (map.append other offset).traces = map.traces ++ other.traces.map (·.down offset) := by
  have folded := foldl_appendFrom sound.toIsComplete otherSound.listed offset
  have ascending : ((other.mappings.foldl (appendFrom other offset) map).mappings.Pairwise
      fun first second => first.generated.Before second.generated) := by
    rw [pairwise_iff_traces, folded.2, List.pairwise_append]
    refine ⟨(pairwise_iff_traces _).mp sound.ascending, ?_, ?_⟩
    · rw [List.pairwise_map]
      exact ((pairwise_iff_traces _).mp otherSound.ascending).imp fun before => before.down offset
    · intro first isFirst second isSecond
      obtain ⟨mapping, present, rfl⟩ := List.mem_map.mp isFirst
      obtain ⟨trace, _, rfl⟩ := List.mem_map.mp isSecond
      exact Or.inl (Nat.lt_of_lt_of_le (above mapping present) (Nat.le_add_left _ _))
  have sorted : map.append other offset = other.mappings.foldl (appendFrom other offset) map := by
    simp only [append, List.mergeSort_of_pairwise (ascending.imp Mapping.isUpTo_of_before)]
  rw [sorted]
  exact ⟨⟨folded.1, ascending⟩, folded.2⟩

end PositionMap
end MessageExpansion
