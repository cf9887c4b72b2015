import MessageExpansion.BinarySearch
import MessageExpansion.Text.Lines

/-!
# Position maps

A position map says for places in a generated text which places of which source they come from.
A place without a mapping of its own belongs to the closest mapping before it on its line.
-/

namespace MessageExpansion

open Text (Position)

/-- One generated place and the place it comes from. -/
structure Mapping where
  /-- The place in the generated text. -/
  generated : Position
  /-- The number of the source in the map's list of sources. -/
  source : Nat
  /-- The place in the source. -/
  origin : Position
deriving DecidableEq, Repr

/-- The fields of a mapping in the order of their weight. -/
def Mapping.fields (mapping : Mapping) : List Nat :=
  [mapping.generated.line, mapping.generated.column, mapping.source, mapping.origin.line,
    mapping.origin.column]

/-- The first row is no greater than the second: of the first fields in which they differ, its own
is the smaller one, or it ends before. -/
def isRowUpTo : List Nat → List Nat → Bool
  | [], _ => true
  | _ :: _, [] => false
  | first :: more, second :: others => first < second || (first == second && isRowUpTo more others)

/-- The first mapping is no greater than the second, field by field. -/
def Mapping.isUpTo (first second : Mapping) : Bool := isRowUpTo first.fields second.fields

/-- A map from the places of a generated text to places of its sources. -/
structure PositionMap where
  /-- The name of the generated file. -/
  file : Option String
  /-- The names of the sources. -/
  sources : List String
  /-- The texts of the sources, as far as they are known. -/
  contents : List (Option String)
  /-- The mappings. -/
  mappings : List Mapping
deriving DecidableEq, Repr

/-- A place of a named source. -/
structure SourcePosition where
  /-- The name of the source. -/
  source : String
  /-- The place in it. -/
  position : Position
deriving DecidableEq, Repr

namespace PositionMap

/-- The map without sources. -/
def empty : PositionMap := ⟨none, [], [], []⟩

/-- The map without mappings for a text that comes from one source. -/
def ofSource (source : String) (content : Option String) : PositionMap :=
  ⟨none, [source], [content], []⟩

/-- Put a mapping behind the others; it replaces the last one if that is for the same place. -/
def appendMapping (mappings : List Mapping) (mapping : Mapping) : List Mapping :=
  match mappings.getLast? with
  | some last =>
      if last.generated = mapping.generated then mappings.dropLast ++ [mapping]
      else mappings ++ [mapping]
  | none => [mapping]

/-- Record where a place comes from in the first source. -/
def add (map : PositionMap) (generated origin : Position) : PositionMap :=
  { map with mappings := appendMapping map.mappings ⟨generated, 0, origin⟩ }

/-- The mapping that a generated place belongs to. -/
def mapping? (map : PositionMap) (place : Position) : Option Mapping :=
  match partitionPoint (fun mapping => mapping.generated.isUpTo place) map.mappings with
  | 0 => none
  | last + 1 =>
      match map.mappings[last]? with
      | some mapping => if mapping.generated.line = place.line then some mapping else none
      | none => none

/-- The place that a generated place comes from. -/
def lookup (map : PositionMap) (place : Position) : Option SourcePosition :=
  match map.mapping? place with
  | some mapping => (map.sources[mapping.source]?).map (⟨·, mapping.origin⟩)
  | none => none

/-- The number of a source. -/
def sourceIndex? (map : PositionMap) (name : String) : Option Nat :=
  map.sources.findIdx? (· == name)

/-- The text of the first source of a name. -/
def contentOf? (map : PositionMap) (name : String) : Option String :=
  match map.sourceIndex? name with
  | some index => (map.contents[index]?).getD none
  | none => none

/-- The map with a source listed, and the number of that source. -/
def withSource (map : PositionMap) (name : String) (content : Option String) :
    PositionMap × Nat :=
  match map.sourceIndex? name with
  | some index => (map, index)
  | none =>
      ({ map with sources := map.sources ++ [name], contents := map.contents ++ [content] },
        map.sources.length)

/-- Carry a mapping over to places of an earlier text; nothing is added if there are none. -/
def composeMapping (earlier : PositionMap) (composed : PositionMap) (mapping : Mapping) :
    PositionMap :=
  match earlier.lookup mapping.origin with
  | none => composed
  | some found =>
      let (composed, index) :=
        composed.withSource found.source (earlier.contentOf? found.source)
      { composed with
        mappings := composed.mappings ++ [⟨mapping.generated, index, found.position⟩] }

/-- The map into the sources of `earlier`, which maps the source of this map. -/
def compose (map earlier : PositionMap) : PositionMap :=
  map.mappings.foldl (composeMapping earlier) { empty with file := map.file }

/-- Put a mapping of another map behind the mappings, `offset` lines further down. -/
def appendFrom (other : PositionMap) (offset : Nat) (map : PositionMap) (mapping : Mapping) :
    PositionMap :=
  let name := (other.sources[mapping.source]?).getD ""
  let content := (other.contents[mapping.source]?).getD none
  let (map, index) := map.withSource name content
  let generated : Position := ⟨mapping.generated.line + offset, mapping.generated.column⟩
  { map with mappings := map.mappings ++ [⟨generated, index, mapping.origin⟩] }

/-- The map of a text behind which another text was put, `offset` lines further down. -/
def append (map other : PositionMap) (offset : Nat) : PositionMap :=
  let joined := other.mappings.foldl (appendFrom other offset) map
  { joined with mappings := joined.mappings.mergeSort Mapping.isUpTo }

end PositionMap
end MessageExpansion
