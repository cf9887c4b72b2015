import MessageExpansion.PositionMap.Document
import MessageExpansion.Proofs.PositionMap.RunningSums

/-!
# Documents that are read

A document is checked field by field.  Its mappings are the running sums of what it spells, as far
as these are 32-bit numbers; other sums are cut down before they are checked, so that a number out
of range may pass as another one.
-/

namespace MessageExpansion
namespace PositionMap

/-! ### Documents -/

deriving instance DecidableEq for Document

/-- The text is JSON that has the fields of a document. -/
def IsDocument (text : String) (document : Document) : Prop :=
  (Json.read? text).bind Document.ofJson? = some document

instance (text : String) (document : Document) : Decidable (IsDocument text document) :=
  inferInstanceAs (Decidable (_ = _))

/-- The fields of a document are those of a map if they follow version 3, its mappings are read, and
all sources that the mappings name are listed. -/
theorem ofDocument_eq_ok_iff
    {document : Document}
    {map : PositionMap} :
    ofDocument document = .ok map ↔
      document.version = 3 ∧ ∃ mappings, decodeMappings document.mappings.toList = .ok mappings ∧
        (∀ mapping ∈ mappings, mapping.source < document.sources.length) ∧
        map = ⟨document.file, document.sources,
          resize document.sources.length document.contents, mappings⟩ := by
  unfold ofDocument
  by_cases version : document.version = 3
  · rw [if_neg (not_not_intro version)]
    cases decodeMappings document.mappings.toList with
    | error problem => simp
    | ok mappings =>
        simp only
        cases found : mappings.find? fun mapping => document.sources.length ≤ mapping.source with
        | some mapping =>
            have beyond := List.find?_some found
            simp only [decide_eq_true_eq] at beyond
            simp only [reduceCtorEq, Except.ok.injEq, exists_eq_left', false_iff, not_and]
            intro _ listed
            exact absurd (listed mapping (List.mem_of_find?_eq_some found)) (Nat.not_lt.mpr beyond)
        | none =>
            rw [List.find?_eq_none] at found
            simp only [decide_eq_true_eq, Nat.not_le] at found
            simpa [version, eq_comm] using fun _ => found
  · simp [version]

/-- A text is read if it is a document whose fields are those of a map. -/
theorem parse_eq_ok_iff
    {text : String}
    {map : PositionMap} :
    parse text = .ok map ↔ ∃ document, IsDocument text document ∧ ofDocument document = .ok map := by
  unfold parse IsDocument
  cases Json.read? text with
  | none => simp
  | some json =>
      cases found : Document.ofJson? json with
      | none => simp [found]
      | some document => simp [found]

/-- What is read of a document is exact up to multiples of 2³².

Only rows of numbers of at most thirteen digits are read, one, four or five to a segment.  The
mappings have the low 32 bits of the running sums, and these name listed sources; so they are the
running sums if these are 32-bit numbers, and only then.  A document with numbers of at most twelve
digits is read if it follows version 3, its segments have one, four or five fields, no running sum
of a mapping is negative as a 64-bit word, and the low 32 bits name listed sources, and only
then. -/
theorem parse_lowBits
    (text : String) :
    (∀ map, parse text = .ok map →
      ∃ document, IsDocument text document ∧ map.sources = document.sources ∧
        (∃ whole, SpellsSegments 13 document.mappings.toList whole) ∧
        ∀ whole, SpellsSegments 13 document.mappings.toList whole →
          (∀ segment ∈ whole, segment.HasFields) ∧
            map.mappings.Perm ((exactMappings whole).map ExactMapping.low) ∧
            (∀ row ∈ exactMappings whole, row.low.source < map.sources.length) ∧
            ((map.mappings.map Mapping.toExact).Perm (exactMappings whole) ↔
              ∀ row ∈ exactMappings whole, row.Fits)) ∧
      ∀ document whole, IsDocument text document →
        SpellsSegments 12 document.mappings.toList whole →
          ((∃ map, parse text = .ok map) ↔
            document.version = 3 ∧ (∀ segment ∈ whole, segment.HasFields) ∧
              ∀ row ∈ exactMappings whole,
                row.NotNegative ∧ row.low.source < document.sources.length) := by
  refine ⟨fun map succeeds => ?_, fun document whole isDocument spelled => ?_⟩
  · obtain ⟨document, isDocument, checked⟩ := parse_eq_ok_iff.mp succeeds
    obtain ⟨_, mappings, read, listed, rfl⟩ := ofDocument_eq_ok_iff.mp checked
    refine ⟨document, isDocument, rfl, exists_spellsSegments read, fun whole spelled => ?_⟩
    obtain ⟨fields, low⟩ := perm_of_decodeMappings spelled read
    exact ⟨fields, low, (ExactMapping.forall_low_iff low _).mp listed,
      ExactMapping.perm_toExact_iff low⟩
  · have reads := exists_decodeMappings_iff spelled
    have sources {mappings : List Mapping}
        (read : decodeMappings document.mappings.toList = .ok mappings) :=
      ExactMapping.forall_low_iff (perm_of_decodeMappings (spelled.mono (by decide)) read).2
        (·.source < document.sources.length)
    constructor
    · rintro ⟨map, succeeds⟩
      obtain ⟨other, isOther, checked⟩ := parse_eq_ok_iff.mp succeeds
      obtain rfl : document = other := Option.some.inj (isDocument.symm.trans isOther)
      obtain ⟨version, mappings, read, listed, _⟩ := ofDocument_eq_ok_iff.mp checked
      obtain ⟨fields, natural⟩ := reads.mp ⟨mappings, read⟩
      exact ⟨version, fields, fun row present =>
        ⟨natural row present, (sources read).mp listed row present⟩⟩
    · rintro ⟨version, fields, rows⟩
      obtain ⟨mappings, read⟩ := reads.mpr ⟨fields, fun row present => (rows row present).1⟩
      have listed := (sources read).mpr fun row present => (rows row present).2
      exact ⟨_, parse_eq_ok_iff.mpr ⟨document, isDocument, ofDocument_eq_ok_iff.mpr
        ⟨version, mappings, read, listed, rfl⟩⟩⟩

/-- Two segments on one line and one on the next: the generated column starts again there, and the
other sums go on. -/
theorem parse_lowBits_two_lines :
    let text := "\x7b\"version\":3,\"sources\":[\"a\",\"b\"],\"mappings\":\"D,IACGI;ECAD\"\x7d"
    let document : Document := ⟨3, none, ["a", "b"], [], "D,IACGI;ECAD"⟩
    let whole : List LineSegment := [⟨0, [-1]⟩, ⟨0, [4, 0, 1, 3, 4]⟩, ⟨1, [2, 1, 0, -1]⟩]
    IsDocument text document ∧
      SpellsSegments 12 document.mappings.toList whole ∧
      exactMappings whole = [⟨0, 3, 0, 1, 3⟩, ⟨1, 2, 1, 1, 2⟩] ∧
      ∃ map, parse text = .ok map ∧
        (map.mappings.map Mapping.toExact).Perm [⟨0, 3, 0, 1, 3⟩, ⟨1, 2, 1, 1, 2⟩] ∧
        map.mappings.Perm
          (([⟨0, 3, 0, 1, 3⟩, ⟨1, 2, 1, 1, 2⟩] : List ExactMapping).map ExactMapping.low) := by
  intro text document whole
  have isDocument : IsDocument text document := by decide +kernel
  have row (written : String) (numbers : List Int)
      (same : written.toList = numbers.flatMap encodeNumber)
      (short : ∀ number ∈ numbers, (encodeNumber number).length ≤ 12) :
      SpellsNumbers 12 written.toList numbers := same ▸ spellsNumbers_flatMap short
  have first := row "D" [-1] (by decide +kernel) (by decide +kernel)
  have second := row "IACGI" [4, 0, 1, 3, 4] (by decide +kernel) (by decide +kernel)
  have third := row "ECAD" [2, 1, 0, -1] (by decide +kernel) (by decide +kernel)
  have below : HoldsFrom (SpellsNumbers 12) 1 ["ECAD".toList] ([⟨1, [2, 1, 0, -1]⟩] ++ []) :=
    .cons (by decide) (.cons third .nil) .nil
  have lines : HoldsFrom (SpellsNumbers 12) 0 ["D,IACGI".toList, "ECAD".toList]
      ([⟨0, [-1]⟩, ⟨0, [4, 0, 1, 3, 4]⟩] ++ [⟨1, [2, 1, 0, -1]⟩]) :=
    .cons (by decide) (.cons first (.cons second .nil)) below
  have spelled : SpellsSegments 12 "D,IACGI;ECAD".toList whole := lines
  have sums : exactMappings whole = [⟨0, 3, 0, 1, 3⟩, ⟨1, 2, 1, 1, 2⟩] := by decide
  have fields : ∀ segment ∈ whole, segment.HasFields := by
    unfold LineSegment.HasFields
    decide
  have fits : ∀ row ∈ exactMappings whole, row.Fits := by
    rw [sums]
    refine List.forall_mem_cons.mpr ⟨?_, List.forall_mem_singleton.mpr ?_⟩
    all_goals
      exact ⟨by decide, by decide, by decide, by decide, by decide⟩
  have listed : ∀ row ∈ exactMappings whole, row.low.source < document.sources.length := by
    rw [sums]
    decide
  obtain ⟨map, read⟩ := ((parse_lowBits text).2 document whole isDocument spelled).mpr
    ⟨rfl, fields, fun row present => ⟨(fits row present).notNegative, listed row present⟩⟩
  obtain ⟨other, isOther, _, _, lowBits⟩ := (parse_lowBits text).1 map read
  obtain rfl : document = other := Option.some.inj (isDocument.symm.trans isOther)
  obtain ⟨_, low, _, same⟩ := lowBits whole (spelled.mono (by decide))
  exact ⟨isDocument, spelled, sums, map, read, sums ▸ same.mpr fits, sums ▸ low⟩

/-- A source that is 2³² behind the only listed one is read as this one: its number is cut down to
32 bits before it is compared with the number of sources. -/
theorem parse_lowBits_beyond :
    let text := "\x7b\"version\":3,\"sources\":[\"a\"],\"mappings\":\"AggggggIAA\"\x7d"
    let document : Document := ⟨3, none, ["a"], [], "AggggggIAA"⟩
    let whole : List LineSegment := [⟨0, [0, 4294967296, 0, 0]⟩]
    IsDocument text document ∧
      SpellsSegments 12 document.mappings.toList whole ∧
      exactMappings whole = [⟨0, 0, 4294967296, 0, 0⟩] ∧
      parse text = .ok ⟨none, ["a"], [none], [⟨⟨0, 0⟩, 0, ⟨0, 0⟩⟩]⟩ := by
  intro text document whole
  have written : "AggggggIAA".toList = [0, 4294967296, 0, 0].flatMap encodeNumber := by
    decide +kernel
  have numbers : SpellsNumbers 12 "AggggggIAA".toList [0, 4294967296, 0, 0] :=
    written ▸ spellsNumbers_flatMap (by decide +kernel)
  have lines : HoldsFrom (SpellsNumbers 12) 0 ["AggggggIAA".toList] (whole ++ []) :=
    .cons (by decide) (.cons numbers .nil) .nil
  have spelled : SpellsSegments 12 "AggggggIAA".toList whole := lines
  exact ⟨by decide +kernel, spelled, by decide, by decide +kernel⟩

end PositionMap
end MessageExpansion
