import MessageExpansion.PositionMap.Document
import MessageExpansion.Proofs.Command.Merging
import MessageExpansion.Proofs.Json.Record
import MessageExpansion.Proofs.Json.Spelling
import MessageExpansion.Proofs.PositionMap.Mappings

/-!
# Reading maps that were written

The document of a sound map is read as this map: the name of the generated file, the sources with
their texts, and the mappings.  The maps of inlined and of merged scripts are sound.
-/

namespace MessageExpansion
namespace PositionMap

/-! ### The document -/

/-- The texts of the sources that a document lists: all of them, or none if none is known. -/
def listedContents (map : PositionMap) : List (Option String) :=
  if map.contents.any Option.isSome then map.contents else []

/-- The members of the document of a map. -/
def members (map : PositionMap) : List (String × Json) :=
  [("version", .number "3")] ++
    (match map.file with
      | some file => [("file", .text file)]
      | none => []) ++
    [("sources", .array (map.sources.map .text))] ++
    (if map.contents.any Option.isSome then
      [("sourcesContent", .array (map.contents.map optionalText))]
    else []) ++
    [("names", .array []), ("mappings", .text (String.ofList (encodeMappings map.mappings)))]

theorem toJson_eq
    (map : PositionMap) :
    map.toJson = .ofMembers map.members :=
  rfl

theorem names_sublist
    (map : PositionMap) :
    (map.members.map (·.1)).Sublist fieldNames := by
  unfold members fieldNames
  cases map.file <;> by_cases known : map.contents.any Option.isSome <;> simp [known]

theorem asOptionalText?_optionalText
    (text : Option String) :
    Json.asOptionalText? (optionalText text) = some text := by
  cases text <;> rfl

/-- The fields of a document are those of its map. -/
theorem ofJson?_toJson
    (map : PositionMap) :
    Document.ofJson? map.toJson =
      some ⟨3, map.file, map.sources, map.listedContents,
        String.ofList (encodeMappings map.mappings)⟩ := by
  have distinct : fieldNames.Nodup := by decide
  have fields : Json.fields? fieldNames map.toJson = some map.members := by
    rw [toJson_eq]
    refine Json.fields?_ofMembers (fun member present => ?_) (distinct.sublist map.names_sublist)
    exact map.names_sublist.subset (List.mem_map_of_mem present)
  have version : Json.asNatural? UInt32.size (.number "3") = some 3 := by decide
  have sources : Json.asList? Json.asText? (.array (map.sources.map .text)) = some map.sources :=
    Json.asList?_map map.sources fun _ => rfl
  have contents : Json.asList? Json.asOptionalText? (.array (map.contents.map optionalText)) =
      some map.contents :=
    Json.asList?_map map.contents asOptionalText?_optionalText
  have names : Json.asList? Json.asText? (.array []) = some [] := rfl
  unfold Document.ofJson?
  rw [fields]
  unfold members listedContents
  cases file : map.file <;> by_cases known : map.contents.any Option.isSome <;>
    simp [Json.required?, Json.withDefault?, Json.field?, Json.asText?, Json.asOptionalText?,
      Json.text, known, version, sources, contents, names]

/-- The texts of the sources are those that are listed, filled up with unknown ones. -/
theorem resize_listedContents
    {map : PositionMap}
    (complete : map.contents.length = map.sources.length) :
    resize map.sources.length map.listedContents = map.contents := by
  unfold resize listedContents
  split
  · rw [List.take_of_length_le (Nat.le_of_eq complete), complete, Nat.sub_self]
    simp
  · next unknown =>
      have allUnknown : ∀ content ∈ map.contents, content = none := by
        intro content present
        rw [List.any_eq_true] at unknown
        exact Option.not_isSome_iff_eq_none.mp fun isKnown => unknown ⟨content, present, isKnown⟩
      rw [List.take_nil, List.nil_append, List.length_nil, Nat.sub_zero, ← complete]
      exact (List.eq_replicate_iff.mpr ⟨rfl, allUnknown⟩).symm

/-- What is printed of a map spells its document. -/
theorem spells_print
    (map : PositionMap) :
    Json.Spells map.toJson map.print.toList := by
  have digit : Json.IsNumeral ['3'] :=
    ⟨List.cons_ne_nil _ _, List.forall_mem_singleton.mpr rfl, by simp⟩
  have three : Json.Spells (.number "3") (Json.number "3").compact.toList := by
    rw [Json.compact]
    exact .numeral digit
  have text (value : String) : Json.Spells (.text value) (Json.text value).compact.toList := by
    rw [Json.text, Json.compact]
    exact .string value
  have optional (value : Option String) :
      Json.Spells (optionalText value) (optionalText value).compact.toList := by
    cases value with
    | none =>
        rw [optionalText, Json.compact]
        exact .null
    | some value => exact text value
  have sources : Json.Spells (.array (map.sources.map .text))
      (Json.array (map.sources.map .text)).compact.toList :=
    Json.spells_compact_array (List.forall_mem_map.mpr fun value _ => text value)
  have contents : Json.Spells (.array (map.contents.map optionalText))
      (Json.array (map.contents.map optionalText)).compact.toList :=
    Json.spells_compact_array (List.forall_mem_map.mpr fun value _ => optional value)
  have names : Json.Spells (.array []) (Json.array []).compact.toList :=
    Json.spells_compact_array (List.forall_mem_nil _)
  rw [print, toJson_eq]
  refine Json.spells_compact_ofMembers ?_
  unfold members
  cases map.file <;> by_cases known : map.contents.any Option.isSome <;>
    simp [known, three, text, sources, contents, names]

/-- The document of a sound map whose mappings have 32-bit fields is read as the map, and the maps
of inlined and of merged scripts are sound. -/
theorem parse_print :
    (∀ map : PositionMap, map.IsSound → (∀ mapping ∈ map.mappings, mapping.Fits) →
      parse map.print = .ok map) ∧
    (∀ (inlining : Inlining) (inputMap : Option PositionMap) (first : Nat) (result : InlinedScript),
      (inlining.run inputMap first).result = .ok result → result.map.IsSound) ∧
    ∀ files, InlineCommand.Inlined files → (InlineCommand.merge files).map.IsSound := by
  refine ⟨fun map sound fits => ?_, fun _ _ _ _ succeeds => (Inlining.isSound_of_run succeeds).1,
    fun _ inlined => (InlineCommand.isSound_merge inlined.isSound).map⟩
  have decoded := decodeMappings_encodeMappings fits sound.ascending
  have inRange : map.mappings.find? (fun mapping => decide (map.sources.length ≤ mapping.source)) =
      none := by
    rw [List.find?_eq_none]
    intro mapping present
    simpa using sound.listed mapping present
  have read := Json.read?_of_spells map.spells_print
  simp only [parse, read, ofJson?_toJson, ofDocument, String.toList_ofList, decoded, inRange,
    resize_listedContents sound.contents]
  rfl

/-- A map of three lines into two sources, the text of one of which is known; and the map of an
inlined script, by itself and merged. -/
theorem parse_print_two_sources :
    let map : PositionMap := ⟨some "out.js", ["a.js", "\"b\".js"], [none, some "x\n\x01"],
      [⟨⟨0, 0⟩, 1, ⟨3, 7⟩⟩, ⟨⟨0, 4⟩, 0, ⟨0, 0⟩⟩, ⟨⟨2, 1⟩, 0, ⟨4294967295, 5⟩⟩]⟩
    map.print = "\x7b\"version\":3,\"file\":\"out.js\",\"sources\":[\"a.js\",\"\\\"b\\\".js\"]," ++
        "\"sourcesContent\":[null,\"x\\n\\u0001\"],\"names\":[]," ++
        "\"mappings\":\"ACGO,IDHP;;CA+/////HK\"\x7d" ∧
      parse map.print = .ok map ∧
      ∃ result, ((Inlining.unlocalized "t('a')").run none 1).result = .ok result ∧
        result.text = "\"a\"".toList ∧ result.map.IsSound ∧
        (InlineCommand.merge [⟨"a.js", none, result⟩]).map.IsSound := by
  intro map
  have sound : map.IsSound := by
    refine ⟨⟨by decide, rfl⟩, ?_⟩
    simp [map, Text.Position.Before]
  have fits : ∀ mapping ∈ map.mappings, mapping.Fits := by
    unfold Mapping.Fits
    decide
  have known : ((Inlining.unlocalized "t('a')").run none 1).result.toOption.map (·.text) =
      some "\"a\"".toList := by
    decide +kernel
  obtain ⟨result, succeeds, text⟩ := Inlining.exists_ok known
  have inlined : InlineCommand.Inlined [⟨"a.js", none, result⟩] :=
    List.forall_mem_singleton.mpr ⟨_, none, 1, succeeds⟩
  exact ⟨by decide +kernel, parse_print.1 map sound fits, result, succeeds, text,
    parse_print.2.1 _ none 1 result succeeds, parse_print.2.2 _ inlined⟩

end PositionMap
end MessageExpansion
