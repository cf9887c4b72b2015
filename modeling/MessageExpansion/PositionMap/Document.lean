import MessageExpansion.Json.Parser
import MessageExpansion.Json.Printer
import MessageExpansion.Json.Record
import MessageExpansion.PositionMap.Mappings
import MessageExpansion.Text.Quoted

/-!
# Position maps as documents

The JSON document of a position map, in version 3 of the format that browsers read, and the comment
that attaches a map to a script.
-/

namespace MessageExpansion

/-- The reasons why a text is not the document of a position map. -/
inductive PositionMapError where
  /-- The text is not JSON, or lacks the fields of a map. -/
  | notJson
  /-- The document follows another version of the format. -/
  | unsupportedVersion (version : Nat)
  /-- The mappings make no sense. -/
  | invalidMappings (problem : MappingsProblem)
deriving DecidableEq, Repr

/-- The problem in words. -/
def MappingsProblem.message : MappingsProblem → String
  | invalidCharacter c => "invalid character " ++ Text.quotedChar c
  | numberTooLarge => "VLQ value too large"
  | truncatedNumber => "truncated VLQ value"
  | fieldCount count => "segment with " ++ toString count ++ " fields"
  | negativePosition => "negative position"
  | sourceOutOfRange index => "source index " ++ toString index ++ " out of range"

/-- The error in words. -/
def PositionMapError.message : PositionMapError → String
  | notJson => "invalid source map JSON"
  | unsupportedVersion version => "unsupported source map version " ++ toString version
  | invalidMappings problem => "invalid source map mappings: " ++ problem.message

namespace PositionMap

/-- The fields of a document, in order. -/
def fieldNames : List String :=
  ["version", "file", "sources", "sourcesContent", "names", "mappings"]

/-- A text, or `null`. -/
def optionalText : Option String → Json
  | some value => .text value
  | none => .null

/-- The document of a map; texts of the sources are listed if one is known. -/
def toJson (map : PositionMap) : Json :=
  .ofMembers (
    [("version", .number "3")] ++
    (match map.file with
      | some file => [("file", .text file)]
      | none => []) ++
    [("sources", .array (map.sources.map .text))] ++
    (if map.contents.any Option.isSome then
      [("sourcesContent", .array (map.contents.map optionalText))]
    else []) ++
    [("names", .array []), ("mappings", .text (String.ofList (encodeMappings map.mappings)))])

/-- The text of the document of a map. -/
def print (map : PositionMap) : String := map.toJson.compact

/-- The fields of a document before they are checked. -/
structure Document where
  version : Nat
  file : Option String
  sources : List String
  contents : List (Option String)
  mappings : String

/-- The fields of a JSON value. -/
def Document.ofJson? (json : Json) : Option Document :=
  match Json.fields? fieldNames json with
  | none => none
  | some fields =>
      match Json.required? (Json.asNatural? UInt32.size) fields "version",
        Json.withDefault? Json.asOptionalText? none fields "file",
        Json.withDefault? (Json.asList? Json.asText?) [] fields "sources",
        Json.withDefault?
          (fun
            | .null => some []
            | value => Json.asList? Json.asOptionalText? value) [] fields "sourcesContent",
        Json.withDefault? (Json.asList? Json.asText?) [] fields "names",
        Json.required? Json.asText? fields "mappings" with
      | some version, some file, some sources, some contents, some _, some mappings =>
          some ⟨version, file, sources, contents, mappings⟩
      | _, _, _, _, _, _ => none

/-- A list cut or filled up with `none` to a length. -/
def resize (length : Nat) (contents : List (Option String)) : List (Option String) :=
  contents.take length ++ List.replicate (length - contents.length) none

/-- Check the fields of a document. -/
def ofDocument (document : Document) : Except PositionMapError PositionMap :=
  if document.version ≠ 3 then .error (.unsupportedVersion document.version)
  else
    match decodeMappings document.mappings.toList with
    | .error problem => .error (.invalidMappings problem)
    | .ok mappings =>
        match mappings.find? fun mapping => document.sources.length ≤ mapping.source with
        | some mapping => .error (.invalidMappings (.sourceOutOfRange mapping.source))
        | none =>
            .ok ⟨document.file, document.sources,
              resize document.sources.length document.contents, mappings⟩

/-- Read the document of a map. -/
def parse (document : String) : Except PositionMapError PositionMap :=
  match Json.read? document with
  | none => .error .notJson
  | some json =>
      match Document.ofJson? json with
      | none => .error .notJson
      | some document => ofDocument document

/-- The comment that tells where the map of a script is found. -/
def urlComment (url : String) : String := "//# sourceMappingURL=" ++ url ++ "\n"

/-- The address that holds the whole document of a map. -/
def dataUrl (map : PositionMap) : String :=
  "data:application/json;charset=utf-8;base64," ++
    String.ofList (Text.Base64.encode map.print.toUTF8.toList)

end PositionMap
end MessageExpansion
