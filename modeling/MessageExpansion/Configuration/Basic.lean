import MessageExpansion.Glob.Basic
import MessageExpansion.Json.Parser
import MessageExpansion.Json.Printer
import MessageExpansion.Json.Record
import MessageExpansion.Path
import MessageExpansion.Session

/-!
# Configurations

Settings that a project keeps in a file, for what the command line does not say.  The file holds a
JSON object; settings that it leaves out have their usual values.
-/

namespace MessageExpansion

/-- The settings of a project. -/
structure Configuration where
  /-- The function whose calls are expanded. -/
  function : String
  /-- The locale of calls that name none. -/
  locale : String
  /-- How patterns are filed in catalogs. -/
  keys : KeyStrategy
  /-- The path of the catalog with localizations, from the directory of the file. -/
  catalog : Option String
  /-- Patterns for paths that are not searched for scripts. -/
  ignores : List String
  /-- What happens to calls whose localization is not a pattern. -/
  policy : LocalizationPolicy
deriving DecidableEq, Repr

/-- What is wrong with the settings of a project. -/
inductive ConfigurationProblem where
  | emptyFunction
  /-- A pattern for what is ignored is none. -/
  | invalidIgnore (pattern : String)
deriving DecidableEq, Repr

/-- The problem in words. -/
def ConfigurationProblem.message : ConfigurationProblem → String
  | emptyFunction => "'functionName' must not be empty"
  | invalidIgnore pattern => "Invalid glob pattern in 'ignores': \"" ++ pattern ++ "\""

namespace Configuration

/-- The usual settings. -/
def default : Configuration :=
  ⟨"format", "en", .underscoredHash, none, ["**/node_modules/**"], .fallback⟩

/-- The names of the settings in a file. -/
def fieldNames : List String :=
  ["functionName", "locale", "keyType", "translations", "ignores", "onInvalidTranslation"]

/-- The settings as a JSON value. -/
def toJson (configuration : Configuration) : Json :=
  .ofMembers
    ([("functionName", .text configuration.function), ("locale", .text configuration.locale),
        ("keyType", .text configuration.keys.name)] ++
      (configuration.catalog.map fun path => ("translations", Json.text path)).toList ++
      [("ignores", .array (configuration.ignores.map Json.text)),
        ("onInvalidTranslation", .text configuration.policy.name)])

/-- The spelling of the settings in a file. -/
def print (configuration : Configuration) : String := configuration.toJson.pretty

/-- A name out of a fixed set, which may stand as the only member of an object. -/
def asName? {α : Type} (ofName? : String → Option α) : Json → Option α
  | .string (some name) => ofName? name
  | .object [(some name, .null)] => ofName? name
  | _ => none

/-- The settings that a JSON value holds. -/
def ofJson? (json : Json) : Option Configuration := do
  let fields ← Json.fields? fieldNames json
  return {
    function := ← Json.withDefault? Json.asText? default.function fields "functionName"
    locale := ← Json.withDefault? Json.asText? default.locale fields "locale"
    keys := ← Json.withDefault? (asName? KeyStrategy.ofName?) default.keys fields "keyType"
    catalog := ← Json.withDefault? Json.asOptionalText? none fields "translations"
    ignores := ← Json.withDefault? (Json.asList? Json.asText?) default.ignores fields "ignores"
    policy :=
      ← Json.withDefault? (asName? LocalizationPolicy.ofName?) default.policy fields
        "onInvalidTranslation" }

/-- Read the settings in the content of a file. -/
def parse? (content : String) : Option Configuration := (Json.read? content).bind ofJson?

/-- What is wrong with the settings, if something is. -/
def problem? (configuration : Configuration) : Option ConfigurationProblem :=
  if configuration.function.isEmpty then some .emptyFunction
  else
    (configuration.ignores.find? fun pattern => (Glob.parse? pattern).isNone).map
      .invalidIgnore

/-- The path of the catalog, for settings from the file at a path if there is one. -/
def catalogPath? (configuration : Configuration) (file : Option String) : Option String :=
  configuration.catalog.map (Path.join ((file.bind Path.parent?).getD ""))

end Configuration
end MessageExpansion
