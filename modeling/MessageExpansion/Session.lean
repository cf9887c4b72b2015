import MessageExpansion.Catalog
import MessageExpansion.Key

/-!
# Sessions

The settings that all scripts of a run have in common: which function's calls are expanded, for
which locale, and where localizations come from.
-/

namespace MessageExpansion

/-- What happens to a call whose localization is not a pattern. -/
inductive LocalizationPolicy where
  /-- The call's own pattern is used, with a warning. -/
  | fallback
  /-- The script is given up. -/
  | error
deriving DecidableEq, Repr

namespace LocalizationPolicy

/-- The name of a policy on the command line and in configuration files. -/
def name : LocalizationPolicy → String
  | .fallback => "fallback"
  | .error => "error"

/-- The policy of a name. -/
def ofName? (name : String) : Option LocalizationPolicy :=
  [fallback, error].find? (·.name == name)

end LocalizationPolicy

/-- A source of localizations: what it has for a pattern and a locale. -/
abbrev LocalizationLookup := (pattern locale : String) → Except CatalogError (Option String)

/-- The localizations in a catalog, filed under the keys of a strategy. -/
def Catalog.lookup (catalog : Catalog) (keys : KeyStrategy) : LocalizationLookup :=
  fun pattern locale =>
    match keys.key? pattern with
    | some key => .ok (catalog.pattern? locale key)
    | none => .error (.keyless pattern)

/-- The settings of a run. -/
structure Session where
  /-- The function whose calls are expanded. -/
  function : String
  /-- The locale of calls that name none. -/
  locale : String
  /-- How patterns are filed in catalogs. -/
  keys : KeyStrategy
  /-- Where localizations come from, if there are any. -/
  lookup : Option LocalizationLookup
  /-- What happens to calls whose localization is not a pattern. -/
  policy : LocalizationPolicy

/-- What became of the question for a localization. -/
inductive Resolution where
  /-- The session has no localizations. -/
  | unlocalized
  /-- There is no localization for the locale. -/
  | missing
  | localized (text : String)
deriving DecidableEq, Repr

namespace Session

/-- The session without localizations and with the usual names. -/
def default : Session := ⟨"format", "en", .underscoredHash, none, .fallback⟩

/-- The locale of a call: the one it names, unless that is empty. -/
def effectiveLocale (session : Session) (named : Option String) : String :=
  match named with
  | some locale => if locale.isEmpty then session.locale else locale
  | none => session.locale

/-- The localization of a pattern. -/
def resolve (session : Session) (pattern locale : String) : Except CatalogError Resolution :=
  match session.lookup with
  | none => .ok .unlocalized
  | some lookup =>
      match lookup pattern locale with
      | .ok (some text) => .ok (.localized text)
      | .ok none => .ok .missing
      | .error error => .error error

end Session
end MessageExpansion
