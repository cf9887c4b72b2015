import MessageExpansion.Json.Parser
import MessageExpansion.Json.Printer
import MessageExpansion.SortedMap
import MessageExpansion.Text.Quoted

/-!
# Catalogs

A catalog holds patterns by locale and key.  Extraction writes one, and inlining and linting look
localizations up in one.  This module also says how a catalog is spelled in JSON.
-/

namespace MessageExpansion

/-- Patterns by key, for every locale. -/
abbrev Catalog := SortedMap (SortedMap String)

/-- The reasons why no pattern can be looked up. -/
inductive CatalogError where
  /-- The catalog file cannot be read. -/
  | unreadable (path : String)
  /-- The catalog file is not JSON. -/
  | notJson (path : String)
  /-- What the catalog file holds under `locale` is no map from keys to patterns. -/
  | misshapen (path locale : String)
  /-- The strategy leaves nothing of the pattern. -/
  | keyless (pattern : String)
deriving DecidableEq, Repr

/-- The error in words. -/
def CatalogError.message : CatalogError → String
  | unreadable path => "failed to read catalog " ++ path
  | notJson path => "failed to parse catalog " ++ path
  | misshapen path locale =>
      "catalog " ++ path ++ ": locale " ++ Text.quoted locale ++ " must map keys to strings"
  | keyless pattern => "cannot derive a catalog key for " ++ Text.quoted pattern

namespace Catalog

/-- The catalog without entries. -/
def empty : Catalog := SortedMap.empty

/-- The entries of a locale. -/
def localeEntries (catalog : Catalog) (locale : String) : SortedMap String :=
  (catalog.get? locale).getD SortedMap.empty

/-- The catalog with one more pattern; it replaces one under the same locale and key. -/
def insertPattern (catalog : Catalog) (locale key pattern : String) : Catalog :=
  catalog.insert locale ((catalog.localeEntries locale).insert key pattern)

/-- The pattern under a locale and key. -/
def pattern? (catalog : Catalog) (locale key : String) : Option String :=
  (catalog.get? locale).bind (·.get? key)

/-- The number of patterns of all locales. -/
def patternCount (catalog : Catalog) : Nat :=
  catalog.entries.foldr (fun entry count => entry.2.size + count) 0

/-- The catalog with the patterns of another added; of two patterns under one key that of the
other is kept. -/
def merge (catalog other : Catalog) : Catalog :=
  other.entries.foldl
    (fun merged entry =>
      merged.insert entry.1 ((merged.localeEntries entry.1).insertAll entry.2.entries))
    catalog

/-- The catalog as a JSON value: an object of objects, in order. -/
def toJson (catalog : Catalog) : Json :=
  .ofMembers (catalog.entries.map fun (locale, patterns) =>
    (locale, .ofMembers (patterns.entries.map fun (key, pattern) => (key, .text pattern))))

/-- The spelling of a catalog in a file. -/
def print (catalog : Catalog) : String := catalog.toJson.pretty

/-- Insert the patterns of one locale, given as the members of an object. -/
def insertMembers (path locale : String) (catalog : Catalog) :
    List (String × Json) → Except CatalogError Catalog
  | [] => .ok catalog
  | (key, .string (some pattern)) :: rest =>
      insertMembers path locale (catalog.insertPattern locale key pattern) rest
  | _ => .error (.misshapen path locale)

/-- Insert the patterns of locales, given as the members of an object. -/
def insertLocales (path : String) (catalog : Catalog) :
    List (String × Json) → Except CatalogError Catalog
  | [] => .ok catalog
  | (locale, .object members) :: rest =>
      match insertMembers path locale catalog (Json.distinctMembers members) with
      | .ok catalog => insertLocales path catalog rest
      | .error error => .error error
  | (locale, _) :: _ => .error (.misshapen path locale)

/-- Read a catalog from the content of the file at `path`. -/
def parse (content path : String) : Except CatalogError Catalog :=
  match Json.readSound? content with
  | none => .error (.notJson path)
  | some (.object members) => insertLocales path empty (Json.distinctMembers members)
  | some _ => .error (.misshapen path "")

end Catalog
end MessageExpansion
