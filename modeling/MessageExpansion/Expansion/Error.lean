import MessageExpansion.Catalog
import MessageExpansion.Location
import MessageExpansion.Pattern.SyntaxError

/-!
# Errors of expansion

Why the calls of a script cannot be expanded or extracted, and how that is said.
-/

namespace MessageExpansion

/-- A localization that is not a pattern. -/
structure BrokenLocalization where
  /-- The call that it is for. -/
  location : Location
  /-- Its locale. -/
  locale : String
  /-- Its text. -/
  text : String
  /-- What is wrong with it. -/
  error : PatternSyntaxError

/-- The reasons why a script is given up. -/
inductive ExpansionError where
  /-- The script in a file does not follow its grammar. -/
  | unparsed (file : String)
  /-- The pattern of a call is none. -/
  | patternSyntax (location : Location) (pattern : String) (error : PatternSyntaxError)
  | localizationSyntax (localization : BrokenLocalization)
  /-- The catalog cannot answer for a call. -/
  | catalog (location : Location) (error : CatalogError)
  /-- The functions made for the script in a file do not follow its grammar. -/
  | generatedCode (file : String)

/-- What is wrong with a localization, in words. -/
def BrokenLocalization.describe (localization : BrokenLocalization) : String :=
  localization.location.describe ++ ": invalid " ++ localization.locale ++ " translation " ++
    Text.quoted localization.text

/-- What is said when the pattern of the call is used in place of its localization. -/
def BrokenLocalization.warning (localization : BrokenLocalization) : String :=
  localization.describe ++ " (" ++ localization.error.describe ++ "), using the original pattern"

/-- The error in words; the words for a script that does not follow its grammar end early. -/
def ExpansionError.message : ExpansionError → String
  | unparsed file => file ++ ": failed to parse source"
  | patternSyntax location pattern error =>
      location.describe ++ ": invalid message pattern " ++ Text.quoted pattern ++ ": " ++
        error.describe
  | localizationSyntax localization => localization.describe ++ ": " ++ localization.error.describe
  | catalog location error => location.describe ++ ": " ++ error.message
  | generatedCode file => file ++ ": generated code failed to parse"

end MessageExpansion
