/-!
# Errors in the spelling of patterns

What can be wrong with a pattern, where it went wrong, and how that is said.
-/

namespace MessageExpansion

/-- What stands where something else was expected. -/
abbrev Found := Option Char

/-- The character found, or that the pattern has ended. -/
def Found.describe : Found → String
  | some c => "\"" ++ String.singleton c ++ "\""
  | none => "end of input"

/-- The reasons why a text is not a pattern. -/
inductive PatternProblem where
  /-- A closing brace without an opening one. -/
  | unexpected (c : Char)
  /-- A certain character is missing. -/
  | expected (wanted : Char) (found : Found)
  | expectedArgumentName (found : Found)
  | expectedArgumentType (found : Found)
  | expectedStyle (found : Found)
  | expectedSelectKey (found : Found)
  | unknownArgumentType (word : String)
  /-- A style that arguments of the type `type` do not have. -/
  | unknownStyle (type word : String)
  | invalidPluralOffset (word : String)
  | invalidExactSelector (word : String)
  | invalidPluralCategory (word : String)
  /-- A plural or select on `name` has no option for the remaining cases. -/
  | missingOther (choice name : String)

/-- The problem in words. -/
def PatternProblem.message : PatternProblem → String
  | unexpected c => "unexpected \"" ++ String.singleton c ++ "\""
  | expected wanted found =>
      "expected \"" ++ String.singleton wanted ++ "\" but found " ++ found.describe
  | expectedArgumentName found => "expected argument name but found " ++ found.describe
  | expectedArgumentType found => "expected argument type but found " ++ found.describe
  | expectedStyle found => "expected style but found " ++ found.describe
  | expectedSelectKey found => "expected select key but found " ++ found.describe
  | unknownArgumentType word => "unknown argument type \"" ++ word ++ "\""
  | unknownStyle type word => "unknown " ++ type ++ " style \"" ++ word ++ "\""
  | invalidPluralOffset word => "invalid plural offset \"" ++ word ++ "\""
  | invalidExactSelector word => "invalid plural selector \"=" ++ word ++ "\""
  | invalidPluralCategory word => "invalid plural category \"" ++ word ++ "\""
  | missingOther choice name =>
      "missing \"other\" option in " ++ choice ++ " \"" ++ name ++ "\""

/-- A text is not a pattern. -/
structure PatternSyntaxError where
  /-- What is wrong. -/
  problem : PatternProblem
  /-- Where, in bytes from the start of the pattern. -/
  offset : Nat

/-- The problem and its place in words. -/
def PatternSyntaxError.describe (error : PatternSyntaxError) : String :=
  error.problem.message ++ " (at offset " ++ toString error.offset ++ ")"

end MessageExpansion
