import MessageExpansion.Json.Basic
import MessageExpansion.Text.StringLiteral

/-!
# Writing JSON

Two spellings of a value: on one line without blanks, and over several lines with an indent of two
blanks for every level.
-/

namespace MessageExpansion
namespace Json

open Text (stringLiteral)

mutual

/-- The value on one line. -/
def compact : Json → String
  | .null => "null"
  | .boolean value => if value then "true" else "false"
  | .number literal => literal
  | .string text => stringLiteral (text.getD "")
  | .array items => "[" ++ compactItems items ++ "]"
  | .object members => "\x7b" ++ compactMembers members ++ "\x7d"

/-- The items of an array, separated by commas. -/
def compactItems : List Json → String
  | [] => ""
  | [item] => item.compact
  | item :: rest => item.compact ++ "," ++ compactItems rest

/-- The members of an object, separated by commas. -/
def compactMembers : List (Option String × Json) → String
  | [] => ""
  | [(name, value)] => stringLiteral (name.getD "") ++ ":" ++ value.compact
  | (name, value) :: rest =>
      stringLiteral (name.getD "") ++ ":" ++ value.compact ++ "," ++ compactMembers rest

end

/-- A new line, indented to a level. -/
def newLine (level : Nat) : String := "\n" ++ String.ofList (List.replicate (2 * level) ' ')

mutual

/-- The value over several lines; `level` is the depth at which it stands. -/
def prettyAt (level : Nat) : Json → String
  | .null => "null"
  | .boolean value => if value then "true" else "false"
  | .number literal => literal
  | .string text => stringLiteral (text.getD "")
  | .array [] => "[]"
  | .array (item :: rest) =>
      "[" ++ prettyItems (level + 1) (item :: rest) ++ newLine level ++ "]"
  | .object [] => "\x7b\x7d"
  | .object (member :: rest) =>
      "\x7b" ++ prettyMembers (level + 1) (member :: rest) ++ newLine level ++ "\x7d"

/-- The items of an array, each on lines of its own. -/
def prettyItems (level : Nat) : List Json → String
  | [] => ""
  | [item] => newLine level ++ item.prettyAt level
  | item :: rest => newLine level ++ item.prettyAt level ++ "," ++ prettyItems level rest

/-- The members of an object, each on lines of its own. -/
def prettyMembers (level : Nat) : List (Option String × Json) → String
  | [] => ""
  | [(name, value)] =>
      newLine level ++ stringLiteral (name.getD "") ++ ": " ++ value.prettyAt level
  | (name, value) :: rest =>
      newLine level ++ stringLiteral (name.getD "") ++ ": " ++ value.prettyAt level ++ "," ++
        prettyMembers level rest

end

/-- The value over several lines. -/
def pretty (json : Json) : String := json.prettyAt 0

end Json
end MessageExpansion
