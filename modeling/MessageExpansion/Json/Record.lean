import MessageExpansion.Json.Basic
import MessageExpansion.Text.Decimal

/-!
# Records in JSON

A record with named fields is spelled as an object, in which unknown members do not matter, or as
an array of the fields in order.  This module takes a document apart into the fields of a record
and reads fields of simple types.
-/

namespace MessageExpansion
namespace Json

/-- The known members of an object by name; a repeated one, or a name that is no text, is an
error. -/
def knownMembers (names : List String) :
    List (Option String × Json) → Option (List (String × Json))
  | [] => some []
  | (none, _) :: _ => none
  | (some name, value) :: rest =>
      match knownMembers names rest with
      | none => none
      | some known =>
          if names.contains name then
            if known.any (·.1 == name) then none else some ((name, value) :: known)
          else some known

/-- The fields of a record that are present, by name. -/
def fields? (names : List String) : Json → Option (List (String × Json))
  | .object members => knownMembers names members
  | .array items => if items.length ≤ names.length then some (names.zip items) else none
  | _ => none

/-- The value of a field. -/
def field? (fields : List (String × Json)) (name : String) : Option Json :=
  (fields.find? (·.1 == name)).map (·.2)

/-- The text of a string. -/
def asText? : Json → Option String
  | .string text => text
  | _ => none

/-- The text of a string, or nothing for `null`. -/
def asOptionalText? : Json → Option (Option String)
  | .null => some none
  | .string (some text) => some (some text)
  | _ => none

/-- The items of an array, each read in the same way. -/
def asList? {α : Type} (item : Json → Option α) : Json → Option (List α)
  | .array items => items.mapM item
  | _ => none

/-- A whole number below `limit`, spelled without a fraction and an exponent. -/
def asNatural? (limit : Nat) : Json → Option Nat
  | .number literal =>
      match literal.toList with
      | '+' :: _ => none
      | digits => Text.readUnsigned? limit digits
  | _ => none

/-- A field that has to be there. -/
def required? {α : Type} (read : Json → Option α) (fields : List (String × Json))
    (name : String) : Option α :=
  (field? fields name).bind read

/-- A field that takes the value `missing` when it is not there. -/
def withDefault? {α : Type} (read : Json → Option α) (missing : α)
    (fields : List (String × Json)) (name : String) : Option α :=
  match field? fields name with
  | some value => read value
  | none => some missing

end Json
end MessageExpansion
