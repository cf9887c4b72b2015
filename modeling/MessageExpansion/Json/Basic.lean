/-!
# JSON values

The tree of a JSON document, close to its spelling: numbers keep their literals, objects keep
repeated members.  The escapes of a string may name a lone surrogate, which is no character; such
a string has no text.
-/

namespace MessageExpansion

/-- A JSON value. -/
inductive Json where
  | null
  | boolean (value : Bool)
  | number (literal : String)
  | string (text : Option String)
  | array (items : List Json)
  | object (members : List (Option String × Json))

namespace Json

/-- The string with a text. -/
def text (value : String) : Json := .string (some value)

/-- The object with the members of a list, in order. -/
def ofMembers (members : List (String × Json)) : Json :=
  .object (members.map fun member => (some member.1, member.2))

/-- Put a member into a list; a member of that name keeps its place and changes its value. -/
def putMember (members : List (String × Json)) (name : String) (value : Json) :
    List (String × Json) :=
  if members.any (·.1 == name) then
    members.map fun member => if member.1 == name then (name, value) else member
  else
    members ++ [(name, value)]

/-- The members by name: of repeated ones the first gives the place and the last the value. -/
def distinctMembers (members : List (Option String × Json)) : List (String × Json) :=
  members.foldl (fun found member => putMember found (member.1.getD "") member.2) []

/-- The deepest nesting of arrays and objects that a value may have. -/
def maxDepth : Nat := 127

/-- The digits of a literal's mantissa, and how many of them follow the point. -/
def mantissa : (afterPoint : Bool) → List Char → List Char × Nat
  | _, [] => ([], 0)
  | afterPoint, c :: rest =>
      if c = 'e' ∨ c = 'E' then ([], 0)
      else if c = '.' then mantissa true rest
      else if c.isDigit then
        let (digits, places) := mantissa afterPoint rest
        (c :: digits, if afterPoint then places + 1 else places)
      else mantissa afterPoint rest

/-- The value of a run of digits. -/
def digitsValue (digits : List Char) : Nat :=
  digits.foldl (fun value c => 10 * value + (c.toNat - '0'.toNat)) 0

/-- The exponent that a literal spells out; zero without one. -/
def exponent (literal : List Char) : Int :=
  match literal.dropWhile fun c => c != 'e' && c != 'E' with
  | _ :: '-' :: digits => -(digitsValue digits : Int)
  | _ :: '+' :: digits => digitsValue digits
  | _ :: digits => digitsValue digits
  | [] => 0

/--
The number lies within the range of double precision: it rounds to something below the 1024th
power of two.
-/
def isFinite (literal : String) : Bool :=
  let (digits, places) := mantissa false literal.toList
  let value := digitsValue digits
  let scale := exponent literal.toList - places
  if value = 0 then true
  else if 310 < scale then false
  else if scale < -(digits.length : Int) then true
  else
    let limit := Nat.pow 2 1024 - Nat.pow 2 970
    if 0 ≤ scale then value * Nat.pow 10 scale.toNat < limit
    else value < limit * Nat.pow 10 (-scale).toNat

mutual

/-- The value is made of texts and numbers in range, and nests at most `depth` deep. -/
def isSound (depth : Nat) : Json → Bool
  | .null => true
  | .boolean _ => true
  | .number literal => isFinite literal
  | .string text => text.isSome
  | .array items =>
      match depth with
      | 0 => false
      | depth + 1 => areSound depth items
  | .object members =>
      match depth with
      | 0 => false
      | depth + 1 => membersSound depth members

/-- All items of an array are sound. -/
def areSound (depth : Nat) : List Json → Bool
  | [] => true
  | item :: rest => isSound depth item && areSound depth rest

/-- All members of an object are sound, their names included. -/
def membersSound (depth : Nat) : List (Option String × Json) → Bool
  | [] => true
  | (name, value) :: rest => name.isSome && isSound depth value && membersSound depth rest

end

end Json
end MessageExpansion
