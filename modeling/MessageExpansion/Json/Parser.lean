import MessageExpansion.Json.Basic
import MessageExpansion.Text.Reading
import MessageExpansion.Text.Surrogates

/-!
# Reading JSON

The grammar of JSON documents.  Blanks, numbers and escapes are exactly those of the format; there
are no comments and no trailing commas.
-/

namespace MessageExpansion
namespace Json

open Text (Reading hexUnit? joinSurrogates)

/-- The blanks of JSON. -/
def isSpace (c : Char) : Bool := c == ' ' || c == '\n' || c == '\t' || c == '\r'

/-- The text without the blanks it starts with. -/
def skipSpace (input : List Char) : List Char := input.dropWhile isSpace

/-- Skipping blanks never lengthens a text. -/
theorem length_skipSpace_le (input : List Char) : (skipSpace input).length ≤ input.length :=
  (List.dropWhile_sublist isSpace).length_le

/-- The character that a one-letter escape stands for. -/
def shortEscape? : Char → Option Nat
  | '"' => some 0x22
  | '\\' => some 0x5C
  | '/' => some 0x2F
  | 'b' => some 0x8
  | 'f' => some 0xC
  | 'n' => some 0xA
  | 'r' => some 0xD
  | 't' => some 0x9
  | _ => none

/-- Put a code point in front of those that were read. -/
def consPoint (point : Nat) :
    Option (List Nat × List Char) → Option (List Nat × List Char)
  | some (points, rest) => some (point :: points, rest)
  | none => none

/--
The code points of a string after its opening quote, and what follows its closing quote.  An escape
may give one half of a surrogate pair.
-/
def stringPoints : List Char → Option (List Nat × List Char)
  | [] => none
  | '"' :: rest => some ([], rest)
  | '\\' :: 'u' :: a :: b :: c :: d :: rest =>
      match hexUnit? a b c d with
      | some point => consPoint point (stringPoints rest)
      | none => none
  | '\\' :: c :: rest =>
      match shortEscape? c with
      | some point => consPoint point (stringPoints rest)
      | none => none
  | c :: rest =>
      if c.toNat < 0x20 ∨ c = '\\' then none else consPoint c.toNat (stringPoints rest)

/-- Reading code points uses up at least the closing quote. -/
theorem length_stringPoints_lt {input : List Char} {points : List Nat} {rest : List Char}
    (read : stringPoints input = some (points, rest)) : rest.length < input.length := by
  fun_induction stringPoints input generalizing points rest with
  | case1 => simp at read
  | case2 tail =>
      simp only [Option.some.injEq, Prod.mk.injEq] at read
      simp [read.2]
  | case3 a b c d tail point hex ih =>
      match inner : stringPoints tail with
      | none => simp [consPoint, inner] at read
      | some (more, left) =>
          simp only [consPoint, inner, Option.some.injEq, Prod.mk.injEq] at read
          have fewer := ih inner
          simp only [List.length_cons, ← read.2]
          omega
  | case4 => simp at read
  | case5 c tail _ point escape ih =>
      match inner : stringPoints tail with
      | none => simp [consPoint, inner] at read
      | some (more, left) =>
          simp only [consPoint, inner, Option.some.injEq, Prod.mk.injEq] at read
          have fewer := ih inner
          simp only [List.length_cons, ← read.2]
          omega
  | case6 => simp at read
  | case7 => simp at read
  | case8 c tail _ _ _ _ ih =>
      match inner : stringPoints tail with
      | none => simp [consPoint, inner] at read
      | some (more, left) =>
          simp only [consPoint, inner, Option.some.injEq, Prod.mk.injEq] at read
          have fewer := ih inner
          simp only [List.length_cons, ← read.2]
          omega

/-- Read a string after its opening quote. -/
def stringBody (input : List Char) : Option (Reading input.length (Option String)) :=
  match read : stringPoints input with
  | some (points, rest) =>
      some ⟨(joinSurrogates points).map String.ofList, rest, length_stringPoints_lt read⟩
  | none => none

/-- A text split after the digits it starts with. -/
def spanDigits (input : List Char) : List Char × List Char :=
  (input.takeWhile Char.isDigit, input.dropWhile Char.isDigit)

/-- The integral part of a number: digits without a leading zero. -/
def integralPart (input : List Char) : Option (List Char × List Char) :=
  match spanDigits input with
  | ([], _) => none
  | (['0'], rest) => some (['0'], rest)
  | ('0' :: _, _) => none
  | (digits, rest) => some (digits, rest)

/-- The fractional part of a number, if a point announces one. -/
def fractionPart (input : List Char) : Option (List Char × List Char) :=
  match input with
  | '.' :: rest =>
      match spanDigits rest with
      | ([], _) => none
      | (digits, rest) => some ('.' :: digits, rest)
  | other => some ([], other)

/-- The sign of an exponent, if it has one. -/
def exponentSign (input : List Char) : List Char × List Char :=
  match input with
  | '+' :: rest => (['+'], rest)
  | '-' :: rest => (['-'], rest)
  | other => ([], other)

/-- The exponent of a number, if a letter announces one. -/
def exponentPart (input : List Char) : Option (List Char × List Char) :=
  match input with
  | [] => some ([], [])
  | c :: rest =>
      if c = 'e' ∨ c = 'E' then
        match spanDigits (exponentSign rest).2 with
        | ([], _) => none
        | (digits, after) => some (c :: (exponentSign rest).1 ++ digits, after)
      else some ([], c :: rest)

/-- A number without its sign, and what follows it. -/
def unsignedNumber (input : List Char) : Option (List Char × List Char) :=
  match integralPart input with
  | none => none
  | some (integral, rest) =>
      match fractionPart rest with
      | none => none
      | some (fraction, rest) =>
          match exponentPart rest with
          | none => none
          | some (exponent, rest) => some (integral ++ fraction ++ exponent, rest)

/-- A number, and what follows it. -/
def numberLiteral (input : List Char) : Option (List Char × List Char) :=
  match input with
  | '-' :: rest =>
      match unsignedNumber rest with
      | some (literal, after) => some ('-' :: literal, after)
      | none => none
  | other => unsignedNumber other

/-- Read a fixed word. -/
def keyword (name : String) (value : Json) (input : List Char) :
    Option (Reading input.length Json) :=
  if name.toList.isPrefixOf input then
    if h : (input.drop name.toList.length).length < input.length then
      some ⟨value, input.drop name.toList.length, h⟩
    else none
  else none

/-- Read a number. -/
def numberValue (input : List Char) : Option (Reading input.length Json) :=
  match numberLiteral input with
  | some (literal, rest) =>
      if h : rest.length < input.length then some ⟨.number (String.ofList literal), rest, h⟩
      else none
  | none => none

mutual

/-- Read a value that starts with the first character of the text. -/
def value (input : List Char) : Option (Reading input.length Json) :=
  match input with
  | [] => none
  | '"' :: rest =>
      match stringBody rest with
      | some ⟨text, after, shorter⟩ => some ⟨.string text, after, by simp; omega⟩
      | none => none
  | '[' :: rest =>
      have blanks := length_skipSpace_le rest
      match opened : skipSpace rest with
      | ']' :: after =>
          some ⟨.array [], after, by rw [opened] at blanks; simp at blanks ⊢; omega⟩
      | _ =>
          match items (skipSpace rest) with
          | some ⟨values, after, shorter⟩ => some ⟨.array values, after, by simp; omega⟩
          | none => none
  | '\x7b' :: rest =>
      have blanks := length_skipSpace_le rest
      match opened : skipSpace rest with
      | '\x7d' :: after =>
          some ⟨.object [], after, by rw [opened] at blanks; simp at blanks ⊢; omega⟩
      | _ =>
          match members (skipSpace rest) with
          | some ⟨pairs, after, shorter⟩ => some ⟨.object pairs, after, by simp; omega⟩
          | none => none
  | 'n' :: rest => keyword "null" .null ('n' :: rest)
  | 't' :: rest => keyword "true" (.boolean true) ('t' :: rest)
  | 'f' :: rest => keyword "false" (.boolean false) ('f' :: rest)
  | other => numberValue other
termination_by 2 * input.length

/-- Read the items of an array, of which there is at least one, through the bracket. -/
def items (input : List Char) : Option (Reading input.length (List Json)) :=
  match value input with
  | none => none
  | some ⟨first, rest, shorter⟩ =>
      have blanks := length_skipSpace_le rest
      match separated : skipSpace rest with
      | ',' :: after =>
          have gap := length_skipSpace_le after
          have fits : (skipSpace after).length < input.length := by
            rw [separated] at blanks; simp at blanks; omega
          match items (skipSpace after) with
          | some ⟨more, final, fewer⟩ => some ⟨first :: more, final, by omega⟩
          | none => none
      | ']' :: after => some ⟨[first], after, by rw [separated] at blanks; simp at blanks; omega⟩
      | _ => none
termination_by 2 * input.length + 1

/-- Read the members of an object, of which there is at least one, through the brace. -/
def members (input : List Char) :
    Option (Reading input.length (List (Option String × Json))) :=
  match input with
  | '"' :: quoted =>
      match stringBody quoted with
      | none => none
      | some ⟨name, named, shorter⟩ =>
          have blanks := length_skipSpace_le named
          match separated : skipSpace named with
          | ':' :: after =>
              have gap := length_skipSpace_le after
              have fits : (skipSpace after).length < quoted.length := by
                rw [separated] at blanks; simp at blanks; omega
              match value (skipSpace after) with
              | none => none
              | some ⟨first, rest, fewer⟩ =>
                  have trailing := length_skipSpace_le rest
                  match ended : skipSpace rest with
                  | ',' :: next =>
                      have space := length_skipSpace_le next
                      have least : (skipSpace next).length < quoted.length := by
                        rw [ended] at trailing; simp at trailing; omega
                      match members (skipSpace next) with
                      | some ⟨more, final, ends⟩ =>
                          some ⟨(name, first) :: more, final, by simp; omega⟩
                      | none => none
                  | '\x7d' :: final =>
                      some ⟨[(name, first)], final, by
                        rw [ended] at trailing; simp at trailing ⊢; omega⟩
                  | _ => none
          | _ => none
  | _ => none
termination_by 2 * input.length

end

/-- Read a document: one value, with blanks around it. -/
def read? (document : String) : Option Json :=
  match value (skipSpace document.toList) with
  | some ⟨result, rest, _⟩ => if (skipSpace rest).isEmpty then some result else none
  | none => none

/-- Read a document whose value is sound throughout. -/
def readSound? (document : String) : Option Json :=
  match read? document with
  | some result => if result.isSound maxDepth then some result else none
  | none => none

end Json
end MessageExpansion
