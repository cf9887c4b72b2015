import MessageExpansion.PositionMap.Basic
import MessageExpansion.Text.Base64

/-!
# The spelling of mappings

Mappings are written as differences.  Lines are separated by semicolons and segments by commas; the
fields of a segment are signed numbers in base 32 digits of Base64, least significant digit first,
each with a bit that says whether more follow.

Numbers are read as 64-bit words: sums wrap around, and positions keep the low 32 bits of a sum
that is not negative.
-/

namespace MessageExpansion

/-- The reasons why a text does not spell mappings. -/
inductive MappingsProblem where
  /-- A byte that is no digit, as the character of its code. -/
  | invalidCharacter (c : Char)
  | numberTooLarge
  | truncatedNumber
  | fieldCount (count : Nat)
  | negativePosition
  /-- A mapping names a source that is not listed. -/
  | sourceOutOfRange (index : Nat)
deriving DecidableEq, Repr

namespace PositionMap

open Text (Position)

/-! ### Numbers -/

/-- The sign of a number becomes its lowest bit. -/
def foldSign (number : Int) : Nat :=
  match number with
  | .ofNat value => 2 * value
  | .negSucc value => 2 * (value + 1) + 1

/-- The digits of a number, least significant first. -/
def encodeDigits (value : Nat) : List Char :=
  if value < 32 then [Text.Base64.digit value]
  else Text.Base64.digit (value % 32 + 32) :: encodeDigits (value / 32)
termination_by value
decreasing_by omega

/-- The digits of a signed number. -/
def encodeNumber (number : Int) : List Char := encodeDigits (foldSign number)

/-- The 64-bit word with the same low bits. -/
def word64 (number : Int) : Int := number.bmod UInt64.size

/-- The number whose sign stands in the lowest bit of a word. -/
def unfoldSign (word : Int) : Int :=
  if word % 2 = 1 then -(word / 2) else word / 2

/-- The first byte of a character, as the character of its code. -/
def leadByte (c : Char) : Char :=
  match c.utf8Size with
  | 1 => c
  | 2 => Char.ofNat (0xC0 + c.toNat / 0x40)
  | 3 => Char.ofNat (0xE0 + c.toNat / 0x1000)
  | _ => Char.ofNat (0xF0 + c.toNat / 0x40000)

/--
The numbers of a segment.  `value` holds the digits of the current number so far and `shift` the
number of bits they cover.
-/
def decodeNumbers (value shift : Nat) : List Char → Except MappingsProblem (List Int)
  | [] => if shift = 0 then .ok [] else .error .truncatedNumber
  | c :: rest =>
      match Text.Base64.value? c with
      | none => .error (.invalidCharacter (leadByte c))
      | some digit =>
          let value := value + digit % 32 * 2 ^ shift
          if 32 ≤ digit then
            if 60 < shift + 5 then .error .numberTooLarge
            else decodeNumbers value (shift + 5) rest
          else
            match decodeNumbers 0 0 rest with
            | .ok numbers => .ok (unfoldSign (word64 value) :: numbers)
            | .error problem => .error problem

/-! ### Writing -/

/-- The fields that differences are taken from. -/
structure Previous where
  /-- The line being written. -/
  line : Nat
  /-- The generated column of the previous mapping of the line. -/
  column : Nat
  /-- The source of the previous mapping. -/
  source : Nat
  /-- The place in the source of the previous mapping. -/
  origin : Position
  /-- No mapping of the line was written yet. -/
  isFirst : Bool

/-- Before the first mapping all fields are zero. -/
def Previous.initial : Previous := ⟨0, 0, 0, .start, true⟩

/-- The differences between a mapping and the one before it. -/
def encodeSegment (previous : Previous) (mapping : Mapping) : List Char :=
  encodeNumber (mapping.generated.column - previous.column) ++
    encodeNumber (mapping.source - previous.source) ++
    encodeNumber (mapping.origin.line - previous.origin.line) ++
    encodeNumber (mapping.origin.column - previous.origin.column)

/-- Move on to the line of a mapping; a new line starts at column zero. -/
def Previous.toLine (previous : Previous) (line : Nat) : Previous :=
  if previous.line < line then { previous with line, column := 0, isFirst := true } else previous

/-- The spelling of mappings that follow others. -/
def encodeFrom (previous : Previous) : List Mapping → List Char
  | [] => []
  | mapping :: rest =>
      let breaks := List.replicate (mapping.generated.line - previous.line) ';'
      let moved := previous.toLine mapping.generated.line
      let separator := if moved.isFirst then [] else [',']
      breaks ++ separator ++ encodeSegment moved mapping ++
        encodeFrom
          ⟨moved.line, mapping.generated.column, mapping.source, mapping.origin, false⟩ rest

/-- The spelling of mappings. -/
def encodeMappings (mappings : List Mapping) : List Char := encodeFrom .initial mappings

/-! ### Reading -/

/-- The running sums of the fields, apart from the generated column. -/
structure Sums where
  source : Int
  line : Int
  column : Int

/-- The low 32 bits of a number. -/
def word32 (number : Int) : Nat := (number % UInt32.size).toNat

/-- The mapping of a segment, if its fields name one: generated column, sums, mapping. -/
def decodeSegment (line : Nat) (column : Int) (sums : Sums) (numbers : List Int) :
    Except MappingsProblem (Int × Sums × List Mapping) :=
  match numbers with
  | [step] => .ok (word64 (column + step), sums, [])
  | step :: source :: originLine :: originColumn :: extra =>
      if 1 < extra.length then .error (.fieldCount numbers.length)
      else
        let column := word64 (column + step)
        let sums : Sums :=
          ⟨word64 (sums.source + source), word64 (sums.line + originLine),
            word64 (sums.column + originColumn)⟩
        if column < 0 ∨ sums.source < 0 ∨ sums.line < 0 ∨ sums.column < 0 then
          .error .negativePosition
        else
          .ok (column, sums,
            [⟨⟨word32 line, word32 column⟩, word32 sums.source,
              ⟨word32 sums.line, word32 sums.column⟩⟩])
  | _ => .error (.fieldCount numbers.length)

/-- The mappings of the segments of one line, and the sums after them. -/
def decodeLine (line : Nat) (column : Int) (sums : Sums) :
    List (List Char) → Except MappingsProblem (List Mapping × Sums)
  | [] => .ok ([], sums)
  | segment :: rest =>
      match decodeNumbers 0 0 segment with
      | .error problem => .error problem
      | .ok numbers =>
          match decodeSegment line column sums numbers with
          | .error problem => .error problem
          | .ok (column, sums, mappings) =>
              match decodeLine line column sums rest with
              | .error problem => .error problem
              | .ok (more, sums) => .ok (mappings ++ more, sums)

/-- A text cut at every separator. -/
def splitAt (separator : Char) : List Char → List (List Char)
  | [] => [[]]
  | c :: rest =>
      if c = separator then [] :: splitAt separator rest
      else
        match splitAt separator rest with
        | first :: more => (c :: first) :: more
        | [] => [[c]]

/-- The mappings of lines from `line` on. -/
def decodeLines (line : Nat) (sums : Sums) :
    List (List Char) → Except MappingsProblem (List Mapping)
  | [] => .ok []
  | text :: rest =>
      match decodeLine line 0 sums ((splitAt ',' text).filter fun segment => !segment.isEmpty) with
      | .error problem => .error problem
      | .ok (mappings, sums) =>
          match decodeLines (line + 1) sums rest with
          | .error problem => .error problem
          | .ok more => .ok (mappings ++ more)

/-- The mappings that a text spells, in order. -/
def decodeMappings (text : List Char) : Except MappingsProblem (List Mapping) :=
  match decodeLines 0 ⟨0, 0, 0⟩ (splitAt ';' text) with
  | .error problem => .error problem
  | .ok mappings => .ok (mappings.mergeSort Mapping.isUpTo)

end PositionMap
end MessageExpansion
