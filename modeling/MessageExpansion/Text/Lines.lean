import MessageExpansion.Text.Bytes

/-!
# Lines and columns

Scripts end their lines at a line feed, a carriage return, both together, or one of the two Unicode
separators.  Positions count lines from zero, and columns in the 16-bit units that editors and
browsers use.
-/

namespace MessageExpansion
namespace Text

/-- A character that ends a line of a script. -/
def isLineTerminator (c : Char) : Bool :=
  c == '\n' || c == '\r' || c == '\u2028' || c == '\u2029'

/-- The byte offsets just past every line terminator; `offset` is that of the text itself. -/
def lineStartsFrom (offset : Nat) : List Char → List Nat
  | [] => []
  | '\r' :: '\n' :: rest => (offset + 2) :: lineStartsFrom (offset + 2) rest
  | c :: rest =>
      if isLineTerminator c then (offset + c.utf8Size) :: lineStartsFrom (offset + c.utf8Size) rest
      else lineStartsFrom (offset + c.utf8Size) rest

/-- The byte offsets at which the second and all later lines of a text begin. -/
def lineStarts (text : List Char) : List Nat := lineStartsFrom 0 text

/-- The text ends with a line terminator. -/
def endsLine (text : List Char) : Bool :=
  match text.getLast? with
  | some c => isLineTerminator c
  | none => false

/-- The text with a line feed at its end; an empty text needs none. -/
def withFinalNewline (text : List Char) : List Char :=
  match text.getLast? with
  | none => text
  | some c => if c = '\n' then text else text ++ ['\n']

/-- The number of 16-bit units of a character. -/
def charUnits (c : Char) : Nat := if c.toNat < 0x10000 then 1 else 2

/-- The number of 16-bit units of a text. -/
def units : List Char → Nat
  | [] => 0
  | c :: rest => charUnits c + units rest

@[simp] theorem units_nil : units [] = 0 := rfl

@[simp] theorem units_cons (c : Char) (rest : List Char) :
    units (c :: rest) = charUnits c + units rest := rfl

/-- Units add up under concatenation. -/
@[simp] theorem units_append (front back : List Char) :
    units (front ++ back) = units front + units back := by
  induction front with
  | nil => simp
  | cons c rest ih => simp [ih, Nat.add_assoc]

/-- A place in a text. -/
structure Position where
  /-- The number of lines before it. -/
  line : Nat
  /-- The number of units before it on its line. -/
  column : Nat
deriving DecidableEq, Repr

namespace Position

/-- The start of a text. -/
def start : Position := ⟨0, 0⟩

/-- The first place comes no later than the second. -/
def isUpTo (first second : Position) : Bool :=
  first.line < second.line || first.line == second.line && first.column ≤ second.column

/-- The place in a text at a byte offset. -/
def ofOffset (text : List Char) (offset : Nat) : Position :=
  let reached := (lineStarts text).takeWhile (· ≤ offset)
  ⟨reached.length, units (slice (reached.getLast?.getD 0) offset text)⟩

/-- The place after a piece of text that begins at a place. -/
def advance (place : Position) (piece : List Char) : Position :=
  let starts := lineStarts piece
  match starts.getLast? with
  | some start => ⟨place.line + starts.length, units (dropBytes start piece)⟩
  | none => ⟨place.line, place.column + units piece⟩

end Position

end Text
end MessageExpansion
