import MessageExpansion.Text.Lines
import MessageExpansion.Text.Width

/-!
# Locations

Places in files as they are shown to people: lines and columns count from one, and columns follow
the width of the characters on the screen.
-/

namespace MessageExpansion

/-- A place in a file. -/
structure Location where
  /-- The path of the file. -/
  file : String
  /-- The number of the line, from one. -/
  line : Nat
  /-- The number of the column, from one. -/
  column : Nat
deriving DecidableEq, Repr

/-- The spelling of a location. -/
def Location.describe (location : Location) : String :=
  location.file ++ ":" ++ toString location.line ++ ":" ++ toString location.column

/-- A place in a file with the line that it stands in. -/
structure Excerpt where
  /-- The place. -/
  location : Location
  /-- The text of the line. -/
  line : String
deriving DecidableEq, Repr

namespace Excerpt

/-- The columns that a character of a script counts for: its width, and one more if it takes two
16-bit units.  A tab is four wide, and other control characters are not shown. -/
def columns (c : Char) : Nat :=
  if c = '\t' then 4 else Text.charWidth 0 c + (Text.charUnits c - 1)

/-- The text from the start of a line to the next line feed; a carriage return belongs to it. -/
def lineText (text : List Char) : String := String.ofList (text.takeWhile (· != '\n'))

/--
The excerpt `bytes` behind the start of a text.  The text stands in line number `line`, `width`
columns behind the start of that line, and `lineStart` is the text from there on.  A line ends at a
line feed, a carriage return, or both together.
-/
def after (file : String) (line width : Nat) (lineStart : List Char) :
    (bytes : Nat) → List Char → Excerpt
  | _, [] => ⟨⟨file, line, width + 1⟩, lineText lineStart⟩
  | 0, _ => ⟨⟨file, line, width + 1⟩, lineText lineStart⟩
  | bytes + 1, '\r' :: '\n' :: rest => after file (line + 1) 0 rest (bytes - 1) rest
  | bytes + 1, c :: rest =>
      if c = '\n' ∨ c = '\r' then after file (line + 1) 0 rest bytes rest
      else after file line (width + columns c) lineStart (bytes + 1 - c.utf8Size) rest

/-- The excerpt of a script at a byte offset; a mark of the byte order takes no column. -/
def ofOffset (file : String) (script : List Char) (offset : Nat) : Excerpt :=
  match script with
  | '\ufeff' :: rest => after file 1 0 rest (offset - '\ufeff'.utf8Size) rest
  | _ => after file 1 0 script offset script

end Excerpt
end MessageExpansion
