import MessageExpansion.Text.RangeTable

/-!
# White space

The characters that separate words, and the words they separate.
-/

namespace MessageExpansion
namespace Text

/-- Code points with the property `White_Space`. -/
def blankRanges : RangeTable := [
  (0x9, 0xD), (0x20, 0x20), (0x85, 0x85), (0xA0, 0xA0), (0x1680, 0x1680), (0x2000, 0x200A),
  (0x2028, 0x2029), (0x202F, 0x202F), (0x205F, 0x205F), (0x3000, 0x3000)]

/-- A character that separates words. -/
def isBlank (c : Char) : Bool := blankRanges.contains c

/-- The text without the blanks it starts with. -/
def skipBlanks (text : List Char) : List Char := text.dropWhile isBlank

/-- Skipping blanks never lengthens a text. -/
theorem length_skipBlanks_le (text : List Char) :
    (skipBlanks text).length ≤ text.length :=
  (List.dropWhile_sublist isBlank).length_le

end Text
end MessageExpansion
