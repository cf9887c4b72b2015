import MessageExpansion.Text.Letter
import MessageExpansion.Text.Mark

/-!
# Identifier names

The characters of identifiers in scripts, and the spelling of generated function names.  The two
sets differ: generated names keep `isNameChar` characters only, a subset of what a script may use
in most cases, but any alphanumeric character counts.
-/

namespace MessageExpansion
namespace Text

/-- A character that may start an identifier of a script. -/
def isIdentifierStart (c : Char) : Bool :=
  c == '$' || c == '_' || isLetter c && c.toNat != 0x2E2F || isLetterNumber c ||
    RangeTable.contains [(0x1885, 0x1886), (0x2118, 0x2118), (0x212E, 0x212E), (0x309B, 0x309C)] c

/-- A character that may stand inside an identifier of a script. -/
def isIdentifierPart (c : Char) : Bool :=
  isIdentifierStart c || isDecimalDigit c || isMark c ||
    RangeTable.contains
      [(0xB7, 0xB7), (0x387, 0x387), (0x1369, 0x1371), (0x19DA, 0x19DA), (0x200C, 0x200D),
       (0x203F, 0x2040), (0x2054, 0x2054), (0x30FB, 0x30FB), (0xFE33, 0xFE34), (0xFE4D, 0xFE4F),
       (0xFF3F, 0xFF3F), (0xFF65, 0xFF65)] c

/-- A character that a generated function name keeps as it is. -/
def isNameChar (c : Char) : Bool := c == '_' || c == '$' || isAlphanumeric c

end Text
end MessageExpansion
