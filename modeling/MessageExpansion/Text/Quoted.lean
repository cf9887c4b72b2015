import MessageExpansion.Text.Mark
import MessageExpansion.Text.Printable

/-!
# Quoted text

How messages show a piece of text: between quotes, with everything that could not be read off the
screen spelled as an escape.  The escape of a code point is its hexadecimal number in braces, in
lower case and without padding.
-/

namespace MessageExpansion
namespace Text
namespace Quoted

/-- The escape that names a character by its code point. -/
def codePointEscape (c : Char) : List Char :=
  ['\\', 'u', '\x7b'] ++ Nat.toDigits 16 c.toNat ++ ['\x7d']

/-- One character between quotes that are `mark`s. -/
def encodeChar (mark c : Char) : List Char :=
  if c = mark ∨ c = '\\' then ['\\', c]
  else if c = '\n' then ['\\', 'n']
  else if c = '\r' then ['\\', 'r']
  else if c = '\t' then ['\\', 't']
  else if c.toNat = 0 then ['\\', '0']
  else if extendsGrapheme c || !isPrintable c then codePointEscape c
  else [c]

end Quoted

/-- A text between double quotes. -/
def quoted (text : String) : String :=
  String.ofList ('"' :: (text.toList.flatMap (Quoted.encodeChar '"') ++ ['"']))

/-- A path between double quotes, where single quotes are escaped as well. -/
def quotedPath (path : String) : String :=
  String.ofList ('"' :: (path.toList.flatMap fun c =>
    if c = '\'' then ['\\', '\''] else Quoted.encodeChar '"' c) ++ ['"'])

/-- A character between single quotes. -/
def quotedChar (c : Char) : String :=
  String.ofList ('\'' :: (Quoted.encodeChar '\'' c ++ ['\'']))

end Text
end MessageExpansion
