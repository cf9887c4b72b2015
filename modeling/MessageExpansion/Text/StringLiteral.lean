/-!
# String literals

Text written as a double-quoted string literal, in the escapes that JSON and scripts have in
common: quotes and backslashes are escaped, control characters below the space get their short
escape where they have one and four hexadecimal digits otherwise, and everything else stands as it
is.
-/

namespace MessageExpansion
namespace Text
namespace StringLiteral

/-- The spelling of one character inside a literal. -/
def encodeChar (c : Char) : List Char :=
  if c = '"' then ['\\', '"']
  else if c = '\\' then ['\\', '\\']
  else if c = '\n' then ['\\', 'n']
  else if c = '\r' then ['\\', 'r']
  else if c = '\t' then ['\\', 't']
  else if c.toNat = 0x8 then ['\\', 'b']
  else if c.toNat = 0xC then ['\\', 'f']
  else if c.toNat < 0x20 then
    ['\\', 'u', '0', '0', Nat.digitChar (c.toNat / 16), Nat.digitChar (c.toNat % 16)]
  else [c]

/-- The spelling of a text, without the quotes. -/
def encode (text : List Char) : List Char := text.flatMap encodeChar

@[simp] theorem encode_nil : encode [] = [] := rfl

@[simp] theorem encode_cons (c : Char) (rest : List Char) :
    encode (c :: rest) = encodeChar c ++ encode rest := rfl

end StringLiteral

/-- The string literal whose value is the text. -/
def stringLiteral (text : String) : String :=
  String.ofList ('"' :: (StringLiteral.encode text.toList ++ ['"']))

end Text
end MessageExpansion
