/-!
# Base64

Six bits as one digit: the alphabet that source maps and `data:` addresses share, and the encoding
of bytes in groups of three.
-/

namespace MessageExpansion
namespace Text
namespace Base64

/-- The digits in order of their values. -/
def digits : List Char :=
  "ABCDEFGHIJKLMNOPQRSTUVWXYZabcdefghijklmnopqrstuvwxyz0123456789+/".toList

/-- The digit of a value below 64. -/
def digit (value : Nat) : Char := digits.getD value 'A'

/-- The value of a digit. -/
def value? (c : Char) : Option Nat := digits.findIdx? (· == c)

/-- The digits of a list of bytes, padded to groups of four. -/
def encode : List UInt8 → List Char
  | [] => []
  | [a] =>
      [digit (a.toNat / 4), digit (a.toNat % 4 * 16), '=', '=']
  | [a, b] =>
      [digit (a.toNat / 4), digit (a.toNat % 4 * 16 + b.toNat / 16), digit (b.toNat % 16 * 4), '=']
  | a :: b :: c :: rest =>
      digit (a.toNat / 4) :: digit (a.toNat % 4 * 16 + b.toNat / 16) ::
        digit (b.toNat % 16 * 4 + c.toNat / 64) :: digit (c.toNat % 64) :: encode rest

end Base64
end Text
end MessageExpansion
