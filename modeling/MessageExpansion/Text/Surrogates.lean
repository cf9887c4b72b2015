/-!
# Surrogate pairs

Escapes may name a character beyond the first plane by the two halves of a surrogate pair.  This
module puts the halves together and reads hexadecimal escapes.

Characters are no surrogates, so the code points of a text give the text back.  Control characters
are written with four hexadecimal digits.
-/

namespace MessageExpansion
namespace Text

/-- The value of a hexadecimal digit. -/
def hexDigit? (c : Char) : Option Nat :=
  if '0' ≤ c ∧ c ≤ '9' then some (c.toNat - '0'.toNat)
  else if 'a' ≤ c ∧ c ≤ 'f' then some (c.toNat - 'a'.toNat + 10)
  else if 'A' ≤ c ∧ c ≤ 'F' then some (c.toNat - 'A'.toNat + 10)
  else none

/-- The value of two hexadecimal digits. -/
def hexByte? (a b : Char) : Option Nat :=
  match hexDigit? a, hexDigit? b with
  | some a, some b => some (a * 16 + b)
  | _, _ => none

/-- The value of four hexadecimal digits. -/
def hexUnit? (a b c d : Char) : Option Nat :=
  match hexByte? a b, hexByte? c d with
  | some high, some low => some (high * 256 + low)
  | _, _ => none

/-- The first half of a surrogate pair. -/
def isHighSurrogate (point : Nat) : Bool := 0xD800 ≤ point && point < 0xDC00

/-- The second half of a surrogate pair. -/
def isLowSurrogate (point : Nat) : Bool := 0xDC00 ≤ point && point < 0xE000

/-- The code point of a surrogate pair. -/
def pairPoint (high low : Nat) : Nat := 0x10000 + (high - 0xD800) * 0x400 + (low - 0xDC00)

/-- The characters of a list of code points; a surrogate without its partner is none. -/
def joinSurrogates : List Nat → Option (List Char)
  | [] => some []
  | [point] =>
      if isHighSurrogate point || isLowSurrogate point then none else some [Char.ofNat point]
  | high :: low :: rest =>
      if isHighSurrogate high then
        if isLowSurrogate low then
          (joinSurrogates rest).map (Char.ofNat (pairPoint high low) :: ·)
        else none
      else if isLowSurrogate high then none
      else (joinSurrogates (low :: rest)).map (Char.ofNat high :: ·)

/-! ### Escapes that are written -/

/-- Characters are no halves of surrogate pairs. -/
theorem joinSurrogates_map_toNat
    (text : List Char) :
    joinSurrogates (text.map Char.toNat) = some text := by
  have plain (c : Char) : isHighSurrogate c.toNat = false ∧ isLowSurrogate c.toNat = false := by
    have valid := c.valid
    have range : c.toNat < 0xD800 ∨ 0xDFFF < c.toNat := by
      rcases valid with low | high
      · exact .inl low
      · exact .inr high.1
    simp [isHighSurrogate, isLowSurrogate]
    omega
  induction text with
  | nil => rfl
  | cons c rest inductionHypothesis =>
      cases rest with
      | nil => simp [joinSurrogates, plain, Char.ofNat_toNat]
      | cons d rest =>
          rw [List.map_cons] at inductionHypothesis
          simp [joinSurrogates, plain, Char.ofNat_toNat, inductionHypothesis]

/-- The digits of a control character give its code. -/
theorem hexUnit?_of_control
    {point : Nat}
    (control : point < 0x20) :
    hexUnit? '0' '0' (Nat.digitChar (point / 16)) (Nat.digitChar (point % 16)) = some point := by
  have all : ∀ point : Fin 32,
      hexUnit? '0' '0' (Nat.digitChar (point / 16)) (Nat.digitChar (point % 16)) =
        some point.val := by
    decide
  exact all ⟨point, control⟩

end Text
end MessageExpansion
