import Mathlib.Data.Int.ModEq
import Mathlib.Tactic.Ring
import MessageExpansion.PositionMap.Mappings

/-!
# Numbers in mappings

The digits of a number stand least significant first, and its sign is the lowest bit.  Numbers are
read into 64-bit words.  A number of at most twelve digits is read as it is; of one with thirteen
digits the low bits are kept; longer ones are refused, and so is every text that is no row of
numbers.
-/

namespace MessageExpansion

namespace Text.Base64

theorem value?_digit
    {value : Nat}
    (small : value < 64) :
    value? (digit value) = some value := by
  have all : ∀ value : Fin 64, value? (digit value) = some value.val := by decide +kernel
  exact all ⟨value, small⟩

/-- A digit is in the alphabet, whatever its value. -/
theorem digit_mem
    (value : Nat) :
    digit value ∈ digits := by
  unfold digit
  rw [List.getD_eq_getElem?_getD]
  cases found : digits[value]? with
  | none => decide
  | some c => exact List.mem_of_getElem? found

end Text.Base64

namespace PositionMap

open Text (Base64.value? Base64.value?_digit)

/-! ### Words -/

/-- A word that is small enough is the number itself. -/
theorem word64_of_lt
    {number : Int}
    (lower : -2 ^ 62 < number)
    (upper : number < 2 ^ 62) :
    word64 number = number := by
  unfold word64 Int.bmod
  simp only [UInt64.size]
  omega

/-- A word keeps the low bits of a number. -/
theorem word64_modEq
    (number : Int) :
    word64 number ≡ number [ZMOD 2 ^ 64] := by
  unfold Int.ModEq word64 Int.bmod
  simp only [UInt64.size]
  omega

/-- Numbers with the same low bits have the same word. -/
theorem word64_congr
    {first second : Int}
    (congruent : first ≡ second [ZMOD 2 ^ 64]) :
    word64 first = word64 second := by
  unfold Int.ModEq at congruent
  unfold word64 Int.bmod
  simp only [UInt64.size]
  omega

theorem word32_of_lt
    {number : Nat}
    (small : number < UInt32.size) :
    word32 number = number := by
  unfold word32
  simp only [UInt32.size] at *
  omega

theorem word32_lt
    (number : Int) :
    word32 number < UInt32.size := by
  unfold word32
  simp only [UInt32.size]
  omega

/-- Numbers with the same low bits are cut down to the same number. -/
theorem word32_congr
    {first second : Int}
    (congruent : first ≡ second [ZMOD 2 ^ 32]) :
    word32 first = word32 second :=
  congrArg Int.toNat congruent

/-- A number is cut down to itself if it is small and not negative, and only then. -/
theorem word32_eq_iff
    {number : Int} :
    (word32 number : Int) = number ↔ 0 ≤ number ∧ number < UInt32.size := by
  unfold word32
  simp only [UInt32.size]
  omega

/-! ### Signs -/

/-- The sign that was folded into a number is unfolded again. -/
theorem unfoldSign_foldSign
    (number : Int) :
    unfoldSign (foldSign number) = number := by
  unfold unfoldSign foldSign
  cases number with
  | ofNat value => simp only [Int.ofNat_eq_natCast]; omega
  | negSucc value => simp only; omega

theorem foldSign_lt
    {number : Int}
    (lower : -2 ^ 33 < number)
    (upper : number < 2 ^ 33) :
    foldSign number < 2 ^ 40 := by
  unfold foldSign
  cases number with
  | ofNat value => simp only [Int.ofNat_eq_natCast] at *; omega
  | negSucc value => simp only at *; omega

/-- The bits that a word loses do not matter to the low bits of the number. -/
theorem unfoldSign_word64_modEq
    (word : Int) :
    unfoldSign (word64 word) ≡ unfoldSign word [ZMOD 2 ^ 32] := by
  unfold Int.ModEq unfoldSign word64 Int.bmod
  simp only [UInt64.size]
  omega

/-! ### Rows of numbers -/

/-- The characters are the digits of a number: all but the last have the bit that says that more
follow. -/
inductive SpellsDigits : List Char → Nat → Prop
  | last {c : Char} {digit : Nat}
      (isDigit : Base64.value? c = some digit)
      (ends : digit < 32) :
      SpellsDigits [c] digit
  | more {c : Char} {digit value : Nat} {rest : List Char}
      (isDigit : Base64.value? c = some digit)
      (goesOn : 32 ≤ digit)
      (others : SpellsDigits rest value) :
      SpellsDigits (c :: rest) (digit % 32 + 32 * value)

/-- The text is a row of signed numbers of at most `limit` digits each. -/
inductive SpellsNumbers (limit : Nat) : List Char → List Int → Prop
  | nil : SpellsNumbers limit [] []
  | cons {digits rest : List Char} {value : Nat} {numbers : List Int}
      (spelled : SpellsDigits digits value)
      (short : digits.length ≤ limit)
      (others : SpellsNumbers limit rest numbers) :
      SpellsNumbers limit (digits ++ rest) (unfoldSign value :: numbers)

/-- The numbers are as many as the exact ones, and the same up to multiples of `modulus`. -/
structure NumbersAgree (modulus : Int) (numbers exactNumbers : List Int) : Prop where
  length : numbers.length = exactNumbers.length
  field : ∀ field, numbers.getD field 0 ≡ exactNumbers.getD field 0 [ZMOD modulus]

theorem NumbersAgree.refl
    (modulus : Int)
    (numbers : List Int) :
    NumbersAgree modulus numbers numbers :=
  ⟨rfl, fun _ => rfl⟩

theorem NumbersAgree.cons
    {modulus number exactNumber : Int}
    {numbers exactNumbers : List Int}
    (first : number ≡ exactNumber [ZMOD modulus])
    (others : NumbersAgree modulus numbers exactNumbers) :
    NumbersAgree modulus (number :: numbers) (exactNumber :: exactNumbers) := by
  refine ⟨congrArg Nat.succ others.length, fun field => ?_⟩
  cases field with
  | zero => exact first
  | succ field => exact others.field field

variable {digits rest text : List Char} {value shift : Nat} {numbers : List Int}

theorem SpellsDigits.length_pos
    (spelled : SpellsDigits digits value) :
    0 < digits.length := by
  cases spelled <;> simp

/-- The value of digits is bounded by their number. -/
theorem SpellsDigits.lt
    (spelled : SpellsDigits digits value) :
    value < 2 ^ (5 * digits.length) := by
  induction spelled with
  | last _ ends => simpa using ends
  | more _ _ _ inductionHypothesis =>
      rw [List.length_cons, Nat.mul_succ, Nat.pow_add]
      omega

/-- Put a number in front of those that were read. -/
def consNumber (number : Int) :
    Except MappingsProblem (List Int) → Except MappingsProblem (List Int)
  | .ok numbers => .ok (number :: numbers)
  | .error problem => .error problem

theorem decodeNumbers_nil
    (value shift : Nat) :
    decodeNumbers value shift [] = if shift = 0 then .ok [] else .error .truncatedNumber :=
  rfl

/-- A digit is added to the digits before it.  Others follow it, or it ends the number. -/
theorem decodeNumbers_cons
    (value shift : Nat)
    (c : Char)
    (rest : List Char) :
    decodeNumbers value shift (c :: rest) =
      match Base64.value? c with
      | none => .error (.invalidCharacter (leadByte c))
      | some digit =>
          if 32 ≤ digit then
            if 60 < shift + 5 then .error .numberTooLarge
            else decodeNumbers (value + digit % 32 * 2 ^ shift) (shift + 5) rest
          else
            consNumber (unfoldSign (word64 (value + digit % 32 * 2 ^ shift : Nat)))
              (decodeNumbers 0 0 rest) :=
  rfl

/-- Digits add up to the number, whatever digits were read before them. -/
theorem decodeNumbers_append
    {written : Nat}
    (spelled : SpellsDigits digits written)
    (value shift : Nat)
    (rest : List Char)
    (room : shift + 5 * digits.length ≤ 65) :
    decodeNumbers value shift (digits ++ rest) =
      consNumber (unfoldSign (word64 (value + written * 2 ^ shift : Nat)))
        (decodeNumbers 0 0 rest) := by
  induction spelled generalizing value shift with
  | last isDigit ends =>
      rw [List.singleton_append, decodeNumbers_cons, isDigit]
      simp only [Nat.mod_eq_of_lt ends, if_neg (Nat.not_le.mpr ends)]
  | @more c digit written others isDigit goesOn spelled inductionHypothesis =>
      have follow := spelled.length_pos
      rw [List.length_cons] at room
      have parts : value + (digit % 32 + 32 * written) * 2 ^ shift =
          value + digit % 32 * 2 ^ shift + written * 2 ^ (shift + 5) := by
        rw [Nat.pow_add]
        ring
      rw [List.cons_append, decodeNumbers_cons, isDigit, parts]
      simp only [if_pos goesOn, if_neg (by omega : ¬ 60 < shift + 5)]
      exact inductionHypothesis _ _ (by omega)

/-- A row of numbers of at most thirteen digits is read as numbers with the same low bits. -/
theorem SpellsNumbers.decodeNumbers_modEq
    (spelled : SpellsNumbers 13 text numbers) :
    ∃ read, decodeNumbers 0 0 text = .ok read ∧ NumbersAgree (2 ^ 32) read numbers := by
  induction spelled with
  | nil => exact ⟨[], rfl, .refl _ _⟩
  | cons spelled short _ inductionHypothesis =>
      obtain ⟨read, succeeds, agree⟩ := inductionHypothesis
      rw [decodeNumbers_append spelled 0 0 _ (by omega), succeeds, Nat.zero_add, Nat.pow_zero,
        Nat.mul_one]
      exact ⟨_, rfl, .cons (unfoldSign_word64_modEq _) agree⟩

/-- A row of numbers of at most twelve digits is read as it is. -/
theorem SpellsNumbers.decodeNumbers_eq
    (spelled : SpellsNumbers 12 text numbers) :
    decodeNumbers 0 0 text = .ok numbers := by
  induction spelled with
  | nil => rfl
  | @cons digits rest value numbers spelled short _ inductionHypothesis =>
      have small : value < 2 ^ 60 :=
        Nat.lt_of_lt_of_le spelled.lt (Nat.pow_le_pow_right (by decide) (by omega))
      rw [decodeNumbers_append spelled 0 0 _ (by omega), inductionHypothesis, Nat.zero_add,
        Nat.pow_zero, Nat.mul_one, word64_of_lt (by omega) (by omega)]
      rfl

/-- A row with shorter numbers is a row with numbers that may be longer. -/
theorem SpellsNumbers.mono
    {limit longer : Nat}
    (spelled : SpellsNumbers limit text numbers)
    (bound : limit ≤ longer) :
    SpellsNumbers longer text numbers := by
  induction spelled with
  | nil => exact .nil
  | cons spelled short _ inductionHypothesis =>
      exact .cons spelled (Nat.le_trans short bound) inductionHypothesis

/-- What is read goes on with the digits of the current number, if there are any before it, and is a
row of numbers otherwise. -/
theorem spells_of_decodeNumbers
    {read : List Int}
    (succeeds : decodeNumbers value shift text = .ok read)
    (room : shift ≤ 60) :
    (text = [] ∧ shift = 0) ∨
      ∃ digits rest written numbers, text = digits ++ rest ∧ SpellsDigits digits written ∧
        shift + 5 * digits.length ≤ 65 ∧ SpellsNumbers 13 rest numbers := by
  induction text generalizing value shift read with
  | nil =>
      rw [decodeNumbers_nil] at succeeds
      split at succeeds
      · next fresh => exact Or.inl ⟨rfl, fresh⟩
      · cases succeeds
  | cons c rest inductionHypothesis =>
      rw [decodeNumbers_cons] at succeeds
      split at succeeds
      · cases succeeds
      · next digit isDigit =>
          right
          split at succeeds
          · next goesOn =>
              split at succeeds
              · cases succeeds
              · rcases inductionHypothesis succeeds (by omega) with ⟨_, fresh⟩ |
                  ⟨digits, others, written, numbers, rfl, spelled, room, follow⟩
                · omega
                · refine ⟨c :: digits, others, _, numbers, rfl, .more isDigit goesOn spelled, ?_,
                    follow⟩
                  rw [List.length_cons]
                  omega
          · next ends =>
              have row : ∃ numbers, SpellsNumbers 13 rest numbers := by
                cases others : decodeNumbers 0 0 rest with
                | error problem =>
                    rw [others] at succeeds
                    cases succeeds
                | ok numbers =>
                    rcases inductionHypothesis others (by decide) with ⟨rfl, _⟩ |
                      ⟨digits, others, written, numbers, rfl, spelled, room, follow⟩
                    · exact ⟨[], .nil⟩
                    · exact ⟨_, .cons spelled (by omega) follow⟩
              obtain ⟨numbers, follow⟩ := row
              refine ⟨[c], rest, _, numbers, rfl, .last isDigit (by omega), ?_, follow⟩
              rw [List.length_singleton]
              omega

/-- Only rows of numbers of at most thirteen digits are read. -/
theorem exists_spellsNumbers
    {read : List Int}
    (succeeds : decodeNumbers 0 0 text = .ok read) :
    ∃ numbers, SpellsNumbers 13 text numbers := by
  rcases spells_of_decodeNumbers succeeds (by decide) with ⟨rfl, _⟩ |
    ⟨digits, rest, written, numbers, rfl, spelled, room, follow⟩
  · exact ⟨[], .nil⟩
  · exact ⟨_, .cons spelled (by omega) follow⟩

/-! ### Numbers that were written -/

/-- What is written of a number are its digits. -/
theorem spellsDigits_encodeDigits
    (value : Nat) :
    SpellsDigits (encodeDigits value) value := by
  fun_induction encodeDigits value with
  | case1 value small => exact .last (Base64.value?_digit (by omega)) small
  | case2 value large inductionHypothesis =>
      have digits := SpellsDigits.more (Base64.value?_digit (by omega : value % 32 + 32 < 64))
        (Nat.le_add_left _ _) inductionHypothesis
      rwa [show (value % 32 + 32) % 32 + 32 * (value / 32) = value by omega] at digits

/-- A small number has few digits. -/
theorem length_encodeDigits_le
    {count : Nat}
    (small : value < 2 ^ (5 * (count + 1))) :
    (encodeDigits value).length ≤ count + 1 := by
  fun_induction encodeDigits value generalizing count with
  | case1 => simp
  | case2 value large inductionHypothesis =>
      cases count with
      | zero => omega
      | succ count =>
          rw [List.length_cons]
          refine Nat.succ_le_succ (inductionHypothesis ?_)
          rw [Nat.mul_succ, Nat.pow_add] at small
          omega

theorem length_encodeNumber_le
    {number : Int}
    (lower : -2 ^ 33 < number)
    (upper : number < 2 ^ 33) :
    (encodeNumber number).length ≤ 8 :=
  length_encodeDigits_le (foldSign_lt lower upper)

/-- What is written of numbers is a row of numbers. -/
theorem spellsNumbers_flatMap
    {limit : Nat}
    {numbers : List Int}
    (short : ∀ number ∈ numbers, (encodeNumber number).length ≤ limit) :
    SpellsNumbers limit (numbers.flatMap encodeNumber) numbers := by
  induction numbers with
  | nil => exact .nil
  | cons number rest inductionHypothesis =>
      obtain ⟨first, others⟩ := List.forall_mem_cons.mp short
      have row := SpellsNumbers.cons (spellsDigits_encodeDigits (foldSign number)) first
        (inductionHypothesis others)
      rwa [unfoldSign_foldSign] at row

end PositionMap
end MessageExpansion
