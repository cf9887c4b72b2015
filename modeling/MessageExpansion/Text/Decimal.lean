/-!
# Decimal numerals

Reading unsigned numbers: decimal digits after an optional plus sign, below a limit.  The digits of
a number are read as that number, if it lies below the limit.
-/

namespace MessageExpansion
namespace Text

/-- The value of a run of decimal digits; `none` when another character occurs. -/
def digitsValue? (value : Nat) : List Char → Option Nat
  | [] => some value
  | c :: rest =>
      if c.isDigit then digitsValue? (10 * value + (c.toNat - '0'.toNat)) rest else none

/-- The digits of a numeral, without the sign it may start with. -/
def dropPlus : List Char → List Char
  | '+' :: digits => digits
  | digits => digits

/-- The number a numeral stands for, if it is one and lies below `limit`. -/
def readUnsigned? (limit : Nat) (numeral : List Char) : Option Nat :=
  match dropPlus numeral with
  | [] => none
  | digits =>
      match digitsValue? 0 digits with
      | some value => if value < limit then some value else none
      | none => none

/-! ### Printed numbers -/

/-- What holds of the ten digits holds of every digit. -/
theorem forall_isDigit
    (holds : Char → Prop)
    (ten : ∀ k : Fin 10, holds (Char.ofNat (48 + k)))
    {c : Char}
    (digit : c.isDigit = true) :
    holds c := by
  have range : 48 ≤ c.toNat ∧ c.toNat ≤ 57 := by
    simp only [Char.isDigit, Bool.and_eq_true, decide_eq_true_eq] at digit
    exact digit
  have held := ten ⟨c.toNat - 48, by omega⟩
  have index : 48 + (c.toNat - 48) = c.toNat := by omega
  simp only [index, Char.ofNat_toNat] at held
  exact held

theorem toList_toString
    (value : Nat) :
    (toString value).toList = Nat.toDigits 10 value := String.toList_ofList

/-- Different numbers are printed differently. -/
theorem toString_injective :
    Function.Injective fun value : Nat => toString value := by
  intro first second equal
  have digits := congrArg (fun numeral => Nat.ofDigitChars 10 numeral.toList 0) equal
  simpa only [toList_toString, Nat.ofDigitChars_ten_toDigits] using digits

theorem isDigit_of_mem_toString
    {value : Nat}
    {c : Char}
    (present : c ∈ (toString value).toList) :
    c.isDigit = true :=
  Nat.isDigit_of_mem_toDigits (by decide) (by decide) (toList_toString value ▸ present)

theorem digitsValue?_of_digits
    {digits : List Char}
    (all : ∀ c ∈ digits, c.isDigit = true)
    (value : Nat) :
    digitsValue? value digits = some (Nat.ofDigitChars 10 digits value) := by
  induction digits generalizing value with
  | nil => rfl
  | cons c rest inductionHypothesis =>
      rw [List.forall_mem_cons] at all
      rw [digitsValue?, if_pos all.1, inductionHypothesis all.2, Nat.ofDigitChars_cons]

/-- The digits of a number are read as the number. -/
theorem readUnsigned?_toString
    {limit value : Nat}
    (fits : value < limit) :
    readUnsigned? limit (toString value).toList = some value := by
  have digits : ∀ c ∈ (toString value).toList, c.isDigit = true :=
    fun c present => isDigit_of_mem_toString present
  have known : digitsValue? 0 (toString value).toList = some value := by
    rw [digitsValue?_of_digits digits, toList_toString, Nat.ofDigitChars_ten_toDigits]
  have nonempty : (toString value).toList ≠ [] := by
    rw [toList_toString]
    exact Nat.toDigits_ne_nil
  obtain ⟨c, rest, equal⟩ := List.exists_cons_of_ne_nil nonempty
  rw [equal] at digits known ⊢
  have noPlus : c ≠ '+' := by
    rintro rfl
    cases digits '+' List.mem_cons_self
  have unsigned : dropPlus (c :: rest) = c :: rest := by
    unfold dropPlus
    split
    · next plus =>
        cases plus
        exact absurd rfl noPlus
    · rfl
  rw [readUnsigned?, unsigned]
  simp only [known, if_pos fits]

end Text
end MessageExpansion
