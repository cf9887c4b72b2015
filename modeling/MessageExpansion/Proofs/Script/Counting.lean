import MessageExpansion.Proofs.Script.Lexemes
import MessageExpansion.Text.Decimal

/-!
# How many tokens a text has

A token that is no number takes up a character that is no digit.  A number ends where no digit
follows, so another number can only follow behind such a character.  Hence digits do not count when
the tokens of a text are counted from above.
-/

namespace MessageExpansion
namespace Script

/-- The tokens that a text can have at most, given whether it begins with a number. -/
def tokenBound (text : List Char) : Nat :=
  2 * text.countP (fun c => !c.isDigit) + if text.head?.any Char.isDigit then 1 else 0

variable {text rest back : List Char} {c : Char}

theorem tokenBound_le_maxTokens
    (text : List Char) :
    tokenBound text ≤ maxTokens text := by
  unfold tokenBound maxTokens
  split <;> omega

theorem tokenBound_of_digit
    (digit : c.isDigit = true) :
    tokenBound (c :: rest) = maxTokens (c :: rest) := by
  simp [tokenBound, maxTokens, digit]

/-- Behind a character that is no digit there are fewer tokens. -/
theorem tokenBound_lt_of_suffix
    (noDigit : c.isDigit = false)
    (isSuffix : back <:+ rest) :
    tokenBound back < tokenBound (c :: rest) := by
  have fewer : back.countP (fun c => !c.isDigit) ≤ rest.countP (fun c => !c.isDigit) :=
    isSuffix.sublist.countP_le
  have bound := tokenBound_le_maxTokens back
  have counted : tokenBound (c :: rest) = 2 * (rest.countP (fun c => !c.isDigit) + 1) := by
    simp [tokenBound, noDigit]
  unfold maxTokens at bound
  omega

/-- What follows no digit at the start of a text has no more tokens than the text. -/
theorem tokenBound_le_of_suffix
    (noDigit : text.head?.any Char.isDigit = false)
    (isSuffix : back <:+ text) :
    tokenBound back ≤ tokenBound text := by
  cases text with
  | nil => exact Nat.le_of_eq (congrArg tokenBound (List.suffix_nil.mp isSuffix))
  | cons c rest =>
      rcases List.suffix_cons_iff.mp isSuffix with rfl | later
      · exact Nat.le_refl _
      · exact Nat.le_of_lt (tokenBound_lt_of_suffix (by simpa using noDigit) later)

/-- A gap takes no tokens away. -/
theorem tokenBound_skipGap
    {newline found : Bool}
    {offset : Nat}
    {start : Place}
    (skipped : skipGap .blank newline offset text = some (found, start)) :
    tokenBound start.rest ≤ tokenBound text := by
  have reached := (reaches_skipGap skipped).rest
  cases text with
  | nil => exact tokenBound_le_of_suffix rfl reached
  | cons c rest =>
      cases digit : c.isDigit with
      | false => exact tokenBound_le_of_suffix (by simpa using digit) reached
      | true =>
          -- No gap begins with a digit.
          have plain : beginsGap c = false :=
            Text.forall_isDigit (beginsGap · = false) (by decide) digit
          rw [skipGap_of_not_beginsGap newline offset plain] at skipped
          cases skipped
          exact Nat.le_refl _

theorem rest_skipWhile
    (place : Place)
    (test : Char → Bool) :
    (place.skipWhile test).rest = place.rest.dropWhile test := by
  calc place.rest.drop (place.rest.takeWhile test).length
      = (place.rest.takeWhile test ++ place.rest.dropWhile test).drop
          (place.rest.takeWhile test).length := by rw [List.takeWhile_append_dropWhile]
    _ = place.rest.dropWhile test := List.drop_left

/-- The digits of a number are not followed by another digit. -/
theorem head?_skipWhile_isDecimalPart
    (place : Place) :
    (place.skipWhile isDecimalPart).rest.head?.any Char.isDigit = false := by
  rw [rest_skipWhile]
  cases behind : (place.rest.dropWhile isDecimalPart).head? with
  | none => rfl
  | some next =>
      have noPart := List.head?_dropWhile_not isDecimalPart place.rest
      rw [behind] at noPart
      have parts : isDecimalPart next = false := by simpa using noPart
      simp only [isDecimalPart, Bool.or_eq_false_iff] at parts
      exact parts.1

/-- Behind a decimal number there are fewer tokens. -/
theorem tokenBound_skipDecimal
    {place : Place}
    (begins : place.rest = c :: rest)
    (digit : c.isDigit = true) :
    tokenBound (skipBigMark (skipExponent (skipFraction (place.skipWhile isDecimalPart)))).rest <
      tokenBound place.rest := by
  have whole : tokenBound place.rest = maxTokens place.rest := by
    rw [begins, tokenBound_of_digit digit]
  have stops := head?_skipWhile_isDecimalPart place
  have onward := tokenBound_le_of_suffix stops
    (reaches_behindDigits (place.skipWhile isDecimalPart)).rest
  have fewer : (place.skipWhile isDecimalPart).rest.countP (fun c => !c.isDigit) ≤
      place.rest.countP (fun c => !c.isDigit) :=
    (place.reaches_skipWhile isDecimalPart).rest.sublist.countP_le
  have stopped : tokenBound (place.skipWhile isDecimalPart).rest =
      2 * (place.skipWhile isDecimalPart).rest.countP (fun c => !c.isDigit) := by
    simp [tokenBound, stops]
  unfold maxTokens at whole
  omega

/-- Behind a number there are fewer tokens. -/
theorem tokenBound_skipNumber
    {place : Place}
    (begins : place.rest = c :: rest)
    (digit : c.isDigit = true) :
    tokenBound (skipNumber place).rest < tokenBound place.rest := by
  unfold skipNumber
  split
  · next base more equal =>
      split
      · next letter =>
          have noDigit : base.isDigit = false := by
            rcases letter with rfl | rfl | rfl | rfl | rfl | rfl <;> rfl
          have reached := ((place.skip 2).reaches_skipWhile isHexPart).trans (reaches_skipBigMark _)
          have later : (place.skip 2).rest = more := by simp [Place.skip, equal]
          calc tokenBound (skipBigMark ((place.skip 2).skipWhile isHexPart)).rest
              < tokenBound (base :: more) := tokenBound_lt_of_suffix noDigit (later ▸ reached.rest)
            _ ≤ maxTokens (base :: more) := tokenBound_le_maxTokens _
            _ = tokenBound place.rest := by
              rw [equal, tokenBound_of_digit rfl]
              simp [maxTokens, show '0'.isDigit = true from rfl]
      · exact tokenBound_skipDecimal begins digit
  · exact tokenBound_skipDecimal begins digit

/-- Behind a lexeme there are fewer tokens. -/
theorem Lexeme.Next.tokenBound_lt
    {lexeme : Lexeme}
    {first last : Place}
    (scanned : lexeme.Next first last) :
    tokenBound last.rest < tokenBound first.rest := by
  obtain ⟨start, skipped, token, spelled, nonempty⟩ := scanned
  refine Nat.lt_of_lt_of_le ?_ (tokenBound_skipGap skipped)
  obtain ⟨c, more, spelling⟩ := List.exists_cons_of_ne_nil nonempty
  have begins : start.rest = c :: (more ++ last.rest) := by rw [spelled, spelling]; rfl
  cases digit : c.isDigit with
  | false =>
      rw [begins]
      exact tokenBound_lt_of_suffix digit (List.suffix_append _ _)
  | true =>
      have stop : last = skipNumber start := by
        have read := congrArg Prod.snd token
        simp only [tokenAt, begins, digit, true_or, if_true] at read
        split at read <;> exact read.symm
      rw [stop]
      exact tokenBound_skipNumber begins digit

/-- A text has at most as many lexemes as tokens are counted in it. -/
theorem Scans.length_le
    {lexemes : List Lexeme}
    {first last : Place}
    (scans : Scans lexemes first last) :
    lexemes.length ≤ maxTokens first.rest := by
  have bounded : lexemes.length + tokenBound last.rest ≤ tokenBound first.rest := by
    induction scans with
    | nil => simp
    | cons head _ inductionHypothesis =>
        have fewer := head.tokenBound_lt
        rw [List.length_cons]
        omega
  have bound := tokenBound_le_maxTokens first.rest
  omega

end Script
end MessageExpansion
