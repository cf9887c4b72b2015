import MessageExpansion.Proofs.Script.Renumbering.Text

/-!
# Literals in renumbered texts

Strings, templates and regular expressions end at the same place of renumbered texts.  Which escapes
a literal has does not depend on its numbers: none of them goes on behind an underscore, and digits
behind one are plain characters of the value.
-/

namespace MessageExpansion
namespace Script

open Text (isLineTerminator hexDigit? hexByte? hexUnit?)

/-! ### Literals -/

/-- What two readers of literals found, values aside. -/
structure LiteralReading.Agree (first second : LiteralReading) : Prop where
  malformed : first.malformed = second.malformed
  interpolated : first.interpolated = second.interpolated
  stop : first.stop.Agree second.stop

/-- Both readers fail, or what they find is alike. -/
abbrev LiteralsAgree : Option LiteralReading → Option LiteralReading → Prop :=
  Option.Rel LiteralReading.Agree

theorem LiteralsAgree.ends
    (malformed interpolated : Bool)
    (offset other : Nat)
    {first second : List Char}
    (renumbered : Renumbered first second) :
    LiteralsAgree (some ⟨[], malformed, interpolated, ⟨offset, first⟩⟩)
      (some ⟨[], malformed, interpolated, ⟨other, second⟩⟩) :=
  .some ⟨rfl, rfl, renumbered⟩

theorem LiteralsAgree.symm
    {first second : Option LiteralReading}
    (agree : LiteralsAgree first second) :
    LiteralsAgree second first := by
  cases agree with
  | none => exact .none
  | some same => exact .some ⟨same.malformed.symm, same.interpolated.symm, same.stop.symm⟩

theorem LiteralsAgree.cons_left
    {first second : Option LiteralReading}
    (agree : LiteralsAgree first second)
    (point : Nat) :
    LiteralsAgree (first.map (.cons point)) second := by
  cases agree with
  | none => exact .none
  | some same => exact .some ⟨same.malformed, same.interpolated, same.stop⟩

theorem LiteralsAgree.map_cons
    {first second : Option LiteralReading}
    (agree : LiteralsAgree first second)
    (point other : Nat) :
    LiteralsAgree (first.map (.cons point)) (second.map (.cons other)) :=
  optionRel_map agree fun same => ⟨same.malformed, same.interpolated, same.stop⟩

theorem LiteralsAgree.map_spoil
    {first second : Option LiteralReading}
    (agree : LiteralsAgree first second) :
    LiteralsAgree (first.map .spoil) (second.map .spoil) :=
  optionRel_map agree fun same => ⟨rfl, same.interpolated, same.stop⟩

/-- The value of an escape with two digits, and what follows it. -/
def byteAt? : List Char → Option (Nat × List Char)
  | a :: b :: rest => (hexByte? a b).map (·, rest)
  | _ => none

/-- The value of an escape with four digits, and what follows it. -/
def unitAt? : List Char → Option (Nat × List Char)
  | a :: b :: c :: d :: rest => (hexUnit? a b c d).map (·, rest)
  | _ => none

theorem readLiteral_byte
    (quote : Char)
    (offset : Nat)
    (rest : List Char) :
    readLiteral quote none offset ('\\' :: 'x' :: rest) =
      match byteAt? rest with
      | some (point, more) => (readLiteral quote none (offset + 4) more).map (.cons point)
      | none => (readLiteral quote none (offset + 2) rest).map .spoil := by
  have letter : isLineTerminator 'x' = false := by decide
  rw [readLiteral.eq_def]
  rcases rest with _ | ⟨a, _ | ⟨b, more⟩⟩ <;> grind [byteAt?]

theorem readLiteral_unit
    (quote : Char)
    (offset : Nat)
    {rest : List Char}
    (unbraced : rest.head? ≠ some '\x7b') :
    readLiteral quote none offset ('\\' :: 'u' :: rest) =
      match unitAt? rest with
      | some (point, more) => (readLiteral quote none (offset + 6) more).map (.cons point)
      | none => (readLiteral quote none (offset + 2) rest).map .spoil := by
  have letter : isLineTerminator 'u' = false := by decide
  rw [readLiteral.eq_def]
  rcases rest with _ | ⟨a, _ | ⟨b, _ | ⟨c, _ | ⟨d, more⟩⟩⟩⟩ <;> grind [unitAt?]

/-- A reader of a fixed number of digits: it reads the same of renumbered texts, and never
nothing. -/
structure ReadsDigits (read? : List Char → Option (Nat × List Char)) : Prop where
  shorter {text : List Char} {found : Nat × List Char} (read : read? text = some found) :
    found.2.length < text.length
  renumbered {first second : List Char} (renumbered : Renumbered first second)
    {found : Nat × List Char} (read : read? first = some found) :
    ∃ more, read? second = some (found.1, more) ∧ Renumbered found.2 more

theorem readsDigits_byteAt? : ReadsDigits byteAt? where
  shorter {text found} read := by
    unfold byteAt? at read
    split at read
    · obtain ⟨_, _, rfl⟩ := Option.map_eq_some_iff.mp read
      simp only [List.length_cons]
      omega
    · exact absurd read nofun
  renumbered {first second} renumbered {found} read := by
    unfold byteAt? at read
    split at read
    · next a b rest =>
        obtain ⟨point, value, rfl⟩ := Option.map_eq_some_iff.mp read
        obtain ⟨more, rfl, later⟩ := renumbered.exists_eq_append [a, b] (plain_of_hexByte? value)
        exact ⟨more, by simp [byteAt?, value], later⟩
    · exact absurd read nofun

theorem readsDigits_unitAt? : ReadsDigits unitAt? where
  shorter {text found} read := by
    unfold unitAt? at read
    split at read
    · obtain ⟨_, _, rfl⟩ := Option.map_eq_some_iff.mp read
      simp only [List.length_cons]
      omega
    · exact absurd read nofun
  renumbered {first second} renumbered {found} read := by
    unfold unitAt? at read
    split at read
    · next a b c d rest =>
        obtain ⟨point, value, rfl⟩ := Option.map_eq_some_iff.mp read
        obtain ⟨more, rfl, later⟩ :=
          renumbered.exists_eq_append [a, b, c, d] (plain_of_hexUnit? value)
        exact ⟨more, by simp [unitAt?, value], later⟩
    · exact absurd read nofun

section

variable {quote : Char} {n : Nat} {first second : List Char}

/-- Literals are read alike in shorter texts. -/
def LiteralsAgreeBelow (quote : Char) (n : Nat) : Prop :=
  ∀ {first second : List Char}, first.length < n → Renumbered first second →
    ∀ (braced : Option Nat) (offset other : Nat),
      LiteralsAgree (readLiteral quote braced offset first) (readLiteral quote braced other second)

/-- What follows an escape is read alike, whether digits were found in it or not. -/
theorem LiteralsAgreeBelow.digitsRead
    (below : LiteralsAgreeBelow quote n)
    (short : first.length < n)
    (renumbered : Renumbered first second)
    {read? : List Char → Option (Nat × List Char)}
    (reads : ReadsDigits read?)
    {literal other : Option LiteralReading}
    {length offset otherOffset : Nat}
    (isLiteral : literal =
      match read? first with
      | some (point, more) => (readLiteral quote none (offset + length) more).map (.cons point)
      | none => (readLiteral quote none (offset + 2) first).map .spoil)
    (isOther : other =
      match read? second with
      | some (point, more) => (readLiteral quote none (otherOffset + length) more).map (.cons point)
      | none => (readLiteral quote none (otherOffset + 2) second).map .spoil) :
    LiteralsAgree literal other := by
  have agree : Option.Rel (Renumbered ·.2 ·.2) (read? first) (read? second) :=
    optionRel_of_some
      (fun read => (reads.renumbered renumbered read).imp' (Prod.mk _) fun _ found => found)
      (fun read => (reads.renumbered renumbered.symm read).imp' (Prod.mk _) fun _ found => found.1)
  rw [isLiteral, isOther]
  rcases optionRel_cases agree with ⟨found, otherFound⟩ | ⟨value, other, found, otherFound, later⟩ <;>
    rw [found, otherFound]
  · exact (below short renumbered _ _ _).map_spoil
  · exact (below (Nat.lt_trans (reads.shorter found) short) later _ _ _).map_cons _ _

theorem LiteralsAgreeBelow.braced
    (below : LiteralsAgreeBelow quote n)
    (short : first.length + 1 < n)
    (renumbered : Renumbered first second)
    (offset other : Nat) :
    LiteralsAgree (readLiteral quote none offset ('\\' :: 'u' :: '\x7b' :: first))
      (readLiteral quote none other ('\\' :: 'u' :: '\x7b' :: second)) := by
  have letter : isLineTerminator 'u' = false := by decide
  have noDigit : hexDigit? '_' = none := by decide
  have next := below (Nat.lt_of_succ_lt short) renumbered
  cases renumbered with
  | nil =>
      have brace : ∀ (braced : Option Nat) (offset other : Nat), LiteralsAgree
          (readLiteral quote braced offset ['\x7b']) (readLiteral quote braced other ['\x7b']) :=
        below short (.refl _)
      have brief (offset : Nat) : readLiteral quote none offset ['\\', 'u', '\x7b'] =
          (readLiteral quote none (offset + 2) ['\x7b']).map .spoil := by
        simp [readLiteral, letter]
      rw [brief, brief]
      exact (brace _ _ _).map_spoil
  | cons c onward =>
      have later := below (Nat.lt_trans (Nat.lt_succ_self _) (Nat.lt_of_succ_lt short)) onward
      rw [readLiteral, readLiteral]
      cases hexDigit? c with
      | none => exact (next _ _ _).map_spoil
      | some digit => exact later _ _ _
  | number =>
      rw [readLiteral, readLiteral, noDigit]
      exact (next _ _ _).map_spoil

/-- An escape of another kind ends with its line, or at a character that is no digit. -/
theorem LiteralsAgreeBelow.simple
    (below : LiteralsAgreeBelow quote n)
    (short : first.length < n)
    (renumbered : Renumbered first second)
    {a : Char}
    (plain : a ≠ 'x' ∧ a ≠ 'u')
    (offset other : Nat) :
    LiteralsAgree (readLiteral quote none offset ('\\' :: a :: first))
      (readLiteral quote none other ('\\' :: a :: second)) := by
  have noDigit : '_'.isDigit = false ∧ isOctalDigit '_' = false := by decide
  have next := below short renumbered
  have shorter {m : Nat} (le : m ≤ first.length) : m < n := Nat.lt_of_le_of_lt le short
  rw [readLiteral.eq_def, readLiteral.eq_def quote none other]
  cases renumbered with
  | nil => grind [Option.Rel, LiteralsAgree.map_cons, LiteralsAgree.map_spoil]
  | number =>
    grind [Option.Rel, LiteralsAgree.map_cons, LiteralsAgree.map_spoil]
  | cons b onward =>
    have later := below (shorter (by simp)) onward
    cases onward with
    | nil => grind [Option.Rel, LiteralsAgree.map_cons, LiteralsAgree.map_spoil]
    | cons c onward =>
      have last := below (shorter (by simp; omega)) onward
      grind [Option.Rel, LiteralsAgree.map_cons, LiteralsAgree.map_spoil]
    | number => grind [Option.Rel, LiteralsAgree.map_cons, LiteralsAgree.map_spoil]

/-- Outside of escapes a character is part of the value, or the literal ends, or the mark of an
interpolation or the end of a line is read. -/
theorem LiteralsAgreeBelow.plain
    (below : LiteralsAgreeBelow quote n)
    (short : first.length < n)
    (renumbered : Renumbered first second)
    {c : Char}
    (plain : c ≠ '\\')
    (offset other : Nat) :
    LiteralsAgree (readLiteral quote none offset (c :: first))
      (readLiteral quote none other (c :: second)) := by
  have next := below short renumbered
  have ends (offset other : Nat) := LiteralsAgree.ends false false offset other renumbered
  rw [readLiteral.eq_def, readLiteral.eq_def quote none other]
  cases renumbered with
  | nil => grind [Option.Rel, Renumbered, LiteralsAgree.map_cons]
  | cons c onward =>
      have later := below (Nat.lt_trans (Nat.lt_succ_self _) short) onward
      have endsLater (offset other : Nat) := LiteralsAgree.ends false true offset other onward
      grind [Option.Rel, LiteralsAgree.map_cons]
  | number => grind [Option.Rel, LiteralsAgree.map_cons]

theorem LiteralsAgreeBelow.bracedPoint
    (below : LiteralsAgreeBelow quote n)
    (short : first.length < n)
    (renumbered : Renumbered first second)
    (c : Char)
    (point offset other : Nat) :
    LiteralsAgree (readLiteral quote (some point) offset (c :: first))
      (readLiteral quote (some point) other (c :: second)) := by
  have next := below short renumbered
  have ends (offset other : Nat) := LiteralsAgree.ends true false offset other renumbered
  rw [readLiteral, readLiteral]
  split
  · split
    · exact (next _ _ _).map_cons _ _
    · exact (next _ _ _).map_spoil
  · split
    · exact next _ _ _
    · split
      · exact ends _ _
      · exact (next _ _ _).map_spoil

/-! ### Numbers in literals -/

/-- A character that a number is made of is part of the value. -/
theorem readLiteral_part
    {c : Char}
    (part : c = '_' ∨ c.isDigit = true)
    (separate : c ≠ quote)
    (offset : Nat)
    (rest : List Char) :
    readLiteral quote none offset (c :: rest) =
      (readLiteral quote none (offset + c.utf8Size) rest).map (.cons c.toNat) := by
  have plain : c ≠ '\\' ∧ c ≠ '$' ∧ c ≠ '\r' ∧ c ≠ '\n' := by
    rcases part with rfl | digit
    · decide
    · exact Text.forall_isDigit (fun c => c ≠ '\\' ∧ c ≠ '$' ∧ c ≠ '\r' ∧ c ≠ '\n') (by decide) digit
  rw [readLiteral.eq_def]
  grind

theorem LiteralsAgree.digits_left
    {digits text : List Char}
    (areDigits : ∀ c ∈ digits, c.isDigit = true)
    (noDigit : quote.isDigit = false)
    {found : Option LiteralReading}
    (agree : ∀ offset, LiteralsAgree (readLiteral quote none offset text) found)
    (offset : Nat) :
    LiteralsAgree (readLiteral quote none offset (digits ++ text)) found := by
  induction digits generalizing offset with
  | nil => exact agree offset
  | cons c digits inductionHypothesis =>
      obtain ⟨digit, others⟩ := List.forall_mem_cons.mp areDigits
      rw [List.cons_append, readLiteral_part (.inr digit) (by grind)]
      exact (inductionHypothesis others _).cons_left _

/-- Digits in a literal are part of its value, whatever they are. -/
theorem LiteralsAgreeBelow.digits
    (below : LiteralsAgreeBelow quote n)
    (noDigit : quote.isDigit = false)
    {digits others : List Char}
    (areDigits : ∀ c ∈ digits, c.isDigit = true)
    (othersAreDigits : ∀ c ∈ others, c.isDigit = true)
    (short : first.length + 1 < n)
    (renumbered : Renumbered first second)
    (offset other : Nat) :
    LiteralsAgree (readLiteral quote none offset (digits ++ '(' :: first))
      (readLiteral quote none other (others ++ '(' :: second)) := by
  have behind (offset other : Nat) : LiteralsAgree
      (readLiteral quote none offset ('(' :: first)) (readLiteral quote none other ('(' :: second)) :=
    below (by simpa using short) (.cons '(' renumbered) none offset other
  refine .digits_left areDigits noDigit (fun offset => .symm ?_) offset
  exact .digits_left othersAreDigits noDigit (fun other => (behind offset other).symm) other

/-- A number in a literal is part of its value. -/
theorem LiteralsAgreeBelow.number
    (below : LiteralsAgreeBelow quote n)
    (separate : quote ≠ '_' ∧ quote.isDigit = false)
    {digits others : List Char}
    (areDigits : ∀ c ∈ digits, c.isDigit = true)
    (othersAreDigits : ∀ c ∈ others, c.isDigit = true)
    (short : first.length + 1 < n)
    (renumbered : Renumbered first second)
    (braced : Option Nat)
    (offset other : Nat) :
    LiteralsAgree (readLiteral quote braced offset ('_' :: (digits ++ '(' :: first)))
      (readLiteral quote braced other ('_' :: (others ++ '(' :: second))) := by
  have behind := below.digits separate.2 areDigits othersAreDigits short renumbered
  cases braced with
  | none =>
      rw [readLiteral_part (.inl rfl) separate.1.symm, readLiteral_part (.inl rfl) separate.1.symm]
      exact (behind _ _).map_cons _ _
  | some point =>
      have spoils (rest : List Char) (offset : Nat) :
          readLiteral quote (some point) offset ('_' :: rest) =
            (readLiteral quote none (offset + 1) rest).map .spoil := by
        rw [readLiteral, if_neg (by decide), show hexDigit? '_' = none by decide]
        exact if_neg separate.1.symm
      rw [spoils, spoils]
      exact (behind _ _).map_spoil

/-- Escapes are read alike. -/
theorem LiteralsAgreeBelow.escape
    (below : LiteralsAgreeBelow quote n)
    (noDigit : quote.isDigit = false)
    (short : first.length < n)
    (renumbered : Renumbered first second)
    (offset other : Nat) :
    LiteralsAgree (readLiteral quote none offset ('\\' :: first))
      (readLiteral quote none other ('\\' :: second)) := by
  cases renumbered with
  | nil =>
      rw [readLiteral.eq_def, readLiteral.eq_def quote none other]
      have ends := LiteralsAgree.ends false false (offset + 1) (other + 1) .nil
      grind [Option.Rel]
  | @number digits others first second areDigits othersAreDigits onward =>
      have underscore (offset : Nat) (rest : List Char) :
          readLiteral quote none offset ('\\' :: '_' :: rest) =
            (readLiteral quote none (offset + 2) rest).map (.cons '_'.toNat) := by
        have plain : isLineTerminator '_' = false ∧ isOctalDigit '_' = false ∧
            '_'.isDigit = false ∧ letterEscape '_' = '_'.toNat ∧ '_'.utf8Size = 1 := by decide
        rw [readLiteral.eq_def]
        grind
      rw [underscore, underscore]
      have shorter : first.length + 1 < n := by
        simp at short
        omega
      exact (below.digits noDigit areDigits othersAreDigits shorter onward _ _).map_cons _ _
  | @cons a first second onward =>
      have shorter : first.length < n := Nat.lt_of_succ_lt short
      by_cases byte : a = 'x'
      · subst byte
        exact below.digitsRead shorter onward readsDigits_byteAt? (readLiteral_byte _ _ _)
          (readLiteral_byte _ _ _)
      · by_cases unit : a = 'u'
        · subst unit
          by_cases brace : first.head? = some '\x7b'
          · obtain ⟨first, rfl⟩ := List.head?_eq_some_iff.mp brace
            obtain ⟨second, rfl, later⟩ := onward.exists_eq_cons (by decide)
            exact below.braced shorter later _ _
          · exact below.digitsRead shorter onward readsDigits_unitAt? (readLiteral_unit _ _ brace)
              (readLiteral_unit _ _ (onward.head?_eq ▸ brace))
        · exact below.simple shorter onward ⟨byte, unit⟩ _ _

theorem literalsAgreeBelow
    (separate : quote ≠ '_' ∧ quote.isDigit = false)
    (n : Nat) :
    LiteralsAgreeBelow quote n := by
  induction n with
  | zero => exact fun short => absurd short (Nat.not_lt_zero _)
  | succ n inductionHypothesis =>
      intro first second short renumbered braced offset other
      cases renumbered with
      | nil => simp [readLiteral]
      | number areDigits othersAreDigits onward =>
          exact inductionHypothesis.number separate areDigits othersAreDigits
            (by simp at short; omega) onward _ _ _
      | cons c onward =>
          have shorter := Nat.lt_of_succ_lt_succ short
          cases braced with
          | some point => exact inductionHypothesis.bracedPoint shorter onward _ _ _ _
          | none =>
              by_cases slash : c = '\\'
              · subst slash
                exact inductionHypothesis.escape separate.2 shorter onward _ _
              · exact inductionHypothesis.plain shorter onward slash _ _

theorem renumbered_readLiteral
    (separate : quote ≠ '_' ∧ quote.isDigit = false)
    (renumbered : Renumbered first second)
    (braced : Option Nat)
    (offset other : Nat) :
    LiteralsAgree (readLiteral quote braced offset first) (readLiteral quote braced other second) :=
  literalsAgreeBelow separate (first.length + 1) (Nat.lt_succ_self _) renumbered braced offset other

end

/-! ### Regular expressions -/

/-- A regular expression goes on behind characters that a number is made of. -/
theorem exists_readPattern_parts
    {parts : List Char}
    (areParts : ∀ c ∈ parts, c = '_' ∨ c.isDigit = true)
    (inClass : Bool)
    (offset : Nat)
    (rest : List Char) :
    ∃ behind, readPattern inClass offset (parts ++ rest) = readPattern inClass behind rest := by
  induction parts generalizing offset with
  | nil => exact ⟨offset, rfl⟩
  | cons c parts inductionHypothesis =>
      obtain ⟨part, others⟩ := List.forall_mem_cons.mp areParts
      have plain : c ≠ '\\' ∧ isLineTerminator c = false ∧ c ≠ '[' ∧ c ≠ ']' ∧ c ≠ '/' := by
        rcases part with rfl | digit
        · decide
        · exact Text.forall_isDigit
            (fun c => c ≠ '\\' ∧ isLineTerminator c = false ∧ c ≠ '[' ∧ c ≠ ']' ∧ c ≠ '/')
            (by decide) digit
      obtain ⟨behind, later⟩ := inductionHypothesis others (offset + c.utf8Size)
      refine ⟨behind, ?_⟩
      rw [← later, List.cons_append, readPattern.eq_def]
      grind

/-- The number in a regular expression is passed over. -/
theorem renumbered_readPattern_parts
    {first second : List Char}
    (behind : ∀ (inClass : Bool) (offset other : Nat), Option.Rel Place.Agree
      (readPattern inClass offset first) (readPattern inClass other second))
    {parts others : List Char}
    (areParts : ∀ c ∈ parts, c = '_' ∨ c.isDigit = true)
    (othersAreParts : ∀ c ∈ others, c = '_' ∨ c.isDigit = true)
    (inClass : Bool)
    (offset other : Nat) :
    Option.Rel Place.Agree (readPattern inClass offset (parts ++ first))
      (readPattern inClass other (others ++ second)) := by
  obtain ⟨_, passed⟩ := exists_readPattern_parts areParts inClass offset first
  obtain ⟨_, otherPassed⟩ := exists_readPattern_parts othersAreParts inClass other second
  rw [passed, otherPassed]
  exact behind _ _ _

theorem renumbered_readPattern
    {first second : List Char}
    (renumbered : Renumbered first second)
    (inClass : Bool)
    (offset other : Nat) :
    Option.Rel Place.Agree (readPattern inClass offset first)
      (readPattern inClass other second) := by
  cases renumbered with
  | nil => exact .none
  | @cons c first second onward =>
      have next := renumbered_readPattern onward
      have ends (offset other : Nat) : Option.Rel Place.Agree
          (some ⟨offset, first⟩) (some ⟨other, second⟩) :=
        .some onward
      rw [readPattern.eq_def, readPattern.eq_def inClass other]
      cases onward with
      | nil => grind [Option.Rel]
      | @cons d first second onward =>
          have later := renumbered_readPattern onward
          grind [Option.Rel]
      | number areDigits othersAreDigits onward =>
          have noTerminator : isLineTerminator '_' = false := by decide
          have later := renumbered_readPattern_parts (renumbered_readPattern (.cons '(' onward))
            (fun c present => .inr (areDigits c present))
            (fun c present => .inr (othersAreDigits c present))
          grind [Option.Rel]
  | number areDigits othersAreDigits onward =>
      have isNumber {digits : List Char} (areDigits : ∀ c ∈ digits, c.isDigit = true) :
          ∀ c ∈ '_' :: digits, c = '_' ∨ c.isDigit = true :=
        List.forall_mem_cons.mpr ⟨.inl rfl, fun c present => .inr (areDigits c present)⟩
      exact renumbered_readPattern_parts (renumbered_readPattern (.cons '(' onward))
        (isNumber areDigits) (isNumber othersAreDigits) inClass offset other
termination_by first.length

/-- Digits and underscores are alike in names. -/
theorem uniform_isIdentifierPart :
    Renumbered.Uniform Text.isIdentifierPart :=
  Renumbered.uniform_of_digits (by decide)

theorem renumbered_skipRegularExpression
    {place other : Place}
    (agree : place.Agree other) :
    Option.Rel Place.Agree (skipRegularExpression place) (skipRegularExpression other) := by
  obtain ⟨offset, rest⟩ := place
  obtain ⟨otherOffset, otherRest⟩ := other
  have renumbered : Renumbered rest otherRest := agree
  have closed (text : List Char) (offset : Nat) : skipRegularExpression ⟨offset, '/' :: text⟩ =
      (readPattern false (offset + 1) text).map (·.skipWhile Text.isIdentifierPart) :=
    rfl
  by_cases slash : rest.head? = some '/'
  · obtain ⟨rest, rfl⟩ := List.head?_eq_some_iff.mp slash
    obtain ⟨otherRest, rfl, onward⟩ := renumbered.exists_eq_cons (by decide)
    rw [closed, closed]
    exact optionRel_map (renumbered_readPattern onward _ _ _) (·.skipWhile uniform_isIdentifierPart)
  · have noSlash (text : List Char) (offset : Nat) (slash : text.head? ≠ some '/') :
        skipRegularExpression ⟨offset, text⟩ = none := by
      unfold skipRegularExpression
      split
      · next starts => exact absurd (congrArg List.head? starts) slash
      · rfl
    rw [noSlash rest _ slash, noSlash otherRest _ (renumbered.head?_eq ▸ slash)]
    exact .none

end Script
end MessageExpansion
