import MessageExpansion.Proofs.Script.Lexemes
import MessageExpansion.Text.Decimal
import MessageExpansion.Text.StringLiteral

/-!
# How tokens are spelled

Names, string literals, numerals and punctuators, each with what has to follow it in a text so that
the token ends where it should.  A string literal ends at its closing quote whatever its text is and
whatever follows.

A word of a text is a name that can be read at a place where no other name is being read.  Every
identifier of a script is a word of its text, however it is spelled; words in comments and in string
literals count as well.
-/

namespace MessageExpansion
namespace Script

open Text (byteLength isIdentifierStart isIdentifierPart isLineTerminator)

namespace Lexeme

/-- A name or keyword that is spelled without escapes. -/
def word (text : String) : Lexeme := { kind := .name text false, spelling := text.toList }

/-- A punctuator. -/
def mark (which : Punctuator) (spelling : List Char) : Lexeme :=
  { kind := .punctuator which, spelling }

/-- A string literal between double quotes. -/
def literal (value : String) : Lexeme :=
  { kind := .string (some value), spelling := (Text.stringLiteral value).toList }

/-- A decimal numeral. -/
def numeral (value : Nat) : Lexeme := { kind := .number, spelling := (toString value).toList }

@[simp] theorem word_kind (text : String) : (word text).kind = .name text false := rfl

@[simp] theorem word_newline (text : String) : (word text).newline = false := rfl

@[simp] theorem mark_kind (which : Punctuator) (spelling : List Char) :
    (mark which spelling).kind = .punctuator which := rfl

@[simp] theorem mark_newline (which : Punctuator) (spelling : List Char) :
    (mark which spelling).newline = false := rfl

@[simp] theorem numeral_kind (value : Nat) : (numeral value).kind = .number := rfl

@[simp] theorem numeral_newline (value : Nat) : (numeral value).newline = false := rfl

end Lexeme

/-! ### Characters -/

/-- What the members of a list pass holds of them.  Only they are tested, not all characters. -/
theorem forall_mem_of_all
    {chars : List Char}
    {holds : Char → Prop}
    [DecidablePred holds]
    (tested : (chars.all fun c => holds c) = true) :
    ∀ c ∈ chars, holds c :=
  fun c present => of_decide_eq_true (List.all_eq_true.mp tested c present)

theorem isDigit_eq_false_of_isIdentifierStart
    {c : Char}
    (begins : isIdentifierStart c = true) :
    c.isDigit = false := by
  cases digit : c.isDigit with
  | false => rfl
  | true =>
      have plain : isIdentifierStart c = false :=
        Text.forall_isDigit (isIdentifierStart · = false) (by decide) digit
      rw [plain] at begins
      cases begins

/-- A code point in a table is in one of its ranges. -/
theorem exists_range_of_containsPoint
    {table : Text.RangeTable}
    {point : Nat}
    (contained : table.containsPoint point = true) :
    ∃ range ∈ table, range.1 ≤ point ∧ point ≤ range.2 := by
  fun_induction Text.RangeTable.containsPoint table point with
  | case1 => cases contained
  | case2 => cases contained
  | case3 first last ranges point above within =>
      exact ⟨(first, last), List.mem_cons_self, Nat.le_of_not_lt above, within⟩
  | case4 first last ranges point above beyond inductionHypothesis =>
      obtain ⟨range, present, bounds⟩ := inductionHypothesis contained
      exact ⟨range, List.mem_cons_of_mem _ present, bounds⟩

/-- Names do not begin with blanks. -/
theorem isBlank_eq_false_of_isIdentifierStart
    {c : Char}
    (begins : isIdentifierStart c = true) :
    Text.isBlank c = false := by
  have blanks : ∀ range ∈ Text.blankRanges, ∀ k : Fin 16, range.1 + k ≤ range.2 →
      isIdentifierStart (Char.ofNat (range.1 + k)) = false := by decide +kernel
  have short : ∀ range ∈ Text.blankRanges, range.2 < range.1 + 16 := by decide
  cases blank : Text.isBlank c with
  | false => rfl
  | true =>
      obtain ⟨range, present, lower, upper⟩ := exists_range_of_containsPoint blank
      have size := short range present
      have index : range.1 + (c.toNat - range.1) = c.toNat := by omega
      have plain := blanks range present ⟨c.toNat - range.1, by omega⟩ (by simp only; omega)
      simp only [index, Char.ofNat_toNat] at plain
      rw [plain] at begins
      cases begins

theorem isIdentifierPart_of_isIdentifierStart
    {c : Char}
    (begins : isIdentifierStart c = true) :
    isIdentifierPart c = true := by
  unfold isIdentifierPart
  rw [begins]
  rfl

/-- A character that begins no name is not one that does. -/
theorem ne_of_isIdentifierStart
    {c other : Char}
    (begins : isIdentifierStart c = true)
    (plain : isIdentifierStart other = false) :
    c ≠ other := by
  rintro rfl
  rw [begins] at plain
  cases plain

/-- Names do not begin where gaps do. -/
theorem beginsGap_eq_false_of_isIdentifierStart
    {c : Char}
    (begins : isIdentifierStart c = true) :
    beginsGap c = false := by
  have noBlank := isBlank_eq_false_of_isIdentifierStart begins
  have noMark : c ≠ '\ufeff' := ne_of_isIdentifierStart begins (by decide +kernel)
  have noSlash : c ≠ '/' := ne_of_isIdentifierStart begins (by decide)
  have noTerminator : isLineTerminator c = false := by
    simp only [isLineTerminator, Bool.or_eq_false_iff, beq_eq_false_iff_ne]
    refine ⟨⟨⟨?_, ?_⟩, ?_⟩, ?_⟩ <;> exact ne_of_isIdentifierStart begins (by decide +kernel)
  simp [beginsGap, isScriptBlank, noTerminator, noBlank, noMark, noSlash]

theorem ne_backslash_of_isIdentifierPart
    {c : Char}
    (part : isIdentifierPart c = true) :
    c ≠ '\\' := by
  rintro rfl
  exact absurd part (by decide)

theorem isNamePoint_toNat
    (first : Bool)
    (c : Char) :
    isNamePoint first c.toNat = if first then isIdentifierStart c else isIdentifierPart c := by
  have valid := c.valid
  have range : c.toNat < 0x110000 ∧ (c.toNat < 0xD800 ∨ 0xDFFF < c.toNat) := by
    rcases valid with low | high
    · exact ⟨Nat.lt_trans low (by decide), .inl low⟩
    · exact ⟨high.2, .inr high.1⟩
  have noHigh : Text.isHighSurrogate c.toNat = false := by
    simp [Text.isHighSurrogate]
    omega
  have noLow : Text.isLowSurrogate c.toNat = false := by
    simp [Text.isLowSurrogate]
    omega
  simp [isNamePoint, range.1, noHigh, noLow, Char.ofNat_toNat]

/-! ### Names -/

/-- The characters of a name. -/
def IsName (chars : List Char) : Prop :=
  ∃ c rest, chars = c :: rest ∧ isIdentifierStart c = true ∧ ∀ d ∈ rest, isIdentifierPart d = true

instance : DecidablePred IsName
  | [] => isFalse fun ⟨_, _, equal, _⟩ => List.cons_ne_nil _ _ equal.symm
  | c :: rest =>
      decidable_of_iff (isIdentifierStart c = true ∧ rest.all isIdentifierPart = true)
        ⟨fun parts => ⟨c, rest, rfl, parts.1, List.all_eq_true.mp parts.2⟩,
          fun ⟨_, _, equal, parts⟩ => by cases equal; exact ⟨parts.1, List.all_eq_true.mpr parts.2⟩⟩

/-- A name ends before a text. -/
def EndsName (back : List Char) : Prop :=
  ∀ c ∈ back.head?, isIdentifierPart c = false ∧ c ≠ '\\'

/-- A name ends before a character that no name contains. -/
theorem endsName_cons
    {c : Char}
    {rest : List Char}
    (plain : (isIdentifierPart c || c == '\\') = false) :
    EndsName (c :: rest) := by
  rw [Bool.or_eq_false_iff, beq_eq_false_iff_ne] at plain
  intro d head
  cases head
  exact plain

theorem readName_of_parts
    {chars back : List Char}
    (offset : Nat)
    (parts : ∀ c ∈ chars, isIdentifierPart c = true)
    (ends : EndsName back) :
    readName false none offset (chars ++ back) =
      some ⟨chars, false, ⟨offset + byteLength chars, back⟩⟩ := by
  induction chars generalizing offset with
  | nil =>
      cases back with
      | nil => rfl
      | cons c rest =>
          obtain ⟨noPart, noEscape⟩ := ends c rfl
          have noPoint : isNamePoint false c.toNat = false := by
            rw [isNamePoint_toNat]
            exact noPart
          rw [List.nil_append, readName, if_neg noEscape, if_neg (by simp [noPoint])]
          · rfl
          -- The two other equations are for escapes.
          · exact fun _ _ escape => absurd escape noEscape
          · exact fun _ _ _ _ _ escape => absurd escape noEscape
  | cons c rest inductionHypothesis =>
      rw [List.forall_mem_cons] at parts
      have noEscape := ne_backslash_of_isIdentifierPart parts.1
      have point : isNamePoint false c.toNat = true := by
        rw [isNamePoint_toNat]
        exact parts.1
      rw [List.cons_append, readName, if_neg noEscape, if_pos point,
        inductionHypothesis _ parts.2, Option.map_some, NameReading.cons, Text.byteLength_cons,
        Nat.add_assoc]
      · rfl
      all_goals
        intros
        contradiction

/-- A name is read as it stands. -/
theorem readName_of_isName
    {chars back : List Char}
    (offset : Nat)
    (name : IsName chars)
    (ends : EndsName back) :
    readName true none offset (chars ++ back) =
      some ⟨chars, false, ⟨offset + byteLength chars, back⟩⟩ := by
  obtain ⟨c, rest, rfl, begins, parts⟩ := name
  have noEscape := ne_backslash_of_isIdentifierPart (isIdentifierPart_of_isIdentifierStart begins)
  have point : isNamePoint true c.toNat = true := by
    rw [isNamePoint_toNat]
    exact begins
  rw [List.cons_append, readName, if_neg noEscape, if_pos point,
    readName_of_parts _ parts ends, Option.map_some, NameReading.cons, Text.byteLength_cons,
    Nat.add_assoc]
  · rfl
  all_goals
    intros
    contradiction

/-- A name spells itself. -/
theorem spells_word
    {text : String}
    {back : List Char}
    (name : IsName text.toList)
    (ends : EndsName back) :
    Spells text.toList [.word text] back := by
  have parts := name
  obtain ⟨c, rest, equal, begins, _⟩ := parts
  have noDigit := isDigit_eq_false_of_isIdentifierStart begins
  have noDot : c ≠ '.' := ne_of_isIdentifierStart begins (by decide)
  have noQuote : ¬ (c = '"' ∨ c = '\'') := by
    rintro (quote | quote)
    · exact ne_of_isIdentifierStart begins (by decide) quote
    · exact ne_of_isIdentifierStart begins (by decide) quote
  have noHash : c ≠ '#' := ne_of_isIdentifierStart begins (by decide)
  unfold Lexeme.word
  rw [equal] at name ⊢
  refine .of_tokenAt (beginsGap_eq_false_of_isIdentifierStart begins) fun offset => ?_
  have read := readName_of_isName offset name ends
  have whole : String.ofList (c :: rest) = text := by rw [← equal, String.ofList_toList]
  unfold tokenAt
  simp only [List.cons_append] at read ⊢
  rw [if_neg (by simp [noDigit, noDot]), if_neg noQuote, if_neg noHash, if_pos (.inl begins),
    nameToken, read]
  simp only [whole]

/-! ### String literals -/

/-- An escape of one letter is read as what it stands for. -/
theorem readLiteral_letterEscape
    {a : Char}
    (offset : Nat)
    (rest : List Char)
    (plain : isLineTerminator a = false)
    (noNumeral : a ≠ 'x' ∧ a ≠ 'u' ∧ isOctalDigit a = false) :
    readLiteral '"' none offset ('\\' :: a :: rest) =
      (readLiteral '"' none (offset + 1 + a.utf8Size) rest).map (.cons (letterEscape a)) := by
  have noReturn : a ≠ '\r' := by
    rintro rfl
    cases plain
  obtain ⟨noHex, noUnicode, noOctal⟩ := noNumeral
  -- The reader looks up to two characters ahead.
  match rest with
  | [] => simp [readLiteral, plain, noHex, noUnicode, noOctal]
  | [b] => simp [readLiteral, plain, noReturn, noHex, noUnicode, noOctal]
  | b :: c :: rest => simp [readLiteral, plain, noReturn, noHex, noUnicode, noOctal]

/-- The escape of a control character is read as that character. -/
theorem readLiteral_unitEscape
    {c : Char}
    (offset : Nat)
    (rest : List Char)
    (control : c.toNat < 0x20) :
    let spelling :=
      ['\\', 'u', '0', '0', Nat.digitChar (c.toNat / 16), Nat.digitChar (c.toNat % 16)]
    readLiteral '"' none offset (spelling ++ rest) =
      (readLiteral '"' none (offset + byteLength spelling) rest).map (.cons c.toNat) := by
  have sizes : ∀ n : Fin 32, byteLength
      ['\\', 'u', '0', '0', Nat.digitChar (n / 16), Nat.digitChar (n % 16)] = 6 := by
    decide
  have unit := Text.hexUnit?_of_control control
  have size := sizes ⟨c.toNat, control⟩
  intro spelling
  rw [size]
  simp only [spelling, List.cons_append, List.nil_append]
  rw [readLiteral, unit]
  simp

/-- A character that needs no escape is read as it stands. -/
theorem readLiteral_plain
    {c : Char}
    (offset : Nat)
    (rest : List Char)
    (plain : c ≠ '"' ∧ c ≠ '\\' ∧ c ≠ '\n' ∧ c ≠ '\r') :
    readLiteral '"' none offset (c :: rest) =
      (readLiteral '"' none (offset + c.utf8Size) rest).map (.cons c.toNat) := by
  obtain ⟨noQuote, noEscape, noFeed, noReturn⟩ := plain
  by_cases interpolates : ∃ more, c = '$' ∧ rest = '\x7b' :: more
  · obtain ⟨more, rfl, rfl⟩ := interpolates
    rw [readLiteral, if_neg (by decide)]
    rfl
  · rw [readLiteral.eq_def]
    grind

/-- The spelling of a character of a string literal is read as that character. -/
theorem readLiteral_encodeChar
    (c : Char)
    (offset : Nat)
    (rest : List Char) :
    readLiteral '"' none offset (Text.StringLiteral.encodeChar c ++ rest) =
      (readLiteral '"' none (offset + byteLength (Text.StringLiteral.encodeChar c)) rest).map
        (.cons c.toNat) := by
  unfold Text.StringLiteral.encodeChar
  split
  · next quote =>
      subst quote
      exact readLiteral_letterEscape offset rest rfl (by decide)
  split
  · next backslash =>
      subst backslash
      exact readLiteral_letterEscape offset rest rfl (by decide)
  split
  · next feed =>
      subst feed
      exact readLiteral_letterEscape offset rest rfl (by decide)
  split
  · next carriage =>
      subst carriage
      exact readLiteral_letterEscape offset rest rfl (by decide)
  split
  · next tab =>
      subst tab
      exact readLiteral_letterEscape offset rest rfl (by decide)
  split
  · next backspace =>
      rw [backspace]
      exact readLiteral_letterEscape offset rest rfl (by decide)
  split
  · next formFeed =>
      rw [formFeed]
      exact readLiteral_letterEscape offset rest rfl (by decide)
  split
  · next control =>
      exact readLiteral_unitEscape offset rest control
  · rw [List.singleton_append, Text.byteLength_cons, Text.byteLength_nil, Nat.add_zero]
    exact readLiteral_plain offset rest ⟨‹_›, ‹_›, ‹_›, ‹_›⟩

/-- A string literal is read to its closing quote, and its value is its text. -/
theorem readLiteral_encode
    (text : List Char)
    (offset : Nat)
    (back : List Char) :
    readLiteral '"' none offset (Text.StringLiteral.encode text ++ '"' :: back) =
      some ⟨text.map Char.toNat, false, false,
        ⟨offset + byteLength (Text.StringLiteral.encode text) + 1, back⟩⟩ := by
  induction text generalizing offset with
  | nil =>
      rw [Text.StringLiteral.encode_nil, List.nil_append, readLiteral, if_pos rfl]
      · rfl
      all_goals
        intros
        contradiction
  | cons c rest inductionHypothesis =>
      rw [Text.StringLiteral.encode_cons, List.append_assoc, readLiteral_encodeChar,
        inductionHypothesis, Text.byteLength_append, ← Nat.add_assoc]
      rfl

/-- A string literal spells itself, whatever follows it. -/
theorem spells_literal
    (value : String)
    (back : List Char) :
    Spells (Text.stringLiteral value).toList [.literal value] back := by
  have spelling : (Text.stringLiteral value).toList =
      '"' :: (Text.StringLiteral.encode value.toList ++ ['"']) := String.toList_ofList
  unfold Lexeme.literal
  rw [spelling]
  refine .of_tokenAt (by decide) fun offset => ?_
  have read := readLiteral_encode value.toList (offset + 1) back
  have rest : Text.StringLiteral.encode value.toList ++ ['"'] ++ back =
      Text.StringLiteral.encode value.toList ++ '"' :: back := by simp
  unfold tokenAt
  simp only [List.cons_append, rest]
  have noNumber : ¬ ('"'.isDigit = true ∨ '"' = '.' ∧
      ((Text.StringLiteral.encode value.toList ++ '"' :: back).head?.map Char.isDigit).getD false =
        true) := by
    rintro (digit | dot)
    · cases digit
    · exact absurd dot.1 (by decide)
  have whole (stop : Place) :
      LiteralReading.text? ⟨value.toList.map Char.toNat, false, false, stop⟩ = some value := by
    rw [LiteralReading.text?, Text.joinSurrogates_map_toNat, Option.map_some, String.ofList_toList]
  have size : offset + 1 + byteLength (Text.StringLiteral.encode value.toList) + 1 =
      offset + byteLength ('"' :: (Text.StringLiteral.encode value.toList ++ ['"'])) := by
    rw [Text.byteLength_cons, Text.byteLength_append]
    show _ = offset + (1 + (_ + 1))
    omega
  rw [if_neg noNumber, if_pos (.inl trivial), read]
  simp only [whole, size]
  rfl

/-! ### Numerals -/

/-- A numeral ends before a text. -/
def EndsNumeral (back : List Char) : Prop :=
  ∃ c rest, back = c :: rest ∧ c ∈ [' ', ')', ';', ']', ',']

/-- Where a numeral ends, a name ends as well. -/
theorem EndsNumeral.endsName
    {back : List Char}
    (ends : EndsNumeral back) :
    EndsName back := by
  obtain ⟨c, rest, rfl, among⟩ := ends
  have plain : ∀ c ∈ [' ', ')', ';', ']', ','], isIdentifierPart c = false ∧ c ≠ '\\' :=
    forall_mem_of_all (by decide)
  intro d head
  cases head
  exact plain c among

theorem Place.skip_append
    (offset : Nat)
    (front back : List Char) :
    Place.skip ⟨offset, front ++ back⟩ front.length = ⟨offset + byteLength front, back⟩ := by
  simp [Place.skip]

/-- Digits are a whole number where a numeral ends. -/
theorem skipNumber_of_digits
    {digits back : List Char}
    (offset : Nat)
    (all : ∀ c ∈ digits, c.isDigit = true)
    (nonempty : digits ≠ [])
    (ends : EndsNumeral back) :
    skipNumber ⟨offset, digits ++ back⟩ = ⟨offset + byteLength digits, back⟩ := by
  obtain ⟨e, behind, rfl, among⟩ := ends
  have plainEnd : ∀ c ∈ [' ', ')', ';', ']', ','],
      isDecimalPart c = false ∧ c ∉ ['x', 'X', 'o', 'O', 'b', 'B', '.', 'e', 'E', 'n'] :=
    forall_mem_of_all (by decide)
  obtain ⟨noPart, noMark⟩ := plainEnd e among
  have skipped : Place.skipWhile ⟨offset, digits ++ e :: behind⟩ isDecimalPart =
      ⟨offset + byteLength digits, e :: behind⟩ := by
    have parts : ∀ c ∈ digits, isDecimalPart c = true := fun c present => by
      simp [isDecimalPart, all c present]
    rw [Place.skipWhile, List.takeWhile_append_of_pos parts,
      List.takeWhile_cons_of_neg (by simp [noPart]), List.append_nil, Place.skip_append]
  have noMore : skipBigMark (skipExponent (skipFraction
      ⟨offset + byteLength digits, e :: behind⟩)) = ⟨offset + byteLength digits, e :: behind⟩ := by
    simp only [List.mem_cons, List.not_mem_nil, or_false, not_or] at noMark
    cases behind <;> simp [skipFraction, skipExponent, skipBigMark, noMark]
  unfold skipNumber
  split
  · next base rest equal =>
      -- What follows the first digit is a digit or the end.
      have plainBase : base ∉ ['x', 'X', 'o', 'O', 'b', 'B'] := by
        obtain ⟨d, digits, rfl⟩ := List.exists_cons_of_ne_nil nonempty
        cases digits with
        | nil =>
            cases equal
            intro mark
            exact noMark (List.mem_append_left ['.', 'e', 'E', 'n'] mark)
        | cons d' digits =>
            cases equal
            intro mark
            have digit := all base (by simp)
            have noDigit : ∀ c ∈ ['x', 'X', 'o', 'O', 'b', 'B'], c.isDigit = false :=
              forall_mem_of_all (by decide)
            rw [noDigit base mark] at digit
            cases digit
      rw [if_neg (by simpa using plainBase), skipped, noMore]
  · rw [skipped, noMore]

/-- A numeral spells itself. -/
theorem spells_numeral
    {back : List Char}
    (value : Nat)
    (ends : EndsNumeral back) :
    Spells (toString value).toList [.numeral value] back := by
  have digits : (toString value).toList = Nat.toDigits 10 value := String.toList_ofList
  have all : ∀ c ∈ Nat.toDigits 10 value, c.isDigit = true := fun c present =>
    Nat.isDigit_of_mem_toDigits (by decide) (by decide) present
  have nonempty : Nat.toDigits 10 value ≠ [] := Nat.toDigits_ne_nil
  unfold Lexeme.numeral
  rw [digits]
  obtain ⟨c, rest, equal⟩ := List.exists_cons_of_ne_nil nonempty
  have digit : c.isDigit = true := all c (by simp [equal])
  have skipped (offset : Nat) := skipNumber_of_digits offset all nonempty ends
  rw [equal] at skipped ⊢
  have noGap : beginsGap c = false :=
    Text.forall_isDigit (beginsGap · = false) (by decide) digit
  refine .of_tokenAt noGap fun offset => ?_
  have endsHere : endsNumber back = true := by
    obtain ⟨e, behind, rfl, among⟩ := ends
    have plain : ∀ c ∈ [' ', ')', ';', ']', ','], endsNumber [c] = true :=
      forall_mem_of_all (by decide)
    exact plain e among
  unfold tokenAt
  simp only [List.cons_append] at skipped ⊢
  rw [if_pos (.inl digit), skipped]
  simp only [endsHere]
  rfl

/-! ### Punctuators -/

/-- A character that neither begins another kind of token nor may be part of a number. -/
def beginsPunctuator (c : Char) : Bool :=
  !(beginsGap c || c.isDigit || c == '.' || c == '"' || c == '\'' || c == '#' ||
    isIdentifierStart c || c == '\\')

/-- A punctuator spells itself where no longer one can be read. -/
theorem spells_punctuator
    {c : Char}
    {rest back : List Char}
    {which : Punctuator}
    (begins : beginsPunctuator c = true)
    (found : punctuatorAt? (c :: rest ++ back) = some (c :: rest, which)) :
    Spells (c :: rest) [.mark which (c :: rest)] back := by
  simp only [beginsPunctuator, Bool.not_eq_true', Bool.or_eq_false_iff,
    beq_eq_false_iff_ne] at begins
  obtain ⟨⟨⟨⟨⟨⟨⟨noGap, noDigit⟩, noDot⟩, noQuote⟩, noApostrophe⟩, noHash⟩, noName⟩, noEscape⟩ := begins
  refine .of_tokenAt noGap fun offset => ?_
  unfold tokenAt
  simp only [List.cons_append] at found ⊢
  rw [if_neg (by simp [noDigit, noDot]), if_neg (by simp [noQuote, noApostrophe]), if_neg noHash,
    if_neg (by simp [noName, noEscape]), found]
  simp only [← List.cons_append, Place.skip_append]

/-- A dot spells itself in front of what is no digit. -/
theorem spells_dot
    {c : Char}
    {rest : List Char}
    (noDigit : c.isDigit = false)
    (found : punctuatorAt? ('.' :: c :: rest) = some (['.'], .dot)) :
    Spells ['.'] [.mark .dot ['.']] (c :: rest) := by
  refine .of_tokenAt (by decide) fun offset => ?_
  unfold tokenAt
  simp only [List.cons_append, List.nil_append]
  rw [if_neg (by simp [noDigit]), if_neg (by decide), if_neg (by decide), if_neg (by decide), found]
  exact congrArg (Prod.mk _) (Place.skip_append offset ['.'] (c :: rest))

/-! ### Words of a text -/

/-- Behind a text a name may begin: it does not go on with one that was begun. -/
def OpensName (front : List Char) : Prop :=
  ∀ c ∈ front.getLast?, Text.isIdentifierPart c = false ∧ c ≠ '\\'

/-- A name is one of the words of a text, which may spell it with escapes. -/
def HasWord (text : List Char) (name : String) : Prop :=
  ∃ front back, text = front ++ back ∧ OpensName front ∧
    ∃ offset reading, readName true none offset back = some reading ∧ reading.chars = name.toList

/-- A name may begin behind a character that no name contains. -/
theorem opensName_concat
    {front : List Char}
    {c : Char}
    (plain : (Text.isIdentifierPart c || c == '\\') = false) :
    OpensName (front ++ [c]) := by
  rw [Bool.or_eq_false_iff, beq_eq_false_iff_ne] at plain
  intro d last
  rw [List.getLast?_concat] at last
  cases last
  exact plain

/-- A name that is spelled out between its bounds is a word. -/
theorem hasWord_append
    {front back : List Char}
    {name : String}
    (opens : OpensName front)
    (isName : IsName name.toList)
    (ends : EndsName back) :
    HasWord (front ++ (name.toList ++ back)) name :=
  ⟨front, name.toList ++ back, rfl, opens, 0, _, readName_of_isName 0 isName ends, rfl⟩

end Script
end MessageExpansion
