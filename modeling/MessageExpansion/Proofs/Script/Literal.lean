import MessageExpansion.Proofs.Script.Evaluation
import MessageExpansion.Proofs.Script.Spelling

/-!
# String literals by the rules of the language

The string literals between double quotes as the language defines them, apart from any reader: what
may stand between the quotes, which code units it denotes, and where the literal ends.  The rules
are those of modules, which know no octal escapes.  A text begins with at most one literal; so where
a text is printed as a literal, this one is read, whatever follows.
-/

namespace MessageExpansion
namespace Script

open Text (hexDigit? isLineTerminator)

/-! ### The rules -/

/-- The value of hexadecimal digits. -/
def hexadecimal? (digits : List Char) : Option Nat :=
  digits.foldlM (fun value c => (hexDigit? c).map (value * 16 + ·)) 0

/-- The code units of a code point. -/
def unitsOfPoint (point : Nat) : Units :=
  if point < 0x10000 then [UInt16.ofNat point]
  else
    [UInt16.ofNat (0xD800 + (point - 0x10000) / 0x400),
      UInt16.ofNat (0xDC00 + (point - 0x10000) % 0x400)]

theorem unitsOfPoint_toNat (c : Char) : unitsOfPoint c.toNat = unitsOfChar c := rfl

/-- The letters that stand for other characters behind a backslash. -/
def letterEscapes : List (Char × Char) :=
  [('b', '\u0008'), ('f', '\u000c'), ('n', '\n'), ('r', '\r'), ('t', '\t'), ('v', '\u000b')]

/-- Behind a backslash the character is a whole escape: it stands for another one or for itself. -/
def isEscapable (c : Char) : Bool := !(c.isDigit || c == 'x' || c == 'u' || isLineTerminator c)

/-- An escape in front of a text: the character behind the backslash, what else belongs to it, and
its code units. -/
inductive LiteralEscape : Char → (more : List Char) → Units → (behind : List Char) → Prop
  | character
      {c : Char}
      {behind : List Char}
      (escapable : isEscapable c = true) :
      LiteralEscape c [] (unitsOfPoint ((letterEscapes.lookup c).getD c).toNat) behind
  | zero
      {behind : List Char}
      (noDigit : ∀ c ∈ behind.head?, c.isDigit = false) :
      LiteralEscape '0' [] (unitsOfPoint 0) behind
  | byte
      {digits behind : List Char}
      {value : Nat}
      (two : digits.length = 2)
      (denoted : hexadecimal? digits = some value) :
      LiteralEscape 'x' digits (unitsOfPoint value) behind
  | unit
      {digits behind : List Char}
      {value : Nat}
      (four : digits.length = 4)
      (denoted : hexadecimal? digits = some value) :
      LiteralEscape 'u' digits (unitsOfPoint value) behind
  | point
      {digits behind : List Char}
      {value : Nat}
      (nonempty : digits ≠ [])
      (denoted : hexadecimal? digits = some value)
      (inRange : value ≤ 0x10FFFF) :
      LiteralEscape 'u' ('\x7b' :: digits ++ ['\x7d']) (unitsOfPoint value) behind
  /-- A line that ends behind a backslash goes on. -/
  | lineEnd
      {c : Char}
      {behind : List Char}
      (terminator : isLineTerminator c = true)
      (alone : c = '\r' → behind.head? ≠ some '\n') :
      LiteralEscape c [] [] behind
  | carriageReturn
      {behind : List Char} :
      LiteralEscape '\r' ['\n'] [] behind

/-- What may stand between the quotes of a literal, in front of a text, and its code units. -/
inductive LiteralPiece : (piece : List Char) → Units → (behind : List Char) → Prop
  | plain
      {c : Char}
      {behind : List Char}
      (noMark : c ∉ ['"', '\\', '\n', '\r']) :
      LiteralPiece [c] (unitsOfPoint c.toNat) behind
  | escape
      {c : Char}
      {more behind : List Char}
      {value : Units}
      (escape : LiteralEscape c more value behind) :
      LiteralPiece ('\\' :: c :: more) value behind

/-- A text begins with the pieces of a literal and its closing quote, and goes on behind them. -/
inductive LiteralBody : (text : List Char) → Units → (behind : List Char) → Prop
  | close
      (behind : List Char) :
      LiteralBody ('"' :: behind) [] behind
  | cons
      {piece rest behind : List Char}
      {front back : Units}
      (first : LiteralPiece piece front rest)
      (onward : LiteralBody rest back behind) :
      LiteralBody (piece ++ rest) (front ++ back) behind

/-- A text begins with a string literal that denotes code units, and goes on behind it. -/
def BeginsLiteral (text : List Char) (value : Units) (behind : List Char) : Prop :=
  ∃ body, text = '"' :: body ∧ LiteralBody body value behind

/-! ### A text is read in one way -/

theorem hexDigit?_of_hexadecimal?
    {digits : List Char}
    {value : Nat}
    (denoted : hexadecimal? digits = some value) :
    ∀ c ∈ digits, (hexDigit? c).isSome = true := by
  have onward (start : Nat) (read : (digits.foldlM
      (fun value c => (hexDigit? c).map (value * 16 + ·)) start).isSome = true) :
      ∀ c ∈ digits, (hexDigit? c).isSome = true := by
    clear denoted
    induction digits generalizing start with
    | nil => exact List.forall_mem_nil _
    | cons c rest inductionHypothesis =>
        rw [List.foldlM_cons] at read
        cases digit : hexDigit? c with
        | none =>
            rw [digit] at read
            cases read
        | some value =>
            rw [digit] at read
            exact List.forall_mem_cons.mpr ⟨by rw [digit]; rfl, inductionHypothesis _ read⟩
  exact onward 0 (Option.isSome_iff_exists.mpr ⟨value, denoted⟩)

/-- Digits end at the brace behind them. -/
theorem digits_eq_of_braced
    {digits others behind rest : List Char}
    {value read : Nat}
    (denoted : hexadecimal? digits = some value)
    (otherDenoted : hexadecimal? others = some read)
    (same : digits ++ '\x7d' :: behind = others ++ '\x7d' :: rest) :
    digits = others := by
  have front {digits : List Char} {value : Nat} (denoted : hexadecimal? digits = some value)
      (behind : List Char) :
      (digits ++ '\x7d' :: behind).takeWhile (fun c => (hexDigit? c).isSome) = digits := by
    rw [List.takeWhile_append_of_pos (hexDigit?_of_hexadecimal? denoted),
      List.takeWhile_cons_of_neg (by decide), List.append_nil]
  rw [← front denoted behind, same, front otherDenoted rest]

/-- Equally many digits that a text begins with are the same. -/
theorem digits_eq_of_length_eq
    {digits others behind rest : List Char}
    {value read : Nat}
    (denoted : hexadecimal? digits = some value)
    (otherDenoted : hexadecimal? others = some read)
    (length : digits.length = others.length)
    (same : digits ++ behind = others ++ rest) :
    digits = others ∧ unitsOfPoint value = unitsOfPoint read ∧ behind = rest := by
  obtain ⟨rfl, rfl⟩ := List.append_inj same length
  rw [denoted] at otherDenoted
  cases otherDenoted
  exact ⟨rfl, rfl, rfl⟩

theorem isLineTerminator_of_isEscapable
    {c : Char}
    (escapable : isEscapable c = true) :
    isLineTerminator c = false := by
  simp only [isEscapable, Bool.not_eq_true', Bool.or_eq_false_iff] at escapable
  exact escapable.2

/-- No brace is a digit. -/
theorem ne_brace_of_hexadecimal?
    {digits behind rest : List Char}
    {value : Nat}
    (denoted : hexadecimal? digits = some value)
    (four : digits.length = 4) :
    digits ++ behind ≠ '\x7b' :: rest := by
  obtain ⟨c, more, rfl⟩ := List.exists_cons_of_length_eq_add_one four
  intro same
  cases (List.cons.inj same).1
  exact absurd (hexDigit?_of_hexadecimal? denoted '\x7b' List.mem_cons_self) (by decide)

/-- Behind a backslash there is at most one escape. -/
theorem LiteralEscape.unique
    {c : Char}
    {more others behind rest : List Char}
    {value read : Units}
    (first : LiteralEscape c more value behind)
    (second : LiteralEscape c others read rest)
    (same : more ++ behind = others ++ rest) :
    more = others ∧ value = read ∧ behind = rest := by
  cases first with
  | character escapable =>
      cases second with
      | character _ => exact ⟨rfl, rfl, same⟩
      | lineEnd terminator _ =>
          rw [isLineTerminator_of_isEscapable escapable] at terminator
          cases terminator
      | _ => exact absurd escapable (by decide)
  | zero _ =>
      cases second with
      | zero _ => exact ⟨rfl, rfl, same⟩
      | character escapable => exact absurd escapable (by decide)
      | lineEnd terminator _ => exact absurd terminator (by decide)
  | byte two denoted =>
      cases second with
      | byte otherTwo otherDenoted =>
          exact digits_eq_of_length_eq denoted otherDenoted (two.trans otherTwo.symm) same
      | character escapable => exact absurd escapable (by decide)
      | lineEnd terminator _ => exact absurd terminator (by decide)
  | unit four denoted =>
      cases second with
      | unit otherFour otherDenoted =>
          exact digits_eq_of_length_eq denoted otherDenoted (four.trans otherFour.symm) same
      | point _ _ _ => exact absurd same (ne_brace_of_hexadecimal? denoted four)
      | character escapable => exact absurd escapable (by decide)
      | lineEnd terminator _ => exact absurd terminator (by decide)
  | point _ denoted _ =>
      cases second with
      | point _ otherDenoted _ =>
          simp only [List.cons_append, List.append_assoc, List.nil_append, List.cons.injEq,
            true_and] at same
          obtain rfl := digits_eq_of_braced denoted otherDenoted same
          rw [denoted] at otherDenoted
          cases otherDenoted
          exact ⟨rfl, rfl, (List.cons.inj (List.append_cancel_left same)).2⟩
      | unit four otherDenoted =>
          exact absurd same.symm (ne_brace_of_hexadecimal? otherDenoted four)
      | character escapable => exact absurd escapable (by decide)
      | lineEnd terminator _ => exact absurd terminator (by decide)
  | lineEnd terminator alone =>
      cases second with
      | lineEnd _ _ => exact ⟨rfl, rfl, same⟩
      | carriageReturn =>
          rw [List.nil_append] at same
          exact absurd (by rw [same]; rfl) (alone rfl)
      | character escapable =>
          rw [isLineTerminator_of_isEscapable escapable] at terminator
          cases terminator
      | _ => exact absurd terminator (by decide)
  | carriageReturn =>
      cases second with
      | carriageReturn => exact ⟨rfl, rfl, List.append_cancel_left same⟩
      | lineEnd _ alone =>
          rw [List.nil_append] at same
          exact absurd (by rw [← same]; rfl) (alone rfl)
      | character escapable => exact absurd escapable (by decide)

theorem LiteralPiece.unique
    {piece other behind rest : List Char}
    {value read : Units}
    (first : LiteralPiece piece value behind)
    (second : LiteralPiece other read rest)
    (same : piece ++ behind = other ++ rest) :
    value = read ∧ behind = rest := by
  cases first with
  | plain noMark =>
      cases second with
      | plain _ =>
          cases same
          exact ⟨rfl, rfl⟩
      | escape _ =>
          cases same
          exact absurd noMark (by decide)
  | escape first =>
      cases second with
      | plain noMark =>
          cases same
          exact absurd noMark (by decide)
      | escape second =>
          obtain ⟨_, behindSame⟩ := List.cons.inj same
          obtain ⟨rfl, moreSame⟩ := List.cons.inj behindSame
          exact (first.unique second moreSame).2

/-- No piece begins with a quote. -/
theorem LiteralPiece.ne_quote
    {piece rest behind : List Char}
    {value : Units}
    (read : LiteralPiece piece value rest) :
    piece ++ rest ≠ '"' :: behind := by
  intro same
  cases read with
  | plain noMark =>
      cases same
      exact absurd noMark (by decide)
  | escape _ => cases same

theorem LiteralBody.unique
    {text behind rest : List Char}
    {value read : Units}
    (first : LiteralBody text value behind)
    (second : LiteralBody text read rest) :
    value = read ∧ behind = rest := by
  induction first generalizing read rest with
  | close behind =>
      generalize quoted : '"' :: behind = text at second
      cases second with
      | close _ => exact ⟨rfl, (List.cons.inj quoted).2⟩
      | cons first _ => exact absurd quoted.symm first.ne_quote
  | @cons piece after behind front back first _ inductionHypothesis =>
      generalize same : piece ++ after = text at second
      cases second with
      | close _ => exact absurd same first.ne_quote
      | cons other onward =>
          obtain ⟨rfl, rfl⟩ := first.unique other same
          obtain ⟨rfl, rfl⟩ := inductionHypothesis onward
          exact ⟨rfl, rfl⟩

/-- A text begins with at most one literal. -/
theorem BeginsLiteral.unique
    {text behind rest : List Char}
    {value read : Units}
    (first : BeginsLiteral text value behind)
    (second : BeginsLiteral text read rest) :
    value = read ∧ behind = rest := by
  obtain ⟨body, rfl, firstBody⟩ := first
  obtain ⟨other, same, secondBody⟩ := second
  cases same
  exact firstBody.unique secondBody

/-! ### Texts that are printed as literals -/

/-- A character is printed as it is, as an escape of one letter, or by its number. -/
theorem encodeChar_cases
    (c : Char) :
    (Text.StringLiteral.encodeChar c = [c] ∧ c ∉ ['"', '\\', '\n', '\r']) ∨
      (∃ letter, Text.StringLiteral.encodeChar c = ['\\', letter] ∧ isEscapable letter = true ∧
        (letterEscapes.lookup letter).getD letter = c) ∨
      ∃ digits, Text.StringLiteral.encodeChar c = '\\' :: 'u' :: digits ∧ digits.length = 4 ∧
        hexadecimal? digits = some c.toNat := by
  have numbers : ∀ point : Fin 32, hexadecimal?
      ['0', '0', Nat.digitChar (point / 16), Nat.digitChar (point % 16)] = some point.val := by
    decide
  unfold Text.StringLiteral.encodeChar
  split
  · next quote => exact .inr (.inl ⟨_, rfl, by decide, quote.symm⟩)
  split
  · next backslash => exact .inr (.inl ⟨_, rfl, by decide, backslash.symm⟩)
  split
  · next feed => exact .inr (.inl ⟨_, rfl, by decide, feed.symm⟩)
  split
  · next carriage => exact .inr (.inl ⟨_, rfl, by decide, carriage.symm⟩)
  split
  · next tab => exact .inr (.inl ⟨_, rfl, by decide, tab.symm⟩)
  split
  · next backspace =>
      exact .inr (.inl ⟨_, rfl, by decide, Char.toNat_inj.mp backspace.symm⟩)
  split
  · next formFeed =>
      exact .inr (.inl ⟨_, rfl, by decide, Char.toNat_inj.mp formFeed.symm⟩)
  split
  · next control => exact .inr (.inr ⟨_, rfl, rfl, numbers ⟨c.toNat, control⟩⟩)
  · refine .inl ⟨rfl, ?_⟩
    simp [*]

/-- However it is printed, it is one piece of a literal and denotes itself. -/
theorem literalPiece_encodeChar
    (c : Char)
    (behind : List Char) :
    LiteralPiece (Text.StringLiteral.encodeChar c) (unitsOfChar c) behind := by
  rw [← unitsOfPoint_toNat]
  rcases encodeChar_cases c with ⟨printed, noMark⟩ | ⟨letter, printed, escapable, rfl⟩ |
    ⟨digits, printed, four, denoted⟩
  · rw [printed]
    exact .plain noMark
  · rw [printed]
    exact .escape (.character escapable)
  · rw [printed]
    exact .escape (.unit four denoted)

theorem literalBody_encode
    (text behind : List Char) :
    LiteralBody (Text.StringLiteral.encode text ++ '"' :: behind) (text.flatMap unitsOfChar)
      behind := by
  induction text with
  | nil => exact .close behind
  | cons c rest inductionHypothesis =>
      rw [Text.StringLiteral.encode_cons, List.append_assoc, List.flatMap_cons]
      exact .cons (literalPiece_encodeChar c _) inductionHypothesis

/-- What is left of the inside of a literal without its backslashes and the characters behind
them. -/
def outsideEscapes : List Char → List Char
  | '\\' :: _ :: rest => outsideEscapes rest
  | c :: rest => c :: outsideEscapes rest
  | [] => []

theorem outsideEscapes_cons
    {c : Char}
    (rest : List Char)
    (plain : c ≠ '\\') :
    outsideEscapes (c :: rest) = c :: outsideEscapes rest := by
  rw [outsideEscapes]
  rintro d more rfl
  exact absurd rfl plain

theorem outsideEscapes_append
    {front : List Char}
    (rest : List Char)
    (plain : ∀ c ∈ front, c ≠ '\\') :
    outsideEscapes (front ++ rest) = front ++ outsideEscapes rest := by
  induction front with
  | nil => rfl
  | cons c front inductionHypothesis =>
      obtain ⟨here, others⟩ := List.forall_mem_cons.mp plain
      rw [List.cons_append, outsideEscapes_cons _ here, inductionHypothesis others,
        List.cons_append]

theorem not_mark_of_hexDigit?
    {c : Char}
    (digit : (hexDigit? c).isSome = true) :
    c ∉ ['"', '\\', '\n', '\r'] := by
  have marks : ∀ c ∈ ['"', '\\', '\n', '\r'], (hexDigit? c).isSome = false :=
    forall_mem_of_all (by decide)
  intro mark
  rw [marks c mark] at digit
  cases digit

/-- Outside escapes there is no character that has a meaning of its own. -/
theorem not_mark_of_mem_outsideEscapes
    {text : List Char} :
    ∀ c ∈ outsideEscapes (Text.StringLiteral.encode text), c ∉ ['"', '\\', '\n', '\r'] := by
  induction text with
  | nil => exact List.forall_mem_nil _
  | cons c rest inductionHypothesis =>
      rw [Text.StringLiteral.encode_cons]
      rcases encodeChar_cases c with ⟨printed, noMark⟩ | ⟨letter, printed, _⟩ |
        ⟨digits, printed, _, denoted⟩
      · rw [printed, List.singleton_append, outsideEscapes_cons]
        · exact List.forall_mem_cons.mpr ⟨noMark, inductionHypothesis⟩
        · rintro rfl
          exact absurd noMark (by decide)
      · rw [printed]
        exact inductionHypothesis
      · have noMarks c present :=
          not_mark_of_hexDigit? (hexDigit?_of_hexadecimal? denoted c present)
        rw [printed]
        change ∀ c ∈ outsideEscapes (digits ++ Text.StringLiteral.encode rest), _
        rw [outsideEscapes_append, List.forall_mem_append]
        · exact ⟨noMarks, inductionHypothesis⟩
        · rintro c present rfl
          exact absurd (noMarks _ present) (by decide)

/-- Ends of lines are not printed as they are. -/
theorem not_lineEnd_of_mem_encode
    {text : List Char}
    {c : Char}
    (present : c ∈ Text.StringLiteral.encode text) :
    c ∉ ['\n', '\r'] := by
  obtain ⟨d, _, among⟩ := List.mem_flatMap.mp present
  intro lineEnd
  have mark : c ∈ ['"', '\\', '\n', '\r'] := List.mem_append_right ['"', '\\'] lineEnd
  rcases encodeChar_cases d with ⟨printed, noMark⟩ | ⟨letter, printed, escapable, _⟩ |
    ⟨digits, printed, _, denoted⟩
  · rw [printed, List.mem_singleton] at among
    exact noMark (among ▸ mark)
  · have plain : ∀ c ∈ ['\n', '\r'], c ≠ '\\' ∧ isEscapable c = false :=
      forall_mem_of_all (by decide)
    obtain ⟨noBackslash, notEscapable⟩ := plain c lineEnd
    simp only [printed, List.mem_cons, List.not_mem_nil, or_false] at among
    rw [among.resolve_left noBackslash, escapable] at notEscapable
    cases notEscapable
  · have plain : ∀ c ∈ ['\n', '\r'], c ≠ '\\' ∧ c ≠ 'u' := forall_mem_of_all (by decide)
    obtain ⟨noBackslash, noLetter⟩ := plain c lineEnd
    rw [printed, List.mem_cons, List.mem_cons] at among
    have digit := (among.resolve_left noBackslash).resolve_left noLetter
    exact not_mark_of_hexDigit? (hexDigit?_of_hexadecimal? denoted c digit) mark

/-- The text is a string literal of a value, wherever it stands. -/
structure IsLiteralOf (text : List Char) (value : String) : Prop where
  /-- Whatever follows it, the literal that is read ends with it and denotes the value. -/
  begins : ∀ behind read rest, BeginsLiteral (text ++ behind) read rest ↔
    read = units value ∧ rest = behind
  /-- Between its quotes there are no quotes, backslashes or ends of lines apart from escapes. -/
  escaped : ∃ inside, text = '"' :: inside ++ ['"'] ∧
    ∀ c ∈ outsideEscapes inside, c ∉ ['"', '\\', '\n', '\r']
  /-- It is on one line. -/
  oneLine : '\n' ∉ text ∧ '\r' ∉ text
  /-- Scripts that contain it are read in the same way. -/
  spells : ∀ behind, Spells text [{ kind := .string (some value), spelling := text }] behind

/-- Every text is printed as a literal of itself. -/
theorem isLiteralOf_stringLiteral
    (value : String) :
    IsLiteralOf (Text.stringLiteral value).toList value := by
  have printed : (Text.stringLiteral value).toList =
      '"' :: Text.StringLiteral.encode value.toList ++ ['"'] := String.toList_ofList
  refine ⟨fun behind read rest => ?_, ⟨_, printed, not_mark_of_mem_outsideEscapes⟩, ?_,
    spells_literal value⟩
  · have begins : BeginsLiteral ((Text.stringLiteral value).toList ++ behind) (units value) behind := by
      refine ⟨_, ?_, literalBody_encode value.toList behind⟩
      rw [printed]
      simp
    constructor
    · intro read
      obtain ⟨rfl, rfl⟩ := read.unique begins
      exact ⟨rfl, rfl⟩
    · rintro ⟨rfl, rfl⟩
      exact begins
  · have oneLine : ∀ c ∈ (Text.stringLiteral value).toList, c ∉ ['\n', '\r'] := by
      rw [printed, List.forall_mem_append, List.forall_mem_cons, List.forall_mem_singleton]
      exact ⟨⟨by decide, fun c present => not_lineEnd_of_mem_encode present⟩, by decide⟩
    constructor
    · exact fun present => oneLine _ present (by decide)
    · exact fun present => oneLine _ present (by decide)

end Script
end MessageExpansion
