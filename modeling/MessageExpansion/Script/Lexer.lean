import MessageExpansion.Script.Token
import MessageExpansion.Text.Blank
import MessageExpansion.Text.IdentifierName
import MessageExpansion.Text.Lines
import MessageExpansion.Text.Surrogates

/-!
# Reading tokens

The lexical grammar of scripts.  Every reader starts at a place of the text and ends at a later
one.  Some tokens depend on what the grammar expects: a slash may begin a regular expression, and a
closing brace may continue a template, so these readers are called by the grammar.
-/

namespace MessageExpansion
namespace Script

open Text (isLineTerminator hexDigit? hexByte? hexUnit? joinSurrogates)

/-- A place in a text: its byte offset, and the characters from there on. -/
structure Place where
  /-- The byte offset. -/
  offset : Nat
  /-- The characters that follow. -/
  rest : List Char

namespace Place

/-- The place behind a run of characters that the text continues with. -/
def skip (place : Place) (count : Nat) : Place :=
  ⟨place.offset + Text.byteLength (place.rest.take count), place.rest.drop count⟩

/-- The place behind the characters that satisfy a test. -/
def skipWhile (place : Place) (test : Char → Bool) : Place :=
  place.skip (place.rest.takeWhile test).length

end Place

/-! ### Blanks and comments -/

/-- What kind of gap between tokens is being skipped. -/
inductive Gap where
  | blank
  | lineComment
  | blockComment
deriving DecidableEq

/-- A blank of scripts that ends no line. -/
def isScriptBlank (c : Char) : Bool :=
  Text.isBlank c && c != '\x85' && !isLineTerminator c || c == '\ufeff'

/--
The place of the next token, and whether a line ends before it; none if a comment is not closed.
-/
def skipGap : Gap → (newline : Bool) → (offset : Nat) → List Char → Option (Bool × Place)
  | .blank, newline, offset, [] => some (newline, ⟨offset, []⟩)
  | .blank, newline, offset, '/' :: '/' :: rest => skipGap .lineComment newline (offset + 2) rest
  | .blank, newline, offset, '/' :: '*' :: rest => skipGap .blockComment newline (offset + 2) rest
  | .blank, newline, offset, c :: rest =>
      if isLineTerminator c then skipGap .blank true (offset + c.utf8Size) rest
      else if isScriptBlank c then skipGap .blank newline (offset + c.utf8Size) rest
      else some (newline, ⟨offset, c :: rest⟩)
  | .lineComment, newline, offset, [] => some (newline, ⟨offset, []⟩)
  | .lineComment, newline, offset, c :: rest =>
      if isLineTerminator c then skipGap .blank true (offset + c.utf8Size) rest
      else skipGap .lineComment newline (offset + c.utf8Size) rest
  | .blockComment, _, _, [] => none
  | .blockComment, newline, offset, '*' :: '/' :: rest => skipGap .blank newline (offset + 2) rest
  | .blockComment, newline, offset, c :: rest =>
      skipGap .blockComment (newline || isLineTerminator c) (offset + c.utf8Size) rest

/-! ### Names -/

/-- The code point may stand at this place of a name. -/
def isNamePoint (first : Bool) (point : Nat) : Bool :=
  point < 0x110000 && !Text.isHighSurrogate point && !Text.isLowSurrogate point &&
    (if first then Text.isIdentifierStart (Char.ofNat point)
    else Text.isIdentifierPart (Char.ofNat point))

/-- A name as it is read: its characters, whether escapes occur, and the place behind it. -/
structure NameReading where
  chars : List Char
  escaped : Bool
  stop : Place

/-- Put a character in front of a name. -/
def NameReading.cons (c : Char) (escaped : Bool) (name : NameReading) : NameReading :=
  ⟨c :: name.chars, escaped || name.escaped, name.stop⟩

/--
The name that the text continues with.  `braced` holds the value of an escape in braces that is
being read; the reading is none if an escape is malformed.
-/
def readName (first : Bool) :
    (braced : Option Nat) → (offset : Nat) → List Char → Option NameReading
  | none, offset, [] => some ⟨[], false, ⟨offset, []⟩⟩
  | some _, _, [] => none
  | some point, offset, c :: rest =>
      if c = '\x7d' then
        if isNamePoint first point then
          (readName false none (offset + 1) rest).map (.cons (Char.ofNat point) true)
        else none
      else
        match hexDigit? c with
        | some digit =>
            if point < 0x110000 then readName first (some (point * 16 + digit)) (offset + 1) rest
            else none
        | none => none
  | none, offset, '\\' :: 'u' :: '\x7b' :: c :: rest =>
      match hexDigit? c with
      | some digit => readName first (some digit) (offset + 4) rest
      | none => none
  | none, offset, '\\' :: 'u' :: a :: b :: c :: d :: rest =>
      match hexUnit? a b c d with
      | some point =>
          if isNamePoint first point then
            (readName false none (offset + 6) rest).map (.cons (Char.ofNat point) true)
          else none
      | none => none
  | none, offset, c :: rest =>
      if c = '\\' then none
      else if isNamePoint first c.toNat then
        (readName false none (offset + c.utf8Size) rest).map (.cons c false)
      else some ⟨[], false, ⟨offset, c :: rest⟩⟩

/-! ### Strings and templates -/

/-- The end of a string or of a piece of a template. -/
structure LiteralReading where
  /-- The code points of the value. -/
  points : List Nat
  /-- Some escape has no meaning. -/
  malformed : Bool
  /-- The piece ends where an interpolation begins. -/
  interpolated : Bool
  /-- The place behind the closing quote, or behind the mark of the interpolation. -/
  stop : Place

/-- Put a code point in front of a value. -/
def LiteralReading.cons (point : Nat) (literal : LiteralReading) : LiteralReading :=
  { literal with points := point :: literal.points }

/-- Say that an escape has no meaning. -/
def LiteralReading.spoil (literal : LiteralReading) : LiteralReading :=
  { literal with malformed := true }

/-- The text of a value; none if it holds a lone surrogate. -/
def LiteralReading.text? (literal : LiteralReading) : Option String :=
  (joinSurrogates literal.points).map String.ofList

/-- A digit of an octal numeral. -/
def isOctalDigit (c : Char) : Bool := '0' ≤ c && c ≤ '7'

/-- The value of a digit. -/
def digitValue (c : Char) : Nat := c.toNat - '0'.toNat

/-- The value of an escape with one letter; other characters stand for themselves. -/
def letterEscape (c : Char) : Nat :=
  match c with
  | 'b' => 0x8
  | 't' => 0x9
  | 'n' => 0xA
  | 'v' => 0xB
  | 'f' => 0xC
  | 'r' => 0xD
  | other => other.toNat

/--
The rest of a literal after its opening quote.  A backtick is the quote of templates, which may
contain line terminators (each counts as a line feed) and interpolations; other literals end with
their line, unless the terminator is escaped.  `braced` is as for names.
-/
def readLiteral (quote : Char) :
    (braced : Option Nat) → (offset : Nat) → List Char → Option LiteralReading
  | _, _, [] => none
  | some point, offset, c :: rest =>
      if c = '\x7d' then
        if point < 0x110000 then (readLiteral quote none (offset + 1) rest).map (.cons point)
        else (readLiteral quote none (offset + 1) rest).map .spoil
      else
        match hexDigit? c with
        | some digit =>
            readLiteral quote (some (min 0x110000 (point * 16 + digit))) (offset + 1) rest
        | none =>
            if c = quote then some ⟨[], true, false, ⟨offset + 1, rest⟩⟩
            else (readLiteral quote none (offset + c.utf8Size) rest).map .spoil
  | none, offset, '\\' :: '\r' :: '\n' :: rest => readLiteral quote none (offset + 3) rest
  | none, offset, '\\' :: 'x' :: a :: b :: rest =>
      match hexByte? a b with
      | some point => (readLiteral quote none (offset + 4) rest).map (.cons point)
      | none => (readLiteral quote none (offset + 2) (a :: b :: rest)).map .spoil
  | none, offset, '\\' :: 'u' :: '\x7b' :: c :: rest =>
      match hexDigit? c with
      | some digit => readLiteral quote (some digit) (offset + 4) rest
      | none => (readLiteral quote none (offset + 3) (c :: rest)).map .spoil
  | none, offset, '\\' :: 'u' :: a :: b :: c :: d :: rest =>
      match hexUnit? a b c d with
      | some point => (readLiteral quote none (offset + 6) rest).map (.cons point)
      | none => (readLiteral quote none (offset + 2) (a :: b :: c :: d :: rest)).map .spoil
  | none, offset, '\\' :: a :: rest =>
      if isLineTerminator a then readLiteral quote none (offset + 1 + a.utf8Size) rest
      else if a = 'x' ∨ a = 'u' then (readLiteral quote none (offset + 2) rest).map .spoil
      else if isOctalDigit a then
        match rest with
        | b :: more =>
            if a = '0' ∧ !b.isDigit then
              (readLiteral quote none (offset + 2) (b :: more)).map (.cons 0)
            else if quote = '\x60' then
              (readLiteral quote none (offset + 2) (b :: more)).map .spoil
            else if isOctalDigit b then
              match more with
              | c :: final =>
                  if a ≤ '3' ∧ isOctalDigit c then
                    (readLiteral quote none (offset + 4) final).map
                      (.cons (digitValue a * 64 + digitValue b * 8 + digitValue c))
                  else
                    (readLiteral quote none (offset + 3) (c :: final)).map
                      (.cons (digitValue a * 8 + digitValue b))
              | [] => none
            else (readLiteral quote none (offset + 2) (b :: more)).map (.cons (digitValue a))
        | [] => none
      else if quote = '\x60' ∧ a.isDigit then
        (readLiteral quote none (offset + 2) rest).map .spoil
      else
        (readLiteral quote none (offset + 1 + a.utf8Size) rest).map (.cons (letterEscape a))
  | none, offset, '$' :: '\x7b' :: rest =>
      if quote = '\x60' then some ⟨[], false, true, ⟨offset + 2, rest⟩⟩
      else (readLiteral quote none (offset + 1) ('\x7b' :: rest)).map (.cons 0x24)
  | none, offset, '\r' :: '\n' :: rest =>
      if quote = '\x60' then (readLiteral quote none (offset + 2) rest).map (.cons 0xA) else none
  | none, offset, c :: rest =>
      if c = quote then some ⟨[], false, false, ⟨offset + 1, rest⟩⟩
      else if c = '\r' ∨ c = '\n' then
        if quote = '\x60' then (readLiteral quote none (offset + 1) rest).map (.cons 0xA) else none
      else if c = '\\' then none
      else (readLiteral quote none (offset + c.utf8Size) rest).map (.cons c.toNat)

/-! ### Numbers and regular expressions -/

/-- A hexadecimal digit, or a separator between digits. -/
def isHexPart (c : Char) : Bool := (hexDigit? c).isSome || c == '_'

/-- A decimal digit, or a separator between digits. -/
def isDecimalPart (c : Char) : Bool := c.isDigit || c == '_'

/-- The exponent of a number, if there is one. -/
def skipExponent (place : Place) : Place :=
  match place.rest with
  | e :: sign :: rest =>
      if e = 'e' ∨ e = 'E' then
        if sign.isDigit then (place.skip 1).skipWhile isDecimalPart
        else if (sign = '+' ∨ sign = '-') ∧ (rest.head?.map Char.isDigit).getD false then
          (place.skip 2).skipWhile isDecimalPart
        else place
      else place
  | _ => place

/-- The fraction of a number, if there is one. -/
def skipFraction (place : Place) : Place :=
  match place.rest with
  | '.' :: _ => (place.skip 1).skipWhile isDecimalPart
  | _ => place

/-- The mark of a big integer, if there is one. -/
def skipBigMark (place : Place) : Place :=
  match place.rest with
  | 'n' :: _ => place.skip 1
  | _ => place

/-- The place behind the number that the text continues with. -/
def skipNumber (place : Place) : Place :=
  match place.rest with
  | '0' :: base :: _ =>
      if base = 'x' ∨ base = 'X' ∨ base = 'o' ∨ base = 'O' ∨ base = 'b' ∨ base = 'B' then
        skipBigMark ((place.skip 2).skipWhile isHexPart)
      else skipBigMark (skipExponent (skipFraction (place.skipWhile isDecimalPart)))
  | _ => skipBigMark (skipExponent (skipFraction (place.skipWhile isDecimalPart)))

/-- The rest of a regular expression after its opening slash; `inClass` between brackets. -/
def readPattern (inClass : Bool) (offset : Nat) : List Char → Option Place
  | [] => none
  | '\\' :: c :: rest =>
      if isLineTerminator c then none else readPattern inClass (offset + 1 + c.utf8Size) rest
  | c :: rest =>
      if isLineTerminator c then none
      else if c = '[' then readPattern true (offset + 1) rest
      else if c = ']' then readPattern false (offset + 1) rest
      else if c = '/' ∧ !inClass then some ⟨offset + 1, rest⟩
      else readPattern inClass (offset + c.utf8Size) rest

/-- The place behind a regular expression whose opening slash stands at a place. -/
def skipRegularExpression (place : Place) : Option Place :=
  match place.rest with
  | '/' :: rest =>
      (readPattern false (place.offset + 1) rest).map (·.skipWhile Text.isIdentifierPart)
  | _ => none

/-! ### Tokens -/

/-- The punctuator that the text continues with. -/
def punctuatorAt? (text : List Char) : Option (List Char × Punctuator) :=
  match text with
  | '?' :: '.' :: c :: _ =>
      if c.isDigit then some (['?'], .question) else some (['?', '.'], .questionDot)
  | _ => Punctuator.table.find? fun entry => entry.1.isPrefixOf text

/-- A number may not be followed by a name or by another digit. -/
def endsNumber (text : List Char) : Bool :=
  match text with
  | [] => true
  | c :: _ => !Text.isIdentifierStart c && c != '\\' && !c.isDigit

/-- The name that the text continues with, as a token. -/
def nameToken (place : Place) : TokenKind × Place :=
  match readName true none place.offset place.rest with
  | some ⟨[], _, stop⟩ => (.invalid, stop.skip 1)
  | some ⟨chars, escaped, stop⟩ => (.name (String.ofList chars) escaped, stop)
  | none => (.invalid, place.skip 1)

/-- The token at a place where no gap is, and the place behind it. -/
def tokenAt (place : Place) : TokenKind × Place :=
  match place.rest with
  | [] => (.endOfText, place)
  | c :: rest =>
      if c.isDigit ∨ c = '.' ∧ (rest.head?.map Char.isDigit).getD false then
        let stop := skipNumber place
        if endsNumber stop.rest then (.number, stop) else (.invalid, stop)
      else if c = '"' ∨ c = '\'' then
        match readLiteral c none (place.offset + 1) rest with
        | some literal =>
            if literal.malformed then (.invalid, literal.stop)
            else (.string literal.text?, literal.stop)
        | none => (.invalid, place.skip 1)
      else if c = '#' then
        match nameToken (place.skip 1) with
        | (.name _ _, stop) => (.privateName, stop)
        | (_, stop) => (.invalid, stop)
      else if Text.isIdentifierStart c ∨ c = '\\' then nameToken place
      else
        match punctuatorAt? place.rest with
        | some (spelling, which) => (.punctuator which, place.skip spelling.length)
        | none => (.invalid, place.skip 1)

/-- No text has more tokens: every token but a number has a character that is no digit, and two
numbers do not stand side by side. -/
def maxTokens (text : List Char) : Nat := 2 * text.countP (fun c => !c.isDigit) + 1

end Script
end MessageExpansion
