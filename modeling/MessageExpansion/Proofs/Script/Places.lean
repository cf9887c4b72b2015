import MessageExpansion.Script.Cursor
import MessageExpansion.Proofs.Text.Boundary

/-!
# Places that readers reach

Every reader of tokens starts at a place of a text and ends at a place of the same text: what is
left becomes shorter at its front, and the offset grows by the bytes of what was passed over.
-/

namespace MessageExpansion
namespace Text

/-! ### Characters of one byte -/

@[grind =] theorem utf8Size_of_le
    {c : Char}
    (le : c ≤ '\x7f') :
    c.utf8Size = 1 :=
  Char.utf8Size_eq_one_iff.mpr le

@[grind →] theorem utf8Size_of_isDigit
    {c : Char}
    (digit : c.isDigit = true) :
    c.utf8Size = 1 := by
  apply utf8Size_of_le
  simp only [Char.isDigit, Bool.and_eq_true, decide_eq_true_eq] at digit
  exact UInt32.le_trans digit.2 (by decide)

@[grind →] theorem utf8Size_of_hexDigit?
    {c : Char}
    {value : Nat}
    (digit : hexDigit? c = some value) :
    c.utf8Size = 1 := by
  apply utf8Size_of_le
  unfold hexDigit? at digit
  split at digit
  · next range => exact Char.le_trans range.2 (by decide)
  · split at digit
    · next range => exact Char.le_trans range.2 (by decide)
    · split at digit
      · next range => exact Char.le_trans range.2 (by decide)
      · cases digit

@[grind →] theorem utf8Size_of_hexByte?
    {a b : Char}
    {value : Nat}
    (digits : hexByte? a b = some value) :
    a.utf8Size = 1 ∧ b.utf8Size = 1 := by
  unfold hexByte? at digits
  split at digits
  · next first second => exact ⟨utf8Size_of_hexDigit? first, utf8Size_of_hexDigit? second⟩
  · cases digits

@[grind →] theorem utf8Size_of_hexUnit?
    {a b c d : Char}
    {value : Nat}
    (digits : hexUnit? a b c d = some value) :
    a.utf8Size = 1 ∧ b.utf8Size = 1 ∧ c.utf8Size = 1 ∧ d.utf8Size = 1 := by
  unfold hexUnit? at digits
  split at digits
  · next first second =>
      obtain ⟨firstSize, secondSize⟩ := utf8Size_of_hexByte? first
      exact ⟨firstSize, secondSize, utf8Size_of_hexByte? second⟩
  · cases digits

end Text

namespace Script

open Text (byteLength IsBoundary)

@[grind →] theorem utf8Size_of_isOctalDigit
    {c : Char}
    (digit : isOctalDigit c = true) :
    c.utf8Size = 1 := by
  apply Text.utf8Size_of_le
  simp only [isOctalDigit, Bool.and_eq_true, decide_eq_true_eq] at digit
  exact Char.le_trans digit.2 (by decide)

namespace Place

/-- A later place of the same text. -/
@[grind] structure Reaches (first last : Place) : Prop where
  rest : last.rest <:+ first.rest
  offset : last.offset + byteLength last.rest = first.offset + byteLength first.rest

/-- A place of a text. -/
def IsIn (place : Place) (text : List Char) : Prop := Reaches ⟨0, text⟩ place

theorem Reaches.refl
    (place : Place) :
    place.Reaches place :=
  ⟨List.suffix_refl _, rfl⟩

theorem Reaches.trans
    {first middle last : Place}
    (start : first.Reaches middle)
    (finish : middle.Reaches last) :
    first.Reaches last :=
  ⟨finish.rest.trans start.rest, finish.offset.trans start.offset⟩

theorem Reaches.le
    {first last : Place}
    (reaches : first.Reaches last) :
    first.offset ≤ last.offset := by
  obtain ⟨⟨passed, equal⟩, offset⟩ := reaches
  rw [← equal, Text.byteLength_append] at offset
  omega

theorem reaches_skip
    (place : Place)
    (count : Nat) :
    place.Reaches (place.skip count) := by
  refine ⟨List.drop_suffix count place.rest, ?_⟩
  have parts := congrArg byteLength (List.take_append_drop count place.rest)
  rw [Text.byteLength_append] at parts
  simp only [skip]
  omega

theorem reaches_skipWhile
    (place : Place)
    (test : Char → Bool) :
    place.Reaches (place.skipWhile test) :=
  place.reaches_skip _

/-- Skipping goes on unless nothing is left. -/
theorem lt_skip
    {place : Place}
    {count : Nat}
    (positive : 0 < count)
    (nonempty : place.rest ≠ []) :
    place.offset < (place.skip count).offset := by
  obtain ⟨offset, rest⟩ := place
  match count, rest with
  | count + 1, c :: rest =>
      have size := c.utf8Size_pos
      simp only [skip, List.take_succ_cons, Text.byteLength_cons]
      omega

/-- A text can be cut at its places. -/
theorem IsIn.isBoundary
    {place : Place}
    {text : List Char}
    (isIn : place.IsIn text) :
    IsBoundary text place.offset := by
  obtain ⟨⟨passed, equal⟩, offset⟩ := isIn
  have whole : passed ++ place.rest = text := equal
  subst whole
  refine ⟨passed, place.rest, rfl, ?_⟩
  simp only [Text.byteLength_append] at offset
  omega

end Place

/-! ### Ends of calls -/

/-- The text goes on at an offset, and not with a line feed. -/
def GoesOn (text : List Char) (offset : Nat) : Prop :=
  ∃ c, Text.HasAt text offset c ∧ c ≠ '\n'

/-- A closing parenthesis ends at an offset. -/
def Closes (text : List Char) (offset : Nat) : Prop :=
  ∃ before, offset = before + 1 ∧ Text.HasAt text before ')'

theorem Place.IsIn.hasAt
    {place : Place}
    {text rest : List Char}
    {c : Char}
    (isIn : place.IsIn text)
    (begins : place.rest = c :: rest) :
    Text.HasAt text place.offset c := by
  obtain ⟨⟨passed, equal⟩, offset⟩ := isIn
  refine ⟨passed, rest, ?_, ?_⟩
  · rw [← begins]
    exact equal.symm
  · rw [← equal, Text.byteLength_append] at offset
    simp only at offset
    omega

theorem suffix_cons_of_suffix
    {rest text : List Char}
    (suffix : rest <:+ text)
    (c : Char) :
    rest <:+ c :: text :=
  suffix.trans (List.suffix_cons c text)

attribute [local grind =] Text.byteLength_cons Option.map_eq_some_iff
attribute [local grind .] List.suffix_refl
attribute [local grind ←] suffix_cons_of_suffix

/-! ### Gaps -/

theorem reaches_skipGap
    {gap : Gap}
    {newline found : Bool}
    {offset : Nat}
    {text : List Char}
    {start : Place}
    (skipped : skipGap gap newline offset text = some (found, start)) :
    Place.Reaches ⟨offset, text⟩ start := by
  fun_induction skipGap gap newline offset text <;> grind

/-- A token does not begin with a line feed, as the gap before it would go on. -/
theorem head?_of_skipGap
    {gap : Gap}
    {newline found : Bool}
    {offset : Nat}
    {text : List Char}
    {start : Place}
    (skipped : skipGap gap newline offset text = some (found, start)) :
    start.rest.head? ≠ some '\n' := by
  fun_induction skipGap gap newline offset text <;> grind [Text.isLineTerminator]

/-! ### Names and literals -/

/-- A text consists of characters that names may contain. -/
def IsNameText (text : List Char) : Prop := ∀ c ∈ text, Text.isIdentifierPart c = true

theorem isNameText_nil : IsNameText [] := by
  simp [IsNameText]

theorem IsNameText.cons
    {chars : List Char}
    {first : Bool}
    {point : Nat}
    (isName : IsNameText chars)
    (named : isNamePoint first point = true) :
    IsNameText (Char.ofNat point :: chars) := by
  refine List.forall_mem_cons.mpr ⟨?_, isName⟩
  simp only [isNamePoint, Bool.and_eq_true] at named
  have part := named.2
  cases first with
  | true =>
      simp only [if_pos] at part
      rw [Text.isIdentifierPart, part]
      rfl
  | false => simpa using part

theorem isNameText_of_readName
    {first : Bool}
    {braced : Option Nat}
    {offset : Nat}
    {text : List Char}
    {name : NameReading}
    (read : readName first braced offset text = some name) :
    IsNameText name.chars := by
  have literal (c : Char) : Char.ofNat c.toNat = c := Char.ofNat_toNat c
  fun_induction readName first braced offset text generalizing name <;>
    grind [NameReading.cons, isNameText_nil, IsNameText.cons]

theorem reaches_readName
    {first : Bool}
    {braced : Option Nat}
    {offset : Nat}
    {text : List Char}
    {name : NameReading}
    (read : readName first braced offset text = some name) :
    Place.Reaches ⟨offset, text⟩ name.stop := by
  fun_induction readName first braced offset text generalizing name <;>
    grind [NameReading.cons]

theorem reaches_readLiteral
    {quote : Char}
    (quoteSize : quote.utf8Size = 1)
    {braced : Option Nat}
    {offset : Nat}
    {text : List Char}
    {literal : LiteralReading}
    (read : readLiteral quote braced offset text = some literal) :
    Place.Reaches ⟨offset, text⟩ literal.stop := by
  have letterSizes : 'x'.utf8Size = 1 ∧ 'u'.utf8Size = 1 := ⟨rfl, rfl⟩
  have endSizes : '\r'.utf8Size = 1 ∧ '\n'.utf8Size = 1 := ⟨rfl, rfl⟩
  fun_induction readLiteral quote braced offset text generalizing literal <;>
    grind [LiteralReading.cons, LiteralReading.spoil]

example : (readLiteral '"' none 1 ['\\', 'x', '4', '1', '"']).map (·.stop) = some ⟨6, []⟩ := by cbv

theorem reaches_readPattern
    {inClass : Bool}
    {offset : Nat}
    {text : List Char}
    {stop : Place}
    (read : readPattern inClass offset text = some stop) :
    Place.Reaches ⟨offset, text⟩ stop := by
  have bracketSizes : '['.utf8Size = 1 ∧ ']'.utf8Size = 1 ∧ '/'.utf8Size = 1 := ⟨rfl, rfl, rfl⟩
  fun_induction readPattern inClass offset text <;> grind

/-! ### Tokens -/

theorem isNameText_of_nameToken
    {place : Place}
    {text : String}
    {escaped : Bool}
    (found : (nameToken place).1 = .name text escaped) :
    IsNameText text.toList := by
  unfold nameToken at found
  split at found
  · cases found
  · next read =>
      cases found
      rw [String.toList_ofList]
      exact isNameText_of_readName read
  · cases found

theorem reaches_skipBigMark
    (place : Place) :
    place.Reaches (skipBigMark place) := by
  unfold skipBigMark
  split
  · exact place.reaches_skip 1
  · exact .refl _

/-- What may follow the digits of a decimal number. -/
theorem reaches_behindDigits
    (place : Place) :
    place.Reaches (skipBigMark (skipExponent (skipFraction place))) := by
  have exponent (place : Place) : place.Reaches (skipExponent place) := by
    unfold skipExponent
    split
    · split
      · split
        · exact (place.reaches_skip 1).trans (Place.reaches_skipWhile _ _)
        · split
          · exact (place.reaches_skip 2).trans (Place.reaches_skipWhile _ _)
          · exact .refl _
      · exact .refl _
    · exact .refl _
  have fraction : place.Reaches (skipFraction place) := by
    unfold skipFraction
    split
    · exact (place.reaches_skip 1).trans (Place.reaches_skipWhile _ _)
    · exact .refl _
  exact fraction.trans ((exponent _).trans (reaches_skipBigMark _))

theorem reaches_skipNumber
    (place : Place) :
    place.Reaches (skipNumber place) := by
  have decimal : place.Reaches
      (skipBigMark (skipExponent (skipFraction (place.skipWhile isDecimalPart)))) :=
    (place.reaches_skipWhile _).trans (reaches_behindDigits _)
  unfold skipNumber
  split
  · split
    · exact (place.reaches_skip 2).trans
        ((Place.reaches_skipWhile _ _).trans (reaches_skipBigMark _))
    · exact decimal
  · exact decimal

theorem reaches_nameToken
    (place : Place) :
    place.Reaches (nameToken place).2 := by
  unfold nameToken
  split
  · next read => exact (reaches_readName read).trans (Place.reaches_skip _ _)
  · next read => exact reaches_readName read
  · exact place.reaches_skip 1

/-- The readers of whole tokens pass over a character before a literal. -/
theorem reaches_after
    {place last : Place}
    {c : Char}
    {rest : List Char}
    (size : c.utf8Size = 1)
    (begins : place.rest = c :: rest)
    (reaches : Place.Reaches ⟨place.offset + 1, rest⟩ last) :
    place.Reaches last := by
  refine Place.Reaches.trans ⟨?_, ?_⟩ reaches
  · rw [begins]
    exact List.suffix_cons c rest
  · simp only [begins, Text.byteLength_cons, size]
    omega

theorem reaches_skipRegularExpression
    {place last : Place}
    (skipped : skipRegularExpression place = some last) :
    place.Reaches last := by
  unfold skipRegularExpression at skipped
  split at skipped
  · next rest begins =>
      obtain ⟨stop, read, rfl⟩ := Option.map_eq_some_iff.mp skipped
      exact (reaches_after rfl begins (reaches_readPattern read)).trans (stop.reaches_skipWhile _)
  · cases skipped

theorem reaches_tokenAt
    (place : Place) :
    place.Reaches (tokenAt place).2 := by
  unfold tokenAt
  split
  · exact .refl _
  · next c rest begins =>
      split
      · simp only
        split <;> exact reaches_skipNumber place
      · split
        · next quote =>
            have size : c.utf8Size = 1 := by
              rcases quote with rfl | rfl <;> rfl
            split
            · next read =>
                have reaches := reaches_after size begins (reaches_readLiteral size read)
                split <;> exact reaches
            · exact place.reaches_skip 1
        · split
          · have reaches := (place.reaches_skip 1).trans (reaches_nameToken (place.skip 1))
            split
            · next equal =>
                rw [equal] at reaches
                exact reaches
            · next equal =>
                rw [equal] at reaches
                exact reaches
          · split
            · exact reaches_nameToken place
            · split
              · exact place.reaches_skip _
              · exact place.reaches_skip 1

theorem spelling_ne_nil
    {text spelling : List Char}
    {which : Punctuator}
    (found : punctuatorAt? text = some (spelling, which)) :
    spelling ≠ [] := by
  unfold punctuatorAt? at found
  split at found
  · split at found <;>
      · cases found
        simp
  · have inTable := List.mem_of_find?_eq_some found
    have spelled : ∀ entry ∈ Punctuator.table, entry.1 ≠ [] := by decide
    exact spelled _ inTable

theorem nameToken_ne_punctuator
    (place : Place)
    (which : Punctuator) :
    (nameToken place).1 ≠ .punctuator which := by
  unfold nameToken
  split <;> simp

/-- The token at a place is a name only if it is read as one. -/
theorem tokenAt_of_name
    {place : Place}
    {text : String}
    {escaped : Bool}
    (found : (tokenAt place).1 = .name text escaped) :
    tokenAt place = nameToken place := by
  unfold tokenAt at found ⊢
  grind

/-- The token at a place is a punctuator only if the text goes on with its spelling. -/
theorem tokenAt_of_punctuator
    {place : Place}
    {which : Punctuator}
    (found : (tokenAt place).1 = .punctuator which) :
    ∃ spelling, punctuatorAt? place.rest = some (spelling, which) ∧
      tokenAt place = (.punctuator which, place.skip spelling.length) := by
  unfold tokenAt at found ⊢
  grind [nameToken_ne_punctuator]

/-- A name consists of characters that names may contain, however it is spelled. -/
theorem isNameText_of_tokenAt
    {place : Place}
    {text : String}
    {escaped : Bool}
    (found : (tokenAt place).1 = .name text escaped) :
    IsNameText text.toList := by
  rw [tokenAt_of_name found] at found
  exact isNameText_of_nameToken found

/-- A punctuator has a spelling, so it ends behind its start. -/
theorem lt_tokenAt_of_punctuator
    {place : Place}
    {which : Punctuator}
    (found : (tokenAt place).1 = .punctuator which) :
    place.offset < (tokenAt place).2.offset := by
  obtain ⟨spelling, punctuator, token⟩ := tokenAt_of_punctuator found
  have nonempty := spelling_ne_nil punctuator
  rw [token]
  refine Place.lt_skip (List.length_pos_iff.mpr nonempty) fun empty => ?_
  rw [empty] at punctuator
  exact absurd punctuator (by simp [punctuatorAt?, Punctuator.table, List.isPrefixOf])

/-- A closing parenthesis is spelled in one way. -/
theorem tokenAt_of_closeParen
    {place : Place}
    (found : (tokenAt place).1 = .punctuator .closeParen) :
    ∃ rest, place.rest = ')' :: rest ∧ (tokenAt place).2 = ⟨place.offset + 1, rest⟩ := by
  obtain ⟨spelling, punctuator, token⟩ := tokenAt_of_punctuator found
  unfold punctuatorAt? at punctuator
  split at punctuator
  · split at punctuator <;> cases punctuator
  · have inTable := List.mem_of_find?_eq_some punctuator
    have isPrefix := List.find?_some punctuator
    have spelled : ∀ entry ∈ Punctuator.table, entry.2 = .closeParen → entry.1 = [')'] := by decide
    have equal : spelling = [')'] := spelled _ inTable rfl
    subst equal
    obtain ⟨rest, equal⟩ := List.isPrefixOf_iff_prefix.mp isPrefix
    refine ⟨rest, equal.symm, ?_⟩
    simp only [token, Place.skip, ← equal]
    rfl

end Script
end MessageExpansion
