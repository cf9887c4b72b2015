import Mathlib.Data.List.DropRight
import MessageExpansion.Proofs.Pattern.WellFormed

/-!
# How patterns are spelled

One text for every pattern.  In texts apostrophes are doubled, and runs of characters that would end
the text stand in quotes; a style or an offset is left out where it is the usual one.  Each part of
a spelling is read in front of any text that does not go on with it.
-/

namespace MessageExpansion

/-- The keyword of a number style, if it needs one. -/
def NumberStyle.keyword? : NumberStyle → Option String
  | .decimal => none
  | .integer => some "integer"
  | .percent => some "percent"
  | .currency => some "currency"

/-- The keyword of a date or time style, if it needs one. -/
def DateTimeStyle.keyword? : DateTimeStyle → Option String
  | .short => some "short"
  | .medium => none
  | .long => some "long"
  | .full => some "full"

/-- The condition of a plural option as it is spelled. -/
def PluralSelector.spell : PluralSelector → List Char
  | .exact value => '=' :: (toString value.toNat).toList
  | .category name => name.toList

theorem NumberStyle.isWord_keyword
    (style : NumberStyle) :
    ∀ keyword ∈ style.keyword?, IsWord keyword := by
  cases style <;> decide

theorem DateTimeStyle.isWord_keyword
    (style : DateTimeStyle) :
    ∀ keyword ∈ style.keyword?, IsWord keyword := by
  cases style <;> decide

namespace Pattern

/-- A text as it is spelled.  The flag `quoting` says that the text goes on inside quotes. -/
def quote (inPlural : Bool) : (quoting : Bool) → List Char → List Char
  | false, [] => []
  | true, [] => ['\'']
  | quoting, '\'' :: rest => '\'' :: '\'' :: quote inPlural quoting rest
  | quoting, c :: rest =>
      if isSyntax inPlural c = quoting then c :: quote inPlural quoting rest
      else '\'' :: c :: quote inPlural (!quoting) rest

/-- A comma and a word after it. -/
def spellKeyword (keyword : String) : List Char := ',' :: ' ' :: keyword.toList

/-- The style of an argument, announced by a comma. -/
def spellStyle : Option String → List Char
  | none => []
  | some keyword => spellKeyword keyword

/-- The offset of a plural, if it has one. -/
def spellOffset (offset : UInt32) : List Char :=
  if offset = 0 then [] else ' ' :: (offsetMark ++ (toString offset.toNat).toList)

/-- The type of a plural. -/
def pluralType (ordinal : Bool) : String := if ordinal then "selectordinal" else "plural"

end Pattern

open Pattern (quote spellKeyword spellStyle spellOffset pluralType)

mutual

/-- An element as it is spelled where `#` stands for a number or does not. -/
def Element.spell (inPlural : Bool) : Element → List Char
  | .text value => quote inPlural false value.toList
  | .argument name => '\x7b' :: (name.toList ++ ['\x7d'])
  | .number name style =>
      '\x7b' :: (name.toList ++
        (spellKeyword "number" ++ (spellStyle style.keyword? ++ ['\x7d'])))
  | .date name style =>
      '\x7b' :: (name.toList ++ (spellKeyword "date" ++ (spellStyle style.keyword? ++ ['\x7d'])))
  | .time name style =>
      '\x7b' :: (name.toList ++ (spellKeyword "time" ++ (spellStyle style.keyword? ++ ['\x7d'])))
  | .pluralValue => ['#']
  | .plural name ordinal offset options =>
      '\x7b' :: (name.toList ++ (spellKeyword (pluralType ordinal) ++
        ',' :: (spellOffset offset ++ (PluralOption.spellAll options ++ ['\x7d']))))
  | .select name options =>
      '\x7b' :: (name.toList ++ (spellKeyword "select" ++
        ',' :: (SelectOption.spellAll inPlural options ++ ['\x7d'])))

/-- The elements of a pattern as they are spelled. -/
def Pattern.spellAll (inPlural : Bool) : List Element → List Char
  | [] => []
  | element :: rest => element.spell inPlural ++ Pattern.spellAll inPlural rest

/-- The options of a plural as they are spelled. -/
def PluralOption.spellAll : List PluralOption → List Char
  | [] => []
  | .mk selector value :: rest =>
      ' ' :: (selector.spell ++ ' ' :: '\x7b' :: (Pattern.spellAll true value ++
        '\x7d' :: PluralOption.spellAll rest))

/-- The options of a select as they are spelled. -/
def SelectOption.spellAll (inPlural : Bool) : List SelectOption → List Char
  | [] => []
  | .mk key value :: rest =>
      ' ' :: (key.toList ++ ' ' :: '\x7b' :: (Pattern.spellAll inPlural value ++
        '\x7d' :: SelectOption.spellAll inPlural rest))

end

namespace Pattern

open Text (Reading isBlank skipBlanks readUnsigned?)

/-- The text that spells a pattern. -/
def spell (pattern : Pattern) : String := String.ofList (spellAll false pattern)

/-! ### Texts -/

/-- A text ends in front of `rest`. -/
def StopsText (inPlural : Bool) (rest : List Char) : Prop :=
  ∀ c ∈ rest.head?, isSyntax inPlural c = true

theorem StopsText.head_ne_apostrophe
    {inPlural : Bool}
    {c : Char}
    {rest : List Char}
    (stops : StopsText inPlural (c :: rest)) :
    c ≠ '\'' := by
  rintro rfl
  have isSyntax := stops '\'' rfl
  simp [Pattern.isSyntax] at isSyntax

theorem textRun_of_stopsText
    {inPlural : Bool}
    {rest : List Char}
    (stops : StopsText inPlural rest) :
    textRun inPlural false rest = ([], rest) := by
  cases rest with
  | nil => rfl
  | cons c rest =>
      have noApostrophe := stops.head_ne_apostrophe
      rw [textRun, if_pos (stops c rfl)]
      all_goals
        intros
        contradiction

/-- A character stands for itself where it does not end the text or is quoted. -/
theorem textRun_plain
    {inPlural : Bool}
    {c : Char}
    (noApostrophe : c ≠ '\'')
    (rest : List Char) :
    textRun inPlural (isSyntax inPlural c) (c :: rest) =
      consText c (textRun inPlural (isSyntax inPlural c) rest) := by
  cases isSyntax : isSyntax inPlural c with
  | true =>
      rw [textRun]
      all_goals
        intros
        contradiction
  | false =>
      rw [textRun, if_neg (by simp [isSyntax])]
      all_goals
        intros
        contradiction

/-- An apostrophe opens quotes in front of a syntax character and closes them in front of others. -/
theorem textRun_switch
    {inPlural quoting : Bool}
    {c : Char}
    (noApostrophe : c ≠ '\'')
    (switches : isSyntax inPlural c = !quoting)
    (rest : List Char) :
    textRun inPlural quoting ('\'' :: c :: rest) =
      consText c (textRun inPlural (!quoting) rest) := by
  cases quoting with
  | true =>
      have plain := @textRun_plain inPlural c noApostrophe rest
      rw [switches] at plain
      rw [textRun]
      · exact plain
      · intro more equal
        cases equal
        contradiction
  | false =>
      have opens : isSyntax inPlural c = true := switches
      rw [textRun, if_pos opens]
      · rfl
      · intros
        contradiction

/-- A text is read from its spelling. -/
theorem textRun_quote
    {inPlural : Bool}
    {back : List Char}
    (stops : StopsText inPlural back)
    (quoting : Bool)
    (text : List Char) :
    textRun inPlural quoting (quote inPlural quoting text ++ back) = (text, back) := by
  fun_induction quote inPlural quoting text with
  | case1 => exact textRun_of_stopsText stops
  | case2 =>
      rw [List.singleton_append, textRun]
      · exact textRun_of_stopsText stops
      · rintro more rfl
        exact stops.head_ne_apostrophe rfl
  | case3 quoting rest inductionHypothesis =>
      cases quoting <;> simp only [List.cons_append, textRun, inductionHypothesis, consText]
  | case4 c rest noApostrophe inductionHypothesis =>
      rw [List.cons_append, textRun_plain noApostrophe, inductionHypothesis]
      rfl
  | case5 quoting c rest noApostrophe differs inductionHypothesis =>
      have switches := Bool.eq_not_of_ne differs
      rw [List.cons_append, List.cons_append, textRun_switch noApostrophe switches,
        inductionHypothesis]
      rfl

/-! ### Words -/

/-- A word ends in front of `rest`. -/
def StopsWord (rest : List Char) : Prop := ∀ c ∈ rest.head?, isWordChar c = false

theorem stopsWord_cons
    {c : Char}
    (noWord : isWordChar c = false)
    (rest : List Char) :
    StopsWord (c :: rest) := by
  intro first same
  cases same
  exact noWord

theorem skipBlanks_of_visible
    {c : Char}
    (visible : isBlank c = false)
    (rest : List Char) :
    skipBlanks (c :: rest) = c :: rest := by
  rw [skipBlanks, List.dropWhile_cons_of_neg (by simp [visible])]

theorem skipBlanks_space
    (rest : List Char) :
    skipBlanks (' ' :: rest) = skipBlanks rest := by
  have blank : isBlank ' ' = true := by decide
  rw [skipBlanks, List.dropWhile_cons_of_pos blank, skipBlanks]

/-- At least one character, and only characters that words are made of. -/
structure IsWordRun (letters : List Char) : Prop where
  nonempty : letters ≠ []
  all : ∀ c ∈ letters, isWordChar c = true

namespace IsWordRun

variable {letters : List Char} (isRun : IsWordRun letters)
include isRun

theorem word_append
    {rest : List Char}
    (stops : StopsWord rest) :
    word (letters ++ rest) = (letters, rest) := by
  have ends : rest.takeWhile isWordChar = [] ∧ rest.dropWhile isWordChar = rest := by
    cases rest with
    | nil => exact ⟨rfl, rfl⟩
    | cons c rest =>
        have noWord := stops c rfl
        simp [noWord]
  rw [word, List.takeWhile_append_of_pos isRun.all, List.dropWhile_append_of_pos isRun.all,
    ends.1, ends.2, List.append_nil]

theorem exists_cons :
    ∃ c more, letters = c :: more ∧ isWordChar c = true := by
  obtain ⟨nonempty, all⟩ := isRun
  obtain ⟨c, more, rfl⟩ := List.exists_cons_of_ne_nil nonempty
  exact ⟨c, more, rfl, all c List.mem_cons_self⟩

/-- No blanks stand in front of a word. -/
theorem skipBlanks_append
    (rest : List Char) :
    skipBlanks (letters ++ rest) = letters ++ rest := by
  obtain ⟨c, more, rfl, isWordChar⟩ := isRun.exists_cons
  exact skipBlanks_of_visible ((isWordChar_iff c).mp isWordChar).1 _

theorem skipBlanks_space_append
    (rest : List Char) :
    skipBlanks (' ' :: (letters ++ rest)) = letters ++ rest := by
  rw [skipBlanks_space, isRun.skipBlanks_append]

end IsWordRun

theorem isWordRun_of_isWord
    {name : String}
    (isWord : IsWord name) :
    IsWordRun name.toList where
  nonempty := fun empty => isWord.nonempty (String.toList_eq_nil_iff.mp empty)
  all := fun c present => (isWordChar_iff c).mpr (isWord.plain c present)

theorem isWordRun_toString
    (value : Nat) :
    IsWordRun (toString value).toList where
  nonempty := by
    rw [Text.toList_toString]
    exact Nat.toDigits_ne_nil
  all := fun _ present =>
    Text.forall_isDigit (isWordChar · = true) (by decide) (Text.isDigit_of_mem_toString present)

/-! ### Arguments -/

theorem elim_keyword_number
    (style : NumberStyle) :
    style.keyword?.elim (some .decimal) numberStyle? = some style := by
  cases style <;> rfl

theorem elim_keyword_dateTime
    (style : DateTimeStyle) :
    style.keyword?.elim (some .medium) dateTimeStyle? = some style := by
  cases style <;> rfl

/-- A reader yields a value and leaves a text. -/
def Reads {bound : Nat} {α : Type} (outcome : Except Failure (Reading bound α)) (value : α)
    (rest : List Char) : Prop :=
  ∃ shorter, outcome = .ok ⟨value, rest, shorter⟩

theorem reads_ok
    {bound : Nat}
    {α : Type}
    {reading : Reading bound α}
    {value : α}
    {rest : List Char}
    (same : reading.value = value)
    (left : reading.rest = rest) :
    Reads (.ok reading) value rest := by
  subst same left
  exact ⟨reading.shorter, rfl⟩

theorem reads_expect
    (wanted : Char)
    (rest : List Char) :
    Reads (expect wanted (wanted :: rest)) () rest := by
  refine ⟨Nat.lt_succ_self _, ?_⟩
  rw [expect, if_pos rfl]

/-- A keyword after its comma. -/
theorem word_spellKeyword
    {keyword : String}
    (isWord : IsWord keyword)
    {rest : List Char}
    (stops : StopsWord rest) :
    word (skipBlanks (' ' :: (keyword.toList ++ rest))) = (keyword.toList, rest) := by
  have isRun := isWordRun_of_isWord isWord
  rw [isRun.skipBlanks_space_append, isRun.word_append stops]

theorem reads_style
    (keyword? : Option String)
    (areWords : ∀ keyword ∈ keyword?, IsWord keyword)
    (rest : List Char) :
    Reads (style? (spellStyle keyword? ++ '\x7d' :: rest)) keyword? ('\x7d' :: rest) := by
  cases keyword? with
  | none => exact ⟨Nat.lt_succ_self _, rfl⟩
  | some keyword =>
      have isWord := areWords keyword rfl
      have stops : StopsWord ('\x7d' :: rest) := stopsWord_cons (by decide) rest
      have read := word_spellKeyword isWord stops
      simp only [spellStyle, spellKeyword, List.cons_append]
      rw [style?]
      split
      · next missing =>
          have empty := (congrArg Prod.fst (missing.symm.trans read)).symm
          exact absurd empty (isWordRun_of_isWord isWord).nonempty
      · next name after _ known =>
          obtain ⟨rfl, rfl⟩ := Prod.mk.inj (known.symm.trans read)
          exact reads_ok (congrArg some String.ofList_toList)
            (skipBlanks_of_visible (c := '\x7d') (by decide) rest)

theorem reads_formatted
    {σ : Type}
    {unstyled style : σ}
    {styles : String → Option σ}
    {keyword? : Option String}
    (areWords : ∀ keyword ∈ keyword?, IsWord keyword)
    (known : keyword?.elim (some unstyled) styles = some style)
    (type : String)
    (rest : List Char) :
    Reads (formatted type unstyled styles (spellStyle keyword? ++ '\x7d' :: rest)) style rest := by
  obtain ⟨styleShorter, readStyle⟩ := reads_style keyword? areWords rest
  obtain ⟨closeShorter, readClose⟩ := reads_expect '\x7d' rest
  unfold formatted
  cases keyword? with
  | none =>
      obtain rfl : unstyled = style := Option.some.inj known
      simp only [readStyle, readClose]
      exact ⟨_, rfl⟩
  | some keyword =>
      have chosen : styles keyword = some style := known
      simp only [readStyle, chosen, readClose]
      exact ⟨_, rfl⟩

/-- A comma or a brace follows. -/
def StopsName (rest : List Char) : Prop := ∀ c ∈ rest.head?, c = ',' ∨ c = '\x7d'

theorem StopsName.stopsWord
    {rest : List Char}
    (stops : StopsName rest) :
    StopsWord rest := by
  intro c first
  rcases stops c first with rfl | rfl <;> decide

theorem StopsName.skipBlanks
    {rest : List Char}
    (stops : StopsName rest) :
    skipBlanks rest = rest := by
  cases rest with
  | nil => rfl
  | cons c rest =>
      refine skipBlanks_of_visible ?_ rest
      rcases stops c rfl with rfl | rfl <;> decide

theorem stopsName_spellStyle
    (keyword? : Option String)
    (rest : List Char) :
    StopsName (spellStyle keyword? ++ '\x7d' :: rest) := by
  cases keyword? <;> simp [StopsName, spellStyle, spellKeyword]

/-- A word, and what is left behind it and behind the blanks that follow. -/
theorem typeName_append
    {type : String}
    {rest : List Char}
    (isWord : IsWord type)
    (stops : StopsName rest) :
    String.ofList (word (type.toList ++ rest)).1 = type ∧
      skipBlanks (word (type.toList ++ rest)).2 = rest := by
  rw [(isWordRun_of_isWord isWord).word_append stops.stopsWord]
  exact ⟨String.ofList_toList, stops.skipBlanks⟩

section Typed

variable {name : String} {input rest : List Char}

theorem reads_typed_number
    {style : NumberStyle}
    (type : String.ofList (word input).1 = "number")
    (read : Reads (formatted "number" .decimal numberStyle? (skipBlanks (word input).2))
      style rest) :
    Reads (typed name input) (.complete (.number name style)) rest := by
  obtain ⟨shorter, read⟩ := read
  unfold typed
  simp only [type, read]
  exact ⟨_, rfl⟩

theorem reads_typed_date
    {style : DateTimeStyle}
    (type : String.ofList (word input).1 = "date")
    (read : Reads (formatted "date" .medium dateTimeStyle? (skipBlanks (word input).2))
      style rest) :
    Reads (typed name input) (.complete (.date name style)) rest := by
  obtain ⟨shorter, read⟩ := read
  unfold typed
  simp only [type, read]
  exact ⟨_, rfl⟩

theorem reads_typed_time
    {style : DateTimeStyle}
    (type : String.ofList (word input).1 = "time")
    (read : Reads (formatted "time" .medium dateTimeStyle? (skipBlanks (word input).2))
      style rest) :
    Reads (typed name input) (.complete (.time name style)) rest := by
  obtain ⟨shorter, read⟩ := read
  unfold typed
  simp only [type, read]
  exact ⟨_, rfl⟩

theorem reads_typed_select
    (type : String.ofList (word input).1 = "select")
    (read : Reads (expect ',' (skipBlanks (word input).2)) () rest) :
    Reads (typed name input) (.select name) rest := by
  obtain ⟨shorter, read⟩ := read
  unfold typed
  simp only [type, read]
  exact ⟨_, rfl⟩

theorem reads_typed_plural
    {ordinal : Bool}
    {offset : UInt32}
    {after : List Char}
    (type : String.ofList (word input).1 = pluralType ordinal)
    (comma : Reads (expect ',' (skipBlanks (word input).2)) () after)
    (read : Reads (pluralOffset (skipBlanks after)) offset rest) :
    Reads (typed name input) (.plural name ordinal offset) rest := by
  obtain ⟨commaShorter, comma⟩ := comma
  obtain ⟨shorter, read⟩ := read
  unfold typed
  cases ordinal <;>
    · have known : String.ofList (word input).1 = _ := type
      simp only [pluralType, if_true, Bool.false_eq_true, if_false] at known
      simp only [known, comma, read]
      exact ⟨_, rfl⟩

end Typed

/-- The word at the head of an argument. -/
theorem word_skipBlanks_append
    {name : String}
    {rest : List Char}
    (isWord : IsWord name)
    (stops : StopsWord rest) :
    word (skipBlanks (name.toList ++ rest)) = (name.toList, rest) := by
  have isRun := isWordRun_of_isWord isWord
  rw [isRun.skipBlanks_append, isRun.word_append stops]

theorem reads_head_argument
    {name : String}
    (isWord : IsWord name)
    (rest : List Char) :
    Reads (head (name.toList ++ '\x7d' :: rest)) (.complete (.argument name)) rest := by
  have stops : StopsName ('\x7d' :: rest) := by simp [StopsName]
  have named := word_skipBlanks_append isWord stops.stopsWord
  have closed : skipBlanks (word (skipBlanks (name.toList ++ '\x7d' :: rest))).2 =
      '\x7d' :: rest := by
    rw [named, stops.skipBlanks]
  unfold head
  rw [if_neg (by simpa [named] using isWord.nonempty)]
  split
  · next after separated =>
      cases separated.symm.trans closed
      refine reads_ok ?_ rfl
      simp only [named, String.ofList_toList]
  · next after separated =>
      cases separated.symm.trans closed
  · next noBrace _ =>
      exact (noBrace rest closed).elim

theorem reads_head_typed
    {name type : String}
    {back rest : List Char}
    {result : Head}
    (isWord : IsWord name)
    (isType : IsWord type)
    (read : Reads (typed name (type.toList ++ back)) result rest) :
    Reads (head (name.toList ++ (spellKeyword type ++ back))) result rest := by
  have stops : StopsName (spellKeyword type ++ back) := by simp [StopsName, spellKeyword]
  have named := word_skipBlanks_append isWord stops.stopsWord
  have comma : skipBlanks (word (skipBlanks (name.toList ++ (spellKeyword type ++ back)))).2 =
      ',' :: ' ' :: (type.toList ++ back) := by
    rw [named, stops.skipBlanks]
    rfl
  have begins : skipBlanks (' ' :: (type.toList ++ back)) = type.toList ++ back :=
    (isWordRun_of_isWord isType).skipBlanks_space_append back
  have spelled : String.ofList
      (word (skipBlanks (name.toList ++ (spellKeyword type ++ back)))).1 = name := by
    rw [named, String.ofList_toList]
  rw [← begins, ← spelled] at read
  obtain ⟨shorter, read⟩ := read
  unfold head
  rw [if_neg (by simpa [named] using isWord.nonempty)]
  split
  · next after separated =>
      cases separated.symm.trans comma
  · next after separated =>
      cases separated.symm.trans comma
      simp only [read]
      exact ⟨_, rfl⟩
  · next _ noComma =>
      exact (noComma _ comma).elim

/-- An argument that is complete with its style. -/
theorem reads_head_formatted
    {σ : Type}
    {unstyled style : σ}
    {styles : String → Option σ}
    {keyword? : Option String}
    {name type : String}
    {element : Element}
    (rest : List Char)
    (isWord : IsWord name)
    (isType : IsWord type)
    (areWords : ∀ keyword ∈ keyword?, IsWord keyword)
    (known : keyword?.elim (some unstyled) styles = some style)
    (read : ∀ {input : List Char},
      String.ofList (word input).1 = type →
        Reads (formatted type unstyled styles (skipBlanks (word input).2)) style rest →
          Reads (typed name input) (.complete element) rest) :
    Reads (head (name.toList ++ (spellKeyword type ++ (spellStyle keyword? ++ '\x7d' :: rest))))
      (.complete element) rest := by
  obtain ⟨typeName, left⟩ := typeName_append isType (stopsName_spellStyle keyword? rest)
  refine reads_head_typed isWord isType (read typeName ?_)
  rw [left]
  exact reads_formatted areWords known type rest

theorem reads_head_select
    {name : String}
    (isWord : IsWord name)
    (rest : List Char) :
    Reads (head (name.toList ++ (spellKeyword "select" ++ ',' :: rest))) (.select name) rest := by
  have isType : IsWord "select" := by decide
  have stops : StopsName (',' :: rest) := by simp [StopsName]
  obtain ⟨type, left⟩ := typeName_append isType stops
  refine reads_head_typed isWord isType (reads_typed_select type ?_)
  rw [left]
  exact reads_expect ',' rest

/-! ### Offsets and conditions of plurals -/

/-- An offset is read, and nothing but blanks behind it. -/
theorem reads_pluralOffset
    (offset : UInt32)
    {rest : List Char}
    (stops : StopsWord rest)
    (noMark : offsetMark.isPrefixOf (skipBlanks rest) = false) :
    ∃ left, skipBlanks left = skipBlanks rest ∧
      Reads (pluralOffset (skipBlanks (spellOffset offset ++ rest))) offset left := by
  by_cases zero : offset = 0
  · refine ⟨skipBlanks rest, List.dropWhile_idempotent _ _, ?_⟩
    rw [spellOffset, if_pos zero, List.nil_append]
    unfold pluralOffset
    rw [if_neg (by simp [noMark])]
    exact reads_ok zero.symm rfl
  · have begins : skipBlanks (' ' :: (offsetMark ++ (toString offset.toNat).toList) ++ rest) =
        offsetMark ++ ((toString offset.toNat).toList ++ rest) := by
      rw [List.cons_append, skipBlanks_space, List.append_assoc]
      exact skipBlanks_of_visible (c := 'o') (by decide) _
    have isRun := isWordRun_toString offset.toNat
    have read : readUnsigned? UInt32.size (toString offset.toNat).toList = some offset.toNat :=
      Text.readUnsigned?_toString offset.toNat_lt
    refine ⟨rest, rfl, ?_⟩
    rw [spellOffset, if_neg zero, begins]
    unfold pluralOffset
    rw [if_pos (by simp)]
    have marked : skipBlanks ((offsetMark ++ ((toString offset.toNat).toList ++ rest)).drop
        offsetMark.length) = (toString offset.toNat).toList ++ rest := by
      rw [List.drop_left, isRun.skipBlanks_append]
    simp only [marked, isRun.word_append stops, read]
    exact reads_ok UInt32.ofNat_toNat rfl

theorem isWord_pluralType
    (ordinal : Bool) :
    IsWord (pluralType ordinal) := by
  cases ordinal <;> decide

/-- The head of a plural is read, and nothing but blanks behind it. -/
theorem reads_head_plural
    {name : String}
    {rest : List Char}
    (isWord : IsWord name)
    (ordinal : Bool)
    (offset : UInt32)
    (stops : StopsWord rest)
    (noMark : offsetMark.isPrefixOf (skipBlanks rest) = false) :
    ∃ left, skipBlanks left = skipBlanks rest ∧
      Reads (head (name.toList ++
          (spellKeyword (pluralType ordinal) ++ ',' :: (spellOffset offset ++ rest))))
        (.plural name ordinal offset) left := by
  obtain ⟨left, same, read⟩ := reads_pluralOffset offset stops noMark
  have isType := isWord_pluralType ordinal
  have comma : StopsName (',' :: (spellOffset offset ++ rest)) := by simp [StopsName]
  obtain ⟨type, behind⟩ := typeName_append isType comma
  refine ⟨left, same, reads_head_typed isWord isType (reads_typed_plural type ?_ read)⟩
  rw [behind]
  exact reads_expect ',' (spellOffset offset ++ rest)

/-- A category is a word. -/
theorem isWord_of_mem_categories
    {name : String}
    (known : name ∈ PluralSelector.categories) :
    IsWord name := by
  have tested : ∀ name ∈ PluralSelector.categories, IsWord name := by decide
  exact tested name known

/-- A condition begins like no offset. -/
theorem isPrefixOf_offsetMark
    {selector : PluralSelector}
    (known : selector.IsKnown)
    (rest : List Char) :
    offsetMark.isPrefixOf (selector.spell ++ rest) = false := by
  cases selector with
  | exact value => rfl
  | category name =>
      simp only [PluralSelector.IsKnown, PluralSelector.categories, List.mem_cons,
        List.not_mem_nil, or_false] at known
      rcases known with rfl | rfl | rfl | rfl | rfl | rfl <;> rfl

theorem isWordRun_spell
    {selector : PluralSelector}
    (known : selector.IsKnown) :
    IsWordRun selector.spell := by
  cases selector with
  | exact value =>
      have equals : isWordChar '=' = true := by decide
      exact ⟨List.cons_ne_nil _ _,
        List.forall_mem_cons.mpr ⟨equals, (isWordRun_toString value.toNat).all⟩⟩
  | category name => exact isWordRun_of_isWord (isWord_of_mem_categories known)

theorem reads_pluralSelector
    {selector : PluralSelector}
    {rest : List Char}
    (known : selector.IsKnown)
    (stops : StopsWord rest) :
    Reads (pluralSelector (selector.spell ++ rest)) selector rest := by
  cases selector with
  | exact value =>
      have read : readUnsigned? UInt64.size (toString value.toNat).toList = some value.toNat :=
        Text.readUnsigned?_toString value.toNat_lt
      rw [PluralSelector.spell, List.cons_append, pluralSelector]
      simp only [(isWordRun_toString value.toNat).word_append stops, read]
      exact reads_ok (congrArg PluralSelector.exact UInt64.ofNat_toNat) rfl
  | category name =>
      have isRun := isWordRun_of_isWord (isWord_of_mem_categories known)
      have named : String.ofList (word (name.toList ++ rest)).1 = name := by
        rw [isRun.word_append stops, String.ofList_toList]
      have noEquals : ∀ more, name.toList ++ rest ≠ '=' :: more := by
        have tested : ∀ name ∈ PluralSelector.categories, name.toList.head? ≠ some '=' := by
          decide
        intro more equal
        have first := tested name known
        obtain ⟨c, letters, split, _⟩ := isRun.exists_cons
        rw [split] at equal first
        cases equal
        exact first rfl
      rw [PluralSelector.spell, pluralSelector]
      · have found := List.contains_iff_mem.mpr known
        simp only [named, if_pos found]
        exact reads_ok rfl (congrArg Prod.snd (isRun.word_append stops))
      · exact noEquals

end Pattern
end MessageExpansion
