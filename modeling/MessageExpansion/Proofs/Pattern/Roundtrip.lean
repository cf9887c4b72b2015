import MessageExpansion.Proofs.Pattern.Spelling

/-!
# Reading spelled patterns

The elements of a spelled pattern are read one by one, each in front of what its successors are read
as, and so are the options of its choices at every depth.  A spelling is read as the pattern that it
spells exactly if that pattern is well formed.
-/

namespace MessageExpansion
namespace Pattern

open Text (Reading skipBlanks)

/-! ### Elements -/

section Elements

variable {inPlural : Bool} {input run inner after rest : List Char} {more : Pattern}

theorem reads_elements_end
    (ran : textRun inPlural false input = (run, rest))
    (noBrace : ∀ inner, rest ≠ '\x7b' :: inner)
    (noNumber : ∀ inner, rest ≠ '#' :: inner) :
    Reads (elements inPlural input) (textElements run) rest := by
  rw [elements]
  split
  · next opened =>
      cases opened.symm.trans ran
      exact (noBrace _ rfl).elim
  · next counted =>
      cases counted.symm.trans ran
      exact (noNumber _ rfl).elim
  · next same =>
      cases same.symm.trans ran
      exact reads_ok rfl rfl

theorem reads_elements_placeholder
    {element : Element}
    (ran : textRun inPlural false input = (run, '\x7b' :: inner))
    (first : Reads (placeholder inPlural inner) element after)
    (others : Reads (elements inPlural after) more rest) :
    Reads (elements inPlural input) (textElements run ++ element :: more) rest := by
  obtain ⟨firstShorter, first⟩ := first
  obtain ⟨othersShorter, others⟩ := others
  rw [elements]
  split
  · next same =>
      cases same.symm.trans ran
      simp only [first, others]
      exact reads_ok rfl rfl
  · next same =>
      cases same.symm.trans ran
  · next noBrace _ same =>
      cases same.symm.trans ran
      exact (noBrace _ rfl).elim

theorem reads_elements_pluralValue
    (ran : textRun inPlural false input = (run, '#' :: inner))
    (others : Reads (elements inPlural inner) more rest) :
    Reads (elements inPlural input) (textElements run ++ .pluralValue :: more) rest := by
  obtain ⟨shorter, others⟩ := others
  rw [elements]
  split
  · next same =>
      cases same.symm.trans ran
  · next same =>
      cases same.symm.trans ran
      simp only [others]
      exact reads_ok rfl rfl
  · next noNumber same =>
      cases same.symm.trans ran
      exact (noNumber _ rfl).elim

theorem textElements_toList
    {value : String}
    (nonempty : value ≠ "") :
    textElements value.toList = [.text value] := by
  rw [textElements, if_neg (by simpa using nonempty), String.ofList_toList]

/-- A text in front of what is read without one. -/
theorem reads_elements_text
    {value : String}
    (nonempty : value ≠ "")
    (stops : StopsText inPlural input)
    (others : Reads (elements inPlural input) more rest) :
    Reads (elements inPlural (quote inPlural false value.toList ++ input)) (.text value :: more)
      rest := by
  have ran := textRun_quote stops false value.toList
  have unquoted := textRun_of_stopsText stops
  obtain ⟨shorter, others⟩ := others
  rw [elements] at others
  split at others
  · next same =>
      cases same.symm.trans unquoted
      split at others
      · cases others
      · next first =>
          split at others
          · cases others
          · next second =>
              cases others
              have read := reads_elements_placeholder ran ⟨_, first⟩ ⟨_, second⟩
              rwa [textElements_toList nonempty] at read
  · next same =>
      cases same.symm.trans unquoted
      split at others
      · cases others
      · next second =>
          cases others
          have read := reads_elements_pluralValue ran ⟨_, second⟩
          rwa [textElements_toList nonempty] at read
  · next noBrace noNumber same =>
      cases same.symm.trans unquoted
      cases others
      have read := reads_elements_end ran noBrace noNumber
      rwa [textElements_toList nonempty] at read

end Elements

/-! ### Placeholders and options -/

/-- What begins with a word is no closing brace and not the end. -/
theorem IsWordRun.begins
    {letters text rest : List Char}
    (isRun : IsWordRun letters)
    (begins : text = letters ++ rest) :
    text ≠ [] ∧ ∀ more, text ≠ '\x7d' :: more := by
  obtain ⟨c, others, rfl, isWordChar⟩ := isRun.exists_cons
  subst begins
  refine ⟨List.cons_ne_nil _ _, ?_⟩
  intro more equal
  cases equal
  cases isWordChar

section Options

variable {inPlural : Bool} {input start inner after rest : List Char} {name : String}

theorem reads_placeholder_complete
    {element : Element}
    (read : Reads (head input) (.complete element) rest) :
    Reads (placeholder inPlural input) element rest := by
  obtain ⟨shorter, read⟩ := read
  rw [placeholder]
  simp only [read]
  exact reads_ok rfl rfl

theorem reads_placeholder_plural
    {ordinal : Bool}
    {offset : UInt32}
    {options : List PluralOption}
    (first : Reads (head input) (.plural name ordinal offset) after)
    (others : Reads (pluralOptions after) options rest)
    (covers : coversOther options = true) :
    Reads (placeholder inPlural input) (.plural name ordinal offset options) rest := by
  obtain ⟨firstShorter, first⟩ := first
  obtain ⟨othersShorter, others⟩ := others
  rw [placeholder]
  simp only [first, others, if_pos covers]
  exact reads_ok rfl rfl

theorem reads_placeholder_select
    {options : List SelectOption}
    (first : Reads (head input) (.select name) after)
    (others : Reads (selectOptions inPlural after) options rest)
    (covers : options.any (·.key == "other") = true) :
    Reads (placeholder inPlural input) (.select name options) rest := by
  obtain ⟨firstShorter, first⟩ := first
  obtain ⟨othersShorter, others⟩ := others
  rw [placeholder]
  simp only [first, others, if_pos covers]
  exact reads_ok rfl rfl

theorem reads_braced
    {value : Pattern}
    (read : Reads (elements inPlural inner) value ('\x7d' :: rest)) :
    Reads (braced inPlural (skipBlanks (' ' :: '\x7b' :: inner))) value rest := by
  rw [skipBlanks_space, skipBlanks_of_visible (by decide)]
  obtain ⟨openShorter, readOpen⟩ := reads_expect '\x7b' inner
  obtain ⟨closeShorter, readClose⟩ := reads_expect '\x7d' rest
  obtain ⟨shorter, read⟩ := read
  rw [braced]
  simp only [readOpen, read, readClose]
  exact reads_ok rfl rfl

theorem reads_pluralOptions_end
    (begins : skipBlanks input = '\x7d' :: rest) :
    Reads (pluralOptions input) [] rest := by
  rw [pluralOptions]
  split
  · next same =>
      cases same.symm.trans begins
  · next same =>
      cases same.symm.trans begins
      exact reads_ok rfl rfl
  · next noBrace =>
      exact (noBrace _ begins).elim

theorem reads_pluralOptions_cons
    {selector : PluralSelector}
    {value : Pattern}
    {more : List PluralOption}
    (begins : skipBlanks input = selector.spell ++ ' ' :: '\x7b' :: inner)
    (known : selector.IsKnown)
    (read : Reads (elements true inner) value ('\x7d' :: after))
    (others : Reads (pluralOptions after) more rest) :
    Reads (pluralOptions input) (.mk selector value :: more) rest := by
  have stops : StopsWord (' ' :: '\x7b' :: inner) := stopsWord_cons (by decide) _
  obtain ⟨nonempty, noBrace⟩ := (isWordRun_spell known).begins begins
  have chosen := reads_pluralSelector known stops
  rw [← begins] at chosen
  obtain ⟨chosenShorter, chosen⟩ := chosen
  obtain ⟨firstShorter, first⟩ := reads_braced read
  obtain ⟨othersShorter, others⟩ := others
  rw [pluralOptions]
  split
  · next same => exact (nonempty same).elim
  · next same => exact (noBrace _ same).elim
  · simp only [chosen, first, others]
    exact reads_ok rfl rfl

theorem reads_selectOptions_end
    (begins : skipBlanks input = '\x7d' :: rest) :
    Reads (selectOptions inPlural input) [] rest := by
  rw [selectOptions]
  split
  · next same =>
      cases same.symm.trans begins
  · next same =>
      cases same.symm.trans begins
      exact reads_ok rfl rfl
  · next noBrace =>
      exact (noBrace _ begins).elim

theorem reads_selectOptions_cons
    {key : String}
    {value : Pattern}
    {more : List SelectOption}
    (begins : skipBlanks input = key.toList ++ ' ' :: '\x7b' :: inner)
    (isWord : IsWord key)
    (read : Reads (elements inPlural inner) value ('\x7d' :: after))
    (others : Reads (selectOptions inPlural after) more rest) :
    Reads (selectOptions inPlural input) (.mk key value :: more) rest := by
  have isRun := isWordRun_of_isWord isWord
  have stops : StopsWord (' ' :: '\x7b' :: inner) := stopsWord_cons (by decide) _
  obtain ⟨nonempty, noBrace⟩ := isRun.begins begins
  have named : word (skipBlanks input) = (key.toList, ' ' :: '\x7b' :: inner) := by
    rw [begins, isRun.word_append stops]
  have left : (word (skipBlanks input)).2 = ' ' :: '\x7b' :: inner := congrArg Prod.snd named
  have first := reads_braced read
  rw [← left] at first
  obtain ⟨firstShorter, first⟩ := first
  obtain ⟨othersShorter, others⟩ := others
  rw [selectOptions]
  split
  · next same => exact (nonempty same).elim
  · next same => exact (noBrace _ same).elim
  · rw [if_neg (by simpa [named] using isWord.nonempty)]
    simp only [first, others]
    refine reads_ok ?_ rfl
    simp only [named, String.ofList_toList]

end Options

/-- A pattern ends in front of `rest`. -/
def StopsPattern (rest : List Char) : Prop := ∀ c ∈ rest.head?, c = '\x7d'

theorem stopsPattern_brace
    (rest : List Char) :
    StopsPattern ('\x7d' :: rest) := by
  simp [StopsPattern]

/-- What is spelled behind a text ends the text. -/
theorem stopsText_spellAll
    {inPlural : Bool}
    {pattern : Pattern}
    {rest : List Char}
    (wellFormed : WellFormed inPlural pattern)
    (noText : startsWithText pattern = false)
    (closes : StopsPattern rest) :
    StopsText inPlural (spellAll inPlural pattern ++ rest) := by
  cases pattern with
  | nil =>
      intro c first
      rw [closes c first]
      rfl
  | cons element others =>
      have brace : isSyntax inPlural '\x7b' = true := rfl
      intro c first
      cases element with
      | text => cases noText
      | pluralValue =>
          cases first
          obtain rfl : inPlural = true := wellFormed.1
          rfl
      | argument | number | date | time | plural | select =>
          cases first
          exact brace

theorem coversOther_of_exists
    {options : List PluralOption}
    (covers : ∃ option ∈ options, option.selector = .category "other") :
    coversOther options = true := by
  obtain ⟨option, present, other⟩ := covers
  refine List.any_eq_true.mpr ⟨option, present, ?_⟩
  rw [other]
  rfl

/-- What is spelled behind the offset of a plural is no offset. -/
theorem spellAll_plural_begins
    {options : List PluralOption}
    (wellFormed : PluralOption.AllWellFormed options)
    (rest : List Char) :
    StopsWord (PluralOption.spellAll options ++ '\x7d' :: rest) ∧
      offsetMark.isPrefixOf (skipBlanks (PluralOption.spellAll options ++ '\x7d' :: rest)) =
        false := by
  cases options with
  | nil =>
      refine ⟨stopsWord_cons (by decide) rest, ?_⟩
      rw [PluralOption.spellAll, List.nil_append, skipBlanks_of_visible (by decide)]
      rfl
  | cons option others =>
      obtain ⟨selector, value⟩ := option
      obtain ⟨known, -⟩ := wellFormed
      refine ⟨stopsWord_cons (by decide) _, ?_⟩
      rw [PluralOption.spellAll, List.cons_append, List.append_assoc,
        (isWordRun_spell known).skipBlanks_space_append]
      exact isPrefixOf_offsetMark known _

theorem reads_elements_brace
    {inPlural : Bool}
    {input inner after rest : List Char}
    {element : Element}
    {more : Pattern}
    (opened : input = '\x7b' :: inner)
    (first : Reads (placeholder inPlural inner) element after)
    (others : Reads (elements inPlural after) more rest) :
    Reads (elements inPlural input) (element :: more) rest := by
  subst opened
  have stops : StopsText inPlural ('\x7b' :: inner) := fun c same => by
    cases same
    rfl
  exact reads_elements_placeholder (textRun_of_stopsText stops) first others

mutual

/-- An element is read from its spelling, in front of what is read. -/
theorem reads_spell
    {inPlural : Bool}
    {input rest : List Char}
    {more : Pattern} :
    (element : Element) → element.WellFormed inPlural →
      (element.isText = true → StopsText inPlural input) →
        Reads (elements inPlural input) more rest →
          Reads (elements inPlural (element.spell inPlural ++ input)) (element :: more) rest
  | .text _, nonempty, stops, others => reads_elements_text nonempty (stops rfl) others
  | .argument _, isWord, _, others => by
      have first := reads_head_argument isWord input
      exact reads_elements_brace (by simp [Element.spell]) (reads_placeholder_complete first) others
  | .number _ style, isWord, _, others => by
      have first := reads_head_formatted input isWord (by decide) style.isWord_keyword
        (elim_keyword_number style) reads_typed_number
      exact reads_elements_brace (by simp [Element.spell]) (reads_placeholder_complete first) others
  | .date _ style, isWord, _, others => by
      have first := reads_head_formatted input isWord (by decide) style.isWord_keyword
        (elim_keyword_dateTime style) reads_typed_date
      exact reads_elements_brace (by simp [Element.spell]) (reads_placeholder_complete first) others
  | .time _ style, isWord, _, others => by
      have first := reads_head_formatted input isWord (by decide) style.isWord_keyword
        (elim_keyword_dateTime style) reads_typed_time
      exact reads_elements_brace (by simp [Element.spell]) (reads_placeholder_complete first) others
  | .pluralValue, counted, _, others => by
      obtain rfl : inPlural = true := counted
      have stops : StopsText true ('#' :: input) := fun c same => by
        cases same
        rfl
      exact reads_elements_pluralValue (textRun_of_stopsText stops) others
  | .plural _ ordinal offset options, wellFormed, _, others => by
      obtain ⟨isWord, covers, known⟩ := wellFormed
      obtain ⟨stops, noMark⟩ := spellAll_plural_begins known input
      obtain ⟨left, same, first⟩ := reads_head_plural isWord ordinal offset stops noMark
      have choices := reads_spellAll_plural options known input same
      exact reads_elements_brace (by simp [Element.spell])
        (reads_placeholder_plural first choices (coversOther_of_exists covers)) others
  | .select _ options, wellFormed, _, others => by
      obtain ⟨isWord, covers, known⟩ := wellFormed
      have covered : options.any (·.key == "other") = true := by simpa using covers
      have choices := reads_spellAll_select options known input
      exact reads_elements_brace (by simp [Element.spell])
        (reads_placeholder_select (reads_head_select isWord _) choices covered) others

/-- The elements of a pattern are read from their spelling, in front of a brace or the end. -/
theorem reads_spellAll
    {inPlural : Bool}
    {rest : List Char}
    (closes : StopsPattern rest) :
    (pattern : List Element) → WellFormed inPlural pattern →
      Reads (elements inPlural (spellAll inPlural pattern ++ rest)) pattern rest
  | [], _ => by
      have stops : StopsText inPlural (spellAll inPlural [] ++ rest) :=
        stopsText_spellAll trivial rfl closes
      rw [spellAll, List.nil_append]
      refine reads_elements_end (textRun_of_stopsText stops) ?_ ?_
      all_goals
        rintro inner rfl
        cases closes _ rfl
  | element :: others, wellFormed => by
      obtain ⟨first, apart, onward⟩ := wellFormed
      rw [spellAll, List.append_assoc]
      exact reads_spell element first
        (fun isText => stopsText_spellAll onward (apart isText) closes)
        (reads_spellAll closes others onward)

/-- The options of a plural are read from their spelling. -/
theorem reads_spellAll_plural
    {input : List Char} :
    (options : List PluralOption) → PluralOption.AllWellFormed options → (rest : List Char) →
      skipBlanks input = skipBlanks (PluralOption.spellAll options ++ '\x7d' :: rest) →
        Reads (pluralOptions input) options rest
  | [], _, rest, begins => reads_pluralOptions_end begins
  | .mk selector value :: others, wellFormed, rest, begins => by
      obtain ⟨known, inner, onward⟩ := wellFormed
      have first := reads_spellAll
        (stopsPattern_brace (PluralOption.spellAll others ++ '\x7d' :: rest)) value inner
      refine reads_pluralOptions_cons ?_ known first (reads_spellAll_plural others onward rest rfl)
      simp only [begins, PluralOption.spellAll, List.cons_append, List.append_assoc]
      exact (isWordRun_spell known).skipBlanks_space_append _

/-- The options of a select are read from their spelling. -/
theorem reads_spellAll_select
    {inPlural : Bool} :
    (options : List SelectOption) → SelectOption.AllWellFormed inPlural options →
      (rest : List Char) →
        Reads (selectOptions inPlural (SelectOption.spellAll inPlural options ++ '\x7d' :: rest))
          options rest
  | [], _, rest => reads_selectOptions_end (skipBlanks_of_visible (c := '\x7d') (by decide) rest)
  | .mk key value :: others, wellFormed, rest => by
      obtain ⟨isWord, inner, onward⟩ := wellFormed
      have first := reads_spellAll
        (stopsPattern_brace (SelectOption.spellAll inPlural others ++ '\x7d' :: rest)) value inner
      refine reads_selectOptions_cons ?_ isWord first (reads_spellAll_select others onward rest)
      simp only [SelectOption.spellAll, List.cons_append, List.append_assoc]
      exact (isWordRun_of_isWord isWord).skipBlanks_space_append _

end

/-- A well-formed pattern is read from its spelling. -/
theorem parse_spell
    {pattern : Pattern}
    (wellFormed : WellFormed false pattern) :
    parse (spell pattern) = .ok pattern := by
  have atEnd : StopsPattern [] := by simp [StopsPattern]
  have read := reads_spellAll atEnd pattern wellFormed
  rw [List.append_nil, ← String.toList_ofList (l := spellAll false pattern)] at read
  obtain ⟨shorter, read⟩ := read
  exact parse_eq_ok_iff.mpr ⟨⟨pattern, [], shorter⟩, read, rfl, rfl⟩

/-- A spelling is read as the pattern that it spells exactly if the pattern is well formed. -/
theorem parse_spell_iff
    (pattern : Pattern) :
    parse (spell pattern) = .ok pattern ↔ WellFormed false pattern := by
  constructor
  · exact WellFormed.of_parse
  · exact parse_spell

example :
    spell
        [.plural "n" false 1
          [.mk (.exact 0) [.text "no '#'"],
            .mk (.category "other") [.pluralValue, .text " of \x7b#\x7d"]]] =
      "\x7bn, plural, offset:1 =0 \x7bno '''#'''\x7d other \x7b# of '\x7b#\x7d'\x7d\x7d" := by
  decide

end Pattern
end MessageExpansion
