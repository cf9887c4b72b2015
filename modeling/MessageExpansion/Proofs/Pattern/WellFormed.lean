import MessageExpansion.Pattern.Parser

/-!
# Well-formed patterns

What holds of every pattern that a text is read as, at every depth.  Texts are not empty and do not
touch; names and keys are words; plurals choose by categories that there are; every choice has an
option for all other values; and `#` stands for a number only inside a plural.
-/

namespace MessageExpansion

/-- A name or a key: characters other than white space and those with a meaning of their own. -/
structure IsWord (word : String) : Prop where
  nonempty : word ≠ ""
  plain : ∀ c ∈ word.toList,
    Text.isBlank c = false ∧ c ∉ ['\x7b', '\x7d', '#', ',', '\'']

/-- The condition of a plural option names a category that there is, if it names one. -/
def PluralSelector.IsKnown : PluralSelector → Prop
  | .exact _ => True
  | .category name => name ∈ PluralSelector.categories

/-- The element is a text, which needs no arguments to be shown. -/
def Element.isText : Element → Bool
  | .text _ => true
  | _ => false

/-- The first element of a pattern is a text. -/
def Pattern.startsWithText (pattern : Pattern) : Bool := pattern.head?.any Element.isText

mutual

/-- An element is well formed where `#` stands for a number or does not. -/
def Element.WellFormed (inPlural : Bool) : Element → Prop
  | .text value => value ≠ ""
  | .argument name | .number name _ | .date name _ | .time name _ => IsWord name
  | .pluralValue => inPlural = true
  | .plural name _ _ options =>
      IsWord name ∧ (∃ option ∈ options, option.selector = .category "other") ∧
        PluralOption.AllWellFormed options
  | .select name options =>
      IsWord name ∧ (∃ option ∈ options, option.key = "other") ∧
        SelectOption.AllWellFormed inPlural options

/-- The elements of a pattern are well formed, and no text stands next to another one. -/
def Pattern.WellFormed (inPlural : Bool) : List Element → Prop
  | [] => True
  | element :: rest =>
      element.WellFormed inPlural ∧
        (element.isText = true → Pattern.startsWithText rest = false) ∧
          Pattern.WellFormed inPlural rest

/-- The options of a plural are well formed. -/
def PluralOption.AllWellFormed : List PluralOption → Prop
  | [] => True
  | .mk selector value :: rest =>
      selector.IsKnown ∧ Pattern.WellFormed true value ∧ PluralOption.AllWellFormed rest

/-- The options of a select are well formed; a select says nothing about `#`. -/
def SelectOption.AllWellFormed (inPlural : Bool) : List SelectOption → Prop
  | [] => True
  | .mk key value :: rest =>
      IsWord key ∧ Pattern.WellFormed inPlural value ∧ SelectOption.AllWellFormed inPlural rest

end

namespace Pattern

open Text (Reading isBlank skipBlanks length_skipBlanks_le)

/-! ### Words and runs of text -/

theorem isWordChar_iff
    (c : Char) :
    isWordChar c = true ↔
      isBlank c = false ∧ c ∉ ['\x7b', '\x7d', '#', ',', '\''] := by
  simp only [isWordChar, isSyntax, Bool.not_eq_true', Bool.or_eq_false_iff, beq_eq_false_iff_ne,
    Bool.true_and, List.mem_cons, List.not_mem_nil, or_false, not_or, ne_eq, and_assoc]

/-- A word passes the test of the reader. -/
theorem isWord_iff
    (text : String) :
    IsWord text ↔ text ≠ "" ∧ text.toList.all isWordChar = true := by
  constructor
  · rintro ⟨nonempty, plain⟩
    exact ⟨nonempty, List.all_eq_true.mpr fun c present => (isWordChar_iff c).mpr (plain c present)⟩
  · rintro ⟨nonempty, all⟩
    exact ⟨nonempty, fun c present => (isWordChar_iff c).mp (List.all_eq_true.mp all c present)⟩

instance (text : String) : Decidable (IsWord text) := decidable_of_iff _ (isWord_iff text).symm

theorem isWord_word
    {input : List Char}
    (nonempty : (word input).1 ≠ []) :
    IsWord (String.ofList (word input).1) := by
  refine (isWord_iff _).mpr ⟨fun empty => nonempty (String.ofList_eq_empty_iff.mp empty), ?_⟩
  rw [String.toList_ofList]
  exact List.all_takeWhile

/-- A run of text ends at a character that ends it, or at the end. -/
theorem isSyntax_of_textRun
    {inPlural quoting : Bool}
    {input rest : List Char}
    {c : Char}
    (ends : (textRun inPlural quoting input).2 = c :: rest) :
    isSyntax inPlural c = true := by
  fun_induction textRun inPlural quoting input <;> simp_all [consText]

/-- A run of text in front of what does not begin with a text. -/
theorem wellFormed_textElements
    {inPlural : Bool}
    {rest : Pattern}
    (run : List Char)
    (wellFormed : WellFormed inPlural rest)
    (noText : startsWithText rest = false) :
    WellFormed inPlural (textElements run ++ rest) := by
  unfold textElements
  split
  · exact wellFormed
  · next nonempty =>
      have shown : String.ofList run ≠ "" := by
        simpa [String.ofList_eq_empty_iff] using nonempty
      exact ⟨shown, fun _ => noText, wellFormed⟩

/-- An element that is no text in front of a pattern. -/
theorem wellFormed_cons
    {inPlural : Bool}
    {element : Element}
    {rest : Pattern}
    (first : element.WellFormed inPlural)
    (noText : element.isText = false)
    (wellFormed : WellFormed inPlural rest) :
    WellFormed inPlural (element :: rest) :=
  ⟨first, fun isText => absurd isText (by simp [noText]), wellFormed⟩

/-! ### What readers yield -/

/-- What was read has a property, if something was read. -/
def Yields {bound : Nat} {α : Type} (holds : α → Prop)
    (result : Except Failure (Reading bound α)) : Prop :=
  ∀ reading, result = .ok reading → holds reading.value

theorem yields_pluralSelector
    (input : List Char) :
    Yields PluralSelector.IsKnown (pluralSelector input) := by
  intro reading read
  unfold pluralSelector at read
  split at read
  · split at read
    · cases read
      trivial
    · cases read
  · dsimp only at read
    split at read
    · next known =>
        cases read
        exact List.contains_iff_mem.mp known
    · cases read

/-- The name of an argument is a word, and what is complete without options is no text. -/
def Head.WellFormed : Head → Prop
  | .complete element => element.isText = false ∧ ∀ inPlural, element.WellFormed inPlural
  | .plural name _ _ | .select name => IsWord name

theorem yields_typed
    {name : String}
    (isWord : IsWord name)
    (input : List Char) :
    Yields Head.WellFormed (typed name input) := by
  intro reading read
  unfold typed at read
  dsimp only at read
  repeat' split at read
  -- A failure is no reading, and every other reading keeps the name.
  all_goals
    cases read
  all_goals
    first
      | exact isWord
      | exact ⟨rfl, fun _ => isWord⟩

/-- The name at the head of an argument is a word. -/
theorem yields_head
    (input : List Char) :
    Yields Head.WellFormed (head input) := by
  intro reading read
  unfold head at read
  dsimp only at read
  split at read
  · cases read
  · next nonempty =>
      have isWord : IsWord (String.ofList (word (skipBlanks input)).1) :=
        isWord_word (by simpa using nonempty)
      split at read
      · cases read
        exact ⟨rfl, fun _ => isWord⟩
      · split at read
        · cases read
        · next readTyped =>
            cases read
            exact yields_typed isWord _ _ readTyped
      · cases read

/-- An option for all other numbers was read. -/
theorem exists_of_coversOther
    {options : List PluralOption}
    (covers : coversOther options = true) :
    ∃ option ∈ options, option.selector = .category "other" := by
  obtain ⟨option, present, isOther⟩ := List.any_eq_true.mp covers
  refine ⟨option, present, ?_⟩
  cases selector : option.selector with
  | exact value =>
      rw [selector] at isOther
      cases isOther
  | category name =>
      rw [selector] at isOther
      rw [beq_iff_eq.mp isOther]

mutual

theorem yields_elements
    (inPlural : Bool)
    (input : List Char) :
    Yields (WellFormed inPlural) (elements inPlural input) := by
  intro reading read
  have bounded := length_textRun_le inPlural false input
  rw [elements] at read
  split at read
  · next run inner ran =>
      have fits : inner.length < input.length := by
        rw [ran] at bounded
        exact bounded
      split at read
      · cases read
      · next element after shorter readElement =>
          split at read
          · cases read
          · next more rest fewer readMore =>
              cases read
              obtain ⟨noText, wellFormed⟩ := yields_placeholder inPlural inner _ readElement
              exact wellFormed_textElements run
                (wellFormed_cons wellFormed noText (yields_elements inPlural after _ readMore))
                noText
  · next run inner ran =>
      have fits : inner.length < input.length := by
        rw [ran] at bounded
        exact bounded
      -- A run of text ends at a number sign only inside a plural.
      have counted : inPlural = true := by
        simpa [isSyntax] using isSyntax_of_textRun (congrArg Prod.snd ran)
      split at read
      · cases read
      · next more rest fewer readMore =>
          cases read
          exact wellFormed_textElements run
            (wellFormed_cons counted rfl (yields_elements inPlural inner _ readMore)) rfl
  · next run rest _ _ ran =>
      cases read
      have alone : WellFormed inPlural (textElements run ++ []) :=
        wellFormed_textElements run trivial rfl
      rwa [List.append_nil] at alone
termination_by 2 * input.length

theorem yields_placeholder
    (inPlural : Bool)
    (input : List Char) :
    Yields (fun element => element.isText = false ∧ element.WellFormed inPlural)
      (placeholder inPlural input) := by
  intro reading read
  rw [placeholder] at read
  split at read
  · cases read
  · next element rest shorter readHead =>
      cases read
      obtain ⟨noText, wellFormed⟩ := yields_head input _ readHead
      exact ⟨noText, wellFormed inPlural⟩
  · next name ordinal offset rest shorter readHead =>
      split at read
      · cases read
      · next options after fewer readOptions =>
          split at read
          · next covers =>
              cases read
              exact ⟨rfl, yields_head input _ readHead, exists_of_coversOther covers,
                yields_pluralOptions rest _ readOptions⟩
          · cases read
  · next name rest shorter readHead =>
      split at read
      · cases read
      · next options after fewer readOptions =>
          split at read
          · next covers =>
              cases read
              refine ⟨rfl, yields_head input _ readHead, ?_,
                yields_selectOptions inPlural rest _ readOptions⟩
              simpa using covers
          · cases read
termination_by 2 * input.length

theorem yields_braced
    (inPlural : Bool)
    (input : List Char) :
    Yields (WellFormed inPlural) (braced inPlural input) := by
  intro reading read
  rw [braced] at read
  split at read
  · cases read
  · next inner opened expected =>
      split at read
      · cases read
      · next value rest shorter readValue =>
          split at read
          · cases read
          · cases read
            exact yields_elements inPlural inner _ readValue
termination_by 2 * input.length

theorem yields_pluralOptions
    (input : List Char) :
    Yields PluralOption.AllWellFormed (pluralOptions input) := by
  intro reading read
  have blanks := length_skipBlanks_le input
  rw [pluralOptions] at read
  split at read
  · cases read
  · cases read
    trivial
  · split at read
    · cases read
    · next selector selected shorter readSelector =>
        have gap : (skipBlanks selected).length ≤ input.length := by
          have trailing := length_skipBlanks_le selected
          omega
        split at read
        · cases read
        · next value after fewer readValue =>
            split at read
            · cases read
            · next more rest least readMore =>
                cases read
                exact ⟨yields_pluralSelector _ _ readSelector, yields_braced true _ _ readValue,
                  yields_pluralOptions after _ readMore⟩
termination_by 2 * input.length + 1

theorem yields_selectOptions
    (inPlural : Bool)
    (input : List Char) :
    Yields (SelectOption.AllWellFormed inPlural) (selectOptions inPlural input) := by
  intro reading read
  have blanks := length_skipBlanks_le input
  rw [selectOptions] at read
  split at read
  · cases read
  · cases read
    trivial
  · have named := length_word_le (skipBlanks input)
    split at read
    · cases read
    · next nonempty =>
        have gap : (skipBlanks (word (skipBlanks input)).2).length ≤ input.length := by
          have trailing := length_skipBlanks_le (word (skipBlanks input)).2
          omega
        split at read
        · cases read
        · next value after fewer readValue =>
            split at read
            · cases read
            · next more rest least readMore =>
                cases read
                exact ⟨isWord_word (by simpa using nonempty), yields_braced inPlural _ _ readValue,
                  yields_selectOptions inPlural after _ readMore⟩
termination_by 2 * input.length + 1

end

/-- A text is a pattern if its elements are, with nothing left of the text. -/
theorem parse_eq_ok_iff
    {text : String}
    {pattern : Pattern} :
    parse text = .ok pattern ↔
      ∃ reading, elements false text.toList = .ok reading ∧ reading.value = pattern ∧
        reading.rest = [] := by
  unfold parse
  cases read : elements false text.toList with
  | error failure => simp
  | ok reading =>
      obtain ⟨value, rest, shorter⟩ := reading
      cases rest <;> simp

/-- A text that is a pattern is a well-formed one. -/
theorem WellFormed.of_parse
    {text : String}
    {pattern : Pattern}
    (parsed : parse text = .ok pattern) :
    WellFormed false pattern := by
  obtain ⟨reading, read, rfl, -⟩ := parse_eq_ok_iff.mp parsed
  exact yields_elements false _ _ read

end Pattern
end MessageExpansion
