import MessageExpansion.Proofs.Pattern.WellFormed

/-!
# The elements of a pattern

Quoting cannot hide a whole text: a run of text that reaches to the end of the input without a
character of its own began there.  So only the empty text is the pattern without elements, and what
a pattern of texts only says is one run of text.

A text is a pattern only if its plurals choose among the categories that plural rules have.
-/

namespace MessageExpansion
namespace Pattern

/-- A run of text without characters begins at a syntax character or at the end. -/
theorem textRun_eq_nil
    {inPlural : Bool}
    {input : List Char}
    (empty : textRun inPlural false input = ([], [])) :
    input = [] := by
  cases input with
  | nil => rfl
  | cons c rest =>
      rw [textRun.eq_def] at empty
      repeat' split at empty
      all_goals simp_all [consText]

/-- If only texts were read, then a single run of text was. -/
theorem exists_textRun_of_elements
    {inPlural : Bool}
    {input : List Char}
    {reading : Text.Reading (input.length + 1) Pattern}
    (read : elements inPlural input = .ok reading)
    (texts : ∀ element ∈ reading.value, element.isText = true) :
    ∃ run, reading.value = textElements run ∧
      textRun inPlural false input = (run, reading.rest) := by
  rw [elements] at read
  split at read
  · split at read
    · cases read
    · next element after shorter readElement =>
        split at read
        · cases read
        · cases read
          have noText := (yields_placeholder inPlural _ _ readElement).1
          have isText := texts element (by simp)
          rw [noText] at isText
          cases isText
  · split at read
    · cases read
    · cases read
      cases texts .pluralValue (by simp)
  · next run rest _ _ ran =>
      cases read
      exact ⟨run, rfl, ran⟩

/-- If a text is a pattern of texts only, then it is a single run of text. -/
theorem exists_textRun_of_parse
    {text : String}
    {pattern : Pattern}
    (parsed : parse text = .ok pattern)
    (texts : ∀ element ∈ pattern, element.isText = true) :
    ∃ run, pattern = textElements run ∧ textRun false false text.toList = (run, []) := by
  obtain ⟨reading, read, rfl, nothing⟩ := parse_eq_ok_iff.mp parsed
  obtain ⟨run, same, ran⟩ := exists_textRun_of_elements read texts
  exact ⟨run, same, nothing ▸ ran⟩

/-- Only the empty text is the pattern without elements. -/
theorem eq_empty_of_parse
    {text : String}
    (parsed : parse text = .ok []) :
    text = "" := by
  obtain ⟨run, noElement, ran⟩ := exists_textRun_of_parse parsed (by simp)
  have noText : run = [] := by simpa [textElements] using noElement.symm
  rw [noText] at ran
  exact String.toList_eq_nil_iff.mp (textRun_eq_nil ran)

theorem parse_empty : parse "" = .ok [] := by
  simp [parse, elements, textRun, textElements]

/-- A pattern has no elements exactly if its text is empty. -/
theorem isEmpty_of_parse
    {text : String}
    {pattern : Pattern}
    (parsed : parse text = .ok pattern) :
    pattern.isEmpty = decide (text = "") := by
  by_cases empty : text = ""
  · rw [empty, parse_empty] at parsed
    cases parsed
    simp [empty]
  · cases pattern with
    | nil => exact absurd (eq_empty_of_parse parsed) empty
    | cons element rest => simp [empty]

end Pattern

/-! ### Categories -/

mutual

/-- An element chooses by categories that there are. -/
def Element.HasCategories : Element → Prop
  | .plural _ _ _ options => PluralOption.AllHaveCategories options
  | .select _ options => SelectOption.AllHaveCategories options
  | .text _ | .argument _ | .number _ _ | .date _ _ | .time _ _ | .pluralValue => True

/-- A pattern chooses by categories that there are. -/
def Pattern.HasCategories : List Element → Prop
  | [] => True
  | element :: rest => element.HasCategories ∧ Pattern.HasCategories rest

/-- The options of a plural name categories that there are, and so do their patterns. -/
def PluralOption.AllHaveCategories : List PluralOption → Prop
  | [] => True
  | .mk selector value :: rest =>
      selector.IsKnown ∧ Pattern.HasCategories value ∧ PluralOption.AllHaveCategories rest

/-- The patterns of the options of a select name categories that there are. -/
def SelectOption.AllHaveCategories : List SelectOption → Prop
  | [] => True
  | .mk _ value :: rest => Pattern.HasCategories value ∧ SelectOption.AllHaveCategories rest

end

mutual

theorem Element.WellFormed.hasCategories
    {inPlural : Bool} :
    (element : Element) → element.WellFormed inPlural → element.HasCategories
  | .plural _ _ _ options, wellFormed =>
      PluralOption.AllWellFormed.haveCategories options wellFormed.2.2
  | .select _ options, wellFormed =>
      SelectOption.AllWellFormed.haveCategories options wellFormed.2.2
  | .text _, _ | .argument _, _ | .number _ _, _ | .date _ _, _ | .time _ _, _
  | .pluralValue, _ => trivial

theorem Pattern.WellFormed.hasCategories
    {inPlural : Bool} :
    (pattern : List Element) → Pattern.WellFormed inPlural pattern → Pattern.HasCategories pattern
  | [], _ => trivial
  | element :: rest, wellFormed =>
      ⟨Element.WellFormed.hasCategories element wellFormed.1,
        Pattern.WellFormed.hasCategories rest wellFormed.2.2⟩

theorem PluralOption.AllWellFormed.haveCategories :
    (options : List PluralOption) → PluralOption.AllWellFormed options →
      PluralOption.AllHaveCategories options
  | [], _ => trivial
  | .mk _ value :: rest, wellFormed =>
      ⟨wellFormed.1, Pattern.WellFormed.hasCategories value wellFormed.2.1,
        PluralOption.AllWellFormed.haveCategories rest wellFormed.2.2⟩

theorem SelectOption.AllWellFormed.haveCategories
    {inPlural : Bool} :
    (options : List SelectOption) → SelectOption.AllWellFormed inPlural options →
      SelectOption.AllHaveCategories options
  | [], _ => trivial
  | .mk _ value :: rest, wellFormed =>
      ⟨Pattern.WellFormed.hasCategories value wellFormed.2.1,
        SelectOption.AllWellFormed.haveCategories rest wellFormed.2.2⟩

end

/-- A text that is a pattern chooses by categories that there are. -/
theorem Pattern.hasCategories_of_parse
    {text : String}
    {pattern : Pattern}
    (parsed : parse text = .ok pattern) :
    HasCategories pattern :=
  Pattern.WellFormed.hasCategories pattern (WellFormed.of_parse parsed)

end MessageExpansion
