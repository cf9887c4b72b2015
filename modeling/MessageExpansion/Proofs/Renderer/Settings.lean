import MessageExpansion.Proofs.Script.Writing
import MessageExpansion.Renderer.Printer

/-!
# The objects that format values

Every formatter, and the rules that plurals choose by, is an object of the run-time library: it is
made by a constructor from the locale and from settings.  This module says which constructor and
which settings, and that the text of a renderer makes exactly this object.
-/

namespace MessageExpansion
namespace Renderer

open Script (Term Writes IsName IsVariable EndsNumeral)
open Text (stringLiteral)

/-- The value of a setting. -/
inductive Setting where
  | text (value : String)
  | number (value : Nat)
deriving DecidableEq, Repr

/-- The settings that a number formatter of a style has. -/
def numberSettings : NumberStyle → List (String × Setting)
  | .decimal => []
  | .integer => [("maximumFractionDigits", .number 0)]
  | .percent => [("style", .text "percent")]
  | .currency => [("style", .text "currency"), ("currency", .text "USD")]

/-- The settings that a date formatter of a style has. -/
def dateSettings : DateTimeStyle → List (String × Setting)
  | .short => [("month", .text "numeric"), ("day", .text "numeric"), ("year", .text "2-digit")]
  | .medium => [("month", .text "short"), ("day", .text "numeric"), ("year", .text "numeric")]
  | .long => [("month", .text "long"), ("day", .text "numeric"), ("year", .text "numeric")]
  | .full => [
      ("weekday", .text "long"), ("month", .text "long"), ("day", .text "numeric"),
      ("year", .text "numeric")]

/-- The settings that a time formatter of a style has. -/
def timeSettings : DateTimeStyle → List (String × Setting)
  | .short => [("hour", .text "numeric"), ("minute", .text "numeric")]
  | .medium => [
      ("hour", .text "numeric"), ("minute", .text "numeric"), ("second", .text "numeric")]
  | .long | .full => [
      ("hour", .text "numeric"), ("minute", .text "numeric"), ("second", .text "numeric"),
      ("timeZoneName", .text "short")]

/-- An object of the run-time library: its constructor, and its settings if there are any. -/
structure Maker where
  /-- The name of the constructor. -/
  name : String
  /-- The settings that it gets besides the locale. -/
  settings : Option (List (String × Setting))

/-- How a formatter is made. -/
def Formatter.maker : Formatter → Maker
  | .number style => ⟨"NumberFormat", style.map numberSettings⟩
  | .date style => ⟨"DateTimeFormat", some (dateSettings style)⟩
  | .time style => ⟨"DateTimeFormat", some (timeSettings style)⟩

/-- How the rules are made that choose the category of a number. -/
def pluralRules (ordinal : Bool) : Maker :=
  ⟨"PluralRules", some [("type", .text (if ordinal then "ordinal" else "cardinal"))]⟩

/-! ### As terms -/

/-- The term for a setting. -/
def Setting.term : Setting → Term
  | .text value => .text value
  | .number value => .numeral value

/-- The term for settings. -/
def settingsTerm (settings : List (String × Setting)) : Term :=
  .record (settings.map fun setting => (setting.1, setting.2.term))

/-- The term that makes an object for a locale. -/
def Maker.term (locale : String) (maker : Maker) : Term :=
  .construct (.member (.variable "Intl") maker.name)
    (.text locale :: maker.settings.toList.map settingsTerm)

/-! ### As text -/

/-- The text of a setting. -/
def Setting.spelling : Setting → List Char
  | .text value => (stringLiteral value).toList
  | .number value => (toString value).toList

/-- The text of one or more settings. -/
def fieldsSpelling (name : String) (value : Setting) : List (String × Setting) → List Char
  | [] => name.toList ++ ':' :: ' ' :: value.spelling
  | (next, other) :: rest =>
      name.toList ++ ':' :: ' ' :: (value.spelling ++ ',' :: ' ' :: fieldsSpelling next other rest)

/-- The text of settings. -/
def settingsSpelling : List (String × Setting) → List Char
  | [] => ['\x7b', '\x7d']
  | (name, value) :: rest => '\x7b' :: ' ' :: (fieldsSpelling name value rest ++ [' ', '\x7d'])

/-- The text of the arguments of a constructor; `locale` is a string literal. -/
def argumentsSpelling (locale : List Char) : Option (List (String × Setting)) → List Char
  | none => locale
  | some settings => locale ++ ',' :: ' ' :: settingsSpelling settings

/-- The text that makes an object; `locale` is a string literal. -/
def Maker.spelling (locale : List Char) (maker : Maker) : List Char :=
  "new".toList ++ ' ' :: ("Intl".toList ++ '.' ::
    (maker.name.toList ++ '(' :: (argumentsSpelling locale maker.settings ++ [')'])))

theorem numberOptions_toList
    (style : NumberStyle) :
    (numberOptions style).toList = settingsSpelling (numberSettings style) := by
  cases style <;> decide

theorem dateOptions_toList
    (style : DateTimeStyle) :
    (dateOptions style).toList = settingsSpelling (dateSettings style) := by
  cases style <;> decide

theorem timeOptions_toList
    (style : DateTimeStyle) :
    (timeOptions style).toList = settingsSpelling (timeSettings style) := by
  cases style <;> decide

theorem Formatter.print_toList
    (locale : String)
    (formatter : Formatter) :
    (formatter.print locale).toList = formatter.maker.spelling locale.toList := by
  cases formatter with
  | number style =>
      cases style with
      | none =>
          show ("new Intl.NumberFormat(" ++ locale ++ ")").toList = _
          simp [maker, Maker.spelling, argumentsSpelling]
      | some style =>
          show ("new Intl.NumberFormat(" ++ locale ++ ", " ++ numberOptions style ++ ")").toList = _
          simp [maker, Maker.spelling, argumentsSpelling, numberOptions_toList]
  | date style =>
      show ("new Intl.DateTimeFormat(" ++ locale ++ ", " ++ dateOptions style ++ ")").toList = _
      simp [maker, Maker.spelling, argumentsSpelling, dateOptions_toList]
  | time style =>
      show ("new Intl.DateTimeFormat(" ++ locale ++ ", " ++ timeOptions style ++ ")").toList = _
      simp [maker, Maker.spelling, argumentsSpelling, timeOptions_toList]

theorem printPluralRules_toList
    (locale : String)
    (ordinal : Bool) :
    (printPluralRules locale ordinal).toList = (pluralRules ordinal).spelling locale.toList := by
  have settings :
      ("\x7b type: \"" ++ (if ordinal then "ordinal" else "cardinal") ++ "\" \x7d").toList =
        settingsSpelling [("type", .text (if ordinal then "ordinal" else "cardinal"))] := by
    cases ordinal <;> decide
  show ("new Intl.PluralRules(" ++ locale ++ ", \x7b type: \"" ++
    (if ordinal then "ordinal" else "cardinal") ++ "\" \x7d)").toList = _
  simp [pluralRules, Maker.spelling, argumentsSpelling, ← settings]

/-! ### The text is the term -/

/-- The names of an object and of its settings are names of scripts. -/
structure Maker.IsNamed (maker : Maker) : Prop where
  name : IsName maker.name.toList
  fields : ∀ settings ∈ maker.settings, ∀ setting ∈ settings, IsName setting.1.toList

theorem Formatter.isNamed
    (formatter : Formatter) :
    formatter.maker.IsNamed := by
  have numbers (style : NumberStyle) :
      ∀ setting ∈ numberSettings style, IsName setting.1.toList := by
    cases style <;> decide
  have dates (style : DateTimeStyle) :
      ∀ setting ∈ dateSettings style, IsName setting.1.toList := by
    cases style <;> decide
  have times (style : DateTimeStyle) :
      ∀ setting ∈ timeSettings style, IsName setting.1.toList := by
    cases style <;> decide
  have number : IsName "NumberFormat".toList := by decide
  have date : IsName "DateTimeFormat".toList := by decide
  cases formatter with
  | number style =>
      refine ⟨number, ?_⟩
      cases style with
      | none => simp [maker]
      | some style => simpa [maker] using numbers style
  | date style => exact ⟨date, by simpa [maker] using dates style⟩
  | time style => exact ⟨date, by simpa [maker] using times style⟩

theorem pluralRules_isNamed
    (ordinal : Bool) :
    (pluralRules ordinal).IsNamed := by
  have rules : IsName "PluralRules".toList := by decide
  have type : IsName "type".toList := by decide
  exact ⟨rules, by simpa [pluralRules] using type⟩

theorem Setting.writes
    {back : List Char}
    (setting : Setting)
    (ends : EndsNumeral back) :
    Writes setting.spelling (.sum setting.term) back := by
  cases setting with
  | text value => exact (Writes.literal value back).sum
  | number value => exact (Writes.numeral value ends).sum

theorem fields_writes
    {back : List Char}
    (name : String)
    (value : Setting)
    (settings : List (String × Setting))
    (named : ∀ setting ∈ (name, value) :: settings, IsName setting.1.toList)
    (ends : EndsNumeral back) :
    Writes (fieldsSpelling name value settings)
      (.fields (((name, value) :: settings).map fun setting => (setting.1, setting.2.term))) back := by
  induction settings generalizing name value with
  | nil => exact .lastField (named _ List.mem_cons_self) (value.writes ends)
  | cons setting rest inductionHypothesis =>
      refine .field (named _ List.mem_cons_self) (value.writes ⟨',', _, rfl, by decide⟩) ?_
      exact inductionHypothesis _ _ fun other member => named other (List.mem_cons_of_mem _ member)

theorem settings_writes
    (settings : List (String × Setting))
    (back : List Char)
    (named : ∀ setting ∈ settings, IsName setting.1.toList) :
    Writes (settingsSpelling settings) (.operand (settingsTerm settings)) back := by
  cases settings with
  | nil => exact .emptyRecord back
  | cons setting rest => exact .record (fields_writes _ _ rest named ⟨' ', _, rfl, by decide⟩)

/-- The text that makes an object does so, whatever follows it. -/
theorem Maker.IsNamed.writes
    {maker : Maker}
    (isNamed : maker.IsNamed)
    (locale : String)
    (back : List Char) :
    Writes (maker.spelling (stringLiteral locale).toList) (.operand (maker.term locale)) back := by
  refine .construction (by decide) (by decide) isNamed.name ?_
  obtain ⟨name, settings⟩ := maker
  cases settings with
  | none => exact .argument (Writes.literal locale _).sum
  | some settings =>
      exact .arguments (Writes.literal locale _).sum
        (.argument (settings_writes settings _ (isNamed.fields settings rfl)).sum)

end Renderer
end MessageExpansion
