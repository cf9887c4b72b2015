/-!
# Message patterns

The tree of a message pattern: literal text, arguments with their formats, and the choices between
sub-patterns that a plural or a select makes.  Nothing here says how a pattern is spelled or what
it renders to.
-/

namespace MessageExpansion

/-- How a number argument is formatted. -/
inductive NumberStyle where
  | decimal
  | integer
  | percent
  | currency
deriving DecidableEq, Repr

/-- How much of a date or time is shown. -/
inductive DateTimeStyle where
  | short
  | medium
  | long
  | full
deriving DecidableEq, Repr

/-- The condition under which a plural takes one of its options. -/
inductive PluralSelector where
  /-- The number equals `value`. -/
  | exact (value : UInt64)
  /-- The number, less the offset, falls into the named category of the locale. -/
  | category (name : String)
deriving DecidableEq, Repr

/-- The plural categories a pattern may name. -/
def PluralSelector.categories : List String := ["zero", "one", "two", "few", "many", "other"]

/-- The option to take when no other applies. -/
def PluralSelector.isOther : PluralSelector → Bool
  | .exact _ => false
  | .category name => name == "other"

mutual

/-- One piece of a pattern. -/
inductive Element where
  /-- Text to be shown as it is, with all quoting removed. -/
  | text (value : String)
  /-- The argument `name`, shown as text. -/
  | argument (name : String)
  /-- The argument `name`, formatted as a number. -/
  | number (name : String) (style : NumberStyle)
  /-- The argument `name`, formatted as a date. -/
  | date (name : String) (style : DateTimeStyle)
  /-- The argument `name`, formatted as a time of day. -/
  | time (name : String) (style : DateTimeStyle)
  /-- The number of the innermost plural around this element, less that plural's offset. -/
  | pluralValue
  /-- A choice by the number `name`. -/
  | plural (name : String) (ordinal : Bool) (offset : UInt32) (options : List PluralOption)
  /-- A choice by the text `name`. -/
  | select (name : String) (options : List SelectOption)

/-- One option of a plural. -/
inductive PluralOption where
  | mk (selector : PluralSelector) (value : List Element)

/-- One option of a select. -/
inductive SelectOption where
  | mk (key : String) (value : List Element)

end

/-- A message pattern: its pieces in order. -/
abbrev Pattern := List Element

/-- The condition of a plural option. -/
def PluralOption.selector : PluralOption → PluralSelector
  | .mk selector _ => selector

/-- The sub-pattern of a plural option. -/
def PluralOption.value : PluralOption → Pattern
  | .mk _ value => value

/-- The text a select option stands for. -/
def SelectOption.key : SelectOption → String
  | .mk key _ => key

/-- The sub-pattern of a select option. -/
def SelectOption.value : SelectOption → Pattern
  | .mk _ value => value

end MessageExpansion
