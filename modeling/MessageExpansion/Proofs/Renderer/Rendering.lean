import MessageExpansion.Proofs.Renderer.Settings
import MessageExpansion.Proofs.Script.Evaluation

/-!
# What patterns render to

The text that a pattern stands for, by recursion over the pattern and without a word about programs.
Which options of a choice are compared by their labels is a parameter: an option that is not
compared applies only when no other one does.
-/

namespace MessageExpansion

open Script (Units Runtime units)

variable {M : Type → Type}

namespace Renderer

/-- The value of a setting. -/
def Setting.value (runtime : Runtime M) : Setting → runtime.Data
  | .text value => .text (units value)
  | .number value => .number (runtime.numeral value)

/-- The arguments that an object of the library is made from. -/
def Maker.arguments (runtime : Runtime M) (locale : String) (maker : Maker) : List runtime.Data :=
  .text (units locale) :: maker.settings.toList.map fun settings =>
    .record (settings.map fun setting => (setting.1, setting.2.value runtime))

/-- The answer of an object of the library to a value. -/
def Maker.ask [Monad M] (runtime : Runtime M) (locale : String) (maker : Maker) (method : String)
    (value : M runtime.Data) : M Units := do
  let object ← runtime.make maker.name (maker.arguments runtime locale)
  runtime.invoke object method [← value]

end Renderer

open Renderer (Formatter Maker pluralRules)

variable [Monad M] (compared : String → Bool) (runtime : Runtime M)

/-! ### Choices -/

/-- The first option that asks for a certain number. -/
def PluralOption.exact? (number : runtime.Number) :
    List (PluralSelector × M Units) → Option (M Units) :=
  List.findSome? fun
    | (.exact value, result) =>
        if runtime.same number (runtime.numeral value.toNat) then some result else none
    | (.category _, _) => none

/-- The first option that is compared by a certain category. -/
def PluralOption.category? (category : Units) :
    List (PluralSelector × M Units) → Option (M Units) :=
  List.findSome? fun
    | (.exact _, _) => none
    | (.category name, result) =>
        if compared name && units name == category then some result else none

/-- Some option is compared by its category. -/
def PluralOption.anyCategory (options : List (PluralSelector × M Units)) : Bool :=
  options.any fun
    | (.exact _, _) => false
    | (.category name, _) => compared name

/-- The last of some results; there is nothing to show if there are none. -/
def lastResult (results : List (M Units)) : M Units := results.getLast?.getD (pure [])

/-- The last option for all other numbers. -/
def PluralOption.other (options : List (PluralSelector × M Units)) : M Units :=
  lastResult ((options.filter (·.1.isOther)).map (·.2))

/--
The result of the option that applies to a number: an exact one, or one for the category, or else
the last one for all others.  The category is asked for if some option is compared by it.
-/
def PluralOption.choose (locale : String) (ordinal : Bool) (number difference : runtime.Number)
    (options : List (PluralSelector × M Units)) : M Units :=
  match PluralOption.exact? runtime number options with
  | some result => result
  | none =>
      if PluralOption.anyCategory compared options then do
        let category ←
          (pluralRules ordinal).ask runtime locale "select" (pure (.number difference))
        (PluralOption.category? compared category options).getD (PluralOption.other options)
      else PluralOption.other options

/-- The result of the first option that is compared by a certain key, or else of the last one for
all others. -/
def SelectOption.choose (key : Units) (options : List (String × M Units)) : M Units :=
  let found := options.find? fun option => compared option.1 && units option.1 == key
  (found.map (·.2)).getD (lastResult ((options.filter (·.1 == "other")).map (·.2)))

/-! ### Patterns -/

mutual

/-- The text of an element.  The number around it is that of the innermost plural, less the offset
of that plural. -/
def Element.render (locale : String) (around : Option runtime.Number) : Element → M Units
  | .text value => pure (units value)
  | .argument name => do runtime.toText (← runtime.argument (units name))
  | .number name style =>
      (Formatter.number (some style)).maker.ask runtime locale "format"
        (.external <$> runtime.argument (units name))
  | .date name style =>
      (Formatter.date style).maker.ask runtime locale "format"
        (.external <$> runtime.argument (units name))
  | .time name style =>
      (Formatter.time style).maker.ask runtime locale "format"
        (.external <$> runtime.argument (units name))
  | .pluralValue =>
      match around with
      | some number =>
          (Formatter.number none).maker.ask runtime locale "format" (pure (.number number))
      | none => pure (units "#")
  | .plural name ordinal offset options => do
      let number ← runtime.toNumber (← runtime.argument (units name))
      let difference := runtime.minus number (runtime.numeral offset.toNat)
      PluralOption.choose compared runtime locale ordinal number difference
        (PluralOption.renderAll locale (some difference) options)
  | .select name options => do
      let key ← runtime.toText (← runtime.argument (units name))
      SelectOption.choose compared key (SelectOption.renderAll locale around options)

/-- The text of a pattern: the texts of its elements, one after the other. -/
def Pattern.render (locale : String) (around : Option runtime.Number) : List Element → M Units
  | [] => pure []
  | element :: rest => do
      let front ← element.render locale around
      return front ++ (← Pattern.render locale around rest)

/-- The options of a plural with their texts. -/
def PluralOption.renderAll (locale : String) (around : Option runtime.Number) :
    List PluralOption → List (PluralSelector × M Units)
  | [] => []
  | .mk selector value :: rest =>
      (selector, Pattern.render locale around value) :: PluralOption.renderAll locale around rest

/-- The options of a select with their texts. -/
def SelectOption.renderAll (locale : String) (around : Option runtime.Number) :
    List SelectOption → List (String × M Units)
  | [] => []
  | .mk key value :: rest =>
      (key, Pattern.render locale around value) :: SelectOption.renderAll locale around rest

end

end MessageExpansion
