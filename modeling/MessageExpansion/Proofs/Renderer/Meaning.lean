import MessageExpansion.Proofs.Renderer.Correctness
import MessageExpansion.Proofs.Renderer.Grouping

/-!
# The meaning of generated expressions

Every text that is a pattern compiles to the text of an expression, and the value of the expression
is the text that the pattern stands for.
-/

namespace MessageExpansion
namespace Renderer

open Script (Units Runtime Value Term Writes EndsNumeral units)
open Text (stringLiteral)

/-- The generated expression of a pattern renders the pattern. -/
theorem evaluates_of_parse
    {text : String}
    {pattern : Pattern}
    (parsed : Pattern.parse text = .ok pattern)
    (locale : String) :
    ∃ term : Term,
      (∀ back, EndsNumeral back →
        Writes ((compile pattern).print (stringLiteral locale)).toList (.sum term) back) ∧
      ∀ (M : Type → Type) [Monad M] [LawfulMonad M] (runtime : Runtime M),
        term.evaluate runtime runtime.globals =
          .text <$> Pattern.render isCompared runtime locale none pattern := by
  have grouped := isGrouped_compile (Pattern.hasCategories_of_parse parsed)
  refine ⟨(compile pattern).term locale, fun back ends => ?_, fun M _ _ runtime => ?_⟩
  · exact ((compile pattern).isWritten locale grouped back ends).1
  · exact (renders_compilePattern locale none 0 pattern).2 Provides.globals

/-! ### A library -/

/-- A library for whole numbers in English.  Every argument of a message is a value with a given
text and a given number. -/
def english (text : String) (number : Int) : Runtime Id where
  External := Unit
  Number := Int
  Object := String
  argument _ := ()
  toText _ := units text
  toNumber _ := number
  numeral value := value
  minus := Int.sub
  same := (· == ·)
  make name _ := name
  invoke object _ values :=
    match object, values with
    | "PluralRules", [.number 1] => units "one"
    | "PluralRules", _ => units "other"
    | _, [.number value] => units (toString value)
    | _, _ => []
  elsewhere := .arguments
  minus_zero := Int.sub_zero

/-- The generated expression of a plural takes the option for the category of its number. -/
theorem evaluates_of_parse_plural :
    ∃ pattern term,
      Pattern.parse "{n, plural, offset:1 =1 {you} one {# more} other {all}}" = .ok pattern ∧
      Writes ((compile pattern).print (stringLiteral "en")).toList (.sum term) [';'] ∧
      term.evaluate (english "2" 2) (english "2" 2).globals = .text (units "1 more") := by
  have rendered : (Pattern.parse "{n, plural, offset:1 =1 {you} one {# more} other {all}}").toOption.map
      (fun pattern => (Pattern.render isCompared (english "2" 2) "en" none pattern : Id Units).run) =
        some (units "1 more") := by decide +kernel
  cases parsed : Pattern.parse "{n, plural, offset:1 =1 {you} one {# more} other {all}}" with
  | error problem =>
      rw [parsed] at rendered
      cases rendered
  | ok pattern =>
      rw [parsed] at rendered
      obtain ⟨term, writes, value⟩ := evaluates_of_parse parsed "en"
      refine ⟨pattern, term, rfl, writes _ ⟨';', [], rfl, by decide⟩, ?_⟩
      exact (value Id (english "2" 2)).trans (congrArg Value.text (Option.some.inj rendered))

/-- An option for all other values is not compared: of two such options the last one applies even to
the text that is their key. -/
theorem other_applies_last :
    ∃ pattern,
      Pattern.parse "{g, select, other {a} other {b}}" = .ok pattern ∧
      Writes ((compile pattern).print (stringLiteral "en")).toList
        (.sum ((compile pattern).term "en")) [';'] ∧
      ((compile pattern).term "en").evaluate (english "other" 0) (english "other" 0).globals =
        .text (units "b") ∧
      Pattern.render (fun _ => true) (english "other" 0) "en" none pattern = units "a" := by
  have rendered : (Pattern.parse "{g, select, other {a} other {b}}").toOption.map
      (fun pattern =>
        ((Pattern.render isCompared (english "other" 0) "en" none pattern : Id Units).run,
          (Pattern.render (fun _ => true) (english "other" 0) "en" none pattern : Id Units).run)) =
        some (units "b", units "a") := by decide +kernel
  cases parsed : Pattern.parse "{g, select, other {a} other {b}}" with
  | error problem =>
      rw [parsed] at rendered
      cases rendered
  | ok pattern =>
      rw [parsed] at rendered
      obtain ⟨last, first⟩ := Prod.mk.inj (Option.some.inj rendered)
      have grouped := isGrouped_compile (Pattern.hasCategories_of_parse parsed)
      have value : ((compile pattern).term "en").evaluate (english "other" 0)
          (english "other" 0).globals =
            .text <$> Pattern.render isCompared (english "other" 0) "en" none pattern :=
        (renders_compilePattern "en" none 0 pattern).2 Provides.globals
      exact ⟨pattern, rfl, (Expression.isWritten "en" _ grouped [';'] ⟨';', [], rfl, by decide⟩).1,
        value.trans (congrArg Value.text last), first⟩

end Renderer
end MessageExpansion
