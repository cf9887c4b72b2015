import MessageExpansion.Script.Grammar.Markup
import MessageExpansion.Proofs.Script.Grammar.Basic

/-!
# What markup elements read

An element ends with the token at the cursor, and not before it.
-/

namespace MessageExpansion
namespace Script
namespace Grammar

open Std.Do
open Recogniser

set_option mvcgen.warning false

variable [Source] {first : Cursor} {grammar : Grammar} [grammar.Sound]

attribute [local grind →] Cursor.Stands.start Cursor.Stands.stop

omit [grammar.Sound]

@[spec] theorem reads_markupWord :
    Reads first markupWord := by
  refine .of_outcome fun outcome => ?_
  mvcgen [markupWord] <;> grind -linarith

@[spec] theorem reads_attributeName :
    Reads first attributeName := by
  refine .of_outcome fun outcome => ?_
  mvcgen [attributeName] <;> grind -linarith

@[spec] theorem reads_elementName :
    Reads first grammar.elementName := by
  refine .of_outcome fun outcome => ?_
  mvcgen [elementName] <;> grind -linarith

@[spec] theorem yields_attributeText :
    Yields first attributeText fun _ last => first.Leads last := by
  refine .of_outcome fun outcome => ?_
  mvcgen [attributeText] <;> grind -linarith

variable [grammar.Sound]

@[spec] theorem reads_attributeValue :
    Reads first grammar.attributeValue := by
  refine .of_outcome fun outcome => ?_
  mvcgen [attributeValue] <;> grind -linarith

@[spec] theorem reads_attributeRule :
    Reads first grammar.attributeRule := by
  refine .of_outcome fun outcome => ?_
  mvcgen [attributeRule] <;> grind -linarith

@[spec] theorem reads_embedded :
    Reads first grammar.embedded := by
  refine .of_outcome fun outcome => ?_
  mvcgen [embedded] <;> grind -linarith

@[spec] theorem reads_children
    {name : List Char}
    {count : Nat} :
    Reads first (grammar.children name count) := by
  induction count generalizing first with
  | zero => mvcgen [children]
  | succ count inductionHypothesis =>
      refine .of_outcome fun outcome => ?_
      mvcgen [children, inductionHypothesis]
      all_goals grind -linarith

/-- An element ends with the bracket where the cursor stands. -/
theorem readsElement_elementRule :
    ReadsElement first grammar.element := by
  refine .of_outcome fun outcome => ?_
  mvcgen [element] <;> grind -linarith

end Grammar
end Script
end MessageExpansion
