import MessageExpansion.Script.Grammar.Binding
import MessageExpansion.Proofs.Script.Renumbering.Recogniser

/-!
# What rules are made of, over renumbered texts

Rules stay in step if the goals inside them do.  The words that modify something have no
underscores, so they are found in both texts or in neither.
-/

namespace MessageExpansion
namespace Script

open Recogniser

/-- The goals of a grammar stay in step. -/
class Grammar.StaysInStep (grammar : Grammar) : Prop where
  piece : ∀ goal, InStep Any (grammar.piece goal) (grammar.piece goal)

attribute [instance] Grammar.StaysInStep.piece

namespace Grammar

variable {grammar : Grammar} [grammar.StaysInStep]

instance
    (goal : Goal) :
    InStep Any (grammar.calls goal) (grammar.calls goal) := by
  unfold calls
  infer_instance

instance :
    InStep Any grammar.assignment grammar.assignment := by
  unfold assignment
  infer_instance

instance
    (allowIn : Bool) :
    InStep Any (grammar.sequencePiece allowIn) (grammar.sequencePiece allowIn) := by
  unfold sequencePiece
  infer_instance

instance :
    InStep Any grammar.sequence grammar.sequence := by
  unfold sequence
  infer_instance

instance
    (close : Punctuator)
    {item other : Recogniser (List CallTree)}
    [InStep Any item other] :
    InStep Any (grammar.list close item) (grammar.list close other) := by
  unfold list
  infer_instance

instance
    {item other : Recogniser (List CallTree)}
    [InStep Any item other] :
    InStep Any (grammar.angleList item) (grammar.angleList other) := by
  unfold angleList
  dsimp only
  infer_instance

instance
    (start other : Nat)
    (calls otherCalls : List CallTree) :
    InStep Any (pieceFrom start calls) (pieceFrom other otherCalls) := by
  unfold pieceFrom
  infer_instance

instance :
    InStep Any grammar.annotation? grammar.annotation? := by
  unfold annotation?
  infer_instance

instance :
    InStep Any grammar.statements grammar.statements := by
  unfold statements
  infer_instance

instance :
    InStep Any grammar.block grammar.block := by
  unfold block
  infer_instance

omit [grammar.StaysInStep] in
/-- The pieces of a template end at the same places. -/
theorem templateRest_inStep
    (tagged : Bool)
    {inside : Recogniser (List CallTree)}
    (step : InStep Any inside inside)
    (count : Nat) :
    InStep Any (grammar.templateRest tagged inside count)
      (grammar.templateRest tagged inside count) := by
  induction count with
  | zero => exact ⟨fun _ => .none⟩
  | succ count inductionHypothesis =>
      refine InStep.get.bind fun {found otherFound} together => ?_
      have separate : '\x60' ≠ '_' ∧ '\x60'.isDigit = false := by decide
      have literals := renumbered_readLiteral separate together.stop none
        found.stop.offset otherFound.stop.offset
      dsimp only
      generalize readLiteral '\x60' none found.stop.offset found.stop.rest = read,
        readLiteral '\x60' none otherFound.stop.offset otherFound.stop.rest = otherRead at literals
      cases literals with
      | none => infer_instance
      | some alike =>
          have moved := InStep.goTo alike.stop
          simp only [alike.malformed, alike.interpolated]
          infer_instance

instance
    (tagged : Bool)
    (inside : Recogniser (List CallTree))
    [step : InStep Any inside inside]
    (count : Nat) :
    InStep Any (grammar.templateRest tagged inside count)
      (grammar.templateRest tagged inside count) :=
  templateRest_inStep tagged step count

instance
    (tagged : Bool) :
    InStep Any (grammar.template tagged) (grammar.template tagged) := by
  unfold template
  infer_instance

/-! ### Bindings -/

set_option synthInstance.maxSize 100000

instance :
    InStep Eq atPropertyName atPropertyName := by
  unfold atPropertyName
  infer_instance

instance :
    InStep Any grammar.propertyName grammar.propertyName := by
  unfold propertyName
  infer_instance

instance :
    InStep Any grammar.default? grammar.default? := by
  unfold default?
  infer_instance

instance :
    InStep Any grammar.bindingWithDefault grammar.bindingWithDefault := by
  unfold bindingWithDefault
  infer_instance

instance :
    InStep Any grammar.arrayBindingItem grammar.arrayBindingItem := by
  unfold arrayBindingItem
  infer_instance

instance :
    InStep Any grammar.objectBindingItem grammar.objectBindingItem := by
  unfold objectBindingItem
  infer_instance

instance :
    InStep Any grammar.binding grammar.binding := by
  unfold binding
  infer_instance

instance :
    InStep Eq atBinding atBinding := by
  unfold atBinding
  infer_instance

instance : IsPlainWord "public" := ⟨by decide⟩

instance : IsPlainWord "private" := ⟨by decide⟩

instance : IsPlainWord "protected" := ⟨by decide⟩

instance : IsPlainWord "readonly" := ⟨by decide⟩

instance : IsPlainWord "override" := ⟨by decide⟩

instance :
    ArePlainWords parameterModifiers := by
  unfold parameterModifiers
  infer_instance

instance
    (words : List String)
    [ArePlainWords words]
    {next other : Recogniser Bool}
    [InStep Eq next other] :
    InStep Eq (atModifier words next) (atModifier words other) := by
  refine InStep.kind.bind fun {found _} agree => ?_
  cases agree with
  | same =>
      cases found with
      | name text escaped => cases escaped <;> infer_instance
      | _ => infer_instance
  | names inFirst inSecond escaped =>
      cases escaped with
      | true => infer_instance
      | false =>
          simp only [contains_of_underscore inFirst, contains_of_underscore inSecond]
          infer_instance
  | strings => infer_instance

instance
    (words : List String)
    [ArePlainWords words]
    {next other : Recogniser Bool}
    [InStep Eq next other] :
    InStep Eq (grammar.modifiers words next) (grammar.modifiers words other) := by
  unfold modifiers
  infer_instance

instance : IsPlainWord "this" := ⟨by decide⟩

instance :
    InStep Any grammar.parameter grammar.parameter := by
  unfold parameter
  infer_instance

instance :
    InStep Any grammar.parameters grammar.parameters := by
  unfold parameters
  infer_instance

instance : IsPlainWord "const" := ⟨by decide⟩

instance : IsPlainWord "in" := ⟨by decide⟩

instance : IsPlainWord "out" := ⟨by decide⟩

instance : IsPlainWord "extends" := ⟨by decide⟩

instance :
    InStep Any grammar.typeParameter grammar.typeParameter := by
  unfold typeParameter
  infer_instance

instance :
    InStep Any grammar.typeParameters? grammar.typeParameters? := by
  unfold typeParameters?
  infer_instance

instance :
    InStep Any grammar.typeArguments grammar.typeArguments := by
  unfold typeArguments
  infer_instance

end Grammar
end Script
end MessageExpansion
