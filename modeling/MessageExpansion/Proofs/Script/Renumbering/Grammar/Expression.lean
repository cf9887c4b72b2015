import MessageExpansion.Script.Grammar.Expression
import MessageExpansion.Proofs.Script.Renumbering.Grammar.Function
import MessageExpansion.Proofs.Script.Renumbering.Grammar.Markup

/-!
# Expressions over renumbered texts

No operator and no word that begins an operand has an underscore.  Whether an expression can be
assigned to is the same in both texts, and whether type arguments belong to a call.
-/

namespace MessageExpansion
namespace Script
namespace Grammar

open Recogniser

set_option synthInstance.maxSize 100000

variable {grammar : Grammar} [grammar.StaysInStep]

instance :
    InStep Any grammar.arrayItem grammar.arrayItem := by
  unfold arrayItem
  infer_instance

instance :
    InStep Any grammar.namedProperty grammar.namedProperty := by
  unfold namedProperty
  infer_instance

instance :
    InStep Any grammar.objectItem grammar.objectItem := by
  unfold objectItem
  infer_instance

instance :
    InStep Any grammar.parenthesized grammar.parenthesized := by
  unfold parenthesized
  infer_instance

instance :
    InStep Any grammar.templatePiece grammar.templatePiece := by
  unfold templatePiece
  infer_instance

instance :
    InStep Any grammar.callArguments grammar.callArguments := by
  unfold callArguments
  infer_instance

instance
    (callee other : Piece)
    (types otherTypes : List CallTree) :
    InStep Any (grammar.callOf callee types) (grammar.callOf other otherTypes) := by
  have ends (condition otherCondition : Bool) (first second third fourth : Piece) :
      InStep Any (if condition then (pure first : Recogniser Piece) else pure second)
        (if otherCondition then pure third else pure fourth) := by
    split <;> split <;> infer_instance
  unfold callOf
  dsimp only
  infer_instance

instance :
    InStep Any grammar.constructorTypes? grammar.constructorTypes? := by
  unfold constructorTypes?
  infer_instance

instance : IsPlainWord "target" := ⟨by decide⟩

instance :
    InStep Any grammar.construction grammar.construction := by
  unfold construction
  infer_instance

instance : IsPlainWord "meta" := ⟨by decide⟩

instance :
    InStep Any importOperand importOperand := by
  unfold importOperand
  infer_instance

instance :
    InStep Any regularExpression regularExpression := by
  refine InStep.start.bind fun _ => ?_
  refine InStep.get.bind fun {found other} together => ?_
  have ends := renumbered_skipRegularExpression together.start
  generalize skipRegularExpression found.start = place,
    skipRegularExpression other.start = otherPlace at ends
  cases ends with
  | none => infer_instance
  | some agree =>
      have moved := InStep.goTo agree
      infer_instance

instance : IsPlainWord "super" := ⟨by decide⟩

/-- A name with an underscore is no word. -/
theorem beq_eq_false_of_underscore
    {name : String}
    (underscore : '_' ∈ name.toList)
    (word : String)
    [IsPlainWord word] :
    (name == word) = false :=
  beq_eq_false_iff_ne.mpr fun equal => IsPlainWord.plain (equal ▸ underscore)

instance
    (name : String)
    (escaped : Bool) :
    InStep Any (grammar.namedOperand name escaped) (grammar.namedOperand name escaped) := by
  unfold namedOperand
  infer_instance

/-- Two names with underscores are both variables. -/
theorem inStep_namedOperand
    {first second : String}
    (inFirst : '_' ∈ first.toList)
    (inSecond : '_' ∈ second.toList)
    (escaped : Bool) :
    InStep Any (grammar.namedOperand first escaped) (grammar.namedOperand second escaped) := by
  have words : ArePlainWords ["this", "super", "null", "true", "false"] := inferInstance
  unfold namedOperand
  simp only [beq_eq_false_of_underscore inFirst, beq_eq_false_of_underscore inSecond,
    contains_of_underscore inFirst, contains_of_underscore inSecond]
  infer_instance

instance :
    InStep Any grammar.operand grammar.operand := by
  refine InStep.start.bind fun _ => ?_
  refine InStep.kind.bind fun {found _} agree => ?_
  cases agree with
  | same =>
      cases found with
      | punctuator which => cases which <;> infer_instance
      | _ => infer_instance
  | names inFirst inSecond escaped => exact inStep_namedOperand inFirst inSecond escaped
  | strings => infer_instance

instance :
    InStep Eq memberName memberName := by
  unfold memberName
  infer_instance

instance :
    InStep Any grammar.indexed grammar.indexed := by
  unfold indexed
  infer_instance

instance
    (base other : Piece)
    (isChain otherIsChain : Bool)
    (calls otherCalls : List CallTree) :
    InStep Any (extend base isChain calls) (extend other otherIsChain otherCalls) := by
  unfold extend
  infer_instance

instance
    (base other : Piece) :
    InStep Any (grammar.optionalAccess base) (grammar.optionalAccess other) := by
  unfold optionalAccess
  dsimp only
  infer_instance

instance :
    InStep Eq afterTypeArguments afterTypeArguments := by
  unfold afterTypeArguments
  infer_instance

instance
    (allowCall : Bool) :
    InStep (Option.Rel SameSecond) (grammar.instantiation? allowCall)
      (grammar.instantiation? allowCall) := by
  unfold instantiation?
  refine InStep.attempt ?_
  infer_instance

instance
    (allowCall : Bool)
    (count : Nat)
    (base other : Piece) :
    InStep Any (grammar.accesses allowCall count base) (grammar.accesses allowCall count other) := by
  induction count generalizing base other with
  | zero => exact ⟨fun _ => .none⟩
  | succ count inductionHypothesis =>
      refine InStep.kind.bind fun {found _} agree => ?_
      cases agree with
      | same =>
          cases found with
          | punctuator which =>
              cases which <;> infer_instance
          | _ => infer_instance
      | names | strings => infer_instance

instance :
    InStep Any grammar.leftHand grammar.leftHand := by
  unfold leftHand
  infer_instance

instance :
    InStep Any grammar.constructed grammar.constructed := by
  unfold constructed
  infer_instance

instance : IsPlainWord "delete" := ⟨by decide⟩

instance : IsPlainWord "await" := ⟨by decide⟩

instance :
    InStep Eq atPrefixOperator atPrefixOperator := by
  have words : ArePlainWords ["delete", "void", "typeof", "await"] := inferInstance
  refine InStep.kind.bind fun {found _} agree => ?_
  cases agree with
  | same =>
      cases found with
      | name text escaped => cases escaped <;> infer_instance
      | _ => infer_instance
  | names inFirst inSecond escaped =>
      cases escaped with
      | true => infer_instance
      | false =>
          simp only [contains_of_underscore inFirst, contains_of_underscore inSecond]
          infer_instance
  | strings => infer_instance

instance :
    InStep Any grammar.unary grammar.unary := by
  unfold unary
  infer_instance

instance : IsPlainWord "instanceof" := ⟨by decide⟩

instance
    (allowIn : Bool) :
    InStep Eq (atBinaryOperator allowIn) (atBinaryOperator allowIn) := by
  refine InStep.kind.bind fun {found _} agree => ?_
  cases agree with
  | same =>
      cases found with
      | name text escaped => cases escaped <;> infer_instance
      | _ => infer_instance
  | names inFirst inSecond escaped =>
      cases escaped with
      | true => infer_instance
      | false =>
          simp only [beq_eq_false_of_underscore inFirst, beq_eq_false_of_underscore inSecond]
          infer_instance
  | strings => infer_instance

instance : IsPlainWord "satisfies" := ⟨by decide⟩

instance :
    InStep Eq grammar.atTypeOperator grammar.atTypeOperator := by
  unfold atTypeOperator
  infer_instance

/-- Operands of the same sorts. -/
def SameSorts (first second : List (Bool × List CallTree)) : Prop :=
  first.map (·.1) = second.map (·.1)

instance
    (sort : Bool)
    (calls otherCalls : List CallTree) :
    InStep SameSorts (pure [(sort, calls)]) (pure [(sort, otherCalls)]) :=
  .pure rfl

instance
    (allowIn : Bool) :
    InStep SameSorts (grammar.operatorItem allowIn) (grammar.operatorItem allowIn) := by
  unfold operatorItem
  infer_instance

instance
    (allowIn : Bool) :
    InStep SameSecond (grammar.operands allowIn) (grammar.operands allowIn) := by
  have unary : InStep Any grammar.unary grammar.unary := inferInstance
  have nil : SameSorts [] [] := rfl
  have append {first second third fourth : List (Bool × List CallTree)}
      (front : SameSorts first second) (back : SameSorts third fourth) :
      SameSorts (first ++ third) (second ++ fourth) := by
    simp only [SameSorts, List.map_append] at front back ⊢
    rw [front, back]
  have rest : InStep SameSorts
      (repeatUntil (do return !((← atBinaryOperator allowIn) || (← grammar.atTypeOperator)))
        (grammar.operatorItem allowIn) grammar.limit)
      (repeatUntil (do return !((← atBinaryOperator allowIn) || (← grammar.atTypeOperator)))
        (grammar.operatorItem allowIn) grammar.limit) :=
    .repeatUntil nil append inferInstance inferInstance grammar.limit
  refine unary.bind fun _ => rest.bind fun {found other} same => ?_
  have empty (items : List (Bool × List CallTree)) : items.isEmpty = (items.map (·.1)).isEmpty :=
    List.isEmpty_map.symm
  have all (items : List (Bool × List CallTree)) :
      (items.all fun item => !item.1) = (items.map (·.1)).all (!·) := by
    rw [List.all_map]
    rfl
  have sorts : found.map (·.1) = other.map (·.1) := same
  simp only [empty, all, sorts]
  infer_instance

instance :
    InStep Any singleArrowHead singleArrowHead := by
  unfold singleArrowHead
  infer_instance

instance
    (allowResultType : Bool) :
    InStep Any (grammar.fullArrowHead allowResultType) (grammar.fullArrowHead allowResultType) := by
  unfold fullArrowHead
  infer_instance

instance
    (allowResultType : Bool) :
    InStep Any (grammar.arrowHead allowResultType) (grammar.arrowHead allowResultType) := by
  unfold arrowHead
  infer_instance

instance
    (allowResultType : Bool) :
    InStep Alike (grammar.arrowHead? allowResultType) (grammar.arrowHead? allowResultType) := by
  unfold arrowHead?
  infer_instance

instance
    (allowIn allowResultType : Bool) :
    InStep Any (grammar.arrowBody allowIn allowResultType) (grammar.arrowBody allowIn allowResultType) := by
  unfold arrowBody
  infer_instance

instance : IsPlainWord "of" := ⟨by decide⟩

instance :
    InStep Eq atYieldEnd atYieldEnd := by
  refine InStep.kind.bind fun {found _} agree => ?_
  cases agree with
  | same =>
      cases found with
      | name text escaped => cases escaped <;> infer_instance
      | _ => infer_instance
  | names inFirst inSecond escaped =>
      cases escaped with
      | true => infer_instance
      | false =>
          simp only [beq_eq_false_of_underscore inFirst, beq_eq_false_of_underscore inSecond]
          infer_instance
  | strings => infer_instance

instance : IsPlainWord "yield" := ⟨by decide⟩

instance
    (allowIn : Bool) :
    InStep Any (grammar.yielded allowIn) (grammar.yielded allowIn) := by
  unfold yielded
  infer_instance

instance
    (allowResultType : Bool) :
    InStep Any (grammar.positiveBranch allowResultType) (grammar.positiveBranch allowResultType) := by
  unfold positiveBranch
  infer_instance

instance
    (allowIn allowResultType : Bool) :
    InStep Any (grammar.branches allowIn allowResultType) (grammar.branches allowIn allowResultType) := by
  unfold branches
  infer_instance

instance
    (allowIn allowResultType : Bool) :
    InStep Any (grammar.assignmentRule allowIn allowResultType) (grammar.assignmentRule allowIn allowResultType) := by
  unfold assignmentRule
  infer_instance

end Grammar
end Script
end MessageExpansion
