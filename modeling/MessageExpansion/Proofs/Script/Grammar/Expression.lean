import MessageExpansion.Proofs.Script.Grammar.Call
import MessageExpansion.Proofs.Script.Grammar.Markup

/-!
# What expressions read

Every rule of expressions yields a piece of what it passes over.  Member accesses and calls make a
piece longer, and so do operators.
-/

namespace MessageExpansion
namespace Script
namespace Grammar

open Std.Do
open Recogniser

set_option mvcgen.warning false

variable [Source] {first : Cursor} {grammar : Grammar} [grammar.Sound]

attribute [local grind →] Cursor.Stands.previous Cursor.Stands.start

@[spec] theorem reads_arrayItem :
    Reads first grammar.arrayItem := by
  refine .of_outcome fun outcome => ?_
  mvcgen [arrayItem] <;> grind -linarith

@[spec] theorem reads_namedProperty :
    Reads first grammar.namedProperty := by
  refine .of_outcome fun outcome => ?_
  mvcgen [namedProperty] <;> grind -linarith

@[spec] theorem reads_objectItem :
    Reads first grammar.objectItem := by
  refine .of_outcome fun outcome => ?_
  mvcgen [objectItem] <;> grind -linarith

@[spec] theorem readsPiece_parenthesized :
    ReadsPiece first grammar.parenthesized := by
  refine .of_outcome fun outcome => ?_
  mvcgen [parenthesized] <;> grind -linarith

@[spec] theorem readsPiece_templatePiece :
    ReadsPiece first grammar.templatePiece := by
  refine .of_outcome fun outcome => ?_
  mvcgen [templatePiece] <;> grind -linarith

@[spec] theorem reads_constructorTypes? :
    Reads first grammar.constructorTypes? := by
  refine .of_outcome fun outcome => ?_
  mvcgen [constructorTypes?] <;> grind -linarith

@[spec] theorem readsPiece_construction :
    ReadsPiece first grammar.construction := by
  refine .of_outcome fun outcome => ?_
  mvcgen [construction] <;> grind -linarith

@[spec] theorem readsPiece_importOperand :
    ReadsPiece first importOperand := by
  refine .of_outcome fun outcome => ?_
  mvcgen [importOperand] <;> grind -linarith

@[spec] theorem readsPiece_regularExpression :
    ReadsPiece first regularExpression := by
  refine .of_outcome fun outcome => ?_
  mvcgen [regularExpression]
  all_goals grind -linarith [→ reaches_skipRegularExpression, → Place.IsIn.of_reaches,
    → Place.Reaches.le]

@[spec] theorem readsPiece_namedOperand
    {name : String}
    {escaped : Bool} :
    ReadsPiece first (grammar.namedOperand name escaped) := by
  refine .of_outcome fun outcome => ?_
  mvcgen [namedOperand] <;> grind -linarith

@[spec] theorem readsPiece_operand :
    ReadsPiece first grammar.operand := by
  refine .of_outcome fun outcome => ?_
  mvcgen [operand] <;> grind -linarith

@[spec] theorem yields_memberName :
    Yields first memberName fun _ last => first.Leads last := by
  refine .of_outcome fun outcome => ?_
  mvcgen [memberName] <;> grind -linarith

@[spec] theorem reads_indexed :
    Reads first grammar.indexed := by
  refine .of_outcome fun outcome => ?_
  mvcgen [indexed] <;> grind -linarith

@[spec] theorem extends_optionalAccess
    {base : Piece}
    (sound : base.Sound)
    (stopLe : base.span.stop ≤ first.previous.offset) :
    Extends first base (grammar.optionalAccess base) := by
  refine .of_outcome fun outcome => ?_
  mvcgen [optionalAccess] <;> grind -linarith

omit [Source] in
@[spec] theorem looks_afterTypeArguments :
    Looks first afterTypeArguments fun _ => True := by
  mvcgen [afterTypeArguments] <;> grind -linarith

@[spec] theorem reads_instantiation?
    {allowCall : Bool} :
    Reads first (grammar.instantiation? allowCall) := by
  refine .of_outcome fun outcome => ?_
  mvcgen [instantiation?] <;> grind -linarith

@[spec] theorem extends_accesses
    {allowCall : Bool}
    {count : Nat}
    {base : Piece}
    (sound : base.Sound)
    (stopLe : base.span.stop ≤ first.previous.offset) :
    Extends first base (grammar.accesses allowCall count base) := by
  induction count generalizing base first with
  | zero => mvcgen [accesses]
  | succ count inductionHypothesis =>
      refine .of_outcome fun outcome => ?_
      mvcgen [accesses, inductionHypothesis]
      all_goals grind -linarith

@[spec] theorem readsPiece_leftHandRule :
    ReadsPiece first grammar.leftHand := by
  refine .of_outcome fun outcome => ?_
  mvcgen [leftHand] <;> grind -linarith

@[spec] theorem readsPiece_constructedRule :
    ReadsPiece first grammar.constructed := by
  refine .of_outcome fun outcome => ?_
  mvcgen [constructed] <;> grind -linarith

omit [Source] in
@[spec] theorem looks_atPrefixOperator :
    Looks first atPrefixOperator fun _ => True := by
  mvcgen [atPrefixOperator] <;> grind -linarith

@[spec] theorem readsPiece_unary :
    ReadsPiece first grammar.unary := by
  refine .of_outcome fun outcome => ?_
  mvcgen [unary] <;> grind -linarith

omit [Source] in
@[spec] theorem looks_atBinaryOperator
    {allowIn : Bool} :
    Looks first (atBinaryOperator allowIn) fun _ => True := by
  mvcgen [atBinaryOperator] <;> grind -linarith

omit [Source] [grammar.Sound] in
@[spec] theorem looks_atTypeOperator :
    Looks first grammar.atTypeOperator fun _ => True := by
  mvcgen [atTypeOperator] <;> grind -linarith

/-- Operators with their right operands, of which the calls matter. -/
instance : Joinable (Bool × List CallTree) where
  between start stop operands := CallTree.Between start stop (operands.flatMap (·.2))
  mono := CallTree.Between.mono
  nil := CallTree.between_nil
  append := by
    intro start stop next final outerStop first second firstLies secondLies
    rw [List.flatMap_append]
    exact CallTree.Between.append firstLies secondLies

@[grind =] theorem between_operands
    {start stop : Nat}
    {operands : List (Bool × List CallTree)} :
    Located.between start stop operands ↔
      CallTree.Between start stop (operands.flatMap (·.2)) :=
  .rfl

@[grind =] theorem between_operand
    {start stop : Nat}
    {operand : Bool × List CallTree} :
    Located.between start stop [operand] ↔ CallTree.Between start stop operand.2 := by
  rw [between_operands, List.flatMap_singleton]

@[spec] theorem reads_operatorItem
    {allowIn : Bool} :
    Reads first (grammar.operatorItem allowIn) := by
  refine .of_outcome fun outcome => ?_
  mvcgen [operatorItem] <;> grind -linarith

@[spec] theorem yields_operands
    {allowIn : Bool} :
    Yields first (grammar.operands allowIn) fun value last => first.Leads last ∧ value.1.Sound ∧
      first.start.offset ≤ value.1.span.start ∧ value.1.span.stop ≤ last.previous.offset := by
  refine .of_outcome fun outcome => ?_
  mvcgen [operands] <;> grind -linarith

@[spec] theorem reads_singleArrowHead :
    Reads first singleArrowHead := by
  refine .of_outcome fun outcome => ?_
  mvcgen [singleArrowHead] <;> grind -linarith

@[spec] theorem reads_fullArrowHead
    {allowResultType : Bool} :
    Reads first (grammar.fullArrowHead allowResultType) := by
  refine .of_outcome fun outcome => ?_
  mvcgen [fullArrowHead] <;> grind -linarith

@[spec] theorem reads_arrowHead
    {allowResultType : Bool} :
    Reads first (grammar.arrowHead allowResultType) := by
  refine .of_outcome fun outcome => ?_
  mvcgen [arrowHead] <;> grind -linarith

@[spec] theorem reads_arrowHead?
    {allowResultType : Bool} :
    Reads first (grammar.arrowHead? allowResultType) := by
  refine .of_outcome fun outcome => ?_
  mvcgen [arrowHead?] <;> grind -linarith

@[spec] theorem passes_arrowBody
    {allowIn allowResultType : Bool} :
    Passes first (grammar.arrowBody allowIn allowResultType) := by
  refine .of_outcome fun outcome => ?_
  mvcgen [arrowBody, calls, -reads_calls] <;> grind -linarith

omit [Source] in
@[spec] theorem looks_atYieldEnd :
    Looks first atYieldEnd fun _ => True := by
  mvcgen [atYieldEnd] <;> grind -linarith

@[spec] theorem readsPiece_yielded
    {allowIn : Bool} :
    ReadsPiece first (grammar.yielded allowIn) := by
  refine .of_outcome fun outcome => ?_
  mvcgen [yielded] <;> grind -linarith

@[spec] theorem reads_positiveBranch
    {allowResultType : Bool} :
    Reads first (grammar.positiveBranch allowResultType) := by
  refine .of_outcome fun outcome => ?_
  mvcgen [positiveBranch] <;> grind -linarith

@[spec] theorem reads_branches
    {allowIn allowResultType : Bool} :
    Reads first (grammar.branches allowIn allowResultType) := by
  refine .of_outcome fun outcome => ?_
  mvcgen [branches] <;> grind -linarith

@[spec] theorem readsPiece_assignmentRule
    {allowIn allowResultType : Bool} :
    ReadsPiece first (grammar.assignmentRule allowIn allowResultType) := by
  refine .of_outcome fun outcome => ?_
  mvcgen [assignmentRule] <;> grind -linarith


end Grammar
end Script
end MessageExpansion
