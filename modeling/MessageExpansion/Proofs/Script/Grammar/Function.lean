import MessageExpansion.Script.Grammar.Function
import MessageExpansion.Proofs.Script.Grammar.Basic

/-!
# What types, functions and classes read

Of a type only the computed names of properties hold calls.  The parts of a function or class may be
visited in another order than that of the text; they do not overlap.
-/

namespace MessageExpansion
namespace Script
namespace Grammar

open Std.Do
open Recogniser

set_option mvcgen.warning false

variable [Source] {first : Cursor} {grammar : Grammar} [grammar.Sound]

/-! ### Types -/

omit [Source] in
@[spec] theorem looks_atType :
    Looks first atType fun _ => True := by
  mvcgen [atType] <;> grind -linarith

omit [grammar.Sound] in
@[spec] theorem yields_entityName :
    Yields first grammar.entityName fun _ last => first.Leads last := by
  refine .of_outcome fun outcome => ?_
  mvcgen [entityName] <;> grind -linarith

@[spec] theorem reads_typeArguments? :
    Reads first grammar.typeArguments? := by
  refine .of_outcome fun outcome => ?_
  mvcgen [typeArguments?] <;> grind -linarith

@[spec] theorem reads_functionType :
    Reads first grammar.functionType := by
  refine .of_outcome fun outcome => ?_
  mvcgen [functionType] <;> grind -linarith

@[spec] theorem yields_mappedModifier :
    Yields first mappedModifier fun _ last => first.Leads last := by
  refine .of_outcome fun outcome => ?_
  mvcgen [mappedModifier] <;> grind -linarith

@[spec] theorem reads_mappedMember :
    Reads first grammar.mappedMember := by
  refine .of_outcome fun outcome => ?_
  mvcgen [mappedMember] <;> grind -linarith

@[spec] theorem reads_indexSignature :
    Reads first grammar.indexSignature := by
  refine .of_outcome fun outcome => ?_
  mvcgen [indexSignature] <;> grind -linarith

instance : Located Signature where
  between start stop signature :=
    CallTree.Between start stop (signature.types ++ signature.parameters ++ signature.result)
  mono := CallTree.Between.mono

@[grind =] theorem between_signature
    {start stop : Nat}
    {signature : Signature} :
    Located.between start stop signature ↔
      CallTree.Between start stop (signature.types ++ signature.parameters ++ signature.result) :=
  .rfl

attribute [grind =] Signature.around

@[spec] theorem reads_signature :
    Reads first grammar.signature := by
  refine .of_outcome fun outcome => ?_
  mvcgen [signature] <;> grind -linarith

@[spec] theorem reads_memberSignature :
    Reads first grammar.memberSignature := by
  refine .of_outcome fun outcome => ?_
  mvcgen [memberSignature] <;> grind -linarith

omit [Source] in
@[spec] theorem looks_atSignature :
    Looks first atSignature fun _ => True := by
  mvcgen [atSignature]
  grind -linarith

@[spec] theorem reads_namedTypeMember :
    Reads first grammar.namedTypeMember := by
  refine .of_outcome fun outcome => ?_
  mvcgen [namedTypeMember] <;> grind -linarith

@[spec] theorem reads_typeMember :
    Reads first grammar.typeMember := by
  refine .of_outcome fun outcome => ?_
  mvcgen [typeMember] <;> grind -linarith

@[spec] theorem reads_typeMembers :
    Reads first grammar.typeMembers := by
  refine .of_outcome fun outcome => ?_
  mvcgen [typeMembers] <;> grind -linarith

@[spec] theorem reads_tupleItem :
    Reads first grammar.tupleItem := by
  refine .of_outcome fun outcome => ?_
  mvcgen [tupleItem] <;> grind -linarith

@[spec] theorem reads_importedType :
    Reads first grammar.importedType := by
  refine .of_outcome fun outcome => ?_
  mvcgen [importedType] <;> grind -linarith

@[spec] theorem reads_queriedType :
    Reads first grammar.queriedType := by
  refine .of_outcome fun outcome => ?_
  mvcgen [queriedType] <;> grind -linarith

@[spec] theorem reads_primaryType :
    Reads first grammar.primaryType := by
  refine .of_outcome fun outcome => ?_
  mvcgen [primaryType] <;> grind -linarith

@[spec] theorem reads_postfixType :
    Reads first grammar.postfixType := by
  refine .of_outcome fun outcome => ?_
  mvcgen [postfixType] <;> grind -linarith

@[spec] theorem reads_inferredType
    {inBound : Bool} :
    Reads first (grammar.inferredType inBound) := by
  refine .of_outcome fun outcome => ?_
  mvcgen [inferredType] <;> grind -linarith

@[spec] theorem reads_operatorType
    {inBound : Bool} :
    Reads first (grammar.operatorType inBound) := by
  refine .of_outcome fun outcome => ?_
  mvcgen [operatorType] <;> grind -linarith

@[spec] theorem reads_unionType
    {inBound : Bool} :
    Reads first (grammar.unionType inBound) := by
  refine .of_outcome fun outcome => ?_
  mvcgen [unionType] <;> grind -linarith

@[spec] theorem reads_wholeFunctionType? :
    Reads first grammar.wholeFunctionType? := by
  refine .of_outcome fun outcome => ?_
  mvcgen [wholeFunctionType?] <;> grind -linarith

@[spec] theorem reads_boundType :
    Reads first grammar.boundType := by
  refine .of_outcome fun outcome => ?_
  mvcgen [boundType] <;> grind -linarith

@[spec] theorem reads_typeChoice? :
    Reads first grammar.typeChoice? := by
  refine .of_outcome fun outcome => ?_
  mvcgen [typeChoice?] <;> grind -linarith

@[spec] theorem reads_predicate? :
    Reads first grammar.predicate? := by
  refine .of_outcome fun outcome => ?_
  mvcgen [predicate?] <;> grind -linarith

@[spec] theorem reads_plainType :
    Reads first grammar.plainType := by
  refine .of_outcome fun outcome => ?_
  mvcgen [plainType] <;> grind -linarith

@[spec] theorem reads_type :
    Reads first grammar.type := by
  refine .of_outcome fun outcome => ?_
  mvcgen [type] <;> grind -linarith

/-! ### Functions and classes -/

@[spec] theorem reads_functionRest :
    Reads first grammar.functionRest := by
  refine .of_outcome fun outcome => ?_
  mvcgen [functionRest] <;> grind -linarith

@[spec] theorem reads_getterRest :
    Reads first grammar.getterRest := by
  refine .of_outcome fun outcome => ?_
  mvcgen [getterRest] <;> grind -linarith

@[spec] theorem reads_overloadRest :
    Reads first grammar.overloadRest := by
  refine .of_outcome fun outcome => ?_
  mvcgen [overloadRest] <;> grind -linarith

@[spec] theorem yields_ownName? :
    Yields first ownName? fun _ last => first.Leads last := by
  refine .of_outcome fun outcome => ?_
  mvcgen [ownName?] <;> grind -linarith

@[spec] theorem passes_functionExpression :
    Passes first grammar.functionExpression := by
  refine .of_outcome fun outcome => ?_
  mvcgen [functionExpression] <;> grind -linarith

@[spec] theorem yields_ownName
    {required : Bool} :
    Yields first (ownName required) fun _ last => first.Leads last := by
  refine .of_outcome fun outcome => ?_
  mvcgen [ownName] <;> grind -linarith

@[spec] theorem reads_functionDeclaration
    {named : Bool} :
    Reads first (grammar.functionDeclaration named) := by
  refine .of_outcome fun outcome => ?_
  mvcgen [functionDeclaration] <;> grind -linarith

omit [grammar.Sound] in
@[spec] theorem yields_methodKind :
    Yields first grammar.methodKind fun _ last => first.Leads last := by
  refine .of_outcome fun outcome => ?_
  mvcgen [methodKind] <;> grind -linarith

@[spec] theorem reads_fieldRest :
    Reads first grammar.fieldRest := by
  refine .of_outcome fun outcome => ?_
  mvcgen [fieldRest] <;> grind -linarith

@[spec] theorem reads_namedMember :
    Reads first grammar.namedMember := by
  refine .of_outcome fun outcome => ?_
  mvcgen [namedMember] <;> grind -linarith

@[spec] theorem reads_classMember :
    Reads first grammar.classMember := by
  refine .of_outcome fun outcome => ?_
  mvcgen [classMember] <;> grind -linarith

@[spec] theorem reads_implemented? :
    Reads first grammar.implemented? := by
  refine .of_outcome fun outcome => ?_
  mvcgen [implemented?] <;> grind -linarith

instance : Located Heritage where
  between start stop heritage := CallTree.Between start stop (heritage.base ++ heritage.types)
  mono := CallTree.Between.mono

@[grind =] theorem between_heritage
    {start stop : Nat}
    {heritage : Heritage} :
    Located.between start stop heritage ↔
      CallTree.Between start stop (heritage.base ++ heritage.types) :=
  .rfl

@[spec] theorem reads_heritage? :
    Reads first grammar.heritage? := by
  refine .of_outcome fun outcome => ?_
  mvcgen [heritage?] <;> grind -linarith

@[spec] theorem passes_classRule
    {named : Bool} :
    Passes first (grammar.classRule named) := by
  refine .of_outcome fun outcome => ?_
  mvcgen [classRule] <;> grind -linarith

end Grammar
end Script
end MessageExpansion
