import MessageExpansion.Script.Grammar.Function
import MessageExpansion.Proofs.Script.Renumbering.Grammar.Basic

/-!
# Types, functions and classes over renumbered texts

Types are told from names, and members are modified, by words that have no underscores.
-/

namespace MessageExpansion
namespace Script
namespace Grammar

open Recogniser

set_option synthInstance.maxSize 100000

variable {grammar : Grammar} [grammar.StaysInStep]

/-! ### Types -/

instance : IsPlainWord "void" := ⟨by decide⟩

instance : IsPlainWord "null" := ⟨by decide⟩

instance : IsPlainWord "true" := ⟨by decide⟩

instance : IsPlainWord "false" := ⟨by decide⟩

instance : IsPlainWord "typeof" := ⟨by decide⟩

instance : IsPlainWord "import" := ⟨by decide⟩

instance : IsPlainWord "new" := ⟨by decide⟩

instance :
    InStep Eq atType atType := by
  have words : ArePlainWords
      ["void", "null", "this", "true", "false", "typeof", "import", "new", "const"] :=
    inferInstance
  refine InStep.kind.bind fun {found _} agree => ?_
  cases agree with
  | same => cases found <;> infer_instance
  | names inFirst inSecond =>
      simp only [contains_of_underscore inFirst, contains_of_underscore inSecond]
      infer_instance
  | strings => infer_instance

instance :
    InStep Eq grammar.entityName grammar.entityName := by
  unfold entityName
  infer_instance

instance :
    InStep Any grammar.typeArguments? grammar.typeArguments? := by
  unfold typeArguments?
  infer_instance

instance :
    InStep Any grammar.functionType grammar.functionType := by
  unfold functionType
  infer_instance

instance :
    InStep Eq mappedModifier mappedModifier := by
  unfold mappedModifier
  infer_instance

instance : IsPlainWord "as" := ⟨by decide⟩

instance :
    InStep Any grammar.mappedMember grammar.mappedMember := by
  unfold mappedMember
  infer_instance

instance :
    InStep Any grammar.indexSignature grammar.indexSignature := by
  unfold indexSignature
  infer_instance

instance :
    InStep Any grammar.signature grammar.signature := by
  unfold signature
  infer_instance

instance :
    InStep Any grammar.memberSignature grammar.memberSignature := by
  unfold memberSignature
  infer_instance

instance :
    InStep Eq atSignature atSignature := by
  unfold atSignature
  infer_instance

instance : IsPlainWord "get" := ⟨by decide⟩

instance : IsPlainWord "set" := ⟨by decide⟩

instance :
    InStep Any grammar.namedTypeMember grammar.namedTypeMember := by
  unfold namedTypeMember
  infer_instance

instance :
    InStep Any grammar.typeMember grammar.typeMember := by
  unfold typeMember
  infer_instance

instance :
    InStep Any grammar.typeMembers grammar.typeMembers := by
  unfold typeMembers
  infer_instance

instance :
    InStep Any grammar.tupleItem grammar.tupleItem := by
  unfold tupleItem
  infer_instance

instance :
    InStep Any grammar.importedType grammar.importedType := by
  unfold importedType
  infer_instance

instance :
    InStep Any grammar.queriedType grammar.queriedType := by
  unfold queriedType
  infer_instance

/-- The number behind a minus sign is a type. -/
theorem inStep_number :
    InStep Any
      (do
        check ((← kind) == .number)
        advance
        return ([] : List CallTree))
      (do
        check ((← kind) == .number)
        advance
        return []) := by
  refine InStep.kind.bind fun {found _} agree => ?_
  cases agree with
  | same => infer_instance
  | names | strings => exact ⟨fun _ => .none⟩

instance :
    InStep Any grammar.primaryType grammar.primaryType := by
  have := inStep_number
  unfold primaryType
  infer_instance

instance :
    InStep Any grammar.postfixType grammar.postfixType := by
  unfold postfixType
  infer_instance

instance
    (inBound : Bool) :
    InStep Any (grammar.inferredType inBound) (grammar.inferredType inBound) := by
  unfold inferredType
  infer_instance

instance : IsPlainWord "keyof" := ⟨by decide⟩

instance : IsPlainWord "unique" := ⟨by decide⟩

instance : IsPlainWord "infer" := ⟨by decide⟩

instance
    (inBound : Bool) :
    InStep Any (grammar.operatorType inBound) (grammar.operatorType inBound) := by
  unfold operatorType
  infer_instance

instance
    (inBound : Bool) :
    InStep Any (grammar.unionType inBound) (grammar.unionType inBound) := by
  unfold unionType
  infer_instance

instance : IsPlainWord "abstract" := ⟨by decide⟩

instance :
    InStep Alike grammar.wholeFunctionType? grammar.wholeFunctionType? := by
  unfold wholeFunctionType?
  infer_instance

instance :
    InStep Any grammar.boundType grammar.boundType := by
  unfold boundType
  infer_instance

instance :
    InStep Any grammar.typeChoice? grammar.typeChoice? := by
  unfold typeChoice?
  infer_instance

instance : IsPlainWord "is" := ⟨by decide⟩

instance :
    InStep Any grammar.predicate? grammar.predicate? := by
  unfold predicate?
  infer_instance

instance : IsPlainWord "asserts" := ⟨by decide⟩

instance :
    InStep Any grammar.plainType grammar.plainType := by
  unfold plainType
  infer_instance

instance :
    InStep Any grammar.type grammar.type := by
  unfold type
  infer_instance

/-! ### Functions and classes -/

instance :
    InStep Any grammar.functionRest grammar.functionRest := by
  unfold functionRest
  infer_instance

instance :
    InStep Any grammar.getterRest grammar.getterRest := by
  unfold getterRest
  infer_instance

instance :
    InStep Any grammar.overloadRest grammar.overloadRest := by
  unfold overloadRest
  infer_instance

instance : IsPlainWord "implements" := ⟨by decide⟩

instance :
    InStep Eq ownName? ownName? := by
  unfold ownName?
  infer_instance

instance : IsPlainWord "function" := ⟨by decide⟩

instance :
    InStep Any grammar.functionExpression grammar.functionExpression := by
  unfold functionExpression
  infer_instance

instance
    (required : Bool) :
    InStep Eq (ownName required) (ownName required) := by
  unfold ownName
  infer_instance

instance
    (named : Bool) :
    InStep Any (grammar.functionDeclaration named) (grammar.functionDeclaration named) := by
  unfold functionDeclaration
  infer_instance

instance : IsPlainWord "static" := ⟨by decide⟩

instance : IsPlainWord "declare" := ⟨by decide⟩

instance : IsPlainWord "accessor" := ⟨by decide⟩

instance :
    ArePlainWords memberModifiers := by
  unfold memberModifiers
  infer_instance

instance :
    InStep Eq atMember atMember := by
  unfold atMember
  infer_instance

instance : IsPlainWord "async" := ⟨by decide⟩

instance :
    InStep Eq grammar.methodKind grammar.methodKind := by
  unfold methodKind
  infer_instance

instance :
    InStep Any grammar.fieldRest grammar.fieldRest := by
  unfold fieldRest
  infer_instance

instance :
    InStep Any grammar.namedMember grammar.namedMember := by
  unfold namedMember
  infer_instance

instance :
    InStep Any grammar.classMember grammar.classMember := by
  unfold classMember
  infer_instance

instance :
    InStep Any grammar.implemented? grammar.implemented? := by
  unfold implemented?
  infer_instance

instance :
    InStep Any grammar.heritage? grammar.heritage? := by
  unfold heritage?
  infer_instance

instance : IsPlainWord "class" := ⟨by decide⟩

instance
    (named : Bool) :
    InStep Any (grammar.classRule named) (grammar.classRule named) := by
  unfold classRule
  infer_instance

end Grammar
end Script
end MessageExpansion
