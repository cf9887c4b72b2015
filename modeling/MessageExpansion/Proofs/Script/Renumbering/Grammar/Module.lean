import MessageExpansion.Script.Grammar.Module
import MessageExpansion.Proofs.Script.Renumbering.Grammar.Expression

/-!
# Declarations, imports and exports over renumbered texts

The words that begin them have no underscores.
-/

namespace MessageExpansion
namespace Script
namespace Grammar

open Recogniser

set_option synthInstance.maxSize 100000

variable {grammar : Grammar} [grammar.StaysInStep]

/-! ### Declarations -/

instance
    (allowIn : Bool) :
    InStep Any (grammar.declarator allowIn) (grammar.declarator allowIn) := by
  unfold declarator
  infer_instance

instance : IsPlainWord "var" := ⟨by decide⟩

instance : IsPlainWord "let" := ⟨by decide⟩

instance :
    InStep Eq atVariables atVariables := by
  unfold atVariables
  infer_instance

instance
    (allowIn : Bool) :
    InStep Any (grammar.variableList allowIn) (grammar.variableList allowIn) := by
  unfold variableList
  infer_instance

instance :
    InStep Any grammar.variableDeclaration grammar.variableDeclaration := by
  unfold variableDeclaration
  infer_instance

instance :
    InStep Any grammar.aliasRest grammar.aliasRest := by
  unfold aliasRest
  infer_instance

instance :
    InStep Any grammar.interfaceRest grammar.interfaceRest := by
  unfold interfaceRest
  infer_instance

instance :
    InStep Any grammar.enumerationMember grammar.enumerationMember := by
  unfold enumerationMember
  infer_instance

instance :
    InStep Any grammar.enumerationRest grammar.enumerationRest := by
  unfold enumerationRest
  infer_instance

instance :
    InStep Any grammar.namespaceBody grammar.namespaceBody := by
  unfold namespaceBody
  infer_instance

instance :
    InStep Any grammar.namespaceRest grammar.namespaceRest := by
  unfold namespaceRest
  infer_instance

instance
    {test other : Recogniser Bool}
    [InStep Eq test other] :
    InStep Eq (onSameLine test) (onSameLine other) := by
  unfold onSameLine
  infer_instance

instance : IsPlainWord "enum" := ⟨by decide⟩

instance : IsPlainWord "interface" := ⟨by decide⟩

instance : IsPlainWord "type" := ⟨by decide⟩

instance : IsPlainWord "namespace" := ⟨by decide⟩

instance : IsPlainWord "module" := ⟨by decide⟩

instance : IsPlainWord "global" := ⟨by decide⟩

instance
    (named : Bool) :
    InStep Alike (grammar.typedDeclaration? named) (grammar.typedDeclaration? named) := by
  unfold typedDeclaration?
  infer_instance

instance :
    InStep Eq atFunction atFunction := by
  unfold atFunction
  infer_instance

instance :
    InStep Alike grammar.plainDeclaration? grammar.plainDeclaration? := by
  unfold plainDeclaration?
  infer_instance

instance :
    ArePlainWords ambientWords := by
  unfold ambientWords
  infer_instance

instance
    (words : List String)
    [ArePlainWords words] :
    InStep Eq (atAnyWord words) (atAnyWord words) := by
  refine InStep.kind.bind fun {found _} agree => ?_
  cases agree with
  | same =>
      cases found with
      | name text escaped => cases escaped <;> infer_instance
      | _ => infer_instance
  | names inFirst inSecond escaped =>
      cases escaped with
      | true => infer_instance
      | false =>
          simp only [contains_of_underscore inFirst, contains_of_underscore inSecond]
          infer_instance
  | strings => infer_instance

instance :
    InStep Alike grammar.declaration? grammar.declaration? := by
  unfold declaration?
  infer_instance

/-! ### Imports and exports -/

instance :
    InStep Eq moduleName moduleName := by
  unfold moduleName
  infer_instance

instance :
    InStep Eq otherName? otherName? := by
  unfold otherName?
  infer_instance

instance :
    InStep Eq renamedItem renamedItem := by
  unfold renamedItem
  infer_instance

instance :
    InStep Any grammar.moduleItem grammar.moduleItem := by
  unfold moduleItem
  infer_instance

instance :
    InStep Eq grammar.moduleItems grammar.moduleItems := by
  unfold moduleItems
  infer_instance

instance : IsPlainWord "with" := ⟨by decide⟩

instance : IsPlainWord "assert" := ⟨by decide⟩

instance :
    InStep Any grammar.importAttributes? grammar.importAttributes? := by
  unfold importAttributes?
  infer_instance

instance :
    InStep Any grammar.moduleSource grammar.moduleSource := by
  unfold moduleSource
  infer_instance

instance : IsPlainWord "from" := ⟨by decide⟩

instance :
    InStep Any grammar.fromClause grammar.fromClause := by
  unfold fromClause
  infer_instance

instance :
    InStep Eq grammar.importKind? grammar.importKind? := by
  unfold importKind?
  infer_instance

instance :
    InStep Eq grammar.importedNames grammar.importedNames := by
  unfold importedNames
  infer_instance

instance : IsPlainWord "require" := ⟨by decide⟩

instance :
    InStep Any grammar.abbreviated grammar.abbreviated := by
  unfold abbreviated
  infer_instance

instance :
    InStep Any grammar.importRest grammar.importRest := by
  unfold importRest
  infer_instance

instance :
    InStep Eq atImport atImport := by
  unfold atImport
  infer_instance

instance :
    InStep Any grammar.exportDefaultRest grammar.exportDefaultRest := by
  unfold exportDefaultRest
  infer_instance

instance :
    InStep Eq grammar.exportKind? grammar.exportKind? := by
  unfold exportKind?
  infer_instance

instance :
    InStep Any grammar.exportAllRest grammar.exportAllRest := by
  unfold exportAllRest
  infer_instance

instance :
    InStep Any grammar.exportItems grammar.exportItems := by
  unfold exportItems
  infer_instance

instance :
    InStep Alike grammar.typedExport? grammar.typedExport? := by
  unfold typedExport?
  infer_instance

instance : IsPlainWord "default" := ⟨by decide⟩

instance :
    InStep Any grammar.exportRest grammar.exportRest := by
  unfold exportRest
  infer_instance

instance : IsPlainWord "export" := ⟨by decide⟩

instance :
    InStep Alike grammar.moduleDeclaration? grammar.moduleDeclaration? := by
  unfold moduleDeclaration?
  infer_instance

end Grammar
end Script
end MessageExpansion
