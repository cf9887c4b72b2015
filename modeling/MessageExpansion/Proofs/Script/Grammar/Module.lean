import MessageExpansion.Script.Grammar.Module
import MessageExpansion.Proofs.Script.Grammar.Expression

/-!
# What declarations, imports and exports read

Declarations are read piece by piece; looking ahead for one leaves the cursor where it is.  Imports
and exports connect a module to others.  They hold calls in what they declare, and in the attributes
of what they import.
-/

namespace MessageExpansion
namespace Script
namespace Grammar

open Std.Do
open Recogniser

set_option mvcgen.warning false

variable [Source] {first : Cursor} {grammar : Grammar} [grammar.Sound]

/-! ### Declarations -/

@[spec] theorem reads_declarator
    {allowIn : Bool} :
    Reads first (grammar.declarator allowIn) := by
  refine .of_outcome fun outcome => ?_
  mvcgen [declarator] <;> grind -linarith

omit [Source] in
@[spec] theorem looks_atVariables :
    Looks first atVariables fun _ => True := by
  mvcgen [atVariables]
  grind -linarith

@[spec] theorem reads_variableList
    {allowIn : Bool} :
    Reads first (grammar.variableList allowIn) := by
  refine .of_outcome fun outcome => ?_
  mvcgen [variableList] <;> grind -linarith

@[spec] theorem reads_variableDeclaration :
    Reads first grammar.variableDeclaration := by
  refine .of_outcome fun outcome => ?_
  mvcgen [variableDeclaration] <;> grind -linarith

@[spec] theorem reads_aliasRest :
    Reads first grammar.aliasRest := by
  refine .of_outcome fun outcome => ?_
  mvcgen [aliasRest] <;> grind -linarith

@[spec] theorem reads_interfaceRest :
    Reads first grammar.interfaceRest := by
  refine .of_outcome fun outcome => ?_
  mvcgen [interfaceRest] <;> grind -linarith

@[spec] theorem reads_enumerationMember :
    Reads first grammar.enumerationMember := by
  refine .of_outcome fun outcome => ?_
  mvcgen [enumerationMember] <;> grind -linarith

@[spec] theorem reads_enumerationRest :
    Reads first grammar.enumerationRest := by
  refine .of_outcome fun outcome => ?_
  mvcgen [enumerationRest] <;> grind -linarith

@[spec] theorem reads_namespaceBody :
    Reads first grammar.namespaceBody := by
  refine .of_outcome fun outcome => ?_
  mvcgen [namespaceBody] <;> grind -linarith

@[spec] theorem reads_namespaceRest :
    Reads first grammar.namespaceRest := by
  refine .of_outcome fun outcome => ?_
  mvcgen [namespaceRest] <;> grind -linarith

omit [Source] in
@[spec] theorem looks_onSameLine
    {test : Recogniser Bool}
    (looks : ∀ first, Looks first test fun _ => True) :
    Looks first (onSameLine test) fun _ => True := by
  mvcgen [onSameLine, looks] <;> grind -linarith

@[spec] theorem reads_typedDeclaration?
    {named : Bool} :
    Reads first (grammar.typedDeclaration? named) := by
  refine .of_outcome fun outcome => ?_
  mvcgen [typedDeclaration?] <;> grind -linarith

omit [Source] in
@[spec] theorem looks_atFunction :
    Looks first atFunction fun _ => True := by
  mvcgen [atFunction]
  grind -linarith

@[spec] theorem reads_plainDeclaration? :
    Reads first grammar.plainDeclaration? := by
  refine .of_outcome fun outcome => ?_
  mvcgen [plainDeclaration?] <;> grind -linarith

omit [Source] in
@[spec] theorem looks_atAnyWord
    {words : List String} :
    Looks first (atAnyWord words) fun _ => True := by
  mvcgen [atAnyWord] <;> grind -linarith

@[spec] theorem reads_declaration? :
    Reads first grammar.declaration? := by
  refine .of_outcome fun outcome => ?_
  mvcgen [declaration?] <;> grind -linarith

/-! ### Imports and exports -/

@[spec] theorem yields_moduleName :
    Yields first moduleName fun _ last => first.Leads last := by
  refine .of_outcome fun outcome => ?_
  mvcgen [moduleName] <;> grind -linarith

@[spec] theorem yields_otherName? :
    Yields first otherName? fun _ last => first.Leads last := by
  refine .of_outcome fun outcome => ?_
  mvcgen [otherName?] <;> grind -linarith

@[spec] theorem yields_renamedItem :
    Yields first renamedItem fun _ last => first.Leads last := by
  refine .of_outcome fun outcome => ?_
  mvcgen [renamedItem] <;> grind -linarith

omit [grammar.Sound] in
@[spec] theorem reads_moduleItem :
    Reads first grammar.moduleItem := by
  refine .of_outcome fun outcome => ?_
  mvcgen [moduleItem] <;> grind -linarith

omit [grammar.Sound] in
@[spec] theorem yields_moduleItems :
    Yields first grammar.moduleItems fun _ last => first.Leads last := by
  refine .of_outcome fun outcome => ?_
  mvcgen [moduleItems] <;> grind -linarith

@[spec] theorem reads_importAttributes? :
    Reads first grammar.importAttributes? := by
  refine .of_outcome fun outcome => ?_
  mvcgen [importAttributes?] <;> grind -linarith

@[spec] theorem reads_moduleSource :
    Reads first grammar.moduleSource := by
  refine .of_outcome fun outcome => ?_
  mvcgen [moduleSource] <;> grind -linarith

@[spec] theorem reads_fromClause :
    Reads first grammar.fromClause := by
  refine .of_outcome fun outcome => ?_
  mvcgen [fromClause] <;> grind -linarith

omit [grammar.Sound] in
@[spec] theorem yields_importKind? :
    Yields first grammar.importKind? fun _ last => first.Leads last := by
  refine .of_outcome fun outcome => ?_
  mvcgen [importKind?] <;> grind -linarith

omit [grammar.Sound] in
@[spec] theorem yields_importedNames :
    Yields first grammar.importedNames fun _ last => first.Leads last := by
  refine .of_outcome fun outcome => ?_
  mvcgen [importedNames] <;> grind -linarith

omit [grammar.Sound] in
@[spec] theorem reads_abbreviated :
    Reads first grammar.abbreviated := by
  refine .of_outcome fun outcome => ?_
  mvcgen [abbreviated] <;> grind -linarith

@[spec] theorem reads_importRest :
    Reads first grammar.importRest := by
  refine .of_outcome fun outcome => ?_
  mvcgen [importRest] <;> grind -linarith

omit [Source] in
@[spec] theorem looks_atImport :
    Looks first atImport fun _ => True := by
  mvcgen [atImport]

@[spec] theorem reads_exportDefaultRest :
    Reads first grammar.exportDefaultRest := by
  refine .of_outcome fun outcome => ?_
  mvcgen [exportDefaultRest] <;> grind -linarith

omit [grammar.Sound] in
@[spec] theorem yields_exportKind? :
    Yields first grammar.exportKind? fun _ last => first.Leads last := by
  refine .of_outcome fun outcome => ?_
  mvcgen [exportKind?] <;> grind -linarith

@[spec] theorem reads_exportAllRest :
    Reads first grammar.exportAllRest := by
  refine .of_outcome fun outcome => ?_
  mvcgen [exportAllRest] <;> grind -linarith

@[spec] theorem reads_exportItems :
    Reads first grammar.exportItems := by
  refine .of_outcome fun outcome => ?_
  mvcgen [exportItems] <;> grind -linarith

@[spec] theorem reads_typedExport? :
    Reads first grammar.typedExport? := by
  refine .of_outcome fun outcome => ?_
  mvcgen [typedExport?] <;> grind -linarith

@[spec] theorem reads_exportRest :
    Reads first grammar.exportRest := by
  refine .of_outcome fun outcome => ?_
  mvcgen [exportRest] <;> grind -linarith

@[spec] theorem reads_moduleDeclaration? :
    Reads first grammar.moduleDeclaration? := by
  refine .of_outcome fun outcome => ?_
  mvcgen [moduleDeclaration?] <;> grind -linarith

end Grammar
end Script
end MessageExpansion
