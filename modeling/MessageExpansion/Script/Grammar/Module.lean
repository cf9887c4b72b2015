import MessageExpansion.Script.Grammar.Declaration

/-!
# Imports and exports

The declarations that connect a module to others.
-/

namespace MessageExpansion
namespace Script
namespace Grammar

open Recogniser

/-! ### What both have in common -/

/-- Move over the name of something that a module exports, which may be a string. -/
def moduleName : Recogniser Unit := do
  if ← atString then
    stringLiteral
  else
    let _ ← anyName

/-- Another name after the word `as`, if there is one. -/
def otherName? : Recogniser Unit := do
  if ← eatWord "as" then
    moduleName

/-- A name and perhaps another name, up to the end of an item. -/
def renamedItem : Recogniser Unit := do
  moduleName
  otherName?
  check ((← atPunctuator .comma) || (← atPunctuator .closeBrace))

/-- An item of an import or export; the item may be for types only where types are annotated. -/
def moduleItem (grammar : Grammar) : Recogniser (List CallTree) := do
  let typeOnly ←
    if grammar.dialect.typed then
      attempt (do
        expectWord "type"
        renamedItem)
    else pure none
  if typeOnly.isNone then
    renamedItem
  return []

/-- The items of an import or export, with their braces. -/
def moduleItems (grammar : Grammar) : Recogniser Unit := do
  expect .openBrace
  let _ ← grammar.list .closeBrace grammar.moduleItem

/-- The properties that are asked of an imported module, if there are some. -/
def importAttributes? (grammar : Grammar) : Recogniser (List CallTree) := do
  if grammar.dialect.typed && ((← atWord "with") || (← onSameLine (atWord "assert"))) then
    advance
    expect .openBrace
    grammar.list .closeBrace grammar.objectItem
  else
    return []

/-- The name of the other module, and the end of the declaration. -/
def moduleSource (grammar : Grammar) : Recogniser (List CallTree) := do
  stringLiteral
  let calls ← grammar.importAttributes?
  semicolon
  return calls

/-- The name of the other module after the word `from`. -/
def fromClause (grammar : Grammar) : Recogniser (List CallTree) := do
  expectWord "from"
  grammar.moduleSource

/-! ### Imports -/

/-- The word `type` of an import that is for types only, if it is there. -/
def importKind? (grammar : Grammar) : Recogniser Unit := do
  if grammar.dialect.typed then
    if ← atModifier ["type"] (do
        if (← atPunctuator .openBrace) || (← atPunctuator .star) then
          return true
        else if ← atModifier ["from"] (atWord "from") then
          return true
        else
          return (← atIdentifier) && !(← atWord "from")) then
      advance

/-- All exports of a module under one name, or some of them. -/
def importedNames (grammar : Grammar) : Recogniser Unit := do
  if ← eat .star then
    expectWord "as"
    let _ ← identifier
  else
    grammar.moduleItems

/-- What an abbreviation stands for, after its equals sign: a module or a member of a namespace. -/
def abbreviated (grammar : Grammar) : Recogniser (List CallTree) := do
  let required ← attempt (do
    expectWord "require"
    expect .openParen
    stringLiteral
    expect .closeParen
    semicolon)
  if required.isNone then
    grammar.entityName
    semicolon
  return []

/-- The rest of an import after its keyword. -/
def importRest (grammar : Grammar) : Recogniser (List CallTree) := do
  if ← atString then
    grammar.moduleSource
  else
    grammar.importKind?
    if ← atIdentifier then
      let _ ← identifier
      if grammar.dialect.typed && (← atPunctuator .assign) then
        advance
        grammar.abbreviated
      else
        if ← eat .comma then
          grammar.importedNames
        grammar.fromClause
    else
      grammar.importedNames
      grammar.fromClause

/-- The word `import` begins a declaration and no expression. -/
def atImport : Recogniser Bool :=
  atModifier ["import"] do return !((← atPunctuator .openParen) || (← atPunctuator .dot))

/-! ### Exports -/

/-- The rest of a default export after its keywords. -/
def exportDefaultRest (grammar : Grammar) : Recogniser (List CallTree) := do
  if ← atFunction then
    let _ ← eatWord "async"
    grammar.functionDeclaration false
  else if ← atWord "class" then
    grammar.classRule false
  else
    let typed ←
      if grammar.dialect.typed && (← atAnyWord ["abstract", "interface"]) then
        grammar.typedDeclaration? false
      else pure none
    match typed with
    | some calls => return calls
    | none =>
        let calls ← grammar.assignment
        semicolon
        return calls

/-- The word `type` of an export that is for types only, if it is there. -/
def exportKind? (grammar : Grammar) : Recogniser Unit := do
  if grammar.dialect.typed then
    if ← atModifier ["type"] (do
        return (← atPunctuator .openBrace) || (← atPunctuator .star)) then
      advance

/-- The exports of another module, after the star. -/
def exportAllRest (grammar : Grammar) : Recogniser (List CallTree) := do
  otherName?
  grammar.fromClause

/-- Exports in braces, which may come from another module. -/
def exportItems (grammar : Grammar) : Recogniser (List CallTree) := do
  grammar.moduleItems
  if ← atWord "from" then
    grammar.fromClause
  else
    semicolon
    return []

/-- An export that only scripts with types contain, if one begins at the token. -/
def typedExport? (grammar : Grammar) : Recogniser (Option (List CallTree)) := do
  if ← eat .assign then
    let calls ← grammar.sequence
    semicolon
    return some calls
  else if ← atModifier ["as"] (atWord "namespace") then
    advance
    advance
    let _ ← identifier
    semicolon
    return some []
  else if ← eatWord "import" then
    grammar.importKind?
    let _ ← identifier
    expect .assign
    return some (← grammar.abbreviated)
  else
    return none

/-- The rest of an export after its keyword. -/
def exportRest (grammar : Grammar) : Recogniser (List CallTree) := do
  let typed ← if grammar.dialect.typed then grammar.typedExport? else pure none
  match typed with
  | some calls => return calls
  | none =>
      if ← eatWord "default" then
        grammar.exportDefaultRest
      else
        grammar.exportKind?
        if ← eat .star then
          grammar.exportAllRest
        else if ← atPunctuator .openBrace then
          grammar.exportItems
        else
          match ← grammar.declaration? with
          | some calls => return calls
          | none => failure

/-- An import or export, if one begins at the token. -/
def moduleDeclaration? (grammar : Grammar) : Recogniser (Option (List CallTree)) := do
  if ← atImport then
    advance
    return some (← grammar.importRest)
  else if ← eatWord "export" then
    return some (← grammar.exportRest)
  else
    return none

end Grammar
end Script
end MessageExpansion
