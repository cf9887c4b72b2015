import MessageExpansion.Script.Grammar.Expression

/-!
# Declarations

Variables, functions and classes, and what only scripts with types declare: type aliases,
interfaces, enumerations and namespaces.
-/

namespace MessageExpansion
namespace Script
namespace Grammar

open Recogniser

/-! ### Variables -/

/-- A variable of a declaration with its type and its value. -/
def declarator (grammar : Grammar) (allowIn : Bool) : Recogniser (List CallTree) := do
  let target ← grammar.calls .binding
  if grammar.dialect.typed then
    let _ ← eat .bang
  let type ← grammar.annotation?
  let value ← if ← eat .assign then grammar.calls (.assignment allowIn true) else pure []
  return target ++ type ++ value

/-- The token begins a declaration of variables. -/
def atVariables : Recogniser Bool := do
  return (← atWord "var") || (← atWord "const") || (← atModifier ["let"] atBinding)

/-- The variables of a declaration, from its keyword on and without its semicolon. -/
def variableList (grammar : Grammar) (allowIn : Bool) : Recogniser (List CallTree) := do
  advance
  let first ← grammar.declarator allowIn
  let rest ← repeatUntil (do return !(← eat .comma)) (grammar.declarator allowIn) grammar.limit
  return first ++ rest

/-- A declaration of variables. -/
def variableDeclaration (grammar : Grammar) : Recogniser (List CallTree) := do
  let calls ← grammar.variableList true
  semicolon
  return calls

/-! ### Declarations about types -/

/-- The rest of a type alias after its keyword. -/
def aliasRest (grammar : Grammar) : Recogniser (List CallTree) := do
  let _ ← identifier
  let types ← grammar.typeParameters?
  expect .assign
  let value ← grammar.calls .type
  semicolon
  return types ++ value

/-- The rest of an interface after its keyword. -/
def interfaceRest (grammar : Grammar) : Recogniser (List CallTree) := do
  let _ ← identifier
  let types ← grammar.typeParameters?
  let bases ←
    if ← eatWord "extends" then
      let first ← grammar.calls .type
      let rest ← repeatUntil (do return !(← eat .comma)) (grammar.calls .type) grammar.limit
      pure (first ++ rest)
    else pure []
  expect .openBrace
  let members ← grammar.typeMembers
  return types ++ bases ++ members

/-- A member of an enumeration. -/
def enumerationMember (grammar : Grammar) : Recogniser (List CallTree) := do
  let name ← grammar.propertyName
  let value ← grammar.default?
  return name ++ value

/-- The rest of an enumeration after its keyword. -/
def enumerationRest (grammar : Grammar) : Recogniser (List CallTree) := do
  let _ ← identifier
  expect .openBrace
  grammar.list .closeBrace grammar.enumerationMember

/-- The declarations of a namespace, with their braces. -/
def namespaceBody (grammar : Grammar) : Recogniser (List CallTree) := do
  expect .openBrace
  repeatUntil (eat .closeBrace) (grammar.calls (.statement true)) grammar.limit

/-- The rest of a namespace after its keyword; one with a quoted name may lack a body. -/
def namespaceRest (grammar : Grammar) : Recogniser (List CallTree) := do
  if ← atString then
    stringLiteral
    if ← atPunctuator .openBrace then
      grammar.namespaceBody
    else
      semicolon
      return []
  else
    grammar.entityName
    grammar.namespaceBody

/-- The token stands on the same line as the one before it and satisfies a test. -/
def onSameLine (test : Recogniser Bool) : Recogniser Bool := do
  if ← afterNewline then return false else test

/-- A declaration that only scripts with types contain, if one begins at the token. -/
def typedDeclaration? (grammar : Grammar) (named : Bool) : Recogniser (Option (List CallTree)) := do
  if ← atModifier ["abstract"] (onSameLine (atWord "class")) then
    advance
    return some (← grammar.classRule named)
  else if ← eatWord "enum" then
    return some (← grammar.enumerationRest)
  else if ← atModifier ["const"] (atWord "enum") then
    advance
    advance
    return some (← grammar.enumerationRest)
  else if ← atModifier ["interface"] (onSameLine atIdentifier) then
    advance
    return some (← grammar.interfaceRest)
  else if ← atModifier ["type"] (onSameLine atIdentifier) then
    advance
    return some (← grammar.aliasRest)
  else if ← atModifier ["namespace", "module"]
      (onSameLine (do return (← atIdentifier) || (← atString))) then
    advance
    return some (← grammar.namespaceRest)
  else if ← atModifier ["global"] (onSameLine (atPunctuator .openBrace)) then
    advance
    return some (← grammar.namespaceBody)
  else
    return none

/-! ### All declarations -/

/-- The token begins a function, asynchronous or not. -/
def atFunction : Recogniser Bool := do
  return (← atWord "function") || (← atModifier ["async"] (onSameLine (atWord "function")))

/-- A declaration without a word that says that it is made elsewhere, if one begins at the
token. -/
def plainDeclaration? (grammar : Grammar) : Recogniser (Option (List CallTree)) := do
  let typed ← if grammar.dialect.typed then grammar.typedDeclaration? true else pure none
  match typed with
  | some calls => return some calls
  | none =>
      if ← atFunction then
        let _ ← eatWord "async"
        return some (← grammar.functionDeclaration true)
      else if ← atWord "class" then
        return some (← grammar.classRule true)
      else if ← atVariables then
        return some (← grammar.variableDeclaration)
      else
        return none

/-- The words that begin what may be declared as made elsewhere. -/
def ambientWords : List String :=
  ["abstract", "async", "class", "const", "enum", "function", "global", "interface", "let",
    "module", "namespace", "type", "var"]

/-- The token is one of some words. -/
def atAnyWord (words : List String) : Recogniser Bool := do
  match ← kind with
  | .name text false => return words.contains text
  | _ => return false

/-- A declaration, if one begins at the token. -/
def declaration? (grammar : Grammar) : Recogniser (Option (List CallTree)) := do
  let ambient ←
    if grammar.dialect.typed then
      atModifier ["declare"] (onSameLine (atAnyWord ambientWords))
    else pure false
  if ambient then
    advance
  grammar.plainDeclaration?

end Grammar
end Script
end MessageExpansion
