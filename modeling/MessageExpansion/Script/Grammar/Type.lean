import MessageExpansion.Script.Grammar.Binding

/-!
# Types

The grammar of type annotations.  Types are passed over; only a computed property name inside a
type can hold calls.
-/

namespace MessageExpansion
namespace Script
namespace Grammar

open Recogniser

/-- The token can begin a type. -/
def atType : Recogniser Bool := do
  match ← kind with
  | .name text _ =>
      return !reservedWords.contains text ||
        ["void", "null", "this", "true", "false", "typeof", "import", "new", "const"].contains text
  | .number | .string _ => return true
  | .punctuator which =>
      return [.openParen, .openBracket, .openBrace, .backtick, .minus, .less].contains which
  | _ => return false

/-- The name of an entity: names joined by dots. -/
def entityName (grammar : Grammar) : Recogniser Unit := do
  let _ ← anyName
  let _ ← repeatUntil (do return !(← eat .dot))
    (do
      let _ ← anyName
      return ([] : List Unit))
    grammar.limit

/-- Type arguments on the same line, if they are there. -/
def typeArguments? (grammar : Grammar) : Recogniser (List CallTree) := do
  if (← atPunctuator .less) && !(← afterNewline) then grammar.typeArguments else return []

/-- A function type after `new`, if that is there. -/
def functionType (grammar : Grammar) : Recogniser (List CallTree) := do
  let types ← grammar.typeParameters?
  let parameters ← grammar.parameters
  expect .arrow
  let result ← grammar.calls .type
  return parameters ++ types ++ result

/-- The sign and the question mark that change the modifiers of a mapped type. -/
def mappedModifier : Recogniser Unit := do
  if ← eatAny [.plus, .minus] then
    expect .question
  else
    let _ ← eat .question

/-- A member of a mapped type, after its opening bracket. -/
def mappedMember (grammar : Grammar) : Recogniser (List CallTree) := do
  let _ ← anyName
  expectWord "in"
  let keys ← grammar.calls .type
  let names ← if ← eatWord "as" then grammar.calls .type else pure []
  expect .closeBracket
  mappedModifier
  let value ← grammar.annotation?
  return keys ++ names ++ value

/-- An index signature, after its opening bracket. -/
def indexSignature (grammar : Grammar) : Recogniser (List CallTree) := do
  let _ ← anyName
  expect .colon
  let keys ← grammar.calls .type
  expect .closeBracket
  let value ← grammar.annotation?
  return keys ++ value

/-- The parameters and the types of a function.  Whatever has the signature decides when its types
are visited. -/
structure Signature where
  /-- The calls in the type parameters. -/
  types : List CallTree
  /-- The calls in the parameters. -/
  parameters : List CallTree
  /-- The calls in the result type. -/
  result : List CallTree

/-- The calls of a function with a body: the types come last. -/
def Signature.around (signature : Signature) (body : List CallTree) : List CallTree :=
  signature.parameters ++ body ++ signature.types ++ signature.result

/-- The parameters and the result type of a signature. -/
def signature (grammar : Grammar) : Recogniser Signature := do
  let types ← grammar.typeParameters?
  let parameters ← grammar.parameters
  let result ← grammar.annotation?
  return ⟨types, parameters, result⟩

/-- The signature of a member of an object type. -/
def memberSignature (grammar : Grammar) : Recogniser (List CallTree) := do
  let signature ← grammar.signature
  return signature.parameters ++ signature.result ++ signature.types

/-- The token begins the type parameters or the parameters of a function. -/
def atSignature : Recogniser Bool := do
  return (← atPunctuator .openParen) || (← atPunctuator .less)

/-- A member with a name: a method or a property. -/
def namedTypeMember (grammar : Grammar) : Recogniser (List CallTree) := do
  grammar.modifiers ["get", "set"] atPropertyName
  let name ← grammar.propertyName
  let _ ← eat .question
  if ← atSignature then
    let rest ← grammar.memberSignature
    return name ++ rest
  else
    let rest ← grammar.annotation?
    return name ++ rest

/-- A member of an object type. -/
def typeMember (grammar : Grammar) : Recogniser (List CallTree) := do
  if (← atPunctuator .plus) || (← atPunctuator .minus) then
    advance
    expectWord "readonly"
  else
    grammar.modifiers ["readonly"] atPropertyName
  if ← atSignature then
    grammar.memberSignature
  else if ← atModifier ["new"] atSignature then
    advance
    grammar.memberSignature
  else
    let special ← attempt (do
      expect .openBracket
      match ← attempt grammar.mappedMember with
      | some calls => return calls
      | none => grammar.indexSignature)
    match special with
    | some calls => return calls
    | none => grammar.namedTypeMember

/-- The members of an object type, after its opening brace. -/
def typeMembers (grammar : Grammar) : Recogniser (List CallTree) :=
  repeatUntil (eat .closeBrace)
    (do
      let member ← grammar.typeMember
      if !(← eatAny [.semicolon, .comma]) then
        check ((← atPunctuator .closeBrace) || (← afterNewline))
      return member)
    grammar.limit

/-- An item of a tuple type, which may have a name. -/
def tupleItem (grammar : Grammar) : Recogniser (List CallTree) := do
  let _ ← eat .ellipsis
  let _ ← attempt (do
    let _ ← anyName
    let _ ← eat .question
    expect .colon)
  let type ← grammar.calls .type
  let _ ← eat .question
  return type

/-- A type that is imported where it is used, after the word `import`.  What is asked of the module
is visited last. -/
def importedType (grammar : Grammar) : Recogniser (List CallTree) := do
  expect .openParen
  let calls ← grammar.list .closeParen grammar.assignment
  let _ ← repeatUntil (do return !(← eat .dot))
    (do
      let _ ← anyName
      return ([] : List Unit))
    grammar.limit
  let types ← grammar.typeArguments?
  return types ++ calls

/-- The type of a variable, after the word `typeof`. -/
def queriedType (grammar : Grammar) : Recogniser (List CallTree) := do
  if ← eatWord "import" then
    grammar.importedType
  else
    grammar.entityName
    grammar.typeArguments?

/-- A type without operators. -/
def primaryType (grammar : Grammar) : Recogniser (List CallTree) := do
  if ← eat .openParen then
    let type ← grammar.calls .type
    expect .closeParen
    return type
  else if ← eat .openBracket then
    grammar.list .closeBracket grammar.tupleItem
  else if ← eat .openBrace then
    grammar.typeMembers
  else if ← atPunctuator .backtick then
    return (← grammar.templateRest false (grammar.calls .type) grammar.limit).2
  else if ← eatWord "typeof" then
    grammar.queriedType
  else if ← eatWord "import" then
    grammar.importedType
  else if ← eat .minus then
    check ((← kind) == .number)
    advance
    return []
  else
    check (← atType)
    match ← kind with
    | .name _ _ =>
        grammar.entityName
        grammar.typeArguments?
    | _ =>
        advance
        return []

/-- A type with array brackets and indices. -/
def postfixType (grammar : Grammar) : Recogniser (List CallTree) := do
  let first ← grammar.primaryType
  let rest ← repeatUntil
    (do
      if (← atPunctuator .openBracket) && !(← afterNewline) then
        advance
        return false
      else
        return true)
    (do
      if ← eat .closeBracket then
        return []
      else
        let index ← grammar.calls .type
        expect .closeBracket
        return index)
    grammar.limit
  return first ++ rest

/-- A variable that a conditional type infers, after the word `infer`.  A question mark after its
bound would make the bound that of a conditional type, except in a bound itself. -/
def inferredType (grammar : Grammar) (inBound : Bool) : Recogniser (List CallTree) := do
  let _ ← anyName
  let bound ← attempt (do
    expectWord "extends"
    let bound ← grammar.postfixType
    check (inBound || !(← atPunctuator .question))
    return bound)
  return bound.getD []

/-- A type with prefix operators. -/
def operatorType (grammar : Grammar) (inBound : Bool) : Recogniser (List CallTree) := do
  grammar.modifiers ["keyof", "unique", "readonly"] atType
  if ← atModifier ["infer"] atIdentifier then
    advance
    grammar.inferredType inBound
  else
    grammar.postfixType

/-- A union or intersection of types. -/
def unionType (grammar : Grammar) (inBound : Bool) : Recogniser (List CallTree) := do
  let _ ← eatAny [.bar, .ampersand]
  let first ← grammar.operatorType inBound
  let rest ← repeatUntil (do return !(← eatAny [.bar, .ampersand]))
    (grammar.operatorType inBound) grammar.limit
  return first ++ rest

/-- A function type with its keywords, if one is there. -/
def wholeFunctionType? (grammar : Grammar) : Recogniser (Option (List CallTree)) := do
  if ← atModifier ["abstract"] (atWord "new") then
    advance
  if ← eatWord "new" then
    return some (← grammar.functionType)
  else if ← atSignature then
    attempt grammar.functionType
  else
    return none

/-- The bound of a conditional type: a type without a choice of its own. -/
def boundType (grammar : Grammar) : Recogniser (List CallTree) := do
  match ← grammar.wholeFunctionType? with
  | some calls => return calls
  | none => grammar.unionType true

/-- The choice of a conditional type, if there is one. -/
def typeChoice? (grammar : Grammar) : Recogniser (List CallTree) := do
  if (← atWord "extends") && !(← afterNewline) then
    advance
    let bound ← grammar.boundType
    expect .question
    let positive ← grammar.calls .type
    expect .colon
    let negative ← grammar.calls .type
    return bound ++ positive ++ negative
  else
    return []

/-- What a type predicate says of its parameter, if the type is a predicate. -/
def predicate? (grammar : Grammar) : Recogniser (List CallTree) := do
  if (← atWord "is") && !(← afterNewline) then
    advance
    grammar.calls .type
  else
    return []

/-- A type that is no function type. -/
def plainType (grammar : Grammar) : Recogniser (List CallTree) := do
  if ← atModifier ["asserts"] (do
      return (← kind) matches .name _ _ && !(← afterNewline) && !(← atWord "is")) then
    advance
    let _ ← anyName
    grammar.predicate?
  else
    let first ← grammar.unionType false
    let rest ← grammar.predicate?
    let choice ← grammar.typeChoice?
    return first ++ rest ++ choice

/-- A type. -/
def type (grammar : Grammar) : Recogniser Piece := do
  let start ← start
  match ← grammar.wholeFunctionType? with
  | some calls => pieceFrom start calls
  | none => pieceFrom start (← grammar.plainType)

end Grammar
end Script
end MessageExpansion
