import MessageExpansion.Script.Grammar.Type

/-!
# Functions and classes

Functions behind the word `function`, methods, and classes.  The calls in a body or a value come
before those in the types that are written in front of it, and the calls in the body of a class
before those in its heritage.
-/

namespace MessageExpansion
namespace Script
namespace Grammar

open Recogniser

/-- The signature and the body of a function. -/
def functionRest (grammar : Grammar) : Recogniser (List CallTree) := do
  let signature ← grammar.signature
  let body ← grammar.block
  return signature.around body

/-- The signature and the body of a getter of an object, visited in the order of the text. -/
def getterRest (grammar : Grammar) : Recogniser (List CallTree) := do
  let signature ← grammar.signature
  let body ← grammar.block
  return signature.types ++ signature.parameters ++ signature.result ++ body

/-- The signature of a function and its body, which may be missing where types are annotated. -/
def overloadRest (grammar : Grammar) : Recogniser (List CallTree) := do
  let signature ← grammar.signature
  if (← atPunctuator .openBrace) || !grammar.dialect.typed then
    let body ← grammar.block
    return signature.around body
  else
    semicolon
    return signature.around []

/-- The name of a function or class, if it has one. -/
def ownName? : Recogniser Unit := do
  if ← atIdentifier then
    if !(← atWord "implements") then
      advance

/-- A function expression, from the word `function` on. -/
def functionExpression (grammar : Grammar) : Recogniser (List CallTree) := do
  expectWord "function"
  let _ ← eat .star
  ownName?
  grammar.functionRest

/-- The name of a function or class, which it has to have if it is declared. -/
def ownName (required : Bool) : Recogniser Unit := do
  if required then
    let _ ← identifier
  else
    ownName?

/-- A function declaration, from the word `function` on, which has a name unless it is a default
export. -/
def functionDeclaration (grammar : Grammar) (named : Bool) : Recogniser (List CallTree) := do
  expectWord "function"
  let _ ← eat .star
  ownName named
  grammar.overloadRest

/-- The words that may stand before a member of a class. -/
def memberModifiers : List String :=
  ["static", "public", "private", "protected", "readonly", "abstract", "override", "declare",
    "accessor"]

/-- The token begins the name of a member, or a star before it. -/
def atMember : Recogniser Bool := do return (← atPropertyName) || (← atPunctuator .star)

/-- The words that say what kind of method a member is; the result tells whether there were some. -/
def methodKind (grammar : Grammar) : Recogniser Bool := do
  let asynchronous ← atModifier ["async"] (do return (← atMember) && !(← afterNewline))
  if asynchronous then
    advance
  let generator ← eat .star
  let accessor ← atModifier ["get", "set"] atPropertyName
  grammar.modifiers ["get", "set"] atPropertyName
  return asynchronous || generator || accessor

/-- The rest of a field after its name. -/
def fieldRest (grammar : Grammar) : Recogniser (List CallTree) := do
  let type ← grammar.annotation?
  let value ← grammar.default?
  semicolon
  return value ++ type

/-- A member with a name: a method or a field. -/
def namedMember (grammar : Grammar) : Recogniser (List CallTree) := do
  let _ ← grammar.methodKind
  let name ← grammar.propertyName
  if grammar.dialect.typed then
    let _ ← eatAny [.question, .bang]
  if ← atSignature then
    let rest ← grammar.overloadRest
    return name ++ rest
  else
    let rest ← grammar.fieldRest
    return name ++ rest

/-- A member of a class. -/
def classMember (grammar : Grammar) : Recogniser (List CallTree) := do
  if ← eat .semicolon then
    return []
  else if ← atModifier ["static"] (atPunctuator .openBrace) then
    advance
    grammar.block
  else
    grammar.modifiers (if grammar.dialect.typed then memberModifiers else ["static"]) atMember
    let index ←
      if grammar.dialect.typed then
        attempt (do
          expect .openBracket
          let calls ← grammar.indexSignature
          semicolon
          return calls)
      else pure none
    match index with
    | some calls => return calls
    | none => grammar.namedMember

/-- The types that a class implements, if it says so. -/
def implemented? (grammar : Grammar) : Recogniser (List CallTree) := do
  if grammar.dialect.typed && (← atWord "implements") then
    advance
    let first ← grammar.calls .type
    let rest ← repeatUntil (do return !(← eat .comma)) (grammar.calls .type) grammar.limit
    return first ++ rest
  else
    return []

/-- What a class extends. -/
structure Heritage where
  /-- The calls in the other class. -/
  base : List CallTree
  /-- The calls in its type arguments. -/
  types : List CallTree

/-- What a class extends, if it extends something. -/
def heritage? (grammar : Grammar) : Recogniser Heritage := do
  if ← eatWord "extends" then
    let base ← grammar.calls .leftHand
    let types ← if grammar.dialect.typed then grammar.typeArguments? else pure []
    return ⟨base, types⟩
  else
    return ⟨[], []⟩

/-- A class, from the word `class` on; a declared class has a name. -/
def classRule (grammar : Grammar) (named : Bool) : Recogniser (List CallTree) := do
  expectWord "class"
  ownName named
  let types ← grammar.typeParameters?
  let heritage ← grammar.heritage?
  let interfaces ← grammar.implemented?
  expect .openBrace
  let members ← repeatUntil (eat .closeBrace) grammar.classMember grammar.limit
  return members ++ heritage.base ++ types ++ heritage.types ++ interfaces

end Grammar
end Script
end MessageExpansion
