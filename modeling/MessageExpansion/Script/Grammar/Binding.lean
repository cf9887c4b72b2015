import MessageExpansion.Script.Grammar.Basic

/-!
# Bindings

The names of properties, the patterns that values are bound to, and the parameters of functions.
-/

namespace MessageExpansion
namespace Script
namespace Grammar

open Recogniser

/-- The token begins the name of a property. -/
def atPropertyName : Recogniser Bool := do
  match ← kind with
  | .name _ _ | .privateName | .number | .string _ => return true
  | .punctuator which => return which == .openBracket
  | _ => return false

/-- The name of a property; a computed one is an expression between brackets. -/
def propertyName (grammar : Grammar) : Recogniser (List CallTree) := do
  check (← atPropertyName)
  if ← eat .openBracket then
    let calls ← grammar.assignment
    expect .closeBracket
    return calls
  else
    advance
    return []

/-- A default value after its equals sign, if there is one. -/
def default? (grammar : Grammar) : Recogniser (List CallTree) := do
  if ← eat .assign then grammar.assignment else return []

/-- What a value is bound to, with a default. -/
def bindingWithDefault (grammar : Grammar) : Recogniser (List CallTree) := do
  let target ← grammar.calls .binding
  let value ← grammar.default?
  return target ++ value

/-- An item of an array pattern; items may be left out. -/
def arrayBindingItem (grammar : Grammar) : Recogniser (List CallTree) := do
  if ← atPunctuator .comma then
    return []
  else if ← eat .ellipsis then
    grammar.calls .binding
  else
    grammar.bindingWithDefault

/-- A property of an object pattern. -/
def objectBindingItem (grammar : Grammar) : Recogniser (List CallTree) := do
  if ← eat .ellipsis then
    grammar.calls .binding
  else
    let plain ← atIdentifier
    let name ← grammar.propertyName
    if ← eat .colon then
      let value ← grammar.bindingWithDefault
      return name ++ value
    else
      check plain
      let value ← grammar.default?
      return name ++ value

/-- What a value is bound to: a variable, an array pattern or an object pattern. -/
def binding (grammar : Grammar) : Recogniser Piece := do
  let start ← start
  if ← eat .openBracket then
    pieceFrom start (← grammar.list .closeBracket grammar.arrayBindingItem)
  else if ← eat .openBrace then
    pieceFrom start (← grammar.list .closeBrace grammar.objectBindingItem)
  else
    let _ ← identifier
    pieceFrom start []

/-- The token begins a binding. -/
def atBinding : Recogniser Bool := do
  return (← atIdentifier) || (← atPunctuator .openBracket) || (← atPunctuator .openBrace)

/-- The words that may stand before a parameter which is a property at the same time. -/
def parameterModifiers : List String := ["public", "private", "protected", "readonly", "override"]

/-- The token is one of some words, and what follows it on the line satisfies a test. -/
def atModifier (words : List String) (next : Recogniser Bool) : Recogniser Bool := do
  match ← kind with
  | .name text false =>
      if words.contains text then
        follows (do
          advance
          next)
      else
        return false
  | _ => return false

/-- Words before something that they modify. -/
def modifiers (grammar : Grammar) (words : List String) (next : Recogniser Bool) :
    Recogniser Unit := do
  let _ ← repeatUntil (do return !(← atModifier words next))
    (do
      advance
      return ([] : List Unit))
    grammar.limit

/-- A parameter of a function. -/
def parameter (grammar : Grammar) : Recogniser (List CallTree) := do
  if grammar.dialect.typed then
    grammar.modifiers parameterModifiers atBinding
  if grammar.dialect.typed && (← atWord "this") then
    advance
    grammar.annotation?
  else
    let _ ← eat .ellipsis
    let target ← grammar.calls .binding
    if grammar.dialect.typed then
      let _ ← eat .question
    let type ← grammar.annotation?
    let value ← grammar.default?
    return target ++ type ++ value

/-- The parameters of a function, with their parentheses. -/
def parameters (grammar : Grammar) : Recogniser (List CallTree) := do
  expect .openParen
  grammar.list .closeParen grammar.parameter

/-- A type parameter. -/
def typeParameter (grammar : Grammar) : Recogniser (List CallTree) := do
  grammar.modifiers ["const", "in", "out"] (do
    match ← kind with
    | .name _ _ => return true
    | _ => return false)
  let _ ← anyName
  let bound ← if ← eatWord "extends" then grammar.calls .type else pure []
  let value ← if ← eat .assign then grammar.calls .type else pure []
  return bound ++ value

/-- Type parameters between angle brackets, if types may be annotated and they are there. -/
def typeParameters? (grammar : Grammar) : Recogniser (List CallTree) := do
  if grammar.dialect.typed then
    if ← eat .less then grammar.angleList grammar.typeParameter else return []
  else
    return []

/-- Type arguments between angle brackets. -/
def typeArguments (grammar : Grammar) : Recogniser (List CallTree) := do
  expect .less
  grammar.angleList (grammar.calls .type)

end Grammar
end Script
end MessageExpansion
