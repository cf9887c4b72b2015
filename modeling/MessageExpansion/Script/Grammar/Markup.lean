import MessageExpansion.Script.Grammar.Binding

/-!
# Markup elements

Elements in the manner of XML inside expressions.  Their text is no sequence of tokens, so these
rules move from character to character where it begins.
-/

namespace MessageExpansion
namespace Script
namespace Grammar

open Recogniser

/-- A character of a markup name. -/
def isMarkupNameChar (c : Char) : Bool := Text.isIdentifierPart c || c == '-'

/-- One part of a markup name. -/
def markupWord : Recogniser (List Char) := do
  check ((← kind) matches .name _ _)
  let place := (← get).start
  goTo (place.skipWhile isMarkupNameChar)
  return place.rest.takeWhile isMarkupNameChar

/-- A name with a namespace, if it has one. -/
def attributeName : Recogniser (List Char) := do
  let first ← markupWord
  if ← eat .colon then
    let second ← markupWord
    return first ++ ':' :: second
  else
    return first

/-- The name of an element. -/
def elementName (grammar : Grammar) : Recogniser (List Char) := do
  let first ← attributeName
  let rest ← repeatUntil (do return !(← eat .dot))
    (do return '.' :: (← markupWord)) grammar.limit
  return first ++ rest

/-- The quoted value of an attribute, which has no escapes. -/
def attributeText : Recogniser Unit := do
  let place := (← get).start
  match place.rest with
  | quote :: _ =>
      check (quote == '"' || quote == '\'')
      let stop := (place.skip 1).skipWhile (· != quote)
      check (!stop.rest.isEmpty)
      goTo (stop.skip 1)
  | [] => failure

/-- The value of an attribute after its equals sign. -/
def attributeValue (grammar : Grammar) : Recogniser (List CallTree) := do
  if ← eat .openBrace then
    let calls ← grammar.sequence
    expect .closeBrace
    return calls
  else if ← atPunctuator .less then
    let calls ← grammar.calls .element
    advance
    return calls
  else
    attributeText
    return []

/-- An attribute of an element. -/
def attributeRule (grammar : Grammar) : Recogniser (List CallTree) := do
  if ← eat .openBrace then
    expect .ellipsis
    let calls ← grammar.assignment
    expect .closeBrace
    return calls
  else
    let _ ← attributeName
    if ← eat .assign then grammar.attributeValue else return []

/-- What stands between braces in the text of an element, up to the closing brace. -/
def embedded (grammar : Grammar) : Recogniser (List CallTree) := do
  expect .openBrace
  let calls ←
    if ← atPunctuator .closeBrace then pure []
    else if ← eat .ellipsis then grammar.assignment
    else grammar.sequence
  check (← atPunctuator .closeBrace)
  return calls

/-- A character of the text of an element. -/
def isMarkupText (c : Char) : Bool := c != '\x7b' && c != '<'

/-- The text and the elements inside an element, and the end tag with its name. -/
def children (grammar : Grammar) (name : List Char) : (count : Nat) → Recogniser (List CallTree)
  | 0 => failure
  | count + 1 => do
      goTo ((← get).stop.skipWhile isMarkupText)
      if ← atPunctuator .openBrace then
        let first ← grammar.embedded
        let rest ← children grammar name count
        return first ++ rest
      else
        check (← atPunctuator .less)
        if ← follows (do
            advance
            atPunctuator .slash) then
          advance
          advance
          let closing ← if ← atAngle then pure [] else grammar.elementName
          check (closing == name)
          splitAngle
          return []
        else
          let first ← grammar.calls .element
          let rest ← children grammar name count
          return first ++ rest

/-- An element, up to the bracket that ends it. -/
def element (grammar : Grammar) : Recogniser Piece := do
  let start ← start
  expect .less
  let calls ←
    if ← atAngle then
      splitAngle
      grammar.children [] grammar.limit
    else
      let name ← grammar.elementName
      let types ←
        if grammar.dialect.typed && (← atPunctuator .less) then grammar.typeArguments
        else pure []
      let attributes ← repeatUntil (do return (← atPunctuator .slash) || (← atAngle))
        grammar.attributeRule grammar.limit
      if ← eat .slash then
        splitAngle
        pure (attributes ++ types)
      else
        splitAngle
        let inside ← grammar.children name grammar.limit
        pure (attributes ++ types ++ inside)
  let span : Span := ⟨start, (← get).stop.offset⟩
  return ⟨span, span, .other, false, calls⟩

end Grammar
end Script
end MessageExpansion
