import MessageExpansion.Script.Grammar.Module

/-!
# Statements

The calls of a statement come in the order of the text, except that the test of a `do` statement
comes before its body.
-/

namespace MessageExpansion
namespace Script
namespace Grammar

open Recogniser

/-- A statement inside another one. -/
def body (grammar : Grammar) : Recogniser (List CallTree) := grammar.calls (.statement false)

/-- An expression in parentheses that a statement depends on. -/
def condition (grammar : Grammar) : Recogniser (List CallTree) := do
  expect .openParen
  let calls ← grammar.sequence
  expect .closeParen
  return calls

/-- The rest of an `if` statement after its keyword. -/
def ifRest (grammar : Grammar) : Recogniser (List CallTree) := do
  let test ← grammar.condition
  let positive ← grammar.body
  let negative ← if ← eatWord "else" then grammar.body else pure []
  return test ++ positive ++ negative

/-- What a loop begins with: a declaration, an expression, or nothing. -/
def loopStart (grammar : Grammar) : Recogniser (List CallTree) := do
  if ← atPunctuator .semicolon then
    return []
  else if ← atVariables then
    grammar.variableList false
  else
    return (← grammar.sequencePiece false).calls

/-- An expression that may be left out before a punctuator, and the punctuator. -/
def sequenceBefore (grammar : Grammar) (close : Punctuator) : Recogniser (List CallTree) := do
  let calls ← if ← atPunctuator close then pure [] else grammar.sequence
  expect close
  return calls

/-- What controls a `for` loop, in parentheses. -/
def loopHead (grammar : Grammar) : Recogniser (List CallTree) := do
  expect .openParen
  let first ← grammar.loopStart
  if ← eatWord "of" then
    let items ← grammar.assignment
    expect .closeParen
    return first ++ items
  else if ← eatWord "in" then
    let items ← grammar.sequence
    expect .closeParen
    return first ++ items
  else
    expect .semicolon
    let test ← grammar.sequenceBefore .semicolon
    let update ← grammar.sequenceBefore .closeParen
    return first ++ test ++ update

/-- The rest of a `for` statement after its keyword. -/
def forRest (grammar : Grammar) : Recogniser (List CallTree) := do
  let _ ← eatWord "await"
  let head ← grammar.loopHead
  let body ← grammar.body
  return head ++ body

/-- The rest of a statement after its keyword: a condition and a statement. -/
def guardedRest (grammar : Grammar) : Recogniser (List CallTree) := do
  let test ← grammar.condition
  let body ← grammar.body
  return test ++ body

/-- The rest of a `do` statement after its keyword. -/
def doRest (grammar : Grammar) : Recogniser (List CallTree) := do
  let body ← grammar.body
  expectWord "while"
  let test ← grammar.condition
  let _ ← eat .semicolon
  return test ++ body

/-- A case of a `switch` statement. -/
def switchCase (grammar : Grammar) : Recogniser (List CallTree) := do
  let test ←
    if ← eatWord "default" then
      pure []
    else
      expectWord "case"
      grammar.sequence
  expect .colon
  let body ← repeatUntil
    (do return (← atAnyWord ["case", "default"]) || (← atPunctuator .closeBrace))
    grammar.body grammar.limit
  return test ++ body

/-- The rest of a `switch` statement after its keyword. -/
def switchRest (grammar : Grammar) : Recogniser (List CallTree) := do
  let subject ← grammar.condition
  expect .openBrace
  let cases ← repeatUntil (eat .closeBrace) grammar.switchCase grammar.limit
  return subject ++ cases

/-- The handler of a `try` statement, after its keyword. -/
def handlerRest (grammar : Grammar) : Recogniser (List CallTree) := do
  let parameter ←
    if ← eat .openParen then
      let target ← grammar.calls .binding
      let type ← grammar.annotation?
      expect .closeParen
      pure (target ++ type)
    else pure []
  let body ← grammar.block
  return parameter ++ body

/-- The rest of a `try` statement after its keyword. -/
def tryRest (grammar : Grammar) : Recogniser (List CallTree) := do
  let body ← grammar.block
  let handled ← atWord "catch"
  let handler ← if ← eatWord "catch" then grammar.handlerRest else pure []
  check (handled || (← atWord "finally"))
  let final ← if ← eatWord "finally" then grammar.block else pure []
  return body ++ handler ++ final

/-- The rest of a `return` statement after its keyword. -/
def returnRest (grammar : Grammar) : Recogniser (List CallTree) := do
  let value ← if ← atStatementEnd then pure [] else grammar.sequence
  semicolon
  return value

/-- The rest of a `throw` statement after its keyword. -/
def throwRest (grammar : Grammar) : Recogniser (List CallTree) := do
  check (!(← afterNewline))
  let value ← grammar.sequence
  semicolon
  return value

/-- The rest of a jump after its keyword: perhaps a label. -/
def jumpRest : Recogniser (List CallTree) := do
  if !(← atStatementEnd) then
    let _ ← identifier
  semicolon
  return []

/-- The rest of a statement that a keyword begins; none if the word begins no such statement. -/
def keywordRest? (grammar : Grammar) (word : String) : Option (Recogniser (List CallTree)) :=
  match word with
  | "if" => some grammar.ifRest
  | "for" => some grammar.forRest
  | "while" => some grammar.guardedRest
  | "with" => some grammar.guardedRest
  | "do" => some grammar.doRest
  | "switch" => some grammar.switchRest
  | "try" => some grammar.tryRest
  | "return" => some grammar.returnRest
  | "throw" => some grammar.throwRest
  | "break" => some jumpRest
  | "continue" => some jumpRest
  | "debugger" => some (do
      semicolon
      return [])
  | _ => none

/-- The keyword at the cursor that begins a statement, if one does. -/
def statementKeyword? (grammar : Grammar) : Recogniser (Option (Recogniser (List CallTree))) := do
  match ← kind with
  | .name word false => return grammar.keywordRest? word
  | _ => return none

/-- The token is a label. -/
def atLabel : Recogniser Bool := do
  if ← atIdentifier then
    follows (do
      advance
      atPunctuator .colon)
  else
    return false

/-- An expression as a statement. -/
def expressionStatement (grammar : Grammar) : Recogniser (List CallTree) := do
  let calls ← grammar.sequence
  semicolon
  return calls

/-- A statement that is no import or export. -/
def ordinaryStatement (grammar : Grammar) : Recogniser (List CallTree) := do
  if ← atPunctuator .openBrace then
    grammar.block
  else if ← eat .semicolon then
    return []
  else
    match ← grammar.statementKeyword? with
    | some rest =>
        advance
        rest
    | none =>
        match ← grammar.declaration? with
        | some calls => return calls
        | none =>
            if ← atLabel then
              advance
              advance
              grammar.body
            else
              grammar.expressionStatement

/-- A statement; imports and exports are statements at the top level only. -/
def statement (grammar : Grammar) (topLevel : Bool) : Recogniser Piece := do
  let start ← start
  let declared ← if topLevel then grammar.moduleDeclaration? else pure none
  match declared with
  | some calls => pieceFrom start calls
  | none => pieceFrom start (← grammar.ordinaryStatement)

end Grammar
end Script
end MessageExpansion
