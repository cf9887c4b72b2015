import MessageExpansion.Script.Cursor

/-!
# The grammar of scripts: what its rules are made of

Every rule of the grammar is a recogniser that yields the calls it passed over.  Rules that contain
each other are written in open form: a rule takes a `Grammar`, which recognises the goals that may
occur inside it, and the whole grammar is closed by iteration.
-/

namespace MessageExpansion
namespace Script

/-- What a rule found: an expression, or any other part of a script. -/
structure Piece where
  /-- The stretch that was recognised. -/
  span : Span
  /-- The stretch without redundant parentheses. -/
  core : Span
  /-- What the expression looks like. -/
  shape : Shape
  /-- The expression is part of an optional chain, so that a call of it is optional as well. -/
  isChain : Bool
  /-- The calls inside, in the order of their visits. -/
  calls : List CallTree

/-- The parts of a script that other parts may contain. -/
inductive Goal where
  /-- A statement; declarations of modules are allowed at the top level only. -/
  | statement (topLevel : Bool)
  /-- An expression without top-level commas; the flags allow the operator `in`, and an arrow
  function whose result type is annotated. -/
  | assignment (allowIn allowResultType : Bool)
  /-- An operand with its prefix operators. -/
  | unary
  /-- An operand with its member accesses and calls. -/
  | leftHand
  /-- An operand with its member accesses: what `new` is applied to. -/
  | constructed
  /-- What a value is bound to: a variable or a pattern. -/
  | binding
  /-- A type. -/
  | type
  /-- A markup element, up to but not past the bracket that ends it. -/
  | element
deriving DecidableEq, Repr

/-- How the goals inside a rule are recognised. -/
structure Grammar where
  /-- The recogniser of a goal. -/
  piece : Goal → Recogniser Piece
  /-- No list of a script has more items. -/
  limit : Nat
  /-- The language of the script. -/
  dialect : Dialect

namespace Grammar

open Recogniser

/-- The calls of a goal. -/
def calls (grammar : Grammar) (goal : Goal) : Recogniser (List CallTree) := do
  return (← grammar.piece goal).calls

/-- An expression without top-level commas. -/
def assignment (grammar : Grammar) : Recogniser (List CallTree) :=
  grammar.calls (.assignment true true)

/-- An expression: one or more expressions separated by commas. -/
def sequencePiece (grammar : Grammar) (allowIn : Bool) : Recogniser Piece := do
  let start ← start
  let first ← grammar.piece (.assignment allowIn true)
  if ← atPunctuator .comma then
    let rest ← repeatUntil (do return !(← eat .comma))
      (grammar.calls (.assignment allowIn true)) grammar.limit
    let span ← spanFrom start
    return ⟨span, span, .other, false, first.calls ++ rest⟩
  else
    return first

/-- The calls of an expression. -/
def sequence (grammar : Grammar) : Recogniser (List CallTree) := do
  return (← grammar.sequencePiece true).calls

/-- Items separated by commas up to a closing punctuator. -/
def list (grammar : Grammar) (close : Punctuator) (item : Recogniser (List CallTree)) :
    Recogniser (List CallTree) :=
  listUntil close item grammar.limit

/-- Items separated by commas between angle brackets, the opening one already passed. -/
def angleList (grammar : Grammar) (item : Recogniser (List CallTree)) :
    Recogniser (List CallTree) :=
  repeatUntil
    (do
      if ← atAngle then
        closeAngle
        return true
      else
        return false)
    (do
      let first ← item
      if !(← eat .comma) then
        check (← atAngle)
      return first)
    grammar.limit

/-- The piece from an offset to the end of the previous token. -/
def pieceFrom (start : Nat) (calls : List CallTree) : Recogniser Piece := do
  let span ← spanFrom start
  return ⟨span, span, .other, false, calls⟩

/-- A type after its colon, if types may be annotated and a colon is there. -/
def annotation? (grammar : Grammar) : Recogniser (List CallTree) := do
  if grammar.dialect.typed then
    if ← eat .colon then grammar.calls .type else return []
  else
    return []

/-- The statements of a block, after its opening brace. -/
def statements (grammar : Grammar) : Recogniser (List CallTree) :=
  repeatUntil (eat .closeBrace) (grammar.calls (.statement false)) grammar.limit

/-- A block with its braces. -/
def block (grammar : Grammar) : Recogniser (List CallTree) := do
  expect .openBrace
  grammar.statements

/--
The rest of a template after its opening backtick: its text if it has no interpolations, and the
calls inside these.  The cursor stands at the token that ends with the mark before the text.
-/
def templateRest (grammar : Grammar) (tagged : Bool) (inside : Recogniser (List CallTree)) :
    (count : Nat) → Recogniser (Option String × List CallTree)
  | 0 => failure
  | count + 1 => do
      let place := (← get).stop
      match readLiteral '\x60' none place.offset place.rest with
      | none => failure
      | some literal =>
          check (tagged || !literal.malformed)
          goTo literal.stop
          if literal.interpolated then
            let calls ← inside
            check (← atPunctuator .closeBrace)
            let (_, more) ← templateRest grammar tagged inside count
            return (none, calls ++ more)
          else
            return (if literal.malformed then none else literal.text?, [])

/-- A template, from its opening backtick on. -/
def template (grammar : Grammar) (tagged : Bool) : Recogniser (Option String × List CallTree) := do
  check (← atPunctuator .backtick)
  grammar.templateRest tagged grammar.sequence grammar.limit

end Grammar

end Script
end MessageExpansion
