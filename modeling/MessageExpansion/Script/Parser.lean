import MessageExpansion.Script.Grammar.Statement

/-!
# Parsing scripts

The grammar of scripts, closed by iteration: a goal at one level may contain goals of the levels
below.  A script has fewer levels than tokens, up to a constant factor, so the number of levels that
parsing starts with never decides its outcome.
-/

namespace MessageExpansion
namespace Script

open Recogniser

/-- The rule of a goal. -/
def Grammar.rule (grammar : Grammar) : Goal → Recogniser Piece
  | .statement topLevel => grammar.statement topLevel
  | .assignment allowIn allowResultType => grammar.assignmentRule allowIn allowResultType
  | .unary => grammar.unary
  | .leftHand => grammar.leftHand
  | .constructed => grammar.constructed
  | .binding => grammar.binding
  | .type => grammar.type
  | .element => grammar.element

/-- The recogniser of goals with a number of levels. -/
def recognise (dialect : Dialect) (limit : Nat) : (levels : Nat) → Goal → Recogniser Piece
  | 0, _ => failure
  | levels + 1, goal => Grammar.rule ⟨recognise dialect limit levels, limit, dialect⟩ goal

/-- The place where the tokens of a script begin: behind a mark of the byte order, and behind a
first line that names an interpreter. -/
def firstPlace (text : List Char) : Place :=
  let place : Place := ⟨0, text⟩
  let place := match text with
    | '\ufeff' :: _ => place.skip 1
    | _ => place
  match place.rest with
  | '#' :: '!' :: _ => place.skipWhile fun c => !Text.isLineTerminator c
  | _ => place

/-- The statements of a script, to its end. -/
def script (grammar : Grammar) : Recogniser (List CallTree) :=
  repeatUntil atEnd (grammar.calls (.statement true)) grammar.limit

/-- The calls of a script; none if it does not follow the grammar. -/
def parse (dialect : Dialect) (text : List Char) : Option (List CallTree) :=
  let limit := 8 * (maxTokens text + 1)
  let grammar : Grammar := ⟨recognise dialect limit limit, limit, dialect⟩
  ((script grammar).run (.after (firstPlace text))).map (·.1)

end Script
end MessageExpansion
