import MessageExpansion.Script.Grammar.Function
import MessageExpansion.Script.Grammar.Markup

/-!
# Expressions

Operands, member accesses and calls, operators, and arrow functions.  The grouping of operators does
not matter to calls, so operands and operators form a flat list.
-/

namespace MessageExpansion
namespace Script
namespace Grammar

open Recogniser

/-! ### Operands -/

/-- An item of an array; items may be left out. -/
def arrayItem (grammar : Grammar) : Recogniser (List CallTree) := do
  if ← atPunctuator .comma then
    return []
  else
    let _ ← eat .ellipsis
    grammar.assignment

/-- A member of an object that has a name. -/
def namedProperty (grammar : Grammar) : Recogniser (List CallTree) := do
  let getter ← atModifier ["get"] atPropertyName
  let modified ← grammar.methodKind
  let plain ← atIdentifier
  let name ← grammar.propertyName
  if ← atSignature then
    let rest ← if getter then grammar.getterRest else grammar.functionRest
    return name ++ rest
  else
    check (!modified)
    if ← eat .colon then
      let value ← grammar.assignment
      return name ++ value
    else
      check plain
      let value ← grammar.default?
      return name ++ value

/-- A member of an object. -/
def objectItem (grammar : Grammar) : Recogniser (List CallTree) := do
  if ← eat .ellipsis then grammar.assignment else grammar.namedProperty

/-- An expression in parentheses. -/
def parenthesized (grammar : Grammar) : Recogniser Piece := do
  let start ← start
  expect .openParen
  let inside ← grammar.sequencePiece true
  expect .closeParen
  let span ← spanFrom start
  return ⟨span, inside.core, inside.shape, false, inside.calls⟩

/-- A template as an operand. -/
def templatePiece (grammar : Grammar) : Recogniser Piece := do
  let start ← start
  let (text, calls) ← grammar.template false
  let span ← spanFrom start
  let shape := match text with
    | some text => Shape.template text
    | none => .other
  return ⟨span, span, shape, false, calls⟩

/-- The arguments of a call, with their parentheses. -/
def callArguments (grammar : Grammar) : Recogniser (List (Argument × List CallTree)) := do
  expect .openParen
  listUntil .closeParen
    (do
      let start ← start
      let isSpread ← eat .ellipsis
      let piece ← grammar.piece (.assignment true true)
      let span ← spanFrom start
      return [(⟨span, isSpread, piece.core, piece.shape⟩, piece.calls)])
    grammar.limit

/-- The calls inside arguments. -/
def argumentCalls (arguments : List (Argument × List CallTree)) : List CallTree :=
  arguments.flatMap (·.2)

/-- The variable that an expression is. -/
def variableName? : Shape → Option String
  | .variable name => some name
  | _ => none

/-- A call of a piece that was recognised before, with the calls in its type arguments. -/
def callOf (grammar : Grammar) (callee : Piece) (types : List CallTree) : Recogniser Piece := do
  let arguments ← grammar.callArguments
  let span ← spanFrom callee.span.start
  let inner := callee.calls ++ argumentCalls arguments ++ types
  if callee.isChain then
    return ⟨span, span, .other, true, inner⟩
  else
    let call : Call := ⟨span, variableName? callee.shape, arguments.map (·.1)⟩
    return ⟨span, span, .other, false, [.node call inner]⟩

/-- The type arguments of a constructor that has arguments, if they are there. -/
def constructorTypes? (grammar : Grammar) : Recogniser (List CallTree) := do
  let types ←
    if grammar.dialect.typed then
      attempt (do
        let types ← grammar.typeArguments
        check (← atPunctuator .openParen)
        return types)
    else pure none
  return types.getD []

/-- An object made by a constructor, from the word `new` on. -/
def construction (grammar : Grammar) : Recogniser Piece := do
  let start ← start
  expectWord "new"
  if ← eat .dot then
    expectWord "target"
    pieceFrom start []
  else
    let callee ← grammar.piece .constructed
    let types ← grammar.constructorTypes?
    let arguments ← if ← atPunctuator .openParen then grammar.callArguments else pure []
    pieceFrom start (callee.calls ++ argumentCalls arguments ++ types)

/-- An import inside an expression, from the word `import` on. -/
def importOperand : Recogniser Piece := do
  let start ← start
  expectWord "import"
  if ← eat .dot then
    expectWord "meta"
  else
    check (← atPunctuator .openParen)
  pieceFrom start []

/-- A regular expression. -/
def regularExpression : Recogniser Piece := do
  let start ← start
  match skipRegularExpression (← get).start with
  | some place =>
      goTo place
      pieceFrom start []
  | none => failure

/-- An operand that begins with a name. -/
def namedOperand (grammar : Grammar) (name : String) (escaped : Bool) : Recogniser Piece := do
  let start ← start
  if !escaped && name == "function" then
    pieceFrom start (← grammar.functionExpression)
  else if ← atModifier ["async"]
      (do return (← atWord "function") && !(← afterNewline)) then
    advance
    pieceFrom start (← grammar.functionExpression)
  else if !escaped && name == "class" then
    pieceFrom start (← grammar.classRule false)
  else if !escaped && name == "new" then
    grammar.construction
  else if !escaped && name == "import" then
    importOperand
  else if !escaped && ["this", "super", "null", "true", "false"].contains name then
    advance
    pieceFrom start []
  else
    let name ← identifier
    let span ← spanFrom start
    return ⟨span, span, .variable name, false, []⟩

/-- An operand. -/
def operand (grammar : Grammar) : Recogniser Piece := do
  let start ← start
  match ← kind with
  | .name name escaped => grammar.namedOperand name escaped
  | .number =>
      advance
      pieceFrom start []
  | .string text =>
      advance
      let span ← spanFrom start
      let shape := match text with
        | some text => Shape.string text
        | none => .other
      return ⟨span, span, shape, false, []⟩
  | .privateName =>
      advance
      check (← atWord "in")
      pieceFrom start []
  | .punctuator .openParen => grammar.parenthesized
  | .punctuator .openBracket =>
      advance
      pieceFrom start (← grammar.list .closeBracket grammar.arrayItem)
  | .punctuator .openBrace =>
      advance
      pieceFrom start (← grammar.list .closeBrace grammar.objectItem)
  | .punctuator .backtick => grammar.templatePiece
  | .punctuator .slash | .punctuator .slashAssign => regularExpression
  | .punctuator .less =>
      check grammar.dialect.markup
      let element ← grammar.piece .element
      advance
      return element
  | _ => failure

/-! ### Member accesses and calls -/

/-- A member after a dot. -/
def memberName : Recogniser Unit := do
  match ← kind with
  | .name _ _ | .privateName => advance
  | _ => failure

/-- An expression between brackets. -/
def indexed (grammar : Grammar) : Recogniser (List CallTree) := do
  expect .openBracket
  let calls ← grammar.sequence
  expect .closeBracket
  return calls

/-- A piece that goes on with some calls and has no shape of its own. -/
def extend (base : Piece) (isChain : Bool) (calls : List CallTree) : Recogniser Piece := do
  let span ← spanFrom base.span.start
  return ⟨span, span, .other, isChain, base.calls ++ calls⟩

/-- An optional access or call of a piece, after its mark. -/
def optionalAccess (grammar : Grammar) (base : Piece) : Recogniser Piece := do
  if ← atPunctuator .openBracket then
    extend base true (← grammar.indexed)
  else
    let types ←
      if grammar.dialect.typed && (← atPunctuator .less) then grammar.typeArguments else pure []
    if ← atPunctuator .openParen then
      let arguments ← grammar.callArguments
      extend base true (argumentCalls arguments ++ types)
    else
      memberName
      extend base true []

/-- The token cannot go on with an operand that type arguments would turn into a comparison. -/
def afterTypeArguments : Recogniser Bool := do
  match ← kind with
  | .endOfText => return true
  | .punctuator which =>
      return [.closeParen, .closeBracket, .closeBrace, .colon, .semicolon, .comma, .dot,
        .questionDot, .question, .operator, .assign, .ampersand, .bar].contains which ||
        (← afterNewline)
  | _ => afterNewline

/-- The type arguments of a piece, if they are there, and whether they belong to a call.  Without
`allowCall` those of a call are left alone. -/
def instantiation? (grammar : Grammar) (allowCall : Bool) :
    Recogniser (Option (List CallTree × Bool)) :=
  attempt do
    let types ← grammar.typeArguments
    if ← atPunctuator .openParen then
      check allowCall
      return (types, true)
    else
      check ((← atPunctuator .backtick) || !allowCall || (← afterTypeArguments))
      return (types, false)

/-- Member accesses and calls behind a piece; without `allowCall` calls are left alone. -/
def accesses (grammar : Grammar) (allowCall : Bool) : (count : Nat) → Piece → Recogniser Piece
  | 0, _ => failure
  | count + 1, base => do
      match ← kind with
      | .punctuator .dot =>
          advance
          memberName
          accesses grammar allowCall count (← extend base base.isChain [])
      | .punctuator .questionDot =>
          check allowCall
          advance
          accesses grammar allowCall count (← grammar.optionalAccess base)
      | .punctuator .openBracket =>
          let index ← grammar.indexed
          accesses grammar allowCall count (← extend base base.isChain index)
      | .punctuator .openParen =>
          if allowCall then
            accesses grammar allowCall count (← grammar.callOf base [])
          else
            return base
      | .punctuator .backtick =>
          let (_, calls) ← grammar.template true
          accesses grammar allowCall count (← extend base false calls)
      | .punctuator .bang =>
          if grammar.dialect.typed && !(← afterNewline) then
            advance
            accesses grammar allowCall count (← extend base false [])
          else
            return base
      | .punctuator .less =>
          if grammar.dialect.typed then
            match ← grammar.instantiation? allowCall with
            | none => return base
            | some (types, true) =>
                accesses grammar allowCall count (← grammar.callOf base types)
            | some (types, false) =>
                accesses grammar allowCall count (← extend base false types)
          else
            return base
      | _ => return base

/-- An operand with its member accesses and calls. -/
def leftHand (grammar : Grammar) : Recogniser Piece := do
  grammar.accesses true grammar.limit (← grammar.operand)

/-- An operand with its member accesses: what `new` is applied to. -/
def constructed (grammar : Grammar) : Recogniser Piece := do
  grammar.accesses false grammar.limit (← grammar.operand)

/-! ### Operators -/

/-- The token is an operator before its operand. -/
def atPrefixOperator : Recogniser Bool := do
  match ← kind with
  | .punctuator which => return [.plus, .minus, .bang, .tilde, .increment].contains which
  | .name text false => return ["delete", "void", "typeof", "await"].contains text
  | _ => return false

/-- An operand with the operators before and behind it. -/
def unary (grammar : Grammar) : Recogniser Piece := do
  let start ← start
  if ← atPrefixOperator then
    advance
    pieceFrom start (← grammar.calls .unary)
  else if grammar.dialect.typed && !grammar.dialect.markup && (← atPunctuator .less) then
    advance
    let type ← grammar.calls .type
    closeAngle
    let operand ← grammar.calls .unary
    pieceFrom start (operand ++ type)
  else
    let operand ← grammar.leftHand
    if (← atPunctuator .increment) && !(← afterNewline) then
      advance
      extend operand false []
    else
      return operand

/-- The token is an operator between two operands. -/
def atBinaryOperator (allowIn : Bool) : Recogniser Bool := do
  match ← kind with
  | .punctuator which =>
      return [.operator, .less, .greater, .plus, .minus, .star, .slash, .ampersand, .bar].contains
        which
  | .name text false => return text == "instanceof" || text == "in" && allowIn
  | _ => return false

/-- The token is an operator between an operand and a type. -/
def atTypeOperator (grammar : Grammar) : Recogniser Bool := do
  if grammar.dialect.typed && !(← afterNewline) then
    return (← atWord "as") || (← atWord "satisfies")
  else
    return false

/-- Operators with their right operands; each item tells whether its operand is an expression. -/
def operatorItem (grammar : Grammar) (allowIn : Bool) :
    Recogniser (List (Bool × List CallTree)) := do
  if ← grammar.atTypeOperator then
    advance
    return [(false, ← grammar.calls .type)]
  else
    check (← atBinaryOperator allowIn)
    advance
    return [(true, ← grammar.calls .unary)]

/-- Operands joined by operators, and whether the result can be assigned to. -/
def operands (grammar : Grammar) (allowIn : Bool) : Recogniser (Piece × Bool) := do
  let first ← grammar.unary
  let rest ← repeatUntil
    (do return !((← atBinaryOperator allowIn) || (← grammar.atTypeOperator)))
    (grammar.operatorItem allowIn) grammar.limit
  if rest.isEmpty then
    return (first, true)
  else
    let piece ← extend first false (rest.flatMap (·.2))
    return (piece, rest.all fun item => !item.1)

/-! ### Arrow functions -/

/-- The parameter of an arrow function that has just one, and the arrow. -/
def singleArrowHead : Recogniser Signature := do
  let _ ← identifier
  check (!(← afterNewline))
  expect .arrow
  return ⟨[], [], []⟩

/-- The parameters of an arrow function, its result type, and the arrow. -/
def fullArrowHead (grammar : Grammar) (allowResultType : Bool) : Recogniser Signature := do
  let types ← grammar.typeParameters?
  let parameters ← grammar.parameters
  let result ← if allowResultType then grammar.annotation? else pure []
  check (!(← afterNewline))
  expect .arrow
  return ⟨types, parameters, result⟩

/-- What stands before the body of an arrow function. -/
def arrowHead (grammar : Grammar) (allowResultType : Bool) : Recogniser Signature := do
  if ← atIdentifier then singleArrowHead else grammar.fullArrowHead allowResultType

/-- The head of an arrow function, if that is what follows. -/
def arrowHead? (grammar : Grammar) (allowResultType : Bool) :
    Recogniser (Option Signature) := do
  let asynchronous ←
    if ← atWord "async" then
      attempt (do
        advance
        check (!(← afterNewline))
        grammar.arrowHead allowResultType)
    else pure none
  match asynchronous with
  | some head => return some head
  | none =>
      if (← atIdentifier) || (← atSignature) then
        attempt (grammar.arrowHead allowResultType)
      else
        return none

/-- The body of an arrow function. -/
def arrowBody (grammar : Grammar) (allowIn allowResultType : Bool) :
    Recogniser (List CallTree) := do
  if ← atPunctuator .openBrace then grammar.block
  else grammar.calls (.assignment allowIn allowResultType)

/-! ### Whole expressions -/

/-- Nothing follows that `yield` could be applied to. -/
def atYieldEnd : Recogniser Bool := do
  match ← kind with
  | .endOfText => return true
  | .punctuator which =>
      return [.closeParen, .closeBracket, .closeBrace, .comma, .semicolon, .colon].contains which ||
        (← afterNewline)
  | .name text false => return text == "in" || text == "of" || (← afterNewline)
  | _ => afterNewline

/-- A value that a generator yields, from the word `yield` on. -/
def yielded (grammar : Grammar) (allowIn : Bool) : Recogniser Piece := do
  let start ← start
  expectWord "yield"
  if ← atYieldEnd then
    pieceFrom start []
  else
    let _ ← eat .star
    pieceFrom start (← grammar.calls (.assignment allowIn true))

/-- The positive branch of a choice, and the colon behind it. -/
def positiveBranch (grammar : Grammar) (allowResultType : Bool) : Recogniser (List CallTree) := do
  let calls ← grammar.calls (.assignment true allowResultType)
  expect .colon
  return calls

/-- The branches of a choice, after the question mark. -/
def branches (grammar : Grammar) (allowIn allowResultType : Bool) :
    Recogniser (List CallTree) := do
  let positive ←
    if grammar.dialect.typed then
      match ← attempt (grammar.positiveBranch true) with
      | some calls => pure calls
      | none => grammar.positiveBranch false
    else grammar.positiveBranch true
  let negative ← grammar.calls (.assignment allowIn allowResultType)
  return positive ++ negative

/-- An expression without top-level commas. -/
def assignmentRule (grammar : Grammar) (allowIn allowResultType : Bool) : Recogniser Piece := do
  let start ← start
  if ← atWord "yield" then
    grammar.yielded allowIn
  else
    match ← grammar.arrowHead? allowResultType with
    | some head =>
        let body ← grammar.arrowBody allowIn allowResultType
        pieceFrom start (head.around body)
    | none =>
        let (left, assignable) ← grammar.operands allowIn
        if ← eat .question then
          extend left false (← grammar.branches allowIn allowResultType)
        else if ← eatAny [.assign, .compoundAssign, .slashAssign] then
          check assignable
          extend left false (← grammar.calls (.assignment allowIn true))
        else
          return left

end Grammar
end Script
end MessageExpansion
