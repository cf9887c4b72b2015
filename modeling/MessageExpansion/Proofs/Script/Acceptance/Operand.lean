import MessageExpansion.Proofs.Script.Recognition

/-!
# The grammar accepts terms

Whatever derives a phrase is accepted by the rule of the grammar for such phrases, if what follows
does not go on with it.  There is one rule for every production.  A rule that contains other goals
needs a level for each of them, and a list a step for each of its items; there are enough of both
when there are as many as lexemes.
-/

namespace MessageExpansion
namespace Script

open Recogniser

/-! ### What may follow -/

namespace TokenKind

/-- No expression goes on with a token of this kind. -/
def endsExpression : TokenKind → Bool
  | .punctuator which =>
      [.closeParen, .closeBracket, .closeBrace, .comma, .semicolon, .colon].contains which
  | _ => false

/-- No operand goes on with a token of this kind. -/
def endsOperand : TokenKind → Bool
  | .punctuator which =>
      (TokenKind.punctuator which).endsExpression ||
        [.plus, .minus, .operator, .assign].contains which
  | _ => false

/-- The kinds of tokens that operands begin with. -/
inductive BeginsOperand : TokenKind → Prop
  | string (value : String) : BeginsOperand (.string (some value))
  | number : BeginsOperand .number
  | name {text : String} (isVariable : IsVariable text) : BeginsOperand (.name text false)
  | new : BeginsOperand (.name "new" false)
  | function : BeginsOperand (.name "function" false)
  | brace : BeginsOperand (.punctuator .openBrace)
  | paren : BeginsOperand (.punctuator .openParen)

/-- The kinds of tokens that expressions begin with. -/
def BeginsExpression (kind : TokenKind) : Prop :=
  kind.BeginsOperand ∨ kind = .punctuator .plus

/-- An expression begins with no other punctuator. -/
theorem BeginsExpression.ne_punctuator
    {kind : TokenKind}
    {which : Punctuator}
    (begins : kind.BeginsExpression)
    (other : which ∉ [.openBrace, .openParen, .plus]) :
    kind ≠ .punctuator which := by
  rintro rfl
  rcases begins with operand | plus
  · cases operand <;> exact other (by decide)
  · cases plus
    exact other (by decide)

theorem BeginsExpression.ne_endOfText
    {kind : TokenKind}
    (begins : kind.BeginsExpression) :
    kind ≠ .endOfText := by
  rintro rfl
  rcases begins with operand | plus
  · cases operand
  · cases plus

/-- An expression begins with no other word that means something of its own. -/
theorem BeginsExpression.ne_word
    {kind : TokenKind}
    {word : String}
    (begins : kind.BeginsExpression)
    (means : ¬ IsVariable word)
    (other : word ∉ ["new", "function"]) :
    kind ≠ .name word false := by
  rintro rfl
  rcases begins with operand | plus
  · cases operand with
    | name isVariable => exact means isVariable
    | new => exact other (by decide)
    | function => exact other (by decide)
  · cases plus

end TokenKind

/-- The tokens begin like an expression that is no arrow function. -/
structure BeginsExpression (lexemes : List Lexeme) : Prop where
  begins : ∃ first more, lexemes = first :: more ∧ first.kind.BeginsExpression ∧
    (first.kind = .punctuator .openParen → ∃ rest, more = .word "function" :: rest)
  plain : ∀ lexeme ∈ lexemes, lexeme.newline = false ∧ lexeme.kind ≠ .punctuator .arrow

namespace BeginsExpression

variable {lexemes : List Lexeme} {first last : Place}

theorem kind
    (begins : BeginsExpression lexemes)
    (scans : Scans lexemes first last) :
    (Cursor.after first).kind.BeginsExpression := by
  obtain ⟨lexeme, more, rfl, begin, -⟩ := begins.begins
  obtain ⟨_, scanned, -⟩ := Scans.cons_iff.mp scans
  rw [scanned.kind]
  exact begin

theorem newline
    (begins : BeginsExpression lexemes)
    (scans : Scans lexemes first last) :
    (Cursor.after first).newline = false := by
  obtain ⟨lexeme, more, rfl, -⟩ := begins.begins
  obtain ⟨_, scanned, -⟩ := Scans.cons_iff.mp scans
  rw [scanned.newline]
  exact (begins.plain lexeme List.mem_cons_self).1

/-- A longer text begins as its front part does. -/
theorem append
    {more : List Lexeme}
    (begins : BeginsExpression lexemes)
    (plain : ∀ lexeme ∈ more, lexeme.newline = false ∧ lexeme.kind ≠ .punctuator .arrow) :
    BeginsExpression (lexemes ++ more) := by
  refine ⟨?_, List.forall_mem_append.mpr ⟨begins.plain, plain⟩⟩
  obtain ⟨opening, rest, rfl, begin, inParen⟩ := begins.begins
  refine ⟨opening, rest ++ more, rfl, begin, fun paren => ?_⟩
  obtain ⟨rest, rfl⟩ := inParen paren
  exact ⟨rest ++ more, rfl⟩

end BeginsExpression

/-! ### Levels -/

namespace Grammar

/-- The grammar with a number of levels. -/
def atLevel (dialect : Dialect) (limit level : Nat) : Grammar :=
  ⟨recognise dialect limit level, limit, dialect⟩

variable {dialect : Dialect} {limit : Nat}

@[simp] theorem piece_succ
    (level : Nat)
    (goal : Goal) :
    (atLevel dialect limit (level + 1)).piece goal = (atLevel dialect limit level).rule goal :=
  rfl

@[simp] theorem limit_atLevel
    (level : Nat) :
    (atLevel dialect limit level).limit = limit :=
  rfl

@[simp] theorem dialect_atLevel
    (level : Nat) :
    (atLevel dialect limit level).dialect = dialect :=
  rfl

variable (dialect limit)

/-- The tokens are an operand with member accesses, up to accesses that may follow. -/
def AcceptsAccesses (allowCall : Bool) (lexemes : List Lexeme) : Prop :=
  ∀ level first last, lexemes.length ≤ level → lexemes.length < limit →
    Scans lexemes first last →
      ∃ piece count, limit ≤ count + lexemes.length ∧
        (do
          let grammar := atLevel dialect limit level
          grammar.accesses allowCall limit (← grammar.operand)) (Cursor.after first) =
        (atLevel dialect limit level).accesses allowCall count piece (Cursor.after last)

/-- The tokens are an operand with prefix operators. -/
def AcceptsUnary (lexemes : List Lexeme) : Prop :=
  ∀ level first last, lexemes.length ≤ level → lexemes.length < limit →
    Scans lexemes first last → (Cursor.after last).kind.endsOperand = true →
      ∃ piece, (atLevel dialect limit level).unary (.after first) = some (piece, .after last)

/-- The operators between operands, and the operands behind them. -/
def operatorItems (level count : Nat) : Recogniser (List (Bool × List CallTree)) :=
  repeatUntil
    (do return !((← atBinaryOperator true) || (← (atLevel dialect limit level).atTypeOperator)))
    ((atLevel dialect limit level).operatorItem true) count

/-- The tokens are operands joined by operators, up to operators that may follow. -/
def AcceptsOperands (lexemes : List Lexeme) : Prop :=
  ∀ level first last, lexemes.length ≤ level → lexemes.length < limit →
    Scans lexemes first last → (Cursor.after last).kind.endsOperand = true →
      ∃ piece middle items count, limit ≤ count + lexemes.length ∧
        (atLevel dialect limit level).unary (.after first) = some (piece, .after middle) ∧
        operatorItems dialect limit level limit (.after middle) =
          (operatorItems dialect limit level count (.after last)).map fun found =>
            (items ++ found.1, found.2)

/-- The tokens are an expression without top-level commas. -/
def AcceptsAssignment (lexemes : List Lexeme) : Prop :=
  ∀ level first last, lexemes.length ≤ level → lexemes.length < limit →
    Scans lexemes first last → (Cursor.after last).kind.endsExpression = true →
      ∃ piece, (atLevel dialect limit level).assignmentRule true true (.after first) =
        some (piece, .after last)

variable {dialect limit}

/-! ### Modifiers -/

theorem atModifier_eq_false
    {words : List String}
    {next : Recogniser Bool}
    {cursor : Cursor}
    (other : (∀ word ∈ words, cursor.kind ≠ .name word false) ∨
      ∃ moved, next (.after cursor.stop) = some (false, moved)) :
    atModifier words next cursor = some (false, cursor) := by
  simp only [atModifier, bind_apply, kind_apply, Option.bind_some]
  cases kind : cursor.kind with
  | name text escaped =>
      cases escaped with
      | true => rfl
      | false =>
          by_cases among : text ∈ words
          · rcases other with different | ⟨moved, refused⟩
            · exact absurd kind (different text among)
            · simp [refused]
          · simp [among]
  | _ => rfl

theorem modifiers_eq_none
    {grammar : Grammar}
    {words : List String}
    {next : Recogniser Bool}
    {cursor : Cursor}
    (positive : 0 < grammar.limit)
    (none : atModifier words next cursor = some (false, cursor)) :
    grammar.modifiers words next cursor = some ((), cursor) := by
  obtain ⟨limit, equal⟩ : ∃ fewer, grammar.limit = fewer + 1 := ⟨grammar.limit - 1, by omega⟩
  simp [modifiers, equal, repeatUntil_succ, none]

/-! ### Operands -/

variable {left right inner lexemes : List Lexeme} {allowCall : Bool}

theorem AcceptsAccesses.of_operand
    (operand : ∀ level first last, lexemes.length ≤ level → lexemes.length < limit →
      Scans lexemes first last → ∃ piece,
        (atLevel dialect limit level).operand (.after first) = some (piece, .after last)) :
    AcceptsAccesses dialect limit allowCall lexemes := by
  intro level first last enough bounded scans
  obtain ⟨piece, run⟩ := operand level first last enough bounded scans
  exact ⟨piece, limit, Nat.le_add_right _ _, by simp [run]⟩

theorem acceptsAccesses_string
    {lexeme : Lexeme}
    {value : String}
    (kind : lexeme.kind = .string (some value)) :
    AcceptsAccesses dialect limit allowCall [lexeme] := by
  refine .of_operand fun level first last _ _ scans => ?_
  simp only [Scans.cons_iff, Scans.nil_iff] at scans
  obtain ⟨_, scanned, rfl⟩ := scans
  simp [operand, scanned.kind, scanned.stop, kind]

theorem acceptsAccesses_number
    (value : Nat) :
    AcceptsAccesses dialect limit allowCall [.numeral value] := by
  refine .of_operand fun level first last _ _ scans => ?_
  simp only [Scans.cons_iff, Scans.nil_iff] at scans
  obtain ⟨_, scanned, rfl⟩ := scans
  simp [operand, pieceFrom, scanned.kind, scanned.stop]

theorem acceptsAccesses_variable
    {lexeme : Lexeme}
    {name : String}
    (kind : lexeme.kind = .name name false)
    (isVariable : IsVariable name) :
    AcceptsAccesses dialect limit allowCall [lexeme] := by
  refine .of_operand fun level first last _ _ scans => ?_
  have plain := isVariable.1
  have others : name ∉ ["function", "async", "class", "new", "import", "this", "super", "null",
      "true", "false"] := by
    intro among
    have means : ∀ word ∈ ["function", "async", "class", "new", "import", "this", "super", "null",
        "true", "false"], ¬ IsVariable word := by decide
    exact means name among isVariable
  simp only [List.mem_cons, List.not_mem_nil, or_false, not_or] at others
  simp only [Scans.cons_iff, Scans.nil_iff] at scans
  obtain ⟨_, scanned, rfl⟩ := scans
  simp [operand, namedOperand, atModifier, identifier, anyName, atIdentifier, scanned.kind, kind,
    scanned.stop, plain, others]

theorem AcceptsAccesses.member
    {name : String}
    (base : AcceptsAccesses dialect limit allowCall left) :
    AcceptsAccesses dialect limit allowCall (left ++ [.dot, .word name]) := by
  intro level first last enough bounded scans
  rw [List.length_append, List.length_cons, List.length_singleton] at enough bounded
  simp only [Scans.append_iff, Scans.cons_iff, Scans.nil_iff] at scans
  obtain ⟨_, scansLeft, _, dot, _, named, rfl⟩ := scans
  obtain ⟨piece, count, remaining, run⟩ := base level _ _ (by omega) (by omega) scansLeft
  obtain ⟨count, rfl⟩ : ∃ fewer, count = fewer + 1 := ⟨count - 1, by omega⟩
  refine ⟨?_, count, ?_, run.trans ?_⟩
  rotate_left
  · rw [List.length_append, List.length_cons, List.length_singleton]
    omega
  · simp [accesses, memberName, extend, dot.kind, dot.stop, named.kind, named.stop]
    rfl

/-! ### Expressions inside operands -/

/-- An expression is a goal of the next level. -/
theorem AcceptsAssignment.piece
    {first last : Place}
    (accepts : AcceptsAssignment dialect limit inner)
    (level : Nat)
    (enough : inner.length < level)
    (bounded : inner.length < limit)
    (scans : Scans inner first last)
    (ends : (Cursor.after last).kind.endsExpression = true) :
    ∃ piece, (atLevel dialect limit level).piece (.assignment true true) (.after first) =
      some (piece, .after last) := by
  obtain ⟨level, rfl⟩ : ∃ fewer, level = fewer + 1 := ⟨level - 1, by omega⟩
  exact accepts level first last (by omega) bounded scans ends

theorem AcceptsAssignment.sequencePiece
    {first last : Place}
    (accepts : AcceptsAssignment dialect limit inner)
    (level : Nat)
    (enough : inner.length < level)
    (bounded : inner.length < limit)
    (scans : Scans inner first last)
    (ends : (Cursor.after last).kind.endsExpression = true)
    (noComma : (Cursor.after last).kind ≠ .punctuator .comma) :
    ∃ piece, (atLevel dialect limit level).sequencePiece true (.after first) =
      some (piece, .after last) := by
  obtain ⟨piece, run⟩ := accepts.piece level enough bounded scans ends
  exact ⟨piece, by simp [Grammar.sequencePiece, run, noComma]⟩

theorem AcceptsAssignment.sequence
    {first last : Place}
    (accepts : AcceptsAssignment dialect limit inner)
    (level : Nat)
    (enough : inner.length < level)
    (bounded : inner.length < limit)
    (scans : Scans inner first last)
    (ends : (Cursor.after last).kind.endsExpression = true)
    (noComma : (Cursor.after last).kind ≠ .punctuator .comma) :
    ∃ calls, (atLevel dialect limit level).sequence (.after first) = some (calls, .after last) := by
  obtain ⟨piece, run⟩ := accepts.sequencePiece level enough bounded scans ends noComma
  exact ⟨piece.calls, by simp [Grammar.sequence, run]⟩

theorem AcceptsAccesses.index
    (base : AcceptsAccesses dialect limit allowCall left)
    (inside : AcceptsAssignment dialect limit inner) :
    AcceptsAccesses dialect limit allowCall (left ++ .openBracket :: (inner ++ [.closeBracket])) := by
  intro level first last enough bounded scans
  simp only [List.length_append, List.length_cons, List.length_nil] at enough bounded ⊢
  simp only [Scans.append_iff, Scans.cons_iff, Scans.nil_iff] at scans
  obtain ⟨_, scansLeft, _, opening, _, scansInner, _, closing, rfl⟩ := scans
  obtain ⟨piece, count, remaining, run⟩ := base level _ _ (by omega) (by omega) scansLeft
  obtain ⟨count, rfl⟩ : ∃ fewer, count = fewer + 1 := ⟨count - 1, by omega⟩
  obtain ⟨calls, index⟩ := inside.sequence level (by omega) (by omega) scansInner
    (by simp [closing.kind]; rfl) (by simp [closing.kind])
  refine ⟨?_, count, ?_, run.trans ?_⟩
  rotate_left
  · omega
  · simp [accesses, indexed, extend, opening.kind, opening.stop, index, closing.kind, closing.stop]
    rfl

/-! ### Arguments -/

/-- An argument of a call. -/
def argument (grammar : Grammar) : Recogniser (List (Argument × List CallTree)) := do
  let start ← start
  let isSpread ← eat .ellipsis
  let piece ← grammar.piece (.assignment true true)
  let span ← spanFrom start
  return [(⟨span, isSpread, piece.core, piece.shape⟩, piece.calls)]

theorem callArguments_eq
    (grammar : Grammar) :
    grammar.callArguments = (do
      expect .openParen
      listUntil .closeParen grammar.argument grammar.limit) :=
  rfl

variable (dialect limit) in
/-- The tokens are arguments of a call, up to the closing parenthesis. -/
def AcceptsArguments (lexemes : List Lexeme) : Prop :=
  ∀ level first last count, lexemes.length < level → lexemes.length < limit →
    lexemes.length < count → Scans lexemes first last →
      (Cursor.after last).kind = .punctuator .closeParen →
        ∃ found, listUntil .closeParen (atLevel dialect limit level).argument count (.after first) =
          some (found, .after (Cursor.after last).stop)

theorem AcceptsAssignment.argument
    {first last : Place}
    (accepts : AcceptsAssignment dialect limit inner)
    (begins : BeginsExpression inner)
    (level : Nat)
    (enough : inner.length < level)
    (bounded : inner.length < limit)
    (scans : Scans inner first last)
    (ends : (Cursor.after last).kind.endsExpression = true) :
    (Cursor.after first).kind ≠ .punctuator .closeParen ∧
      ∃ found, (atLevel dialect limit level).argument (.after first) = some (found, .after last) := by
  obtain ⟨piece, run⟩ := accepts.piece level enough bounded scans ends
  have kind := begins.kind scans
  have noSpread : (Cursor.after first).kind ≠ .punctuator .ellipsis :=
    kind.ne_punctuator (by decide)
  exact ⟨kind.ne_punctuator (by decide), by simp [Grammar.argument, noSpread, run]⟩

theorem AcceptsArguments.last
    (accepts : AcceptsAssignment dialect limit inner)
    (begins : BeginsExpression inner) :
    AcceptsArguments dialect limit inner := by
  intro level first last count enough bounded steps scans closes
  obtain ⟨opens, found, run⟩ :=
    accepts.argument begins level enough bounded scans (by rw [closes]; rfl)
  obtain ⟨lexeme, more, rfl, -⟩ := begins.begins
  obtain ⟨count, rfl⟩ : ∃ fewer, count = fewer + 2 :=
    ⟨count - 2, by rw [List.length_cons] at steps; omega⟩
  exact ⟨found, listUntil_last count opens run closes (by decide)⟩

theorem AcceptsArguments.cons
    (accepts : AcceptsAssignment dialect limit left)
    (begins : BeginsExpression left)
    (onward : AcceptsArguments dialect limit right) :
    AcceptsArguments dialect limit (left ++ .comma :: right) := by
  intro level first last count enough bounded steps scans closes
  rw [List.length_append, List.length_cons] at enough bounded steps
  simp only [Scans.append_iff, Scans.cons_iff] at scans
  obtain ⟨_, scansLeft, _, comma, scansRight⟩ := scans
  obtain ⟨opens, found, run⟩ :=
    accepts.argument begins level (by omega) (by omega) scansLeft (by rw [comma.kind]; rfl)
  obtain ⟨count, rfl⟩ : ∃ fewer, count = fewer + 1 := ⟨count - 1, by omega⟩
  obtain ⟨rest, runRest⟩ :=
    onward level _ _ count (by omega) (by omega) (by omega) scansRight closes
  exact ⟨found ++ rest, by rw [listUntil_cons count opens run comma, runRest]; rfl⟩

theorem AcceptsArguments.callArguments
    {first last : Place}
    (accepts : AcceptsArguments dialect limit inner)
    (level : Nat)
    (enough : inner.length < level)
    (bounded : inner.length < limit)
    (scans : Scans (.openParen :: (inner ++ [.closeParen])) first last) :
    ∃ found, (atLevel dialect limit level).callArguments (.after first) =
      some (found, .after last) := by
  simp only [Scans.append_iff, Scans.cons_iff, Scans.nil_iff] at scans
  obtain ⟨_, opening, _, scansInner, _, closing, rfl⟩ := scans
  obtain ⟨found, run⟩ := accepts level _ _ limit enough bounded bounded scansInner closing.kind
  rw [closing.stop] at run
  exact ⟨found, by simp [callArguments_eq, opening.kind, opening.stop, run]⟩

theorem AcceptsAccesses.call
    (base : AcceptsAccesses dialect limit true left)
    (inside : AcceptsArguments dialect limit inner) :
    AcceptsAccesses dialect limit true (left ++ .openParen :: (inner ++ [.closeParen])) := by
  intro level first last enough bounded scans
  simp only [List.length_append, List.length_cons, List.length_nil] at enough bounded ⊢
  obtain ⟨middle, scansLeft, scansRight⟩ := Scans.append_iff.mp scans
  obtain ⟨_, opening, -⟩ := Scans.cons_iff.mp scansRight
  obtain ⟨piece, count, remaining, run⟩ := base level _ _ (by omega) (by omega) scansLeft
  obtain ⟨count, rfl⟩ : ∃ fewer, count = fewer + 1 := ⟨count - 1, by omega⟩
  obtain ⟨arguments, runArguments⟩ :=
    inside.callArguments level (by omega) (by omega) scansRight
  -- A call of a part of an optional chain is one as well.
  obtain ⟨called, runCall⟩ : ∃ called,
      (atLevel dialect limit level).callOf piece [] (.after middle) =
        some (called, .after last) := by
    cases chain : piece.isChain <;> simp [callOf, runArguments, chain]
  refine ⟨called, count, by omega, run.trans ?_⟩
  simp [accesses, opening.kind, runCall]

/-- An object made by a constructor, from the word `new` on. -/
theorem AcceptsAccesses.construct
    {name : String}
    {more : List Lexeme}
    (base : AcceptsAccesses dialect limit false (.word name :: more))
    (inside : AcceptsArguments dialect limit inner) :
    AcceptsAccesses dialect limit allowCall
      (.word "new" :: ((.word name :: more) ++ .openParen :: (inner ++ [.closeParen]))) := by
  refine .of_operand fun level first last enough bounded scans => ?_
  obtain ⟨_, new, scansRest⟩ := Scans.cons_iff.mp scans
  obtain ⟨middle, scansLeft, scansRight⟩ := Scans.append_iff.mp scansRest
  obtain ⟨_, named, -⟩ := Scans.cons_iff.mp scansLeft
  obtain ⟨_, opening, -⟩ := Scans.cons_iff.mp scansRight
  simp only [List.length_append, List.length_cons, List.length_nil] at enough bounded
  obtain ⟨level, rfl⟩ : ∃ fewer, level = fewer + 1 := ⟨level - 1, by omega⟩
  obtain ⟨piece, count, remaining, run⟩ :=
    base level _ _ (by simp; omega) (by simp; omega) scansLeft
  rw [List.length_cons] at remaining
  obtain ⟨count, rfl⟩ : ∃ fewer, count = fewer + 1 := ⟨count - 1, by omega⟩
  obtain ⟨arguments, runArguments⟩ :=
    inside.callArguments (level + 1) (by omega) (by omega) scansRight
  -- What is constructed ends where the arguments begin.
  have constructed : (atLevel dialect limit level).constructed (.after _) =
      some (piece, .after middle) :=
    run.trans (by simp [accesses, opening.kind])
  have noTypes : (atLevel dialect limit (level + 1)).constructorTypes? (.after middle) =
      some ([], .after middle) := by
    cases typed : dialect.typed <;>
      simp [constructorTypes?, typeArguments, typed, opening.kind]
  simp [operand, namedOperand, atModifier, construction, new.kind, new.stop, named.kind,
    Grammar.rule, constructed, noTypes, opening.kind, runArguments, pieceFrom]

/-! ### Objects -/

variable (dialect limit) in
/-- The tokens are fields of an object, up to the closing brace. -/
def AcceptsFields (lexemes : List Lexeme) : Prop :=
  ∀ level first last count, lexemes.length < level → lexemes.length < limit →
    lexemes.length < count → Scans lexemes first last →
      (Cursor.after last).kind = .punctuator .closeBrace →
        ∃ found, listUntil .closeBrace (atLevel dialect limit level).objectItem count (.after first) =
          some (found, .after (Cursor.after last).stop)

theorem objectItem_field
    {name : String}
    {first last : Place}
    (accepts : AcceptsAssignment dialect limit inner)
    (level : Nat)
    (enough : inner.length < level)
    (bounded : inner.length < limit)
    (scans : Scans (.word name :: .colon :: inner) first last)
    (ends : (Cursor.after last).kind.endsExpression = true) :
    ∃ found, (atLevel dialect limit level).objectItem (.after first) = some (found, .after last) := by
  simp only [Scans.cons_iff] at scans
  obtain ⟨_, named, _, colon, scansInner⟩ := scans
  obtain ⟨piece, run⟩ := accepts.piece level enough bounded scansInner ends
  -- No word before a colon says what kind of method follows.
  have unmodified {words : List String} {next : Recogniser Bool}
      (refused : ∃ moved, next (.after (Cursor.after first).stop) = some (false, moved)) :
      atModifier words next (.after first) = some (false, .after first) :=
    atModifier_eq_false (.inr refused)
  have noAccessor (words : List String) : atModifier words atPropertyName (.after first) =
      some (false, .after first) :=
    unmodified (by simp [atPropertyName, named.stop, colon.kind])
  have noModifiers : (atLevel dialect limit level).methodKind (.after first) =
      some (false, .after first) := by
    have getters := @modifiers_eq_none (atLevel dialect limit level) ["get", "set"] atPropertyName _
      (Nat.zero_lt_of_lt bounded) (noAccessor _)
    rw [methodKind, bind_apply,
      unmodified (by simp [atMember, atPropertyName, named.stop, colon.kind])]
    simp [named.kind, getters, noAccessor]
  have runName : (atLevel dialect limit level).propertyName (.after first) =
      some ([], .after (Cursor.after first).stop) := by
    simp [propertyName, atPropertyName, named.kind]
  simp [objectItem, namedProperty, noAccessor, noModifiers, runName, atIdentifier, atSignature,
    named.kind, named.stop, colon.kind, colon.stop, Grammar.assignment, Grammar.calls, run]

theorem acceptsFields_nil :
    AcceptsFields dialect limit [] := by
  intro level first last count _ _ steps scans closes
  rw [Scans.nil_iff] at scans
  subst scans
  obtain ⟨count, rfl⟩ : ∃ fewer, count = fewer + 1 := ⟨count - 1, by simp at steps; omega⟩
  exact ⟨[], listUntil_nil count closes⟩

theorem AcceptsFields.last
    {name : String}
    (accepts : AcceptsAssignment dialect limit inner) :
    AcceptsFields dialect limit (.word name :: .colon :: inner) := by
  intro level first last count enough bounded steps scans closes
  simp only [List.length_cons] at enough bounded steps
  obtain ⟨found, run⟩ :=
    objectItem_field accepts level (by omega) (by omega) scans (by rw [closes]; rfl)
  obtain ⟨_, named, -⟩ := Scans.cons_iff.mp scans
  obtain ⟨count, rfl⟩ : ∃ fewer, count = fewer + 2 := ⟨count - 2, by omega⟩
  exact ⟨found, listUntil_last count (by simp [named.kind]) run closes (by decide)⟩

theorem AcceptsFields.cons
    {name : String}
    (accepts : AcceptsAssignment dialect limit left)
    (onward : AcceptsFields dialect limit right) :
    AcceptsFields dialect limit (.word name :: .colon :: (left ++ .comma :: right)) := by
  intro level first last count enough bounded steps scans closes
  simp only [List.length_append, List.length_cons] at enough bounded steps
  have parts : Scans ((.word name :: .colon :: left) ++ .comma :: right) first last := scans
  obtain ⟨_, scansLeft, scansRight⟩ := Scans.append_iff.mp parts
  obtain ⟨_, comma, scansRight⟩ := Scans.cons_iff.mp scansRight
  obtain ⟨found, run⟩ :=
    objectItem_field accepts level (by omega) (by omega) scansLeft (by rw [comma.kind]; rfl)
  obtain ⟨_, named, -⟩ := Scans.cons_iff.mp scansLeft
  obtain ⟨count, rfl⟩ : ∃ fewer, count = fewer + 1 := ⟨count - 1, by omega⟩
  obtain ⟨rest, runRest⟩ :=
    onward level _ _ count (by omega) (by omega) (by omega) scansRight closes
  exact ⟨found ++ rest, by
    rw [listUntil_cons count (by simp [named.kind]) run comma, runRest]
    rfl⟩

theorem AcceptsAccesses.record
    (inside : AcceptsFields dialect limit inner) :
    AcceptsAccesses dialect limit allowCall (.openBrace :: (inner ++ [.closeBrace])) := by
  refine .of_operand fun level first last enough bounded scans => ?_
  simp only [List.length_append, List.length_cons, List.length_nil] at enough bounded
  simp only [Scans.append_iff, Scans.cons_iff, Scans.nil_iff] at scans
  obtain ⟨_, opening, _, scansInner, _, closing, rfl⟩ := scans
  obtain ⟨found, run⟩ :=
    inside level _ _ limit (by omega) (by omega) (by omega) scansInner closing.kind
  rw [closing.stop] at run
  simp [operand, list, opening.kind, opening.stop, run, pieceFrom]

/-! ### Operators -/

/-- What ends an operand goes on with no member access. -/
theorem accesses_stop
    {level count : Nat}
    {piece : Piece}
    {cursor : Cursor}
    (ends : cursor.kind.endsOperand = true)
    (positive : 0 < count) :
    (atLevel dialect limit level).accesses allowCall count piece cursor = some (piece, cursor) := by
  obtain ⟨count, rfl⟩ : ∃ fewer, count = fewer + 1 := ⟨count - 1, by omega⟩
  rw [accesses, bind_apply, kind_apply, Option.bind_some]
  cases kind : cursor.kind with
  | punctuator which =>
      rw [kind] at ends
      cases which <;> first | rfl | cases ends
  | _ => rfl

end Grammar
end Script
end MessageExpansion
