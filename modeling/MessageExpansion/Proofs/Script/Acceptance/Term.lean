import MessageExpansion.Proofs.Script.Acceptance.Statement

/-!
# The grammar accepts terms

Whatever derives a phrase is accepted by the rule of the grammar for such phrases.
-/

namespace MessageExpansion
namespace Script

open Grammar

namespace Phrase

/-- How the lexemes of a phrase begin. -/
def Begins : Phrase → List Lexeme → Prop
  | .path _, lexemes => ∃ name more, lexemes = .word name :: more ∧ IsVariable name
  | .operand _, lexemes =>
      ∃ opening more, lexemes = opening :: more ∧ opening.kind.BeginsOperand ∧
        (opening.kind = .punctuator .openParen → ∃ rest, more = .word "function" :: rest)
  | .unary _, lexemes | .sum _, lexemes =>
      ∃ opening more, lexemes = opening :: more ∧ opening.kind.BeginsExpression ∧
        (opening.kind = .punctuator .openParen → ∃ rest, more = .word "function" :: rest)
  | _, _ => True

/-- The rule of the grammar for a phrase accepts lexemes. -/
def Accepted (dialect : Dialect) (limit : Nat) : Phrase → List Lexeme → Prop
  | .path _, lexemes => AcceptsAccesses dialect limit false lexemes
  | .operand _, lexemes => AcceptsAccesses dialect limit true lexemes
  | .unary _, lexemes => AcceptsUnary dialect limit lexemes
  | .sum _, lexemes => AcceptsOperands dialect limit lexemes
  | .arguments _, lexemes => AcceptsArguments dialect limit lexemes
  | .fields _, lexemes => AcceptsFields dialect limit lexemes
  | .body _, lexemes => AcceptsBody dialect limit lexemes
  | .cases _, lexemes =>
      ∀ more, AcceptsCases dialect limit more → AcceptsCases dialect limit (lexemes ++ more)

end Phrase

namespace Derives

variable {phrase : Phrase} {term : Term} {lexemes : List Lexeme}

/-- A phrase stands on one line and holds no arrow. -/
theorem inLine_of_mem
    (derives : Derives phrase lexemes) :
    ∀ lexeme ∈ lexemes, lexeme.newline = false ∧ lexeme.kind ≠ .punctuator .arrow := by
  induction derives <;>
    simp_all only [List.forall_mem_cons, List.forall_mem_append, List.not_mem_nil, false_implies,
      implies_true, Lexeme.word_kind, Lexeme.word_newline, Lexeme.mark_kind, Lexeme.mark_newline,
      Lexeme.numeral_kind, Lexeme.numeral_newline, ne_eq, reduceCtorEq, not_false_eq_true, and_self,
      TokenKind.punctuator.injEq]

/-- A phrase begins as its first part does. -/
theorem begins
    (derives : Derives phrase lexemes) :
    phrase.Begins lexemes := by
  induction derives with
  | root isVariable => exact ⟨_, _, rfl, isVariable⟩
  | branch _ base =>
      obtain ⟨name, more, rfl, isVariable⟩ := base
      exact ⟨_, _, rfl, isVariable⟩
  | text => exact ⟨_, _, rfl, .string _, nofun⟩
  | numeral => exact ⟨_, _, rfl, .number, nofun⟩
  | named isVariable => exact ⟨_, _, rfl, .name isVariable, nofun⟩
  | member _ base | index _ _ base | call _ _ base =>
      obtain ⟨opening, more, rfl, begin, inParen⟩ := base
      refine ⟨_, _, rfl, begin, fun paren => ?_⟩
      obtain ⟨rest, rfl⟩ := inParen paren
      exact ⟨_, rfl⟩
  | construct => exact ⟨_, _, rfl, .new, nofun⟩
  | record => exact ⟨_, _, rfl, .brace, nofun⟩
  | apply => exact ⟨_, _, rfl, .paren, fun _ => ⟨_, rfl⟩⟩
  | plain _ operand =>
      obtain ⟨opening, more, rfl, begin, inParen⟩ := operand
      exact ⟨_, _, rfl, .inl begin, inParen⟩
  | toNumber => exact ⟨_, _, rfl, .inr rfl, nofun⟩
  | single _ operand => exact operand
  | add _ _ front | subtract _ _ front =>
      obtain ⟨opening, more, rfl, begin, inParen⟩ := front
      refine ⟨_, _, rfl, begin, fun paren => ?_⟩
      obtain ⟨rest, rfl⟩ := inParen paren
      exact ⟨_, rfl⟩
  | _ => trivial

theorem beginsExpression
    (derives : Derives (.sum term) lexemes) :
    BeginsExpression lexemes :=
  ⟨derives.begins, derives.inLine_of_mem⟩

/-- A function whose body is a phrase begins like an expression. -/
theorem beginsExpression_function
    {steps : List Step}
    (parameter : String)
    (body : Derives (.body steps) lexemes) :
    BeginsExpression (.word "function" :: ([.openParen, .word parameter, .closeParen] ++
        .openBrace :: (lexemes ++ [.closeBrace]))) := by
  refine ⟨⟨_, _, rfl, .inl .function, by rintro ⟨⟩⟩, ?_⟩
  simpa [List.forall_mem_append, or_imp, forall_and] using body.inLine_of_mem

variable {dialect : Dialect} {limit : Nat}

theorem acceptsUnary
    (derives : Derives (.operand term) lexemes)
    (accepts : AcceptsAccesses dialect limit true lexemes) :
    AcceptsUnary dialect limit lexemes := by
  obtain ⟨opening, more, rfl, begin, -⟩ := derives.begins
  exact accepts.unary begin

/-- What derives an expression is accepted as an answer. -/
theorem acceptsAnswer
    (derives : Derives (.sum term) lexemes)
    (accepts : AcceptsOperands dialect limit lexemes) :
    AcceptsStatement dialect limit (.word "return" :: (lexemes ++ [.semicolon])) :=
  (accepts.assignment derives.beginsExpression).answer derives.beginsExpression rfl

/-- The grammar accepts what derives a phrase. -/
theorem accepted
    (derives : Derives phrase lexemes) :
    phrase.Accepted dialect limit lexemes := by
  induction derives with
  | root isVariable => exact acceptsAccesses_variable rfl isVariable
  | branch _ base => exact base.member
  | text => exact acceptsAccesses_string rfl
  | numeral value => exact acceptsAccesses_number value
  | named isVariable => exact acceptsAccesses_variable rfl isVariable
  | member _ base => exact base.member
  | index _ inside base key => exact base.index (key.assignment inside.beginsExpression)
  | call _ _ base inside => exact base.call inside
  | construct derives _ base inside =>
      obtain ⟨name, more, rfl, -⟩ := derives.begins
      exact base.construct inside
  | record _ inside => exact AcceptsAccesses.record inside
  | apply isVariable derives argument body value =>
      have function := (body.function isVariable).unary .function
      have whole := function.operands.assignment (derives.beginsExpression_function _)
      have called := whole.parenthesized.call
        (.last (value.assignment argument.beginsExpression) argument.beginsExpression)
      simpa [Phrase.Accepted] using called
  | plain derives operand => exact derives.acceptsUnary operand
  | toNumber _ operand => exact operand.toNumber
  | single _ operand => exact operand.operands
  | add _ _ front back => exact front.join rfl back
  | subtract _ _ front back => exact front.join rfl back
  | lastArgument derives value =>
      exact .last (value.assignment derives.beginsExpression) derives.beginsExpression
  | argument derives _ value onward =>
      exact .cons (value.assignment derives.beginsExpression) derives.beginsExpression onward
  | noFields => exact acceptsFields_nil
  | lastField derives value => exact .last (value.assignment derives.beginsExpression)
  | field derives _ value onward => exact .cons (value.assignment derives.beginsExpression) onward
  | noSteps => exact acceptsBody_nil
  | answer derives _ value onward =>
      have statement := (derives.acceptsAnswer value).cons onward
      simpa [Phrase.Accepted] using statement
  | test front back derives _ first second value onward =>
      have equation : AcceptsOperands dialect limit (_ ++ .identical :: _) :=
        (front.acceptsUnary first).operands.join rfl (back.acceptsUnary second)
      have begins : BeginsExpression (_ ++ .identical :: _) :=
        (Derives.single (.plain front)).beginsExpression.append
          (List.forall_mem_cons.mpr ⟨⟨rfl, by simp⟩, back.inLine_of_mem⟩)
      have statement := ((equation.assignment begins).test (derives.acceptsAnswer value)).cons onward
      simpa [Phrase.Accepted] using statement
  | choose subject _ derives _ chosen labelled value onward =>
      have cases := labelled _ ((derives.acceptsAnswer value).defaultCase rfl)
      have statement := (cases.choice (chosen.assignment subject.beginsExpression)).cons onward
      simpa [Phrase.Accepted] using statement
  | noCases => exact fun more accepts => accepts
  | case label derives _ test value onward =>
      intro more accepts
      have cases := (onward more accepts).cons (test.assignment label.beginsExpression)
        (derives.acceptsAnswer value) rfl
      simpa using cases

end Derives
end Script
end MessageExpansion
