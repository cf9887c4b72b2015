import MessageExpansion.Proofs.Script.Acceptance.Operand

/-!
# The grammar accepts expressions

Operands with operators are accepted as expressions.  An expression could begin like an arrow
function, which the grammar tries first; that fails at the latest where the arrow would have to be.
-/

namespace MessageExpansion
namespace Script

open Recogniser

namespace Grammar

variable {dialect : Dialect} {limit : Nat} {left right inner lexemes : List Lexeme}

/-! ### Prefix operators -/

/-- An operand begins with no prefix operator. -/
theorem atPrefixOperator_eq_false
    {cursor : Cursor}
    (begins : cursor.kind.BeginsOperand) :
    atPrefixOperator cursor = some (false, cursor) := by
  rw [atPrefixOperator, bind_apply, kind_apply, Option.bind_some]
  generalize cursor.kind = kind at begins
  cases begins with
  | @name text isVariable =>
      have others : text ∉ ["delete", "void", "typeof", "await"] := by
        intro among
        have means : ∀ word ∈ ["delete", "void", "typeof", "await"], ¬ IsVariable word := by decide
        exact means text among isVariable
      simp only [pure_apply, Option.some.injEq, Prod.mk.injEq, and_true]
      simpa using others
  | _ => rfl

theorem AcceptsAccesses.unary
    {opening : Lexeme}
    (base : AcceptsAccesses dialect limit true (opening :: lexemes))
    (begins : opening.kind.BeginsOperand) :
    AcceptsUnary dialect limit (opening :: lexemes) := by
  intro level first last enough bounded scans ends
  obtain ⟨piece, count, remaining, run⟩ := base level first last enough bounded scans
  obtain ⟨_, scanned, -⟩ := Scans.cons_iff.mp scans
  rw [← scanned.kind] at begins
  have leftHand : (atLevel dialect limit level).leftHand (.after first) =
      some (piece, .after last) :=
    run.trans (accesses_stop ends (by omega))
  have noAngle : (Cursor.after first).kind ≠ .punctuator .less := by
    intro angle
    rw [angle] at begins
    cases begins
  have noIncrement : (Cursor.after last).kind ≠ .punctuator .increment := by
    intro increment
    rw [increment] at ends
    cases ends
  exact ⟨piece, by
    simp [Grammar.unary, atPrefixOperator_eq_false begins, noAngle, leftHand, noIncrement]⟩

/-- An operand is a goal of the next level. -/
theorem AcceptsUnary.piece
    {first last : Place}
    (accepts : AcceptsUnary dialect limit lexemes)
    (level : Nat)
    (enough : lexemes.length < level)
    (bounded : lexemes.length < limit)
    (scans : Scans lexemes first last)
    (ends : (Cursor.after last).kind.endsOperand = true) :
    ∃ piece, (atLevel dialect limit level).piece .unary (.after first) =
      some (piece, .after last) := by
  obtain ⟨level, rfl⟩ : ∃ fewer, level = fewer + 1 := ⟨level - 1, by omega⟩
  exact accepts level first last (by omega) bounded scans ends

theorem AcceptsUnary.toNumber
    (operand : AcceptsUnary dialect limit lexemes) :
    AcceptsUnary dialect limit (.plus :: lexemes) := by
  intro level first last enough bounded scans ends
  rw [List.length_cons] at enough bounded
  obtain ⟨level, rfl⟩ : ∃ fewer, level = fewer + 1 := ⟨level - 1, by omega⟩
  obtain ⟨_, plus, scansOperand⟩ := Scans.cons_iff.mp scans
  obtain ⟨piece, run⟩ := operand.piece (level + 1) (by omega) (by omega) scansOperand ends
  rw [Grammar.unary]
  simp [-piece_succ, atPrefixOperator, plus.kind, plus.stop, Grammar.calls, run, pieceFrom]

/-! ### Operators between operands -/

theorem atTypeOperator_eq_false
    {grammar : Grammar}
    {cursor : Cursor}
    (noWord : ∀ word, cursor.kind ≠ .name word false) :
    grammar.atTypeOperator cursor = some (false, cursor) := by
  simp only [atTypeOperator, bind_apply, afterNewline_apply, Option.bind_some]
  split <;> simp [noWord]

theorem AcceptsUnary.operands
    (first : AcceptsUnary dialect limit lexemes) :
    AcceptsOperands dialect limit lexemes := by
  intro level start stop enough bounded scans ends
  obtain ⟨piece, run⟩ := first level _ _ enough bounded scans ends
  exact ⟨piece, stop, [], limit, Nat.le_add_right _ _, run, by simp⟩

/-- The punctuators that join operands in renderers. -/
def joins (which : Punctuator) : Bool := [.plus, .minus, .operator].contains which

theorem endsOperand_of_joins
    {which : Punctuator}
    (isOperator : joins which = true) :
    (TokenKind.punctuator which).endsOperand = true := by
  cases which <;> first | rfl | cases isOperator

theorem atBinaryOperator_of_joins
    {cursor : Cursor}
    {which : Punctuator}
    (kind : cursor.kind = .punctuator which)
    (isOperator : joins which = true) :
    atBinaryOperator true cursor = some (true, cursor) := by
  rw [atBinaryOperator, bind_apply, kind_apply, Option.bind_some, kind]
  cases which <;> first | rfl | cases isOperator

theorem AcceptsOperands.join
    {which : Punctuator}
    {spelling : List Char}
    (front : AcceptsOperands dialect limit left)
    (isOperator : joins which = true)
    (back : AcceptsUnary dialect limit right) :
    AcceptsOperands dialect limit (left ++ .mark which spelling :: right) := by
  intro level first last enough bounded scans ends
  simp only [List.length_append, List.length_cons] at enough bounded ⊢
  obtain ⟨_, scansLeft, scansRest⟩ := Scans.append_iff.mp scans
  obtain ⟨_, operator, scansRight⟩ := Scans.cons_iff.mp scansRest
  obtain ⟨piece, middle, items, count, remaining, run, runItems⟩ :=
    front level _ _ (by omega) (by omega) scansLeft (by
      rw [operator.kind]
      exact endsOperand_of_joins isOperator)
  obtain ⟨count, rfl⟩ : ∃ fewer, count = fewer + 1 := ⟨count - 1, by omega⟩
  obtain ⟨operand, runOperand⟩ := back.piece level (by omega) (by omega) scansRight ends
  have isBinary := atBinaryOperator_of_joins operator.kind isOperator
  have noType := @atTypeOperator_eq_false (atLevel dialect limit level) _ fun word => by
    rw [operator.kind]
    exact TokenKind.noConfusion
  refine ⟨piece, middle, items ++ [(true, operand.calls)], count, by omega, run, runItems.trans ?_⟩
  simp [operatorItems, repeatUntil_succ, operatorItem, isBinary, noType, operator.stop,
    Grammar.calls, runOperand, Function.comp_def]

/-! ### Whole expressions -/

theorem typeParameters?_eq_nil
    {grammar : Grammar}
    {cursor : Cursor}
    (noAngle : cursor.kind ≠ .punctuator .less) :
    grammar.typeParameters? cursor = some ([], cursor) := by
  simp only [typeParameters?]
  split <;> simp [noAngle]

theorem annotation?_eq_nil
    {grammar : Grammar}
    {cursor : Cursor}
    (noColon : cursor.kind ≠ .punctuator .colon) :
    grammar.annotation? cursor = some ([], cursor) := by
  simp only [annotation?]
  split <;> simp [noColon]

/-- The word `function` is no parameter. -/
theorem parameter_eq_none
    {cursor : Cursor}
    (level : Nat)
    (positive : 0 < limit)
    (kind : cursor.kind = .name "function" false) :
    (atLevel dialect limit level).parameter cursor = none := by
  have noModifiers := @modifiers_eq_none (atLevel dialect limit level) parameterModifiers atBinding
    cursor positive (atModifier_eq_false (.inl (by
      rw [kind]
      simp [parameterModifiers])))
  have noBinding : (atLevel dialect limit level).piece .binding cursor = none := by
    cases level with
    | zero => rfl
    | succ level =>
        simp [Grammar.rule, Grammar.binding, identifier, atIdentifier, kind, reservedWords]
  cases typed : dialect.typed <;>
    simp [parameter, typed, noModifiers, noBinding, kind, Grammar.calls]

/-- A variable is no arrow function unless an arrow follows. -/
theorem arrowHead_eq_none_of_name
    {grammar : Grammar}
    {cursor : Cursor}
    {text : String}
    (kind : cursor.kind = .name text false)
    (noArrow : (Cursor.after cursor.stop).kind ≠ .punctuator .arrow)
    (isIdentifier : reservedWords.contains text = false) :
    grammar.arrowHead true cursor = none := by
  simp only [List.contains_eq_mem, decide_eq_false_iff_not] at isIdentifier
  simp [arrowHead, singleArrowHead, identifier, anyName, atIdentifier, kind, isIdentifier, noArrow]

/-- A function in parentheses is no arrow function. -/
theorem arrowHead_eq_none_of_paren
    {cursor : Cursor}
    (level : Nat)
    (positive : 0 < limit)
    (kind : cursor.kind = .punctuator .openParen)
    (function : (Cursor.after cursor.stop).kind = .name "function" false) :
    (atLevel dialect limit level).arrowHead true cursor = none := by
  have noParameter : (atLevel dialect limit level).parameter (.after cursor.stop) = none :=
    parameter_eq_none level positive function
  have noParameters : (atLevel dialect limit level).parameters cursor = none := by
    simp [parameters, Grammar.list, kind, listUntil_eq_none _ _ noParameter, function]
  have noTypes := @typeParameters?_eq_nil (atLevel dialect limit level) cursor (by simp [kind])
  simp [arrowHead, fullArrowHead, atIdentifier, kind, noTypes, noParameters]

/-- What begins like an expression is no arrow function. -/
theorem arrowHead?_eq_none
    {first last : Place}
    (begins : BeginsExpression lexemes)
    (level : Nat)
    (positive : 0 < limit)
    (scans : Scans lexemes first last)
    (ends : (Cursor.after last).kind.endsExpression = true) :
    (atLevel dialect limit level).arrowHead? true (.after first) = some (none, .after first) := by
  have kind := begins.kind scans
  have noAsync : (Cursor.after first).kind ≠ .name "async" false :=
    kind.ne_word (by decide) (by decide)
  obtain ⟨opening, more, rfl, begin, inParen⟩ := begins.begins
  obtain ⟨next, scanned, scansMore⟩ := Scans.cons_iff.mp scans
  have noArrow : (Cursor.after (Cursor.after first).stop).kind ≠ .punctuator .arrow := by
    rw [scanned.stop]
    intro arrow
    cases more with
    | nil =>
        rw [Scans.nil_iff] at scansMore
        subst scansMore
        rw [arrow] at ends
        cases ends
    | cons second more =>
        obtain ⟨_, scannedSecond, -⟩ := Scans.cons_iff.mp scansMore
        refine (begins.plain second (by simp)).2 ?_
        rw [← scannedSecond.kind, arrow]
  have opened := scanned.kind
  rcases begin with operand | plus
  · generalize opening.kind = kind at *
    cases operand with
    | @name text isVariable =>
        have isIdentifier : reservedWords.contains text = false := by
          simpa using isVariable.1
        have otherName : text ≠ "async" := by
          rintro rfl
          exact noAsync opened
        simp [arrowHead?, otherName, atIdentifier, atSignature, opened,
          arrowHead_eq_none_of_name opened noArrow isIdentifier]
    | paren =>
        obtain ⟨rest, rfl⟩ := inParen rfl
        obtain ⟨_, function, -⟩ := Scans.cons_iff.mp scansMore
        have noHead : (atLevel dialect limit level).arrowHead true (.after first) = none :=
          arrowHead_eq_none_of_paren level positive opened (by
            rw [scanned.stop]
            exact function.kind)
        simp [arrowHead?, atIdentifier, atSignature, opened, noHead]
    | _ => simp [arrowHead?, atIdentifier, atSignature, opened, reservedWords]
  · simp [arrowHead?, atIdentifier, atSignature, opened, plus]

theorem operands_eq
    (level : Nat) :
    (atLevel dialect limit level).operands true = (do
      let first ← (atLevel dialect limit level).unary
      let rest ← operatorItems dialect limit level limit
      if rest.isEmpty then
        return (first, true)
      else
        let piece ← extend first false (rest.flatMap (·.2))
        return (piece, rest.all fun item => !item.1)) :=
  rfl

/-- Between operands and what follows them stands no operator. -/
theorem operatorItems_eq_nil
    {cursor : Cursor}
    {count : Nat}
    (level : Nat)
    (positive : 0 < count)
    (ends : cursor.kind.endsOperand = true)
    (noOperator : ∀ which, joins which = true → cursor.kind ≠ .punctuator which) :
    operatorItems dialect limit level count cursor = some ([], cursor) := by
  obtain ⟨count, rfl⟩ : ∃ fewer, count = fewer + 1 := ⟨count - 1, by omega⟩
  have noWord : ∀ word, cursor.kind ≠ .name word false := by
    intro word kind
    rw [kind] at ends
    cases ends
  have noBinary : atBinaryOperator true cursor = some (false, cursor) := by
    rw [atBinaryOperator, bind_apply, kind_apply, Option.bind_some]
    cases kind : cursor.kind with
    | punctuator which =>
        rw [kind] at ends
        have other := noOperator which
        cases which <;> first | rfl | exact absurd kind (other rfl) | cases ends
    | name text escaped =>
        rw [kind] at ends
        cases ends
    | _ => rfl
  simp [operatorItems, repeatUntil_succ, noBinary, atTypeOperator_eq_false noWord]

/-- What ends an expression ends its last operand, and is no operator. -/
theorem endsOperand_of_endsExpression
    {kind : TokenKind}
    (ends : kind.endsExpression = true) :
    kind.endsOperand = true ∧ (∀ which, joins which = true → kind ≠ .punctuator which) ∧
      kind ∉ [.punctuator .question, .punctuator .assign, .punctuator .compoundAssign,
        .punctuator .slashAssign] := by
  cases kind with
  | punctuator which =>
      have noOperator : joins which = false := by
        cases which <;> first | rfl | cases ends
      refine ⟨?_, ?_, ?_⟩
      · cases which <;> first | rfl | cases ends
      · rintro _ isOperator ⟨⟩
        rw [noOperator] at isOperator
        cases isOperator
      · cases which <;> first | decide | cases ends
  | _ => cases ends

theorem AcceptsOperands.assignment
    (accepts : AcceptsOperands dialect limit lexemes)
    (begins : BeginsExpression lexemes) :
    AcceptsAssignment dialect limit lexemes := by
  intro level first last enough bounded scans ends
  obtain ⟨endsOperand, noOperator, noMore⟩ := endsOperand_of_endsExpression ends
  obtain ⟨piece, middle, items, count, remaining, run, runItems⟩ :=
    accepts level _ _ enough bounded scans endsOperand
  have noYield : (Cursor.after first).kind ≠ .name "yield" false :=
    (begins.kind scans).ne_word (by decide) (by decide)
  have noHead : (atLevel dialect limit level).arrowHead? true (.after first) =
      some (none, .after first) :=
    arrowHead?_eq_none begins level (Nat.zero_lt_of_lt bounded) scans ends
  obtain ⟨piece, assignable, runOperands⟩ : ∃ piece assignable,
      (atLevel dialect limit level).operands true (.after first) =
        some ((piece, assignable), .after last) := by
    rw [operatorItems_eq_nil level (by omega) endsOperand noOperator] at runItems
    rw [operands_eq, bind_apply, run, Option.bind_some, bind_apply, runItems]
    cases items with
    | nil => exact ⟨piece, true, rfl⟩
    | cons item items => exact ⟨_, _, rfl⟩
  simp only [List.mem_cons, List.not_mem_nil, or_false, not_or] at noMore
  have noAssignment : eatAny [.assign, .compoundAssign, .slashAssign] (.after last) =
      some (false, .after last) :=
    eatAny_eq_false (by simp [noMore])
  exact ⟨piece, by
    simp [assignmentRule, noYield, noHead, runOperands, noMore, noAssignment]⟩

end Grammar
end Script
end MessageExpansion
