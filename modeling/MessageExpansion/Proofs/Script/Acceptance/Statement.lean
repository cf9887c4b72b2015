import MessageExpansion.Proofs.Script.Acceptance.Expression

/-!
# The grammar accepts statements

Statements that answer, test and choose are accepted, and so are functions whose bodies are made of
them.  Each of these statements begins with a keyword, which decides what the rule for statements
goes on with.
-/

namespace MessageExpansion
namespace Script

open Recogniser

namespace Grammar

variable {dialect : Dialect} {limit : Nat} {inner value more lexemes : List Lexeme}
  {opening : Lexeme} {first last : Place}

/-! ### Statements that begin with a keyword -/

variable (dialect limit) in
/-- The tokens are a statement that begins with a word, but not with one that goes on with an
earlier statement. -/
structure AcceptsStatement (lexemes : List Lexeme) : Prop where
  begins : ∃ opening more word, lexemes = opening :: more ∧ opening.kind = .name word false ∧
    word ≠ "else"
  accepts : ∀ level first last, lexemes.length < level → lexemes.length < limit →
    Scans lexemes first last → (Cursor.after last).kind ≠ .name "else" false →
      ∃ calls, (atLevel dialect limit level).body (.after first) = some (calls, .after last)

namespace AcceptsStatement

theorem kind
    (accepts : AcceptsStatement dialect limit lexemes)
    (scans : Scans lexemes first last) :
    ∃ word, (Cursor.after first).kind = .name word false ∧ word ≠ "else" := by
  obtain ⟨opening, more, word, rfl, kind, other⟩ := accepts.begins
  obtain ⟨_, scanned, -⟩ := Scans.cons_iff.mp scans
  exact ⟨word, scanned.kind.trans kind, other⟩

theorem length_pos
    (accepts : AcceptsStatement dialect limit lexemes) :
    0 < lexemes.length := by
  obtain ⟨opening, more, word, rfl, -⟩ := accepts.begins
  exact Nat.zero_lt_succ _

end AcceptsStatement

/-- A statement inside another one is an ordinary statement. -/
theorem body_of_ordinaryStatement
    {cursor : Cursor}
    {calls : List CallTree}
    (level : Nat)
    (run : (atLevel dialect limit level).ordinaryStatement cursor = some (calls, .after last)) :
    ∃ calls, (atLevel dialect limit (level + 1)).body cursor = some (calls, .after last) := by
  simp [body, Grammar.calls, Grammar.rule, Grammar.statement, run, pieceFrom]

/-- A keyword decides which rule its statement follows. -/
theorem AcceptsStatement.of_keyword
    {word : String}
    {rest : Grammar → Recogniser (List CallTree)}
    (kind : opening.kind = .name word false)
    (keyword : ∀ grammar, keywordRest? grammar word = some (rest grammar))
    (other : word ≠ "else")
    (accepts : ∀ level first last, inner.length < level → inner.length < limit →
      Scans inner first last → (Cursor.after last).kind ≠ .name "else" false →
        ∃ calls, rest (atLevel dialect limit level) (.after first) = some (calls, .after last)) :
    AcceptsStatement dialect limit (opening :: inner) := by
  refine ⟨⟨opening, inner, word, rfl, kind, other⟩, ?_⟩
  intro level first last enough bounded scans follow
  rw [List.length_cons] at enough bounded
  obtain ⟨level, rfl⟩ : ∃ fewer, level = fewer + 1 := ⟨level - 1, by omega⟩
  obtain ⟨_, scanned, scansInner⟩ := Scans.cons_iff.mp scans
  obtain ⟨calls, run⟩ := accepts level _ _ (by omega) (by omega) scansInner follow
  have ordinary : (atLevel dialect limit level).ordinaryStatement (.after first) =
      some (calls, .after last) := by
    simp [ordinaryStatement, statementKeyword?, scanned.kind, scanned.stop, kind, keyword, run]
  exact body_of_ordinaryStatement level ordinary

theorem AcceptsAssignment.answer
    (accepts : AcceptsAssignment dialect limit value)
    (begins : BeginsExpression value)
    (kind : opening.kind = .name "return" false) :
    AcceptsStatement dialect limit (opening :: (value ++ [.semicolon])) := by
  refine .of_keyword kind (fun _ => rfl) (by decide) fun level first last enough bounded scans _ => ?_
  rw [List.length_append, List.length_singleton] at enough bounded
  obtain ⟨middle, scansValue, scansRest⟩ := Scans.append_iff.mp scans
  obtain ⟨_, semicolon, rest⟩ := Scans.cons_iff.mp scansRest
  rw [Scans.nil_iff] at rest
  subst rest
  obtain ⟨calls, run⟩ := accepts.sequence level (by omega) (by omega) scansValue
    (by rw [semicolon.kind]; rfl) (by rw [semicolon.kind]; simp)
  have kind := begins.kind scansValue
  have noEnd : (Cursor.after first).kind ≠ .punctuator .semicolon ∧
      (Cursor.after first).kind ≠ .punctuator .closeBrace ∧
      (Cursor.after first).kind ≠ .endOfText :=
    ⟨kind.ne_punctuator (by decide), kind.ne_punctuator (by decide), kind.ne_endOfText⟩
  simp [returnRest, atStatementEnd, noEnd, begins.newline scansValue, run, Recogniser.semicolon,
    semicolon.kind, semicolon.stop]

theorem AcceptsAssignment.condition
    (accepts : AcceptsAssignment dialect limit inner)
    (level : Nat)
    (enough : inner.length < level)
    (bounded : inner.length < limit)
    (scans : Scans (.openParen :: (inner ++ [.closeParen])) first last) :
    ∃ calls, (atLevel dialect limit level).condition (.after first) = some (calls, .after last) := by
  simp only [Scans.append_iff, Scans.cons_iff, Scans.nil_iff] at scans
  obtain ⟨_, opening, _, scansInner, _, closing, rfl⟩ := scans
  obtain ⟨calls, run⟩ := accepts.sequence level enough bounded scansInner
    (by rw [closing.kind]; rfl) (by rw [closing.kind]; simp)
  exact ⟨calls, by simp [Grammar.condition, opening.kind, opening.stop, run, closing.kind, closing.stop]⟩

theorem AcceptsAssignment.test
    (condition : AcceptsAssignment dialect limit inner)
    (body : AcceptsStatement dialect limit lexemes) :
    AcceptsStatement dialect limit
      (.word "if" :: ((.openParen :: (inner ++ [.closeParen])) ++ lexemes)) := by
  refine .of_keyword rfl (fun _ => rfl) (by decide) fun level first last enough bounded scans follow => ?_
  simp only [List.length_append, List.length_cons, List.length_nil] at enough bounded
  obtain ⟨middle, scansCondition, scansBody⟩ := Scans.append_iff.mp scans
  obtain ⟨test, runTest⟩ := condition.condition level (by omega) (by omega) scansCondition
  obtain ⟨positive, runPositive⟩ := body.accepts level _ _ (by omega) (by omega) scansBody follow
  simp [ifRest, runTest, runPositive, follow]

/-! ### Bodies -/

variable (dialect limit) in
/-- The tokens are statements, up to a closing brace. -/
def AcceptsBody (lexemes : List Lexeme) : Prop :=
  ∀ level first last count, lexemes.length < level → lexemes.length < limit →
    lexemes.length < count → Scans lexemes first last →
      (Cursor.after last).kind = .punctuator .closeBrace →
        (Cursor.after first).kind ≠ .name "else" false ∧
        ∃ calls, repeatUntil (eat .closeBrace) (atLevel dialect limit level).body count
          (.after first) = some (calls, .after (Cursor.after last).stop)

theorem acceptsBody_nil :
    AcceptsBody dialect limit [] := by
  intro level first last count _ _ steps scans closes
  rw [Scans.nil_iff] at scans
  subst scans
  obtain ⟨count, rfl⟩ : ∃ fewer, count = fewer + 1 := ⟨count - 1, by simp at steps; omega⟩
  simp [repeatUntil_succ, closes]

theorem AcceptsStatement.cons
    (statement : AcceptsStatement dialect limit lexemes)
    (onward : AcceptsBody dialect limit more) :
    AcceptsBody dialect limit (lexemes ++ more) := by
  intro level first last count enough bounded steps scans closes
  have nonempty := statement.length_pos
  rw [List.length_append] at enough bounded steps
  obtain ⟨count, rfl⟩ : ∃ fewer, count = fewer + 1 := ⟨count - 1, by omega⟩
  obtain ⟨middle, scansFirst, scansRest⟩ := Scans.append_iff.mp scans
  obtain ⟨follow, rest, runRest⟩ :=
    onward level _ _ count (by omega) (by omega) (by omega) scansRest closes
  obtain ⟨word, kind, other⟩ := statement.kind scansFirst
  obtain ⟨calls, run⟩ := statement.accepts level _ _ (by omega) (by omega) scansFirst follow
  exact ⟨by simp [kind, other], by simp [repeatUntil_succ, kind, run, runRest]⟩

theorem statements_eq
    (grammar : Grammar) :
    grammar.statements = repeatUntil (eat .closeBrace) grammar.body grammar.limit :=
  rfl

theorem AcceptsBody.block
    {closing : Lexeme}
    (accepts : AcceptsBody dialect limit inner)
    (closes : closing.kind = .punctuator .closeBrace)
    (level : Nat)
    (enough : inner.length < level)
    (bounded : inner.length < limit)
    (scans : Scans (.openBrace :: (inner ++ [closing])) first last) :
    ∃ calls, (atLevel dialect limit level).block (.after first) = some (calls, .after last) := by
  simp only [Scans.append_iff, Scans.cons_iff, Scans.nil_iff] at scans
  obtain ⟨_, opening, _, scansInner, _, closed, rfl⟩ := scans
  obtain ⟨-, calls, run⟩ := accepts level _ _ limit enough bounded bounded scansInner
    (closed.kind.trans closes)
  rw [closed.stop] at run
  refine ⟨calls, ?_⟩
  rw [Grammar.block, bind_apply]
  simpa [opening.kind, opening.stop, statements_eq] using run

/-! ### Choices -/

variable (dialect limit) in
/-- The tokens are cases of a `switch` statement, up to a closing brace. -/
def AcceptsCases (lexemes : List Lexeme) : Prop :=
  ∀ level first last count, lexemes.length < level → lexemes.length < limit →
    lexemes.length < count → Scans lexemes first last →
      (Cursor.after last).kind = .punctuator .closeBrace →
        (Cursor.after first).kind ∈
          [.name "case" false, .name "default" false, .punctuator .closeBrace] ∧
        ∃ calls, repeatUntil (eat .closeBrace) (atLevel dialect limit level).switchCase count
          (.after first) = some (calls, .after (Cursor.after last).stop)

/-- The cursor stands behind the body of a case. -/
def atCaseEnd : Recogniser Bool := do
  return (← atAnyWord ["case", "default"]) || (← atPunctuator .closeBrace)

theorem switchCase_eq
    (grammar : Grammar) :
    grammar.switchCase = (do
      let test ←
        if ← eatWord "default" then
          pure []
        else
          expectWord "case"
          grammar.sequence
      expect .colon
      let body ← repeatUntil atCaseEnd grammar.body grammar.limit
      return test ++ body) :=
  rfl

/-- A case holds one statement, and ends where another case or the closing brace stands. -/
theorem AcceptsStatement.caseBody
    (statement : AcceptsStatement dialect limit (opening :: inner))
    (answers : opening.kind = .name "return" false)
    (level : Nat)
    (enough : (opening :: inner).length < level)
    (bounded : (opening :: inner).length < limit)
    (scans : Scans (opening :: inner) first last)
    (follow : (Cursor.after last).kind ∈
      [.name "case" false, .name "default" false, .punctuator .closeBrace]) :
    ∃ calls, repeatUntil atCaseEnd (atLevel dialect limit level).body limit (.after first) =
      some (calls, .after last) := by
  obtain ⟨_, scanned, -⟩ := Scans.cons_iff.mp scans
  have noElse : (Cursor.after last).kind ≠ .name "else" false := by
    intro kind
    rw [kind] at follow
    exact absurd follow (by decide)
  obtain ⟨calls, run⟩ := statement.accepts level _ _ enough bounded scans noElse
  have goesOn : atCaseEnd (.after first) = some (false, .after first) := by
    simp [atCaseEnd, atAnyWord, scanned.kind, answers]
  have ends : atCaseEnd (.after last) = some (true, .after last) := by
    simp only [List.mem_cons, List.not_mem_nil, or_false] at follow
    rcases follow with kind | kind | kind <;> simp [atCaseEnd, atAnyWord, kind]
  rw [List.length_cons] at bounded
  obtain ⟨fewer, rfl⟩ : ∃ fewer, limit = fewer + 2 := ⟨limit - 2, by omega⟩
  exact ⟨calls, by simp [repeatUntil_succ, goesOn, run, ends]⟩

/-- The case for all other values is the last one. -/
theorem AcceptsStatement.defaultCase
    (statement : AcceptsStatement dialect limit (opening :: inner))
    (answers : opening.kind = .name "return" false) :
    AcceptsCases dialect limit (.word "default" :: .colon :: opening :: inner) := by
  intro level first last count enough bounded steps scans closes
  rw [List.length_cons, List.length_cons] at enough bounded steps
  obtain ⟨_, default, scansRest⟩ := Scans.cons_iff.mp scans
  obtain ⟨_, colon, scansBody⟩ := Scans.cons_iff.mp scansRest
  obtain ⟨calls, run⟩ := statement.caseBody answers level (by omega) (by omega) scansBody
    (by simp [closes])
  obtain ⟨count, rfl⟩ : ∃ fewer, count = fewer + 2 := ⟨count - 2, by omega⟩
  have runCase : (atLevel dialect limit level).switchCase (.after first) =
      some (calls, .after last) := by
    rw [switchCase_eq]
    simp [default.kind, default.stop, colon.kind, colon.stop, run]
  exact ⟨by simp [default.kind], by simp [repeatUntil_succ, default.kind, runCase, closes]⟩

theorem AcceptsCases.cons
    (label : AcceptsAssignment dialect limit value)
    (statement : AcceptsStatement dialect limit (opening :: inner))
    (answers : opening.kind = .name "return" false)
    (onward : AcceptsCases dialect limit more) :
    AcceptsCases dialect limit
      (.word "case" :: (value ++ .colon :: ((opening :: inner) ++ more))) := by
  intro level first last count enough bounded steps scans closes
  simp only [List.length_append, List.length_cons] at enough bounded steps
  obtain ⟨_, word, scansRest⟩ := Scans.cons_iff.mp scans
  obtain ⟨_, scansLabel, scansRest⟩ := Scans.append_iff.mp scansRest
  obtain ⟨_, colon, scansRest⟩ := Scans.cons_iff.mp scansRest
  obtain ⟨next, scansBody, scansMore⟩ := Scans.append_iff.mp scansRest
  obtain ⟨count, rfl⟩ : ∃ fewer, count = fewer + 1 := ⟨count - 1, by omega⟩
  obtain ⟨follow, rest, runRest⟩ :=
    onward level _ _ count (by omega) (by omega) (by omega) scansMore closes
  obtain ⟨test, runTest⟩ := label.sequence level (by omega) (by omega) scansLabel
    (by rw [colon.kind]; rfl) (by rw [colon.kind]; simp)
  obtain ⟨calls, run⟩ := statement.caseBody answers level (by rw [List.length_cons]; omega)
    (by rw [List.length_cons]; omega) scansBody follow
  have runCase : (atLevel dialect limit level).switchCase (.after first) =
      some (test ++ calls, .after next) := by
    rw [switchCase_eq]
    simp [word.kind, word.stop, runTest, colon.kind, colon.stop, run]
  exact ⟨by simp [word.kind], by simp [repeatUntil_succ, word.kind, runCase, runRest]⟩

theorem AcceptsCases.choice
    (subject : AcceptsAssignment dialect limit inner)
    (cases : AcceptsCases dialect limit more) :
    AcceptsStatement dialect limit
      (.word "switch" :: ((.openParen :: (inner ++ [.closeParen])) ++
        .openBrace :: (more ++ [.closeBrace]))) := by
  refine .of_keyword rfl (fun _ => rfl) (by decide) fun level first last enough bounded scans _ => ?_
  simp only [List.length_append, List.length_cons, List.length_nil] at enough bounded
  obtain ⟨_, scansSubject, scansRest⟩ := Scans.append_iff.mp scans
  obtain ⟨_, brace, scansRest⟩ := Scans.cons_iff.mp scansRest
  obtain ⟨_, scansCases, scansLast⟩ := Scans.append_iff.mp scansRest
  obtain ⟨_, closing, rest⟩ := Scans.cons_iff.mp scansLast
  rw [Scans.nil_iff] at rest
  subst rest
  obtain ⟨test, runTest⟩ := subject.condition level (by omega) (by omega) scansSubject
  obtain ⟨-, calls, run⟩ :=
    cases level _ _ limit (by omega) (by omega) (by omega) scansCases closing.kind
  rw [closing.stop] at run
  simp [switchRest, runTest, brace.kind, brace.stop, run]

/-! ### Functions -/

/-- A variable before the closing parenthesis is the only parameter. -/
theorem parameters_single
    {name : String}
    (isVariable : IsVariable name)
    (level : Nat)
    (enough : 0 < level)
    (bounded : 1 < limit)
    (scans : Scans [.openParen, .word name, .closeParen] first last) :
    ∃ calls, (atLevel dialect limit level).parameters (.after first) =
      some (calls, .after last) := by
  simp only [Scans.cons_iff, Scans.nil_iff] at scans
  obtain ⟨start, opening, middle, named, _, closing, rfl⟩ := scans
  obtain ⟨level, rfl⟩ : ∃ fewer, level = fewer + 1 := ⟨level - 1, by omega⟩
  obtain ⟨limit, rfl⟩ : ∃ fewer, limit = fewer + 2 := ⟨limit - 2, by omega⟩
  have plain := isVariable.1
  have noThis : name ≠ "this" := by
    rintro rfl
    exact plain (by decide)
  -- A word before a parenthesis modifies no parameter.
  have noModifiers := @modifiers_eq_none (atLevel dialect (limit + 2) (level + 1)) parameterModifiers
    atBinding (.after start) (Nat.zero_lt_succ _) (atModifier_eq_false (.inr ⟨.after middle, by
      rw [named.stop]
      simp [atBinding, atIdentifier, closing.kind]⟩))
  obtain ⟨piece, run⟩ : ∃ piece, (atLevel dialect (limit + 2) (level + 1)).piece .binding
      (.after start) = some (piece, .after middle) := by
    simp [Grammar.rule, Grammar.binding, identifier, anyName, atIdentifier, named.kind, named.stop,
      plain, pieceFrom]
  have noType := @annotation?_eq_nil (atLevel dialect (limit + 2) (level + 1)) (.after middle)
    (by simp [closing.kind])
  obtain ⟨calls, runParameter⟩ : ∃ calls,
      (atLevel dialect (limit + 2) (level + 1)).parameter (.after start) =
        some (calls, .after middle) := by
    cases typed : dialect.typed <;>
      simp [-piece_succ, Grammar.parameter, typed, noModifiers, noThis, named.kind, Grammar.calls,
        run, noType, closing.kind, default?]
  have runList : (atLevel dialect (limit + 2) (level + 1)).list .closeParen
      (atLevel dialect (limit + 2) (level + 1)).parameter (.after start) =
        some (calls, .after (Cursor.after middle).stop) :=
    listUntil_last limit (by simp [named.kind]) runParameter closing.kind (by decide)
  exact ⟨calls, by simp [Grammar.parameters, opening.kind, opening.stop, runList, closing.stop]⟩

theorem signature_single
    {name : String}
    (isVariable : IsVariable name)
    (level : Nat)
    (enough : 0 < level)
    (bounded : 1 < limit)
    (scans : Scans [.openParen, .word name, .closeParen] first last)
    (follow : (Cursor.after last).kind = .punctuator .openBrace) :
    ∃ signature, (atLevel dialect limit level).signature (.after first) =
      some (signature, .after last) := by
  obtain ⟨_, opening, -⟩ := Scans.cons_iff.mp scans
  have noTypes := @typeParameters?_eq_nil (atLevel dialect limit level) (.after first)
    (by simp [opening.kind])
  have noResult := @annotation?_eq_nil (atLevel dialect limit level) (.after last) (by simp [follow])
  obtain ⟨calls, run⟩ : ∃ calls, (atLevel dialect limit level).parameters (.after first) =
      some (calls, .after last) :=
    parameters_single isVariable level enough bounded scans
  simp [Grammar.signature, noTypes, run, noResult]

/-- A function expression without a name. -/
theorem AcceptsBody.function
    {name : String}
    {allowCall : Bool}
    (isVariable : IsVariable name)
    (accepts : AcceptsBody dialect limit inner) :
    AcceptsAccesses dialect limit allowCall
      (.word "function" :: ([.openParen, .word name, .closeParen] ++
        .openBrace :: (inner ++ [.closeBrace]))) := by
  refine .of_operand fun level first last enough bounded scans => ?_
  simp only [List.length_append, List.length_cons, List.length_nil] at enough bounded
  obtain ⟨start, function, scansRest⟩ := Scans.cons_iff.mp scans
  obtain ⟨middle, scansParameters, scansBody⟩ := Scans.append_iff.mp scansRest
  obtain ⟨_, opening, -⟩ := Scans.cons_iff.mp scansParameters
  obtain ⟨_, brace, -⟩ := Scans.cons_iff.mp scansBody
  obtain ⟨signature, runSignature⟩ : ∃ signature,
      (atLevel dialect limit level).signature (.after start) = some (signature, .after middle) :=
    signature_single isVariable level (by omega) (by omega) scansParameters brace.kind
  obtain ⟨body, runBody⟩ := accepts.block rfl level (by omega) (by omega) scansBody
  simp [operand, namedOperand, function.kind, function.stop, functionExpression, ownName?,
    atIdentifier, opening.kind, functionRest, runSignature, runBody, pieceFrom]

theorem AcceptsAssignment.parenthesized
    {allowCall : Bool}
    (accepts : AcceptsAssignment dialect limit inner) :
    AcceptsAccesses dialect limit allowCall (.openParen :: (inner ++ [.closeParen])) := by
  refine .of_operand fun level first last enough bounded scans => ?_
  simp only [List.length_append, List.length_cons, List.length_nil] at enough bounded
  simp only [Scans.append_iff, Scans.cons_iff, Scans.nil_iff] at scans
  obtain ⟨_, opening, _, scansInner, _, closing, rfl⟩ := scans
  obtain ⟨piece, run⟩ := accepts.sequencePiece level (by omega) (by omega) scansInner
    (by rw [closing.kind]; rfl) (by rw [closing.kind]; simp)
  simp [operand, Grammar.parenthesized, opening.kind, opening.stop, run, closing.kind, closing.stop]

end Grammar
end Script
end MessageExpansion
