import MessageExpansion.Proofs.Script.Acceptance.Term
import MessageExpansion.Proofs.Script.Counting

/-!
# The grammar accepts function declarations

A script that declares functions, each of which gives its parameter a default and then returns a
value, follows the grammar.
-/

namespace MessageExpansion
namespace Script

open Recogniser

namespace Grammar

variable {dialect : Dialect} {limit : Nat} {value inner lexemes : List Lexeme} {opening : Lexeme}
  {first last : Place} {name : String}

/-! ### Assignments -/

/-- The value of a variable is replaced. -/
theorem AcceptsAssignment.assign
    {spelling : List Char}
    (kind : opening.kind = .name name false)
    (isVariable : IsVariable name)
    (accepts : AcceptsAssignment dialect limit value) :
    AcceptsAssignment dialect limit (opening :: .mark .assign spelling :: value) := by
  intro level first last enough bounded scans ends
  simp only [List.length_cons] at enough bounded
  obtain ⟨middle, scanned, scansRest⟩ := Scans.cons_iff.mp scans
  obtain ⟨_, assign, scansValue⟩ := Scans.cons_iff.mp scansRest
  have scansName : Scans [opening] first middle := .cons scanned (.nil middle)
  have stands : (Cursor.after middle).kind.endsOperand = true := by
    rw [assign.kind]
    rfl
  obtain ⟨target, runTarget⟩ : ∃ piece, (atLevel dialect limit level).unary (.after first) =
      some (piece, .after middle) :=
    ((acceptsAccesses_variable kind isVariable).unary (kind ▸ .name isVariable)) level _ _
      (by simp; omega) (by simp; omega) scansName stands
  have noItems : operatorItems dialect limit level limit (.after middle) =
      some ([], .after middle) :=
    operatorItems_eq_nil level (by omega) stands fun which isOperator operator => by
      rw [assign.kind] at operator
      cases operator
      cases isOperator
  have noYield : name ≠ "yield" := by
    rintro rfl
    exact isVariable.2 (by decide)
  have noAsync : name ≠ "async" := by
    rintro rfl
    exact isVariable.2 (by decide)
  have noHead : (atLevel dialect limit level).arrowHead true (.after first) = none :=
    arrowHead_eq_none_of_name (scanned.kind.trans kind) (by simp [scanned.stop, assign.kind])
      (by simpa using isVariable.1)
  have runOperands : (atLevel dialect limit level).operands true (.after first) =
      some ((target, true), .after middle) := by
    rw [operands_eq, bind_apply, runTarget, Option.bind_some, bind_apply, noItems]
    rfl
  obtain ⟨piece, run⟩ := accepts.piece level (by omega) (by omega) scansValue ends
  simp [assignmentRule, arrowHead?, atIdentifier, atSignature, scanned.kind, kind, noYield,
    noAsync, noHead, isVariable.1, runOperands, assign.kind, assign.stop, eatAny, Grammar.calls,
    run, extend]

theorem keywordRest?_eq_none
    (grammar : Grammar)
    (isVariable : IsVariable name) :
    grammar.keywordRest? name = none := by
  unfold keywordRest?
  split <;> first | rfl | exact absurd isVariable (by decide)

/-- The words that declarations of scripts with types begin with. -/
def typedWords : List String :=
  ["abstract", "enum", "const", "interface", "type", "namespace", "module", "global"]

theorem typedDeclaration?_eq_none
    {grammar : Grammar}
    {cursor : Cursor}
    (noWord : ∀ word ∈ typedWords, cursor.kind ≠ .name word false) :
    grammar.typedDeclaration? true cursor = some (none, cursor) := by
  have unmodified (words : List String) {next : Recogniser Bool} (among : words ⊆ typedWords) :
      atModifier words next cursor = some (false, cursor) :=
    atModifier_eq_false (.inl fun word present => noWord word (among present))
  have noEnumeration := noWord "enum" (by decide)
  simp [typedDeclaration?, noEnumeration, unmodified ["abstract"] (by decide),
    unmodified ["const"] (by decide), unmodified ["interface"] (by decide),
    unmodified ["type"] (by decide),
    unmodified ["namespace", "module"] (by decide),
    unmodified ["global"] (by decide)]

/-- A variable begins no declaration. -/
theorem declaration?_eq_none
    {grammar : Grammar}
    {cursor : Cursor}
    (kind : cursor.kind = .name name false)
    (isVariable : IsVariable name) :
    grammar.declaration? cursor = some (none, cursor) := by
  have noWord (words : List String) (means : ∀ word ∈ words, ¬ IsVariable word) :
      ∀ word ∈ words, cursor.kind ≠ .name word false := by
    rintro word present equal
    rw [kind] at equal
    cases equal
    exact means name present isVariable
  have unmodified (words : List String) {next : Recogniser Bool}
      (means : ∀ word ∈ words, ¬ IsVariable word) :
      atModifier words next cursor = some (false, cursor) :=
    atModifier_eq_false (.inl (noWord words means))
  have noTyped := @typedDeclaration?_eq_none grammar cursor (noWord typedWords (by decide))
  have noKeyword := noWord ["function", "class", "var", "const"] (by decide)
  simp only [List.forall_mem_cons, List.not_mem_nil, false_implies, implies_true,
    and_true] at noKeyword
  obtain ⟨noFunction, noClass, noVar, noConst⟩ := noKeyword
  cases typed : grammar.dialect.typed <;>
    simp [declaration?, plainDeclaration?, typed, noTyped, atFunction, atVariables,
      noFunction, noClass, noVar, noConst, unmodified ["declare"] (by decide),
      unmodified ["async"] (by decide), unmodified ["let"] (by decide)]

theorem AcceptsAssignment.assignStatement
    {spelling : List Char}
    (kind : opening.kind = .name name false)
    (isVariable : IsVariable name)
    (accepts : AcceptsAssignment dialect limit value) :
    AcceptsStatement dialect limit
      (opening :: .mark .assign spelling :: (value ++ [.semicolon])) := by
  have noElse : name ≠ "else" := by
    rintro rfl
    exact isVariable.1 (by decide)
  refine ⟨⟨opening, _, name, rfl, kind, noElse⟩, fun level first last enough bounded scans _ => ?_⟩
  simp only [List.length_cons, List.length_append, List.length_nil] at enough bounded
  obtain ⟨level, rfl⟩ : ∃ fewer, level = fewer + 1 := ⟨level - 1, by omega⟩
  have parts : Scans ((opening :: .mark .assign spelling :: value) ++ [.semicolon]) first last := scans
  obtain ⟨middle, scansAssignment, scansEnd⟩ := Scans.append_iff.mp parts
  obtain ⟨stop, semicolon, rest⟩ := Scans.cons_iff.mp scansEnd
  rw [Scans.nil_iff] at rest
  subst rest
  obtain ⟨_, scanned, scansRest⟩ := Scans.cons_iff.mp scansAssignment
  obtain ⟨_, assign, -⟩ := Scans.cons_iff.mp scansRest
  obtain ⟨calls, run⟩ := (accepts.assign kind isVariable).sequence level
    (by simp only [List.length_cons]; omega) (by simp only [List.length_cons]; omega)
    scansAssignment (by rw [semicolon.kind]; rfl) (by rw [semicolon.kind]; simp)
  have noDeclaration : (atLevel dialect limit level).declaration? (.after first) =
      some (none, .after first) :=
    declaration?_eq_none (scanned.kind.trans kind) isVariable
  have ordinary : (atLevel dialect limit level).ordinaryStatement (.after first) =
      some (calls, .after stop) := by
    simp [ordinaryStatement, statementKeyword?, scanned.kind, kind,
      keywordRest?_eq_none _ isVariable, noDeclaration, atLabel, atIdentifier, isVariable.1,
      scanned.stop, assign.kind, expressionStatement, run, Recogniser.semicolon, atStatementEnd,
      semicolon.kind, semicolon.stop]
  exact body_of_ordinaryStatement level ordinary

/-! ### Functions -/

theorem AcceptsBody.declaration
    {closing : Lexeme}
    {parameter : String}
    (accepts : AcceptsBody dialect limit inner)
    (kind : opening.kind = .name "function" false)
    (closes : closing.kind = .punctuator .closeBrace)
    (isIdentifier : name ∉ reservedWords)
    (isVariable : IsVariable parameter)
    (level : Nat)
    (enough : inner.length + 1 < level)
    (bounded : inner.length + 1 < limit)
    (scans : Scans (functionLexemes opening name parameter inner closing) first last) :
    ∃ calls, (atLevel dialect limit level).calls (.statement true) (.after first) =
      some (calls, .after last) := by
  obtain ⟨level, rfl⟩ : ∃ fewer, level = fewer + 1 := ⟨level - 1, by omega⟩
  obtain ⟨_, scanned, scansRest⟩ := Scans.cons_iff.mp scans
  obtain ⟨start, named, scansRest⟩ := Scans.cons_iff.mp scansRest
  obtain ⟨middle, scansParameters, scansBody⟩ := Scans.append_iff.mp scansRest
  obtain ⟨_, paren, -⟩ := Scans.cons_iff.mp scansParameters
  obtain ⟨_, brace, -⟩ := Scans.cons_iff.mp scansBody
  obtain ⟨signature, runSignature⟩ : ∃ signature,
      (atLevel dialect limit level).signature (.after start) = some (signature, .after middle) :=
    signature_single isVariable level (by omega) (by omega) scansParameters brace.kind
  obtain ⟨body, runBody⟩ := accepts.block closes level (by omega) (by omega) scansBody
  have opened := scanned.kind.trans kind
  have unmodified (words : List String) {next : Recogniser Bool} (absent : "function" ∉ words) :
      atModifier words next (.after first) = some (false, .after first) :=
    atModifier_eq_false (.inl fun word present equal => by
      rw [opened] at equal
      cases equal
      exact absent present)
  have noTyped := @typedDeclaration?_eq_none (atLevel dialect limit level) (.after first)
    fun word present equal => by
      rw [opened] at equal
      cases equal
      exact absurd present (by decide)
  have declared : (atLevel dialect limit level).functionDeclaration true (.after first) =
      some (signature.around body, .after last) := by
    simp [functionDeclaration, opened, scanned.stop, named.kind, named.stop, ownName, identifier,
      anyName, atIdentifier, isIdentifier, overloadRest, runSignature, brace.kind, runBody]
  have plain : (atLevel dialect limit level).declaration? (.after first) =
      some (some (signature.around body), .after last) := by
    cases typed : dialect.typed <;>
      simp [declaration?, plainDeclaration?, typed, noTyped, atFunction, opened, declared,
        unmodified ["declare"] (by decide), unmodified ["async"] (by decide)]
  have noKeyword : (atLevel dialect limit level).keywordRest? "function" = none := rfl
  simp [Grammar.calls, Grammar.rule, Grammar.statement, moduleDeclaration?, atImport,
    unmodified ["import"] (by decide), opened, ordinaryStatement, statementKeyword?, noKeyword, plain,
    pieceFrom]

/-! ### Scripts of declarations -/

/-- The arguments of a call, or an empty object, are an expression. -/
theorem acceptsAssignment_default :
    AcceptsAssignment dialect limit
      [.word "args", .mark .operator ['|', '|'], .openBrace, .closeBrace] := by
  have front : AcceptsUnary dialect limit [.word "args"] :=
    (acceptsAccesses_variable rfl (by decide)).unary (.name (by decide))
  have back : AcceptsUnary dialect limit [.openBrace, .closeBrace] :=
    (AcceptsAccesses.record acceptsFields_nil).unary .brace
  have operands : AcceptsOperands dialect limit ([.word "args"] ++ .mark .operator ['|', '|'] :: _) :=
    front.operands.join rfl back
  exact operands.assignment ⟨⟨_, _, rfl, .inl (.name (by decide)), by rintro ⟨⟩⟩, by decide⟩

theorem acceptsBody_renderer
    (accepts : AcceptsAssignment dialect limit value)
    (begins : BeginsExpression value) :
    AcceptsBody dialect limit
      ((Lexeme.word "args").onNewLine :: .mark .assign ['='] ::
          ([.word "args", .mark .operator ['|', '|'], .openBrace, .closeBrace] ++ [.semicolon]) ++
        (Lexeme.word "return").onNewLine :: (value ++ [.semicolon])) := by
  have default : AcceptsStatement dialect limit
      ((Lexeme.word "args").onNewLine :: .mark .assign ['='] :: (_ ++ [.semicolon])) :=
    acceptsAssignment_default.assignStatement rfl (by decide)
  have answer : AcceptsStatement dialect limit
      ((Lexeme.word "return").onNewLine :: (value ++ [.semicolon])) :=
    accepts.answer begins rfl
  have body := default.cons (answer.cons acceptsBody_nil)
  rwa [List.append_nil] at body

end Grammar

/-- Declarations are recognised one after the other, to the end of the text. -/
theorem Declares.accepted
    {functions : List (String × Term)}
    {lexemes : List Lexeme}
    {dialect : Dialect}
    {limit level count : Nat}
    {first last : Place}
    (declares : Declares functions lexemes)
    (enough : lexemes.length < level)
    (bounded : lexemes.length < limit)
    (steps : lexemes.length < count)
    (scans : Scans lexemes first last)
    (ends : (Cursor.after last).kind = .endOfText) :
    ∃ calls, repeatUntil atEnd ((Grammar.atLevel dialect limit level).calls (.statement true)) count
      (.after first) = some (calls, .after last) := by
  induction declares generalizing first count with
  | nil =>
      rw [Scans.nil_iff] at scans
      subst scans
      obtain ⟨count, rfl⟩ : ∃ fewer, count = fewer + 1 := ⟨count - 1, by simp at steps; omega⟩
      exact ⟨[], by simp [repeatUntil_succ, ends]⟩
  | @cons name term functions value more isIdentifier returned _ inductionHypothesis =>
      obtain ⟨middle, scansFunction, scansMore⟩ := Scans.append_iff.mp scans
      obtain ⟨_, opening, -⟩ := Scans.cons_iff.mp scansFunction
      simp only [rendererLexemes, functionLexemes, List.length_append, List.length_cons,
        List.length_nil] at enough bounded steps
      obtain ⟨count, rfl⟩ : ∃ fewer, count = fewer + 1 := ⟨count - 1, by omega⟩
      have accepts : Grammar.AcceptsAssignment dialect limit value :=
        returned.accepted.assignment returned.beginsExpression
      have body := Grammar.acceptsBody_renderer accepts returned.beginsExpression
      obtain ⟨declared, run⟩ := body.declaration rfl rfl isIdentifier (by decide) level
        (by simp; omega) (by simp; omega) scansFunction
      obtain ⟨rest, runRest⟩ :=
        inductionHypothesis (by omega) (by omega) (by omega : _ < count) scansMore
      exact ⟨declared ++ rest, by
        rw [repeatUntil_succ]
        simp [opening.kind, run, runRest]⟩

/-- A text behind a comment begins where it begins. -/
theorem firstPlace_of_comment
    (text : List Char) :
    firstPlace ('/' :: text) = ⟨0, '/' :: text⟩ :=
  rfl

/-- A text that spells declarations behind a comment follows the grammar. -/
theorem isSome_parse_of_declares
    {functions : List (String × Term)}
    {lexemes : List Lexeme}
    {text : List Char}
    (dialect : Dialect)
    (declares : Declares functions lexemes)
    (spells : Spells ('/' :: text) lexemes ['\n']) :
    (parse dialect ('/' :: text ++ ['\n'])).isSome = true := by
  have scans := spells 0
  have short : lexemes.length ≤ maxTokens ('/' :: text ++ ['\n']) := scans.length_le
  have enough : lexemes.length < 8 * (maxTokens ('/' :: text ++ ['\n']) + 1) := by omega
  obtain ⟨calls, run⟩ : ∃ calls,
      script (Grammar.atLevel dialect (8 * (maxTokens ('/' :: text ++ ['\n']) + 1))
          (8 * (maxTokens ('/' :: text ++ ['\n']) + 1))) (.after ⟨0, '/' :: text ++ ['\n']⟩) =
        some (calls, .after ⟨0 + Text.byteLength ('/' :: text), ['\n']⟩) :=
    declares.accepted enough enough enough scans rfl
  have parsed : parse dialect ('/' :: text ++ ['\n']) = some calls := by
    rw [parse, List.cons_append, firstPlace_of_comment]
    exact congrArg (Option.map (·.1)) run
  rw [parsed]
  rfl

end Script
end MessageExpansion
