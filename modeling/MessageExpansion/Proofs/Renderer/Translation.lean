import MessageExpansion.Proofs.Renderer.Settings

/-!
# Renderers as terms

A renderer is a tree, and so is a term of the language of scripts.  The text of a renderer is the
term that it stands for, provided that the renderer groups its operators the way the text is read:
text says nothing about where an operand begins.
-/

namespace MessageExpansion
namespace Renderer

open Script (Term Step Writes IsName IsVariable EndsNumeral)
open Text (stringLiteral)

/-! ### The term of a renderer -/

mutual

/-- The term that an expression stands for. -/
def Expression.term (locale : String) : Expression → Term
  | .text value => .text value
  | .concatenation left right => .add (left.term locale) (right.term locale)
  | .argument name => .index (.variable "args") (.text name)
  | .variable name => .variable name.name
  | .minus operand offset => .subtract (operand.term locale) (.numeral offset.toNat)
  | .asText operand => .call (.variable "String") [operand.term locale]
  | .asNumber operand => .toNumber (operand.term locale)
  | .format formatter operand =>
      .call (.member (formatter.maker.term locale) "format") [operand.term locale]
  | .apply parameter body operand =>
      .apply parameter.name (body.steps locale) (operand.term locale)

/-- The statements of a function body. -/
def Body.steps (locale : String) : Body → List Step
  | .answer result => [.answer (result.term locale)]
  | .test subject value result rest =>
      .test (.variable subject.name) (.numeral value.toNat) (result.term locale) ::
        rest.steps locale
  | .byCategory ordinal subject cases otherwise =>
      [.choose
        (.call (.member ((pluralRules ordinal).term locale) "select") [subject.term locale])
        (cases.terms locale) (otherwise.term locale)]
  | .byText subject cases otherwise =>
      [.choose (.call (.variable "String") [subject.term locale]) (cases.terms locale)
        (otherwise.term locale)]

/-- The labels and results of labelled answers. -/
def Cases.terms (locale : String) : Cases → List (Term × Term)
  | .none => []
  | .more label result rest => (.text label, result.term locale) :: rest.terms locale

end

/-! ### How operators are grouped -/

/-- The expression is an operand: no operator can take it apart. -/
def Expression.isOperand : Expression → Bool
  | .concatenation _ _ | .minus _ _ | .asNumber _ => false
  | _ => true

/-- The labels of labelled answers. -/
def Cases.labels : Cases → List String
  | .none => []
  | .more label _ rest => label :: rest.labels

mutual

/-- The text of an expression groups its operators as the expression does. -/
def Expression.IsGrouped : Expression → Prop
  | .text _ | .argument _ | .variable _ => True
  | .concatenation left right => left.IsGrouped ∧ right.IsGrouped ∧ right.isOperand = true
  | .minus operand _ | .asText operand | .format _ operand => operand.IsGrouped
  | .asNumber operand => ∃ name, operand = .argument name
  | .apply _ body operand => body.IsGrouped ∧ operand.IsGrouped

/-- The same for a function body, whose cases for categories have labels that need no escapes. -/
def Body.IsGrouped : Body → Prop
  | .answer result => result.IsGrouped
  | .test _ _ result rest => result.IsGrouped ∧ rest.IsGrouped
  | .byCategory _ subject cases otherwise =>
      subject.IsGrouped ∧ cases.IsGrouped ∧ otherwise.IsGrouped ∧
        ∀ label ∈ cases.labels, label ∈ PluralSelector.categories
  | .byText subject cases otherwise =>
      subject.IsGrouped ∧ cases.IsGrouped ∧ otherwise.IsGrouped

/-- The same for labelled answers. -/
def Cases.IsGrouped : Cases → Prop
  | .none => True
  | .more _ result rest => result.IsGrouped ∧ rest.IsGrouped

end

/-! ### The text of a renderer -/

section Text

variable (locale : String)

theorem Expression.print_concatenation
    (left right : Expression) :
    ((concatenation left right).print locale).toList =
      (left.print locale).toList ++ ' ' :: '+' :: ' ' :: (right.print locale).toList := by
  show (left.print locale ++ " + " ++ right.print locale).toList = _
  simp

theorem Expression.print_argument
    (name : String) :
    ((argument name).print locale).toList =
      "args".toList ++ '[' :: ((stringLiteral name).toList ++ [']']) := by
  show ("args[" ++ stringLiteral name ++ "]").toList = _
  simp

theorem Expression.print_minus
    (operand : Expression)
    (offset : UInt32) :
    ((minus operand offset).print locale).toList =
      (operand.print locale).toList ++ ' ' :: '-' :: ' ' :: (toString offset.toNat).toList := by
  show (operand.print locale ++ " - " ++ toString offset.toNat).toList = _
  simp

theorem Expression.print_asText
    (operand : Expression) :
    ((asText operand).print locale).toList =
      "String".toList ++ '(' :: ((operand.print locale).toList ++ [')']) := by
  show ("String(" ++ operand.print locale ++ ")").toList = _
  simp

theorem Expression.print_asNumber
    (operand : Expression) :
    ((asNumber operand).print locale).toList = '+' :: (operand.print locale).toList := by
  show ("+" ++ operand.print locale).toList = _
  simp

theorem Expression.print_format
    (formatter : Formatter)
    (operand : Expression) :
    ((format formatter operand).print locale).toList =
      formatter.maker.spelling locale.toList ++
        '.' :: ("format".toList ++ '(' :: ((operand.print locale).toList ++ [')'])) := by
  show (formatter.print locale ++ ".format(" ++ operand.print locale ++ ")").toList = _
  simp [Formatter.print_toList]

theorem Expression.print_apply
    (parameter : Variable)
    (body : Body)
    (operand : Expression) :
    ((apply parameter body operand).print locale).toList =
      '(' :: ("function".toList ++ ' ' :: '(' :: (parameter.name.toList ++ ')' :: ' ' :: '\x7b' ::
        ' ' :: ((body.print locale).toList ++ ' ' :: '\x7d' :: ')' :: '(' ::
          ((operand.print locale).toList ++ [')'])))) := by
  show ("(function (" ++ parameter.name ++ ") \x7b " ++ body.print locale ++ " \x7d)(" ++
    operand.print locale ++ ")").toList = _
  simp

theorem Body.print_answer
    (result : Expression) :
    ((answer result).print locale).toList =
      "return".toList ++ ' ' :: ((result.print locale).toList ++ [';']) := by
  show ("return " ++ result.print locale ++ ";").toList = _
  simp

theorem Body.print_test
    (subject : Variable)
    (value : UInt64)
    (result : Expression)
    (rest : Body) :
    ((test subject value result rest).print locale).toList =
      "if".toList ++ ' ' :: '(' :: (subject.name.toList ++ ' ' :: (['=', '=', '='] ++ ' ' ::
        ((toString value.toNat).toList ++ ')' :: ' ' :: ("return".toList ++ ' ' ::
          ((result.print locale).toList ++ ';' :: ' ' :: (rest.print locale).toList))))) := by
  show ("if (" ++ subject.name ++ " === " ++ toString value.toNat ++ ") return " ++
    result.print locale ++ "; " ++ rest.print locale).toList = _
  simp

theorem Body.print_byCategory
    (ordinal : Bool)
    (subject otherwise : Expression)
    (cases : Cases) :
    ((byCategory ordinal subject cases otherwise).print locale).toList =
      "switch".toList ++ ' ' :: '(' :: (((pluralRules ordinal).spelling locale.toList ++
        '.' :: ("select".toList ++ '(' :: ((subject.print locale).toList ++ [')']))) ++
        ')' :: ' ' :: '\x7b' :: ' ' ::
        ((cases.print locale fun name => "\"" ++ name ++ "\"").toList ++ ' ' ::
          ("default".toList ++ ':' :: ' ' :: ("return".toList ++ ' ' ::
            ((otherwise.print locale).toList ++ ';' :: ' ' :: ['\x7d']))))) := by
  show ("switch (" ++ printPluralRules locale ordinal ++ ".select(" ++ subject.print locale ++
    ")) \x7b " ++ cases.print locale (fun name => "\"" ++ name ++ "\"") ++ " default: return " ++
    otherwise.print locale ++ "; \x7d").toList = _
  simp [printPluralRules_toList]

theorem Body.print_byText
    (subject otherwise : Expression)
    (cases : Cases) :
    ((byText subject cases otherwise).print locale).toList =
      "switch".toList ++ ' ' :: '(' :: (("String".toList ++ '(' ::
        ((subject.print locale).toList ++ [')'])) ++ ')' :: ' ' :: '\x7b' :: ' ' ::
        ((cases.print locale stringLiteral).toList ++ ' ' ::
          ("default".toList ++ ':' :: ' ' :: ("return".toList ++ ' ' ::
            ((otherwise.print locale).toList ++ ';' :: ' ' :: ['\x7d']))))) := by
  show ("switch (String(" ++ subject.print locale ++ ")) \x7b " ++
    cases.print locale stringLiteral ++ " default: return " ++ otherwise.print locale ++
    "; \x7d").toList = _
  simp

theorem Cases.print_last
    (label : String → String)
    (key : String)
    (result : Expression) :
    ((more key result .none).print locale label).toList =
      "case".toList ++ ' ' :: ((label key).toList ++ ':' :: ' ' :: ("return".toList ++ ' ' ::
        ((result.print locale).toList ++ [';']))) := by
  simp [print]

theorem Cases.print_more
    {rest : Cases}
    (label : String → String)
    (key : String)
    (result : Expression)
    (more : rest ≠ .none) :
    ((Cases.more key result rest).print locale label).toList =
      "case".toList ++ ' ' :: ((label key).toList ++ ':' :: ' ' :: ("return".toList ++ ' ' ::
        ((result.print locale).toList ++ ';' :: ' ' :: (rest.print locale label).toList))) := by
  simp [print]

end Text

/-! ### Names of variables -/

theorem Variable.name_toList
    (subject : Variable) :
    ∃ c ∈ ['n', 's'], subject.name.toList = c :: Nat.toDigits 10 subject.index := by
  obtain ⟨kind, index⟩ := subject
  cases kind with
  | number => exact ⟨'n', by simp, by simp [name]⟩
  | text => exact ⟨'s', by simp, by simp [name]⟩

theorem Variable.isName
    (subject : Variable) :
    IsName subject.name.toList := by
  obtain ⟨c, among, equal⟩ := subject.name_toList
  have begins : ∀ c ∈ ['n', 's'], Text.isIdentifierStart c = true :=
    Script.forall_mem_of_all (by decide)
  refine ⟨c, _, equal, begins c among, fun d present => ?_⟩
  exact Text.forall_isDigit (Text.isIdentifierPart · = true) (by decide)
    (Nat.isDigit_of_mem_toDigits (by decide) (by decide) present)

/-- A variable is numbered. -/
theorem Variable.exists_digit
    (subject : Variable) :
    ∃ d ∈ subject.name.toList, d.isDigit = true := by
  obtain ⟨c, -, equal⟩ := subject.name_toList
  obtain ⟨d, more, digits⟩ :=
    List.exists_cons_of_ne_nil (Nat.toDigits_ne_nil (n := subject.index) (b := 10))
  exact ⟨d, by simp [equal, digits],
    Nat.isDigit_of_mem_toDigits (b := 10) (by decide) (by decide) (digits ▸ List.mem_cons_self)⟩

theorem Variable.isVariable
    (subject : Variable) :
    IsVariable subject.name := by
  obtain ⟨d, inName, digit⟩ := subject.exists_digit
  -- No word of the language contains a digit.
  have words : ∀ word ∈ Script.reservedWords ++ Script.contextualWords,
      (word.toList.all fun letter => letter.isDigit = false) = true := by decide
  have absent : subject.name ∉ Script.reservedWords ++ Script.contextualWords := by
    intro present
    have plain := Script.forall_mem_of_all (words _ present) d inName
    rw [digit] at plain
    cases plain
  rw [List.mem_append, not_or] at absent
  exact absent

/-! ### The text is the term -/

/-- The text of an expression is its term, wherever the last token of it ends. -/
def Expression.IsWritten (locale : String) (expression : Expression) : Prop :=
  ∀ back, EndsNumeral back →
    Writes (expression.print (stringLiteral locale)).toList (.sum (expression.term locale)) back ∧
      (expression.isOperand = true →
        Writes (expression.print (stringLiteral locale)).toList (.operand (expression.term locale))
          back)

theorem Expression.IsWritten.of_operand
    {locale : String}
    {expression : Expression}
    (operand : ∀ back, EndsNumeral back →
      Writes (expression.print (stringLiteral locale)).toList (.operand (expression.term locale)) back) :
    expression.IsWritten locale :=
  fun back ends => ⟨(operand back ends).sum, fun _ => operand back ends⟩

theorem Expression.IsWritten.before
    {locale : String}
    {expression : Expression}
    {c : Char}
    {rest : List Char}
    (written : expression.IsWritten locale)
    (ends : c ∈ [' ', ')', ';', ']', ',']) :
    Writes (expression.print (stringLiteral locale)).toList (.sum (expression.term locale))
      (c :: rest) :=
  (written (c :: rest) ⟨c, rest, rfl, ends⟩).1

theorem Expression.argument_writes
    (locale name : String)
    (back : List Char) :
    Writes ("args".toList ++ '[' :: ((stringLiteral name).toList ++ [']']))
      (.operand ((argument name).term locale)) back :=
  .index (.ofVariable (by decide) (by decide) (Script.endsName_cons (by decide)))
    (Writes.literal name _).sum

/-- The names of categories need no escapes. -/
theorem quoted_eq_stringLiteral
    {name : String}
    (category : name ∈ PluralSelector.categories) :
    "\"" ++ name ++ "\"" = stringLiteral name := by
  have all : ∀ name ∈ PluralSelector.categories, "\"" ++ name ++ "\"" = stringLiteral name := by
    decide
  exact all name category

mutual

theorem Expression.isWritten
    (locale : String) :
    (expression : Expression) → expression.IsGrouped → expression.IsWritten locale
  | .text value, _ => .of_operand fun back _ => Writes.literal value back
  | .concatenation left right, ⟨leftGrouped, rightGrouped, isOperand⟩ => by
      intro back ends
      have leftWritten := left.isWritten locale leftGrouped
      have rightWritten := (right.isWritten locale rightGrouped back ends).2 isOperand
      rw [Expression.print_concatenation]
      exact ⟨.concatenation (leftWritten.before (by decide)) rightWritten,
        fun operand => by cases operand⟩
  | .argument name, _ => .of_operand fun back _ => by
      rw [Expression.print_argument]
      exact Expression.argument_writes locale name back
  | .variable name, _ => .of_operand fun _ ends =>
      .ofVariable name.isName name.isVariable ends.endsName
  | .minus operand offset, grouped => by
      intro back ends
      have written := operand.isWritten locale grouped
      rw [Expression.print_minus]
      exact ⟨.difference (written.before (by decide)) (.numeral _ ends),
        fun operand => by cases operand⟩
  | .asText operand, grouped => .of_operand fun back _ => by
      have written := operand.isWritten locale grouped
      rw [Expression.print_asText]
      exact .call
        (.ofVariable (by decide) (by decide) (Script.endsName_cons (by decide)))
        (.argument (written.before (by decide)))
  | .asNumber operand, ⟨name, equal⟩ => by
      intro back ends
      subst equal
      rw [Expression.print_asNumber, Expression.print_argument]
      exact ⟨.toNumber (by decide) (Expression.argument_writes locale name back),
        fun operand => by cases operand⟩
  | .format formatter operand, grouped => .of_operand fun back _ => by
      have written := operand.isWritten locale grouped
      rw [Expression.print_format]
      exact .method (formatter.isNamed.writes locale _) (by decide)
        (.argument (written.before (by decide)))
  | .apply parameter body operand, ⟨bodyGrouped, operandGrouped⟩ => .of_operand fun back _ => by
      have bodyWritten := body.isWritten locale bodyGrouped
      have written := operand.isWritten locale operandGrouped
      rw [Expression.print_apply]
      exact .application parameter.isName parameter.isVariable (bodyWritten _)
        (written.before (by decide))

theorem Body.isWritten
    (locale : String) :
    (body : Body) → body.IsGrouped → ∀ back,
      Writes (body.print (stringLiteral locale)).toList (.body (body.steps locale)) back
  | .answer result, grouped, back => by
      have written := result.isWritten locale grouped
      rw [Body.print_answer]
      exact .answer (written.before (by decide))
  | .test subject value result rest, ⟨grouped, restGrouped⟩, back => by
      have written := result.isWritten locale grouped
      have restWritten := rest.isWritten locale restGrouped back
      rw [Body.print_test]
      refine .test (fun _ => ?_) (fun _ => ?_) (fun _ => written.before (by decide)) restWritten
      · exact .ofVariable subject.isName subject.isVariable (Script.endsName_cons (by decide))
      · exact .numeral _ ⟨_, _, rfl, by decide⟩
  | .byCategory ordinal subject cases otherwise,
      ⟨subjectGrouped, casesGrouped, otherwiseGrouped, categories⟩, back => by
      have subjectWritten := subject.isWritten locale subjectGrouped
      have casesWritten := cases.isWritten locale (fun name => "\"" ++ name ++ "\"") casesGrouped
        fun key member => quoted_eq_stringLiteral (categories key member)
      have otherwiseWritten := otherwise.isWritten locale otherwiseGrouped
      rw [Body.print_byCategory]
      refine .choice (fun _ => ?_) ?_ fun _ => otherwiseWritten.before (by decide)
      · exact (Writes.method ((pluralRules_isNamed ordinal).writes locale _) (by decide)
          (.argument (subjectWritten.before (by decide)))).sum
      · exact casesWritten.imp (by rintro rfl; exact ⟨rfl, rfl⟩) fun writes back => writes (' ' :: back)
  | .byText subject cases otherwise, ⟨subjectGrouped, casesGrouped, otherwiseGrouped⟩, back => by
      have subjectWritten := subject.isWritten locale subjectGrouped
      have casesWritten := cases.isWritten locale stringLiteral casesGrouped fun _ _ => rfl
      have otherwiseWritten := otherwise.isWritten locale otherwiseGrouped
      rw [Body.print_byText]
      refine .choice (fun _ => ?_) ?_ fun _ => otherwiseWritten.before (by decide)
      · exact (Writes.call
          (.ofVariable (by decide) (by decide) (Script.endsName_cons (by decide)))
          (.argument (subjectWritten.before (by decide)))).sum
      · exact casesWritten.imp (by rintro rfl; exact ⟨rfl, rfl⟩) fun writes back => writes (' ' :: back)

theorem Cases.isWritten
    (locale : String)
    (label : String → String) :
    (cases : Cases) → cases.IsGrouped → (∀ key ∈ cases.labels, label key = stringLiteral key) →
      cases = .none ∨ ∀ back,
        Writes (cases.print (stringLiteral locale) label).toList (.cases (cases.terms locale)) back
  | .none, _, _ => .inl rfl
  | .more key result rest, ⟨grouped, restGrouped⟩, literal => by
      have written := result.isWritten locale grouped
      have restWritten := rest.isWritten locale label restGrouped
        fun other member => literal other (List.mem_cons_of_mem _ member)
      have labelled (back : List Char) : Writes (label key).toList (.sum (.text key)) back := by
        rw [literal key List.mem_cons_self]
        exact (Writes.literal key back).sum
      refine .inr fun back => ?_
      by_cases missing : rest = .none
      · subst missing
        rw [Cases.print_last]
        exact .lastCase (fun _ => labelled _) (written.before (by decide))
      · rw [Cases.print_more _ _ _ _ missing]
        exact .case (fun _ => labelled _) (fun _ => written.before (by decide))
          (restWritten.resolve_left missing back)

end

end Renderer
end MessageExpansion
