import Mathlib.Data.List.Forall2
import MessageExpansion.Proofs.Renderer.Rendering
import MessageExpansion.Proofs.Renderer.Translation
import MessageExpansion.Renderer.Compilation

/-!
# Compiled patterns render what they should

Evaluating the term of a compiled pattern gives the text that the pattern stands for, with the same
operations of the run-time library in the same order.  Inside the function of a plural or a select
more variables have values; what a nested pattern relies on is that the variables of the plurals
around it keep theirs, because every variable has an index of its own.
-/

namespace MessageExpansion
namespace Renderer

open Script (Units Runtime Value Term Step units)

/-! ### Variables -/

theorem Variable.index_eq_of_name_eq
    {first second : Variable}
    (same : first.name = second.name) :
    first.index = second.index := by
  obtain ⟨c, -, firstName⟩ := first.name_toList
  obtain ⟨d, -, secondName⟩ := second.name_toList
  rw [same, secondName] at firstName
  have digits := congrArg (Nat.ofDigitChars 10 · 0) (List.cons.inj firstName).2
  simp only [Nat.ofDigitChars_ten_toDigits] at digits
  exact digits.symm

/-- No variable has the name of something that the language provides. -/
theorem Variable.name_ne
    {name : String}
    (subject : Variable)
    (provided : name ∈ ["args", "String", "Intl"]) :
    name ≠ subject.name := by
  obtain ⟨d, inName, digit⟩ := subject.exists_digit
  have letters : ∀ name ∈ ["args", "String", "Intl"],
      (name.toList.all fun c => c.isDigit = false) = true := by decide
  rintro rfl
  have plain := Script.forall_mem_of_all (letters _ provided) d inName
  rw [digit] at plain
  cases plain

variable {M : Type → Type} {runtime : Runtime M} {environment : runtime.Environment}
  {enclosing : Option Enclosing} {around : Option runtime.Number} {next : Nat}

/-- The variable of the plural around holds a number, and the difference is known. -/
def Enclosing.Holds (environment : runtime.Environment) (next : Nat) (enclosing : Enclosing)
    (difference : runtime.Number) : Prop :=
  enclosing.subject.index < next ∧ ∃ number,
    environment.lookup enclosing.subject.name = some (.number number) ∧
      runtime.minus number (runtime.numeral enclosing.offset.toNat) = difference

/-- The variables that a nested pattern may use have their values, and those from an index on are
not yet used. -/
structure Provides (environment : runtime.Environment) (enclosing : Option Enclosing) (next : Nat)
    (around : Option runtime.Number) : Prop where
  arguments : environment.lookup "args" = some .arguments
  conversion : environment.lookup "String" = some .conversion
  library : environment.lookup "Intl" = some .library
  around : Option.Rel (Enclosing.Holds environment next) enclosing around

namespace Provides

theorem globals :
    Provides runtime.globals none 0 none where
  arguments := rfl
  conversion := rfl
  library := rfl
  around := .none

theorem mono
    {later : Nat}
    (provides : Provides environment enclosing next around)
    (le : next ≤ later) :
    Provides environment enclosing later around := by
  refine { provides with around := ?_ }
  cases provides.around with
  | none => exact .none
  | some holds => exact .some ⟨Nat.lt_of_lt_of_le holds.1 le, holds.2⟩

theorem lookup_cons
    {name : String}
    {value : runtime.Data}
    {other : String}
    (different : other ≠ name) :
    List.lookup other ((name, value) :: environment) = environment.lookup other := by
  rw [List.lookup_cons, beq_false_of_ne different]

/-- A new variable hides nothing. -/
theorem bind
    (provides : Provides environment enclosing next around)
    (kind : VariableKind)
    (value : runtime.Data) :
    Provides (((⟨kind, next⟩ : Variable).name, value) :: environment) enclosing (next + 1)
      around where
  arguments := by
    rw [lookup_cons (Variable.name_ne _ (by decide)), provides.arguments]
  conversion := by
    rw [lookup_cons (Variable.name_ne _ (by decide)), provides.conversion]
  library := by
    rw [lookup_cons (Variable.name_ne _ (by decide)), provides.library]
  around := by
    cases provides.around with
    | none => exact .none
    | some holds =>
        obtain ⟨old, number, held, difference⟩ := holds
        refine .some ⟨Nat.lt_succ_of_lt old, number, ?_, difference⟩
        rw [lookup_cons ?_, held]
        intro same
        exact Nat.ne_of_lt old (Variable.index_eq_of_name_eq same)

/-- Inside the function of a plural, the plural is the innermost one. -/
theorem enter
    (provides : Provides environment enclosing next around)
    (number : runtime.Number)
    (offset : UInt32) :
    Provides (((⟨.number, next⟩ : Variable).name, .number number) :: environment)
      (some ⟨⟨.number, next⟩, offset⟩) (next + 1)
      (some (runtime.minus number (runtime.numeral offset.toNat))) where
  arguments := (provides.bind .number (.number number)).arguments
  conversion := (provides.bind .number (.number number)).conversion
  library := (provides.bind .number (.number number)).library
  around := .some ⟨Nat.lt_succ_self next, number, List.lookup_cons_self, rfl⟩

end Provides

/-! ### Operations of the library -/

variable [Monad M]

/-- The value of an expression is a text. -/
def Renders (locale : String) (environment : runtime.Environment) (expression : Expression)
    (text : M Units) : Prop :=
  (expression.term locale).evaluate runtime environment = .text <$> text

variable (locale : String)

section

variable [LawfulMonad M]

theorem evaluate_fields
    (settings : List (String × Setting)) :
    Term.evaluateFields runtime environment
        (settings.map fun setting => (setting.1, setting.2.term)) =
      pure (settings.map fun setting => (setting.1, setting.2.value runtime)) := by
  induction settings with
  | nil => rfl
  | cons setting rest inductionHypothesis =>
      obtain ⟨name, value⟩ := setting
      have valueOf : value.term.evaluate runtime environment = pure (value.value runtime) := by
        cases value <;> rfl
      simp only [List.map_cons, Term.evaluateFields, valueOf, inductionHypothesis, pure_bind]

theorem evaluate_maker
    (provides : Provides environment enclosing next around)
    (maker : Maker) :
    (maker.term locale).evaluate runtime environment =
      .object <$> runtime.make maker.name (maker.arguments runtime locale) := by
  have path : (Term.member (.variable "Intl") maker.name).evaluate runtime environment =
      pure (.constructor maker.name) := by
    simp only [Term.evaluate, provides.library, pure_bind]
  have arguments : Term.evaluateAll runtime environment
      (.text locale :: maker.settings.toList.map settingsTerm) =
        pure (maker.arguments runtime locale) := by
    cases settings : maker.settings with
    | none => simp [Term.evaluateAll, Term.evaluate, Maker.arguments, settings]
    | some fields =>
        simp [Term.evaluateAll, Term.evaluate, Maker.arguments, settings, settingsTerm,
          evaluate_fields]
  rw [Maker.term, Term.evaluate, path, arguments]
  simp only [pure_bind]

theorem evaluate_ask
    {operand : Term}
    {value : M runtime.Data}
    (provides : Provides environment enclosing next around)
    (maker : Maker)
    (method : String)
    (operandValue : operand.evaluate runtime environment = value) :
    (Term.call (.member (maker.term locale) method) [operand]).evaluate runtime environment =
      .text <$> maker.ask runtime locale method value := by
  simp only [Term.evaluate, Term.evaluateAll, evaluate_maker locale provides maker, operandValue,
    Maker.ask, map_eq_pure_bind, bind_assoc, pure_bind, Runtime.apply]

theorem evaluate_argument
    (provides : Provides environment enclosing next around)
    (name : String) :
    ((Expression.argument name).term locale).evaluate runtime environment =
      .external <$> runtime.argument (units name) := by
  simp only [Expression.term, Term.evaluate, provides.arguments, pure_bind]

theorem evaluate_difference
    {enclosing : Enclosing}
    {difference : runtime.Number}
    (holds : enclosing.Holds environment next difference) :
    (enclosing.difference.term locale).evaluate runtime environment =
      pure (.number difference) := by
  obtain ⟨-, number, held, rfl⟩ := holds
  unfold Enclosing.difference
  split
  · next zero =>
      have nothing : runtime.minus number (runtime.numeral enclosing.offset.toNat) = number := by
        rw [zero]
        exact runtime.minus_zero number
      simp only [Expression.term, Term.evaluate, held, nothing]
  · simp only [Expression.term, Term.evaluate, held, pure_bind]

/-! ### Options -/

/-- Only `other` is not compared: it is the name of the options that apply when no other one
does. -/
def isCompared (name : String) : Bool := name != "other"

/-- Compiled options render what the options stand for. -/
def RenderAll {κ : Type} (locale : String) (environment : runtime.Environment)
    (results : List (κ × Expression)) (texts : List (κ × M Units)) : Prop :=
  List.Forall₂ (fun result text => result.1 = text.1 ∧ Renders locale environment result.2 text.2)
    results texts

omit [LawfulMonad M] in
/-- Options are compiled one by one, each to a result under the selector of the option. -/
@[elab_as_elim]
theorem RenderAll.induction
    {κ : Type}
    {motive : (results : List (κ × Expression)) → (texts : List (κ × M Units)) →
      RenderAll locale environment results texts → Prop}
    {results : List (κ × Expression)}
    {texts : List (κ × M Units)}
    (nil : motive [] [] .nil)
    (cons : ∀ selector expression value results texts
      (renders : Renders locale environment expression value)
      (rest : RenderAll locale environment results texts), motive results texts rest →
        motive ((selector, expression) :: results) ((selector, value) :: texts)
          (.cons ⟨rfl, renders⟩ rest))
    (rendered : RenderAll locale environment results texts) :
    motive results texts rendered := by
  unfold RenderAll at rendered
  induction rendered with
  | nil => exact nil
  | @cons result text results texts head rest inductionHypothesis =>
      obtain ⟨selector, expression⟩ := result
      obtain ⟨otherSelector, value⟩ := text
      obtain rfl : selector = otherSelector := head.1
      exact cons selector expression value results texts head.2 rest inductionHypothesis

theorem renders_otherwise
    {results : List Expression}
    {texts : List (M Units)}
    (rendered : List.Forall₂ (Renders locale environment) results texts) :
    Renders locale environment (otherwise results) (lastResult texts) := by
  unfold otherwise lastResult
  induction rendered with
  | nil => simp [Renders, Expression.term, Term.evaluate, units]
  | cons head tail inductionHypothesis =>
      cases tail with
      | nil => exact head
      | cons second more => exact inductionHypothesis

omit [LawfulMonad M] in
theorem renders_otherResults
    {results : List (PluralSelector × Expression)}
    {texts : List (PluralSelector × M Units)}
    (rendered : RenderAll locale environment results texts) :
    List.Forall₂ (Renders locale environment) (otherResults results)
      ((texts.filter (·.1.isOther)).map (·.2)) := by
  induction rendered using RenderAll.induction with
  | nil => exact .nil
  | cons selector expression value results texts renders _ inductionHypothesis =>
      rw [otherResults] at inductionHypothesis ⊢
      cases isOther : selector.isOther with
      | false =>
          rw [List.filterMap_cons_none (by simp [isOther]),
            List.filter_cons_of_neg (by simp [isOther])]
          exact inductionHypothesis
      | true =>
          rw [List.filterMap_cons_some (by simp [isOther]; rfl),
            List.filter_cons_of_pos (by simp [isOther])]
          exact .cons renders inductionHypothesis

theorem run_testAll
    {results : List (PluralSelector × Expression)}
    {texts : List (PluralSelector × M Units)}
    {subject : Variable}
    {number : runtime.Number}
    (rest : Body)
    (held : environment.lookup subject.name = some (.number number))
    (rendered : RenderAll locale environment results texts) :
    Step.runAll runtime environment ((testAll subject rest (exactResults results)).steps locale) =
      match PluralOption.exact? runtime number texts with
      | some text => .text <$> text
      | none => Step.runAll runtime environment (rest.steps locale) := by
  induction rendered using RenderAll.induction with
  | nil => rfl
  | cons selector expression value results texts renders _ inductionHypothesis =>
      cases selector with
      | category name => exact inductionHypothesis
      | exact asked =>
          have test : Step.runAll runtime environment
              ((testAll subject rest (exactResults ((.exact asked, expression) :: results))).steps
                locale) =
              if runtime.same number (runtime.numeral asked.toNat) then .text <$> value
              else Step.runAll runtime environment
                ((testAll subject rest (exactResults results)).steps locale) := by
            show Step.runAll runtime environment (Body.steps locale (.test _ _ _ _)) = _
            rw [Body.steps, Step.runAll, Step.run]
            simp only [Term.evaluate, held, pure_bind]
            rw [show (expression.term locale).evaluate runtime environment = _ from renders]
            rfl
          rw [test, inductionHypothesis, PluralOption.exact?, List.findSome?_cons]
          by_cases same : runtime.same number (runtime.numeral asked.toNat) = true
          · simp only [same, if_true]
          · simp only [same]
            rfl

theorem run_cases_cons
    {label : String}
    {result : Expression}
    {value : M Units}
    {otherwise : M runtime.Data}
    (subject : Units)
    (rest : Cases)
    (renders : Renders locale environment result value) :
    Step.runCases runtime environment subject otherwise
        ((Cases.more label result rest).terms locale) =
      if units label = subject then .text <$> value
      else Step.runCases runtime environment subject otherwise (rest.terms locale) := by
  rw [Cases.terms, Step.runCases]
  simp only [Term.evaluate, pure_bind]
  rw [show (result.term locale).evaluate runtime environment = _ from renders]

theorem run_categories
    {results : List (PluralSelector × Expression)}
    {texts : List (PluralSelector × M Units)}
    {final : M Units}
    (category : Units)
    (rendered : RenderAll locale environment results texts) :
    Step.runCases runtime environment category (.text <$> final)
        ((Cases.ofList (categoryResults results)).terms locale) =
      .text <$> (PluralOption.category? isCompared category texts).getD final := by
  induction rendered using RenderAll.induction with
  | nil => rfl
  | cons selector expression value results texts renders _ inductionHypothesis =>
      cases selector with
      | exact asked => exact inductionHypothesis
      | category name =>
          rw [PluralOption.category?, List.findSome?_cons]
          by_cases other : name = "other"
          · have skipped : categoryResults ((.category name, expression) :: results) =
                categoryResults results := by
              simp [categoryResults, other]
            rw [skipped, inductionHypothesis]
            simp only [isCompared, other, bne_self_eq_false, Bool.false_and]
            rfl
          · have kept : categoryResults ((.category name, expression) :: results) =
                (name, expression) :: categoryResults results := by
              simp [categoryResults, other]
            rw [kept, Cases.ofList, run_cases_cons locale category _ renders, inductionHypothesis]
            by_cases chosen : units name = category
            · simp [isCompared, other, chosen]
            · simp [isCompared, other, chosen, PluralOption.category?]

omit [LawfulMonad M] in
theorem anyCategory_eq
    {results : List (PluralSelector × Expression)}
    {texts : List (PluralSelector × M Units)}
    (rendered : RenderAll locale environment results texts) :
    PluralOption.anyCategory isCompared texts = !(categoryResults results).isEmpty := by
  induction rendered using RenderAll.induction with
  | nil => rfl
  | cons selector expression value results texts renders _ inductionHypothesis =>
      cases selector with
      | exact asked => exact inductionHypothesis
      | category name =>
          rw [PluralOption.anyCategory, List.any_cons]
          by_cases other : name = "other"
          · have skipped : categoryResults ((.category name, expression) :: results) =
                categoryResults results := by
              simp [categoryResults, other]
            rw [skipped, ← inductionHypothesis]
            simp [isCompared, other, PluralOption.anyCategory]
          · simp [categoryResults, isCompared, other]

/-- The function of a plural chooses among its options. -/
theorem run_pluralBody
    {results : List (PluralSelector × Expression)}
    {texts : List (PluralSelector × M Units)}
    {enclosing : Enclosing}
    {number difference : runtime.Number}
    (provides : Provides environment (some enclosing) next (some difference))
    (held : environment.lookup enclosing.subject.name = some (.number number))
    (ordinal : Bool)
    (rendered : RenderAll locale environment results texts) :
    Step.runAll runtime environment ((pluralBody enclosing ordinal results).steps locale) =
      .text <$> PluralOption.choose isCompared runtime locale ordinal number difference texts := by
  have final := renders_otherwise locale (renders_otherResults locale rendered)
  have differs : enclosing.Holds environment next difference := by
    cases provides.around with
    | some holds => exact holds
  rw [pluralBody, run_testAll locale _ held rendered, PluralOption.choose]
  cases PluralOption.exact? runtime number texts with
  | some text => rfl
  | none =>
      dsimp only
      rw [anyCategory_eq locale rendered]
      split
      · next none =>
          rw [none]
          exact final
      · next some =>
          have several : (!(categoryResults results).isEmpty) = true := by
            cases categories : categoryResults results with
            | nil => exact absurd categories some
            | cons _ _ => rfl
          rw [if_pos several]
          have category := evaluate_ask locale provides (pluralRules ordinal) "select"
            (evaluate_difference locale differs)
          have finalValue : (Expression.term locale _).evaluate runtime environment = _ := final
          simp only [Body.steps, Step.runAll, Step.run, category, map_eq_pure_bind, bind_assoc,
            pure_bind, finalValue]
          refine bind_congr fun category => ?_
          rw [← map_eq_pure_bind, run_categories locale category rendered, map_eq_pure_bind]
          rfl

theorem run_keys
    {results : List (String × Expression)}
    {texts : List (String × M Units)}
    {final : M Units}
    (key : Units)
    (rendered : RenderAll locale environment results texts) :
    Step.runCases runtime environment key (.text <$> final)
        ((Cases.ofList (results.filter fun option => option.1 != "other")).terms locale) =
      .text <$> ((texts.find? fun option => isCompared option.1 && units option.1 == key).map
        (·.2)).getD final := by
  induction rendered using RenderAll.induction with
  | nil => rfl
  | cons label expression value results texts renders _ inductionHypothesis =>
      rw [List.find?_cons]
      by_cases other : label = "other"
      · rw [List.filter_cons_of_neg (by simp [other]), inductionHypothesis]
        simp [isCompared, other]
      · rw [List.filter_cons_of_pos (by simp [other]), Cases.ofList,
          run_cases_cons locale key _ renders, inductionHypothesis]
        by_cases chosen : units label = key
        · have applies : (isCompared label && units label == key) = true := by
            simp [isCompared, other, chosen]
          simp only [applies, if_pos chosen]
          rfl
        · have differs : (isCompared label && units label == key) = false := by
            simp [chosen]
          simp only [differs, if_neg chosen]

omit [LawfulMonad M] in
theorem renders_otherKeys
    {results : List (String × Expression)}
    {texts : List (String × M Units)}
    (rendered : RenderAll locale environment results texts) :
    List.Forall₂ (Renders locale environment)
      ((results.filter fun option => option.1 == "other").map (·.2))
      ((texts.filter (·.1 == "other")).map (·.2)) := by
  induction rendered using RenderAll.induction with
  | nil => exact .nil
  | cons label expression value results texts renders _ inductionHypothesis =>
      simp only [List.filter_cons]
      split
      · exact .cons renders inductionHypothesis
      · exact inductionHypothesis

/-- The function of a select chooses among its options. -/
theorem run_selectBody
    {results : List (String × Expression)}
    {texts : List (String × M Units)}
    {subject : Variable}
    {value : runtime.External}
    (provides : Provides environment enclosing next around)
    (held : environment.lookup subject.name = some (.external value))
    (rendered : RenderAll locale environment results texts) :
    Step.runAll runtime environment ((selectBody subject results).steps locale) =
      .text <$> (do SelectOption.choose isCompared (← runtime.toText value) texts) := by
  have final : (Expression.term locale _).evaluate runtime environment = _ :=
    renders_otherwise locale (renders_otherKeys locale rendered)
  simp only [selectBody, Body.steps, Expression.term, Step.runAll, Step.run, Term.evaluate,
    Term.evaluateAll, provides.conversion, held, pure_bind, Runtime.apply, map_eq_pure_bind,
    bind_assoc, final]
  refine bind_congr fun key => ?_
  rw [← map_eq_pure_bind, run_keys locale key rendered, map_eq_pure_bind]
  rfl

/-! ### Patterns -/

theorem renders_formatted
    (provides : Provides environment enclosing next around)
    (formatter : Formatter)
    (name : String) :
    Renders locale environment (.format formatter (.argument name))
      (formatter.maker.ask runtime locale "format"
        (.external <$> runtime.argument (units name))) :=
  evaluate_ask locale provides formatter.maker "format" (evaluate_argument locale provides name)

theorem renders_argument
    (provides : Provides environment enclosing next around)
    (name : String) :
    Renders locale environment (.asText (.argument name))
      (do runtime.toText (← runtime.argument (units name))) := by
  have value := evaluate_argument locale provides name
  rw [Renders, Expression.term]
  simp only [Term.evaluate, Term.evaluateAll, provides.conversion, value, pure_bind,
    map_eq_pure_bind, bind_assoc, Runtime.apply]

theorem renders_pluralValue
    (provides : Provides environment enclosing next around) :
    Renders locale environment (pluralValue enclosing)
      (Element.pluralValue.render isCompared runtime locale around) := by
  cases provides.around with
  | none => simp [Renders, pluralValue, Expression.term, Term.evaluate, Element.render]
  | some holds =>
      exact evaluate_ask locale provides _ "format" (evaluate_difference locale holds)

theorem renders_concatenation
    {left right : Expression}
    {front back : M Units}
    (first : Renders locale environment left front)
    (second : Renders locale environment right back) :
    Renders locale environment (.concatenation left right)
      (do return (← front) ++ (← back)) := by
  have leftValue : (left.term locale).evaluate runtime environment = _ := first
  have rightValue : (right.term locale).evaluate runtime environment = _ := second
  rw [Renders, Expression.term]
  simp only [Term.evaluate, leftValue, rightValue, map_eq_pure_bind, bind_assoc, pure_bind]

end

mutual

theorem renders_compileElement
    [LawfulMonad M]
    (enclosing : Option Enclosing)
    (next : Nat) :
    (element : Element) →
      next ≤ (compileElement enclosing next element).2 ∧
        ∀ {environment : runtime.Environment} {around : Option runtime.Number},
          Provides environment enclosing next around →
            Renders locale environment (compileElement enclosing next element).1
              (element.render isCompared runtime locale around)
  | .text value => by
      refine ⟨Nat.le_refl next, fun _ => ?_⟩
      simp [Renders, compileElement, Expression.term, Term.evaluate, Element.render]
  | .argument name => ⟨Nat.le_refl next, fun provides => renders_argument locale provides name⟩
  | .number name style =>
      ⟨Nat.le_refl next, fun provides => renders_formatted locale provides _ name⟩
  | .date name style =>
      ⟨Nat.le_refl next, fun provides => renders_formatted locale provides _ name⟩
  | .time name style =>
      ⟨Nat.le_refl next, fun provides => renders_formatted locale provides _ name⟩
  | .pluralValue => ⟨Nat.le_refl next, fun provides => renders_pluralValue locale provides⟩
  | .plural name ordinal offset options => by
      have inner := renders_compilePluralOptions
        (some ⟨⟨.number, next⟩, offset⟩) (next + 1) options
      refine ⟨Nat.le_of_succ_le inner.1, fun {environment around} provides => ?_⟩
      have value := evaluate_argument locale provides name
      show (Term.apply _ _ _).evaluate runtime environment = _
      rw [Term.evaluate, Expression.term, Element.render]
      simp only [Term.evaluate, value, map_eq_pure_bind, bind_assoc, pure_bind]
      refine bind_congr fun argument => bind_congr fun number => ?_
      have entered := provides.enter number offset
      rw [← map_eq_pure_bind]
      exact run_pluralBody locale entered List.lookup_cons_self ordinal (inner.2 entered)
  | .select name options => by
      have inner := renders_compileSelectOptions enclosing (next + 1) options
      refine ⟨Nat.le_of_succ_le inner.1, fun {environment around} provides => ?_⟩
      have value := evaluate_argument locale provides name
      show (Term.apply _ _ _).evaluate runtime environment = _
      rw [Term.evaluate, value, Element.render]
      simp only [map_eq_pure_bind, bind_assoc, pure_bind]
      refine bind_congr fun argument => ?_
      have bound := provides.bind .text (.external argument)
      have chosen := run_selectBody locale bound List.lookup_cons_self (inner.2 bound)
      rw [map_eq_pure_bind, bind_assoc] at chosen
      exact chosen

theorem renders_compileAfter
    [LawfulMonad M]
    (enclosing : Option Enclosing)
    (next : Nat)
    (front : Expression) :
    (elements : List Element) →
      next ≤ (compileAfter enclosing next front elements).2 ∧
        ∀ {environment : runtime.Environment} {around : Option runtime.Number} {text : M Units},
          Provides environment enclosing next around →
            Renders locale environment front text →
              Renders locale environment (compileAfter enclosing next front elements).1
                (do return (← text) ++ (← Pattern.render isCompared runtime locale around elements))
  | [] => by
      refine ⟨Nat.le_refl next, fun _ renders => ?_⟩
      simpa [Pattern.render, compileAfter] using renders
  | element :: rest => by
      have head := renders_compileElement enclosing next element
      have tail := renders_compileAfter enclosing (compileElement enclosing next element).2
        (.concatenation front (compileElement enclosing next element).1) rest
      refine ⟨Nat.le_trans head.1 tail.1, fun {environment around text} provides renders => ?_⟩
      have joined := tail.2 (provides.mono head.1)
        (renders_concatenation locale renders (head.2 provides))
      have same : (do
          let front ← (do return (← text) ++ (← element.render isCompared runtime locale around))
          return front ++ (← Pattern.render isCompared runtime locale around rest)) =
          (do return (← text) ++
            (← Pattern.render isCompared runtime locale around (element :: rest))) := by
        simp only [Pattern.render, bind_assoc, pure_bind, List.append_assoc]
      rw [same] at joined
      exact joined

theorem renders_compilePattern
    [LawfulMonad M]
    (enclosing : Option Enclosing)
    (next : Nat) :
    (pattern : List Element) →
      next ≤ (compilePattern enclosing next pattern).2 ∧
        ∀ {environment : runtime.Environment} {around : Option runtime.Number},
          Provides environment enclosing next around →
            Renders locale environment (compilePattern enclosing next pattern).1
              (Pattern.render isCompared runtime locale around pattern)
  | [] => by
      refine ⟨Nat.le_refl next, fun _ => ?_⟩
      simp [Renders, compilePattern, Expression.term, Term.evaluate, Pattern.render, units]
  | element :: rest => by
      have head := renders_compileElement enclosing next element
      have tail := renders_compileAfter enclosing (compileElement enclosing next element).2
        (compileElement enclosing next element).1 rest
      exact ⟨Nat.le_trans head.1 tail.1, fun provides =>
        tail.2 (provides.mono head.1) (head.2 provides)⟩

theorem renders_compilePluralOptions
    [LawfulMonad M]
    (enclosing : Option Enclosing)
    (next : Nat) :
    (options : List PluralOption) →
      next ≤ (compilePluralOptions enclosing next options).2 ∧
        ∀ {environment : runtime.Environment} {around : Option runtime.Number},
          Provides environment enclosing next around →
            RenderAll locale environment (compilePluralOptions enclosing next options).1
              (PluralOption.renderAll isCompared runtime locale around options)
  | [] => ⟨Nat.le_refl next, fun _ => .nil⟩
  | .mk selector value :: rest => by
      have head := renders_compilePattern enclosing next value
      have tail := renders_compilePluralOptions enclosing
        (compilePattern enclosing next value).2 rest
      exact ⟨Nat.le_trans head.1 tail.1, fun provides =>
        .cons ⟨rfl, head.2 provides⟩ (tail.2 (provides.mono head.1))⟩

theorem renders_compileSelectOptions
    [LawfulMonad M]
    (enclosing : Option Enclosing)
    (next : Nat) :
    (options : List SelectOption) →
      next ≤ (compileSelectOptions enclosing next options).2 ∧
        ∀ {environment : runtime.Environment} {around : Option runtime.Number},
          Provides environment enclosing next around →
            RenderAll locale environment (compileSelectOptions enclosing next options).1
              (SelectOption.renderAll isCompared runtime locale around options)
  | [] => ⟨Nat.le_refl next, fun _ => .nil⟩
  | .mk key value :: rest => by
      have head := renders_compilePattern enclosing next value
      have tail := renders_compileSelectOptions enclosing
        (compilePattern enclosing next value).2 rest
      exact ⟨Nat.le_trans head.1 tail.1, fun provides =>
        .cons ⟨rfl, head.2 provides⟩ (tail.2 (provides.mono head.1))⟩

end

end Renderer
end MessageExpansion
