import MessageExpansion.Script.Parser
import MessageExpansion.Proofs.Script.Renumbering.Grammar.Module

/-!
# Parsing renumbered texts

A statement begins with the same keyword in both texts, or with none.  So a script follows the
grammar if and only if a renumbered one does.
-/

namespace MessageExpansion
namespace Script
namespace Grammar

open Recogniser

set_option synthInstance.maxSize 100000

variable {grammar : Grammar} [grammar.StaysInStep]

/-! ### Statements -/

instance :
    InStep Any grammar.body grammar.body := by
  unfold body
  infer_instance

instance :
    InStep Any grammar.condition grammar.condition := by
  unfold condition
  infer_instance

instance : IsPlainWord "else" := ⟨by decide⟩

instance :
    InStep Any grammar.ifRest grammar.ifRest := by
  unfold ifRest
  infer_instance

instance :
    InStep Any grammar.loopStart grammar.loopStart := by
  unfold loopStart
  infer_instance

instance
    (close : Punctuator) :
    InStep Any (grammar.sequenceBefore close) (grammar.sequenceBefore close) := by
  unfold sequenceBefore
  infer_instance

instance :
    InStep Any grammar.loopHead grammar.loopHead := by
  unfold loopHead
  infer_instance

instance :
    InStep Any grammar.forRest grammar.forRest := by
  unfold forRest
  infer_instance

instance :
    InStep Any grammar.guardedRest grammar.guardedRest := by
  unfold guardedRest
  infer_instance

instance : IsPlainWord "while" := ⟨by decide⟩

instance :
    InStep Any grammar.doRest grammar.doRest := by
  unfold doRest
  infer_instance

instance : IsPlainWord "case" := ⟨by decide⟩

instance :
    InStep Any grammar.switchCase grammar.switchCase := by
  unfold switchCase
  infer_instance

instance :
    InStep Any grammar.switchRest grammar.switchRest := by
  unfold switchRest
  infer_instance

instance :
    InStep Any grammar.handlerRest grammar.handlerRest := by
  unfold handlerRest
  infer_instance

instance : IsPlainWord "catch" := ⟨by decide⟩

instance : IsPlainWord "finally" := ⟨by decide⟩

instance :
    InStep Any grammar.tryRest grammar.tryRest := by
  unfold tryRest
  infer_instance

instance :
    InStep Any grammar.returnRest grammar.returnRest := by
  unfold returnRest
  infer_instance

instance :
    InStep Any grammar.throwRest grammar.throwRest := by
  unfold throwRest
  infer_instance

instance :
    InStep Any jumpRest jumpRest := by
  unfold jumpRest
  infer_instance

/-- Both statements begin with a keyword or none of them does, and what comes behind stays in
step. -/
def KeywordsAgree (first second : Option (Recogniser (List CallTree))) : Prop :=
  Option.Rel (fun rest other => InStep Any rest other) first second

theorem keywordsAgree_keywordRest?
    (word : String) :
    KeywordsAgree (grammar.keywordRest? word) (grammar.keywordRest? word) := by
  unfold keywordRest?
  split <;> first | exact .none | exact .some inferInstance

omit [grammar.StaysInStep] in
/-- No keyword has an underscore. -/
theorem keywordRest?_of_underscore
    {word : String}
    (underscore : '_' ∈ word.toList) :
    grammar.keywordRest? word = none := by
  unfold keywordRest?
  split <;> first | rfl | exact absurd underscore (by decide)

instance :
    InStep KeywordsAgree grammar.statementKeyword? grammar.statementKeyword? := by
  refine InStep.kind.bind fun {found _} agree => ?_
  cases agree with
  | same =>
      cases found with
      | name text escaped =>
          cases escaped with
          | true => exact .pure .none
          | false => exact .pure (keywordsAgree_keywordRest? text)
      | _ => exact .pure .none
  | names inFirst inSecond escaped =>
      cases escaped with
      | true => exact .pure .none
      | false =>
          simp only [keywordRest?_of_underscore inFirst, keywordRest?_of_underscore inSecond]
          exact .pure .none
  | strings => exact .pure .none

instance :
    InStep Eq atLabel atLabel := by
  unfold atLabel
  infer_instance

instance :
    InStep Any grammar.expressionStatement grammar.expressionStatement := by
  unfold expressionStatement
  infer_instance

instance :
    InStep Any grammar.ordinaryStatement grammar.ordinaryStatement := by
  have opens : InStep Eq (atPunctuator .openBrace) (atPunctuator .openBrace) := inferInstance
  have empty : InStep Eq (eat .semicolon) (eat .semicolon) := inferInstance
  have keyword : InStep KeywordsAgree grammar.statementKeyword? grammar.statementKeyword? :=
    inferInstance
  unfold ordinaryStatement
  refine opens.bind fun {isBlock _} same => ?_
  subst same
  split
  · infer_instance
  · refine empty.bind fun {isEmpty _} same => ?_
    subst same
    split
    · infer_instance
    · refine keyword.bind fun related => ?_
      cases related with
      | none => infer_instance
      | some step =>
          have := step
          infer_instance

instance
    (topLevel : Bool) :
    InStep Any (grammar.statement topLevel) (grammar.statement topLevel) := by
  unfold statement
  infer_instance

end Grammar

/-! ### Scripts -/

open Recogniser

set_option synthInstance.maxSize 100000

/-- Rules stay in step if the goals inside them do. -/
theorem Grammar.inStep_rule
    {grammar : Grammar}
    [grammar.StaysInStep]
    (goal : Goal) :
    InStep Any (grammar.rule goal) (grammar.rule goal) := by
  unfold Grammar.rule
  cases goal <;> infer_instance

theorem inStep_recognise
    (dialect : Dialect)
    (limit levels : Nat)
    (goal : Goal) :
    InStep Any (recognise dialect limit levels goal) (recognise dialect limit levels goal) := by
  induction levels generalizing goal with
  | zero => exact ⟨fun _ => .none⟩
  | succ levels inductionHypothesis =>
      have : Grammar.StaysInStep ⟨recognise dialect limit levels, limit, dialect⟩ :=
        ⟨inductionHypothesis⟩
      exact Grammar.inStep_rule goal

/-- Renumbering a script does not change whether it follows the grammar. -/
theorem isSome_parse_eq
    {first second : List Char}
    (renumbered : Renumbered first second)
    (dialect : Dialect) :
    (parse dialect first).isSome = (parse dialect second).isSome := by
  have step (limit : Nat) : InStep Any
      (script ⟨recognise dialect limit limit, limit, dialect⟩)
      (script ⟨recognise dialect limit limit, limit, dialect⟩) := by
    have : Grammar.StaysInStep ⟨recognise dialect limit limit, limit, dialect⟩ :=
      ⟨inStep_recognise dialect limit limit⟩
    unfold script
    infer_instance
  have present {found other : Option (List CallTree × Cursor)}
      {related : List CallTree × Cursor → List CallTree × Cursor → Prop}
      (outcome : Option.Rel related found other) : found.isSome = other.isSome := by
    cases outcome <;> rfl
  rw [parse, parse, renumbered.maxTokens_eq, Option.isSome_map, Option.isSome_map]
  exact present ((step _).outcome (agree_after (agree_firstPlace renumbered)))

end Script
end MessageExpansion
