import MessageExpansion.Script.Grammar.Statement
import MessageExpansion.Proofs.Script.Grammar.Module

/-!
# What statements read

The test of a `do` statement comes before its body in the list of calls, and behind it in the text;
all other calls keep the order of the text.
-/

namespace MessageExpansion
namespace Script
namespace Grammar

open Std.Do
open Recogniser

set_option mvcgen.warning false

variable [Source] {first : Cursor} {grammar : Grammar} [grammar.Sound]

@[spec] theorem reads_body :
    Reads first grammar.body := by
  refine .of_outcome fun outcome => ?_
  mvcgen [body] <;> grind -linarith

@[spec] theorem reads_condition :
    Reads first grammar.condition := by
  refine .of_outcome fun outcome => ?_
  mvcgen [condition] <;> grind -linarith

@[spec] theorem reads_ifRest :
    Reads first grammar.ifRest := by
  refine .of_outcome fun outcome => ?_
  mvcgen [ifRest] <;> grind -linarith

@[spec] theorem reads_loopStart :
    Reads first grammar.loopStart := by
  refine .of_outcome fun outcome => ?_
  mvcgen [loopStart] <;> grind -linarith

@[spec] theorem reads_sequenceBefore
    {close : Punctuator} :
    Reads first (grammar.sequenceBefore close) := by
  refine .of_outcome fun outcome => ?_
  mvcgen [sequenceBefore] <;> grind -linarith

@[spec] theorem reads_loopHead :
    Reads first grammar.loopHead := by
  refine .of_outcome fun outcome => ?_
  mvcgen [loopHead] <;> grind -linarith

@[spec] theorem reads_forRest :
    Reads first grammar.forRest := by
  refine .of_outcome fun outcome => ?_
  mvcgen [forRest] <;> grind -linarith

@[spec] theorem reads_guardedRest :
    Reads first grammar.guardedRest := by
  refine .of_outcome fun outcome => ?_
  mvcgen [guardedRest] <;> grind -linarith

@[spec] theorem reads_doRest :
    Reads first grammar.doRest := by
  refine .of_outcome fun outcome => ?_
  mvcgen [doRest] <;> grind -linarith

@[spec] theorem reads_switchCase :
    Reads first grammar.switchCase := by
  refine .of_outcome fun outcome => ?_
  mvcgen [switchCase] <;> grind -linarith

@[spec] theorem reads_switchRest :
    Reads first grammar.switchRest := by
  refine .of_outcome fun outcome => ?_
  mvcgen [switchRest] <;> grind -linarith

@[spec] theorem reads_handlerRest :
    Reads first grammar.handlerRest := by
  refine .of_outcome fun outcome => ?_
  mvcgen [handlerRest] <;> grind -linarith

@[spec] theorem reads_tryRest :
    Reads first grammar.tryRest := by
  refine .of_outcome fun outcome => ?_
  mvcgen [tryRest] <;> grind -linarith

@[spec] theorem reads_returnRest :
    Reads first grammar.returnRest := by
  refine .of_outcome fun outcome => ?_
  mvcgen [returnRest] <;> grind -linarith

@[spec] theorem reads_throwRest :
    Reads first grammar.throwRest := by
  refine .of_outcome fun outcome => ?_
  mvcgen [throwRest] <;> grind -linarith

@[spec] theorem reads_jumpRest :
    Reads first jumpRest := by
  refine .of_outcome fun outcome => ?_
  mvcgen [jumpRest] <;> grind -linarith

/-- Whatever statement a keyword begins, its rest is read. -/
theorem reads_of_keywordRest?
    {word : String}
    {rest : Recogniser (List CallTree)}
    (begins : grammar.keywordRest? word = some rest) :
    Reads first rest := by
  unfold keywordRest? at begins
  split at begins <;> cases begins
  · exact reads_ifRest
  · exact reads_forRest
  · exact reads_guardedRest
  · exact reads_guardedRest
  · exact reads_doRest
  · exact reads_switchRest
  · exact reads_tryRest
  · exact reads_returnRest
  · exact reads_throwRest
  · exact reads_jumpRest
  · exact reads_jumpRest
  · mvcgen <;> grind -linarith

@[spec] theorem looks_statementKeyword? :
    Looks first grammar.statementKeyword? fun value =>
      ∀ rest ∈ value, ∀ first, Reads first rest := by
  mvcgen [statementKeyword?]
  · exact ⟨by grind -linarith, fun rest begins first => reads_of_keywordRest? begins⟩
  · exact ⟨by grind -linarith, fun rest begins => nomatch begins⟩

omit [Source] in
@[spec] theorem looks_atLabel :
    Looks first atLabel fun _ => True := by
  mvcgen [atLabel] <;> grind -linarith

@[spec] theorem reads_expressionStatement :
    Reads first grammar.expressionStatement := by
  refine .of_outcome fun outcome => ?_
  mvcgen [expressionStatement] <;> grind -linarith

@[spec] theorem reads_ordinaryStatement :
    Reads first grammar.ordinaryStatement := by
  refine .of_outcome fun outcome => ?_
  mvcgen [ordinaryStatement]
  case vc6 =>
    rename_i reads _
    intro last leads _
    refine (reads.2 _ rfl last).imp (fun value final read => ?_) last ⟨rfl, leads.stands⟩
    grind -linarith
  all_goals grind -linarith

@[spec] theorem reads_statement
    {topLevel : Bool} :
    Reads first (grammar.statement topLevel) := by
  refine .of_outcome fun outcome => ?_
  mvcgen [statement] <;> grind -linarith

end Grammar
end Script
end MessageExpansion
