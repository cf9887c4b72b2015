import MessageExpansion.Script.Parser
import MessageExpansion.Proofs.Script.Grammar.Statement

/-!
# Offsets of calls

Every level of the grammar is sound if the level below is, so all of them are.  Hence the calls of a
script nest, and their offsets are places of its text.
-/

namespace MessageExpansion
namespace Script

open Std.Do
open Recogniser

set_option mvcgen.warning false

section Levels

variable [Source] {first : Cursor} {grammar : Grammar}

theorem ReadsPiece.reads
    {recogniser : Recogniser Piece}
    (reads : ReadsPiece first recogniser) :
    Reads first recogniser := by
  refine reads.imp fun piece last read => ?_
  obtain ⟨leads, sound, startLe, stopLe⟩ := read
  exact ⟨leads, sound.calls.mono startLe stopLe⟩

namespace Grammar

/-- The rules of a sound grammar read what they yield. -/
theorem reads_rule
    [grammar.Sound]
    (goal : Goal) :
    Reads first (grammar.rule goal) := by
  cases goal with
  | statement topLevel => exact reads_statement
  | assignment allowIn allowResultType => exact readsPiece_assignmentRule.reads
  | unary => exact readsPiece_unary.reads
  | leftHand => exact readsPiece_leftHandRule.reads
  | constructed => exact readsPiece_constructedRule.reads
  | binding => exact reads_binding
  | type => exact reads_type
  | element => exact readsElement_elementRule.imp fun piece last read => read.1

/-- A grammar without levels recognises nothing; every other one applies its rules to the level
below. -/
theorem sound_recognise
    (dialect : Dialect)
    (limit levels : Nat) :
    Sound ⟨recognise dialect limit levels, limit, dialect⟩ := by
  induction levels with
  | zero =>
      refine ⟨fun goal first => ?_, fun allowIn allowResultType first => ?_, fun first => ?_,
        fun first => ?_⟩ <;> mvcgen [recognise]
  | succ levels inductionHypothesis =>
      exact ⟨fun goal first => reads_rule goal,
        fun allowIn allowResultType first => readsPiece_assignmentRule,
        fun first => readsPiece_constructedRule, fun first => readsElement_elementRule⟩

end Grammar

theorem reads_script
    [grammar.Sound] :
    Reads first (script grammar) := by
  refine .of_outcome fun outcome => ?_
  mvcgen [script] <;> grind -linarith

end Levels

theorem isIn_firstPlace
    (text : List Char) :
    (firstPlace text).IsIn text := by
  have whole : Place.IsIn ⟨0, text⟩ text := .refl _
  unfold firstPlace
  split <;> simp only
  · split
    · exact (whole.skip 1).skipWhile _
    · exact whole.skip 1
  · split
    · exact whole.skipWhile _
    · exact whole

variable {dialect : Dialect} {text : List Char} {trees : List CallTree}

/-- The calls of a script nest, and no tree begins before the place where its tokens do. -/
theorem between_of_parse
    (parsed : parse dialect text = some trees) :
    CallTree.NestAll text trees ∧
      ∀ tree ∈ trees, (firstPlace text).offset ≤ tree.call.span.start := by
  let source : Source := ⟨text⟩
  unfold parse at parsed
  obtain ⟨⟨calls, last⟩, run, rfl⟩ := Option.map_eq_some_iff.mp parsed
  have sound := Grammar.sound_recognise dialect (8 * (maxTokens text + 1)) (8 * (maxTokens text + 1))
  have stands : (Cursor.after (firstPlace text)).Stands :=
    Cursor.stands_after (isIn_firstPlace text)
  have read := triple_iff.mp reads_script _ _ _ ⟨rfl, stands⟩ run
  exact ⟨read.2.nests, fun tree present =>
    Nat.le_trans (Cursor.le_start_after _) (read.2.startLe tree present)⟩

/-- The calls of a script nest. -/
theorem nestAll_of_parse
    (parsed : parse dialect text = some trees) :
    CallTree.NestAll text trees :=
  (between_of_parse parsed).1

/-- No call of a script begins before the place where its tokens do. -/
theorem le_start_of_parse
    (parsed : parse dialect text = some trees)
    {call : Call}
    (present : call ∈ CallTree.visitsAll trees) :
    (firstPlace text).offset ≤ call.span.start := by
  obtain ⟨nests, first⟩ := between_of_parse parsed
  obtain ⟨-, tree, treePresent, startLe, -⟩ :=
    CallTree.fits_of_mem_visitsAll trees nests call present
  exact Nat.le_trans (first tree treePresent) startLe

/-- The calls of a script fit into its text. -/
theorem fits_of_parse
    (parsed : parse dialect text = some trees)
    {call : Call}
    (present : call ∈ CallTree.visitsAll trees) :
    call.Fits text :=
  (CallTree.fits_of_mem_visitsAll trees (nestAll_of_parse parsed) call present).1

end Script
end MessageExpansion
