import MessageExpansion.Proofs.Command.Numbering
import MessageExpansion.Proofs.Expansion.Renumbering

/-!
# Scripts with other numbers

A script is inlined to the same text but for numbers wherever the numbering of its functions begins.
So the outputs of a command are the same, whether they go to one place, where the numbers of each
script go on from those of the one before it, or each to a file of its own, where they begin anew.
-/

namespace MessageExpansion

open Script (Span Renumbered)

/-- In a numbering from `other` on, the index of what has the given one in a numbering from `first`
on. -/
def renumber (first other index : Nat) : Nat := index + other - first

theorem renumber_comp_add
    (first other : Nat) :
    renumber first other ∘ (first + ·) = (other + ·) := by
  funext index
  show first + index + other - first = other + index
  omega

/-! ### One script -/

/-- Two runs over a script, with indices from `first` and from `other` on: the second one takes the
index `renumber first other index` wherever the first one takes `index`, and that is all they differ
in. -/
structure DiffersInNumbers (inlining : Inlining) (first other : Nat)
    (state otherState : InliningState) (result otherResult : InlinedScript)
    (expansions : List (Span × Expansion)) (functions : List (Nat × RenderFunction)) : Prop where
  /-- The calls are visited. -/
  visited : inlining.visitAll (.start first) inlining.calls = (state, none)
  otherVisited : inlining.visitAll (.start other) inlining.calls = (otherState, none)
  /-- The edits of the first run come from expansions, and functions are put behind the script. -/
  inStep : InStep inlining first state result expansions functions
  /-- Those of the second run are the same, with other indices. -/
  otherInStep : InStep inlining other otherState otherResult
    (Expansion.renumberAll (renumber first other) expansions)
    (renumberFunctions inlining.session.function (renumber first other) functions)
  /-- The edits are made in the same stretches. -/
  stretches : state.replacements.map (fun replaced => (replaced.edit.start, replaced.edit.stop)) =
    otherState.replacements.map fun replaced => (replaced.edit.start, replaced.edit.stop)
  /-- As many calls are replaced. -/
  replaced : result.replaced = otherResult.replaced
  /-- As many functions are hoisted. -/
  generated : result.generated = otherResult.generated
  /-- As many indices are used up. -/
  next : ∃ used, result.next = first + used ∧ otherResult.next = other + used
  /-- The texts differ in nothing but digits in front of parentheses. -/
  text : Renumbered result.text otherResult.text

/-- What comes of a script in two runs that differ in the index that functions are numbered from. -/
structure OutcomesAgree (inlining : Inlining) (first other : Nat)
    (outcome otherOutcome : InliningOutcome) : Prop where
  /-- The same localizations could not be used. -/
  warnings : outcome.warnings = otherOutcome.warnings
  /-- Both fail with the same error, or both yield a script. -/
  result : (∃ error, outcome.result = .error error ∧ otherOutcome.result = .error error) ∨
    ∃ state otherState result otherResult expansions functions,
      outcome.result = .ok result ∧ otherOutcome.result = .ok otherResult ∧
        DiffersInNumbers inlining first other state otherState result otherResult expansions functions

namespace Draft.Describes

variable {inlining : Inlining} {inputMap : Option PositionMap} {first other : Nat} {draft : Draft}
  {state otherState : InliningState} {result otherResult : InlinedScript}

/-- What is put behind the script are the functions of the draft. -/
theorem trailer_eq
    (describes : draft.Describes inlining first state) :
    state.hoisted.flush.1.map String.toList = trailerOf
      ((renumberFunctions inlining.session.function (first + ·) draft.functions).map (·.2)) :=
  (flush_of_entries describes.accounted.entries).1

/-- A draft that describes two states yields the account of the second one with renumbered
indices. -/
theorem accounted_renumber
    (describes : draft.Describes inlining other otherState)
    (first : Nat) :
    Accounted inlining otherState.replacements otherState.hoisted
      (Expansion.renumberAll (renumber first other)
        (Expansion.renumberAll (first + ·) draft.expansions))
      (renumberFunctions inlining.session.function (renumber first other)
        (renumberFunctions inlining.session.function (first + ·) draft.functions)) := by
  rw [Expansion.renumberAll_renumberAll, renumberFunctions_renumberFunctions, renumber_comp_add]
  exact describes.accounted

/-- Two states with one draft are printed, or both are given up. -/
theorem finish_cases
    (describes : draft.Describes inlining first state)
    (otherDescribes : draft.Describes inlining other otherState) :
    (∃ error, inlining.finish inputMap state = .error error ∧
      inlining.finish inputMap otherState = .error error) ∨
    ∃ result otherResult, inlining.finish inputMap state = .ok result ∧
      inlining.finish inputMap otherState = .ok otherResult := by
  have sound := inlining.isSound_eq (renumbered_trailerOf inlining.session.function
    (first + ·) (other + ·) draft.functions)
  rw [← describes.trailer_eq, ← otherDescribes.trailer_eq] at sound
  unfold Inlining.finish
  simp only [sound]
  split
  · exact .inr ⟨_, _, rfl, rfl⟩
  · exact .inl ⟨_, rfl, rfl⟩

/-- Two states with one draft are printed alike but for numbers. -/
theorem differsInNumbers
    (visited : inlining.visitAll (.start first) inlining.calls = (state, none))
    (otherVisited : inlining.visitAll (.start other) inlining.calls = (otherState, none))
    (describes : draft.Describes inlining first state)
    (otherDescribes : draft.Describes inlining other otherState)
    (printed : inlining.finish inputMap state = .ok result)
    (otherPrinted : inlining.finish inputMap otherState = .ok otherResult) :
    DiffersInNumbers inlining first other state otherState result otherResult
      (Expansion.renumberAll (first + ·) draft.expansions)
      (renumberFunctions inlining.session.function (first + ·) draft.functions) := by
  obtain ⟨-, replaced, generated, next⟩ := Inlining.finish_ok printed
  obtain ⟨-, otherReplaced, otherGenerated, otherNext⟩ := Inlining.finish_ok otherPrinted
  have inStep := describes.accounted.inStep describes.firstEqual printed
  have otherInStep := otherDescribes.accounted.inStep otherDescribes.firstEqual otherPrinted
  refine ⟨visited, otherVisited, inStep,
    (otherDescribes.accounted_renumber first).inStep otherDescribes.firstEqual otherPrinted,
    ?_, ?_, ?_, ?_, ?_⟩
  · rw [describes.accounted.replaced, otherDescribes.accounted.replaced]
    simp [Expansion.renumberAll_eq_map, Expansion.replacement]
  · rw [replaced, otherReplaced, describes.replaced, otherDescribes.replaced]
  · rw [inStep.generated, otherInStep.generated]
    simp [renumberFunctions]
  · refine ⟨HoistedFunctions.indexBehind 0 (draft.functions.map (·.1)), ?_, ?_⟩
    · rw [next]
      exact next_of_accounted describes.accounted describes.firstEqual describes.trimmed
    · rw [otherNext]
      exact next_of_accounted otherDescribes.accounted otherDescribes.firstEqual
        otherDescribes.trimmed
  · rw [inStep.printed, otherInStep.printed]
    exact renumbered_ofEdits _ _ (Expansion.alike_edits inlining _ _ _)
      (renumbered_trailerOf _ _ _ _)

end Draft.Describes

/-- What comes of a script does not depend on where the numbering of its functions begins, but for
the numbers. -/
theorem Inlining.outcomesAgree
    (inlining : Inlining)
    (inputMap : Option PositionMap)
    (first other : Nat) :
    OutcomesAgree inlining first other (inlining.run inputMap first)
      (inlining.run inputMap other) := by
  unfold run
  cases parsed : Script.parse (.ofPath inlining.file) inlining.script with
  | none => exact ⟨rfl, .inl ⟨_, rfl, rfl⟩⟩
  | some trees =>
      have calls : Script.CallTree.visitsAll trees = inlining.calls := by
        rw [Inlining.calls, parsed]
        rfl
      obtain ⟨draft, outcome, described⟩ := Draft.exists_visitAll inlining .empty inlining.calls
      obtain ⟨state, visited, describes⟩ := described first _ (Draft.describes_start inlining first)
      obtain ⟨otherState, otherVisited, otherDescribes⟩ :=
        described other _ (Draft.describes_start inlining other)
      have warnings : state.warnings = otherState.warnings :=
        describes.warnings.trans otherDescribes.warnings.symm
      simp only [runOver, calls, visited, otherVisited]
      cases outcome with
      | some error => exact ⟨warnings, .inl ⟨error, rfl, rfl⟩⟩
      | none =>
          refine ⟨warnings, ?_⟩
          rcases describes.finish_cases otherDescribes with
            failed | ⟨result, otherResult, printed, otherPrinted⟩
          · exact .inl failed
          · exact .inr ⟨state, otherState, result, otherResult, _, _, printed, otherPrinted,
              describes.differsInNumbers visited otherVisited otherDescribes printed otherPrinted⟩

/-! ### The scripts of a command -/

/-- What came of one script in its own file and in a place with others: it failed in both for the
same reason, or its outputs are the same but for numbers. -/
structure InlinedSource.Agrees (session : Session) (own shared : InlinedSource) : Prop where
  /-- What was warned of is the same. -/
  warnings : own.warnings = shared.warnings
  /-- Both failed, or both did not. -/
  result : (∃ failure, own.result = .error failure ∧ shared.result = .error failure) ∨
    ∃ file sharedFile, own.result = .ok file ∧ shared.result = .ok sharedFile ∧
      file.name = sharedFile.name ∧ file.subpath = sharedFile.subpath ∧
      ∃ text first state sharedState expansions functions,
        DiffersInNumbers ⟨session, file.name, text⟩ 1 first state sharedState file.script
          sharedFile.script expansions functions

namespace InlineCommand

variable {session : Session} {workspace : Workspace}

theorem agrees_inlineSource
    (first : Nat)
    (source : ScriptSource) :
    (inlineSource session workspace 1 source).Agrees session
      (inlineSource session workspace first source) := by
  unfold inlineSource
  split
  next mapWarnings inputMap _ =>
    dsimp only
    have agree := Inlining.outcomesAgree ⟨session, source.name, source.text⟩ inputMap 1 first
    rcases agree.result with ⟨error, failed, alsoFailed⟩ | ⟨state, otherState, result, otherResult,
      expansions, functions, succeeded, alsoSucceeded, differs⟩
    · simp only [failed, alsoFailed, agree.warnings]
      exact ⟨rfl, .inl ⟨_, rfl, rfl⟩⟩
    · simp only [succeeded, alsoSucceeded, agree.warnings]
      exact ⟨rfl, .inr ⟨_, _, rfl, rfl, rfl, rfl, _, _, _, _, _, _, differs⟩⟩

/-- Scripts by themselves and one after the other: of each comes the same but for numbers. -/
theorem agrees_inlineInOrder
    (session : Session)
    (workspace : Workspace)
    (first : Nat)
    (sources : List (Except FileFailure ScriptSource)) :
    List.Forall₂ (InlinedSource.Agrees session) (inlineEach session workspace sources)
      (inlineInOrder session workspace first sources) := by
  induction sources generalizing first with
  | nil => exact .nil
  | cons read rest inductionHypothesis =>
      cases read with
      | error failure =>
          exact .cons ⟨rfl, .inl ⟨failure, rfl, rfl⟩⟩ (inductionHypothesis first)
      | ok source => exact .cons (agrees_inlineSource first source) (inductionHypothesis _)

/--
The number from which the functions of a script are counted decides nothing but their numbers: runs
from any two numbers fail alike, or they yield texts that are edited in the same stretches and have
the same functions, renumbered, behind them.  So outputs in files of their own and outputs in one
place differ only in the numbering.
-/
theorem outputs_renumbered :
    (∀ inlining inputMap first other, OutcomesAgree inlining first other
      (inlining.run inputMap first) (inlining.run inputMap other)) ∧
    ∀ session workspace first sources,
      List.Forall₂ (InlinedSource.Agrees session) (inlineEach session workspace sources)
        (inlineInOrder session workspace first sources) :=
  ⟨Inlining.outcomesAgree, agrees_inlineInOrder⟩

end InlineCommand
end MessageExpansion
