import MessageExpansion.Proofs.Expansion.Survival
import MessageExpansion.Proofs.Lint.Agreement

/-!
# Linting warns of the calls that inlining leaves alone

Which calls are replaced depends on what the calls inside them fold to, and so on localizations, on
the policy for broken ones and on the locales that calls name.  Linting finds out by checks of its
own on each argument.  As long as no call makes inlining fail, the two agree call by call: a named
call is replaced unless linting complains about its arguments.
-/

namespace MessageExpansion

open Script (Call CallTree)

/-- A call, and what linting reports of it. -/
structure CallReport where
  call : Call
  issues : List Issue

/-- Linting complains about the arguments of the call. -/
def CallReport.isMalformed (report : CallReport) : Bool :=
  report.issues.any (·.rule == .malformedArguments)

namespace Linting

/-- What linting reports of each call of a list, in the order of the visits. -/
def reports (linting : Linting) : LintingState → List Call → List CallReport
  | _, [] => []
  | state, call :: rest =>
      ⟨call, (linting.found state call).map (·.issue)⟩ ::
        linting.reports (linting.visit state call) rest

variable {linting : Linting} {state : LintingState} {call : Call}

/-- There is a report of every call. -/
theorem map_call_reports
    (calls : List Call) :
    (linting.reports state calls).map (·.call) = calls := by
  induction calls generalizing state with
  | nil => rfl
  | cons call rest inductionHypothesis => rw [reports, List.map_cons, inductionHypothesis]

/-- The reports together are what linting finds. -/
theorem flatMap_issues_reports
    (calls : List Call) :
    (linting.reports state calls).flatMap (·.issues) =
      (linting.foundAll state calls).map (·.issue) := by
  induction calls generalizing state with
  | nil => rfl
  | cons call rest inductionHypothesis =>
      rw [reports, List.flatMap_cons, inductionHypothesis, foundAll, List.map_append]

/-- Of a call that is not named nothing is reported. -/
theorem found_of_unnamed
    (unnamed : ¬ call.isNamed linting.session.function = true) :
    linting.found state call = [] := by
  unfold found visit
  rw [if_neg unnamed, List.drop_length]
  rfl

/-- What is reported of a call is reported at its place. -/
theorem excerpt?_of_mem_found
    {finding : Finding}
    (present : finding ∈ linting.found state call) :
    finding.issue.excerpt? =
      some (Excerpt.ofOffset linting.file linting.script call.span.start) := by
  by_cases named : call.isNamed linting.session.function = true
  · rw [found_of_named named] at present
    obtain ⟨problem, _, rfl⟩ := List.mem_map.mp present
    rfl
  · rw [found_of_unnamed named] at present
    cases present

/-- What is reported of calls is reported at their places. -/
theorem excerpt?_of_mem_reports
    {calls : List Call}
    {report : CallReport}
    (present : report ∈ linting.reports state calls) :
    ∀ issue ∈ report.issues, issue.excerpt? =
      some (Excerpt.ofOffset linting.file linting.script report.call.span.start) := by
  induction calls generalizing state with
  | nil => cases present
  | cons call rest inductionHypothesis =>
      rcases List.mem_cons.mp present with rfl | later
      · exact List.forall_mem_map.mpr fun _ found => excerpt?_of_mem_found found
      · exact inductionHypothesis later

/-- The check of a pattern complains about no argument. -/
theorem rule_of_mem_checkPattern
    {folded : FoldedConstants} :
    ∀ problem ∈ (linting.checkPattern folded call).problems,
      problem.rule ≠ .malformedArguments := by
  unfold checkPattern PatternCheck.ofText
  repeat' split
  all_goals simp [CallProblem.rule]

/-- Linting complains about the arguments of a named call if the call is not eligible. -/
theorem isMalformed_of_named
    (named : call.isNamed linting.session.function = true) :
    CallReport.isMalformed ⟨call, (linting.found state call).map (·.issue)⟩ =
      (call.match? linting.session.function state.folded).isNone := by
  have harmless : (linting.checkPattern state.folded call).problems.any
      (·.rule == .malformedArguments) = false := by
    rw [List.any_eq_false]
    intro problem present
    simpa using rule_of_mem_checkPattern problem present
  rw [CallReport.isMalformed, found_of_named named, List.map_map, List.any_map]
  change (_ ++ (linting.checkPattern state.folded call).problems).any
    (·.rule == .malformedArguments) = _
  rw [List.any_append, harmless, Bool.or_false]
  unfold Script.Call.match? patternProblem? localeProblem?
  rw [if_pos named]
  cases call.pattern?.bind (·.literal? state.folded) <;>
    cases call.knownLocale? state.folded <;> rfl

/-- A call is eligible if it is named and linting does not complain about its arguments. -/
theorem isSome_match?_eq
    (linting : Linting)
    (state : LintingState)
    (call : Call) :
    (call.match? linting.session.function state.folded).isSome =
      (call.isNamed linting.session.function &&
        !CallReport.isMalformed ⟨call, (linting.found state call).map (·.issue)⟩) := by
  by_cases named : call.isNamed linting.session.function = true
  · rw [isMalformed_of_named named, named]
    cases call.match? linting.session.function state.folded <;> rfl
  · have unmatched : call.match? linting.session.function state.folded = none := if_neg named
    rw [unmatched, Bool.eq_false_of_not_eq_true named]
    rfl

end Linting

/-- The report is of a named call whose arguments linting does not complain about. -/
def CallReport.isSound (function : String) (report : CallReport) : Bool :=
  report.call.isNamed function && !report.isMalformed

section

variable {session : Session} {file : String} {script : List Char}

/-- From the same constants on, the visits of calls replace those of which a sound report is
made. -/
theorem replacedCalls_eq_reports
    {state final : InliningState}
    {lintingState : LintingState}
    {calls : List Call}
    (same : lintingState.folded = state.folded)
    (ran : Inlining.visitAll ⟨session, file, script⟩ state calls = (final, none)) :
    Inlining.replacedCalls ⟨session, file, script⟩ state calls =
      ((Linting.reports ⟨session, file, script⟩ lintingState calls).filter
        (·.isSound session.function)).map (·.call) := by
  induction calls generalizing state lintingState with
  | nil => rfl
  | cons call rest inductionHypothesis =>
      have step := @visit_agrees session file script state lintingState same call
      have eligible := Linting.isSome_match?_eq ⟨session, file, script⟩ lintingState call
      obtain ⟨next, visited, onward⟩ := Inlining.exists_next ran
      rw [visited] at step
      have later := inductionHypothesis step.1 onward
      rw [Inlining.replacedCalls, visited, Linting.reports, List.filter_cons,
        CallReport.isSound, ← eligible, ← same]
      simp only
      split
      · rw [List.map_cons, later]
      · exact later

end

/-- The sound reports and the malformed ones of named calls are those of the named calls. -/
theorem length_sound_add_malformed
    (function : String)
    (reports : List CallReport) :
    (reports.filter (·.isSound function)).length +
        reports.countP (fun report => report.call.isNamed function && report.isMalformed) =
      (reports.map (·.call)).countP (·.isNamed function) := by
  have parts := List.countP_eq_countP_filter_add reports
    (fun report => report.call.isNamed function) CallReport.isMalformed
  rw [List.countP_filter, List.countP_filter] at parts
  rw [← List.countP_eq_length_filter, List.countP_map, Nat.add_comm]
  exact parts.symm

/-- What linting reports of the calls of a script, and the calls that inlining it replaces. -/
structure ReplacementsAgree (linting : Linting) (calls : List Call) (reports : List CallReport)
    (replaced : List Call) (count : Nat) : Prop where
  /-- There is one report of each call, in order. -/
  complete : reports.map (·.call) = calls
  /-- The reports together are the issues that linting returns. -/
  reported : reports.flatMap (·.issues) = linting.run
  /-- What is reported of a call is reported at its place. -/
  placed : ∀ report ∈ reports, ∀ issue ∈ report.issues, issue.excerpt? =
    some (Excerpt.ofOffset linting.file linting.script report.call.span.start)
  /-- The calls that are replaced are the named ones whose arguments no issue is about. -/
  replaced : replaced = (reports.filter fun report =>
    report.call.isNamed linting.session.function && !report.isMalformed).map (·.call)
  /-- With the named calls whose arguments an issue is about, they are all named calls. -/
  counted : count + reports.countP (fun report =>
      report.call.isNamed linting.session.function && report.isMalformed) =
    calls.countP (·.isNamed linting.session.function)

/-- If inlining a script succeeds, it replaces exactly the named calls about whose arguments linting
does not complain. -/
theorem replacementsAgree_of_run
    (session : Session)
    (file : String)
    (script : List Char)
    (inputMap : Option PositionMap)
    (first : Nat)
    {result : InlinedScript}
    (succeeds : (Inlining.run ⟨session, file, script⟩ inputMap first).result = .ok result) :
    let linting : Linting := ⟨session, file, script⟩
    let inlining : Inlining := ⟨session, file, script⟩
    ∃ trees, Script.parse (.ofPath file) script = some trees ∧
      ReplacementsAgree linting (CallTree.visitsAll trees)
        (linting.reports ⟨[], []⟩ (CallTree.visitsAll trees))
        (inlining.replacedCalls (.start first) (CallTree.visitsAll trees)) result.replaced := by
  intro linting inlining
  obtain ⟨trees, state, parsed, ran, printed⟩ := Inlining.run_ok succeeds
  refine ⟨trees, parsed, ?_⟩
  have sameStart : (⟨[], []⟩ : LintingState).folded = (InliningState.start first).folded := rfl
  have replaced := replacedCalls_eq_reports sameStart ran
  have standFor : Inlining.StandFor (.start first) [] := rfl
  have counted := (Inlining.standFor_visitAll standFor ran).2
  have complete := @Linting.map_call_reports linting ⟨[], []⟩ (CallTree.visitsAll trees)
  refine ⟨complete, ?_, fun report => Linting.excerpt?_of_mem_reports, replaced, ?_⟩
  · rw [Linting.flatMap_issues_reports]
    exact Linting.findings_eq_run parsed
  · have all := length_sound_add_malformed session.function
      (linting.reports ⟨[], []⟩ (CallTree.visitsAll trees))
    rw [complete] at all
    rw [(Inlining.finish_ok printed).2.1, counted, replaced, List.length_map, ← all]
    simp only [InliningState.start, Nat.zero_add]
    rfl

/-- Two of eight named calls are left alone: the pattern of one is a variable, and that of another
is a call whose localization is no constant.  The others are replaced, one of them because a
localization is a constant where the pattern is not, and one for a locale that a call folds to. -/
theorem replacementsAgree_of_localized :
    let catalog := [("a", "A"), ("l", "fr"), ("\x7bx\x7d", "X"), ("b", "\x7bn\x7d")].foldl
      (fun catalog entry => Catalog.insertPattern catalog "en" entry.1 entry.2) Catalog.empty
    let session : Session := ⟨"t", "en", .literal, some (catalog.lookup .literal), .fallback⟩
    let script := "t(t('a'),0,t('l'));t(t('\x7bx\x7d'));t(t('b'));t(y)".toList
    let inlining : Inlining := ⟨session, "a.js", script⟩
    let linting : Linting := ⟨session, "a.js", script⟩
    ∃ result, (inlining.run none 1).result = .ok result ∧ result.replaced = 6 ∧
      ∃ trees, Script.parse (.ofPath "a.js") script = some trees ∧
        ReplacementsAgree linting (CallTree.visitsAll trees)
          (linting.reports ⟨[], []⟩ (CallTree.visitsAll trees))
          (inlining.replacedCalls (.start 1) (CallTree.visitsAll trees)) result.replaced := by
  intro catalog session script inlining linting
  have known : (inlining.run none 1).result.toOption.map (·.replaced) = some 6 := by
    decide +kernel
  obtain ⟨result, succeeds, replaced⟩ := Inlining.exists_ok known
  exact ⟨result, succeeds, replaced,
    replacementsAgree_of_run session "a.js" script none 1 succeeds⟩

end MessageExpansion
