import MessageExpansion.Command.Lint
import MessageExpansion.Proofs.Lint.Excerpt
import MessageExpansion.Proofs.Sorting
import MessageExpansion.Report.Result

/-!
# The order in which scripts are linted

Scripts are linted one by one, and what is found is sorted when all are done.  Issues that compare
as equal are of one script, where they keep their order.  So it does not matter in which order the
scripts come, and sorting once more for the report changes nothing.
-/

namespace MessageExpansion

/-! ### The order of issues -/

namespace Issue

/-- Issues are compared by their files, then by lines, columns, rules and words. -/
theorem order_eq_compareLex :
    order =
      compareLex (compareOn file) (compareLex (compareOn (·.place.1))
        (compareLex (compareOn (·.place.2))
          (compareLex (compareOn (·.rule.rank)) (compareOn message)))) :=
  rfl

instance : Std.TransCmp order := by
  rw [order_eq_compareLex]
  infer_instance

/-- Issues that compare as equal are of one file. -/
theorem file_eq_of_ties
    {first second : Issue}
    (tied : Sorting.ties order first second = true) :
    first.file = second.file := by
  have equal : first.order second = .eq := by simpa [Sorting.ties] using tied
  rw [order, Ordering.then_eq_eq] at equal
  exact Std.LawfulEqCmp.eq_of_compare equal.1

/-- Sorting sorted issues changes nothing. -/
theorem sort_sort
    (issues : List Issue) :
    sort (sort issues) = sort issues := by
  have sorted : (sort issues).Pairwise fun first second =>
      Sorting.isUpTo order first second = true :=
    List.pairwise_mergeSort Sorting.isUpTo_trans Sorting.isUpTo_total issues
  exact List.mergeSort_of_pairwise sorted

end Issue

/-! ### The issues of one script -/

/-- Excerpts name the file that they are from. -/
theorem Excerpt.file_ofOffset
    (file : String)
    (script : List Char)
    (offset : Nat) :
    (Excerpt.ofOffset file script offset).location.file = file := by
  have read (line width bytes : Nat) (lineStart text : List Char) :
      (after file line width lineStart bytes text).location.file = file := by
    fun_induction after file line width lineStart bytes text <;> first | rfl | assumption
  unfold ofOffset
  split <;> exact read _ _ _ _ _

/-- Every issue of a script names its file. -/
theorem Linting.file_of_mem_run
    {linting : Linting}
    {issue : Issue}
    (reported : issue ∈ linting.run) :
    issue.file = linting.file := by
  rcases of_mem_run reported with ⟨error, rfl⟩ | ⟨_, call, problem, -, -, -, rfl⟩
  · rfl
  · exact Excerpt.file_ofOffset _ _ _

/-! ### The issues of many scripts -/

/-- The name of a script, which may have failed to be read. -/
def ScriptSource.nameOf : Except FileFailure ScriptSource → String
  | .ok source => source.name
  | .error failure => failure.file

/-- Issues that are the same when they are sorted have the same report. -/
theorem Report.ofIssues_of_sort
    {coloured : Bool}
    {first second : List Issue}
    (same : Issue.sort first = Issue.sort second) :
    ofIssues coloured first = ofIssues coloured second := by
  have empty : first.isEmpty = second.isEmpty :=
    calc first.isEmpty
        = (Issue.sort first).isEmpty := (List.mergeSort_perm first _).isEmpty_eq.symm
      _ = second.isEmpty := by rw [same]; exact (List.mergeSort_perm second _).isEmpty_eq
  unfold ofIssues
  rw [same, empty]

namespace LintCommand

/-- The issues of a script; there are none if it was not read. -/
def issuesOf (session : Session) : Except FileFailure ScriptSource → List Issue
  | .ok source => lintSource session source
  | .error _ => []

/-- The failure of a script that was not read. -/
def failureOf : Except FileFailure ScriptSource → List FileFailure
  | .ok _ => []
  | .error failure => [failure]

/-- The issues of scripts, in the order in which the scripts come. -/
def gathered (session : Session) (sources : List (Except FileFailure ScriptSource)) : List Issue :=
  (succeeded (sources.map (·.map (lintSource session)))).flatten

/-- What linting scripts one after the other results in. -/
def resultOf (session : Session) (sources : List (Except FileFailure ScriptSource)) :
    CommandResult :=
  .finish .lint (gathered session sources) (failed (sources.map (·.map (lintSource session))))
    sources.length

/-- A command that reads its scripts ends with what linting them results in. -/
theorem run_of_readAll
    {arguments : CommonArguments}
    {workspace : Workspace}
    {standardInput : Option String}
    {preparation : Preparation}
    {sources : List (Except FileFailure ScriptSource)}
    (prepared : arguments.prepare workspace none = .ok preparation)
    (read : ScriptSource.readAll workspace standardInput preparation.inputs = .ok sources) :
    run arguments workspace standardInput =
      ⟨workspace, "", [], .ok (resultOf preparation.session sources)⟩ := by
  unfold run
  rw [prepared]
  simp only [read, List.length_map]
  rfl

variable {session : Session} {sources others : List (Except FileFailure ScriptSource)}

theorem gathered_eq_flatMap :
    gathered session sources = sources.flatMap (issuesOf session) := by
  unfold gathered
  induction sources with
  | nil => rfl
  | cons source rest inductionHypothesis =>
      cases source <;>
        simpa [Except.map, issuesOf] using inductionHypothesis

theorem failed_map_eq_flatMap :
    failed (sources.map (·.map (lintSource session))) = sources.flatMap failureOf := by
  induction sources with
  | nil => rfl
  | cons source rest inductionHypothesis =>
      cases source <;>
        simpa [Except.map, failureOf, failed] using inductionHypothesis

/-- Every issue of a script names it. -/
theorem file_of_mem_issuesOf
    (source : Except FileFailure ScriptSource) :
    ∀ issue ∈ issuesOf session source, issue.file = ScriptSource.nameOf source := by
  intro issue reported
  cases source with
  | ok source => exact Linting.file_of_mem_run reported
  | error failure => cases reported

/-- So does its failure. -/
theorem file_of_mem_failureOf
    (source : Except FileFailure ScriptSource) :
    ∀ failure ∈ failureOf source, failure.file = ScriptSource.nameOf source := by
  intro failure reported
  cases source with
  | ok source => cases reported
  | error other =>
      rw [failureOf, List.mem_singleton] at reported
      rw [reported]
      rfl

/-- The sorted issues do not depend on the order of scripts with different names. -/
theorem sort_gathered_of_perm
    (session : Session)
    (apart : (sources.map ScriptSource.nameOf).Nodup)
    (perm : sources.Perm others) :
    Issue.sort (gathered session others) = Issue.sort (gathered session sources) := by
  rw [gathered_eq_flatMap, gathered_eq_flatMap]
  exact (Sorting.mergeSort_flatMap_of_perm Issue.order file_of_mem_issuesOf
    (fun _ _ => Issue.file_eq_of_ties) apart perm).symm

/-- Nor do the sorted failures. -/
theorem sort_failed_of_perm
    (session : Session)
    (apart : (sources.map ScriptSource.nameOf).Nodup)
    (perm : sources.Perm others) :
    let sort (failures : List FileFailure) :=
      failures.mergeSort fun first second => (compare first.file second.file).isLE
    sort (failed (others.map (·.map (lintSource session)))) =
      sort (failed (sources.map (·.map (lintSource session)))) := by
  have sameFile (first second : FileFailure)
      (tied : Sorting.ties (compareOn FileFailure.file) first second = true) :
      first.file = second.file := by
    simpa [Sorting.ties, compareOn] using tied
  rw [failed_map_eq_flatMap, failed_map_eq_flatMap]
  exact (Sorting.mergeSort_flatMap_of_perm (compareOn FileFailure.file)
    file_of_mem_failureOf sameFile apart perm).symm

/-- Whatever the order in which scripts with different names are linted, the result is the same, and
so is the report, whether the issues were sorted before or not. -/
theorem resultOf_of_perm
    (session : Session)
    (apart : (sources.map ScriptSource.nameOf).Nodup)
    (perm : sources.Perm others) :
    resultOf session others = resultOf session sources ∧
      ∀ coloured,
        Report.ofIssues coloured (gathered session others) =
            Report.ofIssues coloured (gathered session sources) ∧
          Report.ofIssues coloured (resultOf session others).issues =
            Report.ofIssues coloured (gathered session sources) := by
  have issues := sort_gathered_of_perm session apart perm
  have failures := sort_failed_of_perm session apart perm
  have result : resultOf session others = resultOf session sources := by
    unfold resultOf CommandResult.finish
    simp only at failures
    rw [issues, failures, perm.length_eq]
  refine ⟨result, fun coloured => ?_⟩
  rw [result]
  exact ⟨Report.ofIssues_of_sort issues, Report.ofIssues_of_sort (Issue.sort_sort _)⟩

/-- Two scripts are linted in both orders: the issues are gathered in different orders, but the
results are the same. -/
theorem resultOf_of_two :
    let first : Except FileFailure ScriptSource := .ok ⟨"b.js", none, "format(x);format(y)".toList⟩
    let second : Except FileFailure ScriptSource := .ok ⟨"a.js", none, "format(".toList⟩
    (gathered .default [first, second]).map (·.file) = ["b.js", "b.js", "a.js"] ∧
      (gathered .default [second, first]).map (·.file) = ["a.js", "b.js", "b.js"] ∧
      resultOf .default [second, first] = resultOf .default [first, second] ∧
      ∀ coloured,
        Report.ofIssues coloured (gathered .default [second, first]) =
            Report.ofIssues coloured (gathered .default [first, second]) ∧
          Report.ofIssues coloured (resultOf .default [second, first]).issues =
            Report.ofIssues coloured (gathered .default [first, second]) := by
  intro first second
  refine ⟨by decide +kernel, by decide +kernel, ?_⟩
  exact resultOf_of_perm .default (by decide) (.swap second first [])

end LintCommand
end MessageExpansion
