import MessageExpansion.Lint.Check
import MessageExpansion.Proofs.Expansion.Visit

/-!
# Linting and inlining agree on what is fatal

Inlining gives a script up at the first call whose pattern it cannot compile; linting reports the
call and goes on.  Both keep the constants that calls fold to, in their own ways.  The constants are
the same until the first fatal issue is met, so the error that inlining ends with is that issue.
-/

namespace MessageExpansion

open Script (Call CallTree)

/-! ### Fatal issues -/

/-- An issue, and what is known about the locale of the call that it was found at. -/
structure Finding where
  issue : Issue
  /-- The call has no locale argument, or one that is known before the script runs. -/
  localeKnown : Bool

/-- The problem keeps a call from being compiled under a policy for broken localizations. -/
def CallProblem.isFatal (policy : LocalizationPolicy) : CallProblem → Bool
  | .patternSyntax _ _ => true
  | .catalogLookup _ => true
  | .localizationSyntax _ _ _ => policy == .error
  | .malformedArguments _ _ => false
  | .missingLocalization _ _ => false

/-- A fatal problem with a call that would be compiled. -/
def Finding.isFatal (policy : LocalizationPolicy) (finding : Finding) : Bool :=
  match finding.issue with
  | .call _ problem => finding.localeKnown && problem.isFatal policy
  | .unparsed _ _ => false

/-- The place and the problem that an error is about, if it is about the messages of a call. -/
def ExpansionError.problem? : ExpansionError → Option (Location × CallProblem)
  | .patternSyntax location pattern error =>
      some (location, .patternSyntax pattern error.describe)
  | .localizationSyntax broken =>
      some (broken.location, .localizationSyntax broken.locale broken.text broken.error.describe)
  | .catalog location error => some (location, .catalogLookup error.message)
  | .unparsed _ => none
  | .generatedCode _ => none

/-- The place and the problem that an issue is about, if it is about a call. -/
def Issue.problem? : Issue → Option (Location × CallProblem)
  | .call excerpt problem => some (excerpt.location, problem)
  | .unparsed _ _ => none

namespace Linting

/-- What a visit of a call reports. -/
def found (linting : Linting) (state : LintingState) (call : Call) : List Finding :=
  ((linting.visit state call).issues.drop state.issues.length).map
    (⟨·, (call.knownLocale? state.folded).isSome⟩)

/-- What the visits of calls report, in order. -/
def foundAll (linting : Linting) : LintingState → List Call → List Finding
  | _, [] => []
  | state, call :: rest =>
      linting.found state call ++ linting.foundAll (linting.visit state call) rest

/-- What linting reports of the calls of a script. -/
def findings (linting : Linting) (trees : List CallTree) : List Finding :=
  linting.foundAll ⟨[], []⟩ (CallTree.visitsAll trees)

variable {linting : Linting} {state : LintingState} {call : Call}

/-- A visit puts what it reports behind what was reported before. -/
theorem issues_visit :
    (linting.visit state call).issues =
      state.issues ++ (linting.found state call).map (·.issue) := by
  have behind : ∃ reported, (linting.visit state call).issues = state.issues ++ reported := by
    unfold visit
    split
    · exact ⟨_, rfl⟩
    · exact ⟨[], (List.append_nil _).symm⟩
  obtain ⟨reported, equal⟩ := behind
  simp [found, equal, Function.comp_def]

/-- So do all visits. -/
theorem issues_foldl_visit
    (calls : List Call) :
    (calls.foldl linting.visit state).issues =
      state.issues ++ (linting.foundAll state calls).map (·.issue) := by
  induction calls generalizing state with
  | nil => simp [foundAll]
  | cons call rest inductionHypothesis =>
      rw [List.foldl_cons, inductionHypothesis, issues_visit, foundAll]
      simp

/-- The findings are the issues that linting returns. -/
theorem findings_eq_run
    {trees : List CallTree}
    (parsed : Script.parse (.ofPath linting.file) linting.script = some trees) :
    (linting.findings trees).map (·.issue) = linting.run := by
  unfold run
  rw [parsed]
  exact (@issues_foldl_visit linting ⟨[], []⟩ _).symm

/-- Of a named call its arguments and its pattern are reported. -/
theorem found_of_named
    (named : call.isNamed linting.session.function = true) :
    linting.found state call =
      ((linting.patternProblem? state.folded call).toList ++
        (linting.localeProblem? state.folded call).toList ++
          (linting.checkPattern state.folded call).problems).map fun problem =>
        ⟨.call (Excerpt.ofOffset linting.file linting.script call.span.start) problem,
          (call.knownLocale? state.folded).isSome⟩ := by
  unfold found visit
  rw [if_pos named]
  simp [check, Function.comp_def]

/-- A call that is not eligible is no constant, and nothing fatal is reported of it. -/
theorem visit_of_ineligible
    (policy : LocalizationPolicy)
    (ineligible : call.match? linting.session.function state.folded = none) :
    (linting.visit state call).folded = state.folded ∧
      ∀ finding ∈ linting.found state call, finding.isFatal policy = false := by
  unfold Script.Call.match? at ineligible
  by_cases named : call.isNamed linting.session.function = true
  · rw [if_pos named] at ineligible
    have visited : linting.visit state call = linting.check state call := if_pos named
    rw [visited, found_of_named named]
    unfold check localeProblem? patternProblem? checkPattern
    cases pattern : call.pattern?.bind (·.literal? state.folded) with
    | none => cases call.knownLocale? state.folded <;> simp [Finding.isFatal, CallProblem.isFatal]
    | some text =>
        cases knownLocale : call.knownLocale? state.folded with
        | none => simp [Finding.isFatal]
        | some locale =>
            rw [pattern, knownLocale] at ineligible
            cases ineligible
  · have unchanged : linting.visit state call = state := if_neg named
    refine ⟨by rw [unchanged], ?_⟩
    unfold found
    rw [unchanged, List.drop_length]
    simp

/-- Of an eligible call its pattern is checked, and the call is a constant if its pattern is. -/
theorem visit_of_eligible
    {eligible : EligibleCall}
    (found : call.match? linting.session.function state.folded = some eligible) :
    let check := PatternCheck.ofText linting.session eligible.pattern
      (linting.session.effectiveLocale eligible.locale)
    (linting.visit state call).folded =
        (match check.constant with
        | some value => (call.span, value) :: state.folded
        | none => state.folded) ∧
      linting.found state call = check.problems.map fun problem =>
        ⟨.call (Excerpt.ofOffset linting.file linting.script call.span.start) problem, true⟩ := by
  obtain ⟨named, pattern, knownLocale, -⟩ := Script.Call.match?_eq_some_iff.mp found
  have visited : linting.visit state call = linting.check state call := if_pos named
  rw [visited, found_of_named named]
  unfold check localeProblem? patternProblem? checkPattern
  simp only [pattern, knownLocale, Option.getD_some]
  refine ⟨?_, rfl⟩
  cases (PatternCheck.ofText linting.session eligible.pattern
    (linting.session.effectiveLocale eligible.locale)).constant <;> rfl

end Linting

/-! ### One call -/

/-- Checking a pattern and compiling it meet the same problems and yield the same constant. -/
theorem Inlining.effectivePattern_agrees
    (inlining : Inlining)
    (call : Call)
    (text locale : String) :
    let check := PatternCheck.ofText inlining.session text locale
    match inlining.effectivePattern call text locale with
    | .ok effective => check.constant = effective.pattern.constant? ∧
        ∀ problem ∈ check.problems, problem.isFatal inlining.session.policy = false
    | .error error => ∃ problem, check.problems = [problem] ∧
        problem.isFatal inlining.session.policy = true ∧
        error.problem? = some (inlining.locate call, problem) := by
  unfold Inlining.effectivePattern PatternCheck.ofText
  cases Pattern.parse text with
  | error error => simp [CallProblem.isFatal, ExpansionError.problem?]
  | ok own =>
      cases inlining.session.resolve text locale with
      | error error => simp [CallProblem.isFatal, ExpansionError.problem?]
      | ok resolution =>
          cases resolution with
          | unlocalized => simp
          | missing => simp [CallProblem.isFatal]
          | localized localization =>
              simp only
              cases Pattern.parse localization with
              | ok pattern => simp
              | error error =>
                  cases policy : inlining.session.policy with
                  | fallback => simp [CallProblem.isFatal]
                  | error => simp [CallProblem.isFatal, ExpansionError.problem?]

/-- A call that is replaced is a constant for the calls around it if its pattern is one. -/
theorem Inlining.folded_replaceCall
    (inlining : Inlining)
    (state : InliningState)
    (call : Call)
    (eligible : EligibleCall)
    (locale : String)
    (pattern : Pattern) :
    (inlining.replaceCall state call eligible locale pattern).folded =
      match pattern.constant? with
      | some value => (call.span, value) :: state.folded
      | none => state.folded := by
  cases compiled : pattern.constant? with
  | some value => rw [replaceCall_of_constant compiled]
  | none => rw [replaceCall_of_dynamic compiled]

/-- An error has the place and the problem of the first fatal one of some findings. -/
def FirstFatal (policy : LocalizationPolicy) (findings : List Finding)
    (error : ExpansionError) : Prop :=
  ∃ front finding back, findings = front ++ finding :: back ∧
    (∀ earlier ∈ front, earlier.isFatal policy = false) ∧
    finding.isFatal policy = true ∧
    error.problem? = finding.issue.problem?

section

variable {session : Session} {file : String} {script : List Char}

/-- From the same constants on, a visit of a call that does not fail reports nothing fatal and
yields the same constants; one that fails does so for the first fatal problem. -/
theorem visit_agrees
    {state : InliningState}
    {lintingState : LintingState}
    (same : lintingState.folded = state.folded)
    (call : Call) :
    let linting : Linting := ⟨session, file, script⟩
    match Inlining.visit ⟨session, file, script⟩ state call with
    | .ok next => (linting.visit lintingState call).folded = next.folded ∧
        ∀ finding ∈ linting.found lintingState call, finding.isFatal session.policy = false
    | .error error => FirstFatal session.policy (linting.found lintingState call) error := by
  intro linting
  unfold Inlining.visit
  cases found : call.match? session.function state.folded with
  | none =>
      rw [← same] at found
      obtain ⟨unchanged, harmless⟩ :=
        @Linting.visit_of_ineligible linting lintingState call session.policy found
      exact ⟨unchanged.trans same, harmless⟩
  | some eligible =>
      have agrees := Inlining.effectivePattern_agrees ⟨session, file, script⟩ call eligible.pattern
        (session.effectiveLocale eligible.locale)
      rw [← same] at found
      obtain ⟨constants, reported⟩ := @Linting.visit_of_eligible linting lintingState call _ found
      simp only at agrees ⊢
      cases compiled : Inlining.effectivePattern ⟨session, file, script⟩ call eligible.pattern
          (session.effectiveLocale eligible.locale) with
      | ok effective =>
          rw [compiled] at agrees
          obtain ⟨constant, harmless⟩ := agrees
          refine ⟨?_, ?_⟩
          · rw [constants, Inlining.folded_replaceCall, constant, same]
          · intro finding present
            rw [reported] at present
            obtain ⟨problem, problemPresent, rfl⟩ := List.mem_map.mp present
            exact harmless problem problemPresent
      | error error =>
          rw [compiled] at agrees
          obtain ⟨problem, only, fatal, described⟩ := agrees
          rw [only] at reported
          exact ⟨[], _, [], reported, by simp, fatal, described⟩

/-! ### All calls -/

/-- From the same constants on, the visits of calls fail for the first fatal problem that is
reported, and do not fail if there is none. -/
theorem visitAll_agrees
    {state : InliningState}
    {lintingState : LintingState}
    (same : lintingState.folded = state.folded)
    (calls : List Call) :
    let findings := Linting.foundAll ⟨session, file, script⟩ lintingState calls
    match (Inlining.visitAll ⟨session, file, script⟩ state calls).2 with
    | none => ∀ finding ∈ findings, finding.isFatal session.policy = false
    | some error => FirstFatal session.policy findings error := by
  induction calls generalizing state lintingState with
  | nil => simp [Inlining.visitAll, Linting.foundAll]
  | cons call rest inductionHypothesis =>
      have step := @visit_agrees session file script state lintingState same call
      rw [Inlining.visitAll, Linting.foundAll]
      cases visited : Inlining.visit ⟨session, file, script⟩ state call with
      | ok next =>
          rw [visited] at step
          obtain ⟨sameNext, harmless⟩ := step
          have later := inductionHypothesis sameNext
          simp only at later ⊢
          cases outcome : (Inlining.visitAll ⟨session, file, script⟩ next rest).2 with
          | none =>
              rw [outcome] at later
              intro finding present
              rcases List.mem_append.mp present with inFirst | inRest
              · exact harmless finding inFirst
              · exact later finding inRest
          | some error =>
              rw [outcome] at later
              obtain ⟨front, finding, back, split, before, fatal, described⟩ := later
              refine ⟨Linting.found ⟨session, file, script⟩ lintingState call ++ front,
                finding, back, ?_, ?_, fatal, described⟩
              · rw [split, List.append_assoc]
              · intro earlier present
                rcases List.mem_append.mp present with inFirst | inFront
                · exact harmless earlier inFirst
                · exact before earlier inFront
      | error error =>
          rw [visited] at step
          obtain ⟨front, finding, back, split, before, fatal, described⟩ := step
          simp only
          rw [split, List.append_assoc, List.cons_append]
          exact ⟨front, finding, _, rfl, before, fatal, described⟩

end

/-- Printing fails for no reason that has to do with the messages of a call. -/
theorem Inlining.problem?_of_finish
    {inlining : Inlining}
    {inputMap : Option PositionMap}
    {state : InliningState}
    {error : ExpansionError}
    (failed : inlining.finish inputMap state = .error error) :
    error.problem? = none := by
  unfold Inlining.finish at failed
  simp only at failed
  split at failed
  · cases failed
  · cases failed
    rfl

/-- What linting reports of a script, and what inlining it fails for. -/
structure FaultsAgree (session : Session) (findings : List Finding) (issues : List Issue)
    (result : Except ExpansionError InlinedScript) : Prop where
  /-- The findings are the issues that linting returns, in order. -/
  reported : findings.map (·.issue) = issues
  /-- Inlining fails for the messages of a call exactly when an issue is fatal. -/
  fails : (∃ error, result = .error error ∧ error.problem?.isSome) ↔
    ∃ finding ∈ findings, finding.isFatal session.policy = true
  /-- The error then has the place and the problem of the first fatal issue. -/
  first : ∀ error, result = .error error → error.problem?.isSome →
    FirstFatal session.policy findings error

/-- Linting a script reports a fatal issue exactly when inlining it fails for the messages of a
call, and the first fatal issue is what it fails for. -/
theorem faultsAgree_of_parse
    (session : Session)
    (file : String)
    (script : List Char)
    (inputMap : Option PositionMap)
    (first : Nat)
    {trees : List CallTree}
    (parsed : Script.parse (.ofPath file) script = some trees) :
    let linting : Linting := ⟨session, file, script⟩
    let inlining : Inlining := ⟨session, file, script⟩
    FaultsAgree session (linting.findings trees) linting.run (inlining.run inputMap first).result := by
  intro linting inlining
  have agree := @visitAll_agrees session file script (.start first) ⟨[], []⟩ rfl
    (CallTree.visitsAll trees)
  have run := @Inlining.run_of_parse inlining trees parsed inputMap first
  have reported := @Linting.findings_eq_run linting trees parsed
  rw [run]
  unfold Inlining.runOver
  obtain ⟨state, outcome, visited⟩ : ∃ state outcome,
      inlining.visitAll (.start first) (CallTree.visitsAll trees) = (state, outcome) :=
    ⟨_, _, rfl⟩
  rw [visited] at agree
  rw [visited]
  cases outcome with
  | none =>
      have printed (error : ExpansionError)
          (failed : inlining.finish inputMap state = .error error) :
          ¬ error.problem?.isSome := by
        rw [Inlining.problem?_of_finish failed]
        decide
      refine ⟨reported, ⟨?_, ?_⟩, ?_⟩
      · rintro ⟨error, failed, described⟩
        exact absurd described (printed error failed)
      · rintro ⟨finding, present, fatal⟩
        exact absurd fatal (by simp [agree finding present])
      · intro error failed described
        exact absurd described (printed error failed)
  | some error =>
      obtain ⟨front, finding, back, split, before, fatal, described⟩ := agree
      have isProblem : error.problem?.isSome := by
        rw [described]
        unfold Finding.isFatal at fatal
        split at fatal
        · next equal => rw [equal]; rfl
        · cases fatal
      refine ⟨reported, ⟨?_, ?_⟩, ?_⟩
      · intro _
        exact ⟨finding, by rw [Linting.findings, split]; simp, fatal⟩
      · intro _
        exact ⟨error, rfl, isProblem⟩
      · intro other failed _
        cases failed
        exact ⟨front, finding, back, split, before, fatal, described⟩

/-- Of three broken patterns the first one is not compiled, since its locale is not known; inlining
fails for the second one, which stands inside a call. -/
theorem faultsAgree_of_unknown_locale :
    let script := "t('\x7b',0,x);t('a',t('\x7d'));t('\x7b')".toList
    let inlining : Inlining := ⟨(Inlining.unlocalized "").session, "a.js", script⟩
    let linting : Linting := ⟨inlining.session, "a.js", script⟩
    ∃ trees, Script.parse (.ofPath "a.js") script = some trees ∧
      (linting.findings trees).map (·.isFatal inlining.session.policy) =
        [false, false, true, true] ∧
      FaultsAgree inlining.session (linting.findings trees) linting.run
        (inlining.run none 1).result := by
  intro script inlining linting
  have known : (Script.parse (.ofPath "a.js") script).map (fun trees =>
      (linting.findings trees).map (·.isFatal inlining.session.policy)) =
        some [false, false, true, true] := by
    decide +kernel
  obtain ⟨trees, parsed, fatal⟩ := Option.map_eq_some_iff.mp known
  exact ⟨trees, parsed, fatal, faultsAgree_of_parse inlining.session "a.js" script none 1 parsed⟩

end MessageExpansion
