import MessageExpansion.Proofs.Expansion.Localization

/-!
# Localizations that change nothing

A run that is told of no localization, or under the fallback policy of broken ones only, takes the
same steps as a run that does not ask.  The two are compared visit by visit: their states differ in
the warnings at most.  The comparison holds up to the first question that is answered in any other
way, so it also says where a run without a catalog and one with a catalog part.
-/

namespace MessageExpansion

open Script (Call CallTree)

/-- The session without localizations. -/
def Session.withoutLookup (session : Session) : Session := { session with lookup := none }

/-- A question is answered such that the call keeps its own pattern: there is no localization, or
under the fallback policy one that is no pattern. -/
def Session.keepsOwn (session : Session) (question : Question) : Bool :=
  match session.resolve question.pattern question.locale with
  | .ok .unlocalized => true
  | .ok .missing => true
  | .ok (.localized text) =>
      session.policy == .fallback && (Pattern.parse text).toOption.isNone
  | .error _ => false

/-- The state apart from the warnings. -/
def InliningState.quiet (state : InliningState) : InliningState := { state with warnings := [] }

/-- States that are the same apart from the warnings. -/
theorem InliningState.exists_warnings
    {state other : InliningState}
    (same : state.quiet = other.quiet) :
    ∃ warnings, other = { state with warnings } := by
  obtain ⟨replacements, folded, hoisted, replaced, warnings⟩ := state
  obtain ⟨otherReplacements, otherFolded, otherHoisted, otherReplaced, otherWarnings⟩ := other
  cases same
  exact ⟨otherWarnings, rfl⟩

namespace Inlining

/-- The script inlined without localizations. -/
def withoutLookup (inlining : Inlining) : Inlining :=
  { inlining with session := inlining.session.withoutLookup }

variable {inlining : Inlining} {state plain : InliningState} {call : Call}

/-! ### One visit -/

/-- A call that is not eligible is left alone. -/
theorem visit_of_unmatched
    (unmatched : call.match? inlining.session.function state.folded = none) :
    inlining.visit state call = .ok state := by
  unfold visit
  rw [unmatched]

/-- An eligible call is replaced if there is a pattern to compile it from. -/
theorem visit_of_compiled
    {eligible : EligibleCall}
    {effective : EffectivePattern}
    (found : call.match? inlining.session.function state.folded = some eligible)
    (compiled : inlining.effectivePattern call eligible.pattern
      (inlining.session.effectiveLocale eligible.locale) = .ok effective) :
    inlining.visit state call =
      .ok (inlining.replaceCall
        { state with warnings := state.warnings ++ effective.unused.toList } call eligible
        (inlining.session.effectiveLocale eligible.locale) effective.pattern) := by
  unfold visit
  simp only [found, compiled]

/-- Otherwise the visit of an eligible call fails. -/
theorem visit_of_uncompiled
    {eligible : EligibleCall}
    {error : ExpansionError}
    (found : call.match? inlining.session.function state.folded = some eligible)
    (failed : inlining.effectivePattern call eligible.pattern
      (inlining.session.effectiveLocale eligible.locale) = .error error) :
    inlining.visit state call = .error error := by
  unfold visit
  simp only [found, failed]

/-- What a visit asks for does not depend on the answers. -/
theorem question?_withoutLookup
    (same : state.quiet = plain.quiet) :
    inlining.withoutLookup.question? plain call = inlining.question? state call := by
  obtain ⟨warnings, rfl⟩ := InliningState.exists_warnings same
  rfl

/-- What a call is replaced by does not depend on localizations, once its pattern is known. -/
theorem quiet_replaceCall
    (same : state.quiet = plain.quiet)
    (eligible : EligibleCall)
    (locale : String)
    (pattern : Pattern) :
    (inlining.replaceCall state call eligible locale pattern).quiet =
      (inlining.withoutLookup.replaceCall plain call eligible locale pattern).quiet := by
  obtain ⟨warnings, rfl⟩ := InliningState.exists_warnings same
  cases compiled : pattern.constant? with
  | some value =>
      rw [replaceCall_of_constant compiled, replaceCall_of_constant compiled]
      rfl
  | none =>
      rw [replaceCall_of_dynamic compiled, replaceCall_of_dynamic compiled]
      rfl

/-- A text that is no pattern is not compiled, whatever its localization. -/
theorem effectivePattern_of_unparsed
    {text : String}
    {error : PatternSyntaxError}
    (unparsed : Pattern.parse text = .error error)
    (locale : String) :
    inlining.effectivePattern call text locale =
      .error (.patternSyntax (inlining.locate call) text error) := by
  unfold effectivePattern
  rw [unparsed]

/-- Without localizations a call is compiled from its own pattern. -/
theorem effectivePattern_withoutLookup
    {text locale : String}
    {own : Pattern}
    (parsed : Pattern.parse text = .ok own) :
    inlining.withoutLookup.effectivePattern call text locale = .ok ⟨own, none⟩ := by
  unfold effectivePattern
  rw [parsed]
  rfl

/-- So is a call whose question is answered such that it keeps its own pattern. -/
theorem effectivePattern_of_keepsOwn
    {text locale : String}
    {own : Pattern}
    (parsed : Pattern.parse text = .ok own)
    (keeps : inlining.session.keepsOwn ⟨call, text, locale⟩ = true) :
    ∃ unused, inlining.effectivePattern call text locale = .ok ⟨own, unused⟩ := by
  unfold Session.keepsOwn at keeps
  unfold effectivePattern
  simp only [parsed] at keeps ⊢
  cases answered : inlining.session.resolve text locale with
  | error error => simp [answered] at keeps
  | ok resolution =>
      cases resolution with
      | unlocalized => exact ⟨none, rfl⟩
      | missing => exact ⟨none, rfl⟩
      | localized localization =>
          simp only [answered, Bool.and_eq_true, beq_iff_eq] at keeps ⊢
          obtain ⟨fallback, broken⟩ := keeps
          cases localized : Pattern.parse localization with
          | ok pattern => simp [localized, Except.toOption] at broken
          | error error =>
              rw [fallback]
              exact ⟨_, rfl⟩

/-- A visit whose question, if it asks one, leaves the call its own pattern does what a visit
without localizations does: both fail for the same reason, or both reach the same state apart from
the warnings. -/
theorem visit_alike
    (same : state.quiet = plain.quiet)
    (keeps : ∀ question ∈ inlining.question? state call,
      inlining.session.keepsOwn question = true) :
    (∃ error, inlining.visit state call = .error error ∧
      inlining.withoutLookup.visit plain call = .error error) ∨
    ∃ next plainNext, inlining.visit state call = .ok next ∧
      inlining.withoutLookup.visit plain call = .ok plainNext ∧ next.quiet = plainNext.quiet := by
  obtain ⟨warnings, rfl⟩ := InliningState.exists_warnings same
  unfold question? at keeps
  cases found : call.match? inlining.session.function state.folded with
  | none => exact .inr ⟨_, _, visit_of_unmatched found, visit_of_unmatched found, rfl⟩
  | some eligible =>
      rw [found] at keeps
      cases parsed : Pattern.parse eligible.pattern with
      | error error =>
          exact .inl ⟨_, visit_of_uncompiled found (effectivePattern_of_unparsed parsed _),
            visit_of_uncompiled found (effectivePattern_of_unparsed parsed _)⟩
      | ok own =>
          simp only [parsed, Option.mem_some_iff, forall_eq'] at keeps
          obtain ⟨unused, compiled⟩ := effectivePattern_of_keepsOwn parsed keeps
          refine .inr ⟨_, _, visit_of_compiled found compiled,
            visit_of_compiled found (effectivePattern_withoutLookup parsed),
            quiet_replaceCall ?_ eligible _ own⟩
          rfl

/-- A visit fails if its question cannot be answered. -/
theorem visit_of_unanswered
    {question : Question}
    {error : CatalogError}
    (asks : inlining.question? state call = some question)
    (unanswered : inlining.session.resolve question.pattern question.locale = .error error) :
    inlining.visit state call = .error (.catalog (inlining.locate question.call) error) := by
  unfold question? at asks
  split at asks
  · cases asks
  · next eligible found =>
      split at asks
      · cases asks
      · next own parsed =>
          cases asks
          refine visit_of_uncompiled found ?_
          unfold effectivePattern
          simp only [parsed, unanswered]

/-- Without localizations a visit fails only for a pattern that is none, about which it does not
ask. -/
theorem exists_unparsed_of_failed
    {error : ExpansionError}
    (failed : inlining.withoutLookup.visit plain call = .error error) :
    inlining.withoutLookup.question? plain call = none ∧
      ∃ text problem, error = .patternSyntax (inlining.locate call) text problem := by
  unfold question?
  cases found : call.match? inlining.withoutLookup.session.function plain.folded with
  | none =>
      rw [visit_of_unmatched found] at failed
      cases failed
  | some eligible =>
      cases parsed : Pattern.parse eligible.pattern with
      | ok own =>
          rw [visit_of_compiled found (effectivePattern_withoutLookup parsed)] at failed
          cases failed
      | error problem =>
          rw [visit_of_uncompiled found (effectivePattern_of_unparsed parsed _)] at failed
          cases failed
          exact ⟨by simp only [parsed], _, _, rfl⟩

/-! ### Whole runs -/

/-- The first question of a run without localizations to which the session has an answer that does
not leave the call its own pattern. -/
def deviation? (inlining : Inlining) (state : InliningState) (calls : List Call) :
    Option Question :=
  (inlining.withoutLookup.questions state calls).find? (!inlining.session.keepsOwn ·)

/-- Runs from states that are the same apart from the warnings part where the first question is
answered such that the call does not keep its own pattern: if there is none, they end alike.  If
there is one, then it is asked in both runs, and if it cannot be answered, then the run fails
there. -/
theorem quiet_visitAll
    (same : state.quiet = plain.quiet)
    (calls : List Call) :
    (inlining.deviation? plain calls = none →
      (inlining.visitAll state calls).map InliningState.quiet id =
        (inlining.withoutLookup.visitAll plain calls).map InliningState.quiet id) ∧
    ∀ question, inlining.deviation? plain calls = some question →
      question ∈ inlining.questions state calls ∧
      ∀ error, inlining.session.resolve question.pattern question.locale = .error error →
        (inlining.visitAll state calls).2 =
          some (.catalog (inlining.locate question.call) error) := by
  induction calls generalizing state plain with
  | nil => exact ⟨fun _ => congrArg (·, none) same, fun question first => by cases first⟩
  | cons call rest inductionHypothesis =>
      unfold deviation? at inductionHypothesis ⊢
      rw [questions, questions, visitAll, visitAll, question?_withoutLookup same]
      by_cases keeps : ∀ question ∈ inlining.question? state call,
          inlining.session.keepsOwn question = true
      · have passed (later : List Question) :
            ((inlining.question? state call).toList ++ later).find?
              (!inlining.session.keepsOwn ·) = later.find? (!inlining.session.keepsOwn ·) := by
          rw [List.find?_append, List.find?_eq_none.mpr, Option.none_or]
          intro question asked
          simp [keeps question (Option.mem_toList.mp asked)]
        rw [passed]
        rcases visit_alike same keeps with
          ⟨error, visited, plainVisited⟩ | ⟨next, plainNext, visited, plainVisited, sameNext⟩
        · rw [visited, plainVisited]
          exact ⟨fun _ => congrArg (·, some error) same, fun question first => by cases first⟩
        · rw [visited, plainVisited]
          obtain ⟨alike, parts⟩ := inductionHypothesis sameNext
          refine ⟨alike, fun question first => ?_⟩
          obtain ⟨asked, fails⟩ := parts question first
          exact ⟨List.mem_append_right _ asked, fails⟩
      · obtain ⟨question, asked, deviates⟩ :
            ∃ question, inlining.question? state call = some question ∧
              inlining.session.keepsOwn question = false := by
          simpa using keeps
        rw [asked, Option.toList_some, List.singleton_append, List.find?_cons, deviates]
        refine ⟨fun none => (Option.some_ne_none _ none).elim, fun other first => ?_⟩
        cases first
        refine ⟨List.mem_cons_self, fun error unanswered => ?_⟩
        rw [visit_of_unanswered asked unanswered]

/-- Without localizations no run fails for a catalog. -/
theorem exists_unparsed_of_visitAll
    {calls : List Call}
    {error : ExpansionError}
    (failed : (inlining.withoutLookup.visitAll plain calls).2 = some error) :
    ∃ location text problem, error = .patternSyntax location text problem := by
  induction calls generalizing plain with
  | nil => cases failed
  | cons call rest inductionHypothesis =>
      rw [visitAll] at failed
      cases visited : inlining.withoutLookup.visit plain call with
      | ok next =>
          rw [visited] at failed
          exact inductionHypothesis failed
      | error other =>
          rw [visited] at failed
          cases failed
          obtain ⟨_, text, problem, rfl⟩ := exists_unparsed_of_failed visited
          exact ⟨_, text, problem, rfl⟩

/-- What comes of visits: the error that one of them fails with, or the script that is printed. -/
def conclude (inlining : Inlining) (inputMap : Option PositionMap) :
    InliningState × Option ExpansionError → Except ExpansionError InlinedScript
  | (_, some error) => .error error
  | (state, none) => inlining.finish inputMap state

/-- Neither warnings nor localizations matter to what comes of visits. -/
theorem conclude_quiet
    (inlining : Inlining)
    (inputMap : Option PositionMap)
    (visited : InliningState × Option ExpansionError) :
    inlining.withoutLookup.conclude inputMap (visited.map InliningState.quiet id) =
      inlining.conclude inputMap visited := by
  obtain ⟨state, _ | error⟩ := visited <;> rfl

/-- What comes of a script is what comes of the visits of its calls. -/
theorem result_run
    (inlining : Inlining)
    (inputMap : Option PositionMap)
    (first : Nat) :
    (inlining.run inputMap first).result =
      if (Script.parse (.ofPath inlining.file) inlining.script).isNone then
        .error (.unparsed inlining.file)
      else
        inlining.conclude inputMap (inlining.visitAll (.start first) inlining.calls) := by
  unfold run runOver calls
  cases Script.parse (.ofPath inlining.file) inlining.script with
  | none => rfl
  | some trees =>
      simp only [Option.getD_some, Option.isNone_some, Bool.false_eq_true, if_false]
      split
      · next state error visited =>
          rw [visited]
          rfl
      · next state visited =>
          rw [visited]
          rfl

/-- Without localizations no script is given up for a catalog. -/
theorem result_withoutLookup_ne_catalog
    (inlining : Inlining)
    (inputMap : Option PositionMap)
    (first : Nat)
    (location : Location)
    (error : CatalogError) :
    (inlining.withoutLookup.run inputMap first).result ≠ .error (.catalog location error) := by
  intro failed
  rw [result_run] at failed
  split at failed
  · cases failed
  · rcases visited : inlining.withoutLookup.visitAll (.start first)
      inlining.withoutLookup.calls with ⟨state, _ | other⟩
    · rw [visited] at failed
      cases problem?_of_finish failed
    · rw [visited] at failed
      cases failed
      obtain ⟨_, _, _, unparsed⟩ := exists_unparsed_of_visitAll (congrArg Prod.snd visited)
      cases unparsed

/-- A visit that fails is what comes of a script. -/
theorem result_of_failed
    {inputMap : Option PositionMap}
    {first : Nat}
    {error : ExpansionError}
    (failed : (inlining.visitAll (.start first) inlining.calls).2 = some error) :
    (inlining.run inputMap first).result = .error error := by
  rw [result_run]
  cases parsed : Script.parse (.ofPath inlining.file) inlining.script with
  | none =>
      have noCalls : inlining.calls = [] := by
        unfold calls
        rw [parsed]
        rfl
      rw [noCalls] at failed
      cases failed
  | some trees =>
      rcases visited : inlining.visitAll (.start first) inlining.calls with ⟨state, outcome⟩
      rw [visited] at failed
      cases failed
      rfl

/-- What comes of a script does not depend on the warnings. -/
theorem result_eq_of_alike
    {first : Nat}
    (alike : (inlining.visitAll (.start first) inlining.calls).map InliningState.quiet id =
      (inlining.withoutLookup.visitAll (.start first) inlining.calls).map InliningState.quiet id)
    (inputMap : Option PositionMap) :
    (inlining.run inputMap first).result = (inlining.withoutLookup.run inputMap first).result := by
  have concluded : inlining.conclude inputMap
        (inlining.visitAll (.start first) inlining.calls) =
      inlining.withoutLookup.conclude inputMap
        (inlining.withoutLookup.visitAll (.start first) inlining.calls) := by
    rw [← conclude_quiet inlining, alike]
    exact conclude_quiet inlining.withoutLookup inputMap _
  rw [result_run, result_run, concluded]
  rfl

end Inlining

/-- If every question that inlining a script asks is answered such that the call keeps its own
pattern, then inlining comes to the same script, map, counts and next index as without
localizations, or to the same error. -/
theorem result_eq_of_keepsOwn
    (session : Session)
    (file : String)
    (script : List Char)
    (inputMap : Option PositionMap)
    (first : Nat)
    (keeps :
      let inlining : Inlining := ⟨session, file, script⟩
      ∀ question ∈ inlining.questions (.start first) inlining.calls,
        session.keepsOwn question = true) :
    (Inlining.run ⟨session, file, script⟩ inputMap first).result =
      (Inlining.run ⟨session.withoutLookup, file, script⟩ inputMap first).result := by
  let inlining : Inlining := ⟨session, file, script⟩
  obtain ⟨alike, parts⟩ := @Inlining.quiet_visitAll inlining (.start first) (.start first) rfl
    inlining.calls
  cases deviates : inlining.deviation? (.start first) inlining.calls with
  | none => exact Inlining.result_eq_of_alike (alike deviates) inputMap
  | some question =>
      have asked := (parts question deviates).1
      unfold Inlining.deviation? at deviates
      have differs := List.find?_some deviates
      rw [Bool.not_eq_true', show inlining.session.keepsOwn question = true from keeps question asked]
        at differs
      cases differs

/-- A catalog with one entry for another locale and one that is no pattern, under the fallback
policy: the functions and the constants are those of the script itself. -/
theorem result_eq_of_keepsOwn_broken :
    let catalog := [("en", "a", "\x7b"), ("fr", "a", "b")].foldl
      (fun catalog entry => Catalog.insertPattern catalog entry.1 entry.2.1 entry.2.2)
      Catalog.empty
    let session : Session := ⟨"t", "en", .literal, some (catalog.lookup .literal), .fallback⟩
    let script := "t('\x7bx\x7d',[t('a')]);t(t('a'),0,'de')".toList
    let inlining : Inlining := ⟨session, "a.js", script⟩
    let questions := inlining.questions (.start 1) inlining.calls
    questions.map (fun question => (question.pattern, question.locale)) =
        [("a", "en"), ("\x7bx\x7d", "en"), ("a", "en"), ("a", "de")] ∧
      (∀ question ∈ questions, session.keepsOwn question = true) ∧
      (inlining.run none 1).warnings.length = 2 ∧
      (inlining.run none 1).result =
        (Inlining.run ⟨session.withoutLookup, "a.js", script⟩ none 1).result := by
  intro catalog session script inlining questions
  have keeps : ∀ question ∈ questions, session.keepsOwn question = true := by decide +kernel
  exact ⟨by decide +kernel, keeps, by decide +kernel,
    result_eq_of_keepsOwn session "a.js" script none 1 keeps⟩

end MessageExpansion
