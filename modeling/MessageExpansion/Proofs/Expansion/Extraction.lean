import MessageExpansion.Proofs.Expansion.Indifference
import MessageExpansion.Proofs.Expansion.Survival
import MessageExpansion.Proofs.Key

/-!
# Extraction files what inlining asks for

Extraction and inlining without localizations visit the same calls and find the same constants, each
with a visitor of its own.  So what extraction does is told by the questions of inlining: their
patterns are filed one after the other, and extraction fails where a pattern cannot be filed or
where inlining fails.
-/

namespace MessageExpansion

open Script (Call CallTree)

/-- The patterns of questions that there is something to localize in. -/
def Question.patterns (questions : List Question) : List String :=
  (questions.map (·.pattern)).filter (· ≠ "")

theorem Question.patterns_cons
    (question : Question)
    (rest : List Question) :
    patterns (question :: rest) =
      if question.pattern = "" then patterns rest else question.pattern :: patterns rest := by
  by_cases empty : question.pattern = "" <;> simp [patterns, empty]

namespace Extraction

variable {extraction : Extraction} {taken : ExtractionState} {state : InliningState} {call : Call}
variable {questions : List Question} {catalog extracted : Catalog}

/-- The same script inlined without localizations. -/
def inlining (extraction : Extraction) : Inlining :=
  Inlining.withoutLookup ⟨extraction.session, extraction.file, extraction.script⟩

/-- Put the pattern of a question in a catalog, unless it is empty. -/
def enter (extraction : Extraction) (catalog : Catalog) (question : Question) :
    Except ExpansionError Catalog :=
  if question.pattern = "" then .ok catalog
  else
    match extraction.session.keys.key? question.pattern with
    | none =>
        .error (.catalog (extraction.locate question.call) (.keyless question.pattern))
    | some key => .ok (catalog.insertPattern extraction.session.locale key question.pattern)

/-! ### Visits -/

/-- From the same constants on, a visit fails where that of inlining does; otherwise it files the
pattern that inlining asks about, and finds the same constants. -/
theorem visit_eq
    (same : taken.folded = state.folded) :
    extraction.visit taken call =
      match extraction.inlining.visit state call with
      | .error error => .error error
      | .ok next =>
          ((extraction.inlining.question? state call).toList.foldlM extraction.enter
            taken.catalog).map (⟨·, next.folded⟩) := by
  obtain ⟨catalog, folded⟩ := taken
  cases same
  unfold visit Inlining.question?
  cases found : call.match? extraction.inlining.session.function state.folded with
  | none =>
      rw [show call.match? extraction.session.function state.folded = none from found,
        Inlining.visit_of_unmatched found]
      rfl
  | some eligible =>
      rw [show call.match? extraction.session.function state.folded = some eligible from found]
      cases parsed : Pattern.parse eligible.pattern with
      | error error =>
          rw [Inlining.visit_of_uncompiled found
            (Inlining.effectivePattern_of_unparsed parsed _)]
          simp only [parsed]
          rfl
      | ok own =>
          have compiled := @Inlining.effectivePattern_withoutLookup extraction.inlining call
            _ (extraction.session.effectiveLocale eligible.locale) own parsed
          rw [Inlining.visit_of_compiled found compiled]
          simp only [parsed, Inlining.folded_replaceCall, collect, enter, Pattern.isEmpty_of_parse
            parsed, Option.toList_some, List.foldlM_cons, List.foldlM_nil]
          by_cases empty : eligible.pattern = ""
          · simp only [empty, decide_true, if_true]
            rfl
          · simp only [empty, decide_false, if_false]
            cases extraction.session.keys.key? eligible.pattern <;> rfl

/-- A run files the patterns that inlining asks about.  It fails where one cannot be filed or where
inlining fails, whichever comes first. -/
theorem foldlM_visit
    (same : taken.folded = state.folded)
    (calls : List Call) :
    calls.foldlM extraction.visit taken =
      match (extraction.inlining.questions state calls).foldlM extraction.enter taken.catalog with
      | .error error => .error error
      | .ok catalog =>
          match extraction.inlining.visitAll state calls with
          | (final, none) => .ok ⟨catalog, final.folded⟩
          | (_, some error) => .error error := by
  induction calls generalizing taken state with
  | nil =>
      obtain ⟨catalog, folded⟩ := taken
      cases same
      rfl
  | cons call rest inductionHypothesis =>
      rw [List.foldlM_cons, visit_eq same, Inlining.questions, Inlining.visitAll]
      cases visited : extraction.inlining.visit state call with
      | error error =>
          have unasked : extraction.inlining.question? state call = none :=
            (Inlining.exists_unparsed_of_failed visited).1
          rw [unasked]
          rfl
      | ok next =>
          simp only [List.foldlM_append]
          cases (extraction.inlining.question? state call).toList.foldlM extraction.enter
              taken.catalog with
          | error error => rfl
          | ok catalog => exact inductionHypothesis rfl

/-- The catalog of a script, or what keeps it from being extracted. -/
theorem run_eq
    (extraction : Extraction)
    (first : Nat) :
    extraction.run =
      if (Script.parse (.ofPath extraction.file) extraction.script).isNone then
        .error (.unparsed extraction.file)
      else
        match (extraction.inlining.questions (.start first) extraction.inlining.calls).foldlM
          extraction.enter Catalog.empty with
        | .error error => .error error
        | .ok catalog =>
            match (extraction.inlining.visitAll (.start first) extraction.inlining.calls).2 with
            | none => .ok catalog
            | some error => .error error := by
  unfold run Inlining.calls
  cases parsed : Script.parse (.ofPath extraction.file) extraction.script with
  | none => rfl
  | some trees =>
      have sameStart : (⟨Catalog.empty, []⟩ : ExtractionState).folded =
        (InliningState.start first).folded := rfl
      rw [show Script.parse (.ofPath extraction.inlining.file) extraction.inlining.script =
        some trees from parsed]
      simp only [Option.getD_some, Option.isNone_some, Bool.false_eq_true, if_false]
      rw [foldlM_visit sameStart]
      cases (extraction.inlining.questions (.start first) (CallTree.visitsAll trees)).foldlM
          extraction.enter Catalog.empty with
      | error error => rfl
      | ok catalog =>
          rcases extraction.inlining.visitAll (.start first) (CallTree.visitsAll trees) with
            ⟨final, _ | error⟩ <;> rfl

/-! ### What is filed -/

theorem foldlM_enter_cons
    (question : Question)
    (rest : List Question)
    (catalog : Catalog) :
    (question :: rest).foldlM extraction.enter catalog =
      if question.pattern = "" then rest.foldlM extraction.enter catalog
      else
        match extraction.session.keys.key? question.pattern with
        | none =>
            .error (.catalog (extraction.locate question.call) (.keyless question.pattern))
        | some key =>
            rest.foldlM extraction.enter
              (catalog.insertPattern extraction.session.locale key question.pattern) := by
  rw [List.foldlM_cons, enter]
  split
  · rfl
  · cases extraction.session.keys.key? question.pattern <;> rfl

/-- Patterns are filed if each of them has a key, the empty one apart. -/
theorem exists_foldlM_enter_iff
    (catalog : Catalog) :
    (∃ filed, questions.foldlM extraction.enter catalog = .ok filed) ↔
      ∀ pattern ∈ Question.patterns questions,
        (extraction.session.keys.key? pattern).isSome := by
  induction questions generalizing catalog with
  | nil => simp [Question.patterns, pure, Except.pure]
  | cons question rest inductionHypothesis =>
      rw [foldlM_enter_cons, Question.patterns_cons]
      by_cases empty : question.pattern = ""
      · rw [if_pos empty, if_pos empty]
        exact inductionHypothesis catalog
      · rw [if_neg empty, if_neg empty, List.forall_mem_cons]
        cases extraction.session.keys.key? question.pattern with
        | none => simp
        | some key => simpa using inductionHypothesis _

/-- Under each key the last pattern that has it is found, and under the other locales what was there
before. -/
theorem pattern?_foldlM_enter
    (filed : questions.foldlM extraction.enter catalog = .ok extracted)
    (locale key : String) :
    extracted.pattern? locale key =
      (if locale = extraction.session.locale then
        extraction.session.keys.lastUnder? (Question.patterns questions) key
      else none).or (catalog.pattern? locale key) := by
  induction questions generalizing catalog with
  | nil =>
      cases filed
      simp [Question.patterns, KeyStrategy.lastUnder?]
  | cons question rest inductionHypothesis =>
      rw [foldlM_enter_cons] at filed
      rw [Question.patterns_cons]
      by_cases empty : question.pattern = ""
      · rw [if_pos empty] at filed
        rw [if_pos empty]
        exact inductionHypothesis filed
      · rw [if_neg empty] at filed
        cases derived : extraction.session.keys.key? question.pattern with
        | none =>
            rw [derived] at filed
            cases filed
        | some other =>
            rw [derived] at filed
            rw [inductionHypothesis filed, Catalog.pattern?_insertPattern, if_neg empty,
              KeyStrategy.lastUnder?_cons, derived]
            by_cases here : locale = extraction.session.locale
            · simp only [here, true_and, if_true, Option.or_assoc, Option.some.injEq]
              by_cases same : key = other
              · simp [same]
              · simp [same, Ne.symm same]
            · simp [here]

/-- If all patterns can be filed, then extraction ends with the catalog of them, and inlining fails
for nothing that has to do with a message; or both fail for the same reason. -/
theorem run_of_filed
    {first : Nat}
    (filed : (extraction.inlining.questions (.start first) extraction.inlining.calls).foldlM
      extraction.enter Catalog.empty = .ok catalog)
    (inputMap : Option PositionMap) :
    (extraction.run = .ok catalog ∧ ∀ error,
      (extraction.inlining.run inputMap first).result = .error error → error.problem? = none) ∨
    ∃ error, extraction.run = .error error ∧
      (extraction.inlining.run inputMap first).result = .error error := by
  have sameScript : Script.parse (.ofPath extraction.inlining.file) extraction.inlining.script =
    Script.parse (.ofPath extraction.file) extraction.script := rfl
  rw [extraction.run_eq first, Inlining.result_run, filed, sameScript]
  cases Script.parse (.ofPath extraction.file) extraction.script with
  | none => exact .inr ⟨_, rfl, rfl⟩
  | some trees =>
      rcases extraction.inlining.visitAll (.start first) extraction.inlining.calls with
        ⟨state, _ | error⟩
      · exact .inl ⟨rfl, fun error failed => Inlining.problem?_of_finish failed⟩
      · exact .inr ⟨error, rfl, rfl⟩

/-- The catalog of an extracted script is the one that its questions are filed in. -/
theorem filed_of_run
    (extracts : extraction.run = .ok extracted)
    (first : Nat) :
    (extraction.inlining.questions (.start first) extraction.inlining.calls).foldlM
      extraction.enter Catalog.empty = .ok extracted := by
  rw [extraction.run_eq first] at extracts
  split at extracts
  · cases extracts
  · split at extracts
    · cases extracts
    · next catalog filed =>
        split at extracts
        · rw [filed]
          exact extracts
        · cases extracts

/-- The patterns of a script that there is something to localize in, in the order of the calls. -/
def messages (extraction : Extraction) : List String :=
  Question.patterns (extraction.inlining.questions (.start 1) extraction.inlining.calls)

/-- All of them have keys if the script is extracted. -/
theorem isSome_key?_of_run
    (extracts : extraction.run = .ok extracted) :
    ∀ pattern ∈ extraction.messages, (extraction.session.keys.key? pattern).isSome :=
  (exists_foldlM_enter_iff Catalog.empty).mp ⟨extracted, filed_of_run extracts 1⟩

/-- Its catalog has the last of them under each key, for the locale of the session. -/
theorem pattern?_of_run
    (extracts : extraction.run = .ok extracted)
    (locale key : String) :
    extracted.pattern? locale key =
      if locale = extraction.session.locale then
        extraction.session.keys.lastUnder? extraction.messages key
      else none := by
  rw [pattern?_foldlM_enter (filed_of_run extracts 1)]
  exact Option.or_none

end Extraction

/-! ### Literal keys -/

/-- A pattern that there is something to localize in is the one of a question, and not empty. -/
theorem Question.mem_patterns
    {questions : List Question}
    {pattern : String} :
    pattern ∈ patterns questions ↔
      ∃ question ∈ questions, question.pattern = pattern ∧ pattern ≠ "" := by
  simp only [patterns, List.mem_filter, List.mem_map, decide_eq_true_eq]
  constructor
  · rintro ⟨⟨question, present, same⟩, nonempty⟩
    exact ⟨question, present, same, nonempty⟩
  · rintro ⟨question, present, same, nonempty⟩
    exact ⟨⟨question, present, same⟩, nonempty⟩

theorem Question.nonempty_of_mem_patterns
    {questions : List Question} :
    ∀ pattern ∈ patterns questions, pattern ≠ "" := by
  intro pattern present
  obtain ⟨_, _, _, nonempty⟩ := mem_patterns.mp present
  exact nonempty

/-- Without localizations the calls that are asked about are those that are replaced. -/
theorem Inlining.map_call_questions
    (inlining : Inlining)
    (plain : InliningState)
    (calls : List Call) :
    (inlining.withoutLookup.questions plain calls).map (·.call) =
      inlining.withoutLookup.replacedCalls plain calls := by
  induction calls generalizing plain with
  | nil => rfl
  | cons call rest inductionHypothesis =>
      rw [questions, replacedCalls]
      cases visited : inlining.withoutLookup.visit plain call with
      | error error =>
          rw [(exists_unparsed_of_failed visited).1]
          rfl
      | ok next =>
          simp only [List.map_append, inductionHypothesis]
          unfold question?
          cases found : call.match? inlining.withoutLookup.session.function plain.folded with
          | none => rfl
          | some eligible =>
              cases parsed : Pattern.parse eligible.pattern with
              | ok own => simp [parsed]
              | error problem =>
                  rw [visit_of_uncompiled found (effectivePattern_of_unparsed parsed _)] at visited
                  cases visited

/-- What extraction under literal keys and inlining see in a script. -/
structure MessagesAgree (extraction : Extraction) (inlining : Inlining)
    (inputMap : Option PositionMap) (first : Nat) : Prop where
  /-- Both fail for the same patterns that are none, at the same places. -/
  faults : ∀ location pattern problem,
    extraction.run = .error (.patternSyntax location pattern problem) ↔
      (inlining.run inputMap first).result = .error (.patternSyntax location pattern problem)
  /-- The questions are about the calls that inlining replaces. -/
  replaced : (inlining.questions (.start first) inlining.calls).map (·.call) =
    inlining.replacedCalls (.start first) inlining.calls
  /-- If inlining succeeds, then extraction does, and its catalog has the patterns of these calls
  other than the empty one under themselves, for the locale of the session, and nothing else. -/
  filed : ∀ result, (inlining.run inputMap first).result = .ok result →
    ∃ extracted, extraction.run = .ok extracted ∧ ∀ locale key,
      extracted.pattern? locale key =
        if locale = extraction.session.locale ∧
            ∃ question ∈ inlining.questions (.start first) inlining.calls,
              question.pattern = key ∧ key ≠ ""
          then some key else none

/-- Without localizations, extraction under literal keys and inlining see the same messages,
whatever calls the arguments of calls fold to constants. -/
theorem messagesAgree_of_literal
    (session : Session)
    (file : String)
    (script : List Char)
    (inputMap : Option PositionMap)
    (first : Nat) :
    let session : Session := { session with keys := .literal, lookup := none }
    MessagesAgree ⟨session, file, script⟩ ⟨session, file, script⟩ inputMap first := by
  intro session
  let extraction : Extraction := ⟨session, file, script⟩
  obtain ⟨catalog, filed⟩ : ∃ catalog,
      (extraction.inlining.questions (.start first) extraction.inlining.calls).foldlM
        extraction.enter Catalog.empty = .ok catalog := by
    rw [Extraction.exists_foldlM_enter_iff]
    intro pattern present
    change (KeyStrategy.literal.key? pattern).isSome
    rw [KeyStrategy.key?_literal, if_neg (Question.nonempty_of_mem_patterns pattern present)]
    rfl
  have outcome := Extraction.run_of_filed filed inputMap
  refine ⟨?_, Inlining.map_call_questions ⟨session, file, script⟩ (.start first) _, ?_⟩
  · intro location pattern problem
    change extraction.run = _ ↔ (extraction.inlining.run inputMap first).result = _
    rcases outcome with ⟨extracts, printing⟩ | ⟨error, extracts, inlines⟩
    · rw [extracts]
      constructor
      · intro impossible
        cases impossible
      · intro failed
        cases printing _ failed
    · rw [extracts, inlines, Except.error.injEq, Except.error.injEq]
  · intro result succeeds
    change (extraction.inlining.run inputMap first).result = _ at succeeds
    rcases outcome with ⟨extracts, _⟩ | ⟨error, _, inlines⟩
    · refine ⟨catalog, extracts, fun locale key => ?_⟩
      rw [Extraction.pattern?_foldlM_enter filed]
      change (if locale = session.locale then
        KeyStrategy.literal.lastUnder? (Question.patterns _) key else none).or none = _
      rw [KeyStrategy.lastUnder?_literal Question.nonempty_of_mem_patterns, Option.or_none,
        ← ite_and]
      simp only [Question.mem_patterns]
      rfl
    · rw [inlines] at succeeds
      cases succeeds

/-! ### Empty catalogs -/

/-- An empty catalog has no localization, and no answer where there is no key. -/
theorem Session.resolve_localizedBy_empty
    (session : Session)
    (pattern locale : String) :
    (session.localizedBy .empty).resolve pattern locale =
      match session.keys.key? pattern with
      | some _ => .ok .missing
      | none => .error (.keyless pattern) := by
  simp only [resolve, localizedBy, Catalog.lookup]
  cases session.keys.key? pattern <;> rfl

/-- So a call keeps its own pattern if the pattern has a key. -/
theorem Session.keepsOwn_localizedBy_empty
    (session : Session)
    (question : Question) :
    (session.localizedBy .empty).keepsOwn question =
      (session.keys.key? question.pattern).isSome := by
  unfold keepsOwn
  rw [resolve_localizedBy_empty]
  cases session.keys.key? question.pattern <;> rfl

/-- The first question about a pattern that has no key. -/
def Session.keyless? (session : Session) (questions : List Question) : Option Question :=
  questions.find? fun question => (session.keys.key? question.pattern).isNone

/-- With an empty catalog inlining fails at the first pattern that has no key.  If there is none, it
comes to the same as without localizations. -/
theorem Inlining.result_localizedBy_empty
    (session : Session)
    (file : String)
    (script : List Char)
    (inputMap : Option PositionMap)
    (first : Nat) :
    let inlining : Inlining := ⟨session.localizedBy .empty, file, script⟩
    let unlocalized : Inlining := ⟨session.withoutLookup, file, script⟩
    (inlining.run inputMap first).result =
      match session.keyless? (unlocalized.questions (.start first) unlocalized.calls) with
      | some question =>
          .error (.catalog (inlining.locate question.call) (.keyless question.pattern))
      | none => (unlocalized.run inputMap first).result := by
  intro inlining unlocalized
  obtain ⟨alike, parts⟩ := @quiet_visitAll inlining (.start first) (.start first) rfl inlining.calls
  have deviates : inlining.deviation? (.start first) inlining.calls =
      session.keyless? (unlocalized.questions (.start first) unlocalized.calls) := by
    refine List.find?_congr fun question _ => ?_
    rw [show inlining.session.keepsOwn question = _ from session.keepsOwn_localizedBy_empty question,
      Option.not_isSome]
  rw [deviates] at alike parts
  cases keyless : session.keyless? (unlocalized.questions (.start first) unlocalized.calls) with
  | none => exact result_eq_of_alike (alike keyless) inputMap
  | some question =>
      have underived : session.keys.key? question.pattern = none := by
        simpa using List.find?_some keyless
      have unanswered : inlining.session.resolve question.pattern question.locale =
          .error (.keyless question.pattern) := by
        rw [Session.resolve_localizedBy_empty, underived]
      exact result_of_failed ((parts question keyless).2 _ unanswered)

/-- In an extracted script only the empty pattern can be without a key. -/
theorem Extraction.keyless?_of_run
    {extraction : Extraction}
    {extracted : Catalog}
    (extracts : extraction.run = .ok extracted)
    (first : Nat) :
    let questions := extraction.inlining.questions (.start first) extraction.inlining.calls
    extraction.session.keyless? questions =
      if extraction.session.keys = .underscoredHash then none
      else questions.find? (·.pattern = "") := by
  intro questions
  have keyed : ∀ question ∈ questions, question.pattern ≠ "" →
      (extraction.session.keys.key? question.pattern).isSome := fun question asked nonempty =>
    (exists_foldlM_enter_iff Catalog.empty).mp ⟨extracted, filed_of_run extracts first⟩
      question.pattern (Question.mem_patterns.mpr ⟨question, asked, rfl, nonempty⟩)
  have keyless := extraction.session.keys.key?_empty
  split
  · next hashed =>
      refine List.find?_eq_none.mpr fun question asked => ?_
      rw [Bool.not_eq_true, Option.isNone_eq_false_iff]
      by_cases empty : question.pattern = ""
      · rw [empty, Option.isSome_iff_ne_none]
        exact fun none => keyless.mp none hashed
      · exact keyed question asked empty
  · next unhashed =>
      refine List.find?_congr fun question asked => ?_
      by_cases empty : question.pattern = ""
      · rw [empty, keyless.mpr unhashed]
        rfl
      · rw [decide_eq_false empty, Option.isNone_eq_false_iff]
        exact keyed question asked empty

/-- What inlining a script with an empty catalog comes to, where `unlocalized` is what inlining it
without localizations comes to and the questions are the ones that are asked then. -/
structure KeysSuffice (inlining : Inlining) (questions : List Question)
    (unlocalized result : Except ExpansionError InlinedScript) : Prop where
  /-- It fails for the catalog exactly if the strategy has no key for the empty pattern and a call
  with the empty pattern is eligible. -/
  fails_iff : (∃ location error, result = .error (.catalog location error)) ↔
    inlining.session.keys ≠ .underscoredHash ∧ ∃ question ∈ questions, question.pattern = ""
  /-- It fails at the first such call. -/
  atFirst : ∀ location error, result = .error (.catalog location error) →
    ∃ question, questions.find? (·.pattern = "") = some question ∧
      location = inlining.locate question.call ∧ error = .keyless ""
  /-- Otherwise it comes to the same as without localizations. -/
  otherwise : (∀ location error, result ≠ .error (.catalog location error)) →
    result = unlocalized

/-- A script whose patterns could all be extracted is inlined with an empty catalog as it is without
localizations, unless an eligible call has the empty pattern: extraction leaves that out, but
inlining looks it up, and gives the script up if there is no key for it. -/
theorem keysSuffice_of_extracted
    (session : Session)
    (file : String)
    (script : List Char)
    (inputMap : Option PositionMap)
    (first : Nat)
    {extracted : Catalog}
    (extracts : (Extraction.mk session file script).run = .ok extracted) :
    let inlining : Inlining := ⟨session.localizedBy .empty, file, script⟩
    let unlocalized : Inlining := ⟨session.withoutLookup, file, script⟩
    KeysSuffice inlining (unlocalized.questions (.start first) unlocalized.calls)
      (unlocalized.run inputMap first).result (inlining.run inputMap first).result := by
  intro inlining unlocalized
  let questions := unlocalized.questions (.start first) unlocalized.calls
  have result : (inlining.run inputMap first).result = _ :=
    Inlining.result_localizedBy_empty session file script inputMap first
  have keyless : session.keyless? questions =
      if session.keys = .underscoredHash then none else questions.find? (·.pattern = "") :=
    Extraction.keyless?_of_run extracts first
  have neverCatalog :=
    Inlining.result_withoutLookup_ne_catalog (Inlining.mk session file script) inputMap first
  cases found : session.keyless? questions with
  | none =>
      have same : (inlining.run inputMap first).result = (unlocalized.run inputMap first).result := by
        rw [result, found]
      rw [found] at keyless
      rw [same]
      refine ⟨⟨?_, ?_⟩, ?_, fun _ => rfl⟩
      · rintro ⟨location, error, failed⟩
        exact absurd failed (neverCatalog location error)
      · rintro ⟨unhashed, question, asked, empty⟩
        rw [if_neg (show session.keys ≠ .underscoredHash from unhashed)] at keyless
        exact absurd (decide_eq_true empty) (List.find?_eq_none.mp keyless.symm question asked)
      · intro location error failed
        exact absurd failed (neverCatalog location error)
  | some question =>
      rw [found] at keyless
      have unhashed : session.keys ≠ .underscoredHash := by
        intro hashed
        rw [if_pos hashed] at keyless
        cases keyless
      rw [if_neg unhashed] at keyless
      have empty : question.pattern = "" := by simpa using List.find?_some keyless.symm
      have failed : (inlining.run inputMap first).result =
          .error (.catalog (inlining.locate question.call) (.keyless "")) := by
        rw [← empty, result, found]
      rw [failed]
      refine ⟨⟨fun _ => ?_, fun _ => ⟨_, _, rfl⟩⟩, ?_, fun never => absurd rfl (never _ _)⟩
      · exact ⟨unhashed, question, List.mem_of_find?_eq_some keyless.symm, empty⟩
      · intro location error same
        cases same
        exact ⟨question, keyless.symm, rfl, rfl⟩

/-- A script with the empty pattern in the parameters of another call is extracted, with one pattern
under a key; inlining it fails for the empty one. -/
theorem keysSuffice_of_extracted_empty :
    let session : Session := ⟨"t", "en", .underscored, none, .fallback⟩
    let script := "t('A b',t(''))".toList
    let extracted := Catalog.empty.insertPattern "en" "a_b" "A b"
    let inlining : Inlining := ⟨session.localizedBy .empty, "a.js", script⟩
    let unlocalized : Inlining := ⟨session.withoutLookup, "a.js", script⟩
    let questions := unlocalized.questions (.start 1) unlocalized.calls
    (Extraction.mk session "a.js" script).run = .ok extracted ∧
      questions.map (·.pattern) = ["", "A b"] ∧
      KeysSuffice inlining questions (unlocalized.run none 1).result
        (inlining.run none 1).result := by
  intro session script extracted inlining unlocalized questions
  have extracts : (Extraction.mk session "a.js" script).run = .ok extracted := by decide +kernel
  exact ⟨extracts, by decide +kernel,
    keysSuffice_of_extracted session "a.js" script none 1 extracts⟩

/-- A script with the empty pattern only: nothing is extracted, and there is nothing to look up, but
inlining gives the script up because the empty pattern has no key.  Without localizations it becomes
an empty literal. -/
theorem keyless_of_empty_pattern :
    let session : Session := ⟨"t", "en", .literal, none, .fallback⟩
    let script := "t('')".toList
    let inlining : Inlining := ⟨session.localizedBy .empty, "a.js", script⟩
    (Extraction.mk session "a.js" script).run = .ok Catalog.empty ∧
      ((inlining.run none 1).result matches .error (.catalog _ (.keyless ""))) = true ∧
      (Inlining.run ⟨session, "a.js", script⟩ none 1).result.toOption.map (·.text) =
        some "\"\"".toList := by
  decide +kernel

end MessageExpansion
