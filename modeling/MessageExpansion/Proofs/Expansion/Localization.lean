import MessageExpansion.Expansion.Extract
import MessageExpansion.Proofs.Catalog
import MessageExpansion.Proofs.Lint.Agreement
import MessageExpansion.Proofs.Pattern.Elements

/-!
# Localizations of extracted patterns

Extraction files the patterns of a script in a catalog, and inlining looks them up in a catalog that
was localized from it.  Both fold calls to constants, but extraction folds a call to its own text
and inlining to that of its localization.  So a localization is found for every pattern that is
known from the script itself; one that a call inside the call folds to may be missing.
-/

namespace MessageExpansion

open Script (Span Argument Call CallTree)

/-- Whether something succeeds with a given value can be decided for any type of errors. -/
instance decidableEqOk {error outcome : Type} [DecidableEq outcome] (result : Except error outcome)
    (value : outcome) : Decidable (result = .ok value) :=
  decidable_of_iff (result.toOption = some value) (by cases result <;> simp [Except.toOption])

/-- The catalog has a pattern for a locale under every key that the extracted one has under the
locale it was extracted for. -/
def Catalog.Localizes (catalog extracted : Catalog) (source locale : String) : Prop :=
  ∀ key, (extracted.pattern? source key).isSome →
    ∃ text pattern, catalog.pattern? locale key = some text ∧ Pattern.parse text = .ok pattern

/-- It is enough to look at the keys that are there. -/
theorem Catalog.localizes_iff
    (catalog extracted : Catalog)
    (source locale : String) :
    catalog.Localizes extracted source locale ↔
      ∀ key ∈ (extracted.localeEntries source).keys,
        ((catalog.pattern? locale key).bind (Pattern.parse · |>.toOption)).isSome := by
  have isKey (key : String) : (extracted.pattern? source key).isSome ↔
      key ∈ (extracted.localeEntries source).keys := by
    unfold pattern? localeEntries
    cases extracted.get? source with
    | none => simp [SortedMap.keys, SortedMap.empty]
    | some entries => simp [SortedMap.get?, SortedMap.keys]
  have isValid (key : String) :
      ((catalog.pattern? locale key).bind (Pattern.parse · |>.toOption)).isSome ↔
        ∃ text pattern, catalog.pattern? locale key = some text ∧
          Pattern.parse text = .ok pattern := by
    cases catalog.pattern? locale key with
    | none => simp
    | some text => cases parsed : Pattern.parse text <;> simp [Except.toOption, parsed]
  simp only [Localizes, isKey, isValid]

instance (catalog extracted : Catalog) (source locale : String) :
    Decidable (catalog.Localizes extracted source locale) :=
  decidable_of_iff _ (catalog.localizes_iff extracted source locale).symm

/-- The session with the localizations of a catalog, filed under keys of its own strategy. -/
def Session.localizedBy (session : Session) (catalog : Catalog) : Session :=
  { session with lookup := some (catalog.lookup session.keys) }

/-! ### Constants -/

namespace FoldedConstants

/-- The constants are those of calls that were visited. -/
def AreOf (folded : FoldedConstants) (visited : List Call) : Prop :=
  ∀ entry ∈ folded, ∃ inner ∈ visited, inner.span = entry.1

variable {folded : FoldedConstants} {visited : List Call}

/-- Another visit may leave the constants as they are. -/
theorem AreOf.concat
    (areOf : folded.AreOf visited)
    (call : Call) :
    folded.AreOf (visited ++ [call]) := by
  intro entry present
  obtain ⟨inner, inside, equal⟩ := areOf entry present
  exact ⟨inner, List.mem_append_left _ inside, equal⟩

/-- Another visit may add the constant of its call. -/
theorem AreOf.visit
    {call : Call}
    {constant : Option String}
    (areOf : folded.AreOf visited) :
    AreOf (match constant with
      | some value => (call.span, value) :: folded
      | none => folded) (visited ++ [call]) := by
  cases constant with
  | none => exact areOf.concat call
  | some value =>
      intro entry present
      rcases List.mem_cons.mp present with rfl | present
      · exact ⟨call, by simp, rfl⟩
      · exact areOf.concat call entry present

/-- The stretch that a constant is known for is that of a call. -/
theorem AreOf.exists_call
    {span : Span}
    (areOf : folded.AreOf visited)
    (known : folded.value? span ≠ none) :
    ∃ inner ∈ visited, inner.span = span := by
  unfold value? at known
  cases found : folded.find? (·.1 == span) with
  | none => simp [found] at known
  | some entry =>
      obtain ⟨inner, inside, equal⟩ := areOf entry (List.mem_of_find?_eq_some found)
      have same := List.find?_some found
      exact ⟨inner, inside, equal.trans (eq_of_beq same)⟩

end FoldedConstants

/-- What is known about an argument depends on the constant of its expression only. -/
theorem Script.Argument.literal?_congr
    {argument : Argument}
    {first second : FoldedConstants}
    (same : first.value? argument.core = second.value? argument.core) :
    argument.literal? first = argument.literal? second := by
  unfold literal? kind
  rw [same]

/-- An argument is known whenever its expression is a constant. -/
theorem Script.Argument.literal?_of_value?
    {argument : Argument}
    {first second : FoldedConstants}
    (known : argument.literal? first ≠ none)
    (constant : second.value? argument.core ≠ none) :
    argument.literal? second ≠ none := by
  unfold literal? kind at known ⊢
  split
  · next spread => simp [spread, ArgumentKind.literal?] at known
  · cases value : second.value? argument.core with
    | none => exact absurd value constant
    | some text => simp [ArgumentKind.literal?]

/-- The pattern or the locale of a call is known to inlining from a call inside it, which extraction
takes for something else. -/
inductive FoldsOtherwise (inlined extracted : FoldedConstants) (visited : List Call)
    (call : Call) : Prop
  /-- The pattern is a call with another constant, or with none, in extraction. -/
  | pattern
      {argument : Argument}
      {inner : Call}
      (isPattern : call.pattern? = some argument)
      (inside : inner ∈ visited)
      (isArgument : inner.span = argument.core)
      (differs : inlined.value? inner.span ≠ extracted.value? inner.span)
  /-- The locale is a call that is no constant in extraction. -/
  | locale
      {argument : Argument}
      {inner : Call}
      (isLocale : call.locale? = some argument)
      (inside : inner ∈ visited)
      (isArgument : inner.span = argument.core)
      (folded : inlined.value? inner.span ≠ none)
      (dynamic : extracted.value? inner.span = none)

namespace FoldsOtherwise

variable {inlined extracted : FoldedConstants} {visited : List Call} {call : Call}
variable {argument : Argument}

/-- A pattern that is another constant in extraction than in inlining is a call. -/
theorem of_pattern
    (inlinedOf : inlined.AreOf visited)
    (extractedOf : extracted.AreOf visited)
    (isPattern : call.pattern? = some argument)
    (differs : inlined.value? argument.core ≠ extracted.value? argument.core) :
    FoldsOtherwise inlined extracted visited call := by
  have constant : inlined.value? argument.core ≠ none ∨
      extracted.value? argument.core ≠ none := by
    by_contra neither
    rw [not_or, not_not, not_not] at neither
    exact differs (neither.1.trans neither.2.symm)
  obtain ⟨inner, inside, isArgument⟩ :=
    constant.elim inlinedOf.exists_call extractedOf.exists_call
  rw [← isArgument] at differs
  exact .pattern isPattern inside isArgument differs

/-- A locale that inlining knows and extraction does not is a call. -/
theorem of_locale
    (inlinedOf : inlined.AreOf visited)
    (isLocale : call.locale? = some argument)
    (known : argument.literal? inlined ≠ none)
    (unknown : argument.literal? extracted = none) :
    FoldsOtherwise inlined extracted visited call := by
  have dynamic : extracted.value? argument.core = none := by
    by_contra constant
    exact Argument.literal?_of_value? known constant unknown
  have folded : inlined.value? argument.core ≠ none := fun none =>
    known ((Argument.literal?_congr (none.trans dynamic.symm)).trans unknown)
  obtain ⟨inner, inside, isArgument⟩ := inlinedOf.exists_call folded
  rw [← isArgument] at folded dynamic
  exact .locale isLocale inside isArgument folded dynamic

end FoldsOtherwise

/-- A call whose locale is not known, though it is by other constants, has a locale argument that
only the others know. -/
theorem Script.Call.exists_locale?_of_knownLocale?
    {call : Call}
    {first second : FoldedConstants}
    {locale : Option String}
    (known : call.knownLocale? first = some locale)
    (unknown : call.knownLocale? second = none) :
    ∃ argument, call.locale? = some argument ∧ argument.literal? first ≠ none ∧
      argument.literal? second = none := by
  unfold Script.Call.knownLocale? at known unknown
  split at unknown
  · next argument isLocale =>
      rw [isLocale] at known
      refine ⟨argument, isLocale, fun none => ?_, by simpa using unknown⟩
      simp [none] at known
  · cases unknown

/-- A call that is eligible in inlining has the same pattern in extraction, unless a call inside it
folds otherwise. -/
theorem Script.Call.exists_match?_or_foldsOtherwise
    {call : Call}
    {function : String}
    {inlined extracted : FoldedConstants}
    {visited : List Call}
    {eligible : EligibleCall}
    (inlinedOf : inlined.AreOf visited)
    (extractedOf : extracted.AreOf visited)
    (found : call.match? function inlined = some eligible) :
    (∃ other, call.match? function extracted = some other ∧ other.pattern = eligible.pattern) ∨
      FoldsOtherwise inlined extracted visited call := by
  obtain ⟨named, pattern, known, -⟩ := Script.Call.match?_eq_some_iff.mp found
  obtain ⟨argument, isPattern, literal⟩ := Option.bind_eq_some_iff.mp pattern
  by_cases samePattern : inlined.value? argument.core = extracted.value? argument.core
  · have patternThere : call.pattern?.bind (·.literal? extracted) = some eligible.pattern := by
      rw [isPattern, Option.bind_some, ← Argument.literal?_congr samePattern, literal]
    cases knownThere : call.knownLocale? extracted with
    | some other =>
        exact .inl ⟨⟨eligible.pattern, call.parameters?.map (·.span), other⟩,
          Script.Call.match?_eq_some_iff.mpr ⟨named, patternThere, knownThere, rfl⟩, rfl⟩
    | none =>
        obtain ⟨argument, isLocale, literal, unknown⟩ :=
          Script.Call.exists_locale?_of_knownLocale? known knownThere
        exact .inr (.of_locale inlinedOf isLocale literal unknown)
  · exact .inr (.of_pattern inlinedOf extractedOf isPattern samePattern)

/-! ### Extraction -/

namespace Extraction

variable {extraction : Extraction} {state next final : ExtractionState} {call : Call}
variable {front back calls : List Call}

/-- Before the first visit nothing is known. -/
def start : ExtractionState := ⟨Catalog.empty, []⟩

/-- A visit that succeeds leaves the state as it is, or takes up the pattern of an eligible call. -/
theorem visit_cases
    (visited : extraction.visit state call = .ok next) :
    (call.match? extraction.session.function state.folded = none ∧ next = state) ∨
      ∃ eligible pattern,
        call.match? extraction.session.function state.folded = some eligible ∧
        Pattern.parse eligible.pattern = .ok pattern ∧
        next.folded = (match pattern.constant? with
          | some value => (call.span, value) :: state.folded
          | none => state.folded) ∧
        (pattern = [] ∧ next.catalog = state.catalog ∨
          ∃ key, extraction.session.keys.key? eligible.pattern = some key ∧
            next.catalog =
              state.catalog.insertPattern extraction.session.locale key eligible.pattern) := by
  unfold visit at visited
  split at visited
  · next ineligible =>
      cases visited
      exact Or.inl ⟨ineligible, rfl⟩
  · next eligible found =>
      right
      split at visited
      · cases visited
      · next pattern parsed =>
          refine ⟨eligible, pattern, found, parsed, ?_⟩
          unfold collect at visited
          simp only at visited
          split at visited
          · next empty =>
              cases visited
              exact ⟨rfl, Or.inl ⟨List.isEmpty_iff.mp empty, rfl⟩⟩
          · split at visited
            · cases visited
            · next key derived =>
                cases visited
                exact ⟨rfl, Or.inr ⟨key, derived, rfl⟩⟩

/-- A run over two lists of calls goes on over the second one after the first. -/
theorem exists_mid
    (ran : (front ++ back).foldlM extraction.visit state = .ok final) :
    ∃ mid, front.foldlM extraction.visit state = .ok mid ∧
      back.foldlM extraction.visit mid = .ok final := by
  rw [List.foldlM_append] at ran
  cases first : front.foldlM extraction.visit state with
  | error error =>
      rw [first] at ran
      cases ran
  | ok mid =>
      rw [first] at ran
      exact ⟨mid, rfl, ran⟩

/-- The first visit of a run succeeds, and the others go on from it. -/
theorem exists_next
    (ran : (call :: back).foldlM extraction.visit state = .ok final) :
    ∃ next, extraction.visit state call = .ok next ∧
      back.foldlM extraction.visit next = .ok final := by
  rw [List.foldlM_cons] at ran
  cases step : extraction.visit state call with
  | error error =>
      rw [step] at ran
      cases ran
  | ok next =>
      rw [step] at ran
      exact ⟨next, rfl, ran⟩

/-- The constants of a run are those of calls that were visited. -/
theorem areOf_foldlM
    (ran : calls.foldlM extraction.visit start = .ok final) :
    final.folded.AreOf calls := by
  induction calls using List.reverseRecOn generalizing final with
  | nil =>
      cases ran
      intro entry present
      cases present
  | append_singleton visited call inductionHypothesis =>
      obtain ⟨mid, before, last⟩ := exists_mid ran
      obtain ⟨next, step, done⟩ := exists_next last
      cases done
      have areOf := inductionHypothesis before
      rcases visit_cases step with ⟨_, rfl⟩ | ⟨_, pattern, _, _, folded, _⟩
      · exact areOf.concat call
      · rw [folded]
        exact areOf.visit

/-- No visit takes a key out of the catalog. -/
theorem isSome_pattern?_visit
    {locale key : String}
    (filed : (state.catalog.pattern? locale key).isSome)
    (step : extraction.visit state call = .ok next) :
    (next.catalog.pattern? locale key).isSome := by
  rcases visit_cases step with ⟨_, rfl⟩ | ⟨eligible, _, _, _, _, ⟨_, same⟩ | ⟨other, _, inserted⟩⟩
  · exact filed
  · rw [same]
    exact filed
  · rw [inserted, Catalog.pattern?_insertPattern]
    split
    · rfl
    · exact filed

/-- Nor does a run. -/
theorem isSome_pattern?_foldlM
    {locale key : String}
    (filed : (state.catalog.pattern? locale key).isSome)
    (ran : calls.foldlM extraction.visit state = .ok final) :
    (final.catalog.pattern? locale key).isSome := by
  induction calls generalizing state with
  | nil =>
      cases ran
      exact filed
  | cons call rest inductionHypothesis =>
      obtain ⟨next, step, later⟩ := exists_next ran
      exact inductionHypothesis (isSome_pattern?_visit filed step) later

/-- The pattern of a call that is eligible when it is visited ends up in the catalog under its key,
unless it is empty. -/
theorem exists_key_of_match?
    {eligible : EligibleCall}
    (ran : (call :: back).foldlM extraction.visit state = .ok final)
    (found : call.match? extraction.session.function state.folded = some eligible)
    (nonempty : eligible.pattern ≠ "") :
    ∃ key, extraction.session.keys.key? eligible.pattern = some key ∧
      (final.catalog.pattern? extraction.session.locale key).isSome := by
  obtain ⟨next, step, later⟩ := exists_next ran
  rcases visit_cases step with ⟨ineligible, _⟩ | ⟨other, pattern, same, parsed, _, filed⟩
  · rw [found] at ineligible
    cases ineligible
  · cases found.symm.trans same
    rcases filed with ⟨rfl, _⟩ | ⟨key, derived, inserted⟩
    · exact absurd (Pattern.eq_empty_of_parse parsed) nonempty
    · refine ⟨key, derived, isSome_pattern?_foldlM ?_ later⟩
      rw [inserted, Catalog.pattern?_insertPattern, if_pos ⟨rfl, rfl⟩]
      rfl

/-- An extraction that succeeds has visited all calls of the script. -/
theorem exists_foldlM_of_run
    {extracted : Catalog}
    (extracts : extraction.run = .ok extracted) :
    ∃ trees final, Script.parse (.ofPath extraction.file) extraction.script = some trees ∧
      (CallTree.visitsAll trees).foldlM extraction.visit start = .ok final ∧
      final.catalog = extracted := by
  unfold run at extracts
  split at extracts
  · cases extracts
  · next trees parsed =>
      split at extracts
      · next final ran =>
          cases extracts
          exact ⟨trees, final, parsed, ran, rfl⟩
      · cases extracts

end Extraction

/-! ### Inlining -/

/-- A call whose localization is asked for. -/
structure Question where
  call : Call
  /-- The pattern of the call. -/
  pattern : String
  /-- The locale that it is to be localized for. -/
  locale : String

namespace Inlining

variable {inlining : Inlining} {state final : InliningState} {calls : List Call}

/-- What a visit of a call asks for, if it asks for a localization. -/
def question? (inlining : Inlining) (state : InliningState) (call : Call) : Option Question :=
  match call.match? inlining.session.function state.folded with
  | none => none
  | some eligible =>
      match Pattern.parse eligible.pattern with
      | .error _ => none
      | .ok _ =>
          some ⟨call, eligible.pattern, inlining.session.effectiveLocale eligible.locale⟩

/-- What visits of calls ask for, in order, until one of them fails. -/
def questions (inlining : Inlining) (state : InliningState) : List Call → List Question
  | [] => []
  | call :: rest =>
      (inlining.question? state call).toList ++
        match inlining.visit state call with
        | .ok next => inlining.questions next rest
        | .error _ => []

/-- A question is asked by the visit of a call that was reached. -/
theorem exists_reached_of_mem_questions
    {question : Question}
    (asked : question ∈ inlining.questions state calls) :
    ∃ visited rest reached eligible,
      calls = visited ++ question.call :: rest ∧
        inlining.visitAll state visited = (reached, none) ∧
        question.call.match? inlining.session.function reached.folded = some eligible ∧
        question.pattern = eligible.pattern ∧
        question.locale = inlining.session.effectiveLocale eligible.locale := by
  induction calls generalizing state with
  | nil => cases asked
  | cons call rest inductionHypothesis =>
      rw [questions] at asked
      rcases List.mem_append.mp asked with here | later
      · rw [Option.mem_toList, question?] at here
        split at here
        · cases here
        · next eligible found =>
            split at here
            · cases here
            · cases here
              exact ⟨[], rest, state, eligible, rfl, rfl, found, rfl, rfl⟩
      · split at later
        · next next step =>
            obtain ⟨visited, behind, reached, eligible, equal, ran, found, asks⟩ :=
              inductionHypothesis later
            refine ⟨call :: visited, behind, reached, eligible, by rw [equal]; rfl, ?_, found, asks⟩
            rw [visitAll, step]
            exact ran
        · cases later

/-- The constants of a run are those of calls that were visited. -/
theorem areOf_visitAll
    {first : Nat}
    (ran : inlining.visitAll (.start first) calls = (final, none)) :
    final.folded.AreOf calls := by
  refine visitAll_induction (motive := fun visited state => state.folded.AreOf visited) ?_ ?_ ran
  · intro entry present
    cases present
  · intro visited call state next areOf step
    rcases visit_cases step with ⟨_, rfl⟩ | ⟨_, _, _, _, _, _, _, rfl⟩
    · exact areOf.concat call
    · rw [folded_replaceCall]
      exact areOf.visit

end Inlining

/-- A localization that is filed under the key of a pattern is found. -/
theorem Session.resolve_localizedBy
    {session : Session}
    {catalog : Catalog}
    {pattern locale key text : String}
    (derived : session.keys.key? pattern = some key)
    (filed : catalog.pattern? locale key = some text) :
    (session.localizedBy catalog).resolve pattern locale = .ok (.localized text) := by
  simp [resolve, localizedBy, Catalog.lookup, derived, filed]

/-- If a catalog has patterns under all keys that extraction filed, for every locale that inlining
asks for, then inlining finds a pattern for each call that asks for a localization of a pattern that
is not empty, unless the call knows its pattern or its locale from a call that folds otherwise. -/
theorem localized_or_foldsOtherwise
    (session : Session)
    (file : String)
    (script : List Char)
    (catalog : Catalog)
    (first : Nat)
    {extracted : Catalog}
    (extracts : (Extraction.mk session file script).run = .ok extracted) :
    let inlining : Inlining := ⟨session.localizedBy catalog, file, script⟩
    let extraction : Extraction := ⟨session, file, script⟩
    let questions := inlining.questions (.start first) inlining.calls
    (∀ question ∈ questions, catalog.Localizes extracted session.locale question.locale) →
      ∀ question ∈ questions, question.pattern ≠ "" →
        (∃ text pattern,
          inlining.session.resolve question.pattern question.locale = .ok (.localized text) ∧
            Pattern.parse text = .ok pattern) ∨
        ∃ visited rest inlined taken,
          inlining.calls = visited ++ question.call :: rest ∧
            inlining.visitAll (.start first) visited = (inlined, none) ∧
            visited.foldlM extraction.visit Extraction.start = .ok taken ∧
            FoldsOtherwise inlined.folded taken.folded visited question.call := by
  intro inlining extraction questions localizes question asked nonempty
  obtain ⟨trees, final, parsed, ran, rfl⟩ := Extraction.exists_foldlM_of_run extracts
  obtain ⟨visited, rest, inlined, eligible, equal, reached, found, samePattern, sameLocale⟩ :=
    Inlining.exists_reached_of_mem_questions asked
  have calls : inlining.calls = CallTree.visitsAll trees := by
    unfold Inlining.calls
    rw [show Script.parse (.ofPath inlining.file) inlining.script = some trees from parsed]
    rfl
  rw [← calls, equal] at ran
  obtain ⟨taken, before, onward⟩ := Extraction.exists_mid ran
  rcases Script.Call.exists_match?_or_foldsOtherwise (Inlining.areOf_visitAll reached)
    (Extraction.areOf_foldlM before) found with ⟨other, foundThere, sameThere⟩ | otherwise
  · left
    obtain ⟨key, derived, filed⟩ := Extraction.exists_key_of_match? onward foundThere
      (by rw [sameThere, ← samePattern]; exact nonempty)
    obtain ⟨text, pattern, localized, valid⟩ := localizes question asked key filed
    rw [sameThere, ← samePattern] at derived
    exact ⟨text, pattern, Session.resolve_localizedBy derived localized, valid⟩
  · exact Or.inr ⟨visited, rest, inlined, taken, equal, reached, before, otherwise⟩

/-- Two patterns are extracted and localized for two locales.  Inlining asks for one more, of a call
whose locale is known from the localization of a call inside it. -/
theorem localized_or_foldsOtherwise_locale :
    let session : Session := ⟨"t", "en", .normalized, none, .fallback⟩
    let script := "t('b ',0,'fr');t('a',0,t('\x7bx\x7d'))".toList
    let extracted := [("b", "b "), ("\x7bx\x7d", "\x7bx\x7d")].foldl
      (fun catalog entry => Catalog.insertPattern catalog "en" entry.1 entry.2) Catalog.empty
    let catalog := [("en", "b", "B"), ("en", "\x7bx\x7d", "de"), ("fr", "b", "c"),
        ("fr", "\x7bx\x7d", ""), ("de", "b", "d"), ("de", "\x7bx\x7d", "\x7bx\x7d")].foldl
      (fun catalog entry => Catalog.insertPattern catalog entry.1 entry.2.1 entry.2.2)
      Catalog.empty
    let inlining : Inlining := ⟨session.localizedBy catalog, "a.js", script⟩
    let extraction : Extraction := ⟨session, "a.js", script⟩
    let questions := inlining.questions (.start 1) inlining.calls
    extraction.run = .ok extracted ∧
      questions.map (fun question => (question.pattern, question.locale)) =
        [("b ", "fr"), ("\x7bx\x7d", "en"), ("a", "de")] ∧
      ∀ question ∈ questions, question.pattern ≠ "" →
        (∃ text pattern,
          inlining.session.resolve question.pattern question.locale = .ok (.localized text) ∧
            Pattern.parse text = .ok pattern) ∨
        ∃ visited rest inlined taken,
          inlining.calls = visited ++ question.call :: rest ∧
            inlining.visitAll (.start 1) visited = (inlined, none) ∧
            visited.foldlM extraction.visit Extraction.start = .ok taken ∧
            FoldsOtherwise inlined.folded taken.folded visited question.call := by
  intro session script extracted catalog inlining extraction questions
  have extracts : extraction.run = .ok extracted := by decide +kernel
  have localizes : ∀ question ∈ questions,
      catalog.Localizes extracted session.locale question.locale := by decide +kernel
  exact ⟨extracts, by decide +kernel,
    localized_or_foldsOtherwise session "a.js" script catalog 1 extracts localizes⟩

/-- A call whose pattern is a call is filed under the text of the inner call, and looked up under
its localization: it is missing from a catalog that has all that extraction filed. -/
theorem missing_of_localized_argument :
    let session : Session := ⟨"t", "en", .literal, none, .fallback⟩
    let script := "t(t('a'),0,'fr')".toList
    let extracted := Catalog.empty.insertPattern "en" "a" "a"
    let catalog := (Catalog.empty.insertPattern "en" "a" "b").insertPattern "fr" "a" "c"
    let inlining : Inlining := ⟨session.localizedBy catalog, "a.js", script⟩
    let questions := inlining.questions (.start 1) inlining.calls
    (Extraction.mk session "a.js" script).run = .ok extracted ∧
      (∀ question ∈ questions, catalog.Localizes extracted session.locale question.locale) ∧
      ∃ question ∈ questions, question.pattern ≠ "" ∧
        inlining.session.resolve question.pattern question.locale = .ok .missing := by
  intro session script extracted catalog inlining questions
  decide +kernel

end MessageExpansion
