import Mathlib.Data.List.Induction
import MessageExpansion.Expansion.Inline

/-!
# What a visit does

A visit leaves the state as it is, or replaces an eligible call by a constant or by a call of a new
function.  The equations of this module say all that the last two do to the state; everything about
whole runs follows from them by `visitAll_induction`.
-/

namespace MessageExpansion

open Script (Span Call)

namespace Inlining

/-- A script that is inlined without localizations: calls of `t`, for the locale `en`. -/
def unlocalized (script : String) : Inlining :=
  ⟨⟨"t", "en", .literal, none, .fallback⟩, "a.js", script.toList⟩

/-- The calls of a script in the order in which they are listed; none if it cannot be parsed. -/
def calls (inlining : Inlining) : List Call :=
  Script.CallTree.visitsAll
    ((Script.parse (.ofPath inlining.file) inlining.script).getD [])

variable {inlining : Inlining} {state next : InliningState} {call : Call}

/-- The functions that are left when a call has dropped the replacements it does not keep. -/
def remaining (state : InliningState) (call : Call) (parameters : Option Span) :
    HoistedFunctions :=
  discardAll state.hoisted (dropped state call parameters)

/-- The function that a call of a pattern gets, numbered behind those that are left. -/
def newFunction (inlining : Inlining) (state : InliningState) (call : Call)
    (parameters : Option Span) (locale : String) (pattern : Pattern) : RenderFunction :=
  let host := inlining.session.function
  ⟨host, locale, generatedName host (remaining state call parameters).next,
    Renderer.compile pattern⟩

/-- A pattern compiles to a function if its text is not constant. -/
theorem ofPattern_of_not_constant
    {host locale name : String}
    {pattern : Pattern}
    (dynamic : pattern.constant? = none) :
    CompiledPattern.ofPattern host locale name pattern =
      .function ⟨host, locale, name, Renderer.compile pattern⟩ := by
  unfold CompiledPattern.ofPattern
  unfold Pattern.constant? at dynamic
  split at dynamic <;> simp_all

/-- A call of a constant pattern becomes a literal.  Nothing inside it survives. -/
theorem replaceCall_of_constant
    {eligible : EligibleCall}
    {locale value : String}
    {pattern : Pattern}
    (constant : pattern.constant? = some value) :
    inlining.replaceCall state call eligible locale pattern =
      { state with
        replacements := before state call ++
          [⟨⟨call.span.start, call.span.stop, (Text.stringLiteral value).toList⟩, []⟩]
        hoisted := discardAll (remaining state call eligible.parameters)
          (kept state call eligible.parameters)
        folded := (call.span, value) :: state.folded
        replaced := state.replaced + 1 } := by
  match pattern, constant with
  | [], constant =>
      cases constant
      rfl
  | [.text text], constant =>
      cases constant
      rfl

/-- A call of any other pattern becomes a call of a new function, which is passed the parameters
with the replacements inside them. -/
theorem replaceCall_of_dynamic
    {eligible : EligibleCall}
    {locale : String}
    {pattern : Pattern}
    (dynamic : pattern.constant? = none) :
    let index := (remaining state call eligible.parameters).next
    let function := newFunction inlining state call eligible.parameters locale pattern
    let kept := kept state call eligible.parameters
    inlining.replaceCall state call eligible locale pattern =
      { state with
        replacements := before state call ++
          [⟨⟨call.span.start, call.span.stop,
              function.name.toList ++
                '(' :: inlining.parametersText eligible.parameters kept ++ [')']⟩,
            kept.flatMap (·.functions) ++ [index]⟩]
        hoisted := (remaining state call eligible.parameters).push function.print
        replaced := state.replaced + 1 } := by
  unfold replaceCall
  simp only [ofPattern_of_not_constant dynamic]
  rfl

/-- A visit that succeeds leaves the state as it is or replaces the call. -/
theorem visit_cases
    (visited : inlining.visit state call = .ok next) :
    (call.match? inlining.session.function state.folded = none ∧ next = state) ∨
      ∃ eligible locale effective warned,
        call.match? inlining.session.function state.folded = some eligible ∧
        locale = inlining.session.effectiveLocale eligible.locale ∧
        inlining.effectivePattern call eligible.pattern locale = .ok effective ∧
        next = inlining.replaceCall { state with warnings := warned } call eligible locale
          effective.pattern := by
  unfold visit at visited
  split at visited
  · next ineligible =>
      cases visited
      exact Or.inl ⟨ineligible, rfl⟩
  · next eligible found =>
      right
      simp only at visited
      split at visited
      · cases visited
      · next effective compiled =>
          cases visited
          exact ⟨eligible, _, effective, _, found, rfl, compiled, rfl⟩

/-- Visiting one list of calls after another is visiting both. -/
theorem visitAll_append
    (front back : List Call) :
    inlining.visitAll state (front ++ back) =
      match inlining.visitAll state front with
      | (reached, none) => inlining.visitAll reached back
      | (reached, some error) => (reached, some error) := by
  induction front generalizing state with
  | nil => rfl
  | cons call rest inductionHypothesis =>
      rw [List.cons_append, visitAll, visitAll]
      cases inlining.visit state call with
      | error error => rfl
      | ok next => exact inductionHypothesis

/-- A run over two lists of calls goes on over the second one after the first. -/
theorem exists_mid
    {front back : List Call}
    {final : InliningState}
    (ran : inlining.visitAll state (front ++ back) = (final, none)) :
    ∃ mid, inlining.visitAll state front = (mid, none) ∧
      inlining.visitAll mid back = (final, none) := by
  rw [visitAll_append] at ran
  split at ran
  · next mid equal => exact ⟨mid, equal, ran⟩
  · cases ran

/-- The first visit of a run succeeds, and the others go on from it. -/
theorem exists_next
    {rest : List Call}
    {final : InliningState}
    (ran : inlining.visitAll state (call :: rest) = (final, none)) :
    ∃ next, inlining.visit state call = .ok next ∧
      inlining.visitAll next rest = (final, none) := by
  rw [visitAll] at ran
  split at ran
  · next next step => exact ⟨next, step, ran⟩
  · cases ran

/-- Visiting one more call succeeds when all visits before it do and its own does. -/
theorem visitAll_concat
    {visited : List Call}
    {final : InliningState}
    (ran : inlining.visitAll state (visited ++ [call]) = (final, none)) :
    ∃ reached, inlining.visitAll state visited = (reached, none) ∧
      inlining.visit reached call = .ok final := by
  obtain ⟨reached, before, last⟩ := exists_mid ran
  obtain ⟨next, step, done⟩ := exists_next last
  cases done
  exact ⟨reached, before, step⟩

/-- What holds at the start and is kept by every visit holds of what a run reaches. -/
theorem visitAll_induction
    {motive : List Call → InliningState → Prop}
    {calls : List Call}
    {start final : InliningState}
    (initial : motive [] start)
    (step : ∀ visited call state next, motive visited state →
      inlining.visit state call = .ok next → motive (visited ++ [call]) next)
    (ran : inlining.visitAll start calls = (final, none)) :
    motive calls final := by
  induction calls using List.reverseRecOn generalizing final with
  | nil =>
      cases ran
      exact initial
  | append_singleton visited call inductionHypothesis =>
      obtain ⟨reached, before, last⟩ := visitAll_concat ran
      exact step visited call reached final (inductionHypothesis before) last

/-- An outcome of which something is known is there. -/
theorem exists_ok
    {error outcome value : Type}
    {result : Except error outcome}
    {view : outcome → value}
    {seen : value}
    (known : result.toOption.map view = some seen) :
    ∃ outcome, result = .ok outcome ∧ view outcome = seen := by
  cases result with
  | error error => simp [Except.toOption] at known
  | ok outcome => exact ⟨outcome, rfl, by simpa [Except.toOption] using known⟩

/-- A run that yields a script has visited all calls and printed what it reached. -/
theorem runOver_ok
    {inputMap : Option PositionMap}
    {first : Nat}
    {calls : List Call}
    {result : InlinedScript}
    (succeeds : (inlining.runOver inputMap first calls).result = .ok result) :
    ∃ state, inlining.visitAll (.start first) calls = (state, none) ∧
      inlining.finish inputMap state = .ok result := by
  unfold runOver at succeeds
  split at succeeds
  · cases succeeds
  · next state visited => exact ⟨state, visited, succeeds⟩

/-- A script is run over its calls. -/
theorem run_of_parse
    {trees : List Script.CallTree}
    (parsed : Script.parse (.ofPath inlining.file) inlining.script = some trees)
    (inputMap : Option PositionMap)
    (first : Nat) :
    inlining.run inputMap first =
      inlining.runOver inputMap first (Script.CallTree.visitsAll trees) := by
  rw [run, parsed]

/-- A script that is inlined was parsed, its calls were visited, and what they left was printed. -/
theorem run_ok
    {inputMap : Option PositionMap}
    {first : Nat}
    {result : InlinedScript}
    (succeeds : (inlining.run inputMap first).result = .ok result) :
    ∃ trees state, Script.parse (.ofPath inlining.file) inlining.script = some trees ∧
      inlining.visitAll (.start first) (Script.CallTree.visitsAll trees) = (state, none) ∧
      inlining.finish inputMap state = .ok result := by
  unfold run at succeeds
  split at succeeds
  · cases succeeds
  · next trees parsed =>
      obtain ⟨state, visited, printed⟩ := runOver_ok succeeds
      exact ⟨trees, state, parsed, visited, printed⟩

/-- What is printed of a state: its replacements in the script and its functions behind it. -/
theorem finish_ok
    {inputMap : Option PositionMap}
    {result : InlinedScript}
    (printed : inlining.finish inputMap state = .ok result) :
    result.text = (Printed.ofEdits inlining.file inlining.script
        (state.replacements.map (·.edit)) (state.hoisted.flush.1.map String.toList)).text ∧
      result.replaced = state.replaced ∧
      result.generated = state.hoisted.size ∧
      result.next = state.hoisted.next := by
  unfold finish at printed
  simp only at printed
  split at printed
  · cases printed
    exact ⟨rfl, rfl, rfl, rfl⟩
  · cases printed

end Inlining
end MessageExpansion
