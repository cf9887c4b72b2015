import MessageExpansion.Proofs.Expansion.Accounting
import MessageExpansion.Proofs.Expansion.Placement
import MessageExpansion.Proofs.Renderer.Declaration
import MessageExpansion.Proofs.Script.Acceptance.Declaration

/-!
# What is put behind a script

The functions behind an inlined script stand for calls of the script.  Nothing that flows into them
from patterns, localizations or calls becomes code, as long as no locale contains a separator of
lines or paragraphs: then they are comment lines and declarations, which follow the grammar.
-/

namespace MessageExpansion

open Script (Call Declares Spells Traversal)

/-! ### Where functions come from -/

/-- A function stands for a call: it is for the locale of the call and renders what the call is
compiled from. -/
structure StandsForCall (inlining : Inlining) (calls : List Call) (function : RenderFunction) :
    Prop where
  host : function.host = inlining.session.function
  name : ∃ index, function.name = generatedName inlining.session.function index
  call : ∃ call ∈ calls, ∃ folded eligible effective,
    call.match? inlining.session.function folded = some eligible ∧
      function.locale = inlining.session.effectiveLocale eligible.locale ∧
      inlining.effectivePattern call eligible.pattern function.locale = .ok effective ∧
      function.result = Renderer.compile effective.pattern

/-- Functions are the texts of functions that stand for calls. -/
def StandForCalls (inlining : Inlining) (calls : List Call) (hoisted : HoistedFunctions) : Prop :=
  ∀ entry ∈ hoisted.entries, ∃ function, StandsForCall inlining calls function ∧
    entry.2 = function.print

variable {inlining : Inlining} {state next : InliningState} {call : Call} {calls : List Call}

theorem StandsForCall.mono
    {more : List Call}
    {function : RenderFunction}
    (stands : StandsForCall inlining calls function)
    (subset : calls ⊆ more) :
    StandsForCall inlining more function := by
  obtain ⟨call, present, compiled⟩ := stands.call
  exact ⟨stands.host, stands.name, call, subset present, compiled⟩

namespace Inlining

/-- Discarding functions adds none. -/
theorem standForCalls_discardAll
    {hoisted : HoistedFunctions}
    (stand : StandForCalls inlining calls hoisted)
    (dropped : List Replacement) :
    StandForCalls inlining calls (discardAll hoisted dropped) := by
  intro entry present
  rw [entries_discardAll] at present
  exact stand entry (List.mem_filter.mp present).1

/-- A visit adds at most a function that stands for its call. -/
theorem standForCalls_visit
    (stand : StandForCalls inlining calls state.hoisted)
    (step : inlining.visit state call = .ok next) :
    StandForCalls inlining (calls ++ [call]) next.hoisted := by
  have earlier : StandForCalls inlining (calls ++ [call]) state.hoisted := by
    intro entry present
    obtain ⟨function, stands, printed⟩ := stand entry present
    exact ⟨function, stands.mono (List.subset_append_left _ _), printed⟩
  rcases visit_cases step with
    ⟨_, rfl⟩ | ⟨eligible, locale, effective, warned, found, isLocale, compiled, rfl⟩
  · exact earlier
  · have remaining := standForCalls_discardAll earlier (dropped state call eligible.parameters)
    cases constant : effective.pattern.constant? with
    | some value =>
        rw [replaceCall_of_constant constant]
        exact standForCalls_discardAll remaining _
    | none =>
        rw [replaceCall_of_dynamic constant]
        intro entry present
        rw [HoistedFunctions.entries_push, List.mem_append, List.mem_singleton] at present
        rcases present with old | rfl
        · exact remaining entry old
        · exact ⟨_, ⟨rfl, ⟨_, rfl⟩, call, by simp, state.folded, eligible, effective, found, isLocale,
            compiled, rfl⟩, rfl⟩

/-- What a run reaches are functions that stand for calls that were visited. -/
theorem exists_functions_of_visitAll
    {first : Nat}
    (ran : inlining.visitAll (.start first) calls = (state, none)) :
    ∃ functions : List RenderFunction,
      state.hoisted.declarations = functions.map (·.print) ∧
        ∀ function ∈ functions, StandsForCall inlining calls function := by
  have stand : StandForCalls inlining calls state.hoisted :=
    visitAll_induction (motive := fun visited state => StandForCalls inlining visited state.hoisted)
      (fun entry present => by cases present)
      (fun _ _ _ _ stand step => standForCalls_visit stand step) ran
  rw [HoistedFunctions.declarations_eq]
  unfold StandForCalls at stand
  generalize state.hoisted.entries = entries at stand
  induction entries with
  | nil => exact ⟨[], rfl, by simp⟩
  | cons entry rest inductionHypothesis =>
      rw [List.forall_mem_cons] at stand
      obtain ⟨function, stands, printed⟩ := stand.1
      obtain ⟨functions, declared, all⟩ := inductionHypothesis stand.2
      exact ⟨function :: functions, by simp [printed, declared],
        List.forall_mem_cons.mpr ⟨stands, all⟩⟩

/-- An eligible call is one of the function of the session. -/
theorem callee_of_match?
    {function : String}
    {folded : FoldedConstants}
    {eligible : EligibleCall}
    (found : call.match? function folded = some eligible) :
    call.callee = some function :=
  beq_iff_eq.mp (Call.match?_eq_some_iff.mp found).1

/-- What a call is compiled from is the pattern of some text. -/
theorem exists_parse_of_effectivePattern
    {text locale : String}
    {effective : EffectivePattern}
    (compiled : inlining.effectivePattern call text locale = .ok effective) :
    ∃ source, Pattern.parse source = .ok effective.pattern := by
  unfold effectivePattern at compiled
  repeat' split at compiled
  all_goals
    cases compiled
    try exact ⟨_, by assumption⟩

/-- The functions of a script are proper. -/
theorem proper_of_standsForCall
    {function : RenderFunction}
    (fits : ∀ call ∈ calls, call.Fits inlining.script)
    (stands : StandsForCall inlining calls function) :
    function.Proper := by
  obtain ⟨call, present, folded, eligible, effective, found, _, compiled, result⟩ := stands.call
  obtain ⟨source, parsed⟩ := exists_parse_of_effectivePattern compiled
  obtain ⟨index, name⟩ := stands.name
  have isNameText := ((fits call present).callee _ (callee_of_match? found)).1
  refine ⟨stands.host ▸ isNameText, ?_, ?_, ?_⟩
  · rw [name]
    exact isName_generatedName isNameText index
  · rw [name]
    exact generatedName_not_reserved _ index
  · rw [result]
    exact Renderer.isGrouped_compile (Pattern.hasCategories_of_parse parsed)

end Inlining

/-! ### What is put behind a script -/

/-- Some functions are what is put behind a script whose calls are visited. -/
structure Appends (inlining : Inlining) (first : Nat) (calls : List Call)
    (result : Except ExpansionError InlinedScript) (functions : List RenderFunction) : Prop where
  /-- The functions stand for calls of the script. -/
  stands : ∀ function ∈ functions, StandsForCall inlining calls function
  /-- No string breaks out of them, but for separators in a locale. -/
  contains : ∀ function ∈ functions, function.Contains
  /-- They are all that is put behind the edited script. -/
  printed : ∀ script, result = .ok script →
    ∃ state edited, inlining.visitAll (.start first) calls = (state, none) ∧
      Edited 0 inlining.script (state.replacements.map (·.edit)) edited ∧
      script.text = withTrailer edited (trailerOf functions)
  /-- If there are any and their locales are plain, they are comment lines and declarations. -/
  declares : functions ≠ [] → (∀ function ∈ functions, function.HasPlainLocale) →
    ∃ text lexemes, trailerOf functions = some ('/' :: text ++ ['\n']) ∧
      Spells ('/' :: text) lexemes ['\n'] ∧
      Declares (functions.map fun function => (function.name, function.returned)) lexemes
  /-- They follow the grammar unless the locale of one of them contains a separator. -/
  sound : ∀ file, result = .error (.generatedCode file) →
    ∃ function ∈ functions, ¬ function.HasPlainLocale

section

variable {inlining : Inlining} {inputMap : Option PositionMap} {first : Nat} {calls : List Call}
  {state : InliningState} {functions : List RenderFunction}

theorem Inlining.effectivePattern_ne_generatedCode
    (call : Call)
    (text locale file : String) :
    inlining.effectivePattern call text locale ≠ .error (.generatedCode file) := by
  intro failed
  unfold effectivePattern at failed
  repeat' split at failed
  all_goals cases failed

/-- Nothing that was made is read again before all calls are visited. -/
theorem Inlining.visitAll_ne_generatedCode
    {reached : InliningState}
    {file : String} :
    inlining.visitAll state calls ≠ (reached, some (.generatedCode file)) := by
  intro failed
  induction calls generalizing state with
  | nil => cases failed
  | cons call rest inductionHypothesis =>
      rw [visitAll] at failed
      split at failed
      · exact inductionHypothesis failed
      · next error step =>
          cases failed
          unfold visit at step
          split at step
          · cases step
          · dsimp only at step
            split at step
            · next compiled =>
                cases step
                exact effectivePattern_ne_generatedCode _ _ _ _ compiled
            · cases step

theorem trailerOf_eq_printAll
    (nonempty : functions ≠ []) :
    trailerOf functions = some (RenderFunction.printAll functions) := by
  unfold trailerOf RenderFunction.printAll
  simp [nonempty, List.flatMap_map]

/-- Functions with plain locales follow the grammar. -/
theorem Inlining.isSound_trailerOf
    (proper : ∀ function ∈ functions, function.Proper)
    (plain : ∀ function ∈ functions, function.HasPlainLocale) :
    inlining.isSound (trailerOf functions) = true := by
  by_cases empty : functions = []
  · subst empty
    rfl
  · obtain ⟨text, lexemes, printed, spells, declares⟩ :=
      RenderFunction.exists_declares_printAll empty proper plain
    rw [trailerOf_eq_printAll empty, printed]
    exact Script.isSome_parse_of_declares _ declares spells

/-- A run that is given up before its functions are printed puts nothing behind the script. -/
theorem Appends.of_error
    {error : ExpansionError}
    (other : ∀ file, error ≠ .generatedCode file) :
    Appends inlining first calls (.error error) [] where
  stands := by simp
  contains := by simp
  printed := by rintro script ⟨⟩
  declares := by simp
  sound := by
    rintro file ⟨⟩
    exact absurd rfl (other file)

/-- However a traversal orders the calls that are apart, what is put behind the script are functions
that stand for its calls. -/
theorem exists_appends_of_traversal
    {trees : List Script.CallTree}
    (parsed : Script.parse (.ofPath inlining.file) inlining.script = some trees)
    (traversal : Traversal trees calls) :
    ∃ functions,
      Appends inlining first calls (inlining.runOver inputMap first calls).result functions := by
  unfold Inlining.runOver
  split
  · next reached error failed =>
      refine ⟨[], .of_error ?_⟩
      rintro file rfl
      exact Inlining.visitAll_ne_generatedCode failed
  · next state ran =>
      obtain ⟨functions, declared, stands⟩ := Inlining.exists_functions_of_visitAll ran
      have flush := flush_of_declarations declared
      have proper : ∀ function ∈ functions, function.Proper := fun function present =>
        Inlining.proper_of_standsForCall
          (fun call inCalls => Script.fits_of_parse parsed (traversal.complete.mem_iff.mp inCalls))
          (stands function present)
      refine ⟨functions, stands, fun function present => (proper function present).contains,
        ?_, ?_, ?_⟩
      · intro script succeeds
        obtain ⟨edited, inPlace, printed⟩ :=
          Inlining.edited_of_finish parsed traversal ran succeeds
        exact ⟨state, edited, ran, inPlace, flush ▸ printed⟩
      · intro nonempty plain
        obtain ⟨text, lexemes, printed, spelled⟩ :=
          RenderFunction.exists_declares_printAll nonempty proper plain
        exact ⟨text, lexemes, (trailerOf_eq_printAll nonempty).trans (congrArg some printed), spelled⟩
      · intro file failed
        by_contra plain
        push Not at plain
        have sound := @Inlining.isSound_trailerOf inlining functions proper plain
        rw [Inlining.finish, flush, if_pos sound] at failed
        cases failed

end

/--
What inlining puts behind a script are functions that stand for its calls.  No string that flows
into them becomes code of a declaration, and a comment stays in its line unless the locale of its
function contains a separator of lines or paragraphs.  Without such a locale they are comment lines
and declarations, and the run is not given up because of them.
-/
theorem exists_appends_run
    (inlining : Inlining)
    (inputMap : Option PositionMap)
    (first : Nat) :
    ∃ functions,
      Appends inlining first inlining.calls (inlining.run inputMap first).result functions := by
  unfold Inlining.run Inlining.calls
  split
  · exact ⟨[], .of_error (by rintro file ⟨⟩)⟩
  · next trees parsed =>
      rw [parsed]
      exact exists_appends_of_traversal parsed (Traversal.visitsAll (Script.nestAll_of_parse parsed))

/-- A separator in the locale of a call ends a comment: what follows it is not read as declarations,
or it is read as a call that the script does not make. -/
theorem separator_ends_comment :
    let broken := Inlining.unlocalized "t('\x7bx\x7d',\x7b\x7d,'a\u2028b')"
    let extended := Inlining.unlocalized "t('\x7bx\x7d',\x7b\x7d,'a\u2028alert(1)//')"
    let callees (script : List Char) : Option (List (Option String)) :=
      (Script.parse (.ofPath "a.js") script).map fun trees =>
        (Script.CallTree.visitsAll trees).map (·.callee)
    ((broken.run none 1).result matches .error (.generatedCode _)) = true ∧
      callees extended.script = some [some "t"] ∧
      (extended.run none 1).result.toOption.bind (fun result => callees result.text) =
        some [some "__t_1", some "alert", some "String"] := by
  decide +kernel

end MessageExpansion
