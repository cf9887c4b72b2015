import MessageExpansion.Proofs.Edit.ExactMap
import MessageExpansion.Proofs.Expansion.Appending

/-!
# The map of an inlined script

The replacements of a script leave its line ends whole: a call of the session's function begins with
a token and ends with a parenthesis, a literal takes up its quotes, and a call of a generated
function begins with its name.  So the map of a script that is printed with them is exact.
-/

namespace MessageExpansion

open Script (Call CallTree Traversal)
open Text (Splits byteLength)

/-! ### Seams -/

/-- A text that is cut where a character stands goes on with it. -/
theorem Text.HasAt.head?_eq
    {front back : List Char}
    {c : Char}
    (hasAt : HasAt (front ++ back) (byteLength front) c) :
    back.head? = some c := by
  obtain ⟨first, behind, equal, length⟩ := hasAt
  obtain ⟨-, rfl⟩ := append_inj_of_byteLength equal length.symm
  rfl

/-- A text that is cut behind a parenthesis has it at the end of its front part. -/
theorem Script.Closes.getLast?_eq
    {front back : List Char}
    (closes : Script.Closes (front ++ back) (byteLength front)) :
    front.getLast? = some ')' := by
  obtain ⟨before, reached, first, behind, equal, length⟩ := closes
  rw [List.append_cons] at equal
  have longer : byteLength front = byteLength (first ++ [')']) := by
    rw [reached, Text.byteLength_append, length]
    rfl
  obtain ⟨rfl, -⟩ := Text.append_inj_of_byteLength equal longer
  simp

/-- A call of a variable is replaced by a text that leaves the ends of lines whole. -/
theorem Script.Call.Fits.traceable
    {script text : List Char}
    {call : Call}
    {name : String}
    (fits : call.Fits script)
    (callee : call.callee = some name)
    (nonempty : text ≠ [])
    (noFeed : text.head? ≠ some '\n')
    (noReturn : text.getLast? ≠ some '\r') :
    Edit.Traceable script ⟨call.span.start, call.span.stop, text⟩ := by
  refine ⟨⟨fits.start, fits.stop⟩, Nat.le_of_lt fits.nonempty, nonempty, noFeed, noReturn, ?_⟩
  rintro front back rfl cut ⟨carriage, feed⟩
  rcases cut with (starts : byteLength front = call.span.start) |
    (stops : byteLength front = call.span.stop)
  · obtain ⟨-, c, hasAt, noLineFeed⟩ := fits.callee name callee
    have begins := Text.HasAt.head?_eq (starts ▸ hasAt)
    rw [feed] at begins
    exact noLineFeed (Option.some.inj begins).symm
  · have ends := Script.Closes.getLast?_eq (stops ▸ fits.closes)
    rw [carriage] at ends
    cases ends

namespace Inlining

variable {inlining : Inlining} {state next : InliningState} {call : Call} {calls : List Call}

/-- Replacements can be told from what stands around them by counting lines. -/
def AllTraceable (script : List Char) (replacements : List Replacement) : Prop :=
  ∀ replacement ∈ replacements, replacement.edit.Traceable script

/-- What a visit puts in the place of its call leaves the ends of lines whole. -/
theorem allTraceable_visit
    {script : List Char}
    (traceable : AllTraceable script state.replacements)
    (fits : call.Fits script)
    (step : inlining.visit state call = .ok next) :
    AllTraceable script next.replacements := by
  rcases visit_cases step with ⟨_, rfl⟩ | ⟨eligible, locale, effective, warned, found, _, _, rfl⟩
  · exact traceable
  · have callee := callee_of_match? found
    have left : AllTraceable script (before state call) := fun replacement present =>
      traceable replacement ((List.takeWhile_sublist _).subset present)
    cases constant : effective.pattern.constant? with
    | some value =>
        rw [replaceCall_of_constant constant]
        refine List.forall_mem_append.mpr ⟨left, List.forall_mem_singleton.mpr ?_⟩
        have literal : (Text.stringLiteral value).toList =
            '"' :: Text.StringLiteral.encode value.toList ++ ['"'] := String.toList_ofList
        rw [literal]
        exact fits.traceable callee (by simp) (by simp) (by rw [List.getLast?_concat]; decide)
    | none =>
        rw [replaceCall_of_dynamic constant]
        refine List.forall_mem_append.mpr ⟨left, List.forall_mem_singleton.mpr ?_⟩
        exact fits.traceable callee (by simp) (by simp [newFunction, toList_generatedName])
          (by rw [List.getLast?_concat]; decide)

/-- The replacements of a run leave the ends of lines whole. -/
theorem allTraceable_visitAll
    {first : Nat}
    (fits : ∀ call ∈ calls, call.Fits inlining.script)
    (ran : inlining.visitAll (.start first) calls = (state, none)) :
    AllTraceable inlining.script state.replacements := by
  refine visitAll_induction
    (motive := fun visited state => (∀ call ∈ visited, call.Fits inlining.script) →
      AllTraceable inlining.script state.replacements) ?_ ?_ ran fits
  · intro _ replacement present
    cases present
  · intro visited call state next inductionHypothesis step fits
    rw [List.forall_mem_append, List.forall_mem_singleton] at fits
    exact allTraceable_visit (inductionHypothesis fits.1) fits.2 step

/-- The functions behind a script begin with a comment. -/
theorem head?_trailerOf
    {functions : List RenderFunction}
    {text : List Char}
    (trailer : trailerOf functions = some text) :
    text.head? = some '/' := by
  by_cases empty : functions = []
  · subst empty
    cases trailer
  · obtain ⟨function, rest, rfl⟩ := List.exists_cons_of_ne_nil empty
    rw [trailerOf_eq_printAll empty] at trailer
    rw [← Option.some.inj trailer, RenderFunction.printAll, List.flatMap_cons,
      RenderFunction.toList_print]
    rfl

/-- Inlining leaves the ends of lines whole. -/
theorem keepLines_of_traversal
    {trees : List CallTree}
    {first : Nat}
    (parsed : Script.parse (.ofPath inlining.file) inlining.script = some trees)
    (traversal : Traversal trees calls)
    (ran : inlining.visitAll (.start first) calls = (state, none)) :
    Edit.KeepLines inlining.script (state.replacements.map (·.edit))
      (state.hoisted.flush.1.map String.toList) := by
  have fits : ∀ call ∈ calls, call.Fits inlining.script := fun call present =>
    Script.fits_of_parse parsed (traversal.complete.mem_iff.mp present)
  have placed := placed_visitAll parsed traversal (List.prefix_refl calls) ran
  obtain ⟨functions, declared, _⟩ := exists_functions_of_visitAll ran
  refine ⟨?_, (InOrder.iff_pairwise.mp placed.ordered).2.2, ?_⟩
  · exact List.forall_mem_map.mpr (allTraceable_visitAll fits ran)
  · intro text trailer
    rw [flush_of_declarations declared] at trailer
    rw [head?_trailerOf trailer]
    decide

end Inlining

/-- The map of a printed text is exact if its edits and its trailer leave the ends of lines whole,
and those of inlining do, however a traversal orders the calls that are apart. -/
theorem maps_exact :
    (∀ (name : String) (source : List Char) (edits : List Edit) (trailer : Option (List Char)),
      Edit.KeepLines source edits trailer →
        Printed.IsExact name source edits trailer
          (Printed.ofEdits name source edits trailer)) ∧
    ∀ (inlining : Inlining) (first : Nat) (trees : List CallTree) (calls : List Call)
        (state : InliningState),
      Script.parse (.ofPath inlining.file) inlining.script = some trees →
        Traversal trees calls →
          inlining.visitAll (.start first) calls = (state, none) →
            Edit.KeepLines inlining.script (state.replacements.map (·.edit))
              (state.hoisted.flush.1.map String.toList) :=
  ⟨fun name _ _ trailer keep => Printed.isExact_ofEdits name trailer keep,
    fun _ _ _ _ _ parsed traversal ran => Inlining.keepLines_of_traversal parsed traversal ran⟩

/-- A call behind a line end of two characters becomes a literal, and a function is appended for
another one. -/
theorem maps_exact_literal :
    let inlining := Inlining.unlocalized "a;\r\nx = t('b');t('\x7bc\x7d')"
    ∃ state, inlining.visitAll (.start 1) inlining.calls = (state, none) ∧
      state.replacements.map (fun replacement => (replacement.edit.start, replacement.edit.stop)) =
        [(8, 14), (15, 23)] ∧
      Printed.IsExact "a.js" inlining.script (state.replacements.map (·.edit))
        (state.hoisted.flush.1.map String.toList)
        (Printed.ofEdits "a.js" inlining.script (state.replacements.map (·.edit))
          (state.hoisted.flush.1.map String.toList)) := by
  intro inlining
  have known : ((Script.parse (.ofPath inlining.file) inlining.script).map fun trees =>
      inlining.visitAll (.start 1) (CallTree.visitsAll trees)).map (fun reached =>
        (reached.2.isNone, reached.1.replacements.map fun replacement =>
          (replacement.edit.start, replacement.edit.stop))) =
      some (true, [(8, 14), (15, 23)]) := by
    decide +kernel
  obtain ⟨⟨state, failure⟩, visited, seen⟩ := Option.map_eq_some_iff.mp known
  obtain ⟨trees, parsed, ran⟩ := Option.map_eq_some_iff.mp visited
  obtain ⟨succeeds, places⟩ := Prod.ext_iff.mp seen
  cases Option.isNone_iff_eq_none.mp succeeds
  have traversal := Traversal.visitsAll (Script.nestAll_of_parse parsed)
  refine ⟨state, ?_, places, ?_⟩
  · rw [Inlining.calls, parsed]
    exact ran
  · exact maps_exact.1 "a.js" _ _ _ (maps_exact.2 inlining 1 trees _ state parsed traversal ran)

end MessageExpansion
