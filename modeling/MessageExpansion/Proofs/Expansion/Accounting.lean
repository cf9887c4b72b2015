import Mathlib.Data.List.Nodup
import MessageExpansion.Proofs.Expansion.Expansion
import MessageExpansion.Proofs.Expansion.Visit
import MessageExpansion.Proofs.HoistedFunctions

/-!
# Functions and the calls of them

Inlining keeps its functions in step with its replacements: every live function is called in exactly
one place of the replacements, inner ones included, and every call that was generated is of a live
function.  A call drops the functions of the replacements it drops, keeps those of the ones it
keeps, and adds at most one of its own.
-/

namespace MessageExpansion

open Script (Span Call)

/-- The names of generated functions tell their indices. -/
theorem generatedName_injective
    (host : String) :
    Function.Injective (generatedName host) := by
  intro first second equal
  unfold generatedName at equal
  exact Text.toString_injective (String.append_right_inj _ |>.mp equal)

namespace Expansion

/-- The order of expansions does not matter to the functions that they call. -/
theorem indicesAll_perm
    {first second : List (Span × Expansion)}
    (perm : first.Perm second) :
    (indicesAll first).Perm (indicesAll second) := by
  induction perm with
  | nil => exact List.Perm.refl _
  | cons expanded _ inductionHypothesis =>
      rw [indicesAll, indicesAll]
      exact inductionHypothesis.append_left _
  | swap second first rest =>
      simp only [indicesAll]
      exact (List.perm_append_comm_assoc _ _ _)
  | trans _ _ firstPerm secondPerm => exact firstPerm.trans secondPerm

/-- The functions that expansions call, in two parts. -/
theorem indicesAll_filter_perm
    (chosen : Span × Expansion → Bool)
    (expansions : List (Span × Expansion)) :
    (indicesAll expansions).Perm
      (indicesAll (expansions.filter chosen) ++
        indicesAll (expansions.filter fun expanded => !chosen expanded)) := by
  rw [← indicesAll_append]
  exact indicesAll_perm (List.filter_append_perm chosen expansions).symm

/-- The functions that expansions call, in three parts. -/
theorem indicesAll_division_perm
    (early chosen : Span × Expansion → Bool)
    (expansions : List (Span × Expansion)) :
    (indicesAll expansions).Perm
      (indicesAll (expansions.takeWhile early ++ (expansions.dropWhile early).filter chosen) ++
        indicesAll ((expansions.dropWhile early).filter fun expanded => !chosen expanded)) := by
  have perm := (indicesAll_filter_perm chosen (expansions.dropWhile early)).append_left
    (indicesAll (expansions.takeWhile early))
  rw [← indicesAll_append, List.takeWhile_append_dropWhile] at perm
  rwa [indicesAll_append, List.append_assoc]

end Expansion

namespace Inlining

/-- Discarding the functions of replacements leaves those that they do not call. -/
theorem entries_discardAll
    (functions : HoistedFunctions)
    (dropped : List Replacement) :
    (discardAll functions dropped).entries =
      functions.entries.filter fun entry => entry.1 ∉ dropped.flatMap (·.functions) := by
  unfold discardAll
  generalize dropped.flatMap (·.functions) = indices
  induction indices generalizing functions with
  | nil => simp
  | cons index rest inductionHypothesis =>
      rw [List.foldl_cons, inductionHypothesis, HoistedFunctions.entries_discard,
        List.filter_filter]
      apply List.filter_congr
      intro entry _
      by_cases same : entry.1 = index <;> simp [same]

@[simp] theorem first_discardAll
    (functions : HoistedFunctions)
    (dropped : List Replacement) :
    (discardAll functions dropped).first = functions.first := by
  unfold discardAll
  generalize dropped.flatMap (·.functions) = indices
  induction indices generalizing functions with
  | nil => rfl
  | cons index rest inductionHypothesis =>
      rw [List.foldl_cons, inductionHypothesis, HoistedFunctions.first_discard]

/-- Discarding leaves no empty slot at the end. -/
theorem trimmed_discardAll
    {functions : HoistedFunctions}
    (trimmed : functions.Trimmed)
    (dropped : List Replacement) :
    (discardAll functions dropped).Trimmed := by
  unfold discardAll
  generalize dropped.flatMap (·.functions) = indices
  induction indices generalizing functions with
  | nil => exact trimmed
  | cons index rest inductionHypothesis =>
      exact inductionHypothesis (HoistedFunctions.trimmed_discard functions index)

end Inlining

/-- Indices without repetition that fall into two parts, without those of the second part. -/
theorem perm_filter_of_perm_append
    {indices kept dropped : List Nat}
    (nodup : indices.Nodup)
    (perm : indices.Perm (kept ++ dropped)) :
    (indices.filter fun index => index ∉ dropped).Perm kept := by
  have parts : (kept ++ dropped).Nodup := perm.nodup nodup
  have disjoint := List.disjoint_of_nodup_append parts
  refine (perm.filter _).trans ?_
  rw [List.filter_append]
  have all : kept.filter (fun index => index ∉ dropped) = kept := by
    rw [List.filter_eq_self]
    intro index present
    simpa using disjoint present
  have none : dropped.filter (fun index => index ∉ dropped) = [] := by
    rw [List.filter_eq_nil_iff]
    intro index present
    simp [present]
  rw [all, none, List.append_nil]

/-- Replacements and functions that are known: the replacements come from expansions, the live
functions are made by the generator and named for their indices, and the expansions call each of
them in one place. -/
structure Accounted (inlining : Inlining) (replacements : List Replacement)
    (hoisted : HoistedFunctions) (expansions : List (Span × Expansion))
    (functions : List (Nat × RenderFunction)) : Prop where
  /-- The replacements come from the expansions. -/
  replaced : replacements = expansions.map (Expansion.replacement inlining)
  /-- The live functions are these. -/
  entries : hoisted.entries = functions.map fun entry => (entry.1, entry.2.print)
  /-- Each is named for its index. -/
  named : ∀ entry ∈ functions,
    entry.2.name = generatedName inlining.session.function entry.1
  /-- Each is called once, and no other one is. -/
  called : (Expansion.indicesAll expansions).Perm (functions.map (·.1))

namespace Accounted

variable {inlining : Inlining} {replacements : List Replacement} {hoisted : HoistedFunctions}
variable {expansions kept dropped : List (Span × Expansion)}
variable {functions : List (Nat × RenderFunction)}

/-- The functions stand in the order of their indices. -/
theorem ascending
    (accounted : Accounted inlining replacements hoisted expansions functions) :
    functions.Pairwise fun first second => first.1 < second.1 := by
  have ordered := HoistedFunctions.ascending_entries hoisted
  rw [accounted.entries, List.pairwise_map] at ordered
  exact ordered

/-- No two of the functions have the same index. -/
theorem nodup
    (accounted : Accounted inlining replacements hoisted expansions functions) :
    (functions.map (·.1)).Nodup := by
  rw [List.nodup_iff_pairwise_ne, List.pairwise_map]
  exact accounted.ascending.imp fun lt => Nat.ne_of_lt lt

/-- Dropping some expansions and discarding their functions keeps the account. -/
theorem discardAll
    (accounted : Accounted inlining replacements hoisted expansions functions)
    (parts : (Expansion.indicesAll expansions).Perm
      (Expansion.indicesAll kept ++ Expansion.indicesAll dropped)) :
    Accounted inlining (kept.map (Expansion.replacement inlining))
      (Inlining.discardAll hoisted (dropped.map (Expansion.replacement inlining))) kept
      (functions.filter fun entry => entry.1 ∉ Expansion.indicesAll dropped) := by
  refine ⟨rfl, ?_, ?_, ?_⟩
  · rw [Inlining.entries_discardAll, accounted.entries, List.filter_map,
      ← Expansion.indicesAll_eq_flatMap]
    rfl
  · intro entry present
    exact accounted.named entry (List.mem_filter.mp present).1
  · have perm := accounted.called.symm.trans parts
    have left := perm_filter_of_perm_append accounted.nodup perm
    rw [List.filter_map] at left
    exact left.symm

/-- A literal in the place of a call needs no function. -/
theorem constant
    (accounted : Accounted inlining replacements hoisted expansions functions)
    (span : Span)
    (value : String) :
    Accounted inlining
      (replacements ++ [⟨⟨span.start, span.stop, (Text.stringLiteral value).toList⟩, []⟩])
      hoisted (expansions ++ [(span, .constant value)]) functions := by
  refine ⟨?_, accounted.entries, accounted.named, ?_⟩
  · rw [List.map_append, List.map_singleton, Expansion.replacement_constant,
      ← accounted.replaced]
  · simpa [Expansion.indicesAll, Expansion.indices] using accounted.called

/-- A new function is called in one place when its call takes over some of the expansions. -/
theorem call
    (accounted : Accounted inlining replacements hoisted (expansions ++ kept) functions)
    (span : Span)
    (parameters : Option Span)
    (function : RenderFunction)
    (name : function.name = generatedName inlining.session.function hoisted.next) :
    Accounted inlining
      (expansions.map (Expansion.replacement inlining) ++
        [⟨⟨span.start, span.stop, function.name.toList ++
            '(' :: inlining.parametersText parameters
              (kept.map (Expansion.replacement inlining)) ++ [')']⟩,
          (kept.map (Expansion.replacement inlining)).flatMap (·.functions) ++
            [hoisted.next]⟩])
      (hoisted.push function.print)
      (expansions ++ [(span, .call hoisted.next parameters kept)])
      (functions ++ [(hoisted.next, function)]) := by
  refine ⟨?_, ?_, ?_, ?_⟩
  · rw [List.map_append, List.map_singleton, Expansion.replacement_call, name]
  · rw [HoistedFunctions.entries_push, accounted.entries, List.map_append]
    rfl
  · intro entry present
    rcases List.mem_append.mp present with old | new
    · exact accounted.named entry old
    · rw [List.mem_singleton] at new
      subst new
      exact name
  · have called := accounted.called.append_right [hoisted.next]
    rw [Expansion.indicesAll_append, List.append_assoc] at called
    simpa [Expansion.indicesAll, Expansion.indices] using called

end Accounted

namespace Inlining

variable {inlining : Inlining} {state next : InliningState} {call : Call}
variable {expansions : List (Span × Expansion)} {functions : List (Nat × RenderFunction)}

/-- A call divides the expansions as it divides their replacements. -/
theorem exists_division
    (replaced : state.replacements = expansions.map (Expansion.replacement inlining))
    (parameters : Option Span) :
    ∃ front inside outside : List (Span × Expansion),
      before state call = front.map (Expansion.replacement inlining) ∧
      kept state call parameters = inside.map (Expansion.replacement inlining) ∧
      dropped state call parameters = outside.map (Expansion.replacement inlining) ∧
      (Expansion.indicesAll expansions).Perm
        (Expansion.indicesAll (front ++ inside) ++ Expansion.indicesAll outside) := by
  let begins : Replacement → Bool := fun replacement =>
    replacement.edit.start < call.span.start
  let onward := expansions.dropWhile (begins ∘ Expansion.replacement inlining)
  let isKept := isInside parameters ∘ Expansion.replacement inlining
  refine ⟨expansions.takeWhile (begins ∘ Expansion.replacement inlining),
    onward.filter isKept, onward.filter fun expanded => !isKept expanded, ?_, ?_, ?_, ?_⟩
  · rw [before, replaced, List.takeWhile_map]
  · rw [kept, Inlining.onward, replaced, List.dropWhile_map, List.filter_map]
  · rw [dropped, Inlining.onward, replaced, List.dropWhile_map, List.filter_map]
    rfl
  · exact Expansion.indicesAll_division_perm _ isKept expansions

/-- A visit keeps functions and the calls of them in step. -/
theorem accounted_visit
    (accounted : Accounted inlining state.replacements state.hoisted expansions functions)
    (step : inlining.visit state call = .ok next) :
    ∃ expansions functions,
      Accounted inlining next.replacements next.hoisted expansions functions := by
  rcases visit_cases step with ⟨_, rfl⟩ | ⟨eligible, locale, effective, warned, _, _, _, rfl⟩
  · exact ⟨expansions, functions, accounted⟩
  · obtain ⟨front, inside, outside, beforeEqual, keptEqual, droppedEqual, parts⟩ :=
      @exists_division inlining state call expansions accounted.replaced eligible.parameters
    have left := accounted.discardAll parts
    rw [← droppedEqual] at left
    cases compiled : effective.pattern.constant? with
    | some value =>
        rw [replaceCall_of_constant compiled]
        have all : (Expansion.indicesAll (front ++ inside)).Perm
            (Expansion.indicesAll front ++ Expansion.indicesAll inside) := by
          rw [Expansion.indicesAll_append]
        have last := left.discardAll all
        rw [← keptEqual, ← beforeEqual] at last
        exact ⟨_, _, last.constant call.span value⟩
    | none =>
        rw [replaceCall_of_dynamic compiled]
        have called := left.call call.span eligible.parameters
          (newFunction inlining state call eligible.parameters locale effective.pattern) rfl
        rw [← keptEqual, ← beforeEqual] at called
        exact ⟨_, _, called⟩

/-- Nothing is replaced and no function is there at the start. -/
theorem accounted_start
    (inlining : Inlining)
    (first : Nat) :
    Accounted inlining (InliningState.start first).replacements
      (InliningState.start first).hoisted [] [] :=
  ⟨rfl, rfl, by simp, by simp⟩

/-- The first index stays what it is. -/
theorem first_visit
    (step : inlining.visit state call = .ok next) :
    next.hoisted.first = state.hoisted.first := by
  rcases visit_cases step with ⟨_, rfl⟩ | ⟨eligible, locale, effective, warned, _, _, _, rfl⟩
  · rfl
  · cases compiled : effective.pattern.constant? with
    | some value =>
        rw [replaceCall_of_constant compiled]
        simp [remaining]
    | none =>
        rw [replaceCall_of_dynamic compiled]
        simp [remaining]

/-- A run keeps functions and the calls of them in step. -/
theorem accounted_visitAll
    {calls : List Call}
    {first : Nat}
    (ran : inlining.visitAll (.start first) calls = (state, none)) :
    (∃ expansions functions,
        Accounted inlining state.replacements state.hoisted expansions functions) ∧
      state.hoisted.first = first := by
  refine visitAll_induction
    (motive := fun _ state => (∃ expansions functions,
        Accounted inlining state.replacements state.hoisted expansions functions) ∧
      state.hoisted.first = first)
    ⟨⟨[], [], accounted_start inlining first⟩, rfl⟩ ?_ ran
  rintro visited call state next ⟨⟨expansions, functions, accounted⟩, firstEqual⟩ step
  exact ⟨accounted_visit accounted step, (first_visit step).trans firstEqual⟩

end Inlining

/-- The functions behind a script: one after the other, if there are any. -/
def trailerOf (functions : List RenderFunction) : Option (List Char) :=
  if functions.isEmpty then none else some (String.join (functions.map (·.print))).toList

/-- Functions that are hoisted are put behind the script. -/
theorem flush_of_declarations
    {hoisted : HoistedFunctions}
    {functions : List RenderFunction}
    (declared : hoisted.declarations = functions.map (·.print)) :
    hoisted.flush.1.map String.toList = trailerOf functions := by
  unfold HoistedFunctions.flush trailerOf
  rw [declared]
  cases functions <;> rfl

/-- Known live functions are the ones that are put behind the script. -/
theorem flush_of_entries
    {hoisted : HoistedFunctions}
    {functions : List (Nat × RenderFunction)}
    (entries : hoisted.entries = functions.map fun entry => (entry.1, entry.2.print)) :
    hoisted.flush.1.map String.toList = trailerOf (functions.map (·.2)) ∧
      hoisted.size = functions.length := by
  have declarations : hoisted.declarations = (functions.map (·.2)).map (·.print) := by
    rw [HoistedFunctions.declarations_eq, entries]
    simp
  refine ⟨flush_of_declarations declarations, ?_⟩
  rw [HoistedFunctions.size, declarations]
  simp

/-- The names of the generated functions that expansions call, once for each call. -/
def Expansion.calledNames (inlining : Inlining) (expansions : List (Span × Expansion)) :
    List String :=
  (indicesAll expansions).map (generatedName inlining.session.function)

/-- The functions behind an inlined script and the calls of them in its final edits, told apart
from whatever the script itself calls by the expansions that the edits come from. -/
structure InStep (inlining : Inlining) (first : Nat) (state : InliningState)
    (result : InlinedScript) (expansions : List (Span × Expansion))
    (functions : List (Nat × RenderFunction)) : Prop where
  /-- The final edits come from the expansions. -/
  replaced : state.replacements = expansions.map (Expansion.replacement inlining)
  /-- The live functions are those behind the script. -/
  live : state.hoisted.entries = functions.map fun entry => (entry.1, entry.2.print)
  /-- The script is printed with these edits and these functions. -/
  printed : result.text = (Printed.ofEdits inlining.file inlining.script
    (Expansion.edits inlining expansions) (trailerOf (functions.map (·.2)))).text
  /-- The functions have indices from the first one on and below the next one. -/
  between : ∀ entry ∈ functions, first ≤ entry.1 ∧ entry.1 < result.next
  /-- They are named for their indices. -/
  named : ∀ entry ∈ functions,
    entry.2.name = generatedName inlining.session.function entry.1
  /-- Each is declared once. -/
  declaredOnce : ∀ entry ∈ functions, (functions.map (·.2.name)).count entry.2.name = 1
  /-- Each is called once. -/
  calledOnce : ∀ entry ∈ functions,
    (Expansion.calledNames inlining expansions).count entry.2.name = 1
  /-- No generated call is of any other function. -/
  calledLive : ∀ name ∈ Expansion.calledNames inlining expansions,
    ∃ entry ∈ functions, entry.2.name = name
  /-- They are counted. -/
  generated : result.generated = functions.length

/-- Functions that are accounted for have different names, which are the ones that are called. -/
theorem Accounted.names
    {inlining : Inlining}
    {replacements : List Replacement}
    {hoisted : HoistedFunctions}
    {expansions : List (Span × Expansion)}
    {functions : List (Nat × RenderFunction)}
    (accounted : Accounted inlining replacements hoisted expansions functions) :
    (functions.map (·.2.name)).Nodup ∧
      (Expansion.calledNames inlining expansions).Perm (functions.map (·.2.name)) := by
  have names : functions.map (·.2.name) =
      (functions.map (·.1)).map (generatedName inlining.session.function) := by
    rw [List.map_map]
    exact List.map_congr_left accounted.named
  rw [names]
  exact ⟨accounted.nodup.map (generatedName_injective _), accounted.called.map _⟩

/-- Functions that are accounted for have the indices of the hoisted ones. -/
theorem Accounted.between
    {inlining : Inlining}
    {replacements : List Replacement}
    {hoisted : HoistedFunctions}
    {expansions : List (Span × Expansion)}
    {functions : List (Nat × RenderFunction)}
    (accounted : Accounted inlining replacements hoisted expansions functions) :
    ∀ entry ∈ functions, hoisted.first ≤ entry.1 ∧ entry.1 < hoisted.next := by
  intro entry present
  have live : (entry.1, entry.2.print) ∈ hoisted.entries := by
    rw [accounted.entries]
    exact List.mem_map_of_mem present
  exact HoistedFunctions.index_of_mem_entries live

/-- A script that is printed from what is accounted for has its functions and the calls of them in
step. -/
theorem Accounted.inStep
    {inlining : Inlining}
    {inputMap : Option PositionMap}
    {first : Nat}
    {state : InliningState}
    {result : InlinedScript}
    {expansions : List (Span × Expansion)}
    {functions : List (Nat × RenderFunction)}
    (accounted : Accounted inlining state.replacements state.hoisted expansions functions)
    (firstEqual : state.hoisted.first = first)
    (printed : inlining.finish inputMap state = .ok result) :
    InStep inlining first state result expansions functions := by
  obtain ⟨textEqual, _, generated, next⟩ := Inlining.finish_ok printed
  obtain ⟨flush, size⟩ := flush_of_entries accounted.entries
  obtain ⟨nodup, perm⟩ := accounted.names
  have declared (entry : Nat × RenderFunction) (present : entry ∈ functions) :
      (functions.map (·.2.name)).count entry.2.name = 1 :=
    List.count_eq_one_of_mem nodup (List.mem_map_of_mem present)
  constructor
  · exact accounted.replaced
  · exact accounted.entries
  · rw [textEqual, Expansion.edits_eq_map, ← accounted.replaced, flush]
  · rw [next, ← firstEqual]
    exact accounted.between
  · exact accounted.named
  · exact declared
  · intro entry present
    rw [perm.count_eq]
    exact declared entry present
  · intro name present
    exact List.mem_map.mp (perm.mem_iff.mp present)
  · rw [generated, size]

end MessageExpansion
