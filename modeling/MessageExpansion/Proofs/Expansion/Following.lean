import MessageExpansion.Proofs.Expansion.Unfolding

/-!
# What a visit expands

A visit of a call finds the replacements of the calls inside it behind all others.  It puts the
expansion of its call in their place, and leaves the other replacements, the functions that they
need and the constants that were known as they were.  Constants of calls apart from a call do not
matter to it.
-/

namespace MessageExpansion

open Script (Span Argument Call CallTree Traversal)
open HoistedFunctions (indexBehind)

/-! ### What is known about arguments -/

/-- Constants of other stretches do not matter. -/
theorem FoldedConstants.value?_append
    {constants old : FoldedConstants}
    {span : Span}
    (others : ∀ entry ∈ old, entry.1 ≠ span) :
    FoldedConstants.value? (constants ++ old) span = constants.value? span := by
  unfold FoldedConstants.value?
  have unknown : old.find? (·.1 == span) = none := by
    rw [List.find?_eq_none]
    intro entry present
    simpa using others entry present
  rw [List.find?_append, unknown, Option.or_none]

/-- What a call says depends only on the constants in the places of its arguments. -/
theorem Script.Call.match?_congr
    {call : Call}
    {function : String}
    {folded other : FoldedConstants}
    (same : ∀ argument ∈ call.arguments,
      folded.value? argument.core = other.value? argument.core) :
    call.match? function folded = call.match? function other := by
  have literal (argument : Argument) (present : argument ∈ call.arguments) :
      argument.literal? folded = argument.literal? other := by
    unfold Argument.literal? Argument.kind
    rw [same argument present]
  have pattern : call.pattern?.bind (·.literal? folded) =
      call.pattern?.bind (·.literal? other) := by
    cases found : call.pattern? with
    | none => rfl
    | some argument => exact literal argument (List.mem_of_getElem? found)
  have locale : call.knownLocale? folded = call.knownLocale? other := by
    unfold Call.knownLocale?
    cases found : call.locale? with
    | none => rfl
    | some argument => simp only [literal argument (List.mem_of_getElem? found)]
  unfold Call.match?
  rw [pattern, locale]

/-- Constants of calls that are apart from a call do not matter to it. -/
theorem Script.Call.match?_append
    {call : Call}
    {function : String}
    {constants old : FoldedConstants}
    {text : List Char}
    (fits : call.Fits text)
    (fresh : ∀ entry ∈ old, entry.1.start < entry.1.stop ∧ entry.1.Apart call.span) :
    call.match? function (constants ++ old) = call.match? function constants := by
  apply match?_congr
  intro argument present
  apply FoldedConstants.value?_append
  intro entry known same
  have argumentFits := fits.arguments argument present
  have startLe := argumentFits.startLe
  have stopLe := argumentFits.stopLe
  obtain ⟨coreStart, coreStop⟩ := Span.isWithin_iff.mp argumentFits.core
  obtain ⟨nonempty, apart⟩ := fresh entry known
  rw [← same] at coreStart coreStop
  unfold Span.Apart at apart
  omega

/-! ### Indices -/

theorem HoistedFunctions.indexBehind_append
    (first : Nat)
    (indices later : List Nat) :
    indexBehind first (indices ++ later) = indexBehind (indexBehind first indices) later := by
  rcases List.eq_nil_or_concat later with rfl | ⟨front, last, rfl⟩
  · simp [indexBehind]
  · rw [List.concat_eq_append, ← List.append_assoc]
    simp [indexBehind]

/-- Expansions that call different functions call each of them inside or outside a stretch. -/
theorem Expansion.mem_inside_iff
    {expansions : List (Span × Expansion)}
    (nodup : (indicesAll expansions).Nodup)
    (parameters : Option Span)
    {index : Nat}
    (called : index ∈ indicesAll expansions) :
    index ∉ indicesAll (expansions.filter fun expanded => !isInside parameters expanded) ↔
      index ∈ indicesAll (expansions.filter (isInside parameters)) := by
  have parts := indicesAll_filter_perm (isInside parameters) expansions
  have disjoint := List.disjoint_of_nodup_append (parts.nodup nodup)
  have either := List.mem_append.mp (parts.mem_iff.mp called)
  constructor
  · intro outside
    rcases either with inside | present
    · exact inside
    · exact absurd present outside
  · intro inside present
    exact disjoint inside present

/-- Expansions are in place when each of them is. -/
theorem Expansion.allInPlace_iff
    {inlining : Inlining}
    {expansions : List (Span × Expansion)} :
    AllInPlace inlining expansions ↔
      ∀ expanded ∈ expansions, expanded.2.InPlace inlining := by
  induction expansions with
  | nil => simp [AllInPlace]
  | cons expanded rest inductionHypothesis =>
      simp [AllInPlace, inductionHypothesis]

/-- What visits did to a state is what expansions of the replaced calls say. -/
structure Follows (inlining : Inlining) (state : InliningState) (replaced : List Call)
    (unfolded : Unfolded) (final : InliningState) : Prop where
  /-- The replacements are put behind those that were there. -/
  replacements : final.replacements =
    state.replacements ++ unfolded.calls.map (Expansion.replacement inlining)
  /-- So are the functions. -/
  entries : final.hoisted.entries =
    state.hoisted.entries ++ unfolded.functions.map fun entry => (entry.1, entry.2.print)
  first : final.hoisted.first = state.hoisted.first
  trimmed : final.hoisted.Trimmed
  /-- The constants are put in front of those that were known. -/
  folded : final.folded = unfolded.constants ++ state.folded
  /-- The expansions call the functions. -/
  called : (Expansion.indicesAll unfolded.calls).Perm (unfolded.functions.map (·.1))
  /-- Only replaced calls are expanded, in the order of the text. -/
  origin : ∀ expanded ∈ unfolded.calls, ∃ call ∈ replaced, call.span = expanded.1
  apart : unfolded.calls.Pairwise fun first second => first.1.stop ≤ second.1.start
  /-- Only replaced calls are constant. -/
  constant : ∀ entry ∈ unfolded.constants, ∃ call ∈ replaced, call.span = entry.1
  /-- Parameters are edited in place. -/
  inPlace : Expansion.AllInPlace inlining unfolded.calls

namespace Follows

variable {inlining : Inlining} {state mid final : InliningState} {call : Call}
variable {replaced : List Call} {unfolded inside : Unfolded}

/-- Visiting nothing expands nothing. -/
theorem empty
    (trimmed : state.hoisted.Trimmed) :
    Follows inlining state [] .empty state := by
  constructor <;> simp [Unfolded.empty, trimmed, Expansion.AllInPlace]

/-- No two functions have the same index, and all have greater ones than those that were there. -/
theorem ascending
    (follows : Follows inlining state replaced unfolded final) :
    (Expansion.indicesAll unfolded.calls).Nodup ∧
      ∀ entry ∈ state.hoisted.entries, entry.1 ∉ Expansion.indicesAll unfolded.calls := by
  have ordered := HoistedFunctions.ascending_entries final.hoisted
  rw [follows.entries, List.pairwise_append, List.pairwise_map] at ordered
  obtain ⟨_, later, between⟩ := ordered
  constructor
  · rw [follows.called.nodup_iff, List.nodup_iff_pairwise_ne, List.pairwise_map]
    exact later.imp fun lt => Nat.ne_of_lt lt
  · intro entry present called
    rw [follows.called.mem_iff, List.mem_map] at called
    obtain ⟨other, otherPresent, same⟩ := called
    have lt := between entry present _ (List.mem_map_of_mem otherPresent)
    rw [same] at lt
    exact Nat.lt_irrefl _ lt

/-- The next index is the one behind the functions of the expansions. -/
theorem next
    (follows : Follows inlining state replaced unfolded final)
    (trimmed : state.hoisted.Trimmed) :
    final.hoisted.next = indexBehind state.hoisted.next (unfolded.functions.map (·.1)) := by
  rw [HoistedFunctions.next_of_trimmed follows.trimmed, follows.first, follows.entries,
    List.map_append, HoistedFunctions.indexBehind_append,
    ← HoistedFunctions.next_of_trimmed trimmed, List.map_map]
  rfl

/-- Calls in front of which the replaced ones start are behind all replacements. -/
theorem starts_before
    (follows : Follows inlining state replaced unfolded final)
    {later : List Call}
    (behind : ∀ replacement ∈ state.replacements, ∀ call ∈ later,
      replacement.edit.start < call.span.start)
    (infront : ∀ earlier ∈ replaced, ∀ call ∈ later, earlier.span.start < call.span.start) :
    ∀ replacement ∈ final.replacements, ∀ call ∈ later,
      replacement.edit.start < call.span.start := by
  intro replacement present call isLater
  rw [follows.replacements, List.mem_append] at present
  rcases present with old | new
  · exact behind replacement old call isLater
  · obtain ⟨expanded, expandedPresent, rfl⟩ := List.mem_map.mp new
    obtain ⟨earlier, earlierPresent, same⟩ := follows.origin expanded expandedPresent
    have starts := infront earlier earlierPresent call isLater
    rw [same] at starts
    exact starts

/-- Trees from which the replaced calls are apart are apart from all constants. -/
theorem folded_apart
    (follows : Follows inlining state replaced unfolded final)
    {trees : List CallTree}
    (fresh : ∀ entry ∈ state.folded, entry.1.start < entry.1.stop ∧
      ∀ tree ∈ trees, entry.1.Apart tree.call.span)
    (apart : ∀ call ∈ replaced, call.span.start < call.span.stop ∧
      ∀ tree ∈ trees, call.span.Apart tree.call.span) :
    ∀ entry ∈ final.folded, entry.1.start < entry.1.stop ∧
      ∀ tree ∈ trees, entry.1.Apart tree.call.span := by
  intro entry known
  rw [follows.folded, List.mem_append] at known
  rcases known with new | old
  · obtain ⟨call, present, same⟩ := follows.constant entry new
    rw [← same]
    exact apart call present
  · exact fresh entry old

/-- A call around the expanded ones finds their replacements behind its start. -/
theorem division
    (follows : Follows inlining state replaced inside mid)
    (behind : ∀ replacement ∈ state.replacements, replacement.edit.start < call.span.start)
    (within : ∀ inner ∈ replaced, call.span.start ≤ inner.span.start) :
    Inlining.before mid call = state.replacements ∧
      Inlining.onward mid call = inside.calls.map (Expansion.replacement inlining) := by
  have reached : ∀ replacement ∈ inside.calls.map (Expansion.replacement inlining),
      ¬ replacement.edit.start < call.span.start := by
    intro replacement present
    obtain ⟨expanded, expandedPresent, rfl⟩ := List.mem_map.mp present
    obtain ⟨inner, innerPresent, same⟩ := follows.origin expanded expandedPresent
    have startLe := within inner innerPresent
    rw [same] at startLe
    exact Nat.not_lt.mpr startLe
  have begins : ∀ replacement ∈ state.replacements,
      decide (replacement.edit.start < call.span.start) = true := by
    intro replacement present
    exact decide_eq_true (behind replacement present)
  unfold Inlining.before Inlining.onward
  rw [follows.replacements, List.takeWhile_append_of_pos begins,
    List.dropWhile_append_of_pos begins]
  cases equal : inside.calls.map (Expansion.replacement inlining) with
  | nil => simp
  | cons replacement rest =>
      have first : ¬ replacement.edit.start < call.span.start :=
        reached replacement (by rw [equal]; simp)
      rw [List.takeWhile_cons, List.dropWhile_cons]
      simp [first]

/-- What the call keeps of the functions are those that its parameters call. -/
theorem remaining
    (follows : Follows inlining state replaced inside mid)
    (parameters : Option Span)
    (dropped : Inlining.dropped mid call parameters =
      (inside.calls.filter fun expanded => !Expansion.isInside parameters expanded).map
        (Expansion.replacement inlining)) :
    let nested := inside.calls.filter (Expansion.isInside parameters)
    (Inlining.remaining mid call parameters).entries = state.hoisted.entries ++
      (inside.functions.filter fun entry => entry.1 ∈ Expansion.indicesAll nested).map
        fun entry => (entry.1, entry.2.print) := by
  intro nested
  obtain ⟨nodup, others⟩ := follows.ascending
  have parts := Expansion.indicesAll_filter_perm (Expansion.isInside parameters) inside.calls
  unfold Inlining.remaining
  rw [Inlining.entries_discardAll, dropped, ← Expansion.indicesAll_eq_flatMap, follows.entries,
    List.filter_append, List.filter_map]
  congr 1
  · rw [List.filter_eq_self]
    intro entry present
    have unknown := others entry present
    rw [parts.mem_iff, List.mem_append] at unknown
    simpa using fun outside => unknown (Or.inr outside)
  · congr 1
    apply List.filter_congr
    intro entry present
    have called : entry.1 ∈ Expansion.indicesAll inside.calls :=
      follows.called.mem_iff.mpr (List.mem_map_of_mem present)
    exact decide_eq_decide.mpr (Expansion.mem_inside_iff nodup parameters called)

/-- What the call keeps of the expansions lies inside its parameters and edits them. -/
theorem nested_inPlace
    (follows : Follows inlining state replaced inside mid)
    (fits : ∀ inner ∈ replaced, inner.Fits inlining.script)
    {parameters : Option Span}
    (parametersCut : ∀ span ∈ parameters, Text.IsBoundary inlining.script span.start ∧
      Text.IsBoundary inlining.script span.stop ∧ span.start ≤ span.stop)
    (index : Nat) :
    (Expansion.call index parameters
      (inside.calls.filter (Expansion.isInside parameters))).InPlace inlining := by
  cases parameters with
  | none =>
      rw [Expansion.InPlace, List.filter_eq_nil_iff]
      simp [Expansion.isInside]
  | some span =>
      obtain ⟨startCut, stopCut, le⟩ := parametersCut span rfl
      rw [Expansion.InPlace]
      -- Every nested edit takes the place of a replaced call inside the parameters.
      have edits : ∀ edit ∈ Expansion.edits inlining
            (inside.calls.filter (Expansion.isInside (some span))),
          span.start ≤ edit.start ∧ edit.start < edit.stop ∧ edit.stop ≤ span.stop ∧
            edit.Cuts inlining.script := by
        intro edit present
        rw [Expansion.edits_eq_map, List.map_map] at present
        obtain ⟨expanded, expandedPresent, rfl⟩ := List.mem_map.mp present
        obtain ⟨found, within⟩ := List.mem_filter.mp expandedPresent
        obtain ⟨inner, innerPresent, same⟩ := follows.origin expanded found
        obtain ⟨startLe, stopLe⟩ := Span.isWithin_iff.mp within
        obtain ⟨innerStart, innerStop, innerNonempty, _, _⟩ := fits inner innerPresent
        rw [same] at innerStart innerStop innerNonempty
        exact ⟨startLe, innerNonempty, stopLe, innerStart, innerStop⟩
      constructor
      · refine edited_splice (InOrder.iff_pairwise.mpr ⟨le, ?_, ?_⟩) startCut stopCut ?_
        · intro edit present
          obtain ⟨startLe, nonempty, stopLe, _⟩ := edits edit present
          exact ⟨startLe, nonempty, stopLe⟩
        · rw [Expansion.edits_eq_map, List.map_map, List.pairwise_map]
          exact follows.apart.filter _
        · intro edit present
          exact (edits edit present).2.2.2
      · rw [Expansion.allInPlace_iff]
        intro expanded present
        exact Expansion.allInPlace_iff.mp follows.inPlace expanded (List.mem_filter.mp present).1

/-- A call divides the expansions as it divides their replacements. -/
theorem kept_and_dropped
    (follows : Follows inlining state replaced inside mid)
    (behind : ∀ replacement ∈ state.replacements, replacement.edit.start < call.span.start)
    (within : ∀ inner ∈ replaced, call.span.start ≤ inner.span.start)
    (parameters : Option Span) :
    Inlining.kept mid call parameters =
        (inside.calls.filter (Expansion.isInside parameters)).map
          (Expansion.replacement inlining) ∧
      Inlining.dropped mid call parameters =
        (inside.calls.filter fun expanded => !Expansion.isInside parameters expanded).map
          (Expansion.replacement inlining) := by
  have onward := (follows.division behind within).2
  have inside : Inlining.isInside parameters ∘ Expansion.replacement inlining =
      Expansion.isInside parameters := by
    funext expanded
    cases parameters <;> rfl
  have outside : (fun replacement => !Inlining.isInside parameters replacement) ∘
      Expansion.replacement inlining =
        fun expanded => !Expansion.isInside parameters expanded := by
    rw [← inside]
    rfl
  unfold Inlining.kept Inlining.dropped
  rw [onward, List.filter_map, List.filter_map, inside, outside]
  exact ⟨rfl, rfl⟩

/-- What the call keeps of the expansions calls what it keeps of the functions. -/
theorem nested_called
    (follows : Follows inlining state replaced inside mid)
    (parameters : Option Span) :
    let nested := inside.calls.filter (Expansion.isInside parameters)
    (Expansion.indicesAll nested).Perm
      ((inside.functions.filter fun entry => entry.1 ∈ Expansion.indicesAll nested).map
        (·.1)) := by
  intro nested
  have parts := Expansion.indicesAll_filter_perm (Expansion.isInside parameters) inside.calls
  have nodup := follows.ascending.1
  have nestedNodup := (List.nodup_append.mp (parts.nodup nodup)).1
  have functionsNodup := (follows.called.nodup nodup).sublist
    ((List.filter_sublist (l := inside.functions)
      (p := fun entry => entry.1 ∈ Expansion.indicesAll nested)).map (·.1))
  refine (List.perm_ext_iff_of_nodup nestedNodup functionsNodup).mpr ?_
  intro index
  constructor
  · intro present
    have called := follows.called.mem_iff.mp (parts.mem_iff.mpr (List.mem_append_left _ present))
    obtain ⟨entry, entryPresent, rfl⟩ := List.mem_map.mp called
    exact List.mem_map_of_mem (List.mem_filter.mpr ⟨entryPresent, decide_eq_true present⟩)
  · intro present
    obtain ⟨entry, entryPresent, rfl⟩ := List.mem_map.mp present
    exact of_decide_eq_true (List.mem_filter.mp entryPresent).2

/-- A call of a constant pattern is expanded to a literal. -/
theorem constantCall
    (follows : Follows inlining state replaced inside mid)
    (behind : ∀ replacement ∈ state.replacements, replacement.edit.start < call.span.start)
    (within : ∀ inner ∈ replaced, call.span.start ≤ inner.span.start)
    (eligible : EligibleCall)
    (locale : String)
    {pattern : Pattern}
    {value : String}
    (constant : pattern.constant? = some value) :
    Follows inlining state (replaced ++ [call])
      ⟨[(call.span, .constant value)], [], (call.span, value) :: inside.constants⟩
      (inlining.replaceCall mid call eligible locale pattern) := by
  obtain ⟨front, _⟩ := follows.division behind within
  obtain ⟨kept, dropped⟩ := follows.kept_and_dropped behind within eligible.parameters
  have remaining := follows.remaining eligible.parameters dropped
  rw [Inlining.replaceCall_of_constant constant]
  constructor
  · rw [List.map_singleton, Expansion.replacement_constant, ← front]
  · -- The functions of the parameters are discarded, and those that were there are not.
    obtain ⟨_, others⟩ := follows.ascending
    have parts := Expansion.indicesAll_filter_perm (Expansion.isInside eligible.parameters)
      inside.calls
    have old : state.hoisted.entries.filter (fun entry => entry.1 ∉ Expansion.indicesAll
        (inside.calls.filter (Expansion.isInside eligible.parameters))) =
          state.hoisted.entries := by
      rw [List.filter_eq_self]
      intro entry present
      have unknown := others entry present
      rw [parts.mem_iff, List.mem_append] at unknown
      simpa using fun nested => unknown (Or.inl nested)
    simp only [Inlining.entries_discardAll, kept, ← Expansion.indicesAll_eq_flatMap, remaining,
      List.filter_append, old, List.map_nil]
    congr 1
    rw [List.filter_eq_nil_iff]
    intro entry present
    obtain ⟨function, functionPresent, rfl⟩ := List.mem_map.mp present
    simpa using (List.mem_filter.mp functionPresent).2
  · rw [Inlining.first_discardAll]
    exact (Inlining.first_discardAll _ _).trans follows.first
  · exact Inlining.trimmed_discardAll (Inlining.trimmed_discardAll follows.trimmed _) _
  · rw [follows.folded]
    rfl
  · simp [Expansion.indicesAll, Expansion.indices]
  · intro expanded present
    rw [List.mem_singleton] at present
    subst present
    exact ⟨call, by simp, rfl⟩
  · exact List.pairwise_singleton _ _
  · intro entry present
    rcases List.mem_cons.mp present with rfl | inner
    · exact ⟨call, by simp, rfl⟩
    · obtain ⟨earlier, earlierPresent, same⟩ := follows.constant entry inner
      exact ⟨earlier, List.mem_append_left _ earlierPresent, same⟩
  · simp [Expansion.AllInPlace, Expansion.InPlace]

/-- A call of any other pattern is expanded to a call of a new function, which is passed the
parameters with the expansions inside them. -/
theorem dynamicCall
    (follows : Follows inlining state replaced inside mid)
    (trimmed : state.hoisted.Trimmed)
    (behind : ∀ replacement ∈ state.replacements, replacement.edit.start < call.span.start)
    (within : ∀ inner ∈ replaced, call.span.start ≤ inner.span.start)
    (fits : ∀ inner ∈ replaced, inner.Fits inlining.script)
    (eligible : EligibleCall)
    (parametersCut : ∀ span ∈ eligible.parameters,
      Text.IsBoundary inlining.script span.start ∧
        Text.IsBoundary inlining.script span.stop ∧ span.start ≤ span.stop)
    (locale : String)
    {pattern : Pattern}
    (dynamic : pattern.constant? = none) :
    let host := inlining.session.function
    let nested := inside.calls.filter (Expansion.isInside eligible.parameters)
    let functions := inside.functions.filter fun entry =>
      entry.1 ∈ Expansion.indicesAll nested
    let index := indexBehind state.hoisted.next (functions.map (·.1))
    Follows inlining state (replaced ++ [call])
      ⟨[(call.span, .call index eligible.parameters nested)],
        functions ++ [(index, ⟨host, locale, generatedName host index, Renderer.compile pattern⟩)],
        inside.constants⟩
      (inlining.replaceCall mid call eligible locale pattern) := by
  intro host nested functions index
  obtain ⟨front, _⟩ := follows.division behind within
  obtain ⟨kept, dropped⟩ := follows.kept_and_dropped behind within eligible.parameters
  have remaining := follows.remaining eligible.parameters dropped
  have remainingFirst :
      (Inlining.remaining mid call eligible.parameters).first = state.hoisted.first :=
    (Inlining.first_discardAll _ _).trans follows.first
  have remainingTrimmed : (Inlining.remaining mid call eligible.parameters).Trimmed :=
    Inlining.trimmed_discardAll follows.trimmed _
  have next : (Inlining.remaining mid call eligible.parameters).next = index := by
    rw [HoistedFunctions.next_of_trimmed remainingTrimmed, remainingFirst, remaining,
      List.map_append, HoistedFunctions.indexBehind_append, ← HoistedFunctions.next_of_trimmed trimmed, List.map_map]
    rfl
  rw [Inlining.replaceCall_of_dynamic dynamic]
  simp only [Inlining.newFunction, next]
  constructor
  · rw [List.map_singleton, Expansion.replacement_call, ← front, kept]
  · simp [HoistedFunctions.entries_push, remaining, next, functions, nested, host]
  · exact remainingFirst
  · exact HoistedFunctions.trimmed_push _ _
  · exact follows.folded
  · have called := (follows.nested_called eligible.parameters).append_right [index]
    simpa [Expansion.indicesAll, Expansion.indices] using called
  · intro expanded present
    rw [List.mem_singleton] at present
    subst present
    exact ⟨call, by simp, rfl⟩
  · exact List.pairwise_singleton _ _
  · intro entry present
    obtain ⟨earlier, earlierPresent, same⟩ := follows.constant entry present
    exact ⟨earlier, List.mem_append_left _ earlierPresent, same⟩
  · exact ⟨follows.nested_inPlace fits parametersCut index, trivial⟩

/-- One visit expands its call around those inside it. -/
theorem visit
    (follows : Follows inlining state replaced inside mid)
    (trimmed : state.hoisted.Trimmed)
    (behind : ∀ replacement ∈ state.replacements,
      ∀ earlier ∈ inlining.replacedCalls mid [call],
        replacement.edit.start < earlier.span.start)
    (within : ∀ inner ∈ replaced, call.span.start ≤ inner.span.start)
    (fits : ∀ inner ∈ replaced, inner.Fits inlining.script)
    (callFits : call.Fits inlining.script)
    (fresh : ∀ entry ∈ state.folded, entry.1.start < entry.1.stop ∧ entry.1.Apart call.span)
    (step : inlining.visit mid call = .ok final) :
    ∃ unfolded, inlining.unfoldCall state.hoisted.next call inside = .ok unfolded ∧
      Follows inlining state (replaced ++ inlining.replacedCalls mid [call]) unfolded final := by
  have same : call.match? inlining.session.function mid.folded =
      call.match? inlining.session.function inside.constants := by
    rw [follows.folded]
    exact Call.match?_append callFits fresh
  rw [Inlining.replacedCalls, step] at behind ⊢
  rw [Inlining.unfoldCall, ← same]
  rcases Inlining.visit_cases step with
    ⟨ineligible, rfl⟩ | ⟨eligible, locale, effective, warned, found, rfl, compiled, rfl⟩
  · refine ⟨inside, by rw [ineligible], ?_⟩
    simpa [ineligible, Inlining.replacedCalls] using follows
  · simp only [found, compiled, Option.isSome_some, if_true, Inlining.replacedCalls] at behind ⊢
    have warnedFollows : Follows inlining state replaced inside { mid with warnings := warned } :=
      ⟨follows.replacements, follows.entries, follows.first, follows.trimmed, follows.folded,
        follows.called, follows.origin, follows.apart, follows.constant, follows.inPlace⟩
    have begins : ∀ replacement ∈ state.replacements,
        replacement.edit.start < call.span.start := fun replacement present =>
      behind replacement present call (by simp)
    cases constant : effective.pattern.constant? with
    | some value =>
        exact ⟨_, rfl, warnedFollows.constantCall begins within eligible _ constant⟩
    | none =>
        refine ⟨_, rfl, warnedFollows.dynamicCall trimmed begins within fits eligible ?_ _
          constant⟩
        intro span passed
        obtain ⟨argument, present, rfl⟩ := Inlining.exists_argument_of_match? found passed
        have argumentFits := callFits.arguments argument present
        exact ⟨argumentFits.start, argumentFits.stop, argumentFits.le⟩

/-- What is done in two parts is what the expansions of both say. -/
theorem append
    {later : List Call}
    {laterUnfolded : Unfolded}
    (first : Follows inlining state replaced unfolded mid)
    (second : Follows inlining mid later laterUnfolded final)
    (behind : ∀ earlier ∈ replaced, ∀ call ∈ later, earlier.span.stop ≤ call.span.start) :
    Follows inlining state (replaced ++ later) (unfolded.append laterUnfolded) final := by
  constructor
  · rw [second.replacements, first.replacements, List.append_assoc, ← List.map_append]
    rfl
  · rw [second.entries, first.entries, List.append_assoc, ← List.map_append]
    rfl
  · rw [second.first, first.first]
  · exact second.trimmed
  · rw [second.folded, first.folded, ← List.append_assoc]
    rfl
  · unfold Unfolded.append
    rw [Expansion.indicesAll_append, List.map_append]
    exact first.called.append second.called
  · intro expanded present
    rcases List.mem_append.mp present with inFirst | inSecond
    · obtain ⟨call, callPresent, same⟩ := first.origin expanded inFirst
      exact ⟨call, List.mem_append_left _ callPresent, same⟩
    · obtain ⟨call, callPresent, same⟩ := second.origin expanded inSecond
      exact ⟨call, List.mem_append_right _ callPresent, same⟩
  · refine List.pairwise_append.mpr ⟨first.apart, second.apart, ?_⟩
    intro left leftPresent right rightPresent
    obtain ⟨earlier, earlierPresent, earlierSame⟩ := first.origin left leftPresent
    obtain ⟨call, callPresent, callSame⟩ := second.origin right rightPresent
    rw [← earlierSame, ← callSame]
    exact behind earlier earlierPresent call callPresent
  · intro entry present
    rcases List.mem_append.mp present with inSecond | inFirst
    · obtain ⟨call, callPresent, same⟩ := second.constant entry inSecond
      exact ⟨call, List.mem_append_right _ callPresent, same⟩
    · obtain ⟨call, callPresent, same⟩ := first.constant entry inFirst
      exact ⟨call, List.mem_append_left _ callPresent, same⟩
  · unfold Unfolded.append
    rw [Expansion.allInPlace_iff]
    intro expanded present
    rcases List.mem_append.mp present with inFirst | inSecond
    · exact Expansion.allInPlace_iff.mp first.inPlace expanded inFirst
    · exact Expansion.allInPlace_iff.mp second.inPlace expanded inSecond

end Follows

end MessageExpansion
