import MessageExpansion.Proofs.Expansion.Placement

/-!
# Which replacements survive

A call that is replaced drops every replacement that does not begin before it, as if all of them
were inside it.  A replacement therefore survives when all calls that are replaced after it lie
behind it.  No call is lost as long as the outermost ones are replaced in the order of the text; a
call that precedes one that was replaced before it, as the body of a `do` statement precedes its
test, undoes the other's replacement.
-/

namespace MessageExpansion

open Script (Span Call CallTree Traversal)

/-- The stretch that an edit replaces. -/
def Edit.span (edit : Edit) : Span := ⟨edit.start, edit.stop⟩

/-- What is left of calls that were replaced when another one is replaced. -/
def survive (kept : List Call) (call : Call) : List Call :=
  kept.takeWhile (fun earlier => earlier.span.start < call.span.start) ++ [call]

/-- What is left of calls that are replaced one after the other. -/
def survivors (replaced : List Call) : List Call := replaced.foldl survive []

namespace Inlining

variable {inlining : Inlining} {state next final : InliningState} {call : Call}

/-- The calls that are replaced when calls are visited. -/
def replacedCalls (inlining : Inlining) (state : InliningState) : List Call → List Call
  | [] => []
  | call :: rest =>
      match inlining.visit state call with
      | .ok next =>
          if (call.match? inlining.session.function state.folded).isSome then
            call :: inlining.replacedCalls next rest
          else inlining.replacedCalls next rest
      | .error _ => []

/-- Only calls that are visited are replaced, in the order of the visits. -/
theorem replacedCalls_sublist
    (state : InliningState)
    (calls : List Call) :
    (inlining.replacedCalls state calls).Sublist calls := by
  induction calls generalizing state with
  | nil => exact List.Sublist.refl _
  | cons call rest inductionHypothesis =>
      rw [replacedCalls]
      split
      · next next _ =>
          split
          · exact (inductionHypothesis next).cons_cons call
          · exact (inductionHypothesis next).cons call
      · exact List.nil_sublist _

/-- The replacements of a state stand for calls. -/
def StandFor (state : InliningState) (calls : List Call) : Prop :=
  state.replacements.map (·.edit.span) = calls.map (·.span)

/-- A visit that replaces its call leaves what survives the call. -/
theorem standFor_visit
    {kept : List Call}
    (standFor : StandFor state kept)
    (step : inlining.visit state call = .ok next)
    (eligible : (call.match? inlining.session.function state.folded).isSome) :
    StandFor next (survive kept call) ∧ next.replaced = state.replaced + 1 := by
  rcases visit_cases step with ⟨ineligible, _⟩ | ⟨found, locale, effective, warned, _, _, _, rfl⟩
  · rw [ineligible] at eligible
    cases eligible
  · have left : (before state call).map (·.edit.span) =
        (kept.takeWhile fun earlier => earlier.span.start < call.span.start).map (·.span) := by
      have taken := congrArg (List.takeWhile fun span : Span => span.start < call.span.start)
        standFor
      rw [List.takeWhile_map, List.takeWhile_map] at taken
      exact taken
    cases compiled : effective.pattern.constant? with
    | some value =>
        rw [replaceCall_of_constant compiled]
        refine ⟨?_, rfl⟩
        unfold StandFor survive
        rw [List.map_append, List.map_append, ← left]
        rfl
    | none =>
        rw [replaceCall_of_dynamic compiled]
        refine ⟨?_, rfl⟩
        unfold StandFor survive
        rw [List.map_append, List.map_append, ← left]
        rfl

/-- A visit of a call that is not eligible changes nothing. -/
theorem visit_of_ineligible
    (step : inlining.visit state call = .ok next)
    (ineligible : ¬ (call.match? inlining.session.function state.folded).isSome) :
    next = state := by
  rcases visit_cases step with ⟨_, same⟩ | ⟨found, locale, effective, warned, present, _⟩
  · exact same
  · rw [present] at ineligible
    simp at ineligible

/-- After visits the replacements are those that survive, and all were counted. -/
theorem standFor_visitAll
    {calls kept : List Call}
    (standFor : StandFor state kept)
    (ran : inlining.visitAll state calls = (final, none)) :
    StandFor final ((inlining.replacedCalls state calls).foldl survive kept) ∧
      final.replaced = state.replaced + (inlining.replacedCalls state calls).length := by
  induction calls generalizing state kept with
  | nil =>
      cases ran
      exact ⟨standFor, rfl⟩
  | cons call rest inductionHypothesis =>
      obtain ⟨next, step, later⟩ := exists_next ran
      rw [replacedCalls, step]
      simp only
      split
      · next eligible =>
          obtain ⟨stands, counted⟩ := standFor_visit standFor step eligible
          obtain ⟨laterStands, laterCounted⟩ := inductionHypothesis stands later
          refine ⟨laterStands, ?_⟩
          rw [laterCounted, counted, List.length_cons]
          omega
      · next ineligible =>
          cases visit_of_ineligible step ineligible
          exact inductionHypothesis standFor later

/-- A stretch of the script is edited exactly if it is in the place of a call that the replacements
stand for. -/
theorem StandFor.exists_edit_iff
    {kept : List Call}
    (standFor : StandFor state kept)
    (call : Call) :
    (∃ edit ∈ state.replacements.map (·.edit), call.span.isWithin edit.span = true) ↔
      ∃ top ∈ kept, call.span.isWithin top.span = true := by
  have spans : (state.replacements.map (·.edit)).map (·.span) = kept.map (·.span) := by
    rw [List.map_map]
    exact standFor
  have within (span : Span) := congrArg (fun spans => span ∈ spans) spans
  simp only [List.mem_map, eq_iff_iff] at within
  constructor
  · rintro ⟨edit, present, inEdit⟩
    obtain ⟨top, survives, same⟩ := (within edit.span).mp ⟨edit, List.mem_map.mp present, rfl⟩
    exact ⟨top, survives, by rw [same]; exact inEdit⟩
  · rintro ⟨top, survives, inTop⟩
    obtain ⟨edit, present, same⟩ := (within top.span).mpr ⟨top, survives, rfl⟩
    exact ⟨edit, List.mem_map.mpr present, by rw [same]; exact inTop⟩

end Inlining

/-! ### Survivors -/

/-- In a list that ascends, the first elements below a bound are all elements below it. -/
theorem mem_takeWhile_of_ascending
    {calls : List Call}
    {bound : Nat}
    (ascending : calls.Pairwise fun first second => first.span.start < second.span.start)
    {call : Call} :
    call ∈ calls.takeWhile (fun earlier => earlier.span.start < bound) ↔
      call ∈ calls ∧ call.span.start < bound := by
  constructor
  · intro present
    refine ⟨(List.takeWhile_sublist _).subset present, ?_⟩
    simpa using List.mem_takeWhile_imp present
  · rintro ⟨present, below⟩
    induction calls with
    | nil => cases present
    | cons first rest inductionHypothesis =>
        rw [List.pairwise_cons] at ascending
        obtain ⟨firstBelow, later⟩ := ascending
        rcases List.mem_cons.mp present with rfl | inRest
        · simp [below]
        · have reached : first.span.start < bound :=
            Nat.lt_trans (firstBelow call inRest) below
          rw [List.takeWhile_cons, if_pos (by simpa using reached)]
          exact List.mem_cons_of_mem _ (inductionHypothesis later inRest)

section

variable {replaced : List Call}

theorem survivors_concat
    (replaced : List Call)
    (call : Call) :
    survivors (replaced ++ [call]) = survive (survivors replaced) call := by
  unfold survivors
  rw [List.foldl_append]
  rfl

theorem survivors_sublist
    (replaced : List Call) :
    (survivors replaced).Sublist replaced := by
  induction replaced using List.reverseRecOn with
  | nil => exact List.Sublist.refl _
  | append_singleton visited call inductionHypothesis =>
      rw [survivors_concat, survive]
      exact ((List.takeWhile_sublist _).trans inductionHypothesis).append_right _

/-- Of two calls that nest from the inside out, the earlier one begins first if it lies in front of
the later one, and only then. -/
theorem Script.Call.Precedes.start_lt_iff
    {earlier later : Call}
    (precedes : earlier.Precedes later)
    (earlierNonempty : earlier.span.start < earlier.span.stop)
    (laterNonempty : later.span.start < later.span.stop) :
    earlier.span.start < later.span.start ↔ earlier.span.stop ≤ later.span.start := by
  rcases precedes with ⟨startLe, _, _⟩ | apart
  · omega
  · unfold Span.Apart at apart
    omega

/-- The survivors ascend. -/
theorem ascending_survivors
    (replaced : List Call) :
    (survivors replaced).Pairwise fun first second =>
      first.span.start < second.span.start := by
  induction replaced using List.reverseRecOn with
  | nil => exact List.Pairwise.nil
  | append_singleton visited call inductionHypothesis =>
      rw [survivors_concat, survive, List.pairwise_append]
      refine ⟨inductionHypothesis.sublist (List.takeWhile_sublist _),
        List.pairwise_singleton _ _, ?_⟩
      intro earlier present last lastPresent
      rw [List.mem_singleton] at lastPresent
      subst lastPresent
      simpa using List.mem_takeWhile_imp present

/-- A call survives when all calls that are replaced after it lie behind it. -/
theorem mem_survivors_iff
    (nested : replaced.Pairwise Call.Precedes)
    (nonempty : ∀ call ∈ replaced, call.span.start < call.span.stop)
    {call : Call} :
    call ∈ survivors replaced ↔ ∃ front back, replaced = front ++ call :: back ∧
      ∀ later ∈ back, call.span.stop ≤ later.span.start := by
  induction replaced using List.reverseRecOn with
  | nil => simp [survivors]
  | append_singleton visited last inductionHypothesis =>
      rw [List.pairwise_append] at nested
      obtain ⟨visitedNested, _, precede⟩ := nested
      have visitedNonempty : ∀ call ∈ visited, call.span.start < call.span.stop :=
        fun call present => nonempty call (List.mem_append_left _ present)
      have known := inductionHypothesis visitedNested visitedNonempty
      rw [survivors_concat, survive, List.mem_append, List.mem_singleton,
        mem_takeWhile_of_ascending (ascending_survivors visited), known]
      constructor
      · rintro (⟨⟨front, back, split, behind⟩, begins⟩ | rfl)
        · subst split
          refine ⟨front, back ++ [last], by simp, ?_⟩
          intro later present
          rcases List.mem_append.mp present with inBack | isLast
          · exact behind later inBack
          · rw [List.mem_singleton] at isLast
            subst isLast
            have earlier : call ∈ front ++ call :: back := by simp
            exact ((precede call earlier later (by simp)).start_lt_iff
              (visitedNonempty call earlier) (nonempty later (by simp))).mp begins
        · exact ⟨visited, [], rfl, by simp⟩
      · rintro ⟨front, back, split, behind⟩
        -- The call is the last one, or it stands in front of the last one.
        rcases List.eq_nil_or_concat back with rfl | ⟨inner, final, rfl⟩
        · right
          exact (List.append_inj' split rfl).2 |> fun equal => by simpa using equal.symm
        · left
          rw [List.concat_eq_append, ← List.cons_append, ← List.append_assoc] at split
          obtain ⟨visitedSplit, lastEqual⟩ := List.append_inj' split rfl
          have same : last = final := by simpa using lastEqual
          subst same
          subst visitedSplit
          have behindLast := behind last (by simp)
          have callNonempty := visitedNonempty call (by simp)
          refine ⟨⟨front, inner, rfl, ?_⟩, by omega⟩
          intro later present
          exact behind later (by simp [present])

/-! ### Outermost calls -/

/-- No other call is around this one. -/
def IsOutermost (replaced : List Call) (call : Call) : Prop :=
  ∀ other ∈ replaced, ¬ call.span.Inside other.span

/-- The outermost calls are replaced in the order of the text: all that is replaced after one of
them lies behind it. -/
def OutermostInOrder (replaced : List Call) : Prop :=
  ∀ front call back, replaced = front ++ call :: back → IsOutermost replaced call →
    ∀ later ∈ back, call.span.stop ≤ later.span.start

/-- Every call lies inside an outermost one: the last one that is around it. -/
theorem exists_outermost
    (nested : replaced.Pairwise Call.Precedes)
    (nonempty : ∀ call ∈ replaced, call.span.start < call.span.stop)
    {call : Call}
    (present : call ∈ replaced) :
    ∃ top ∈ replaced, call.span.isWithin top.span = true ∧ IsOutermost replaced top := by
  induction replaced using List.reverseRecOn with
  | nil => cases present
  | append_singleton visited last inductionHypothesis =>
      rw [List.pairwise_append] at nested
      obtain ⟨visitedNested, _, precede⟩ := nested
      have visitedNonempty : ∀ call ∈ visited, call.span.start < call.span.stop :=
        fun call present => nonempty call (List.mem_append_left _ present)
      have lastNonempty := nonempty last (by simp)
      by_cases inLast : call.span.isWithin last.span = true
      · refine ⟨last, by simp, inLast, ?_⟩
        intro other otherPresent inside
        rcases List.mem_append.mp otherPresent with earlier | same
        · exact (precede other earlier last (by simp)).not_isWithin lastNonempty
            (Span.isWithin_iff.mpr ⟨inside.1, inside.2.1⟩)
        · rw [List.mem_singleton] at same
          subst same
          exact inside.2.2 rfl
      · have earlier : call ∈ visited := by
          rcases List.mem_append.mp present with earlier | same
          · exact earlier
          · rw [List.mem_singleton] at same
            subst same
            exact absurd (Span.isWithin_iff.mpr ⟨Nat.le_refl _, Nat.le_refl _⟩) inLast
        obtain ⟨top, topPresent, within, outermost⟩ :=
          inductionHypothesis visitedNested visitedNonempty earlier
        refine ⟨top, List.mem_append_left _ topPresent, within, ?_⟩
        intro other otherPresent inside
        rcases List.mem_append.mp otherPresent with earlier | same
        · exact outermost other earlier inside
        · rw [List.mem_singleton] at same
          subst same
          obtain ⟨startLe, stopLe⟩ := Span.isWithin_iff.mp within
          exact inLast (Span.isWithin_iff.mpr
            ⟨Nat.le_trans inside.1 startLe, Nat.le_trans stopLe inside.2.1⟩)

/-- Every replaced call lies inside a survivor if, and only if, the outermost calls are replaced in
the order of the text. -/
theorem within_survivors_iff
    (nested : replaced.Pairwise Call.Precedes)
    (nonempty : ∀ call ∈ replaced, call.span.start < call.span.stop) :
    (∀ call ∈ replaced, ∃ top ∈ survivors replaced, call.span.isWithin top.span = true) ↔
      OutermostInOrder replaced := by
  constructor
  · rintro covered front call back rfl outermost
    obtain ⟨top, survives, within⟩ := covered call (by simp)
    obtain ⟨startLe, stopLe⟩ := Span.isWithin_iff.mp within
    have sameSpan : call.span = top.span := by
      by_contra different
      exact outermost top ((survivors_sublist _).subset survives) ⟨startLe, stopLe, different⟩
    obtain ⟨earlier, later, split, behind⟩ := (mem_survivors_iff nested nonempty).mp survives
    -- Stretches tell the calls apart, so the call is the survivor that covers it.
    rw [List.pairwise_append, List.pairwise_cons] at nested
    obtain ⟨_, ⟨precedes, _⟩, follows⟩ := nested
    have covered : top.span.isWithin call.span = true :=
      Span.isWithin_iff.mpr (by rw [sameSpan]; exact ⟨Nat.le_refl _, Nat.le_refl _⟩)
    have callNonempty := nonempty call (by simp)
    have notEarlier : top ∉ front := by
      intro present
      exact (follows top present call (by simp)).not_isWithin callNonempty within
    have notLater : top ∉ back := by
      intro present
      exact (precedes top present).not_isWithin (nonempty top (by simp [present])) covered
    obtain ⟨_, same, backEqual⟩ :=
      (List.append_cons_inj_of_notMem notEarlier notLater).mp split
    subst same
    subst backEqual
    exact behind
  · intro inOrder call present
    obtain ⟨top, topPresent, within, outermost⟩ := exists_outermost nested nonempty present
    obtain ⟨front, back, split⟩ := List.append_of_mem topPresent
    refine ⟨top, ?_, within⟩
    exact (mem_survivors_iff nested nonempty).mpr
      ⟨front, back, split, inOrder front top back split outermost⟩

end

/-- What becomes of the calls that are replaced while a script is inlined. -/
structure Survival (inlining : Inlining) (first : Nat) (calls : List Call)
    (state : InliningState) (result : InlinedScript) : Prop where
  /-- The final replacements are printed. -/
  printed : result.text = (Printed.ofEdits inlining.file inlining.script
    (state.replacements.map (·.edit)) (state.hoisted.flush.1.map String.toList)).text
  /-- All replaced calls are counted. -/
  counted : result.replaced = (inlining.replacedCalls (.start first) calls).length
  /-- A replaced call lies inside a final edit if it lies inside a replaced call that all calls
  replaced later lie behind, and only then. -/
  covered : ∀ call ∈ inlining.replacedCalls (.start first) calls,
    (∃ edit ∈ state.replacements.map (·.edit), call.span.isWithin edit.span = true) ↔
      ∃ front top back, inlining.replacedCalls (.start first) calls = front ++ top :: back ∧
        call.span.isWithin top.span = true ∧
        ∀ later ∈ back, top.span.stop ≤ later.span.start
  /-- All of them do if the outermost ones are replaced in the order of the text, and only then. -/
  complete : (∀ call ∈ inlining.replacedCalls (.start first) calls,
      ∃ edit ∈ state.replacements.map (·.edit), call.span.isWithin edit.span = true) ↔
    OutermostInOrder (inlining.replacedCalls (.start first) calls)

/-- A replacement is lost exactly when a call in front of it is replaced later and nothing around it
is. -/
theorem survival_of_traversal
    {inlining : Inlining}
    {first : Nat}
    {inputMap : Option PositionMap}
    {trees : List CallTree}
    {calls : List Call}
    {result : InlinedScript}
    (parsed : Script.parse (.ofPath inlining.file) inlining.script = some trees)
    (traversal : Traversal trees calls)
    (succeeds : (inlining.runOver inputMap first calls).result = .ok result) :
    ∃ state, inlining.visitAll (.start first) calls = (state, none) ∧
      Survival inlining first calls state result := by
  obtain ⟨state, ran, printed⟩ := Inlining.runOver_ok succeeds
  obtain ⟨textEqual, counted, _, _⟩ := Inlining.finish_ok printed
  have start : Inlining.StandFor (.start first) [] := rfl
  obtain ⟨standFor, replacedEqual⟩ := Inlining.standFor_visitAll start ran
  have nestedTrees := Script.nestAll_of_parse parsed
  have sublist := inlining.replacedCalls_sublist (.start first) calls
  have nested : (inlining.replacedCalls (.start first) calls).Pairwise Call.Precedes :=
    (traversal.precedes nestedTrees).sublist sublist
  have nonempty : ∀ call ∈ inlining.replacedCalls (.start first) calls,
      call.span.start < call.span.stop := fun call present =>
    (Script.fits_of_parse parsed
      (traversal.complete.mem_iff.mp (sublist.subset present))).nonempty
  have edits (call : Call) := standFor.exists_edit_iff call
  refine ⟨state, ran, textEqual, ?_, ?_, ?_⟩
  · rw [counted, replacedEqual]
    exact Nat.zero_add _
  · intro call present
    rw [edits call]
    constructor
    · rintro ⟨top, survives, within⟩
      obtain ⟨front, back, split, behind⟩ := (mem_survivors_iff nested nonempty).mp survives
      exact ⟨front, top, back, split, within, behind⟩
    · rintro ⟨front, top, back, split, within, behind⟩
      exact ⟨top, (mem_survivors_iff nested nonempty).mpr ⟨front, back, split, behind⟩, within⟩
  · simp only [edits]
    exact within_survivors_iff nested nonempty

/-- Both calls of a `do` statement are replaced, its test first. -/
theorem survival_of_do :
    let inlining := Inlining.unlocalized "do\x7bt('\x7ba\x7d')\x7dwhile(t('b'))"
    ∃ trees result state,
      Script.parse (.ofPath inlining.file) inlining.script = some trees ∧
      (inlining.runOver none 1 (CallTree.visitsAll trees)).result = .ok result ∧
      result.replaced = 2 ∧
      inlining.visitAll (.start 1) (CallTree.visitsAll trees) = (state, none) ∧
      Survival inlining 1 (CallTree.visitsAll trees) state result := by
  intro inlining
  have known : ((Script.parse (.ofPath inlining.file) inlining.script).bind fun trees =>
      (inlining.runOver none 1 (CallTree.visitsAll trees)).result.toOption.map (·.replaced)) =
        some 2 := by
    decide +kernel
  obtain ⟨trees, parsed, outcome⟩ := Option.bind_eq_some_iff.mp known
  obtain ⟨result, succeeds, replaced⟩ := Inlining.exists_ok outcome
  have traversal := Traversal.visitsAll (Script.nestAll_of_parse parsed)
  obtain ⟨state, ran, survival⟩ := survival_of_traversal parsed traversal succeeds
  exact ⟨trees, result, state, parsed, succeeds, replaced, ran, survival⟩

/-- The test of a `do` statement is left as it was when its body is replaced. -/
theorem expansion_lost_in_do :
    let inlining := Inlining.unlocalized "do\x7bt('a')\x7dwhile(t('b'))"
    (inlining.run none 1).result.toOption.map (fun result => (result.text, result.replaced)) =
        some ("do\x7b\"a\"\x7dwhile(t('b'))".toList, 2) ∧
      ∃ call ∈ inlining.replacedCalls (.start 1) inlining.calls,
        ¬ ∃ edit ∈ (inlining.visitAll (.start 1) inlining.calls).1.replacements.map (·.edit),
          call.span.isWithin edit.span = true := by
  decide +kernel

end MessageExpansion
