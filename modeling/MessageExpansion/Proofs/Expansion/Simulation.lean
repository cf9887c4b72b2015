import MessageExpansion.Proofs.Expansion.Following

/-!
# Visits follow the recursion

Visiting the calls of a tree appends what the recursion expands them to: replacements behind those
that were there, functions behind those that were there, and constants in front of those that were
known.  This needs that no call is replaced behind one that it stands in front of.
-/

namespace MessageExpansion

open Script (Span Call CallTree Traversal)

/-- The calls are in the order of the text: the earlier one lies inside the later one or in front of
it. -/
def Script.Call.Settles (earlier later : Call) : Prop :=
  earlier.span.Inside later.span ∨ earlier.span.stop ≤ later.span.start

instance (earlier later : Call) : Decidable (earlier.Settles later) :=
  inferInstanceAs (Decidable ((_ ∧ _ ∧ _) ∨ _))

namespace Inlining

variable {inlining : Inlining} {state final : InliningState}

/-- The calls that are replaced in two parts of a run. -/
theorem replacedCalls_append
    {mid : InliningState}
    {front : List Call}
    (back : List Call)
    (ran : inlining.visitAll state front = (mid, none)) :
    inlining.replacedCalls state (front ++ back) =
      inlining.replacedCalls state front ++ inlining.replacedCalls mid back := by
  induction front generalizing state with
  | nil =>
      cases ran
      rfl
  | cons call rest inductionHypothesis =>
      obtain ⟨next, step, later⟩ := exists_next ran
      rw [List.cons_append, replacedCalls, replacedCalls, step]
      simp only [inductionHypothesis later]
      split <;> simp

/-- Calls that are apart and in the order of the text stand one behind the other. -/
theorem stop_le_of_settles
    {earlier later : Call}
    (settles : earlier.Settles later)
    (apart : earlier.span.Apart later.span)
    (nonempty : earlier.span.start < earlier.span.stop) :
    earlier.span.stop ≤ later.span.start := by
  rcases settles with ⟨startLe, stopLe, _⟩ | behind
  · unfold Span.Apart at apart
    omega
  · exact behind

mutual

/-- Visiting the calls of a tree does what the recursion says. -/
theorem follows_visits
    (tree : CallTree)
    {state final : InliningState}
    (nests : CallTree.Nests inlining.script tree)
    (trimmed : state.hoisted.Trimmed)
    (fresh : ∀ entry ∈ state.folded,
      entry.1.start < entry.1.stop ∧ entry.1.Apart tree.call.span)
    (behind : ∀ replacement ∈ state.replacements,
      ∀ call ∈ inlining.replacedCalls state (CallTree.visits tree),
        replacement.edit.start < call.span.start)
    (ordered : (inlining.replacedCalls state (CallTree.visits tree)).Pairwise Call.Settles)
    (ran : inlining.visitAll state (CallTree.visits tree) = (final, none)) :
    ∃ unfolded, inlining.unfold state.hoisted.next tree = .ok unfolded ∧
      Follows inlining state (inlining.replacedCalls state (CallTree.visits tree)) unfolded
        final := by
  match tree with
  | .node call inner =>
      rw [CallTree.Nests] at nests
      obtain ⟨fits, innerNests, inside⟩ := nests
      rw [CallTree.visits_node] at behind ordered ran ⊢
      obtain ⟨mid, ranInner, step⟩ := visitAll_concat ran
      rw [replacedCalls_append [call] ranInner] at behind ordered ⊢
      have innerFresh : ∀ entry ∈ state.folded, entry.1.start < entry.1.stop ∧
          ∀ tree ∈ inner, entry.1.Apart tree.call.span := by
        intro entry known
        obtain ⟨entryNonempty, apart⟩ := fresh entry known
        refine ⟨entryNonempty, fun tree present => ?_⟩
        obtain ⟨startLe, stopLe, _⟩ := (inside tree present).1
        exact apart.mono (Nat.le_refl _) (Nat.le_refl _) startLe stopLe
      obtain ⟨unfolded, unfoldedInner, follows⟩ := follows_visitsAll inner innerNests trimmed
        innerFresh
        (fun replacement present call replaced =>
          behind replacement present call (List.mem_append_left _ replaced))
        (List.pairwise_append.mp ordered).1 ranInner
      have visited : ∀ earlier ∈ inlining.replacedCalls state (CallTree.visitsAll inner),
          earlier ∈ CallTree.visitsAll inner := fun earlier replaced =>
        (inlining.replacedCalls_sublist state _).subset replaced
      have within : ∀ earlier ∈ inlining.replacedCalls state (CallTree.visitsAll inner),
          call.span.start ≤ earlier.span.start ∧ earlier.Fits inlining.script := by
        intro earlier replaced
        obtain ⟨earlierFits, tree, present, startLe, _⟩ :=
          CallTree.fits_of_mem_visitsAll inner innerNests earlier (visited earlier replaced)
        exact ⟨Nat.le_trans (inside tree present).1.1 startLe, earlierFits⟩
      obtain ⟨result, expanded, followsResult⟩ := follows.visit trimmed
        (fun replacement present earlier replaced =>
          behind replacement present earlier (List.mem_append_right _ replaced))
        (fun earlier replaced => (within earlier replaced).1)
        (fun earlier replaced => (within earlier replaced).2) fits fresh step
      refine ⟨result, ?_, followsResult⟩
      rw [unfold, unfoldedInner]
      exact expanded

/-- Visiting the calls of a list of trees does what the recursion says. -/
theorem follows_visitsAll
    (trees : List CallTree)
    {state final : InliningState}
    (nests : CallTree.NestAll inlining.script trees)
    (trimmed : state.hoisted.Trimmed)
    (fresh : ∀ entry ∈ state.folded, entry.1.start < entry.1.stop ∧
      ∀ tree ∈ trees, entry.1.Apart tree.call.span)
    (behind : ∀ replacement ∈ state.replacements,
      ∀ call ∈ inlining.replacedCalls state (CallTree.visitsAll trees),
        replacement.edit.start < call.span.start)
    (ordered : (inlining.replacedCalls state (CallTree.visitsAll trees)).Pairwise Call.Settles)
    (ran : inlining.visitAll state (CallTree.visitsAll trees) = (final, none)) :
    ∃ unfolded, inlining.unfoldAll state.hoisted.next trees = .ok unfolded ∧
      Follows inlining state (inlining.replacedCalls state (CallTree.visitsAll trees)) unfolded
        final := by
  match trees with
  | [] =>
      rw [CallTree.visitsAll_nil] at ran ⊢
      cases ran
      exact ⟨.empty, by rw [unfoldAll], Follows.empty trimmed⟩
  | tree :: rest =>
      have parts := nests
      rw [CallTree.NestAll] at parts
      obtain ⟨treeNests, apart, restNests⟩ := parts
      rw [CallTree.visitsAll_cons] at behind ordered ran ⊢
      obtain ⟨mid, ranTree, ranRest⟩ := exists_mid ran
      rw [replacedCalls_append _ ranTree] at behind ordered ⊢
      obtain ⟨treeOrdered, restOrdered, settles⟩ := List.pairwise_append.mp ordered
      obtain ⟨first, unfoldedTree, follows⟩ := follows_visits tree treeNests trimmed
        (fun entry known => ⟨(fresh entry known).1, (fresh entry known).2 tree (by simp)⟩)
        (fun replacement present call replaced =>
          behind replacement present call (List.mem_append_left _ replaced))
        treeOrdered ranTree
      have visited : ∀ earlier ∈ inlining.replacedCalls state (CallTree.visits tree),
          earlier ∈ CallTree.visits tree := fun earlier replaced =>
        (inlining.replacedCalls_sublist state _).subset replaced
      have inTree : ∀ earlier ∈ inlining.replacedCalls state (CallTree.visits tree),
          earlier.Fits inlining.script ∧
            tree.call.span.start ≤ earlier.span.start ∧
            earlier.span.stop ≤ tree.call.span.stop := fun earlier replaced =>
        CallTree.fits_of_mem_visits tree treeNests earlier (visited earlier replaced)
      have infront : ∀ earlier ∈ inlining.replacedCalls state (CallTree.visits tree),
          ∀ call ∈ inlining.replacedCalls mid (CallTree.visitsAll rest),
            earlier.span.stop ≤ call.span.start := by
        intro earlier replaced call later
        have inRest := (inlining.replacedCalls_sublist mid _).subset later
        exact stop_le_of_settles (settles earlier replaced call later)
          (CallTree.apart_of_mem_visitsAll nests (visited earlier replaced) inRest)
          (inTree earlier replaced).1.nonempty
      have apartFromRest : ∀ earlier ∈ inlining.replacedCalls state (CallTree.visits tree),
          earlier.span.start < earlier.span.stop ∧
            ∀ other ∈ rest, earlier.span.Apart other.call.span := by
        intro earlier replaced
        obtain ⟨fits, startLe, stopLe⟩ := inTree earlier replaced
        exact ⟨fits.nonempty, fun other present =>
          (apart other present).mono startLe stopLe (Nat.le_refl _) (Nat.le_refl _)⟩
      have midFresh : ∀ entry ∈ mid.folded, entry.1.start < entry.1.stop ∧
          ∀ other ∈ rest, entry.1.Apart other.call.span :=
        follows.folded_apart (fun entry known => ⟨(fresh entry known).1, fun other present =>
          (fresh entry known).2 other (List.mem_cons_of_mem tree present)⟩) apartFromRest
      have midBehind := follows.starts_before
        (fun replacement present call later =>
          behind replacement present call (List.mem_append_right _ later))
        (fun earlier replaced call later => Nat.lt_of_lt_of_le
          (inTree earlier replaced).1.nonempty (infront earlier replaced call later))
      obtain ⟨later, unfoldedRest, followsRest⟩ := follows_visitsAll rest restNests follows.trimmed
        midFresh midBehind restOrdered ranRest
      refine ⟨first.append later, ?_, follows.append followsRest infront⟩
      rw [follows.next trimmed] at unfoldedRest
      rw [unfoldAll, unfoldedTree]
      simp only [unfoldedRest]

end

end Inlining

/-- An inlined script that is the recursive expansion of its calls. -/
structure IsExpansion (inlining : Inlining) (unfolded : Unfolded) (result : InlinedScript) :
    Prop where
  /-- Its text is the script with the expansions in the places of their calls, nothing else changed,
  and the functions behind it. -/
  text : ∃ code, Edited 0 inlining.script (Expansion.edits inlining unfolded.calls) code ∧
    result.text = withTrailer code (trailerOf (unfolded.functions.map (·.2)))
  /-- Parameters are passed with the expansions in the places of their calls, nothing else
  changed. -/
  parameters : Expansion.AllInPlace inlining unfolded.calls
  /-- The functions are those that the expansions call. -/
  functions : (Expansion.indicesAll unfolded.calls).Perm (unfolded.functions.map (·.1))

/-- If the calls that are replaced are in the order of the text, then inlining a script expands its
calls recursively. -/
theorem isExpansion_of_ordered
    {inlining : Inlining}
    {inputMap : Option PositionMap}
    {first : Nat}
    {trees : List CallTree}
    {result : InlinedScript}
    (parsed : Script.parse (.ofPath inlining.file) inlining.script = some trees)
    (ordered : (inlining.replacedCalls (.start first) (CallTree.visitsAll trees)).Pairwise
      Call.Settles)
    (succeeds : (inlining.run inputMap first).result = .ok result) :
    ∃ unfolded, inlining.unfoldAll first trees = .ok unfolded ∧
      IsExpansion inlining unfolded result := by
  rw [Inlining.run_of_parse parsed] at succeeds
  obtain ⟨state, ran, printed⟩ := Inlining.runOver_ok succeeds
  have nests := Script.nestAll_of_parse parsed
  obtain ⟨unfolded, expanded, follows⟩ := Inlining.follows_visitsAll trees nests
    (HoistedFunctions.trimmed_startingAt first) (by simp [InliningState.start])
    (by simp [InliningState.start]) ordered ran
  obtain ⟨code, edited, textEqual⟩ :=
    Inlining.edited_of_finish parsed (Traversal.visitsAll nests) ran printed
  have replacements : state.replacements =
      unfolded.calls.map (Expansion.replacement inlining) := follows.replacements
  have entries : state.hoisted.entries =
      unfolded.functions.map fun entry => (entry.1, entry.2.print) := follows.entries
  rw [replacements, ← Expansion.edits_eq_map] at edited
  rw [(flush_of_entries entries).1] at textEqual
  exact ⟨unfolded, expanded, ⟨code, edited, textEqual⟩, follows.inPlace, follows.called⟩

/-- A message inside the parameters of another one, behind a constant one that is its locale. -/
theorem isExpansion_of_nested :
    let inlining := Inlining.unlocalized "t('\x7ba\x7d',[t('\x7bb\x7d')],t('de'));do\x7b\x7dwhile(x())"
    ∃ trees result unfolded,
      Script.parse (.ofPath inlining.file) inlining.script = some trees ∧
      (inlining.replacedCalls (.start 1) (CallTree.visitsAll trees)).Pairwise Call.Settles ∧
      (inlining.run none 1).result = .ok result ∧
      result.replaced = 3 ∧
      inlining.unfoldAll 1 trees = .ok unfolded ∧
      IsExpansion inlining unfolded result := by
  intro inlining
  have known : (Script.parse (.ofPath inlining.file) inlining.script).map (fun trees =>
      decide ((inlining.replacedCalls (.start 1) (CallTree.visitsAll trees)).Pairwise
        Call.Settles)) = some true := by
    decide +kernel
  have outcome : (inlining.run none 1).result.toOption.map (·.replaced) = some 3 := by
    decide +kernel
  obtain ⟨trees, parsed, decided⟩ := Option.map_eq_some_iff.mp known
  have ordered := of_decide_eq_true decided
  obtain ⟨result, succeeds, replaced⟩ := Inlining.exists_ok outcome
  obtain ⟨unfolded, expanded, isExpansion⟩ := isExpansion_of_ordered parsed ordered succeeds
  exact ⟨trees, result, unfolded, parsed, ordered, succeeds, replaced, expanded, isExpansion⟩

end MessageExpansion
