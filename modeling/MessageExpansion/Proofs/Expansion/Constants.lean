import MessageExpansion.Proofs.Expansion.Survival
import MessageExpansion.Proofs.Renderer.Rendering
import MessageExpansion.Proofs.Script.Literal

/-!
# Calls that become literals

A call of a constant pattern becomes a string literal of the text that the pattern always renders
to, and calls around it read this text where the call was.  What they read belongs to a call that
was visited and replaced before, since no two calls have the same stretch.
-/

namespace MessageExpansion

open Script (Span Call CallTree IsLiteralOf Runtime Traversal units)

/-! ### Constant patterns -/

/-- The pattern renders to a text whatever its arguments are, and without asking for them. -/
def Pattern.RendersTo (pattern : Pattern) (value : String) : Prop :=
  ∀ (M : Type → Type) [Monad M] [LawfulMonad M] (compared : String → Bool) (runtime : Runtime M)
    (locale : String) (around : Option runtime.Number),
    Pattern.render compared runtime locale around pattern = pure (units value)

theorem Pattern.rendersTo_of_constant
    {pattern : Pattern}
    {value : String}
    (constant : pattern.constant? = some value) :
    pattern.RendersTo value := by
  intro M _ _ compared runtime locale around
  match pattern, constant with
  | [], constant =>
      cases constant
      rfl
  | [.text text], constant =>
      cases constant
      simp [Pattern.render, Element.render]

/-! ### Known values -/

theorem FoldedConstants.value?_cons
    (folded : FoldedConstants)
    (first span : Span)
    (value : String) :
    FoldedConstants.value? ((first, value) :: folded) span =
      if first = span then some value else folded.value? span := by
  unfold FoldedConstants.value?
  rw [List.find?_cons]
  by_cases same : first = span
  · rw [if_pos same, beq_iff_eq.mpr same]
    rfl
  · rw [if_neg same, beq_eq_false_iff_ne.mpr same]

/-- The last replacement stands for a call and is a literal of the value that is known of the
call. -/
structure InliningState.EndsWithLiteral (state : InliningState) (call : Call) (value : String) :
    Prop where
  replaced : ∃ text, state.replacements.getLast? =
    some ⟨⟨call.span.start, call.span.stop, text⟩, []⟩ ∧ IsLiteralOf text value
  known : state.folded.value? call.span = some value

/-- Replacements for calls whose values are known are literals of these values. -/
def InliningState.AreLiterals (state : InliningState) : Prop :=
  ∀ replacement ∈ state.replacements, ∀ value,
    state.folded.value? replacement.edit.span = some value →
      IsLiteralOf replacement.edit.text value

namespace Inlining

variable {inlining : Inlining} {state next : InliningState} {call : Call} {first : Nat}
  {visited : List Call} {span : Span} {value : String}

theorem endsWithLiteral_replaceCall
    {eligible : EligibleCall}
    {locale : String}
    {pattern : Pattern}
    (constant : pattern.constant? = some value) :
    (inlining.replaceCall state call eligible locale pattern).EndsWithLiteral call value := by
  rw [replaceCall_of_constant constant]
  exact ⟨⟨_, List.getLast?_concat, Script.isLiteralOf_stringLiteral value⟩,
    by rw [FoldedConstants.value?_cons, if_pos rfl]⟩

/-- A visit makes nothing known but the value of its call, which becomes a literal of it. -/
theorem value?_visit
    (step : inlining.visit state call = .ok next)
    (known : next.folded.value? span = some value) :
    state.folded.value? span = some value ∨
      call.span = span ∧ next.EndsWithLiteral call value := by
  rcases visit_cases step with ⟨_, rfl⟩ | ⟨eligible, locale, effective, warned, _, _, _, rfl⟩
  · exact .inl known
  · cases constant : effective.pattern.constant? with
    | none =>
        rw [replaceCall_of_dynamic constant] at known
        exact .inl known
    | some text =>
        by_cases here : call.span = span
        · right
          rw [replaceCall_of_constant constant, FoldedConstants.value?_cons, if_pos here] at known
          cases known
          exact ⟨here, endsWithLiteral_replaceCall constant⟩
        · left
          rw [replaceCall_of_constant constant, FoldedConstants.value?_cons, if_neg here] at known
          exact known

/-- A visit leaves literals where values are known, if nothing was replaced in the stretch of its
call and no value is known for it. -/
theorem areLiterals_visit
    (areLiterals : state.AreLiterals)
    (others : ∀ replacement ∈ state.replacements, call.span ≠ replacement.edit.span)
    (unknown : state.folded.value? call.span = none)
    (step : inlining.visit state call = .ok next) :
    next.AreLiterals := by
  rcases visit_cases step with ⟨_, rfl⟩ | ⟨eligible, locale, effective, warned, _, _, _, same⟩
  · exact areLiterals
  · obtain ⟨text, functions, left⟩ := @replacements_replaceCall inlining
      { state with warnings := warned } call eligible locale effective.pattern
    rw [← same] at left
    intro replacement present value known
    rw [left] at present
    rcases List.mem_append.mp present with old | new
    · have earlier := (List.takeWhile_sublist _).subset old
      rcases value?_visit step known with known | ⟨here, _⟩
      · exact areLiterals replacement earlier value known
      · exact absurd here (others replacement earlier)
    · rw [List.mem_singleton.mp new] at known ⊢
      rcases value?_visit step known with known | ⟨_, ends⟩
      · exact absurd (unknown.symm.trans known) nofun
      · obtain ⟨printed, last, isLiteral⟩ := ends.replaced
        rw [left, List.getLast?_concat] at last
        cases last
        exact isLiteral

/-- A call in a stretch was replaced by a literal of a value when certain calls were visited. -/
def FoldedAt (inlining : Inlining) (first : Nat) (visited : List Call) (span : Span)
    (value : String) : Prop :=
  ∃ front call back reached next, visited = front ++ call :: back ∧ call.span = span ∧
    inlining.visitAll (.start first) front = (reached, none) ∧
    inlining.visit reached call = .ok next ∧ next.EndsWithLiteral call value

theorem FoldedAt.concat
    (foldedAt : inlining.FoldedAt first visited span value)
    (call : Call) :
    inlining.FoldedAt first (visited ++ [call]) span value := by
  obtain ⟨front, inner, back, reached, next, rfl, rest⟩ := foldedAt
  exact ⟨front, inner, back ++ [call], reached, next, by simp, rest⟩

/-- Every known value is that of a call that was replaced. -/
theorem foldedAt_visitAll
    (ran : inlining.visitAll (.start first) visited = (state, none))
    (known : state.folded.value? span = some value) :
    inlining.FoldedAt first visited span value := by
  induction visited using List.reverseRecOn generalizing state with
  | nil =>
      cases ran
      cases known
  | append_singleton visited call inductionHypothesis =>
      obtain ⟨reached, before, step⟩ := visitAll_concat ran
      rcases value?_visit step known with earlier | ⟨here, ends⟩
      · exact (inductionHypothesis before earlier).concat call
      · exact ⟨visited, call, [], reached, state, rfl, here, before, step, ends⟩

variable {trees : List CallTree} {calls : List Call}

/-- No other call of a traversal has the same stretch. -/
theorem span_ne_of_traversal
    (traversal : Traversal trees calls)
    (isPrefix : visited ++ [call] <+: calls) :
    ∀ earlier ∈ visited, earlier.span ≠ call.span := by
  intro earlier present same
  have innerFirst := traversal.innerFirst.sublist isPrefix.sublist
  rw [List.pairwise_append] at innerFirst
  refine innerFirst.2.2 earlier present call (List.mem_singleton_self _) ?_
  rw [same, Span.isWithin_iff]
  exact ⟨Nat.le_refl _, Nat.le_refl _⟩

/-- Whatever was visited of a traversal, there are literals where values are known. -/
theorem areLiterals_visitAll
    (parsed : Script.parse (.ofPath inlining.file) inlining.script = some trees)
    (traversal : Traversal trees calls)
    (isPrefix : visited <+: calls)
    (ran : inlining.visitAll (.start first) visited = (state, none)) :
    state.AreLiterals := by
  induction visited using List.reverseRecOn generalizing state with
  | nil =>
      cases ran
      exact List.forall_mem_nil _
  | append_singleton visited call inductionHypothesis =>
      obtain ⟨reached, before, step⟩ := visitAll_concat ran
      have distinct := span_ne_of_traversal traversal isPrefix
      have visitedPrefix := (List.prefix_append visited [call]).trans isPrefix
      refine areLiterals_visit (inductionHypothesis visitedPrefix before) ?_ ?_ step
      · intro replacement present same
        obtain ⟨inner, innerVisited, startEqual, stopEqual⟩ :=
          (placed_visitAll parsed traversal visitedPrefix before).origin replacement present
        refine distinct inner innerVisited ?_
        rw [same, Edit.span, startEqual, stopEqual]
      · by_contra known
        obtain ⟨value, known⟩ := Option.ne_none_iff_exists'.mp known
        obtain ⟨front, inner, back, _, _, rfl, sameSpan, _⟩ := foldedAt_visitAll before known
        exact distinct inner (by simp) sameSpan

end Inlining

/-- Calls of constant patterns become literals of what they render to, and calls around them read
the values of these literals. -/
structure FoldsToLiterals (inlining : Inlining) (first : Nat) (calls : List Call) : Prop where
  /-- Wherever an eligible call of a constant pattern is visited, it is replaced by a literal of the
  text that the pattern renders to. -/
  replaced : ∀ state call eligible effective value,
    call.match? inlining.session.function state.folded = some eligible →
      inlining.effectivePattern call eligible.pattern
          (inlining.session.effectiveLocale eligible.locale) = .ok effective →
        effective.pattern.constant? = some value →
          effective.pattern.RendersTo value ∧
            ∃ next, inlining.visit state call = .ok next ∧ next.EndsWithLiteral call value
  /-- A value that a call reads for one of its arguments is that of the literal which a call visited
  before became there. -/
  read : ∀ visited state call argument value, visited ++ [call] <+: calls →
    inlining.visitAll (.start first) visited = (state, none) →
      argument ∈ call.arguments → argument.isSpread = false →
        state.folded.value? argument.core = some value →
          argument.kind state.folded = .string value ∧
            inlining.FoldedAt first visited argument.core value
  /-- While the replacement of a call whose value is known stands, it is a literal of this value. -/
  standing : ∀ visited state, visited <+: calls →
    inlining.visitAll (.start first) visited = (state, none) → state.AreLiterals

/-- In every traversal of a script, calls of constant patterns become literals. -/
theorem foldsToLiterals_of_traversal
    (inlining : Inlining)
    (first : Nat)
    {trees : List CallTree}
    {calls : List Call}
    (parsed : Script.parse (.ofPath inlining.file) inlining.script = some trees)
    (traversal : Traversal trees calls) :
    FoldsToLiterals inlining first calls := by
  constructor
  · intro state call eligible effective value found compiled constant
    refine ⟨Pattern.rendersTo_of_constant constant, ?_⟩
    unfold Inlining.visit
    simp only [found, compiled]
    exact ⟨_, rfl, Inlining.endsWithLiteral_replaceCall constant⟩
  · intro visited state call argument value _ ran _ single known
    refine ⟨?_, Inlining.foldedAt_visitAll ran known⟩
    unfold Script.Argument.kind
    rw [single, known]
    rfl
  · intro visited state isPrefix ran
    exact Inlining.areLiterals_visitAll parsed traversal isPrefix ran

/-- Every text is printed as a literal of itself, and calls of constant patterns become such
literals. -/
theorem literals_of_constants :
    (∀ value : String, IsLiteralOf (Text.stringLiteral value).toList value) ∧
      ∀ (inlining : Inlining) (first : Nat) (trees : List CallTree) (calls : List Call),
        Script.parse (.ofPath inlining.file) inlining.script = some trees →
          Traversal trees calls → FoldsToLiterals inlining first calls :=
  ⟨Script.isLiteralOf_stringLiteral, fun inlining first _ _ parsed traversal =>
    foldsToLiterals_of_traversal inlining first parsed traversal⟩

/-- The outer call reads what the inner one became, and becomes it in its turn. -/
theorem literals_of_constants_nested :
    let inlining := Inlining.unlocalized "t(t('\\n'))"
    ∃ trees,
      Script.parse (.ofPath inlining.file) inlining.script = some trees ∧
      FoldsToLiterals inlining 1 (CallTree.visitsAll trees) ∧
      IsLiteralOf "\"\\n\"".toList "\n" ∧
      (inlining.run none 1).result.toOption.map (·.text) = some "\"\\n\"".toList := by
  intro inlining
  have known : (Script.parse (.ofPath inlining.file) inlining.script).isSome = true := by
    decide +kernel
  obtain ⟨trees, parsed⟩ := Option.isSome_iff_exists.mp known
  have traversal := Traversal.visitsAll (Script.nestAll_of_parse parsed)
  exact ⟨trees, parsed, literals_of_constants.2 inlining 1 trees _ parsed traversal,
    literals_of_constants.1 "\n", by decide +kernel⟩

end MessageExpansion
