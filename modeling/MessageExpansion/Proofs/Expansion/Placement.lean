import Mathlib.Data.List.Rotate
import Mathlib.Data.List.TakeWhile
import MessageExpansion.Proofs.Edit.Edited
import MessageExpansion.Proofs.Expansion.Visit
import MessageExpansion.Proofs.Script.Offsets

/-!
# Where replacements stand

The replacements of a script that is being inlined stand in the order of the text, apart from each
other and inside the script, whatever the order in which calls that are apart are visited.  A call
drops every replacement behind its start, so what is left was visited before it and is not around
it; since calls nest, it ends before the call begins.
-/

namespace MessageExpansion

open Script (Span Call CallTree Traversal)
open Text (byteLength slice)

/-- Edits in order, followed by edits in order. -/
theorem InOrder.append
    {start middle stop : Nat}
    {first second : List Edit}
    (firstOrdered : InOrder start middle first)
    (secondOrdered : InOrder middle stop second) :
    InOrder start stop (first ++ second) := by
  induction first generalizing start with
  | nil =>
      cases second with
      | nil => exact Nat.le_trans firstOrdered secondOrdered
      | cons edit rest =>
          obtain ⟨reached, later⟩ := secondOrdered
          exact ⟨Nat.le_trans firstOrdered reached, later⟩
  | cons edit rest inductionHypothesis =>
      obtain ⟨reached, nonempty, later⟩ := firstOrdered
      exact ⟨reached, nonempty, inductionHypothesis later⟩

/-- Some of the edits in order are in order between offsets that they lie between. -/
theorem InOrder.sublist
    {start stop innerStart innerStop : Nat}
    {edits some : List Edit}
    (ordered : InOrder start stop edits)
    (sublist : some.Sublist edits)
    (le : innerStart ≤ innerStop)
    (between : ∀ edit ∈ some, innerStart ≤ edit.start ∧ edit.stop ≤ innerStop) :
    InOrder innerStart innerStop some := by
  obtain ⟨_, all, apart⟩ := InOrder.iff_pairwise.mp ordered
  refine InOrder.iff_pairwise.mpr ⟨le, ?_, apart.sublist sublist⟩
  intro edit present
  obtain ⟨startLe, stopLe⟩ := between edit present
  exact ⟨startLe, (all edit (sublist.subset present)).2.1, stopLe⟩

/-- A replacement takes the place of a call. -/
def Replacement.IsFor (replacement : Replacement) (call : Call) : Prop :=
  replacement.edit.start = call.span.start ∧ replacement.edit.stop = call.span.stop

/-- Replacements for visited calls, in order inside a script. -/
structure Placed (script : List Char) (visited : List Call) (replacements : List Replacement) :
    Prop where
  /-- The replacements stand in the order of the text and apart from each other. -/
  ordered : InOrder 0 (byteLength script) (replacements.map (·.edit))
  /-- Every replacement takes the place of a visited call. -/
  origin : ∀ replacement ∈ replacements, ∃ call ∈ visited, replacement.IsFor call

namespace Inlining

variable {inlining : Inlining} {state next : InliningState} {call : Call}

/-- The replacement for a call stands behind those that are left. -/
theorem replacements_replaceCall
    (eligible : EligibleCall)
    (locale : String)
    (pattern : Pattern) :
    ∃ text functions,
      (inlining.replaceCall state call eligible locale pattern).replacements =
        before state call ++ [⟨⟨call.span.start, call.span.stop, text⟩, functions⟩] := by
  cases compiled : pattern.constant? with
  | some value =>
      rw [replaceCall_of_constant compiled]
      exact ⟨_, _, rfl⟩
  | none =>
      rw [replaceCall_of_dynamic compiled]
      exact ⟨_, _, rfl⟩

/-- What begins before a call ends before it when it is for a call visited earlier. -/
theorem stop_le_of_mem_before
    {visited : List Call}
    (origin : ∀ replacement ∈ state.replacements, ∃ call ∈ visited, replacement.IsFor call)
    (precede : ∀ earlier ∈ visited, earlier.Precedes call)
    (nonempty : call.span.start < call.span.stop)
    {replacement : Replacement}
    (present : replacement ∈ before state call) :
    replacement.edit.stop ≤ call.span.start := by
  have begins : replacement.edit.start < call.span.start := by
    simpa using List.mem_takeWhile_imp present
  obtain ⟨earlier, earlierVisited, startEqual, stopEqual⟩ :=
    origin replacement ((List.takeWhile_sublist _).subset present)
  rcases precede earlier earlierVisited with ⟨startLe, _, _⟩ | apart
  · omega
  · unfold Span.Apart at apart
    omega

/-- A visit keeps replacements in order. -/
theorem placed_visit
    {script : List Char}
    {visited : List Call}
    (placed : Placed script visited state.replacements)
    (precede : ∀ earlier ∈ visited, earlier.Precedes call)
    (fits : call.Fits script)
    (step : inlining.visit state call = .ok next) :
    Placed script (visited ++ [call]) next.replacements := by
  rcases visit_cases step with ⟨_, rfl⟩ | ⟨eligible, locale, effective, warned, _, _, _, rfl⟩
  · refine ⟨placed.ordered, ?_⟩
    intro replacement present
    obtain ⟨earlier, earlierVisited, isFor⟩ := placed.origin replacement present
    exact ⟨earlier, List.mem_append_left _ earlierVisited, isFor⟩
  · obtain ⟨text, functions, equal⟩ := @replacements_replaceCall inlining
      { state with warnings := warned } call eligible locale effective.pattern
    rw [equal]
    have sublist : (before state call).Sublist state.replacements := List.takeWhile_sublist _
    constructor
    · rw [List.map_append]
      refine @InOrder.append 0 call.span.start _ _ _ ?_ ?_
      · refine placed.ordered.sublist (sublist.map _) (Nat.zero_le _) ?_
        intro edit present
        obtain ⟨replacement, replacementPresent, rfl⟩ := List.mem_map.mp present
        exact ⟨Nat.zero_le _,
          stop_le_of_mem_before placed.origin precede fits.nonempty replacementPresent⟩
      · exact ⟨Nat.le_refl _, fits.nonempty, fits.stop.le_byteLength⟩
    · intro replacement present
      rcases List.mem_append.mp present with old | new
      · obtain ⟨earlier, earlierVisited, isFor⟩ :=
          placed.origin replacement (sublist.subset old)
        exact ⟨earlier, List.mem_append_left _ earlierVisited, isFor⟩
      · rw [List.mem_singleton] at new
        subst new
        exact ⟨call, by simp, rfl, rfl⟩

/-- Whatever was visited of a traversal, the replacements are in order. -/
theorem placed_visitAll
    {trees : List CallTree}
    {calls visited : List Call}
    {first : Nat}
    (parsed : Script.parse (.ofPath inlining.file) inlining.script = some trees)
    (traversal : Traversal trees calls)
    (isPrefix : visited <+: calls)
    (ran : inlining.visitAll (.start first) visited = (state, none)) :
    Placed inlining.script visited state.replacements := by
  have nested := Script.nestAll_of_parse parsed
  have ordered := (traversal.precedes nested).sublist isPrefix.sublist
  have inScript : ∀ call ∈ visited, call ∈ CallTree.visitsAll trees := fun call present =>
    traversal.complete.mem_iff.mp (isPrefix.subset present)
  clear isPrefix
  -- Along the run, the calls visited so far are in the script and in the order of a traversal.
  refine visitAll_induction
    (motive := fun visited state => visited.Pairwise Call.Precedes →
      (∀ call ∈ visited, call ∈ CallTree.visitsAll trees) →
        Placed inlining.script visited state.replacements)
    ?_ ?_ ran ordered inScript
  · intro _ _
    exact ⟨Nat.zero_le _, by simp [InliningState.start]⟩
  · intro visited call state next inductionHypothesis step ordered inScript
    rw [List.pairwise_append] at ordered
    obtain ⟨earlierOrdered, _, precede⟩ := ordered
    have present : call ∈ CallTree.visitsAll trees := inScript call (by simp)
    have placed := inductionHypothesis earlierOrdered fun earlier earlierVisited =>
      inScript earlier (List.mem_append_left _ earlierVisited)
    refine placed_visit placed ?_ (Script.fits_of_parse parsed present) step
    intro earlier earlierVisited
    exact precede earlier earlierVisited call (by simp)

/-- The edits of replacements for calls of a script cut the script. -/
theorem cuts_of_placed
    {trees : List CallTree}
    {visited : List Call}
    (parsed : Script.parse (.ofPath inlining.file) inlining.script = some trees)
    (inScript : ∀ call ∈ visited, call ∈ CallTree.visitsAll trees)
    (placed : Placed inlining.script visited state.replacements) :
    ∀ replacement ∈ state.replacements, replacement.edit.Cuts inlining.script := by
  intro replacement present
  obtain ⟨call, callVisited, startEqual, stopEqual⟩ := placed.origin replacement present
  have fits := Script.fits_of_parse parsed (inScript call callVisited)
  rw [Edit.Cuts, startEqual, stopEqual]
  exact ⟨fits.start, fits.stop⟩

/-- The parameters of an eligible call are one of its arguments. -/
theorem exists_argument_of_match?
    {folded : FoldedConstants}
    {function : String}
    {eligible : EligibleCall}
    {parameters : Span}
    (found : call.match? function folded = some eligible)
    (passed : eligible.parameters = some parameters) :
    ∃ argument ∈ call.arguments, argument.span = parameters := by
  obtain ⟨-, -, -, isParameters⟩ := Script.Call.match?_eq_some_iff.mp found
  rw [passed] at isParameters
  obtain ⟨argument, argumentEqual, spanEqual⟩ := Option.map_eq_some_iff.mp isParameters
  exact ⟨argument, List.mem_of_getElem? argumentEqual, spanEqual⟩

/-- What a call keeps lies inside its parameters. -/
theorem inside_of_mem_kept
    {parameters : Span}
    {replacement : Replacement}
    (present : replacement ∈ kept state call (some parameters)) :
    parameters.start ≤ replacement.edit.start ∧ replacement.edit.stop ≤ parameters.stop := by
  have inside := (List.mem_filter.mp present).2
  simpa [isInside] using inside

/-- What a call keeps is what it finds, in the same order. -/
theorem kept_sublist
    (parameters : Option Span) :
    (kept state call parameters).Sublist state.replacements :=
  List.filter_sublist.trans (List.dropWhile_sublist _)

/-- The parameters of a call are edited by the replacements that it keeps. -/
theorem edited_parametersText
    {trees : List CallTree}
    {visited : List Call}
    {eligible : EligibleCall}
    {parameters : Span}
    (parsed : Script.parse (.ofPath inlining.file) inlining.script = some trees)
    (inScript : ∀ call ∈ visited, call ∈ CallTree.visitsAll trees)
    (placed : Placed inlining.script visited state.replacements)
    (present : call ∈ CallTree.visitsAll trees)
    (found : call.match? inlining.session.function state.folded = some eligible)
    (passed : eligible.parameters = some parameters) :
    Edited parameters.start (slice parameters.start parameters.stop inlining.script)
      ((kept state call eligible.parameters).map (·.edit))
      (inlining.parametersText eligible.parameters (kept state call eligible.parameters)) := by
  obtain ⟨argument, argumentPresent, spanEqual⟩ := exists_argument_of_match? found passed
  have fits := (Script.fits_of_parse parsed present).arguments argument argumentPresent
  subst spanEqual
  rw [passed]
  refine edited_splice ?_ fits.start fits.stop ?_
  · refine placed.ordered.sublist ((kept_sublist _).map _) fits.le ?_
    intro edit editPresent
    obtain ⟨replacement, replacementPresent, rfl⟩ := List.mem_map.mp editPresent
    exact inside_of_mem_kept replacementPresent
  · intro edit editPresent
    obtain ⟨replacement, replacementPresent, rfl⟩ := List.mem_map.mp editPresent
    exact cuts_of_placed parsed inScript placed replacement
      ((kept_sublist _).subset replacementPresent)

/-- What is printed behind a traversal is the script edited by its replacements, with the functions
behind it. -/
theorem edited_of_finish
    {trees : List CallTree}
    {calls : List Call}
    {first : Nat}
    {inputMap : Option PositionMap}
    {result : InlinedScript}
    (parsed : Script.parse (.ofPath inlining.file) inlining.script = some trees)
    (traversal : Traversal trees calls)
    (ran : inlining.visitAll (.start first) calls = (state, none))
    (printed : inlining.finish inputMap state = .ok result) :
    ∃ edited, Edited 0 inlining.script (state.replacements.map (·.edit)) edited ∧
      result.text = withTrailer edited (state.hoisted.flush.1.map String.toList) := by
  have placed := placed_visitAll parsed traversal (List.prefix_refl calls) ran
  have cuts : ∀ edit ∈ state.replacements.map (·.edit), edit.Cuts inlining.script := by
    intro edit present
    obtain ⟨replacement, replacementPresent, rfl⟩ := List.mem_map.mp present
    exact cuts_of_placed parsed (fun call => traversal.complete.mem_iff.mp) placed replacement
      replacementPresent
  have edited := edited_splice placed.ordered (Text.isBoundary_zero _)
    (Text.isBoundary_byteLength _) cuts
  rw [Text.slice_zero_byteLength] at edited
  refine ⟨_, edited, ?_⟩
  rw [(finish_ok printed).1, Printed.text_ofEdits _ _ placed.ordered cuts]

/-- Visiting calls none of which is eligible changes nothing. -/
theorem visitAll_of_ineligible
    {calls : List Call}
    (ineligible : ∀ call ∈ calls,
      call.match? inlining.session.function state.folded = none) :
    inlining.visitAll state calls = (state, none) := by
  induction calls with
  | nil => rfl
  | cons call rest inductionHypothesis =>
      have unchanged : inlining.visit state call = .ok state := by
        unfold visit
        rw [ineligible call (by simp)]
      rw [visitAll, unchanged]
      exact inductionHypothesis fun later present => ineligible later (by simp [present])

end Inlining

/-- Replacements as they are spliced into a script: they begin one behind the other, are apart and
lie inside the script. -/
structure WellPlaced (script : List Char) (replacements : List Replacement) : Prop where
  ascending : replacements.Pairwise fun first second => first.edit.start < second.edit.start
  apart : replacements.Pairwise fun first second => first.edit.stop ≤ second.edit.start
  inside : ∀ replacement ∈ replacements,
    replacement.edit.start < replacement.edit.stop ∧ replacement.edit.stop ≤ byteLength script

/-- Replacements for visited calls in order are well placed. -/
theorem Placed.wellPlaced
    {script : List Char}
    {visited : List Call}
    {replacements : List Replacement}
    (placed : Placed script visited replacements) :
    WellPlaced script replacements := by
  obtain ⟨_, all, apart⟩ := InOrder.iff_pairwise.mp placed.ordered
  rw [List.pairwise_map] at apart
  have inside : ∀ replacement ∈ replacements,
      replacement.edit.start < replacement.edit.stop ∧
        replacement.edit.stop ≤ byteLength script := fun replacement present =>
    (all replacement.edit (List.mem_map_of_mem present)).2
  refine ⟨apart.imp_of_mem ?_, apart, inside⟩
  intro first second present _ le
  exact Nat.lt_of_lt_of_le (inside first present).1 le

/-- A script whose calls are replaced in place: nothing is ever spliced out of order, and nothing
outside the final replacements is changed. -/
structure EditsInPlace (inlining : Inlining) (first : Nat) (calls : List Call) : Prop where
  /-- After every visit the replacements are well placed. -/
  placed : ∀ visited state, visited <+: calls →
    inlining.visitAll (.start first) visited = (state, none) →
      WellPlaced inlining.script state.replacements
  /-- What an eligible call keeps of them lies inside the stretch of its parameters. -/
  inside : ∀ visited state call eligible parameters, visited ++ [call] <+: calls →
    inlining.visitAll (.start first) visited = (state, none) →
      call.match? inlining.session.function state.folded = some eligible →
      eligible.parameters = some parameters →
        ∀ replacement ∈ Inlining.kept state call eligible.parameters,
          parameters.start ≤ replacement.edit.start ∧ replacement.edit.stop ≤ parameters.stop
  /-- It edits that stretch. -/
  spliced : ∀ visited state call eligible parameters, visited ++ [call] <+: calls →
    inlining.visitAll (.start first) visited = (state, none) →
      call.match? inlining.session.function state.folded = some eligible →
      eligible.parameters = some parameters →
        let kept := Inlining.kept state call eligible.parameters
        Edited parameters.start (slice parameters.start parameters.stop inlining.script)
          (kept.map (·.edit)) (inlining.parametersText eligible.parameters kept)
  /-- The printed text is the script edited by the final replacements, and the functions. -/
  printed : ∀ inputMap result, (inlining.runOver inputMap first calls).result = .ok result →
    ∃ state edited, inlining.visitAll (.start first) calls = (state, none) ∧
      Edited 0 inlining.script (state.replacements.map (·.edit)) edited ∧
      result.text = withTrailer edited (state.hoisted.flush.1.map String.toList)
  /-- It is the script itself when no call is eligible. -/
  identity : (∀ call ∈ calls, call.match? inlining.session.function [] = none) →
    ∀ inputMap, ∃ result, (inlining.runOver inputMap first calls).result = .ok result ∧
      result.text = inlining.script

/-- However a traversal orders the calls that are apart, they are replaced in place. -/
theorem editsInPlace_of_traversal
    (inlining : Inlining)
    (first : Nat)
    {trees : List CallTree}
    {calls : List Call}
    (parsed : Script.parse (.ofPath inlining.file) inlining.script = some trees)
    (traversal : Traversal trees calls) :
    EditsInPlace inlining first calls := by
  have placed {visited : List Call} {state : InliningState} (isPrefix : visited <+: calls)
      (ran : inlining.visitAll (.start first) visited = (state, none)) :=
    Inlining.placed_visitAll parsed traversal isPrefix ran
  have inScript {visited : List Call} (isPrefix : visited <+: calls) :
      ∀ call ∈ visited, call ∈ CallTree.visitsAll trees := fun call present =>
    traversal.complete.mem_iff.mp (isPrefix.subset present)
  constructor
  · intro visited state isPrefix ran
    exact (placed isPrefix ran).wellPlaced
  · intro visited state call eligible parameters _ _ _ passed replacement present
    rw [passed] at present
    exact Inlining.inside_of_mem_kept present
  · intro visited state call eligible parameters callPrefix ran found passed
    have isPrefix := (List.prefix_append visited [call]).trans callPrefix
    exact Inlining.edited_parametersText parsed (inScript isPrefix) (placed isPrefix ran)
      (inScript callPrefix call (by simp)) found passed
  · intro inputMap result succeeds
    obtain ⟨state, ran, printed⟩ := Inlining.runOver_ok succeeds
    obtain ⟨edited, inPlace, textEqual⟩ :=
      Inlining.edited_of_finish parsed traversal ran printed
    exact ⟨state, edited, ran, inPlace, textEqual⟩
  · intro ineligible inputMap
    have ran := @Inlining.visitAll_of_ineligible inlining (.start first) calls ineligible
    unfold Inlining.runOver
    rw [ran]
    refine ⟨_, rfl, ?_⟩
    have printed := @Printed.text_ofEdits inlining.script [] inlining.file none
      (Nat.zero_le _) (by simp)
    rw [splice, Text.slice_zero_byteLength] at printed
    exact printed

/-- The last statement of a script may be visited first. -/
theorem editsInPlace_of_rotated :
    let inlining := Inlining.unlocalized "t('\x7ba\x7d',t('b'));t('c')"
    ∃ trees calls,
      Script.parse (.ofPath inlining.file) inlining.script = some trees ∧
      Traversal trees calls ∧
      calls ≠ CallTree.visitsAll trees ∧
      EditsInPlace inlining 1 calls := by
  intro inlining
  have known : ((Script.parse (.ofPath inlining.file) inlining.script).map fun trees =>
      (CallTree.visitsAll trees).map (·.span)) = some [⟨8, 14⟩, ⟨0, 15⟩, ⟨16, 22⟩] := by
    decide +kernel
  obtain ⟨trees, parsed, spans⟩ := Option.map_eq_some_iff.mp known
  have rotated : ((CallTree.visitsAll trees).rotate 2).map (·.span) =
      [⟨16, 22⟩, ⟨8, 14⟩, ⟨0, 15⟩] := by
    rw [List.map_rotate, spans]
    rfl
  have traversal : Traversal trees ((CallTree.visitsAll trees).rotate 2) := by
    refine ⟨List.rotate_perm _ 2, ?_⟩
    rw [← List.pairwise_map (f := Call.span)
      (R := fun earlier later => ¬ later.isWithin earlier), rotated]
    decide
  have different : (CallTree.visitsAll trees).rotate 2 ≠ CallTree.visitsAll trees := by
    intro equal
    rw [equal, spans] at rotated
    exact absurd rotated (by decide)
  exact ⟨trees, _, parsed, traversal, different,
    editsInPlace_of_traversal inlining 1 parsed traversal⟩

end MessageExpansion
