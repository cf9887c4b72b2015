import MessageExpansion.Script.Grammar.Expression
import MessageExpansion.Proofs.Script.Grammar.Function

/-!
# What calls read

The arguments of a call follow each other between its parentheses, and the calls inside them nest.
A call begins with what is called, so it contains the calls of its callee and those of its
arguments; type arguments stand between the two.
-/

namespace MessageExpansion
namespace Script

open Std.Do
open Recogniser
open Text (IsBoundary)

set_option mvcgen.warning false

variable [Source] {first : Cursor} {start middle stop : Nat}

/-! ### Arguments -/

/-- Arguments follow each other between two offsets, and the calls inside them lie there too. -/
structure ArgumentsFit (start stop : Nat) (arguments : List (Argument × List CallTree)) : Prop where
  fits : ∀ entry ∈ arguments, entry.1.Fits Source.text ⟨start, stop⟩
  calls : ∀ entry ∈ arguments, CallTree.Between entry.1.span.start entry.1.span.stop entry.2
  ordered : arguments.Pairwise fun left right => left.1.span.stop ≤ right.1.span.start

namespace ArgumentsFit

variable {arguments : List (Argument × List CallTree)}

theorem mono
    {outerStart outerStop : Nat}
    (fits : ArgumentsFit start stop arguments)
    (startLe : outerStart ≤ start)
    (stopLe : stop ≤ outerStop) :
    ArgumentsFit outerStart outerStop arguments := by
  refine ⟨fun entry present => ?_, fits.calls, fits.ordered⟩
  have inner := fits.fits entry present
  exact ⟨inner.start, inner.stop, inner.le, Nat.le_trans startLe inner.startLe,
    Nat.le_trans inner.stopLe stopLe, inner.core⟩

/-- The other arguments lie behind the first one. -/
theorem tail
    {entry : Argument × List CallTree}
    (fits : ArgumentsFit start stop (entry :: arguments)) :
    ArgumentsFit entry.1.span.stop stop arguments := by
  have ordered := List.pairwise_cons.mp fits.ordered
  refine ⟨fun other present => ?_,
    fun other present => fits.calls other (List.mem_cons_of_mem _ present), ordered.2⟩
  have inner := fits.fits other (List.mem_cons_of_mem _ present)
  exact ⟨inner.start, inner.stop, inner.le, ordered.1 other present, inner.stopLe, inner.core⟩

/-- The calls inside arguments lie where the arguments do. -/
theorem between_argumentCalls
    (fits : ArgumentsFit start stop arguments) :
    CallTree.Between start stop (Grammar.argumentCalls arguments) := by
  induction arguments generalizing start with
  | nil => exact CallTree.between_nil
  | cons entry rest inductionHypothesis =>
      have inner := fits.fits entry List.mem_cons_self
      have calls := fits.calls entry List.mem_cons_self
      have later := inductionHypothesis fits.tail
      rw [Grammar.argumentCalls, List.flatMap_cons, CallTree.between_append]
      exact ⟨calls.mono inner.startLe inner.stopLe,
        later.mono (Nat.le_trans inner.startLe inner.le) (Nat.le_refl _),
        calls.separate later (.inl (Nat.le_refl _))⟩

/-- A call inside an argument lies inside or apart from any other argument. -/
theorem within_or_apart
    (fits : ArgumentsFit start stop arguments)
    {entry : Argument × List CallTree}
    (present : entry ∈ arguments)
    {tree : CallTree}
    (inner : tree ∈ Grammar.argumentCalls arguments) :
    tree.call.span.isWithin entry.1.span = true ∨ tree.call.span.Apart entry.1.span := by
  obtain ⟨owner, ownerPresent, inOwner⟩ := List.mem_flatMap.mp inner
  have startLe := (fits.calls owner ownerPresent).startLe tree inOwner
  have stopLe := (fits.calls owner ownerPresent).stopLe tree inOwner
  by_cases same : owner = entry
  · subst same
    exact .inl (Span.isWithin_iff.mpr ⟨startLe, stopLe⟩)
  · right
    have symmetric : Std.Symm fun left right : Argument × List CallTree =>
        left.1.span.Apart right.1.span := ⟨fun _ _ => Span.Apart.symm⟩
    have disjoint : arguments.Pairwise fun left right => left.1.span.Apart right.1.span :=
      fits.ordered.imp Or.inl
    exact (disjoint.forall ownerPresent present same).mono startLe stopLe (Nat.le_refl _)
      (Nat.le_refl _)

end ArgumentsFit

instance : Joinable (Argument × List CallTree) where
  between := ArgumentsFit
  mono := ArgumentsFit.mono
  nil := ⟨by simp, by simp, .nil⟩
  append := by
    intro start stop next final outerStop first second firstFits secondFits startLe ordered stopLe
      finalLe
    have left := firstFits.mono (Nat.le_refl _) stopLe
    have right := secondFits.mono startLe finalLe
    refine ⟨List.forall_mem_append.mpr ⟨left.fits, right.fits⟩,
      List.forall_mem_append.mpr ⟨left.calls, right.calls⟩,
      List.pairwise_append.mpr ⟨left.ordered, right.ordered, ?_⟩⟩
    intro earlier earlierPresent later laterPresent
    have stop := (firstFits.fits earlier earlierPresent).stopLe
    have start := (secondFits.fits later laterPresent).startLe
    exact Nat.le_trans stop (Nat.le_trans ordered start)

@[grind =] theorem between_arguments
    {arguments : List (Argument × List CallTree)} :
    Located.between start stop arguments ↔ ArgumentsFit start stop arguments :=
  .rfl

grind_pattern ArgumentsFit.mono =>
  ArgumentsFit start stop arguments, ArgumentsFit outerStart outerStop arguments
grind_pattern ArgumentsFit.between_argumentCalls =>
  ArgumentsFit start stop arguments, Grammar.argumentCalls arguments

omit [Source] in
@[grind =] theorem argumentCalls_nil : Grammar.argumentCalls [] = [] :=
  rfl

/-- An argument takes up what was passed over since the place where it may be spread. -/
@[grind ←] theorem argumentsFit_singleton
    {piece : Piece}
    (sound : piece.Sound)
    (startLe : start ≤ piece.span.start)
    (stopLe : piece.span.stop ≤ stop)
    (startBoundary : IsBoundary Source.text start)
    (stopBoundary : IsBoundary Source.text stop)
    (isSpread : Bool) :
    ArgumentsFit start stop
      [(⟨⟨start, stop⟩, isSpread, piece.core, piece.shape⟩, piece.calls)] := by
  refine ⟨?_, ?_, List.pairwise_singleton _ _⟩
  · rw [List.forall_mem_singleton]
    have core := Span.isWithin_iff.mp sound.core
    refine ⟨startBoundary, stopBoundary, ?_, Nat.le_refl _, Nat.le_refl _, ?_⟩
    · exact Nat.le_trans startLe (Nat.le_trans sound.le stopLe)
    · exact Span.isWithin_iff.mpr
        ⟨Nat.le_trans startLe core.1, Nat.le_trans core.2 stopLe⟩
  · rw [List.forall_mem_singleton]
    exact sound.calls.mono startLe stopLe

namespace Grammar

variable {grammar : Grammar} [grammar.Sound]

attribute [local grind →] Cursor.Stands.previous Cursor.Stands.start

/-- Arguments lie behind the parenthesis that opens them, and end with the one that closes them. -/
@[spec] theorem yields_callArguments :
    Yields first grammar.callArguments fun arguments last => (first.Leads last ∧
      first.start.offset < last.previous.offset ∧
      ArgumentsFit (first.start.offset + 1) last.previous.offset arguments) ∧
      Closes Source.text last.previous.offset := by
  refine .and (.of_outcome fun outcome => ?_) (.of_outcome fun outcome => ?_)
  · mvcgen [callArguments] <;> grind -linarith
  · mvcgen [callArguments, yields_listUntil_closes, -reads_listUntil] <;> grind -linarith

/-! ### Calls -/

omit [Source] in
theorem shape_of_variableName?
    {shape : Shape}
    {name : String}
    (equal : variableName? shape = some name) :
    shape = .variable name := by
  cases shape <;> simp_all [variableName?]

/-- A call reaches from its callee to its last parenthesis. -/
theorem fits_call
    {callee : Piece}
    (sound : callee.Sound)
    {arguments : List (Argument × List CallTree)}
    (fits : ArgumentsFit start stop arguments)
    (calleeStop : callee.span.stop < start)
    (le : start ≤ stop)
    (boundary : IsBoundary Source.text stop)
    (closes : Closes Source.text stop) :
    Call.Fits Source.text
      ⟨⟨callee.span.start, stop⟩, variableName? callee.shape, arguments.map (·.1)⟩ := by
  have calleeLe := sound.le
  refine ⟨sound.startBoundary, boundary, ?_, ?_, List.pairwise_map.mpr fits.ordered, closes,
    fun name equal => sound.name name (shape_of_variableName? equal)⟩
  · show callee.span.start < stop
    omega
  · intro argument present
    obtain ⟨entry, entryPresent, rfl⟩ := List.mem_map.mp present
    have inner := fits.fits entry entryPresent
    have startLe : callee.span.start ≤ start := by omega
    exact ⟨inner.start, inner.stop, inner.le, Nat.le_trans startLe inner.startLe, inner.stopLe,
      inner.core⟩

/-- A call contains the calls of its callee, of its arguments and of its type arguments. -/
theorem nests_call
    {callee : Piece}
    (sound : callee.Sound)
    {types : List CallTree}
    (typesBetween : CallTree.Between callee.span.stop middle types)
    {arguments : List (Argument × List CallTree)}
    (fits : ArgumentsFit start stop arguments)
    (calleeStop : callee.span.stop ≤ middle)
    (apart : middle < start)
    (le : start ≤ stop)
    (boundary : IsBoundary Source.text stop)
    (closes : Closes Source.text stop) :
    CallTree.Nests Source.text
      (.node ⟨⟨callee.span.start, stop⟩, variableName? callee.shape, arguments.map (·.1)⟩
        (callee.calls ++ argumentCalls arguments ++ types)) := by
  have calleeLe := sound.le
  have argumentsBetween := fits.between_argumentCalls
  have inner : CallTree.Between callee.span.start stop
      (callee.calls ++ argumentCalls arguments ++ types) := by
    rw [CallTree.between_append, CallTree.between_append, CallTree.separate_append_left]
    exact ⟨⟨sound.calls.mono (Nat.le_refl _) (by omega),
      argumentsBetween.mono (by omega) (Nat.le_refl _),
      sound.calls.separate argumentsBetween (.inl (by omega))⟩,
      typesBetween.mono (by omega) (by omega),
      sound.calls.separate typesBetween (.inl (Nat.le_refl _)),
      argumentsBetween.separate typesBetween (.inr (by omega))⟩
  -- Whatever is not in the arguments ends before they begin.
  have innerCases : ∀ tree ∈ callee.calls ++ argumentCalls arguments ++ types,
      tree.call.span.stop ≤ middle ∨ tree ∈ argumentCalls arguments := by
    intro tree present
    rw [List.mem_append, List.mem_append] at present
    rcases present with (inCallee | inArguments) | inTypes
    · exact .inl (Nat.le_trans (sound.calls.stopLe tree inCallee) calleeStop)
    · exact .inr inArguments
    · exact .inl (typesBetween.stopLe tree inTypes)
  rw [CallTree.Nests]
  refine ⟨fits_call sound fits (by omega) le boundary closes, inner.nests, ?_⟩
  intro tree present
  refine ⟨⟨inner.startLe tree present, inner.stopLe tree present, ?_⟩, ?_⟩
  · -- What stands before the arguments ends before the call does; they begin behind its start.
    intro equal
    rcases innerCases tree present with treeStop | inArguments
    · rw [equal] at treeStop
      simp only at treeStop
      omega
    · have treeStart := argumentsBetween.startLe tree inArguments
      rw [equal] at treeStart
      simp only at treeStart
      omega
  · intro argument argumentPresent
    obtain ⟨entry, entryPresent, rfl⟩ := List.mem_map.mp argumentPresent
    rcases innerCases tree present with treeStop | inArguments
    · have entryStart := (fits.fits entry entryPresent).startLe
      simp only at entryStart
      exact .inr (.inl (by omega))
    · exact fits.within_or_apart entryPresent inArguments

/-- A call is a piece that begins where its callee does. -/
theorem sound_call
    {callee : Piece}
    (sound : callee.Sound)
    {types : List CallTree}
    (typesBetween : CallTree.Between callee.span.stop middle types)
    {arguments : List (Argument × List CallTree)}
    (fits : ArgumentsFit start stop arguments)
    (calleeStop : callee.span.stop ≤ middle)
    (apart : middle < start)
    (le : start ≤ stop)
    (boundary : IsBoundary Source.text stop)
    (closes : Closes Source.text stop) :
    Piece.Sound ⟨⟨callee.span.start, stop⟩, ⟨callee.span.start, stop⟩, .other, false,
      [.node ⟨⟨callee.span.start, stop⟩, variableName? callee.shape, arguments.map (·.1)⟩
        (callee.calls ++ argumentCalls arguments ++ types)]⟩ := by
  have calleeLe := sound.le
  have nests := nests_call sound typesBetween fits calleeStop apart le boundary closes
  refine ⟨?_, sound.startBoundary, boundary, by simp [Span.isWithin_iff], ⟨?_, ?_, ?_⟩, nofun⟩
  · show callee.span.start ≤ stop
    omega
  · exact CallTree.nestAll_iff.mpr ⟨by simpa using nests, List.pairwise_singleton _ _⟩
  · simp [CallTree.call]
  · simp [CallTree.call]

grind_pattern sound_call =>
  callee.Sound, CallTree.Between callee.span.stop middle types, ArgumentsFit start stop arguments

/-! ### Pieces that go on -/

/-- From a token of the text on, the recogniser yields a piece that begins where another one did
and goes on to what it passes over. -/
abbrev Extends (first : Cursor) (base : Piece) (recogniser : Recogniser Piece) : Prop :=
  Yields first recogniser fun piece last =>
    first.Leads last ∧ piece.Sound ∧ piece.span.start = base.span.start ∧
      piece.span.stop ≤ last.previous.offset

variable {base : Piece}

omit [grammar.Sound] in
@[spec] theorem extends_extend
    (sound : base.Sound)
    {isChain : Bool}
    {calls : List CallTree}
    (stopLe : base.span.stop ≤ first.previous.offset)
    (between : CallTree.Between base.span.stop first.previous.offset calls) :
    Extends first base (extend base isChain calls) := by
  refine .of_outcome fun outcome => ?_
  mvcgen [extend]
  grind -linarith

@[spec] theorem extends_callOf
    (sound : base.Sound)
    {types : List CallTree}
    (stopLe : base.span.stop ≤ first.previous.offset)
    (between : CallTree.Between base.span.stop first.previous.offset types) :
    Extends first base (grammar.callOf base types) := by
  refine .of_outcome fun outcome => ?_
  mvcgen [callOf] <;> grind -linarith

end Grammar
end Script
end MessageExpansion
