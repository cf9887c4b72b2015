import MessageExpansion.Proofs.Expansion.Indifference
import MessageExpansion.Proofs.Expansion.Naming
import MessageExpansion.Proofs.Script.Renumbering.Parser

/-!
# Numbering from another index

Where the numbers of its functions begin does not matter to what inlining does.  Runs over the same
calls take the same steps, and each state of one is that of the other with other numbers.  Both are
described by one draft, in which functions are numbered from zero.
-/

namespace MessageExpansion

open Script (Span Call Renumbered)

/-! ### Other numbers -/

namespace Expansion

mutual

/-- The expansion with other indices. -/
def renumber (number : Nat → Nat) : Expansion → Expansion
  | constant value => constant value
  | call index parameters nested => call (number index) parameters (renumberAll number nested)

/-- The expansions with other indices. -/
def renumberAll (number : Nat → Nat) : List (Span × Expansion) → List (Span × Expansion)
  | [] => []
  | (span, expansion) :: rest => (span, renumber number expansion) :: renumberAll number rest

end

theorem renumberAll_eq_map
    (number : Nat → Nat)
    (expansions : List (Span × Expansion)) :
    renumberAll number expansions =
      expansions.map fun expanded => (expanded.1, renumber number expanded.2) := by
  induction expansions with
  | nil => rw [renumberAll, List.map_nil]
  | cons expanded rest inductionHypothesis =>
      rw [renumberAll, inductionHypothesis, List.map_cons]

@[simp] theorem renumberAll_append
    (number : Nat → Nat)
    (front back : List (Span × Expansion)) :
    renumberAll number (front ++ back) = renumberAll number front ++ renumberAll number back := by
  simp [renumberAll_eq_map]

mutual

theorem renumber_renumber
    (number other : Nat → Nat)
    (expansion : Expansion) :
    renumber other (renumber number expansion) = renumber (other ∘ number) expansion := by
  cases expansion with
  | constant value => simp [renumber]
  | call index parameters nested =>
      simp [renumber, renumberAll_renumberAll number other nested]

theorem renumberAll_renumberAll
    (number other : Nat → Nat)
    (expansions : List (Span × Expansion)) :
    renumberAll other (renumberAll number expansions) =
      renumberAll (other ∘ number) expansions := by
  match expansions with
  | [] => simp [renumberAll]
  | (span, expansion) :: rest =>
      simp [renumberAll, renumber_renumber number other expansion,
        renumberAll_renumberAll number other rest]

end

mutual

theorem indices_renumber
    (number : Nat → Nat)
    (expansion : Expansion) :
    indices (renumber number expansion) = (indices expansion).map number := by
  cases expansion with
  | constant value => simp [renumber, indices]
  | call index parameters nested =>
      simp [renumber, indices, indicesAll_renumberAll number nested]

theorem indicesAll_renumberAll
    (number : Nat → Nat)
    (expansions : List (Span × Expansion)) :
    indicesAll (renumberAll number expansions) = (indicesAll expansions).map number := by
  match expansions with
  | [] => simp [renumberAll]
  | (span, expansion) :: rest =>
      simp [renumberAll, indicesAll, indices_renumber number expansion,
        indicesAll_renumberAll number rest]

end

end Expansion

/-- The function of an index with another one, and the name for it. -/
def renumberFunction (host : String) (number : Nat → Nat) (entry : Nat × RenderFunction) :
    Nat × RenderFunction :=
  (number entry.1, { entry.2 with name := generatedName host (number entry.1) })

/-- The functions of some indices with other ones, and the names for them. -/
def renumberFunctions (host : String) (number : Nat → Nat)
    (functions : List (Nat × RenderFunction)) : List (Nat × RenderFunction) :=
  functions.map (renumberFunction host number)

section

variable {host : String} {number other : Nat → Nat} {functions : List (Nat × RenderFunction)}

theorem renumberFunctions_renumberFunctions :
    renumberFunctions host other (renumberFunctions host number functions) =
      renumberFunctions host (other ∘ number) functions :=
  List.map_map

theorem indices_renumberFunctions :
    (renumberFunctions host number functions).map (·.1) = (functions.map (·.1)).map number := by
  unfold renumberFunctions renumberFunction
  rw [List.map_map, List.map_map]
  rfl

/-- Functions without those of some indices. -/
theorem filter_renumberFunctions
    (injective : Function.Injective number)
    (indices : List Nat) :
    (renumberFunctions host number functions).filter (fun entry => entry.1 ∉ indices.map number) =
      renumberFunctions host number (functions.filter fun entry => entry.1 ∉ indices) := by
  unfold renumberFunctions
  rw [List.filter_map]
  congr 1
  refine List.filter_congr fun entry _ => ?_
  exact decide_eq_decide.mpr (not_congr (List.mem_map_of_injective injective))

end

/-! ### Texts -/

/-- The names of generated functions differ in their numbers. -/
theorem renumbered_generatedName
    (host : String)
    (index other : Nat)
    {first second : List Char}
    (onward : Renumbered first second) :
    Renumbered ((generatedName host index).toList ++ '(' :: first)
      ((generatedName host other).toList ++ '(' :: second) := by
  have number : Renumbered ('_' :: ((toString index).toList ++ '(' :: first))
      ('_' :: ((toString other).toList ++ '(' :: second)) :=
    .number (fun _ => Text.isDigit_of_mem_toString) (fun _ => Text.isDigit_of_mem_toString) onward
  rw [toList_generatedName, toList_generatedName]
  simpa using (Renumbered.refl ('_' :: '_' ::
    host.toList.map fun c => if Text.isNameChar c then c else '_')).append number

/-- Edits of the same stretch, with texts that are alike but for numbers. -/
structure Edit.Alike (edit other : Edit) : Prop where
  start : edit.start = other.start
  stop : edit.stop = other.stop
  text : Renumbered edit.text other.text

section

variable {edits others : List Edit}

theorem renumbered_splice
    (alike : List.Forall₂ Edit.Alike edits others)
    (source : List Char)
    (start stop : Nat) :
    Renumbered (splice source start stop edits) (splice source start stop others) := by
  induction alike generalizing start with
  | nil => exact .refl _
  | cons same _ inductionHypothesis =>
      rw [splice, splice, same.start, same.stop]
      exact ((Renumbered.refl _).append same.text).append (inductionHypothesis _)

namespace Printing

variable {printing other : Printing} {start stop : Nat}

theorem renumbered_copyLines
    (alike : Renumbered printing.text other.text)
    (source : List Char)
    (lines : List Nat) :
    Renumbered (copyLines source start stop printing lines).text
      (copyLines source start stop other lines).text := by
  induction lines generalizing printing other start with
  | nil => exact alike.append (.refl _)
  | cons next rest inductionHypothesis =>
      rw [copyLines, copyLines]
      refine inductionHypothesis ?_
      split <;> exact alike.append (.refl _)

theorem renumbered_copy
    (alike : Renumbered printing.text other.text)
    (source : List Char) :
    Renumbered (copy source start stop printing).text (copy source start stop other).text := by
  have marked (origin : Text.Position) :
      Renumbered (printing.mark origin).text (other.mark origin).text := alike
  unfold copy
  split
  · exact alike
  · exact renumbered_copyLines (marked _) source _

theorem renumbered_copyEdited
    (alike : Renumbered printing.text other.text)
    (source : List Char)
    (editsAlike : List.Forall₂ Edit.Alike edits others) :
    Renumbered (copyEdited source start printing edits).text
      (copyEdited source start other others).text := by
  induction editsAlike generalizing printing other start with
  | nil => exact renumbered_copy alike source
  | cons same _ inductionHypothesis =>
      rw [copyEdited, copyEdited, same.start, same.stop]
      exact inductionHypothesis ((renumbered_copy alike source).append same.text)

end Printing

theorem renumbered_withTrailer
    {first second trailer otherTrailer : List Char}
    (alike : Renumbered first second)
    (trailersAlike : Renumbered trailer otherTrailer) :
    Renumbered (withTrailer first (some trailer)) (withTrailer second (some otherTrailer)) := by
  have empty : first = [] ↔ second = [] := by
    rw [← List.isEmpty_iff, ← List.isEmpty_iff, alike.isEmpty_eq]
  have ends : Text.endsLine first = Text.endsLine second := by
    unfold Text.endsLine
    rw [alike.getLast?_eq]
  simp only [withTrailer, empty, ends]
  split
  · exact alike.append trailersAlike
  · exact alike.append (.cons '\n' trailersAlike)

/-- Printing yields texts that are alike if edits and trailers are. -/
theorem renumbered_ofEdits
    {trailer otherTrailer : Option (List Char)}
    (name : String)
    (source : List Char)
    (alike : List.Forall₂ Edit.Alike edits others)
    (trailersAlike : Option.Rel Renumbered trailer otherTrailer) :
    Renumbered (Printed.ofEdits name source edits trailer).text
      (Printed.ofEdits name source others otherTrailer).text := by
  have printed : Renumbered (Printing.copyEdited source 0 .start edits).text
      (Printing.copyEdited source 0 .start others).text :=
    Printing.renumbered_copyEdited (.refl _) source alike
  cases trailersAlike with
  | none => exact printed
  | some trailersAlike =>
      unfold Printed.ofEdits
      simp only [Printing.text_pushTrailer]
      exact renumbered_withTrailer printed trailersAlike

end

namespace Expansion

variable (inlining : Inlining) (number other : Nat → Nat)

mutual

/-- The texts of expansions differ in the numbers of the functions that they call. -/
theorem renumbered_text
    (expansion : Expansion) :
    Renumbered (text inlining (renumber number expansion))
      (text inlining (renumber other expansion)) := by
  cases expansion with
  | constant value =>
      rw [renumber, renumber]
      exact .refl _
  | call index parameters nested =>
      have alike := alike_edits nested
      simp only [renumber, text, List.append_assoc, List.cons_append]
      refine renumbered_generatedName _ _ _ (.append ?_ (.refl _))
      cases parameters with
      | none => exact .refl _
      | some span => exact renumbered_splice alike _ _ _

theorem alike_edits
    (expansions : List (Span × Expansion)) :
    List.Forall₂ Edit.Alike (edits inlining (renumberAll number expansions))
      (edits inlining (renumberAll other expansions)) := by
  match expansions with
  | [] =>
      simp only [renumberAll, edits]
      exact .nil
  | (span, expansion) :: rest =>
      simp only [renumberAll, edits]
      exact .cons ⟨rfl, rfl, renumbered_text expansion⟩ (alike_edits rest)

end

end Expansion

/-- Functions behind a script differ in the numbers of their names. -/
theorem renumbered_printAll
    (host : String)
    (number other : Nat → Nat)
    (functions : List (Nat × RenderFunction)) :
    Renumbered (RenderFunction.printAll ((renumberFunctions host number functions).map (·.2)))
      (RenderFunction.printAll ((renumberFunctions host other functions).map (·.2))) := by
  induction functions with
  | nil => exact .nil
  | cons entry rest inductionHypothesis =>
      obtain ⟨front, back, printed⟩ := entry.2.exists_print
      have declared : Renumbered (renumberFunction host number entry).2.print.toList
          (renumberFunction host other entry).2.print.toList := by
        rw [renumberFunction, renumberFunction, printed, printed]
        exact (Renumbered.refl front).append
          (.cons ' ' (renumbered_generatedName host _ _ (.refl back)))
      exact declared.append inductionHypothesis

/-- There are functions behind both scripts or behind none, and they differ in the numbers of their
names. -/
theorem renumbered_trailerOf
    (host : String)
    (number other : Nat → Nat)
    (functions : List (Nat × RenderFunction)) :
    Option.Rel Renumbered (trailerOf ((renumberFunctions host number functions).map (·.2)))
      (trailerOf ((renumberFunctions host other functions).map (·.2))) := by
  by_cases empty : functions = []
  · subst empty
    exact .none
  · rw [trailerOf_eq_printAll (by simpa [renumberFunctions]),
      trailerOf_eq_printAll (by simpa [renumberFunctions])]
    exact .some (renumbered_printAll host number other functions)

/-- Whether what is put behind a script follows the grammar does not depend on the numbers. -/
theorem Inlining.isSound_eq
    (inlining : Inlining)
    {trailer other : Option (List Char)}
    (alike : Option.Rel Renumbered trailer other) :
    inlining.isSound trailer = inlining.isSound other := by
  cases alike with
  | none => rfl
  | some alike => exact Script.isSome_parse_eq alike _

/-! ### Drafts -/

/-- The index behind some indices that are counted from another one. -/
theorem HoistedFunctions.indexBehind_map_add
    (first : Nat)
    (indices : List Nat) :
    indexBehind first (indices.map (first + ·)) = first + indexBehind 0 indices := by
  unfold indexBehind
  rw [List.getLast?_map]
  cases indices.getLast? with
  | none => rfl
  | some last => exact Nat.add_assoc first last 1

/-- How far the inlining of a script has come, wherever the numbering of its functions begins:
indices are counted from zero. -/
structure Draft where
  /-- What calls are replaced by. -/
  expansions : List (Span × Expansion)
  /-- The functions that are needed, with their indices; it does not matter what names they have. -/
  functions : List (Nat × RenderFunction)
  /-- The calls that were replaced by constants. -/
  folded : FoldedConstants
  /-- The number of calls that were replaced. -/
  replaced : Nat
  /-- The localizations that could not be used. -/
  warnings : List BrokenLocalization

namespace Draft

/-- Nothing is replaced yet. -/
def empty : Draft := ⟨[], [], [], 0, []⟩

/-- The draft describes a state in which functions have indices from `first` on. -/
structure Describes (inlining : Inlining) (first : Nat) (draft : Draft) (state : InliningState) :
    Prop where
  /-- Replacements and functions are those of the draft with other numbers. -/
  accounted : Accounted inlining state.replacements state.hoisted
    (Expansion.renumberAll (first + ·) draft.expansions)
    (renumberFunctions inlining.session.function (first + ·) draft.functions)
  /-- Indices begin where they should. -/
  firstEqual : state.hoisted.first = first
  /-- The next index is the one behind the last function. -/
  trimmed : state.hoisted.Trimmed
  /-- The same calls are constant. -/
  folded : state.folded = draft.folded
  /-- The same number of calls is replaced. -/
  replaced : state.replaced = draft.replaced
  /-- The same localizations could not be used. -/
  warnings : state.warnings = draft.warnings

theorem describes_start
    (inlining : Inlining)
    (first : Nat) :
    empty.Describes inlining first (.start first) where
  accounted := by
    rw [empty, Expansion.renumberAll]
    exact Inlining.accounted_start inlining first
  firstEqual := rfl
  trimmed := HoistedFunctions.trimmed_startingAt first
  folded := rfl
  replaced := rfl
  warnings := rfl

/-- The expansions that begin before a call. -/
def front (draft : Draft) (call : Call) : List (Span × Expansion) :=
  draft.expansions.takeWhile fun expanded => expanded.1.start < call.span.start

/-- The expansions from the first one on that does not begin before a call. -/
def onward (draft : Draft) (call : Call) : List (Span × Expansion) :=
  draft.expansions.dropWhile fun expanded => expanded.1.start < call.span.start

/-- The expansions that a call keeps. -/
def kept (inlining : Inlining) (draft : Draft) (call : Call) (parameters : Option Span) :
    List (Span × Expansion) :=
  (draft.onward call).filter (Inlining.isInside parameters ∘ Expansion.replacement inlining)

/-- The expansions that a call drops. -/
def dropped (inlining : Inlining) (draft : Draft) (call : Call) (parameters : Option Span) :
    List (Span × Expansion) :=
  (draft.onward call).filter fun expanded =>
    !(Inlining.isInside parameters ∘ Expansion.replacement inlining) expanded

/-- The functions that are left without those that some expansions call. -/
def without (functions : List (Nat × RenderFunction)) (expansions : List (Span × Expansion)) :
    List (Nat × RenderFunction) :=
  functions.filter fun entry => entry.1 ∉ Expansion.indicesAll expansions

/-- The functions that are left when a call has dropped the expansions it does not keep. -/
def remaining (inlining : Inlining) (draft : Draft) (call : Call) (parameters : Option Span) :
    List (Nat × RenderFunction) :=
  without draft.functions (draft.dropped inlining call parameters)

/-- Replace a call by a constant. -/
def replaceByConstant (inlining : Inlining) (draft : Draft) (call : Call)
    (parameters : Option Span) (value : String) : Draft :=
  { draft with
    expansions := draft.front call ++ [(call.span, .constant value)]
    functions := without (draft.remaining inlining call parameters)
      (draft.kept inlining call parameters)
    folded := (call.span, value) :: draft.folded
    replaced := draft.replaced + 1 }

/-- Replace a call by a call of a function behind those that are left. -/
def replaceByCall (inlining : Inlining) (draft : Draft) (call : Call) (parameters : Option Span)
    (function : RenderFunction) : Draft :=
  let functions := draft.remaining inlining call parameters
  let index := HoistedFunctions.indexBehind 0 (functions.map (·.1))
  { draft with
    expansions := draft.front call ++
      [(call.span, .call index parameters (draft.kept inlining call parameters))]
    functions := functions ++ [(index, function)]
    replaced := draft.replaced + 1 }

namespace Describes

variable {inlining : Inlining} {first : Nat} {draft : Draft} {state : InliningState} {call : Call}
  {parameters : Option Span}

theorem before_eq
    (describes : draft.Describes inlining first state) :
    Inlining.before state call =
      (Expansion.renumberAll (first + ·) (draft.front call)).map
        (Expansion.replacement inlining) := by
  rw [Inlining.before, describes.accounted.replaced, front, Expansion.renumberAll_eq_map,
    Expansion.renumberAll_eq_map, List.map_map, List.map_map, List.takeWhile_map]
  rfl

theorem onward_eq
    (describes : draft.Describes inlining first state) :
    Inlining.onward state call =
      (Expansion.renumberAll (first + ·) (draft.onward call)).map
        (Expansion.replacement inlining) := by
  rw [Inlining.onward, describes.accounted.replaced, onward, Expansion.renumberAll_eq_map,
    Expansion.renumberAll_eq_map, List.map_map, List.map_map, List.dropWhile_map]
  rfl

theorem kept_eq
    (describes : draft.Describes inlining first state) :
    Inlining.kept state call parameters =
      (Expansion.renumberAll (first + ·) (draft.kept inlining call parameters)).map
        (Expansion.replacement inlining) := by
  rw [Inlining.kept, describes.onward_eq, kept, Expansion.renumberAll_eq_map,
    Expansion.renumberAll_eq_map, List.map_map, List.map_map, List.filter_map]
  rfl

theorem dropped_eq
    (describes : draft.Describes inlining first state) :
    Inlining.dropped state call parameters =
      (Expansion.renumberAll (first + ·) (draft.dropped inlining call parameters)).map
        (Expansion.replacement inlining) := by
  rw [Inlining.dropped, describes.onward_eq, dropped, Expansion.renumberAll_eq_map,
    Expansion.renumberAll_eq_map, List.map_map, List.map_map, List.filter_map]
  rfl

end Describes

/-- Functions are discarded whatever their numbers are. -/
theorem accounted_without
    {inlining : Inlining}
    {first : Nat}
    {replacements : List Replacement}
    {hoisted : HoistedFunctions}
    {expansions kept dropped : List (Span × Expansion)}
    {functions : List (Nat × RenderFunction)}
    (accounted : Accounted inlining replacements hoisted
      (Expansion.renumberAll (first + ·) expansions)
      (renumberFunctions inlining.session.function (first + ·) functions))
    (parts : (Expansion.indicesAll expansions).Perm
      (Expansion.indicesAll kept ++ Expansion.indicesAll dropped)) :
    Accounted inlining
      ((Expansion.renumberAll (first + ·) kept).map (Expansion.replacement inlining))
      (Inlining.discardAll hoisted
        ((Expansion.renumberAll (first + ·) dropped).map (Expansion.replacement inlining)))
      (Expansion.renumberAll (first + ·) kept)
      (renumberFunctions inlining.session.function (first + ·) (without functions dropped)) := by
  have renumbered := parts.map (first + ·)
  rw [List.map_append, ← Expansion.indicesAll_renumberAll, ← Expansion.indicesAll_renumberAll,
    ← Expansion.indicesAll_renumberAll] at renumbered
  have left := accounted.discardAll renumbered
  rwa [Expansion.indicesAll_renumberAll, filter_renumberFunctions (add_right_injective first)]
    at left

namespace Describes

variable {inlining : Inlining} {first : Nat} {draft : Draft} {state : InliningState}
  {pattern : Pattern}

/-- The expansions that a call leaves, and the functions that are left then. -/
theorem accounted_remaining
    (describes : draft.Describes inlining first state)
    (call : Call)
    (parameters : Option Span) :
    Accounted inlining
      ((Expansion.renumberAll (first + ·)
        (draft.front call ++ draft.kept inlining call parameters)).map
          (Expansion.replacement inlining))
      (Inlining.remaining state call parameters)
      (Expansion.renumberAll (first + ·)
        (draft.front call ++ draft.kept inlining call parameters))
      (renumberFunctions inlining.session.function (first + ·)
        (draft.remaining inlining call parameters)) := by
  have left := accounted_without describes.accounted
    (Expansion.indicesAll_division_perm
      (fun expanded => expanded.1.start < call.span.start)
      (Inlining.isInside parameters ∘ Expansion.replacement inlining) draft.expansions)
  rw [Inlining.remaining, describes.dropped_eq]
  exact left

/-- A warning changes nothing else. -/
theorem warn
    (describes : draft.Describes inlining first state)
    (unused : List BrokenLocalization) :
    ({ draft with warnings := draft.warnings ++ unused } : Draft).Describes inlining first
      { state with warnings := state.warnings ++ unused } :=
  { describes with warnings := congrArg (· ++ unused) describes.warnings }

/-- A call becomes the same constant whatever the numbers are. -/
theorem replaceByConstant
    {value : String}
    (describes : draft.Describes inlining first state)
    (call : Call)
    (eligible : EligibleCall)
    (locale : String)
    (constant : pattern.constant? = some value) :
    (draft.replaceByConstant inlining call eligible.parameters value).Describes inlining first
      (inlining.replaceCall state call eligible locale pattern) := by
  rw [Inlining.replaceCall_of_constant constant]
  have left := describes.accounted_remaining call eligible.parameters
  have all : (Expansion.indicesAll
      (draft.front call ++ draft.kept inlining call eligible.parameters)).Perm
        (Expansion.indicesAll (draft.front call) ++
          Expansion.indicesAll (draft.kept inlining call eligible.parameters)) := by
    rw [Expansion.indicesAll_append]
  have last := (accounted_without left all).constant call.span value
  rw [← describes.kept_eq, ← describes.before_eq] at last
  constructor
  · rw [Draft.replaceByConstant, Expansion.renumberAll_append]
    simpa only [Expansion.renumberAll, Expansion.renumber] using last
  · simp [Inlining.remaining, describes.firstEqual]
  · exact Inlining.trimmed_discardAll (Inlining.trimmed_discardAll describes.trimmed _) _
  · exact congrArg ((call.span, value) :: ·) describes.folded
  · exact congrArg (· + 1) describes.replaced
  · exact describes.warnings

/-- The next index is counted from the first one. -/
theorem next_of_accounted
    {replacements : List Replacement}
    {hoisted : HoistedFunctions}
    {expansions : List (Span × Expansion)}
    {functions : List (Nat × RenderFunction)}
    (accounted : Accounted inlining replacements hoisted expansions
      (renumberFunctions inlining.session.function (first + ·) functions))
    (firstEqual : hoisted.first = first)
    (trimmed : hoisted.Trimmed) :
    hoisted.next = first + HoistedFunctions.indexBehind 0 (functions.map (·.1)) := by
  have indices : hoisted.entries.map (·.1) = (functions.map (·.1)).map (first + ·) := by
    rw [accounted.entries, List.map_map, ← @indices_renumberFunctions inlining.session.function]
    rfl
  rw [HoistedFunctions.next_of_trimmed trimmed, firstEqual, indices,
    HoistedFunctions.indexBehind_map_add]

theorem next_remaining
    (describes : draft.Describes inlining first state)
    (call : Call)
    (parameters : Option Span) :
    (Inlining.remaining state call parameters).next =
      first + HoistedFunctions.indexBehind 0
        ((draft.remaining inlining call parameters).map (·.1)) := by
  refine next_of_accounted (describes.accounted_remaining call parameters) ?_
    (Inlining.trimmed_discardAll describes.trimmed _)
  rw [Inlining.remaining, Inlining.first_discardAll, describes.firstEqual]

/-- A call becomes a call of the same function but for its number. -/
theorem replaceByCall
    (describes : draft.Describes inlining first state)
    (call : Call)
    (eligible : EligibleCall)
    (locale : String)
    (dynamic : pattern.constant? = none) :
    (draft.replaceByCall inlining call eligible.parameters
        ⟨inlining.session.function, locale, "", Renderer.compile pattern⟩).Describes inlining first
      (inlining.replaceCall state call eligible locale pattern) := by
  let function : RenderFunction :=
    ⟨inlining.session.function, locale, "", Renderer.compile pattern⟩
  rw [Inlining.replaceCall_of_dynamic dynamic]
  have left := describes.accounted_remaining call eligible.parameters
  have next := describes.next_remaining call eligible.parameters
  rw [Expansion.renumberAll_append] at left
  have called := left.call call.span eligible.parameters
    (Inlining.newFunction inlining state call eligible.parameters locale pattern) rfl
  rw [← describes.kept_eq, ← describes.before_eq] at called
  constructor
  · have expansions : Expansion.renumberAll (first + ·) (draft.replaceByCall inlining call
          eligible.parameters function).expansions =
        Expansion.renumberAll (first + ·) (draft.front call) ++
          [(call.span, .call (Inlining.remaining state call eligible.parameters).next
            eligible.parameters (Expansion.renumberAll (first + ·)
              (draft.kept inlining call eligible.parameters)))] := by
      simp [Draft.replaceByCall, Expansion.renumberAll, Expansion.renumber, next]
    have functions : renumberFunctions inlining.session.function (first + ·)
          (draft.replaceByCall inlining call eligible.parameters function).functions =
        renumberFunctions inlining.session.function (first + ·)
            (draft.remaining inlining call eligible.parameters) ++
          [((Inlining.remaining state call eligible.parameters).next,
            Inlining.newFunction inlining state call eligible.parameters locale pattern)] := by
      simp [Draft.replaceByCall, renumberFunctions, renumberFunction, Inlining.newFunction, next,
        function]
    rw [expansions, functions]
    exact called
  · simp [Inlining.remaining, describes.firstEqual]
  · exact HoistedFunctions.trimmed_push _ _
  · exact describes.folded
  · exact congrArg (· + 1) describes.replaced
  · exact describes.warnings

end Describes

/-! ### Runs -/

/-- A visit takes a draft to another one, wherever the numbering begins, or fails wherever it
does. -/
theorem exists_visit
    (inlining : Inlining)
    (draft : Draft)
    (call : Call) :
    (∃ next : Draft, ∀ first state, draft.Describes inlining first state →
      ∃ reached, inlining.visit state call = .ok reached ∧
        next.Describes inlining first reached) ∨
    ∃ error, ∀ first state, draft.Describes inlining first state →
      inlining.visit state call = .error error := by
  cases found : call.match? inlining.session.function draft.folded with
  | none =>
      refine .inl ⟨draft, fun first state describes => ⟨state, ?_, describes⟩⟩
      exact Inlining.visit_of_unmatched (describes.folded ▸ found)
  | some eligible =>
      cases compiled : inlining.effectivePattern call eligible.pattern
        (inlining.session.effectiveLocale eligible.locale) with
      | error error =>
          refine .inr ⟨error, fun first state describes => ?_⟩
          exact Inlining.visit_of_uncompiled (describes.folded ▸ found) compiled
      | ok effective =>
          left
          have visited {state : InliningState} (same : state.folded = draft.folded) :=
            Inlining.visit_of_compiled (same ▸ found) compiled
          let warnings := effective.unused.toList
          cases constant : effective.pattern.constant? with
          | some value =>
              exact ⟨_, fun first state describes => ⟨_, visited describes.folded,
                (describes.warn warnings).replaceByConstant call eligible _ constant⟩⟩
          | none =>
              exact ⟨_, fun first state describes => ⟨_, visited describes.folded,
                (describes.warn warnings).replaceByCall call eligible _ constant⟩⟩

/-- Runs over the same calls end with the same draft and the same error, if there is one. -/
theorem exists_visitAll
    (inlining : Inlining)
    (draft : Draft)
    (calls : List Call) :
    ∃ (final : Draft) (outcome : Option ExpansionError),
      ∀ first state, draft.Describes inlining first state →
        ∃ reached, inlining.visitAll state calls = (reached, outcome) ∧
          final.Describes inlining first reached := by
  induction calls generalizing draft with
  | nil => exact ⟨draft, none, fun first state describes => ⟨state, rfl, describes⟩⟩
  | cons call rest inductionHypothesis =>
      rcases exists_visit inlining draft call with ⟨next, step⟩ | ⟨error, fails⟩
      · obtain ⟨final, outcome, ran⟩ := inductionHypothesis next
        refine ⟨final, outcome, fun first state describes => ?_⟩
        obtain ⟨reached, visited, described⟩ := step first state describes
        rw [Inlining.visitAll, visited]
        exact ran first reached described
      · refine ⟨draft, some error, fun first state describes => ⟨state, ?_, describes⟩⟩
        rw [Inlining.visitAll, fails first state describes]

end Draft

end MessageExpansion
