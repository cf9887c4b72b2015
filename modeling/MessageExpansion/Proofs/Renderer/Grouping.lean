import MessageExpansion.Proofs.Pattern.Elements
import MessageExpansion.Proofs.Renderer.Translation
import MessageExpansion.Renderer.Compilation

/-!
# Compiled patterns are grouped

Compilation writes no parentheses.  It needs none: it joins operands only, and takes a number off
a variable only.
-/

namespace MessageExpansion
namespace Renderer

/-! ### Options -/

theorem Cases.isGrouped_ofList
    {cases : List (String × Expression)}
    (grouped : ∀ option ∈ cases, option.2.IsGrouped) :
    (ofList cases).IsGrouped := by
  induction cases with
  | nil => trivial
  | cons option rest inductionHypothesis =>
      rw [List.forall_mem_cons] at grouped
      exact ⟨grouped.1, inductionHypothesis grouped.2⟩

theorem Cases.labels_ofList
    (cases : List (String × Expression)) :
    (ofList cases).labels = cases.map (·.1) := by
  induction cases with
  | nil => rfl
  | cons option rest inductionHypothesis =>
      rw [List.map_cons, ← inductionHypothesis]
      rfl

theorem isGrouped_otherwise
    {results : List Expression}
    (grouped : ∀ result ∈ results, result.IsGrouped) :
    (otherwise results).IsGrouped := by
  unfold otherwise
  cases last : results.getLast? with
  | none => trivial
  | some result => exact grouped result (List.mem_of_getLast? last)

theorem isGrouped_testAll
    {subject : Variable}
    {rest : Body}
    {results : List (UInt64 × Expression)}
    (grouped : ∀ result ∈ results, result.2.IsGrouped)
    (restGrouped : rest.IsGrouped) :
    (testAll subject rest results).IsGrouped := by
  induction results with
  | nil => exact restGrouped
  | cons result results inductionHypothesis =>
      rw [List.forall_mem_cons] at grouped
      exact ⟨grouped.1, inductionHypothesis grouped.2⟩

theorem Enclosing.isGrouped_difference
    (enclosing : Enclosing) :
    enclosing.difference.IsGrouped := by
  unfold difference
  split <;> trivial

theorem isGrouped_pluralValue
    (enclosing : Option Enclosing) :
    (pluralValue enclosing).IsGrouped ∧ (pluralValue enclosing).isOperand = true := by
  cases enclosing with
  | none => exact ⟨trivial, rfl⟩
  | some enclosing => exact ⟨enclosing.isGrouped_difference, rfl⟩

theorem mem_of_mem_exactResults
    {options : List (PluralSelector × Expression)}
    {result : UInt64 × Expression}
    (member : result ∈ exactResults options) :
    (.exact result.1, result.2) ∈ options := by
  obtain ⟨⟨selector, expression⟩, present, equal⟩ := List.mem_filterMap.mp member
  cases selector with
  | exact value =>
      cases equal
      exact present
  | category name => cases equal

theorem mem_of_mem_categoryResults
    {options : List (PluralSelector × Expression)}
    {result : String × Expression}
    (member : result ∈ categoryResults options) :
    (.category result.1, result.2) ∈ options := by
  obtain ⟨⟨selector, expression⟩, present, equal⟩ := List.mem_filterMap.mp member
  cases selector with
  | exact value => cases equal
  | category name =>
      dsimp only at equal
      split at equal
      · cases equal
      · cases equal
        exact present

theorem exists_of_mem_otherResults
    {options : List (PluralSelector × Expression)}
    {result : Expression}
    (member : result ∈ otherResults options) :
    ∃ selector, (selector, result) ∈ options := by
  obtain ⟨⟨selector, expression⟩, present, equal⟩ := List.mem_filterMap.mp member
  dsimp only at equal
  split at equal
  · cases equal
    exact ⟨selector, present⟩
  · cases equal

theorem isGrouped_pluralBody
    {options : List (PluralSelector × Expression)}
    (enclosing : Enclosing)
    (ordinal : Bool)
    (known : ∀ option ∈ options, option.1.IsKnown ∧ option.2.IsGrouped) :
    (pluralBody enclosing ordinal options).IsGrouped := by
  have exact : ∀ result ∈ exactResults options, result.2.IsGrouped := by
    intro result member
    exact (known _ (mem_of_mem_exactResults member)).2
  have categories : ∀ result ∈ categoryResults options,
      result.2.IsGrouped ∧ result.1 ∈ PluralSelector.categories := by
    intro result member
    exact (known _ (mem_of_mem_categoryResults member)).symm
  have others : (otherwise (otherResults options)).IsGrouped := by
    refine isGrouped_otherwise fun result member => ?_
    obtain ⟨selector, present⟩ := exists_of_mem_otherResults member
    exact (known _ present).2
  refine isGrouped_testAll exact ?_
  split
  · exact others
  · refine ⟨enclosing.isGrouped_difference,
      Cases.isGrouped_ofList fun option member => ?_, others, ?_⟩
    · exact (categories option member).1
    · rw [Cases.labels_ofList]
      intro label member
      obtain ⟨option, present, rfl⟩ := List.mem_map.mp member
      exact (categories option present).2

theorem isGrouped_selectBody
    {options : List (String × Expression)}
    (subject : Variable)
    (grouped : ∀ option ∈ options, option.2.IsGrouped) :
    (selectBody subject options).IsGrouped := by
  refine ⟨trivial, Cases.isGrouped_ofList fun option member => ?_,
    isGrouped_otherwise fun result member => ?_⟩
  · exact grouped option (List.mem_filter.mp member).1
  · obtain ⟨option, present, rfl⟩ := List.mem_map.mp member
    exact grouped option (List.mem_filter.mp present).1

/-! ### Patterns -/

mutual

theorem isGrouped_compileElement
    (enclosing : Option Enclosing)
    (next : Nat) :
    (element : Element) → element.HasCategories →
      (compileElement enclosing next element).1.IsGrouped ∧
        (compileElement enclosing next element).1.isOperand = true
  | .text _, _ => ⟨trivial, rfl⟩
  | .argument _, _ => ⟨trivial, rfl⟩
  | .number _ _, _ => ⟨trivial, rfl⟩
  | .date _ _, _ => ⟨trivial, rfl⟩
  | .time _ _, _ => ⟨trivial, rfl⟩
  | .pluralValue, _ => isGrouped_pluralValue enclosing
  | .plural name ordinal _ options, named =>
      ⟨⟨isGrouped_pluralBody _ ordinal
        (isGrouped_compilePluralOptions _ (next + 1) options named), name, rfl⟩, rfl⟩
  | .select _ options, named =>
      ⟨⟨isGrouped_selectBody _
        (isGrouped_compileSelectOptions enclosing (next + 1) options named), trivial⟩, rfl⟩

theorem isGrouped_compileAfter
    (enclosing : Option Enclosing)
    (next : Nat)
    (front : Expression)
    (frontGrouped : front.IsGrouped) :
    (elements : List Element) → Pattern.HasCategories elements →
      (compileAfter enclosing next front elements).1.IsGrouped
  | [], _ => frontGrouped
  | element :: rest, ⟨named, restNamed⟩ =>
      have back := isGrouped_compileElement enclosing next element named
      isGrouped_compileAfter enclosing _ (.concatenation front _) ⟨frontGrouped, back⟩ rest restNamed

theorem isGrouped_compilePattern
    (enclosing : Option Enclosing)
    (next : Nat) :
    (pattern : List Element) → Pattern.HasCategories pattern →
      (compilePattern enclosing next pattern).1.IsGrouped
  | [], _ => trivial
  | element :: rest, ⟨named, restNamed⟩ =>
      have front := isGrouped_compileElement enclosing next element named
      isGrouped_compileAfter enclosing _ _ front.1 rest restNamed

theorem isGrouped_compilePluralOptions
    (enclosing : Option Enclosing)
    (next : Nat) :
    (options : List PluralOption) → PluralOption.AllHaveCategories options →
      ∀ option ∈ (compilePluralOptions enclosing next options).1,
        option.1.IsKnown ∧ option.2.IsGrouped
  | [], _ => fun _ member => absurd member List.not_mem_nil
  | .mk _ value :: rest, ⟨known, named, restNamed⟩ =>
      List.forall_mem_cons.mpr
        ⟨⟨known, isGrouped_compilePattern enclosing next value named⟩,
          isGrouped_compilePluralOptions enclosing _ rest restNamed⟩

theorem isGrouped_compileSelectOptions
    (enclosing : Option Enclosing)
    (next : Nat) :
    (options : List SelectOption) → SelectOption.AllHaveCategories options →
      ∀ option ∈ (compileSelectOptions enclosing next options).1, option.2.IsGrouped
  | [], _ => fun _ member => absurd member List.not_mem_nil
  | .mk _ value :: rest, ⟨named, restNamed⟩ =>
      List.forall_mem_cons.mpr
        ⟨isGrouped_compilePattern enclosing next value named,
          isGrouped_compileSelectOptions enclosing _ rest restNamed⟩

end

/-- Every pattern that can be read compiles to a renderer whose text has its structure. -/
theorem isGrouped_compile
    {pattern : Pattern}
    (named : Pattern.HasCategories pattern) :
    (compile pattern).IsGrouped :=
  isGrouped_compilePattern none 0 pattern named

end Renderer
end MessageExpansion
