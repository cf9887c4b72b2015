import MessageExpansion.Expansion.Inline

/-!
# Expansions of calls

What a call is replaced by, as a tree: a constant, or a call of a generated function whose
parameters hold further expansions.  The tree says where a replacement's text comes from, which the
text itself does not: a script may spell the name of a generated function on its own.
-/

namespace MessageExpansion

open Script (Span)

/-- What a call is replaced by. -/
inductive Expansion where
  /-- A string literal. -/
  | constant (value : String)
  /-- A call of the generated function `index`.  It is passed the text of the stretch `parameters`
  in which the calls in the stretches of `nested` are replaced in turn. -/
  | call (index : Nat) (parameters : Option Span) (nested : List (Span × Expansion))

namespace Expansion

mutual

/-- The text of an expansion. -/
def text (inlining : Inlining) : Expansion → List Char
  | constant value => (Text.stringLiteral value).toList
  | call index parameters nested =>
      (generatedName inlining.session.function index).toList ++
        '(' ::
          (match parameters with
            | some span => splice inlining.script span.start span.stop (edits inlining nested)
            | none => "null".toList) ++
        [')']

/-- The edits that put expansions in the place of their calls. -/
def edits (inlining : Inlining) : List (Span × Expansion) → List Edit
  | [] => []
  | (span, expansion) :: rest =>
      ⟨span.start, span.stop, text inlining expansion⟩ :: edits inlining rest

end

mutual

/-- The indices of the functions that an expansion calls, once for each call. -/
def indices : Expansion → List Nat
  | constant _ => []
  | call index _ nested => indicesAll nested ++ [index]

/-- The indices of the functions that expansions call, once for each call. -/
def indicesAll : List (Span × Expansion) → List Nat
  | [] => []
  | (_, expansion) :: rest => indices expansion ++ indicesAll rest

end

/-- The replacement that puts an expansion in the place of its call. -/
def replacement (inlining : Inlining) (expanded : Span × Expansion) : Replacement :=
  ⟨⟨expanded.1.start, expanded.1.stop, text inlining expanded.2⟩, indices expanded.2⟩

theorem edits_eq_map
    (inlining : Inlining)
    (expansions : List (Span × Expansion)) :
    edits inlining expansions = (expansions.map (replacement inlining)).map (·.edit) := by
  induction expansions with
  | nil => simp [edits]
  | cons expanded rest inductionHypothesis =>
      simp [edits, inductionHypothesis, replacement]

theorem indicesAll_eq_flatMap
    (inlining : Inlining)
    (expansions : List (Span × Expansion)) :
    indicesAll expansions =
      (expansions.map (replacement inlining)).flatMap (·.functions) := by
  induction expansions with
  | nil => simp [indicesAll]
  | cons expanded rest inductionHypothesis =>
      simp [indicesAll, inductionHypothesis, replacement]

@[simp] theorem indicesAll_nil : indicesAll [] = [] := by
  rw [indicesAll]

@[simp] theorem indicesAll_append
    (first second : List (Span × Expansion)) :
    indicesAll (first ++ second) = indicesAll first ++ indicesAll second := by
  induction first with
  | nil => simp
  | cons expanded rest inductionHypothesis => simp [indicesAll, inductionHypothesis]

/-- A constant in the place of a call. -/
theorem replacement_constant
    (inlining : Inlining)
    (span : Span)
    (value : String) :
    replacement inlining (span, constant value) =
      ⟨⟨span.start, span.stop, (Text.stringLiteral value).toList⟩, []⟩ := by
  simp [replacement, text, indices]

/-- A call of a generated function in the place of a call. -/
theorem replacement_call
    (inlining : Inlining)
    (span : Span)
    (index : Nat)
    (parameters : Option Span)
    (nested : List (Span × Expansion)) :
    replacement inlining (span, call index parameters nested) =
      ⟨⟨span.start, span.stop,
          (generatedName inlining.session.function index).toList ++
            '(' :: inlining.parametersText parameters (nested.map (replacement inlining)) ++
            [')']⟩,
        (nested.map (replacement inlining)).flatMap (·.functions) ++ [index]⟩ := by
  cases parameters with
  | none =>
      rw [replacement, text, indices, indicesAll_eq_flatMap inlining]
      rfl
  | some stretch =>
      rw [replacement, text, indices, indicesAll_eq_flatMap inlining, edits_eq_map]
      rfl

end Expansion
end MessageExpansion
