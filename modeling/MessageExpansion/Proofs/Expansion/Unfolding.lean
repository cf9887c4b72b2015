import MessageExpansion.Proofs.Expansion.Accounting
import MessageExpansion.Proofs.Expansion.Survival

/-!
# Inlining by recursion

What inlining comes to when calls are replaced in the order of the text, said by recursion over the
calls of a script.  A call that is not eligible is copied with the expansions inside it.  An
eligible one becomes a literal, or a call of a function that is passed its parameters with the
expansions inside them.  What is known about an argument depends only on the calls inside the call.
-/

namespace MessageExpansion

open Script (Span Call CallTree Traversal)
open HoistedFunctions (indexBehind)

/-- What calls are expanded to, and what the expansions rest on. -/
structure Unfolded where
  /-- The outermost eligible calls with their expansions. -/
  calls : List (Span × Expansion)
  /-- The functions that the expansions call. -/
  functions : List (Nat × RenderFunction)
  /-- The values of the calls that turned out to be constant. -/
  constants : FoldedConstants

namespace Unfolded

/-- Nothing to expand. -/
def empty : Unfolded := ⟨[], [], []⟩

/-- The expansions of calls and of later ones. -/
def append (first later : Unfolded) : Unfolded :=
  ⟨first.calls ++ later.calls, first.functions ++ later.functions,
    later.constants ++ first.constants⟩

end Unfolded

/-- An expanded call lies inside a stretch. -/
def Expansion.isInside (span : Option Span) (expanded : Span × Expansion) : Bool :=
  match span with
  | some span => expanded.1.isWithin span
  | none => false

namespace Inlining

/-- Expand a call around others.  A function that it needs gets the next index behind those of the
functions that its parameters call. -/
def unfoldCall (inlining : Inlining) (next : Nat) (call : Call) (inside : Unfolded) :
    Except ExpansionError Unfolded :=
  match call.match? inlining.session.function inside.constants with
  | none => .ok inside
  | some eligible =>
      let locale := inlining.session.effectiveLocale eligible.locale
      match inlining.effectivePattern call eligible.pattern locale with
      | .error error => .error error
      | .ok effective =>
          match effective.pattern.constant? with
          | some value =>
              .ok ⟨[(call.span, .constant value)], [], (call.span, value) :: inside.constants⟩
          | none =>
              let host := inlining.session.function
              let nested := inside.calls.filter (Expansion.isInside eligible.parameters)
              let functions := inside.functions.filter fun entry =>
                entry.1 ∈ Expansion.indicesAll nested
              let index := indexBehind next (functions.map (·.1))
              let function : RenderFunction :=
                ⟨host, locale, generatedName host index, Renderer.compile effective.pattern⟩
              .ok ⟨[(call.span, .call index eligible.parameters nested)],
                functions ++ [(index, function)], inside.constants⟩

mutual

/-- Expand the calls of a tree.  Functions get indices from `next` on. -/
def unfold (inlining : Inlining) (next : Nat) : CallTree → Except ExpansionError Unfolded
  | .node call inner =>
      match inlining.unfoldAll next inner with
      | .ok inside => inlining.unfoldCall next call inside
      | .error error => .error error

/-- Expand the calls of a list of trees. -/
def unfoldAll (inlining : Inlining) (next : Nat) :
    List CallTree → Except ExpansionError Unfolded
  | [] => .ok .empty
  | tree :: rest =>
      match inlining.unfold next tree with
      | .ok first =>
          match inlining.unfoldAll (indexBehind next (first.functions.map (·.1))) rest with
          | .ok later => .ok (first.append later)
          | .error error => .error error
      | .error error => .error error

end

end Inlining

mutual

/-- Wherever an expansion passes parameters, they are the text of their stretch with the nested
expansions in the places of their calls, and nothing else changed. -/
def Expansion.InPlace (inlining : Inlining) : Expansion → Prop
  | .constant _ => True
  | .call _ none nested => nested = []
  | .call _ (some span) nested =>
      Edited span.start (Text.slice span.start span.stop inlining.script)
          (Expansion.edits inlining nested)
          (splice inlining.script span.start span.stop (Expansion.edits inlining nested)) ∧
        Expansion.AllInPlace inlining nested

/-- All expansions pass parameters that are edited in place. -/
def Expansion.AllInPlace (inlining : Inlining) : List (Span × Expansion) → Prop
  | [] => True
  | (_, expansion) :: rest => expansion.InPlace inlining ∧ Expansion.AllInPlace inlining rest

end

end MessageExpansion
