import Mathlib.Tactic.Tauto
import MessageExpansion.Script.CallTree
import MessageExpansion.Proofs.Script.Places

/-!
# Calls that nest

The calls of a script lie inside each other or apart.  A traversal visits every call once and those
inside it before it; the order of calls that are apart is left open.  Whatever that order is, a call
that was visited earlier lies inside a later one or apart from it.
-/

namespace MessageExpansion
namespace Script

open Text (IsBoundary)

namespace Span

/-- The first stretch lies inside the second. -/
def isWithin (inner outer : Span) : Bool := outer.start ≤ inner.start && inner.stop ≤ outer.stop

/-- Two stretches have nothing in common. -/
def Apart (first second : Span) : Prop := first.stop ≤ second.start ∨ second.stop ≤ first.start

/-- The first stretch is a proper part of the second. -/
def Inside (inner outer : Span) : Prop :=
  outer.start ≤ inner.start ∧ inner.stop ≤ outer.stop ∧ inner ≠ outer

theorem Apart.symm
    {first second : Span}
    (apart : first.Apart second) :
    second.Apart first :=
  Or.symm apart

/-- Parts of stretches that are apart are apart. -/
theorem Apart.mono
    {first second part other : Span}
    (apart : first.Apart second)
    (startLe : first.start ≤ part.start)
    (stopLe : part.stop ≤ first.stop)
    (otherStartLe : second.start ≤ other.start)
    (otherStopLe : other.stop ≤ second.stop) :
    part.Apart other := by
  unfold Apart at apart ⊢
  omega

theorem isWithin_iff
    {inner outer : Span} :
    inner.isWithin outer = true ↔ outer.start ≤ inner.start ∧ inner.stop ≤ outer.stop := by
  simp [isWithin]

/-- Stretches with the same ends are equal. -/
theorem eq_of_le
    {first second : Span}
    (startLe : first.start ≤ second.start)
    (startGe : second.start ≤ first.start)
    (stopLe : first.stop ≤ second.stop)
    (stopGe : second.stop ≤ first.stop) :
    first = second := by
  cases first with
  | mk start stop =>
      cases second with
      | mk otherStart otherStop =>
          simp only at startLe startGe stopLe stopGe
          congr 1 <;> omega

end Span

/-! ### Calls and their arguments -/

/-- An argument lies in a stretch of a text, which can be cut at its ends. -/
structure Argument.Fits (text : List Char) (outer : Span) (argument : Argument) : Prop where
  start : IsBoundary text argument.span.start
  stop : IsBoundary text argument.span.stop
  le : argument.span.start ≤ argument.span.stop
  startLe : outer.start ≤ argument.span.start
  stopLe : argument.span.stop ≤ outer.stop
  /-- So does its expression without redundant parentheses. -/
  core : argument.core.isWithin argument.span = true

/-- A call takes up part of a text, which can be cut at its ends, and its arguments follow each
other inside it.  It ends with its closing parenthesis, and one of a variable begins with a
token. -/
structure Call.Fits (text : List Char) (call : Call) : Prop where
  start : IsBoundary text call.span.start
  stop : IsBoundary text call.span.stop
  nonempty : call.span.start < call.span.stop
  arguments : ∀ argument ∈ call.arguments, argument.Fits text call.span
  ordered : call.arguments.Pairwise fun first second => first.span.stop ≤ second.span.start
  closes : Closes text call.span.stop
  callee : ∀ name, call.callee = some name → IsNameText name.toList ∧ GoesOn text call.span.start

/-- Of two calls the first one was visited earlier: it is inside the second one or apart from it. -/
def Call.Precedes (earlier later : Call) : Prop :=
  earlier.span.Inside later.span ∨ earlier.span.Apart later.span

/-- No call covers one that is visited after it. -/
theorem Call.Precedes.not_isWithin
    {earlier later : Call}
    (precedes : earlier.Precedes later)
    (nonempty : later.span.start < later.span.stop) :
    ¬ later.span.isWithin earlier.span = true := by
  intro within
  obtain ⟨startLe, stopLe⟩ := Span.isWithin_iff.mp within
  rcases precedes with ⟨outerStart, outerStop, different⟩ | apart
  · exact different (Span.eq_of_le startLe outerStart outerStop stopLe)
  · unfold Span.Apart at apart
    omega

/-- A traversal of a script visits every call once, and no call after one that it is inside of. -/
structure Traversal (trees : List CallTree) (calls : List Call) : Prop where
  /-- The calls that are visited are those of the script. -/
  complete : calls.Perm (CallTree.visitsAll trees)
  /-- A call is visited after the calls inside it. -/
  innerFirst : calls.Pairwise fun earlier later => ¬ later.span.isWithin earlier.span

namespace CallTree

mutual

/-- Calls lie inside the calls around them, apart from each other and from the ends of arguments. -/
def Nests (text : List Char) : CallTree → Prop
  | .node call inner =>
      call.Fits text ∧ NestAll text inner ∧
        ∀ tree ∈ inner, tree.call.span.Inside call.span ∧
          ∀ argument ∈ call.arguments,
            tree.call.span.isWithin argument.span = true ∨ tree.call.span.Apart argument.span

/-- Every tree nests, and no two of them overlap. -/
def NestAll (text : List Char) : List CallTree → Prop
  | [] => True
  | tree :: rest =>
      Nests text tree ∧ (∀ later ∈ rest, tree.call.span.Apart later.call.span) ∧
        NestAll text rest

end

variable {text : List Char}

@[simp] theorem visitsAll_nil : visitsAll [] = [] := by
  rw [visitsAll]

@[simp] theorem visitsAll_cons
    (tree : CallTree)
    (rest : List CallTree) :
    visitsAll (tree :: rest) = visits tree ++ visitsAll rest := by
  rw [visitsAll]

@[simp] theorem visits_node
    (call : Call)
    (inner : List CallTree) :
    visits (.node call inner) = visitsAll inner ++ [call] := by
  rw [visits]

/-- Lists of trees nest when all trees do and no two of them overlap. -/
theorem nestAll_iff
    {trees : List CallTree} :
    NestAll text trees ↔ (∀ tree ∈ trees, Nests text tree) ∧
      trees.Pairwise fun first second => first.call.span.Apart second.call.span := by
  induction trees with
  | nil => simp [NestAll]
  | cons tree rest inductionHypothesis =>
      rw [NestAll, inductionHypothesis, List.forall_mem_cons, List.pairwise_cons]
      tauto

mutual

/-- Every call of a tree fits, between the ends of the outermost one. -/
theorem fits_of_mem_visits
    (tree : CallTree)
    (nests : Nests text tree) :
    ∀ call ∈ visits tree, call.Fits text ∧
      tree.call.span.start ≤ call.span.start ∧ call.span.stop ≤ tree.call.span.stop := by
  match tree with
  | .node outer inner =>
      rw [Nests] at nests
      obtain ⟨fits, later, inside⟩ := nests
      intro call present
      rw [visits_node, List.mem_append, List.mem_singleton] at present
      rcases present with inInner | rfl
      · obtain ⟨innerFits, tree, treePresent, startLe, stopLe⟩ :=
          fits_of_mem_visitsAll inner later call inInner
        obtain ⟨outerStart, outerStop, _⟩ := (inside tree treePresent).1
        exact ⟨innerFits, Nat.le_trans outerStart startLe, Nat.le_trans stopLe outerStop⟩
      · exact ⟨fits, Nat.le_refl _, Nat.le_refl _⟩

/-- Every call of a list of trees fits, between the ends of one of them. -/
theorem fits_of_mem_visitsAll
    (trees : List CallTree)
    (nests : NestAll text trees) :
    ∀ call ∈ visitsAll trees, call.Fits text ∧
      ∃ tree ∈ trees, tree.call.span.start ≤ call.span.start ∧
        call.span.stop ≤ tree.call.span.stop := by
  match trees with
  | [] => simp
  | tree :: rest =>
      rw [NestAll] at nests
      obtain ⟨first, _, later⟩ := nests
      intro call present
      rw [visitsAll_cons, List.mem_append] at present
      rcases present with inFirst | inRest
      · obtain ⟨fits, between⟩ := fits_of_mem_visits tree first call inFirst
        exact ⟨fits, tree, List.mem_cons_self, between⟩
      · obtain ⟨fits, found, foundPresent, between⟩ :=
          fits_of_mem_visitsAll rest later call inRest
        exact ⟨fits, found, List.mem_cons_of_mem _ foundPresent, between⟩

end

/-- The calls of the first one of some trees are apart from those of the others. -/
theorem apart_of_mem_visitsAll
    {tree : CallTree}
    {rest : List CallTree}
    (nests : NestAll text (tree :: rest))
    {left right : Call}
    (leftPresent : left ∈ visits tree)
    (rightPresent : right ∈ visitsAll rest) :
    left.span.Apart right.span := by
  rw [NestAll] at nests
  obtain ⟨first, apart, later⟩ := nests
  obtain ⟨_, leftStart, leftStop⟩ := fits_of_mem_visits tree first left leftPresent
  obtain ⟨_, other, otherPresent, startLe, stopLe⟩ :=
    fits_of_mem_visitsAll rest later right rightPresent
  exact (apart other otherPresent).mono leftStart leftStop startLe stopLe

mutual

/-- The calls of a tree are visited from the inside out. -/
theorem precedes_visits
    (tree : CallTree)
    (nests : Nests text tree) :
    (visits tree).Pairwise Call.Precedes := by
  match tree with
  | .node outer inner =>
      rw [Nests] at nests
      obtain ⟨_, later, inside⟩ := nests
      rw [visits_node, List.pairwise_append]
      refine ⟨precedes_visitsAll inner later, List.pairwise_singleton _ _, ?_⟩
      intro call present last lastPresent
      rw [List.mem_singleton] at lastPresent
      subst lastPresent
      left
      obtain ⟨_, tree, treePresent, startLe, stopLe⟩ :=
        fits_of_mem_visitsAll inner later call present
      obtain ⟨outerStart, outerStop, different⟩ := (inside tree treePresent).1
      refine ⟨Nat.le_trans outerStart startLe, Nat.le_trans stopLe outerStop, ?_⟩
      -- A call that covers the outer one covers the tree between them, which is smaller.
      intro equal
      apply different
      rw [equal] at startLe stopLe
      exact Span.eq_of_le startLe outerStart outerStop stopLe

/-- The calls of trees are visited from the inside out, tree by tree. -/
theorem precedes_visitsAll
    (trees : List CallTree)
    (nests : NestAll text trees) :
    (visitsAll trees).Pairwise Call.Precedes := by
  match trees with
  | [] => simp
  | tree :: rest =>
      have parts := nests
      rw [NestAll] at parts
      rw [visitsAll_cons, List.pairwise_append]
      refine ⟨precedes_visits tree parts.1, precedes_visitsAll rest parts.2.2, ?_⟩
      intro left leftPresent right rightPresent
      exact Or.inr (apart_of_mem_visitsAll nests leftPresent rightPresent)

end

end CallTree

namespace Traversal

variable {text : List Char} {trees : List CallTree} {calls : List Call}

/-- The calls of a script are visited from the inside out in every traversal. -/
theorem precedes
    (traversal : Traversal trees calls)
    (nests : CallTree.NestAll text trees) :
    calls.Pairwise Call.Precedes := by
  -- Of two calls either one is inside the other or they are apart, whatever the order.
  have related : calls.Pairwise fun first second =>
      first.Precedes second ∨ second.Precedes first := by
    refine (traversal.complete.pairwise_iff fun either => Or.symm either).mpr ?_
    exact (CallTree.precedes_visitsAll trees nests).imp fun precedes => Or.inl precedes
  refine (related.and traversal.innerFirst).imp ?_
  rintro earlier later ⟨precedes | inside | apart, notInside⟩
  · exact precedes
  · exact absurd (Span.isWithin_iff.mpr ⟨inside.1, inside.2.1⟩) notInside
  · exact Or.inr apart.symm

/-- The order in which the calls of a script are listed is that of a traversal. -/
theorem visitsAll
    (nests : CallTree.NestAll text trees) :
    Traversal trees (CallTree.visitsAll trees) := by
  refine ⟨List.Perm.refl _, ?_⟩
  refine (CallTree.precedes_visitsAll trees nests).imp_of_mem ?_
  intro earlier later _ laterPresent precedes
  exact precedes.not_isWithin
    (CallTree.fits_of_mem_visitsAll trees nests later laterPresent).1.nonempty

end Traversal
end Script
end MessageExpansion
