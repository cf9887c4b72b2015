/-!
# Sorting what is gathered in parts

Sorting keeps the order of members that compare as equal.  So the sorted list depends only on the
members, and on the order of those that compare as equal.  When only members of one part can compare
as equal, the order in which the parts are gathered does not matter.
-/

namespace MessageExpansion
namespace Sorting

variable {α : Type} {order : α → α → Ordering} [Std.TransCmp order]

/-- The first of two members is listed no later than the second. -/
def isUpTo (order : α → α → Ordering) (first second : α) : Bool := (order first second).isLE

/-- Two members compare as equal. -/
def ties (order : α → α → Ordering) (first second : α) : Bool := order first second == .eq

theorem isUpTo_trans
    (first second third : α)
    (start : isUpTo order first second = true)
    (finish : isUpTo order second third = true) :
    isUpTo order first third = true :=
  Std.TransCmp.isLE_trans start finish

theorem isUpTo_total
    (first second : α) :
    (isUpTo order first second || isUpTo order second first) = true := by
  have swapped : order second first = (order first second).swap := Std.OrientedCmp.eq_swap
  unfold isUpTo
  rw [swapped]
  cases order first second <;> rfl

@[simp] theorem ties_self
    (member : α) :
    ties order member member = true := by
  simp [ties, Std.ReflCmp.compare_self]

/-- Members tie when each is listed no later than the other. -/
theorem ties_iff
    {first second : α} :
    ties order first second = true ↔
      isUpTo order first second = true ∧ isUpTo order second first = true := by
  have swapped : order second first = (order first second).swap := Std.OrientedCmp.eq_swap
  unfold ties isUpTo
  rw [swapped]
  cases order first second <;> decide

/-- Members that tie with one member tie with each other. -/
theorem pairwise_filter_ties
    (member : α)
    (list : List α) :
    (list.filter (ties order member)).Pairwise fun first second =>
      isUpTo order first second = true := by
  refine List.Pairwise.imp_of_mem (R := fun _ _ => True) ?_ (List.pairwise_of_forall fun _ _ => trivial)
  intro first second firstPresent secondPresent _
  have firstTies := ties_iff.mp (List.mem_filter.mp firstPresent).2
  have secondTies := ties_iff.mp (List.mem_filter.mp secondPresent).2
  exact isUpTo_trans first member second firstTies.2 secondTies.1

/-- Sorting keeps the order of members that tie. -/
theorem filter_mergeSort
    (member : α)
    (list : List α) :
    (list.mergeSort (isUpTo order)).filter (ties order member) =
      list.filter (ties order member) := by
  have kept : (list.filter (ties order member)).Sublist (list.mergeSort (isUpTo order)) :=
    List.sublist_mergeSort isUpTo_trans isUpTo_total (pairwise_filter_ties member list)
      List.filter_sublist
  have among := kept.filter (ties order member)
  rw [List.filter_filter] at among
  simp only [Bool.and_self] at among
  refine (among.eq_of_length ?_).symm
  exact ((List.mergeSort_perm list _).filter _).length_eq.symm

/-- Every member of a list is among those that tie with it. -/
theorem mem_of_filter_ties
    {first second : List α}
    (same : ∀ member, first.filter (ties order member) = second.filter (ties order member))
    {member : α}
    (present : member ∈ first) :
    member ∈ second := by
  have tied : member ∈ first.filter (ties order member) :=
    List.mem_filter.mpr ⟨present, ties_self member⟩
  rw [same] at tied
  exact (List.mem_filter.mp tied).1

/-- The head of a sorted list is listed no later than its members. -/
theorem isUpTo_of_mem
    {head member : α}
    {rest : List α}
    (sorted : (head :: rest).Pairwise fun earlier later => isUpTo order earlier later = true)
    (present : member ∈ head :: rest) :
    isUpTo order head member = true := by
  rcases List.mem_cons.mp present with rfl | later
  · exact (ties_iff.mp (ties_self member)).1
  · exact List.rel_of_pairwise_cons sorted later

/-- Sorted lists are equal if the members that tie with any one are the same, in the same order. -/
theorem eq_of_filter_ties
    {first second : List α}
    (firstSorted : first.Pairwise fun earlier later => isUpTo order earlier later = true)
    (secondSorted : second.Pairwise fun earlier later => isUpTo order earlier later = true)
    (same : ∀ member, first.filter (ties order member) = second.filter (ties order member)) :
    first = second := by
  induction first generalizing second with
  | nil =>
      have none : ∀ member, member ∉ second := fun member present =>
        List.not_mem_nil (mem_of_filter_ties (fun member => (same member).symm) present)
      exact (List.eq_nil_iff_forall_not_mem.mpr none).symm
  | cons head rest inductionHypothesis =>
      have headPresent := mem_of_filter_ties same List.mem_cons_self
      cases second with
      | nil => cases headPresent
      | cons other more =>
          have otherPresent :=
            mem_of_filter_ties (fun member => (same member).symm) List.mem_cons_self
          -- The heads tie, so both are the first of those that tie with them.
          have tied : ties order head other = true :=
            ties_iff.mpr ⟨isUpTo_of_mem firstSorted otherPresent,
              isUpTo_of_mem secondSorted headPresent⟩
          have heads := same head
          rw [List.filter_cons_of_pos (ties_self head), List.filter_cons_of_pos tied,
            List.cons.injEq] at heads
          obtain ⟨rfl, -⟩ := heads
          refine congrArg (head :: ·)
            (inductionHypothesis firstSorted.of_cons secondSorted.of_cons ?_)
          intro member
          have filtered := same member
          rw [List.filter_cons, List.filter_cons] at filtered
          split at filtered
          · exact (List.cons.inj filtered).2
          · exact filtered

/-- The sorted list depends on the order of members that tie only. -/
theorem mergeSort_congr
    {first second : List α}
    (same : ∀ member, first.filter (ties order member) = second.filter (ties order member)) :
    first.mergeSort (isUpTo order) = second.mergeSort (isUpTo order) := by
  refine eq_of_filter_ties (List.pairwise_mergeSort isUpTo_trans isUpTo_total first)
    (List.pairwise_mergeSort isUpTo_trans isUpTo_total second) fun member => ?_
  rw [filter_mergeSort, filter_mergeSort, same]

/-- The order in which parts are gathered does not matter to the sorted list, if members tie only
within one part. -/
theorem mergeSort_flatMap_of_perm
    (order : α → α → Ordering)
    [Std.TransCmp order]
    {part key : Type}
    {members : part → List α}
    {keyOf : part → key}
    {keyOfMember : α → key}
    {parts others : List part}
    (own : ∀ part, ∀ member ∈ members part, keyOfMember member = keyOf part)
    (tied : ∀ first second, ties order first second = true →
      keyOfMember first = keyOfMember second)
    (apart : (parts.map keyOf).Nodup)
    (perm : parts.Perm others) :
    (parts.flatMap members).mergeSort (isUpTo order) =
      (others.flatMap members).mergeSort (isUpTo order) := by
  refine mergeSort_congr fun member => ?_
  -- What ties with the member comes from the part with its key.
  have elsewhere (part : part) (different : keyOfMember member ≠ keyOf part) :
      (members part).filter (ties order member) = [] := by
    rw [List.filter_eq_nil_iff]
    intro found present ties
    exact different ((tied member found ties).trans (own part found present))
  induction perm with
  | nil => rfl
  | cons part _ inductionHypothesis =>
      rw [List.map_cons, List.nodup_cons] at apart
      simp only [List.flatMap_cons, List.filter_append, inductionHypothesis apart.2]
  | swap first second rest =>
      rw [List.map_cons, List.map_cons, List.nodup_cons, List.mem_cons, not_or] at apart
      simp only [List.flatMap_cons, List.filter_append, ← List.append_assoc]
      by_cases inSecond : keyOfMember member = keyOf second
      · have notInFirst : keyOfMember member ≠ keyOf first := fun inFirst =>
          apart.1.1 (inSecond.symm.trans inFirst)
        simp [elsewhere first notInFirst]
      · simp [elsewhere second inSecond]
  | trans firstPerm _ firstHypothesis secondHypothesis =>
      exact (firstHypothesis apart).trans
        (secondHypothesis ((firstPerm.map keyOf).nodup apart))

end Sorting
end MessageExpansion
