import MessageExpansion.HoistedFunctions

/-!
# Live functions

The functions that were hoisted and not discarded, each with its index.  Pushing adds one with the
next index, discarding removes the one of an index, and no other index changes.  As long as no empty
slot stands at the end, the next index is the one behind the last live function.
-/

namespace MessageExpansion
namespace HoistedFunctions

/-- The declarations in slots with their indices, counted from an index on. -/
def entriesFrom : (index : Nat) → List (Option String) → List (Nat × String)
  | _, [] => []
  | index, none :: rest => entriesFrom (index + 1) rest
  | index, some declaration :: rest => (index, declaration) :: entriesFrom (index + 1) rest

/-- The live functions: their declarations with their indices. -/
def entries (functions : HoistedFunctions) : List (Nat × String) :=
  entriesFrom functions.first functions.slots

/-- No empty slot stands at the end. -/
def Trimmed (functions : HoistedFunctions) : Prop := functions.slots.getLast? ≠ some none

/-! ### Slots -/

theorem entriesFrom_append
    (index : Nat)
    (front back : List (Option String)) :
    entriesFrom index (front ++ back) =
      entriesFrom index front ++ entriesFrom (index + front.length) back := by
  induction front generalizing index with
  | nil => rfl
  | cons slot rest inductionHypothesis =>
      have further : index + (rest.length + 1) = index + 1 + rest.length := by omega
      cases slot <;>
        simp [entriesFrom, inductionHypothesis, further]

/-- Live functions stand in the order of their indices, in slots that exist. -/
theorem entriesFrom_ascending
    (index : Nat)
    (slots : List (Option String)) :
    (∀ entry ∈ entriesFrom index slots, index ≤ entry.1 ∧ entry.1 < index + slots.length) ∧
      (entriesFrom index slots).Pairwise fun first second => first.1 < second.1 := by
  induction slots generalizing index with
  | nil => simp [entriesFrom]
  | cons slot rest inductionHypothesis =>
      obtain ⟨within, ascending⟩ := inductionHypothesis (index + 1)
      have later : ∀ entry ∈ entriesFrom (index + 1) rest,
          index ≤ entry.1 ∧ entry.1 < index + (rest.length + 1) := by
        intro entry present
        have between := within entry present
        omega
      cases slot with
      | none => exact ⟨later, ascending⟩
      | some declaration =>
          simp only [entriesFrom, List.forall_mem_cons, List.pairwise_cons, List.length_cons]
          refine ⟨⟨by omega, later⟩, ?_, ascending⟩
          intro entry present
          have between := within entry present
          omega

/-- Emptying a slot removes the entry of its index. -/
theorem entriesFrom_set_none
    (index : Nat)
    (slots : List (Option String))
    (position : Nat) :
    entriesFrom index (slots.set position none) =
      (entriesFrom index slots).filter (·.1 != index + position) := by
  induction slots generalizing index position with
  | nil => rfl
  | cons slot rest inductionHypothesis =>
      cases position with
      | zero =>
          -- The entries behind the first slot have other indices.
          have others : (entriesFrom (index + 1) rest).filter (·.1 != index) =
              entriesFrom (index + 1) rest := by
            rw [List.filter_eq_self]
            intro entry present
            have between := (entriesFrom_ascending (index + 1) rest).1 entry present
            simp only [bne_iff_ne, ne_eq]
            omega
          cases slot <;> simp [entriesFrom, others]
      | succ position =>
          have further : index + (position + 1) = index + 1 + position := by omega
          have different : index ≠ index + 1 + position := by omega
          cases slot <;>
            simp [entriesFrom, inductionHypothesis, further, different]

/-- Trimming loses no function. -/
theorem entriesFrom_trimSlots
    (index : Nat)
    (slots : List (Option String)) :
    entriesFrom index (trimSlots slots) = entriesFrom index slots := by
  induction slots generalizing index with
  | nil => rfl
  | cons slot rest inductionHypothesis =>
      have tail := inductionHypothesis (index + 1)
      rw [trimSlots]
      split
      · next empty =>
          rw [empty] at tail
          cases slot <;> simp_all [entriesFrom]
      · cases slot <;> simp [entriesFrom, tail]

/-- Trimmed slots have no empty one at the end. -/
theorem getLast?_trimSlots
    (slots : List (Option String)) :
    (trimSlots slots).getLast? ≠ some none := by
  induction slots with
  | nil => simp [trimSlots]
  | cons slot rest inductionHypothesis =>
      rw [trimSlots]
      split
      · cases slot <;> simp
      · next kept notEmpty =>
          cases trimmed : trimSlots rest with
          | nil => exact absurd trimmed notEmpty
          | cons first more =>
              rw [trimmed] at inductionHypothesis
              rw [List.getLast?_cons_cons]
              exact inductionHypothesis

/-! ### Operations -/

@[simp] theorem entries_startingAt
    (first : Nat) :
    (startingAt first).entries = [] := rfl

@[simp] theorem entries_push
    (functions : HoistedFunctions)
    (declaration : String) :
    (functions.push declaration).entries =
      functions.entries ++ [(functions.next, declaration)] :=
  entriesFrom_append functions.first functions.slots [some declaration]

@[simp] theorem entries_discard
    (functions : HoistedFunctions)
    (index : Nat) :
    (functions.discard index).entries = functions.entries.filter (·.1 != index) := by
  unfold entries discard
  rw [entriesFrom_trimSlots]
  unfold clear
  split
  · next le =>
      have position : functions.first + (index - functions.first) = index := by omega
      rw [entriesFrom_set_none, position]
  · next lt =>
      symm
      rw [List.filter_eq_self]
      intro entry present
      have between :=
        (entriesFrom_ascending functions.first functions.slots).1 entry present
      simp only [bne_iff_ne, ne_eq]
      omega

@[simp] theorem first_push
    (functions : HoistedFunctions)
    (declaration : String) :
    (functions.push declaration).first = functions.first := rfl

@[simp] theorem first_discard
    (functions : HoistedFunctions)
    (index : Nat) :
    (functions.discard index).first = functions.first := rfl

theorem trimmed_startingAt
    (first : Nat) :
    (startingAt first).Trimmed := by
  simp [Trimmed, startingAt]

theorem trimmed_push
    (functions : HoistedFunctions)
    (declaration : String) :
    (functions.push declaration).Trimmed := by
  simp [Trimmed, push]

theorem trimmed_discard
    (functions : HoistedFunctions)
    (index : Nat) :
    (functions.discard index).Trimmed :=
  getLast?_trimSlots _

/-- Live functions have indices between the first and the next one. -/
theorem index_of_mem_entries
    {functions : HoistedFunctions}
    {entry : Nat × String}
    (present : entry ∈ functions.entries) :
    functions.first ≤ entry.1 ∧ entry.1 < functions.next :=
  (entriesFrom_ascending functions.first functions.slots).1 entry present

/-- No two live functions have the same index. -/
theorem ascending_entries
    (functions : HoistedFunctions) :
    functions.entries.Pairwise fun first second => first.1 < second.1 :=
  (entriesFrom_ascending functions.first functions.slots).2

/-- The declarations of the live functions, in order. -/
theorem declarations_eq
    (functions : HoistedFunctions) :
    functions.declarations = functions.entries.map (·.2) := by
  unfold declarations entries
  generalize functions.first = index
  induction functions.slots generalizing index with
  | nil => rfl
  | cons slot rest inductionHypothesis =>
      cases slot <;> simp [entriesFrom, ← inductionHypothesis (index + 1)]

/-- The index behind the last of some live functions, or the first one if there are none. -/
def indexBehind (first : Nat) (indices : List Nat) : Nat :=
  match indices.getLast? with
  | some last => last + 1
  | none => first

/-- Without an empty slot at the end, the next index is the one behind the last live function. -/
theorem next_of_trimmed
    {functions : HoistedFunctions}
    (trimmed : functions.Trimmed) :
    functions.next = indexBehind functions.first (functions.entries.map (·.1)) := by
  obtain ⟨first, slots⟩ := functions
  unfold Trimmed at trimmed
  unfold next entries indexBehind
  rcases List.eq_nil_or_concat slots with rfl | ⟨front, last, rfl⟩
  · rfl
  · rw [List.concat_eq_append] at trimmed ⊢
    cases last with
    | none => simp at trimmed
    | some declaration =>
        rw [entriesFrom_append]
        simp [entriesFrom, Nat.add_assoc]

end HoistedFunctions
end MessageExpansion
