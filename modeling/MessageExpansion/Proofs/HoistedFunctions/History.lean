import Mathlib.Data.List.Induction
import MessageExpansion.Proofs.HoistedFunctions

/-!
# Histories of hoisted functions

What is live after any pushes, discards and flushes can be told from the history alone: a function
is live from its push on until its index is discarded or everything is flushed.  It has the index
that was the next one at its push, and no index is given out while a live function has it.
-/

namespace MessageExpansion
namespace HoistedFunctions

/-- What can be done to hoisted functions. -/
inductive Operation where
  | push (declaration : String)
  | discard (index : Nat)
  | flush
deriving DecidableEq, Repr

/-- The functions that an operation leaves. -/
def perform (functions : HoistedFunctions) : Operation → HoistedFunctions
  | .push declaration => functions.push declaration
  | .discard index => functions.discard index
  | .flush => functions.flush.2

/-- The functions after a history that began without any, with indices from `first` on. -/
def after (first : Nat) (history : List Operation) : HoistedFunctions :=
  history.foldl perform (startingAt first)

variable {first index : Nat} {declaration : String} {history : List Operation}
  {operation : Operation}

@[simp] theorem after_concat :
    after first (history ++ [operation]) = (after first history).perform operation := by
  simp [after]

@[simp] theorem first_after :
    (after first history).first = first := by
  induction history using List.reverseRecOn with
  | nil => rfl
  | append_singleton history operation inductionHypothesis =>
      rw [after_concat]
      cases operation <;> exact inductionHypothesis

/-- Whatever was done, no empty slot stands at the end. -/
theorem trimmed_after :
    (after first history).Trimmed := by
  rcases List.eq_nil_or_concat history with rfl | ⟨earlier, operation, rfl⟩
  · exact trimmed_startingAt first
  · rw [List.concat_eq_append, after_concat]
    cases operation with
    | push declaration => exact trimmed_push _ declaration
    | discard index => exact trimmed_discard _ index
    | flush => exact trimmed_startingAt _

/-- A flush leaves what there was at the start. -/
theorem perform_flush :
    (after first history).perform .flush = startingAt first :=
  congrArg (HoistedFunctions.mk · []) first_after

/-! ### What a history tells -/

/-- A function was pushed when an index was the next one, and since then the index was not discarded
and nothing was flushed. -/
def Holds (first : Nat) (history : List Operation) (index : Nat) (declaration : String) : Prop :=
  ∃ earlier later, history = earlier ++ .push declaration :: later ∧
    index = (after first earlier).next ∧ .discard index ∉ later ∧ .flush ∉ later

/-- The last operation of a history is a certain push, or stands behind it. -/
theorem concat_eq_append_push_iff
    {earlier later : List Operation} :
    history ++ [operation] = earlier ++ .push declaration :: later ↔
      later = [] ∧ history = earlier ∧ operation = .push declaration ∨
        ∃ between, later = between ++ [operation] ∧
          history = earlier ++ .push declaration :: between := by
  constructor
  · intro equal
    rcases List.eq_nil_or_concat later with rfl | ⟨between, last, rfl⟩
    · obtain ⟨rfl, last⟩ := List.append_inj' equal rfl
      exact .inl ⟨rfl, rfl, (List.cons.inj last).1⟩
    · rw [List.concat_eq_append, ← List.cons_append, ← List.append_assoc] at equal
      obtain ⟨rfl, last⟩ := List.append_inj' equal rfl
      obtain rfl := (List.cons.inj last).1
      exact .inr ⟨between, List.concat_eq_append, rfl⟩
  · rintro (⟨rfl, rfl, rfl⟩ | ⟨between, rfl, rfl⟩)
    · rfl
    · simp

/-- Behind an operation, functions are held that were held before and are not ended by it, and the
one that it pushes. -/
theorem holds_concat_iff :
    Holds first (history ++ [operation]) index declaration ↔
      Holds first history index declaration ∧ operation ≠ .discard index ∧ operation ≠ .flush ∨
        operation = .push declaration ∧ index = (after first history).next := by
  unfold Holds
  simp only [concat_eq_append_push_iff]
  constructor
  · rintro ⟨earlier, later, ⟨rfl, rfl, rfl⟩ | ⟨between, rfl, rfl⟩, issued, kept, unflushed⟩
    · exact .inr ⟨rfl, issued⟩
    · rw [List.mem_append, List.mem_singleton, not_or] at kept unflushed
      exact .inl ⟨⟨earlier, between, rfl, issued, kept.1, unflushed.1⟩, Ne.symm kept.2,
        Ne.symm unflushed.2⟩
  · rintro (⟨⟨earlier, between, rfl, issued, kept, unflushed⟩, notDiscard, notFlush⟩ | ⟨rfl, issued⟩)
    · refine ⟨earlier, between ++ [operation], .inr ⟨between, rfl, rfl⟩, issued, ?_, ?_⟩
      · simpa [kept] using Ne.symm notDiscard
      · simpa [unflushed] using Ne.symm notFlush
    · exact ⟨history, [], .inl ⟨rfl, rfl, rfl⟩, issued, List.not_mem_nil, List.not_mem_nil⟩

/-- The live functions are those that the history says are held, under their indices. -/
theorem mem_entries_after_iff :
    (index, declaration) ∈ (after first history).entries ↔
      Holds first history index declaration := by
  induction history using List.reverseRecOn with
  | nil => simp [after, Holds]
  | append_singleton history operation inductionHypothesis =>
      rw [holds_concat_iff, ← inductionHypothesis, after_concat]
      cases operation with
      | push pushed =>
          rw [perform, entries_push, List.mem_append, List.mem_singleton, Prod.mk.injEq]
          simp [and_comm, eq_comm]
      | discard dropped =>
          rw [perform, entries_discard, List.mem_filter]
          simp [@eq_comm _ index dropped]
      | flush =>
          rw [perform_flush, entries_startingAt]
          simp

/-- The next index is the first one, or the one behind the last live function. -/
theorem next_after :
    (after first history).next =
      indexBehind first ((after first history).entries.map (·.1)) := by
  rw [next_of_trimmed trimmed_after, first_after]

/-- What a history of pushes, discards and flushes says of the functions after it. -/
structure FollowsHistory (first : Nat) (history : List Operation) : Prop where
  /-- The live functions are those that were pushed and not discarded or flushed since, each under
  the index that was the next one at its push. -/
  live : ∀ index declaration, (index, declaration) ∈ (after first history).entries ↔
    Holds first history index declaration
  /-- They stand in the order of their indices, and no two have the same one. -/
  ascending : (after first history).entries.Pairwise fun earlier later => earlier.1 < later.1
  /-- They are counted. -/
  size : (after first history).size = (after first history).entries.length
  /-- The next index is the first one if nothing is live. -/
  nextOfNone : (after first history).entries = [] → (after first history).next = first
  /-- Otherwise it is one more than the largest index of a live function. -/
  nextBehind : (after first history).entries ≠ [] →
    ∃ entry ∈ (after first history).entries, (after first history).next = entry.1 + 1 ∧
      ∀ other ∈ (after first history).entries, other.1 ≤ entry.1
  /-- An index is given out again only after it was discarded or everything was flushed. -/
  issuedAgain : ∀ earlier declaration between another later,
    history = earlier ++ .push declaration :: between ++ .push another :: later →
      (after first (earlier ++ .push declaration :: between)).next = (after first earlier).next →
        .discard (after first earlier).next ∈ between ∨ .flush ∈ between
  /-- A flush gives the live functions in order, if there are any, and leaves what there was at the
  start. -/
  flushed : (after first history).flush =
    (if (after first history).entries = [] then none
      else some (String.join ((after first history).entries.map (·.2))), startingAt first)

/-- Whatever is pushed, discarded and flushed, the functions are those that the history tells. -/
theorem followsHistory
    (first : Nat)
    (history : List Operation) :
    FollowsHistory first history where
  live _ _ := mem_entries_after_iff
  ascending := ascending_entries _
  size := by
    rw [HoistedFunctions.size, declarations_eq, List.length_map]
  nextOfNone := by
    intro none
    rw [next_after, none]
    rfl
  nextBehind := by
    intro nonempty
    have ascending := ascending_entries (after first history)
    obtain ⟨others, last, split⟩ := (List.eq_nil_or_concat _).resolve_left nonempty
    rw [List.concat_eq_append] at split
    rw [split, List.pairwise_append] at ascending
    refine ⟨last, by simp [split], ?_, ?_⟩
    · rw [next_after, split]
      simp [indexBehind]
    · intro other present
      rw [split, List.mem_append, List.mem_singleton] at present
      rcases present with before | rfl
      · exact Nat.le_of_lt (ascending.2.2 other before last (by simp))
      · exact Nat.le_refl _
  issuedAgain := by
    intro earlier declaration between another later _ again
    by_contra kept
    rw [not_or] at kept
    have live : ((after first earlier).next, declaration) ∈
        (after first (earlier ++ .push declaration :: between)).entries :=
      mem_entries_after_iff.mpr ⟨earlier, between, rfl, rfl, kept.1, kept.2⟩
    exact Nat.lt_irrefl _ (again ▸ (index_of_mem_entries live).2)
  flushed := by
    refine Prod.ext ?_ perform_flush
    rw [flush, declarations_eq]
    cases (after first history).entries <;> rfl

/-- A slot in the middle stays empty until the ones behind it are empty as well, and discarding an
index that no function has changes nothing. -/
example :
    let history : List Operation :=
      [.push "a", .push "b", .push "c", .discard 6, .discard 6, .discard 9, .discard 2]
    (after 5 history).entries = [(5, "a"), (7, "c")] ∧ (after 5 history).next = 8 ∧
      (after 5 (history ++ [.discard 7])).next = 6 := by
  decide

end HoistedFunctions
end MessageExpansion
