import MessageExpansion.Text.Case

/-!
# Lower case is final

No lower-case form is a capital, so lower-casing a text twice is lower-casing it once.  The runs of
capitals are compared pairwise, not character by character.
-/

namespace MessageExpansion
namespace Text

/-! ### Runs of capitals -/

/-- The capitals of a run all have one parity: there is only one, or every other one is left out. -/
def CapitalRun.isAlternating (run : CapitalRun) : Bool := run.first == run.last || run.step == 2

/-- No lower-case form of the first run is a capital of the second: they lie in front of or behind
each other, or their parities differ. -/
def CapitalRun.avoids (run other : CapitalRun) : Bool :=
  run.lower + (run.last - run.first) < other.first || other.last < run.lower ||
    run.isAlternating && other.isAlternating && run.lower % 2 != other.first % 2

theorem CapitalRun.lower?_eq_some
    {run : CapitalRun}
    {point lowered : Nat}
    (found : run.lower? point = some lowered) :
    run.first ≤ point ∧ point ≤ run.last ∧ (point - run.first) % run.step = 0 ∧
      lowered = run.lower + (point - run.first) := by
  unfold lower? at found
  split at found
  · next inside =>
      simp only [Bool.and_eq_true, decide_eq_true_eq, beq_iff_eq] at inside
      exact ⟨inside.1.1, inside.1.2, inside.2, (Option.some.inj found).symm⟩
  · cases found

/-- All places of an alternating run are even. -/
theorem CapitalRun.isAlternating_even
    {run : CapitalRun}
    {point lowered : Nat}
    (alternating : run.isAlternating = true)
    (found : run.lower? point = some lowered) :
    (point - run.first) % 2 = 0 := by
  obtain ⟨above, below, multiple, _⟩ := lower?_eq_some found
  simp only [isAlternating, Bool.or_eq_true, beq_iff_eq] at alternating
  rcases alternating with single | double
  · omega
  · rw [double] at multiple
    exact multiple

/-- The lower-case forms of a run are no capitals of one that it avoids. -/
theorem CapitalRun.lower?_of_avoids
    {run other : CapitalRun}
    {point lowered : Nat}
    (apart : run.avoids other = true)
    (found : run.lower? point = some lowered) :
    other.lower? lowered = none := by
  obtain ⟨above, below, _, place⟩ := lower?_eq_some found
  cases again : other.lower? lowered with
  | none => rfl
  | some _ =>
      obtain ⟨otherAbove, otherBelow, _, _⟩ := lower?_eq_some again
      simp only [avoids, Bool.or_eq_true, Bool.and_eq_true, decide_eq_true_eq, bne_iff_ne]
        at apart
      rcases apart with (before | behind) | ⟨⟨alternating, otherAlternating⟩, parity⟩
      · omega
      · omega
      · have even := isAlternating_even alternating found
        have otherEven := isAlternating_even otherAlternating again
        omega

/-- No lower-case form is a capital of any run, or the capital with a form of two characters. -/
theorem capitalRuns_avoid :
    ∀ run ∈ capitalRuns, run.avoids ⟨0x130, 0x130, 1, 0⟩ = true ∧
      ∀ other ∈ capitalRuns, run.avoids other = true := by
  have tested : (capitalRuns.all fun run =>
      run.avoids ⟨0x130, 0x130, 1, 0⟩ && capitalRuns.all run.avoids) = true := by
    decide +kernel
  simpa only [List.all_eq_true, Bool.and_eq_true] using tested

/-! ### Texts -/

/-- The character of a number has this number, if there is such a character. -/
theorem toNat_ofNat_cases
    (point : Nat) :
    (Char.ofNat point).toNat = point ∨ (Char.ofNat point).toNat = 0 := by
  by_cases valid : point.isValidChar
  · exact .inl (congrArg Char.toNat (dif_pos valid))
  · exact .inr (congrArg Char.toNat (dif_neg valid))

/-- The character is its own lower-case form. -/
def IsLowered (c : Char) : Prop := c ≠ 'Σ' ∧ lowerChar c = [c]

instance : DecidablePred IsLowered := fun _ => inferInstanceAs (Decidable (_ ∧ _))

theorem isLowered_of_not_capital
    {c : Char}
    (single : c.toNat ≠ 0x130)
    (small : capitalRuns.findSome? (·.lower? c.toNat) = none) :
    IsLowered c := by
  constructor
  · rintro rfl
    exact absurd small (by decide)
  · rw [lowerChar, if_neg single, small]

/-- The lower-case form of a character is made of characters that are their own. -/
theorem isLowered_of_mem_lowerChar
    {c lowered : Char}
    (present : lowered ∈ lowerChar c) :
    IsLowered lowered := by
  unfold lowerChar at present
  split at present
  · have forms : IsLowered 'i' ∧ IsLowered '\u0307' := by decide
    rcases List.mem_cons.mp present with same | behind
    · rw [same]
      exact forms.1
    · rw [List.mem_singleton.mp behind]
      exact forms.2
  · next single =>
      split at present
      · next point found =>
          obtain ⟨run, runPresent, lowers⟩ := List.exists_of_findSome?_eq_some found
          obtain ⟨avoidsPair, avoidsAll⟩ := capitalRuns_avoid run runPresent
          rw [List.mem_singleton] at present
          subst present
          rcases toNat_ofNat_cases point with same | zero
          · refine isLowered_of_not_capital (fun pair => ?_) ?_
            · have noPair := CapitalRun.lower?_of_avoids avoidsPair lowers
              rw [← same, pair] at noPair
              cases noPair
            · rw [same, List.findSome?_eq_none_iff]
              exact fun other otherPresent =>
                CapitalRun.lower?_of_avoids (avoidsAll other otherPresent) lowers
          · refine isLowered_of_not_capital ?_ ?_ <;> rw [zero] <;> decide
      · next small =>
          rw [List.mem_singleton] at present
          subst present
          exact isLowered_of_not_capital single small

/-- A lower-case text is made of characters that are their own lower-case forms. -/
theorem isLowered_of_mem_lowerFrom
    {before text : List Char}
    {lowered : Char}
    (present : lowered ∈ lowerFrom before text) :
    IsLowered lowered := by
  have sigmas : IsLowered 'ς' ∧ IsLowered 'σ' := by decide
  induction text generalizing before with
  | nil => cases present
  | cons c rest inductionHypothesis =>
      rw [lowerFrom, List.mem_append] at present
      rcases present with here | later
      · split at here
        · split at here
          · rw [List.mem_singleton.mp here]
            exact sigmas.1
          · rw [List.mem_singleton.mp here]
            exact sigmas.2
        · exact isLowered_of_mem_lowerChar here
      · exact inductionHypothesis later

/-- A text of such characters is its own lower-case form, wherever it stands. -/
theorem lowerFrom_of_isLowered
    {text : List Char}
    (before : List Char)
    (all : ∀ c ∈ text, IsLowered c) :
    lowerFrom before text = text := by
  induction text generalizing before with
  | nil => rfl
  | cons c rest inductionHypothesis =>
      obtain ⟨⟨noSigma, own⟩, others⟩ := List.forall_mem_cons.mp all
      rw [lowerFrom, inductionHypothesis _ others]
      simp only [if_neg noSigma, own]
      rfl

theorem isLowered_of_mem_lower
    {text : List Char}
    {lowered : Char}
    (present : lowered ∈ lower text) :
    IsLowered lowered :=
  isLowered_of_mem_lowerFrom present

theorem lower_of_isLowered
    {text : List Char}
    (all : ∀ c ∈ text, IsLowered c) :
    lower text = text :=
  lowerFrom_of_isLowered [] all

end Text
end MessageExpansion
