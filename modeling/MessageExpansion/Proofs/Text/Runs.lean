import Mathlib.Data.List.DropRight
import MessageExpansion.Text.Runs

/-!
# Runs and words

The runs of a text are its words: the pieces between the characters that are not kept.  Joined words
are cut into the same words again.  Cut off at some length they are words again, once separators at
the end are dropped.
-/

namespace MessageExpansion
namespace Text

variable {keep : Char → Bool} {separator : Char}

/-! ### Words -/

/-- The words of a text: the pieces between the separating characters, without the empty ones. -/
def words (separates : Char → Bool) (text : List Char) : List (List Char) :=
  (text.splitOnP separates).filter fun piece => !piece.isEmpty

/-- The runs of a text are its words. -/
theorem runs_eq_words
    (keep : Char → Bool)
    (text : List Char) :
    runs keep text = words (fun c => !keep c) text := by
  have after (reversed : List Char) : runsAfter keep reversed text =
      (text.splitOnPPrepend (fun c => !keep c) reversed).filter fun piece => !piece.isEmpty := by
    induction text generalizing reversed with
    | nil => cases reversed <;> simp [runsAfter, finishRun]
    | cons c rest inductionHypothesis =>
        rw [runsAfter, List.splitOnPPrepend_cons_eq_if]
        cases kept : keep c with
        | true => exact inductionHypothesis (c :: reversed)
        | false =>
            have onward := inductionHypothesis []
            rw [List.splitOnPPrepend_nil_right] at onward
            cases reversed <;> simp [onward, finishRun]
  exact after []

/-- A word of kept characters. -/
structure IsRun (keep : Char → Bool) (run : List Char) : Prop where
  nonempty : run ≠ []
  kept : ∀ c ∈ run, keep c = true

/-- A run that was begun is finished as a word. -/
theorem isRun_of_mem_finishRun
    {reversed run : List Char}
    (begun : ∀ c ∈ reversed, keep c = true)
    (present : run ∈ finishRun reversed) :
    IsRun keep run ∧ ∀ c ∈ run, c ∈ reversed := by
  unfold finishRun at present
  split at present
  · cases present
  · next busy =>
      rw [List.mem_singleton.mp present]
      refine ⟨⟨by simpa using busy, fun c among => begun c (List.mem_reverse.mp among)⟩, ?_⟩
      exact fun c among => List.mem_reverse.mp among

/-- So are the runs of a text that goes on with one that was begun. -/
theorem isRun_of_mem_runsAfter
    {reversed text run : List Char}
    (begun : ∀ c ∈ reversed, keep c = true)
    (present : run ∈ runsAfter keep reversed text) :
    IsRun keep run ∧ ∀ c ∈ run, c ∈ reversed ∨ c ∈ text := by
  induction text generalizing reversed with
  | nil =>
      obtain ⟨isRun, among⟩ := isRun_of_mem_finishRun begun present
      exact ⟨isRun, fun c member => .inl (among c member)⟩
  | cons c rest inductionHypothesis =>
      rw [runsAfter] at present
      split at present
      · next kept =>
          have longer : ∀ d ∈ c :: reversed, keep d = true :=
            List.forall_mem_cons.mpr ⟨kept, begun⟩
          obtain ⟨isRun, among⟩ := inductionHypothesis longer present
          refine ⟨isRun, fun d member => ?_⟩
          rcases among d member with inReversed | inRest
          · rcases List.mem_cons.mp inReversed with same | earlier
            · exact .inr (same ▸ List.mem_cons_self)
            · exact .inl earlier
          · exact .inr (List.mem_cons_of_mem _ inRest)
      · rcases List.mem_append.mp present with here | later
        · obtain ⟨isRun, among⟩ := isRun_of_mem_finishRun begun here
          exact ⟨isRun, fun d member => .inl (among d member)⟩
        · obtain ⟨isRun, among⟩ := inductionHypothesis (List.forall_mem_nil _) later
          refine ⟨isRun, fun d member => .inr ?_⟩
          exact List.mem_cons_of_mem _ ((among d member).resolve_left List.not_mem_nil)

/-- The runs of a text are words of its characters. -/
theorem isRun_of_mem_runs
    {text run : List Char}
    (present : run ∈ runs keep text) :
    IsRun keep run ∧ ∀ c ∈ run, c ∈ text := by
  obtain ⟨isRun, among⟩ := isRun_of_mem_runsAfter (List.forall_mem_nil _) present
  exact ⟨isRun, fun c member => (among c member).resolve_left List.not_mem_nil⟩

/-! ### Joined words -/

theorem joinRuns_cons
    (separator : Char)
    (run : List Char)
    {rest : List (List Char)}
    (nonempty : rest ≠ []) :
    joinRuns separator (run :: rest) = run ++ separator :: joinRuns separator rest := by
  rw [joinRuns]
  exact nonempty

/-- Joining puts the separator between neighbours. -/
theorem joinRuns_eq_intercalate
    (separator : Char)
    (runs : List (List Char)) :
    joinRuns separator runs = [separator].intercalate runs := by
  fun_induction joinRuns separator runs with
  | case1 => rfl
  | case2 run => simp
  | case3 run rest nonempty inductionHypothesis =>
      obtain ⟨next, more, rfl⟩ := List.exists_cons_of_ne_nil nonempty
      rw [inductionHypothesis]
      simp

/-- Joined words consist of their characters and separators. -/
theorem mem_joinRuns
    {runs : List (List Char)}
    {c : Char}
    (present : c ∈ joinRuns separator runs) :
    c = separator ∨ ∃ run ∈ runs, c ∈ run := by
  fun_induction joinRuns separator runs with
  | case1 => cases present
  | case2 run => exact .inr ⟨run, List.mem_singleton_self _, present⟩
  | case3 run rest nonempty inductionHypothesis =>
      rcases List.mem_append.mp present with first | behind
      · exact .inr ⟨run, List.mem_cons_self, first⟩
      · rcases List.mem_cons.mp behind with same | later
        · exact .inl same
        · rcases inductionHypothesis later with same | ⟨other, otherPresent, among⟩
          · exact .inl same
          · exact .inr ⟨other, List.mem_cons_of_mem _ otherPresent, among⟩

/-- Joined words are cut into the same words. -/
theorem runs_joinRuns
    {words : List (List Char)}
    (areRuns : ∀ run ∈ words, IsRun keep run)
    (separates : keep separator = false) :
    runs keep (joinRuns separator words) = words := by
  have whole {run : List Char} (isRun : IsRun keep run) :
      [run].filter (fun piece => !piece.isEmpty) = [run] := by
    simp [isRun.nonempty]
  have plain {run : List Char} (isRun : IsRun keep run) : ∀ c ∈ run, (!keep c) = false :=
    fun c present => by rw [isRun.kept c present]; rfl
  rw [runs_eq_words, Text.words]
  fun_induction joinRuns separator words with
  | case1 => rfl
  | case2 run =>
      have isRun := areRuns run (List.mem_singleton_self _)
      rw [List.splitOnP_eq_singleton (plain isRun), whole isRun]
  | case3 run rest nonempty inductionHypothesis =>
      obtain ⟨isRun, others⟩ := List.forall_mem_cons.mp areRuns
      rw [List.splitOnP_append_cons_of_forall_mem (plain isRun) separator (by simp [separates]),
        ← List.singleton_append, List.filter_append, whole isRun, inductionHypothesis others]
      rfl

/-! ### Cutting off -/

theorem dropTrailing_concat
    (unwanted : Char)
    (text : List Char)
    (c : Char) :
    dropTrailing unwanted (text ++ [c]) =
      if c = unwanted then dropTrailing unwanted text else text ++ [c] := by
  induction text with
  | nil => simp [dropTrailing]
  | cons d rest inductionHypothesis =>
      rw [List.cons_append, dropTrailing, inductionHypothesis, dropTrailing]
      by_cases same : c = unwanted
      · rw [if_pos same, if_pos same]
      · rw [if_neg same, if_neg same]
        cases rest <;> rfl

/-- Dropping separators at the end is dropping them from the right. -/
theorem dropTrailing_eq_rdropWhile
    (unwanted : Char)
    (text : List Char) :
    dropTrailing unwanted text = text.rdropWhile (· == unwanted) := by
  induction text using List.reverseRecOn with
  | nil => rfl
  | append_singleton front c inductionHypothesis =>
      rw [dropTrailing_concat, List.rdropWhile_concat, inductionHypothesis]
      simp only [beq_iff_eq]

/-- Joined words end with a kept character. -/
theorem keep_getLast_joinRuns
    {words : List (List Char)}
    (areRuns : ∀ run ∈ words, IsRun keep run)
    (nonempty : joinRuns separator words ≠ []) :
    keep ((joinRuns separator words).getLast nonempty) = true := by
  fun_induction joinRuns separator words with
  | case1 => exact absurd rfl nonempty
  | case2 run =>
      exact (areRuns run (List.mem_singleton_self _)).kept _ (List.getLast_mem nonempty)
  | case3 run rest busy inductionHypothesis =>
      have others := (List.forall_mem_cons.mp areRuns).2
      have behind : joinRuns separator rest ≠ [] := by
        obtain ⟨next, more, rfl⟩ := List.exists_cons_of_ne_nil busy
        have first := (others next List.mem_cons_self).nonempty
        cases more with
        | nil => exact first
        | cons _ _ =>
            rw [joinRuns_cons _ _ (List.cons_ne_nil _ _)]
            exact List.append_ne_nil_of_left_ne_nil first _
      rw [List.getLast_append_of_ne_nil _ (List.cons_ne_nil _ _), List.getLast_cons behind]
      exact inductionHypothesis others behind

/-- There are no separators at the end of joined words. -/
theorem dropTrailing_joinRuns
    {words : List (List Char)}
    (areRuns : ∀ run ∈ words, IsRun keep run)
    (separates : keep separator = false) :
    dropTrailing separator (joinRuns separator words) = joinRuns separator words := by
  rw [dropTrailing_eq_rdropWhile, List.rdropWhile_eq_self_iff]
  intro nonempty same
  have kept := keep_getLast_joinRuns areRuns nonempty
  rw [beq_iff_eq.mp same, separates] at kept
  cases kept

/-- Joined words that are cut off are joined words, or words with a separator behind them. -/
theorem exists_take_joinRuns
    (separator : Char)
    {words : List (List Char)}
    (areRuns : ∀ run ∈ words, IsRun keep run)
    (length : Nat) :
    ∃ kept : List (List Char), (∀ run ∈ kept, IsRun keep run) ∧
      ((joinRuns separator words).take length = joinRuns separator kept ∨
        kept ≠ [] ∧ (joinRuns separator words).take length =
          joinRuns separator kept ++ [separator]) := by
  have cutRun {run : List Char} (isRun : IsRun keep run) (length : Nat) :
      ∃ kept : List (List Char), (∀ run ∈ kept, IsRun keep run) ∧
        run.take length = joinRuns separator kept := by
    cases length with
    | zero => exact ⟨[], List.forall_mem_nil _, rfl⟩
    | succ length =>
        refine ⟨[run.take (length + 1)], List.forall_mem_singleton.mpr ⟨?_, ?_⟩, rfl⟩
        · simpa using isRun.nonempty
        · exact fun c present => isRun.kept c (List.mem_of_mem_take present)
  induction words generalizing length with
  | nil => exact ⟨[], List.forall_mem_nil _, .inl List.take_nil⟩
  | cons run rest inductionHypothesis =>
      obtain ⟨isRun, others⟩ := List.forall_mem_cons.mp areRuns
      by_cases last : rest = []
      · subst last
        obtain ⟨kept, keptRuns, same⟩ := cutRun isRun length
        exact ⟨kept, keptRuns, .inl same⟩
      · rw [joinRuns_cons _ _ last, List.take_append]
        rcases Nat.lt_or_ge run.length length with beyond | within
        · -- The separator is kept, and what is left of the words behind it.
          obtain ⟨kept, keptRuns, cut⟩ :=
            inductionHypothesis others (length - run.length - 1)
          have split : length - run.length = length - run.length - 1 + 1 := by omega
          rw [List.take_of_length_le (Nat.le_of_lt beyond), split, List.take_succ_cons]
          have runs : ∀ word ∈ run :: kept, IsRun keep word :=
            List.forall_mem_cons.mpr ⟨isRun, keptRuns⟩
          rcases cut with same | ⟨busy, same⟩
          · by_cases empty : kept = []
            · subst empty
              refine ⟨[run], runs, .inr ⟨List.cons_ne_nil _ _, ?_⟩⟩
              rw [same]
              rfl
            · refine ⟨run :: kept, runs, .inl ?_⟩
              rw [same, joinRuns_cons _ _ empty]
          · refine ⟨run :: kept, runs, .inr ⟨List.cons_ne_nil _ _, ?_⟩⟩
            rw [same, joinRuns_cons _ _ busy, List.append_assoc, List.cons_append]
        · obtain ⟨kept, keptRuns, same⟩ := cutRun isRun length
          refine ⟨kept, keptRuns, .inl ?_⟩
          rw [Nat.sub_eq_zero_of_le within, List.take_zero, List.append_nil, same]

/-- Joined words that are cut off and lose the separators at their end are joined words. -/
theorem exists_dropTrailing_take
    {words : List (List Char)}
    (areRuns : ∀ run ∈ words, IsRun keep run)
    (separates : keep separator = false)
    (length : Nat) :
    ∃ kept : List (List Char), (∀ run ∈ kept, IsRun keep run) ∧
      dropTrailing separator ((joinRuns separator words).take length) =
        joinRuns separator kept := by
  obtain ⟨kept, keptRuns, cut⟩ := exists_take_joinRuns separator areRuns length
  refine ⟨kept, keptRuns, ?_⟩
  rcases cut with same | ⟨_, same⟩
  · rw [same, dropTrailing_joinRuns keptRuns separates]
  · rw [same, dropTrailing_concat, if_pos rfl, dropTrailing_joinRuns keptRuns separates]

end Text
end MessageExpansion
