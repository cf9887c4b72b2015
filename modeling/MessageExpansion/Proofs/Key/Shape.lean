import MessageExpansion.Proofs.Key
import MessageExpansion.Proofs.Text.Case
import MessageExpansion.Proofs.Text.Runs

/-!
# What keys look like

A normalized key is a pattern's words with one blank between them, so it tells patterns apart by
their words.  An underscored key is made of words as well, of letters and digits in lower case, and
stays so when it is cut to its greatest length.  Both are their own keys.
-/

namespace MessageExpansion

open Text (IsLowered IsRun isBlank isLetter isNumber joinRuns)

namespace Key

/-! ### Normalized keys -/

/-- The words of a text that blanks separate. -/
def words (text : String) : List (List Char) := Text.words isBlank text.toList

theorem runs_eq_blankWords
    (text : String) :
    Text.runs (fun c => !isBlank c) text.toList = words text := by
  rw [Text.runs_eq_words, words]
  simp only [Bool.not_not]

/-- A normalized key has the words of its pattern. -/
theorem words_normalized
    (pattern : String) :
    words (normalized pattern) = words pattern := by
  rw [← runs_eq_blankWords, normalized, String.toList_ofList, Text.runs_joinRuns,
    runs_eq_blankWords]
  · exact fun run present => (Text.isRun_of_mem_runs present).1
  · decide

theorem normalized_eq_iff
    {pattern other : String} :
    normalized pattern = normalized other ↔ words pattern = words other := by
  constructor
  · intro same
    rw [← words_normalized pattern, same, words_normalized]
  · intro same
    rw [normalized, normalized, runs_eq_blankWords, runs_eq_blankWords, same]

/-! ### Underscored keys -/

/-- The words of letters and digits of a text in lower case. -/
def slugWords (text : String) : List (List Char) :=
  Text.words (fun c => !isSlugChar c) (Text.lower text.toList)

/-- The text of a key is that of the words of a pattern, cut to the greatest length. -/
structure IsSlugOf (pattern key : String) : Prop where
  length : key.length ≤ 50
  /-- Single underscores join words of letters and digits, and none stands at either end. -/
  joined : ∃ runs : List (List Char), runs ≠ [] ∧ key.toList = ['_'].intercalate runs ∧
    ∀ run ∈ runs, run ≠ [] ∧ ∀ c ∈ run, isLetter c = true ∨ isNumber c = true
  /-- The words of the pattern begin with the key. -/
  begins : key.toList <+: ['_'].intercalate (slugWords pattern)
  /-- Nothing is cut off if they are short enough. -/
  whole : (['_'].intercalate (slugWords pattern)).length ≤ 50 →
    key.toList = ['_'].intercalate (slugWords pattern)

theorem toList_underscored
    (pattern : String) :
    (underscored pattern).toList =
      Text.dropTrailing '_' ((joinRuns '_' (slugWords pattern)).take maxSlugLength) := by
  rw [underscored, String.toList_ofList, slugWords, Text.runs_eq_words]

theorem isRun_of_mem_slugWords
    {pattern : String}
    {run : List Char}
    (present : run ∈ slugWords pattern) :
    IsRun isSlugChar run ∧ ∀ c ∈ run, c ∈ Text.lower pattern.toList := by
  rw [slugWords, ← Text.runs_eq_words] at present
  exact Text.isRun_of_mem_runs present

theorem isSlugChar_underscore : isSlugChar '_' = false := by decide +kernel

/-- An underscored key is made of words. -/
theorem exists_runs_underscored
    (pattern : String) :
    ∃ runs : List (List Char), (∀ run ∈ runs, IsRun isSlugChar run) ∧
      (underscored pattern).toList = joinRuns '_' runs := by
  rw [toList_underscored]
  exact Text.exists_dropTrailing_take (fun run present => (isRun_of_mem_slugWords present).1)
    isSlugChar_underscore maxSlugLength

theorem take_prefix_underscored
    (pattern : String) :
    (underscored pattern).toList <+:
      (joinRuns '_' (slugWords pattern)).take maxSlugLength := by
  rw [toList_underscored, Text.dropTrailing_eq_rdropWhile]
  exact List.rdropWhile_prefix _ _

theorem length_underscored_le
    (pattern : String) :
    (underscored pattern).toList.length ≤ maxSlugLength :=
  (take_prefix_underscored pattern).length_le.trans (List.length_take_le _ _)

/-- An underscored key is in lower case. -/
theorem isLowered_of_mem_underscored
    {pattern : String}
    {c : Char}
    (present : c ∈ (underscored pattern).toList) :
    IsLowered c := by
  have inWords := List.mem_of_mem_take ((take_prefix_underscored pattern).subset present)
  rcases Text.mem_joinRuns inWords with rfl | ⟨run, runPresent, among⟩
  · decide
  · exact Text.isLowered_of_mem_lower ((isRun_of_mem_slugWords runPresent).2 c among)

/-- Words that are short enough are the key. -/
theorem toList_underscored_of_short
    {pattern : String}
    (short : (joinRuns '_' (slugWords pattern)).length ≤ maxSlugLength) :
    (underscored pattern).toList = joinRuns '_' (slugWords pattern) := by
  rw [toList_underscored, List.take_of_length_le short]
  exact Text.dropTrailing_joinRuns (fun run present => (isRun_of_mem_slugWords present).1)
    isSlugChar_underscore

theorem underscored_underscored
    (pattern : String) :
    underscored (underscored pattern) = underscored pattern := by
  obtain ⟨runs, areRuns, joined⟩ := exists_runs_underscored pattern
  have same : joinRuns '_' (slugWords (underscored pattern)) = (underscored pattern).toList := by
    rw [slugWords, Text.lower_of_isLowered fun c present => isLowered_of_mem_underscored present,
      ← Text.runs_eq_words, joined, Text.runs_joinRuns areRuns isSlugChar_underscore]
  have short := length_underscored_le pattern
  rw [← same] at short
  rw [← String.toList_inj, toList_underscored_of_short short, same]

theorem isSlugOf_underscored
    {pattern : String}
    (nonempty : underscored pattern ≠ "") :
    IsSlugOf pattern (underscored pattern) := by
  obtain ⟨runs, areRuns, joined⟩ := exists_runs_underscored pattern
  refine ⟨?_, ⟨runs, ?_, ?_, fun run present => ⟨(areRuns run present).nonempty, ?_⟩⟩, ?_, ?_⟩
  · rw [← String.length_toList]
    exact length_underscored_le pattern
  · rintro rfl
    exact nonempty (String.toList_inj.mp joined)
  · rw [joined, Text.joinRuns_eq_intercalate]
  · intro c among
    simpa [isSlugChar] using (areRuns run present).kept c among
  · rw [← Text.joinRuns_eq_intercalate]
    exact (take_prefix_underscored pattern).trans (List.take_prefix _ _)
  · intro short
    rw [← Text.joinRuns_eq_intercalate] at short ⊢
    exact toList_underscored_of_short short

/-! ### Hashes -/

/-- Eight hexadecimal digits. -/
structure IsHash (hash : String) : Prop where
  length : hash.length = 8
  digits : ∀ c ∈ hash.toList, c ∈ "0123456789abcdef".toList

theorem isHash_shortHash
    (text : String) :
    IsHash (Digest.shortHash text) := by
  have digits : ∀ n : Fin 16, Nat.digitChar n ∈ "0123456789abcdef".toList := by decide
  refine ⟨?_, fun c present => ?_⟩
  · rw [← String.length_toList, Digest.shortHash, String.toList_ofList]
    rfl
  · rw [Digest.shortHash, String.toList_ofList, Digest.hexWord] at present
    obtain ⟨shift, _, rfl⟩ := List.mem_map.mp present
    exact digits ⟨_, Nat.mod_lt _ (by decide)⟩

end Key

namespace KeyStrategy

variable {strategy : KeyStrategy} {pattern other key : String}

theorem key?_eq_some_iff :
    strategy.key? pattern = some key ↔ strategy.derive pattern = key ∧ key ≠ "" := by
  unfold key?
  simp only
  split
  · next empty =>
      rw [String.isEmpty_iff] at empty
      rw [empty]
      constructor
      · intro keyless
        cases keyless
      · rintro ⟨same, nonempty⟩
        exact absurd same.symm nonempty
  · next busy =>
      rw [String.isEmpty_iff] at busy
      rw [Option.some_inj]
      exact ⟨fun same => ⟨same, same ▸ busy⟩, And.left⟩

theorem key?_eq_none_iff :
    strategy.key? pattern = none ↔ strategy.derive pattern = "" := by
  rw [key?, ite_eq_left_iff]
  simp [String.isEmpty_iff]

/-- Patterns have the same key exactly if the same is left of them. -/
theorem key?_eq_iff :
    strategy.key? pattern = strategy.key? other ↔
      strategy.derive pattern = strategy.derive other := by
  constructor
  · intro same
    cases known : strategy.key? pattern with
    | some key =>
        rw [(key?_eq_some_iff.mp known).1, (key?_eq_some_iff.mp (same ▸ known)).1]
    | none =>
        rw [key?_eq_none_iff.mp known, key?_eq_none_iff.mp (same ▸ known)]
  · intro same
    rw [key?, key?, same]

/-- A key is its own key if deriving twice is deriving once. -/
theorem key?_of_key?
    (final : strategy.derive (strategy.derive pattern) = strategy.derive pattern)
    (known : strategy.key? pattern = some key) :
    strategy.key? key = some key := by
  obtain ⟨rfl, nonempty⟩ := key?_eq_some_iff.mp known
  exact key?_eq_some_iff.mpr ⟨final, nonempty⟩

/-- With the hash there is always a key. -/
theorem key?_underscoredHash
    (pattern : String) :
    underscoredHash.key? pattern =
      match underscored.key? pattern with
      | some slug => some (slug ++ "_" ++ Digest.shortHash pattern)
      | none => some (Digest.shortHash pattern) := by
  have hashed : Digest.shortHash pattern ≠ "" := by
    intro empty
    have length := (Key.isHash_shortHash pattern).length
    rw [empty] at length
    cases length
  cases known : underscored.key? pattern with
  | some slug =>
      obtain ⟨rfl, nonempty⟩ := key?_eq_some_iff.mp known
      refine key?_eq_some_iff.mpr ⟨?_, by simp⟩
      exact if_neg (mt String.isEmpty_iff.mp nonempty)
  | none =>
      refine key?_eq_some_iff.mpr ⟨?_, hashed⟩
      exact if_pos (String.isEmpty_iff.mpr (key?_eq_none_iff.mp known))

/-- Normalized keys are told apart by words, underscored ones are words, and a hash always makes a
key. -/
theorem keys_of_words :
    (∀ pattern key, normalized.key? pattern = some key → normalized.key? key = some key) ∧
      (∀ pattern other, normalized.key? pattern = normalized.key? other ↔
        Key.words pattern = Key.words other) ∧
      (∀ pattern key, underscored.key? pattern = some key →
        underscored.key? key = some key ∧ Key.IsSlugOf pattern key) ∧
      ∀ pattern, ∃ hash, Key.IsHash hash ∧ underscoredHash.key? pattern =
        match underscored.key? pattern with
        | some slug => some (slug ++ "_" ++ hash)
        | none => some hash := by
  refine ⟨fun pattern key known => ?_, fun pattern other => ?_, fun pattern key known => ⟨?_, ?_⟩,
    fun pattern => ⟨Digest.shortHash pattern, Key.isHash_shortHash pattern,
      key?_underscoredHash pattern⟩⟩
  · exact key?_of_key? (Key.normalized_eq_iff.mpr (Key.words_normalized pattern)) known
  · exact key?_eq_iff.trans Key.normalized_eq_iff
  · exact key?_of_key? (Key.underscored_underscored pattern) known
  · obtain ⟨rfl, nonempty⟩ := key?_eq_some_iff.mp known
    exact Key.isSlugOf_underscored nonempty

/-- The cut goes behind an underscore, which does not stay. -/
theorem keys_of_words_truncated :
    normalized.key? " Abc \n d" = some "Abc d" ∧
      normalized.key? "Abc d" = some "Abc d" ∧
      underscored.key? "Abcdefghi abcdefghi abcdefghi abcdefghi abcdefghi-İ" =
        some "abcdefghi_abcdefghi_abcdefghi_abcdefghi_abcdefghi" ∧
      Key.IsSlugOf "Abcdefghi abcdefghi abcdefghi abcdefghi abcdefghi-İ"
        "abcdefghi_abcdefghi_abcdefghi_abcdefghi_abcdefghi" := by
  obtain ⟨normalizedFinal, _, slug, _⟩ := keys_of_words
  have spaced : normalized.key? " Abc \n d" = some "Abc d" := by decide +kernel
  have truncated : underscored.key? "Abcdefghi abcdefghi abcdefghi abcdefghi abcdefghi-İ" =
      some "abcdefghi_abcdefghi_abcdefghi_abcdefghi_abcdefghi" := by decide +kernel
  exact ⟨spaced, normalizedFinal _ _ spaced, truncated, (slug _ _ truncated).2⟩

end KeyStrategy
end MessageExpansion
