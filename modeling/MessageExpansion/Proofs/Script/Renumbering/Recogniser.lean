import MessageExpansion.Proofs.Script.Recognition
import MessageExpansion.Proofs.Script.Renumbering.Tokens

/-!
# Recognisers over renumbered texts

A recogniser that runs over two renumbered texts fails in both or succeeds in both, and then it
stands at the same token again.  What it returns need not be the same: offsets and names differ.
But what the grammar decides by is the same, so recognisers that are put together from others
inherit the property, and instance search finds it for most rules.
-/

namespace MessageExpansion
namespace Script
namespace Recogniser

/-! ### What results have in common -/

/-- Results that nothing depends on. -/
def Any {α : Type} (_ _ : α) : Prop := True

/-- Results that are there in both texts or in neither. -/
def Alike {α : Type} (first second : Option α) : Prop := first.isSome = second.isSome

/-- Pairs whose second parts are the same. -/
def SameSecond {α β : Type} (first second : α × β) : Prop := first.2 = second.2

/-- Two recognisers that stay at the same tokens, with results that are related. -/
class InStep {α : Type} (agree : α → α → Prop) (recogniser other : Recogniser α) : Prop where
  outcome {cursor otherCursor : Cursor} (together : cursor.Agree otherCursor) :
    Option.Rel (fun found otherFound => agree found.1 otherFound.1 ∧ found.2.Agree otherFound.2)
      (recogniser cursor) (other otherCursor)

/-- A word without an underscore, which no number can be part of. -/
class IsPlainWord (word : String) : Prop where
  plain : '_' ∉ word.toList

/-- Words without underscores. -/
class ArePlainWords (words : List String) : Prop where
  plain : ∀ word ∈ words, '_' ∉ word.toList

instance : ArePlainWords [] := ⟨nofun⟩

instance
    (word : String)
    (words : List String)
    [IsPlainWord word]
    [ArePlainWords words] :
    ArePlainWords (word :: words) :=
  ⟨List.forall_mem_cons.mpr ⟨IsPlainWord.plain, ArePlainWords.plain⟩⟩

instance
    (condition : Prop)
    [Decidable condition]
    (words others : List String)
    [first : ArePlainWords words]
    [second : ArePlainWords others] :
    ArePlainWords (if condition then words else others) := by
  split
  · exact first
  · exact second

section

variable {α β : Type} {agree : β → β → Prop} {recogniser other : Recogniser α}

/-! ### Putting recognisers together -/

theorem InStep.bind
    {related : α → α → Prop}
    (first : InStep related recogniser other)
    {next otherNext : α → Recogniser β}
    (onward : ∀ {found otherFound}, related found otherFound →
      InStep agree (next found) (otherNext otherFound)) :
    InStep agree (recogniser >>= next) (other >>= otherNext) where
  outcome together := by
    rw [bind_apply, bind_apply]
    exact optionRel_bind (first.outcome together) fun same => (onward same.1).outcome same.2

instance
    {next otherNext : α → Recogniser β}
    [first : InStep Eq recogniser other]
    [onward : ∀ found, InStep agree (next found) (otherNext found)] :
    InStep agree (recogniser >>= next) (other >>= otherNext) :=
  first.bind fun {found _} same => same ▸ onward found

instance
    {next otherNext : α → Recogniser β}
    [first : InStep Any recogniser other]
    [onward : ∀ found otherFound, InStep agree (next found) (otherNext otherFound)] :
    InStep agree (recogniser >>= next) (other >>= otherNext) :=
  first.bind fun {found otherFound} _ => onward found otherFound

instance
    {recogniser other : Recogniser (Option α)}
    {next otherNext : Option α → Recogniser β}
    [first : InStep Alike recogniser other]
    [present : ∀ found otherFound, InStep agree (next (some found)) (otherNext (some otherFound))]
    [absent : InStep agree (next none) (otherNext none)] :
    InStep agree (recogniser >>= next) (other >>= otherNext) :=
  first.bind fun {found otherFound} alike =>
    match found, otherFound, alike with
    | some found, some otherFound, _ => present found otherFound
    | none, none, _ => absent

section

variable {γ δ : Type} {recogniser other : Recogniser (γ × δ)} {next otherNext : γ × δ → Recogniser β}

instance
    [first : InStep Any recogniser other]
    [onward : ∀ left right otherLeft otherRight,
      InStep agree (next (left, right)) (otherNext (otherLeft, otherRight))] :
    InStep agree (recogniser >>= next) (other >>= otherNext) :=
  first.bind fun {found otherFound} _ => onward found.1 found.2 otherFound.1 otherFound.2

instance
    [first : InStep SameSecond recogniser other]
    [onward : ∀ left otherLeft right, InStep agree (next (left, right)) (otherNext (otherLeft, right))] :
    InStep agree (recogniser >>= next) (other >>= otherNext) :=
  first.bind fun {found otherFound} same => by
    obtain ⟨left, right⟩ := found
    obtain ⟨otherLeft, otherRight⟩ := otherFound
    obtain rfl : right = otherRight := same
    exact onward left otherLeft right

end

instance
    {γ : Type}
    {recogniser other : Recogniser (Option (γ × Bool))}
    {next otherNext : Option (γ × Bool) → Recogniser β}
    [first : InStep (Option.Rel SameSecond) recogniser other]
    [marked : ∀ left otherLeft,
      InStep agree (next (some (left, true))) (otherNext (some (otherLeft, true)))]
    [unmarked : ∀ left otherLeft,
      InStep agree (next (some (left, false))) (otherNext (some (otherLeft, false)))]
    [absent : InStep agree (next none) (otherNext none)] :
    InStep agree (recogniser >>= next) (other >>= otherNext) :=
  first.bind fun {found otherFound} related => by
    cases related with
    | none => exact absent
    | @some found otherFound same =>
        obtain ⟨left, mark⟩ := found
        obtain ⟨otherLeft, otherMark⟩ := otherFound
        obtain rfl : mark = otherMark := same
        cases mark
        · exact unmarked left otherLeft
        · exact marked left otherLeft

theorem InStep.pure
    {result otherResult : β}
    (same : agree result otherResult) :
    InStep agree (Pure.pure result : Recogniser β) (Pure.pure otherResult) :=
  ⟨fun together => .some ⟨same, together⟩⟩

instance
    (result : β) :
    InStep Eq (pure result : Recogniser β) (pure result) :=
  .pure rfl

instance
    (result other : β) :
    InStep Any (pure result : Recogniser β) (pure other) :=
  .pure trivial

instance
    (result other : β) :
    InStep Alike (pure (some result) : Recogniser (Option β)) (pure (some other)) :=
  .pure rfl

instance :
    InStep Alike (pure none : Recogniser (Option β)) (pure none) :=
  .pure rfl

instance
    {γ : Type}
    (result other : β)
    (same : γ) :
    InStep SameSecond (pure (result, same) : Recogniser (β × γ)) (pure (other, same)) :=
  .pure rfl

instance :
    InStep agree (failure : Recogniser β) failure :=
  ⟨fun _ => .none⟩

instance
    {condition : Prop}
    [Decidable condition]
    {positive otherPositive negative otherNegative : Recogniser β}
    [first : InStep agree positive otherPositive]
    [second : InStep agree negative otherNegative] :
    InStep agree (if condition then positive else negative)
      (if condition then otherPositive else otherNegative) := by
  split
  · exact first
  · exact second

/-- Results that have much in common have less in common, too. -/
theorem InStep.weaken
    {related weaker : α → α → Prop}
    (first : InStep related recogniser other)
    (weakens : ∀ {found otherFound}, related found otherFound → weaker found otherFound) :
    InStep weaker recogniser other where
  outcome {cursor otherCursor} together := by
    have outcome := first.outcome together
    generalize recogniser cursor = result, other otherCursor = otherResult at outcome
    cases outcome with
    | none => exact .none
    | some same => exact .some ⟨weakens same.1, same.2⟩

theorem InStep.any
    {related : α → α → Prop}
    (first : InStep related recogniser other) :
    InStep Any recogniser other :=
  first.weaken fun _ => trivial

theorem InStep.attempt
    {related : α → α → Prop}
    (first : InStep related recogniser other) :
    InStep (Option.Rel related) (attempt recogniser) (attempt other) where
  outcome {cursor otherCursor} together := by
    have outcome := first.outcome together
    unfold Recogniser.attempt
    generalize recogniser cursor = result, other otherCursor = otherResult at outcome
    cases outcome with
    | none => exact .some ⟨.none, together⟩
    | some same => exact .some ⟨.some same.1, same.2⟩

theorem InStep.alike
    {related : α → α → Prop}
    (first : InStep related recogniser other) :
    InStep Alike (Recogniser.attempt recogniser) (Recogniser.attempt other) :=
  first.attempt.weaken fun related => by cases related <;> rfl

instance
    [first : InStep Any recogniser other] :
    InStep Alike (attempt recogniser) (attempt other) :=
  first.alike

instance
    [first : InStep Eq recogniser other] :
    InStep Alike (attempt recogniser) (attempt other) :=
  first.alike

instance
    {recogniser other : Recogniser Bool}
    [first : InStep Eq recogniser other] :
    InStep Eq (follows recogniser) (follows other) where
  outcome together := by
    have outcome := first.outcome together
    unfold follows
    generalize recogniser _ = result, other _ = otherResult at outcome
    cases outcome with
    | none => exact .some ⟨rfl, together⟩
    | some same => exact .some ⟨same.1, together⟩

/-- A repetition stops in both texts at once, and its results have as many parts. -/
theorem InStep.repeatUntil
    {condition otherCondition : Recogniser Bool}
    {item otherItem : Recogniser (List α)}
    {related : List α → List α → Prop}
    (nil : related [] [])
    (append : ∀ {first second third fourth}, related first second → related third fourth →
      related (first ++ third) (second ++ fourth))
    (stops : InStep Eq condition otherCondition)
    (step : InStep related item otherItem)
    (count : Nat) :
    InStep related (repeatUntil condition item count) (repeatUntil otherCondition otherItem count) := by
  induction count with
  | zero => exact ⟨fun _ => .none⟩
  | succ count inductionHypothesis =>
      refine stops.bind fun {stop otherStop} same => ?_
      obtain rfl : stop = otherStop := same
      split
      · exact .pure nil
      · exact step.bind fun first => inductionHypothesis.bind fun rest => .pure (append first rest)

instance
    {condition otherCondition : Recogniser Bool}
    {item otherItem : Recogniser (List α)}
    [stops : InStep Eq condition otherCondition]
    [step : InStep Any item otherItem]
    (count : Nat) :
    InStep Any (repeatUntil condition item count) (repeatUntil otherCondition otherItem count) :=
  .repeatUntil trivial (fun _ _ => trivial) stops step count

end

/-! ### Tests of tokens -/

theorem InStep.kind :
    InStep TokenKind.Agree kind kind :=
  ⟨fun together => .some ⟨together.kind, together⟩⟩

/-- What is done at a token may depend on its kind, except on the text of names and strings. -/
instance
    {β : Type}
    {agree : β → β → Prop}
    {next other : TokenKind → Recogniser β}
    [names : ∀ first second escaped,
      InStep agree (next (.name first escaped)) (other (.name second escaped))]
    [privateName : InStep agree (next .privateName) (other .privateName)]
    [punctuator : ∀ which, InStep agree (next (.punctuator which)) (other (.punctuator which))]
    [number : InStep agree (next .number) (other .number)]
    [strings : ∀ first second, InStep agree (next (.string first)) (other (.string second))]
    [invalid : InStep agree (next .invalid) (other .invalid)]
    [endOfText : InStep agree (next .endOfText) (other .endOfText)] :
    InStep agree (Recogniser.kind >>= next) (Recogniser.kind >>= other) :=
  InStep.kind.bind fun {found _} alike => by
    cases alike with
    | same => cases found <;> infer_instance
    | names | strings => infer_instance

theorem InStep.get :
    InStep Cursor.Agree (MonadState.get : Recogniser Cursor) MonadState.get :=
  ⟨fun together => .some ⟨together, together⟩⟩

instance :
    InStep Any (MonadState.get : Recogniser Cursor) MonadState.get :=
  InStep.get.any

/-- A word with an underscore is none of some words without. -/
theorem contains_of_underscore
    {words : List String}
    [ArePlainWords words]
    {name : String}
    (underscore : '_' ∈ name.toList) :
    words.contains name = false := by
  rw [List.contains_eq_mem, decide_eq_false_iff_not]
  exact fun present => ArePlainWords.plain name present underscore

instance :
    ArePlainWords reservedWords :=
  ⟨by decide⟩

/-- A test that treats all names with underscores alike, and all strings. -/
theorem InStep.test
    (test : TokenKind → Bool)
    (names : ∀ {first second : String} {escaped : Bool}, '_' ∈ first.toList → '_' ∈ second.toList →
      test (.name first escaped) = test (.name second escaped))
    (strings : ∀ first second, test (.string first) = test (.string second)) :
    InStep Eq (do return test (← Recogniser.kind)) (do return test (← Recogniser.kind)) :=
  InStep.kind.bind fun agree => .pure <| by
    cases agree with
    | same => rfl
    | names inFirst inSecond => exact names inFirst inSecond
    | strings first second => exact strings first second

instance
    (which : Punctuator) :
    InStep Eq (atPunctuator which) (atPunctuator which) :=
  .test (· == .punctuator which) (fun _ _ => rfl) fun _ _ => rfl

instance
    (word : String)
    [IsPlainWord word] :
    InStep Eq (atWord word) (atWord word) := by
  have other {name : String} {escaped : Bool} (underscore : '_' ∈ name.toList) :
      (TokenKind.name name escaped == .name word false) = false := by
    rw [beq_eq_false_iff_ne]
    rintro ⟨⟩
    exact IsPlainWord.plain underscore
  exact .test (· == .name word false)
    (fun inFirst inSecond => (other inFirst).trans (other inSecond).symm) fun _ _ => rfl

instance :
    InStep Eq atEnd atEnd :=
  .test (· == .endOfText) (fun _ _ => rfl) fun _ _ => rfl

instance :
    InStep Eq atIdentifier atIdentifier := by
  refine InStep.kind.bind fun {found _} agree => ?_
  cases agree with
  | same => cases found <;> infer_instance
  | names inFirst inSecond =>
      simp only [contains_of_underscore inFirst, contains_of_underscore inSecond]
      infer_instance
  | strings => infer_instance

instance :
    InStep Eq atString atString := by
  unfold atString
  infer_instance

instance :
    InStep Eq afterNewline afterNewline :=
  ⟨fun together => .some ⟨together.newline, together⟩⟩

instance :
    InStep Eq atAngle atAngle := by
  refine InStep.kind.bind fun {found _} agree => ?_
  cases agree with
  | same =>
    cases found <;> try infer_instance
    exact ⟨fun together => .some ⟨by simp [together.start.head?_eq], together⟩⟩
  | names | strings => infer_instance

/-! ### Moves -/

instance :
    InStep Eq advance advance :=
  ⟨fun together => .some ⟨rfl, agree_after together.stop⟩⟩

theorem InStep.goTo
    {place other : Place}
    (agree : place.Agree other) :
    InStep Eq (goTo place) (goTo other) :=
  ⟨fun _ => .some ⟨rfl, agree_after agree⟩⟩

instance InStep.start :
    InStep Any start start :=
  ⟨fun together => .some ⟨trivial, together⟩⟩

instance
    (start other : Nat) :
    InStep Any (spanFrom start) (spanFrom other) :=
  ⟨fun together => .some ⟨trivial, together⟩⟩

instance
    (condition : Bool) :
    InStep Eq (check condition) (check condition) := by
  unfold check
  infer_instance

instance
    (which : Punctuator) :
    InStep Eq (eat which) (eat which) := by
  unfold eat
  infer_instance

instance
    (which : List Punctuator) :
    InStep Eq (eatAny which) (eatAny which) := by
  unfold eatAny
  infer_instance

instance
    (word : String)
    [IsPlainWord word] :
    InStep Eq (eatWord word) (eatWord word) := by
  unfold eatWord
  infer_instance

instance
    (which : Punctuator) :
    InStep Eq (expect which) (expect which) := by
  unfold expect
  infer_instance

instance
    (word : String)
    [IsPlainWord word] :
    InStep Eq (expectWord word) (expectWord word) := by
  unfold expectWord
  infer_instance

instance :
    InStep Any anyName anyName := by
  unfold anyName
  infer_instance

instance :
    InStep Any identifier identifier := by
  unfold identifier
  infer_instance

instance :
    InStep Eq stringLiteral stringLiteral := by
  unfold stringLiteral
  infer_instance

instance :
    InStep Eq atStatementEnd atStatementEnd := by
  unfold atStatementEnd
  infer_instance

instance :
    InStep Eq semicolon semicolon := by
  unfold semicolon
  infer_instance

theorem splitAngle_punctuator
    {cursor : Cursor}
    {which : Punctuator}
    (found : cursor.kind = .punctuator which) :
    splitAngle cursor =
      if cursor.start.rest.head? == some '>' then
        some ((), { cursor with kind := .punctuator .greater, stop := cursor.start.skip 1 })
      else none := by
  simp only [splitAngle, atAngle, bind_apply, kind_apply, Option.bind_some, found]
  show Option.bind (check (cursor.start.rest.head? == some '>') cursor) _ = _
  rw [check_apply]
  split <;> rfl

theorem splitAngle_other
    {cursor : Cursor}
    (other : ∀ which, cursor.kind ≠ .punctuator which) :
    splitAngle cursor = none := by
  simp only [splitAngle, atAngle, bind_apply, kind_apply, Option.bind_some]
  rfl

instance :
    InStep Eq splitAngle splitAngle where
  outcome {cursor otherCursor} together := by
    have kinds := together.kind.punctuator_iff
    by_cases found : ∃ which, cursor.kind = .punctuator which
    · obtain ⟨which, found⟩ := found
      rw [splitAngle_punctuator found, splitAngle_punctuator ((kinds which).mp found),
        together.start.head?_eq]
      split
      · next angle =>
          have begins := together.start.head?_eq.trans (eq_of_beq angle)
          exact .some ⟨rfl, .same _, together.newline, together.start,
            together.start.skip_one begins (by decide)⟩
      · exact .none
    · have none (which : Punctuator) := not_exists.mp found which
      rw [splitAngle_other none, splitAngle_other fun which => none which ∘ (kinds which).mpr]
      exact .none

instance :
    InStep Eq closeAngle closeAngle := by
  unfold closeAngle
  infer_instance

instance
    {α : Type}
    (close : Punctuator)
    {item other : Recogniser (List α)}
    [step : InStep Any item other]
    (count : Nat) :
    InStep Any (listUntil close item count) (listUntil close other count) := by
  unfold listUntil
  dsimp only
  infer_instance

end Recogniser
end Script
end MessageExpansion
