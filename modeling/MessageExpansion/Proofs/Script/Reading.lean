import Mathlib
import MessageExpansion.Proofs.Script.Cursors
import MessageExpansion.Proofs.Script.Nesting

/-!
# What recognisers read

A recogniser that starts at a token of the text ends at one, and the calls that it yields lie in
the part of the text that it passed over.  A rule of the grammar reads what its parts read, one
after the other, so every rule has a specification of the same form, which follows from those of
its parts.
-/

namespace MessageExpansion
namespace Script

open Std.Do
open Recogniser

set_option mvcgen.warning false

/-! ### Specifications -/

/-- A condition after a recogniser is a condition on the outcome of its run. -/
theorem wp_apply
    {α : Type}
    (recogniser : Recogniser α)
    (post : PostCond α (.arg Cursor (.except PUnit .pure)))
    (first : Cursor) :
    wp⟦recogniser⟧ post first = match recogniser first with
      | some (value, last) => post.1 value last
      | none => post.2.1 ⟨⟩ := by
  have run : wp⟦recogniser⟧ post first =
      wp⟦recogniser first⟧ (fun pair => post.1 pair.1 pair.2, post.2) := rfl
  rw [run]
  cases recogniser first with
  | none => exact WP.throw_Option
  | some pair =>
      show wp⟦(pure pair : Option _)⟧ _ = _
      rw [WPMonad.wp_pure]
      rfl

/-- What a specification of a recogniser says of its runs. -/
theorem triple_iff
    {α : Type}
    {recogniser : Recogniser α}
    {pre : Cursor → Prop}
    {post : α → Cursor → Prop} :
    ⦃fun cursor => ⌜pre cursor⌝⦄ recogniser ⦃⇓? value last => ⌜post value last⌝⦄ ↔
      ∀ first value last, pre first → recogniser first = some (value, last) → post value last := by
  constructor
  · intro triple first value last start read
    have met := triple first start
    rw [wp_apply, read] at met
    exact met
  · intro runs first start
    rw [wp_apply]
    split
    · next read => exact runs first _ _ start read
    · trivial

/-- A recogniser that fails promises nothing. -/
@[spec] theorem failure_spec
    {α : Type}
    {post : PostCond α (.arg Cursor (.except PUnit .pure))} :
    ⦃fun _ => post.2.1 ⟨⟩⦄ (failure : Recogniser α) ⦃post⦄ :=
  fun _ failed => failed

/-- A condition that follows from another one.  While a recogniser is proved to meet a condition,
the condition is kept abstract: otherwise the last part of the recogniser would be taken to begin
where the whole does. -/
structure Outcome {α : Type} (post : α → Cursor → Prop) where
  /-- The condition. -/
  holds : α → Cursor → Prop
  of_post : ∀ value last, post value last → holds value last

attribute [grind ←] Outcome.of_post

/-- The recogniser leaves the cursor where it is. -/
abbrev Looks {α : Type} (first : Cursor) (recogniser : Recogniser α) (post : α → Prop) : Prop :=
  ⦃fun cursor => ⌜cursor = first⌝⦄ recogniser
    ⦃⇓? value last => ⌜last = first ∧ post value⌝⦄

section Looks

variable {first : Cursor}

@[spec] theorem looks_kind :
    Looks first kind fun value => value = first.kind := by
  mvcgen [kind]
  grind

@[spec] theorem looks_start :
    Looks first start fun value => value = first.start.offset := by
  mvcgen [start]
  grind

@[spec] theorem looks_spanFrom
    {begin : Nat} :
    Looks first (spanFrom begin) fun value => value = ⟨begin, first.previous.offset⟩ := by
  mvcgen [spanFrom]
  grind

@[spec] theorem looks_afterNewline :
    Looks first afterNewline fun _ => True := by
  mvcgen [afterNewline]

@[spec] theorem looks_atPunctuator
    {which : Punctuator} :
    Looks first (atPunctuator which) fun value => value = (first.kind == .punctuator which) := by
  mvcgen [atPunctuator]
  grind

@[spec] theorem looks_atWord
    {word : String} :
    Looks first (atWord word) fun _ => True := by
  mvcgen [atWord]
  grind

@[spec] theorem looks_atIdentifier :
    Looks first atIdentifier fun _ => True := by
  mvcgen [atIdentifier] <;> grind -linarith

@[spec] theorem looks_atString :
    Looks first atString fun _ => True := by
  mvcgen [atString] <;> grind -linarith

@[spec] theorem looks_atEnd :
    Looks first atEnd fun _ => True := by
  mvcgen [atEnd]
  grind

@[spec] theorem looks_atStatementEnd :
    Looks first atStatementEnd fun _ => True := by
  mvcgen [atStatementEnd]
  grind

@[spec] theorem looks_atAngle :
    Looks first atAngle fun value => value = true → first.start.rest.head? = some '>' := by
  mvcgen [atAngle] <;> grind -linarith

@[spec] theorem looks_check
    {condition : Bool} :
    Looks first (check condition) fun _ => condition = true := by
  mvcgen [check]

@[spec] theorem looks_follows
    {recogniser : Recogniser Bool} :
    Looks first (follows recogniser) fun _ => True := by
  rw [Looks, triple_iff]
  intro first value last same run
  unfold follows at run
  split at run <;> cases run <;> exact ⟨same, trivial⟩

end Looks

variable [Source] {α : Type} {first : Cursor}

/-- What the recogniser yields from a token of the text on satisfies a condition, and so does the
cursor where it ends. -/
abbrev Yields (first : Cursor) (recogniser : Recogniser α) (post : α → Cursor → Prop) : Prop :=
  ⦃fun cursor => ⌜cursor = first ∧ cursor.Stands⌝⦄ recogniser
    ⦃⇓? value last => ⌜post value last⌝⦄

theorem Yields.of_outcome
    {recogniser : Recogniser α}
    {post : α → Cursor → Prop}
    (yields : ∀ outcome : Outcome post, Yields first recogniser outcome.holds) :
    Yields first recogniser post :=
  yields ⟨post, fun _ _ => id⟩

theorem Yields.imp
    {recogniser : Recogniser α}
    {post weaker : α → Cursor → Prop}
    (yields : Yields first recogniser post)
    (implies : ∀ value last, post value last → weaker value last) :
    Yields first recogniser weaker := by
  rw [Yields, triple_iff] at yields ⊢
  exact fun start value last same read => implies value last (yields start value last same read)

theorem Yields.and
    {recogniser : Recogniser α}
    {post other : α → Cursor → Prop}
    (yields : Yields first recogniser post)
    (yieldsOther : Yields first recogniser other) :
    Yields first recogniser fun value last => post value last ∧ other value last := by
  rw [Yields, triple_iff] at yields yieldsOther ⊢
  exact fun start value last same read =>
    ⟨yields start value last same read, yieldsOther start value last same read⟩

/-! ### Moving over tokens -/

attribute [local grind →] Cursor.Stands.stop Cursor.Stands.punctuator Cursor.Stands.name
  Cursor.Stands.begins Cursor.Stands.closes

@[spec] theorem yields_advance :
    Yields first advance fun _ last => first.Leads last ∧ last.previous = first.stop := by
  mvcgen [advance]
  grind

@[spec] theorem yields_goTo
    {place : Place} :
    Yields first (goTo place) fun _ last => last = .after place := by
  mvcgen [goTo]

@[spec] theorem yields_eat
    {which : Punctuator} :
    Yields first (eat which) fun value last => first.Leads last ∧
      (value = true → first.start.offset < last.previous.offset ∧
        GoesOn Source.text first.start.offset ∧
        (which = .closeParen → Closes Source.text last.previous.offset)) := by
  mvcgen [eat] <;> grind -linarith

@[spec] theorem yields_eatAny
    {which : List Punctuator} :
    Yields first (eatAny which) fun value last => first.Leads last ∧
      (value = true → first.start.offset < last.previous.offset) := by
  mvcgen [eatAny] <;> grind -linarith

@[spec] theorem yields_eatWord
    {word : String} :
    Yields first (eatWord word) fun value last => first.Leads last ∧
      (value = true → first.start.offset ≤ last.previous.offset) := by
  mvcgen [eatWord] <;> grind -linarith

@[spec] theorem yields_expect
    {which : Punctuator} :
    Yields first (expect which) fun _ last => first.Leads last ∧
      first.start.offset < last.previous.offset ∧ GoesOn Source.text first.start.offset := by
  mvcgen [expect] <;> grind -linarith

@[spec] theorem yields_expectWord
    {word : String} :
    Yields first (expectWord word) fun _ last => first.Leads last ∧
      first.start.offset ≤ last.previous.offset := by
  mvcgen [expectWord] <;> grind -linarith

@[spec] theorem yields_anyName :
    Yields first anyName fun name last => first.Leads last ∧
      first.start.offset ≤ last.previous.offset ∧ IsNameText name.toList ∧
      GoesOn Source.text first.start.offset := by
  mvcgen [anyName] <;> grind -linarith

@[spec] theorem yields_identifier :
    Yields first identifier fun name last => first.Leads last ∧
      first.start.offset ≤ last.previous.offset ∧ IsNameText name.toList ∧
      GoesOn Source.text first.start.offset := by
  refine .of_outcome fun outcome => ?_
  mvcgen [identifier] <;> grind -linarith

@[spec] theorem yields_stringLiteral :
    Yields first stringLiteral fun _ last => first.Leads last ∧
      first.start.offset ≤ last.previous.offset := by
  refine .of_outcome fun outcome => ?_
  mvcgen [stringLiteral] <;> grind -linarith

@[spec] theorem yields_semicolon :
    Yields first semicolon fun _ last => first.Leads last := by
  mvcgen [semicolon] <;> grind -linarith

@[spec] theorem yields_splitAngle :
    Yields first splitAngle fun _ last => first.Leads last := by
  mvcgen [splitAngle]
  grind [Cursor.Stands.split]

@[spec] theorem yields_closeAngle :
    Yields first closeAngle fun _ last => first.Leads last ∧
      first.start.offset ≤ last.previous.offset := by
  refine .of_outcome fun outcome => ?_
  mvcgen [closeAngle] <;> grind -linarith

/-! ### What lies in a part of the text -/

namespace CallTree

/-- The calls nest, and lie between two offsets. -/
structure Between (start stop : Nat) (trees : List CallTree) : Prop where
  nests : NestAll Source.text trees
  startLe : ∀ tree ∈ trees, start ≤ tree.call.span.start
  stopLe : ∀ tree ∈ trees, tree.call.span.stop ≤ stop

/-- No call of the first list overlaps one of the second. -/
def Separate (first second : List CallTree) : Prop :=
  ∀ left ∈ first, ∀ right ∈ second, left.call.span.Apart right.call.span

variable {start stop next final : Nat} {first second third : List CallTree}

omit [Source] in
@[grind =] theorem separate_append_left :
    Separate (first ++ second) third ↔ Separate first third ∧ Separate second third := by
  simp only [Separate, List.forall_mem_append]

omit [Source] in
@[grind =] theorem separate_append_right :
    Separate first (second ++ third) ↔ Separate first second ∧ Separate first third := by
  simp only [Separate, List.forall_mem_append]
  exact ⟨fun apart => ⟨fun left present => (apart left present).1,
    fun left present => (apart left present).2⟩,
    fun apart left present => ⟨apart.1 left present, apart.2 left present⟩⟩

omit [Source] in
@[grind →] theorem Separate.symm
    (apart : Separate first second) :
    Separate second first :=
  fun right rightPresent left leftPresent => (apart left leftPresent right rightPresent).symm

@[grind .] theorem between_nil : Between start stop [] :=
  ⟨trivial, by simp, by simp⟩

/-- Calls can be joined in any order, as long as they do not overlap. -/
@[grind =] theorem between_append :
    Between start stop (first ++ second) ↔
      Between start stop first ∧ Between start stop second ∧ Separate first second := by
  constructor
  · rintro ⟨nests, startLe, stopLe⟩
    rw [nestAll_iff, List.forall_mem_append, List.pairwise_append] at nests
    rw [List.forall_mem_append] at startLe stopLe
    exact ⟨⟨nestAll_iff.mpr ⟨nests.1.1, nests.2.1⟩, startLe.1, stopLe.1⟩,
      ⟨nestAll_iff.mpr ⟨nests.1.2, nests.2.2.1⟩, startLe.2, stopLe.2⟩, nests.2.2.2⟩
  · rintro ⟨⟨firstNests, firstStart, firstStop⟩, ⟨secondNests, secondStart, secondStop⟩, apart⟩
    rw [nestAll_iff] at firstNests secondNests
    refine ⟨?_, List.forall_mem_append.mpr ⟨firstStart, secondStart⟩,
      List.forall_mem_append.mpr ⟨firstStop, secondStop⟩⟩
    rw [nestAll_iff, List.forall_mem_append, List.pairwise_append]
    exact ⟨⟨firstNests.1, secondNests.1⟩, firstNests.2, secondNests.2, apart⟩

theorem Between.mono
    (between : Between start stop first)
    (startLe : next ≤ start)
    (stopLe : stop ≤ final) :
    Between next final first :=
  ⟨between.nests, fun tree present => Nat.le_trans startLe (between.startLe tree present),
    fun tree present => Nat.le_trans (between.stopLe tree present) stopLe⟩

theorem Between.separate
    (between : Between start stop first)
    (other : Between next final second)
    (disjoint : stop ≤ next ∨ final ≤ start) :
    Separate first second := by
  intro left leftPresent right rightPresent
  have leftStart := between.startLe left leftPresent
  have leftStop := between.stopLe left leftPresent
  have rightStart := other.startLe right rightPresent
  have rightStop := other.stopLe right rightPresent
  unfold Span.Apart
  omega

/-- Calls behind others can be joined to them. -/
theorem Between.append
    {outerStop : Nat}
    (between : Between start stop first)
    (other : Between next final second)
    (startLe : start ≤ next)
    (ordered : stop ≤ next)
    (stopLe : stop ≤ outerStop)
    (finalLe : final ≤ outerStop) :
    Between start outerStop (first ++ second) := by
  rw [between_append]
  exact ⟨between.mono (Nat.le_refl _) stopLe, other.mono startLe finalLe,
    between.separate other (.inl ordered)⟩

grind_pattern Between.mono => Between start stop first, Between next final first
grind_pattern Between.separate =>
  Between start stop first, Between next final second, Separate first second

end CallTree

/-- Results of recognisers, which lie between two offsets of the text. -/
class Located (α : Type) where
  /-- The result lies between two offsets. -/
  between : (start stop : Nat) → α → Prop
  mono : ∀ {start stop next final value}, between start stop value → next ≤ start →
    stop ≤ final → between next final value

/-- Lists of results, which can be joined if the second one lies behind the first one. -/
class Joinable (α : Type) extends Located (List α) where
  nil : ∀ {start stop}, between start stop []
  append : ∀ {start stop next final outerStop first second}, between start stop first →
    between next final second → start ≤ next → stop ≤ next → stop ≤ outerStop →
    final ≤ outerStop → between start outerStop (first ++ second)

/-- Results without calls. -/
class Plain (α : Type)

namespace Located

variable {start stop next final : Nat} {β : Type}

omit [Source] in
theorem between_mono
    [Located α]
    {value : α}
    (lies : between start stop value)
    (startLe : next ≤ start)
    (stopLe : stop ≤ final) :
    between next final value :=
  mono lies startLe stopLe

omit [Source] in
theorem between_join
    [Joinable α]
    {outerStart outerStop : Nat}
    {first second : List α}
    (firstLies : between start stop first)
    (secondLies : between next final second)
    (ordered : stop ≤ next)
    (startLe : outerStart ≤ start ∧ outerStart ≤ next)
    (stopLe : stop ≤ outerStop ∧ final ≤ outerStop) :
    between outerStart outerStop (first ++ second) :=
  Joinable.append (mono firstLies startLe.1 (Nat.le_refl _)) secondLies startLe.2 ordered
    stopLe.1 stopLe.2

grind_pattern between_mono => between start stop value, between next final value
grind_pattern between_join =>
  between start stop first, between next final second,
  between outerStart outerStop (first ++ second)

instance [Plain α] : Located α := ⟨fun _ _ _ => True, fun _ _ _ => trivial⟩

instance [Plain α] : Joinable α where
  between _ _ _ := True
  mono _ _ _ := trivial
  nil := trivial
  append _ _ _ _ _ _ := trivial

instance : Plain Unit where
instance : Plain Bool where
instance : Plain Char where
instance : Plain String where

instance : Joinable CallTree where
  between := CallTree.Between
  mono := CallTree.Between.mono
  nil := CallTree.between_nil
  append := CallTree.Between.append

instance [Located α] : Located (Option α) where
  between start stop value := ∀ found ∈ value, between start stop found
  mono lies startLe stopLe found present := mono (lies found present) startLe stopLe

instance [Located α] [Located β] : Located (α × β) where
  between start stop value := between start stop value.1 ∧ between start stop value.2
  mono lies startLe stopLe := ⟨mono lies.1 startLe stopLe, mono lies.2 startLe stopLe⟩

omit [Source] in
@[grind .] theorem between_plain
    [Plain α]
    (value : α) :
    between start stop value :=
  trivial

omit [Source] in
@[grind .] theorem between_plainList
    [Plain α]
    (value : List α) :
    between start stop value :=
  trivial

omit [Source] in
@[grind .] theorem between_plainOption
    [Plain α]
    (value : Option α) :
    between start stop value :=
  fun _ _ => trivial

@[grind =] theorem between_calls
    {calls : List CallTree} :
    between start stop calls ↔ CallTree.Between start stop calls :=
  .rfl

omit [Source] in
@[grind .] theorem between_none
    [Located α] :
    between start stop (none : Option α) := by
  intro found present
  cases present

omit [Source] in
@[grind =] theorem between_some
    [Located α]
    {value : α} :
    between start stop (some value) ↔ between start stop value := by
  constructor
  · intro lies
    exact lies value rfl
  · rintro lies found ⟨⟩
    exact lies

omit [Source] in
@[grind ←] theorem between_getD
    [Joinable α]
    {value : Option (List α)}
    (lies : between start stop value) :
    between start stop (value.getD []) := by
  cases value with
  | none => exact Joinable.nil
  | some found => exact lies found rfl

omit [Source] in
@[grind =] theorem between_pair
    [Located α]
    [Located β]
    {value : α × β} :
    between start stop value ↔ between start stop value.1 ∧ between start stop value.2 :=
  .rfl

end Located

/-! ### Reading -/

/-- The cursor moved on, and what was found lies in the part of the text that it passed over. -/
abbrev Read [Located α] (first : Cursor) (value : α) (last : Cursor) : Prop :=
  first.Leads last ∧ Located.between first.start.offset last.previous.offset value

/-- From a token of the text on, the recogniser yields what it passes over. -/
abbrev Reads [Located α] (first : Cursor) (recogniser : Recogniser α) : Prop :=
  Yields first recogniser (Read first)

@[spec] theorem reads_attempt
    [Located α]
    {recogniser : Recogniser α}
    (reads : ∀ first (outcome : Outcome (Read first)), Yields first recogniser outcome.holds) :
    Reads first (attempt recogniser) := by
  have reads := triple_iff.mp (Yields.of_outcome (reads first))
  rw [Reads, Yields, triple_iff]
  rintro _ value last ⟨rfl, stands⟩ run
  unfold attempt at run
  split at run
  · next ran =>
      cases run
      have read := reads _ _ _ ⟨rfl, stands⟩ ran
      grind
  · cases run
    grind

@[spec] theorem reads_repeatUntil
    [Joinable α]
    {condition : Recogniser Bool}
    {item : Recogniser (List α)}
    (conditionReads : ∀ first (outcome : Outcome (Read first)),
      Yields first condition outcome.holds)
    (itemReads : ∀ first (outcome : Outcome (Read first)), Yields first item outcome.holds)
    {count : Nat} :
    Reads first (repeatUntil condition item count) := by
  have conditionReads first := Yields.of_outcome (conditionReads first)
  have itemReads first := Yields.of_outcome (itemReads first)
  induction count generalizing first with
  | zero => mvcgen [repeatUntil]
  | succ count inductionHypothesis =>
      refine .of_outcome fun outcome => ?_
      mvcgen [repeatUntil, conditionReads, itemReads, inductionHypothesis]
      all_goals grind -linarith [Joinable.nil]

@[spec] theorem reads_listUntil
    [Joinable α]
    {close : Punctuator}
    {item : Recogniser (List α)}
    (itemReads : ∀ first (outcome : Outcome (Read first)), Yields first item outcome.holds)
    {count : Nat} :
    Reads first (listUntil close item count) := by
  have itemReads first := Yields.of_outcome (itemReads first)
  refine .of_outcome fun outcome => ?_
  mvcgen [listUntil, itemReads] <;> grind -linarith

/-- A repetition ends where its condition holds. -/
theorem yields_repeatUntil_of_condition
    [Joinable α]
    {condition : Recogniser Bool}
    {item : Recogniser (List α)}
    {ends : Cursor → Prop}
    (conditionYields : ∀ first, Yields first condition fun value last =>
      last.Stands ∧ (value = true → ends last))
    (itemReads : ∀ first (outcome : Outcome (Read first)), Yields first item outcome.holds)
    {count : Nat} :
    Yields first (repeatUntil condition item count) fun _ last => ends last := by
  have itemReads first := Yields.of_outcome (itemReads first)
  induction count generalizing first with
  | zero => mvcgen [repeatUntil, -reads_repeatUntil]
  | succ count inductionHypothesis =>
      refine .of_outcome fun outcome => ?_
      mvcgen [repeatUntil, conditionYields, itemReads, inductionHypothesis, -reads_repeatUntil]
      all_goals grind -linarith

/-- A list in parentheses ends with a closing parenthesis. -/
theorem yields_listUntil_closes
    [Joinable α]
    {item : Recogniser (List α)}
    (itemReads : ∀ first (outcome : Outcome (Read first)), Yields first item outcome.holds)
    {count : Nat} :
    Yields first (listUntil .closeParen item count) fun _ last =>
      Closes Source.text last.previous.offset := by
  have itemReads first := Yields.of_outcome (itemReads first)
  refine yields_repeatUntil_of_condition (fun first => ?_) fun first outcome => ?_
  · exact yields_eat.imp fun value last read => ⟨read.1.stands, fun found => (read.2 found).2.2 rfl⟩
  · mvcgen [itemReads] <;> grind -linarith

end Script
end MessageExpansion
