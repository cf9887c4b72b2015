import MessageExpansion.Proofs.Script.Counting

/-!
# Renumbered texts

Two texts that are alike but for some digits, each time between an underscore and an opening
parenthesis.  Such digits never decide how a text goes on: the readers that pass over them do so
whatever they are, and behind them both texts stand at the parenthesis.

Names end at the same place of such texts.  No escape has an underscore in it, so a number is never
part of one.  A name that ends with a number is another one in the other text, but it has an
underscore there too.
-/

namespace MessageExpansion
namespace Script

open Text (isLineTerminator hexDigit? hexByte? hexUnit?)

/-- The second text is the first one with other digits behind some underscores. -/
inductive Renumbered : List Char → List Char → Prop
  | nil : Renumbered [] []
  | cons (c : Char) {first second : List Char} (onward : Renumbered first second) :
      Renumbered (c :: first) (c :: second)
  | number {digits others first second : List Char}
      (areDigits : ∀ c ∈ digits, c.isDigit = true)
      (othersAreDigits : ∀ c ∈ others, c.isDigit = true)
      (onward : Renumbered first second) :
      Renumbered ('_' :: (digits ++ '(' :: first)) ('_' :: (others ++ '(' :: second))

namespace Renumbered

variable {first second rest : List Char} {c : Char}

theorem refl
    (text : List Char) :
    Renumbered text text := by
  induction text with
  | nil => exact .nil
  | cons c rest inductionHypothesis => exact .cons c inductionHypothesis

theorem append
    {third fourth : List Char}
    (front : Renumbered first second)
    (back : Renumbered third fourth) :
    Renumbered (first ++ third) (second ++ fourth) := by
  induction front with
  | nil => exact back
  | cons c _ inductionHypothesis => exact .cons c inductionHypothesis
  | number areDigits othersAreDigits _ inductionHypothesis =>
      simpa using Renumbered.number areDigits othersAreDigits inductionHypothesis

theorem head?_eq
    (renumbered : Renumbered first second) :
    first.head? = second.head? := by
  cases renumbered <;> rfl

theorem isEmpty_eq
    (renumbered : Renumbered first second) :
    first.isEmpty = second.isEmpty := by
  cases renumbered <;> rfl

theorem getLast?_eq
    (renumbered : Renumbered first second) :
    first.getLast? = second.getLast? := by
  induction renumbered with
  | nil => rfl
  | cons c onward inductionHypothesis => rw [List.getLast?_cons, List.getLast?_cons, inductionHypothesis]
  | number _ _ onward inductionHypothesis => simp [List.getLast?_cons, inductionHypothesis]

theorem symm
    (renumbered : Renumbered first second) :
    Renumbered second first := by
  induction renumbered with
  | nil => exact .nil
  | cons c _ inductionHypothesis => exact .cons c inductionHypothesis
  | number areDigits othersAreDigits _ inductionHypothesis =>
      exact .number othersAreDigits areDigits inductionHypothesis

/-- A number begins with its underscore, so any other character is followed by renumbered texts. -/
theorem exists_eq_cons
    (renumbered : Renumbered (c :: rest) second)
    (plain : c ≠ '_') :
    ∃ others, second = c :: others ∧ Renumbered rest others := by
  cases renumbered with
  | cons c onward => exact ⟨_, rfl, onward⟩
  | number => exact absurd rfl plain

/-- No number stands in what has no underscore. -/
theorem exists_eq_append
    (front : List Char)
    (renumbered : Renumbered (front ++ rest) second)
    (plain : '_' ∉ front) :
    ∃ others, second = front ++ others ∧ Renumbered rest others := by
  induction front generalizing second with
  | nil => exact ⟨second, rfl, renumbered⟩
  | cons c front inductionHypothesis =>
      rw [List.mem_cons, not_or] at plain
      obtain ⟨others, rfl, onward⟩ := renumbered.exists_eq_cons (Ne.symm plain.1)
      obtain ⟨more, rfl, later⟩ := inductionHypothesis onward plain.2
      exact ⟨more, rfl, later⟩

/-- Renumbering changes nothing but digits. -/
theorem maxTokens_eq
    (renumbered : Renumbered first second) :
    maxTokens first = maxTokens second := by
  have none {digits : List Char} (areDigits : ∀ c ∈ digits, c.isDigit = true) :
      digits.countP (fun c => !c.isDigit) = 0 :=
    List.countP_eq_zero.mpr fun c present => by simp [areDigits c present]
  suffices first.countP (fun c => !c.isDigit) = second.countP (fun c => !c.isDigit) by
    unfold maxTokens
    rw [this]
  induction renumbered with
  | nil => rfl
  | cons c _ inductionHypothesis => rw [List.countP_cons, List.countP_cons, inductionHypothesis]
  | number areDigits othersAreDigits _ inductionHypothesis =>
      simp only [List.countP_cons, List.countP_append, none areDigits, none othersAreDigits,
        inductionHypothesis]

/-! ### Skipping characters -/

/-- Digits pass a test exactly if the underscore does. -/
def Uniform (test : Char → Bool) : Prop := ∀ c, c.isDigit = true → test c = test '_'

theorem uniform_of_digits
    {test : Char → Bool}
    (same : ∀ k : Fin 10, test (Char.ofNat (48 + k)) = test '_') :
    Uniform test :=
  fun _ digit => Text.forall_isDigit (fun c => test c = test '_') same digit

/-- What passes the test is skipped with all the digits of a number, or not at all. -/
theorem dropWhile
    {test : Char → Bool}
    (uniform : Uniform test)
    (renumbered : Renumbered first second) :
    Renumbered (first.dropWhile test) (second.dropWhile test) := by
  induction renumbered with
  | nil => exact .nil
  | cons c onward inductionHypothesis =>
      rw [List.dropWhile_cons, List.dropWhile_cons]
      split
      · exact inductionHypothesis
      · exact .cons c onward
  | @number digits others first second areDigits othersAreDigits onward inductionHypothesis =>
      rw [List.dropWhile_cons, List.dropWhile_cons]
      split
      · next passes =>
          have skipped {digits : List Char} (areDigits : ∀ c ∈ digits, c.isDigit = true)
              (rest : List Char) :
              (digits ++ '(' :: rest).dropWhile test = ('(' :: rest).dropWhile test :=
            List.dropWhile_append_of_pos fun c present =>
              (uniform c (areDigits c present)).trans passes
          rw [skipped areDigits, skipped othersAreDigits, List.dropWhile_cons, List.dropWhile_cons]
          split
          · exact inductionHypothesis
          · exact .cons '(' onward
      · exact .number areDigits othersAreDigits onward

/-- What passes the test is the same in both texts, or a number ends it. -/
theorem takeWhile
    {test : Char → Bool}
    (uniform : Uniform test)
    (ends : test '(' = false)
    (renumbered : Renumbered first second) :
    first.takeWhile test = second.takeWhile test ∨ (first.dropWhile test).head? = some '(' := by
  induction renumbered with
  | nil => exact .inl rfl
  | cons c onward inductionHypothesis =>
      rw [List.takeWhile_cons, List.takeWhile_cons, List.dropWhile_cons]
      split
      · exact inductionHypothesis.imp (congrArg (c :: ·)) id
      · exact .inl rfl
  | @number digits others first second areDigits othersAreDigits onward inductionHypothesis =>
      rw [List.takeWhile_cons, List.takeWhile_cons, List.dropWhile_cons]
      split
      · next passes =>
          refine .inr ?_
          rw [List.dropWhile_append_of_pos fun c present =>
            (uniform c (areDigits c present)).trans passes, List.dropWhile_cons, ends]
          rfl
      · exact .inl rfl

end Renumbered

/-! ### Partial results -/

section

variable {α β : Type} {agree : α → α → Prop} {first second : Option α}

/-- Two partial results are alike if the first has a counterpart whenever it is there, and is there
whenever the second is. -/
theorem optionRel_of_some
    (forward : ∀ {value}, first = some value → ∃ other, second = some other ∧ agree value other)
    (backward : ∀ {other}, second = some other → ∃ value, first = some value) :
    Option.Rel agree first second := by
  cases found : first with
  | some value =>
      obtain ⟨other, rfl, same⟩ := forward found
      exact .some same
  | none =>
      cases otherFound : second with
      | none => exact .none
      | some other =>
          obtain ⟨value, present⟩ := backward otherFound
          exact absurd (found.symm.trans present) nofun

/-- Partial results that are alike are both missing, or both there and alike. -/
theorem optionRel_cases
    (alike : Option.Rel agree first second) :
    (first = none ∧ second = none) ∨
      ∃ value other, first = some value ∧ second = some other ∧ agree value other := by
  cases alike with
  | none => exact .inl ⟨rfl, rfl⟩
  | some same => exact .inr ⟨_, _, rfl, rfl, same⟩

theorem optionRel_map
    {later : β → β → Prop}
    (alike : Option.Rel agree first second)
    {transform other : α → β}
    (preserves : ∀ {found otherFound}, agree found otherFound →
      later (transform found) (other otherFound)) :
    Option.Rel later (first.map transform) (second.map other) := by
  cases alike with
  | none => exact .none
  | some same => exact .some (preserves same)

theorem optionRel_bind
    {later : β → β → Prop}
    (alike : Option.Rel agree first second)
    {onward other : α → Option β}
    (preserves : ∀ {found otherFound}, agree found otherFound →
      Option.Rel later (onward found) (other otherFound)) :
    Option.Rel later (first.bind onward) (second.bind other) := by
  cases alike with
  | none => exact .none
  | some same => exact preserves same

end

/-! ### Places -/

/-- Places from where on two texts are alike but for their numbers. -/
abbrev Place.Agree (first second : Place) : Prop := Renumbered first.rest second.rest

theorem Place.Agree.skipWhile
    {first second : Place}
    (agree : first.Agree second)
    {test : Char → Bool}
    (uniform : Renumbered.Uniform test) :
    (first.skipWhile test).Agree (second.skipWhile test) := by
  rw [Place.Agree, rest_skipWhile, rest_skipWhile]
  exact Renumbered.dropWhile uniform agree

/-! ### Gaps -/

/-- What two readers found behind a gap. -/
def GapsAgree (first second : Bool × Place) : Prop :=
  first.1 = second.1 ∧ first.2.Agree second.2

/-- A comment goes on behind an underscore and digits. -/
theorem exists_skipGap_number
    {gap : Gap}
    (comment : gap ≠ .blank)
    {digits : List Char}
    (areDigits : ∀ c ∈ digits, c.isDigit = true)
    (newline : Bool)
    (offset : Nat)
    (rest : List Char) :
    ∃ behind, skipGap gap newline offset ('_' :: (digits ++ rest)) =
      skipGap gap newline behind rest := by
  have step (c : Char) (more : List Char) (offset : Nat)
      (inside : isLineTerminator c = false ∧ c ≠ '*') :
      skipGap gap newline offset (c :: more) =
        skipGap gap newline (offset + c.utf8Size) more := by
    cases gap with
    | blank => exact absurd rfl comment
    | lineComment => rw [skipGap, if_neg (by simp [inside.1])]
    | blockComment =>
        rw [skipGap, inside.1, Bool.or_false]
        exact fun _ star => absurd star inside.2
  rw [step '_' _ _ (by decide)]
  generalize offset + '_'.utf8Size = offset
  induction digits generalizing offset with
  | nil => exact ⟨offset, rfl⟩
  | cons c digits inductionHypothesis =>
      obtain ⟨digit, others⟩ := List.forall_mem_cons.mp areDigits
      rw [List.cons_append, step c _ _
        (Text.forall_isDigit (fun c => isLineTerminator c = false ∧ c ≠ '*') (by decide) digit)]
      exact inductionHypothesis others _

/-- Gaps end at the same place of renumbered texts. -/
theorem renumbered_skipGap
    {first second : List Char}
    (renumbered : Renumbered first second)
    (gap : Gap)
    (newline : Bool)
    (offset other : Nat) :
    Option.Rel GapsAgree (skipGap gap newline offset first) (skipGap gap newline other second) := by
  have stays (newline : Bool) (offset other : Nat) : Option.Rel GapsAgree
      (some (newline, ⟨offset, first⟩)) (some (newline, ⟨other, second⟩)) :=
    .some ⟨rfl, renumbered⟩
  cases renumbered with
  | nil => cases gap <;> grind [skipGap, Option.Rel]
  | @cons c first second onward =>
      have next := renumbered_skipGap onward
      rw [skipGap.eq_def gap newline offset, skipGap.eq_def gap newline other]
      -- Two characters may begin or end a comment together.
      cases onward with
      | nil => cases gap <;> grind [Option.Rel]
      | @cons d first second onward =>
          have later := renumbered_skipGap onward
          cases gap <;> grind
      | number areDigits othersAreDigits onward => cases gap <;> grind
  | @number digits others first second areDigits othersAreDigits onward =>
      have behind := renumbered_skipGap (.cons '(' onward)
      have comment (noBlank : gap ≠ .blank) : Option.Rel GapsAgree
          (skipGap gap newline offset ('_' :: (digits ++ '(' :: first)))
          (skipGap gap newline other ('_' :: (others ++ '(' :: second))) := by
        obtain ⟨_, skipped⟩ := exists_skipGap_number noBlank areDigits newline offset ('(' :: first)
        obtain ⟨_, otherSkipped⟩ :=
          exists_skipGap_number noBlank othersAreDigits newline other ('(' :: second)
        rw [skipped, otherSkipped]
        exact behind _ _ _ _
      cases gap with
      | blank =>
          have noGap : beginsGap '_' = false := by decide
          rw [skipGap_of_not_beginsGap _ _ noGap, skipGap_of_not_beginsGap _ _ noGap]
          exact stays _ _ _
      | lineComment => exact comment (by decide)
      | blockComment => exact comment (by decide)
termination_by first.length

/-! ### Names -/

/-- Names that are alike, or that both have an underscore in them. -/
def NamesAgree (first second : List Char) : Prop := first = second ∨ '_' ∈ first ∧ '_' ∈ second

theorem NamesAgree.cons
    {first second : List Char}
    (agree : NamesAgree first second)
    (c : Char) :
    NamesAgree (c :: first) (c :: second) := by
  rcases agree with rfl | ⟨inFirst, inSecond⟩
  · exact .inl rfl
  · exact .inr ⟨List.mem_cons_of_mem c inFirst, List.mem_cons_of_mem c inSecond⟩

theorem plain_of_hexDigit?
    {c : Char}
    {digit : Nat}
    (value : hexDigit? c = some digit) :
    c ≠ '_' := by
  rintro rfl
  have noDigit : hexDigit? '_' = none := by decide
  exact absurd (value.symm.trans noDigit) nofun

theorem plain_of_hexByte?
    {a b : Char}
    {point : Nat}
    (value : hexByte? a b = some point) :
    '_' ∉ [a, b] := by
  unfold hexByte? at value
  split at value
  · next high low => simp [(plain_of_hexDigit? high).symm, (plain_of_hexDigit? low).symm]
  · exact absurd value (by simp)

theorem plain_of_hexUnit?
    {a b c d : Char}
    {point : Nat}
    (value : hexUnit? a b c d = some point) :
    '_' ∉ [a, b, c, d] := by
  unfold hexUnit? at value
  split at value
  · next high low =>
      have front := plain_of_hexByte? high
      have back := plain_of_hexByte? low
      simp_all
  · exact absurd value (by simp)

/-- What two readers of names found. -/
structure NameReading.Agree (first second : NameReading) : Prop where
  chars : NamesAgree first.chars second.chars
  escaped : first.escaped = second.escaped
  stop : first.stop.Agree second.stop

theorem readName_cons
    {c : Char}
    (plain : c ≠ '\\')
    (first : Bool)
    (offset : Nat)
    (rest : List Char) :
    readName first none offset (c :: rest) =
      if isNamePoint first c.toNat then
        (readName false none (offset + c.utf8Size) rest).map (.cons c false)
      else some ⟨[], false, ⟨offset, c :: rest⟩⟩ := by
  rw [readName.eq_def]
  grind

theorem isNamePoint_underscore
    (first : Bool) :
    isNamePoint first '_'.toNat = true := by
  revert first
  decide

/-- A name goes on with digits up to a parenthesis. -/
theorem exists_readName_digits
    {digits : List Char}
    (areDigits : ∀ c ∈ digits, c.isDigit = true)
    (offset : Nat)
    (rest : List Char) :
    ∃ behind, readName false none offset (digits ++ '(' :: rest) =
      some ⟨digits, false, ⟨behind, '(' :: rest⟩⟩ := by
  induction digits generalizing offset with
  | nil => exact ⟨offset, by rw [List.nil_append, readName_cons (by decide), if_neg (by decide)]⟩
  | cons c digits inductionHypothesis =>
      obtain ⟨digit, others⟩ := List.forall_mem_cons.mp areDigits
      obtain ⟨behind, later⟩ := inductionHypothesis others (offset + c.utf8Size)
      have inName : c ≠ '\\' ∧ isNamePoint false c.toNat = true :=
        Text.forall_isDigit (fun c => c ≠ '\\' ∧ isNamePoint false c.toNat = true) (by decide) digit
      refine ⟨behind, ?_⟩
      rw [List.cons_append, readName_cons inName.1, if_pos inName.2, later]
      rfl

/-- A number is read as the end of a name. -/
theorem exists_readName_number
    {digits : List Char}
    (areDigits : ∀ c ∈ digits, c.isDigit = true)
    (first : Bool)
    (offset : Nat)
    (rest : List Char) :
    ∃ behind, readName first none offset ('_' :: (digits ++ '(' :: rest)) =
      some ⟨'_' :: digits, false, ⟨behind, '(' :: rest⟩⟩ := by
  obtain ⟨behind, later⟩ := exists_readName_digits areDigits (offset + '_'.utf8Size) rest
  refine ⟨behind, ?_⟩
  rw [readName_cons (by decide), if_pos (isNamePoint_underscore first), later]
  rfl

/-- A name that begins with one more character is read alike if the others are. -/
theorem NameReading.exists_map_cons
    {read otherRead : Option NameReading}
    (agree : ∀ {name : NameReading}, read = some name →
      ∃ reading, otherRead = some reading ∧ name.Agree reading)
    {c : Char}
    {escaped : Bool}
    {name : NameReading}
    (begun : read.map (.cons c escaped) = some name) :
    ∃ reading, otherRead.map (.cons c escaped) = some reading ∧ name.Agree reading := by
  obtain ⟨rest, found, rfl⟩ := Option.map_eq_some_iff.mp begun
  obtain ⟨reading, otherFound, same⟩ := agree found
  exact ⟨reading.cons c escaped, by rw [otherFound]; rfl,
    ⟨same.chars.cons c, congrArg (escaped || ·) same.escaped, same.stop⟩⟩

/-- Names are read alike. -/
theorem exists_readName_of_renumbered
    {first : Bool}
    {braced : Option Nat}
    {offset : Nat}
    {text second : List Char}
    {name : NameReading}
    (read : readName first braced offset text = some name)
    (renumbered : Renumbered text second)
    (other : Nat) :
    ∃ reading, readName first braced other second = some reading ∧ name.Agree reading := by
  fun_induction readName first braced offset text generalizing second other name
  case case1 =>
    cases renumbered
    cases read
    exact ⟨_, readName.eq_1 .., ⟨.inl rfl, rfl, .nil⟩⟩
  case case3 first point offset rest inName inductionHypothesis =>
    obtain ⟨more, rfl, later⟩ := renumbered.exists_eq_cons (by decide)
    rw [readName, if_pos rfl, if_pos inName]
    exact NameReading.exists_map_cons (inductionHypothesis · later _) read
  case case5 first point offset c rest inside digit value bounded inductionHypothesis =>
    obtain ⟨more, rfl, later⟩ := renumbered.exists_eq_cons (plain_of_hexDigit? value)
    rw [readName, if_neg inside, value]
    simp only [if_pos bounded]
    exact inductionHypothesis read later _
  case case8 first offset c rest digit value inductionHypothesis =>
    obtain ⟨more, rfl, later⟩ := renumbered.exists_eq_append ['\\', 'u', '\x7b', c]
      (by simp [(plain_of_hexDigit? value).symm])
    simp only [List.cons_append, List.nil_append]
    rw [readName, value]
    exact inductionHypothesis read later _
  case case10 first offset a b c d rest unbraced point value inName inductionHypothesis =>
    obtain ⟨more, rfl, later⟩ := renumbered.exists_eq_append ['\\', 'u', a, b, c, d]
      (by simpa using plain_of_hexUnit? value)
    simp only [List.cons_append, List.nil_append]
    rw [readName.eq_5 _ _ _ _ _ _ _ unbraced, value]
    simp only [if_pos inName]
    exact NameReading.exists_map_cons (inductionHypothesis · later _) read
  case case14 first offset c rest _ _ plain inName inductionHypothesis =>
    cases renumbered with
    | cons c later =>
        rw [readName_cons plain, if_pos inName]
        exact NameReading.exists_map_cons (inductionHypothesis · later _) read
    | number areDigits othersAreDigits later =>
        obtain ⟨_, behind⟩ := exists_readName_digits areDigits (offset + '_'.utf8Size) _
        obtain ⟨_, otherBehind⟩ := exists_readName_number othersAreDigits first other _
        rw [behind] at read
        cases read
        exact ⟨_, otherBehind, ⟨.inr ⟨List.mem_cons_self, List.mem_cons_self⟩, rfl, .cons '(' later⟩⟩
  case case15 first offset c rest _ _ plain noName =>
    cases read
    cases renumbered with
    | cons c later =>
        rw [readName_cons plain, if_neg noName]
        exact ⟨_, rfl, ⟨.inl rfl, rfl, .cons c later⟩⟩
    | number => exact absurd (isNamePoint_underscore first) noName
  all_goals exact absurd read nofun

theorem renumbered_readName
    {text second : List Char}
    (renumbered : Renumbered text second)
    (first : Bool)
    (braced : Option Nat)
    (offset other : Nat) :
    Option.Rel NameReading.Agree (readName first braced offset text)
      (readName first braced other second) := by
  refine optionRel_of_some (exists_readName_of_renumbered · renumbered other) fun read => ?_
  obtain ⟨reading, found, -⟩ := exists_readName_of_renumbered read renumbered.symm offset
  exact ⟨reading, found⟩

end Script
end MessageExpansion
