import MessageExpansion.Proofs.Pattern.Cursor

/-!
# What a cursor reads

A reader with a cursor agrees with a reader of texts if it does the same with the cursor in front of
a text that the other one does with that text: it fails with the same problem at the same place, or
it reads the same and leaves the cursor in front of the text that is left over.  So the cursor is
where a rest of the whole text begins, between two characters, and whatever is read moves it on.

A loop agrees with a reader of texts if each of its turns reads the beginning of what that one
reads.
-/

namespace MessageExpansion
namespace Pattern
namespace Cursor

open Text (IsBoundary Reading byteLength isBlank skipBlanks readUnsigned?)

/-! ### Agreement -/

/-- What was read, without the promise that it was something. -/
def forget {α : Type} {bound : Nat} (result : Except Failure (Reading bound α)) :
    Except Failure (α × List Char) :=
  result.map fun reading => (reading.value, reading.rest)

theorem forget_ok
    {α : Type}
    {bound : Nat}
    (reading : Reading bound α) :
    forget (.ok reading) = .ok (reading.value, reading.rest) := rfl

theorem length_lt_of_forget
    {α : Type}
    {bound : Nat}
    {result : Except Failure (Reading bound α)}
    {value : α}
    {rest : List Char}
    (read : forget result = .ok (value, rest)) :
    rest.length < bound := by
  cases result with
  | error failure => cases read
  | ok reading =>
      cases read
      exact reading.shorter

/-- What a reader with a cursor leads to, and what reading the text behind the cursor leads to. -/
inductive Ends (whole input : List Char) {α : Type} :
    Except Stop (α × Nat) → Except Failure (α × List Char) → Prop
  | read {value : α} {rest : List Char} (suffix : rest <:+ input) :
      Ends whole input (.ok (value, offsetOf whole rest)) (.ok (value, rest))
  | failed {problem : PatternProblem} {rest : List Char} (suffix : rest <:+ whole) :
      Ends whole input (.error (.error ⟨problem, offsetOf whole rest⟩)) (.error ⟨problem, rest⟩)

/-- With the cursor in front of the text `input`, a reader does what reading that text does. -/
def Agrees (whole input : List Char) {α : Type} (reader : Step α)
    (read : Except Failure (α × List Char)) : Prop :=
  input <:+ whole → Ends whole input (reader (offsetOf whole input)) read

section

variable {whole input rest : List Char} {α β : Type} {reader : Step α} {next : α → Step β}

theorem Agrees.bind
    {value : α}
    {read : Except Failure (β × List Char)}
    (first : Agrees whole input reader (.ok (value, rest)))
    (second : rest <:+ whole → Agrees whole rest (next value) read) :
    Agrees whole input (reader >>= next) read := by
  intro suffix
  have reached := first suffix
  change Ends whole input
    (reader (offsetOf whole input) >>= fun result => next result.1 result.2) read
  generalize reader (offsetOf whole input) = outcome at reached
  cases reached with
  | read behind =>
      have within := behind.trans suffix
      have led := second within within
      change Ends whole input (next value (offsetOf whole rest)) read
      generalize next value (offsetOf whole rest) = last at led
      cases led with
      | read further => exact .read (further.trans behind)
      | failed within => exact .failed within

theorem Agrees.bind_error
    {failure : Failure}
    (first : Agrees whole input reader (.error failure)) :
    Agrees whole input (reader >>= next) (.error failure) := by
  intro suffix
  have reached := first suffix
  change Ends whole input
    (reader (offsetOf whole input) >>= fun result => next result.1 result.2) (.error failure)
  generalize reader (offsetOf whole input) = outcome at reached
  cases reached with
  | failed within => exact .failed within

/-- A reader before the rest of the reading, if it read something. -/
theorem Agrees.bind_of_ok
    {bound : Nat}
    {result : Except Failure (Reading bound α)}
    {reading : Reading bound α}
    {read : Except Failure (β × List Char)}
    (first : Agrees whole input reader (forget result))
    (found : result = .ok reading)
    (second : reading.rest <:+ whole → Agrees whole reading.rest (next reading.value) read) :
    Agrees whole input (reader >>= next) read := by
  rw [found] at first
  exact first.bind second

/-- A reader before the rest of the reading, if it failed. -/
theorem Agrees.bind_of_error
    {bound : Nat}
    {result : Except Failure (Reading bound α)}
    {failure : Failure}
    (first : Agrees whole input reader (forget result))
    (failed : result = .error failure) :
    Agrees whole input (reader >>= next) (.error failure) := by
  rw [failed] at first
  exact first.bind_error

theorem agrees_pure
    (value : α) :
    Agrees whole input (pure value) (.ok (value, input)) :=
  fun _ => .read List.suffix_rfl

/-- A reader of which the value is used. -/
theorem Agrees.map
    {read : Except Failure (α × List Char)}
    (first : Agrees whole input reader read)
    (use : α → β) :
    Agrees whole input (reader >>= fun value => pure (use value))
      (read.map fun (value, rest) => (use value, rest)) := by
  cases read with
  | error failure => exact first.bind_error
  | ok reading => exact first.bind fun _ => agrees_pure _

theorem agrees_get :
    Agrees whole input get (.ok (offsetOf whole input, input)) :=
  fun _ => .read List.suffix_rfl

theorem offsetOf_append
    (front back : List Char) :
    offsetOf (front ++ back) back = byteLength front := by
  simp [offsetOf]

/-- The text can be cut where the cursor is. -/
theorem isBoundary_offsetOf
    (suffix : rest <:+ whole) :
    IsBoundary whole (offsetOf whole rest) := by
  obtain ⟨front, rfl⟩ := suffix
  exact ⟨front, rest, rfl, (offsetOf_append front rest).symm⟩

theorem behind_offsetOf
    (suffix : rest <:+ whole) :
    behind whole (offsetOf whole rest) = pure rest := by
  rw [behind, if_pos (isBoundary_offsetOf suffix)]
  obtain ⟨front, rfl⟩ := suffix
  rw [offsetOf_append, Text.dropBytes_append]

theorem agrees_peek :
    Agrees whole input (peek whole) (.ok (input.head?, input)) := by
  unfold peek
  refine agrees_get.bind fun suffix => ?_
  rw [behind_offsetOf suffix]
  exact agrees_pure _

theorem agrees_moveTo
    {position : Nat}
    (suffix : rest <:+ input)
    (reached : position = offsetOf whole rest) :
    Agrees whole input (moveTo whole position) (.ok ((), rest)) := by
  intro within
  rw [moveTo, reached, if_pos (isBoundary_offsetOf (suffix.trans within))]
  exact .read suffix

/-- A part of the text is as long as the way over it. -/
theorem offsetOf_add
    {front : List Char}
    (suffix : front ++ rest <:+ whole) :
    offsetOf whole (front ++ rest) + byteLength front = offsetOf whole rest := by
  obtain ⟨before, rfl⟩ := suffix
  rw [offsetOf_append, ← List.append_assoc, offsetOf_append, Text.byteLength_append]

theorem agrees_bump
    {c : Char}
    (begins : input = c :: rest) :
    Agrees whole input (bump whole c) (.ok ((), rest)) := by
  subst begins
  unfold bump
  refine agrees_get.bind fun suffix => ?_
  exact agrees_moveTo (List.suffix_cons c rest) (@offsetOf_add whole rest [c] suffix)

theorem agrees_stop
    {problem : PatternProblem}
    (suffix : rest <:+ whole) :
    Agrees whole input (stop problem (offsetOf whole rest) : Step α) (.error ⟨problem, rest⟩) :=
  fun _ => .failed suffix

theorem agrees_found
    (problem : Found → PatternProblem) :
    Agrees whole input (found whole problem : Step α) (.error (.found problem input)) := by
  unfold found
  refine agrees_peek.bind fun _ => ?_
  exact agrees_get.bind agrees_stop

theorem agrees_expect
    (wanted : Char)
    (input : List Char) :
    Agrees whole input (expect whole wanted) (forget (Pattern.expect wanted input)) := by
  unfold expect
  refine agrees_peek.bind fun _ => ?_
  cases input with
  | nil => exact agrees_found _
  | cons c rest =>
      simp only [Pattern.expect, List.head?_cons, Option.some.injEq]
      by_cases same : c = wanted
      · rw [if_pos same, if_pos same, ← same]
        exact agrees_bump rfl
      · rw [if_neg same, if_neg same]
        exact agrees_found _

/-- The text between two places of the cursor is what it moved over. -/
theorem agrees_cutFrom
    {front : List Char}
    (suffix : front ++ rest <:+ whole) :
    Agrees whole rest (cutFrom whole (offsetOf whole (front ++ rest))) (.ok (front, rest)) := by
  unfold cutFrom
  refine agrees_get.bind fun restSuffix => ?_
  have moved := offsetOf_add suffix
  have between : Text.slice (offsetOf whole (front ++ rest)) (offsetOf whole rest) whole = front := by
    rw [← moved]
    obtain ⟨before, rfl⟩ := suffix
    rw [offsetOf_append, Text.slice_append]
  rw [if_pos ⟨isBoundary_offsetOf suffix, isBoundary_offsetOf restSuffix, by omega⟩, between]
  exact agrees_pure front

end

/-! ### Loops -/

/-- A turn of a loop that reads `meaning`: it ends the loop, or it leaves less to read, with the
same meaning. -/
inductive Turns {σ β : Type} (meaning : σ → List Char → Except Failure (β × List Char))
    (state : σ) (input : List Char) : Except Failure (Turn σ β × List Char) → Prop
  | failed {failure : Failure} (read : meaning state input = .error failure) :
      Turns meaning state input (.error failure)
  | done {value : β} {rest : List Char} (read : meaning state input = .ok (value, rest)) :
      Turns meaning state input (.ok (.done value, rest))
  | again {later : σ} {rest : List Char} (shorter : rest.length < input.length)
      (read : meaning state input = meaning later rest) :
      Turns meaning state input (.ok (.again later, rest))

section

variable {whole input : List Char}

/-- The cursor moves on where text is read. -/
theorem advances_offsetOf
    {rest : List Char}
    (within : input <:+ whole)
    (restWithin : rest <:+ whole)
    (shorter : rest.length < input.length) :
    Advances whole (offsetOf whole input) (offsetOf whole rest) := by
  obtain ⟨read, rfl⟩ := List.suffix_of_suffix_length_le restWithin within (Nat.le_of_lt shorter)
  have moved := offsetOf_add within
  have nonempty : byteLength read ≠ 0 := by
    intro none
    rw [Text.eq_nil_of_byteLength_eq_zero none] at shorter
    exact Nat.lt_irrefl _ shorter
  exact ⟨by omega, Nat.sub_le _ _⟩

/-- A loop reads what its turns read. -/
theorem agrees_loop
    {σ β : Type}
    {turn : σ → Step (Turn σ β)}
    (meaning : σ → List Char → Except Failure (β × List Char))
    {bound : Nat}
    (turns : ∀ state input, input.length ≤ bound →
      ∃ read, Agrees whole input (turn state) read ∧ Turns meaning state input read)
    (state : σ)
    (input : List Char)
    (fits : input.length ≤ bound) :
    Agrees whole input (loop whole turn state) (meaning state input) := by
  intro within
  obtain ⟨read, agrees, turned⟩ := turns state input fits
  have reached := agrees within
  rw [loop]
  generalize turn state (offsetOf whole input) = outcome at reached
  cases turned with
  | failed read =>
      rw [read]
      cases reached with
      | failed inside => exact .failed inside
  | done read =>
      rw [read]
      cases reached with
      | read behind => exact .read behind
  | @again later rest shorter read =>
      rw [read]
      cases reached with
      | read behind =>
          -- The turn moved the cursor on, so the rest of the loop is taken.
          have restWithin := behind.trans within
          simp only [dif_pos (advances_offsetOf within restWithin shorter)]
          have remaining := agrees_loop meaning turns later rest (by omega) restWithin
          generalize loop whole turn _ _ = last, meaning later _ = meant at remaining
          cases remaining with
          | read further => exact .read (further.trans behind)
          | failed inside => exact .failed inside
termination_by input.length

theorem agrees_skipWhile
    (test : Char → Bool) :
    Agrees whole input (skipWhile whole test) (.ok ((), input.dropWhile test)) := by
  refine agrees_loop (fun _ input => .ok ((), input.dropWhile test)) ?_ () input (Nat.le_refl _)
  rintro ⟨⟩ input -
  unfold skipTurn
  cases input with
  | nil => exact ⟨_, agrees_peek.bind fun _ => agrees_pure _, .done rfl⟩
  | cons c rest =>
      by_cases passes : test c = true
      · refine ⟨.ok (.again (), rest), agrees_peek.bind fun _ => ?_, .again (by simp) ?_⟩
        · simp only [List.head?_cons, passes, if_true]
          exact (agrees_bump rfl).bind fun _ => agrees_pure _
        · rw [List.dropWhile_cons_of_pos passes]
      · refine ⟨.ok (.done (), c :: rest), agrees_peek.bind fun _ => ?_, .done ?_⟩
        · simp only [List.head?_cons, passes]
          exact agrees_pure _
        · rw [List.dropWhile_cons_of_neg passes]

theorem agrees_skipBlanks :
    Agrees whole input (skipWhile whole isBlank) (.ok ((), skipBlanks input)) :=
  agrees_skipWhile isBlank

theorem agrees_skipBlanks_of_eq
    {start : List Char}
    (begins : skipBlanks input = start) :
    Agrees whole input (skipWhile whole isBlank) (.ok ((), start)) :=
  begins ▸ agrees_skipBlanks

theorem agrees_word :
    Agrees whole input (word whole) (.ok ((Pattern.word input).1, (Pattern.word input).2)) := by
  unfold word
  refine agrees_get.bind fun suffix => (agrees_skipWhile isWordChar).bind fun _ => ?_
  have parts : (Pattern.word input).1 ++ (Pattern.word input).2 = input :=
    List.takeWhile_append_dropWhile
  have between := agrees_cutFrom (parts.symm ▸ suffix)
  rwa [parts] at between

/-! ### Arguments -/

/-- A style begins with a comma. -/
theorem agrees_style? :
    Agrees whole input (style? whole) (forget (Pattern.style? input)) := by
  unfold style?
  refine agrees_peek.bind fun _ => ?_
  by_cases comma : input.head? = some ','
  · obtain ⟨rest, rfl⟩ := List.head?_eq_some_iff.mp comma
    rw [if_pos comma]
    refine (agrees_bump rfl).bind fun _ => agrees_skipBlanks.bind fun _ => ?_
    have named : Agrees whole (skipBlanks rest) (word whole) _ := agrees_word
    rw [Pattern.style?]
    split
    · next after read =>
        rw [read] at named
        exact named.bind fun _ => agrees_found _
    · next name after nonempty read =>
        rw [read] at named
        refine named.bind fun _ => ?_
        rw [if_neg (by simpa using nonempty)]
        exact agrees_skipBlanks.bind fun _ => agrees_pure _
  · rw [if_neg comma, Pattern.style?.eq_def]
    split
    · next => simp at comma
    · exact agrees_pure none

theorem agrees_formatted
    {σ : Type}
    (type : String)
    (unstyled : σ)
    (styles : String → Option σ)
    (input : List Char) :
    Agrees whole input (formatted whole type unstyled styles)
      (forget (Pattern.formatted type unstyled styles input)) := by
  unfold formatted Pattern.formatted
  cases read : Pattern.style? input with
  | error failure => exact agrees_style?.bind_of_error read
  | ok reading =>
      refine agrees_style?.bind_of_ok read fun _ => ?_
      obtain ⟨keyword, rest, shorter⟩ := reading
      cases keyword with
      | none =>
          dsimp only
          split
          · next failed => exact (agrees_expect _ _).bind_of_error failed
          · next read => exact (agrees_expect _ _).bind_of_ok read fun _ => agrees_pure unstyled
      | some name =>
          dsimp only
          cases styles name with
          | none => exact agrees_get.bind agrees_stop
          | some style =>
              dsimp only
              split
              · next failed => exact (agrees_expect _ _).bind_of_error failed
              · next read => exact (agrees_expect _ _).bind_of_ok read fun _ => agrees_pure style

/-- The mark of an offset is moved over by its length. -/
theorem agrees_pluralOffset
    (input : List Char) :
    Agrees whole input (pluralOffset whole) (forget (Pattern.pluralOffset input)) := by
  unfold pluralOffset Pattern.pluralOffset
  refine agrees_get.bind fun suffix => ?_
  rw [behind_offsetOf suffix, pure_bind]
  split
  · next marked =>
      have parts : offsetMark ++ input.drop offsetMark.length = input :=
        List.prefix_iff_eq_append.mp (List.isPrefixOf_iff_prefix.mp marked)
      have moved := offsetOf_add (parts.symm ▸ suffix)
      rw [parts] at moved
      refine (agrees_moveTo (List.drop_suffix _ _) moved).bind fun _ => ?_
      refine agrees_skipBlanks.bind fun _ => agrees_word.bind fun _ => ?_
      dsimp only
      generalize readUnsigned? UInt32.size _ = numeral
      cases numeral with
      | none => exact agrees_get.bind agrees_stop
      | some value => exact agrees_pure _
  · exact agrees_pure 0

theorem agrees_pluralSelector
    (input : List Char) :
    Agrees whole input (pluralSelector whole) (forget (Pattern.pluralSelector input)) := by
  unfold pluralSelector
  refine agrees_get.bind fun suffix => agrees_peek.bind fun _ => ?_
  by_cases equals : input.head? = some '='
  · obtain ⟨rest, rfl⟩ := List.head?_eq_some_iff.mp equals
    rw [if_pos equals, Pattern.pluralSelector]
    refine (agrees_bump rfl).bind fun _ => agrees_word.bind fun _ => ?_
    generalize readUnsigned? UInt64.size _ = numeral
    cases numeral with
    | none => exact agrees_stop suffix
    | some value => exact agrees_pure _
  · rw [if_neg equals, Pattern.pluralSelector.eq_def]
    split
    · next => simp at equals
    · refine agrees_word.bind fun _ => ?_
      dsimp only
      split
      · exact agrees_pure _
      · exact agrees_stop suffix

theorem agrees_typed
    (name : String)
    (input : List Char) :
    Agrees whole input (typed whole name) (forget (Pattern.typed name input)) := by
  unfold typed Pattern.typed
  refine agrees_get.bind fun suffix => agrees_word.bind fun _ => agrees_skipBlanks.bind fun _ => ?_
  dsimp only
  generalize String.ofList (Pattern.word input).1 = type
  by_cases number : type = "number"
  · subst number
    simp only
    split
    · next failed => exact (agrees_formatted _ _ _ _).bind_of_error failed
    · next read => exact (agrees_formatted _ _ _ _).bind_of_ok read fun _ => agrees_pure _
  by_cases date : type = "date"
  · subst date
    simp only
    split
    · next failed => exact (agrees_formatted _ _ _ _).bind_of_error failed
    · next read => exact (agrees_formatted _ _ _ _).bind_of_ok read fun _ => agrees_pure _
  by_cases time : type = "time"
  · subst time
    simp only
    split
    · next failed => exact (agrees_formatted _ _ _ _).bind_of_error failed
    · next read => exact (agrees_formatted _ _ _ _).bind_of_ok read fun _ => agrees_pure _
  by_cases select : type = "select"
  · subst select
    simp only
    split
    · next failed => exact (agrees_expect _ _).bind_of_error failed
    · next read => exact (agrees_expect _ _).bind_of_ok read fun _ => agrees_pure _
  by_cases missing : type = ""
  · subst missing
    exact agrees_found _
  simp only
  split
  · split
    · next failed => exact (agrees_expect _ _).bind_of_error failed
    · next after shorter read =>
        refine (agrees_expect _ _).bind_of_ok read fun _ => agrees_skipBlanks.bind fun _ => ?_
        simp only
        split
        · next failed => exact (agrees_pluralOffset _).bind_of_error failed
        · next read => exact (agrees_pluralOffset _).bind_of_ok read fun _ => agrees_pure _
  · exact agrees_stop suffix

theorem agrees_head
    (input : List Char) :
    Agrees whole input (head whole) (forget (Pattern.head input)) := by
  unfold head Pattern.head
  refine agrees_skipBlanks.bind fun _ => agrees_word.bind fun _ => ?_
  simp only
  split
  · exact agrees_found _
  · refine agrees_skipBlanks.bind fun _ => agrees_peek.bind fun _ => ?_
    split
    · next closes =>
        split
        · next separated => exact (agrees_bump separated).bind fun _ => agrees_pure _
        · next separated => simp [separated] at closes
        · next noBrace _ =>
            obtain ⟨rest, begun⟩ := List.head?_eq_some_iff.mp closes
            exact absurd begun (noBrace rest)
    · next announces =>
        split
        · next separated => simp [separated] at announces
        · next rest separated =>
            refine (agrees_bump separated).bind fun _ => agrees_skipBlanks.bind fun _ => ?_
            have reads : Agrees whole (skipBlanks rest) _ _ :=
              agrees_typed (String.ofList (Pattern.word (skipBlanks input)).1) (skipBlanks rest)
            split
            · next failed =>
                rw [failed] at reads
                exact reads
            · next read =>
                rw [read] at reads
                exact reads
        · next _ noComma =>
            obtain ⟨rest, begun⟩ := List.head?_eq_some_iff.mp announces
            exact absurd begun (noComma rest)
    · next noBrace noComma =>
        split
        · next separated => simp [separated] at noBrace
        · next separated => simp [separated] at noComma
        · exact agrees_found _

end

end Cursor
end Pattern
end MessageExpansion
