import MessageExpansion.Proofs.Pattern.Agreement
import MessageExpansion.Proofs.Pattern.Spelling

/-!
# The cursor stays between characters

Reading patterns by position agrees with reading texts.  Quoted texts, options, and elements are
read in loops, and patterns inside others by a reader of which it is only known that it agrees on
shorter texts.

So none of the checks ever stops the reader: the cursor is always between two characters of the
text, every turn of a loop moves it on, and what is wrong with a text is said to be wrong at a place
between two of its characters.
-/

namespace MessageExpansion
namespace Pattern
namespace Cursor

open Text (IsBoundary Reading byteLength isBlank skipBlanks)

/-! ### Quotes -/

/-- The text up to the end of the quotes, and what follows them. -/
def quotedRun : List Char → List Char × List Char
  | [] => ([], [])
  | '\'' :: '\'' :: rest => consText '\'' (quotedRun rest)
  | '\'' :: rest => ([], rest)
  | c :: rest => consText c (quotedRun rest)

theorem length_quotedRun_le
    (input : List Char) :
    (quotedRun input).2.length ≤ input.length := by
  fun_induction quotedRun input <;> simp_all [consText] <;> omega

/-- A run of text that starts inside quotes goes on behind them. -/
theorem textRun_quoting
    (inPlural : Bool)
    (input : List Char) :
    textRun inPlural true input =
      ((quotedRun input).1 ++ (textRun inPlural false (quotedRun input).2).1,
        (textRun inPlural false (quotedRun input).2).2) := by
  fun_induction quotedRun input <;> simp_all [textRun, consText]

section

variable {whole : List Char}

theorem agrees_quotedTurns
    (text input : List Char) :
    Agrees whole input (loop whole (quotedTurn whole) text)
      (.ok (text ++ (quotedRun input).1, (quotedRun input).2)) := by
  refine agrees_loop (fun text input => .ok (text ++ (quotedRun input).1, (quotedRun input).2)) ?_
    text input (Nat.le_refl _)
  intro text input _
  unfold quotedTurn
  fun_cases quotedRun input with
  | case1 => exact ⟨_, agrees_peek.bind fun _ => agrees_pure _, .done (by simp [quotedRun])⟩
  | case2 rest =>
      have fewer : rest.length < ('\'' :: '\'' :: rest).length :=
        Nat.lt_succ_of_lt (Nat.lt_succ_self _)
      refine ⟨.ok (.again (text ++ ['\'']), rest), ?_, .again fewer ?_⟩
      · refine agrees_peek.bind fun _ => (agrees_bump rfl).bind fun _ => ?_
        rw [if_pos rfl]
        refine agrees_peek.bind fun _ => ?_
        rw [if_pos List.head?_cons]
        exact (agrees_bump rfl).bind fun _ => agrees_pure _
      · simp [quotedRun, consText]
  | case3 rest single =>
      refine ⟨.ok (.done text, rest), ?_, .done ?_⟩
      · refine agrees_peek.bind fun _ => (agrees_bump rfl).bind fun _ => ?_
        rw [if_pos rfl]
        refine agrees_peek.bind fun _ => ?_
        rw [if_neg fun another => ?_]
        · exact agrees_pure _
        · obtain ⟨more, begun⟩ := List.head?_eq_some_iff.mp another
          exact single more begun
      · rw [quotedRun.eq_3 _ single, List.append_nil]
  | case4 c rest _ noQuote =>
      refine ⟨.ok (.again (text ++ [c]), rest), ?_, .again (by simp) ?_⟩
      · refine agrees_peek.bind fun _ => (agrees_bump rfl).bind fun _ => ?_
        rw [if_neg noQuote]
        exact agrees_pure _
      · rw [quotedRun.eq_4 _ _ (fun _ isQuote _ => noQuote isQuote) noQuote]
        simp [consText]

/-- An apostrophe is read with what it quotes, if it quotes something. -/
theorem exists_quoted
    (inPlural : Bool)
    (text rest : List Char) :
    ∃ run after, after.length ≤ rest.length ∧
      textRun inPlural false ('\'' :: rest) =
        (run ++ (textRun inPlural false after).1, (textRun inPlural false after).2) ∧
      Agrees whole ('\'' :: rest) (quoted whole inPlural text) (.ok (text ++ run, after)) := by
  unfold quoted
  cases rest with
  | nil =>
      refine ⟨['\''], [], Nat.le_refl _, by simp [textRun, consText, isSyntax], ?_⟩
      exact (agrees_bump rfl).bind fun _ => agrees_peek.bind fun _ => agrees_pure _
  | cons c rest =>
      by_cases another : c = '\''
      · subst another
        refine ⟨['\''], rest, by simp, by simp [textRun, consText], ?_⟩
        refine (agrees_bump rfl).bind fun _ => agrees_peek.bind fun _ => ?_
        exact (agrees_bump rfl).bind fun _ => agrees_pure _
      · by_cases opens : isSyntax inPlural c = true
        · refine ⟨(quotedRun (c :: rest)).1, (quotedRun (c :: rest)).2,
            length_quotedRun_le (c :: rest), ?_, ?_⟩
          · rw [← textRun_quoting]
            simp [textRun, another, opens]
          · refine (agrees_bump rfl).bind fun _ => agrees_peek.bind fun _ => ?_
            simp only [List.head?_cons, another, opens, if_true, if_false]
            exact agrees_quotedTurns text (c :: rest)
        · refine ⟨['\''], c :: rest, Nat.le_refl _, by simp [textRun, consText, another, opens], ?_⟩
          refine (agrees_bump rfl).bind fun _ => agrees_peek.bind fun _ => ?_
          simp only [List.head?_cons, another, opens, if_false]
          exact agrees_pure _

end

/-! ### Patterns inside patterns -/

/-- What is read behind what was read before. -/
def following {α : Type} (read : List Char → Except Failure (List α × List Char))
    (before : List α) (input : List Char) : Except Failure (List α × List Char) :=
  (read input).map fun (more, rest) => (before ++ more, rest)

theorem following_of_error
    {α : Type}
    {read : List Char → Except Failure (List α × List Char)}
    {before : List α}
    {input : List Char}
    {failure : Failure}
    (failed : read input = .error failure) :
    following read before input = .error failure := by
  rw [following, failed]
  rfl

theorem following_cons
    {α : Type}
    {read : List Char → Except Failure (List α × List Char)}
    {before : List α}
    {input after : List Char}
    {value : α}
    (first : read input = (read after).map fun (more, rest) => (value :: more, rest)) :
    following read before input = following read (before ++ [value]) after := by
  rw [following, following, first]
  cases read after with
  | error failure => rfl
  | ok reading => simp [Except.map]

/-- Patterns inside others are read as patterns, if less than `bound` characters are left. -/
def NestedAgrees (whole : List Char) (bound : Nat) (nested : Bool → Step Pattern) : Prop :=
  ∀ inPlural input, input.length < bound →
    Agrees whole input (nested inPlural) (forget (Pattern.elements inPlural input))

section

variable {whole : List Char} {bound : Nat} {nested : Bool → Step Pattern}
  (nestedAgrees : NestedAgrees whole bound nested)

include nestedAgrees

theorem agrees_braced
    (inPlural : Bool)
    {input : List Char}
    (fits : input.length ≤ bound) :
    Agrees whole input (braced whole nested inPlural) (forget (Pattern.braced inPlural input)) := by
  unfold braced
  rw [Pattern.braced]
  split
  · next failed => exact (agrees_expect _ _).bind_of_error failed
  · next inner opened read =>
      refine (agrees_expect _ _).bind_of_ok read fun _ => ?_
      have elementsAgree := nestedAgrees inPlural inner (by omega)
      split
      · next failed => exact elementsAgree.bind_of_error failed
      · next value rest shorter read =>
          refine elementsAgree.bind_of_ok read fun _ => ?_
          split
          · next failed => exact (agrees_expect _ _).bind_of_error failed
          · next read => exact (agrees_expect _ _).bind_of_ok read fun _ => agrees_pure value

end

/-- Options are read one after the other, up to the brace behind the last one. -/
structure ReadsOptions {α : Type} (one : List Char → Except Failure (α × List Char))
    (all : List Char → Except Failure (List α × List Char)) : Prop where
  /-- The options end with a closing brace. -/
  equation (input : List Char) : all input =
    match skipBlanks input with
    | [] => .error (.found (.expected '\x7d') [])
    | '\x7d' :: rest => .ok ([], rest)
    | start =>
        match one start with
        | .error failure => .error failure
        | .ok (option, after) => (all after).map fun (more, rest) => (option :: more, rest)
  /-- No option is empty. -/
  shorter {start : List Char} {option : α} {after : List Char}
    (read : one start = .ok (option, after)) : after.length < start.length

section

variable {whole : List Char} {α : Type} {option : Step α} {bound : Nat}
  {one : List Char → Except Failure (α × List Char)}
  {all : List Char → Except Failure (List α × List Char)}

theorem agrees_optionsTurn
    {options : List α}
    {input start : List Char}
    {read : Except Failure (Turn (List α) (List α) × List Char)}
    (begins : skipBlanks input = start)
    (nonempty : start ≠ [])
    (noBrace : ∀ rest, start ≠ '\x7d' :: rest)
    (agrees : Agrees whole start (return .again (options ++ [← option])) read) :
    Agrees whole input (optionsTurn whole option options) read := by
  refine (agrees_skipBlanks_of_eq begins).bind fun _ => agrees_peek.bind fun _ => ?_
  split
  · next none => exact absurd (List.head?_eq_none_iff.mp none) nonempty
  · next brace =>
      obtain ⟨rest, closes⟩ := List.head?_eq_some_iff.mp brace
      exact absurd closes (noBrace rest)
  · exact agrees

/-- Each turn reads an option, or the end of the options. -/
theorem ReadsOptions.exists_turn
    (reads : ReadsOptions one all)
    (agrees : ∀ start, start.length ≤ bound → Agrees whole start option (one start))
    (options : List α)
    (input : List Char)
    (fits : input.length ≤ bound) :
    ∃ read, Agrees whole input (optionsTurn whole option options) read ∧
      Turns (following all) options input read := by
  have blanks := Text.length_skipBlanks_le input
  have equation := reads.equation input
  split at equation
  · next empty =>
      refine ⟨.error (.found (.expected '\x7d') []), ?_, .failed (following_of_error equation)⟩
      refine (agrees_skipBlanks_of_eq empty).bind fun _ => agrees_peek.bind fun _ => ?_
      exact agrees_found _
  · next rest closes =>
      refine ⟨.ok (.done options, rest), ?_, .done ?_⟩
      · refine (agrees_skipBlanks_of_eq closes).bind fun _ => agrees_peek.bind fun _ => ?_
        exact (agrees_bump rfl).bind fun _ => agrees_pure _
      · rw [following, equation]
        simp [Except.map]
  · next nonempty noBrace =>
      have first := agrees (skipBlanks input) (by omega)
      split at equation
      · next failure failed =>
          rw [failed] at first
          exact ⟨_, agrees_optionsTurn rfl nonempty noBrace first.bind_error,
            .failed (following_of_error equation)⟩
      · next value after read =>
          have fewer := reads.shorter read
          rw [read] at first
          exact ⟨_, agrees_optionsTurn rfl nonempty noBrace (first.bind fun _ => agrees_pure _),
            .again (by omega) (following_cons equation)⟩

/-- The turns read all options. -/
theorem ReadsOptions.agrees
    (reads : ReadsOptions one all)
    (agrees : ∀ start, start.length ≤ bound → Agrees whole start option (one start))
    (input : List Char)
    (fits : input.length ≤ bound) :
    Agrees whole input (loop whole (optionsTurn whole option) []) (all input) := by
  have whole : following all [] input = all input := by
    rw [following]
    cases all input <;> simp [Except.map]
  exact whole ▸ agrees_loop (following all) (reads.exists_turn agrees) [] input fits

end

/-- Using what was read leaves over as much. -/
theorem length_lt_of_map
    {α β : Type}
    {bound : Nat}
    {result : Except Failure (Reading bound α)}
    {use : α → β}
    {value : β}
    {rest : List Char}
    (read : (forget result).map (fun (value, rest) => (use value, rest)) = .ok (value, rest)) :
    rest.length < bound := by
  cases isResult : forget result with
  | error failure =>
      rw [isResult] at read
      cases read
  | ok reading =>
      rw [isResult] at read
      cases read
      exact length_lt_of_forget isResult

/-- The first option of a plural. -/
def readPluralOption (start : List Char) : Except Failure (PluralOption × List Char) :=
  match forget (Pattern.pluralSelector start) with
  | .error failure => .error failure
  | .ok (selector, selected) =>
      (forget (Pattern.braced true (skipBlanks selected))).map fun (value, after) =>
        (.mk selector value, after)

/-- The first option of a select. -/
def readSelectOption (inPlural : Bool) (start : List Char) :
    Except Failure (SelectOption × List Char) :=
  if (Pattern.word start).1.isEmpty then
    .error (.found .expectedSelectKey (Pattern.word start).2)
  else
    (forget (Pattern.braced inPlural (skipBlanks (Pattern.word start).2))).map fun (value, after) =>
      (.mk (String.ofList (Pattern.word start).1) value, after)

theorem readsOptions_plural :
    ReadsOptions readPluralOption fun input => forget (Pattern.pluralOptions input) where
  equation input := by
    rw [Pattern.pluralOptions]
    split
    · next begun => simp [begun, forget, Except.map]
    · next begun => simp [begun, forget, Except.map]
    · next nonempty noBrace =>
        simp only
        unfold readPluralOption
        cases Pattern.pluralSelector (skipBlanks input) with
        | error failure => rfl
        | ok selector =>
            simp only [forget_ok]
            cases Pattern.braced true (skipBlanks selector.rest) with
            | error failure => rfl
            | ok value =>
                simp only [forget_ok, Except.map]
                cases Pattern.pluralOptions value.rest <;> rfl
  shorter {start option after} read := by
    unfold readPluralOption at read
    split at read
    · cases read
    · next selector selected readSelector =>
        have shorter := length_lt_of_forget readSelector
        have blanks := Text.length_skipBlanks_le selected
        have fewer := length_lt_of_map read
        omega

theorem readsOptions_select
    (inPlural : Bool) :
    ReadsOptions (readSelectOption inPlural) fun input =>
      forget (Pattern.selectOptions inPlural input) where
  equation input := by
    rw [Pattern.selectOptions]
    split
    · next begun => simp [begun, forget, Except.map]
    · next begun => simp [begun, forget, Except.map]
    · next nonempty noBrace =>
        simp only
        unfold readSelectOption
        split
        · rfl
        · cases Pattern.braced inPlural (skipBlanks (Pattern.word (skipBlanks input)).2) with
          | error failure => rfl
          | ok value =>
              simp only [forget_ok, Except.map]
              cases Pattern.selectOptions inPlural value.rest <;> rfl
  shorter {start option after} read := by
    unfold readSelectOption at read
    split at read
    · cases read
    · have named := length_word_le start
      have blanks := Text.length_skipBlanks_le (Pattern.word start).2
      have fewer := length_lt_of_map read
      omega

section

variable {whole : List Char} {bound : Nat} {nested : Bool → Step Pattern}
  (nestedAgrees : NestedAgrees whole bound nested)

include nestedAgrees

theorem agrees_pluralOption
    (start : List Char)
    (fits : start.length ≤ bound) :
    Agrees whole start (pluralOption whole nested) (readPluralOption start) := by
  have selected : Agrees whole start _ _ := agrees_pluralSelector start
  unfold pluralOption readPluralOption
  split
  · next failed =>
      rw [failed] at selected
      exact selected.bind_error
  · next selector rest read =>
      have shorter := length_lt_of_forget read
      have blanks := Text.length_skipBlanks_le rest
      rw [read] at selected
      refine selected.bind fun _ => agrees_skipBlanks.bind fun _ => ?_
      exact (agrees_braced nestedAgrees true (by omega)).map _

theorem agrees_selectOption
    (inPlural : Bool)
    (start : List Char)
    (fits : start.length ≤ bound) :
    Agrees whole start (selectOption whole nested inPlural) (readSelectOption inPlural start) := by
  have named := length_word_le start
  have blanks := Text.length_skipBlanks_le (Pattern.word start).2
  unfold selectOption readSelectOption
  refine agrees_word.bind fun _ => ?_
  split
  · exact agrees_found _
  · refine agrees_skipBlanks.bind fun _ => ?_
    exact (agrees_braced nestedAgrees inPlural (by omega)).map _

/-- An argument is read from its opening brace on. -/
theorem agrees_placeholder
    (inPlural : Bool)
    (input : List Char)
    (fits : input.length ≤ bound) :
    Agrees whole ('\x7b' :: input) (placeholder whole nested inPlural)
      (forget (Pattern.placeholder inPlural input)) := by
  unfold placeholder
  have opened : Agrees whole ('\x7b' :: input) (expect whole '\x7b') (.ok ((), input)) :=
    agrees_expect '\x7b' ('\x7b' :: input)
  refine opened.bind fun _ => ?_
  rw [Pattern.placeholder]
  split
  · next failed => exact (agrees_head _).bind_of_error failed
  · next read => exact (agrees_head _).bind_of_ok read fun _ => agrees_pure _
  · next name ordinal offset rest shorter read =>
      refine (agrees_head _).bind_of_ok read fun _ => ?_
      have options := readsOptions_plural.agrees (agrees_pluralOption nestedAgrees) rest (by omega)
      simp only
      split
      · next failed => exact options.bind_of_error failed
      · next read =>
          refine options.bind_of_ok read fun suffix => ?_
          split
          · exact agrees_pure _
          · exact agrees_get.bind agrees_stop
  · next name rest shorter read =>
      refine (agrees_head _).bind_of_ok read fun _ => ?_
      have options := (readsOptions_select inPlural).agrees (agrees_selectOption nestedAgrees inPlural)
        rest (by omega)
      simp only
      split
      · next failed => exact options.bind_of_error failed
      · next read =>
          refine options.bind_of_ok read fun suffix => ?_
          split
          · exact agrees_pure _
          · exact agrees_get.bind agrees_stop

end

/-! ### Elements -/

/-- The elements that begin with a run of text. -/
def readElements (inPlural : Bool) (run : List Char × List Char) :
    Except Failure (Pattern × List Char) :=
  match run with
  | (run, '\x7b' :: inner) =>
      match forget (Pattern.placeholder inPlural inner) with
      | .error failure => .error failure
      | .ok (element, after) =>
          (forget (Pattern.elements inPlural after)).map fun (more, rest) =>
            (textElements run ++ element :: more, rest)
  | (run, '#' :: inner) =>
      (forget (Pattern.elements inPlural inner)).map fun (more, rest) =>
        (textElements run ++ .pluralValue :: more, rest)
  | (run, rest) => .ok (textElements run, rest)

theorem forget_elements
    {inPlural : Bool}
    {input : List Char}
    {run : List Char × List Char}
    (ran : textRun inPlural false input = run) :
    forget (Pattern.elements inPlural input) = readElements inPlural run := by
  rw [Pattern.elements]
  split
  · next text inner runs =>
      cases ran.symm.trans runs
      simp only [readElements]
      cases Pattern.placeholder inPlural inner with
      | error failure => rfl
      | ok element =>
          simp only [forget_ok]
          cases Pattern.elements inPlural element.rest <;> rfl
  · next text inner runs =>
      cases ran.symm.trans runs
      simp only [readElements]
      cases Pattern.elements inPlural inner <;> rfl
  · next text rest noBrace noSign runs =>
      cases ran.symm.trans runs
      rw [readElements]
      · rfl
      · exact noBrace
      · exact noSign

/-- The elements behind some elements and a text that has begun. -/
def continued (inPlural : Bool) (state : Pattern × List Char) (input : List Char) :
    Except Failure (Pattern × List Char) :=
  let (before, text) := state
  let (run, rest) := textRun inPlural false input
  (readElements inPlural (text ++ run, rest)).map fun (more, rest) => (before ++ more, rest)

theorem continued_nil
    (inPlural : Bool)
    (before : Pattern)
    (input : List Char) :
    continued inPlural (before, []) input =
      (forget (Pattern.elements inPlural input)).map fun (more, rest) => (before ++ more, rest) := by
  rw [continued, forget_elements rfl]
  rfl

/-- No text is read in front of a character that ends it. -/
theorem textRun_of_isSyntax
    {inPlural : Bool}
    {c : Char}
    {rest : List Char}
    (ends : isSyntax inPlural c = true) :
    textRun inPlural false (c :: rest) = ([], c :: rest) :=
  textRun_of_stopsText (by simpa [StopsText] using ends)

/-- What stands behind a text is read behind the elements and that text. -/
theorem continued_of_element
    {inPlural : Bool}
    {before : Pattern}
    {text input after : List Char}
    {element : Element}
    (read : readElements inPlural (text ++ (textRun inPlural false input).1,
        (textRun inPlural false input).2) =
      (forget (Pattern.elements inPlural after)).map fun (more, rest) =>
        (textElements text ++ element :: more, rest)) :
    continued inPlural (before, text) input =
      continued inPlural (before ++ textElements text ++ [element], []) after := by
  rw [continued_nil, continued]
  simp only [read]
  cases forget (Pattern.elements inPlural after) <;> simp [Except.map]

/-- What continues a text is read behind that text. -/
theorem continued_of_text
    {inPlural : Bool}
    {before : Pattern}
    {text run input after : List Char}
    (ran : textRun inPlural false input =
      (run ++ (textRun inPlural false after).1, (textRun inPlural false after).2)) :
    continued inPlural (before, text) input = continued inPlural (before, text ++ run) after := by
  simp only [continued, ran, List.append_assoc]

section

variable {whole : List Char} {bound : Nat} {nested : Bool → Step Pattern}
  (nestedAgrees : NestedAgrees whole bound nested)

include nestedAgrees

/-- A turn reads an argument. -/
theorem exists_argumentTurn
    (inPlural : Bool)
    (before : Pattern)
    (text rest : List Char)
    (fits : rest.length < bound) :
    ∃ read,
      Agrees whole ('\x7b' :: rest)
        (do
          let element ← placeholder whole nested inPlural
          return .again (before ++ textElements text ++ [element], []))
        read ∧
      Turns (continued inPlural) (before, text) ('\x7b' :: rest) read := by
  have ran : textRun inPlural false ('\x7b' :: rest) = ([], '\x7b' :: rest) :=
    textRun_of_isSyntax rfl
  have argument := agrees_placeholder nestedAgrees inPlural rest (Nat.le_of_lt fits)
  cases read : forget (Pattern.placeholder inPlural rest) with
  | error failure =>
      rw [read] at argument
      refine ⟨.error failure, argument.bind_error, .failed ?_⟩
      simp [continued, ran, readElements, read, Except.map]
  | ok reading =>
      obtain ⟨element, after⟩ := reading
      have shorter := length_lt_of_forget read
      rw [read] at argument
      refine ⟨_, argument.bind fun _ => agrees_pure _,
        .again (Nat.lt_succ_of_lt shorter) (continued_of_element ?_)⟩
      simp [ran, readElements, read]

/-- Each turn reads an element, a quoted text or a character, or finds the end. -/
theorem exists_elementsTurn
    (inPlural : Bool)
    (state : Pattern × List Char)
    (input : List Char)
    (fits : input.length ≤ bound) :
    ∃ read, Agrees whole input (elementsTurn whole nested inPlural state) read ∧
      Turns (continued inPlural) state input read := by
  obtain ⟨before, text⟩ := state
  unfold elementsTurn
  rcases input with _ | ⟨c, rest⟩
  · refine ⟨_, agrees_peek.bind fun _ => agrees_pure _, .done ?_⟩
    simp [continued, textRun, readElements, Except.map]
  have fitting : rest.length < (c :: rest).length := Nat.lt_succ_self _
  by_cases closes : c = '\x7d'
  · subst closes
    have ran : textRun inPlural false ('\x7d' :: rest) = ([], '\x7d' :: rest) :=
      textRun_of_isSyntax rfl
    refine ⟨_, agrees_peek.bind fun _ => agrees_pure _, .done ?_⟩
    simp [continued, ran, readElements, Except.map]
  by_cases opens : c = '\x7b'
  · subst opens
    obtain ⟨read, agrees, turns⟩ := exists_argumentTurn nestedAgrees inPlural before text rest fits
    exact ⟨read, agrees_peek.bind fun _ => agrees, turns⟩
  by_cases counts : c = '#' ∧ inPlural = true
  · obtain ⟨rfl, rfl⟩ := counts
    have ran : textRun true false ('#' :: rest) = ([], '#' :: rest) := textRun_of_isSyntax rfl
    refine ⟨_, agrees_peek.bind fun _ => (agrees_bump rfl).bind fun _ => agrees_pure _,
      .again fitting (continued_of_element ?_)⟩
    simp [ran, readElements]
  by_cases quotes : c = '\''
  · subst quotes
    obtain ⟨run, after, shorter, ran, agrees⟩ := @exists_quoted whole inPlural text rest
    exact ⟨_, agrees_peek.bind fun _ => agrees.bind fun _ => agrees_pure _,
      .again (by omega) (continued_of_text ran)⟩
  · have plain : isSyntax inPlural c = false := by
      rw [isSyntax]
      cases inPlural <;> simp_all
    have ran := @textRun_plain inPlural c quotes rest
    rw [plain] at ran
    -- The character joins the text that has begun.
    refine ⟨.ok (.again (before, text ++ [c]), rest), agrees_peek.bind fun _ => ?_,
      .again fitting (continued_of_text ran)⟩
    simp only [List.head?_cons, closes, opens, counts, quotes, if_false]
    exact (agrees_bump rfl).bind fun _ => agrees_pure _

end

/-- Reading elements with a cursor is reading elements. -/
theorem agrees_elements
    {whole : List Char}
    (inPlural : Bool)
    (input : List Char) :
    Agrees whole input (elements whole inPlural) (forget (Pattern.elements inPlural input)) := by
  intro within
  have started : continued inPlural ([], []) input = forget (Pattern.elements inPlural input) := by
    rw [continued_nil]
    cases forget (Pattern.elements inPlural input) <;> rfl
  rw [elements]
  refine started ▸ agrees_loop (continued inPlural) (exists_elementsTurn ?_ inPlural) ([], []) input
    (Nat.le_refl _) within
  intro inPlural inner shorter innerWithin
  -- A pattern inside this one begins behind a brace, so the check lets it be read.
  simp only [dif_pos (advances_offsetOf within innerWithin shorter)]
  exact agrees_elements inPlural inner innerWithin
termination_by input.length

/-! ### Whole texts -/

/-- Reading a whole text with the cursor at its start is parsing it. -/
theorem exists_ends
    (text : String) :
    ∃ read, Ends text.toList text.toList (allElements text.toList 0) read ∧
      Pattern.parse text =
        match read with
        | .error failure => .error (failure.error text.toList)
        | .ok (pattern, _) => .ok pattern := by
  have start : 0 = offsetOf text.toList text.toList := (Nat.sub_self _).symm
  have first : Agrees text.toList text.toList _ _ := agrees_elements false text.toList
  rw [start]
  unfold allElements Pattern.parse
  split
  · next failure failed =>
      exact ⟨.error failure, first.bind_of_error failed List.suffix_rfl, rfl⟩
  · next pattern rest shorter read =>
      cases rest with
      | nil =>
          refine ⟨.ok (pattern, []), first.bind_of_ok read (fun _ => ?_) List.suffix_rfl, rfl⟩
          exact agrees_peek.bind fun _ => agrees_pure _
      | cons c rest =>
          refine ⟨.error ⟨.unexpected c, c :: rest⟩,
            first.bind_of_ok read (fun _ => ?_) List.suffix_rfl, rfl⟩
          exact agrees_peek.bind fun suffix => agrees_get.bind fun _ => agrees_stop suffix

/-- How a text is read as a pattern. -/
structure ReadsSafely (text : String) : Prop where
  /-- The cursor is nowhere inside a character or behind the end. -/
  between (position : Nat) : parse text ≠ .error (.split position)
  /-- The cursor moves on in every turn of a loop that is not the last one. -/
  advances (position : Nat) : parse text ≠ .error (.stalled position)
  /-- The checks change nothing. -/
  parsed : parse text = (Pattern.parse text).mapError .error
  /-- An error is at a place where the text can be cut, and not behind its end. -/
  boundary (error : PatternSyntaxError) (failed : Pattern.parse text = .error error) :
    IsBoundary text.toList error.offset ∧ error.offset ≤ byteLength text.toList

/--
A cursor that reads a text as a pattern stays between its characters and moves on in every turn of a
loop.  If the text is no pattern, then the error is between two of its characters as well.
-/
theorem readsSafely
    (text : String) :
    ReadsSafely text := by
  obtain ⟨read, ends, isParsed⟩ := exists_ends text
  have reached : parse text = (allElements text.toList 0).map Prod.fst := rfl
  generalize allElements text.toList 0 = outcome at ends reached
  -- What the reader with a cursor ends with is not a refused check.
  cases ends with
  | read suffix =>
      have parsed : Pattern.parse text = .ok _ := isParsed
      refine ⟨?_, ?_, ?_, ?_⟩
      · rw [reached]; simp [Except.map]
      · rw [reached]; simp [Except.map]
      · rw [reached, parsed]; rfl
      · rw [parsed]; simp
  | @failed problem rest suffix =>
      have parsed : Pattern.parse text = .error ⟨problem, offsetOf text.toList rest⟩ := isParsed
      have cut := isBoundary_offsetOf suffix
      refine ⟨?_, ?_, ?_, ?_⟩
      · rw [reached]; simp [Except.map]
      · rw [reached]; simp [Except.map]
      · rw [reached, parsed]; rfl
      · intro error failed
        rw [parsed] at failed
        cases failed
        exact ⟨cut, cut.le_byteLength⟩

end Cursor
end Pattern
end MessageExpansion
