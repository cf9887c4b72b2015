import MessageExpansion.Pattern.Basic
import MessageExpansion.Pattern.SyntaxError
import MessageExpansion.Text.Blank
import MessageExpansion.Text.Bytes
import MessageExpansion.Text.Decimal
import MessageExpansion.Text.Reading

/-!
# Reading patterns

The grammar of patterns, read by recursive descent.  Every reader returns the characters it leaves
over, together with a proof that they are fewer than what it was given, so reading ends; a failure
keeps the characters from the point of failure on, from which the offset is computed.

Quoting: two apostrophes stand for one.  An apostrophe directly before a brace, or inside a plural
before a number sign, opens a quoted run that reaches to the next lone apostrophe.
-/

namespace MessageExpansion
namespace Pattern

open Text

/-- Reading stopped because of a problem. -/
structure Failure where
  /-- What is wrong. -/
  problem : PatternProblem
  /-- The characters that follow the point of failure. -/
  rest : List Char

/-- Fail because something else was expected where `rest` begins. -/
def Failure.found (problem : Found → PatternProblem) (rest : List Char) : Failure :=
  ⟨problem rest.head?, rest⟩

/-- The characters that end a run of text unless they are quoted. -/
def isSyntax (inPlural : Bool) (c : Char) : Bool :=
  c == '\x7b' || c == '\x7d' || (inPlural && c == '#')

/-- The characters of names, keywords, keys and numerals. -/
def isWordChar (c : Char) : Bool :=
  !(isBlank c || isSyntax true c || c == ',' || c == '\'')

/-- The word at the start of a text, and what follows it. -/
def word (input : List Char) : List Char × List Char :=
  (input.takeWhile isWordChar, input.dropWhile isWordChar)

/-- A word never reaches beyond the text. -/
theorem length_word_le (input : List Char) : (word input).2.length ≤ input.length :=
  (List.dropWhile_sublist isWordChar).length_le

/-- Put a character in front of a run of text. -/
def consText (c : Char) (run : List Char × List Char) : List Char × List Char :=
  (c :: run.1, run.2)

/--
The text up to the next unquoted syntax character, with its quoting removed, and what follows it.
The flag `quoting` says that the run starts inside quotes.
-/
def textRun (inPlural : Bool) : (quoting : Bool) → List Char → List Char × List Char
  | _, [] => ([], [])
  | true, '\'' :: '\'' :: rest => consText '\'' (textRun inPlural true rest)
  | true, '\'' :: rest => textRun inPlural false rest
  | true, c :: rest => consText c (textRun inPlural true rest)
  | false, '\'' :: '\'' :: rest => consText '\'' (textRun inPlural false rest)
  | false, '\'' :: c :: rest =>
      if isSyntax inPlural c then consText c (textRun inPlural true rest)
      else consText '\'' (textRun inPlural false (c :: rest))
  | false, c :: rest =>
      if isSyntax inPlural c then ([], c :: rest)
      else consText c (textRun inPlural false rest)

/-- A run of text never reaches beyond the input. -/
theorem length_textRun_le (inPlural quoting : Bool) (input : List Char) :
    (textRun inPlural quoting input).2.length ≤ input.length := by
  fun_induction textRun inPlural quoting input <;> simp_all [consText] <;> omega

/-- The element for a run of text; an empty run makes none. -/
def textElements (run : List Char) : Pattern :=
  if run.isEmpty then [] else [.text (String.ofList run)]

/-- Read one certain character. -/
def expect (wanted : Char) (input : List Char) :
    Except Failure (Reading input.length Unit) :=
  match input with
  | [] => .error (.found (.expected wanted) [])
  | c :: rest =>
      if c = wanted then .ok ⟨(), rest, by simp⟩
      else .error (.found (.expected wanted) (c :: rest))

/-- Read the style of an argument, if a comma announces one. -/
def style? (input : List Char) :
    Except Failure (Reading (input.length + 1) (Option String)) :=
  match input with
  | ',' :: rest =>
      match h : word (skipBlanks rest) with
      | ([], after) => .error (.found .expectedStyle after)
      | (name, after) =>
          .ok ⟨some (String.ofList name), skipBlanks after, by
            have blanks := length_skipBlanks_le rest
            have named := length_word_le (skipBlanks rest)
            have trailing := length_skipBlanks_le after
            simp only [h] at named
            simp only [List.length_cons]
            omega⟩
  | other => .ok ⟨none, other, by simp⟩

/-- The number style a keyword names. -/
def numberStyle? : String → Option NumberStyle
  | "integer" => some .integer
  | "percent" => some .percent
  | "currency" => some .currency
  | _ => none

/-- The date or time style a keyword names. -/
def dateTimeStyle? : String → Option DateTimeStyle
  | "short" => some .short
  | "medium" => some .medium
  | "long" => some .long
  | "full" => some .full
  | _ => none

/--
Read the rest of a formatted argument of the type `type`: an optional style, which `styles` names,
and the closing brace.
-/
def formatted {σ : Type} (type : String) (unstyled : σ) (styles : String → Option σ)
    (input : List Char) : Except Failure (Reading (input.length + 1) σ) :=
  match style? input with
  | .error failure => .error failure
  | .ok ⟨keyword, rest, shorter⟩ =>
      let style : Option σ := match keyword with
        | none => some unstyled
        | some name => styles name
      match style with
      | none => .error ⟨.unknownStyle type (keyword.getD ""), rest⟩
      | some style =>
          match expect '\x7d' rest with
          | .error failure => .error failure
          | .ok ⟨_, after, closed⟩ => .ok ⟨style, after, by omega⟩

/-- The mark that announces the offset of a plural. -/
def offsetMark : List Char := "offset:".toList

/-- Read the offset of a plural; without its mark the offset is zero. -/
def pluralOffset (input : List Char) :
    Except Failure (Reading (input.length + 1) UInt32) :=
  if offsetMark.isPrefixOf input then
    let afterMark := skipBlanks (input.drop offsetMark.length)
    let (numeral, after) := word afterMark
    match readUnsigned? UInt32.size numeral with
    | some value =>
        .ok ⟨UInt32.ofNat value, (word afterMark).2, by
          have blanks := length_skipBlanks_le (input.drop offsetMark.length)
          have named := length_word_le afterMark
          have dropped : (input.drop offsetMark.length).length ≤ input.length := by simp
          simp only [afterMark] at *
          omega⟩
    | none => .error ⟨.invalidPluralOffset (String.ofList numeral), after⟩
  else
    .ok ⟨0, input, by simp⟩

/-- Read the condition of a plural option: `=` and a numeral, or a category. -/
def pluralSelector (input : List Char) :
    Except Failure (Reading (input.length + 1) PluralSelector) :=
  match input with
  | '=' :: rest =>
      match readUnsigned? UInt64.size (word rest).1 with
      | some value =>
          .ok ⟨.exact (UInt64.ofNat value), (word rest).2, by
            have named := length_word_le rest
            simp only [List.length_cons]
            omega⟩
      | none => .error ⟨.invalidExactSelector (String.ofList (word rest).1), input⟩
  | start =>
      let name := String.ofList (word start).1
      if PluralSelector.categories.contains name then
        .ok ⟨.category name, (word start).2, Nat.lt_succ_of_le (length_word_le start)⟩
      else
        .error ⟨.invalidPluralCategory name, start⟩

/-- How an argument begins: complete in itself, or with options to follow. -/
inductive Head where
  | complete (element : Element)
  | plural (name : String) (ordinal : Bool) (offset : UInt32)
  | select (name : String)

/-- Read the type of the argument `name` and what the type asks for, up to the options if any. -/
def typed (name : String) (input : List Char) :
    Except Failure (Reading (input.length + 1) Head) :=
  have named := length_word_le input
  have trailing := length_skipBlanks_le (word input).2
  let rest := skipBlanks (word input).2
  have fits : rest.length ≤ input.length := Nat.le_trans trailing named
  match String.ofList (word input).1 with
  | "number" =>
      match formatted "number" .decimal numberStyle? rest with
      | .error failure => .error failure
      | .ok ⟨style, after, shorter⟩ => .ok ⟨.complete (.number name style), after, by omega⟩
  | "date" =>
      match formatted "date" .medium dateTimeStyle? rest with
      | .error failure => .error failure
      | .ok ⟨style, after, shorter⟩ => .ok ⟨.complete (.date name style), after, by omega⟩
  | "time" =>
      match formatted "time" .medium dateTimeStyle? rest with
      | .error failure => .error failure
      | .ok ⟨style, after, shorter⟩ => .ok ⟨.complete (.time name style), after, by omega⟩
  | "select" =>
      match expect ',' rest with
      | .error failure => .error failure
      | .ok ⟨_, after, shorter⟩ => .ok ⟨.select name, after, by omega⟩
  | "" => .error (.found .expectedArgumentType rest)
  | type =>
      if type = "plural" ∨ type = "selectordinal" then
        match expect ',' rest with
        | .error failure => .error failure
        | .ok ⟨_, after, shorter⟩ =>
            have blanks := length_skipBlanks_le after
            match pluralOffset (skipBlanks after) with
            | .error failure => .error failure
            | .ok ⟨offset, options, fewer⟩ =>
                .ok ⟨.plural name (type == "selectordinal") offset, options, by omega⟩
      else
        .error ⟨.unknownArgumentType type, input⟩

/-- Read an argument after its opening brace, up to the options if it has any. -/
def head (input : List Char) : Except Failure (Reading input.length Head) :=
  have blanks := length_skipBlanks_le input
  have named := length_word_le (skipBlanks input)
  have trailing := length_skipBlanks_le (word (skipBlanks input)).2
  if (word (skipBlanks input)).1.isEmpty then
    .error (.found .expectedArgumentName (word (skipBlanks input)).2)
  else
    let name := String.ofList (word (skipBlanks input)).1
    match separated : skipBlanks (word (skipBlanks input)).2 with
    | '\x7d' :: rest =>
        .ok ⟨.complete (.argument name), rest, by
          rw [separated, List.length_cons] at trailing; omega⟩
    | ',' :: rest =>
        have typeBlanks := length_skipBlanks_le rest
        match typed name (skipBlanks rest) with
        | .error failure => .error failure
        | .ok ⟨head, after, shorter⟩ =>
            .ok ⟨head, after, by rw [separated, List.length_cons] at trailing; omega⟩
    | other => .error (.found (.expected '\x7d') other)

/-- Some option of a plural applies whatever the number is. -/
def coversOther (options : List PluralOption) : Bool := options.any (·.selector.isOther)

mutual

/-- Read elements up to an unmatched closing brace or the end. -/
def elements (inPlural : Bool) (input : List Char) :
    Except Failure (Reading (input.length + 1) Pattern) :=
  have bounded := length_textRun_le inPlural false input
  match ran : textRun inPlural false input with
  | (run, '\x7b' :: inner) =>
      have fits : inner.length < input.length := by
        rw [ran] at bounded; exact bounded
      match placeholder inPlural inner with
      | .error failure => .error failure
      | .ok ⟨element, after, shorter⟩ =>
          match elements inPlural after with
          | .error failure => .error failure
          | .ok ⟨more, rest, fewer⟩ =>
              .ok ⟨textElements run ++ element :: more, rest, by omega⟩
  | (run, '#' :: inner) =>
      have fits : inner.length < input.length := by
        rw [ran] at bounded; exact bounded
      match elements inPlural inner with
      | .error failure => .error failure
      | .ok ⟨more, rest, fewer⟩ =>
          .ok ⟨textElements run ++ .pluralValue :: more, rest, by omega⟩
  | (run, rest) =>
      .ok ⟨textElements run, rest, by rw [ran] at bounded; exact Nat.lt_succ_of_le bounded⟩
termination_by 2 * input.length
decreasing_by all_goals omega

/-- Read an argument after its opening brace, through its closing brace. -/
def placeholder (inPlural : Bool) (input : List Char) :
    Except Failure (Reading input.length Element) :=
  match head input with
  | .error failure => .error failure
  | .ok ⟨.complete element, rest, shorter⟩ => .ok ⟨element, rest, shorter⟩
  | .ok ⟨.plural name ordinal offset, rest, shorter⟩ =>
      match pluralOptions rest with
      | .error failure => .error failure
      | .ok ⟨options, after, fewer⟩ =>
          if coversOther options then
            .ok ⟨.plural name ordinal offset options, after, by omega⟩
          else
            .error ⟨.missingOther "plural" name, after⟩
  | .ok ⟨.select name, rest, shorter⟩ =>
      match selectOptions inPlural rest with
      | .error failure => .error failure
      | .ok ⟨options, after, fewer⟩ =>
          if options.any (·.key == "other") then
            .ok ⟨.select name options, after, by omega⟩
          else
            .error ⟨.missingOther "select" name, after⟩
termination_by 2 * input.length
decreasing_by all_goals omega

/-- Read a sub-pattern between braces. -/
def braced (inPlural : Bool) (input : List Char) :
    Except Failure (Reading input.length Pattern) :=
  match expect '\x7b' input with
  | .error failure => .error failure
  | .ok ⟨_, inner, opened⟩ =>
      match elements inPlural inner with
      | .error failure => .error failure
      | .ok ⟨value, rest, shorter⟩ =>
          match expect '\x7d' rest with
          | .error failure => .error failure
          | .ok ⟨_, after, closed⟩ => .ok ⟨value, after, by omega⟩
termination_by 2 * input.length
decreasing_by all_goals omega

/-- Read the options of a plural, through the brace that closes it. -/
def pluralOptions (input : List Char) :
    Except Failure (Reading input.length (List PluralOption)) :=
  have blanks := length_skipBlanks_le input
  match begun : skipBlanks input with
  | [] => .error (.found (.expected '\x7d') [])
  | '\x7d' :: rest =>
      .ok ⟨[], rest, by rw [begun, List.length_cons] at blanks; exact blanks⟩
  | start =>
      match pluralSelector start with
      | .error failure => .error failure
      | .ok ⟨selector, selected, shorter⟩ =>
          have gap : (skipBlanks selected).length ≤ input.length := by
            have trailing := length_skipBlanks_le selected
            rw [begun] at blanks; omega
          match braced true (skipBlanks selected) with
          | .error failure => .error failure
          | .ok ⟨value, after, fewer⟩ =>
              match pluralOptions after with
              | .error failure => .error failure
              | .ok ⟨more, rest, least⟩ =>
                  .ok ⟨.mk selector value :: more, rest, by omega⟩
termination_by 2 * input.length + 1
decreasing_by all_goals omega

/-- Read the options of a select, through the brace that closes it. -/
def selectOptions (inPlural : Bool) (input : List Char) :
    Except Failure (Reading input.length (List SelectOption)) :=
  have blanks := length_skipBlanks_le input
  match begun : skipBlanks input with
  | [] => .error (.found (.expected '\x7d') [])
  | '\x7d' :: rest =>
      .ok ⟨[], rest, by rw [begun, List.length_cons] at blanks; exact blanks⟩
  | start =>
      have named := length_word_le start
      if (word start).1.isEmpty then
        .error (.found .expectedSelectKey (word start).2)
      else
        have gap : (skipBlanks (word start).2).length ≤ input.length := by
          have trailing := length_skipBlanks_le (word start).2
          rw [begun] at blanks; omega
        match braced inPlural (skipBlanks (word start).2) with
        | .error failure => .error failure
        | .ok ⟨value, after, fewer⟩ =>
            match selectOptions inPlural after with
            | .error failure => .error failure
            | .ok ⟨more, rest, least⟩ =>
                .ok ⟨.mk (String.ofList (word start).1) value :: more, rest, by omega⟩
termination_by 2 * input.length + 1
decreasing_by all_goals omega

end

/-- The byte offset at which the last `rest.length` characters of a text begin. -/
def offsetOf (whole rest : List Char) : Nat := byteLength whole - byteLength rest

/-- The error for a failure while reading `whole`. -/
def Failure.error (whole : List Char) (failure : Failure) : PatternSyntaxError :=
  ⟨failure.problem, offsetOf whole failure.rest⟩

/-- Read a whole text as a pattern. -/
def parse (text : String) : Except PatternSyntaxError Pattern :=
  match elements false text.toList with
  | .error failure => .error (failure.error text.toList)
  | .ok ⟨pattern, rest, _⟩ =>
      match rest with
      | [] => .ok pattern
      | c :: _ => .error (Failure.error text.toList ⟨.unexpected c, rest⟩)

end Pattern
end MessageExpansion
