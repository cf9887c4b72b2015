import MessageExpansion.Script.Grammar.Markup
import MessageExpansion.Proofs.Script.Renumbering.Grammar.Basic

/-!
# Markup elements over renumbered texts

The name of an element is compared with that of its end tag.  A name with a number may be another
one in the other text, but it stands in front of a parenthesis, and there an element cannot go on.
-/

namespace MessageExpansion
namespace Script
namespace Grammar

open Recogniser

set_option synthInstance.maxSize 100000

/-! ### Names -/

/-- A cursor at an opening parenthesis. -/
structure AtParen (cursor : Cursor) : Prop where
  kind : cursor.kind = .punctuator .openParen
  start : cursor.start.rest.head? = some '('

theorem AtParen.agree
    {cursor other : Cursor}
    (paren : AtParen cursor)
    (together : cursor.Agree other) :
    AtParen other :=
  ⟨(together.kind.punctuator_iff _).mp paren.kind, together.start.head?_eq ▸ paren.start⟩

theorem AtParen.ne
    {cursor : Cursor}
    (paren : AtParen cursor)
    {which : Punctuator}
    (other : which ≠ .openParen) :
    cursor.kind ≠ .punctuator which := by
  rw [paren.kind]
  rintro ⟨⟩
  exact other rfl

/-- No angle bracket stands at a parenthesis. -/
theorem AtParen.atAngle
    {cursor : Cursor}
    (paren : AtParen cursor) :
    atAngle cursor = some (false, cursor) := by
  simp only [Recogniser.atAngle, bind_apply, kind_apply, Option.bind_some, paren.kind]
  show some (cursor.start.rest.head? == some '>', cursor) = _
  rw [paren.start]
  rfl

theorem AtParen.splitAngle
    {cursor : Cursor}
    (paren : AtParen cursor) :
    splitAngle cursor = none := by
  rw [Recogniser.splitAngle, bind_apply, paren.atAngle]
  rfl

theorem AtParen.after
    {place : Place}
    (paren : place.rest.head? = some '(') :
    AtParen (.after place) := by
  obtain ⟨offset, text⟩ := place
  obtain ⟨rest, rfl⟩ := List.head?_eq_some_iff.mp paren
  have token : (tokenAt ⟨offset, '(' :: rest⟩).1 = .punctuator .openParen := rfl
  have gap := @skipGap_of_not_beginsGap '(' rest false offset (by decide)
  constructor <;> simp [Cursor.after, gap, token]

/-- Names that two readers found are the same, or both stand in front of a parenthesis. -/
structure NamesRead (found other : List Char × Cursor) : Prop where
  name : found.1 = other.1 ∨ AtParen found.2
  cursor : found.2.Agree other.2

variable {cursor otherCursor : Cursor}

theorem namesRead_markupWord
    (together : cursor.Agree otherCursor) :
    Option.Rel NamesRead (markupWord cursor) (markupWord otherCursor) := by
  obtain ⟨kind, newline, start, stop, previous⟩ := cursor
  obtain ⟨otherKind, otherNewline, otherStart, otherStop, otherPrevious⟩ := otherCursor
  obtain ⟨kinds, -, starts, -⟩ := together
  have uniform : Renumbered.Uniform isMarkupNameChar := Renumbered.uniform_of_digits (by decide)
  have named : Option.Rel NamesRead
      (some (start.rest.takeWhile isMarkupNameChar, .after (start.skipWhile isMarkupNameChar)))
      (some (otherStart.rest.takeWhile isMarkupNameChar,
        .after (otherStart.skipWhile isMarkupNameChar))) := by
    refine .some ⟨?_, agree_after (Place.Agree.skipWhile starts uniform)⟩
    refine (Renumbered.takeWhile uniform (by decide) starts).imp id fun paren => ?_
    exact .after (by rwa [rest_skipWhile])
  cases kinds with
  | same =>
      cases kind with
      | name => exact named
      | _ => exact .none
  | names => exact named
  | strings => exact .none

/-- At a parenthesis no name begins. -/
theorem markupWord_eq_none
    (paren : AtParen cursor) :
    markupWord cursor = none := by
  obtain ⟨kind, newline, start, stop, previous⟩ := cursor
  obtain rfl : kind = _ := paren.kind
  rfl

theorem attributeName_apply
    (cursor : Cursor) :
    attributeName cursor = (markupWord cursor).bind fun found =>
      if found.2.kind == .punctuator .colon then
        (markupWord (.after found.2.stop)).map fun second => (found.1 ++ ':' :: second.1, second.2)
      else some found := by
  simp only [attributeName, bind_apply, eat_apply]
  cases markupWord cursor with
  | none => rfl
  | some found =>
      simp only [Option.bind_some]
      split
      · simp only [Option.bind_some, if_true, bind_apply, pure_apply]
        cases markupWord (.after found.2.stop) <;> rfl
      · rfl

theorem namesRead_attributeName
    (together : cursor.Agree otherCursor) :
    Option.Rel NamesRead (attributeName cursor) (attributeName otherCursor) := by
  rw [attributeName_apply, attributeName_apply]
  refine optionRel_bind (namesRead_markupWord together) fun {found other} read => ?_
  have colons := read.cursor.kind.punctuator_iff .colon
  rcases read.name with same | paren
  · simp only [beq_iff_eq, colons]
    split
    · refine optionRel_map (namesRead_markupWord (agree_after read.cursor.stop)) fun second => ?_
      exact ⟨second.name.imp (fun equal => by rw [same, equal]) id, second.cursor⟩
    · exact .some read
  · have noColon : found.2.kind ≠ .punctuator .colon := paren.ne (by decide)
    rw [if_neg (by simpa using noColon), if_neg (by simpa using noColon ∘ colons.mpr)]
    exact .some read

/-- The parts of a name behind dots. -/
def nameParts (count : Nat) : Recogniser (List Char) :=
  repeatUntil (do return !(← eat .dot)) (do return '.' :: (← markupWord)) count

theorem nameParts_succ
    (count : Nat)
    (cursor : Cursor) :
    nameParts (count + 1) cursor =
      if cursor.kind = .punctuator .dot then
        (markupWord (.after cursor.stop)).bind fun first =>
          (nameParts count first.2).map fun rest => ('.' :: first.1 ++ rest.1, rest.2)
      else some ([], cursor) := by
  rw [nameParts, repeatUntil_succ]
  simp only [bind_apply, eat_apply, beq_iff_eq]
  split
  · simp only [Option.bind_some, pure_apply, Bool.not_true, Bool.false_eq_true, if_false]
    cases markupWord (.after cursor.stop) <;> rfl
  · rfl

/-- No part stands at a parenthesis. -/
theorem eq_of_nameParts_paren
    {count : Nat}
    {found : List Char × Cursor}
    (paren : AtParen cursor)
    (read : nameParts count cursor = some found) :
    found = ([], cursor) := by
  cases count with
  | zero => exact absurd read nofun
  | succ count =>
      rw [nameParts_succ, if_neg (paren.ne (by decide))] at read
      exact (Option.some.inj read).symm

/-- Parts behind a name keep what the name and its counterpart have in common. -/
theorem NamesRead.parts
    {first other : List Char × Cursor}
    (read : NamesRead first other)
    (count : Nat)
    (parts : Option.Rel NamesRead (nameParts count first.2) (nameParts count other.2)) :
    Option.Rel NamesRead
      ((nameParts count first.2).map fun rest => (first.1 ++ rest.1, rest.2))
      ((nameParts count other.2).map fun rest => (other.1 ++ rest.1, rest.2)) := by
  cases found : nameParts count first.2 <;> cases otherFound : nameParts count other.2 <;>
    rw [found, otherFound] at parts <;> cases parts
  · exact .none
  · next rest otherRest later =>
      refine .some ⟨?_, later.cursor⟩
      rcases read.name with same | paren
      · refine later.name.imp (fun equal => ?_) id
        show first.1 ++ rest.1 = other.1 ++ otherRest.1
        rw [same, equal]
      · rw [eq_of_nameParts_paren paren found]
        exact .inr paren

theorem namesRead_nameParts
    (together : cursor.Agree otherCursor)
    (count : Nat) :
    Option.Rel NamesRead (nameParts count cursor) (nameParts count otherCursor) := by
  induction count generalizing cursor otherCursor with
  | zero => exact .none
  | succ count inductionHypothesis =>
      rw [nameParts_succ, nameParts_succ]
      simp only [together.kind.punctuator_iff .dot]
      split
      · refine optionRel_bind (namesRead_markupWord (agree_after together.stop)) fun read => ?_
        have dotted : NamesRead ('.' :: _, _) ('.' :: _, _) :=
          ⟨read.name.imp (congrArg ('.' :: ·)) id, read.cursor⟩
        exact dotted.parts count (inductionHypothesis read.cursor)
      · exact .some ⟨.inl rfl, together⟩

theorem namesRead_elementName
    {grammar : Grammar}
    (together : cursor.Agree otherCursor) :
    Option.Rel NamesRead (grammar.elementName cursor) (grammar.elementName otherCursor) := by
  have parts (cursor : Cursor) : grammar.elementName cursor =
      (attributeName cursor).bind fun first =>
        (nameParts grammar.limit first.2).map fun rest => (first.1 ++ rest.1, rest.2) := by
    simp only [elementName, nameParts, bind_apply, pure_apply, Option.map_eq_bind]
    rfl
  rw [parts, parts]
  exact optionRel_bind (namesRead_attributeName together) fun read =>
    read.parts grammar.limit (namesRead_nameParts read.cursor grammar.limit)

/-! ### Rules -/

section

variable {grammar : Grammar}

theorem attributeName_eq_none
    (paren : AtParen cursor) :
    attributeName cursor = none := by
  rw [attributeName_apply, markupWord_eq_none paren]
  rfl

instance :
    InStep Any attributeName attributeName where
  outcome {cursor otherCursor} together := by
    have names := namesRead_attributeName together
    generalize attributeName cursor = found, attributeName otherCursor = other at names
    cases names with
    | none => exact .none
    | some read => exact .some ⟨trivial, read.cursor⟩

/-- What comes behind the name of an element stays in step if it does behind each name, and if it
fails at a parenthesis. -/
theorem inStep_elementName
    {α : Type}
    {agree : α → α → Prop}
    {next otherNext : List Char → Recogniser α}
    (onward : ∀ name, InStep agree (next name) (otherNext name))
    (stuck : ∀ name cursor, AtParen cursor → next name cursor = none)
    (otherStuck : ∀ name cursor, AtParen cursor → otherNext name cursor = none) :
    InStep agree (grammar.elementName >>= next) (grammar.elementName >>= otherNext) where
  outcome together := by
    rw [bind_apply, bind_apply]
    refine optionRel_bind (namesRead_elementName together) fun {found other} read => ?_
    rcases read.name with same | paren
    · rw [← same]
      exact (onward found.1).outcome read.cursor
    · rw [stuck _ _ paren, otherStuck _ _ (paren.agree read.cursor)]
      exact .none

theorem uniform_ne
    {quote : Char}
    (separate : quote ≠ '_' ∧ quote.isDigit = false) :
    Renumbered.Uniform (· != quote) := by
  intro c digit
  have other : c ≠ quote := fun equal => by simp [equal, separate.2] at digit
  exact (bne_iff_ne.mpr other).trans (bne_iff_ne.mpr separate.1.symm).symm

/-- The value of an attribute ends at the quote that it began with. -/
theorem head?_skipWhile_ne
    {place : Place}
    {quote : Char}
    (closed : (place.skipWhile (· != quote)).rest.isEmpty = false) :
    (place.skipWhile (· != quote)).rest.head? = some quote := by
  rw [rest_skipWhile] at closed ⊢
  have stops := List.head?_dropWhile_not (· != quote) place.rest
  cases rest : place.rest.dropWhile (· != quote) with
  | nil => simp [rest] at closed
  | cons c others => simpa [rest] using stops

instance :
    InStep Eq attributeText attributeText := by
  refine InStep.get.bind fun {found other} together => ?_
  obtain ⟨-, -, starts, -⟩ := together
  generalize found.start = place, other.start = otherPlace at starts
  obtain ⟨offset, text⟩ := place
  obtain ⟨otherOffset, otherText⟩ := otherPlace
  cases starts with
  | nil => infer_instance
  | number => exact ⟨fun _ => .none⟩
  | @cons quote text otherText onward =>
      by_cases isQuote : (quote == '"' || quote == '\'') = true
      · have separate : quote ≠ '_' ∧ quote.isDigit = false := by
          rw [Bool.or_eq_true, beq_iff_eq, beq_iff_eq] at isQuote
          rcases isQuote with rfl | rfl <;> decide
        have behind : (Place.skip ⟨offset, quote :: text⟩ 1).Agree
            (Place.skip ⟨otherOffset, quote :: otherText⟩ 1) := onward
        have stops := behind.skipWhile (uniform_ne separate)
        dsimp only
        simp only [isQuote, ← Renumbered.isEmpty_eq stops]
        cases closed : (Place.skipWhile _ (· != quote)).rest.isEmpty with
        | true => exact ⟨fun _ => .none⟩
        | false =>
            have moved := InStep.goTo (stops.skip_one (head?_skipWhile_ne closed) separate.1)
            infer_instance
      · simp only [isQuote]
        exact ⟨fun _ => .none⟩

variable [grammar.StaysInStep]

instance :
    InStep Any grammar.attributeValue grammar.attributeValue := by
  unfold attributeValue
  infer_instance

instance :
    InStep Any grammar.attributeRule grammar.attributeRule := by
  unfold attributeRule
  infer_instance

instance :
    InStep Any grammar.embedded grammar.embedded := by
  unfold embedded
  dsimp only
  infer_instance

/-- Characters of an element's text are skipped with all the digits of a number. -/
theorem uniform_isMarkupText :
    Renumbered.Uniform isMarkupText :=
  Renumbered.uniform_of_digits (by decide)

instance
    (name : List Char)
    (count : Nat) :
    InStep Any (grammar.children name count) (grammar.children name count) := by
  induction count with
  | zero => exact ⟨fun _ => .none⟩
  | succ count inductionHypothesis =>
      have stuck (closing : List Char) (cursor : Cursor) (paren : AtParen cursor) :
          (do
            check (closing == name)
            splitAngle
            return ([] : List CallTree)) cursor = none := by
        rw [bind_apply, check_apply]
        split
        · rw [Option.bind_some, bind_apply, paren.splitAngle]
          rfl
        · rfl
      have closing : InStep Any
          (do
            let closing ← grammar.elementName
            check (closing == name)
            splitAngle
            return ([] : List CallTree))
          (do
            let closing ← grammar.elementName
            check (closing == name)
            splitAngle
            return []) :=
        inStep_elementName (fun _ => inferInstance) stuck stuck
      refine InStep.get.bind fun {found other} together => ?_
      have moved := InStep.goTo (Place.Agree.skipWhile together.stop uniform_isMarkupText)
      dsimp only
      infer_instance

omit [grammar.StaysInStep] in
/-- No attribute begins with a parenthesis. -/
theorem attributes_eq_none
    (paren : AtParen cursor)
    (count : Nat) :
    repeatUntil (do return (← atPunctuator .slash) || (← atAngle)) grammar.attributeRule count cursor =
      none := by
  have noSlash : cursor.kind ≠ .punctuator .slash := paren.ne (by decide)
  have noBrace : cursor.kind ≠ .punctuator .openBrace := paren.ne (by decide)
  have noAttribute : grammar.attributeRule cursor = none := by
    simp [attributeRule, noBrace, attributeName_eq_none paren]
  cases count with
  | zero => rfl
  | succ count => simp [repeatUntil_succ, noSlash, paren.atAngle, noAttribute]

instance :
    InStep Any grammar.element grammar.element := by
  have begins : InStep Any start start := inferInstance
  have angle : InStep Eq atAngle atAngle := inferInstance
  have opens : InStep Eq (expect .less) (expect .less) := inferInstance
  unfold element
  dsimp only
  refine begins.bind fun _ => opens.bind fun _ => angle.bind fun {empty otherEmpty} same => ?_
  obtain rfl : empty = otherEmpty := same
  split
  · infer_instance
  · have noAngle {cursor : Cursor} (paren : AtParen cursor) : cursor.kind ≠ .punctuator .less :=
      paren.ne (by decide)
    refine inStep_elementName ?_ ?_ ?_
    · intro name
      infer_instance
    all_goals
      intro name cursor paren
      simp only [bind_apply, atPunctuator_apply, Option.bind_some, Recogniser.ite_apply, pure_apply,
        beq_eq_false_iff_ne.mpr (noAngle paren), Bool.and_false, Bool.false_eq_true, if_false,
        attributes_eq_none paren, Option.bind_none]

end

end Grammar
end Script
end MessageExpansion
