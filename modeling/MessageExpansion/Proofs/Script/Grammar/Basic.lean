import MessageExpansion.Script.Grammar.Binding
import MessageExpansion.Proofs.Script.Reading

/-!
# What the rules of the grammar read

A grammar is sound when its goals read what they yield; the rules of a sound grammar do so as well.
Of an operand, which may become the callee or an argument of a call, its extent is described too.
-/

namespace MessageExpansion
namespace Script

open Std.Do
open Recogniser
open Text (IsBoundary)

set_option mvcgen.warning false

variable [Source] {first : Cursor}

instance : Located Piece where
  between start stop piece := CallTree.Between start stop piece.calls
  mono := CallTree.Between.mono

@[grind =] theorem between_piece
    {start stop : Nat}
    {piece : Piece} :
    Located.between start stop piece ↔ CallTree.Between start stop piece.calls :=
  .rfl

/-- A piece takes up a part of the text, and its calls lie in it.  One that is a variable begins
with a token. -/
structure Piece.Sound (piece : Piece) : Prop where
  le : piece.span.start ≤ piece.span.stop
  startBoundary : IsBoundary Source.text piece.span.start
  stopBoundary : IsBoundary Source.text piece.span.stop
  core : piece.core.isWithin piece.span = true
  calls : CallTree.Between piece.span.start piece.span.stop piece.calls
  name : ∀ name, piece.shape = .variable name →
    IsNameText name.toList ∧ GoesOn Source.text piece.span.start

attribute [grind] Piece.Sound
attribute [grind ←] Place.IsIn.isBoundary
attribute [grind =] Span.isWithin_iff

/-- From a token of the text on, the recogniser yields a piece of what it passes over. -/
abbrev ReadsPiece (first : Cursor) (recogniser : Recogniser Piece) : Prop :=
  Yields first recogniser fun piece last =>
    first.Leads last ∧ piece.Sound ∧ first.start.offset ≤ piece.span.start ∧
      piece.span.stop ≤ last.previous.offset

/-- From a token of the text on, the recogniser yields a piece that ends with the token where the
cursor then stands. -/
abbrev ReadsElement (first : Cursor) (recogniser : Recogniser Piece) : Prop :=
  Yields first recogniser fun piece last =>
    Read first piece last ∧ piece.span = ⟨first.start.offset, last.stop.offset⟩ ∧
      piece.core = piece.span ∧ piece.shape = .other

/-- From a token of the text on, the recogniser yields what it passes over, and it passes over
something. -/
abbrev Passes {α : Type} [Located α] (first : Cursor) (recogniser : Recogniser α) : Prop :=
  Yields first recogniser fun value last =>
    Read first value last ∧ first.start.offset ≤ last.previous.offset

attribute [local grind →] Cursor.Stands.previous Cursor.Stands.start Cursor.Stands.stop

namespace Grammar

/-- The goals of a grammar read what they yield. -/
class Sound (grammar : Grammar) : Prop where
  reads : ∀ goal first, Reads first (grammar.piece goal)
  assignment : ∀ allowIn allowResultType first,
    ReadsPiece first (grammar.piece (.assignment allowIn allowResultType))
  constructed : ∀ first, ReadsPiece first (grammar.piece .constructed)
  element : ∀ first, ReadsElement first (grammar.piece .element)

variable {grammar : Grammar} [grammar.Sound]

@[spec] theorem reads_calls
    {goal : Goal} :
    Reads first (grammar.calls goal) := by
  have reads : ∀ first, Reads first (grammar.piece goal) := Sound.reads goal
  mvcgen [calls, reads] <;> grind -linarith

@[spec] theorem readsPiece_assignment
    {allowIn allowResultType : Bool} :
    ReadsPiece first (grammar.piece (.assignment allowIn allowResultType)) :=
  Sound.assignment allowIn allowResultType first

@[spec] theorem readsPiece_constructed :
    ReadsPiece first (grammar.piece .constructed) :=
  Sound.constructed first

@[spec] theorem readsElement_element :
    ReadsElement first (grammar.piece .element) :=
  Sound.element first

@[spec] theorem reads_assignment :
    Reads first grammar.assignment :=
  reads_calls

@[spec] theorem readsPiece_sequencePiece
    {allowIn : Bool} :
    ReadsPiece first (grammar.sequencePiece allowIn) := by
  refine .of_outcome fun outcome => ?_
  mvcgen [sequencePiece] <;> grind -linarith

@[spec] theorem reads_sequence :
    Reads first grammar.sequence := by
  refine .of_outcome fun outcome => ?_
  mvcgen [sequence] <;> grind -linarith

omit [grammar.Sound] in
@[spec] theorem reads_list
    {close : Punctuator}
    {item : Recogniser (List CallTree)}
    (itemReads : ∀ first (outcome : Outcome (Read first)), Yields first item outcome.holds) :
    Reads first (grammar.list close item) :=
  reads_listUntil itemReads

omit [grammar.Sound] in
@[spec] theorem reads_angleList
    {item : Recogniser (List CallTree)}
    (itemReads : ∀ first (outcome : Outcome (Read first)), Yields first item outcome.holds) :
    Reads first (grammar.angleList item) := by
  have itemReads first := Yields.of_outcome (itemReads first)
  refine .of_outcome fun outcome => ?_
  mvcgen [angleList, itemReads] <;> grind -linarith

omit [Source] in
@[spec] theorem looks_pieceFrom
    {begin : Nat}
    {calls : List CallTree} :
    Looks first (pieceFrom begin calls) fun piece => piece =
      ⟨⟨begin, first.previous.offset⟩, ⟨begin, first.previous.offset⟩, .other, false, calls⟩ := by
  mvcgen [pieceFrom]
  grind

@[spec] theorem reads_annotation? :
    Reads first grammar.annotation? := by
  refine .of_outcome fun outcome => ?_
  mvcgen [annotation?] <;> grind -linarith

@[spec] theorem reads_statements :
    Reads first grammar.statements := by
  refine .of_outcome fun outcome => ?_
  mvcgen [statements] <;> grind -linarith

@[spec] theorem passes_block :
    Passes first grammar.block := by
  refine .of_outcome fun outcome => ?_
  mvcgen [block] <;> grind -linarith

omit [Source] in
/-- The text of a template is read from a place of the text on. -/
theorem reaches_template
    {place : Place}
    {literal : LiteralReading}
    (read : readLiteral '\x60' none place.offset place.rest = some literal) :
    place.Reaches literal.stop :=
  reaches_readLiteral rfl read

omit [grammar.Sound] in
@[spec] theorem passes_templateRest
    {tagged : Bool}
    {inside : Recogniser (List CallTree)}
    (insideReads : ∀ first (outcome : Outcome (Read first)), Yields first inside outcome.holds)
    {count : Nat} :
    Passes first (grammar.templateRest tagged inside count) := by
  have insideReads first := Yields.of_outcome (insideReads first)
  induction count generalizing first with
  | zero => mvcgen [templateRest]
  | succ count inductionHypothesis =>
      refine .of_outcome fun outcome => ?_
      mvcgen [templateRest, insideReads, inductionHypothesis]
      all_goals grind -linarith [→ reaches_template, → Place.IsIn.of_reaches, → Place.Reaches.le]

@[spec] theorem passes_template
    {tagged : Bool} :
    Passes first (grammar.template tagged) := by
  refine .of_outcome fun outcome => ?_
  mvcgen [template] <;> grind -linarith

/-! ### Bindings -/

omit [Source] in
@[spec] theorem looks_atPropertyName :
    Looks first atPropertyName fun _ => True := by
  mvcgen [atPropertyName] <;> grind -linarith

@[spec] theorem reads_propertyName :
    Reads first grammar.propertyName := by
  refine .of_outcome fun outcome => ?_
  mvcgen [propertyName] <;> grind -linarith

@[spec] theorem reads_default? :
    Reads first grammar.default? := by
  refine .of_outcome fun outcome => ?_
  mvcgen [default?] <;> grind -linarith

@[spec] theorem reads_bindingWithDefault :
    Reads first grammar.bindingWithDefault := by
  refine .of_outcome fun outcome => ?_
  mvcgen [bindingWithDefault] <;> grind -linarith

@[spec] theorem reads_arrayBindingItem :
    Reads first grammar.arrayBindingItem := by
  refine .of_outcome fun outcome => ?_
  mvcgen [arrayBindingItem] <;> grind -linarith

@[spec] theorem reads_objectBindingItem :
    Reads first grammar.objectBindingItem := by
  refine .of_outcome fun outcome => ?_
  mvcgen [objectBindingItem] <;> grind -linarith

@[spec] theorem reads_binding :
    Reads first grammar.binding := by
  refine .of_outcome fun outcome => ?_
  mvcgen [binding] <;> grind -linarith

omit [Source] in
@[spec] theorem looks_atModifier
    {words : List String}
    {next : Recogniser Bool} :
    Looks first (atModifier words next) fun _ => True := by
  mvcgen [atModifier] <;> grind -linarith

omit [grammar.Sound] in
@[spec] theorem yields_modifiers
    {words : List String}
    {next : Recogniser Bool} :
    Yields first (grammar.modifiers words next) fun _ last => first.Leads last := by
  refine .of_outcome fun outcome => ?_
  mvcgen [modifiers] <;> grind -linarith

@[spec] theorem reads_parameter :
    Reads first grammar.parameter := by
  refine .of_outcome fun outcome => ?_
  mvcgen [parameter] <;> grind -linarith

@[spec] theorem reads_parameters :
    Reads first grammar.parameters := by
  refine .of_outcome fun outcome => ?_
  mvcgen [parameters] <;> grind -linarith

@[spec] theorem reads_typeParameter :
    Reads first grammar.typeParameter := by
  refine .of_outcome fun outcome => ?_
  mvcgen [typeParameter] <;> grind -linarith

@[spec] theorem reads_typeParameters? :
    Reads first grammar.typeParameters? := by
  refine .of_outcome fun outcome => ?_
  mvcgen [typeParameters?] <;> grind -linarith

@[spec] theorem reads_typeArguments :
    Reads first grammar.typeArguments := by
  refine .of_outcome fun outcome => ?_
  mvcgen [typeArguments] <;> grind -linarith

end Grammar
end Script
end MessageExpansion
