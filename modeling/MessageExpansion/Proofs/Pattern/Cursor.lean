import MessageExpansion.Pattern.Parser
import MessageExpansion.Proofs.Text.Boundary

/-!
# Reading patterns by position

The grammar of patterns once more, read with a cursor: a position in the text, counted in bytes,
which characters, marks and words move on.  A position says nothing about the text, so here
everything is checked.  The cursor is refused inside a character and behind the end.  A turn of a
loop is refused if it leaves the cursor where it was, and so is a pattern inside another one that
begins where that one does.

The checks make every reader end, whether they are ever needed or not.
-/

namespace MessageExpansion
namespace Pattern
namespace Cursor

open Text (IsBoundary isBlank byteLength dropBytes slice readUnsigned?)

/-- Why a reader stops early. -/
inductive Stop where
  /-- The cursor is inside a character or behind the end. -/
  | split (position : Nat)
  /-- The cursor has to move on from a position, and did not. -/
  | stalled (position : Nat)
  /-- The text is not a pattern. -/
  | error (error : PatternSyntaxError)

/-- Reading: the cursor is moved, unless the reader stops early. -/
abbrev Step := StateT Nat (Except Stop)

section

variable (whole : List Char)

/-! ### Looking and moving -/

/-- The text from a position on. -/
def behind (position : Nat) : Step (List Char) :=
  if IsBoundary whole position then return dropBytes position whole
  else throw (.split position)

/-- The text between a position and the cursor. -/
def cutFrom (start : Nat) : Step (List Char) := do
  let stop ← get
  if IsBoundary whole start ∧ IsBoundary whole stop ∧ start ≤ stop then
    return slice start stop whole
  else throw (.split start)

/-- The character at the cursor. -/
def peek : Step (Option Char) := do
  return (← behind whole (← get)).head?

/-- Put the cursor at a position. -/
def moveTo (position : Nat) : Step Unit :=
  if IsBoundary whole position then set position
  else throw (.split position)

/-- Move the cursor over a character. -/
def bump (c : Char) : Step Unit := do
  moveTo whole ((← get) + c.utf8Size)

/-- Stop because of a problem at a position. -/
def stop {α : Type} (problem : PatternProblem) (position : Nat) : Step α :=
  throw (.error ⟨problem, position⟩)

/-- Stop because something else was expected at the cursor. -/
def found {α : Type} (problem : Found → PatternProblem) : Step α := do
  stop (problem (← peek whole)) (← get)

/-- Read one certain character. -/
def expect (wanted : Char) : Step Unit := do
  if (← peek whole) = some wanted then bump whole wanted
  else found whole (.expected wanted)

/-! ### Loops -/

/-- What a turn of a loop leads to: another turn, or the end of the loop. -/
inductive Turn (σ β : Type) where
  | again (state : σ)
  | done (value : β)

/-- The cursor moves on, and not beyond the end. -/
def Advances (position next : Nat) : Prop := position < next ∧ next ≤ byteLength whole

instance (position next : Nat) : Decidable (Advances whole position next) :=
  inferInstanceAs (Decidable (_ ∧ _))

variable {whole} in
/-- Less of the text is left where the cursor has moved on. -/
theorem Advances.decreases
    {position next : Nat}
    (advances : Advances whole position next) :
    byteLength whole - next < byteLength whole - position := by
  obtain ⟨less, within⟩ := advances
  omega

/-- Take turns until one ends the loop.  Every other turn has to move the cursor on. -/
def loop {σ β : Type} (turn : σ → Step (Turn σ β)) (state : σ) (position : Nat) :
    Except Stop (β × Nat) :=
  match turn state position with
  | .error stop => .error stop
  | .ok (.done value, next) => .ok (value, next)
  | .ok (.again state, next) =>
      if _ : Advances whole position next then loop turn state next
      else .error (.stalled position)
termination_by byteLength whole - position
decreasing_by exact Advances.decreases ‹_›

/-- Move over the next character if it passes a test. -/
def skipTurn (test : Char → Bool) (_ : Unit) : Step (Turn Unit Unit) := do
  match ← peek whole with
  | some c =>
      if test c then
        bump whole c
        return .again ()
      else return .done ()
  | none => return .done ()

/-- Move over the characters that pass a test. -/
def skipWhile (test : Char → Bool) : Step Unit := loop whole (skipTurn whole test) ()

/-- Read a word. -/
def word : Step (List Char) := do
  let start ← get
  skipWhile whole isWordChar
  cutFrom whole start

/-! ### Arguments -/

/-- Read the style of an argument, if a comma announces one. -/
def style? : Step (Option String) := do
  if (← peek whole) = some ',' then
    bump whole ','
    skipWhile whole isBlank
    let name ← word whole
    if name.isEmpty then found whole .expectedStyle
    else
      skipWhile whole isBlank
      return some (String.ofList name)
  else return none

/-- Read an optional style, which `styles` names, and the closing brace. -/
def formatted {σ : Type} (type : String) (unstyled : σ) (styles : String → Option σ) :
    Step σ := do
  let keyword ← style? whole
  let style : Option σ := match keyword with
    | none => some unstyled
    | some name => styles name
  match style with
  | none => stop (.unknownStyle type (keyword.getD "")) (← get)
  | some style =>
      expect whole '\x7d'
      return style

/-- Read the offset of a plural, which is zero without its mark. -/
def pluralOffset : Step UInt32 := do
  let start ← get
  if offsetMark.isPrefixOf (← behind whole start) then
    moveTo whole (start + byteLength offsetMark)
    skipWhile whole isBlank
    let numeral ← word whole
    match readUnsigned? UInt32.size numeral with
    | some value => return UInt32.ofNat value
    | none => stop (.invalidPluralOffset (String.ofList numeral)) (← get)
  else return 0

/-- Read the condition of a plural option. -/
def pluralSelector : Step PluralSelector := do
  let start ← get
  if (← peek whole) = some '=' then
    bump whole '='
    let numeral ← word whole
    match readUnsigned? UInt64.size numeral with
    | some value => return .exact (UInt64.ofNat value)
    | none => stop (.invalidExactSelector (String.ofList numeral)) start
  else
    let name ← word whole
    if PluralSelector.categories.contains (String.ofList name) then
      return .category (String.ofList name)
    else stop (.invalidPluralCategory (String.ofList name)) start

/-- Read the type of the argument `name` and what the type asks for, up to the options if any. -/
def typed (name : String) : Step Head := do
  let start ← get
  let type ← word whole
  skipWhile whole isBlank
  match String.ofList type with
  | "number" => return .complete (.number name (← formatted whole "number" .decimal numberStyle?))
  | "date" => return .complete (.date name (← formatted whole "date" .medium dateTimeStyle?))
  | "time" => return .complete (.time name (← formatted whole "time" .medium dateTimeStyle?))
  | "select" =>
      expect whole ','
      return .select name
  | "" => found whole .expectedArgumentType
  | type =>
      if type = "plural" ∨ type = "selectordinal" then
        expect whole ','
        skipWhile whole isBlank
        return .plural name (type == "selectordinal") (← pluralOffset whole)
      else stop (.unknownArgumentType type) start

/-- Read an argument after its opening brace, up to the options if it has any. -/
def head : Step Head := do
  skipWhile whole isBlank
  let name ← word whole
  if name.isEmpty then found whole .expectedArgumentName
  else
    skipWhile whole isBlank
    match ← peek whole with
    | some '\x7d' =>
        bump whole '\x7d'
        return .complete (.argument (String.ofList name))
    | some ',' =>
        bump whole ','
        skipWhile whole isBlank
        typed whole (String.ofList name)
    | _ => found whole (.expected '\x7d')

/-! ### Elements -/

/-- Read a character inside quotes. -/
def quotedTurn (text : List Char) : Step (Turn (List Char) (List Char)) := do
  match ← peek whole with
  | some c =>
      bump whole c
      if c = '\'' then
        if (← peek whole) = some '\'' then
          bump whole '\''
          return .again (text ++ ['\''])
        else return .done text
      else return .again (text ++ [c])
  | none => return .done text

/-- Read an apostrophe and what it quotes. -/
def quoted (inPlural : Bool) (text : List Char) : Step (List Char) := do
  bump whole '\''
  match ← peek whole with
  | some c =>
      if c = '\'' then
        bump whole '\''
        return text ++ ['\'']
      else if isSyntax inPlural c then loop whole (quotedTurn whole) text
      else return text ++ ['\'']
  | none => return text ++ ['\'']

variable (nested : Bool → Step Pattern)

/-- Read a sub-pattern between braces. -/
def braced (inPlural : Bool) : Step Pattern := do
  expect whole '\x7b'
  let value ← nested inPlural
  expect whole '\x7d'
  return value

/-- Read an option of a plural. -/
def pluralOption : Step PluralOption := do
  let selector ← pluralSelector whole
  skipWhile whole isBlank
  return .mk selector (← braced whole nested true)

/-- Read an option of a select. -/
def selectOption (inPlural : Bool) : Step SelectOption := do
  let key ← word whole
  if key.isEmpty then found whole .expectedSelectKey
  else
    skipWhile whole isBlank
    return .mk (String.ofList key) (← braced whole nested inPlural)

/-- Read one more option, or the brace behind the last one. -/
def optionsTurn {α : Type} (option : Step α) (options : List α) :
    Step (Turn (List α) (List α)) := do
  skipWhile whole isBlank
  match ← peek whole with
  | none => found whole (.expected '\x7d')
  | some '\x7d' =>
      bump whole '\x7d'
      return .done options
  | some _ => return .again (options ++ [← option])

/-- Read an argument between its braces. -/
def placeholder (inPlural : Bool) : Step Element := do
  expect whole '\x7b'
  match ← head whole with
  | .complete element => return element
  | .plural name ordinal offset =>
      let options ← loop whole (optionsTurn whole (pluralOption whole nested)) []
      if coversOther options then return .plural name ordinal offset options
      else stop (.missingOther "plural" name) (← get)
  | .select name =>
      let options ← loop whole (optionsTurn whole (selectOption whole nested inPlural)) []
      if options.any (·.key == "other") then return .select name options
      else stop (.missingOther "select" name) (← get)

/-- Read an element or a character of a text, behind some elements and a text that has begun. -/
def elementsTurn (inPlural : Bool) (state : Pattern × List Char) :
    Step (Turn (Pattern × List Char) Pattern) := do
  let (elements, text) := state
  match ← peek whole with
  | none => return .done (elements ++ textElements text)
  | some c =>
      if c = '\x7d' then return .done (elements ++ textElements text)
      else if c = '\x7b' then
        let element ← placeholder whole nested inPlural
        return .again (elements ++ textElements text ++ [element], [])
      else if c = '#' ∧ inPlural then
        bump whole c
        return .again (elements ++ textElements text ++ [.pluralValue], [])
      else if c = '\'' then return .again (elements, ← quoted whole inPlural text)
      else
        bump whole c
        return .again (elements, text ++ [c])

end

/-- Read elements up to an unmatched closing brace or the end. -/
def elements (whole : List Char) (inPlural : Bool) (position : Nat) :
    Except Stop (Pattern × Nat) :=
  let nested (inPlural : Bool) : Step Pattern := fun inner =>
    if _ : Advances whole position inner then elements whole inPlural inner
    else .error (.stalled position)
  loop whole (elementsTurn whole nested inPlural) ([], []) position
termination_by byteLength whole - position
decreasing_by exact Advances.decreases ‹_›

/-- Read elements up to the end. -/
def allElements (whole : List Char) : Step Pattern := do
  let pattern ← elements whole false
  match ← peek whole with
  | none => return pattern
  | some c => stop (.unexpected c) (← get)

/-- Read a whole text as a pattern. -/
def parse (text : String) : Except Stop Pattern := (allElements text.toList).run' 0

end Cursor
end Pattern
end MessageExpansion
