import MessageExpansion.Script.CallTree
import MessageExpansion.Script.Dialect
import MessageExpansion.Script.Lexer

/-!
# Cursors

Reading a script token by token.  A cursor stands at a token and knows where the token before it
ended.  A recogniser moves a cursor over what it recognises, or fails.
-/

namespace MessageExpansion
namespace Script

/-- A token of a script, and the places around it. -/
structure Cursor where
  /-- What the token is. -/
  kind : TokenKind
  /-- A line ends between the previous token and this one. -/
  newline : Bool
  /-- Where the token begins. -/
  start : Place
  /-- Where the token ends. -/
  stop : Place
  /-- Where the previous token ended. -/
  previous : Place

/-- The cursor at the first token from a place on.  A comment that is not closed belongs to an
invalid token that reaches to the end of the text. -/
def Cursor.after (place : Place) : Cursor :=
  match skipGap .blank false place.offset place.rest with
  | none => ⟨.invalid, false, place, place.skip place.rest.length, place⟩
  | some (newline, start) =>
      let (kind, stop) := tokenAt start
      ⟨kind, newline, start, stop, place⟩

/-- Something that moves a cursor over part of a script, or fails. -/
abbrev Recogniser := StateT Cursor Option

namespace Recogniser

/-- The token at the cursor. -/
def kind : Recogniser TokenKind := do return (← get).kind

/-- Move to the next token. -/
def advance : Recogniser Unit := modify fun cursor => .after cursor.stop

/-- Move to the first token from a place on. -/
def goTo (place : Place) : Recogniser Unit := set (Cursor.after place)

/-- Where the token at the cursor begins. -/
def start : Recogniser Nat := do return (← get).start.offset

/-- The stretch from an offset to the end of the previous token. -/
def spanFrom (start : Nat) : Recogniser Span := do return ⟨start, (← get).previous.offset⟩

/-- A line ends before the token. -/
def afterNewline : Recogniser Bool := do return (← get).newline

/-- The token is a certain punctuator. -/
def atPunctuator (which : Punctuator) : Recogniser Bool := do
  return (← kind) == .punctuator which

/-- The token is a certain keyword. -/
def atWord (word : String) : Recogniser Bool := do return (← kind) == .name word false

/-- Move over a certain punctuator if it is there. -/
def eat (which : Punctuator) : Recogniser Bool := do
  if ← atPunctuator which then
    advance
    return true
  else
    return false

/-- Move over one of some punctuators if it is there. -/
def eatAny (which : List Punctuator) : Recogniser Bool := do
  match ← kind with
  | .punctuator found =>
      if which.contains found then
        advance
        return true
      else
        return false
  | _ => return false

/-- Move over a certain keyword if it is there. -/
def eatWord (word : String) : Recogniser Bool := do
  if ← atWord word then
    advance
    return true
  else
    return false

/-- Fail unless a condition holds. -/
def check (condition : Bool) : Recogniser Unit := if condition then pure () else failure

/-- Move over a certain punctuator. -/
def expect (which : Punctuator) : Recogniser Unit := do check (← eat which)

/-- Move over a certain keyword. -/
def expectWord (word : String) : Recogniser Unit := do check (← eatWord word)

/-- Recognise something if it is there; otherwise the cursor stays where it is. -/
def attempt {α : Type} (recogniser : Recogniser α) : Recogniser (Option α) := fun cursor =>
  match recogniser cursor with
  | some (value, moved) => some (some value, moved)
  | none => some (none, cursor)

/-- Look at what follows without moving the cursor; a failure counts as `false`. -/
def follows (recogniser : Recogniser Bool) : Recogniser Bool := fun cursor =>
  match recogniser cursor with
  | some (value, _) => some (value, cursor)
  | none => some (false, cursor)

/-- Move over any name, reserved or not. -/
def anyName : Recogniser String := do
  match ← kind with
  | .name text _ =>
      advance
      return text
  | _ => failure

/-- The token can name a variable. -/
def atIdentifier : Recogniser Bool := do
  match ← kind with
  | .name text _ => return !reservedWords.contains text
  | _ => return false

/-- Move over the name of a variable. -/
def identifier : Recogniser String := do
  check (← atIdentifier)
  anyName

/-- The token is a string literal. -/
def atString : Recogniser Bool := do
  match ← kind with
  | .string _ => return true
  | _ => return false

/-- Move over a string literal. -/
def stringLiteral : Recogniser Unit := do
  check (← atString)
  advance

/-- The token is the end of the text. -/
def atEnd : Recogniser Bool := do return (← kind) == .endOfText

/-- A statement may end here: at a semicolon, before a closing brace, or with its line. -/
def atStatementEnd : Recogniser Bool := do
  return (← atPunctuator .semicolon) || (← atPunctuator .closeBrace) || (← atEnd) ||
    (← afterNewline)

/-- Move over the end of a statement. -/
def semicolon : Recogniser Unit := do
  check (← atStatementEnd)
  let _ ← eat .semicolon

/-- The token begins with a closing angle bracket. -/
def atAngle : Recogniser Bool := do
  match ← kind with
  | .punctuator _ => return (← get).start.rest.head? == some '>'
  | _ => return false

/-- Let the token end after a closing angle bracket that it begins with. -/
def splitAngle : Recogniser Unit := do
  check (← atAngle)
  modify fun cursor =>
    { cursor with kind := .punctuator .greater, stop := cursor.start.skip 1 }

/-- Move over a closing angle bracket, also one that a longer operator begins with. -/
def closeAngle : Recogniser Unit := do
  splitAngle
  advance

/-- Repeat a recogniser until a condition holds, at most `count` times, and join the results. -/
def repeatUntil {α : Type} (condition : Recogniser Bool) (item : Recogniser (List α)) :
    (count : Nat) → Recogniser (List α)
  | 0 => failure
  | count + 1 => do
      if ← condition then
        return []
      else
        let first ← item
        let rest ← repeatUntil condition item count
        return first ++ rest

/-- Items separated by commas up to a closing punctuator; a comma may follow the last one. -/
def listUntil {α : Type} (close : Punctuator) (item : Recogniser (List α)) (count : Nat) :
    Recogniser (List α) :=
  repeatUntil (eat close)
    (do
      let first ← item
      if !(← eat .comma) then
        check (← atPunctuator close)
      return first)
    count

end Recogniser

end Script
end MessageExpansion
