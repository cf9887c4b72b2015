import MessageExpansion.Script.CallTree

/-!
# Matching calls

A call is named when it calls the session's function.  It is eligible when in addition its pattern,
and its locale if it has one, are known before the script runs.
-/

namespace MessageExpansion

open Script (Span Argument Call)

/-- The values of calls that were found to be constant, by the stretch of the call. -/
abbrev FoldedConstants := List (Span × String)

/-- The value of the call in a stretch, if it was found to be constant. -/
def FoldedConstants.value? (folded : FoldedConstants) (span : Span) : Option String :=
  (folded.find? (·.1 == span)).map (·.2)

namespace Script

/-- What is known about an argument before the script runs. -/
inductive ArgumentKind where
  /-- A string literal, or a call that was found to be constant. -/
  | string (text : String)
  /-- A template without interpolations. -/
  | template (text : String)
  | other
deriving DecidableEq, Repr

/-- The value of an argument of a kind, if it is known. -/
def ArgumentKind.literal? : ArgumentKind → Option String
  | string text => some text
  | template text => some text
  | other => none

/-- What is known about an argument; nothing is known about one that is spread. -/
def Argument.kind (argument : Argument) (folded : FoldedConstants) : ArgumentKind :=
  if argument.isSpread then .other
  else
    match folded.value? argument.core with
    | some text => .string text
    | none =>
        match argument.shape with
        | .string text => .string text
        | .template text => .template text
        | .variable _ => .other
        | .other => .other

/-- The value of an argument, if it is known. -/
def Argument.literal? (argument : Argument) (folded : FoldedConstants) : Option String :=
  (argument.kind folded).literal?

namespace Call

/-- The argument that holds the pattern. -/
def pattern? (call : Call) : Option Argument := call.arguments[0]?

/-- The argument that holds the parameters of the pattern. -/
def parameters? (call : Call) : Option Argument := call.arguments[1]?

/-- The argument that names a locale. -/
def locale? (call : Call) : Option Argument := call.arguments[2]?

/-- The call is one of the function. -/
def isNamed (call : Call) (function : String) : Bool := call.callee == some function

end Call
end Script

/-- What an eligible call says. -/
structure EligibleCall where
  /-- The pattern. -/
  pattern : String
  /-- The stretch of the parameters, if there are any. -/
  parameters : Option Span
  /-- The locale, if the call names one. -/
  locale : Option String
deriving DecidableEq, Repr

/-- The locale that a call names; the outer option is none when it is not known. -/
def Script.Call.knownLocale? (call : Call) (folded : FoldedConstants) :
    Option (Option String) :=
  match call.locale? with
  | some argument => (argument.literal? folded).map some
  | none => some none

/-- What a call says, if it is eligible. -/
def Script.Call.match? (call : Call) (function : String) (folded : FoldedConstants) :
    Option EligibleCall :=
  if call.isNamed function then
    match call.pattern?.bind (·.literal? folded), call.knownLocale? folded with
    | some pattern, some locale => some ⟨pattern, call.parameters?.map (·.span), locale⟩
    | _, _ => none
  else none

/-- A call is eligible if it is named and its pattern and its locale are known. -/
theorem Script.Call.match?_eq_some_iff
    {call : Call}
    {function : String}
    {folded : FoldedConstants}
    {eligible : EligibleCall} :
    call.match? function folded = some eligible ↔
      call.isNamed function = true ∧
        call.pattern?.bind (·.literal? folded) = some eligible.pattern ∧
          call.knownLocale? folded = some eligible.locale ∧
            call.parameters?.map (·.span) = eligible.parameters := by
  unfold match?
  constructor
  · intro found
    split at found
    · next named =>
        split at found
        · next pattern locale =>
            cases found
            exact ⟨named, pattern, locale, rfl⟩
        · cases found
    · cases found
  · rintro ⟨named, pattern, locale, parameters⟩
    rw [if_pos named, pattern, locale, parameters]

end MessageExpansion
