import MessageExpansion.Edit
import MessageExpansion.Expansion.Error
import MessageExpansion.Expansion.Matching
import MessageExpansion.HoistedFunctions
import MessageExpansion.Renderer.CompiledPattern
import MessageExpansion.Script.Parser
import MessageExpansion.Session
import MessageExpansion.Text.StringLiteral

/-!
# Inlining

Replacing the eligible calls of a script.  A call of a constant pattern becomes a string literal;
any other becomes a call of a function that is hoisted to the end of the script.  Calls are
visited after the calls inside them.  What a call's replacement keeps of the call are its
parameters, with the replacements inside them; other replacements inside it are dropped, with the
functions that they need.
-/

namespace MessageExpansion

open Script (Span Call Dialect)

/-- A replacement for a call. -/
structure Replacement where
  /-- The text that takes the place of the call. -/
  edit : Edit
  /-- The indices of the functions that the text calls. -/
  functions : List Nat
deriving DecidableEq, Repr

/-- A script that is being inlined. -/
structure Inlining where
  /-- The settings of the run. -/
  session : Session
  /-- The path of the script. -/
  file : String
  /-- The text of the script. -/
  script : List Char

/-- How far the inlining of a script has come. -/
structure InliningState where
  /-- The replacements that stand at the moment. -/
  replacements : List Replacement
  /-- The calls that were replaced by constants. -/
  folded : FoldedConstants
  /-- The functions that the replacements need. -/
  hoisted : HoistedFunctions
  /-- The number of calls that were replaced. -/
  replaced : Nat
  /-- The localizations that could not be used. -/
  warnings : List BrokenLocalization

/-- Nothing is replaced yet, and functions get indices from `first` on. -/
def InliningState.start (first : Nat) : InliningState := ⟨[], [], .startingAt first, 0, []⟩

/-- What a call is compiled from. -/
structure EffectivePattern where
  /-- The pattern. -/
  pattern : Pattern
  /-- A localization that could not be used in its place. -/
  unused : Option BrokenLocalization

namespace Inlining

/-- The location of a call. -/
def locate (inlining : Inlining) (call : Call) : Location :=
  (Excerpt.ofOffset inlining.file inlining.script call.span.start).location

/-- The pattern that a call is compiled from: its localization, or else its own. -/
def effectivePattern (inlining : Inlining) (call : Call) (text locale : String) :
    Except ExpansionError EffectivePattern := do
  match Pattern.parse text with
  | .error error => .error (.patternSyntax (inlining.locate call) text error)
  | .ok own =>
      match inlining.session.resolve text locale with
      | .error error => .error (.catalog (inlining.locate call) error)
      | .ok .unlocalized => .ok ⟨own, none⟩
      | .ok .missing => .ok ⟨own, none⟩
      | .ok (.localized localization) =>
          match Pattern.parse localization with
          | .ok pattern => .ok ⟨pattern, none⟩
          | .error error =>
              let broken : BrokenLocalization :=
                ⟨inlining.locate call, locale, localization, error⟩
              match inlining.session.policy with
              | .fallback => .ok ⟨own, some broken⟩
              | .error => .error (.localizationSyntax broken)

/-- The replacement lies inside a stretch. -/
def isInside (span : Option Span) (replacement : Replacement) : Bool :=
  match span with
  | some span => span.start ≤ replacement.edit.start && replacement.edit.stop ≤ span.stop
  | none => false

/-- Discard the functions of replacements that are dropped. -/
def discardAll (hoisted : HoistedFunctions) (dropped : List Replacement) : HoistedFunctions :=
  (dropped.flatMap (·.functions)).foldl HoistedFunctions.discard hoisted

/-- The text of the parameters of a call with the replacements inside them; a call without
parameters passes `null`. -/
def parametersText (inlining : Inlining) (parameters : Option Span)
    (kept : List Replacement) : List Char :=
  match parameters with
  | some span => splice inlining.script span.start span.stop (kept.map (·.edit))
  | none => "null".toList

/-- Add a replacement for a call. -/
def replace (state : InliningState) (call : Call) (text : List Char) (functions : List Nat) :
    InliningState :=
  { state with
    replacements :=
      state.replacements ++ [⟨⟨call.span.start, call.span.stop, text⟩, functions⟩]
    replaced := state.replaced + 1 }

/-- Replace a call by a constant. -/
def replaceByConstant (state : InliningState) (call : Call) (kept : List Replacement)
    (value : String) : InliningState :=
  replace
    { state with
      hoisted := discardAll state.hoisted kept
      folded := (call.span, value) :: state.folded }
    call (Text.stringLiteral value).toList []

/-- Replace a call by a call of a function with the index `index`. -/
def replaceByCall (inlining : Inlining) (state : InliningState) (call : Call)
    (parameters : Option Span) (kept : List Replacement) (index : Nat)
    (function : RenderFunction) : InliningState :=
  replace { state with hoisted := state.hoisted.push function.print } call
    (function.name.toList ++ '(' :: inlining.parametersText parameters kept ++ [')'])
    (kept.flatMap (·.functions) ++ [index])

/-- The replacements that begin before a call. -/
def before (state : InliningState) (call : Call) : List Replacement :=
  state.replacements.takeWhile fun replacement => replacement.edit.start < call.span.start

/-- The replacements from the first one on that does not begin before a call. -/
def onward (state : InliningState) (call : Call) : List Replacement :=
  state.replacements.dropWhile fun replacement => replacement.edit.start < call.span.start

/-- The replacements that the replacement of a call keeps: those inside its parameters. -/
def kept (state : InliningState) (call : Call) (parameters : Option Span) : List Replacement :=
  (onward state call).filter (isInside parameters)

/-- The replacements that the replacement of a call drops. -/
def dropped (state : InliningState) (call : Call) (parameters : Option Span) :
    List Replacement :=
  (onward state call).filter fun replacement => !isInside parameters replacement

/-- Replace an eligible call whose effective pattern is known. -/
def replaceCall (inlining : Inlining) (state : InliningState) (call : Call)
    (eligible : EligibleCall) (locale : String) (pattern : Pattern) : InliningState :=
  let kept := kept state call eligible.parameters
  let dropped := dropped state call eligible.parameters
  let state :=
    { state with
      replacements := before state call
      hoisted := discardAll state.hoisted dropped }
  let index := state.hoisted.next
  let host := inlining.session.function
  match CompiledPattern.ofPattern host locale (generatedName host index) pattern with
  | .empty => replaceByConstant state call kept ""
  | .constant value => replaceByConstant state call kept value
  | .function function =>
      inlining.replaceByCall state call eligible.parameters kept index function

/-- Visit a call: replace it if it is eligible. -/
def visit (inlining : Inlining) (state : InliningState) (call : Call) :
    Except ExpansionError InliningState :=
  match call.match? inlining.session.function state.folded with
  | none => .ok state
  | some eligible =>
      let locale := inlining.session.effectiveLocale eligible.locale
      match inlining.effectivePattern call eligible.pattern locale with
      | .error error => .error error
      | .ok effective =>
          .ok (inlining.replaceCall
            { state with warnings := state.warnings ++ effective.unused.toList }
            call eligible locale effective.pattern)

/-- Visit calls until one of them fails. -/
def visitAll (inlining : Inlining) (state : InliningState) :
    List Call → InliningState × Option ExpansionError
  | [] => (state, none)
  | call :: rest =>
      match inlining.visit state call with
      | .ok next => visitAll inlining next rest
      | .error error => (state, some error)

end Inlining

/-- An inlined script. -/
structure InlinedScript where
  /-- Its text. -/
  text : List Char
  /-- The map back to the script. -/
  map : PositionMap
  /-- The number of calls that were replaced. -/
  replaced : Nat
  /-- The number of functions that were hoisted. -/
  generated : Nat
  /-- An index from which on no function has one. -/
  next : Nat

/-- What came of inlining a script, and the localizations that could not be used. -/
structure InliningOutcome where
  /-- The localizations that could not be used. -/
  warnings : List BrokenLocalization
  /-- The inlined script. -/
  result : Except ExpansionError InlinedScript

namespace Inlining

/-- What is put behind a script, if anything is, follows the grammar. -/
def isSound (inlining : Inlining) : (trailer : Option (List Char)) → Bool
  | some trailer => (Script.parse (.ofPath inlining.file) trailer).isSome
  | none => true

/-- Print a script whose calls were visited. -/
def finish (inlining : Inlining) (inputMap : Option PositionMap) (state : InliningState) :
    Except ExpansionError InlinedScript :=
  let trailer := state.hoisted.flush.1.map String.toList
  if inlining.isSound trailer then
    let printed := Printed.ofEdits inlining.file inlining.script
      (state.replacements.map (·.edit)) trailer
    let map := match inputMap with
      | some earlier => printed.map.compose earlier
      | none => printed.map
    .ok ⟨printed.text, map, state.replaced, state.hoisted.size, state.hoisted.next⟩
  else .error (.generatedCode inlining.file)

/-- Inline a script whose calls are visited in a given order. -/
def runOver (inlining : Inlining) (inputMap : Option PositionMap) (first : Nat)
    (calls : List Call) : InliningOutcome :=
  match inlining.visitAll (.start first) calls with
  | (state, some error) => ⟨state.warnings, .error error⟩
  | (state, none) => ⟨state.warnings, inlining.finish inputMap state⟩

/--
Inline a script.  Functions get indices from `first` on.  With an input map, which leads from the
script to an earlier text, the map of the result leads there as well.
-/
def run (inlining : Inlining) (inputMap : Option PositionMap) (first : Nat) :
    InliningOutcome :=
  match Script.parse (.ofPath inlining.file) inlining.script with
  | none => ⟨[], .error (.unparsed inlining.file)⟩
  | some trees => inlining.runOver inputMap first (Script.CallTree.visitsAll trees)

end Inlining
end MessageExpansion
