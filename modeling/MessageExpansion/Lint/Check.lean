import MessageExpansion.Expansion.Matching
import MessageExpansion.Lint.Issue
import MessageExpansion.Renderer.CompiledPattern
import MessageExpansion.Script.Parser
import MessageExpansion.Session

/-!
# Linting

Every named call of a script is checked, whether it is eligible or not, and a call may have several
issues.
-/

namespace MessageExpansion

open Script (Call)

/-- A script that is checked. -/
structure Linting where
  /-- The settings of the run. -/
  session : Session
  /-- The path of the script. -/
  file : String
  /-- The text of the script. -/
  script : List Char

/-- How far the checks have come. -/
structure LintingState where
  /-- The issues so far. -/
  issues : List Issue
  /-- The calls that are constant. -/
  folded : FoldedConstants

/-- What checking a pattern and its localization found. -/
structure PatternCheck where
  /-- What is wrong. -/
  problems : List CallProblem
  /-- The value of the call, if it is constant. -/
  constant : Option String

/-- Check a pattern and its localization. -/
def PatternCheck.ofText (session : Session) (text locale : String) : PatternCheck :=
  match Pattern.parse text with
  | .error error => ⟨[.patternSyntax text error.describe], none⟩
  | .ok own =>
      match session.resolve text locale with
      | .error error => ⟨[.catalogLookup error.message], own.constant?⟩
      | .ok .unlocalized => ⟨[], own.constant?⟩
      | .ok .missing => ⟨[.missingLocalization text locale], own.constant?⟩
      | .ok (.localized localization) =>
          match Pattern.parse localization with
          | .ok pattern => ⟨[], pattern.constant?⟩
          | .error error =>
              ⟨[.localizationSyntax locale localization error.describe], own.constant?⟩

namespace Linting

/-- The problem with the pattern of a named call that is not known. -/
def patternProblem? (linting : Linting) (folded : FoldedConstants) (call : Call) :
    Option CallProblem :=
  match call.pattern?.bind (·.literal? folded) with
  | some _ => none
  | none => some (.malformedArguments linting.session.function .pattern)

/-- The problem with the locale of a named call that is not known. -/
def localeProblem? (linting : Linting) (folded : FoldedConstants) (call : Call) :
    Option CallProblem :=
  match call.knownLocale? folded with
  | some _ => none
  | none => some (.malformedArguments linting.session.function .locale)

/-- What checking the pattern of a named call finds. -/
def checkPattern (linting : Linting) (folded : FoldedConstants) (call : Call) : PatternCheck :=
  match call.pattern?.bind (·.literal? folded) with
  | none => ⟨[], none⟩
  | some text =>
      .ofText linting.session text
        (linting.session.effectiveLocale ((call.knownLocale? folded).getD none))

/-- Check a named call.  Only calls that would be replaced count as constant. -/
def check (linting : Linting) (state : LintingState) (call : Call) : LintingState :=
  let excerpt := Excerpt.ofOffset linting.file linting.script call.span.start
  let localeProblem := linting.localeProblem? state.folded call
  let found := linting.checkPattern state.folded call
  let problems :=
    (linting.patternProblem? state.folded call).toList ++ localeProblem.toList ++ found.problems
  let folded := match localeProblem, found.constant with
    | none, some value => (call.span, value) :: state.folded
    | _, _ => state.folded
  ⟨state.issues ++ problems.map (.call excerpt), folded⟩

/-- Visit a call: check it if it is named. -/
def visit (linting : Linting) (state : LintingState) (call : Call) : LintingState :=
  if call.isNamed linting.session.function then linting.check state call else state

/-- The issues of a script, in the order in which its calls are visited. -/
def run (linting : Linting) : List Issue :=
  match Script.parse (.ofPath linting.file) linting.script with
  | none => [.unparsed linting.file "the script does not follow the grammar"]
  | some trees =>
      ((Script.CallTree.visitsAll trees).foldl linting.visit ⟨[], []⟩).issues

end Linting
end MessageExpansion
