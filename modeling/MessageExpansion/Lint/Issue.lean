import MessageExpansion.Location
import MessageExpansion.Text.Quoted

/-!
# Issues

What linting reports: the call or file concerned, what is wrong there, and how that is said.
-/

namespace MessageExpansion

/-- How bad an issue is. -/
inductive Severity where
  | error
  | warning
deriving DecidableEq, Repr

/-- The kinds of issues, in the order in which issues of one place are listed. -/
inductive Rule where
  | malformedArguments
  | patternSyntax
  | missingLocalization
  | localizationSyntax
  | catalogLookup
  | parseError
deriving DecidableEq, Repr

namespace Rule

/-- The name of a rule. -/
def name : Rule → String
  | .malformedArguments => "malformed-arguments"
  | .patternSyntax => "pattern-syntax"
  | .missingLocalization => "missing-translation"
  | .localizationSyntax => "translation-syntax"
  | .catalogLookup => "catalog-lookup"
  | .parseError => "parse-error"

/-- The place of a rule in the order of the rules. -/
def rank : Rule → Nat
  | .malformedArguments => 0
  | .patternSyntax => 1
  | .missingLocalization => 2
  | .localizationSyntax => 3
  | .catalogLookup => 4
  | .parseError => 5

/-- Calls that work at run time are only warned about. -/
def severity : Rule → Severity
  | .malformedArguments => .warning
  | .missingLocalization => .warning
  | .patternSyntax => .error
  | .localizationSyntax => .error
  | .catalogLookup => .error
  | .parseError => .error

end Rule

/-- The arguments that have to be known before the script runs. -/
inductive ArgumentRole where
  | pattern
  | locale
deriving DecidableEq, Repr

/-- The name of an argument. -/
def ArgumentRole.name : ArgumentRole → String
  | .pattern => "pattern"
  | .locale => "locale"

/-- What is wrong with a call. -/
inductive CallProblem where
  /-- An argument of a call of `function` is not known before the script runs. -/
  | malformedArguments (function : String) (argument : ArgumentRole)
  /-- The pattern is none, for the reason `error`. -/
  | patternSyntax (pattern error : String)
  | missingLocalization (pattern locale : String)
  /-- The localization is no pattern, for the reason `error`. -/
  | localizationSyntax (locale localization error : String)
  /-- The catalog cannot answer, for the reason `error`. -/
  | catalogLookup (error : String)
deriving DecidableEq, Repr

/-- Something that linting reports. -/
inductive Issue where
  /-- Something is wrong with the call at a place. -/
  | call (excerpt : Excerpt) (problem : CallProblem)
  /-- The script in a file does not follow its grammar, for the reason `error`. -/
  | unparsed (file error : String)
deriving DecidableEq, Repr

namespace CallProblem

/-- The rule that a problem breaks. -/
def rule : CallProblem → Rule
  | malformedArguments _ _ => .malformedArguments
  | patternSyntax _ _ => .patternSyntax
  | missingLocalization _ _ => .missingLocalization
  | localizationSyntax _ _ _ => .localizationSyntax
  | catalogLookup _ => .catalogLookup

/-- The problem in words. -/
def message : CallProblem → String
  | malformedArguments function argument =>
      argument.name ++ " argument of " ++ function ++ "() is not a string literal"
  | patternSyntax _ error => "invalid message pattern: " ++ error
  | missingLocalization pattern locale =>
      "no " ++ locale ++ " translation for " ++ Text.quoted pattern
  | localizationSyntax locale _ error => "invalid " ++ locale ++ " translation: " ++ error
  | catalogLookup error => error

/-- The text that a problem is about. -/
def details? : CallProblem → Option String
  | patternSyntax pattern _ => some ("pattern: " ++ Text.quoted pattern)
  | localizationSyntax _ localization _ => some ("translation: " ++ Text.quoted localization)
  | _ => none

/-- What happens to the call all the same. -/
def hint? : CallProblem → Option String
  | malformedArguments _ _ => some "this call is left as-is and evaluated at runtime"
  | missingLocalization _ _ => some "the original pattern is used instead"
  | _ => none

end CallProblem

namespace Issue

/-- The rule that an issue belongs to. -/
def rule : Issue → Rule
  | call _ problem => problem.rule
  | unparsed _ _ => .parseError

/-- How bad an issue is. -/
def severity (issue : Issue) : Severity := issue.rule.severity

/-- The issue in words. -/
def message : Issue → String
  | call _ problem => problem.message
  | unparsed _ error => error

/-- The text that an issue is about. -/
def details? : Issue → Option String
  | call _ problem => problem.details?
  | unparsed _ _ => none

/-- What happens all the same. -/
def hint? : Issue → Option String
  | call _ problem => problem.hint?
  | unparsed _ _ => none

/-- The call that an issue is about, if it is not about a whole file. -/
def excerpt? : Issue → Option Excerpt
  | call excerpt _ => some excerpt
  | unparsed _ _ => none

/-- The file of an issue. -/
def file : Issue → String
  | call excerpt _ => excerpt.location.file
  | unparsed file _ => file

/-- The line and column of an issue; a whole file comes before its lines. -/
def place : Issue → Nat × Nat
  | call excerpt _ => (excerpt.location.line, excerpt.location.column)
  | unparsed _ _ => (0, 0)

/-- Compare issues by file, place, rule and words. -/
def order (first second : Issue) : Ordering :=
  (compare first.file second.file).then <|
    (compare first.place.1 second.place.1).then <|
      (compare first.place.2 second.place.2).then <|
        (compare first.rule.rank second.rule.rank).then <|
          compare first.message second.message

/-- The first issue is listed no later than the second. -/
def isUpTo (first second : Issue) : Bool := (first.order second).isLE

/-- Issues in the order in which they are listed; those that compare as equal keep theirs. -/
def sort (issues : List Issue) : List Issue := issues.mergeSort isUpTo

end Issue

/-- The number of issues that are errors. -/
def errorCount (issues : List Issue) : Nat := issues.countP (·.severity == .error)

/-- The number of issues that are warnings. -/
def warningCount (issues : List Issue) : Nat := issues.countP (·.severity == .warning)

end MessageExpansion
