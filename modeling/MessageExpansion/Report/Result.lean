import MessageExpansion.Command.Result
import MessageExpansion.Report.Issues

/-!
# Reports of commands

What a command says when it is done: the files it gave up, what it did, and how many files failed.
-/

namespace MessageExpansion
namespace Report

/-- A line with the mark of success. -/
def successLine (coloured : Bool) (message : String) : String :=
  (Style.plain .green).paint coloured successMark ++ " " ++
    (Style.plain .green).paint coloured message ++ "\n"

/-- A line with an error. -/
def errorLine (coloured : Bool) (message : String) : String :=
  (Style.strong .red).paint coloured "error:" ++ " " ++ message ++ "\n"

/-- A line for a file that was written. -/
def writtenLine (coloured : Bool) (path : String) : String :=
  "  " ++ (⟨false, true, none⟩ : Style).paint coloured "wrote" ++ " " ++ path ++ "\n"

/-- The number of files that were not given up. -/
def succeeded (result : CommandResult) : Nat := result.files - result.failures.length

/-- What inlining did. -/
def inlineText (coloured verbose : Bool) (result : CommandResult) (replaced generated : Nat)
    (written : List String) : String :=
  let functions :=
    if 0 < generated then
      " (" ++ counted generated "generated function" "generated functions" ++ ")"
    else ""
  (if verbose then String.join (written.map (writtenLine coloured)) else "") ++
    if succeeded result = 0 then ""
    else
      successLine coloured
        ("Inlined " ++ counted replaced "call" "calls" ++ " in " ++
          counted (succeeded result) "file" "files" ++ functions)

/-- What extraction did. -/
def extractText (coloured : Bool) (result : CommandResult) (patterns : Nat)
    (written : Option String) : String :=
  let target := match written with
    | some path => " to " ++ path
    | none => ""
  successLine coloured
    ("Extracted " ++ counted patterns "pattern" "patterns" ++ " from " ++
      counted (succeeded result) "file" "files" ++ target)

/-- What linting found. -/
def lintText (coloured : Bool) (result : CommandResult) : String :=
  ofIssues coloured result.issues ++
    if result.issues.isEmpty && result.failures.isEmpty then
      successLine coloured
        ("Checked " ++ counted result.files "file" "files" ++ " - no issues found")
    else ""

/-- What a command did. -/
def summaryText (coloured verbose : Bool) (result : CommandResult) : String :=
  match result.summary with
  | .inline replaced generated written =>
      inlineText coloured verbose result replaced generated written
  | .extract patterns written => extractText coloured result patterns written
  | .lint => lintText coloured result
  | .init _ => ""

/-- How many files were given up, if some were. -/
def failureText (coloured : Bool) (result : CommandResult) : String :=
  if result.failures.isEmpty then ""
  else
    (Style.plain .red).paint coloured failureMark ++ " " ++
      counted result.failures.length "file" "files" ++ " of " ++ toString result.files ++
      " failed\n"

/-- The report of a command. -/
def ofResult (coloured verbose : Bool) (result : CommandResult) : String :=
  String.join (result.failures.map fun failure => errorLine coloured failure.message) ++
    summaryText coloured verbose result ++ failureText coloured result

end Report
end MessageExpansion
