import MessageExpansion.Lint.Issue

/-!
# Results of commands

What a command did, which files it gave up, and whether that counts as success.
-/

namespace MessageExpansion

/-- What a command did. -/
inductive CommandSummary where
  /-- It replaced calls, hoisted functions, and wrote files. -/
  | inline (replaced generated : Nat) (written : List String)
  /-- It extracted patterns and wrote them to a file, or else to the standard output. -/
  | extract (patterns : Nat) (written : Option String)
  | lint
  /-- It wrote a configuration file, or else there is an error. -/
  | init (error : Option String)
deriving DecidableEq, Repr

/-- A file that was given up. -/
structure FileFailure where
  /-- The path of the file. -/
  file : String
  /-- The reason in words. -/
  message : String
deriving DecidableEq, Repr

/-- The result of a command. -/
structure CommandResult where
  /-- What it did. -/
  summary : CommandSummary
  /-- The issues it found, in the order in which they are listed. -/
  issues : List Issue
  /-- The files it gave up, in the order of their names. -/
  failures : List FileFailure
  /-- The number of scripts it was applied to. -/
  files : Nat

/-- How a program ends. -/
inductive ExitStatus where
  | success
  /-- Something was found or went wrong. -/
  | failure
  /-- The command could not run. -/
  | error
deriving DecidableEq, Repr

/-- The number that a program ends with. -/
def ExitStatus.code : ExitStatus → Nat
  | success => 0
  | failure => 1
  | error => 2

namespace CommandResult

/-- Bring issues and failures into order. -/
def finish (summary : CommandSummary) (issues : List Issue) (failures : List FileFailure)
    (files : Nat) : CommandResult :=
  ⟨summary, Issue.sort issues,
    failures.mergeSort fun first second => (compare first.file second.file).isLE, files⟩

/-- The number of errors. -/
def errors (result : CommandResult) : Nat :=
  let initErrors := match result.summary with
    | .init (some _) => 1
    | _ => 0
  errorCount result.issues + result.failures.length + initErrors

/-- The number of warnings. -/
def warnings (result : CommandResult) : Nat := warningCount result.issues

/-- There are errors or warnings. -/
def hasProblems (result : CommandResult) : Bool := 0 < result.errors || 0 < result.warnings

/-- How the program ends; linting fails on warnings as well. -/
def status (result : CommandResult) : ExitStatus :=
  let failed := match result.summary with
    | .lint => result.hasProblems
    | _ => decide (0 < result.errors)
  if failed then .failure else .success

end CommandResult
end MessageExpansion
