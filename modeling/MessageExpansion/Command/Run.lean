import MessageExpansion.Arguments.Basic
import MessageExpansion.Command.Extract
import MessageExpansion.Command.Init
import MessageExpansion.Command.Inline
import MessageExpansion.Command.Lint
import MessageExpansion.Report.Result

/-!
# Running commands

From an invocation to what is seen of it: the files it wrote, what it printed, and how it ended.
The standard output is for scripts and catalogs; warnings and reports go to the error output.
-/

namespace MessageExpansion

/-- What is seen of an invocation. -/
structure Completion where
  /-- The files after it. -/
  workspace : Workspace
  /-- What it printed on the standard output. -/
  output : String
  /-- What it printed on the error output. -/
  diagnostics : String
  /-- How it ended. -/
  status : ExitStatus
  /-- Why it gave up, if it did. -/
  error : Option CommandError

/-- The line for a warning. -/
def warningLine (warning : String) : String := " WARN " ++ warning ++ "\n"

/-- What is printed on the standard output when a command is done. -/
def Report.announcement (coloured : Bool) (result : CommandResult) : String :=
  match result.summary with
  | .init none => Report.successLine coloured ("Created " ++ Configuration.fileName)
  | _ => ""

/-- What is printed on the error output when a command is done. -/
def Report.diagnosis (coloured verbose : Bool) (result : CommandResult) : String :=
  match result.summary with
  | .init (some error) => Report.errorLine coloured error
  | .init none => ""
  | _ => Report.ofResult coloured verbose result

/-- What is seen of a command that was run. -/
def Execution.completion (execution : Execution) (coloured verbose : Bool) : Completion :=
  let warnings := String.join (execution.warnings.map warningLine)
  match execution.result with
  | .error error =>
      ⟨execution.workspace, execution.output, warnings, .error, some error⟩
  | .ok result =>
      ⟨execution.workspace, execution.output ++ Report.announcement coloured result,
        warnings ++ Report.diagnosis coloured verbose result, result.status, none⟩

namespace Invocation

/-- The overview of the commands. -/
def overviewText : String :=
  "Usage: <COMMAND> [OPTIONS] [INPUTS]...\n\n" ++
  "Commands:\n" ++
  "  inline   Replace format() calls with constants or generated functions\n" ++
  "  extract  Collect format() patterns into a translation catalog\n" ++
  "  lint     Report format() calls that cannot be expanded\n" ++
  "  init     Initialize a new .msginlinerc.json configuration file\n" ++
  "  help     Print this message\n"

/-- The report is longer. -/
def isVerbose : Invocation → Bool
  | overview => false
  | init => false
  | lint arguments => arguments.verbose
  | extract arguments => arguments.common.verbose
  | inline arguments => arguments.common.verbose

/-- Run what a command line asks for. -/
def run (invocation : Invocation) (workspace : Workspace) (standardInput : Option String)
    (coloured : Bool) : Completion :=
  let complete (execution : Execution) := execution.completion coloured invocation.isVerbose
  match invocation with
  | overview => ⟨workspace, overviewText, "", .success, none⟩
  | init => complete (InitCommand.run workspace)
  | lint arguments => complete (LintCommand.run arguments workspace standardInput)
  | extract arguments => complete (ExtractCommand.run arguments workspace standardInput)
  | inline arguments => complete (InlineCommand.run arguments workspace standardInput)

end Invocation
end MessageExpansion
