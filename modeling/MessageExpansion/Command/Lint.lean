import MessageExpansion.Command.Preparation
import MessageExpansion.Command.Source
import MessageExpansion.Lint.Check

/-!
# The command that lints

The issues of all scripts make up one report.
-/

namespace MessageExpansion
namespace LintCommand

/-- The issues of one script. -/
def lintSource (session : Session) (source : ScriptSource) : List Issue :=
  (Linting.mk session source.name source.text).run

/-- Run the command. -/
def run (arguments : CommonArguments) (workspace : Workspace) (standardInput : Option String) :
    Execution :=
  match arguments.prepare workspace none with
  | .error error => .refused workspace error
  | .ok preparation =>
      match ScriptSource.readAll workspace standardInput preparation.inputs with
      | .error error => .refused workspace error
      | .ok sources =>
          let results := sources.map (·.map (lintSource preparation.session))
          ⟨workspace, "", [],
            .ok (.finish .lint (succeeded results).flatten (failed results) results.length)⟩

end LintCommand
end MessageExpansion
